import Recast.Dialect.Listing
import Recast.Invocation
import Recast.Settings

set_option autoImplicit false

namespace Recast

inductive Failure where
  | badSettings (cause : Dialect.Spec.Error)
  | unknownDialect (name : String)
  | noDialectFor (input : Path)
  | noWriter
  | noClassName (input : Path)
  | unreadable (path : Path) (cause : FileError)
  | unfit (input : Path) (cause : ScanError)
  | unwritable (path : Path) (cause : FileError)
  | noDirectory (path : Path) (cause : FileError)

namespace Failure

def sizeMessage : String :=
  ": Compiled regex exceeds size limit of 10485760 bytes."

def message : Failure → String
  | .badSettings e =>
    Settings.faultMessage e ++
      match e with
      | .badPattern _ _ .tooLarge => sizeMessage ++ sizeMessage
      | _ => ""
  | .unknownDialect name => "unknown dialect `" ++ name ++ "`"
  | .noDialectFor input => "no dialect registered for " ++ input.text ++ "; pass --dialect"
  | .noWriter => "no C# writer registered"
  | .noClassName input => "cannot derive a class name from " ++ input.text
  | .unreadable path e => "failed to read " ++ path.text ++ ": " ++ e.message
  | .unfit input e => "failed to translate " ++ input.text ++ ": " ++ e.message
  | .unwritable path e => "failed to write " ++ path.text ++ ": " ++ e.message
  | .noDirectory path e => "failed to create " ++ path.text ++ ": " ++ e.message

end Failure

inductive Action where
  | print (text : String)
  | save (path : Path) (doc : Document) (report : Event)
  | install (directory : Path) (files : List SupportFile)

namespace Session

def orFail {α : Type} (failure : Failure) (found : Option α) : Except Failure α :=
  found.elim (.error failure) .ok

def chooseDialect (c : Catalog) (o : TranslateOptions) : Traced Failure Dialect where
  events := c.fillEvents
  result :=
    match o.dialect with
    | some name => orFail (.unknownDialect name) (c.byName name).2
    | none => orFail (.noDialectFor o.input) (c.byPath o.input).2

def chooseWriter (s : Shelf) : Except Failure Writer :=
  orFail .noWriter (s.byLanguage "csharp").2

def chooseContainer (s : Settings) (o : TranslateOptions) : Except Failure Container := do
  let className ← orFail (.noClassName o.input) (o.className.or o.input.fileStem?)
  return { space := o.space.getD s.spaceOrDefault, className }

def readLines (read : Reading) (path : Path) : Except Failure (List String) :=
  (((read path).bind decodeText).map Text.lines).mapError (.unreadable path)

def recast (d : Dialect) (w : Writer) (c : Container) (input : Path) (lines : List String) :
    Traced Failure Document where
  events := d.recastEvents lines
  result := (d.document w c lines).mapError (.unfit input)

def saved (o : TranslateOptions) (output : Path) (d : Dialect) (doc : Document) : Event :=
  ⟨.info, "numport::commands::translate", "translated",
    [("input", o.input.text), ("output", output.text), ("dialect", d.name),
      ("lines", toString doc.lines.length)]⟩

def translate (read : Reading) (s : Settings) (c : Catalog) (o : TranslateOptions) :
    Traced Failure Action := do
  let dialect ← chooseDialect c o
  let writer ← .of (chooseWriter {})
  let container ← .of (chooseContainer s o)
  let lines ← .of (readLines read o.input)
  let doc ← recast dialect writer container o.input lines
  if o.stdout then return .print doc.render
  let output := o.output.getD (o.input.withExtension writer.extension)
  return .save output doc (saved o output dialect doc)

def dialects (c : Catalog) (json : Bool) : Traced Failure Action where
  events := c.fillEvents
  result :=
    let summaries := c.summaries.2
    .ok (.print (if json then Dialect.Listing.json summaries else Dialect.Listing.plain summaries))

def support (s : Settings) (output : Path) (space : Option String) : Except Failure Action := do
  let writer ← chooseWriter {}
  return .install output (writer.support (space.getD s.spaceOrDefault))

def plan (read : Reading) (env : Environment) (i : Invocation) : Traced Failure Action := do
  let (settings, loaded) := Settings.load read env i.root
  let (catalog, registered) := settings.register {}
  let _ ← (⟨loaded ++ registered.events, registered.result.mapError .badSettings⟩ :
    Traced Failure Unit)
  match i.command with
  | .translate options => translate read settings catalog options
  | .dialects json => dialects catalog json
  | .support output space => .of (support settings output space)

def sources (env : Environment) (i : Invocation) : List Path :=
  (Settings.userPath? env).toList ++ [Settings.projectPath i.root] ++
    match i.command with
    | .translate options => [options.input]
    | _ => []

structure Done where
  tree : FileTree
  stdout : String
  outcome : Traced Failure Unit

def writeLines (t : FileTree) (path : Path) (lines : List String) : Except Failure FileTree :=
  (t.write path (Text.unlines lines).toUTF8).mapError (.unwritable path)

def writeDocument (t : FileTree) (path : Path) (doc : Document) : Except Failure FileTree :=
  writeLines t path doc.lines

def installFiles (t : FileTree) (directory : Path) : List SupportFile → Done
  | [] => ⟨t, "", pure ()⟩
  | file :: rest =>
    let path := directory.join ⟨file.name⟩
    match writeDocument t path file.document with
    | .error e => ⟨t, "", .of (.error e)⟩
    | .ok t =>
      let done := installFiles t directory rest
      { done with stdout := path.text ++ "\n" ++ done.stdout }

def perform (t : FileTree) : Action → Done
  | .print text => ⟨t, text, pure ()⟩
  | .save path doc report =>
    match writeDocument t path doc with
    | .error e => ⟨t, "", .of (.error e)⟩
    | .ok t => ⟨t, "", ⟨[report], .ok ()⟩⟩
  | .install directory files =>
    match t.makeDirectories directory with
    | (t, .error e) => ⟨t, "", .of (.error (.noDirectory directory e))⟩
    | (t, .ok ()) => installFiles t directory files

def command (t : FileTree) (env : Environment) (i : Invocation) : Done :=
  let planned := plan t.read env i
  match planned.result with
  | .error e => ⟨t, "", ⟨planned.events, .error e⟩⟩
  | .ok action =>
    let done := perform t action
    { done with outcome := ⟨planned.events ++ done.outcome.events, done.outcome.result⟩ }

-- The variable wins if it makes sense.
def logFilter (env : Environment) (i : Invocation) : LogFilter :=
  ((env.lookup "RUST_LOG").bind LogFilter.ofText?).getD (.upTo (.ofCount i.verbosity))

def messages (f : LogFilter) (outcome : Traced Failure Unit) : List String :=
  (outcome.events.filter f.shows).map Event.render ++
    match outcome.result with
    | .ok () => []
    | .error e => ["error: " ++ e.message]

def exitCode (outcome : Traced Failure Unit) : Nat :=
  match outcome.result with
  | .ok () => 0
  | .error _ => 1

structure Report where
  code : Nat
  stdout : String := ""
  stderr : List String := []
  tree : FileTree

def version : String :=
  "numport 0.2.0\n"

def usage : String :=
  "Usage: numport [OPTIONS] <COMMAND>\n"

def stopText : Invocation.Stop → String × String
  | .usage => ("", usage)
  | .help => (usage, "")
  | .version => (version, "")

def stopCode : Invocation.Stop → Nat
  | .usage => 2
  | .help | .version => 0

def run (t : FileTree) (env : Environment) (arguments : List String) : Report :=
  match Invocation.ofArguments arguments with
  | .error stop =>
    let (stdout, stderr) := stopText stop
    { code := stopCode stop, stdout, stderr := Text.lines stderr, tree := t }
  | .ok i =>
    let done := command t env i
    { code := exitCode done.outcome
      stdout := done.stdout
      stderr := messages (logFilter env i) done.outcome
      tree := done.tree }

end Session

end Recast
