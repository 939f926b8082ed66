import Recast.Catalog

set_option autoImplicit false

namespace Recast

inductive Level where
  | error
  | warn
  | info
  | debug
  | trace
  deriving DecidableEq, Repr

namespace Level

def title : Level → String
  | .error => "ERROR"
  | .warn => "WARN"
  | .info => "INFO"
  | .debug => "DEBUG"
  | .trace => "TRACE"

def rank : Level → Nat
  | .error => 1
  | .warn => 2
  | .info => 3
  | .debug => 4
  | .trace => 5

def all : List Level :=
  [.error, .warn, .info, .debug, .trace]

def ofCount : Nat → Level
  | 0 => .warn
  | 1 => .info
  | 2 => .debug
  | _ => .trace

end Level

structure Event where
  level : Level
  target : String
  message : String
  fields : List (String × String)
  deriving DecidableEq, Repr

def Event.render (e : Event) : String :=
  e.level.title ++ " " ++ e.target ++ ": " ++ e.message ++
    String.join (e.fields.map fun (key, value) => " " ++ key ++ "=" ++ value)

/-- A result, and what was reported on the way to it. -/
structure Traced (ε α : Type) where
  events : List Event
  result : Except ε α

namespace Traced

def of {ε α : Type} (result : Except ε α) : Traced ε α :=
  ⟨[], result⟩

def bind {ε α β : Type} (x : Traced ε α) (f : α → Traced ε β) : Traced ε β :=
  match x.result with
  | .error e => ⟨x.events, .error e⟩
  | .ok a =>
    let y := f a
    ⟨x.events ++ y.events, y.result⟩

instance {ε : Type} : Monad (Traced ε) where
  pure a := .of (.ok a)
  bind := bind

@[simp]
theorem result_pure {ε α : Type} (a : α) : (pure a : Traced ε α).result = .ok a :=
  rfl

@[simp]
theorem result_bind {ε α β : Type} (x : Traced ε α) (f : α → Traced ε β) :
    (x >>= f).result = x.result >>= fun a => (f a).result := by
  obtain ⟨events, result⟩ := x
  cases result <;> rfl

end Traced

structure Directive where
  target : Option String
  rank : Nat

namespace Directive

def lowercase (text : List Char) : List Char :=
  text.map Char.toLower

def rank? (text : List Char) : Option Nat :=
  let word := String.ofList (lowercase text)
  if text.isEmpty then some Level.error.rank
  else if word == "off" then some 0
  else if !text.isEmpty && text.all Char.isDigit then
    let n := text.foldl (fun n c => 10 * n + (c.toNat - '0'.toNat)) 0
    if n ≤ Level.trace.rank then some n else none
  else (Level.all.find? fun l => lowercase l.title.toList == word.toList).map Level.rank

def isStart (c : Char) : Bool :=
  c == '-' || c == ':' || c == '_' || Text.isAlphabetic c || (Text.category c).isNumber

def ofText? (text : List Char) : Option Directive :=
  let text := Text.trim text
  if !text.head?.any isStart then none
  else
    let target := text.takeWhile (· != '=')
    match text.drop target.length with
    | _ :: level => (rank? level).map fun rank => ⟨some (String.ofList target), rank⟩
    | [] =>
      match rank? text with
      | some rank => some ⟨none, rank⟩
      | none => some ⟨some (String.ofList text), Level.trace.rank⟩

def covers (d : Directive) (e : Event) : Bool :=
  d.target.all (Text.startsWith e.target ·)

def weight (d : Directive) : Nat :=
  (d.target.map fun t => t.utf8ByteSize + 1).getD 0

end Directive

abbrev LogFilter := List Directive

namespace LogFilter

def ofText? (text : String) : Option LogFilter :=
  if text.isEmpty then some [] else (text.toList.splitOn ',').mapM Directive.ofText?

def upTo (level : Level) : LogFilter :=
  [⟨none, level.rank⟩]

-- The narrowest directive decides, the last one of those.
def shows (f : LogFilter) (e : Event) : Bool :=
  let best := f.foldl (fun (best : Option Directive) d =>
    if d.covers e && best.all (·.weight ≤ d.weight) then some d else best) none
  best.any (e.level.rank ≤ ·.rank)

end LogFilter

namespace Scanner

def moved (before after : Scanner) : List Event :=
  let event (message : String) (o : Opener) : Event :=
    ⟨.trace, "numport_translate::classify", message,
      [("line", toString after.line), ("state", o.region.title)]⟩
  match before.opener, after.opener with
  | none, some o => [event "enter region" o]
  | some o, none => [event "leave region" o]
  | _, _ => []

def moves (d : Dialect) : Scanner → List String → List Event
  | _, [] => []
  | s, line :: rest =>
    match s.step d line with
    | (_, .error _) => []
    | (next, .ok _) => s.moved next ++ moves d next rest

end Scanner

def Emission.event? (line : String) (e : Emission) : Option Event :=
  let event (message : String) : Option Event :=
    some ⟨.trace, "numport_translate::rewrite", message, [("line", Text.quoted line)]⟩
  match e with
  | .forward => event "dropping forward declaration"
  | .blockStart => event "dropping conditional block in function body"
  | _ => none

namespace Dialect

def censusText (tags : List Tag) : String :=
  let entry (t : Tag) (n : Nat) : String := Text.quoted t.name ++ ": " ++ toString n
  Text.openBrace ++ ", ".intercalate ((Tag.census tags).map fun (t, n) => entry t n) ++
    Text.closeBrace

def recastEvents (d : Dialect) (lines : List String) : List Event :=
  let debug (message : String) (fields : List (String × String)) : Event :=
    ⟨.debug, "numport_translate::pipeline", message, ("dialect", d.name) :: fields⟩
  Scanner.moves d {} lines ++
    match d.scan lines with
    | .error _ => []
    | .ok tags =>
      let emissions := d.emissions lines tags
      debug "classified input" [("lines", toString lines.length), ("regions", censusText tags)] ::
        (lines.zip emissions).filterMap (fun (line, e) => e.event? line) ++
        [debug "rewrote body" [("emitted", toString (emissions.filterMap (·.text?)).length)]]

end Dialect

namespace Catalog

def registered (d : Dialect) : Event :=
  ⟨.debug, "numport_translate::registry", "registered dialect", [("name", d.name)]⟩

def fillEvents (c : Catalog) : List Event :=
  if c.filled then [] else Dialect.builtins.map registered

end Catalog

end Recast
