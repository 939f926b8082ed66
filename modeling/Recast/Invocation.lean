import Recast.Path

set_option autoImplicit false

namespace Recast

structure TranslateOptions where
  input : Path
  output : Option Path := none
  dialect : Option String := none
  space : Option String := none
  className : Option String := none
  stdout : Bool := false

inductive Command where
  | translate (options : TranslateOptions)
  | dialects (json : Bool)
  | support (output : Path) (space : Option String)

structure Invocation where
  verbosity : Nat
  root : Path
  command : Command

namespace Invocation

inductive Slot where
  | verbose
  | root
  | help
  | version
  | input
  | output
  | dialect
  | space
  | className
  | stdout
  | json
  deriving DecidableEq, Repr

namespace Slot

def long? : Slot → Option String
  | .verbose => some "verbose"
  | .root => some "root"
  | .help => some "help"
  | .version => some "version"
  | .input => none
  | .output => some "output"
  | .dialect => some "dialect"
  | .space => some "namespace"
  | .className => some "class"
  | .stdout => some "stdout"
  | .json => some "json"

def short? : Slot → Option Char
  | .verbose => some 'v'
  | .help => some 'h'
  | .version => some 'V'
  | .output => some 'o'
  | .dialect => some 'd'
  | _ => none

def takesValue : Slot → Bool
  | .root | .input | .output | .dialect | .space | .className => true
  | .verbose | .help | .version | .stdout | .json => false

def isPath : Slot → Bool
  | .root | .input | .output => true
  | _ => false

end Slot

inductive Stop where
  | usage
  | help
  | version
  deriving DecidableEq, Repr

structure Tally where
  verbosity : Nat := 0
  flags : List Slot := []
  values : List (Slot × String) := []
  pending : Option Slot := none
  literal : Bool := false

namespace Tally

def value? (t : Tally) (slot : Slot) : Option String :=
  t.values.lookup slot

def has (t : Tally) (slot : Slot) : Bool :=
  t.flags.contains slot

-- Everything but the wish for more output is given once.
def addFlag (t : Tally) (slot : Slot) : Except Stop Tally :=
  match slot with
  | .verbose => .ok { t with verbosity := t.verbosity + 1 }
  | .help => .error .help
  | .version => .error .version
  | slot => if t.has slot then .error .usage else .ok { t with flags := slot :: t.flags }

def addValue (t : Tally) (slot : Slot) (value : String) : Except Stop Tally :=
  if (t.value? slot).isSome || (slot.isPath && value.isEmpty) then .error .usage
  else .ok { t with values := (slot, value) :: t.values, pending := none }

def addLong (t : Tally) (slots : List Slot) (text : List Char) : Except Stop Tally :=
  let name := text.takeWhile (· != '=')
  match slots.find? (·.long?.any (·.toList == name)), text.drop name.length with
  | none, _ => .error .usage
  | some slot, [] => if slot.takesValue then .ok { t with pending := some slot } else t.addFlag slot
  | some slot, _ :: value =>
    if slot.takesValue then t.addValue slot (String.ofList value) else .error .usage

-- Short options in one word; the first that takes a value takes all that follows.
def addShort (t : Tally) (slots : List Slot) : List Char → Except Stop Tally
  | [] => .ok t
  | c :: rest =>
    match slots.find? (·.short? == some c) with
    | none => .error .usage
    | some slot =>
      if slot.takesValue then
        match rest with
        | [] => .ok { t with pending := some slot }
        | '=' :: value => t.addValue slot (String.ofList value)
        | value => t.addValue slot (String.ofList value)
      else (t.addFlag slot).bind fun t => t.addShort slots rest

def addWord (t : Tally) (words : List Slot) (word : String) : Except Stop Tally :=
  match words.find? fun slot => (t.value? slot).isNone with
  | none => .error .usage
  | some slot => t.addValue slot word

def add (t : Tally) (slots words : List Slot) (argument : String) : Except Stop Tally :=
  if t.literal then t.addWord words argument
  else
    match argument.toList, t.pending with
    | ['-', '-'], none => .ok { t with literal := true }
    | '-' :: '-' :: text, none => t.addLong slots text
    | '-' :: c :: text, none => t.addShort slots (c :: text)
    | '-' :: _ :: _, some _ => .error .usage
    | _, some slot => t.addValue slot argument
    | _, none => t.addWord words argument

def finish (t : Tally) : Except Stop Tally :=
  if t.pending.isSome then .error .usage else .ok t

def ofArguments (slots words : List Slot) (arguments : List String) : Except Stop Tally :=
  (arguments.foldlM (fun (t : Tally) argument => t.add slots words argument) {}).bind finish

end Tally

inductive CommandName where
  | translate
  | dialects
  | support
  | help
  deriving DecidableEq, Repr

namespace CommandName

def ofText? : String → Option CommandName
  | "translate" => some .translate
  | "dialects" => some .dialects
  | "support" => some .support
  | "help" => some .help
  | _ => none

def slots : CommandName → List Slot
  | .translate => [.output, .dialect, .space, .className, .stdout, .verbose, .root, .help]
  | .dialects => [.json, .verbose, .root, .help]
  | .support => [.output, .space, .verbose, .root, .help]
  | .help => []

def words : CommandName → List Slot
  | .translate => [.input]
  | _ => []

end CommandName

def split (t : Tally) : List String → Except Stop (Tally × CommandName × List String)
  | [] => .error .usage
  | argument :: rest =>
    let next := (t.add [.verbose, .root, .help, .version] [] argument).bind fun t => split t rest
    if t.literal || t.pending.isSome then next
    else
      match CommandName.ofText? argument with
      | some name => .ok (t, name, rest)
      | none => next

def translateCommand (t : Tally) : Except Stop Command :=
  match t.value? .input with
  | none => .error .usage
  | some input =>
    let output := t.value? .output
    if t.has .stdout && output.isSome then .error .usage
    else .ok (.translate {
      input := ⟨input⟩
      output := output.map Path.mk
      dialect := t.value? .dialect
      space := t.value? .space
      className := t.value? .className
      stdout := t.has .stdout })

def helpStop : List String → Stop
  | [] => .help
  | [name] => if (CommandName.ofText? name).isSome then .help else .usage
  | _ => .usage

def CommandName.command (name : CommandName) (t : Tally) : Except Stop Command :=
  match name with
  | .translate => translateCommand t
  | .dialects => .ok (.dialects (t.has .json))
  | .support => .ok (.support ⟨(t.value? .output).getD "."⟩ (t.value? .space))
  | .help => .error .help

/-- The arguments of a run. What is given after the name of the command counts before what is given
in front of it. -/
def ofArguments (arguments : List String) : Except Stop Invocation := do
  let (front, name, rest) ← split {} arguments
  if name = .help then throw (helpStop rest)
  let back ← Tally.ofArguments name.slots name.words rest
  let command ← name.command back
  return {
    verbosity := if back.verbosity = 0 then front.verbosity else back.verbosity
    root := ⟨((back.value? .root).or (front.value? .root)).getD "."⟩
    command }

end Invocation

end Recast
