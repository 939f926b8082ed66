set_option autoImplicit false

namespace Recast

inductive Data where
  | null
  | flag (value : Bool)
  | number (literal : String)
  | date (literal : String)
  | text (value : String)
  | list (items : List Data)
  | record (fields : List (String × Data))
  deriving Inhabited

namespace Data

def text? : Data → Option String
  | .text value => some value
  | _ => none

def flag? : Data → Option Bool
  | .flag value => some value
  | _ => none

def list? : Data → Option (List Data)
  | .list items => some items
  | _ => none

def texts? (d : Data) : Option (List String) :=
  d.list?.bind (·.mapM text?)

/-- The named parts of a value. A record holds them under their names, in any order and beside
others; a list holds them in the order of `names`, the last ones may be missing. Lists with more
parts than that are refused if `exact`. A date counts as a record that holds none of them. -/
def parts? (exact : Bool) (names : List String) : Data → Option (List (Option Data))
  | .record fields => some (names.map (fields.lookup ·))
  | .list items =>
    if exact && names.length < items.length then none
    else some ((List.range names.length).map (items[·]?))
  | .date _ => some (names.map fun _ => none)
  | _ => none

def required {α : Type} (read : Data → Option α) (part : Option Data) : Option α :=
  part.bind read

def optional {α : Type} (default : α) (read : Data → Option α) : Option Data → Option α
  | none => some default
  | some d => read d

end Data

end Recast
