import Recast.Data

set_option autoImplicit false

namespace Recast.Toml

inductive Origin where
  | defined
  -- On the way to a table named in a header.
  | passed
  -- By a key with dots.
  | dotted
  deriving DecidableEq, Repr

inductive Node where
  | value (d : Data)
  | table (origin : Origin) (fields : List (String × Node))
  | tables (items : List (List (String × Node)))

abbrev Fields := List (String × Node)

mutual

def Node.toData : Node → Data
  | .value d => d
  | .table _ fields => .record (fieldsToData fields)
  | .tables items => .list (itemsToData items)

def fieldsToData : Fields → List (String × Data)
  | [] => []
  | (key, node) :: rest => (key, node.toData) :: fieldsToData rest

def itemsToData : List Fields → List Data
  | [] => []
  | fields :: rest => .record (fieldsToData fields) :: itemsToData rest

end

namespace Fields

def set (fields : Fields) (key : String) (node : Node) : Fields :=
  fields.filter (·.1 ≠ key) ++ [(key, node)]

/-- Change the table at the end of a path. Tables that are missing on the way are made; `dotted`
says that the path is a key with dots, which may not enter tables that are defined elsewhere. -/
def change (dotted : Bool) (f : Origin → Fields → Option Fields) :
    (path : List String) → (origin : Origin) → Fields → Option Fields
  | [], origin, fields => f origin fields
  | key :: path, _, fields =>
    match fields.lookup key with
    | none =>
      let origin := if dotted then Origin.dotted else .passed
      (change dotted f path origin []).map fun inner => fields.set key (.table origin inner)
    | some (.value _) => none
    | some (.table origin inner) =>
      if dotted && origin == .defined then none
      else (change dotted f path origin inner).map fun inner => fields.set key (.table origin inner)
    | some (.tables items) =>
      match items.reverse with
      | [] => none
      | last :: before =>
        (change dotted f path .defined last).map fun last =>
          fields.set key (.tables (last :: before).reverse)

def add? (fields : Fields) (path : List String) (key : String) (value : Data) : Option Fields :=
  let insert (origin : Origin) (inner : Fields) : Option Fields :=
    if (!path.isEmpty && origin != .dotted) || (inner.lookup key).isSome then none
    else some (inner ++ [(key, .value value)])
  change true insert path .defined fields

end Fields

structure Draft where
  root : Fields := []
  path : Option (List String × String) := none
  repeated : Bool := false
  current : Fields := []

namespace Draft

def complete? (d : Draft) : Option Fields :=
  match d.path with
  | none => some d.current
  | some (path, key) =>
    let place (_ : Origin) (fields : Fields) : Option Fields :=
      if d.repeated then
        match fields.lookup key with
        | none => some (fields.set key (.tables [d.current]))
        | some (.tables items) => some (fields.set key (.tables (items ++ [d.current])))
        | some _ => none
      else
        match fields.lookup key with
        | none => some (fields.set key (.table .defined d.current))
        | some (.table .passed _) => some (fields.set key (.table .defined d.current))
        | some _ => none
    Fields.change false place path .defined d.root

def existing? (key : String) : (path : List String) → Fields → Option Fields
  | [], fields =>
    match fields.lookup key with
    | none => some []
    | some (.table .passed inner) => some inner
    | some _ => none
  | name :: path, fields =>
    match fields.lookup name with
    | none => some []
    | some (.value _) => none
    | some (.table _ inner) => existing? key path inner
    | some (.tables items) => items.getLast?.bind (existing? key path)

def openTable? (d : Draft) (path : List String) (key : String) : Option Draft :=
  d.complete?.bind fun root =>
    (existing? key path root).map fun current =>
      { root, path := some (path, key), repeated := false, current }

def openItem? (d : Draft) (path : List String) (key : String) : Option Draft :=
  d.complete?.map fun root => { root, path := some (path, key), repeated := true, current := [] }

end Draft

end Recast.Toml
