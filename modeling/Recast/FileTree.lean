import Recast.Path

set_option autoImplicit false

namespace Recast

abbrev Location := List String

inductive Entry where
  | file (content : ByteArray)
  | directory

def Entry.isDirectory : Entry → Bool
  | .file _ => false
  | .directory => true

inductive FileError where
  | notFound
  | alreadyExists
  | notDirectory
  | isDirectory
  | nameTooLong
  | nulInName
  | notText
  | other (text : String)
  deriving DecidableEq, Repr

def FileError.message : FileError → String
  | .notFound => "No such file or directory (os error 2)"
  | .alreadyExists => "File exists (os error 17)"
  | .notDirectory => "Not a directory (os error 20)"
  | .isDirectory => "Is a directory (os error 21)"
  | .nameTooLong => "File name too long (os error 36)"
  | .nulInName => "file name contained an unexpected NUL byte"
  | .notText => "stream did not contain valid UTF-8"
  | .other text => text

def decodeText (content : ByteArray) : Except FileError String :=
  match String.fromUTF8? content with
  | some text => .ok text
  | none => .error .notText

structure FileTree where
  entries : List (Location × Entry)
  here : Location

namespace FileTree

def find? (t : FileTree) (l : Location) : Option Entry :=
  if l = [] then some .directory else t.entries.lookup l

def hasDirectory (t : FileTree) (l : Location) : Bool :=
  (t.find? l).any Entry.isDirectory

def put (t : FileTree) (l : Location) (e : Entry) : FileTree :=
  { t with entries := (l, e) :: t.entries.filter (·.1 ≠ l) }

@[simp]
theorem find?_put_self (t : FileTree) {l : Location} (e : Entry) (named : l ≠ []) :
    (t.put l e).find? l = some e := by
  simp [find?, put, named]

@[simp]
theorem find?_put_other (t : FileTree) {l m : Location} (e : Entry) (other : m ≠ l) :
    (t.put l e).find? m = t.find? m := by
  have skipped : (t.put l e).entries.lookup m = t.entries.lookup m := by
    simp only [put, List.lookup_cons, beq_false_of_ne other]
    induction t.entries with
    | nil => rfl
    | cons entry rest ih =>
      obtain ⟨k, v⟩ := entry
      by_cases same : k = l
      · subst same
        simpa [List.lookup_cons, beq_false_of_ne other] using ih
      · simp_all [List.lookup_cons]
  simp only [find?, skipped]

def step (t : FileTree) (l : Location) (name : String) : Except FileError Location :=
  match t.find? l with
  | some .directory =>
    if name = "." then .ok l
    else if name = ".." then .ok l.dropLast
    else if 255 < name.utf8ByteSize then .error .nameTooLong
    else if (t.find? (l ++ [name])).isSome then .ok (l ++ [name])
    else .error .notFound
  | some (.file _) => .error .notDirectory
  | none => .error .notFound

def walk (t : FileTree) (l : Location) (names : List String) : Except FileError Location :=
  names.foldlM t.step l

def start (t : FileTree) (p : Path) : Except FileError (Location × List String) :=
  if p.text.toList.contains '\x00' then .error .nulInName
  else if p.text.isEmpty then .error .notFound
  else if 4096 ≤ p.text.utf8ByteSize then .error .nameTooLong
  else .ok (if p.isAbsolute then [] else t.here, (p.parts.filter (· ≠ [])).map String.ofList)

def endsInSlash (p : Path) : Bool :=
  p.text.toList.getLast? == some '/'

def locate (t : FileTree) (p : Path) : Except FileError Location := do
  let (l, names) ← t.start p
  let l ← t.walk l names
  if endsInSlash p && !t.hasDirectory l then throw .notDirectory
  return l

def isDirectory (t : FileTree) (p : Path) : Bool :=
  match t.locate p with
  | .ok l => t.hasDirectory l
  | .error _ => false

def read (t : FileTree) (p : Path) : Except FileError ByteArray := do
  match t.find? (← t.locate p) with
  | some (.file content) => return content
  | some .directory => throw .isDirectory
  | none => throw .notFound

/-- The directory that holds the last name of a path, and that name; no name where the path itself
leads to a directory by a dot or a step upwards. -/
def locateParent (t : FileTree) (p : Path) : Except FileError (Location × Option String) := do
  let (l, names) ← t.start p
  match names.getLast? with
  | none => return (l, none)
  | some last =>
    let l ← t.walk l names.dropLast
    if last = "." || last = ".." then return (← t.step l last, none)
    match t.find? l with
    | some .directory =>
      if 255 < last.utf8ByteSize then throw .nameTooLong
      return (l, some last)
    | some (.file _) => throw .notDirectory
    | none => throw .notFound

def write (t : FileTree) (p : Path) (content : ByteArray) : Except FileError FileTree := do
  match ← t.locateParent p with
  | (_, none) => throw .isDirectory
  | (l, some name) =>
    if endsInSlash p || t.hasDirectory (l ++ [name]) then throw .isDirectory
    return t.put (l ++ [name]) (.file content)

def makeDirectory (t : FileTree) (p : Path) : Except FileError FileTree := do
  match ← t.locateParent p with
  | (_, none) => throw .alreadyExists
  | (l, some name) =>
    if (t.find? (l ++ [name])).isSome then throw .alreadyExists
    return t.put (l ++ [name]) .directory

def ensureDirectory (t : FileTree) (p : Path) : Except FileError FileTree :=
  match t.makeDirectory p with
  | .ok t => .ok t
  | .error e => if t.isDirectory p then .ok t else .error e

/-- Make a directory, and those above it where they are missing; `fuel` bounds how many. Directories
that were made before a failure stay, so the tree is returned in any case. -/
def makeUpTo (t : FileTree) : (fuel : Nat) → Path → FileTree × Except FileError Unit
  | 0, _ => (t, .error .notFound)
  | fuel + 1, p =>
    if p.text.isEmpty then (t, .ok ())
    else
      match t.makeDirectory p, p.parent? with
      | .ok t, _ => (t, .ok ())
      | .error .notFound, some parent =>
        match t.makeUpTo fuel parent with
        | (t, .error e) => (t, .error e)
        | (t, .ok ()) =>
          match t.ensureDirectory p with
          | .ok t => (t, .ok ())
          | .error e => (t, .error e)
      | .error e, _ => (t, if t.isDirectory p then .ok () else .error e)

def makeDirectories (t : FileTree) (p : Path) : FileTree × Except FileError Unit :=
  t.makeUpTo (p.text.length + 1) p

end FileTree

end Recast
