set_option autoImplicit false

namespace Recast

structure Path where
  text : String
  deriving DecidableEq, Repr

namespace Path

def parts (p : Path) : List (List Char) :=
  p.text.toList.splitOn '/'

def isAbsolute (p : Path) : Bool :=
  p.text.toList.head? == some '/'

def isVoid (part : List Char) : Bool :=
  part == [] || part == ['.']

def fileName? (p : Path) : Option String :=
  match p.parts.reverse.dropWhile isVoid with
  | [] => none
  | ['.', '.'] :: _ => none
  | name :: _ => some (String.ofList name)

/-- A file name up to its last dot, and what follows that dot. A dot in first place does not
count. -/
def splitName (name : List Char) : List Char × Option (List Char) :=
  let extension := (name.reverse.takeWhile (· != '.')).reverse
  let stem := name.take (name.length - extension.length - 1)
  if stem.isEmpty then (name, none) else (stem, some extension)

def fileStem? (p : Path) : Option String :=
  p.fileName?.map fun name => String.ofList (splitName name.toList).1

def withExtension (p : Path) (extension : String) : Path :=
  match p.parts.reverse.dropWhile isVoid with
  | [] => p
  | ['.', '.'] :: _ => p
  | name :: front =>
    let stem := (splitName name).1
    let last := if extension.isEmpty then stem else stem ++ '.' :: extension.toList
    ⟨String.ofList (['/'].intercalate (last :: front).reverse)⟩

def join (p q : Path) : Path :=
  if q.isAbsolute || p.text.isEmpty then q
  else if p.text.toList.getLast? == some '/' then ⟨p.text ++ q.text⟩
  else ⟨p.text ++ "/" ++ q.text⟩

def parent? (p : Path) : Option Path :=
  match p.parts.reverse.dropWhile isVoid with
  | [] => if p.isAbsolute || p.text.isEmpty then none else some ⟨""⟩
  | _ :: front =>
    let rest := front.dropWhile isVoid
    if rest.isEmpty then
      some ⟨if p.isAbsolute then "/" else if front.getLast? == some ['.'] then "." else ""⟩
    else some ⟨String.ofList (['/'].intercalate rest.reverse)⟩

end Path

end Recast
