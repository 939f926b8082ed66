set_option autoImplicit false

namespace Recast

structure Substitution where
  sought : String
  replacement : String
  deriving DecidableEq, Repr

namespace Substitution

/-- The size of the sought text, in UTF-8 bytes. -/
def width (s : Substitution) : Nat :=
  s.sought.utf8ByteSize

def startsAt (s : Substitution) (rest : List Char) : Bool :=
  s.sought.toList.isPrefixOf rest

structure Table where
  entries : List Substitution
  sought_ne : ∀ s ∈ entries, s.sought ≠ "" := by decide

inductive Piece where
  | kept (c : Char)
  | replaced (s : Substitution)

def Piece.output : Piece → List Char
  | .kept c => [c]
  | .replaced s => s.replacement.toList

def Piece.isKept : Piece → Bool
  | .kept _ => true
  | .replaced _ => false

namespace Table

def ofList (entries : List Substitution) : Table where
  entries := entries.filter (·.sought ≠ "")
  sought_ne := by simp

-- The better of two entries that match at one place: a later one only if it is wider.
def better (best : Option Substitution) (s : Substitution) : Option Substitution :=
  if best.all (·.width < s.width) then some s else best

def longestAt? (table : Table) (rest : List Char) : Option Substitution :=
  (table.entries.filter (·.startsAt rest)).foldl better none

/-- The pieces of a text whose first `skip` characters belong to a piece before it. -/
def pieces (table : Table) : (skip : Nat) → List Char → List Piece
  | _, [] => []
  | skip + 1, _ :: rest => table.pieces skip rest
  | 0, c :: rest =>
    match table.longestAt? (c :: rest) with
    | some s => .replaced s :: table.pieces (s.sought.length - 1) rest
    | none => .kept c :: table.pieces 0 rest

def apply (table : Table) (line : String) : String :=
  String.ofList ((table.pieces 0 line.toList).flatMap Piece.output)

-- Nothing in the line matched. A replacement by equal text still counts as a match.
def leavesAlone (table : Table) (line : String) : Bool :=
  (table.pieces 0 line.toList).all Piece.isKept

end Table

end Substitution

end Recast
