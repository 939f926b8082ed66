import Recast.FileTree
import Recast.Proofs.Basics

set_option autoImplicit false

namespace Recast

namespace Path

variable {p : Path} {front : List (List Char)} {name extension : String}

-- The path ends in a name, with `front` between the slashes before it.
structure Names (p : Path) (front : List (List Char)) (name : String) : Prop where
  parts : p.parts = front ++ [name.toList]
  filled : name.toList ≠ []
  dot : name.toList ≠ ['.']
  up : name.toList ≠ ['.', '.']

-- What can follow the last dot of a file name.
structure IsExtension (extension : String) : Prop where
  filled : extension ≠ ""
  slash : '/' ∉ extension.toList
  dot : '.' ∉ extension.toList

def renamed (name extension : String) : String :=
  String.ofList ((splitName name.toList).1 ++ '.' :: extension.toList)

theorem parts_ofParts {parts : List (List Char)} (inner : ∀ part ∈ parts, '/' ∉ part)
    (given : parts ≠ []) : (Path.mk (String.ofList (['/'].intercalate parts))).parts = parts := by
  unfold Path.parts
  rw [String.toList_ofList]
  exact List.splitOn_intercalate '/' inner given

theorem Names.reverse (names : Names p front name) :
    p.parts.reverse.dropWhile isVoid = name.toList :: front.reverse := by
  have kept : isVoid name.toList = false := by simp [isVoid, names.filled, names.dot]
  simp [names.parts, kept]

theorem stem_ne_nil {text : List Char} (filled : text ≠ []) : (splitName text).1 ≠ [] := by
  unfold splitName
  dsimp only
  split_ifs with empty
  · exact filled
  · simpa using empty

theorem Names.withExtension_eq (names : Names p front name) (fit : IsExtension extension) :
    p.withExtension extension =
      ⟨String.ofList (['/'].intercalate (front ++ [(renamed name extension).toList]))⟩ := by
  unfold withExtension
  rw [names.reverse]
  split
  next empty => cases empty
  next upwards => exact absurd (List.cons.inj upwards).1 names.up
  next same =>
    cases same
    simp [renamed, fit.filled]

theorem Names.slash (names : Names p front name) :
    (∀ part ∈ front, '/' ∉ part) ∧ '/' ∉ name.toList := by
  have inner : ∀ part ∈ p.parts, '/' ∉ part := fun part => not_mem_of_mem_splitOn
  rw [names.parts] at inner
  simpa using List.forall_mem_append.1 inner

theorem mem_of_mem_stem {c : Char} {text : List Char} (member : c ∈ (splitName text).1) :
    c ∈ text := by
  unfold splitName at member
  dsimp only at member
  split_ifs at member
  · exact member
  · exact List.mem_of_mem_take member

theorem Names.withExtension (names : Names p front name) (fit : IsExtension extension) :
    Names (p.withExtension extension) front (renamed name extension) := by
  have long : 3 ≤ (renamed name extension).toList.length := by
    have first := List.length_pos_iff.2 (stem_ne_nil names.filled)
    have last : 0 < extension.toList.length := List.length_pos_iff.2 (by simpa using fit.filled)
    rw [renamed, String.toList_ofList, List.length_append, List.length_cons]
    omega
  have differs (text : List Char) (short : text.length < 3) :
      (renamed name extension).toList ≠ text := by
    rintro rfl
    omega
  refine ⟨?_, differs _ (by decide), differs _ (by decide), differs _ (by decide)⟩
  rw [names.withExtension_eq fit]
  refine parts_ofParts (List.forall_mem_append.2 ⟨names.slash.1, ?_⟩) (by simp)
  have kept : '/' ∉ (splitName name.toList).1 :=
    fun member => names.slash.2 (mem_of_mem_stem member)
  simp [renamed, kept, fit.slash]

theorem Names.unique {front' : List (List Char)} {name' : String} (names : Names p front name)
    (names' : Names p front' name') : front = front' ∧ name = name' := by
  obtain ⟨same, last⟩ := List.append_inj' (names.parts.symm.trans names'.parts) rfl
  exact ⟨same, String.toList_injective (by simpa using last)⟩

end Path

end Recast
