import Recast.Proofs.FileNames
import Recast.Proofs.Outcomes

set_option autoImplicit false

namespace Recast

open Text (openBrace closeBrace)

namespace FileTree

variable {t t' : FileTree} {p : Path} {k : Location} {front : List (List Char)}
  {name extension : String} {content new : ByteArray}

def steps (parts : List (List Char)) : List String :=
  (parts.filter (· ≠ [])).map String.ofList

theorem locate_put {l m : Location} {e : Entry} (free : t.find? l ≠ some .directory)
    (located : t.locate p = .ok m) : (t.put l e).locate p = .ok m := by
  obtain ⟨s, names, started, walked, slash⟩ := locate_eq_ok_iff.1 located
  refine locate_eq_ok_iff.2 ⟨s, names, started, walk_put free walked, fun ends => ?_⟩
  exact hasDirectory_iff.2 (find?_put_of_directory free (hasDirectory_iff.1 (slash ends)))

end FileTree

namespace Session

end Session

end Recast
