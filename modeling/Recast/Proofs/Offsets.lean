import Mathlib.Logic.Relation
import Recast.Proofs.Cuts

set_option autoImplicit false

namespace Recast.Substitution

-- It changes to a later entry only if that fits and measures more.
def search (fits : Substitution → Bool) (measure : Substitution → Nat)
    (entries : List Substitution) : Option Substitution :=
  entries.foldl (fun best s =>
    if fits s && best.all (measure · < measure s) then some s else best) none

def bytes (text : String) : List UInt8 :=
  text.toByteArray.data.toList

def slice? (text : String) (first last : Nat) : Option String :=
  if valid : String.Pos.Raw.IsValid text ⟨first⟩ ∧ String.Pos.Raw.IsValid text ⟨last⟩ ∧
      first ≤ last then
    some (String.extract (text.pos ⟨first⟩ valid.1) (text.pos ⟨last⟩ valid.2.1))
  else none

/-- The line up to `copied` is dealt with in `out`, and nothing was found from there up to `pos`. -/
structure Cursor where
  pos : Nat
  copied : Nat
  out : Option String
  deriving DecidableEq

def Cursor.start : Cursor :=
  ⟨0, 0, none⟩

def Cursor.result? (cursor : Cursor) (line : String) : Option String :=
  match cursor.out with
  | some out => (slice? line cursor.copied line.utf8ByteSize).map (out ++ ·)
  | none => some line  -- Nothing was found, so nothing is copied.

namespace Table

def mostBytesAt? (table : Table) (rest : String) : Option Substitution :=
  search (fun s => (bytes s.sought).isPrefixOf (bytes rest)) width table.entries

def mostCharactersAt? (table : Table) (rest : List Char) : Option Substitution :=
  search (·.startsAt rest) (·.sought.length) table.entries

def step? (table : Table) (line : String) (cursor : Cursor) : Option Cursor := do
  let rest ← slice? line cursor.pos line.utf8ByteSize
  match table.mostBytesAt? rest with
  | some s =>
    let kept ← slice? line cursor.copied cursor.pos
    let pos := cursor.pos + s.width
    return ⟨pos, pos, some (cursor.out.getD "" ++ kept ++ s.replacement)⟩
  | none => return { cursor with pos := cursor.pos + rest.toList.head?.elim 1 Char.utf8Size }

def applyToCharacters (table : Table) : List Char → List Char
  | [] => []
  | c :: rest =>
    match table.mostCharactersAt? (c :: rest) with
    | some s => s.replacement.toList ++ table.applyToCharacters (rest.drop (s.sought.length - 1))
    | none => c :: table.applyToCharacters rest
termination_by text => text.length

end Table

section Search

variable {fits : Substitution → Bool} {measure measure' : Substitution → Nat}
  {entries : List Substitution} {s t : Substitution}

theorem search_concat : search fits measure (entries ++ [t]) =
    if fits t && (search fits measure entries).all (measure · < measure t) then some t
    else search fits measure entries := by
  rw [search, List.foldl_append]
  rfl

theorem fits_of_search (found : search fits measure entries = some s) : fits s := by
  induction entries using List.reverseRecOn with
  | nil => simp [search] at found
  | append_singleton entries t ih =>
    rw [search_concat] at found
    split at found
    · next better =>
      obtain rfl : t = s := Option.some.inj found
      exact (Bool.and_eq_true_iff.1 better).1
    · exact ih found

-- Two measures only have to agree on entries that fit, as no others are compared.
theorem search_congr
    (alike : ∀ s t, fits s → fits t → (measure s < measure t ↔ measure' s < measure' t)) :
    search fits measure entries = search fits measure' entries := by
  induction entries using List.reverseRecOn with
  | nil => rfl
  | append_singleton entries t ih =>
    rw [search_concat, search_concat, ← ih]
    by_cases here : fits t
    · cases found : search fits measure entries with
      | none => rfl
      | some s => simp [alike s t (fits_of_search found) here]
    · simp [here]

theorem search_width_eq (table : Table) (rest : List Char) :
    search (·.startsAt rest) width table.entries = table.longestAt? rest := by
  rw [search, Table.longestAt?, List.foldl_filter]
  congr 1
  funext best s
  by_cases here : s.startsAt rest <;> simp [here, Table.better]

end Search

section Prefixes

variable {text rest : String} {s t : Substitution}

theorem toList_prefix_iff : text.toList <+: rest.toList ↔ ∃ more : String, rest = text ++ more := by
  constructor
  · rintro ⟨more, joined⟩
    refine ⟨String.ofList more, ?_⟩
    rw [← String.toList_inj, String.toList_append, String.toList_ofList, joined]
  · rintro ⟨more, rfl⟩
    rw [String.toList_append]
    exact List.prefix_append _ _

-- The bytes of a text end between two characters of every text that begins with them.
theorem exists_append_of_bytes_prefix (start : bytes text <+: bytes rest) :
    ∃ more : String, rest = text ++ more := by
  obtain ⟨more, joined⟩ := start
  have encoded : rest.toByteArray = text.toByteArray ++ ⟨more.toArray⟩ := by
    apply ByteArray.ext
    rw [ByteArray.data_append, ← Array.toList_inj, Array.toList_append]
    exact joined.symm
  have first : rest.toByteArray.extract 0 text.utf8ByteSize = text.toByteArray := by
    rw [encoded]
    exact ByteArray.extract_append_eq_left rfl
  have bound : text.utf8ByteSize ≤ rest.utf8ByteSize := by
    have sizes : rest.utf8ByteSize = text.utf8ByteSize + _ :=
      (congrArg ByteArray.size encoded).trans ByteArray.size_append
    exact sizes ▸ Nat.le_add_right _ _
  have between : String.Pos.Raw.IsValid rest ⟨text.utf8ByteSize⟩ := by
    rw [String.Pos.Raw.isValid_iff_isValidUTF8_extract_zero]
    exact ⟨bound, first.symm ▸ text.isValidUTF8⟩
  obtain ⟨before, after, rfl, size⟩ := String.Pos.Raw.isValid_iff_exists_append.1 between
  have same : before = text := by
    rw [← String.toByteArray_inj, ← first, String.toByteArray_append]
    exact (ByteArray.extract_append_eq_left (congrArg String.Pos.Raw.byteIdx size)).symm
  exact ⟨after, by rw [same]⟩

theorem bytes_prefix_iff : bytes text <+: bytes rest ↔ text.toList <+: rest.toList := by
  rw [toList_prefix_iff]
  constructor
  · exact exists_append_of_bytes_prefix
  · rintro ⟨more, rfl⟩
    simp [bytes, String.toByteArray_append, ByteArray.data_append]

theorem width_le_iff_length_le {rest : List Char} (here : s.sought.toList <+: rest)
    (there : t.sought.toList <+: rest) : s.width ≤ t.width ↔ s.sought.length ≤ t.sought.length := by
  rw [← String.length_toList, ← String.length_toList]
  constructor
  · intro narrower
    exact (prefix_of_width_le there here narrower).length_le
  · intro shorter
    obtain ⟨more, longer⟩ :=
      toList_prefix_iff.1 (List.prefix_of_prefix_length_le here there shorter)
    rw [width, width, longer, String.utf8ByteSize_append]
    exact Nat.le_add_right _ _

theorem Table.mostBytesAt?_eq (table : Table) (rest : String) :
    table.mostBytesAt? rest = table.longestAt? rest.toList := by
  rw [← search_width_eq, mostBytesAt?]
  congr 1
  funext s
  rw [Bool.eq_iff_iff, startsAt_iff, List.isPrefixOf_iff_prefix, bytes_prefix_iff]

theorem Table.mostCharactersAt?_eq (table : Table) (rest : List Char) :
    table.mostCharactersAt? rest = table.longestAt? rest := by
  rw [← search_width_eq, mostCharactersAt?]
  apply search_congr
  intro s t here there
  rw [← Nat.not_le, ← Nat.not_le,
    width_le_iff_length_le (startsAt_iff.1 there) (startsAt_iff.1 here)]

theorem Table.le_of_longestAt? {table : Table} {rest : List Char}
    (found : table.longestAt? rest = some s) (member : t ∈ table.entries)
    (there : t.startsAt rest) : t.width ≤ s.width ∧ t.sought.length ≤ s.sought.length := by
  rw [startsAt_iff] at there
  have shorter := (prefix_longestAt? found member there).length_le
  rw [String.length_toList, String.length_toList] at shorter
  exact ⟨(width_le_iff_length_le there (prefix_of_longestAt? found)).2 shorter, shorter⟩

end Prefixes

theorem Table.applyToCharacters_eq (table : Table) (text : List Char) :
    table.applyToCharacters text = (table.pieces 0 text).flatMap Piece.output := by
  fun_induction table.applyToCharacters text with
  | case1 => simp [pieces]
  | case2 c rest s found ih =>
    rw [mostCharactersAt?_eq] at found
    rw [pieces, found]
    simp only [List.flatMap_cons, Piece.output, pieces_eq_drop table (_ - 1), ih]
  | case3 c rest found ih =>
    rw [mostCharactersAt?_eq] at found
    rw [pieces, found]
    simp only [List.flatMap_cons, Piece.output, ih, List.singleton_append]

namespace Table

variable {table : Table} {line : String} {cursor next : Cursor} {s : Substitution}

theorem width_pos (member : s ∈ table.entries) : 0 < s.width := by
  rw [width, Nat.pos_iff_ne_zero, Ne, String.utf8ByteSize_eq_zero_iff]
  exact table.sought_ne s member

theorem pos_lt_of_step? (moved : table.step? line cursor = some next) : cursor.pos < next.pos := by
  obtain ⟨rest, -, moved⟩ := Option.bind_eq_some_iff.1 moved
  cases found : table.mostBytesAt? rest with
  | some s =>
    rw [found] at moved
    obtain ⟨kept, -, moved⟩ := Option.bind_eq_some_iff.1 moved
    obtain rfl := Option.some.inj moved
    rw [mostBytesAt?_eq] at found
    exact Nat.lt_add_of_pos_right (width_pos (mem_of_longestAt? found))
  | none =>
    rw [found] at moved
    obtain rfl := Option.some.inj moved
    cases rest.toList with
    | nil => exact Nat.lt_add_one _
    | cons c _ => exact Nat.lt_add_of_pos_right c.utf8Size_pos

def loop? (table : Table) (line : String) (cursor : Cursor) : Option Cursor :=
  if cursor.pos < line.utf8ByteSize then
    match moved : table.step? line cursor with
    | some next =>
      have : cursor.pos < next.pos := pos_lt_of_step? moved
      table.loop? line next
    | none => none
  else some cursor
termination_by line.utf8ByteSize - cursor.pos

def applyAtOffsets? (table : Table) (line : String) : Option String := do
  let last ← table.loop? line .start
  last.result? line

end Table

theorem slice?_append (before part after : String) :
    slice? (before ++ part ++ after) before.utf8ByteSize
      (before.utf8ByteSize + part.utf8ByteSize) = some part := by
  have first : String.Pos.Raw.IsValid (before ++ part ++ after) ⟨before.utf8ByteSize⟩ :=
    String.Pos.Raw.isValid_iff_exists_append.2 ⟨before, part ++ after, String.append_assoc, rfl⟩
  have last : String.Pos.Raw.IsValid (before ++ part ++ after)
      ⟨before.utf8ByteSize + part.utf8ByteSize⟩ :=
    String.Pos.Raw.isValid_iff_exists_append.2
      ⟨before ++ part, after, rfl, by rw [← String.utf8ByteSize_append]; rfl⟩
  rw [slice?, dif_pos ⟨first, last, Nat.le_add_right _ _⟩, Option.some.injEq,
    ← String.toByteArray_inj, String.toByteArray_extract, String.offset_pos, String.offset_pos,
    String.append_assoc, String.toByteArray_append, String.toByteArray_append]
  calc (before.toByteArray ++ (part.toByteArray ++ after.toByteArray)).extract
        before.utf8ByteSize (before.utf8ByteSize + part.utf8ByteSize)
    _ = (part.toByteArray ++ after.toByteArray).extract 0 part.utf8ByteSize :=
        ByteArray.extract_append_size_add (i := 0)
    _ = part.toByteArray := ByteArray.extract_append_eq_left rfl

namespace Cursor

structure Sound (cursor : Cursor) (line : String) : Prop where
  pos_valid : String.Pos.Raw.IsValid line ⟨cursor.pos⟩
  copied_valid : String.Pos.Raw.IsValid line ⟨cursor.copied⟩
  copied_le : cursor.copied ≤ cursor.pos
  pos_le : cursor.pos ≤ line.utf8ByteSize

/-- The offsets are where three parts of the line meet. -/
structure Divides (cursor : Cursor) (line done kept ahead : String) : Prop where
  line_eq : line = done ++ kept ++ ahead
  copied_eq : cursor.copied = done.utf8ByteSize
  pos_eq : cursor.pos = done.utf8ByteSize + kept.utf8ByteSize

/-- The pass has made the pieces `seen` of the line before `pos`, and has the others to make. -/
structure Follows (cursor : Cursor) (table : Table) (line done kept ahead : String)
    (seen : List Piece) : Prop where
  divides : cursor.Divides line done kept ahead
  pieces_eq : table.pieces 0 line.toList = seen ++ table.pieces 0 ahead.toList
  output_eq : seen.flatMap Piece.output = (cursor.out.getD "" ++ kept).toList
  untouched : cursor.out = none → done = ""
  out_eq_none_iff : cursor.out = none ↔ seen.all Piece.isKept

variable {cursor : Cursor} {table : Table} {line done kept ahead : String} {seen : List Piece}

namespace Divides

theorem size_eq (divides : cursor.Divides line done kept ahead) :
    line.utf8ByteSize = cursor.pos + ahead.utf8ByteSize := by
  rw [divides.line_eq, String.utf8ByteSize_append, String.utf8ByteSize_append, divides.pos_eq]

theorem slice?_ahead (divides : cursor.Divides line done kept ahead) :
    slice? line cursor.pos line.utf8ByteSize = some ahead := by
  have slice := slice?_append (done ++ kept) ahead ""
  rwa [String.append_empty, ← divides.line_eq, String.utf8ByteSize_append, ← divides.pos_eq,
    ← divides.size_eq] at slice

theorem slice?_kept (divides : cursor.Divides line done kept ahead) :
    slice? line cursor.copied cursor.pos = some kept := by
  rw [divides.line_eq, divides.copied_eq, divides.pos_eq]
  exact slice?_append done kept ahead

theorem step?_eq (divides : cursor.Divides line done kept ahead) (table : Table) :
    table.step? line cursor = some (match table.longestAt? ahead.toList with
      | some s => ⟨cursor.pos + s.width, cursor.pos + s.width,
          some (cursor.out.getD "" ++ kept ++ s.replacement)⟩
      | none => { cursor with pos := cursor.pos + ahead.toList.head?.elim 1 Char.utf8Size }) := by
  rw [Table.step?, divides.slice?_ahead, Option.bind_eq_bind, Option.bind_some,
    Table.mostBytesAt?_eq]
  cases table.longestAt? ahead.toList with
  | none => rfl
  | some s =>
    simp only [divides.slice?_kept]
    rfl

theorem sound (divides : cursor.Divides line done kept ahead) : cursor.Sound line where
  pos_valid := by
    rw [String.Pos.Raw.isValid_iff_exists_append, divides.pos_eq, ← String.utf8ByteSize_append]
    exact ⟨done ++ kept, ahead, divides.line_eq, rfl⟩
  copied_valid := by
    rw [String.Pos.Raw.isValid_iff_exists_append, divides.copied_eq]
    exact ⟨done, kept ++ ahead, by rw [divides.line_eq, String.append_assoc], rfl⟩
  copied_le := by
    rw [divides.copied_eq, divides.pos_eq]
    exact Nat.le_add_right _ _
  pos_le := by
    rw [divides.size_eq]
    exact Nat.le_add_right _ _

end Divides

namespace Follows

theorem start (table : Table) (line : String) : start.Follows table line "" "" line [] where
  divides := ⟨by simp, rfl, rfl⟩
  pieces_eq := rfl
  output_eq := by simp [Cursor.start]
  untouched _ := rfl
  out_eq_none_iff := by simp [Cursor.start]

theorem keep {c : Char}
    (follows : cursor.Follows table line done kept (String.singleton c ++ ahead) seen)
    (quiet : table.longestAt? (c :: ahead.toList) = none) :
    { cursor with pos := cursor.pos + c.utf8Size }.Follows table line done
      (kept ++ String.singleton c) ahead (seen ++ [Piece.kept c]) where
  divides := {
    line_eq := by rw [follows.divides.line_eq]; simp only [String.append_assoc]
    copied_eq := follows.divides.copied_eq
    pos_eq := by
      rw [follows.divides.pos_eq, String.utf8ByteSize_append, String.utf8ByteSize_singleton,
        Nat.add_assoc] }
  pieces_eq := by
    rw [follows.pieces_eq, String.toList_append, String.toList_singleton, List.singleton_append,
      Table.pieces, quiet, List.append_assoc, List.singleton_append]
  output_eq := by
    simp [follows.output_eq, Piece.output]
  untouched := follows.untouched
  out_eq_none_iff := by
    simp [follows.out_eq_none_iff, Piece.isKept]

theorem replace {s : Substitution}
    (follows : cursor.Follows table line done kept (s.sought ++ ahead) seen)
    (found : table.longestAt? (s.sought.toList ++ ahead.toList) = some s) :
    Follows ⟨cursor.pos + s.width, cursor.pos + s.width,
        some (cursor.out.getD "" ++ kept ++ s.replacement)⟩
      table line (done ++ kept ++ s.sought) "" ahead (seen ++ [Piece.replaced s]) where
  divides := {
    line_eq := by rw [follows.divides.line_eq]; simp only [String.append_assoc, String.append_empty]
    copied_eq := by
      simp only [follows.divides.pos_eq, String.utf8ByteSize_append, width]
    pos_eq := by
      simp only [follows.divides.pos_eq, String.utf8ByteSize_append, width,
        String.utf8ByteSize_empty, Nat.add_zero] }
  pieces_eq := by
    rw [follows.pieces_eq, String.toList_append, Table.pieces_of_longestAt? found,
      List.append_assoc, List.singleton_append]
  output_eq := by
    simp [follows.output_eq, Piece.output]
  untouched impossible := nomatch impossible
  out_eq_none_iff := by
    simp [Piece.isKept]

theorem step (follows : cursor.Follows table line done kept ahead seen)
    (inside : cursor.pos < line.utf8ByteSize) :
    ∃ next, table.step? line cursor = some next ∧
      ∃ done kept ahead seen, next.Follows table line done kept ahead seen := by
  have round := follows.divides.step?_eq table
  cases found : table.longestAt? ahead.toList with
  | some s =>
    rw [found] at round
    obtain ⟨more, rfl⟩ := toList_prefix_iff.1 (Table.prefix_of_longestAt? found)
    rw [String.toList_append] at found
    exact ⟨_, round, _, _, _, _, follows.replace found⟩
  | none =>
    rw [found] at round
    have size := follows.divides.size_eq
    obtain ⟨c, rest, split⟩ : ∃ c rest, ahead.toList = c :: rest := by
      apply List.exists_cons_of_ne_nil
      rw [Ne, String.toList_eq_nil_iff, ← String.utf8ByteSize_eq_zero_iff]
      omega
    obtain rfl : ahead = String.singleton c ++ String.ofList rest := by
      rw [← String.toList_inj, split, String.toList_append, String.toList_singleton,
        String.toList_ofList, List.singleton_append]
    rw [split] at round
    refine ⟨_, round, _, _, _, _, follows.keep ?_⟩
    rwa [String.toList_ofList, ← split]

theorem result (follows : cursor.Follows table line done kept ahead seen)
    (finished : cursor.pos = line.utf8ByteSize) :
    cursor.result? line = some (table.apply line) ∧
      (cursor.out = none ↔ table.leavesAlone line) := by
  have size := follows.divides.size_eq
  obtain rfl : ahead = "" := by
    rw [← String.utf8ByteSize_eq_zero_iff]
    omega
  have pieces : table.pieces 0 line.toList = seen := by
    simp [follows.pieces_eq, Table.pieces]
  have line_eq : line = done ++ kept := by
    rw [follows.divides.line_eq, String.append_empty]
  rw [Table.apply, Table.leavesAlone, pieces, follows.output_eq, String.ofList_toList]
  refine ⟨?_, follows.out_eq_none_iff⟩
  cases written : cursor.out with
  | none => simp [result?, written, line_eq, follows.untouched written]
  | some out => simp [result?, written, ← finished, follows.divides.slice?_kept]

end Follows

end Cursor

namespace Table

variable {cursor : Cursor} {table : Table} {line : String}

def Advances (table : Table) (line : String) (cursor next : Cursor) : Prop :=
  cursor.pos < line.utf8ByteSize ∧ table.step? line cursor = some next

def Reaches (table : Table) (line : String) : Cursor → Prop :=
  Relation.ReflTransGen (table.Advances line) .start

theorem Reaches.follows (reached : table.Reaches line cursor) :
    ∃ done kept ahead seen, cursor.Follows table line done kept ahead seen := by
  induction reached with
  | refl => exact ⟨_, _, _, _, .start table line⟩
  | tail _ round ih =>
    obtain ⟨done, kept, ahead, seen, follows⟩ := ih
    obtain ⟨next, step, placed⟩ := follows.step round.1
    obtain rfl : next = _ := Option.some.inj (step.symm.trans round.2)
    exact placed

theorem Reaches.sound (reached : table.Reaches line cursor) : cursor.Sound line := by
  obtain ⟨done, kept, ahead, seen, follows⟩ := reached.follows
  exact follows.divides.sound

theorem Reaches.exists_step? (reached : table.Reaches line cursor)
    (inside : cursor.pos < line.utf8ByteSize) : ∃ next, table.step? line cursor = some next := by
  obtain ⟨done, kept, ahead, seen, follows⟩ := reached.follows
  obtain ⟨next, step, -⟩ := follows.step inside
  exact ⟨next, step⟩

theorem Reaches.exists_loop? (reached : table.Reaches line cursor) :
    ∃ last, table.loop? line cursor = some last ∧ table.Reaches line last ∧
      last.pos = line.utf8ByteSize := by
  fun_induction table.loop? line cursor with
  | case1 cursor inside next step further ih => exact ih (reached.tail ⟨inside, step⟩)
  | case2 cursor inside broken =>
    obtain ⟨next, step⟩ := reached.exists_step? inside
    rw [broken] at step
    contradiction
  | case3 cursor outside =>
    have bound := reached.sound.pos_le
    exact ⟨cursor, rfl, reached, Nat.le_antisymm bound (Nat.le_of_not_lt outside)⟩

end Table

/-- In every round the offsets are in order and between characters, so that all parts of the line
that are taken exist, and `pos` moves on until it is at the end of the line. Of the entries that
match somewhere, the one with most bytes is the one with most characters, and the pass makes of the
line what a recursion over its characters makes of it. -/
theorem offsets_safe_and_exact (table : Table) (line : String) :
    (∀ cursor, table.Reaches line cursor → cursor.Sound line ∧
      (cursor.pos < line.utf8ByteSize →
        ∃ next, table.step? line cursor = some next ∧ cursor.pos < next.pos)) ∧
    (∃ last, table.loop? line .start = some last ∧ table.Reaches line last ∧
      last.pos = line.utf8ByteSize ∧ (last.out = none ↔ table.leavesAlone line)) ∧
    (∀ rest : String, table.mostBytesAt? rest = table.mostCharactersAt? rest.toList ∧
      ∀ s, table.mostBytesAt? rest = some s → ∀ t ∈ table.entries, t.startsAt rest.toList →
        t.width ≤ s.width ∧ t.sought.length ≤ s.sought.length) ∧
    table.applyAtOffsets? line = some (String.ofList (table.applyToCharacters line.toList)) ∧
    String.ofList (table.applyToCharacters line.toList) = table.apply line := by
  have same : String.ofList (table.applyToCharacters line.toList) = table.apply line := by
    rw [Table.applyToCharacters_eq, Table.apply]
  obtain ⟨last, ends, reached, finished⟩ :=
    Table.Reaches.exists_loop? (Relation.ReflTransGen.refl : table.Reaches line .start)
  obtain ⟨done, kept, ahead, seen, follows⟩ := reached.follows
  obtain ⟨result, alone⟩ := follows.result finished
  refine ⟨fun cursor reached => ?_, ⟨last, ends, reached, finished, alone⟩, fun rest => ?_, ?_,
    same⟩
  · refine ⟨reached.sound, fun inside => ?_⟩
    obtain ⟨next, step⟩ := reached.exists_step? inside
    exact ⟨next, step, Table.pos_lt_of_step? step⟩
  · rw [Table.mostBytesAt?_eq, Table.mostCharactersAt?_eq]
    exact ⟨rfl, fun s found t member there => Table.le_of_longestAt? found member there⟩
  · rw [Table.applyAtOffsets?, ends, same]
    exact result

theorem offsets_past_wide_characters :
    let table := Table.ofList [⟨"π", "p"⟩, ⟨"π²", "p * p"⟩]
    let cursor : Cursor := ⟨5, 5, some "ap * p"⟩
    table.Reaches "aπ²é" cursor ∧ cursor.Sound "aπ²é" ∧
      table.applyAtOffsets? "aπ²é" = some "ap * pé" := by
  intro table cursor
  have keeps : table.Advances "aπ²é" .start ⟨1, 0, none⟩ := by
    refine ⟨by decide +kernel, by decide +kernel⟩
  have replaces : table.Advances "aπ²é" ⟨1, 0, none⟩ cursor := by
    refine ⟨by decide +kernel, by decide +kernel⟩
  have reached : table.Reaches "aπ²é" cursor := .tail (.single keeps) replaces
  obtain ⟨sound, -, -, result, same⟩ := offsets_safe_and_exact table "aπ²é"
  refine ⟨reached, (sound cursor reached).1, ?_⟩
  rw [result, same]
  decide +kernel

end Recast.Substitution
