import Mathlib.Data.List.Induction
import Recast.Substitution
import Recast.Text

set_option autoImplicit false

namespace Recast.Substitution

-- The earliest of the widest, where a search ends that only changes to wider entries.
def Widest (candidates : List Substitution) (s : Substitution) : Prop :=
  ∃ before after, candidates = before ++ s :: after ∧ (∀ t ∈ before, t.width < s.width) ∧
    ∀ t ∈ after, t.width ≤ s.width

namespace Widest

variable {candidates : List Substitution} {s t : Substitution}

theorem mem (widest : Widest candidates s) : s ∈ candidates := by
  obtain ⟨before, after, rfl, -, -⟩ := widest
  simp

theorem width_le (widest : Widest candidates s) (member : t ∈ candidates) : t.width ≤ s.width := by
  obtain ⟨before, after, rfl, narrower, bounded⟩ := widest
  rcases List.mem_append.1 member with early | late
  · exact Nat.le_of_lt (narrower t early)
  · rcases List.mem_cons.1 late with rfl | late
    · exact Nat.le_refl _
    · exact bounded t late

theorem concat_wider (widest : Widest candidates s) (wider : s.width < t.width) :
    Widest (candidates ++ [t]) t :=
  ⟨candidates, [], rfl, fun u member => Nat.lt_of_le_of_lt (widest.width_le member) wider, by simp⟩

theorem concat (widest : Widest candidates s) (narrower : t.width ≤ s.width) :
    Widest (candidates ++ [t]) s := by
  obtain ⟨before, after, rfl, early, late⟩ := widest
  refine ⟨before, after ++ [t], by simp, early, fun u member => ?_⟩
  rcases List.mem_append.1 member with there | last
  · exact late u there
  · rwa [List.mem_singleton.1 last]

theorem of_foldl (candidates : List Substitution) :
    candidates = [] ∧ candidates.foldl Table.better none = none ∨
      ∃ s, candidates.foldl Table.better none = some s ∧ Widest candidates s := by
  -- From the end of the list, as the fold compares each entry with the best before it.
  induction candidates using List.reverseRecOn with
  | nil => exact .inl ⟨rfl, rfl⟩
  | append_singleton candidates t ih =>
    right
    rw [List.foldl_append]
    rcases ih with ⟨rfl, -⟩ | ⟨s, best, widest⟩
    · exact ⟨t, rfl, [], [], rfl, by simp, by simp⟩
    · rw [best]
      by_cases wider : s.width < t.width
      · exact ⟨t, by simp [Table.better, wider], widest.concat_wider wider⟩
      · exact ⟨s, by simp [Table.better, wider], widest.concat (Nat.le_of_not_lt wider)⟩

end Widest

-- Texts that stand at one place are prefixes of each other, so bytes and characters count alike.
theorem prefix_of_width_le {s t : Substitution} {rest : List Char} (here : s.sought.toList <+: rest)
    (there : t.sought.toList <+: rest) (narrower : t.width ≤ s.width) :
    t.sought.toList <+: s.sought.toList := by
  rcases List.prefix_or_prefix_of_prefix there here with shorter | ⟨more, longer⟩
  · exact shorter
  · have extended : t.sought = s.sought ++ String.ofList more := by
      rw [← String.toList_inj, String.toList_append, String.toList_ofList, longer]
    have added : (String.ofList more).utf8ByteSize = 0 := by
      have sizes := congrArg String.utf8ByteSize extended
      rw [String.utf8ByteSize_append] at sizes
      unfold width at narrower
      omega
    have same : t.sought = s.sought := by
      rw [extended, String.utf8ByteSize_eq_zero_iff.1 added, String.append_empty]
    exact ⟨[], by rw [List.append_nil, same]⟩

namespace Table

variable {table : Table} {rest : List Char} {s t : Substitution}

theorem startsAt_iff : s.startsAt rest ↔ s.sought.toList <+: rest :=
  List.isPrefixOf_iff_prefix

theorem longestAt?_eq_none_iff :
    table.longestAt? rest = none ↔ ∀ s ∈ table.entries, ¬ s.sought.toList <+: rest := by
  have fold := Widest.of_foldl (table.entries.filter (·.startsAt rest))
  simp only [← startsAt_iff]
  rcases fold with ⟨empty, best⟩ | ⟨s, best, widest⟩
  · simpa [longestAt?, best] using empty
  · have member := List.mem_filter.1 widest.mem
    simp only [longestAt?, best, reduceCtorEq, false_iff]
    exact fun none => none s member.1 member.2

theorem widest_of_longestAt? (found : table.longestAt? rest = some s) :
    Widest (table.entries.filter (·.startsAt rest)) s := by
  rcases Widest.of_foldl (table.entries.filter (·.startsAt rest)) with
    ⟨-, best⟩ | ⟨other, best, widest⟩
  · simp [longestAt?, best] at found
  · obtain rfl : other = s := by simpa [longestAt?, best] using found
    exact widest

theorem mem_of_longestAt? (found : table.longestAt? rest = some s) : s ∈ table.entries :=
  (List.mem_filter.1 (widest_of_longestAt? found).mem).1

theorem prefix_of_longestAt? (found : table.longestAt? rest = some s) : s.sought.toList <+: rest :=
  startsAt_iff.1 (List.mem_filter.1 (widest_of_longestAt? found).mem).2

theorem prefix_longestAt? (found : table.longestAt? rest = some s) (member : t ∈ table.entries)
    (there : t.sought.toList <+: rest) : t.sought.toList <+: s.sought.toList := by
  have candidate : t ∈ table.entries.filter (·.startsAt rest) :=
    List.mem_filter.2 ⟨member, startsAt_iff.2 there⟩
  exact prefix_of_width_le (prefix_of_longestAt? found) there
    ((widest_of_longestAt? found).width_le candidate)

theorem find?_of_longestAt? (found : table.longestAt? rest = some s) :
    table.entries.find? (·.sought = s.sought) = some s := by
  have here := prefix_of_longestAt? found
  obtain ⟨before, after, split, narrower, -⟩ := widest_of_longestAt? found
  -- Entries with the same text stand at the same place, so it is enough to look among those.
  have among : (table.entries.filter (·.startsAt rest)).find? (·.sought = s.sought) =
      table.entries.find? (·.sought = s.sought) := by
    rw [List.find?_filter]
    congr 1
    funext t
    by_cases same : t.sought = s.sought <;> simp [same, startsAt, here]
  rw [← among, split, List.find?_append, List.find?_eq_none.2, Option.none_or]
  · simp
  · intro t member same
    have wide := narrower t member
    simp_all [width]

theorem sought_toList_ne (member : s ∈ table.entries) : s.sought.toList ≠ [] := by
  rw [Ne, String.toList_eq_nil_iff]
  exact table.sought_ne s member

theorem pieces_eq_drop (table : Table) (skip : Nat) (text : List Char) :
    table.pieces skip text = table.pieces 0 (text.drop skip) := by
  induction text generalizing skip with
  | nil => simp [pieces]
  | cons c rest ih =>
    cases skip with
    | zero => rfl
    | succ skip => rw [pieces, List.drop_succ_cons, ih]

theorem pieces_of_longestAt? (found : table.longestAt? (s.sought.toList ++ rest) = some s) :
    table.pieces 0 (s.sought.toList ++ rest) = .replaced s :: table.pieces 0 rest := by
  obtain ⟨c, word, sought⟩ :=
    List.exists_cons_of_ne_nil (sought_toList_ne (mem_of_longestAt? found))
  have width : s.sought.length - 1 = word.length := by
    rw [← String.length_toList, sought, List.length_cons, Nat.add_sub_cancel]
  rw [sought, List.cons_append] at found ⊢
  simp only [pieces, found]
  rw [pieces_eq_drop, width, List.drop_left]

inductive Passes (table : Table) : List Char → List Piece → Prop where
  | done : Passes table [] []
  | keep {c : Char} {rest : List Char} {pieces : List Piece}
      (quiet : table.longestAt? (c :: rest) = none) (more : Passes table rest pieces) :
      Passes table (c :: rest) (.kept c :: pieces)
  | replace {s : Substitution} {rest : List Char} {pieces : List Piece}
      (found : table.longestAt? (s.sought.toList ++ rest) = some s)
      (more : Passes table rest pieces) :
      Passes table (s.sought.toList ++ rest) (.replaced s :: pieces)

theorem passes_pieces (table : Table) (text : List Char) :
    table.Passes text (table.pieces 0 text) := by
  induction size : text.length using Nat.strongRecOn generalizing text with
  | _ count ih =>
    cases text with
    | nil => exact .done
    | cons c rest =>
      rw [List.length_cons] at size
      cases found : table.longestAt? (c :: rest) with
      | none =>
        rw [pieces, found]
        exact .keep found (ih rest.length (by omega) rest rfl)
      | some s =>
        obtain ⟨remaining, split⟩ := prefix_of_longestAt? found
        have positive := List.length_pos_iff.2 (sought_toList_ne (mem_of_longestAt? found))
        have sizes := congrArg List.length split
        rw [List.length_append, List.length_cons] at sizes
        rw [← split] at found ⊢
        rw [pieces_of_longestAt? found]
        exact .replace found (ih remaining.length (by omega) remaining rfl)

theorem mem_ofList {entries : List Substitution} :
    s ∈ (ofList entries).entries ↔ s ∈ entries ∧ s.sought ≠ "" := by
  simp [ofList]

-- The entries that a table leaves out seek another text.
theorem find?_ofList {entries : List Substitution} {text : String} (nonempty : text ≠ "") :
    (ofList entries).entries.find? (·.sought = text) = entries.find? (·.sought = text) := by
  rw [ofList, List.find?_filter]
  congr 1
  funext t
  by_cases same : t.sought = text <;> simp [same, nonempty]

end Table

section Cuts

variable {entries : List Substitution} {kept found after rest text : List Char}

/-- Nothing that is sought stands at a place inside `kept`. -/
def Quiet (entries : List Substitution) (kept after : List Char) : Prop :=
  ∀ i < kept.length, ∀ s ∈ entries, s.sought ≠ "" → ¬ s.sought.toList <+: (kept ++ after).drop i

structure LongestAt (entries : List Substitution) (found rest : List Char) : Prop where
  nonempty : found ≠ []
  sought : ∃ s ∈ entries, s.sought.toList = found
  here : found <+: rest
  longest : ∀ s ∈ entries, s.sought.toList <+: rest → s.sought.toList.length ≤ found.length

/-- The texts found in a line, each with the stretch before it, and the stretch after the last. -/
structure Cut where
  parts : List (List Char × List Char)
  last : List Char

inductive Decomposes (entries : List Substitution) : List Char → Cut → Prop where
  | last {kept : List Char} (quiet : Quiet entries kept []) : Decomposes entries kept ⟨[], kept⟩
  | part {kept found rest last : List Char} {parts : List (List Char × List Char)}
      (quiet : Quiet entries kept (found ++ rest))
      (longest : LongestAt entries found (found ++ rest))
      (more : Decomposes entries rest ⟨parts, last⟩) :
      Decomposes entries (kept ++ found ++ rest) ⟨(kept, found) :: parts, last⟩

def replacementOf (entries : List Substitution) (found : List Char) : List Char :=
  ((entries.find? (·.sought.toList = found)).map (·.replacement.toList)).getD []

def Cut.output (entries : List Substitution) (cut : Cut) : List Char :=
  cut.parts.flatMap (fun part => part.1 ++ replacementOf entries part.2) ++ cut.last

theorem quiet_nil (entries : List Substitution) (after : List Char) : Quiet entries [] after := by
  intro i inside
  simp at inside

theorem quiet_cons {c : Char} (here : ∀ s ∈ entries, s.sought ≠ "" →
    ¬ s.sought.toList <+: c :: kept ++ after) (quiet : Quiet entries kept after) :
    Quiet entries (c :: kept) after := by
  intro i inside
  cases i with
  | zero => exact here
  | succ i => exact quiet i (Nat.lt_of_succ_lt_succ inside)

-- What is found stands behind the whole stretch that is kept.
theorem Quiet.length_le {before : List Char} (quiet : Quiet entries kept after)
    (longest : LongestAt entries found (found ++ rest))
    (same : kept ++ after = before ++ (found ++ rest)) : kept.length ≤ before.length := by
  by_contra inside
  obtain ⟨s, member, rfl⟩ := longest.sought
  have nonempty : s.sought ≠ "" := by
    rw [Ne, ← String.toList_eq_nil_iff]
    exact longest.nonempty
  apply quiet before.length (Nat.lt_of_not_le inside) s member nonempty
  rw [same, List.drop_left]
  exact longest.here

theorem not_quiet_of_longestAt {before : List Char}
    (longest : LongestAt entries found (found ++ rest)) :
    ¬ Quiet entries (before ++ found ++ rest) [] := by
  intro quiet
  have positive := List.length_pos_iff.2 longest.nonempty
  have same : before ++ found ++ rest ++ [] = before ++ (found ++ rest) := by simp
  have bound := quiet.length_le longest same
  simp only [List.length_append] at bound
  omega

theorem LongestAt.unique {other : List Char} (longest : LongestAt entries found rest)
    (longest' : LongestAt entries other rest) : found = other := by
  obtain ⟨s, member, rfl⟩ := longest.sought
  obtain ⟨t, member', rfl⟩ := longest'.sought
  have bound := longest.longest t member' longest'.here
  have bound' := longest'.longest s member longest.here
  have shorter := List.prefix_of_prefix_length_le longest.here longest'.here bound'
  exact shorter.eq_of_length (Nat.le_antisymm bound' bound)

theorem Decomposes.unique {cut other : Cut} (decomposes : Decomposes entries text cut)
    (decomposes' : Decomposes entries text other) : cut = other := by
  -- On the first cut; where it finds a text, the other has to find the same one there.
  induction decomposes generalizing other with
  | @last text quiet =>
    cases decomposes' with
    | last quiet' => rfl
    | part quiet' longest more => exact absurd quiet (not_quiet_of_longestAt longest)
  | @part kept found rest last parts quiet longest more ih =>
    generalize same : kept ++ found ++ rest = text at decomposes'
    cases decomposes' with
    | last quiet' => exact absurd (same ▸ quiet') (not_quiet_of_longestAt longest)
    | @part kept' found' rest' last' parts' quiet' longest' more' =>
      rw [List.append_assoc, List.append_assoc] at same
      have sizes : kept.length = kept'.length :=
        Nat.le_antisymm (quiet.length_le longest' same) (quiet'.length_le longest same.symm)
      obtain ⟨rfl, here⟩ := List.append_inj same sizes
      rw [← here] at longest'
      obtain rfl := longest.unique longest'
      obtain rfl := List.append_cancel_left here
      cases ih more'
      rfl

theorem longestAt_of_longestAt? {s : Substitution}
    (longest : (Table.ofList entries).longestAt? rest = some s) :
    LongestAt entries s.sought.toList rest where
  nonempty := Table.sought_toList_ne (Table.mem_of_longestAt? longest)
  sought := ⟨s, (Table.mem_ofList.1 (Table.mem_of_longestAt? longest)).1, rfl⟩
  here := Table.prefix_of_longestAt? longest
  longest t member there := by
    by_cases empty : t.sought = ""
    · simp [empty]
    · have listed := Table.mem_ofList.2 ⟨member, empty⟩
      exact (Table.prefix_longestAt? longest listed there).length_le

theorem replacementOf_of_longestAt? {s : Substitution}
    (longest : (Table.ofList entries).longestAt? rest = some s) :
    replacementOf entries s.sought.toList = s.replacement.toList := by
  have nonempty := (Table.mem_ofList.1 (Table.mem_of_longestAt? longest)).2
  have first := Table.find?_of_longestAt? longest
  rw [Table.find?_ofList nonempty] at first
  simp only [replacementOf, String.toList_inj, first]
  rfl

theorem exists_cut {pieces : List Piece} (passes : (Table.ofList entries).Passes text pieces) :
    ∃ cut, Decomposes entries text cut ∧ cut.output entries = pieces.flatMap Piece.output := by
  induction passes with
  | done => exact ⟨⟨[], []⟩, .last (quiet_nil entries []), rfl⟩
  | @keep c rest pieces quiet more ih =>
    have here : ∀ s ∈ entries, s.sought ≠ "" → ¬ s.sought.toList <+: c :: rest :=
      fun s member nonempty =>
        Table.longestAt?_eq_none_iff.1 quiet s (Table.mem_ofList.2 ⟨member, nonempty⟩)
    obtain ⟨cut, decomposes, output⟩ := ih
    -- The character goes in front of the first stretch, whichever that is.
    cases decomposes with
    | last quiet' =>
      refine ⟨⟨[], c :: rest⟩, .last (quiet_cons (by simpa using here) quiet'), ?_⟩
      simpa [Cut.output, Piece.output] using output
    | @part kept found rest last parts quiet' longest more' =>
      have further : Quiet entries (c :: kept) (found ++ rest) :=
        quiet_cons (by simpa using here) quiet'
      refine ⟨⟨(c :: kept, found) :: parts, last⟩, .part further longest more', ?_⟩
      simpa [Cut.output, Piece.output] using output
  | @replace s rest pieces longest more ih =>
    obtain ⟨cut, decomposes, output⟩ := ih
    refine ⟨⟨([], s.sought.toList) :: cut.parts, cut.last⟩,
      .part (quiet_nil entries _) (longestAt_of_longestAt? longest) decomposes, ?_⟩
    rw [List.flatMap_cons, ← output]
    simp [Cut.output, Piece.output, replacementOf_of_longestAt? longest]

end Cuts

theorem Table.Passes.all_isKept_iff {table : Table} {text : List Char} {pieces : List Piece}
    (passes : table.Passes text pieces) :
    pieces.all Piece.isKept ↔ ∀ s ∈ table.entries, ¬ s.sought.toList <:+: text := by
  induction passes with
  | done => simpa using fun s member => Table.sought_toList_ne member
  | @keep c rest pieces quiet more ih =>
    have here := Table.longestAt?_eq_none_iff.1 quiet
    simp only [List.all_cons, Piece.isKept, Bool.true_and, ih, List.infix_cons_iff]
    exact forall₂_congr fun s member => by simp [here s member]
  | @replace s rest pieces found more ih =>
    simp only [List.all_cons, Piece.isKept, Bool.false_and, Bool.false_eq_true, false_iff]
    intro quiet
    exact quiet s (Table.mem_of_longestAt? found) (List.prefix_append _ _).isInfix

/-- Every line can be cut in one way only such that the texts found are the longest ones at their
places and nothing that is sought stands inside the stretches between. A pass gives these stretches
with the first replacement for each text, and reports no match exactly if no text stands in the
line. -/
theorem apply_eq_output_of_cut (entries : List Substitution) (line : String) :
    (∃! cut, Decomposes entries line.toList cut) ∧
    (∀ cut, Decomposes entries line.toList cut →
      (Table.ofList entries).apply line = String.ofList (cut.output entries)) ∧
    ((Table.ofList entries).leavesAlone line ↔
      ∀ s ∈ entries, s.sought ≠ "" → ¬ Text.contains line s.sought) := by
  have passes := (Table.ofList entries).passes_pieces line.toList
  obtain ⟨cut, decomposes, output⟩ := exists_cut passes
  refine ⟨⟨cut, decomposes, fun other decomposes' => decomposes'.unique decomposes⟩, ?_, ?_⟩
  · intro other decomposes'
    rw [decomposes'.unique decomposes, output, Table.apply]
  · rw [Table.leavesAlone, passes.all_isKept_iff]
    simp only [Table.mem_ofList, Text.contains_iff_infix, and_imp]

end Recast.Substitution
