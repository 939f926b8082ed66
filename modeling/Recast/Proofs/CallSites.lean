import Recast.Dialect.Builtin
import Recast.Emission
import Recast.Proofs.Basics
import Recast.Proofs.Cuts

set_option autoImplicit false

namespace Recast.Substitution

namespace Table

/-- A blank stands at the start of every text that is sought or put in, and else only at the end of
those that are sought. Texts that are put in keep such an end, and before it nothing that is sought
begins in them. -/
structure Spaced (table : Table) : Prop where
  first : ∀ s ∈ table.entries,
    s.sought.toList.head? = some ' ' ∧ s.replacement.toList.head? = some ' '
  word : ∀ s ∈ table.entries, s.sought.toList.tail ≠ [] ∧ ' ' ∉ s.sought.toList.tail.dropLast
  last : ∀ s ∈ table.entries,
    (s.sought.toList.getLast? = some ' ' ↔ s.replacement.toList.getLast? = some ' ')
  apart : ∀ s ∈ table.entries, ∀ t ∈ table.entries, ∀ i < s.replacement.toList.length,
    s.replacement.toList.drop i = [' '] ∨
      ¬ t.sought.toList.isPrefixOf (s.replacement.toList.drop i) ∧
        ¬ (s.replacement.toList.drop i).isPrefixOf t.sought.toList

def Finds (table : Table) (text : List Char) : Prop :=
  ∃ s ∈ table.entries, s.sought.toList <:+: text

/-- Two texts that are sought stand in the text such that a blank belongs to both. -/
def Shares (table : Table) (text : List Char) : Prop :=
  ∃ s ∈ table.entries, s.sought.toList.getLast? = some ' ' ∧
    ∃ t ∈ table.entries, s.sought.toList ++ t.sought.toList.tail <:+: text

variable {table : Table} {text rest : List Char} {pieces : List Piece} {s t : Substitution}

namespace Spaced

theorem sought_eq (spaced : table.Spaced) (member : s ∈ table.entries) :
    s.sought.toList = ' ' :: s.sought.toList.tail :=
  List.eq_cons_of_mem_head? (spaced.first s member).1

theorem replacement_eq (spaced : table.Spaced) (member : s ∈ table.entries) :
    s.replacement.toList = ' ' :: s.replacement.toList.tail :=
  List.eq_cons_of_mem_head? (spaced.first s member).2

theorem eq_blank_of_suffix (spaced : table.Spaced) (member : s ∈ table.entries)
    (other : t ∈ table.entries) {tail : List Char} (nonempty : tail ≠ [])
    (suffix : tail <:+ s.replacement.toList) (here : t.sought.toList <+: tail ++ rest) :
    tail = [' '] := by
  have size := suffix.length_le
  have positive := List.length_pos_iff.2 nonempty
  have apart := spaced.apart s member t other (s.replacement.toList.length - tail.length) (by omega)
  rw [← List.suffix_iff_eq_drop.1 suffix] at apart
  rcases apart with blank | ⟨longer, shorter⟩
  · exact blank
  · simp only [List.isPrefixOf_iff_prefix] at longer shorter
    rcases List.prefix_or_prefix_of_prefix here (List.prefix_append tail rest) with before | after
    · exact absurd before longer
    · exact absurd after shorter

-- A word passes unchanged, since what is replaced begins with a blank, and so does what is put in.
theorem prefix_output_iff (spaced : table.Spaced) {word : List Char} (inner : ' ' ∉ word.dropLast)
    (passes : table.Passes text pieces) :
    word <+: pieces.flatMap Piece.output ↔ word <+: text := by
  induction word generalizing text pieces with
  | nil => simp
  | cons a word ih =>
    cases passes with
    | done => rfl
    | @keep c rest pieces quiet more =>
      have inner' : ' ' ∉ word.dropLast := by
        intro member
        apply inner
        cases word with
        | nil => simp at member
        | cons b word => simp_all
      rw [List.flatMap_cons, Piece.output, List.singleton_append, List.cons_prefix_cons,
        List.cons_prefix_cons, ih inner' more]
    | @replace s rest pieces found more =>
      have member := mem_of_longestAt? found
      rw [List.flatMap_cons, Piece.output, spaced.replacement_eq member, spaced.sought_eq member,
        List.cons_append, List.cons_append, List.cons_prefix_cons, List.cons_prefix_cons]
      cases word with
      | nil => simp
      | cons b word =>
        have other : a ≠ ' ' := by
          rintro rfl
          simp at inner
        simp [other]

theorem blank_prefix_infix {word out : List Char} (ends : s.replacement.toList.getLast? = some ' ')
    (here : word <+: out) : ' ' :: word <:+: s.replacement.toList ++ out := by
  obtain ⟨front, shape⟩ := List.getLast?_eq_some_iff.1 ends
  obtain ⟨later, rfl⟩ := here
  exact ⟨front, later, by simp [shape]⟩

theorem finds_keep_iff (spaced : table.Spaced) {c : Char}
    (quiet : table.longestAt? (c :: rest) = none) (passes : table.Passes rest pieces) :
    table.Finds (c :: pieces.flatMap Piece.output) ↔ table.Finds (pieces.flatMap Piece.output) := by
  -- A text that starts with the kept character would have stood in the line, too.
  have absent : ∀ s ∈ table.entries, ¬ s.sought.toList <+: c :: pieces.flatMap Piece.output := by
    intro s member here
    apply longestAt?_eq_none_iff.1 quiet s member
    rw [spaced.sought_eq member, List.cons_prefix_cons] at here ⊢
    exact ⟨here.1, (spaced.prefix_output_iff (spaced.word s member).2 passes).1 here.2⟩
  simp only [Finds, List.infix_cons_iff]
  exact exists_congr fun s => and_congr_right fun member => by simp [absent s member]

theorem shares_keep_iff {c : Char} (quiet : table.longestAt? (c :: rest) = none) :
    table.Shares (c :: rest) ↔ table.Shares rest := by
  have absent : ∀ s ∈ table.entries, ∀ word, ¬ s.sought.toList ++ word <+: c :: rest := by
    intro s member word here
    exact longestAt?_eq_none_iff.1 quiet s member ((List.prefix_append _ _).trans here)
  simp only [Shares, List.infix_cons_iff]
  refine exists_congr fun s => and_congr_right fun member => and_congr_right fun ends => ?_
  exact exists_congr fun t => and_congr_right fun other => by simp [absent s member]

theorem shares_of_finds_replace (spaced : table.Spaced)
    (found : table.longestAt? (s.sought.toList ++ rest) = some s)
    (passes : table.Passes rest pieces)
    (later : table.Finds (pieces.flatMap Piece.output) → table.Shares rest)
    (finds : table.Finds (s.replacement.toList ++ pieces.flatMap Piece.output)) :
    table.Shares (s.sought.toList ++ rest) := by
  have member := mem_of_longestAt? found
  obtain ⟨t, other, stands⟩ := finds
  rcases infix_append_iff_tail.1 stands with ⟨tail, nonempty, suffix, here⟩ | inside
  · obtain rfl := spaced.eq_blank_of_suffix member other nonempty suffix here
    have ends : s.sought.toList.getLast? = some ' ' := by
      rw [spaced.last s member]
      obtain ⟨front, shape⟩ := suffix
      simp [← shape]
    rw [spaced.sought_eq other, List.singleton_append, List.cons_prefix_cons,
      spaced.prefix_output_iff (spaced.word t other).2 passes] at here
    refine ⟨s, member, ends, t, other, List.IsPrefix.isInfix ?_⟩
    exact (List.prefix_append_right_inj _).2 here.2
  · obtain ⟨s', member', ends, t', other', stands⟩ := later ⟨t, other, inside⟩
    exact ⟨s', member', ends, t', other', List.infix_append_of_infix_right stands⟩

-- A blank ends the word it stands in, so of two words with one start it ends both.
theorem sought_eq_of_prefix (spaced : table.Spaced) (member : s ∈ table.entries)
    (other : t ∈ table.entries) (ends : t.sought.toList.getLast? = some ' ')
    (here : t.sought.toList <+: s.sought.toList) : t.sought.toList = s.sought.toList := by
  have blank : ' ' ∈ t.sought.toList.tail := by
    rw [spaced.sought_eq other, List.getLast?_cons_of_ne_nil (spaced.word t other).1] at ends
    exact List.mem_of_getLast? ends
  obtain ⟨more, longer⟩ := here
  by_cases nothing : more = []
  · rw [← longer, nothing, List.append_nil]
  · have within : s.sought.toList.tail.dropLast = t.sought.toList.tail ++ more.dropLast := by
      rw [← longer, spaced.sought_eq other, List.cons_append, List.tail_cons, List.tail_cons,
        List.dropLast_append_of_ne_nil nothing]
    refine absurd ?_ (spaced.word s member).2
    rw [within]
    exact List.mem_append_left _ blank

-- The only blank behind the first one is the last character.
theorem eq_blank_of_suffix_sought (spaced : table.Spaced) (member : s ∈ table.entries)
    {tail : List Char} (suffix : ' ' :: tail <:+ s.sought.toList.tail) : tail = [] := by
  by_contra nonempty
  obtain ⟨front, shape⟩ := suffix
  apply (spaced.word s member).2
  rw [← shape, List.dropLast_append_of_ne_nil (by simp), List.dropLast_cons_of_ne_nil nonempty]
  simp

theorem finds_of_shares_replace (spaced : table.Spaced)
    (found : table.longestAt? (s.sought.toList ++ rest) = some s)
    (passes : table.Passes rest pieces)
    (later : table.Shares rest → table.Finds (pieces.flatMap Piece.output))
    (shares : table.Shares (s.sought.toList ++ rest)) :
    table.Finds (s.replacement.toList ++ pieces.flatMap Piece.output) := by
  have member := mem_of_longestAt? found
  obtain ⟨s', member', ends, t, other, stands⟩ := shares
  rcases infix_append_iff_tail.1 stands with ⟨tail, nonempty, suffix, here⟩ | inside
  · have start := (List.prefix_append s'.sought.toList t.sought.toList.tail).trans here
    rw [spaced.sought_eq member] at suffix
    rcases List.suffix_cons_iff.1 suffix with rfl | inner
    · -- The text with the shared blank is the one that is replaced, and the other is left over.
      rw [← spaced.sought_eq member] at start here
      have within := prefix_longestAt? found member' start
      have same := spaced.sought_eq_of_prefix member member' ends within
      rw [same, List.prefix_append_right_inj,
        ← spaced.prefix_output_iff (spaced.word t other).2 passes] at here
      refine ⟨t, other, ?_⟩
      rw [spaced.sought_eq other]
      exact blank_prefix_infix ((spaced.last s member).1 (same ▸ ends)) here
    · -- What is replaced ends with the first blank of that text, which is left over itself.
      obtain ⟨c, tail, rfl⟩ := List.exists_cons_of_ne_nil nonempty
      rw [spaced.sought_eq member', List.cons_append, List.cons_prefix_cons] at start
      obtain ⟨rfl, start⟩ := start
      obtain rfl := spaced.eq_blank_of_suffix_sought member inner
      rw [List.nil_append, ← spaced.prefix_output_iff (spaced.word s' member').2 passes] at start
      have last : s.sought.toList.getLast? = some ' ' := by
        obtain ⟨front, shape⟩ := suffix
        rw [spaced.sought_eq member, ← shape]
        simp
      refine ⟨s', member', ?_⟩
      rw [spaced.sought_eq member']
      exact blank_prefix_infix ((spaced.last s member).1 last) start
  · obtain ⟨t', other', stands⟩ := later ⟨s', member', ends, t, other, inside⟩
    exact ⟨t', other', List.infix_append_of_infix_right stands⟩

theorem finds_output_iff (spaced : table.Spaced) (passes : table.Passes text pieces) :
    table.Finds (pieces.flatMap Piece.output) ↔ table.Shares text := by
  induction passes with
  | done =>
    simp only [Finds, Shares, List.flatMap_nil, List.infix_nil, List.append_eq_nil_iff]
    constructor
    · rintro ⟨s, member, empty⟩
      exact absurd empty (sought_toList_ne member)
    · rintro ⟨s, member, -, t, other, empty, -⟩
      exact absurd empty (sought_toList_ne member)
  | keep quiet more ih =>
    exact (spaced.finds_keep_iff quiet more).trans (ih.trans (shares_keep_iff quiet).symm)
  | replace found more ih =>
    exact ⟨spaced.shares_of_finds_replace found more ih.1,
      spaced.finds_of_shares_replace found more ih.2⟩

end Spaced

def Grows (table : Table) : Prop :=
  ∀ s ∈ table.entries, s.sought.toList.length < s.replacement.toList.length

theorem Passes.output_eq (passes : table.Passes text pieces) (kept : pieces.all Piece.isKept) :
    pieces.flatMap Piece.output = text := by
  induction passes with
  | done => rfl
  | keep quiet more ih =>
    have rest := ih (by simpa [Piece.isKept] using kept)
    simp [Piece.output, rest]
  | replace found more ih => simp [Piece.isKept] at kept

theorem Passes.length_output (grows : table.Grows) (passes : table.Passes text pieces) :
    text.length ≤ (pieces.flatMap Piece.output).length ∧
      (¬ pieces.all Piece.isKept → text.length < (pieces.flatMap Piece.output).length) := by
  induction passes with
  | done => simp
  | @keep c rest pieces quiet more ih =>
    simp only [List.flatMap_cons, Piece.output, List.singleton_append, List.length_cons,
      List.all_cons, Piece.isKept, Bool.true_and]
    obtain ⟨bounded, longer⟩ := ih
    exact ⟨Nat.succ_le_succ bounded, fun changed => Nat.succ_lt_succ (longer changed)⟩
  | @replace s rest pieces found more ih =>
    have longer := grows s (mem_of_longestAt? found)
    simp only [List.flatMap_cons, Piece.output, List.length_append]
    exact ⟨by omega, fun _ => by omega⟩

theorem toList_apply (table : Table) (line : String) :
    (table.apply line).toList = (table.pieces 0 line.toList).flatMap Piece.output := by
  rw [apply, String.toList_ofList]

theorem apply_eq_self_iff (grows : table.Grows) (line : String) :
    table.apply line = line ↔ ¬ table.Finds line.toList := by
  have passes := table.passes_pieces line.toList
  have kept : (table.pieces 0 line.toList).all Piece.isKept ↔ ¬ table.Finds line.toList :=
    passes.all_isKept_iff.trans (by simp [Finds])
  rw [← kept]
  constructor
  · intro same
    by_contra changed
    have longer := (passes.length_output grows).2 changed
    rw [← toList_apply, same] at longer
    omega
  · intro all
    rw [apply, passes.output_eq all, String.ofList_toList]

theorem not_finds_iff (line : String) :
    ¬ table.Finds line.toList ↔ ∀ s ∈ table.entries, ¬ Text.contains line s.sought := by
  simp [Finds, Text.contains_iff_infix]

end Table

end Recast.Substitution

namespace Recast.Dialect

open Substitution
open Text (openBrace closeBrace)

variable {d : Dialect}

theorem eq_of_builtin (known : d ∈ builtins) : d = fft4g ∨ d = fftsg := by
  simpa [builtins] using known

theorem spaced_of_builtin (known : d ∈ builtins) : d.substitutions.Spaced := by
  obtain rfl | rfl := eq_of_builtin known
  · exact ⟨by decide, by decide, by decide, by decide⟩
  · exact ⟨by decide, by decide, by decide, by decide⟩

theorem grows_of_builtin (known : d ∈ builtins) : d.substitutions.Grows := by
  obtain rfl | rfl := eq_of_builtin known
  · unfold Table.Grows
    decide
  · unfold Table.Grows
    decide

-- Of the texts that are sought only one has a blank at its end.
theorem blank_end_of_builtin (known : d ∈ builtins) :
    (∀ s ∈ d.substitutions.entries,
      s.sought.toList.getLast? = some ' ' → s.sought = " atan(1.0) ") ∧
    ∃ s ∈ d.substitutions.entries, s.sought = " atan(1.0) " := by
  obtain rfl | rfl := eq_of_builtin known
  · decide
  · decide

theorem not_shares_iff_of_builtin (known : d ∈ builtins) (line : String) :
    ¬ d.substitutions.Shares line.toList ↔
      ∀ t ∈ d.substitutions.entries, ¬ Text.contains line (" atan(1.0)" ++ t.sought) := by
  have spaced := spaced_of_builtin known
  obtain ⟨only, s, member, sought⟩ := blank_end_of_builtin known
  have joined : ∀ t ∈ d.substitutions.entries, (" atan(1.0)" ++ t.sought).toList =
      " atan(1.0) ".toList ++ t.sought.toList.tail := by
    intro t other
    rw [String.toList_append]
    nth_rewrite 1 [spaced.sought_eq other]
    rfl
  constructor
  · intro absent t other stands
    rw [Text.contains_iff_infix, joined t other] at stands
    exact absent ⟨s, member, by rw [sought]; rfl, t, other, by rwa [sought]⟩
  · rintro absent ⟨s', member', ends, t, other, stands⟩
    rw [only s' member' ends] at stands
    apply absent t other
    rwa [Text.contains_iff_infix, joined t other]

/-- A pass with the table of a known dialect leaves nothing that is sought, and a second pass
changes nothing, exactly if no call of `atan(1.0)` stands directly before a text that is sought. -/
theorem nothing_left_over_iff (d : Dialect) (known : d ∈ builtins) (line : String) :
    ((∀ s ∈ d.substitutions.entries, ¬ Text.contains (d.substitutions.apply line) s.sought) ↔
      ∀ s ∈ d.substitutions.entries, ¬ Text.contains line (" atan(1.0)" ++ s.sought)) ∧
    (d.substitutions.apply (d.substitutions.apply line) = d.substitutions.apply line ↔
      ∀ s ∈ d.substitutions.entries, ¬ Text.contains line (" atan(1.0)" ++ s.sought)) := by
  have passes := d.substitutions.passes_pieces line.toList
  have left : ¬ d.substitutions.Finds (d.substitutions.apply line).toList ↔
      ¬ d.substitutions.Shares line.toList := by
    rw [Table.toList_apply, (spaced_of_builtin known).finds_output_iff passes]
  rw [Table.apply_eq_self_iff (grows_of_builtin known), ← Table.not_finds_iff, left,
    not_shares_iff_of_builtin known]
  exact ⟨Iff.rfl, Iff.rfl⟩

theorem nothing_left_over_behind_operator :
    fftsg ∈ builtins ∧
      fftsg.substitutions.apply "w = atan(1.0) * -sin(b);" = "w = (Math.PI / 4) * -Math.Sin(b);" ∧
      (∀ s ∈ fftsg.substitutions.entries,
        ¬ Text.contains "w = atan(1.0) * -sin(b);" (" atan(1.0)" ++ s.sought)) ∧
      ∀ s ∈ fftsg.substitutions.entries,
        ¬ Text.contains (fftsg.substitutions.apply "w = atan(1.0) * -sin(b);") s.sought := by
  have known : fftsg ∈ builtins := by simp [builtins]
  have apart : ∀ s ∈ fftsg.substitutions.entries,
      ¬ Text.contains "w = atan(1.0) * -sin(b);" (" atan(1.0)" ++ s.sought) := by decide
  exact ⟨known, rfl, apart, (nothing_left_over_iff fftsg known _).1.2 apart⟩

-- The blank between the two calls belongs to the first, so the second is no longer found.
theorem negated_call_left_over :
    let line := "    x = atan(1.0) -sin(a) + sin(b);"
    fftsg.recast ["void f()", openBrace, line, closeBrace] =
      .ok ["internal static void f()", openBrace,
        "    x = (Math.PI / 4) -sin(a) + Math.Sin(b);", closeBrace] ∧
    ⟨" -sin(", " -Math.Sin("⟩ ∈ fftsg.substitutions.entries ∧
    Text.contains (fftsg.substitutions.apply line) " -sin(" ∧
    fftsg.substitutions.apply (fftsg.substitutions.apply line) ≠
      fftsg.substitutions.apply line := by
  exact ⟨rfl, by decide, by decide, by decide⟩

end Recast.Dialect
