import Mathlib.Data.List.Nodup
import Recast.Dialect.Builtin
import Recast.Proofs.Cuts

set_option autoImplicit false

namespace Recast.Substitution

def replacement? (entries : List Substitution) (text : String) : Option String :=
  (entries.find? (·.sought = text)).map (·.replacement)

def SameRules (entries others : List Substitution) : Prop :=
  ∀ text ≠ "", replacement? entries text = replacement? others text

variable {entries others : List Substitution} {s t : Substitution} {text r : String}
  {rest : List Char}

theorem find?_eq_some_iff :
    entries.find? (·.sought = text) = some s ↔
      s.sought = text ∧ replacement? entries text = some s.replacement := by
  constructor
  · intro first
    have sought := List.find?_some first
    exact ⟨by simpa using sought, by rw [replacement?, first, Option.map_some]⟩
  · intro ⟨sought, first⟩
    obtain ⟨other, found, same⟩ := Option.map_eq_some_iff.1 first
    have sought' : other.sought = text := by simpa using List.find?_some found
    rw [found, Option.some.injEq]
    cases other
    cases s
    simp_all

theorem exists_replacement?_iff :
    (∃ r, replacement? entries text = some r) ↔ ∃ s ∈ entries, s.sought = text := by
  rw [← Option.isSome_iff_exists, replacement?, Option.isSome_map, List.find?_isSome]
  simp

theorem longestAt?_eq_some_iff :
    (Table.ofList entries).longestAt? rest = some s ↔
      s.sought ≠ "" ∧ replacement? entries s.sought = some s.replacement ∧
        s.sought.toList <+: rest ∧ ∀ text, (∃ r, replacement? entries text = some r) →
          text.toList <+: rest → text.toList <+: s.sought.toList := by
  constructor
  · intro found
    have nonempty := (Table.mem_ofList.1 (Table.mem_of_longestAt? found)).2
    have first := Table.find?_of_longestAt? found
    rw [Table.find?_ofList nonempty] at first
    refine ⟨nonempty, (find?_eq_some_iff.1 first).2, Table.prefix_of_longestAt? found, ?_⟩
    intro text listed there
    obtain ⟨t, member, rfl⟩ := exists_replacement?_iff.1 listed
    by_cases empty : t.sought = ""
    · simp [empty]
    · exact Table.prefix_longestAt? found (Table.mem_ofList.2 ⟨member, empty⟩) there
  · intro ⟨nonempty, first, here, longest⟩
    have member := List.mem_of_find?_eq_some (find?_eq_some_iff.2 ⟨rfl, first⟩)
    cases found : (Table.ofList entries).longestAt? rest with
    | none =>
      have absent := Table.longestAt?_eq_none_iff.1 found s (Table.mem_ofList.2 ⟨member, nonempty⟩)
      exact absurd here absent
    | some t =>
      -- Each of the two texts begins with the other, and the first entry for it is taken.
      have other := (Table.mem_ofList.1 (Table.mem_of_longestAt? found)).1
      have below := longest t.sought (exists_replacement?_iff.2 ⟨t, other, rfl⟩)
        (Table.prefix_of_longestAt? found)
      have above := Table.prefix_longestAt? found (Table.mem_ofList.2 ⟨member, nonempty⟩) here
      have same : t.sought = s.sought := by
        rw [← String.toList_inj]
        exact below.eq_of_length (Nat.le_antisymm below.length_le above.length_le)
      have chosen := Table.find?_of_longestAt? found
      rw [same, Table.find?_ofList nonempty, find?_eq_some_iff.2 ⟨rfl, first⟩] at chosen
      exact chosen.symm

theorem replacement?_eq_some_iff_mem (distinct : (entries.map (·.sought)).Nodup) :
    replacement? entries text = some r ↔ ⟨text, r⟩ ∈ entries := by
  constructor
  · intro first
    exact List.mem_of_find?_eq_some (find?_eq_some_iff.2 ⟨rfl, first⟩)
  · intro member
    obtain ⟨r', first⟩ := exists_replacement?_iff.2 ⟨_, member, rfl⟩
    have member' := List.mem_of_find?_eq_some (find?_eq_some_iff (s := ⟨text, r'⟩).2 ⟨rfl, first⟩)
    cases List.inj_on_of_nodup_map distinct member' member rfl
    exact first

-- At a place where the line ends with the text, nothing longer can stand.
theorem replacement?_eq_some_iff (nonempty : text ≠ "") :
    replacement? entries text = some r ↔
      (Table.ofList entries).longestAt? text.toList = some ⟨text, r⟩ := by
  rw [longestAt?_eq_some_iff]
  constructor
  · intro first
    exact ⟨nonempty, first, List.prefix_refl _, fun _ _ there => there⟩
  · intro chosen
    exact chosen.2.1

theorem sameRules_iff_longestAt? :
    SameRules entries others ↔
      ∀ rest, (Table.ofList entries).longestAt? rest = (Table.ofList others).longestAt? rest := by
  constructor
  · intro same rest
    have listed (text : String) (here : text ≠ "") : (∃ r, replacement? entries text = some r) ↔
        ∃ r, replacement? others text = some r := by rw [same text here]
    apply Option.ext
    intro s
    rw [longestAt?_eq_some_iff, longestAt?_eq_some_iff]
    apply and_congr_right
    intro nonempty
    rw [same s.sought nonempty]
    refine and_congr_right fun _ => and_congr_right fun _ => forall_congr' fun text => ?_
    by_cases empty : text = ""
    · simp [empty]
    · rw [listed text empty]
  · intro same text nonempty
    apply Option.ext
    intro r
    rw [replacement?_eq_some_iff nonempty, replacement?_eq_some_iff nonempty, same]

theorem Table.pieces_congr {table other : Table}
    (same : ∀ rest, table.longestAt? rest = other.longestAt? rest) (skip : Nat) (text : List Char) :
    table.pieces skip text = other.pieces skip text := by
  induction text generalizing skip with
  | nil => simp [pieces]
  | cons c rest ih =>
    cases skip with
    | zero => simp only [pieces, same, ih]
    | succ skip => exact ih skip

namespace SameRules

theorem equivalence : Equivalence SameRules where
  refl _ _ _ := rfl
  symm same text nonempty := (same text nonempty).symm
  trans same same' text nonempty := (same text nonempty).trans (same' text nonempty)

theorem pieces_eq (same : SameRules entries others) (line : String) :
    (Table.ofList entries).pieces 0 line.toList = (Table.ofList others).pieces 0 line.toList :=
  Table.pieces_congr (sameRules_iff_longestAt?.1 same) 0 line.toList

theorem perm (distinct : (entries.map (·.sought)).Nodup) (reordered : entries.Perm others) :
    SameRules entries others := by
  intro text _
  apply Option.ext
  intro r
  have distinct' : (others.map (·.sought)).Nodup := (reordered.map _).nodup_iff.1 distinct
  rw [replacement?_eq_some_iff_mem distinct, replacement?_eq_some_iff_mem distinct',
    reordered.mem_iff]

-- An entry without effect: it seeks nothing, or an earlier one seeks the same text.
theorem eraseIdx {i : Nat} (here : entries[i]? = some s)
    (idle : s.sought = "" ∨ ∃ t ∈ entries.take i, t.sought = s.sought) :
    SameRules entries (entries.eraseIdx i) := by
  intro text nonempty
  obtain ⟨present, rfl⟩ := List.getElem?_eq_some_iff.1 here
  have split : entries = entries.take i ++ entries[i] :: entries.drop (i + 1) := by
    rw [← List.drop_eq_getElem_cons present, List.take_append_drop]
  have first : entries.find? (·.sought = text) =
      (entries.take i ++ entries.drop (i + 1)).find? (·.sought = text) := by
    rw [List.find?_append]
    conv_lhs => rw [split, List.find?_append]
    by_cases sought : entries[i].sought = text
    · obtain ⟨t, member, same⟩ := idle.resolve_left (by rwa [sought])
      have found : ((entries.take i).find? (·.sought = text)).isSome := by
        rw [List.find?_isSome]
        exact ⟨t, member, by simpa using same.trans sought⟩
      rw [Option.or_of_isSome found, Option.or_of_isSome found]
    · rw [List.find?_cons_of_neg (by simpa using sought)]
  rw [replacement?, replacement?, first, List.eraseIdx_eq_take_drop_succ]

end SameRules

/-- Two tables choose alike at every place exactly if the first replacement for each text is the
same in both, and then they make the same of every line. So it is for entries in another order if no
two seek the same text, and without an entry that seeks nothing or what an earlier one seeks. -/
theorem order_of_entries_irrelevant (entries others : List Substitution) :
    (SameRules entries others ↔
      ∀ rest, (Table.ofList entries).longestAt? rest = (Table.ofList others).longestAt? rest) ∧
    (SameRules entries others → ∀ line,
      (Table.ofList entries).apply line = (Table.ofList others).apply line ∧
      (Table.ofList entries).leavesAlone line = (Table.ofList others).leavesAlone line) ∧
    ((entries.map (·.sought)).Nodup → entries.Perm others → SameRules entries others) ∧
    (∀ i s, entries[i]? = some s →
      (s.sought = "" ∨ ∃ t ∈ entries.take i, t.sought = s.sought) →
        SameRules entries (entries.eraseIdx i)) ∧
    Equivalence SameRules := by
  refine ⟨sameRules_iff_longestAt?, fun same line => ?_, SameRules.perm,
    fun i s => SameRules.eraseIdx, SameRules.equivalence⟩
  simp only [Table.apply, Table.leavesAlone, same.pieces_eq, and_self]

theorem order_of_trigonometry_irrelevant :
    let entries := Dialect.fftsg.substitutions.entries
    let others := entries.reverse ++ [⟨" sin(", " Math.Sinh("⟩, ⟨"", " "⟩]
    SameRules others entries ∧
      (Table.ofList others).apply " cos(t) - -sin(t) + sin(t)" =
        " Math.Cos(t) - -Math.Sin(t) + Math.Sin(t)" := by
  intro entries others
  have empty : SameRules others (others.eraseIdx 5) :=
    (order_of_entries_irrelevant others others).2.2.2.1 5 _ rfl (.inl rfl)
  have repeated : SameRules (others.eraseIdx 5) entries.reverse :=
    (order_of_entries_irrelevant (others.eraseIdx 5) others).2.2.2.1 4 _ rfl
      (.inr ⟨⟨" sin(", " Math.Sin("⟩, by decide, rfl⟩)
  have reversed : SameRules entries.reverse entries :=
    (order_of_entries_irrelevant entries.reverse entries).2.2.1 (by decide) entries.reverse_perm
  have same : SameRules others entries :=
    SameRules.equivalence.trans empty (SameRules.equivalence.trans repeated reversed)
  exact ⟨same, ((order_of_entries_irrelevant others entries).2.1 same _).1.trans (by decide)⟩

end Recast.Substitution
