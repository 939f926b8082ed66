import Mathlib.Tactic.Common
import Recast.Pattern.Reader

set_option autoImplicit false

namespace Recast.Pattern

variable {e f : Expr} {front u w back : List Char} {c : Char} {least : Nat} {more : Option Nat}

theorem matches_empty_iff : Matches .empty front w back ↔ w = [] := by
  constructor
  · intro found
    cases found
    rfl
  · rintro rfl
    exact .empty front back

theorem matches_one_iff {s : CharSet} :
    Matches (.one s) front w back ↔ ∃ c, s.contains c ∧ w = [c] := by
  constructor
  · intro found
    cases found with
    | one _ c _ _ member => exact ⟨c, member, rfl⟩
  · rintro ⟨c, member, rfl⟩
    exact .one s c front back member

theorem matches_assert_iff {a : Assertion} :
    Matches (.assert a) front w back ↔ a.holds ⟨front.getLast?, back.head?⟩ ∧ w = [] := by
  constructor
  · intro found
    cases found with
    | assert _ _ _ holds => exact ⟨holds, rfl⟩
  · rintro ⟨holds, rfl⟩
    exact .assert a front back holds

theorem matches_seq_iff :
    Matches (.seq e f) front w back ↔
      ∃ u v, w = u ++ v ∧ Matches e front u (v ++ back) ∧ Matches f (front ++ u) v back := by
  constructor
  · intro found
    cases found with
    | seq first second => exact ⟨_, _, rfl, first, second⟩
  · rintro ⟨u, v, rfl, first, second⟩
    exact .seq first second

theorem matches_alt_iff :
    Matches (.alt e f) front w back ↔ Matches e front w back ∨ Matches f front w back := by
  constructor
  · intro found
    cases found with
    | left first => exact .inl first
    | right second => exact .inr second
  · rintro (first | second)
    · exact .left first
    · exact .right second

theorem matches_andThen_iff :
    Matches (e.andThen f) front w back ↔ Matches (.seq e f) front w back := by
  cases e <;> simp [Expr.andThen, matches_seq_iff, matches_empty_iff]

section Repetition

theorem Matches.rep_of_le {m n : Nat} (found : Matches (.rep 0 (some m) e) front w back)
    (le : m ≤ n) : Matches (.rep 0 (some n) e) front w back := by
  induction m generalizing n front w with
  | zero =>
    cases found
    exact .done (some n) e front back
  | succ m ih =>
    obtain ⟨n, rfl⟩ : ∃ k, n = k + 1 := ⟨n - 1, by omega⟩
    cases found with
    | done => exact .done (some (n + 1)) e front back
    | mayOnce first rest => exact .mayOnce first (ih rest (by omega))

-- Rounds that match nothing make up for those that are missing.
theorem Matches.rep_of_nil {m n : Nat} (found : Matches (.rep m more e) front w back)
    (nothing : Matches e front [] (w ++ back)) (le : m ≤ n) :
    Matches (.rep n more e) front w back := by
  obtain ⟨k, rfl⟩ := Nat.exists_eq_add_of_le le
  induction k with
  | zero => exact found
  | succ k ih =>
    have padded : Matches (.rep (m + k) more e) (front ++ []) w back := by
      rw [List.append_nil]
      exact ih (by omega)
    exact .must nothing padded

theorem nullable_iff :
    e.nullable ⟨front.getLast?, back.head?⟩ ↔ Matches e front [] back := by
  induction e with
  | empty => simp [Expr.nullable, matches_empty_iff]
  | one s => simp [Expr.nullable, matches_one_iff]
  | assert a => simp [Expr.nullable, matches_assert_iff]
  | seq e f ihe ihf => simp [Expr.nullable, matches_seq_iff, ihe, ihf]
  | alt e f ihe ihf => simp [Expr.nullable, matches_alt_iff, ihe, ihf]
  | rep least more e ih =>
    simp only [Expr.nullable, Bool.or_eq_true, beq_iff_eq, ih]
    constructor
    · rintro (rfl | nothing)
      · exact .done more e front back
      · exact (Matches.done more e front back).rep_of_nil nothing (Nat.zero_le least)
    · intro found
      generalize nothing : ([] : List Char) = w at found
      cases found with
      | done => exact .inl rfl
      | must first rest =>
        obtain ⟨rfl, rfl⟩ := List.append_eq_nil_iff.1 nothing.symm
        exact .inr first
      | mayOnce first rest => exact .inl rfl
      | may first rest => exact .inl rfl

theorem mem_rounds_succ {r : Expr} {skips : Bool} :
    r ∈ Expr.rounds skips e (least + 1) more ↔
      ∃ k, (k = least ∨ skips ∧ k < least) ∧ .rep k more e = r := by
  cases skips with
  | false => simp [Expr.rounds, eq_comm]
  | true =>
    simp only [Expr.rounds, if_true, List.mem_map, List.mem_range]
    refine exists_congr fun k => and_congr_left fun _ => ?_
    simp only [true_and]
    omega

-- A round that matched nothing is one of those that the rest may leave out.
theorem exists_rounds_succ {r : Expr} (left : r ∈ Expr.rounds true e least more)
    (found : Matches r front w back) :
    ∃ r ∈ Expr.rounds true e (least + 1) more, Matches r front w back := by
  cases least with
  | succ least =>
    obtain ⟨k, bound, rfl⟩ := mem_rounds_succ.1 left
    exact ⟨_, mem_rounds_succ.2 ⟨k, .inr ⟨rfl, by omega⟩, rfl⟩, found⟩
  | zero =>
    refine ⟨.rep 0 more e, mem_rounds_succ.2 ⟨0, .inl rfl, rfl⟩, ?_⟩
    rcases more with _ | _ | m
    · obtain rfl : r = .rep 0 none e := by simpa [Expr.rounds] using left
      exact found
    · simp [Expr.rounds] at left
    · obtain rfl : r = .rep 0 (some m) e := by simpa [Expr.rounds] using left
      exact found.rep_of_le (by omega)

theorem exists_rounds_some_succ {r : Expr} {m : Nat}
    (left : r ∈ Expr.rounds true e 0 (some m)) (found : Matches r front w back) :
    ∃ r ∈ Expr.rounds true e 0 (some (m + 1)), Matches r front w back := by
  cases m with
  | zero => simp [Expr.rounds] at left
  | succ m =>
    obtain rfl : r = .rep 0 (some m) e := by simpa [Expr.rounds] using left
    exact ⟨_, by simp [Expr.rounds], found.rep_of_le (Nat.le_succ m)⟩

-- `e` matches at the place and takes `c`, and one of `left` matches behind it.
def Takes (e : Expr) (left : List Expr) (front : List Char) (c : Char) (u back : List Char) :
    Prop :=
  ∃ v t, u = v ++ t ∧ Matches e front (c :: v) (t ++ back) ∧
    ∃ r ∈ left, Matches r (front ++ c :: v) t back

theorem Takes.mono {left left' : List Expr} (begins : Takes e left front c u back)
    (covers : ∀ r ∈ left, ∀ front w, Matches r front w back → ∃ r ∈ left', Matches r front w back) :
    Takes e left' front c u back := by
  obtain ⟨v, t, split, round, r, member, further⟩ := begins
  exact ⟨v, t, split, round, covers r member _ _ further⟩

theorem nullable_of_nil (nothing : Matches e front [] (c :: u ++ back)) :
    e.nullable ⟨front.getLast?, some c⟩ = true :=
  nullable_iff.2 nothing

theorem Matches.takes (found : Matches (.rep least more e) front (c :: u) back) :
    Takes e (Expr.rounds (e.nullable ⟨front.getLast?, some c⟩) e least more) front c u back := by
  generalize whole : Expr.rep least more e = expr at found
  generalize text : c :: u = w at found
  -- On the match, since a round that matches nothing leaves the text as it is.
  induction found generalizing least more with
  | done => cases text
  | @must least more e front first rest back here next _ ih =>
    cases whole
    cases first with
    | nil =>
      obtain rfl : c :: u = rest := text
      rw [List.append_nil] at ih
      rw [nullable_of_nil here] at ih ⊢
      exact (ih rfl rfl).mono fun r left _ _ => exists_rounds_succ left
    | cons c' v =>
      obtain ⟨rfl, rfl⟩ := List.cons.inj text
      exact ⟨v, rest, rfl, here, _, mem_rounds_succ.2 ⟨least, .inl rfl, rfl⟩, next⟩
  | @mayOnce more e front first rest back here next _ ih =>
    cases whole
    cases first with
    | nil =>
      obtain rfl : c :: u = rest := text
      rw [List.append_nil] at ih
      rw [nullable_of_nil here] at ih ⊢
      exact (ih rfl rfl).mono fun r left _ _ => exists_rounds_some_succ left
    | cons c' v =>
      obtain ⟨rfl, rfl⟩ := List.cons.inj text
      exact ⟨v, rest, rfl, here, _, List.mem_singleton.2 rfl, next⟩
  | @may e front first rest back here next _ ih =>
    cases whole
    cases first with
    | nil =>
      obtain rfl : c :: u = rest := text
      rw [List.append_nil] at ih
      exact ih rfl rfl
    | cons c' v =>
      obtain ⟨rfl, rfl⟩ := List.cons.inj text
      exact ⟨v, rest, rfl, here, _, List.mem_singleton.2 rfl, next⟩
  | _ => cases whole

theorem Matches.of_takes
    (begins : Takes e (Expr.rounds (e.nullable ⟨front.getLast?, some c⟩) e least more) front c
      u back) : Matches (.rep least more e) front (c :: u) back := by
  obtain ⟨v, t, rfl, round, r, member, further⟩ := begins
  cases least with
  | succ least =>
    obtain ⟨k, bound, rfl⟩ := mem_rounds_succ.1 member
    have shorter : Matches (.rep (k + 1) more e) front (c :: v ++ t) back := .must round further
    rcases bound with rfl | ⟨skips, less⟩
    · exact shorter
    · exact shorter.rep_of_nil (nullable_iff.1 skips) (by omega)
  | zero =>
    rcases more with _ | _ | m
    · obtain rfl : r = .rep 0 none e := by simpa [Expr.rounds] using member
      exact .may round further
    · simp [Expr.rounds] at member
    · obtain rfl : r = .rep 0 (some m) e := by simpa [Expr.rounds] using member
      exact .mayOnce round further

theorem matches_rep_cons_iff :
    Matches (.rep least more e) front (c :: u) back ↔
      Takes e (Expr.rounds (e.nullable ⟨front.getLast?, some c⟩) e least more) front c u back :=
  ⟨Matches.takes, Matches.of_takes⟩

end Repetition

theorem matches_seq_cons_iff :
    Matches (.seq e f) front (c :: u) back ↔
      Takes e [f] front c u back ∨
        e.nullable ⟨front.getLast?, some c⟩ ∧ Matches f front (c :: u) back := by
  rw [matches_seq_iff]
  constructor
  · rintro ⟨_ | ⟨c', v⟩, t, split, first, second⟩
    · obtain rfl : c :: u = t := split
      rw [List.append_nil] at second
      exact .inr ⟨nullable_of_nil first, second⟩
    · obtain ⟨rfl, rfl⟩ := List.cons.inj split
      exact .inl ⟨v, t, rfl, first, f, List.mem_singleton.2 rfl, second⟩
  · rintro (⟨v, t, rfl, first, r, member, second⟩ | ⟨skips, second⟩)
    · obtain rfl := List.mem_singleton.1 member
      exact ⟨c :: v, t, rfl, first, second⟩
    · exact ⟨[], c :: u, rfl, nullable_iff.1 skips, by rwa [List.append_nil]⟩

-- What is left of `e` and then of what follows it.
theorem exists_andThen_iff {rests left : List Expr}
    (rests_iff : ∀ u back, (∃ r ∈ rests, Matches r (front ++ [c]) u back) ↔
      Matches e front (c :: u) back) :
    (∃ d ∈ rests, ∃ r ∈ left, Matches (d.andThen r) (front ++ [c]) u back) ↔
      Takes e left front c u back := by
  simp only [Takes, ← rests_iff, matches_andThen_iff, matches_seq_iff, List.append_assoc,
    List.singleton_append]
  constructor
  · rintro ⟨d, member, r, member', v, t, split, first, second⟩
    exact ⟨v, t, split, ⟨d, member, first⟩, r, member', second⟩
  · rintro ⟨v, t, split, ⟨d, member, first⟩, r, member', second⟩
    exact ⟨d, member, r, member', v, t, split, first, second⟩

/-- What is left of an expression after a character matches the rest exactly if the expression
matches the character with the rest. -/
theorem advance_iff :
    (∃ r ∈ e.advance ⟨front.getLast?, some c⟩ c, Matches r (front ++ [c]) u back) ↔
      Matches e front (c :: u) back := by
  induction e generalizing u back with
  | empty => simp [Expr.advance, matches_empty_iff]
  | one s =>
    simp only [Expr.advance, matches_one_iff]
    split <;> simp_all [matches_empty_iff]
  | assert a => simp [Expr.advance, matches_assert_iff]
  | seq e f ihe ihf =>
    rw [matches_seq_cons_iff, ← ihf, ← exists_andThen_iff fun u back => ihe]
    by_cases skips : e.nullable ⟨front.getLast?, some c⟩ <;>
      simp [Expr.advance, skips, or_and_right, exists_or]
  | alt e f ihe ihf =>
    simp only [Expr.advance, matches_alt_iff, ← ihe, ← ihf, List.mem_append, or_and_right,
      exists_or]
  | rep least more e ih =>
    rw [matches_rep_cons_iff, ← exists_andThen_iff fun u back => ih]
    simp [Expr.advance]

def Begins (e : Expr) (front text : List Char) : Prop :=
  ∃ u v, text = u ++ v ∧ Matches e front u v

def Occurs (e : Expr) (front text : List Char) : Prop :=
  ∃ passed rest, text = passed ++ rest ∧ Begins e (front ++ passed) rest

theorem begins_nil_iff : Begins e front [] ↔ e.nullable ⟨front.getLast?, none⟩ := by
  have place : (none : Option Char) = ([] : List Char).head? := rfl
  rw [place, nullable_iff]
  simp [Begins]

theorem begins_cons_iff {rest : List Char} :
    Begins e front (c :: rest) ↔ e.nullable ⟨front.getLast?, some c⟩ ∨
      ∃ r ∈ e.advance ⟨front.getLast?, some c⟩ c, Begins r (front ++ [c]) rest := by
  have place : some c = (c :: rest).head? := rfl
  constructor
  · rintro ⟨_ | ⟨c', u⟩, v, split, found⟩
    · obtain rfl : c :: rest = v := split
      exact .inl (nullable_iff.2 found)
    · obtain ⟨rfl, rfl⟩ := List.cons.inj split
      obtain ⟨r, left, further⟩ := advance_iff.2 found
      exact .inr ⟨r, left, u, v, rfl, further⟩
  · rintro (nothing | ⟨r, left, u, v, rfl, further⟩)
    · rw [place] at nothing
      exact ⟨[], c :: rest, rfl, nullable_iff.1 nothing⟩
    · exact ⟨c :: u, v, rfl, advance_iff.1 ⟨r, left, further⟩⟩

theorem occurs_nil_iff : Occurs e front [] ↔ Begins e front [] := by
  simp [Occurs]

theorem occurs_cons_iff {rest : List Char} :
    Occurs e front (c :: rest) ↔ Begins e front (c :: rest) ∨ Occurs e (front ++ [c]) rest := by
  constructor
  · rintro ⟨_ | ⟨c', passed⟩, left, split, begins⟩
    · obtain rfl : c :: rest = left := split
      rw [List.append_nil] at begins
      exact .inl begins
    · obtain ⟨rfl, rfl⟩ := List.cons.inj split
      exact .inr ⟨passed, left, rfl, by simpa using begins⟩
  · rintro (begins | ⟨passed, left, rfl, begins⟩)
    · exact ⟨[], c :: rest, rfl, by simpa using begins⟩
    · exact ⟨c :: passed, left, rfl, by simpa using begins⟩

theorem Begins.occurs {text : List Char} (begins : Begins e front text) : Occurs e front text :=
  ⟨[], text, rfl, by simpa using begins⟩

theorem search_iff {live : List Expr} {text : List Char} (fresh : e ∈ live) :
    e.search front.getLast? live text ↔
      (∃ r ∈ live, Begins r front text) ∨ Occurs e front text := by
  induction text generalizing front live with
  | nil =>
    simp only [Expr.search, List.any_eq_true, ← begins_nil_iff, occurs_nil_iff]
    constructor
    · exact .inl
    · rintro (found | found)
      · exact found
      · exact ⟨e, fresh, found⟩
  | cons c rest ih =>
    have last : some c = (front ++ [c]).getLast? := by simp
    simp only [Expr.search, Bool.or_eq_true, List.any_eq_true]
    rw [last, ih (by simp), ← last, occurs_cons_iff]
    simp only [begins_cons_iff, List.mem_eraseDups, List.mem_cons, List.mem_flatMap]
    constructor
    · rintro (⟨r, member, nothing⟩ | ⟨r, rfl | ⟨d, member, left⟩, begins⟩ | later)
      · exact .inl ⟨r, member, .inl nothing⟩
      · exact .inr (.inr begins.occurs)
      · exact .inl ⟨d, member, .inr ⟨r, left, begins⟩⟩
      · exact .inr (.inr later)
    · rintro (⟨r, member, nothing | ⟨d, left, begins⟩⟩ | (nothing | ⟨d, left, begins⟩) | later)
      · exact .inl ⟨r, member, nothing⟩
      · exact .inr (.inl ⟨d, .inr ⟨r, member, left⟩, begins⟩)
      · exact .inl ⟨e, fresh, nothing⟩
      · exact .inr (.inl ⟨d, .inr ⟨e, fresh, left⟩, begins⟩)
      · exact .inr (.inr later)

theorem occursIn_iff {text : List Char} :
    e.occursIn text ↔
      ∃ front middle back, text = front ++ middle ++ back ∧ Matches e front middle back := by
  have start : (none : Option Char) = ([] : List Char).getLast? := rfl
  rw [Expr.occursIn, start, search_iff (List.mem_singleton.2 rfl)]
  constructor
  · rintro (⟨r, member, u, v, split, found⟩ | ⟨passed, rest, rfl, u, v, rfl, found⟩)
    · obtain rfl := List.mem_singleton.1 member
      exact ⟨[], u, v, split, found⟩
    · exact ⟨passed, u, v, (List.append_assoc passed u v).symm, found⟩
  · rintro ⟨front, middle, back, rfl, found⟩
    exact .inr ⟨front, middle ++ back, List.append_assoc front middle back, middle, back, rfl,
      found⟩

end Recast.Pattern
