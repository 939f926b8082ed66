import Mathlib.Data.List.Basic
import Mathlib.Tactic.SplitIfs

set_option autoImplicit false

theorem Except.map_eq_ok_iff {ε α β : Type} {f : α → β} {x : Except ε α} {b : β} :
    x.map f = .ok b ↔ ∃ a, x = .ok a ∧ f a = b := by
  cases x <;> simp [Except.map]

theorem Except.mapError_eq_ok_iff {ε ε' α : Type} {x : Except ε α} {f : ε → ε'} {a : α} :
    x.mapError f = .ok a ↔ x = .ok a := by
  cases x <;> simp [Except.mapError]

theorem Except.bind_eq_ok_iff {ε α β : Type} {x : Except ε α} {f : α → Except ε β} {b : β} :
    (x >>= f) = .ok b ↔ ∃ a, x = .ok a ∧ f a = .ok b := by
  cases x <;> simp [bind, Except.bind]

namespace Recast

theorem add_length_cons {α : Type} (n : Nat) (x : α) (xs : List α) :
    n + (x :: xs).length = n + 1 + xs.length := by
  rw [List.length_cons]
  omega

theorem add_length_region {α : Type} (n : Nat) (first last : α) (inner : List α) :
    n + (first :: inner ++ [last]).length = n + 1 + inner.length + 1 := by
  rw [List.cons_append, add_length_cons, List.length_append]
  rfl

theorem append_cons_unique {α : Type} {p : α → Bool} {xs xs' ys ys' : List α} {y y' : α}
    (stays : ∀ x ∈ xs, p x = false) (ends : p y = true) (stays' : ∀ x ∈ xs', p x = false)
    (ends' : p y' = true) (same : xs ++ y :: ys = xs' ++ y' :: ys') :
    xs = xs' ∧ y = y' ∧ ys = ys' := by
  induction xs generalizing xs' with
  | nil =>
    cases xs' with
    | nil => simpa using same
    | cons x' xs' =>
      obtain rfl : y = x' := (List.cons.inj same).1
      simp [stays' y (by simp)] at ends
  | cons x xs ih =>
    cases xs' with
    | nil =>
      obtain rfl : x = y' := (List.cons.inj same).1
      simp [stays x (by simp)] at ends'
    | cons x' xs' =>
      obtain ⟨rfl, tails⟩ := List.cons.inj same
      obtain ⟨rfl, rfl, rfl⟩ := ih (fun x member => stays x (List.mem_cons_of_mem _ member))
        (fun x member => stays' x (List.mem_cons_of_mem _ member)) tails
      simp

theorem mem_take_of_getElem? {α : Type} {xs : List α} {x : α} {i j : Nat} (before : j < i)
    (here : xs[j]? = some x) : x ∈ xs.take i :=
  List.mem_of_getElem? ((List.getElem?_take_of_lt before).trans here)

-- A place in a list, counted from one, as what stands before it, there and after it.
theorem exists_split_iff {α : Type} {xs : List α} {x : α} {n : Nat} {p : List α → List α → Prop} :
    (∃ before after, xs = before ++ x :: after ∧ n = before.length + 1 ∧ p before after) ↔
      1 ≤ n ∧ xs[n - 1]? = some x ∧ p (xs.take (n - 1)) (xs.drop n) := by
  constructor
  · rintro ⟨before, after, rfl, rfl, holds⟩
    simpa using holds
  · rintro ⟨positive, here, holds⟩
    obtain ⟨present, value⟩ := List.getElem?_eq_some_iff.1 here
    refine ⟨xs.take (n - 1), xs.drop n, ?_, ?_, holds⟩
    · have next : n - 1 + 1 = n := by omega
      have rest := List.drop_eq_getElem_cons present
      rw [value, next] at rest
      rw [← rest, List.take_append_drop]
    · rw [List.length_take]
      omega

theorem filterMap_split {α β : Type} {f : α → Option β} {xs : List α} {y : β} {a b i : Nat}
    (after : a ≤ i) (early : i < b) (here : xs[i]?.bind f = some y) :
    ((xs.drop a).take (b - a)).filterMap f =
      ((xs.drop a).take (i - a)).filterMap f ++
        y :: ((xs.drop (i + 1)).take (b - (i + 1))).filterMap f := by
  obtain ⟨x, found, value⟩ := Option.bind_eq_some_iff.1 here
  obtain ⟨present, rfl⟩ := List.getElem?_eq_some_iff.1 found
  have sizes : b - a = (i - a) + ((b - (i + 1)) + 1) := by omega
  have position : a + (i - a) = i := by omega
  rw [sizes, List.take_add, List.drop_drop, position, List.drop_eq_getElem_cons present,
    List.take_succ_cons, List.filterMap_append, List.filterMap_cons_some value]

theorem infix_append_iff_tail {x xs ys : List Char} :
    x <:+: xs ++ ys ↔ (∃ tail, tail ≠ [] ∧ tail <:+ xs ∧ x <+: tail ++ ys) ∨ x <:+: ys := by
  induction xs with
  | nil => simp
  | cons c xs ih =>
    rw [List.cons_append, List.infix_cons_iff, ih]
    constructor
    · rintro (here | ⟨tail, nonempty, suffix, there⟩ | later)
      · exact .inl ⟨c :: xs, by simp, List.suffix_rfl, here⟩
      · exact .inl ⟨tail, nonempty, List.suffix_cons_iff.2 (.inr suffix), there⟩
      · exact .inr later
    · rintro (⟨tail, nonempty, suffix, there⟩ | later)
      · rcases List.suffix_cons_iff.1 suffix with rfl | inner
        · exact .inl there
        · exact .inr (.inl ⟨tail, nonempty, inner, there⟩)
      · exact .inr (.inr later)

theorem not_mem_of_mem_splitOn {c : Char} {text part : List Char} (member : part ∈ text.splitOn c) :
    c ∉ part := by
  induction text generalizing part with
  | nil => simp_all
  | cons d rest ih =>
    rw [List.splitOn_cons_eq_if_modifyHead] at member
    obtain ⟨first, others, cut⟩ := List.exists_cons_of_ne_nil (List.splitOn_ne_nil c rest)
    split_ifs at member with same
    · rcases List.mem_cons.1 member with rfl | later
      · exact List.not_mem_nil
      · exact ih later
    · rw [cut, List.modifyHead_cons] at member
      rw [cut] at ih
      rcases List.mem_cons.1 member with rfl | later
      · have other : d ≠ c := by simpa using same
        simp [other.symm, ih List.mem_cons_self]
      · exact ih (List.mem_cons_of_mem _ later)

end Recast
