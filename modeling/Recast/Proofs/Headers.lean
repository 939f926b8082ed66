import Recast.Proofs.Blocks
import Recast.Proofs.Grammar

set_option autoImplicit false

namespace Recast

open Text (openBrace closeBrace)

def Tag.ofFunction : Tag → Bool
  | .header | .opening | .closing | .body => true
  | .plain | .comment | .inclusion | .conditional => false

/-- The tags from `first` to `last` are those of one function. -/
structure FunctionAt (tags : List Tag) (first last : Nat) : Prop where
  ordered : first < last
  header : tags[first]? = some .header
  inner : ∀ k, first < k → k < last → tags[k]? = some .opening ∨ tags[k]? = some .body
  closing : tags[last]? = some .closing

namespace FunctionAt

variable {tags : List Tag} {first last : Nat}

theorem append (function : FunctionAt tags first last) (rest : List Tag) :
    FunctionAt (tags ++ rest) first last := by
  have kept {k : Nat} {tag : Tag} (here : tags[k]? = some tag) : (tags ++ rest)[k]? = some tag := by
    rw [List.getElem?_append_left (List.getElem?_eq_some_iff.1 here).1, here]
  refine ⟨function.ordered, kept function.header, ?_, kept function.closing⟩
  intro k after early
  exact (function.inner k after early).imp kept kept

theorem shift (function : FunctionAt tags first last) (before : List Tag) :
    FunctionAt (before ++ tags) (before.length + first) (before.length + last) := by
  have moved (k : Nat) : (before ++ tags)[before.length + k]? = tags[k]? := by
    rw [List.getElem?_append_right (Nat.le_add_right _ _), Nat.add_sub_cancel_left]
  refine ⟨Nat.add_lt_add_left function.ordered _, ?_, ?_, ?_⟩
  · rw [moved, function.header]
  · intro k after early
    obtain ⟨j, rfl⟩ := Nat.le.dest (show before.length ≤ k by omega)
    rw [moved]
    exact function.inner j (by omega) (by omega)
  · rw [moved, function.closing]

-- The ends of a function are told from the lines between by their tags.
theorem eq_first {i : Nat} (function : FunctionAt tags first last) (after : first ≤ i)
    (early : i ≤ last) (here : tags[i]? = some .header) : i = first := by
  by_contra other
  by_cases ends : i = last
  · subst ends
    simp [function.closing] at here
  · have inner := function.inner i (by omega) (by omega)
    simp [here] at inner

theorem between {i : Nat} (function : FunctionAt tags first last) (after : first ≤ i)
    (early : i ≤ last) (here : tags[i]? = some .opening) : first < i ∧ i < last := by
  constructor
  · apply Nat.lt_of_le_of_ne after
    rintro rfl
    simp [function.header] at here
  · apply Nat.lt_of_le_of_ne early
    rintro rfl
    simp [function.closing] at here

end FunctionAt

namespace Passage

variable {d : Dialect}

theorem functionAt_tags (inner : List String) :
    FunctionAt (.header :: inner.map bodyTag ++ [.closing]) 0 (inner.length + 1) := by
  refine ⟨by omega, rfl, ?_, by simp⟩
  intro k after early
  obtain ⟨j, rfl⟩ : ∃ j, k = j + 1 := ⟨k - 1, by omega⟩
  have present : j < (inner.map bodyTag).length := by
    rw [List.length_map]
    omega
  rw [List.cons_append, List.getElem?_cons_succ, List.getElem?_append_left present,
    List.getElem?_eq_getElem present, List.getElem_map, bodyTag]
  split_ifs <;> simp

theorem functionAt (p : Passage d) {tag : Tag} (member : tag ∈ p.tags) (function : tag.ofFunction) :
    FunctionAt p.tags 0 (p.tags.length - 1) := by
  cases p with
  | function header inner bare declares stays => simpa [tags] using functionAt_tags inner
  | comment | longComment | conditional | inclusion | blank =>
    simp only [tags, List.mem_replicate, List.mem_singleton] at member
    simp_all [Tag.ofFunction]

theorem exists_functionAt {i : Nat} {tag : Tag} (file : List (Passage d))
    (here : (file.flatMap tags)[i]? = some tag) (function : tag.ofFunction) :
    ∃ first last, FunctionAt (file.flatMap tags) first last ∧ first ≤ i ∧ i ≤ last := by
  induction file generalizing i with
  | nil => simp at here
  | cons p file ih =>
    rw [List.flatMap_cons] at here ⊢
    by_cases within : i < p.tags.length
    · rw [List.getElem?_append_left within] at here
      have found := p.functionAt (List.mem_of_getElem? here) function
      exact ⟨0, p.tags.length - 1, found.append _, by omega, by omega⟩
    · rw [List.getElem?_append_right (by omega)] at here
      obtain ⟨first, last, found, after, early⟩ := ih here
      exact ⟨_, _, found.shift p.tags, by omega, by omega⟩

end Passage

namespace Dialect

def emitBetween (d : Dialect) (lines : List String) (tags : List Tag) (first last : Nat) :
    List String :=
  (((d.emissions lines tags).drop first).take (last - first)).filterMap Emission.text?

variable {d : Dialect} {lines : List String} {tags : List Tag} {first last i : Nat}

theorem functionAt_around {tag : Tag} (accepted : d.scan lines = .ok tags)
    (here : tags[i]? = some tag) (function : tag.ofFunction) :
    ∃ first last, FunctionAt tags first last ∧ first ≤ i ∧ i ≤ last := by
  obtain ⟨file, -, rfl⟩ := Passage.exists_of_accepts (scan_eq_ok_iff.1 accepted)
  exact Passage.exists_functionAt file here function

theorem functionAt_of_opening (accepted : d.scan lines = .ok tags)
    (opening : tags[i]? = some .opening) :
    ∃ first last, FunctionAt tags first last ∧ first < i ∧ i < last := by
  obtain ⟨first, last, function, after, early⟩ := functionAt_around accepted opening rfl
  exact ⟨first, last, function, function.between after early opening⟩

theorem functionAt_of_header (accepted : d.scan lines = .ok tags)
    (header : tags[i]? = some .header) : ∃ last, FunctionAt tags i last := by
  obtain ⟨first, last, function, after, early⟩ := functionAt_around accepted header rfl
  obtain rfl := function.eq_first after early header
  exact ⟨last, function⟩

theorem exists_line {tag : Tag} (accepted : d.scan lines = .ok tags) (here : tags[i]? = some tag) :
    ∃ line, lines[i]? = some line ∧ (lines.zip tags)[i]? = some (line, tag) := by
  have present : i < lines.length := by
    rw [← length_of_scan accepted]
    exact (List.getElem?_eq_some_iff.1 here).1
  have found := List.getElem?_eq_getElem present
  exact ⟨lines[i], found, List.getElem?_zip_eq_some.2 ⟨found, here⟩⟩

-- Inside a function the line alone decides whether it is an opening brace.
theorem opening_iff (accepted : d.scan lines = .ok tags) (function : FunctionAt tags first last)
    (after : first < i) (early : i < last) :
    tags[i]? = some .opening ↔ lines[i]? = some openBrace := by
  constructor
  · intro here
    obtain ⟨line, found, entry⟩ := exists_line accepted here
    rw [found, line_of_opening accepted (List.mem_of_getElem? entry)]
  · intro brace
    rcases function.inner i after early with opening | body
    · exact opening
    · obtain ⟨line, found, entry⟩ := exists_line accepted body
      have other := (line_of_body accepted (List.mem_of_getElem? entry)).1
      exact absurd (Option.some.inj (found.symm.trans brace)) other

theorem emit_eq_emitBetween (accepted : d.scan lines = .ok tags) :
    d.emit lines tags = d.emitBetween lines tags 0 lines.length := by
  have size : (d.emissions lines tags).length = lines.length := by
    rw [emissions, Emitter.length_run, List.length_zip, length_of_scan accepted, Nat.min_self]
  rw [emitBetween, List.drop_zero, Nat.sub_zero, ← size, List.take_length, emit]

theorem recast_eq_header_opening {header : String} (accepted : d.scan lines = .ok tags)
    (function : FunctionAt tags first last) (above : lines[first]? = some header)
    (after : first < i)
    (opening : tags[i]? = some .opening) :
    d.recast lines = .ok (d.emitBetween lines tags 0 first ++ (d.visibility ++ header) ::
      (d.emitBetween lines tags (first + 1) i ++
        openBrace :: d.emitBetween lines tags (i + 1) lines.length)) := by
  obtain ⟨line, found, entry⟩ := exists_line accepted function.header
  obtain rfl : line = header := by simpa [found] using above
  obtain ⟨brace, foundBrace, entryBrace⟩ := exists_line accepted opening
  obtain rfl := line_of_opening accepted (List.mem_of_getElem? entryBrace)
  have bound : i < lines.length := (List.getElem?_eq_some_iff.1 foundBrace).1
  have atHeader : (d.emissions lines tags)[first]?.bind Emission.text? =
      some (d.visibility ++ line) := by
    rw [text?_emission, outputAt_header entry]
  have atBrace : (d.emissions lines tags)[i]?.bind Emission.text? = some openBrace := by
    rw [text?_emission, outputAt_opening entryBrace]
  rw [recast_of_scan accepted, emit_eq_emitBetween accepted, emitBetween,
    filterMap_split (Nat.zero_le first) (by omega) atHeader,
    filterMap_split (Nat.succ_le_of_lt after) bound atBrace]
  rfl

def OpeningBelowHeader (tags : List Tag) : Prop :=
  ∀ i, tags[i]? = some .opening → ∃ j, i = j + 1 ∧ tags[j]? = some .header

def OneOpening (tags : List Tag) : Prop :=
  ∀ first last, FunctionAt tags first last →
    ∃ i, first < i ∧ i < last ∧ tags[i]? = some .opening ∧
      ∀ k, first < k → k < last → tags[k]? = some .opening → k = i

theorem opened_by_headers_iff (accepted : d.scan lines = .ok tags) :
    OpeningBelowHeader tags ∧ OneOpening tags ↔ ∀ first last, FunctionAt tags first last →
      first + 1 < last ∧
        ∀ k, first < k → k < last → (lines[k]? = some openBrace ↔ k = first + 1) := by
  constructor
  · rintro ⟨below, one⟩ first last function
    obtain ⟨i, after, early, opening, only⟩ := one first last function
    obtain ⟨j, rfl, header⟩ := below i opening
    obtain rfl := function.eq_first (by omega) (by omega) header
    refine ⟨early, fun k after' early' => ?_⟩
    rw [← opening_iff accepted function after' early']
    exact ⟨only k after' early', fun same => same ▸ opening⟩
  · intro braced
    constructor
    · intro i opening
      obtain ⟨first, last, function, after, early⟩ := functionAt_of_opening accepted opening
      have brace := (opening_iff accepted function after early).1 opening
      obtain rfl := ((braced first last function).2 i after early).1 brace
      exact ⟨first, rfl, function.header⟩
    · intro first last function
      obtain ⟨room, only⟩ := braced first last function
      refine ⟨first + 1, by omega, room, ?_, ?_⟩
      · exact (opening_iff accepted function (by omega) room).2 ((only _ (by omega) room).2 rfl)
      · intro k after early opening
        exact (only k after early).1 ((opening_iff accepted function after early).1 opening)

/-- Every opening brace stands in a function, and every header starts one. The lines of a function
that are opening braces are those that are nothing else, and what is emitted for one follows the
header of its own function, after what is emitted for the lines between. The header stands directly
above its only opening brace exactly if the file has them there. -/
theorem opening_within_own_function (d : Dialect) {lines : List String} {tags : List Tag}
    (accepted : d.scan lines = .ok tags) :
    (∀ i, tags[i]? = some .opening →
      ∃ first last, FunctionAt tags first last ∧ first < i ∧ i < last) ∧
    (∀ first, tags[first]? = some .header → ∃ last, FunctionAt tags first last) ∧
    (∀ first last, FunctionAt tags first last → ∃ header, lines[first]? = some header ∧
      ∀ i, first < i → i < last → (tags[i]? = some .opening ↔ lines[i]? = some openBrace) ∧
        (tags[i]? = some .opening →
          d.recast lines = .ok (d.emitBetween lines tags 0 first ++ (d.visibility ++ header) ::
            (d.emitBetween lines tags (first + 1) i ++
              openBrace :: d.emitBetween lines tags (i + 1) lines.length)))) ∧
    (OpeningBelowHeader tags ∧ OneOpening tags ↔ ∀ first last, FunctionAt tags first last →
      first + 1 < last ∧
        ∀ k, first < k → k < last → (lines[k]? = some openBrace ↔ k = first + 1)) := by
  refine ⟨fun i => functionAt_of_opening accepted, fun first => functionAt_of_header accepted, ?_,
    opened_by_headers_iff accepted⟩
  intro first last function
  obtain ⟨header, above, -⟩ := exists_line accepted function.header
  refine ⟨header, above, fun i after early => ⟨opening_iff accepted function after early, ?_⟩⟩
  exact recast_eq_header_opening accepted function above after

-- Parameters that are declared below the header are emitted between it and the brace.
theorem opening_below_parameters :
    let lines := ["void f(n)", "int n;", openBrace, closeBrace]
    let tags : List Tag := [.header, .body, .opening, .closing]
    fft4g.scan lines = .ok tags ∧ FunctionAt tags 0 3 ∧
      fft4g.recast lines =
        .ok (["internal static void f(n)"] ++ ["int n;"] ++ [openBrace, closeBrace]) := by
  intro lines tags
  have accepted : fft4g.scan lines = .ok tags := rfl
  have function : FunctionAt tags 0 3 := Passage.functionAt_tags ["int n;", openBrace]
  obtain ⟨-, -, within, -⟩ := opening_within_own_function fft4g accepted
  obtain ⟨header, above, emitted⟩ := within 0 3 function
  cases above
  exact ⟨accepted, function, (emitted 2 (by omega) (by omega)).2 rfl⟩

theorem header_lost_below_declaration :
    let lines := ["void g(int n);", "void f()", openBrace, closeBrace]
    let tags : List Tag := [.header, .body, .opening, .closing]
    fft4g.scan lines = .ok tags ∧ ¬ OpeningBelowHeader tags ∧
      fft4g.recast lines = .ok ["internal static void g(int n);", openBrace, closeBrace] ∧
    let twice := ["void f()", openBrace, openBrace, closeBrace]
    let twiceTags : List Tag := [.header, .opening, .opening, .closing]
    fft4g.scan twice = .ok twiceTags ∧ ¬ OneOpening twiceTags := by
  refine ⟨rfl, ?_, rfl, rfl, ?_⟩
  · intro below
    obtain ⟨j, position, header⟩ := below 2 rfl
    obtain rfl : j = 1 := by omega
    cases header
  · intro one
    have function := Passage.functionAt_tags [openBrace, openBrace]
    obtain ⟨i, -, -, -, only⟩ := one 0 3 function
    have early := only 1 (by omega) (by omega) rfl
    have late := only 2 (by omega) (by omega) rfl
    omega

end Dialect

end Recast
