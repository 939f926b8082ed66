import Recast.Proofs.Basics
import Recast.Scanner

set_option autoImplicit false

namespace Recast

open Text (openBrace closeBrace)

namespace ScanError

def renumber (number : Nat → Nat) : ScanError → ScanError
  | .unrecognized line text => .unrecognized (number line) text
  | .unclosed region line text => .unclosed region (number line) text

end ScanError

namespace Dialect

variable {d : Dialect} {line : String} {tag : Tag} {entered : Option Region} {r : Region}

theorem inside_function_tag (d : Dialect) (line : String) :
    (d.inside line .function).1 = .opening ∨ (d.inside line .function).1 = .body ∨
      (d.inside line .function).1 = .closing := by
  simp only [inside]
  split_ifs <;> simp

-- Outside every region only a header belongs to a function, and it opens one.
theorem entered_of_function_tag (known : d.outside? line = some (tag, entered))
    (function : tag = .header ∨ tag = .opening ∨ tag = .body) : entered = some .function := by
  simp only [outside?] at known
  split_ifs at known <;> cases known <;> simp_all

theorem outside?_tag_ne (known : d.outside? line = some (tag, entered)) :
    tag ≠ .opening ∧ tag ≠ .body := by
  simp only [outside?] at known
  split_ifs at known <;> cases known <;> simp

theorem outside?_function (known : d.outside? line = some (tag, some .function)) :
    d.outside? line = some (.header, some .function) := by
  simp only [outside?] at known ⊢
  split_ifs at known ⊢ <;> simp_all

theorem inside_eq_opening_iff :
    (d.inside line r).1 = .opening ↔ r = .function ∧ line = openBrace := by
  cases r with
  | comment | conditional => simp [inside]
  | function =>
    simp only [inside]
    split_ifs <;> simp_all

theorem inside_eq_body_iff :
    (d.inside line r).1 = .body ↔ r = .function ∧ line ≠ openBrace ∧ line ≠ closeBrace := by
  cases r with
  | comment | conditional => simp [inside]
  | function =>
    simp only [inside]
    split_ifs <;> simp_all

theorem inside_of_function_tag
    (function : (d.inside line r).1 = .header ∨ (d.inside line r).1 = .opening ∨
      (d.inside line r).1 = .body) : r = .function ∧ (d.inside line r).2 = false := by
  cases r with
  | comment => simp [inside] at function
  | conditional => simp [inside] at function
  | function =>
    simp only [inside] at function ⊢
    split_ifs at function ⊢ <;> simp_all

end Dialect

namespace Scanner

def renumber (number : Nat → Nat) (s : Scanner) : Scanner where
  line := number s.line
  opener := s.opener.map fun o => { o with line := number o.line }

-- A step looks at no line number, and only writes that of its own line.
theorem step_renumber (d : Dialect) {f : Nat → Nat} {s s' : Scanner} (line : String)
    (opener : s.opener = (s'.renumber f).opener) (next : f (s'.line + 1) = s.line + 1) :
    s.step d line =
      ((s'.step d line).1.renumber f, (s'.step d line).2.mapError (·.renumber f)) := by
  obtain ⟨n, _⟩ := s
  obtain ⟨n', opener'⟩ := s'
  subst opener
  cases opener' with
  | none =>
    cases known : d.outside? line with
    | none => simp [step, renumber, known, Except.mapError, ScanError.renumber, next]
    | some found =>
      obtain ⟨tag, _ | region⟩ := found <;> simp [step, renumber, known, Except.mapError, next]
  | some o =>
    cases closes : (d.inside line o.region).2 <;>
      simp [step, renumber, closes, Except.mapError, next]

-- Where the count of lines starts only shows in the lines that errors name.
theorem run_renumber (d : Dialect) (k : Nat) (s : Scanner) (lines : List String) :
    run d (s.renumber (· + k)) lines = (run d s lines).mapError (·.renumber (· + k)) := by
  induction lines generalizing s with
  | nil => obtain ⟨n, _ | o⟩ := s <;> rfl
  | cons line rest ih =>
    have moved := step_renumber d (f := (· + k)) (s := s.renumber (· + k)) line rfl
      (Nat.add_right_comm s.line 1 k)
    simp only [run, moved]
    obtain ⟨next, error | tag⟩ := s.step d line
    · rfl
    · simp only [Except.mapError, ih]
      cases run d next rest <;> rfl

/-- The runs that end without an error, with the tags that they give. -/
inductive Accepts (d : Dialect) : Scanner → List String → List Tag → Prop where
  | finish (n : Nat) : Accepts d ⟨n, none⟩ [] []
  | outside {n : Nat} {line : String} {tag : Tag} {entered : Option Region} {rest : List String}
      {tags : List Tag} (known : d.outside? line = some (tag, entered))
      (next : Accepts d ⟨n + 1, entered.map (⟨·, n + 1, line⟩)⟩ rest tags) :
      Accepts d ⟨n, none⟩ (line :: rest) (tag :: tags)
  | inside {n : Nat} {o : Opener} {line : String} {rest : List String} {tags : List Tag}
      (next : Accepts d ⟨n + 1, if (d.inside line o.region).2 then none else some o⟩ rest tags) :
      Accepts d ⟨n, some o⟩ (line :: rest) ((d.inside line o.region).1 :: tags)

theorem run_of_accepts {d : Dialect} {s : Scanner} {lines : List String} {tags : List Tag}
    (accepts : Accepts d s lines tags) : run d s lines = .ok tags := by
  induction accepts with
  | finish n => rfl
  | outside known next ih => simp [run, step, known, ih, Except.map]
  | inside next ih => simp [run, step, ih, Except.map]

theorem accepts_of_run {d : Dialect} {s : Scanner} {lines : List String} {tags : List Tag}
    (accepted : run d s lines = .ok tags) : Accepts d s lines tags := by
  induction lines generalizing s tags with
  | nil =>
    obtain ⟨n, _ | o⟩ := s
    · obtain ⟨_, _, rfl⟩ := Except.map_eq_ok_iff.1 accepted
      exact .finish n
    · cases accepted
  | cons line rest ih =>
    obtain ⟨n, _ | o⟩ := s
    · simp only [run, step] at accepted
      cases known : d.outside? line with
      | none => simp [known] at accepted
      | some found =>
        simp only [known] at accepted
        obtain ⟨following, ran, rfl⟩ := Except.map_eq_ok_iff.1 accepted
        exact .outside known (ih ran)
    · obtain ⟨following, ran, rfl⟩ := Except.map_eq_ok_iff.1 accepted
      exact .inside (ih ran)

theorem run_eq_ok_iff {d : Dialect} {s : Scanner} {lines : List String} {tags : List Tag} :
    run d s lines = .ok tags ↔ Accepts d s lines tags :=
  ⟨accepts_of_run, run_of_accepts⟩

namespace Accepts

variable {d : Dialect} {s : Scanner} {lines : List String} {tags : List Tag}

theorem length_eq (accepts : Accepts d s lines tags) : tags.length = lines.length := by
  induction accepts with
  | finish n => rfl
  | outside known next ih => simp [ih]
  | inside next ih => simp [ih]

theorem run_append (accepts : Accepts d s lines tags) (rest : List String) :
    run d s (lines ++ rest) = (run d ⟨s.line + lines.length, none⟩ rest).map (tags ++ ·) := by
  induction accepts with
  | finish n => cases ran : run d ⟨n, none⟩ rest <;> simp [ran, Except.map]
  | @outside n line tag entered lines tags known next ih =>
    simp only [List.cons_append, run, step, known, ih, add_length_cons]
    cases run d ⟨n + 1 + lines.length, none⟩ rest <;> rfl
  | @inside n o line lines tags next ih =>
    simp only [List.cons_append, run, step, ih, add_length_cons]
    cases run d ⟨n + 1 + lines.length, none⟩ rest <;> rfl

theorem region_closes {n : Nat} {o : Opener} (accepts : Accepts d ⟨n, some o⟩ lines tags) :
    ∃ inner last rest following, lines = inner ++ last :: rest ∧
      (∀ line ∈ inner, (d.inside line o.region).2 = false) ∧ (d.inside last o.region).2 = true ∧
      tags = (inner ++ [last]).map (fun line => (d.inside line o.region).1) ++ following ∧
      Accepts d ⟨n + inner.length + 1, none⟩ rest following := by
  -- On the lines and not on the run, which at its end goes on outside the region.
  induction lines generalizing n tags with
  | nil => cases accepts
  | cons line rest ih =>
    cases accepts with
    | inside next =>
      cases closes : (d.inside line o.region).2 with
      | true =>
        refine ⟨[], line, rest, _, rfl, by simp, closes, rfl, ?_⟩
        simpa [closes] using next
      | false =>
        rw [closes] at next
        obtain ⟨inner, last, rest, following, rfl, stays, ends, rfl, further⟩ := ih next
        refine ⟨line :: inner, last, rest, following, rfl, ?_, ends, rfl, ?_⟩
        · simpa [closes] using stays
        · rwa [add_length_cons]

theorem of_region {n : Nat} {o : Opener} {inner rest : List String} {last : String}
    {following : List Tag} (stays : ∀ line ∈ inner, (d.inside line o.region).2 = false)
    (ends : (d.inside last o.region).2 = true)
    (further : Accepts d ⟨n + inner.length + 1, none⟩ rest following) :
    Accepts d ⟨n, some o⟩ (inner ++ last :: rest)
      ((inner ++ [last]).map (fun line => (d.inside line o.region).1) ++ following) := by
  induction inner generalizing n with
  | nil =>
    apply Accepts.inside
    simpa [ends] using further
  | cons line inner ih =>
    rw [add_length_cons] at further
    have next := ih (fun line member => stays line (by simp [member])) further
    apply Accepts.inside
    rw [stays line (by simp)]
    exact next

theorem tag_source {line : String} {tag : Tag} (accepts : Accepts d s lines tags)
    (member : (line, tag) ∈ lines.zip tags) :
    (∃ entered, d.outside? line = some (tag, entered)) ∨ ∃ r, (d.inside line r).1 = tag := by
  induction accepts with
  | finish n => simp at member
  | outside known next ih =>
    rcases List.mem_cons.1 member with here | later
    · cases here
      exact .inl ⟨_, known⟩
    · exact ih later
  | inside next ih =>
    rcases List.mem_cons.1 member with here | later
    · cases here
      exact .inr ⟨_, rfl⟩
    · exact ih later

-- The lines of a function stand together, from its header to the line that closes it.
theorem function_goes_on {i : Nat} {tag following : Tag} (accepts : Accepts d s lines tags)
    (here : tags[i]? = some tag) (function : tag = .header ∨ tag = .opening ∨ tag = .body)
    (next : tags[i + 1]? = some following) :
    following = .opening ∨ following = .body ∨ following = .closing := by
  -- The tag at `i` only says that the run goes on inside the function; the next one is its first
  -- there.
  have first {n : Nat} {o : Opener} {lines : List String} {tags : List Tag}
      (accepts : Accepts d ⟨n, some o⟩ lines tags) (inside : o.region = .function)
      (head : tags[0]? = some following) :
      following = .opening ∨ following = .body ∨ following = .closing := by
    cases accepts with
    | @inside _ _ line _ _ _ =>
      simp only [inside, List.getElem?_cons_zero, Option.some.injEq] at head
      subst head
      exact d.inside_function_tag line
  induction accepts generalizing i with
  | finish n => simp at here
  | outside known further ih =>
    cases i with
    | zero =>
      simp only [List.getElem?_cons_zero, Option.some.injEq] at here
      subst here
      obtain rfl := d.entered_of_function_tag known function
      exact first further rfl next
    | succ i => exact ih here next
  | @inside n o line rest tags further ih =>
    cases i with
    | zero =>
      simp only [List.getElem?_cons_zero, Option.some.injEq] at here
      subst here
      obtain ⟨region, stays⟩ := d.inside_of_function_tag function
      rw [stays] at further
      exact first further region next
    | succ i => exact ih here next

theorem function_until_closing {i n : Nat} {tag : Tag} (accepts : Accepts d s lines tags)
    (start : tags[i]? = some .body)
    (unclosed : ∀ j, i ≤ j → j ≤ i + n → tags[j]? ≠ some .closing)
    (here : tags[i + n]? = some tag) : tag = .opening ∨ tag = .body := by
  -- On the distance from the start: each line of the function has the next one in it.
  induction n generalizing tag with
  | zero => simp_all
  | succ n ih =>
    have present : i + n < tags.length := by
      have := (List.getElem?_eq_some_iff.1 here).1
      omega
    have before : tags[i + n]? = some tags[i + n] := List.getElem?_eq_getElem present
    have earlier := ih (fun j after early => unclosed j after (by omega)) before
    rcases accepts.function_goes_on before (.inr earlier) here with opening | body | closing
    · exact .inl opening
    · exact .inr body
    · exact absurd (closing ▸ here) (unclosed (i + (n + 1)) (by omega) (by omega))

theorem exists_header (accepts : Accepts d s lines tags) (body : Tag.body ∈ tags) :
    s.region = some .function ∨
      ∃ header ∈ lines, d.outside? header = some (.header, some .function) := by
  induction accepts with
  | finish n => simp at body
  | @outside n line tag entered rest tags known next ih =>
    right
    rcases List.mem_cons.1 body with here | later
    · obtain rfl := d.entered_of_function_tag known (.inr (.inr here.symm))
      exact ⟨line, by simp, Dialect.outside?_function known⟩
    · rcases ih later with function | ⟨header, member, opens⟩
      · obtain rfl : entered = some .function := by simpa [region] using function
        exact ⟨line, by simp, Dialect.outside?_function known⟩
      · exact ⟨header, by simp [member], opens⟩
  | @inside n o line rest tags next ih =>
    rcases List.mem_cons.1 body with here | later
    · obtain ⟨function, -⟩ := Dialect.inside_eq_body_iff.1 here.symm
      exact .inl (by simp [region, function])
    · rcases ih later with function | ⟨header, member, opens⟩
      · left
        cases closes : (d.inside line o.region).2 <;> simp_all [region]
      · exact .inr ⟨header, by simp [member], opens⟩

end Accepts

end Scanner

namespace Dialect

variable {d : Dialect} {lines rest : List String} {tags following : List Tag}

theorem scan_eq_ok_iff : d.scan lines = .ok tags ↔ Scanner.Accepts d {} lines tags :=
  Scanner.run_eq_ok_iff

theorem length_of_scan (accepted : d.scan lines = .ok tags) : tags.length = lines.length :=
  (scan_eq_ok_iff.1 accepted).length_eq

theorem scan_append (accepted : d.scan lines = .ok tags) (rest : List String) :
    d.scan (lines ++ rest) =
      ((d.scan rest).mapError (·.renumber (· + lines.length))).map (tags ++ ·) := by
  have ran := (scan_eq_ok_iff.1 accepted).run_append rest
  have shifted := Scanner.run_renumber d lines.length {} rest
  simp only [Scanner.renumber, Option.map_none] at shifted
  rw [scan, ran, shifted, scan]

theorem line_of_body {line : String} (accepted : d.scan lines = .ok tags)
    (member : (line, .body) ∈ lines.zip tags) : line ≠ openBrace ∧ line ≠ closeBrace := by
  rcases (scan_eq_ok_iff.1 accepted).tag_source member with ⟨entered, known⟩ | ⟨r, known⟩
  · exact absurd rfl (outside?_tag_ne known).2
  · exact (inside_eq_body_iff.1 known).2

theorem line_of_opening {line : String} (accepted : d.scan lines = .ok tags)
    (member : (line, .opening) ∈ lines.zip tags) : line = openBrace := by
  rcases (scan_eq_ok_iff.1 accepted).tag_source member with ⟨entered, known⟩ | ⟨r, known⟩
  · exact absurd rfl (outside?_tag_ne known).1
  · exact (inside_eq_opening_iff.1 known).2

theorem scan_append_of_ok (accepted : d.scan lines = .ok tags)
    (next : d.scan rest = .ok following) : d.scan (lines ++ rest) = .ok (tags ++ following) := by
  rw [scan_append accepted, next]
  rfl

end Dialect

end Recast
