import Recast.Dialect.Builtin
import Recast.Proofs.Refusals

set_option autoImplicit false

namespace Recast

open Text (openBrace)

namespace Classifier

theorem stepOutside_eq (d : Dialect) (c : Classifier) (line : String) :
    c.stepOutside d line =
      match d.outside? line with
      | none => (c, .error (.unrecognized c.line line))
      | some (tag, entered) => (entered.elim c (c.enter · line), .ok tag) := by
  unfold stepOutside Dialect.outside?
  cases Text.contains line "/*" with
  | true => cases Text.contains line "*/" <;> rfl
  | false =>
    simp only [Bool.false_and, Bool.false_eq_true, if_false]
    split_ifs <;> rfl

theorem step_of_outside {d : Dialect} {c : Classifier} {line : String} (outside : c.region = none) :
    c.step d line = stepOutside d { c with line := c.line + 1 } line := by
  simp only [step, outside]

theorem step_of_inside {d : Dialect} {c : Classifier} {line : String} {region : Region}
    (inside : c.region = some region) :
    c.step d line =
      (if (d.inside line region).2 then leave { c with line := c.line + 1 }
        else { c with line := c.line + 1 }, .ok (d.inside line region).1) := by
  cases region with
  | comment => simp only [step, inside, Dialect.inside]
  | function =>
    simp only [step, inside, Dialect.inside]
    split_ifs <;> simp_all
  | conditional => simp only [step, inside, Dialect.inside]

theorem step_ofScanner (d : Dialect) (s : Scanner) (line : String) :
    (ofScanner s).step d line = (ofScanner (s.step d line).1, (s.step d line).2) := by
  obtain ⟨n, _ | ⟨region, number, text⟩⟩ := s
  · rw [step_of_outside rfl, stepOutside_eq]
    cases known : d.outside? line with
    | none => simp [Scanner.step, known, ofScanner, Scanner.region]
    | some found =>
      obtain ⟨tag, _ | region⟩ := found <;>
        simp [Scanner.step, known, ofScanner, Scanner.region, enter]
  · have inside : (ofScanner ⟨n, some ⟨region, number, text⟩⟩).region = some region := rfl
    rw [step_of_inside inside]
    cases closes : (d.inside line region).2 <;>
      simp [Scanner.step, closes, ofScanner, Scanner.region, leave]

theorem after_ofScanner (d : Dialect) (s : Scanner) (lines : List String) :
    after d (ofScanner s) lines = ofScanner (s.after d lines) := by
  induction lines generalizing s with
  | nil => rfl
  | cons line rest ih => simpa [after, Scanner.after, step_ofScanner] using ih (s.step d line).1

theorem finish_ofScanner (s : Scanner) : (ofScanner s).finish = s.finish := by
  obtain ⟨n, _ | o⟩ := s <;> rfl

theorem step_of_error {d : Dialect} {c : Classifier} {line : String} {e : ScanError}
    (refused : (c.step d line).2 = .error e) :
    c.step d line = ({ c with line := c.line + 1 }, .error (.unrecognized (c.line + 1) line)) := by
  cases here : c.region with
  | none =>
    rw [step_of_outside here, stepOutside_eq] at refused ⊢
    cases known : d.outside? line with
    | none => rw [here]
    | some found => simp [known] at refused
  | some region =>
    rw [step_of_inside here] at refused
    cases refused

theorem fields_ofScanner_iff {s : Scanner} {r : Region} {n : Nat} {text : String} :
    (ofScanner s).region = some r ∧ (ofScanner s).openedAt = some (n, text) ↔
      s.opener = some ⟨r, n, text⟩ := by
  obtain ⟨count, _ | ⟨r', n', text'⟩⟩ := s <;> simp [ofScanner, Scanner.region]

end Classifier

namespace Scanner

/-- The lines that are not refused, each with its number in the file. -/
def recognized (d : Dialect) (s : Scanner) (lines : List String) : List (String × Nat) :=
  (((lines.zipIdx (s.line + 1)).zip (trail d s lines)).filter (·.2.1.isOk)).map (·.1)

/-- The number in the file of the `n`-th line that is not refused. -/
def numberOf (kept : List (String × Nat)) (n : Nat) : Nat :=
  (kept[n - 1]?.map (·.2)).getD 0

-- The region that `o` opened is the one in which line `i` leaves the scanner.
def StandsOpen (d : Dialect) (lines : List String) (i : Nat) (o : Opener) : Prop :=
  1 ≤ o.line ∧ o.line ≤ i + 1 ∧ lines[o.line - 1]? = some o.text ∧
    (after d {} (lines.take (o.line - 1))).opener = none ∧ d.Opens o.region o.text ∧
      ∀ later ∈ (lines.take (i + 1)).drop o.line, ¬ d.Closes o.region later

variable {d : Dialect} {s s' : Scanner} {line : String} {lines : List String} {e : ScanError}

theorem step_of_error (refused : (s.step d line).2 = .error e) :
    s.step d line = (⟨s.line + 1, s.opener⟩, .error (.unrecognized (s.line + 1) line)) := by
  obtain ⟨n, _ | o⟩ := s
  · cases known : d.outside? line with
    | none => simp [step, known]
    | some found => simp [step, known] at refused
  · simp [step] at refused

theorem recognized_cons (d : Dialect) (s : Scanner) (line : String) (rest : List String) :
    recognized d s (line :: rest) =
      if (s.step d line).2.isOk then (line, s.line + 1) :: recognized d (s.step d line).1 rest
      else recognized d (s.step d line).1 rest := by
  simp only [recognized, trail, List.zipIdx_cons, List.zip_cons_cons, List.filter_cons, step_line]
  split_ifs <;> rfl

-- Two scanners side by side: one meets every line, the other only those that are not refused.
theorem trail_recognized {f : Nat → Nat} (opener : s.opener = (s'.renumber f).opener)
    (numbers : (recognized d s lines).map (·.2) =
      (List.range' (s'.line + 1) (recognized d s lines).length).map f) :
    (trail d s' ((recognized d s lines).map (·.1))).map
        (fun entry => (entry.1, entry.2.renumber f)) = (trail d s lines).filter (·.1.isOk) ∧
      (after d s lines).opener =
        ((after d s' ((recognized d s lines).map (·.1))).renumber f).opener := by
  induction lines generalizing s s' with
  | nil => exact ⟨rfl, opener⟩
  | cons line rest ih =>
    rw [recognized_cons] at numbers ⊢
    cases result : (s.step d line).2 with
    | error e =>
      have refused := step_of_error result
      simp only [result, Except.isOk, Except.toBool, Bool.false_eq_true, if_false] at numbers ⊢
      have unchanged : (s.step d line).1.opener = (s'.renumber f).opener := by rw [refused, opener]
      have further := ih unchanged numbers
      simpa [trail, after, result, Except.isOk, Except.toBool] using further
    | ok tag =>
      simp only [result, Except.isOk, Except.toBool, if_true, List.map_cons, List.length_cons,
        List.range'_succ, List.cons.injEq] at numbers ⊢
      obtain ⟨number, numbers⟩ := numbers
      have paired := step_renumber d line opener number.symm
      have opener' : (s.step d line).1.opener = ((s'.step d line).1.renumber f).opener := by
        rw [paired]
      have further := ih opener' (by rw [step_line, numbers])
      have result' : (s'.step d line).2 = .ok tag := by
        rw [paired] at result
        cases same : (s'.step d line).2 <;> simp_all [Except.mapError]
      refine ⟨?_, further.2⟩
      simp only [trail, List.map_cons, List.filter_cons, result, result', Except.isOk,
        Except.toBool, if_true, further.1]
      rw [paired]

theorem numbers_recognized (kept : List (String × Nat)) :
    kept.map (·.2) = (List.range' 1 kept.length).map (numberOf kept) := by
  apply List.ext_getElem
  · simp
  · intro i present _
    rw [List.length_map] at present
    simp [numberOf, present]

theorem getElem?_trail (d : Dialect) (s : Scanner) (lines : List String) (i : Nat) :
    ((trail d s lines)[i]?).map (·.2) = lines[i]?.map fun _ => after d s (lines.take (i + 1)) := by
  induction lines generalizing s i with
  | nil => simp [trail]
  | cons line rest ih =>
    cases i with
    | zero => simp [trail, after]
    | succ i => simpa [trail, after] using ih (s.step d line).1 i

theorem finish_renumber {f : Nat → Nat} (opener : s.opener = (s'.renumber f).opener) :
    s.finish = s'.finish.mapError (·.renumber f) := by
  obtain ⟨n', _ | o'⟩ := s' <;> simp [finish, opener, renumber, Except.mapError, ScanError.renumber]

theorem opener_after_take_iff {i : Nat} (present : i < lines.length) (o : Opener) :
    (after d {} (lines.take (i + 1))).opener = some o ↔ StandsOpen d lines i o := by
  rw [opener_after_iff, exists_split_iff, StandsOpen]
  apply and_congr_right
  intro positive
  by_cases early : o.line ≤ i + 1
  · have entry : (lines.take (i + 1))[o.line - 1]? = lines[o.line - 1]? :=
      List.getElem?_take_of_lt (by omega)
    have shorter : min (o.line - 1) (i + 1) = o.line - 1 := by omega
    simp [early, entry, List.take_take, shorter]
  · have missing : (lines.take (i + 1))[o.line - 1]? = none :=
      List.getElem?_eq_none (by rw [List.length_take]; omega)
    constructor
    · intro opened
      cases missing.symm.trans opened.1
    · intro opened
      exact absurd opened.1 early

theorem line_after_take {i : Nat} (present : i < lines.length) :
    (after d {} (lines.take (i + 1))).line = i + 1 := by
  rw [line_after, List.length_take]
  omega

theorem eq_after_of_trail {result : Except ScanError Tag} {i : Nat}
    (here : (trail d {} lines)[i]? = some (result, s)) :
    i < lines.length ∧ s = after d {} (lines.take (i + 1)) := by
  have reached := getElem?_trail d {} lines i
  rw [here, Option.map_some, eq_comm] at reached
  obtain ⟨line, present, same⟩ := Option.map_eq_some_iff.1 reached
  exact ⟨(List.getElem?_eq_some_iff.1 present).1, same.symm⟩

theorem classifier_after (d : Dialect) (lines : List String) :
    Classifier.after d {} lines = .ofScanner (after d {} lines) :=
  Classifier.after_ofScanner d {} lines

/-- A refused line is counted and leaves the region and its opener as they are. The other lines get
the tags, and leave the scanner in the regions, that they would without it, up to the numbers of the
lines, and so does the end of the file. After each line the scanner is in a region exactly if an
earlier line, met outside every region, opens it and no line since then closes it. All this holds as
well where the region and its opener are two fields: they are set and cleared together. -/
theorem refused_lines_leave_no_trace (d : Dialect) (lines : List String) :
    let kept := recognized d {} lines
    (∀ (s : Scanner) line e, (s.step d line).2 = .error e →
      s.step d line = (⟨s.line + 1, s.opener⟩, .error (.unrecognized (s.line + 1) line))) ∧
    (trail d {} (kept.map (·.1))).map (fun entry => (entry.1, entry.2.renumber (numberOf kept))) =
      (trail d {} lines).filter (·.1.isOk) ∧
    (after d {} lines).finish =
      (after d {} (kept.map (·.1))).finish.mapError (·.renumber (numberOf kept)) ∧
    (∀ i result s, (trail d {} lines)[i]? = some (result, s) →
      s.line = i + 1 ∧ (∀ r, s.region = some r ↔ ∃ o, s.opener = some o ∧ o.region = r) ∧
        ∀ o, s.opener = some o ↔ StandsOpen d lines i o) ∧
    (∀ (c : Classifier) line e, (c.step d line).2 = .error e →
      c.step d line =
        ({ c with line := c.line + 1 }, .error (.unrecognized (c.line + 1) line))) ∧
    (∀ (s : Scanner) line, (Classifier.ofScanner s).step d line =
      (.ofScanner (s.step d line).1, (s.step d line).2)) ∧
    (Classifier.after d {} lines).finish = (after d {} lines).finish ∧
    ∀ i < lines.length, let c := Classifier.after d {} (lines.take (i + 1))
      c.line = i + 1 ∧ (c.region = none ↔ c.openedAt = none) ∧ ∀ r n text,
        c.region = some r ∧ c.openedAt = some (n, text) ↔ StandsOpen d lines i ⟨r, n, text⟩ := by
  intro kept
  have start : ({} : Scanner).opener = (({} : Scanner).renumber (numberOf kept)).opener := rfl
  obtain ⟨same, opener⟩ := trail_recognized start (numbers_recognized kept)
  refine ⟨fun s line e => step_of_error, same, finish_renumber opener, fun i result s here => ?_,
    fun c line e => Classifier.step_of_error, Classifier.step_ofScanner d, ?_, fun i present => ?_⟩
  · obtain ⟨present, rfl⟩ := eq_after_of_trail here
    exact ⟨line_after_take present, fun r => Option.map_eq_some_iff, opener_after_take_iff present⟩
  · rw [classifier_after, Classifier.finish_ofScanner]
  · dsimp only
    rw [classifier_after]
    refine ⟨line_after_take present, ?_, fun r n text => ?_⟩
    · simp [Classifier.ofScanner, region]
    · rw [← opener_after_take_iff present]
      exact Classifier.fields_ofScanner_iff

-- The function is opened by the third of the lines that are kept, which is the fifth of the file.
theorem function_reported_past_refused_lines :
    let lines := ["int x;", "/* a", "b */", "y", "void f()", openBrace]
    let kept := ["/* a", "b */", "void f()", openBrace]
    (recognized Dialect.fft4g {} lines).map (·.1) = kept ∧
      (after Dialect.fft4g {} kept).finish = .error (.unclosed .function 3 "void f()") ∧
      (after Dialect.fft4g {} lines).finish = .error (.unclosed .function 5 "void f()") := by
  intro lines kept
  exact ⟨rfl, rfl, (refused_lines_leave_no_trace Dialect.fft4g lines).2.2.1⟩

end Scanner

end Recast
