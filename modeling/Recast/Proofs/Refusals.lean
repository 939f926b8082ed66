import Mathlib.Data.List.Induction
import Recast.Proofs.Grammar

set_option autoImplicit false

namespace Recast

open Text (closeBrace)

namespace Dialect

def Opens (d : Dialect) : Region → String → Prop
  | .comment, line => Text.contains line "/*" ∧ ¬ Text.contains line "*/"
  | .function, line => ¬ Text.contains line "/*" ∧ d.declaration.opensFunction line
  | .conditional, line =>
    ¬ Text.contains line "/*" ∧ ¬ d.declaration.opensFunction line ∧ d.opensBlock line

def Closes (d : Dialect) : Region → String → Prop
  | .comment, line => Text.contains line "*/"
  | .function, line => line = closeBrace
  | .conditional, line => d.closesBlock line

variable {d : Dialect} {line : String} {lines before rest : List String} {tags : List Tag}
  {r : Region} {n : Nat}

theorem opens_iff : d.Opens r line ↔ ∃ tag, d.outside? line = some (tag, some r) := by
  unfold outside?
  cases r <;> split_ifs <;> simp_all [Opens]

theorem closes_iff : d.Closes r line ↔ (d.inside line r).2 = true := by
  cases r with
  | comment | conditional => rfl
  | function => exact Passage.closes_function_iff.symm

theorem not_closes_iff : ¬ d.Closes r line ↔ (d.inside line r).2 = false := by
  rw [closes_iff, Bool.not_eq_true]

theorem outside?_eq_none_iff :
    d.outside? line = none ↔
      line ≠ "" ∧ d.Unclaimed line ∧ ¬ Text.startsWith line "#include" := by
  unfold outside? Unclaimed
  split_ifs <;> simp_all

theorem Spans.scan (spans : d.Spans lines tags) : d.scan lines = .ok tags := by
  have accepts := spans.accepts (n := 0) (.finish _)
  rw [List.append_nil, List.append_nil] at accepts
  exact scan_eq_ok_iff.2 accepts

/-- No passage starts with the line: it is unknown, or its region is never closed. -/
def Stuck (d : Dialect) (line : String) (rest : List String) : Prop :=
  d.outside? line = none ∨ ∃ r, d.Opens r line ∧ ∀ later ∈ rest, ¬ d.Closes r later

theorem passage_or_stuck (d : Dialect) (line : String) (rest : List String) :
    (∃ passed found remaining, d.Spans passed found ∧ line :: rest = passed ++ remaining) ∨
      d.Stuck line rest := by
  cases known : d.outside? line with
  | none => exact .inr (.inl known)
  | some entry =>
    obtain ⟨tag, _ | r⟩ := entry
    · exact .inl ⟨[line], [tag], rest, .single known, rfl⟩
    · cases closing : rest.find? fun later => (d.inside later r).2 with
      | none =>
        right
        refine .inr ⟨r, opens_iff.2 ⟨tag, known⟩, fun later member => ?_⟩
        rw [closes_iff]
        exact List.find?_eq_none.1 closing later member
      | some last =>
        left
        obtain ⟨ends, inner, remaining, rfl, goesOn⟩ := List.find?_eq_some_iff_append.1 closing
        have stays : ∀ later ∈ inner, (d.inside later r).2 = false := by simpa using goesOn
        exact ⟨line :: inner ++ [last], _, remaining, .region known stays ends, by simp⟩

-- Passage by passage, up to the end of the file or to a line at which none starts.
theorem accepted_or_stuck (d : Dialect) (lines : List String) :
    (∃ tags, d.scan lines = .ok tags) ∨
      ∃ before line rest tags, lines = before ++ line :: rest ∧ d.scan before = .ok tags ∧
        d.Stuck line rest := by
  induction size : lines.length using Nat.strongRecOn generalizing lines with
  | _ count ih =>
    cases lines with
    | nil => exact .inl ⟨[], rfl⟩
    | cons line rest =>
      rcases passage_or_stuck d line rest with ⟨passed, found, remaining, spans, split⟩ | stuck
      · have nonempty : passed ≠ [] := by
          rintro rfl
          cases spans
        have positive := List.length_pos_iff.2 nonempty
        rw [split] at size ⊢
        have shorter : remaining.length < count := by
          rw [← size, List.length_append]
          omega
        rcases ih _ shorter remaining rfl with ⟨tags, accepted⟩ | stuck
        · exact .inl ⟨found ++ tags, scan_append_of_ok spans.scan accepted⟩
        · obtain ⟨before, line, rest, tags, rfl, accepted, stuck⟩ := stuck
          exact .inr ⟨passed ++ before, line, rest, found ++ tags, by simp,
            scan_append_of_ok spans.scan accepted, stuck⟩
      · exact .inr ⟨[], line, rest, [], rfl, rfl, stuck⟩

theorem run_unclosed (o : Opener) (stays : ∀ later ∈ rest, ¬ d.Closes o.region later) :
    Scanner.run d ⟨n, some o⟩ rest = .error (.unclosed o.region o.line o.text) := by
  induction rest generalizing n with
  | nil => rfl
  | cons line rest ih =>
    have goesOn := not_closes_iff.1 (stays line (by simp))
    have following := ih (n := n + 1) fun later member => stays later (by simp [member])
    simp [Scanner.run, Scanner.step, goesOn, following, Except.map]

theorem scan_refused (accepted : d.scan before = .ok tags) (unknown : d.outside? line = none)
    (rest : List String) :
    d.scan (before ++ line :: rest) = .error (.unrecognized (before.length + 1) line) := by
  have alone : d.scan (line :: rest) = .error (.unrecognized 1 line) := by
    simp [scan, Scanner.run, Scanner.step, unknown]
  rw [scan_append accepted, alone, Nat.add_comm]
  rfl

theorem scan_unclosed (accepted : d.scan before = .ok tags) (opens : d.Opens r line)
    (stays : ∀ later ∈ rest, ¬ d.Closes r later) :
    d.scan (before ++ line :: rest) = .error (.unclosed r (before.length + 1) line) := by
  obtain ⟨tag, known⟩ := opens_iff.1 opens
  have alone : d.scan (line :: rest) = .error (.unclosed r 1 line) := by
    have ran := run_unclosed (d := d) (n := 1) ⟨r, 1, line⟩ stays
    simp [scan, Scanner.run, Scanner.step, known, ran, Except.map]
  rw [scan_append accepted, alone, Nat.add_comm]
  rfl

theorem exists_of_scan_error {e : ScanError} (failed : d.scan lines = .error e) :
    ∃ before line rest, lines = before ++ line :: rest ∧ (∃ tags, d.scan before = .ok tags) ∧
      (e = .unrecognized (before.length + 1) line ∧ d.outside? line = none ∨
        ∃ r, e = .unclosed r (before.length + 1) line ∧ d.Opens r line ∧
          ∀ later ∈ rest, ¬ d.Closes r later) := by
  rcases accepted_or_stuck d lines with ⟨tags, accepted⟩ | stuck
  · simp [accepted] at failed
  · obtain ⟨before, line, rest, tags, rfl, accepted, unknown | ⟨r, opens, stays⟩⟩ := stuck
    · rw [scan_refused accepted unknown] at failed
      cases failed
      exact ⟨before, line, rest, rfl, ⟨tags, accepted⟩, .inl ⟨rfl, unknown⟩⟩
    · rw [scan_unclosed accepted opens stays] at failed
      cases failed
      exact ⟨before, line, rest, rfl, ⟨tags, accepted⟩, .inr ⟨r, rfl, opens, stays⟩⟩

theorem scan_eq_unrecognized_iff :
    d.scan lines = .error (.unrecognized n line) ↔
      ∃ before rest, lines = before ++ line :: rest ∧ n = before.length + 1 ∧
        (∃ tags, d.scan before = .ok tags) ∧ d.outside? line = none := by
  constructor
  · intro failed
    obtain ⟨before, found, rest, rfl, accepted, ⟨same, unknown⟩ | ⟨r, other, -⟩⟩ :=
      exists_of_scan_error failed
    · cases same
      exact ⟨before, rest, rfl, rfl, accepted, unknown⟩
    · cases other
  · rintro ⟨before, rest, rfl, rfl, ⟨tags, accepted⟩, unknown⟩
    exact scan_refused accepted unknown rest

theorem scan_eq_unclosed_iff :
    d.scan lines = .error (.unclosed r n line) ↔
      ∃ before rest, lines = before ++ line :: rest ∧ n = before.length + 1 ∧
        (∃ tags, d.scan before = .ok tags) ∧ d.Opens r line ∧
          ∀ later ∈ rest, ¬ d.Closes r later := by
  constructor
  · intro failed
    obtain ⟨before, found, rest, rfl, accepted, ⟨other, -⟩ | ⟨r, same, opens, stays⟩⟩ :=
      exists_of_scan_error failed
    · cases other
    · cases same
      exact ⟨before, rest, rfl, rfl, accepted, opens, stays⟩
  · rintro ⟨before, rest, rfl, rfl, ⟨tags, accepted⟩, opens, stays⟩
    exact scan_unclosed accepted opens stays

end Dialect

namespace Scanner

-- What is kept of the line that opened the present region is that line, wherever the scanner
-- stands.
structure Recorded (d : Dialect) (fed : List String) (s : Scanner) : Prop where
  count : s.line = fed.length
  opener : ∀ o, s.opener = some o →
    1 ≤ o.line ∧ fed[o.line - 1]? = some o.text ∧ d.Opens o.region o.text

variable {d : Dialect} {fed : List String} {s : Scanner} {line : String} {o : Opener}

theorem step_line (d : Dialect) (s : Scanner) (line : String) :
    (s.step d line).1.line = s.line + 1 := by
  obtain ⟨n, _ | o⟩ := s
  · cases known : d.outside? line <;> simp [step, known]
  · rfl

theorem step_opener_iff :
    (s.step d line).1.opener = some o ↔
      s.opener = none ∧ d.Opens o.region line ∧ o.line = s.line + 1 ∧ o.text = line ∨
        s.opener = some o ∧ ¬ d.Closes o.region line := by
  obtain ⟨n, _ | present⟩ := s
  · rw [Dialect.opens_iff]
    cases known : d.outside? line with
    | none => simp [step, known]
    | some found =>
      obtain ⟨tag, _ | r⟩ := found
      · simp [step, known]
      · obtain ⟨region, number, text⟩ := o
        simp [step, known, eq_comm]
  · rw [Dialect.not_closes_iff]
    by_cases same : present = o
    · subst same
      cases closes : (d.inside line present.region).2 <;> simp [step, closes]
    · cases closes : (d.inside line present.region).2 <;> simp [step, closes, same]

theorem after_concat (d : Dialect) (s : Scanner) (fed : List String) (line : String) :
    after d s (fed ++ [line]) = ((after d s fed).step d line).1 := by
  simp [after]

theorem line_after (d : Dialect) (fed : List String) : (after d {} fed).line = fed.length := by
  induction fed using List.reverseRecOn with
  | nil => rfl
  | append_singleton fed line ih =>
    rw [after_concat, step_line, ih, List.length_append]
    rfl

theorem opener_after_iff :
    (after d {} fed).opener = some o ↔
      ∃ before rest, fed = before ++ o.text :: rest ∧ o.line = before.length + 1 ∧
        (after d {} before).opener = none ∧ d.Opens o.region o.text ∧
          ∀ later ∈ rest, ¬ d.Closes o.region later := by
  -- On the last line, which opens the region or leaves it open.
  induction fed using List.reverseRecOn with
  | nil => simp [after]
  | append_singleton fed line ih =>
    rw [after_concat, step_opener_iff, ih, line_after]
    constructor
    · rintro (⟨outside, opens, number, rfl⟩ | ⟨earlier, goesOn⟩)
      · exact ⟨fed, [], rfl, number, outside, opens, by simp⟩
      · obtain ⟨before, rest, rfl, number, outside, opens, stays⟩ := earlier
        refine ⟨before, rest ++ [line], by simp, number, outside, opens, ?_⟩
        simpa [or_imp, forall_and] using ⟨stays, goesOn⟩
    · intro ⟨before, rest, split, number, outside, opens, stays⟩
      cases rest using List.reverseRecOn with
      | nil =>
        obtain ⟨rfl, same⟩ := List.append_inj' split rfl
        cases same
        exact .inl ⟨outside, opens, number, rfl⟩
      | append_singleton rest last =>
        rw [← List.cons_append, ← List.append_assoc] at split
        obtain ⟨rfl, same⟩ := List.append_inj' split rfl
        cases same
        have earlier : ∀ later ∈ rest, ¬ d.Closes o.region later :=
          fun later member => stays later (by simp [member])
        exact .inr ⟨⟨before, rest, rfl, number, outside, opens, earlier⟩, stays line (by simp)⟩

theorem recorded_after (d : Dialect) (fed : List String) : Recorded d fed (after d {} fed) where
  count := line_after d fed
  opener o here := by
    obtain ⟨before, rest, rfl, number, -, opens, -⟩ := opener_after_iff.1 here
    rw [number]
    exact ⟨by omega, by simp, opens⟩

end Scanner

namespace Dialect

/-- A file is refused for a line exactly if it is accepted up to there and the line is unknown, and
for a region exactly if it is accepted up to the line that opens it and no later line closes it. An
end inside a region is always reported with a line that was scanned and that opens the region. -/
theorem scan_errors_exact (d : Dialect) (lines : List String) :
    (∀ n text, d.scan lines = .error (.unrecognized n text) ↔
      1 ≤ n ∧ lines[n - 1]? = some text ∧ (∃ tags, d.scan (lines.take (n - 1)) = .ok tags) ∧
        text ≠ "" ∧ d.Unclaimed text ∧ ¬ Text.startsWith text "#include") ∧
    (∀ r n text, d.scan lines = .error (.unclosed r n text) ↔
      1 ≤ n ∧ lines[n - 1]? = some text ∧ (∃ tags, d.scan (lines.take (n - 1)) = .ok tags) ∧
        d.Opens r text ∧ ∀ later ∈ lines.drop n, ¬ d.Closes r later) ∧
    (∀ r, (Scanner.after d {} lines).region = some r → ∃ n text, 1 ≤ n ∧
      lines[n - 1]? = some text ∧ d.Opens r text ∧
        (Scanner.after d {} lines).finish = .error (.unclosed r n text)) := by
  refine ⟨fun n text => ?_, fun r n text => ?_, fun r within => ?_⟩
  · rw [scan_eq_unrecognized_iff, exists_split_iff, outside?_eq_none_iff]
  · rw [scan_eq_unclosed_iff, exists_split_iff]
  · obtain ⟨o, here, rfl⟩ := Option.map_eq_some_iff.1 within
    obtain ⟨positive, text, opens⟩ := (Scanner.recorded_after d lines).opener o here
    exact ⟨o.line, o.text, positive, text, opens, by simp [Scanner.finish, here]⟩

end Dialect

end Recast
