import Recast.Dialect.Builtin
import Recast.Proofs.Positions
import Recast.Proofs.Scanning

set_option autoImplicit false

namespace Recast

open Text (openBrace closeBrace)

namespace Emitter

variable {d : Dialect}

-- A line outside functions makes the emitter forget all but whether it is in a block.
theorem run_reset (e : Emitter) (lines : List String) {tags : List Tag}
    (started : tags.head? ≠ some .plain) (outside : tags.head? ≠ some .body) :
    run d e lines tags = run d { skipping := e.skipping } lines tags := by
  cases lines with
  | nil => rfl
  | cons line lines =>
    cases tags with
    | nil => rfl
    | cons tag tags =>
      have same : e.step d line tag = ({ skipping := e.skipping } : Emitter).step d line tag := by
        cases tag <;> simp_all [step]
      simp only [run, same]

-- Where no line of a function is ever emitted, blocks make no difference.
theorem filterMap_run_congr {lines : List String} {tags : List Tag} {e e' : Emitter}
    (silent : ∀ line, (line, Tag.body) ∈ lines.zip tags →
      d.declaration.isForward line ∨ d.opensBodyBlock line)
    (same : e.started = e'.started) :
    (run d e lines tags).filterMap Emission.text? =
      (run d e' lines tags).filterMap Emission.text? := by
  induction lines generalizing e e' tags with
  | nil => rfl
  | cons line lines ih =>
    cases tags with
    | nil => rfl
    | cons tag tags =>
      have text : (e.step d line tag).2.text? = (e'.step d line tag).2.text? := by
        cases tag with
        | body =>
          have dropped := silent line (by simp)
          simp only [step_body, body_text?]
          rcases dropped with forward | opens
          · simp [forward]
          · simp [opens]
        | plain | comment | inclusion | conditional | header | opening | closing =>
          simp only [step, same]
          split_ifs <;> rfl
      have started : (e.step d line tag).1.started = (e'.step d line tag).1.started := by
        cases tag with
        | body => simp [step_body, body_started]
        | plain | comment | inclusion | conditional | header | opening | closing =>
          simp only [step, same]
          split_ifs <;> simp [same]
      have rest := ih (fun line member => silent line (List.mem_cons_of_mem _ member)) started
      simp only [run, List.filterMap_cons, text, rest]

end Emitter

namespace Dialect

variable {d : Dialect} {first second : List String} {tags following : List Tag}

def emitInBlock (d : Dialect) (lines : List String) (tags : List Tag) : List String :=
  (Emitter.run d { skipping := true } lines tags).filterMap Emission.text?

/-- Each file gives the lines that it gives alone. -/
def Independent (d : Dialect) (first second : List String) : Prop :=
  ∃ before after, d.recast first = .ok before ∧ d.recast second = .ok after ∧
    d.recast (first ++ second) = .ok (before ++ after)

theorem recast_of_scan (accepted : d.scan first = .ok tags) :
    d.recast first = .ok (d.emit first tags) := by
  rw [recast, accepted]
  rfl

theorem head_ne_body (accepted : d.scan first = .ok tags) : tags.head? ≠ some .body := by
  cases scan_eq_ok_iff.1 accepted with
  | finish n => simp
  | outside known next => simpa using (outside?_tag_ne known).2

theorem skipping_after_iff (accepted : d.scan first = .ok tags) :
    (Emitter.after d {} first tags).skipping ↔ d.InBlock (first.zip tags) first.length := by
  have same := length_of_scan accepted
  have tracks : Emitter.Tracks d (first.zip tags) (0 + (first.zip tags).length)
      (Emitter.after d {} first tags) := (Emitter.tracks_zero d (first.zip tags)).after rfl
  simpa [same] using tracks.skipping

theorem recast_append_run (accepted : d.scan first = .ok tags)
    (next : d.scan second = .ok following) :
    d.recast (first ++ second) = .ok (d.emit first tags ++
      (Emitter.run d (Emitter.after d {} first tags) second following).filterMap
        Emission.text?) := by
  have same := length_of_scan accepted
  rw [recast_of_scan (scan_append_of_ok accepted next), emit, emissions,
    Emitter.run_append same.symm, List.filterMap_append]
  rfl

theorem recast_append (accepted : d.scan first = .ok tags) (next : d.scan second = .ok following)
    (begins : following.head? ≠ some .plain) :
    d.recast (first ++ second) = .ok (d.emit first tags ++
      (Emitter.run d { skipping := (Emitter.after d {} first tags).skipping } second
        following).filterMap Emission.text?) := by
  rw [recast_append_run accepted next, Emitter.run_reset _ _ begins (head_ne_body next)]

theorem independent_iff_recast (accepted : d.scan first = .ok tags)
    (next : d.scan second = .ok following) :
    d.Independent first second ↔
      d.recast (first ++ second) = .ok (d.emit first tags ++ d.emit second following) := by
  simp [Independent, recast_of_scan accepted, recast_of_scan next]

theorem independent_iff (accepted : d.scan first = .ok tags) (next : d.scan second = .ok following)
    (begins : following.head? ≠ some .plain) :
    d.Independent first second ↔ ¬ d.InBlock (first.zip tags) first.length ∨
      d.emitInBlock second following = d.emit second following := by
  rw [independent_iff_recast accepted next, recast_append accepted next begins]
  by_cases within : d.InBlock (first.zip tags) first.length
  · rw [(skipping_after_iff accepted).2 within]
    simp [within, emitInBlock]
  · have outside : (Emitter.after d {} first tags).skipping = false := by
      simpa using mt (skipping_after_iff accepted).1 within
    rw [outside]
    simp [within, emit, emissions]

theorem emitInBlock_eq_emit (accepted : d.scan second = .ok following)
    (silent : ∀ line, line ≠ openBrace → line ≠ closeBrace →
      d.declaration.isForward line ∨ d.opensBodyBlock line) :
    d.emitInBlock second following = d.emit second following := by
  refine Emitter.filterMap_run_congr (fun line member => ?_) rfl
  obtain ⟨opening, closing⟩ := line_of_body accepted member
  exact silent line opening closing

theorem exists_header_of_inBlock (accepted : d.scan first = .ok tags)
    (within : d.InBlock (first.zip tags) first.length) :
    ∃ header, d.outside? header = some (.header, some .function) := by
  obtain ⟨j, -, start, -⟩ := inBlock_iff_since.1 within
  obtain ⟨line, here, -⟩ := start.entry
  have body : Tag.body ∈ tags := (List.of_mem_zip (List.mem_of_getElem? here)).2
  rcases (scan_eq_ok_iff.1 accepted).exists_header body with inside | ⟨header, -, opens⟩
  · cases inside
  · exact ⟨header, opens⟩

section OneLineFunction

variable {header line : String} (opens : d.outside? header = some (.header, some .function))
  (opening : line ≠ openBrace) (closing : line ≠ closeBrace)

include opens opening closing in
theorem scan_function :
    d.scan [header, line, closeBrace] = .ok [.header, .body, .closing] := by
  simp [scan, Scanner.run, Scanner.step, Scanner.finish, opens, inside, opening, closing,
    Except.map]

theorem emit_function (defines : ¬ d.declaration.isForward line)
    (goesOn : ¬ d.opensBodyBlock line) :
    d.emit [header, line, closeBrace] [.header, .body, .closing] =
      [d.visibility ++ header, d.substitutions.apply line, closeBrace] := by
  simp [emit, emissions, Emitter.run, Emitter.step, Emitter.body, defines, goesOn, Emission.text?]

theorem emitInBlock_function (defines : ¬ d.declaration.isForward line) :
    d.emitInBlock [header, line, closeBrace] [.header, .body, .closing] =
      [d.visibility ++ header, closeBrace] := by
  cases closes : d.closesBodyBlock line <;>
    simp [emitInBlock, Emitter.run, Emitter.step, Emitter.body, defines, closes,
      List.filterMap_cons, Emission.text?]

end OneLineFunction

/-- What stands before a file changes its output exactly if it leaves a block open and the file
shows the difference. Such a file exists unless the lines between the braces of a function are never
emitted. -/
theorem forall_independent_iff (d : Dialect) {first : List String} {tags : List Tag}
    (accepted : d.scan first = .ok tags) :
    (∀ second following, d.scan second = .ok following → following.head? ≠ some .plain →
      (d.Independent first second ↔ ¬ d.InBlock (first.zip tags) first.length ∨
        d.emitInBlock second following = d.emit second following)) ∧
    ((∀ second following, d.scan second = .ok following → following.head? ≠ some .plain →
      d.Independent first second) ↔ ¬ d.InBlock (first.zip tags) first.length ∨
        ∀ line, line ≠ openBrace → line ≠ closeBrace →
          d.declaration.isForward line ∨ d.opensBodyBlock line) := by
  refine ⟨fun second following next begins => independent_iff accepted next begins, ?_, ?_⟩
  · intro independent
    by_cases within : d.InBlock (first.zip tags) first.length
    · right
      intro line opening closing
      by_cases forward : d.declaration.isForward line
      · exact .inl forward
      · right
        by_cases goesOn : d.opensBodyBlock line
        · exact goesOn
        · -- Neither holds, so the line makes a function that the open block takes it from.
          obtain ⟨header, opens⟩ := exists_header_of_inBlock accepted within
          have next := scan_function opens opening closing
          have alone := independent _ _ next (by simp)
          rw [independent_iff accepted next (by simp), emitInBlock_function forward,
            emit_function forward goesOn] at alone
          simp [within] at alone
    · exact .inl within
  · rintro (outside | silent) second following next begins
    · exact (independent_iff accepted next begins).2 (.inl outside)
    · exact (independent_iff accepted next begins).2 (.inr (emitInBlock_eq_emit next silent))

theorem independent_empty_function :
    fftsg.scan ["void f()", openBrace, "#ifdef A", closeBrace] =
        .ok [.header, .opening, .body, .closing] ∧
      fftsg.scan ["void g()", openBrace, closeBrace] = .ok [.header, .opening, .closing] ∧
      fftsg.Independent ["void f()", openBrace, "#ifdef A", closeBrace]
        ["void g()", openBrace, closeBrace] :=
  ⟨rfl, rfl, ((forall_independent_iff fftsg rfl).1 _ _ rfl (by decide)).2 (.inr rfl)⟩

theorem not_independent_open_block :
    fftsg.scan ["void f()", openBrace, "#ifdef A", closeBrace] =
        .ok [.header, .opening, .body, .closing] ∧
      fftsg.scan ["void g()", openBrace, "    x = 1;", closeBrace] =
        .ok [.header, .opening, .body, .closing] ∧
      ¬ fftsg.Independent ["void f()", openBrace, "#ifdef A", closeBrace]
        ["void g()", openBrace, "    x = 1;", closeBrace] := by
  have accepted : fftsg.scan ["void f()", openBrace, "#ifdef A", closeBrace] =
      .ok [.header, .opening, .body, .closing] := rfl
  have next : fftsg.scan ["void g()", openBrace, "    x = 1;", closeBrace] =
      .ok [.header, .opening, .body, .closing] := rfl
  refine ⟨accepted, next, ?_⟩
  rw [independent_iff_recast accepted next]
  intro same
  have size := congrArg (fun result => result.toOption.map List.length) same
  exact absurd size (by decide)

/-- The lines from `i` to `k` stand in one function, and none between them ends a block. -/
def SameBlock (d : Dialect) (c : Conditional) (file : List (String × Tag)) (i k : Nat) : Prop :=
  i ≤ k ∧ k < file.length ∧ (∀ j ≤ k, i ≤ j → file[j]?.map Prod.snd ≠ some .closing) ∧
    ∀ j < k, i < j → BodyAt file j c.closes → d.ForwardAt file j

instance (d : Dialect) (c : Conditional) (file : List (String × Tag)) (i k : Nat) :
    Decidable (d.SameBlock c file i k) :=
  inferInstanceAs (Decidable (_ ∧ _ ∧ _ ∧ ∀ j < k, i < j → BodyAt file j c.closes →
    BodyAt file j d.declaration.isForward))

section InsideBlock

variable {c : Conditional} {file : List (String × Tag)} {i k : Nat} {line : String}

theorem opensBodyBlock_eq (rules : d.conditional = some c) (allowed : c.inFunctions) :
    d.opensBodyBlock line = c.opens line := by
  simp [opensBodyBlock, bodyConditional, rules, allowed]

theorem closesBodyBlock_eq (rules : d.conditional = some c) (allowed : c.inFunctions) :
    d.closesBodyBlock line = c.closes line := by
  simp [closesBodyBlock, bodyConditional, rules, allowed]

theorem SameBlock.inBlock (block : d.SameBlock c file i k) (rules : d.conditional = some c)
    (allowed : c.inFunctions) (start : d.BlockStart file i) (later : i < k) :
    d.InBlock file k := by
  refine inBlock_iff_since.2 ⟨i, later, start, fun j after early stop => ?_⟩
  rw [BlockEnd] at stop
  obtain ⟨defines, -, line, here, closes⟩ := stop
  rw [closesBodyBlock_eq rules allowed] at closes
  exact defines (block.2.2.2 j early after ⟨line, here, closes⟩)

theorem SameBlock.entry {lines : List String} (block : d.SameBlock c (lines.zip tags) i k)
    (accepted : d.scan lines = .ok tags) (start : (lines.zip tags)[i]? = some (line, .body)) :
    ∃ text tag, (lines.zip tags)[k]? = some (text, tag) ∧ (tag = .opening ∨ tag = .body) := by
  obtain ⟨ordered, present, unclosed, -⟩ := block
  obtain ⟨n, rfl⟩ := Nat.le.dest ordered
  have here := List.getElem?_eq_getElem present
  refine ⟨_, _, here, ?_⟩
  refine (scan_eq_ok_iff.1 accepted).function_until_closing
    (List.getElem?_zip_eq_some.1 start).2 ?_ (List.getElem?_zip_eq_some.1 here).2
  intro j after early closing
  have reached : j < lines.length := by
    simp only [List.length_zip] at present
    omega
  have entry : (lines.zip tags)[j]? = some (lines[j], .closing) :=
    List.getElem?_zip_eq_some.2 ⟨List.getElem?_eq_getElem reached, closing⟩
  exact unclosed j early after (by simp [entry])

end InsideBlock

/-- From the line that starts a block of a function to the line that ends it, or to the end of the
function if there is none, every line is left out but an opening brace that stands alone. -/
theorem emission_in_block_iff (d : Dialect) {c : Conditional} {lines : List String}
    {tags : List Tag} {i : Nat} {line : String} (rules : d.conditional = some c)
    (allowed : c.inFunctions) (accepted : d.scan lines = .ok tags)
    (here : (lines.zip tags)[i]? = some (line, .body)) (defines : ¬ d.declaration.isForward line)
    (outside : ¬ d.InBlock (lines.zip tags) i) (visible : ¬ Text.isBlankLine line)
    (opens : c.opens line) :
    d.recast lines = .ok ((d.emissions lines tags).filterMap Emission.text?) ∧
      (d.emissions lines tags).length = lines.length ∧
      ∀ k, d.SameBlock c (lines.zip tags) i k →
        ((d.emissions lines tags)[k]?.bind Emission.text? = none ↔ lines[k]? ≠ some openBrace) := by
  have start : d.BlockStart (lines.zip tags) i := by
    rw [blockStart_iff here, opensBodyBlock_eq rules allowed]
    exact ⟨defines, outside, fun blank => visible blank.2, opens⟩
  refine ⟨recast_of_scan accepted, ?_, ?_⟩
  · rw [emissions, Emitter.length_run, List.length_zip, length_of_scan accepted, Nat.min_self]
  · intro k block
    obtain ⟨text, tag, entry, opening | body⟩ := block.entry accepted here
    · subst opening
      obtain rfl := line_of_opening accepted (List.mem_of_getElem? entry)
      have same := (List.getElem?_zip_eq_some.1 entry).1
      simp [text?_emission, outputAt_opening entry, same]
    · subst body
      obtain ⟨other, -⟩ := line_of_body accepted (List.mem_of_getElem? entry)
      have same := (List.getElem?_zip_eq_some.1 entry).1
      have silent : d.outputAt (lines.zip tags) k = none := by
        rcases Nat.lt_or_eq_of_le block.1 with later | rfl
        · exact outputAt_inBlock entry (block.inBlock rules allowed start later)
        · exact outputAt_blockStart start
      simp [text?_emission, silent, same, other]

def braceInBlock : List String :=
  ["void f()", openBrace, "#ifdef A", "    g(1);", openBrace, "#endif /* A */", closeBrace]

def braceInBlockTags : List Tag :=
  [.header, .opening, .body, .body, .opening, .body, .closing]

theorem emission_in_block_fftsg :
    ∃ c, fftsg.conditional = some c ∧
      fftsg.SameBlock c (braceInBlock.zip braceInBlockTags) 2 3 ∧
      ((fftsg.emissions braceInBlock braceInBlockTags)[3]?.bind Emission.text? = none ↔
        braceInBlock[3]? ≠ some openBrace) := by
  have here : (braceInBlock.zip braceInBlockTags)[2]? = some ("#ifdef A", .body) := rfl
  have outside : ¬ fftsg.InBlock (braceInBlock.zip braceInBlockTags) 2 :=
    not_inBlock_of_take (by decide)
  refine ⟨_, rfl, by decide, ?_⟩
  exact (emission_in_block_iff fftsg rfl rfl rfl here (by decide) outside (by decide)
    (by decide)).2.2 3 (by decide)

theorem brace_in_block_emitted :
    ∃ c, fftsg.conditional = some c ∧ c.inFunctions ∧
      fftsg.scan braceInBlock = .ok braceInBlockTags ∧
      braceInBlock[2]? = some "#ifdef A" ∧ ¬ fftsg.declaration.isForward "#ifdef A" ∧
      ¬ fftsg.InBlock (braceInBlock.zip braceInBlockTags) 2 ∧ ¬ Text.isBlankLine "#ifdef A" ∧
      c.opens "#ifdef A" ∧ fftsg.SameBlock c (braceInBlock.zip braceInBlockTags) 2 4 ∧
      fftsg.recast braceInBlock =
        .ok ["internal static void f()", openBrace, openBrace, closeBrace] ∧
      (fftsg.emissions braceInBlock braceInBlockTags)[4]?.bind Emission.text? = some openBrace :=
  ⟨_, rfl, rfl, rfl, rfl, by decide, not_inBlock_of_take (by decide), by decide, by decide,
    by decide, rfl, by decide⟩

end Dialect

end Recast
