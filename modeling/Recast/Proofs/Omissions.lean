import Recast.Dialect.Builtin
import Recast.Proofs.Appending
import Recast.Proofs.Headers

set_option autoImplicit false

namespace Recast

open Text (openBrace closeBrace)

namespace Scanner.Accepts

variable {d : Dialect} {s s' : Scanner} {line : String} {lines middle rest : List String}
  {tags following : List Tag}

-- The count of lines and the text of the opener play no part in what is accepted.
theorem of_region_eq (accepts : Accepts d s lines tags) (same : s'.region = s.region) :
    Accepts d s' lines tags := by
  induction accepts generalizing s' with
  | finish n =>
    obtain ⟨n', _ | o'⟩ := s'
    · exact .finish n'
    · simp [region] at same
  | @outside n line tag entered rest tags known next ih =>
    obtain ⟨n', _ | o'⟩ := s'
    · exact .outside known (ih (by cases entered <;> rfl))
    · simp [region] at same
  | @inside n o line rest tags next ih =>
    obtain ⟨n', _ | o'⟩ := s'
    · simp [region] at same
    · have kind : o'.region = o.region := by simpa [region] using same
      rw [← kind] at next ih ⊢
      apply Accepts.inside
      apply ih
      cases (d.inside line o'.region).2 <;> simp [region, kind]

theorem of_cons_body (accepts : Accepts d s (line :: rest) (.body :: tags)) :
    Accepts d s rest tags := by
  generalize found : Tag.body :: tags = all at accepts
  cases accepts with
  | outside known next =>
    cases found
    exact absurd rfl (Dialect.outside?_tag_ne known).2
  | @inside n o line rest tags' next =>
    obtain ⟨body, rfl⟩ := List.cons.inj found
    obtain ⟨-, stays⟩ := d.inside_of_function_tag (.inr (.inr body.symm))
    rw [stays] at next
    exact next.of_region_eq rfl

theorem of_append_body
    (accepts : Accepts d s (middle ++ rest) (List.replicate middle.length .body ++ following)) :
    Accepts d s rest following := by
  induction middle with
  | nil => exact accepts
  | cons line middle ih => exact ih accepts.of_cons_body

theorem without_body
    (accepts : Accepts d s (lines ++ middle ++ rest)
      (tags ++ List.replicate middle.length .body ++ following))
    (placed : tags.length = lines.length) : Accepts d s (lines ++ rest) (tags ++ following) := by
  induction lines generalizing s tags with
  | nil =>
    obtain rfl : tags = [] := List.length_eq_zero_iff.1 placed
    exact of_append_body accepts
  | cons line lines ih =>
    cases tags with
    | nil => cases placed
    | cons tag tags =>
      simp only [List.cons_append] at accepts ⊢
      cases accepts with
      | outside known next => exact .outside known (ih next (Nat.succ.inj placed))
      | inside next => exact .inside (ih next (Nat.succ.inj placed))

end Scanner.Accepts

/-- A block of a function, from the line that starts it to the first line that ends it. -/
structure Dialect.ClosedBlock (d : Dialect) (c : Conditional) (first : String)
    (inner : List String) (last : String) : Prop where
  opens : c.opens first
  visible : ¬ Text.isBlankLine first
  defines : ¬ d.declaration.isForward first
  stays : ∀ line ∈ inner, ¬ c.closes line ∧ ¬ d.declaration.isForward line
  closes : c.closes last
  ends : ¬ d.declaration.isForward last

namespace Emitter

variable {d : Dialect} {line : String} {lines : List String} {tags : List Tag}

theorem after_started (same : lines.length = tags.length) :
    (after d {} lines tags).started ↔ ∃ tag ∈ tags, tag ≠ .plain := by
  have tracks := ((tracks_zero d (lines.zip tags)).after rfl).started
  rw [Nat.zero_add, List.take_length] at tracks
  constructor
  · intro started
    obtain ⟨entry, member, other⟩ := tracks.1 started
    exact ⟨entry.2, (List.of_mem_zip member).2, other⟩
  · intro ⟨tag, member, other⟩
    rw [← List.map_snd_zip (Nat.le_of_eq same.symm)] at member
    obtain ⟨entry, present, rfl⟩ := List.mem_map.1 member
    exact tracks.2 ⟨entry, present, other⟩

section ClosedBlock

variable {c : Conditional} {first last : String} {inner : List String} {forward : Bool}

theorem step_blockStart (defines : ¬ d.declaration.isForward line)
    (visible : ¬ Text.isBlankLine line) (opens : d.opensBodyBlock line) :
    step d ⟨true, forward, false⟩ line .body = (⟨true, forward, true⟩, .blockStart) := by
  simp [step, body, defines, visible, opens]

theorem step_skipped (defines : ¬ d.declaration.isForward line) :
    step d ⟨true, forward, true⟩ line .body =
      (⟨true, forward, !d.closesBodyBlock line⟩, .skipped) := by
  cases closes : d.closesBodyBlock line <;> simp [step, body, defines, closes]

theorem run_skipped {rest : List String} {following : List Tag}
    (stays : ∀ line ∈ lines, ¬ d.closesBodyBlock line ∧ ¬ d.declaration.isForward line) :
    run d ⟨true, forward, true⟩ (lines ++ rest) (List.replicate lines.length .body ++ following) =
      List.replicate lines.length .skipped ++ run d ⟨true, forward, true⟩ rest following := by
  induction lines with
  | nil => rfl
  | cons line lines ih =>
    obtain ⟨goesOn, defines⟩ := stays line (by simp)
    have further := ih fun line member => stays line (List.mem_cons_of_mem _ member)
    simp [run, List.replicate_succ, step_skipped defines, goesOn, further]

-- The flags behind the block are those before it, also the one that a blank line would look at.
theorem run_closedBlock (rules : d.conditional = some c) (allowed : c.inFunctions)
    (block : d.ClosedBlock c first inner last) (rest : List String) (following : List Tag) :
    run d ⟨true, forward, false⟩ (first :: inner ++ [last] ++ rest)
        (List.replicate (inner.length + 2) .body ++ following) =
      .blockStart :: List.replicate (inner.length + 1) .skipped ++
        run d ⟨true, forward, false⟩ rest following := by
  have opens : d.opensBodyBlock first := by
    rw [Dialect.opensBodyBlock_eq rules allowed]
    exact block.opens
  have stays : ∀ line ∈ inner, ¬ d.closesBodyBlock line ∧ ¬ d.declaration.isForward line := by
    simpa only [Dialect.closesBodyBlock_eq rules allowed] using block.stays
  have closes : d.closesBodyBlock last := by
    rw [Dialect.closesBodyBlock_eq rules allowed]
    exact block.closes
  rw [List.replicate_succ, List.replicate_succ', List.replicate_succ']
  simp only [List.cons_append, List.append_assoc, List.nil_append, run, run_skipped stays,
    step_blockStart block.defines block.visible opens, step_skipped block.ends, closes,
    Bool.not_true]

end ClosedBlock

end Emitter

namespace Dialect

variable {d : Dialect} {c : Conditional} {before inner after : List String} {first last : String}
  {tags following : List Tag}

theorem started_before_body {rest : List String} (placed : tags.length = before.length)
    (accepted : d.scan (before ++ rest) = .ok (tags ++ .body :: following)) :
    (Emitter.after d {} before tags).started := by
  rw [Emitter.after_started placed.symm]
  have here : (tags ++ Tag.body :: following)[tags.length]? = some .body := by simp
  obtain ⟨top, bottom, function, above, below⟩ := functionAt_around accepted here rfl
  have strictly : top < tags.length := by
    apply Nat.lt_of_le_of_ne above
    rintro rfl
    cases here.symm.trans function.header
  have header := function.header
  rw [List.getElem?_append_left strictly] at header
  exact ⟨.header, List.mem_of_getElem? header, by simp⟩

theorem scan_without_block (placed : tags.length = before.length)
    (accepted : d.scan (before ++ (first :: inner ++ [last]) ++ after) =
      .ok (tags ++ List.replicate (inner.length + 2) .body ++ following)) :
    d.scan (before ++ after) = .ok (tags ++ following) := by
  have size : inner.length + 2 = (first :: inner ++ [last]).length := by simp
  rw [size] at accepted
  exact scan_eq_ok_iff.2 ((scan_eq_ok_iff.1 accepted).without_body placed)

theorem emissions_without_block (rules : d.conditional = some c) (allowed : c.inFunctions)
    (block : d.ClosedBlock c first inner last) (placed : tags.length = before.length)
    (accepted : d.scan (before ++ (first :: inner ++ [last]) ++ after) =
      .ok (tags ++ List.replicate (inner.length + 2) .body ++ following))
    (outside : (Emitter.after d {} before tags).skipping = false) :
    ∃ above below, above.length = before.length ∧
      d.emissions (before ++ after) (tags ++ following) = above ++ below ∧
      d.emissions (before ++ (first :: inner ++ [last]) ++ after)
          (tags ++ List.replicate (inner.length + 2) .body ++ following) =
        above ++ (.blockStart :: List.replicate (inner.length + 1) .skipped) ++ below := by
  rw [List.append_assoc before, List.append_assoc tags] at accepted ⊢
  have started := started_before_body placed accepted
  cases reached : Emitter.after d {} before tags with
  | mk begun forward skipping =>
    rw [reached] at started outside
    obtain rfl : begun = true := started
    obtain rfl : skipping = false := outside
    refine ⟨Emitter.run d {} before tags, Emitter.run d ⟨true, forward, false⟩ after following,
      ?_, ?_, ?_⟩
    · rw [Emitter.length_run, List.length_zip, placed, Nat.min_self]
    · rw [emissions, Emitter.run_append placed.symm, reached]
    · rw [emissions, Emitter.run_append placed.symm, reached,
        Emitter.run_closedBlock rules allowed block, List.append_assoc]

/-- A block of a function that is closed in it can be taken out of a file: the tags of the other
lines, and what becomes of each of them, stay the same. -/
theorem recast_without_block (d : Dialect) {c : Conditional} {before inner after : List String}
    {first last : String} {tags following : List Tag} (rules : d.conditional = some c)
    (allowed : c.inFunctions) (block : d.ClosedBlock c first inner last)
    (accepted : d.scan (before ++ (first :: inner ++ [last]) ++ after) =
      .ok (tags ++ List.replicate (inner.length + 2) .body ++ following))
    (placed : tags.length = before.length)
    (outside : (Emitter.after d {} before tags).skipping = false) :
    d.scan (before ++ after) = .ok (tags ++ following) ∧
    d.recast (before ++ after) = d.recast (before ++ (first :: inner ++ [last]) ++ after) ∧
    ∃ above below, above.length = before.length ∧
      d.emissions (before ++ after) (tags ++ following) = above ++ below ∧
      d.emissions (before ++ (first :: inner ++ [last]) ++ after)
          (tags ++ List.replicate (inner.length + 2) .body ++ following) =
        above ++ (.blockStart :: List.replicate (inner.length + 1) .skipped) ++ below := by
  have shortened := scan_without_block placed accepted
  obtain ⟨above, below, size, short, long⟩ :=
    emissions_without_block rules allowed block placed accepted outside
  have silent : (Emission.blockStart :: List.replicate (inner.length + 1) .skipped).filterMap
      Emission.text? = [] := by
    rw [List.filterMap_eq_nil_iff]
    simp [Emission.text?]
  refine ⟨shortened, ?_, above, below, size, short, long⟩
  rw [recast_of_scan shortened, recast_of_scan accepted, emit, emit, short, long,
    List.filterMap_append, List.filterMap_append, List.filterMap_append, silent, List.append_nil]

-- The blank line goes with the declaration above the block, with the block as without it.
theorem recast_without_block_below_forward :
    ∃ c, fftsg.conditional = some c ∧
      fftsg.ClosedBlock c "#ifdef A" ["", "    x = 1;"] "#endif /* A */" ∧
      fftsg.recast (["void f()", openBrace, "    void g(int n);"] ++
          ("#ifdef A" :: ["", "    x = 1;"] ++ ["#endif /* A */"]) ++
            ["", "    g(1);", closeBrace]) =
        .ok ["internal static void f()", openBrace, "    g(1);", closeBrace] := by
  obtain ⟨c, rules, allowed, block⟩ : ∃ c, fftsg.conditional = some c ∧ c.inFunctions ∧
      fftsg.ClosedBlock c "#ifdef A" ["", "    x = 1;"] "#endif /* A */" :=
    ⟨_, rfl, rfl, by decide, by decide, by decide, by decide, by decide, by decide⟩
  have accepted : fftsg.scan (["void f()", openBrace, "    void g(int n);"] ++
      ("#ifdef A" :: ["", "    x = 1;"] ++ ["#endif /* A */"]) ++ ["", "    g(1);", closeBrace]) =
        .ok ([.header, .opening, .body] ++ List.replicate 4 .body ++ [.body, .body, .closing]) :=
    rfl
  have same := (recast_without_block fftsg rules allowed block accepted rfl rfl).2.1
  exact ⟨c, rules, block, same.symm.trans rfl⟩

section PlainLines

variable {lines rest : List String}

theorem emissions_behind_plain (plain : ∀ tag ∈ tags, tag = .plain)
    (same : lines.length = tags.length) :
    d.emissions (lines ++ rest) (tags ++ following) =
      List.replicate lines.length .leading ++ d.emissions rest following := by
  simp only [emissions]
  induction lines generalizing tags with
  | nil =>
    obtain rfl : tags = [] := List.length_eq_zero_iff.1 same.symm
    rfl
  | cons line lines ih =>
    cases tags with
    | nil => cases same
    | cons tag tags =>
      obtain rfl : tag = .plain := plain tag (by simp)
      have further := ih (fun tag member => plain tag (by simp [member])) (Nat.succ.inj same)
      simp only [List.cons_append, Emitter.run, Emitter.step_leading, further, List.length_cons,
        List.replicate_succ]

-- Plain lines before everything else only move the numbers of the lines in errors.
theorem recast_behind_plain (accepted : d.scan lines = .ok tags)
    (plain : ∀ tag ∈ tags, tag = .plain) (rest : List String) :
    d.recast (lines ++ rest) = (d.recast rest).mapError (·.renumber (· + lines.length)) := by
  cases next : d.scan rest with
  | error e => simp [recast, scan_append accepted, next, Except.map, Except.mapError]
  | ok following =>
    have silent : (List.replicate lines.length Emission.leading).filterMap Emission.text? = [] := by
      rw [List.filterMap_eq_nil_iff]
      simp [Emission.text?]
    rw [recast_of_scan (scan_append_of_ok accepted next), recast_of_scan next, emit, emit,
      emissions_behind_plain plain (length_of_scan accepted).symm, List.filterMap_append, silent]
    rfl

theorem run_plain {e : Emitter} (begun : e.started) (plain : ∀ tag ∈ tags, tag = .plain)
    (same : lines.length = tags.length) :
    (Emitter.run d e lines tags).filterMap Emission.text? = lines := by
  induction lines generalizing e tags with
  | nil => rfl
  | cons line lines ih =>
    cases tags with
    | nil => cases same
    | cons tag tags =>
      obtain rfl : tag = .plain := plain tag (by simp)
      have next : (e.step d line .plain).1.started := by
        rw [Emitter.step_other (.inl begun) (by simp)]
      have text : (e.step d line .plain).2.text? = some line := by
        simp [Emitter.step, begun, Emission.text?]
      have further := ih next (fun tag member => plain tag (by simp [member])) (Nat.succ.inj same)
      rw [Emitter.run, List.filterMap_cons_some text, further]

theorem recast_append_plain (accepted : d.scan before = .ok following)
    (begun : ∃ tag ∈ following, tag ≠ .plain) (next : d.scan lines = .ok tags)
    (plain : ∀ tag ∈ tags, tag = .plain) :
    d.recast (before ++ lines) = .ok (d.emit before following ++ lines) := by
  have started : (Emitter.after d {} before following).started :=
    (Emitter.after_started (length_of_scan accepted).symm).2 begun
  rw [recast_append_run accepted next, run_plain started plain (length_of_scan next).symm]

end PlainLines

/-- Blank lines and long comments before everything else can be exchanged for others: the output
stays the same, and an error too, but for the number of its line. Behind a line that is not plain
they are emitted. -/
theorem leading_plain_lines_irrelevant (d : Dialect) {first second : List String}
    {tags others : List Tag} (accepted : d.scan first = .ok tags)
    (plain : ∀ tag ∈ tags, tag = .plain) (accepted' : d.scan second = .ok others)
    (plain' : ∀ tag ∈ others, tag = .plain) :
    (∀ rest, (∃ output, d.recast (first ++ rest) = .ok output ∧
          d.recast (second ++ rest) = .ok output) ∨
        (∃ n text, d.recast (first ++ rest) = .error (.unrecognized (n + first.length) text) ∧
          d.recast (second ++ rest) = .error (.unrecognized (n + second.length) text)) ∨
        ∃ r n text, d.recast (first ++ rest) = .error (.unclosed r (n + first.length) text) ∧
          d.recast (second ++ rest) = .error (.unclosed r (n + second.length) text)) ∧
    ∀ before earlier, d.scan before = .ok earlier → (∃ tag ∈ earlier, tag ≠ .plain) →
      d.recast (before ++ first) = .ok (d.emit before earlier ++ first) := by
  refine ⟨fun rest => ?_, fun before earlier scanned begun =>
    recast_append_plain scanned begun accepted plain⟩
  rw [recast_behind_plain accepted plain, recast_behind_plain accepted' plain']
  cases d.recast rest with
  | ok output => exact .inl ⟨output, rfl, rfl⟩
  | error e =>
    cases e with
    | unrecognized n text => exact .inr (.inl ⟨n, text, rfl, rfl⟩)
    | unclosed r n text => exact .inr (.inr ⟨r, n, text, rfl, rfl⟩)

theorem leading_comment_irrelevant :
    let comment := ["/* a", "b */", ""]
    fft4g.scan comment = .ok [.plain, .plain, .plain] ∧ fft4g.scan [""] = .ok [.plain] ∧
      fft4g.recast ([""] ++ ["x"]) = .error (.unrecognized 2 "x") ∧
      fft4g.recast (comment ++ ["x"]) = .error (.unrecognized 4 "x") ∧
      fft4g.recast (["void f()", openBrace, closeBrace] ++ comment) =
        .ok (["internal static void f()", openBrace, closeBrace] ++ comment) := by
  intro comment
  have accepted : fft4g.scan comment = .ok [.plain, .plain, .plain] := rfl
  have accepted' : fft4g.scan [""] = .ok [.plain] := rfl
  have failed : fft4g.recast ([""] ++ ["x"]) = .error (.unrecognized 2 "x") := rfl
  obtain ⟨alike, kept⟩ :=
    leading_plain_lines_irrelevant fft4g accepted (by simp) accepted' (by simp)
  have emitted : fft4g.emit ["void f()", openBrace, closeBrace] [.header, .opening, .closing] =
      ["internal static void f()", openBrace, closeBrace] := by decide
  have behind := kept ["void f()", openBrace, closeBrace] _ rfl ⟨.header, by simp, by simp⟩
  rw [emitted] at behind
  refine ⟨accepted, accepted', failed, ?_, behind⟩
  rcases alike ["x"] with ⟨output, -, succeeded⟩ | ⟨n, text, moved, here⟩ | ⟨r, n, text, -, here⟩
  · cases failed.symm.trans succeeded
  · obtain ⟨rfl, rfl⟩ : n = 1 ∧ text = "x" := by simpa [eq_comm] using failed.symm.trans here
    exact moved
  · cases failed.symm.trans here

section DroppedRegions

variable {e : Emitter} {s : Scanner} {line : String} {tag : Tag} {lines rest : List String}

theorem step_afterForward (forward : (e.step d line tag).1.afterForward) :
    tag = .body ∨ tag = .plain ∧ e.afterForward := by
  by_cases body : tag = .body
  · exact .inl body
  · by_cases begun : e.started ∨ tag ≠ .plain
    · simp [Emitter.step_other begun body] at forward
    · obtain ⟨idle, rfl⟩ : e.started = false ∧ tag = .plain := by simpa using begun
      rw [Emitter.step_leading idle] at forward
      exact .inr ⟨rfl, forward⟩

-- The blank line below forward declarations is awaited inside functions only, and a file ends
-- outside.
theorem afterForward_after (accepts : Scanner.Accepts d s lines tags)
    (within : e.afterForward → s.region = some .function) :
    (Emitter.after d e lines tags).afterForward = false := by
  induction accepts generalizing e with
  | finish n => simpa [Scanner.region, Emitter.after] using within
  | @outside n line tag entered rest tags known next ih =>
    apply ih
    intro forward
    rcases step_afterForward forward with rfl | ⟨-, waiting⟩
    · exact absurd rfl (outside?_tag_ne known).2
    · exact absurd (within waiting) (by simp [Scanner.region])
  | @inside n o line rest tags next ih =>
    apply ih
    intro forward
    rcases step_afterForward forward with body | ⟨plain, waiting⟩
    · obtain ⟨kind, stays⟩ := inside_of_function_tag (.inr (.inr body))
      rw [stays]
      exact congrArg some kind
    · have kind : o.region = .function := by simpa [Scanner.region] using within waiting
      have tag := d.inside_function_tag line
      rw [← kind, plain] at tag
      simp at tag

theorem run_dropped (begun : e.started) (idle : e.afterForward = false)
    (dropped : ∀ tag ∈ tags, tag = .inclusion ∨ tag = .conditional)
    (same : lines.length = tags.length) :
    Emitter.run d e (lines ++ rest) (tags ++ following) =
      List.replicate lines.length .dropped ++ Emitter.run d e rest following := by
  have settled : (⟨true, false, e.skipping⟩ : Emitter) = e := by
    rw [← begun, ← idle]
  induction lines generalizing tags with
  | nil =>
    obtain rfl : tags = [] := List.length_eq_zero_iff.1 same.symm
    rfl
  | cons line lines ih =>
    cases tags with
    | nil => cases same
    | cons tag tags =>
      have step : e.step d line tag = (e, .dropped) := by
        rcases dropped tag (by simp) with rfl | rfl <;> simpa [Emitter.step, begun] using settled
      have further := ih (fun tag member => dropped tag (by simp [member])) (Nat.succ.inj same)
      simp only [List.cons_append, Emitter.run, step, further, List.length_cons,
        List.replicate_succ]

theorem emit_without_dropped {others : List Tag} (accepted : d.scan before = .ok tags)
    (begun : ∃ tag ∈ tags, tag ≠ .plain) (between : d.scan lines = .ok others)
    (dropped : ∀ tag ∈ others, tag = .inclusion ∨ tag = .conditional) :
    d.emit (before ++ (lines ++ rest)) (tags ++ (others ++ following)) =
      d.emit (before ++ rest) (tags ++ following) := by
  have same := (length_of_scan accepted).symm
  have started := (Emitter.after_started (d := d) same).2 begun
  have idle : (Emitter.after d {} before tags).afterForward = false :=
    afterForward_after (scan_eq_ok_iff.1 accepted) (by simp)
  have silent : (List.replicate lines.length Emission.dropped).filterMap Emission.text? = [] := by
    rw [List.filterMap_eq_nil_iff]
    simp [Emission.text?]
  rw [emit, emit, emissions, emissions, Emitter.run_append same, Emitter.run_append same,
    run_dropped started idle dropped (length_of_scan between).symm, List.filterMap_append,
    List.filterMap_append, List.filterMap_append, silent, List.nil_append]

theorem recast_without_dropped {others : List Tag} (accepted : d.scan before = .ok tags)
    (begun : ∃ tag ∈ tags, tag ≠ .plain) (between : d.scan lines = .ok others)
    (dropped : ∀ tag ∈ others, tag = .inclusion ∨ tag = .conditional) (rest : List String) :
    d.recast (before ++ lines ++ rest) =
      (d.recast (before ++ rest)).mapError (·.renumber (· + lines.length)) := by
  cases next : d.scan rest with
  | error e =>
    have moved : e.renumber (· + (before ++ lines).length) =
        (e.renumber (· + before.length)).renumber (· + lines.length) := by
      cases e <;> simp [ScanError.renumber, Nat.add_assoc]
    simp [recast, scan_append (scan_append_of_ok accepted between), scan_append accepted, next,
      moved, Except.map, Except.mapError, -List.append_assoc, -List.length_append]
  | ok following =>
    rw [List.append_assoc before,
      recast_of_scan (scan_append_of_ok accepted (scan_append_of_ok between next)),
      recast_of_scan (scan_append_of_ok accepted next),
      emit_without_dropped accepted begun between dropped]
    rfl

end DroppedRegions

/-- Inclusions and conditional blocks between functions can be taken out of a file: it is accepted
with them exactly if it is accepted without them, and then its output is the same; an error is the
same too, but for the number of its line. -/
theorem dropped_regions_irrelevant (d : Dialect) {before between : List String}
    {tags others : List Tag} (accepted : d.scan before = .ok tags)
    (begun : ∃ tag ∈ tags, tag ≠ .plain) (accepted' : d.scan between = .ok others)
    (dropped : ∀ tag ∈ others, tag = .inclusion ∨ tag = .conditional) (after : List String) :
    ((∃ all, d.scan (before ++ between ++ after) = .ok all) ↔
      ∃ all, d.scan (before ++ after) = .ok all) ∧
    (∀ all, d.scan (before ++ after) = .ok all →
      ∃ output, d.recast (before ++ after) = .ok output ∧
        d.recast (before ++ between ++ after) = .ok output) ∧
    ∀ e, d.recast (before ++ after) = .error e →
      d.recast (before ++ between ++ after) = .error (e.renumber (· + between.length)) := by
  have whole := recast_without_dropped accepted begun accepted' dropped after
  refine ⟨?_, fun all scanned => ?_, fun e failed => ?_⟩
  · simp only [scan_append_eq_ok_iff accepted,
      scan_append_eq_ok_iff (scan_append_of_ok accepted accepted')]
    constructor
    · rintro ⟨_, following, next, -⟩
      exact ⟨_, following, next, rfl⟩
    · rintro ⟨_, following, next, -⟩
      exact ⟨_, following, next, rfl⟩
  · rw [whole, recast_of_scan scanned]
    exact ⟨_, rfl, rfl⟩
  · rw [whole, failed]
    rfl

-- The block of the function before it is still open, and stays so below the inclusion.
theorem dropped_inclusion_irrelevant :
    let before := ["void f()", openBrace, "#ifdef A", closeBrace]
    let between := ["#include <math.h>", "#ifdef B", "x", "#endif /* B */"]
    let after :=
      ["", "void g()", openBrace, "    x = 1;", "#endif /* A */", "    y = 2;", closeBrace]
    fftsg.scan before = .ok [.header, .opening, .body, .closing] ∧
      fftsg.scan between = .ok [.inclusion, .conditional, .conditional, .conditional] ∧
      fftsg.recast (before ++ between ++ after) =
        .ok ["internal static void f()", openBrace, closeBrace, "", "internal static void g()",
          openBrace, "    y = 2;", closeBrace] := by
  intro before between after
  have accepted : fftsg.scan before = .ok [.header, .opening, .body, .closing] := rfl
  have accepted' : fftsg.scan between =
      .ok [.inclusion, .conditional, .conditional, .conditional] := rfl
  obtain ⟨output, short, long⟩ := (dropped_regions_irrelevant fftsg accepted
    ⟨.header, by simp, by simp⟩ accepted' (by simp) after).2.1 _ rfl
  rw [long, ← short]
  exact ⟨accepted, accepted', rfl⟩

end Dialect

end Recast
