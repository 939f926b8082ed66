import Recast.Dialect.Builtin
import Recast.Emission
import Recast.Proofs.Basics

set_option autoImplicit false

namespace Recast

open Text (openBrace closeBrace)

-- The notion behind two of the flags: something has started, and since then nothing has stopped it.
def Since (starts holds : Nat → Prop) (i : Nat) : Prop :=
  ∃ j < i, starts j ∧ ∀ k, j < k → k < i → holds k

theorem not_since_zero (starts holds : Nat → Prop) : ¬ Since starts holds 0 := by
  rintro ⟨j, before, -⟩
  omega

theorem since_succ {starts holds : Nat → Prop} {i : Nat} :
    Since starts holds (i + 1) ↔ starts i ∨ Since starts holds i ∧ holds i := by
  constructor
  · rintro ⟨j, before, start, between⟩
    by_cases last : j = i
    · exact .inl (last ▸ start)
    · have earlier : j < i := by omega
      exact .inr ⟨⟨j, earlier, start, fun k after early => between k after (by omega)⟩,
        between i earlier (by omega)⟩
  · rintro (start | ⟨⟨j, before, start, between⟩, here⟩)
    · exact ⟨i, by omega, start, fun k after early => absurd after (by omega)⟩
    · refine ⟨j, by omega, start, fun k after early => ?_⟩
      by_cases last : k = i
      · exact last ▸ here
      · exact between k after (by omega)

namespace Dialect

def BodyAt (file : List (String × Tag)) (i : Nat) (p : String → Bool) : Prop :=
  ∃ line, file[i]? = some (line, .body) ∧ p line

instance (file : List (String × Tag)) (i : Nat) (p : String → Bool) :
    Decidable (BodyAt file i p) :=
  decidable_of_iff (file[i]?.any fun entry => entry.2 = .body && p entry.1) (by
    cases here : file[i]? with
    | none => simp [BodyAt, here]
    | some entry =>
      obtain ⟨line, tag⟩ := entry
      by_cases body : tag = .body <;> simp [BodyAt, here, body])

def ForwardAt (d : Dialect) (file : List (String × Tag)) (i : Nat) : Prop :=
  BodyAt file i d.declaration.isForward

-- Each of these looks only at places before `i`, or at the first two for `i` itself.
mutual

/-- A block starts before `i`, and does not end between. -/
def InBlock (d : Dialect) (file : List (String × Tag)) (i : Nat) : Prop :=
  ∃ j, ∃ _ : j < i, d.BlockStart file j ∧ ∀ k, ∀ _ : j < k, ∀ _ : k < i, ¬ d.BlockEnd file k
termination_by (i, 0)

/-- A forward declaration stands before `i`, and between are only lines of its function that are
left out as forward declarations or for a block. -/
def PastForward (d : Dialect) (file : List (String × Tag)) (i : Nat) : Prop :=
  ∃ j, ∃ _ : j < i, d.ForwardAt file j ∧ ∀ k, ∀ _ : j < k, ∀ _ : k < i,
    BodyAt file k (fun _ => true) ∧ (d.ForwardAt file k ∨ d.InBlock file k ∨ d.BlockStart file k)
termination_by (i, 0)

def BlockStart (d : Dialect) (file : List (String × Tag)) (i : Nat) : Prop :=
  ¬ d.ForwardAt file i ∧ ¬ d.InBlock file i ∧
    ¬ (d.PastForward file i ∧ BodyAt file i Text.isBlankLine) ∧ BodyAt file i d.opensBodyBlock
termination_by (i, 1)

def BlockEnd (d : Dialect) (file : List (String × Tag)) (i : Nat) : Prop :=
  ¬ d.ForwardAt file i ∧ d.InBlock file i ∧ BodyAt file i d.closesBodyBlock
termination_by (i, 1)

end

open Classical in
noncomputable def outputAt (d : Dialect) (file : List (String × Tag)) (i : Nat) : Option String :=
  match file[i]? with
  | none => none
  | some (line, tag) =>
    if ∀ entry ∈ file.take (i + 1), entry.2 = .plain then none
    else
      match tag with
      | .inclusion | .conditional => none
      | .header => some (d.visibility ++ line)
      | .plain | .comment | .opening | .closing => some line
      | .body =>
        if d.declaration.isForward line then none
        else if d.InBlock file i then none
        else if d.PastForward file i ∧ Text.isBlankLine line then none
        else if d.opensBodyBlock line then none
        else some (d.substitutions.apply line)

variable {d : Dialect} {file : List (String × Tag)} {i : Nat} {line : String} {tag : Tag}

theorem bodyAt_iff {p : String → Bool} (here : file[i]? = some (line, .body)) :
    BodyAt file i p ↔ p line := by
  simp [BodyAt, here]

theorem not_bodyAt {p : String → Bool} (here : file[i]? = some (line, tag)) (other : tag ≠ .body) :
    ¬ BodyAt file i p := by
  simp [BodyAt, here, other]

theorem inBlock_iff_since :
    d.InBlock file i ↔ Since (d.BlockStart file) (fun k => ¬ d.BlockEnd file k) i := by
  rw [InBlock]
  simp only [Since, exists_prop]

theorem BlockStart.entry (start : d.BlockStart file i) :
    ∃ line, file[i]? = some (line, .body) ∧ d.opensBodyBlock line := by
  rw [BlockStart] at start
  exact start.2.2.2

theorem not_inBlock_of_take (other : ∀ entry ∈ file.take i, entry.2 ≠ Tag.body) :
    ¬ d.InBlock file i := by
  intro within
  obtain ⟨j, before, start, -⟩ := inBlock_iff_since.1 within
  obtain ⟨line, here, -⟩ := start.entry
  exact other _ (mem_take_of_getElem? before here) rfl

theorem inBlock_succ :
    d.InBlock file (i + 1) ↔ d.BlockStart file i ∨ d.InBlock file i ∧ ¬ d.BlockEnd file i := by
  simp only [inBlock_iff_since, since_succ]

theorem pastForward_iff_since :
    d.PastForward file i ↔ Since (d.ForwardAt file) (fun k => BodyAt file k (fun _ => true) ∧
      (d.ForwardAt file k ∨ d.InBlock file k ∨ d.BlockStart file k)) i := by
  rw [PastForward]
  simp only [Since, exists_prop]

theorem pastForward_succ :
    d.PastForward file (i + 1) ↔ d.ForwardAt file i ∨ d.PastForward file i ∧
      BodyAt file i (fun _ => true) ∧
        (d.ForwardAt file i ∨ d.InBlock file i ∨ d.BlockStart file i) := by
  simp only [pastForward_iff_since, since_succ]

theorem blockStart_iff (here : file[i]? = some (line, .body)) :
    d.BlockStart file i ↔ ¬ d.declaration.isForward line ∧ ¬ d.InBlock file i ∧
      ¬ (d.PastForward file i ∧ Text.isBlankLine line) ∧ d.opensBodyBlock line := by
  rw [BlockStart]
  simp only [ForwardAt, bodyAt_iff here]

theorem blockEnd_iff (here : file[i]? = some (line, .body)) :
    d.BlockEnd file i ↔
      ¬ d.declaration.isForward line ∧ d.InBlock file i ∧ d.closesBodyBlock line := by
  rw [BlockEnd]
  simp only [ForwardAt, bodyAt_iff here]

theorem outputAt_inBlock (here : file[i]? = some (line, .body)) (within : d.InBlock file i) :
    d.outputAt file i = none := by
  simp [outputAt, here, within]

theorem outputAt_blockStart (start : d.BlockStart file i) : d.outputAt file i = none := by
  obtain ⟨line, here, opens⟩ := start.entry
  simp [outputAt, here, opens]

theorem not_leading (here : file[i]? = some (line, tag)) (begins : tag ≠ .plain) :
    ¬ ∀ entry ∈ file.take (i + 1), entry.2 = Tag.plain := by
  intro plain
  exact begins (plain _ (mem_take_of_getElem? (Nat.lt_succ_self i) here))

theorem outputAt_opening (here : file[i]? = some (line, .opening)) :
    d.outputAt file i = some line := by
  simp only [outputAt, here, if_neg (not_leading here (by simp))]

theorem outputAt_header (here : file[i]? = some (line, .header)) :
    d.outputAt file i = some (d.visibility ++ line) := by
  simp only [outputAt, here, if_neg (not_leading here (by simp))]

theorem not_pastForward_succ (here : file[i]? = some (line, tag)) (other : tag ≠ .body) :
    ¬ d.PastForward file (i + 1) := by
  simp [pastForward_succ, ForwardAt, not_bodyAt here other]

theorem inBlock_succ_of_other (here : file[i]? = some (line, tag)) (other : tag ≠ .body) :
    d.InBlock file (i + 1) ↔ d.InBlock file i := by
  rw [inBlock_succ, BlockStart, BlockEnd]
  simp [not_bodyAt here other]

end Dialect

namespace Emitter

structure Tracks (d : Dialect) (file : List (String × Tag)) (i : Nat) (e : Emitter) : Prop where
  started : e.started ↔ ∃ entry ∈ file.take i, entry.2 ≠ .plain
  afterForward : e.afterForward ↔ d.PastForward file i
  skipping : e.skipping ↔ d.InBlock file i

variable {d : Dialect} {file : List (String × Tag)} {i : Nat} {e : Emitter} {line : String}
  {tag : Tag}

theorem tracks_zero (d : Dialect) (file : List (String × Tag)) : Tracks d file 0 {} where
  started := by simp
  afterForward := by simp [Dialect.pastForward_iff_since, not_since_zero]
  skipping := by simp [Dialect.inBlock_iff_since, not_since_zero]

theorem started_succ (here : file[i]? = some (line, tag)) :
    (∃ entry ∈ file.take (i + 1), entry.2 ≠ Tag.plain) ↔
      (∃ entry ∈ file.take i, entry.2 ≠ Tag.plain) ∨ tag ≠ .plain := by
  rw [List.take_add_one, here]
  simp [or_and_right, exists_or]

theorem step_body : e.step d line .body = ({ e with started := true } : Emitter).body d line := by
  simp [step]

theorem step_leading (idle : e.started = false) : e.step d line .plain = (e, .leading) := by
  simp [step, idle]

theorem step_other (begun : e.started ∨ tag ≠ .plain) (other : tag ≠ .body) :
    (e.step d line tag).1 = ⟨true, false, e.skipping⟩ := by
  cases tag <;> simp_all [step]

theorem body_started : (e.body d line).1.started = e.started := by
  unfold body
  split_ifs <;> rfl

theorem body_skipping :
    (e.body d line).1.skipping ↔
      (¬ d.declaration.isForward line ∧ ¬ e.skipping ∧
        ¬ (e.afterForward ∧ Text.isBlankLine line) ∧ d.opensBodyBlock line) ∨
      e.skipping ∧ ¬ (¬ d.declaration.isForward line ∧ e.skipping ∧ d.closesBodyBlock line) := by
  unfold body
  split_ifs <;> simp_all

theorem body_afterForward :
    (e.body d line).1.afterForward ↔
      d.declaration.isForward line ∨ e.afterForward ∧
        (d.declaration.isForward line ∨ e.skipping ∨ ¬ d.declaration.isForward line ∧
          ¬ e.skipping ∧ ¬ (e.afterForward ∧ Text.isBlankLine line) ∧ d.opensBodyBlock line) := by
  unfold body
  split_ifs <;> simp_all

-- The flags after the line and the facts about the next place have one recurrence.
theorem Tracks.body (tracks : Tracks d file i e) (here : file[i]? = some (line, .body)) :
    Tracks d file (i + 1) (e.step d line .body).1 := by
  rw [step_body]
  constructor
  · rw [body_started, started_succ here]
    simp
  · rw [body_afterForward, Dialect.pastForward_succ, Dialect.blockStart_iff here]
    simp only [Dialect.ForwardAt, Dialect.bodyAt_iff here, ← tracks.afterForward,
      ← tracks.skipping, true_and]
  · rw [body_skipping, Dialect.inBlock_succ, Dialect.blockStart_iff here,
      Dialect.blockEnd_iff here]
    simp only [← tracks.afterForward, ← tracks.skipping]

-- Any other line ends the run after a forward declaration, and leaves blocks as they are.
theorem Tracks.other (tracks : Tracks d file i e) (here : file[i]? = some (line, tag))
    (begun : e.started ∨ tag ≠ .plain) (other : tag ≠ .body) :
    Tracks d file (i + 1) (e.step d line tag).1 := by
  rw [step_other begun other]
  constructor
  · rw [started_succ here, ← tracks.started]
    simpa using begun
  · simpa using Dialect.not_pastForward_succ here other
  · rw [Dialect.inBlock_succ_of_other here other]
    exact tracks.skipping

theorem Tracks.leading (tracks : Tracks d file i e) (here : file[i]? = some (line, .plain))
    (idle : e.started = false) : Tracks d file (i + 1) (e.step d line .plain).1 := by
  rw [step_leading idle]
  -- Nothing has been declared where every line so far is plain.
  have quiet : ¬ e.afterForward := by
    intro past
    obtain ⟨j, before, ⟨text, forward, -⟩, -⟩ :=
      Dialect.pastForward_iff_since.1 (tracks.afterForward.1 past)
    have begun : e.started :=
      tracks.started.2 ⟨_, mem_take_of_getElem? before forward, by simp⟩
    simp [idle] at begun
  constructor
  · rw [started_succ here, ← tracks.started]
    simp
  · simpa [quiet] using Dialect.not_pastForward_succ here (by simp)
  · rw [Dialect.inBlock_succ_of_other here (by simp)]
    exact tracks.skipping

theorem Tracks.step (tracks : Tracks d file i e) (here : file[i]? = some (line, tag)) :
    Tracks d file (i + 1) (e.step d line tag).1 := by
  by_cases body : tag = .body
  · subst body
    exact tracks.body here
  · by_cases begun : e.started ∨ tag ≠ .plain
    · exact tracks.other here begun body
    · obtain ⟨idle, rfl⟩ : e.started = false ∧ tag = .plain := by simpa using begun
      exact tracks.leading here idle

theorem body_text? :
    (e.body d line).2.text? =
      if d.declaration.isForward line then none
      else if e.skipping then none
      else if e.afterForward ∧ Text.isBlankLine line then none
      else if d.opensBodyBlock line then none
      else some (d.substitutions.apply line) := by
  unfold body
  split_ifs <;> simp_all [Emission.text?]

theorem Tracks.text? (tracks : Tracks d file i e) (here : file[i]? = some (line, tag)) :
    (e.step d line tag).2.text? = d.outputAt file i := by
  have leading : (∀ entry ∈ file.take (i + 1), entry.2 = Tag.plain) ↔
      e.started = false ∧ tag = .plain := by
    have begun := not_congr (started_succ here)
    rw [← tracks.started] at begun
    simpa using begun
  simp only [Dialect.outputAt, here, leading]
  by_cases idle : e.started = false ∧ tag = .plain
  · obtain ⟨idle, rfl⟩ := idle
    simp [step_leading, idle, Emission.text?]
  · rw [if_neg idle]
    cases tag with
    | body => simp only [step_body, body_text?, ← tracks.skipping, ← tracks.afterForward]
    | plain =>
      have begun : e.started = true := by simpa using idle
      simp [Emitter.step, begun, Emission.text?]
    | comment | inclusion | conditional | header | opening | closing =>
      simp [Emitter.step, Emission.text?]

def after (d : Dialect) : Emitter → List String → List Tag → Emitter
  | e, line :: lines, tag :: tags => after d (e.step d line tag).1 lines tags
  | e, _, _ => e

theorem run_append {lines rest : List String} {tags following : List Tag}
    (same : lines.length = tags.length) :
    run d e (lines ++ rest) (tags ++ following) =
      run d e lines tags ++ run d (after d e lines tags) rest following := by
  induction lines generalizing e tags with
  | nil =>
    obtain rfl : tags = [] := List.length_eq_zero_iff.1 same.symm
    rfl
  | cons line lines ih =>
    cases tags with
    | nil => cases same
    | cons tag tags => simp [run, after, ih (Nat.succ.inj same)]

theorem length_run (lines : List String) (tags : List Tag) :
    (run d e lines tags).length = (lines.zip tags).length := by
  induction lines generalizing e tags with
  | nil => rfl
  | cons line lines ih =>
    cases tags with
    | nil => rfl
    | cons tag tags => simpa [run] using ih tags

-- The entries from `i` on are the ones that are still to come.
theorem uncons_drop {lines : List String} {tags : List Tag}
    (rest : file.drop i = (line :: lines).zip (tag :: tags)) :
    file[i]? = some (line, tag) ∧ file.drop (i + 1) = lines.zip tags := by
  constructor
  · rw [← List.head?_drop, rest]
    rfl
  · rw [← List.tail_drop, rest]
    rfl

theorem Tracks.after {lines : List String} {tags : List Tag} (tracks : Tracks d file i e)
    (rest : file.drop i = lines.zip tags) :
    Tracks d file (i + (lines.zip tags).length) (Emitter.after d e lines tags) := by
  induction lines generalizing i e tags with
  | nil => exact tracks
  | cons line lines ih =>
    cases tags with
    | nil => exact tracks
    | cons tag tags =>
      obtain ⟨here, following⟩ := uncons_drop rest
      have count : i + ((line :: lines).zip (tag :: tags)).length =
          i + 1 + (lines.zip tags).length := by
        simp only [List.zip_cons_cons, List.length_cons]
        omega
      rw [count]
      exact ih (tracks.step here) following

theorem run_text? {lines : List String} {tags : List Tag} (tracks : Tracks d file i e)
    (rest : file.drop i = lines.zip tags) :
    (run d e lines tags).map Emission.text? =
      (List.range' i (lines.zip tags).length).map (d.outputAt file) := by
  induction lines generalizing i e tags with
  | nil => rfl
  | cons line lines ih =>
    cases tags with
    | nil => rfl
    | cons tag tags =>
      obtain ⟨here, following⟩ := uncons_drop rest
      simp only [run, List.map_cons, List.zip_cons_cons, List.length_cons, List.range'_succ,
        tracks.text? here, ih (tracks.step here) following]

end Emitter

namespace Dialect

theorem text?_emissions (d : Dialect) (lines : List String) (tags : List Tag) :
    (d.emissions lines tags).map Emission.text? =
      (List.range (lines.zip tags).length).map (d.outputAt (lines.zip tags)) := by
  rw [List.range_eq_range']
  exact Emitter.run_text? (Emitter.tracks_zero d (lines.zip tags)) rfl

theorem text?_emission (d : Dialect) (lines : List String) (tags : List Tag) (i : Nat) :
    (d.emissions lines tags)[i]?.bind Emission.text? = d.outputAt (lines.zip tags) i := by
  by_cases present : i < (lines.zip tags).length
  · have texts := congrArg (·[i]?) (text?_emissions d lines tags)
    simp only [List.getElem?_map, List.getElem?_range present] at texts
    obtain ⟨emission, found, text⟩ := Option.map_eq_some_iff.1 texts
    rw [found]
    exact text
  · have missing : (lines.zip tags)[i]? = none := List.getElem?_eq_none (by omega)
    have silent : (d.emissions lines tags)[i]? = none :=
      List.getElem?_eq_none (by rw [emissions, Emitter.length_run]; omega)
    simp [outputAt, missing, silent]

/-- What is left out, and what is put in its place, depends on where a line stands and on nothing
else that an emitter keeps: every place gives its own output line or none, in the order of the
lines. -/
theorem emitChecked_eq_outputAt (d : Dialect) (lines : List String) (tags : List Tag)
    (same : lines.length = tags.length) :
    d.emitChecked lines tags =
      .ok ((List.range lines.length).filterMap (d.outputAt (lines.zip tags))) := by
  have size : (lines.zip tags).length = lines.length := by simp [same]
  have emitted : d.emit lines tags =
      ((d.emissions lines tags).map Emission.text?).filterMap id := by
    rw [emit, List.filterMap_map]
    rfl
  rw [emitChecked, if_pos same, emitted, text?_emissions, size, List.filterMap_map]
  rfl

-- The declarations reach over the block to the first blank line after it, and no further.
theorem outputAt_forward_over_block :
    let lines := ["void f()", openBrace, "    void g(int n);", "#ifdef A", "    void h(int n);",
      "#endif /* A */", "", "", "    g(1);", closeBrace]
    let tags : List Tag :=
      [.header, .opening, .body, .body, .body, .body, .body, .body, .body, .closing]
    lines.length = tags.length ∧
      (List.range lines.length).filterMap (fftsg.outputAt (lines.zip tags)) =
        ["internal static void f()", openBrace, "", "    g(1);", closeBrace] := by
  refine ⟨rfl, Except.ok.inj ((emitChecked_eq_outputAt fftsg _ _ rfl).symm.trans ?_)⟩
  rfl

end Dialect

end Recast
