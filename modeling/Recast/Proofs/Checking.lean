import Mathlib.Tactic.Common
import Recast.Dialect.Spec

set_option autoImplicit false

namespace Recast

theorem Pattern.source_of_ofSourceWith {read : List Char → Except Reader.Fault Expr}
    {source : String} {p : Pattern} (given : Pattern.ofSourceWith read source = .ok p) :
    p.source = source := by
  rw [ofSourceWith] at given
  cases parsed : read source.toList with
  | error fault => simp [parsed, Except.map] at given
  | ok expr =>
    simp only [parsed, Except.map, Except.ok.injEq] at given
    rw [← given]

theorem Substitution.Table.eq_of_entries_eq {t t' : Table} (same : t.entries = t'.entries) :
    t = t' := by
  cases t
  cases t'
  simpa using same

namespace Dialect

-- Nothing below depends on how patterns are read.
variable (read : List Char → Except Pattern.Reader.Fault Pattern.Expr)

def DeclarationSpec.text : DeclarationSpec → String × String
  | .keyword text => ("declaration prefix", text)
  | .pattern source => ("pattern", source)

def DeclarationSpec.Describes : DeclarationSpec → Declaration → Prop
  | .keyword text, d => d = .keyword text
  | .pattern source, d =>
    ∃ p, Pattern.ofSourceWith read source = .ok p ∧ p.source = source ∧ d = .pattern p

def ConditionalSpec.Describes (c : ConditionalSpec) (r : Conditional) : Prop :=
  Pattern.ofSourceWith read c.opening = .ok r.opening ∧ r.opening.source = c.opening ∧
    Pattern.ofSourceWith read c.closing = .ok r.closing ∧ r.closing.source = c.closing ∧
    r.inFunctions = c.inFunctions

namespace Spec

/-- The texts of a description in the order in which they are checked, each with what it is
called. -/
def texts (s : Spec) : List (String × String) :=
  ("name", s.name) :: s.declaration.text ::
    ((s.conditional.toList.flatMap fun c => [("pattern", c.opening), ("pattern", c.closing)]) ++
      (s.substitutions.map (·.sought)).map ("substitution pattern", ·))

/-- There is nothing wrong with a text that is called `what`. -/
def Sound : String × String → Prop
  | (what, text) => text ≠ "" ∧ (what = "pattern" → ∃ p, Pattern.ofSourceWith read text = .ok p)

inductive Faulty (s : Spec) : String × String → Spec.Error → Prop where
  | empty {what : String} {part : Part} (called : part.title = what) :
      Faulty s (what, "") (.empty s.name part)
  | unreadable {source : String} {fault : Pattern.Reader.Fault} (visible : source ≠ "")
      (refused : Pattern.ofSourceWith read source = .error fault) :
      Faulty s ("pattern", source) (.badPattern s.name source fault)

def FirstFault (s : Spec) (texts : List (String × String)) (e : Spec.Error) : Prop :=
  ∃ before text after, texts = before ++ text :: after ∧ (∀ t ∈ before, Sound read t) ∧
    s.Faulty read text e

structure Describes (s : Spec) (d : Dialect) : Prop where
  name : d.name = s.name
  sources : d.sources = s.sources
  declaration : s.declaration.Describes read d.declaration
  conditional : Option.Rel (ConditionalSpec.Describes read) s.conditional d.conditional
  substitutions : d.substitutions.entries = s.substitutions
  visibility : d.visibility = s.visibility
  imports : d.imports = s.imports

/-- The computation checks the texts in order, and gives what `Gives` says if none is at fault. -/
structure Checks {α : Type} (s : Spec) (given : List (String × String))
    (x : Except Spec.Error α) (Gives : α → Prop) : Prop where
  error_iff : ∀ e, x = .error e ↔ s.FirstFault read given e
  ok_iff : ∀ a, x = .ok a ↔ (∀ t ∈ given, Sound read t) ∧ Gives a

variable {read} {s : Spec} {α β : Type} {e : Spec.Error} {text : String × String}
  {given following : List (String × String)}

theorem Part.title_inj {part part' : Part} : part.title = part'.title ↔ part = part' := by
  cases part <;> cases part' <;> decide

theorem Faulty.not_sound (faulty : s.Faulty read text e) : ¬ Sound read text := by
  cases faulty with
  | empty called => exact fun sound => sound.1 rfl
  | unreadable visible refused =>
    rintro ⟨-, readable⟩
    obtain ⟨p, read⟩ := readable rfl
    cases refused.symm.trans read

theorem FirstFault.not_sound (fault : s.FirstFault read given e) : ¬ ∀ t ∈ given, Sound read t := by
  obtain ⟨before, text, after, rfl, -, faulty⟩ := fault
  exact fun sound => faulty.not_sound (sound text (by simp))

theorem not_firstFault_nil : ¬ s.FirstFault read [] e := by
  rintro ⟨before, text, after, split, -⟩
  simp at split

theorem firstFault_cons_iff :
    s.FirstFault read (text :: given) e ↔
      s.Faulty read text e ∨ Sound read text ∧ s.FirstFault read given e := by
  constructor
  · rintro ⟨_ | ⟨first, before⟩, text', after, split, sound, faulty⟩
    · obtain ⟨rfl, -⟩ := List.cons.inj split
      exact .inl faulty
    · obtain ⟨rfl, rfl⟩ := List.cons.inj split
      obtain ⟨here, earlier⟩ := List.forall_mem_cons.1 sound
      exact .inr ⟨here, before, text', after, rfl, earlier, faulty⟩
  · rintro (faulty | ⟨here, before, text', after, rfl, earlier, faulty⟩)
    · exact ⟨[], text, given, rfl, by simp, faulty⟩
    · exact ⟨text :: before, text', after, rfl, List.forall_mem_cons.2 ⟨here, earlier⟩, faulty⟩

theorem firstFault_singleton_iff : s.FirstFault read [text] e ↔ s.Faulty read text e := by
  simp [firstFault_cons_iff, not_firstFault_nil]

theorem firstFault_append_iff :
    s.FirstFault read (given ++ following) e ↔
      s.FirstFault read given e ∨ (∀ t ∈ given, Sound read t) ∧ s.FirstFault read following e := by
  induction given with
  | nil => simp [not_firstFault_nil]
  | cons text given ih =>
    rw [List.cons_append, firstFault_cons_iff, ih, firstFault_cons_iff, List.forall_mem_cons]
    tauto

theorem Checks.exists_ok_iff {x : Except Spec.Error α} {Gives : α → Prop}
    (checks : s.Checks read given x Gives) : (∃ a, x = .ok a) ↔ ∀ t ∈ given, Sound read t := by
  cases x with
  | error cause => exact iff_of_false nofun ((checks.error_iff cause).1 rfl).not_sound
  | ok a => exact iff_of_true ⟨a, rfl⟩ ((checks.ok_iff a).1 rfl).1

theorem checks_nil (a : α) : s.Checks read [] (.ok a) (· = a) where
  error_iff e := by simp [not_firstFault_nil]
  ok_iff b := by simp [eq_comm]

theorem Checks.congr {x : Except Spec.Error α} {Gives Gives' : α → Prop}
    (checks : s.Checks read given x Gives)
    (same : (∀ t ∈ given, Sound read t) → ∀ a, Gives a ↔ Gives' a) :
    s.Checks read given x Gives' where
  error_iff := checks.error_iff
  ok_iff a := (checks.ok_iff a).trans (and_congr_right fun sound => same sound a)

theorem Checks.bind {x : Except Spec.Error α} {f : α → Except Spec.Error β} {Gives : α → Prop}
    {Then : α → β → Prop} (first : s.Checks read given x Gives)
    (next : ∀ a, Gives a → s.Checks read following (f a) (Then a)) :
    s.Checks read (given ++ following) (x >>= f) fun b => ∃ a, Gives a ∧ Then a b := by
  cases x with
  | error cause =>
    have unsound := ((first.error_iff cause).1 rfl).not_sound
    constructor
    · intro e
      rw [firstFault_append_iff, ← first.error_iff e, or_iff_left fun further => unsound further.1]
      change Except.error cause = _ ↔ _
      simp only [Except.error.injEq]
    · intro b
      rw [List.forall_mem_append]
      exact iff_of_false nofun fun sound => unsound sound.1.1
  | ok a =>
    obtain ⟨sound, gives⟩ := (first.ok_iff a).1 rfl
    have rest := next a gives
    constructor
    · intro e
      have faultless : ¬ s.FirstFault read given e := fun fault => fault.not_sound sound
      rw [firstFault_append_iff, or_iff_right faultless, ← rest.error_iff e]
      exact (and_iff_right sound).symm
    · intro b
      rw [List.forall_mem_append]
      refine (rest.ok_iff b).trans
        ⟨fun ⟨sound', reached⟩ => ⟨⟨sound, sound'⟩, a, gives, reached⟩, ?_⟩
      rintro ⟨⟨-, sound'⟩, a', gives', reached⟩
      cases (first.ok_iff a').2 ⟨sound, gives'⟩
      exact ⟨sound', reached⟩

theorem sound_iff {part : Part} {t : String} :
    Sound read (part.title, t) ↔
      t ≠ "" ∧ (part = .pattern → ∃ p, Pattern.ofSourceWith read t = .ok p) := by
  have title : part.title = "pattern" ↔ part = .pattern := @Part.title_inj part .pattern
  rw [Sound, title]

theorem faulty_iff {part : Part} {t : String} :
    s.Faulty read (part.title, t) e ↔ t = "" ∧ .empty s.name part = e ∨
      part = .pattern ∧ t ≠ "" ∧
        ∃ fault, Pattern.ofSourceWith read t = .error fault ∧ .badPattern s.name t fault = e := by
  constructor
  · intro faulty
    generalize called : part.title = what at faulty
    cases faulty with
    | empty called' =>
      obtain rfl := Part.title_inj.1 (called.trans called'.symm)
      exact .inl ⟨rfl, rfl⟩
    | @unreadable source fault visible refused =>
      obtain rfl : part = .pattern := Part.title_inj.1 called
      exact .inr ⟨rfl, visible, fault, refused, rfl⟩
  · rintro (⟨rfl, rfl⟩ | ⟨rfl, visible, fault, refused, rfl⟩)
    · exact .empty rfl
    · exact .unreadable visible refused

-- Texts of one kind that only have to be there.
theorem checks_filled {part : Part} (other : part ≠ .pattern) (ts : List String) (a : α) :
    s.Checks read (ts.map (part.title, ·)) (if "" ∈ ts then .error (.empty s.name part) else .ok a)
      (· = a) := by
  have fault_iff (e : Spec.Error) :
      s.FirstFault read (ts.map (part.title, ·)) e ↔ "" ∈ ts ∧ .empty s.name part = e := by
    induction ts with
    | nil => simp [not_firstFault_nil]
    | cons t ts ih =>
      rw [List.map_cons, firstFault_cons_iff, faulty_iff, sound_iff, ih, List.mem_cons]
      tauto
  have all_iff : (∀ t ∈ ts.map (part.title, ·), Sound read t) ↔ "" ∉ ts := by
    simp only [List.forall_mem_map, sound_iff, other, false_implies, and_true]
    exact List.forall_mem_ne'
  by_cases blank : "" ∈ ts
  · rw [if_pos blank]
    constructor
    · intro e
      rw [fault_iff]
      simp [blank]
    · intro b
      rw [all_iff]
      simp [blank]
  · rw [if_neg blank]
    constructor
    · intro e
      rw [fault_iff]
      simp [blank]
    · intro b
      rw [all_iff]
      simp [blank, eq_comm]

variable (read)

theorem checks_readPattern (s : Spec) (source : String) :
    s.Checks read [(Part.pattern.title, source)] (s.readPattern read source)
      (Pattern.ofSourceWith read source = .ok ·) := by
  constructor
  · intro e
    rw [firstFault_singleton_iff, faulty_iff]
    by_cases blank : source = ""
    · simp [readPattern, blank]
    · cases parsed : Pattern.ofSourceWith read source <;>
        simp [readPattern, blank, parsed, Except.mapError]
  · intro p
    rw [List.forall_mem_singleton, sound_iff]
    by_cases blank : source = ""
    · simp [readPattern, blank]
    · cases parsed : Pattern.ofSourceWith read source <;>
        simp [readPattern, blank, parsed, Except.mapError]

theorem checks_readDeclaration (s : Spec) :
    s.Checks read [s.declaration.text] (s.readDeclaration read) (s.declaration.Describes read) := by
  cases kind : s.declaration with
  | keyword text =>
    have checked : s.readDeclaration read =
        if "" ∈ [text] then .error (.empty s.name .keyword) else .ok (.keyword text) := by
      simp [readDeclaration, kind, eq_comm]
    have other : Part.keyword ≠ .pattern := by decide
    rw [checked]
    exact checks_filled other [text] (Declaration.keyword text)
  | pattern source =>
    have checked : s.readDeclaration read =
        s.readPattern read source >>= fun p => .ok (.pattern p) := by
      simp only [readDeclaration, kind]
      cases s.readPattern read source <;> rfl
    rw [checked]
    refine ((checks_readPattern read s source).bind fun p _ =>
      checks_nil (Declaration.pattern p)).congr fun _ d => ?_
    refine exists_congr fun p => and_congr_right fun given => ?_
    rw [and_iff_right (Pattern.source_of_ofSourceWith given)]

theorem checks_readConditional (s : Spec) :
    s.Checks read
      (s.conditional.toList.flatMap fun c => [("pattern", c.opening), ("pattern", c.closing)])
      (s.readConditional read) (Option.Rel (ConditionalSpec.Describes read) s.conditional) := by
  cases kind : s.conditional with
  | none =>
    rw [readConditional, kind]
    refine (checks_nil none).congr fun _ c => ?_
    cases c <;> simp
  | some c =>
    rw [readConditional, kind]
    refine ((checks_readPattern read s c.opening).bind fun opening _ =>
      (checks_readPattern read s c.closing).bind fun closing _ => checks_nil _).congr fun _ r => ?_
    constructor
    · rintro ⟨opening, first, closing, last, rfl⟩
      exact .some ⟨first, Pattern.source_of_ofSourceWith first, last,
        Pattern.source_of_ofSourceWith last, rfl⟩
    · intro related
      cases related with
      | @some _ r described =>
        obtain ⟨first, -, last, -, same⟩ := described
        exact ⟨_, first, _, last, by rw [← same]⟩

theorem compileWith_eq (s : Spec) :
    s.compileWith read =
      ((if "" ∈ [s.name] then .error (.empty s.name .name) else .ok ()) >>= fun _ =>
      s.readDeclaration read >>= fun declaration => s.readConditional read >>= fun conditional =>
        if "" ∈ s.substitutions.map (·.sought) then .error (.empty s.name .sought)
        else .ok ⟨s.name, s.sources, declaration, conditional, .ofList s.substitutions,
          s.visibility, s.imports⟩ : Except Spec.Error Dialect) := by
  have blank_iff : s.substitutions.any (·.sought = "") ↔ "" ∈ s.substitutions.map (·.sought) := by
    simp
  have name_iff : s.name = "" ↔ "" ∈ [s.name] := by
    rw [List.mem_singleton, eq_comm]
  simp only [compileWith, blank_iff, name_iff]
  split <;> rfl

-- Nothing is left out of the table, since no entry has an empty text.
theorem entries_ofList (sound : ∀ t ∈ s.texts, Sound read t) :
    (Substitution.Table.ofList s.substitutions).entries = s.substitutions := by
  rw [Substitution.Table.ofList, List.filter_eq_self]
  intro r member
  have listed : ("substitution pattern", r.sought) ∈ s.texts := by
    simp only [texts, List.mem_cons, List.mem_append, List.map_map]
    exact .inr (.inr (.inr (List.mem_map_of_mem member)))
  simpa using (sound _ listed).1

theorem checks_compileWith (s : Spec) :
    s.Checks read s.texts (s.compileWith read) (s.Describes read) := by
  have named : Part.name ≠ .pattern := by decide
  have sought : Part.sought ≠ .pattern := by decide
  have chain := (checks_filled named [s.name] ()).bind fun _ _ =>
    (checks_readDeclaration read s).bind fun declaration _ =>
      (checks_readConditional read s).bind fun conditional _ =>
        checks_filled sought (s.substitutions.map (·.sought)) (⟨s.name, s.sources, declaration,
          conditional, .ofList s.substitutions, s.visibility, s.imports⟩ : Dialect)
  rw [compileWith_eq]
  refine Checks.congr chain fun sound d => ?_
  have entries := entries_ofList read sound
  constructor
  · rintro ⟨-, -, declaration, described, conditional, related, rfl⟩
    exact ⟨rfl, rfl, described, related, entries, rfl, rfl⟩
  · intro described
    have table : d.substitutions = .ofList s.substitutions :=
      Substitution.Table.eq_of_entries_eq (described.substitutions.trans entries.symm)
    refine ⟨(), rfl, d.declaration, described.declaration, d.conditional, described.conditional, ?_⟩
    rw [← described.name, ← described.sources, ← described.visibility, ← described.imports, ← table]

-- A refusal names the description that it is about.
theorem dialect_of_compileWith (failed : s.compileWith read = .error e) : e.dialect = s.name := by
  obtain ⟨_, _, _, -, -, faulty⟩ := ((checks_compileWith read s).error_iff e).1 failed
  cases faulty <;> rfl

/-- A description is accepted exactly if none of its texts is empty and its patterns can be read.
The dialect then has all that was described, each substitution at its place, and otherwise the error
is about the first text at fault and names the description. -/
theorem compile_reports_first_fault (s : Spec) :
    ((∃ d, s.compileWith read = .ok d) ↔ s.name ≠ "" ∧
      (match s.declaration with
        | .keyword text => text ≠ ""
        | .pattern source => source ≠ "" ∧ ∃ p, Pattern.ofSourceWith read source = .ok p) ∧
      (∀ c ∈ s.conditional, (c.opening ≠ "" ∧ ∃ p, Pattern.ofSourceWith read c.opening = .ok p) ∧
        c.closing ≠ "" ∧ ∃ p, Pattern.ofSourceWith read c.closing = .ok p) ∧
      ∀ r ∈ s.substitutions, r.sought ≠ "") ∧
    (∀ d, s.compileWith read = .ok d → s.Describes read d) ∧
    ∀ e, s.compileWith read = .error e ↔ s.FirstFault read s.texts e := by
  have checks := checks_compileWith read s
  refine ⟨?_, fun d compiled => ((checks.ok_iff d).1 compiled).2, checks.error_iff⟩
  rw [checks.exists_ok_iff, texts, List.forall_mem_cons, List.forall_mem_cons,
    List.forall_mem_append]
  refine and_congr ?_ (and_congr ?_ (and_congr ?_ ?_))
  · simp [Sound]
  · cases s.declaration <;> simp [DeclarationSpec.text, Sound]
  · cases s.conditional <;> simp [Sound]
  · simp [Sound]

end Spec

end Dialect

end Recast
