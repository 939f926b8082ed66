import Mathlib.Data.List.Forall2
import Mathlib.Data.List.Nodup
import Mathlib.Data.List.Perm.Basic
import Mathlib.Tactic.Common
import Recast.Dialect.Spec

set_option autoImplicit false

namespace Recast

namespace Data

/-- A part of a value: its name, and what may stand for it. Nothing stands for a part that is left
out. -/
structure Slot where
  name : String
  Allows : Option Data → Prop

def Slot.needed (name : String) (Form : Data → Prop) : Slot where
  name := name
  Allows part := ∃ d, part = some d ∧ Form d

def Slot.defaulted (name : String) (isDefault : Prop) (Form : Data → Prop) : Slot where
  name := name
  Allows
    | none => isDefault
    | some d => Form d

theorem Slot.not_allows_needed (name : String) (Form : Data → Prop) :
    ¬ (Slot.needed name Form).Allows none := by
  rintro ⟨d, ⟨⟩, -⟩

/-- The fields for the parts that are written, in the order of the slots. -/
inductive Chosen : List Slot → List (String × Data) → Prop where
  | nil : Chosen [] []
  | stated {slot : Slot} {slots : List Slot} {d : Data} {fields : List (String × Data)}
      (allowed : slot.Allows (some d)) (rest : Chosen slots fields) :
      Chosen (slot :: slots) ((slot.name, d) :: fields)
  | omitted {slot : Slot} {slots : List Slot} {fields : List (String × Data)}
      (allowed : slot.Allows none) (rest : Chosen slots fields) : Chosen (slot :: slots) fields

/-- The parts in the order of the slots. Only the last ones may be left out. -/
inductive Listed : List Slot → List Data → Prop where
  | omitted {slots : List Slot} (allowed : ∀ slot ∈ slots, slot.Allows none) : Listed slots []
  | stated {slot : Slot} {slots : List Slot} {d : Data} {items : List Data}
      (allowed : slot.Allows (some d)) (rest : Listed slots items) :
      Listed (slot :: slots) (d :: items)

inductive Written (slots : List Slot) : Data → Prop where
  | record {fields own others : List (String × Data)} (chosen : Chosen slots own)
      (unknown : ∀ field ∈ others, ∀ slot ∈ slots, field.1 ≠ slot.name)
      (order : fields.Perm (own ++ others)) : Written slots (.record fields)
  | list {items : List Data} (listed : Listed slots items) : Written slots (.list items)

variable {slot : Slot} {slots : List Slot} {fields own : List (String × Data)} {items : List Data}
  {d : Data} {name : String} {parts : List (Option Data)}

theorem mem_of_lookup {v : Data} (found : fields.lookup name = some v) : (name, v) ∈ fields := by
  obtain ⟨before, after, rfl, -⟩ := List.lookup_eq_some_iff.1 found
  simp

theorem lookup_of_mem_iff {part : Option Data} (same : ∀ v, (name, v) ∈ fields ↔ part = some v) :
    fields.lookup name = part := by
  cases found : fields.lookup name with
  | none =>
    cases part with
    | none => rfl
    | some v =>
      have absent := List.lookup_eq_none_iff.1 found (name, v) ((same v).2 rfl)
      simp at absent
  | some v => exact ((same v).1 (mem_of_lookup found)).symm

theorem Chosen.name_mem (chosen : Chosen slots own) {v : Data} (member : (name, v) ∈ own) :
    name ∈ slots.map (·.name) := by
  induction chosen with
  | nil => cases member
  | stated allowed rest ih =>
    rcases List.mem_cons.1 member with here | later
    · cases here
      exact List.mem_cons_self
    · exact List.mem_cons_of_mem _ (ih later)
  | omitted allowed rest ih => exact List.mem_cons_of_mem _ (ih member)

theorem Chosen.exists_part (chosen : Chosen slots own) (distinct : (slots.map (·.name)).Nodup)
    (member : slot ∈ slots) :
    ∃ part, slot.Allows part ∧ ∀ v, (slot.name, v) ∈ own ↔ part = some v := by
  induction chosen with
  | nil => cases member
  | @stated first slots d own allowed rest ih =>
    obtain ⟨fresh, distinct⟩ := List.nodup_cons.1 distinct
    rcases List.mem_cons.1 member with rfl | member
    · refine ⟨some d, allowed, fun v => ?_⟩
      have absent : (slot.name, v) ∉ own := fun later => fresh (rest.name_mem later)
      simp [absent, eq_comm]
    · obtain ⟨part, allowed, same⟩ := ih distinct member
      have other : slot.name ≠ first.name := fun same => fresh (List.mem_map.2 ⟨slot, member, same⟩)
      exact ⟨part, allowed, fun v => by simp [other, same]⟩
  | @omitted first slots own allowed rest ih =>
    obtain ⟨fresh, distinct⟩ := List.nodup_cons.1 distinct
    rcases List.mem_cons.1 member with rfl | member
    · refine ⟨none, allowed, fun v => ?_⟩
      have absent : (slot.name, v) ∉ own := fun later => fresh (rest.name_mem later)
      simp [absent]
    · exact ih distinct member

theorem Listed.length_le (listed : Listed slots items) : items.length ≤ slots.length := by
  induction listed with
  | omitted allowed => exact Nat.zero_le _
  | stated allowed rest ih => exact Nat.succ_le_succ ih

-- The parts of a list, as `parts?` takes them from it.
def upTo (n : Nat) (items : List Data) : List (Option Data) :=
  (List.range n).map (items[·]?)

theorem upTo_succ (n : Nat) : upTo (n + 1) items = items.head? :: upTo n items.tail := by
  cases items <;> simp [upTo, List.range_succ_eq_map, Function.comp_def]

theorem listed_iff :
    Listed slots items ↔
      items.length ≤ slots.length ∧ List.Forall₂ Slot.Allows slots (upTo slots.length items) := by
  constructor
  · intro listed
    refine ⟨listed.length_le, ?_⟩
    induction listed with
    | @omitted slots allowed =>
      induction slots with
      | nil => exact .nil
      | cons slot slots ih =>
        rw [List.length_cons, upTo_succ]
        obtain ⟨here, later⟩ := List.forall_mem_cons.1 allowed
        exact .cons here (ih later)
    | stated allowed rest ih =>
      rw [List.length_cons, upTo_succ]
      exact .cons allowed ih
  · rintro ⟨fits, allowed⟩
    induction slots generalizing items with
    | nil =>
      obtain rfl := List.length_eq_zero_iff.1 (Nat.le_zero.1 fits)
      exact .omitted (by simp)
    | cons slot slots ih =>
      rw [List.length_cons, upTo_succ] at allowed
      obtain ⟨here, later⟩ := List.forall₂_cons.1 allowed
      cases items with
      | nil =>
        cases ih (Nat.zero_le _) later with
        | omitted allowed => exact .omitted (List.forall_mem_cons.2 ⟨here, allowed⟩)
      | cons d items => exact .stated here (ih (Nat.le_of_succ_le_succ fits) later)

theorem written_whole
    (whole : List.Forall₂ (fun slot field => field.1 = slot.name ∧ slot.Allows (some field.2)) slots
      fields) :
    Written slots (.record fields) ∧ Written slots (.list (fields.map (·.2))) := by
  have both : Chosen slots fields ∧ Listed slots (fields.map (·.2)) := by
    induction whole with
    | nil => exact ⟨.nil, .omitted (by simp)⟩
    | @cons slot field slots fields here rest ih =>
      obtain ⟨name, d⟩ := field
      obtain ⟨rfl, allowed⟩ := here
      exact ⟨.stated allowed ih.1, .stated allowed ih.2⟩
  exact ⟨@Written.record slots fields fields [] both.1 (by simp) (by simp), .list both.2⟩

-- The parts that `parts?` finds in the data are those that the slots allow.
def Fills (exact : Bool) (slots : List Slot) (d : Data) : Prop :=
  ∃ parts, d.parts? exact (slots.map (·.name)) = some parts ∧ List.Forall₂ Slot.Allows slots parts

theorem fills_record_iff {exact : Bool} :
    Fills exact slots (.record fields) ↔ ∀ slot ∈ slots, slot.Allows (fields.lookup slot.name) := by
  simp [Fills, parts?, List.forall₂_same, Function.comp_def]

theorem fills_list_iff {exact : Bool} :
    Fills exact slots (.list items) ↔ (exact → items.length ≤ slots.length) ∧
      List.Forall₂ Slot.Allows slots (upTo slots.length items) := by
  have taken : (Data.list items).parts? exact (slots.map (·.name)) =
      if exact ∧ slots.length < items.length then none else some (upTo slots.length items) := by
    simp [parts?, upTo]
  have fits_iff : ¬ (exact ∧ slots.length < items.length) ↔
      (exact → items.length ≤ slots.length) := by
    rw [not_and, Nat.not_lt]
  rw [Fills, taken, ← fits_iff]
  split
  next tooLong => exact iff_of_false nofun fun fits => fits.1 tooLong
  next fits => simp [fits]

-- A strict reader of values with `n` parts refuses a list of more.
theorem refused_of_lt {α : Type} {read : Data → Option α} {parts : α → List Slot} {n : Nat}
    (fills : ∀ d v, read d = some v → Fills true (parts v) d) (count : ∀ v, (parts v).length = n)
    (tooLong : n < items.length) : read (.list items) = none := by
  refine Option.eq_none_iff_forall_ne_some.2 fun v found => ?_
  have fits := (fills_list_iff.1 (fills _ v found)).1 rfl
  rw [count] at fits
  exact Nat.not_le.2 tooLong fits

theorem Written.fills (written : Written slots d) (distinct : (slots.map (·.name)).Nodup)
    (exact : Bool) : Fills exact slots d := by
  cases written with
  | @record fields own others chosen unknown order =>
    refine fills_record_iff.2 fun slot member => ?_
    obtain ⟨part, allowed, same⟩ := chosen.exists_part distinct member
    have found : fields.lookup slot.name = part := by
      apply lookup_of_mem_iff
      intro v
      have known : (slot.name, v) ∉ others := fun present => unknown _ present slot member rfl
      rw [order.mem_iff, List.mem_append, or_iff_left known, same]
    rwa [found]
  | @list items listed =>
    obtain ⟨fits, allowed⟩ := listed_iff.1 listed
    exact fills_list_iff.2 ⟨fun _ => fits, allowed⟩

section Tidy

/-- No record in the data has two fields of one name. -/
inductive Tidy : Data → Prop where
  | null : Tidy .null
  | flag (value : Bool) : Tidy (.flag value)
  | number (literal : String) : Tidy (.number literal)
  | date (literal : String) : Tidy (.date literal)
  | text (value : String) : Tidy (.text value)
  | list {items : List Data} (each : ∀ d ∈ items, Tidy d) : Tidy (.list items)
  | record {fields : List (String × Data)} (distinct : (fields.map (·.1)).Nodup)
      (each : ∀ field ∈ fields, Tidy field.2) : Tidy (.record fields)

theorem lookup_eq_some_iff_mem {v : Data} (distinct : (fields.map (·.1)).Nodup) :
    fields.lookup name = some v ↔ (name, v) ∈ fields := by
  refine ⟨mem_of_lookup, fun member => lookup_of_mem_iff fun w => ⟨fun other => ?_, ?_⟩⟩
  · cases List.inj_on_of_nodup_map distinct member other rfl
    rfl
  · rintro ⟨⟩
    exact member

def known (names : List String) (fields : List (String × Data)) : List (String × Data) :=
  names.filterMap fun name => (fields.lookup name).map (name, ·)

theorem chosen_known (allowed : ∀ slot ∈ slots, slot.Allows (fields.lookup slot.name)) :
    Chosen slots (known (slots.map (·.name)) fields) := by
  induction slots with
  | nil => exact .nil
  | cons slot slots ih =>
    obtain ⟨here, later⟩ := List.forall_mem_cons.1 allowed
    cases found : fields.lookup slot.name with
    | none =>
      rw [found] at here
      simpa [known, found] using Chosen.omitted here (ih later)
    | some d =>
      rw [found] at here
      simpa [known, found] using Chosen.stated here (ih later)

theorem mem_known_iff {names : List String} {field : String × Data}
    (tidy : (fields.map (·.1)).Nodup) :
    field ∈ known names fields ↔ field.1 ∈ names ∧ field ∈ fields := by
  obtain ⟨name, v⟩ := field
  simp only [known, List.mem_filterMap, Option.map_eq_some_iff, Prod.mk.injEq]
  constructor
  · rintro ⟨_, listed, _, found, rfl, rfl⟩
    exact ⟨listed, (lookup_eq_some_iff_mem tidy).1 found⟩
  · rintro ⟨listed, member⟩
    exact ⟨name, listed, v, (lookup_eq_some_iff_mem tidy).2 member, rfl, rfl⟩

theorem nodup_known {names : List String} (distinct : names.Nodup) :
    (known names fields).Nodup := by
  apply List.Nodup.filterMap _ distinct
  intro name name' field here there
  simp only [Option.mem_def, Option.map_eq_some_iff] at here there
  obtain ⟨_, -, rfl⟩ := here
  obtain ⟨_, -, same⟩ := there
  exact (congrArg Prod.fst same).symm

theorem written_record (distinct : (slots.map (·.name)).Nodup) (tidy : (fields.map (·.1)).Nodup)
    (allowed : ∀ slot ∈ slots, slot.Allows (fields.lookup slot.name)) :
    Written slots (.record fields) := by
  let names := slots.map (·.name)
  let others := fields.filter (·.1 ∉ names)
  have unknown : ∀ field ∈ others, field.1 ∉ names := fun field member => by
    simpa [others] using (List.mem_filter.1 member).2
  refine .record (chosen_known allowed)
    (fun field member slot listed same =>
      unknown field member (List.mem_map.2 ⟨slot, listed, same.symm⟩))
    ?_
  have once : (known names fields ++ others).Nodup :=
    (nodup_known distinct).append (tidy.of_map.filter _) fun field here there =>
      unknown field there ((mem_known_iff tidy).1 here).1
  refine (List.perm_ext_iff_of_nodup tidy.of_map once).2 fun field => ?_
  rw [List.mem_append, mem_known_iff tidy, List.mem_filter, decide_eq_true_eq]
  tauto

-- Lists that are too long are refused, and a date has no parts at all.
theorem Fills.written (fills : Fills true slots d) (distinct : (slots.map (·.name)).Nodup)
    (tidy : d.Tidy) (needs : ∃ slot ∈ slots, ¬ slot.Allows none) : Written slots d := by
  cases tidy with
  | list each =>
    obtain ⟨fits, allowed⟩ := fills_list_iff.1 fills
    exact .list (listed_iff.2 ⟨fits rfl, allowed⟩)
  | record tidy each => exact written_record distinct tidy (fills_record_iff.1 fills)
  | date =>
    obtain ⟨_, ⟨⟩, allowed⟩ := fills
    rw [List.map_map, List.forall₂_map_right_iff, List.forall₂_same] at allowed
    obtain ⟨slot, member, refuses⟩ := needs
    exact absurd (allowed slot member) refuses
  | null | flag | number | text => obtain ⟨_, ⟨⟩, -⟩ := fills

theorem Tidy.of_parts? {exact : Bool} {names : List String} {part : Data} (tidy : d.Tidy)
    (read : d.parts? exact names = some parts) (member : some part ∈ parts) : part.Tidy := by
  cases tidy with
  | @list items each =>
    simp only [parts?] at read
    split at read
    · cases read
    · cases read
      obtain ⟨i, -, found⟩ := List.mem_map.1 member
      exact each part (List.mem_of_getElem? found)
  | @record fields distinct each =>
    cases read
    obtain ⟨name, -, found⟩ := List.mem_map.1 member
    exact each (name, part) (mem_of_lookup found)
  | date =>
    cases read
    obtain ⟨_, -, ⟨⟩⟩ := List.mem_map.1 member
  | null | flag | number | text => cases read

end Tidy

section Readers

variable {α : Type} {read : Data → Option α} {part : Option Data} {v : α}

theorem text?_eq_some_iff {t : String} : d.text? = some t ↔ d = .text t := by
  cases d <;> simp [text?]

theorem flag?_eq_some_iff {b : Bool} : d.flag? = some b ↔ d = .flag b := by
  cases d <;> simp [flag?]

theorem list?_eq_some_iff : d.list? = some items ↔ d = .list items := by
  cases d <;> simp [list?]

theorem mapM_eq_some_iff {vs : List α} :
    items.mapM read = some vs ↔ List.Forall₂ (read · = some ·) items vs := by
  induction items generalizing vs with
  | nil => simp [eq_comm]
  | cons d items ih =>
    rw [List.mapM_cons, List.forall₂_cons_left_iff]
    simp only [Option.bind_eq_bind, Option.bind_eq_some_iff, Option.pure_def, Option.some.injEq, ih]
    constructor
    · rintro ⟨v, here, vs, later, rfl⟩
      exact ⟨v, vs, here, later, rfl⟩
    · rintro ⟨v, vs, here, later, rfl⟩
      exact ⟨v, here, vs, later, rfl⟩

theorem texts?_eq_some_iff {ts : List String} : d.texts? = some ts ↔ d = .list (ts.map .text) := by
  simp only [texts?, Option.bind_eq_some_iff, list?_eq_some_iff, mapM_eq_some_iff,
    text?_eq_some_iff]
  constructor
  · rintro ⟨items, rfl, each⟩
    rw [← List.forall₂_map_right_iff, List.forall₂_eq_eq_eq] at each
    rw [each]
  · rintro rfl
    exact ⟨_, rfl, by simp [List.forall₂_same]⟩

theorem allows_needed_iff {Form : Data → Prop} (reads : ∀ d, read d = some v ↔ Form d) :
    (Slot.needed name Form).Allows part ↔ required read part = some v := by
  simp only [Slot.needed, required, Option.bind_eq_some_iff, reads]

theorem allows_defaulted_iff {Form : Data → Prop} {default : α}
    (reads : ∀ d, read d = some v ↔ Form d) :
    (Slot.defaulted name (v = default) Form).Allows part ↔ optional default read part = some v := by
  cases part with
  | none => simp [Slot.defaulted, optional, eq_comm]
  | some d => simp [Slot.defaulted, optional, reads]

end Readers

end Data

open Data (Slot allows_needed_iff allows_defaulted_iff text?_eq_some_iff flag?_eq_some_iff
  texts?_eq_some_iff)

namespace Substitution

def slots (r : Substitution) : List Slot := [
  .needed "from" (· = .text r.sought),
  .needed "to" (· = .text r.replacement)]

def Written (r : Substitution) : Data → Prop :=
  Data.Written r.slots

theorem ofData?_eq_some_iff {exact : Bool} {d : Data} {r : Substitution} :
    ofData? exact d = some r ↔ d.Fills exact r.slots := by
  simp only [ofData?, Option.bind_eq_bind, Option.bind_eq_some_iff]
  refine exists_congr fun parts => and_congr_right fun _ => ?_
  split
  next sought replacement =>
    simp only [slots, List.forall₂_cons, List.Forall₂.nil, and_true, Option.bind_eq_some_iff,
      allows_needed_iff fun _ => text?_eq_some_iff]
    constructor
    · rintro ⟨_, first, _, last, ⟨⟩⟩
      exact ⟨first, last⟩
    · rintro ⟨first, last⟩
      exact ⟨_, first, _, last, rfl⟩
  next other =>
    refine iff_of_false nofun fun allowed => ?_
    simp only [slots, List.forall₂_cons_left_iff, List.forall₂_nil_left_iff] at allowed
    obtain ⟨_, _, -, ⟨_, _, -, rfl, rfl⟩, rfl⟩ := allowed
    exact other _ _ rfl

def fields (r : Substitution) : List (String × Data) :=
  [("from", .text r.sought), ("to", .text r.replacement)]

theorem written_fields (r : Substitution) :
    r.Written (.record r.fields) ∧ r.Written (.list (r.fields.map (·.2))) := by
  apply Data.written_whole
  exact .cons ⟨rfl, _, rfl, rfl⟩ (.cons ⟨rfl, _, rfl, rfl⟩ .nil)

theorem nodup_slots (r : Substitution) : (r.slots.map (·.name)).Nodup := by
  simp [slots, Slot.needed]

theorem ofData?_of_written {d : Data} {r : Substitution} (written : r.Written d) (exact : Bool) :
    ofData? exact d = some r :=
  ofData?_eq_some_iff.2 (Data.Written.fills written r.nodup_slots exact)

theorem written_of_ofData? {d : Data} {r : Substitution} (tidy : d.Tidy)
    (read : ofData? true d = some r) : r.Written d :=
  (ofData?_eq_some_iff.1 read).written r.nodup_slots tidy
    ⟨_, List.mem_cons_self, Slot.not_allows_needed _ _⟩

end Substitution

namespace Dialect

namespace ConditionalSpec

def slots (c : ConditionalSpec) : List Slot := [
  .needed "open" (· = .text c.opening),
  .needed "close" (· = .text c.closing),
  .defaulted "in_functions" (c.inFunctions = false) (· = .flag c.inFunctions)]

def Written (c : ConditionalSpec) : Data → Prop :=
  Data.Written c.slots

theorem ofData?_eq_some_iff {exact : Bool} {d : Data} {c : ConditionalSpec} :
    ofData? exact d = some c ↔ d.Fills exact c.slots := by
  simp only [ofData?, Option.bind_eq_bind, Option.bind_eq_some_iff]
  refine exists_congr fun parts => and_congr_right fun _ => ?_
  split
  next opening closing inFunctions =>
    simp only [slots, List.forall₂_cons, List.Forall₂.nil, and_true, Option.bind_eq_some_iff,
      allows_needed_iff fun _ => text?_eq_some_iff, allows_defaulted_iff fun _ => flag?_eq_some_iff]
    constructor
    · rintro ⟨_, first, _, last, _, flag, ⟨⟩⟩
      exact ⟨first, last, flag⟩
    · rintro ⟨first, last, flag⟩
      exact ⟨_, first, _, last, _, flag, rfl⟩
  next other =>
    refine iff_of_false nofun fun allowed => ?_
    simp only [slots, List.forall₂_cons_left_iff, List.forall₂_nil_left_iff] at allowed
    obtain ⟨_, _, -, ⟨_, _, -, ⟨_, _, -, rfl, rfl⟩, rfl⟩, rfl⟩ := allowed
    exact other _ _ _ rfl

def fields (c : ConditionalSpec) : List (String × Data) :=
  [("open", .text c.opening), ("close", .text c.closing), ("in_functions", .flag c.inFunctions)]

theorem written_fields (c : ConditionalSpec) :
    c.Written (.record c.fields) ∧ c.Written (.list (c.fields.map (·.2))) := by
  apply Data.written_whole
  exact .cons ⟨rfl, _, rfl, rfl⟩ (.cons ⟨rfl, _, rfl, rfl⟩ (.cons ⟨rfl, rfl⟩ .nil))

theorem nodup_slots (c : ConditionalSpec) : (c.slots.map (·.name)).Nodup := by
  simp [slots, Slot.needed, Slot.defaulted]

theorem ofData?_of_written {d : Data} {c : ConditionalSpec} (written : c.Written d) (exact : Bool) :
    ofData? exact d = some c :=
  ofData?_eq_some_iff.2 (Data.Written.fills written c.nodup_slots exact)

theorem written_of_ofData? {d : Data} {c : ConditionalSpec} (tidy : d.Tidy)
    (read : ofData? true d = some c) : c.Written d :=
  (ofData?_eq_some_iff.1 read).written c.nodup_slots tidy
    ⟨_, List.mem_cons_self, Slot.not_allows_needed _ _⟩

end ConditionalSpec

inductive DeclarationSpec.Written : DeclarationSpec → Data → Prop where
  | keyword (text : String) : Written (.keyword text) (.record [("prefix", .text text)])
  | pattern (source : String) : Written (.pattern source) (.record [("pattern", .text source)])

theorem DeclarationSpec.ofData?_eq_some_iff {d : Data} {spec : DeclarationSpec} :
    ofData? d = some spec ↔ spec.Written d := by
  constructor
  · intro read
    unfold ofData? at read
    split at read
    · cases read
      exact .keyword _
    · cases read
      exact .pattern _
    · cases read
  · intro written
    cases written <;> rfl

def DeclarationSpec.toData : DeclarationSpec → Data
  | .keyword text => .record [("prefix", .text text)]
  | .pattern source => .record [("pattern", .text source)]

theorem DeclarationSpec.written_toData (spec : DeclarationSpec) : spec.Written spec.toData := by
  cases spec
  · exact .keyword _
  · exact .pattern _

namespace Spec

def slots (Rules : ConditionalSpec → Data → Prop) (Entry : Substitution → Data → Prop) (s : Spec) :
    List Slot := [
  .needed "name" (· = .text s.name),
  .defaulted "sources" (s.sources = []) (· = .list (s.sources.map .text)),
  .needed "declaration" s.declaration.Written,
  .defaulted "conditional" (s.conditional = none) fun d =>
    (s.conditional = none ∧ d = .null) ∨ ∃ c, s.conditional = some c ∧ Rules c d,
  .defaulted "substitutions" (s.substitutions = []) fun d =>
    ∃ items, d = .list items ∧ List.Forall₂ (fun d r => Entry r d) items s.substitutions,
  .defaulted "visibility" (s.visibility = "internal static ") (· = .text s.visibility),
  .defaulted "imports" (s.imports = ["System"]) (· = .list (s.imports.map .text))]

def Written (s : Spec) : Data → Prop :=
  Data.Written (s.slots ConditionalSpec.Written Substitution.Written)

def fields (s : Spec) : List (String × Data) := [
  ("name", .text s.name),
  ("sources", .list (s.sources.map .text)),
  ("declaration", s.declaration.toData),
  ("conditional", s.conditional.elim .null fun c => .record c.fields),
  ("substitutions", .list (s.substitutions.map fun r => .record r.fields)),
  ("visibility", .text s.visibility),
  ("imports", .list (s.imports.map .text))]

theorem written_fields (s : Spec) :
    s.Written (.record s.fields) ∧ s.Written (.list (s.fields.map (·.2))) := by
  apply Data.written_whole
  refine .cons ⟨rfl, _, rfl, rfl⟩ (.cons ⟨rfl, rfl⟩
    (.cons ⟨rfl, _, rfl, s.declaration.written_toData⟩ (.cons ⟨rfl, ?_⟩
      (.cons ⟨rfl, _, rfl, ?_⟩ (.cons ⟨rfl, rfl⟩ (.cons ⟨rfl, rfl⟩ .nil))))))
  · cases s.conditional with
    | none => exact .inl ⟨rfl, rfl⟩
    | some c => exact .inr ⟨c, rfl, c.written_fields.1⟩
  · rw [List.forall₂_map_left_iff, List.forall₂_same]
    exact fun r _ => r.written_fields.1

theorem ofNullable?_eq_some_iff {exact : Bool} {d : Data} {c : Option ConditionalSpec} :
    ConditionalSpec.ofNullable? exact d = some c ↔ (c = none ∧ d = .null) ∨
      ∃ rules, c = some rules ∧ ConditionalSpec.ofData? exact d = some rules := by
  cases d with
  | null => simp [ConditionalSpec.ofNullable?, ConditionalSpec.ofData?, Data.parts?, eq_comm]
  | flag | number | date | text | list | record =>
    simp only [ConditionalSpec.ofNullable?, Option.map_eq_some_iff, reduceCtorEq, and_false,
      false_or]
    exact exists_congr fun rules => and_comm.trans (and_congr_left' eq_comm)

theorem listOfData?_eq_some_iff {exact : Bool} {d : Data} {rs : List Substitution} :
    Substitution.listOfData? exact d = some rs ↔ ∃ items, d = .list items ∧
      List.Forall₂ (fun d r => Substitution.ofData? exact d = some r) items rs := by
  simp only [Substitution.listOfData?, Option.bind_eq_some_iff, Data.list?_eq_some_iff,
    Data.mapM_eq_some_iff]

theorem ofData?_eq_some_iff {exact : Bool} {d : Data} {s : Spec} :
    ofData? exact d = some s ↔ d.Fills exact (s.slots
      (fun c d => ConditionalSpec.ofData? exact d = some c)
      fun r d => Substitution.ofData? exact d = some r) := by
  simp only [ofData?, Option.bind_eq_bind, Option.bind_eq_some_iff]
  refine exists_congr fun parts => and_congr_right fun _ => ?_
  split
  next name sources declaration conditional substitutions visibility imports =>
    simp only [slots, List.forall₂_cons, List.Forall₂.nil, and_true,
      Option.bind_eq_some_iff,
      allows_needed_iff fun _ => text?_eq_some_iff,
      allows_needed_iff fun _ => DeclarationSpec.ofData?_eq_some_iff,
      allows_defaulted_iff fun _ => text?_eq_some_iff,
      allows_defaulted_iff fun _ => texts?_eq_some_iff,
      allows_defaulted_iff fun _ => ofNullable?_eq_some_iff,
      allows_defaulted_iff fun _ => listOfData?_eq_some_iff]
    constructor
    · rintro ⟨_, named, _, listed, _, declared, _, ruled, _, replaced, _, shown, _, imported, ⟨⟩⟩
      exact ⟨named, listed, declared, ruled, replaced, shown, imported⟩
    · rintro ⟨named, listed, declared, ruled, replaced, shown, imported⟩
      exact ⟨_, named, _, listed, _, declared, _, ruled, _, replaced, _, shown, _, imported, rfl⟩
  next other =>
    refine iff_of_false nofun fun allowed => ?_
    simp only [slots, List.forall₂_cons_left_iff, List.forall₂_nil_left_iff] at allowed
    obtain ⟨_, _, -, ⟨_, _, -, ⟨_, _, -, ⟨_, _, -, ⟨_, _, -, ⟨_, _, -, ⟨_, _, -, rfl, rfl⟩, rfl⟩,
      rfl⟩, rfl⟩, rfl⟩, rfl⟩, rfl⟩ := allowed
    exact other _ _ _ _ _ _ _ rfl

-- Ways to write the rules and the substitutions may be exchanged for others, as far as the parts
-- that stand in the data go.
theorem forall₂_slots_imp {s : Spec} {parts : List (Option Data)}
    {Rules Rules' : ConditionalSpec → Data → Prop} {Entry Entry' : Substitution → Data → Prop}
    (rules : ∀ c d, some d ∈ parts → Rules c d → Rules' c d)
    (entry : ∀ r items, some (.list items) ∈ parts → ∀ d ∈ items, Entry r d → Entry' r d)
    (allowed : List.Forall₂ Slot.Allows (s.slots Rules Entry) parts) :
    List.Forall₂ Slot.Allows (s.slots Rules' Entry') parts := by
  simp only [slots, List.forall₂_cons_left_iff, List.forall₂_nil_left_iff] at allowed
  obtain ⟨_, _, named, ⟨_, _, listed, ⟨_, _, declared, ⟨ruled, _, first, ⟨replaced, _, second,
    ⟨_, _, shown, ⟨_, _, imported, rfl, rfl⟩, rfl⟩, rfl⟩, rfl⟩, rfl⟩, rfl⟩, rfl⟩ := allowed
  refine .cons named (.cons listed (.cons declared (.cons ?_ (.cons ?_ (.cons shown
    (.cons imported .nil))))))
  · cases ruled with
    | none => exact first
    | some d =>
      rcases first with null | ⟨c, has, written⟩
      · exact .inl null
      · exact .inr ⟨c, has, rules c d (by simp) written⟩
  · cases replaced with
    | none => exact second
    | some d =>
      obtain ⟨items, rfl, each⟩ := second
      have within : List.Forall₂ (fun d r => d ∈ items ∧ Entry r d) items s.substitutions :=
        (List.forall₂_and_left _ _).2 ⟨fun d member => member, each⟩
      exact ⟨items, rfl, within.imp fun d r both => entry r items (by simp) d both.1 both.2⟩

theorem nodup_slots (Rules : ConditionalSpec → Data → Prop) (Entry : Substitution → Data → Prop)
    (s : Spec) : ((s.slots Rules Entry).map (·.name)).Nodup := by
  simp [slots, Slot.needed, Slot.defaulted]

theorem ofData?_of_written {d : Data} {s : Spec} (written : s.Written d) (exact : Bool) :
    ofData? exact d = some s := by
  obtain ⟨parts, found, allowed⟩ := Data.Written.fills written (nodup_slots _ _ s) exact
  refine ofData?_eq_some_iff.2 ⟨parts, found, forall₂_slots_imp ?_ ?_ allowed⟩
  · exact fun c d _ written => ConditionalSpec.ofData?_of_written written exact
  · exact fun r items _ d _ written => Substitution.ofData?_of_written written exact

theorem written_of_ofData? {d : Data} {s : Spec} (tidy : d.Tidy) (read : ofData? true d = some s) :
    s.Written d := by
  obtain ⟨parts, found, allowed⟩ := ofData?_eq_some_iff.1 read
  refine Data.Fills.written ⟨parts, found, forall₂_slots_imp ?_ ?_ allowed⟩ (nodup_slots _ _ s) tidy
    ⟨_, List.mem_cons_self, Slot.not_allows_needed _ _⟩
  · exact fun c d member read =>
      ConditionalSpec.written_of_ofData? (tidy.of_parts? found member) read
  · intro r items member d inside read
    cases tidy.of_parts? found member with
    | list each => exact Substitution.written_of_ofData? (each d inside) read

section Refusals

variable {exact : Bool} {fields : List (String × Data)} {items : List Data}

theorem refused_without_name (missing : ∀ v, ("name", v) ∉ fields) :
    ofData? exact (.record fields) = none := by
  refine Option.eq_none_iff_forall_ne_some.2 fun s read => ?_
  obtain ⟨v, found, -⟩ :=
    Data.fills_record_iff.1 (ofData?_eq_some_iff.1 read) _ List.mem_cons_self
  exact missing v (Data.mem_of_lookup found)

theorem refused_without_declaration
    (missing : ∀ v, ("declaration", v) ∈ fields → ∀ spec : DeclarationSpec, ¬ spec.Written v) :
    ofData? exact (.record fields) = none := by
  refine Option.eq_none_iff_forall_ne_some.2 fun s read => ?_
  obtain ⟨v, found, written⟩ := Data.fills_record_iff.1 (ofData?_eq_some_iff.1 read)
    (.needed "declaration" s.declaration.Written) (by simp [slots])
  exact missing v (Data.mem_of_lookup found) _ written

theorem refused_list_without_declaration
    (missing : ∀ v, items[2]? = some v → ∀ spec : DeclarationSpec, ¬ spec.Written v) :
    ofData? exact (.list items) = none := by
  refine Option.eq_none_iff_forall_ne_some.2 fun s read => ?_
  obtain ⟨-, allowed⟩ := Data.fills_list_iff.1 (ofData?_eq_some_iff.1 read)
  obtain ⟨-, -, ⟨v, found, written⟩, -⟩ : _ ∧ _ ∧ _ ∧ _ := by
    simpa only [slots, List.length_cons, Data.upTo_succ, List.forall₂_cons] using allowed
  refine missing v ?_ _ written
  simp [← found]

end Refusals

/-- However a description is written, it is read from that, by either reader; the strict one reads
it from nothing else. Each description can be written as a record and as a list. A record without a
name or a declaration is refused, and so is a list that is too long, also one for the rules of
blocks or for a substitution, and a declaration that is no record with exactly one field, the prefix
or the pattern. -/
theorem read_from_every_form :
    (∀ (s : Spec) (d : Data), s.Written d → ∀ exact, ofData? exact d = some s) ∧
    (∀ (s : Spec) (d : Data), d.Tidy → (ofData? true d = some s ↔ s.Written d)) ∧
    (∀ s : Spec, s.Written (.record s.fields) ∧ s.Written (.list (s.fields.map (·.2)))) ∧
    (∀ exact fields, (∀ v, ("name", v) ∉ fields) ∨ (∀ v, ("declaration", v) ∉ fields) →
      ofData? exact (.record fields) = none) ∧
    (∀ exact fields,
      (∀ v, ("declaration", v) ∈ fields → ∀ spec : DeclarationSpec, ¬ spec.Written v) →
        ofData? exact (.record fields) = none) ∧
    (∀ exact items, (∀ v, items[2]? = some v → ∀ spec : DeclarationSpec, ¬ spec.Written v) →
      ofData? exact (.list items) = none) ∧
    (∀ items, 7 < items.length → ofData? true (.list items) = none) ∧
    (∀ items, 3 < items.length → ConditionalSpec.ofData? true (.list items) = none) ∧
    ∀ items, 2 < items.length → Substitution.ofData? true (.list items) = none := by
  refine ⟨fun s d written exact => ofData?_of_written written exact,
    fun s d tidy => ⟨written_of_ofData? tidy, fun written => ofData?_of_written written true⟩,
    written_fields, ?_, fun _ _ => refused_without_declaration,
    fun _ _ => refused_list_without_declaration,
    fun _ => Data.refused_of_lt (fun _ _ => ofData?_eq_some_iff.1) fun _ => rfl,
    fun _ => Data.refused_of_lt (fun _ _ => ConditionalSpec.ofData?_eq_some_iff.1) fun _ => rfl,
    fun _ => Data.refused_of_lt (fun _ _ => Substitution.ofData?_eq_some_iff.1) fun _ => rfl⟩
  rintro exact fields (unnamed | undeclared)
  · exact refused_without_name unnamed
  · exact refused_without_declaration fun v present => absurd present (undeclared v)

-- The fields stand in reverse and beside one that is unknown, the rules are a list without its
-- flag, one substitution is a record and one a list, and sources, visibility and imports are left
-- out.
theorem read_from_mixed_form :
    ofData? true (.record [("comment", .null),
        ("substitutions", .list [
          .record [("to", .text "Math.Sin("), ("from", .text "sin(")],
          .list [.text "cos(", .text "Math.Cos("]]),
        ("conditional", .list [.text "#if", .text "#endif"]),
        ("declaration", .record [("prefix", .text "void")]),
        ("name", .text "trig")]) =
      some {
        name := "trig"
        sources := []
        declaration := .keyword "void"
        conditional := some ⟨"#if", "#endif", false⟩
        substitutions := [⟨"sin(", "Math.Sin("⟩, ⟨"cos(", "Math.Cos("⟩]
        visibility := "internal static "
        imports := ["System"] } := by
  apply read_from_every_form.1
  have sine : Substitution.Written ⟨"sin(", "Math.Sin("⟩
      (.record [("to", .text "Math.Sin("), ("from", .text "sin(")]) :=
    .record (.stated ⟨_, rfl, rfl⟩ (.stated ⟨_, rfl, rfl⟩ .nil)) (List.forall_mem_nil _)
      (List.reverse_perm [_, _])
  have rules : ConditionalSpec.Written ⟨"#if", "#endif", false⟩
      (.list [.text "#if", .text "#endif"]) :=
    .list (.stated ⟨_, rfl, rfl⟩ (.stated ⟨_, rfl, rfl⟩ (.omitted (by simp [Slot.defaulted]))))
  have cosine := (Substitution.written_fields ⟨"cos(", "Math.Cos("⟩).2
  refine @Data.Written.record _ _ _ [("comment", .null)]
    (.stated ⟨_, rfl, rfl⟩ (.omitted rfl (.stated ⟨_, rfl, .keyword "void"⟩
      (.stated (.inr ⟨_, rfl, rules⟩) (.stated ⟨_, rfl, .cons sine (.cons cosine .nil)⟩
        (.omitted rfl (.omitted rfl .nil))))))) ?_ (List.reverse_perm [_, _, _, _, _])
  simp [slots, Slot.needed, Slot.defaulted]

end Spec

end Dialect

end Recast
