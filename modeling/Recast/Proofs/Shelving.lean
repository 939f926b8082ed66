import Mathlib.Data.List.TakeWhile
import Recast.Catalog

set_option autoImplicit false

namespace Recast.Shelf

-- What a search from the front gives.
def IsFirst (p : Writer → Prop) (writers : List Writer) : Option Writer → Prop
  | none => ∀ w ∈ writers, ¬ p w
  | some w => ∃ front back, writers = front ++ w :: back ∧ p w ∧ ∀ earlier ∈ front, ¬ p earlier

-- What a writer is looked up for.
inductive Purpose where
  | itself
  | support (space : String)
  | translation (d : Dialect) (c : Container) (lines : List String)

inductive Request where
  | register (w : Writer)
  | all
  | find (language : String) (purpose : Purpose)

inductive Reply where
  | registered
  | listed (writers : List Writer)
  | found (w : Option Writer)
  | supported (files : Option (List SupportFile))
  | translated (document : Option (Except ScanError Document))

def Purpose.reply (found : Option Writer) : Purpose → Reply
  | .itself => .found found
  | .support space => .supported (found.map (·.support space))
  | .translation d c lines => .translated (found.map fun w => d.document w c lines)

def answer (s : Shelf) : Request → Shelf × Reply
  | .register w => (s.register w, .registered)
  | .all => (s.all.1, .listed s.all.2)
  | .find language purpose =>
    ((s.byLanguage language).1, purpose.reply (s.byLanguage language).2)

def after : Shelf → List Request → Shelf
  | s, [] => s
  | s, request :: rest => after (s.answer request).1 rest

def Request.registered? : Request → Option Writer
  | .register w => some w
  | _ => none

def registrations (requests : List Request) : List Writer :=
  requests.filterMap Request.registered?

-- The requests before the first look-up, and those from it on.
def early (requests : List Request) : List Request :=
  requests.takeWhile (·.registered?.isSome)

def late (requests : List Request) : List Request :=
  requests.dropWhile (·.registered?.isSome)

def known (requests : List Request) : List Writer :=
  registrations (early requests) ++ .csharp :: registrations (late requests)

variable {s : Shelf} {request : Request}

theorem isFirst_find? (writers : List Writer) (language : String) :
    IsFirst (·.language = language) writers (writers.find? (·.language = language)) := by
  cases found : writers.find? (·.language = language) with
  | none => simpa [IsFirst] using found
  | some w =>
    obtain ⟨holds, front, back, split, others⟩ := List.find?_eq_some_iff_append.1 found
    exact ⟨front, back, split, by simpa using holds, by simpa using others⟩

theorem after_append (s : Shelf) (requests more : List Request) :
    s.after (requests ++ more) = (s.after requests).after more := by
  induction requests generalizing s with
  | nil => rfl
  | cons request rest ih => exact ih _

theorem answer_lookup (s : Shelf) (lookup : request.registered? = none) :
    (s.answer request).1 = s.fill := by
  cases request with
  | register w => cases lookup
  | all | find => rfl

theorem fill_of_filled (filled : s.filled = true) : s.fill = s := by
  simp [fill, filled]

theorem filled_fill (s : Shelf) : s.fill.filled = true := by
  unfold fill
  split
  next filled => exact filled
  · rfl

-- As long as nothing fills the shelf, look-ups leave it alone and a new writer goes to its end.
theorem after_of_settled {requests : List Request}
    (settled : s.filled = true ∨ ∀ request ∈ requests, request.registered?.isSome) :
    s.after requests = ⟨s.writers ++ registrations requests, s.filled⟩ := by
  induction requests generalizing s with
  | nil => simp [after, registrations]
  | cons request rest ih =>
    cases request with
    | register new =>
      have rested := settled.imp_right fun plain => (List.forall_mem_cons.1 plain).2
      have next := ih (s := s.register new) rested
      simpa [after, answer, register, registrations, Request.registered?] using next
    | all | find =>
      have filled : s.filled = true :=
        settled.resolve_right fun plain => by cases (List.forall_mem_cons.1 plain).1
      rw [after, answer_lookup s rfl, fill_of_filled filled, ih (.inl filled)]
      rfl

theorem after_early (requests : List Request) :
    after {} (early requests) = ⟨registrations (early requests), false⟩ := by
  have plain : ∀ request ∈ early requests, request.registered?.isSome :=
    fun _ => List.mem_takeWhile_imp (p := fun request : Request => request.registered?.isSome)
  rw [after_of_settled (.inr plain), List.nil_append]

-- The shelf is as full as the first look-up, be it past or still to come, makes it.
theorem fill_after (requests : List Request) :
    (after {} requests).fill = ⟨known requests, true⟩ := by
  have cut : early requests ++ late requests = requests := List.takeWhile_append_dropWhile
  rw [← cut, after_append, after_early, cut]
  unfold known
  cases rest : late requests with
  | nil => rfl
  | cons request further =>
    have lookup : request.registered? = none := by
      have stopped := List.head?_dropWhile_not (·.registered?.isSome) requests
      unfold late at rest
      rw [rest] at stopped
      simpa using stopped
    rw [after, answer_lookup _ lookup, after_of_settled (.inl (filled_fill _))]
    simp [fill, register, registrations, lookup]

theorem fill_after_lookup (requests further : List Request) (lookup : request.registered? = none) :
    (after {} (requests ++ request :: further)).fill =
      ⟨known requests ++ registrations further, true⟩ := by
  rw [after_append, after, answer_lookup _ lookup, fill_after, after_of_settled (.inl rfl),
    fill_of_filled rfl]

theorem byLanguage_of_fill {writers : List Writer} (filled : s.fill = ⟨writers, true⟩)
    (language : String) :
    (s.byLanguage language).2 = writers.find? (·.language = language) := by
  simp only [byLanguage, filled]

/-- Whatever was asked of a shelf before, its writers are those that came before the first look-up,
the one that is always there and those that came later. The first of a language is found, and it is
found again by every later look-up. -/
theorem writers_keep_place (requests : List Request) :
    let s := after {} requests
    s.all.2 = known requests ∧
      (∀ language, IsFirst (·.language = language) (known requests) (s.byLanguage language).2) ∧
      (∀ request further, request.registered? = none →
        (after {} (requests ++ request :: further)).all.2 =
          known requests ++ registrations further) ∧
      ∀ language w, (s.byLanguage language).2 = some w → ∀ purpose further purpose',
        ((after {} (requests ++ .find language purpose :: further)).answer
          (.find language purpose')).2 = purpose'.reply (some w) := by
  intro s
  have filled := fill_after requests
  refine ⟨congrArg Shelf.writers filled, fun language => ?_, fun request further lookup => ?_,
    fun language w found purpose further purpose' => ?_⟩
  · rw [byLanguage_of_fill filled]
    exact isFirst_find? _ language
  · exact congrArg Shelf.writers (fill_after_lookup requests further lookup)
  · rw [byLanguage_of_fill filled] at found
    have lookup : (Request.find language purpose).registered? = none := rfl
    have same := byLanguage_of_fill (fill_after_lookup requests further lookup) language
    rw [List.find?_append, found, Option.some_or] at same
    exact congrArg purpose'.reply same

-- One that came before the first look-up is found in place of the one that is always there.
theorem own_writer_keeps_place :
    let requests : List Request :=
      [.register (.bare "csharp" "own"), .all, .register (.bare "csharp" "late")]
    (after {} requests).all.2 = [.bare "csharp" "own", .csharp, .bare "csharp" "late"] ∧
      (after {} (requests ++ [.all, .register (.bare "basic" "vb")])).all.2 =
        [.bare "csharp" "own", .csharp, .bare "csharp" "late", .bare "basic" "vb"] ∧
      ((after {} (requests ++ [.find "csharp" .itself, .register (.bare "csharp" "x")])).answer
        (.find "csharp" (.support "Fft"))).2 = .supported (some []) := by
  intro requests
  obtain ⟨listed, -, extended, found⟩ := writers_keep_place requests
  exact ⟨listed, extended .all [.register (.bare "basic" "vb")] rfl,
    found "csharp" (.bare "csharp" "own") rfl .itself [.register (.bare "csharp" "x")]
      (.support "Fft")⟩

end Recast.Shelf
