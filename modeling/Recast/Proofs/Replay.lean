import Mathlib.Data.List.Basic
import Recast.Catalog

set_option autoImplicit false

namespace Recast

-- One of the files that the dialect is chosen for has the name of the path.
def Dialect.Lists (d : Dialect) (path : Path) : Prop :=
  ∃ file, path.fileName? = some file ∧ file ∈ d.sources

theorem Dialect.appliesTo_iff {d : Dialect} {path : Path} : d.appliesTo path ↔ d.Lists path := by
  cases name : path.fileName? <;> simp [appliesTo, Lists, name]

namespace Catalog

-- The entries that no later entry of the same name replaces.
def latest : List Dialect → List Dialect
  | [] => []
  | d :: rest => if rest.any (·.name = d.name) then latest rest else d :: latest rest

-- The entries that neither a later one nor one of `more` replaces.
def unreplaced (more entries : List Dialect) : List Dialect :=
  (latest entries).filter fun d => !more.any (·.name = d.name)

-- What a search from the end gives.
def IsLast (p : Dialect → Prop) (entries : List Dialect) : Option Dialect → Prop
  | none => ∀ d ∈ entries, ¬ p d
  | some d => ∃ before after, entries = before ++ d :: after ∧ p d ∧ ∀ later ∈ after, ¬ p later

section Entries

variable {p : Dialect → Prop} {entries more : List Dialect} {d : Dialect} {found : Option Dialect}

theorem latest_append (entries more : List Dialect) :
    latest (entries ++ more) = unreplaced more entries ++ latest more := by
  unfold unreplaced
  induction entries with
  | nil => rfl
  | cons d rest ih =>
    cases replaced : rest.any (·.name = d.name) with
    | true => simp [latest, replaced, ih]
    | false =>
      cases overridden : more.any (·.name = d.name) <;> simp [latest, replaced, overridden, ih]

theorem insert_latest (entries : List Dialect) (d : Dialect) :
    insert (latest entries) d = latest (entries ++ [d]) := by
  have same : (fun e : Dialect => decide (e.name ≠ d.name)) =
      fun e => !([d].any fun later => decide (later.name = e.name)) := by
    funext e
    simp [eq_comm]
  rw [insert, latest_append, unreplaced, same]
  rfl

theorem foldl_insert (log more : List Dialect) :
    more.foldl insert (latest log) = latest (log ++ more) := by
  induction more generalizing log with
  | nil => simp
  | cons d rest ih => simp [insert_latest, ih]

theorem mem_of_mem_latest (member : d ∈ latest entries) : d ∈ entries := by
  induction entries with
  | nil => exact member
  | cons e rest ih =>
    simp only [latest] at member
    split at member
    · exact List.mem_cons_of_mem _ (ih member)
    · rcases List.mem_cons.1 member with rfl | later
      · exact List.mem_cons_self
      · exact List.mem_cons_of_mem _ (ih later)

theorem nodup_latest (entries : List Dialect) : ((latest entries).map (·.name)).Nodup := by
  induction entries with
  | nil => exact List.nodup_nil
  | cons d rest ih =>
    simp only [latest]
    split
    · exact ih
    next unreplaced =>
      refine List.nodup_cons.2 ⟨fun member => ?_, ih⟩
      obtain ⟨e, kept, same⟩ := List.mem_map.1 member
      exact unreplaced (List.any_eq_true.2 ⟨e, mem_of_mem_latest kept, by simpa using same⟩)

theorem IsLast.cons (last : IsLast p entries found) (other : found = none → ¬ p d) :
    IsLast p (d :: entries) found := by
  cases found with
  | none => simpa [IsLast, other rfl] using last
  | some e =>
    obtain ⟨before, after, rfl, holds, none⟩ := last
    exact ⟨d :: before, after, rfl, holds, none⟩

theorem find?_reverse_eq_iff {q : Dialect → Bool} (same : ∀ d, q d ↔ p d) :
    entries.reverse.find? q = found ↔ IsLast p entries found := by
  cases found with
  | none => simp [IsLast, ← same]
  | some d =>
    rw [List.find?_eq_some_iff_append]
    constructor
    · rintro ⟨holds, after, before, split, none⟩
      refine ⟨before.reverse, after.reverse, ?_, (same d).1 holds, fun later member => ?_⟩
      · simpa using congrArg List.reverse split
      · simpa [← same] using none later (List.mem_reverse.1 member)
    · rintro ⟨before, after, rfl, holds, none⟩
      refine ⟨(same d).2 holds, after.reverse, before.reverse, by simp, fun later member => ?_⟩
      simpa [← same] using none later (List.mem_reverse.1 member)

theorem IsLast.unique {found' : Option Dialect} (last : IsLast p entries found)
    (last' : IsLast p entries found') : found = found' := by
  classical
  have search {found : Option Dialect} (last : IsLast p entries found) :
      entries.reverse.find? (fun d => decide (p d)) = found :=
    (find?_reverse_eq_iff fun d => decide_eq_true_iff).2 last
  rw [← search last, ← search last']

theorem IsLast.exists_of_mem (last : IsLast p entries found) (member : d ∈ entries) (holds : p d) :
    ∃ e, found = some e := by
  cases found with
  | none => exact absurd holds (last d member)
  | some e => exact ⟨e, rfl⟩

-- Names are distinct, so that the first of the entries with a name is the last of the log.
theorem isLast_find?_latest (log : List Dialect) (name : String) :
    IsLast (·.name = name) log ((latest log).find? (·.name = name)) := by
  induction log with
  | nil => simp [latest, IsLast]
  | cons d rest ih =>
    simp only [latest]
    split
    next replaced =>
      refine ih.cons fun missing called => ?_
      obtain ⟨e, member, same⟩ := List.any_eq_true.1 replaced
      rw [missing] at ih
      exact ih e member (by simpa [called] using same)
    next unreplaced =>
      by_cases called : d.name = name
      · rw [List.find?_cons_of_pos (by simpa using called)]
        refine ⟨[], rest, rfl, called, fun e member same => unreplaced ?_⟩
        exact List.any_eq_true.2 ⟨e, member, by simp [same, called]⟩
      · rw [List.find?_cons_of_neg (by simpa using called)]
        exact ih.cons fun _ => called

end Entries

inductive Request where
  | register (d : Dialect)
  | byName (name : String)
  | byPath (path : Path)
  | dialects
  | summaries

inductive Reply where
  | registered (d : Dialect)
  | found (d : Option Dialect)
  | listed (dialects : List Dialect)
  | summarized (summaries : List Dialect.Summary)

def answer (c : Catalog) : Request → Catalog × Reply
  | .register d => (c.register d, .registered d)
  | .byName name => ((c.byName name).1, .found (c.byName name).2)
  | .byPath path => ((c.byPath path).1, .found (c.byPath path).2)
  | .dialects => (c.dialects.1, .listed c.dialects.2)
  | .summaries => (c.summaries.1, .summarized c.summaries.2)

def after : Catalog → List Request → Catalog
  | c, [] => c
  | c, request :: rest => after (c.answer request).1 rest

def replies : Catalog → List Request → List Reply
  | _, [] => []
  | c, request :: rest => (c.answer request).2 :: replies (c.answer request).1 rest

def Request.registered? : Request → Option Dialect
  | .register d => some d
  | _ => none

def registrations (requests : List Request) : List Dialect :=
  requests.filterMap Request.registered?

-- The catalog holds what its log says, as soon as it is filled.
def Replays (log : List Dialect) (c : Catalog) : Prop :=
  c.fill = ⟨latest (Dialect.builtins ++ log), true⟩

section Requests

variable {c : Catalog} {log : List Dialect}

theorem replays_empty : Replays [] {} := by
  have builtins := foldl_insert [] Dialect.builtins
  simpa [Replays, fill, latest] using builtins

theorem fill_fill (c : Catalog) : c.fill.fill = c.fill := by
  cases filled : c.filled <;> simp [fill, filled]

theorem answer_fill (c : Catalog) (request : Request) :
    c.fill.answer request = c.answer request := by
  cases request <;> simp [answer, register, byName, byPath, dialects, summaries, fill_fill]

theorem replies_fill (c : Catalog) (requests : List Request) :
    replies c.fill requests = replies c requests := by
  cases requests <;> simp [replies, answer_fill]

-- Every use fills the catalog first, so that only what is registered shows afterwards.
theorem Replays.answer (replays : Replays log c) (request : Request) :
    Replays (log ++ request.registered?.toList) (c.answer request).1 := by
  have filled : c.fill = ⟨latest (Dialect.builtins ++ log), true⟩ := replays
  cases request with
  | register d =>
    simp only [Replays, Catalog.answer, register, filled, insert_latest]
    simp [fill, Request.registered?]
  | byName | byPath | dialects | summaries =>
    simpa [Replays, Catalog.answer, Request.registered?, byName, byPath, dialects, summaries,
      fill_fill] using replays

theorem Replays.after (replays : Replays log c) (requests : List Request) :
    Replays (log ++ registrations requests) (c.after requests) := by
  induction requests generalizing c log with
  | nil => simpa [registrations, Catalog.after] using replays
  | cons request rest ih =>
    have next := ih (replays.answer request)
    rw [List.append_assoc] at next
    cases request <;> exact next

theorem Replays.foldl_register (replays : Replays log c) (more : List Dialect) :
    Replays (log ++ more) (more.foldl register c) := by
  induction more generalizing c log with
  | nil => simpa using replays
  | cons d rest ih =>
    have next := ih (replays.answer (.register d))
    rw [List.append_assoc] at next
    exact next

theorem Replays.entries_fill (replays : Replays log c) :
    c.fill.entries = latest (Dialect.builtins ++ log) :=
  congrArg Catalog.entries replays

theorem Replays.dialects_eq (replays : Replays log c) :
    c.dialects.2 = latest (Dialect.builtins ++ log) :=
  replays.entries_fill

theorem Replays.isLast_byName (replays : Replays log c) (name : String) :
    IsLast (·.name = name) (Dialect.builtins ++ log) (c.byName name).2 := by
  simpa only [byName, replays.entries_fill] using isLast_find?_latest _ name

theorem Replays.isLast_byPath (replays : Replays log c) (path : Path) :
    IsLast (·.Lists path) (latest (Dialect.builtins ++ log)) (c.byPath path).2 := by
  rw [byPath, replays.entries_fill]
  exact (find?_reverse_eq_iff fun d => Dialect.appliesTo_iff).1 rfl

theorem Replays.replies_eq {c' : Catalog} (replays : Replays log c) (replays' : Replays log c')
    (requests : List Request) : replies c requests = replies c' requests := by
  have same : c.fill = c'.fill := replays.trans replays'.symm
  rw [← replies_fill, same, replies_fill]

end Requests

theorem registrations_filter (requests : List Request) :
    registrations (requests.filter (·.registered?.isSome)) = registrations requests := by
  rw [registrations, List.filterMap_filter]
  refine List.filterMap_congr fun request _ => ?_
  cases request <;> rfl

/-- Whatever was asked of a catalog before, its answers are read off its log: of the dialects that
are always known and all that were registered, the last of each name counts. -/
theorem answers_follow_log (requests : List Request) :
    let c := after {} requests
    let log := [Dialect.fft4g, Dialect.fftsg] ++ registrations requests
    c.dialects.2 = latest log ∧ c.summaries.2 = (latest log).map Dialect.summary ∧
      ((latest log).map (·.name)).Nodup ∧
      (∀ b ∈ [Dialect.fft4g, Dialect.fftsg], ∃ d, (c.byName b.name).2 = some d) ∧
      (∀ name, IsLast (·.name = name) log (c.byName name).2) ∧
      (∀ path, IsLast (·.Lists path) (latest log) (c.byPath path).2) ∧
      (∀ further, replies c further =
        replies (after {} (requests.filter (·.registered?.isSome))) further) ∧
      replies {} requests = replies (fill {}) requests := by
  intro c log
  have replays : Replays (registrations requests) c := by
    simpa using replays_empty.after requests
  refine ⟨replays.dialects_eq, ?_, nodup_latest log, fun b known => ?_, replays.isLast_byName,
    replays.isLast_byPath, fun further => ?_, (replies_fill {} requests).symm⟩
  · rw [summaries, replays.dialects_eq]
    rfl
  · exact (replays.isLast_byName b.name).exists_of_mem (List.mem_append_left _ known) rfl
  · have fewer := replays_empty.after (requests.filter (·.registered?.isSome))
    rw [registrations_filter] at fewer
    exact replays.replies_eq fewer further

theorem builtins_resolved_in_fresh_catalog :
    (byName {} "fft4g").2 = some Dialect.fft4g ∧ (byName {} "fftsg").2 = some Dialect.fftsg ∧
      (byPath {} ⟨"src/fftsg.c"⟩).2 = some Dialect.fftsg := by
  obtain ⟨-, -, -, -, named, placed, -⟩ := answers_follow_log []
  have listed : Dialect.fftsg.Lists ⟨"src/fftsg.c"⟩ := ⟨"fftsg.c", rfl, by simp [Dialect.fftsg]⟩
  exact ⟨(named "fft4g").unique ⟨[], [Dialect.fftsg], rfl, rfl, by simp [Dialect.fftsg]⟩,
    (named "fftsg").unique ⟨[Dialect.fft4g], [], rfl, rfl, by simp⟩,
    (placed _).unique ⟨[Dialect.fft4g], [], rfl, listed, by simp⟩⟩

-- A dialect that is known from the start can be replaced, and then it comes last.
example :
    (after {} [.summaries, .register .fft4g]).dialects.2.map (·.name) = ["fftsg", "fft4g"] := rfl

end Catalog

end Recast
