import Mathlib.Data.List.Forall2
import Recast.Proofs.Checking
import Recast.Proofs.Replay
import Recast.Settings

set_option autoImplicit false

namespace Recast

namespace Dialect.Spec

-- Each description is accepted, and these are the dialects that they describe.
def Compile (specs : List Spec) (dialects : List Dialect) : Prop :=
  List.Forall₂ (fun s d => s.compile = .ok d) specs dialects

theorem Compile.unique {specs : List Spec} {dialects dialects' : List Dialect}
    (compiled : Compile specs dialects) (compiled' : Compile specs dialects') :
    dialects = dialects' :=
  List.right_unique_forall₂' (fun _ _ _ here here' => Except.ok.inj (here.symm.trans here'))
    compiled compiled'

theorem exists_compile {specs : List Spec} (each : ∀ s ∈ specs, ∃ d, s.compile = .ok d) :
    ∃ dialects, Compile specs dialects := by
  induction specs with
  | nil => exact ⟨[], .nil⟩
  | cons s rest ih =>
    obtain ⟨d, compiled⟩ := each s (by simp)
    obtain ⟨dialects, following⟩ := ih fun s member => each s (by simp [member])
    exact ⟨d :: dialects, .cons compiled following⟩

theorem exists_first_refused {specs : List Spec}
    (refused : ∃ s ∈ specs, ∀ d, s.compile ≠ .ok d) :
    ∃ before bad after dialects e, specs = before ++ bad :: after ∧ Compile before dialects ∧
      bad.compile = .error e := by
  induction specs with
  | nil => simp at refused
  | cons s rest ih =>
    cases compiled : s.compile with
    | error e => exact ⟨[], s, rest, [], e, rfl, .nil, compiled⟩
    | ok d =>
      have later : ∃ s ∈ rest, ∀ d, s.compile ≠ .ok d := by
        obtain ⟨bad, member, fails⟩ := refused
        rcases List.mem_cons.1 member with rfl | member
        · exact absurd compiled (fails d)
        · exact ⟨bad, member, fails⟩
      obtain ⟨before, bad, after, dialects, e, rfl, following, failed⟩ := ih later
      exact ⟨s :: before, bad, after, d :: dialects, e, rfl, .cons compiled following, failed⟩

end Dialect.Spec

namespace Settings

open Dialect (Spec)

variable {read : Reading} {env : Environment} {root : Path}

def inFile? (read : Reading) (path : Path) : Option Settings :=
  ((read path).bind decodeText).toOption.bind ofText?

def ofUser? (read : Reading) (env : Environment) : Option Settings :=
  (userPath? env).bind (inFile? read)

def ofProject? (read : Reading) (root : Path) : Option Settings :=
  inFile? read (projectPath root)

def described (layer : Option Settings) : List Spec :=
  layer.elim [] dialects

theorem readFile_eq_inFile? (read : Reading) (path : Path) :
    (readFile read path).1 = inFile? read path := by
  simp only [readFile, inFile?]
  cases (read path).bind decodeText with
  | error cause => rfl
  | ok text => cases found : ofText? text <;> simp [found, Except.toOption]

theorem load_eq_merge (read : Reading) (env : Environment) (root : Path) :
    (load read env root).1 =
      merge (merge {} ((ofUser? read env).getD {})) ((ofProject? read root).getD {}) := by
  have user : (((userPath? env).map (readFile read)).getD (none, [])).1 = ofUser? read env := by
    cases found : userPath? env <;> simp [ofUser?, found, readFile_eq_inFile?]
  simp only [load, ofProject?, ← user, ← readFile_eq_inFile?]

theorem spaceOrDefault_load (read : Reading) (env : Environment) (root : Path) :
    (load read env root).1.spaceOrDefault =
      (((ofProject? read root).bind space).or ((ofUser? read env).bind space)).getD "FftFlat" := by
  rw [load_eq_merge, spaceOrDefault, defaultSpace]
  cases ofUser? read env <;> cases ofProject? read root <;> simp [merge]

theorem dialects_load (read : Reading) (env : Environment) (root : Path) :
    (load read env root).1.dialects =
      described (ofUser? read env) ++ described (ofProject? read root) := by
  rw [load_eq_merge]
  cases ofUser? read env <;> cases ofProject? read root <;> simp [merge, described]

section Registration

variable {specs before : List Spec} {dialects : List Dialect} {c : Catalog}

theorem registerAll_append (compiled : Spec.Compile before dialects) (c : Catalog)
    (after : List Spec) :
    (registerAll c (before ++ after)).1 =
        (registerAll (dialects.foldl Catalog.register c) after).1 ∧
      (registerAll c (before ++ after)).2.result =
        (registerAll (dialects.foldl Catalog.register c) after).2.result := by
  unfold Spec.Compile at compiled
  induction compiled generalizing c with
  | nil => exact ⟨rfl, rfl⟩
  | cons here rest ih => simpa [registerAll, here] using ih (c.register _)

theorem registerAll_of_compile (compiled : Spec.Compile specs dialects) (c : Catalog) :
    (registerAll c specs).1 = dialects.foldl Catalog.register c ∧
      (registerAll c specs).2.result = .ok () := by
  simpa [registerAll] using registerAll_append compiled c []

-- What was registered before the dialect at fault stays, and nothing after it is looked at.
theorem registerAll_of_refused {bad : Spec} {e : Spec.Error}
    (compiled : Spec.Compile before dialects) (failed : bad.compile = .error e) (c : Catalog)
    (after : List Spec) :
    (registerAll c (before ++ bad :: after)).1 = dialects.foldl Catalog.register c ∧
      (registerAll c (before ++ bad :: after)).2.result = .error e := by
  simpa [registerAll, failed, Traced.of] using registerAll_append compiled c (bad :: after)

theorem registerAll_ok_iff :
    (registerAll c specs).2.result = .ok () ↔ ∀ s ∈ specs, ∃ d, s.compile = .ok d := by
  constructor
  · intro done
    by_contra refused
    push Not at refused
    obtain ⟨before, bad, after, dialects, e, rfl, compiled, failed⟩ :=
      Spec.exists_first_refused refused
    rw [(registerAll_of_refused compiled failed c after).2] at done
    cases done
  · intro each
    obtain ⟨dialects, compiled⟩ := Spec.exists_compile each
    exact (registerAll_of_compile compiled c).2

theorem replays_of_compile (compiled : Spec.Compile specs dialects) :
    Catalog.Replays dialects (registerAll {} specs).1 := by
  rw [(registerAll_of_compile compiled {}).1]
  exact Catalog.replays_empty.foldl_register dialects

end Registration

theorem faultMessage_of_compile {s : Spec} {e : Spec.Error} (failed : s.compile = .error e) :
    faultMessage e = "invalid dialect `" ++ s.name ++ "` in config: " ++ e.message := by
  unfold faultMessage
  rw [Spec.dialect_of_compileWith Pattern.Reader.read failed]

/-- Single settings come from the last layer that has them. Dialects are registered layer by layer,
up to the first that is refused, which the failure names; what counts is the last dialect of each
name, and for a path the last of these, so that a later layer goes before an earlier one. -/
theorem layers_resolved_in_order (read : Reading) (env : Environment) (root : Path) :
    let global := described (ofUser? read env)
    let own := described (ofProject? read root)
    let settings := (load read env root).1
    let catalog := (settings.register {}).1
    let result := (settings.register {}).2.result
    settings.spaceOrDefault =
        (((ofProject? read root).bind space).or ((ofUser? read env).bind space)).getD "FftFlat" ∧
      settings.dialects = global ++ own ∧
      (result = .ok () ↔ ∀ s ∈ settings.dialects, ∃ d, s.compile = .ok d) ∧
      (result = .ok () → ∃ lower upper, Spec.Compile global lower ∧ Spec.Compile own upper ∧
        catalog.dialects.2 = Catalog.latest (Dialect.builtins ++ (lower ++ upper)) ∧
        catalog.dialects.2 = Catalog.unreplaced (lower ++ upper) Dialect.builtins ++
          (Catalog.unreplaced upper lower ++ Catalog.latest upper) ∧
        (∀ name, Catalog.IsLast (·.name = name) (Dialect.builtins ++ (lower ++ upper))
          (catalog.byName name).2) ∧
        ∀ path, Catalog.IsLast (·.Lists path) catalog.dialects.2 (catalog.byPath path).2) ∧
      ((∃ s ∈ settings.dialects, ∀ d, s.compile ≠ .ok d) →
        ∃ before bad after compiled e, settings.dialects = before ++ bad :: after ∧
          Spec.Compile before compiled ∧ bad.compile = .error e ∧ result = .error e ∧
          faultMessage e = "invalid dialect `" ++ bad.name ++ "` in config: " ++ e.message ∧
          catalog.dialects.2 = Catalog.latest (Dialect.builtins ++ compiled)) := by
  intro global own settings catalog result
  have dialects : settings.dialects = global ++ own := dialects_load read env root
  have done : result = .ok () ↔ ∀ s ∈ settings.dialects, ∃ d, s.compile = .ok d :=
    registerAll_ok_iff
  refine ⟨spaceOrDefault_load read env root, dialects, done, fun success => ?_, fun refused => ?_⟩
  · have each := done.1 success
    simp only [dialects, List.forall_mem_append] at each
    obtain ⟨lower, first⟩ := Spec.exists_compile each.1
    obtain ⟨upper, second⟩ := Spec.exists_compile each.2
    have replays : Catalog.Replays (lower ++ upper) catalog := by
      simpa only [catalog, register, dialects] using
        replays_of_compile (List.rel_append first second)
    have entries := replays.dialects_eq
    refine ⟨lower, upper, first, second, entries, ?_, replays.isLast_byName, fun path => ?_⟩
    · rw [entries, Catalog.latest_append, Catalog.latest_append]
    · rw [entries]
      exact replays.isLast_byPath path
  · obtain ⟨before, bad, after, compiled, e, split, passed, failed⟩ :=
      Spec.exists_first_refused refused
    have stopped := registerAll_of_refused passed failed {} after
    rw [← split] at stopped
    have replays : Catalog.Replays ([] ++ compiled) catalog := by
      simpa only [catalog, register, stopped.1] using
        Catalog.replays_empty.foldl_register compiled
    exact ⟨before, bad, after, compiled, e, split, passed, failed, stopped.2,
      faultMessage_of_compile failed, replays.dialects_eq⟩

-- The user replaces a dialect that is always known, and the project replaces that of the user.
def layered : FileTree where
  entries := [
    (["xdg"], .directory), (["xdg", "numport"], .directory), ([".numport"], .directory),
    (["xdg", "numport", "config.toml"], .file (Text.unlines ["output.namespace = 'User'",
      "[[dialects]]", "name = 'fft4g'", "declaration.prefix = 'int'"]).toUTF8),
    ([".numport", "config.toml"], .file (Text.unlines ["[[dialects]]", "name = 'fft4g'",
      "sources = ['a.c']", "declaration.prefix = 'void'"]).toUTF8)]
  here := []

def layeredEnvironment : Environment where
  bindings := [("XDG_CONFIG_HOME", "xdg")]

theorem project_resolved_above_user :
    let settings := (load layered.read layeredEnvironment ⟨"."⟩).1
    let catalog := (settings.register {}).1
    settings.spaceOrDefault = "User" ∧
      settings.dialects.map (·.declaration) = [.keyword "int", .keyword "void"] ∧
      (settings.register {}).2.result = .ok () ∧
      catalog.dialects.2.map (fun d => (d.name, d.sources)) =
        [("fftsg", ["fftsg.c"]), ("fft4g", ["a.c"])] ∧
      (catalog.byPath ⟨"a.c"⟩).2.map (·.name) = some "fft4g" ∧
      (catalog.byPath ⟨"fft4g.c"⟩).2.map (·.name) = none := by
  dsimp only
  let lower : Spec := { name := "fft4g", declaration := .keyword "int" }
  let upper : Spec := { name := "fft4g", sources := ["a.c"], declaration := .keyword "void" }
  have user : ofUser? layered.read layeredEnvironment = some ⟨some "User", [lower]⟩ := by
    decide +kernel
  have project : ofProject? layered.read ⟨"."⟩ = some ⟨none, [upper]⟩ := by decide +kernel
  obtain ⟨space, listed, done, resolved, -⟩ :=
    layers_resolved_in_order layered.read layeredEnvironment ⟨"."⟩
  rw [user, project] at space listed resolved
  have success := done.2 (by
    rw [listed]
    simp only [described, Option.elim_some, List.forall_mem_append, List.forall_mem_singleton]
    exact ⟨⟨_, rfl⟩, ⟨_, rfl⟩⟩)
  obtain ⟨below, above, first, second, entries, -, -, placed⟩ := resolved success
  let own : Dialect := ⟨"fft4g", ["a.c"], .keyword "void", none, .ofList [],
    Dialect.defaultVisibility, Dialect.defaultImports⟩
  obtain rfl : [{ own with sources := [], declaration := .keyword "int" }] = below :=
    Spec.Compile.unique (.cons rfl .nil) first
  obtain rfl : [own] = above := Spec.Compile.unique (.cons rfl .nil) second
  refine ⟨space, by rw [listed]; rfl, success, ?_⟩
  -- The catalog is a variable from here on, so that nothing reads the files again.
  generalize ((load layered.read layeredEnvironment ⟨"."⟩).1.register {}).1 = catalog
    at entries placed ⊢
  have kept : catalog.dialects.2 = [Dialect.fftsg, own] := entries
  rw [kept] at placed ⊢
  have found : (catalog.byPath ⟨"a.c"⟩).2 = some own :=
    (placed _).unique ⟨[Dialect.fftsg], [], rfl, ⟨"a.c", rfl, by simp [own]⟩, by simp⟩
  have missing : (catalog.byPath ⟨"fft4g.c"⟩).2 = none := by
    refine (placed _).unique fun d member ⟨file, named, given⟩ => ?_
    obtain rfl : "fft4g.c" = file := Option.some.inj named
    rcases List.mem_pair.1 member with rfl | rfl <;> simp [Dialect.fftsg, own] at given
  rw [found, missing]
  exact ⟨rfl, rfl, rfl⟩

end Settings

end Recast
