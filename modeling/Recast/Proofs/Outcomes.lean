import Recast.Proofs.Arguments
import Recast.Proofs.Layers
import Recast.Proofs.Writes
import Recast.Session

set_option autoImplicit false

namespace Recast

open Text (openBrace closeBrace)

theorem decodeText_eq_ok_iff {content : ByteArray} {text : String} :
    decodeText content = .ok text ↔ content = text.toUTF8 := by
  unfold decodeText String.fromUTF8?
  by_cases valid : content.IsValidUTF8
  · simp only [dif_pos valid, Except.ok.injEq]
    constructor
    · rintro rfl
      rfl
    · rintro rfl
      rfl
  · simp only [dif_neg valid, reduceCtorEq, false_iff]
    rintro rfl
    exact valid text.isValidUTF8

namespace Session

open Catalog (IsLast latest)
open Dialect (Spec builtins)
open Settings (described ofUser? ofProject?)

variable {read : Reading} {env : Environment} {root : Path} {o : TranslateOptions} {d : Dialect}
  {doc : Document} {i : Invocation} {t : FileTree}

def Chooses (o : TranslateOptions) (registered : List Dialect) (d : Dialect) : Prop :=
  match o.dialect with
  | some name => IsLast (·.name = name) (builtins ++ registered) (some d)
  | none => IsLast (·.Lists o.input) (latest (builtins ++ registered)) (some d)

def spaceFor (read : Reading) (env : Environment) (root : Path) (o : TranslateOptions) : String :=
  (o.space.or (((ofProject? read root).bind (·.space)).or ((ofUser? read env).bind (·.space)))).getD
    "FftFlat"

-- The document that the options stand for. Where it goes has no part in it.
structure Renders (read : Reading) (env : Environment) (root : Path) (o : TranslateOptions)
    (d : Dialect) (doc : Document) : Prop where
  chosen : ∃ registered,
    Spec.Compile (described (ofUser? read env) ++ described (ofProject? read root)) registered ∧
      Chooses o registered d
  translated : ∃ className source, o.className.or o.input.fileStem? = some className ∧
    read o.input = .ok source.toUTF8 ∧
    d.document .csharp ⟨spaceFor read env root o, className⟩ (Text.lines source) = .ok doc

def outputFor (o : TranslateOptions) : Path :=
  o.output.getD (o.input.withExtension "cs")

def actionFor (o : TranslateOptions) (d : Dialect) (doc : Document) : Action :=
  if o.stdout then .print doc.render
  else .save (outputFor o) doc (saved o (outputFor o) d doc)

theorem orFail_eq_ok_iff {α : Type} {failure : Failure} {found : Option α} {a : α} :
    orFail failure found = .ok a ↔ found = some a := by
  cases found <;> simp [orFail]

theorem chooseDialect_eq_ok_iff {c : Catalog} {registered : List Dialect}
    (replays : c.Replays registered) :
    (chooseDialect c o).result = .ok d ↔ Chooses o registered d := by
  unfold chooseDialect Chooses
  cases o.dialect with
  | some name =>
    have last := replays.isLast_byName name
    exact orFail_eq_ok_iff.trans ⟨fun found => found ▸ last, last.unique⟩
  | none =>
    have last := replays.isLast_byPath o.input
    exact orFail_eq_ok_iff.trans ⟨fun found => found ▸ last, last.unique⟩

theorem chooseContainer_eq_ok_iff {s : Settings} {c : Container} :
    chooseContainer s o = .ok c ↔ ∃ className, o.className.or o.input.fileStem? = some className ∧
      c = ⟨o.space.getD s.spaceOrDefault, className⟩ := by
  simp only [chooseContainer, Except.bind_eq_ok_iff, orFail_eq_ok_iff]
  simp [pure, Except.pure, eq_comm]

theorem readLines_eq_ok_iff {path : Path} {lines : List String} :
    readLines read path = .ok lines ↔
      ∃ source : String, read path = .ok source.toUTF8 ∧ Text.lines source = lines := by
  have decoded (source : String) :
      (read path).bind decodeText = .ok source ↔ read path = .ok source.toUTF8 := by
    refine Except.bind_eq_ok_iff.trans ?_
    simp only [decodeText_eq_ok_iff, exists_eq_right]
  rw [readLines, Except.mapError_eq_ok_iff]
  simp only [← decoded]
  cases (read path).bind decodeText <;> simp [Except.map]

theorem spaceFor_eq (read : Reading) (env : Environment) (root : Path) (o : TranslateOptions) :
    spaceFor read env root o = o.space.getD (Settings.load read env root).1.spaceOrDefault := by
  rw [Settings.spaceOrDefault_load, spaceFor]
  cases o.space <;> rfl

theorem translate_eq_ok_iff {s : Settings} {c : Catalog} {registered : List Dialect}
    {action : Action} (replays : c.Replays registered) :
    (translate read s c o).result = .ok action ↔ ∃ d doc className source, Chooses o registered d ∧
      o.className.or o.input.fileStem? = some className ∧
      read o.input = .ok source.toUTF8 ∧
      d.document .csharp ⟨o.space.getD s.spaceOrDefault, className⟩ (Text.lines source) = .ok doc ∧
      action = actionFor o d doc := by
  have choice : chooseWriter {} = .ok .csharp := rfl
  have last (d : Dialect) (doc : Document) :
      (if o.stdout = true then pure (.print doc.render)
        else pure (.save (o.output.getD (o.input.withExtension Writer.csharp.extension)) doc
          (saved o (o.output.getD (o.input.withExtension Writer.csharp.extension)) d doc)) :
        Traced Failure Action).result = .ok (actionFor o d doc) := by
    unfold actionFor
    split_ifs <;> rfl
  simp only [translate, Traced.result_bind, Except.bind_eq_ok_iff, chooseDialect_eq_ok_iff replays,
    Traced.of, choice, chooseContainer_eq_ok_iff, readLines_eq_ok_iff, recast,
    Except.mapError_eq_ok_iff]
  constructor
  · rintro ⟨d, chosen, _, ⟨⟩, _, ⟨className, named, rfl⟩, _, ⟨source, found, rfl⟩, doc, translated,
      done⟩
    exact ⟨d, doc, className, source, chosen, named, found, translated,
      Except.ok.inj (done.symm.trans (last d doc))⟩
  · rintro ⟨d, doc, className, source, chosen, named, found, translated, rfl⟩
    exact ⟨d, chosen, _, rfl, _, ⟨className, named, rfl⟩, _, ⟨source, found, rfl⟩, doc, translated,
      last d doc⟩

theorem plan_eq_ok_iff {action : Action} (asked : i.command = .translate o) :
    (plan read env i).result = .ok action ↔
      ∃ d doc, Renders read env i.root o d doc ∧ action = actionFor o d doc := by
  simp only [plan, asked, Traced.result_bind, Except.bind_eq_ok_iff, Except.mapError_eq_ok_iff,
    Settings.register, Settings.dialects_load]
  constructor
  · rintro ⟨_, done, chosen⟩
    obtain ⟨registered, compiled⟩ := Spec.exists_compile (Settings.registerAll_ok_iff.1 done)
    obtain ⟨d, doc, className, source, fits, named, found, translated, rfl⟩ :=
      (translate_eq_ok_iff (Settings.replays_of_compile compiled)).1 chosen
    rw [← spaceFor_eq] at translated
    exact ⟨d, doc, ⟨⟨registered, compiled, fits⟩, className, source, named, found, translated⟩, rfl⟩
  · rintro ⟨d, doc, ⟨⟨registered, compiled, chosen⟩, className, source, named, found, translated⟩,
      rfl⟩
    rw [spaceFor_eq] at translated
    exact ⟨(), (Settings.registerAll_of_compile compiled {}).2,
      (translate_eq_ok_iff (Settings.replays_of_compile compiled)).2
        ⟨d, doc, className, source, chosen, named, found, translated, rfl⟩⟩

-- What is saved is what would be printed.
theorem writeDocument_eq (t : FileTree) (path : Path) (doc : Document) :
    writeDocument t path doc = (t.write path doc.render.toUTF8).mapError (.unwritable path) := by
  rw [writeDocument, writeLines, doc.render_eq_unlines]

-- What a run leaves behind, its messages apart.
structure Ends (report : Report) (code : Nat) (stdout : String) (tree : FileTree) : Prop where
  code : report.code = code
  stdout : report.stdout = stdout
  tree : report.tree = tree

section Endings

variable {t' : FileTree} {arguments : List String}

theorem ends_of_command (accepted : Invocation.ofArguments arguments = .ok i) (t : FileTree)
    (env : Environment) :
    Ends (run t env arguments) (exitCode (command t env i).outcome) (command t env i).stdout
      (command t env i).tree := by
  constructor <;> simp only [run, accepted]

theorem ends_of_refused {e : Failure} (accepted : Invocation.ofArguments arguments = .ok i)
    (refused : (plan t.read env i).result = .error e) : Ends (run t env arguments) 1 "" t := by
  have same : command t env i = ⟨t, "", ⟨(plan t.read env i).events, .error e⟩⟩ := by
    delta command
    simp only [refused]
  have ends := ends_of_command accepted t env
  rw [same] at ends
  exact ends

theorem ends_of_perform {action : Action} (accepted : Invocation.ofArguments arguments = .ok i)
    (planned : (plan t.read env i).result = .ok action) :
    Ends (run t env arguments) (exitCode (perform t action).outcome) (perform t action).stdout
      (perform t action).tree := by
  have same : command t env i = ⟨(perform t action).tree, (perform t action).stdout,
      ⟨(plan t.read env i).events ++ (perform t action).outcome.events,
        (perform t action).outcome.result⟩⟩ := by
    delta command
    simp only [planned]
  have ends := ends_of_command accepted t env
  rw [same] at ends
  unfold exitCode at ends ⊢
  exact ends

theorem ends_of_printed (accepted : Invocation.ofArguments arguments = .ok i)
    (asked : i.command = .translate o) (renders : Renders t.read env i.root o d doc)
    (prints : o.stdout = true) : Ends (run t env arguments) 0 doc.render t := by
  have planned := (plan_eq_ok_iff asked).2 ⟨d, doc, renders, rfl⟩
  simp only [actionFor, prints, if_true] at planned
  exact ends_of_perform accepted planned

theorem ends_of_saved (accepted : Invocation.ofArguments arguments = .ok i)
    (asked : i.command = .translate o) (renders : Renders t.read env i.root o d doc)
    (saves : o.stdout = false) (written : t.write (outputFor o) doc.render.toUTF8 = .ok t') :
    Ends (run t env arguments) 0 "" t' := by
  have planned := (plan_eq_ok_iff asked).2 ⟨d, doc, renders, rfl⟩
  simp only [actionFor, saves, reduceCtorEq, if_false] at planned
  simpa only [perform, writeDocument_eq, written, Except.mapError, exitCode, Traced.of] using
    ends_of_perform accepted planned

theorem ends_cases (accepted : Invocation.ofArguments arguments = .ok i)
    (asked : i.command = .translate o) (t : FileTree) (env : Environment) :
    Ends (run t env arguments) 1 "" t ∨
      ∃ d doc, Renders t.read env i.root o d doc ∧
        (o.stdout = false → ∃ t', t.write (outputFor o) doc.render.toUTF8 = .ok t') := by
  cases planned : (plan t.read env i).result with
  | error e => exact .inl (ends_of_refused accepted planned)
  | ok action =>
    obtain ⟨d, doc, renders, rfl⟩ := (plan_eq_ok_iff asked).1 planned
    cases sink : o.stdout with
    | true => exact .inr ⟨d, doc, renders, nofun⟩
    | false =>
      cases written : t.write (outputFor o) doc.render.toUTF8 with
      | ok t' => exact .inr ⟨d, doc, renders, fun _ => ⟨t', written⟩⟩
      | error e =>
        simp only [actionFor, sink, reduceCtorEq, if_false] at planned
        refine .inl ?_
        simpa only [perform, writeDocument_eq, written, Except.mapError, exitCode, Traced.of] using
          ends_of_perform accepted planned

end Endings

-- The document is to be printed, and all else is as before.
def printing (i : Invocation) (o : TranslateOptions) : Invocation :=
  { i with command := .translate { o with output := none, stdout := true } }

theorem exists_arguments_printing {arguments : List String}
    (accepted : Invocation.ofArguments arguments = .ok i) (asked : i.command = .translate o) :
    ∃ others, Invocation.ofArguments others = .ok (printing i o) := by
  have proper := Invocation.proper_of_ofArguments accepted asked
  exact Invocation.exists_arguments_iff.2 ⟨proper.root, proper.input, nofun, fun _ => rfl⟩

/-- A run succeeds just when there is a document and, unless it is printed, a place to save it. It
fails with all files as they were. What is saved is what the same options print, and no other file
changes. -/
theorem translation_all_or_nothing (t : FileTree) (env : Environment) {arguments : List String}
    {i : Invocation} {o : TranslateOptions} (accepted : Invocation.ofArguments arguments = .ok i)
    (asked : i.command = .translate o) :
    let report := run t env arguments
    (report.code = 0 ↔ ∃ d doc, Renders t.read env i.root o d doc ∧
        (o.stdout = false → ∃ t', t.write (outputFor o) doc.render.toUTF8 = .ok t')) ∧
      (report.code ≠ 0 → Ends report 1 "" t) ∧
      (report.code = 0 → ∃ d doc, Renders t.read env i.root o d doc ∧
        (o.stdout = true → Ends report 0 doc.render t) ∧
        (o.stdout = false → report.stdout = "" ∧
          FileTree.Saved t report.tree (outputFor o) doc.render.toUTF8) ∧
        (∃ others, Invocation.ofArguments others = .ok (printing i o)) ∧
        ∀ others, Invocation.ofArguments others = .ok (printing i o) →
          Ends (run t env others) 0 doc.render t) := by
  intro report
  have outcomes := ends_cases accepted asked t env
  have failed (undone : Ends report 1 "" t) : report.code ≠ 0 := by
    simp [undone.code]
  have success : (∃ d doc, Renders t.read env i.root o d doc ∧
      (o.stdout = false → ∃ t', t.write (outputFor o) doc.render.toUTF8 = .ok t')) →
      report.code = 0 := by
    rintro ⟨d, doc, renders, writes⟩
    cases sink : o.stdout with
    | true => exact (ends_of_printed accepted asked renders sink).code
    | false =>
      obtain ⟨t', written⟩ := writes sink
      exact (ends_of_saved accepted asked renders sink written).code
  refine ⟨⟨fun done => outcomes.resolve_left fun undone => failed undone done, success⟩,
    fun undone => outcomes.resolve_right (undone ∘ success), fun done => ?_⟩
  obtain ⟨d, doc, renders, writes⟩ := outcomes.resolve_left fun undone => failed undone done
  refine ⟨d, doc, renders, ends_of_printed accepted asked renders, fun saves => ?_,
    exists_arguments_printing accepted asked, fun others same => ?_⟩
  · obtain ⟨t', written⟩ := writes saves
    have ends := ends_of_saved accepted asked renders saves written
    refine ⟨ends.stdout, ?_⟩
    rw [ends.tree]
    exact FileTree.saved_of_write written
  · exact ends_of_printed same rfl ⟨renders.chosen, renders.translated⟩ rfl

def workshop : FileTree where
  entries := [(["work"], .directory),
    (["work", "fft4g.c"], .file (Text.unlines ["void f()", openBrace, closeBrace]).toUTF8)]
  here := ["work"]

def workshopOutput : String :=
  Text.unlines ["using System;", "", "namespace FftFlat", openBrace,
    "    internal static unsafe class fft4g", "    " ++ openBrace,
    "        internal static void f()", "        " ++ openBrace, "        " ++ closeBrace,
    "    " ++ closeBrace, closeBrace]

-- One file is translated and saved, and printed, and then it is to go where there is no directory.
theorem workshop_translated_or_untouched :
    (∃ d doc, Renders workshop.read {} ⟨"."⟩ { input := ⟨"fft4g.c"⟩ } d doc ∧
        doc.render = workshopOutput) ∧
      FileTree.Saved workshop (run workshop {} ["translate", "fft4g.c"]).tree ⟨"fft4g.cs"⟩
        workshopOutput.toUTF8 ∧
      Ends (run workshop {} ["translate", "fft4g.c", "--stdout"]) 0 workshopOutput workshop ∧
      Ends (run workshop {} ["translate", "fft4g.c", "-o", "x/y.cs"]) 1 "" workshop := by
  have accepted : Invocation.ofArguments ["translate", "fft4g.c"] =
      .ok ⟨0, ⟨"."⟩, .translate { input := ⟨"fft4g.c"⟩ }⟩ := rfl
  obtain ⟨d, doc, renders, -, saved, -, printed⟩ :=
    (translation_all_or_nothing workshop {} accepted rfl).2.2 (by decide +kernel)
  have ends := printed ["translate", "fft4g.c", "--stdout"] rfl
  have text : doc.render = workshopOutput := by
    rw [← ends.stdout]
    decide +kernel
  rw [text] at saved ends
  exact ⟨⟨d, doc, renders, text⟩, (saved rfl).2, ends,
    (translation_all_or_nothing workshop {} rfl rfl).2.1 (by decide +kernel)⟩

end Session

end Recast
