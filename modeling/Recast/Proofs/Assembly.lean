import Recast.Document
import Recast.Proofs.LineEnds

set_option autoImplicit false

namespace Recast

open Text (openBrace closeBrace)

namespace Text

theorem splitOn_ended {lines : List (List Char)} (inner : ∀ line ∈ lines, '\n' ∉ line) :
    (ended lines).splitOn '\n' = lines ++ [[]] := by
  induction lines with
  | nil => simp
  | cons line rest ih =>
    obtain ⟨first, others⟩ := List.forall_mem_cons.1 inner
    rw [ended_cons, List.splitOn_append_cons_self_of_not_mem first, ih others]
    rfl

theorem unlines_injective {lines lines' : List String} (inner : ∀ line ∈ lines, '\n' ∉ line.toList)
    (inner' : ∀ line ∈ lines', '\n' ∉ line.toList) (same : unlines lines = unlines lines') :
    lines = lines' := by
  have split (lines : List String) (inner : ∀ line ∈ lines, '\n' ∉ line.toList) :
      (unlines lines).toList.splitOn '\n' = lines.map String.toList ++ [[]] := by
    rw [toList_unlines]
    exact splitOn_ended (by simpa using inner)
  have texts := split lines inner
  rw [same, split lines' inner'] at texts
  have injective : Function.Injective String.toList := fun _ _ => String.toList_injective
  exact (List.map_injective_iff.2 injective (List.append_cancel_right texts)).symm

end Text

namespace Writer

variable {c c' : Container} {imports imports' body body' rest rest' : List String}

-- Everything that goes into the file is on one line.
structure OneLine (c : Container) (imports body : List String) : Prop where
  space : '\n' ∉ c.space.toList
  className : '\n' ∉ c.className.toList
  imports : ∀ name ∈ imports, '\n' ∉ name.toList
  body : ∀ line ∈ body, '\n' ∉ line.toList

theorem indented_injective : Function.Injective fun line : String => "        " ++ line := by
  intro line line' same
  simpa using same

theorem using_injective : Function.Injective fun name : String => "using " ++ name ++ ";" := by
  intro name name' same
  simpa using same

theorem indent_eq (line : String) :
    indent 0 line = line ∧ indent 1 line = "    " ++ line ∧ indent 2 line = "        " ++ line :=
  ⟨String.empty_append, rfl, rfl⟩

theorem usings_eq (imports : List String) :
    usings imports =
      imports.map ("using " ++ · ++ ";") ++ if imports = [] then [] else [""] := by
  cases imports with
  | nil => rfl
  | cons name more => simp [usings]

theorem lines_staticClass (c : Container) (imports body : List String) :
    (staticClass c imports body).lines =
      usings imports ++ ("namespace " ++ c.space) :: openBrace ::
        ("    internal static unsafe class " ++ c.className) :: ("    " ++ openBrace) ::
          (body.map ("        " ++ ·) ++ ["    " ++ closeBrace, closeBrace]) := by
  have headline : "    " ++ ("internal static unsafe class " ++ c.className) =
      "    internal static unsafe class " ++ c.className := by
    rw [← String.append_assoc]
    rfl
  simp [staticClass, block, indent_eq, headline]

theorem headline_ne_using (space name : String) :
    "namespace " ++ space ≠ "using " ++ name ++ ";" := by
  intro same
  have first := congrArg (·.toList.head?) same
  simp at first

theorem splitOn_using (imports rest : List String) :
    (imports.map ("using " ++ · ++ ";") ++ "" :: rest).splitOn "" =
      imports.map ("using " ++ · ++ ";") :: rest.splitOn "" := by
  apply List.splitOn_append_cons_self_of_not_mem
  intro blank
  obtain ⟨name, -, same⟩ := List.mem_map.1 blank
  simp at same

-- The headline of the namespace is not taken for an import, nor an import for the blank line.
theorem usings_append_inj {space space' : String}
    (same : usings imports ++ ("namespace " ++ space) :: rest =
      usings imports' ++ ("namespace " ++ space') :: rest') :
    imports = imports' ∧ space = space' ∧ rest = rest' := by
  have first : imports = imports' := by
    cases imports with
    | nil =>
      cases imports' with
      | nil => rfl
      | cons name more => exact absurd (List.cons.inj same).1 (headline_ne_using space name)
    | cons name more =>
      cases imports' with
      | nil => exact absurd (List.cons.inj same).1.symm (headline_ne_using space' name)
      | cons name' more' =>
        simp only [usings_eq, reduceCtorEq, if_false, List.append_assoc,
          List.singleton_append] at same
        have parts := congrArg (List.splitOn "") same
        rw [splitOn_using, splitOn_using] at parts
        exact List.map_injective_iff.2 using_injective (List.cons.inj parts).1
  subst first
  have others := List.cons.inj (List.append_cancel_left same)
  exact ⟨rfl, by simpa using others.1, others.2⟩

theorem lines_staticClass_eq_iff :
    (staticClass c imports body).lines = (staticClass c' imports' body').lines ↔
      c = c' ∧ imports = imports' ∧ body = body' := by
  constructor
  · intro same
    rw [lines_staticClass, lines_staticClass] at same
    obtain ⟨listed, space, inner⟩ := usings_append_inj same
    have others := List.cons.inj (List.cons.inj inner).2
    have className : c.className = c'.className := by simpa using others.1
    have lines := List.append_cancel_right (List.cons.inj others.2).2
    refine ⟨?_, listed, List.map_injective_iff.2 indented_injective lines⟩
    obtain ⟨_, _⟩ := c
    cases space
    cases className
    rfl
  · rintro ⟨rfl, rfl, rfl⟩
    rfl

theorem OneLine.lines (plain : OneLine c imports body) :
    ∀ line ∈ (staticClass c imports body).lines, '\n' ∉ line.toList := by
  obtain ⟨space, className, names, lines⟩ := plain
  rw [lines_staticClass, usings_eq]
  simp only [List.forall_mem_append, List.forall_mem_cons, List.forall_mem_map]
  refine ⟨⟨fun name given => ?_, ?_⟩, ?_, by simp, ?_, by simp, fun line given => ?_, by simp,
    by simp, by simp⟩
  · simp [names name given]
  · split_ifs <;> simp
  · simp [space]
  · simp [className]
  · simp [lines line given]

/-- The lines of the file of a class are its imports, its headlines and its body, each at its depth.
They belong to one class only; and the text of the file does if all that is in it is on one line. -/
theorem lines_determine_class (c : Container) (imports body : List String) :
    (staticClass c imports body).lines =
        imports.map ("using " ++ · ++ ";") ++ (if imports = [] then [] else [""]) ++
          ["namespace " ++ c.space, openBrace, "    internal static unsafe class " ++ c.className,
            "    " ++ openBrace] ++
          body.map ("        " ++ ·) ++ ["    " ++ closeBrace, closeBrace] ∧
      (∀ c' imports' body',
        (staticClass c imports body).lines = (staticClass c' imports' body').lines ↔
          c = c' ∧ imports = imports' ∧ body = body') ∧
      (OneLine c imports body → ∀ c' imports' body', OneLine c' imports' body' →
        ((staticClass c imports body).render = (staticClass c' imports' body').render ↔
          c = c' ∧ imports = imports' ∧ body = body')) := by
  refine ⟨?_, fun _ _ _ => lines_staticClass_eq_iff, fun plain c' imports' body' plain' => ?_⟩
  · rw [lines_staticClass, usings_eq]
    simp
  · rw [Document.render_eq_unlines, Document.render_eq_unlines, ← lines_staticClass_eq_iff]
    exact ⟨Text.unlines_injective plain.lines plain'.lines, congrArg Text.unlines⟩

-- A body may look like the file around it.
theorem class_told_from_nested_headline :
    let c : Container := ⟨"N", "c"⟩
    let body := [closeBrace, "", "namespace N", openBrace]
    OneLine c ["System"] body ∧ OneLine c ["System", "N"] body.tail ∧
      (staticClass c ["System"] body).render ≠
        (staticClass c ["System", "N"] body.tail).render := by
  intro c body
  have plain : OneLine c ["System"] body := by constructor <;> simp [c, body]
  have plain' : OneLine c ["System", "N"] body.tail := by constructor <;> simp [c, body]
  have told := (lines_determine_class c ["System"] body).2.2 plain c _ _ plain'
  exact ⟨plain, plain', fun same => by simpa using (told.1 same).2.1⟩

end Writer

end Recast
