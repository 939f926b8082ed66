import Recast.Dialect.Builtin
import Recast.Proofs.Matching

set_option autoImplicit false

namespace Recast

namespace Pattern

variable {e : Expr} {front w back : List Char} {c : Char}

def Expr.spelled (text : List Char) (next : Expr) : Expr :=
  text.foldr (fun c e => .seq (.one (.single c)) e) next

def CharSet.inLine : CharSet :=
  .complement (.single '\n')

theorem contains_single {x : Char} : (CharSet.single c).contains x ↔ x = c := by
  simp only [CharSet.single, CharSet.contains, Bool.and_eq_true, decide_eq_true_eq]
  constructor
  · rintro ⟨low, high⟩
    exact Char.le_antisymm high low
  · rintro rfl
    exact ⟨Char.le_refl x, Char.le_refl x⟩

theorem contains_inLine {x : Char} : CharSet.inLine.contains x ↔ x ≠ '\n' := by
  have differs := not_congr (contains_single (c := '\n') (x := x))
  simpa [CharSet.inLine, CharSet.contains] using differs

theorem matches_single_iff : Matches (.one (.single c)) front w back ↔ w = [c] := by
  simp [matches_one_iff, contains_single]

theorem matches_spelled_iff {text : List Char} :
    Matches (.spelled text e) front w back ↔
      ∃ rest, w = text ++ rest ∧ Matches e (front ++ text) rest back := by
  induction text generalizing front w with
  | nil => simp [Expr.spelled]
  | cons c text ih =>
    have step : Expr.spelled (c :: text) e = .seq (.one (.single c)) (.spelled text e) := rfl
    simp [step, matches_seq_iff, matches_single_iff, ih]

-- As many characters of the set as there are, but not fewer than `least`.
theorem matches_stretch_iff {least : Nat} {s : CharSet} :
    Matches (.rep least none (.one s)) front w back ↔
      least ≤ w.length ∧ ∀ c ∈ w, s.contains c := by
  induction w generalizing least front with
  | nil => simp [← nullable_iff, Expr.nullable]
  | cons c u ih =>
    have left : Expr.rounds false (.one s) least none = [.rep (least - 1) none (.one s)] := by
      cases least <;> rfl
    have step : Matches (.rep least none (.one s)) front (c :: u) back ↔
        s.contains c ∧ Matches (.rep (least - 1) none (.one s)) (front ++ [c]) u back := by
      rw [matches_rep_cons_iff, Expr.nullable, left]
      simp [Takes, matches_one_iff]
    rw [step, ih, List.length_cons, List.forall_mem_cons, Nat.sub_le_iff_le_add]
    exact and_left_comm

theorem forall_inLine_iff : (∀ c ∈ w, CharSet.inLine.contains c) ↔ '\n' ∉ w := by
  simp only [contains_inLine]
  refine ⟨fun differs member => differs _ member rfl, ?_⟩
  rintro absent c member rfl
  exact absent member

theorem matches_inLine_iff :
    Matches (.rep 0 none (.one .inLine)) front w back ↔ '\n' ∉ w := by
  simp [matches_stretch_iff, forall_inLine_iff]

theorem matches_inLine_ne_iff :
    Matches (.rep 1 none (.one .inLine)) front w back ↔ w ≠ [] ∧ '\n' ∉ w := by
  rw [matches_stretch_iff, forall_inLine_iff, Nat.one_le_iff_ne_zero, ne_eq,
    List.length_eq_zero_iff]

end Pattern

namespace Dialect

open Pattern

variable {front w back : List Char}

def resultExpr : Expr :=
  .alt (.spelled "in".toList (.one (.single 't'))) (.spelled "voi".toList (.one (.single 'd')))

def declarationExpr : Expr :=
  .seq (.rep 0 none (.one .blank)) (.seq resultExpr (.seq (.one .blank)
    (.seq (.rep 1 none (.one .inLine))
      (.spelled ['('] (.seq (.rep 0 none (.one .inLine)) (.one (.single ')')))))))

def openingExpr : Expr :=
  .spelled "#ifdef".toList (.seq (.one .blank) (.rep 1 none (.one .inLine)))

def closingExpr : Expr :=
  .spelled "#endif /*".toList
    (.seq (.rep 1 none (.one .inLine)) (.spelled ['*'] (.one (.single '/'))))

theorem fftsg_declaration : ∃ source, fftsg.declaration = .pattern ⟨source, declarationExpr⟩ :=
  ⟨_, rfl⟩

theorem fftsg_conditional : ∃ first last, fftsg.conditional =
    some ⟨⟨first, openingExpr⟩, ⟨last, closingExpr⟩, true⟩ :=
  ⟨_, _, rfl⟩

theorem matches_openingExpr_iff :
    Matches openingExpr front w back ↔ ∃ blank text, w = "#ifdef".toList ++ blank :: text ∧
      Text.isBlank blank ∧ text ≠ [] ∧ '\n' ∉ text := by
  simp only [openingExpr, matches_spelled_iff, matches_seq_iff, matches_inLine_ne_iff,
    matches_one_iff, CharSet.contains]
  constructor
  · rintro ⟨_, rfl, _, text, rfl, ⟨blank, isBlank, rfl⟩, long, inLine⟩
    exact ⟨blank, text, rfl, isBlank, long, inLine⟩
  · rintro ⟨blank, text, rfl, isBlank, long, inLine⟩
    exact ⟨_, rfl, [blank], text, rfl, ⟨blank, isBlank, rfl⟩, long, inLine⟩

theorem matches_closingExpr_iff :
    Matches closingExpr front w back ↔ ∃ text, w = "#endif /*".toList ++ text ++ "*/".toList ∧
      text ≠ [] ∧ '\n' ∉ text := by
  simp only [closingExpr, matches_spelled_iff, matches_seq_iff, matches_single_iff,
    matches_inLine_ne_iff]
  constructor
  · rintro ⟨_, rfl, text, _, rfl, ⟨long, inLine⟩, _, rfl, rfl⟩
    exact ⟨text, (List.append_assoc _ _ _).symm, long, inLine⟩
  · rintro ⟨text, rfl, long, inLine⟩
    exact ⟨_, List.append_assoc _ _ _, text, _, rfl, ⟨long, inLine⟩, ['/'], rfl, rfl⟩

theorem matches_resultExpr_iff :
    Matches resultExpr front w back ↔ w = "int".toList ∨ w = "void".toList := by
  simp only [resultExpr, matches_alt_iff, matches_spelled_iff, matches_single_iff]
  constructor
  · rintro (⟨_, rfl, rfl⟩ | ⟨_, rfl, rfl⟩)
    · exact .inl rfl
    · exact .inr rfl
  · rintro (rfl | rfl)
    · exact .inl ⟨_, rfl, rfl⟩
    · exact .inr ⟨_, rfl, rfl⟩

theorem matches_declarationExpr_iff :
    Matches declarationExpr front w back ↔ ∃ margin word blank name arguments,
      w = margin ++ (word ++ blank :: (name ++ '(' :: (arguments ++ [')']))) ∧
        (∀ c ∈ margin, Text.isBlank c) ∧ (word = "int".toList ∨ word = "void".toList) ∧
        Text.isBlank blank ∧ name ≠ [] ∧ '\n' ∉ name ∧ '\n' ∉ arguments := by
  simp only [declarationExpr, matches_spelled_iff, matches_seq_iff, matches_single_iff,
    matches_resultExpr_iff, matches_inLine_ne_iff, matches_inLine_iff]
  simp only [matches_one_iff, matches_stretch_iff, CharSet.contains]
  constructor
  · rintro ⟨margin, _, rfl, ⟨-, blanks⟩, word, _, rfl, result, _, _, rfl, ⟨blank, isBlank, rfl⟩,
      name, _, rfl, ⟨long, inLine⟩, _, rfl, arguments, _, rfl, inLine', rfl⟩
    exact ⟨margin, word, blank, name, arguments, rfl, blanks, result, isBlank, long, inLine,
      inLine'⟩
  · rintro ⟨margin, word, blank, name, arguments, rfl, blanks, result, isBlank, long, inLine,
      inLine'⟩
    exact ⟨margin, _, rfl, ⟨Nat.zero_le _, blanks⟩, word, _, rfl, result, [blank], _, rfl,
      ⟨blank, isBlank, rfl⟩, name, _, rfl, ⟨long, inLine⟩, _, rfl, arguments, _, rfl,
      inLine', rfl⟩

def Declares (line : String) : Prop :=
  ∃ before word name arguments after : String, ∃ blank : Char,
    line = before ++ word ++ String.singleton blank ++ name ++ "(" ++ arguments ++ ")" ++ after ∧
      (word = "int" ∨ word = "void") ∧ Text.isBlank blank ∧ name ≠ "" ∧ '\n' ∉ name.toList ∧
      '\n' ∉ arguments.toList

def StartsBlock (line : String) : Prop :=
  ∃ before after : String, ∃ blank c : Char,
    line = before ++ "#ifdef" ++ String.singleton blank ++ String.singleton c ++ after ∧
      Text.isBlank blank ∧ c ≠ '\n'

def EndsBlock (line : String) : Prop :=
  ∃ before text after : String,
    line = before ++ "#endif /*" ++ text ++ "*/" ++ after ∧ text ≠ "" ∧ '\n' ∉ text.toList

theorem occursIn_declarationExpr_iff {line : String} :
    declarationExpr.occursIn line.toList ↔ Declares line := by
  simp only [occursIn_iff, matches_declarationExpr_iff]
  constructor
  · rintro ⟨front, _, back, split, margin, word, blank, name, arguments, rfl, -, result, isBlank,
      long, inLine, inLine'⟩
    refine ⟨.ofList (front ++ margin), .ofList word, .ofList name, .ofList arguments, .ofList back,
      blank, ?_, ?_, isBlank, ?_, ?_, ?_⟩
    · apply String.toList_inj.1
      simp [split]
    · rcases result with rfl | rfl <;> simp
    · simpa using long
    · simpa using inLine
    · simpa using inLine'
  · rintro ⟨before, word, name, arguments, after, blank, rfl, result, isBlank, long, inLine,
      inLine'⟩
    refine ⟨before.toList, _, after.toList, ?_, [], word.toList, blank, name.toList,
      arguments.toList, rfl, by simp, ?_, isBlank, ?_, inLine, inLine'⟩
    · simp
    · simpa only [String.toList_inj] using result
    · simpa using long

theorem occursIn_openingExpr_iff {line : String} :
    openingExpr.occursIn line.toList ↔ StartsBlock line := by
  simp only [occursIn_iff, matches_openingExpr_iff]
  constructor
  · rintro ⟨front, _, back, split, blank, text, rfl, isBlank, long, inLine⟩
    obtain ⟨c, rest, rfl⟩ := List.exists_cons_of_ne_nil long
    refine ⟨.ofList front, .ofList (rest ++ back), blank, c, ?_, isBlank, ?_⟩
    · apply String.toList_inj.1
      simp [split]
    · rintro rfl
      simp at inLine
  · rintro ⟨before, after, blank, c, rfl, isBlank, inLine⟩
    refine ⟨before.toList, _, after.toList, ?_, blank, [c], rfl, isBlank, by simp, ?_⟩
    · simp
    · simpa using inLine.symm

theorem occursIn_closingExpr_iff {line : String} :
    closingExpr.occursIn line.toList ↔ EndsBlock line := by
  simp only [occursIn_iff, matches_closingExpr_iff]
  constructor
  · rintro ⟨front, _, back, split, text, rfl, long, inLine⟩
    refine ⟨.ofList front, .ofList text, .ofList back, ?_, ?_, ?_⟩
    · apply String.toList_inj.1
      simp [split]
    · simpa using long
    · simpa using inLine
  · rintro ⟨before, text, after, rfl, long, inLine⟩
    refine ⟨before.toList, _, after.toList, ?_, text.toList, rfl, ?_, inLine⟩
    · simp
    · simpa using long

/-- The patterns of `fftsg` recognize the lines that they are meant for and no others: a
declaration, at the top level and inside functions alike, and the first and the last line of a
conditional block. -/
theorem fftsg_recognizes_exactly (line : String) :
    (fftsg.declaration.opensFunction line ↔ Declares line) ∧
      (fftsg.declaration.isForward line ↔ Declares line) ∧
      (fftsg.opensBlock line ↔ StartsBlock line) ∧ (fftsg.closesBlock line ↔ EndsBlock line) ∧
      (fftsg.opensBodyBlock line ↔ StartsBlock line) ∧
      (fftsg.closesBodyBlock line ↔ EndsBlock line) := by
  obtain ⟨source, declaration⟩ := fftsg_declaration
  obtain ⟨first, last, conditional⟩ := fftsg_conditional
  simp only [opensBlock, closesBlock, opensBodyBlock, closesBodyBlock, bodyConditional, declaration,
    conditional]
  exact ⟨occursIn_declarationExpr_iff, occursIn_declarationExpr_iff, occursIn_openingExpr_iff,
    occursIn_closingExpr_iff, occursIn_openingExpr_iff, occursIn_closingExpr_iff⟩

end Dialect

end Recast
