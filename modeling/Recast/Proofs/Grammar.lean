import Recast.Emission
import Recast.Proofs.Scanning

set_option autoImplicit false

namespace Recast

open Text (openBrace closeBrace)

def Dialect.Unclaimed (d : Dialect) (line : String) : Prop :=
  ¬ Text.contains line "/*" ∧ ¬ d.declaration.opensFunction line ∧ ¬ d.opensBlock line

-- Passages are listed in order of precedence: a line that could start several starts the first.
inductive Passage (d : Dialect) where
  | comment (line : String) (opens : Text.contains line "/*") (closes : Text.contains line "*/")
  | longComment (first : String) (inner : List String) (last : String)
      (opens : Text.contains first "/*") (goesOn : ¬ Text.contains first "*/")
      (stays : ∀ line ∈ inner, ¬ Text.contains line "*/") (closes : Text.contains last "*/")
  | function (header : String) (inner : List String) (bare : ¬ Text.contains header "/*")
      (declares : d.declaration.opensFunction header) (stays : ∀ line ∈ inner, line ≠ closeBrace)
  | conditional (first : String) (inner : List String) (last : String)
      (bare : ¬ Text.contains first "/*") (undeclared : ¬ d.declaration.opensFunction first)
      (opens : d.opensBlock first) (stays : ∀ line ∈ inner, ¬ d.closesBlock line)
      (closes : d.closesBlock last)
  | inclusion (line : String) (unclaimed : d.Unclaimed line)
      (starts : Text.startsWith line "#include")
  | blank (unclaimed : d.Unclaimed "")

namespace Passage

variable {d : Dialect}

def lines : Passage d → List String
  | .comment line .. => [line]
  | .longComment first inner last .. => first :: inner ++ [last]
  | .function header inner .. => header :: inner ++ [closeBrace]
  | .conditional first inner last .. => first :: inner ++ [last]
  | .inclusion line .. => [line]
  | .blank .. => [""]

def bodyTag (line : String) : Tag :=
  if line = openBrace then .opening else .body

def tags : Passage d → List Tag
  | .comment .. => [.comment]
  | .longComment _ inner .. => List.replicate (inner.length + 2) .plain
  | .function _ inner .. => .header :: inner.map bodyTag ++ [.closing]
  | .conditional _ inner .. => List.replicate (inner.length + 2) .conditional
  | .inclusion .. => [.inclusion]
  | .blank .. => [.plain]

end Passage

-- The lines of a passage as a scanner meets them: it is outside every region before the first and
-- after the last, and nowhere in between.
inductive Dialect.Spans (d : Dialect) : List String → List Tag → Prop where
  | single {line : String} {tag : Tag} (known : d.outside? line = some (tag, none)) :
      Spans d [line] [tag]
  | region {first last : String} {inner : List String} {tag : Tag} {r : Region}
      (known : d.outside? first = some (tag, some r))
      (stays : ∀ line ∈ inner, (d.inside line r).2 = false) (ends : (d.inside last r).2 = true) :
      Spans d (first :: inner ++ [last])
        (tag :: (inner ++ [last]).map fun line => (d.inside line r).1)

namespace Dialect.Spans

variable {d : Dialect} {lines : List String} {tags : List Tag}

theorem accepts {n : Nat} {rest : List String} {following : List Tag} (spans : d.Spans lines tags)
    (further : Scanner.Accepts d ⟨n + lines.length, none⟩ rest following) :
    Scanner.Accepts d ⟨n, none⟩ (lines ++ rest) (tags ++ following) := by
  cases spans with
  | single known => exact .outside known further
  | @region first last inner tag r known stays ends =>
    apply Scanner.Accepts.outside known
    rw [add_length_region] at further
    simpa using Scanner.Accepts.of_region (o := ⟨r, n + 1, first⟩) stays ends further

theorem exists_of_accepts {n : Nat} {line : String} {rest : List String}
    (accepts : Scanner.Accepts d ⟨n, none⟩ (line :: rest) tags) :
    ∃ passed found remaining following, d.Spans passed found ∧ line :: rest = passed ++ remaining ∧
      tags = found ++ following ∧
      Scanner.Accepts d ⟨n + passed.length, none⟩ remaining following := by
  cases accepts with
  | @outside _ _ tag entered _ following known next =>
    cases entered with
    | none => exact ⟨[line], [tag], rest, following, .single known, rfl, rfl, next⟩
    | some r =>
      obtain ⟨inner, last, remaining, following, rfl, stays, ends, rfl, further⟩ :=
        next.region_closes
      refine ⟨_, _, remaining, following, .region known stays ends, by simp, by simp, ?_⟩
      rwa [add_length_region]

-- A line that closes a region is told from the lines before it, so a passage ends where it must.
theorem append_inj {other : List String} {others : List Tag} {rest remaining : List String}
    (spans : d.Spans lines tags) (spans' : d.Spans other others)
    (same : lines ++ rest = other ++ remaining) :
    lines = other ∧ tags = others ∧ rest = remaining := by
  cases spans with
  | single known =>
    cases spans' with
    | single known' => simp_all
    | region known' stays' ends' => simp_all
  | @region first last inner tag r known stays ends =>
    cases spans' with
    | single known' => simp_all
    | @region first' last' inner' tag' r' known' stays' ends' =>
      simp only [List.cons_append, List.append_assoc, List.nil_append, List.cons.injEq] at same
      obtain ⟨rfl, same⟩ := same
      obtain ⟨rfl, rfl⟩ : tag = tag' ∧ r = r' := by simpa [known] using known'
      -- Both regions are of the same kind, so the same lines close them.
      obtain ⟨rfl, rfl, rfl⟩ :=
        append_cons_unique (p := fun line => (d.inside line r).2) stays ends stays' ends' same
      simp

end Dialect.Spans

namespace Passage

variable {d : Dialect}

theorem inside_function {line : String} (other : line ≠ closeBrace) :
    d.inside line .function = (bodyTag line, false) := by
  by_cases brace : line = openBrace <;> simp [Dialect.inside, bodyTag, brace, other]

theorem closes_function_iff {line : String} :
    (d.inside line .function).2 = true ↔ line = closeBrace := by
  by_cases same : line = closeBrace
  · simp [Dialect.inside, same]
  · simp [inside_function, same]

theorem tags_longComment (inner : List String) (last : String) :
    List.replicate (inner.length + 2) .plain =
      Tag.plain :: (inner ++ [last]).map fun line => (d.inside line .comment).1 := by
  simp [Dialect.inside, List.replicate_succ, ← List.replicate_succ']

theorem tags_conditional (inner : List String) (last : String) :
    List.replicate (inner.length + 2) .conditional =
      Tag.conditional :: (inner ++ [last]).map fun line => (d.inside line .conditional).1 := by
  simp [Dialect.inside, List.replicate_succ, ← List.replicate_succ']

theorem tags_function {inner : List String} (stays : ∀ line ∈ inner, line ≠ closeBrace) :
    .header :: inner.map bodyTag ++ [.closing] =
      Tag.header :: (inner ++ [closeBrace]).map fun line => (d.inside line .function).1 := by
  have mapped : inner.map (fun line => (d.inside line .function).1) = inner.map bodyTag :=
    List.map_congr_left fun line member => by rw [inside_function (stays line member)]
  rw [List.map_append, mapped]
  simp [Dialect.inside]

theorem spans (p : Passage d) : d.Spans p.lines p.tags := by
  cases p with
  | comment line opens closes => exact .single (by simp [Dialect.outside?, opens, closes])
  | longComment first inner last opens goesOn stays closes =>
    have known : d.outside? first = some (.plain, some .comment) := by
      simp [Dialect.outside?, opens, goesOn]
    rw [tags, tags_longComment inner last]
    exact .region known (by simpa [Dialect.inside] using stays) closes
  | function header inner bare declares stays =>
    have known : d.outside? header = some (.header, some .function) := by
      simp [Dialect.outside?, bare, declares]
    rw [tags, tags_function stays]
    exact .region known (fun line member => by rw [inside_function (stays line member)])
      (closes_function_iff.2 rfl)
  | conditional first inner last bare undeclared opens stays closes =>
    have known : d.outside? first = some (.conditional, some .conditional) := by
      simp [Dialect.outside?, bare, undeclared, opens]
    rw [tags, tags_conditional inner last]
    exact .region known (by simpa [Dialect.inside] using stays) closes
  | inclusion line unclaimed starts =>
    obtain ⟨bare, undeclared, unopened⟩ := unclaimed
    exact .single (by simp [Dialect.outside?, bare, undeclared, unopened, starts])
  | blank unclaimed =>
    obtain ⟨bare, undeclared, unopened⟩ := unclaimed
    have other : ¬ Text.startsWith "" "#include" := by decide
    exact .single (by simp [Dialect.outside?, bare, undeclared, unopened, other])

theorem exists_of_spans {passed : List String} {found : List Tag} (spans : d.Spans passed found) :
    ∃ p : Passage d, p.lines = passed ∧ p.tags = found := by
  cases spans with
  | @single line tag known =>
    simp only [Dialect.outside?] at known
    split_ifs at known with opens closes declares begins starts empty <;> cases known
    · exact ⟨.comment line opens closes, rfl, rfl⟩
    · exact ⟨.inclusion line ⟨opens, declares, begins⟩ starts, rfl, rfl⟩
    · subst empty
      exact ⟨.blank ⟨opens, declares, begins⟩, rfl, rfl⟩
  | @region first last inner tag r known stays ends =>
    simp only [Dialect.outside?] at known
    split_ifs at known with opens closes declares begins <;> cases known
    · have goesOn : ∀ line ∈ inner, ¬ Text.contains line "*/" := by
        simpa [Dialect.inside] using stays
      exact ⟨.longComment first inner last opens closes goesOn ends, rfl,
        tags_longComment inner last⟩
    · have goesOn : ∀ line ∈ inner, line ≠ closeBrace := by
        intro line member same
        rw [← closes_function_iff (d := d), stays line member] at same
        cases same
      obtain rfl := closes_function_iff.1 ends
      exact ⟨.function first inner opens declares goesOn, rfl, tags_function goesOn⟩
    · have goesOn : ∀ line ∈ inner, ¬ d.closesBlock line := by
        simpa [Dialect.inside] using stays
      exact ⟨.conditional first inner last opens declares begins goesOn ends, rfl,
        tags_conditional inner last⟩

-- The tags tell the kinds of passages apart; a blank line and a comment, plain both, by their
-- number.
theorem eq_of_lines_eq {p q : Passage d} (same : p.lines = q.lines) (tagged : p.tags = q.tags) :
    p = q := by
  cases p with
  | comment => cases q <;> simp_all [lines, tags]
  | longComment => cases q <;> simp_all [lines, tags, List.replicate_succ]
  | function => cases q <;> simp_all [lines, tags, List.replicate_succ]
  | conditional => cases q <;> simp_all [lines, tags, List.replicate_succ]
  | inclusion => cases q <;> simp_all [lines, tags]
  | blank => cases q <;> simp_all [lines, tags]

theorem lines_ne_nil (p : Passage d) : p.lines ≠ [] := by
  cases p <;> simp [lines]

theorem lines_append_inj {p q : Passage d} {rest remaining : List String}
    (same : p.lines ++ rest = q.lines ++ remaining) : p = q ∧ rest = remaining := by
  obtain ⟨sameLines, sameTags, sameRest⟩ := p.spans.append_inj q.spans same
  exact ⟨eq_of_lines_eq sameLines sameTags, sameRest⟩

theorem flatMap_lines_injective (file other : List (Passage d))
    (same : file.flatMap lines = other.flatMap lines) : file = other := by
  induction file generalizing other with
  | nil =>
    cases other with
    | nil => rfl
    | cons q other => simp [q.lines_ne_nil] at same
  | cons p file ih =>
    cases other with
    | nil => simp [p.lines_ne_nil] at same
    | cons q other =>
      simp only [List.flatMap_cons] at same
      obtain ⟨rfl, rest⟩ := lines_append_inj same
      rw [ih other rest]

theorem accepts_flatMap (file : List (Passage d)) (n : Nat) :
    Scanner.Accepts d ⟨n, none⟩ (file.flatMap lines) (file.flatMap tags) := by
  induction file generalizing n with
  | nil => exact .finish n
  | cons p file ih => exact p.spans.accepts (ih _)

theorem exists_of_accepts {n : Nat} {text : List String} {found : List Tag}
    (accepts : Scanner.Accepts d ⟨n, none⟩ text found) :
    ∃ file : List (Passage d), file.flatMap lines = text ∧ file.flatMap tags = found := by
  -- Passages differ in length, so the induction is on how many lines are left.
  induction size : text.length using Nat.strongRecOn generalizing n text found with
  | _ count ih =>
    cases text with
    | nil =>
      cases accepts
      exact ⟨[], rfl, rfl⟩
    | cons line rest =>
      obtain ⟨passed, tagged, remaining, following, spans, split, rfl, further⟩ :=
        Dialect.Spans.exists_of_accepts accepts
      obtain ⟨p, rfl, rfl⟩ := exists_of_spans spans
      rw [split] at size ⊢
      have positive := List.length_pos_iff.2 p.lines_ne_nil
      have shorter : remaining.length < count := by
        rw [← size, List.length_append]
        omega
      obtain ⟨file, rfl, rfl⟩ := ih _ shorter further rfl
      exact ⟨p :: file, rfl, rfl⟩

end Passage

namespace Dialect

/-- A file is accepted with the tags of its passages if it is a sequence of passages, and refused if
it is none. It is such a sequence in one way only, and every line of it has a tag. -/
theorem scan_eq_ok_iff_passages (d : Dialect) (lines : List String) (tags : List Tag) :
    (d.scan lines = .ok tags ↔ ∃ file : List (Passage d),
      file.flatMap Passage.lines = lines ∧ file.flatMap Passage.tags = tags) ∧
    (∀ file other : List (Passage d), file.flatMap Passage.lines = lines →
      other.flatMap Passage.lines = lines → file = other) ∧
    (d.scan lines = .ok tags →
      tags.length = lines.length ∧ d.emitChecked lines tags = .ok (d.emit lines tags)) := by
  refine ⟨⟨?_, ?_⟩, ?_, ?_⟩
  · intro accepted
    exact Passage.exists_of_accepts (scan_eq_ok_iff.1 accepted)
  · rintro ⟨file, rfl, rfl⟩
    exact scan_eq_ok_iff.2 (Passage.accepts_flatMap file 0)
  · intro file other parsed parsed'
    exact Passage.flatMap_lines_injective file other (parsed.trans parsed'.symm)
  · intro accepted
    have same := length_of_scan accepted
    exact ⟨same, by simp [emitChecked, same]⟩

end Dialect

end Recast
