import Mathlib.Data.List.Induction
import Recast.Proofs.Outcomes

set_option autoImplicit false

namespace Recast.Text

def ended (lines : List (List Char)) : List Char :=
  lines.flatMap (· ++ ['\n'])

def withoutReturn (line : List Char) : List Char :=
  (dropReturn line.reverse).reverse

-- A text whose newlines have lost the carriage return before them.
def bareEnds : List Char → List Char
  | '\r' :: '\n' :: rest => '\n' :: bareEnds rest
  | c :: rest => c :: bareEnds rest
  | [] => []

-- What the last line still needs.
def finalEnd (text : List Char) : List Char :=
  if text = [] ∨ text.getLast? = some '\n' then [] else ['\n']

-- Nothing in the line is taken for its end.
def Sealed (line : List Char) : Prop :=
  '\n' ∉ line ∧ line.getLast? ≠ some '\r'

section Characters

variable {line tail : List Char} {lines : List (List Char)}

@[simp]
theorem ended_nil : ended [] = [] :=
  rfl

@[simp]
theorem ended_cons (line : List Char) (rest : List (List Char)) :
    ended (line :: rest) = line ++ '\n' :: ended rest := by
  simp [ended]

theorem withoutReturn_concat (front : List Char) (c : Char) :
    withoutReturn (front ++ [c]) = if c = '\r' then front else front ++ [c] := by
  by_cases same : c = '\r' <;> simp [withoutReturn, dropReturn, same]

theorem withoutReturn_eq_self_iff : withoutReturn line = line ↔ line.getLast? ≠ some '\r' := by
  cases line using List.reverseRecOn with
  | nil => simp [withoutReturn, dropReturn]
  | append_singleton front c => by_cases same : c = '\r' <;> simp [withoutReturn_concat, same]

theorem withoutReturn_cons (c : Char) (more : line ≠ []) :
    withoutReturn (c :: line) = c :: withoutReturn line := by
  cases line using List.reverseRecOn with
  | nil => exact absurd rfl more
  | append_singleton front last =>
    rw [← List.cons_append, withoutReturn_concat, withoutReturn_concat]
    split_ifs <;> rfl

theorem mem_of_mem_withoutReturn {c : Char} (member : c ∈ withoutReturn line) : c ∈ line := by
  cases line using List.reverseRecOn with
  | nil => exact member
  | append_singleton front last =>
    rw [withoutReturn_concat] at member
    split_ifs at member
    · exact List.mem_append_left _ member
    · exact member

theorem splitAfter_line {body : List Char} (inner : '\n' ∉ body) (line rest : List Char) :
    splitAfter line (body ++ '\n' :: rest) =
      (dropReturn (body.reverse ++ line)).reverse :: splitAfter [] rest := by
  induction body generalizing line with
  | nil => simp [splitAfter]
  | cons c body ih =>
    obtain ⟨first, others⟩ := List.ne_and_not_mem_of_not_mem_cons inner
    simp [splitAfter, ih others, Ne.symm first]

theorem splitAfter_tail (inner : '\n' ∉ tail) (line : List Char) :
    splitAfter line tail = if line = [] ∧ tail = [] then [] else [line.reverse ++ tail] := by
  induction tail generalizing line with
  | nil => cases line <;> simp [splitAfter]
  | cons c tail ih =>
    obtain ⟨first, others⟩ := List.ne_and_not_mem_of_not_mem_cons inner
    simp [splitAfter, ih others, Ne.symm first]

-- Every text is made of lines with their newlines and of a rest without one.
theorem exists_ended (text : List Char) :
    ∃ lines tail, (∀ line ∈ lines, '\n' ∉ line) ∧ '\n' ∉ tail ∧ text = ended lines ++ tail := by
  induction text with
  | nil => exact ⟨[], [], by simp, by simp, rfl⟩
  | cons c rest ih =>
    obtain ⟨lines, tail, inner, unended, rfl⟩ := ih
    by_cases newline : c = '\n'
    · exact ⟨[] :: lines, tail, by simpa using inner, unended, by simp [newline]⟩
    · cases lines with
      | nil => exact ⟨[], c :: tail, inner, by simp [unended, Ne.symm newline], rfl⟩
      | cons line lines =>
        obtain ⟨first, others⟩ := List.forall_mem_cons.1 inner
        refine ⟨(c :: line) :: lines, tail, List.forall_mem_cons.2 ⟨?_, others⟩, unended, by simp⟩
        simp [first, Ne.symm newline]

theorem splitAfter_ended (inner : ∀ line ∈ lines, '\n' ∉ line) (unended : '\n' ∉ tail) :
    splitAfter [] (ended lines ++ tail) =
      lines.map withoutReturn ++ if tail = [] then [] else [tail] := by
  induction lines with
  | nil => simpa using splitAfter_tail unended []
  | cons line rest ih =>
    obtain ⟨first, others⟩ := List.forall_mem_cons.1 inner
    simp [splitAfter_line first, ih others, withoutReturn]

theorem newline_not_mem_of_splitAfter {text : List Char} (member : line ∈ splitAfter [] text) :
    '\n' ∉ line := by
  obtain ⟨lines, tail, inner, unended, rfl⟩ := exists_ended text
  rw [splitAfter_ended inner unended] at member
  rcases List.mem_append.1 member with read | last
  · obtain ⟨source, listed, rfl⟩ := List.mem_map.1 read
    exact fun newline => inner source listed (mem_of_mem_withoutReturn newline)
  · split_ifs at last
    · cases last
    · obtain rfl := List.mem_singleton.1 last
      exact unended

theorem splitAfter_ended_eq_iff :
    splitAfter [] (ended lines) = lines ↔ ∀ line ∈ lines, Sealed line := by
  have read (inner : ∀ line ∈ lines, '\n' ∉ line) :
      splitAfter [] (ended lines) = lines.map withoutReturn := by
    simpa using splitAfter_ended inner List.not_mem_nil
  have kept : lines.map withoutReturn = lines ↔ ∀ line ∈ lines, withoutReturn line = line := by
    simpa using List.map_inj_left (f := withoutReturn) (g := id) (l := lines)
  constructor
  · intro same line member
    -- What is read never holds a newline, so nothing that comes back unchanged did.
    have inner : ∀ line ∈ lines, '\n' ∉ line := by
      intro line member
      rw [← same] at member
      exact newline_not_mem_of_splitAfter member
    rw [read inner] at same
    exact ⟨inner line member, withoutReturn_eq_self_iff.1 (kept.1 same line member)⟩
  · intro fit
    rw [read fun line member => (fit line member).1]
    exact kept.2 fun line member => withoutReturn_eq_self_iff.2 (fit line member).2

theorem bareEnds_cons {c : Char} {rest : List Char} (other : rest.head? ≠ some '\n') :
    bareEnds (c :: rest) = c :: bareEnds rest := by
  cases rest with
  | nil => simp [bareEnds]
  | cons next more =>
    have kept : next ≠ '\n' := by simpa using other
    simp [bareEnds, kept]

theorem bareEnds_tail (unended : '\n' ∉ tail) : bareEnds tail = tail := by
  induction tail with
  | nil => rfl
  | cons c rest ih =>
    obtain ⟨-, others⟩ := List.ne_and_not_mem_of_not_mem_cons unended
    rw [bareEnds_cons fun first => others (List.mem_of_head? first), ih others]

theorem bareEnds_line (inner : '\n' ∉ line) (rest : List Char) :
    bareEnds (line ++ '\n' :: rest) = withoutReturn line ++ '\n' :: bareEnds rest := by
  induction line with
  | nil => simp [bareEnds, withoutReturn, dropReturn]
  | cons c line ih =>
    obtain ⟨-, others⟩ := List.ne_and_not_mem_of_not_mem_cons inner
    -- Only the last character of the line has the newline after it.
    cases line with
    | nil => by_cases carriage : c = '\r' <;> simp [bareEnds, withoutReturn, dropReturn, carriage]
    | cons next more =>
      have other : (next :: more ++ '\n' :: rest).head? ≠ some '\n' := by
        rintro ⟨⟩
        exact others List.mem_cons_self
      rw [List.cons_append, bareEnds_cons other, ih others, withoutReturn_cons c (by simp)]
      rfl

theorem finalEnd_append (front tail : List Char) :
    finalEnd (front ++ '\n' :: tail) = finalEnd tail := by
  cases tail using List.reverseRecOn with
  | nil => simp [finalEnd]
  | append_singleton rest last =>
    have ending : (front ++ '\n' :: (rest ++ [last])).getLast? = some last := by
      rw [← List.cons_append, ← List.append_assoc, List.getLast?_concat]
    simp [finalEnd, ending]

theorem finalEnd_tail (unended : '\n' ∉ tail) :
    finalEnd tail = if tail = [] then [] else ['\n'] := by
  have last : tail.getLast? ≠ some '\n' := fun same => unended (List.mem_of_getLast? same)
  simp [finalEnd, last]

theorem ended_splitAfter (text : List Char) :
    ended (splitAfter [] text) = bareEnds text ++ finalEnd text := by
  obtain ⟨lines, tail, inner, unended, rfl⟩ := exists_ended text
  rw [splitAfter_ended inner unended]
  induction lines with
  | nil =>
    rw [ended_nil, List.nil_append, bareEnds_tail unended, finalEnd_tail unended]
    split_ifs with none
    · simp [none]
    · simp
  | cons line rest ih =>
    obtain ⟨first, others⟩ := List.forall_mem_cons.1 inner
    simp [bareEnds_line first, finalEnd_append, ih others]

end Characters

theorem toList_unlines (lines : List String) :
    (unlines lines).toList = ended (lines.map String.toList) := by
  simp [unlines, ended, String.toList_join, List.flatMap_map]

theorem lines_unlines_eq_iff {lines : List String} :
    Text.lines (unlines lines) = lines ↔ ∀ line ∈ lines, Sealed line.toList := by
  have back (read : List (List Char)) :
      read.map String.ofList = lines ↔ read = lines.map String.toList := by
    constructor
    · rintro rfl
      simp
    · rintro rfl
      simp
  rw [Text.lines, toList_unlines, back, splitAfter_ended_eq_iff]
  simp

theorem unlines_lines (source : String) :
    unlines (Text.lines source) =
      String.ofList (bareEnds source.toList ++ finalEnd source.toList) := by
  apply String.toList_injective
  simp [toList_unlines, Text.lines, ended_splitAfter]

end Recast.Text

namespace Recast.Session

open Text (Sealed bareEnds finalEnd)

theorem read_of_writeLines {t t' : FileTree} {path : Path} {lines : List String}
    (done : writeLines t path lines = .ok t') : t'.read path = .ok (Text.unlines lines).toUTF8 :=
  (FileTree.saved_of_write (Except.mapError_eq_ok_iff.1 done)).read_eq

theorem readLines_of_read {read : Reading} {path : Path} {source : String}
    (found : read path = .ok source.toUTF8) : readLines read path = .ok (Text.lines source) :=
  readLines_eq_ok_iff.2 ⟨source, found, rfl⟩

/-- A file of lines is read as the same lines just when none of them holds a newline or ends in a
carriage return. The lines of any text are written as that text with bare newlines, the last one
included. -/
theorem written_lines_read_back_iff (t : FileTree) (path : Path) :
    (∀ doc : Document, writeDocument t path doc = writeLines t path doc.lines ∧
        writeDocument t path doc = (t.write path doc.render.toUTF8).mapError (.unwritable path)) ∧
      (∀ lines t', writeLines t path lines = .ok t' →
        (∃ found, readLines t'.read path = .ok found) ∧
          (readLines t'.read path = .ok lines ↔ ∀ line ∈ lines, Sealed line.toList)) ∧
      ∀ source : String, t.read path = .ok source.toUTF8 →
        ∃ lines, readLines t.read path = .ok lines ∧
          ∀ target t', writeLines t target lines = .ok t' →
            t'.read target =
              .ok (String.ofList (bareEnds source.toList ++ finalEnd source.toList)).toUTF8 := by
  refine ⟨fun doc => ⟨rfl, writeDocument_eq t path doc⟩, fun lines t' done => ?_,
    fun source found => ?_⟩
  · have again := readLines_of_read (read_of_writeLines done)
    refine ⟨⟨_, again⟩, ?_⟩
    rw [again, Except.ok.injEq, Text.lines_unlines_eq_iff]
  · refine ⟨_, readLines_of_read found, fun target t' done => ?_⟩
    rw [read_of_writeLines done, Text.unlines_lines]

def mixedEnds : FileTree where
  entries := [(["a.c"], .file "x\r\r\ny\r".toUTF8)]
  here := []

theorem mixed_ends_read_back :
    (∃ t', writeLines mixedEnds ⟨"b.c"⟩ ["x", "\ry", ""] = .ok t' ∧
      readLines t'.read ⟨"b.c"⟩ = .ok ["x", "\ry", ""]) ∧
      ∃ lines t', readLines mixedEnds.read ⟨"a.c"⟩ = .ok lines ∧
        writeLines mixedEnds ⟨"b.c"⟩ lines = .ok t' ∧
        t'.read ⟨"b.c"⟩ = .ok "x\r\ny\r\n".toUTF8 := by
  have saved (lines : List String) : ∃ t', writeLines mixedEnds ⟨"b.c"⟩ lines = .ok t' := ⟨_, rfl⟩
  constructor
  · obtain ⟨t', done⟩ := saved ["x", "\ry", ""]
    have back := (written_lines_read_back_iff mixedEnds ⟨"b.c"⟩).2.1 _ t' done
    exact ⟨t', done, back.2.2 (by simp [Sealed])⟩
  · obtain ⟨lines, found, written⟩ :=
      (written_lines_read_back_iff mixedEnds ⟨"a.c"⟩).2.2 "x\r\r\ny\r" rfl
    obtain ⟨t', done⟩ := saved lines
    exact ⟨lines, t', found, done, written ⟨"b.c"⟩ t' done⟩

end Recast.Session
