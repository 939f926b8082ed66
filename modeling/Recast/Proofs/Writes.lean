import Recast.FileTree
import Recast.Proofs.Basics

set_option autoImplicit false

namespace Recast.FileTree

variable {t t' : FileTree} {k l m : Location} {name : String} {names : List String} {p : Path}
  {e : Entry} {content : ByteArray}

theorem hasDirectory_iff : t.hasDirectory l ↔ t.find? l = some .directory := by
  unfold hasDirectory
  cases t.find? l with
  | none => simp
  | some e => cases e <;> simp [Entry.isDirectory]

theorem ne_nil_of_find?_ne (free : t.find? l ≠ some .directory) : l ≠ [] := by
  rintro rfl
  exact free rfl

theorem find?_put_of_directory (free : t.find? l ≠ some .directory)
    (directory : t.find? k = some .directory) : (t.put l e).find? k = some .directory := by
  have other : k ≠ l := by
    rintro rfl
    exact free directory
  rw [find?_put_other t e other, directory]

theorem isSome_find?_put (free : t.find? l ≠ some .directory) (present : (t.find? k).isSome) :
    ((t.put l e).find? k).isSome := by
  by_cases same : k = l
  · subst same
    rw [find?_put_self t e (ne_nil_of_find?_ne free)]
    rfl
  · rwa [find?_put_other t e same]

-- Where a step down leads: nowhere, upwards, or to what has the name.
inductive Steps (t : FileTree) (k : Location) : String → Location → Prop where
  | dot : Steps t k "." k
  | up : Steps t k ".." k.dropLast
  | down {name : String} (dot : name ≠ ".") (up : name ≠ "..") (short : name.utf8ByteSize ≤ 255)
      (present : (t.find? (k ++ [name])).isSome) : Steps t k name (k ++ [name])

theorem step_eq_ok_iff :
    t.step k name = .ok m ↔ t.find? k = some .directory ∧ Steps t k name m := by
  unfold step
  constructor
  · intro stepped
    split at stepped
    next directory =>
      refine ⟨directory, ?_⟩
      split_ifs at stepped with dot up long present
      · subst dot
        cases stepped
        exact .dot
      · subst up
        cases stepped
        exact .up
      · cases stepped
        exact .down dot up (by omega) present
    · cases stepped
    · cases stepped
  · rintro ⟨directory, steps⟩
    rw [directory]
    cases steps with
    | dot => rfl
    | up => rfl
    | down dot up short present => simp [dot, up, present, Nat.not_lt.2 short]

theorem step_put (free : t.find? l ≠ some .directory) (stepped : t.step k name = .ok m) :
    (t.put l e).step k name = .ok m := by
  obtain ⟨directory, steps⟩ := step_eq_ok_iff.1 stepped
  refine step_eq_ok_iff.2 ⟨find?_put_of_directory free directory, ?_⟩
  cases steps with
  | dot => exact .dot
  | up => exact .up
  | down dot up short present => exact .down dot up short (isSome_find?_put free present)

theorem walk_cons :
    t.walk k (name :: names) = .ok m ↔
      ∃ next, t.step k name = .ok next ∧ t.walk next names = .ok m := by
  simp only [walk, List.foldlM_cons, Except.bind_eq_ok_iff]

theorem walk_concat :
    t.walk k (names ++ [name]) = .ok m ↔
      ∃ next, t.walk k names = .ok next ∧ t.step next name = .ok m := by
  simp [walk, List.foldlM_append, Except.bind_eq_ok_iff]

-- All places on the way are directories, so that a new file is none of them.
theorem walk_put (free : t.find? l ≠ some .directory) (walked : t.walk k names = .ok m) :
    (t.put l e).walk k names = .ok m := by
  induction names generalizing k with
  | nil => exact walked
  | cons name rest ih =>
    obtain ⟨next, stepped, further⟩ := walk_cons.1 walked
    exact walk_cons.2 ⟨next, step_put free stepped, ih further⟩

-- The path names something in the directory `k`, which need not exist.
structure Points (t : FileTree) (p : Path) (k : Location) (name : String) : Prop where
  directory : t.find? k = some .directory
  dot : name ≠ "."
  up : name ≠ ".."
  short : name.utf8ByteSize ≤ 255
  walked : ∃ start names, t.start p = .ok (start, names ++ [name]) ∧ t.walk start names = .ok k

theorem points_of_locateParent (located : t.locateParent p = .ok (k, some name)) :
    Points t p k name := by
  unfold locateParent at located
  obtain ⟨⟨start, names⟩, started, rest⟩ := Except.bind_eq_ok_iff.1 located
  dsimp only at rest
  split at rest
  · cases rest
  next last ending =>
    obtain ⟨front, rfl⟩ := List.getLast?_eq_some_iff.1 ending
    rw [List.dropLast_concat] at rest
    obtain ⟨parent, walked, rest⟩ := Except.bind_eq_ok_iff.1 rest
    by_cases upwards : (decide (last = ".") || decide (last = "..")) = true
    · rw [if_pos upwards] at rest
      obtain ⟨reached, -, same⟩ := Except.bind_eq_ok_iff.1 rest
      cases same
    · rw [if_neg upwards] at rest
      simp only [Bool.or_eq_true, decide_eq_true_eq, not_or] at upwards
      split at rest
      next directory =>
        split_ifs at rest with long
        · cases rest
        · cases rest
          exact ⟨directory, upwards.1, upwards.2, by omega, start, front, started, walked⟩
      · cases rest
      · cases rest

theorem exists_of_write (written : t.write p content = .ok t') :
    ∃ k name, Points t p k name ∧ endsInSlash p = false ∧
      t.find? (k ++ [name]) ≠ some .directory ∧ t' = t.put (k ++ [name]) (.file content) := by
  unfold write at written
  obtain ⟨⟨k, _ | name⟩, located, rest⟩ := Except.bind_eq_ok_iff.1 written
  · cases rest
  · dsimp only at rest
    split_ifs at rest with refused
    · cases rest
    · cases rest
      simp only [Bool.or_eq_true, not_or, Bool.not_eq_true] at refused
      exact ⟨k, name, points_of_locateParent located, refused.1,
        fun directory => by simp [hasDirectory_iff.2 directory] at refused, rfl⟩

theorem locate_eq_ok_iff :
    t.locate p = .ok m ↔ ∃ start names, t.start p = .ok (start, names) ∧
      t.walk start names = .ok m ∧ (endsInSlash p = true → t.hasDirectory m = true) := by
  unfold locate
  rw [Except.bind_eq_ok_iff]
  constructor
  · rintro ⟨⟨start, names⟩, started, rest⟩
    obtain ⟨reached, walked, rest⟩ := Except.bind_eq_ok_iff.1 rest
    dsimp only at rest
    split_ifs at rest with refused
    · cases rest
    · cases rest
      exact ⟨start, names, started, walked, by simpa using refused⟩
  · rintro ⟨start, names, started, walked, slash⟩
    refine ⟨(start, names), started, Except.bind_eq_ok_iff.2 ⟨m, walked, ?_⟩⟩
    have kept : ¬ (endsInSlash p && !t.hasDirectory m) = true := by simpa using slash
    simp only [if_neg kept]
    rfl

theorem Points.locate_eq (points : Points t p k name) (located : t.locate p = .ok m) :
    m = k ++ [name] := by
  obtain ⟨start, names, started, walked⟩ := points.walked
  obtain ⟨start', names', started', whole, -⟩ := locate_eq_ok_iff.1 located
  cases started.symm.trans started'
  obtain ⟨parent, front, stepped⟩ := walk_concat.1 whole
  cases walked.symm.trans front
  cases (step_eq_ok_iff.1 stepped).2 with
  | dot => exact absurd rfl points.dot
  | up => exact absurd rfl points.up
  | down => rfl

theorem Points.locate_put (points : Points t p k name) (plain : endsInSlash p = false)
    (free : t.find? (k ++ [name]) ≠ some .directory) :
    (t.put (k ++ [name]) e).locate p = .ok (k ++ [name]) := by
  obtain ⟨start, names, started, walked⟩ := points.walked
  have present : ((t.put (k ++ [name]) e).find? (k ++ [name])).isSome := by
    rw [find?_put_self t e (ne_nil_of_find?_ne free)]
    rfl
  have stepped : (t.put (k ++ [name]) e).step k name = .ok (k ++ [name]) :=
    step_eq_ok_iff.2 ⟨find?_put_of_directory free points.directory,
      .down points.dot points.up points.short present⟩
  have whole := walk_concat.2 ⟨k, walk_put (e := e) free walked, stepped⟩
  exact locate_eq_ok_iff.2 ⟨start, names ++ [name], started, whole, by simp [plain]⟩

-- From one tree to the other only the file at the path is new or has changed.
structure Saved (t t' : FileTree) (p : Path) (content : ByteArray) : Prop where
  here : t'.here = t.here
  place : ∃ l, t'.locate p = .ok l ∧ (∀ m, t.locate p = .ok m → m = l) ∧
    t'.find? l = some (.file content) ∧ ∀ m, m ≠ l → t'.find? m = t.find? m

theorem saved_of_write (written : t.write p content = .ok t') : Saved t t' p content := by
  obtain ⟨k, name, points, plain, free, rfl⟩ := exists_of_write written
  exact ⟨rfl, k ++ [name], points.locate_put plain free, fun m => points.locate_eq,
    find?_put_self t _ (ne_nil_of_find?_ne free), fun m => find?_put_other t _⟩

theorem read_eq_ok_iff :
    t.read p = .ok content ↔ ∃ l, t.locate p = .ok l ∧ t.find? l = some (.file content) := by
  unfold read
  rw [Except.bind_eq_ok_iff]
  refine exists_congr fun l => and_congr_right fun _ => ?_
  split
  next found => simp [found, pure, Except.pure]
  next found => simp [found, throw, throwThe, MonadExceptOf.throw]
  next found => simp [found, throw, throwThe, MonadExceptOf.throw]

theorem Saved.read_eq (saved : Saved t t' p content) : t'.read p = .ok content := by
  obtain ⟨l, located, -, found, -⟩ := saved.place
  exact read_eq_ok_iff.2 ⟨l, located, found⟩

end Recast.FileTree
