import Recast.Invocation
import Recast.Proofs.Writes

set_option autoImplicit false

namespace Recast.Invocation

namespace Tally

variable {t t' : Tally} {slot : Slot} {slots words : List Slot} {value argument : String}

-- Paths are not empty.
def Sound (t : Tally) : Prop :=
  ∀ slot value, (slot, value) ∈ t.values → slot.isPath → value ≠ ""

theorem Sound.addFlag (sound : t.Sound) (added : t.addFlag slot = .ok t') : t'.Sound := by
  unfold Tally.addFlag at added
  split at added
  · cases added
    exact sound
  · cases added
  · cases added
  · split_ifs at added
    cases added
    exact sound

theorem Sound.addValue (sound : t.Sound) (added : t.addValue slot value = .ok t') : t'.Sound := by
  unfold Tally.addValue at added
  split_ifs at added with refused
  cases added
  intro other text member path
  rcases List.mem_cons.1 member with here | earlier
  · cases here
    simp only [path, Bool.true_and, Bool.or_eq_true, not_or, String.isEmpty_iff] at refused
    exact refused.2
  · exact sound other text earlier path

theorem Sound.addLong {text : List Char} (sound : t.Sound)
    (added : t.addLong slots text = .ok t') : t'.Sound := by
  unfold Tally.addLong at added
  dsimp only at added
  split at added
  · cases added
  · split_ifs at added
    · cases added
      exact sound
    · exact sound.addFlag added
  · split_ifs at added
    exact sound.addValue added

theorem Sound.addShort {text : List Char} (sound : t.Sound)
    (added : t.addShort slots text = .ok t') : t'.Sound := by
  induction text generalizing t with
  | nil =>
    cases added
    exact sound
  | cons c rest ih =>
    unfold Tally.addShort at added
    split at added
    · cases added
    · split_ifs at added
      · split at added
        · cases added
          exact sound
        · exact sound.addValue added
        · exact sound.addValue added
      · obtain ⟨next, flagged, further⟩ := Except.bind_eq_ok_iff.1 added
        exact ih (sound.addFlag flagged) further

theorem Sound.addWord (sound : t.Sound) (added : t.addWord words argument = .ok t') : t'.Sound := by
  unfold Tally.addWord at added
  split at added
  · cases added
  · exact sound.addValue added

theorem Sound.add (sound : t.Sound) (added : t.add slots words argument = .ok t') : t'.Sound := by
  unfold Tally.add at added
  split_ifs at added
  · exact sound.addWord added
  · split at added
    · cases added
      exact sound
    · exact sound.addLong added
    · exact sound.addShort added
    · cases added
    · exact sound.addValue added
    · exact sound.addWord added

def addAll (slots words : List Slot) (t : Tally) (arguments : List String) : Except Stop Tally :=
  arguments.foldlM (fun t argument => t.add slots words argument) t

theorem Sound.addAll {arguments : List String} (sound : t.Sound)
    (added : Tally.addAll slots words t arguments = .ok t') : t'.Sound := by
  induction arguments generalizing t with
  | nil =>
    cases added
    exact sound
  | cons argument rest ih =>
    obtain ⟨next, first, further⟩ := Except.bind_eq_ok_iff.1 added
    exact ih (sound.add first) further

theorem Sound.value_ne (sound : t.Sound) (path : slot.isPath) (found : t.value? slot = some value) :
    value ≠ "" := by
  obtain ⟨before, after, split, -⟩ := List.lookup_eq_some_iff.1 found
  exact sound slot value (by simp [split]) path

end Tally

theorem sound_of_split {t front : Tally} {name : CommandName} {arguments rest : List String}
    (sound : t.Sound) (cut : split t arguments = .ok (front, name, rest)) : front.Sound := by
  induction arguments generalizing t with
  | nil => cases cut
  | cons argument following ih =>
    have next (going : ((t.add [.verbose, .root, .help, .version] [] argument).bind
        fun t => split t following) = .ok (front, name, rest)) : front.Sound := by
      obtain ⟨t', added, further⟩ := Except.bind_eq_ok_iff.1 going
      exact ih (sound.add added) further
    unfold split at cut
    dsimp only at cut
    split_ifs at cut
    · exact next cut
    · split at cut
      · cases cut
        exact sound
      · exact next cut

theorem ofArguments_eq_ok_iff {arguments : List String} {i : Invocation} :
    ofArguments arguments = .ok i ↔ ∃ front name rest back command,
      split {} arguments = .ok (front, name, rest) ∧ name ≠ .help ∧
      Tally.ofArguments name.slots name.words rest = .ok back ∧ name.command back = .ok command ∧
      i = {
        verbosity := if back.verbosity = 0 then front.verbosity else back.verbosity
        root := ⟨((back.value? .root).or (front.value? .root)).getD "."⟩
        command } := by
  unfold ofArguments
  rw [Except.bind_eq_ok_iff]
  constructor
  · rintro ⟨⟨front, name, rest⟩, cut, accepted⟩
    dsimp only at accepted
    split_ifs at accepted with help
    · cases accepted
    · obtain ⟨back, tallied, accepted⟩ := Except.bind_eq_ok_iff.1 accepted
      obtain ⟨command, chosen, same⟩ := Except.bind_eq_ok_iff.1 accepted
      cases same
      exact ⟨front, name, rest, back, command, cut, help, tallied, chosen, rfl⟩
  · rintro ⟨front, name, rest, back, command, cut, help, tallied, chosen, rfl⟩
    refine ⟨(front, name, rest), cut, ?_⟩
    simp only [if_neg help]
    exact Except.bind_eq_ok_iff.2 ⟨back, tallied, Except.bind_eq_ok_iff.2 ⟨command, chosen, rfl⟩⟩

-- What arguments can ask for: no path is empty, and the output goes to one place.
structure Proper (root : Path) (o : TranslateOptions) : Prop where
  root : root.text ≠ ""
  input : o.input.text ≠ ""
  output : ∀ path, o.output = some path → path.text ≠ ""
  one : o.stdout → o.output = none

theorem proper_of_translateCommand {t : Tally} {root : Path} {o : TranslateOptions}
    (sound : t.Sound) (named : root.text ≠ "")
    (chosen : translateCommand t = .ok (.translate o)) : Proper root o := by
  unfold translateCommand at chosen
  split at chosen
  · cases chosen
  next input given =>
    dsimp only at chosen
    split_ifs at chosen with both
    cases chosen
    refine ⟨named, sound.value_ne rfl given, fun path output => ?_, fun stdout => ?_⟩
    · obtain ⟨text, found, rfl⟩ := Option.map_eq_some_iff.1 output
      exact sound.value_ne rfl found
    · have given : t.has .stdout := stdout
      simpa [given] using both

theorem proper_of_ofArguments {arguments : List String} {i : Invocation} {o : TranslateOptions}
    (accepted : ofArguments arguments = .ok i) (asked : i.command = .translate o) :
    Proper i.root o := by
  obtain ⟨front, name, rest, back, command, cut, help, tallied, chosen, rfl⟩ :=
    ofArguments_eq_ok_iff.1 accepted
  have empty : ({} : Tally).Sound := by simp [Tally.Sound]
  have before : front.Sound := sound_of_split empty cut
  have after : back.Sound := by
    obtain ⟨t, added, finished⟩ := Except.bind_eq_ok_iff.1 tallied
    unfold Tally.finish at finished
    split_ifs at finished
    cases finished
    exact empty.addAll added
  have named : ((back.value? .root).or (front.value? .root)).getD "." ≠ "" := by
    cases given : back.value? .root with
    | some value => exact after.value_ne rfl given
    | none =>
      cases earlier : front.value? .root with
      | some value => exact before.value_ne rfl earlier
      | none => decide
  subst asked
  cases name with
  | translate => exact proper_of_translateCommand after named chosen
  | dialects | support | help => cases chosen

section Written

variable {n : Nat} {flags slots words : List Slot} {values : List (Slot × String)} {slot : Slot}
  {name value : String}

-- An option with its value, where there is one, and what it leaves behind.
def option (name : String) (value : Option String) : List String :=
  (value.map fun text => "--" ++ name ++ "=" ++ text).toList

def entered (slot : Slot) (value : Option String) : List (Slot × String) :=
  (value.map fun text => (slot, text)).toList

def written (verbosity : Nat) (root : Path) (o : TranslateOptions) : List String :=
  List.replicate verbosity "-v" ++ (option "root" (some root.text) ++
    (option "output" (o.output.map (·.text)) ++ (option "dialect" o.dialect ++
      (option "namespace" o.space ++ (option "class" o.className ++
        ((if o.stdout then ["--stdout"] else []) ++ ["--", o.input.text]))))))

def tallied (verbosity : Nat) (root : Path) (o : TranslateOptions) : Tally where
  verbosity
  flags := if o.stdout then [.stdout] else []
  values := entered .input (some o.input.text) ++ (entered .className o.className ++
    (entered .space o.space ++ (entered .dialect o.dialect ++
      (entered .output (o.output.map (·.text)) ++ (entered .root (some root.text) ++ [])))))
  literal := true

theorem lookup_entered (value : Option String) (rest : List (Slot × String)) (other : Slot) :
    (entered slot value ++ rest).lookup other =
      if other = slot then value.or (rest.lookup other) else rest.lookup other := by
  cases value with
  | none => simp [entered]
  | some text =>
    by_cases same : other = slot
    · simp [entered, same]
    · simp [entered, List.lookup_cons, same, beq_false_of_ne same]

theorem addAll_append {t t' t'' : Tally} {arguments more : List String}
    (first : t.addAll slots words arguments = .ok t')
    (next : t'.addAll slots words more = .ok t'') :
    t.addAll slots words (arguments ++ more) = .ok t'' := by
  unfold Tally.addAll at first next ⊢
  rw [List.foldlM_append]
  exact Except.bind_eq_ok_iff.2 ⟨t', first, next⟩

theorem addAll_single {t t' : Tally} {argument : String}
    (added : t.add slots words argument = .ok t') : t.addAll slots words [argument] = .ok t' :=
  Except.bind_eq_ok_iff.2 ⟨t', added, rfl⟩

theorem addValue_fresh {literal : Bool} (fresh : values.lookup slot = none)
    (fits : slot.isPath → value ≠ "") :
    Tally.addValue ⟨n, flags, values, none, literal⟩ slot value =
      .ok ⟨n, flags, entered slot (some value) ++ values, none, literal⟩ := by
  have kept : ¬ ((values.lookup slot).isSome || (slot.isPath && value.isEmpty)) := by
    simpa [fresh] using fits
  rw [Tally.addValue, Tally.value?, if_neg kept]
  rfl

theorem add_long (known : slots.find? (·.long?.any (·.toList == name.toList)) = some slot)
    (takes : slot.takesValue) (plain : name.toList.all (· != '=')) :
    Tally.add ⟨n, flags, values, none, false⟩ slots words ("--" ++ name ++ "=" ++ value) =
      Tally.addValue ⟨n, flags, values, none, false⟩ slot value := by
  have spelled : ("--" ++ name ++ "=" ++ value).toList =
      '-' :: '-' :: (name.toList ++ '=' :: value.toList) := by simp
  have taken : (name.toList ++ '=' :: value.toList).takeWhile (· != '=') = name.toList := by
    rw [List.takeWhile_append_of_pos (by simpa using plain)]
    simp
  have long : Tally.add ⟨n, flags, values, none, false⟩ slots words ("--" ++ name ++ "=" ++ value) =
      Tally.addLong ⟨n, flags, values, none, false⟩ slots (name.toList ++ '=' :: value.toList) := by
    unfold Tally.add
    rw [spelled]
    cases shape : name.toList ++ '=' :: value.toList with
    | nil => simp at shape
    | cons c rest => rfl
  rw [long, Tally.addLong]
  simp [taken, known, takes]

theorem addAll_option (slot : Slot) {value : Option String}
    (known : slots.find? (·.long?.any (·.toList == name.toList)) = some slot)
    (takes : slot.takesValue) (plain : name.toList.all (· != '='))
    (fresh : values.lookup slot = none) (fits : slot.isPath → value ≠ some "") :
    Tally.addAll slots words ⟨n, flags, values, none, false⟩ (option name value) =
      .ok ⟨n, flags, entered slot value ++ values, none, false⟩ := by
  cases value with
  | none => rfl
  | some text =>
    refine addAll_single ?_
    rw [add_long known takes plain, addValue_fresh fresh fun path => by simpa using fits path]

theorem addAll_verbose (known : slots.find? (·.short? == some 'v') = some .verbose) (k : Nat) :
    Tally.addAll slots words ⟨n, flags, values, none, false⟩ (List.replicate k "-v") =
      .ok ⟨n + k, flags, values, none, false⟩ := by
  induction k generalizing n with
  | zero => rfl
  | succ k ih =>
    have added : Tally.add ⟨n, flags, values, none, false⟩ slots words "-v" =
        .ok ⟨n + 1, flags, values, none, false⟩ := by
      simp [Tally.add, Tally.addShort, known, Slot.takesValue, Tally.addFlag, Except.bind]
    have following := ih (n := n + 1)
    rw [Nat.add_assoc, Nat.add_comm 1 k] at following
    exact addAll_append (addAll_single added) following

theorem addAll_stdout (flag : Bool)
    (known : slots.find? (·.long?.any (·.toList == "stdout".toList)) = some .stdout) :
    Tally.addAll slots words ⟨n, [], values, none, false⟩ (if flag then ["--stdout"] else []) =
      .ok ⟨n, if flag then [.stdout] else [], values, none, false⟩ := by
  cases flag with
  | false => rfl
  | true =>
    refine addAll_single ?_
    have long : Tally.add ⟨n, [], values, none, false⟩ slots words "--stdout" =
        Tally.addLong ⟨n, [], values, none, false⟩ slots "stdout".toList := rfl
    rw [long, Tally.addLong]
    have taken : "stdout".toList.takeWhile (· != '=') = "stdout".toList := by decide
    simp only [taken, known]
    rfl

theorem addAll_word (fresh : values.lookup slot = none) (fits : slot.isPath → value ≠ "") :
    Tally.addAll slots [slot] ⟨n, flags, values, none, false⟩ ["--", value] =
      .ok ⟨n, flags, entered slot (some value) ++ values, none, true⟩ := by
  have dashes : Tally.add ⟨n, flags, values, none, false⟩ slots [slot] "--" =
      .ok ⟨n, flags, values, none, true⟩ := rfl
  refine addAll_append (addAll_single dashes) (addAll_single ?_)
  have word : Tally.add ⟨n, flags, values, none, true⟩ slots [slot] value =
      Tally.addValue ⟨n, flags, values, none, true⟩ slot value := by
    simp [Tally.add, Tally.addWord, Tally.value?, fresh]
  rw [word, addValue_fresh fresh fits]

theorem value?_tallied (verbosity : Nat) (root : Path) (o : TranslateOptions) (slot : Slot) :
    (tallied verbosity root o).value? slot = match slot with
      | .input => some o.input.text
      | .className => o.className
      | .space => o.space
      | .dialect => o.dialect
      | .output => o.output.map (·.text)
      | .root => some root.text
      | _ => none := by
  simp only [Tally.value?, tallied, lookup_entered]
  cases slot <;> simp

theorem addAll_written {root : Path} {o : TranslateOptions} (proper : Proper root o)
    (verbosity : Nat) :
    Tally.addAll CommandName.translate.slots CommandName.translate.words {}
      (written verbosity root o) = .ok (tallied verbosity root o) := by
  have output : o.output.map (·.text) ≠ some "" := by
    cases given : o.output with
    | none => simp
    | some path => simpa using proper.output path given
  unfold written
  refine addAll_append (addAll_verbose (by decide) verbosity) ?_
  refine addAll_append (addAll_option .root (by decide) rfl rfl rfl fun _ =>
    by simpa using proper.root) ?_
  refine addAll_append (addAll_option .output (by decide) rfl rfl ?_ fun _ => output) ?_
  · simp only [lookup_entered, reduceCtorEq, if_false, List.lookup_nil]
  refine addAll_append (addAll_option .dialect (by decide) rfl rfl ?_ nofun) ?_
  · simp only [lookup_entered, reduceCtorEq, if_false, List.lookup_nil]
  refine addAll_append (addAll_option .space (by decide) rfl rfl ?_ nofun) ?_
  · simp only [lookup_entered, reduceCtorEq, if_false, List.lookup_nil]
  refine addAll_append (addAll_option .className (by decide) rfl rfl ?_ nofun) ?_
  · simp only [lookup_entered, reduceCtorEq, if_false, List.lookup_nil]
  refine addAll_append (addAll_stdout o.stdout (by decide)) ?_
  rw [Nat.zero_add]
  refine addAll_word ?_ fun _ => proper.input
  simp only [lookup_entered, reduceCtorEq, if_false, List.lookup_nil]

theorem translateCommand_tallied {root : Path} {o : TranslateOptions} (proper : Proper root o)
    (verbosity : Nat) : translateCommand (tallied verbosity root o) = .ok (.translate o) := by
  have flag : (tallied verbosity root o).has .stdout = o.stdout := by
    cases given : o.stdout <;> simp [Tally.has, tallied, given]
  have one : ¬ (o.stdout && (o.output.map (·.text)).isSome) = true := by
    simpa using proper.one
  simp only [translateCommand, value?_tallied, flag, if_neg one]
  cases o with
  | mk input output dialect space className stdout => cases output <;> rfl

theorem ofArguments_written {root : Path} {o : TranslateOptions} (proper : Proper root o)
    (verbosity : Nat) :
    ofArguments ("translate" :: written verbosity root o) =
      .ok ⟨verbosity, root, .translate o⟩ := by
  have added : Tally.ofArguments CommandName.translate.slots CommandName.translate.words
      (written verbosity root o) = .ok (tallied verbosity root o) :=
    Except.bind_eq_ok_iff.2 ⟨_, addAll_written proper verbosity, rfl⟩
  refine ofArguments_eq_ok_iff.2 ⟨{}, .translate, _, _, _, rfl, by decide, added,
    translateCommand_tallied proper verbosity, ?_⟩
  rw [value?_tallied]
  cases verbosity <;> rfl

end Written

theorem exists_arguments_iff {verbosity : Nat} {root : Path} {o : TranslateOptions} :
    (∃ arguments, ofArguments arguments = .ok ⟨verbosity, root, .translate o⟩) ↔ Proper root o := by
  constructor
  · rintro ⟨arguments, accepted⟩
    exact proper_of_ofArguments accepted rfl
  · intro proper
    exact ⟨_, ofArguments_written proper verbosity⟩

end Recast.Invocation
