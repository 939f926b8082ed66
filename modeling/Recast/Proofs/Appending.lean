import Recast.Proofs.Blocks

set_option autoImplicit false

namespace Recast.Dialect

open Text (openBrace closeBrace)

variable {d : Dialect} {first second : List String} {tags : List Tag} {n : Nat} {text : String}

theorem scan_append_eq_ok_iff {all : List Tag} (accepted : d.scan first = .ok tags) :
    d.scan (first ++ second) = .ok all ↔
      ∃ following, d.scan second = .ok following ∧ tags ++ following = all := by
  rw [scan_append accepted]
  cases d.scan second <;> simp [Except.mapError, Except.map]

theorem scan_append_eq_error_iff {e : ScanError} (accepted : d.scan first = .ok tags) :
    d.scan (first ++ second) = .error e ↔
      ∃ cause, d.scan second = .error cause ∧ cause.renumber (· + first.length) = e := by
  rw [scan_append accepted]
  cases d.scan second <;> simp [Except.mapError, Except.map]

theorem scan_append_eq_unrecognized_iff (accepted : d.scan first = .ok tags) :
    d.scan (first ++ second) = .error (.unrecognized n text) ↔
      ∃ m, d.scan second = .error (.unrecognized m text) ∧ n = m + first.length := by
  rw [scan_append_eq_error_iff accepted]
  constructor
  · rintro ⟨⟨m, _⟩ | _, failed, same⟩ <;> cases same
    exact ⟨m, failed, rfl⟩
  · rintro ⟨m, failed, rfl⟩
    exact ⟨_, failed, rfl⟩

-- The line that is reported here opened its region, so it too is counted from the start of the
-- file.
theorem scan_append_eq_unclosed_iff {r : Region} (accepted : d.scan first = .ok tags) :
    d.scan (first ++ second) = .error (.unclosed r n text) ↔
      ∃ m, d.scan second = .error (.unclosed r m text) ∧ n = m + first.length := by
  rw [scan_append_eq_error_iff accepted]
  constructor
  · rintro ⟨_ | ⟨_, m, _⟩, failed, same⟩ <;> cases same
    exact ⟨m, failed, rfl⟩
  · rintro ⟨m, failed, rfl⟩
    exact ⟨_, failed, rfl⟩

theorem emit_prefix_of_append {whole : List String} (accepted : d.scan first = .ok tags)
    (emitted : d.recast (first ++ second) = .ok whole) : d.emit first tags <+: whole := by
  obtain ⟨all, scanned, -⟩ := Except.map_eq_ok_iff.1 emitted
  obtain ⟨following, next, -⟩ := (scan_append_eq_ok_iff accepted).1 scanned
  rw [recast_append_run accepted next] at emitted
  cases emitted
  exact List.prefix_append _ _

/-- A file that is accepted can be followed by any other. The tags are those of both, an error is
that of the second with a higher line number, and the output begins with that of the first. -/
theorem appended_file_exact (d : Dialect) {first : List String} {tags : List Tag}
    (accepted : d.scan first = .ok tags) (second : List String) :
    (∀ all, d.scan (first ++ second) = .ok all ↔
      ∃ following, d.scan second = .ok following ∧ tags ++ following = all) ∧
    (∀ n text, d.scan (first ++ second) = .error (.unrecognized n text) ↔
      ∃ m, d.scan second = .error (.unrecognized m text) ∧ n = m + first.length) ∧
    (∀ r n text, d.scan (first ++ second) = .error (.unclosed r n text) ↔
      ∃ m, d.scan second = .error (.unclosed r m text) ∧ n = m + first.length) ∧
    ∀ whole, d.recast (first ++ second) = .ok whole →
      ∃ part, d.recast first = .ok part ∧ part <+: whole :=
  ⟨fun _ => scan_append_eq_ok_iff accepted, fun _ _ => scan_append_eq_unrecognized_iff accepted,
    fun _ _ _ => scan_append_eq_unclosed_iff accepted, fun _ emitted =>
      ⟨_, recast_of_scan accepted, emit_prefix_of_append accepted emitted⟩⟩

theorem appended_to_empty_function :
    fft4g.scan ["void f()", openBrace, closeBrace, ""] = .ok [.header, .opening, .closing, .plain] ∧
      fft4g.scan (["void f()", openBrace, closeBrace, ""] ++ ["", "/* open", "text"]) =
        .error (.unclosed .comment 6 "/* open") ∧
      fft4g.recast ["void f()", openBrace, closeBrace, ""] =
        .ok ["internal static void f()", openBrace, closeBrace, ""] ∧
      fft4g.recast (["void f()", openBrace, closeBrace, ""] ++
          ["void g()", openBrace, closeBrace]) =
        .ok ["internal static void f()", openBrace, closeBrace, "", "internal static void g()",
          openBrace, closeBrace] ∧
      ["internal static void f()", openBrace, closeBrace, ""] <+:
        ["internal static void f()", openBrace, closeBrace, "", "internal static void g()",
          openBrace, closeBrace] := by
  have accepted : fft4g.scan ["void f()", openBrace, closeBrace, ""] =
      .ok [.header, .opening, .closing, .plain] := rfl
  refine ⟨accepted, ((appended_file_exact fft4g accepted _).2.2.1 _ _ _).2 ⟨2, rfl, rfl⟩, rfl, rfl,
    ?_⟩
  obtain ⟨part, emitted, front⟩ :=
    (appended_file_exact fft4g accepted ["void g()", openBrace, closeBrace]).2.2.2 _ rfl
  cases emitted
  exact front

end Recast.Dialect
