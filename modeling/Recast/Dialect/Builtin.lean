import Recast.Dialect

set_option autoImplicit false

namespace Recast.Dialect

def defaultVisibility : String :=
  "internal static "

def defaultImports : List String :=
  ["System"]

def fft4g : Dialect where
  name := "fft4g"
  sources := ["fft4g.c"]
  declaration := .keyword "void"
  conditional := none
  substitutions := {
    entries := [
      ⟨" sin(", " Math.Sin("⟩,
      ⟨" cos(", " Math.Cos("⟩,
      ⟨" atan(1.0) ", " (Math.PI / 4) "⟩] }
  visibility := defaultVisibility
  imports := defaultImports

def readable (source : String) (h : (Pattern.ofSource source).toOption.isSome) : Pattern :=
  (Pattern.ofSource source).toOption.get h

def fftsg : Dialect where
  name := "fftsg"
  sources := ["fftsg.c"]
  declaration := .pattern (readable "\\s*(int|void)\\s.+\\(.*\\)" (by decide))
  conditional := some {
    opening := readable "#ifdef\\s.+" (by decide)
    closing := readable "#endif /\\*.+\\*/" (by decide)
    inFunctions := true }
  substitutions := {
    entries := [
      ⟨" -sin(", " -Math.Sin("⟩,
      ⟨" sin(", " Math.Sin("⟩,
      ⟨" cos(", " Math.Cos("⟩,
      ⟨" atan(1.0) ", " (Math.PI / 4) "⟩] }
  visibility := defaultVisibility
  imports := defaultImports

def builtins : List Dialect :=
  [fft4g, fftsg]

end Recast.Dialect
