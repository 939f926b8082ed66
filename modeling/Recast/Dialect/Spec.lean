import Recast.Dialect.Builtin
import Recast.Data

set_option autoImplicit false

namespace Recast.Dialect

inductive DeclarationSpec where
  | keyword (text : String)
  | pattern (source : String)
  deriving DecidableEq, Repr

structure ConditionalSpec where
  opening : String
  closing : String
  inFunctions : Bool := false
  deriving DecidableEq, Repr

structure Spec where
  name : String
  sources : List String := []
  declaration : DeclarationSpec
  conditional : Option ConditionalSpec := none
  substitutions : List Substitution := []
  visibility : String := defaultVisibility
  imports : List String := defaultImports
  deriving DecidableEq, Repr

inductive Spec.Part where
  | name
  | keyword
  | pattern
  | sought
  deriving DecidableEq, Repr

def Spec.Part.title : Spec.Part → String
  | .name => "name"
  | .keyword => "declaration prefix"
  | .pattern => "pattern"
  | .sought => "substitution pattern"

inductive Spec.Error where
  | empty (dialect : String) (part : Spec.Part)
  | badPattern (dialect source : String) (fault : Pattern.Reader.Fault)
  deriving DecidableEq, Repr

namespace Spec

def Error.dialect : Spec.Error → String
  | .empty dialect _ => dialect
  | .badPattern dialect _ _ => dialect

def Error.message : Spec.Error → String
  | .empty dialect part => "dialect `" ++ dialect ++ "`: " ++ part.title ++ " must not be empty"
  | .badPattern dialect source _ =>
    "dialect `" ++ dialect ++ "`: invalid pattern `" ++ source ++ "`"

section Reading

variable (read : List Char → Except Pattern.Reader.Fault Pattern.Expr)

def readPattern (s : Spec) (source : String) : Except Spec.Error Pattern :=
  if source = "" then .error (.empty s.name .pattern)
  else (Pattern.ofSourceWith read source).mapError (.badPattern s.name source)

def readDeclaration (s : Spec) : Except Spec.Error Declaration :=
  match s.declaration with
  | .keyword text =>
    if text = "" then .error (.empty s.name .keyword) else .ok (.keyword text)
  | .pattern source => (s.readPattern read source).map .pattern

def readConditional (s : Spec) : Except Spec.Error (Option Conditional) :=
  match s.conditional with
  | none => .ok none
  | some c => do
    let opening ← s.readPattern read c.opening
    let closing ← s.readPattern read c.closing
    return some { opening, closing, inFunctions := c.inFunctions }

def compileWith (s : Spec) : Except Spec.Error Dialect := do
  if s.name = "" then throw (.empty s.name .name)
  let declaration ← s.readDeclaration read
  let conditional ← s.readConditional read
  if s.substitutions.any (·.sought = "") then throw (.empty s.name .sought)
  return {
    name := s.name
    sources := s.sources
    declaration
    conditional
    substitutions := .ofList s.substitutions
    visibility := s.visibility
    imports := s.imports }

end Reading

def compile (s : Spec) : Except Spec.Error Dialect :=
  s.compileWith Pattern.Reader.read

end Spec

def DeclarationSpec.ofData? : Data → Option DeclarationSpec
  | .record [("prefix", .text text)] => some (.keyword text)
  | .record [("pattern", .text source)] => some (.pattern source)
  | _ => none

def ConditionalSpec.ofData? (exact : Bool) (d : Data) : Option ConditionalSpec := do
  match ← d.parts? exact ["open", "close", "in_functions"] with
  | [opening, closing, inFunctions] =>
    return {
      opening := ← Data.required Data.text? opening
      closing := ← Data.required Data.text? closing
      inFunctions := ← Data.optional false Data.flag? inFunctions }
  | _ => none

def ConditionalSpec.ofNullable? (exact : Bool) : Data → Option (Option ConditionalSpec)
  | .null => some none
  | d => (ConditionalSpec.ofData? exact d).map some

end Recast.Dialect

namespace Recast.Substitution

def ofData? (exact : Bool) (d : Data) : Option Substitution := do
  match ← d.parts? exact ["from", "to"] with
  | [sought, replacement] =>
    return ⟨← Data.required Data.text? sought, ← Data.required Data.text? replacement⟩
  | _ => none

def listOfData? (exact : Bool) (d : Data) : Option (List Substitution) :=
  d.list?.bind (·.mapM (ofData? exact))

end Recast.Substitution

namespace Recast.Dialect.Spec

def ofData? (exact : Bool) (d : Data) : Option Spec := do
  let names :=
    ["name", "sources", "declaration", "conditional", "substitutions", "visibility", "imports"]
  match ← d.parts? exact names with
  | [name, sources, declaration, conditional, substitutions, visibility, imports] =>
    return {
      name := ← Data.required Data.text? name
      sources := ← Data.optional [] Data.texts? sources
      declaration := ← Data.required DeclarationSpec.ofData? declaration
      conditional := ← Data.optional none (ConditionalSpec.ofNullable? exact) conditional
      substitutions := ← Data.optional [] (Substitution.listOfData? exact) substitutions
      visibility := ← Data.optional defaultVisibility Data.text? visibility
      imports := ← Data.optional defaultImports Data.texts? imports }
  | _ => none

end Recast.Dialect.Spec
