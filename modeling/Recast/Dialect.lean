import Recast.Path
import Recast.Pattern.Reader
import Recast.Substitution

set_option autoImplicit false

namespace Recast

inductive Declaration where
  | keyword (text : String)
  | pattern (p : Pattern)

namespace Declaration

def opensFunction : Declaration → String → Bool
  | .keyword text, line => Text.startsWith line text
  | .pattern p, line => p.matchesLine line

def isForward : Declaration → String → Bool
  | .keyword text, line => text.toList.isPrefixOf (Text.trimStart line.toList)
  | .pattern p, line => p.matchesLine line

def describe : Declaration → String
  | .keyword text => "prefix `" ++ text ++ "`"
  | .pattern p => "pattern `" ++ p.source ++ "`"

end Declaration

structure Conditional where
  opening : Pattern
  closing : Pattern
  inFunctions : Bool

namespace Conditional

def opens (c : Conditional) (line : String) : Bool :=
  c.opening.matchesLine line

def closes (c : Conditional) (line : String) : Bool :=
  c.closing.matchesLine line

end Conditional

structure Dialect where
  name : String
  sources : List String
  declaration : Declaration
  conditional : Option Conditional
  substitutions : Substitution.Table
  visibility : String
  imports : List String

namespace Dialect

def opensBlock (d : Dialect) (line : String) : Bool :=
  d.conditional.any (·.opens line)

def closesBlock (d : Dialect) (line : String) : Bool :=
  d.conditional.any (·.closes line)

def bodyConditional (d : Dialect) : Option Conditional :=
  d.conditional.filter (·.inFunctions)

def opensBodyBlock (d : Dialect) (line : String) : Bool :=
  d.bodyConditional.any (·.opens line)

def closesBodyBlock (d : Dialect) (line : String) : Bool :=
  d.bodyConditional.any (·.closes line)

def appliesTo (d : Dialect) (path : Path) : Bool :=
  path.fileName?.any d.sources.contains

structure Summary where
  name : String
  sources : List String
  declaration : String
  conditionals : String
  substitutions : Nat

def summary (d : Dialect) : Summary where
  name := d.name
  sources := d.sources
  declaration := d.declaration.describe
  conditionals :=
    match d.conditional with
    | none => "none"
    | some c => if c.inFunctions then "top level and function bodies" else "top level"
  substitutions := d.substitutions.entries.length

end Dialect

end Recast
