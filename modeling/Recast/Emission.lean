import Recast.Scanner

set_option autoImplicit false

namespace Recast

structure Emitter where
  started : Bool := false
  -- Only lines that were left out have followed a forward declaration.
  afterForward : Bool := false
  skipping : Bool := false
  deriving DecidableEq, Repr

inductive Emission where
  | line (text : String)
  | leading
  | dropped
  | forward
  | skipped
  | blank
  | blockStart
  deriving DecidableEq, Repr

def Emission.text? : Emission → Option String
  | .line text => some text
  | _ => none

namespace Emitter

def body (d : Dialect) (e : Emitter) (line : String) : Emitter × Emission :=
  if d.declaration.isForward line then ({ e with afterForward := true }, .forward)
  else if e.skipping then
    (if d.closesBodyBlock line then { e with skipping := false } else e, .skipped)
  else if e.afterForward && Text.isBlankLine line then ({ e with afterForward := false }, .blank)
  else if d.opensBodyBlock line then ({ e with skipping := true }, .blockStart)
  else ({ e with afterForward := false }, .line (d.substitutions.apply line))

def step (d : Dialect) (e : Emitter) (line : String) (tag : Tag) : Emitter × Emission :=
  if !e.started && tag = .plain then (e, .leading)
  else
    let e := { e with started := true }
    let other := { e with afterForward := false }
    match tag with
    | .body => e.body d line
    | .inclusion | .conditional => (other, .dropped)
    | .header => (other, .line (d.visibility ++ line))
    | .plain | .comment | .opening | .closing => (other, .line line)

def run (d : Dialect) : Emitter → List String → List Tag → List Emission
  | e, line :: lines, tag :: tags =>
    let (next, emission) := e.step d line tag
    emission :: run d next lines tags
  | _, _, _ => []

end Emitter

structure UnevenTags where
  lines : Nat
  tags : Nat
  deriving DecidableEq, Repr

def UnevenTags.message (u : UnevenTags) : String :=
  "assertion `left == right` failed: rewrite needs exactly one tag per line\n  left: " ++
    toString u.lines ++ "\n right: " ++ toString u.tags

namespace Dialect

def emissions (d : Dialect) (lines : List String) (tags : List Tag) : List Emission :=
  Emitter.run d {} lines tags

def emit (d : Dialect) (lines : List String) (tags : List Tag) : List String :=
  (d.emissions lines tags).filterMap Emission.text?

def emitChecked (d : Dialect) (lines : List String) (tags : List Tag) :
    Except UnevenTags (List String) :=
  if lines.length = tags.length then .ok (d.emit lines tags)
  else .error ⟨lines.length, tags.length⟩

def recast (d : Dialect) (lines : List String) : Except ScanError (List String) :=
  (d.scan lines).map (d.emit lines)

end Dialect

end Recast
