import Recast.Dialect
import Recast.Tag

set_option autoImplicit false

namespace Recast

inductive ScanError where
  | unrecognized (line : Nat) (text : String)
  | unclosed (region : Region) (line : Nat) (text : String)
  deriving DecidableEq, Repr

def ScanError.message : ScanError → String
  | .unrecognized line text =>
    "line " ++ toString line ++ ": unrecognized top-level line: " ++ Text.quoted text
  | .unclosed region line text =>
    "line " ++ toString line ++ ": " ++ region.title ++ " opened here is never closed: " ++
      Text.quoted text

structure Opener where
  region : Region
  line : Nat
  text : String
  deriving DecidableEq, Repr

structure Scanner where
  line : Nat := 0
  opener : Option Opener := none
  deriving DecidableEq, Repr

namespace Dialect

/-- The tag of a line outside every region and the region that it opens, if the line is known. -/
def outside? (d : Dialect) (line : String) : Option (Tag × Option Region) :=
  if Text.contains line "/*" then
    if Text.contains line "*/" then some (.comment, none) else some (.plain, some .comment)
  else if d.declaration.opensFunction line then some (.header, some .function)
  else if d.opensBlock line then some (.conditional, some .conditional)
  else if Text.startsWith line "#include" then some (.inclusion, none)
  else if line = "" then some (.plain, none)
  else none

-- The tag of a line inside a region, and whether the line closes it.
def inside (d : Dialect) (line : String) : Region → Tag × Bool
  | .comment => (.plain, Text.contains line "*/")
  | .function =>
    if line = Text.openBrace then (.opening, false)
    else if line = Text.closeBrace then (.closing, true)
    else (.body, false)
  | .conditional => (.conditional, d.closesBlock line)

end Dialect

namespace Scanner

def region (s : Scanner) : Option Region :=
  s.opener.map (·.region)

/-- Tag the next line. A line that is refused is counted, and changes nothing else. -/
def step (d : Dialect) (s : Scanner) (line : String) : Scanner × Except ScanError Tag :=
  let n := s.line + 1
  match s.opener with
  | none =>
    match d.outside? line with
    | none => ({ s with line := n }, .error (.unrecognized n line))
    | some (tag, entered) => (⟨n, entered.map (⟨·, n, line⟩)⟩, .ok tag)
  | some opener =>
    let (tag, closes) := d.inside line opener.region
    (⟨n, if closes then none else s.opener⟩, .ok tag)

def finish (s : Scanner) : Except ScanError Unit :=
  match s.opener with
  | none => .ok ()
  | some o => .error (.unclosed o.region o.line o.text)

def trail (d : Dialect) : Scanner → List String → List (Except ScanError Tag × Scanner)
  | _, [] => []
  | s, line :: rest =>
    let (next, result) := s.step d line
    (result, next) :: trail d next rest

def after (d : Dialect) (s : Scanner) (lines : List String) : Scanner :=
  lines.foldl (fun s line => (s.step d line).1) s

def run (d : Dialect) : Scanner → List String → Except ScanError (List Tag)
  | s, [] => s.finish.map fun _ => []
  | s, line :: rest =>
    match s.step d line with
    | (_, .error e) => .error e
    | (next, .ok tag) => (run d next rest).map (tag :: ·)

end Scanner

-- The scanner with the region and its opener apart, so that a state could hold one without the
-- other.
structure Classifier where
  region : Option Region := none
  line : Nat := 0
  openedAt : Option (Nat × String) := none
  deriving DecidableEq, Repr

namespace Classifier

def enter (c : Classifier) (region : Region) (text : String) : Classifier :=
  { c with region := some region, openedAt := some (c.line, text) }

def leave (c : Classifier) : Classifier :=
  { c with region := none, openedAt := none }

def stepOutside (d : Dialect) (c : Classifier) (line : String) :
    Classifier × Except ScanError Tag :=
  if Text.contains line "/*" && Text.contains line "*/" then (c, .ok .comment)
  else if Text.contains line "/*" then (c.enter .comment line, .ok .plain)
  else if d.declaration.opensFunction line then (c.enter .function line, .ok .header)
  else if d.opensBlock line then (c.enter .conditional line, .ok .conditional)
  else if Text.startsWith line "#include" then (c, .ok .inclusion)
  else if line = "" then (c, .ok .plain)
  else (c, .error (.unrecognized c.line line))

def step (d : Dialect) (c : Classifier) (line : String) : Classifier × Except ScanError Tag :=
  let c := { c with line := c.line + 1 }
  match c.region with
  | none => c.stepOutside d line
  | some .comment => (if Text.contains line "*/" then c.leave else c, .ok .plain)
  | some .function =>
    if line = Text.openBrace then (c, .ok .opening)
    else if line = Text.closeBrace then (c.leave, .ok .closing)
    else (c, .ok .body)
  | some .conditional => (if d.closesBlock line then c.leave else c, .ok .conditional)

def finish (c : Classifier) : Except ScanError Unit :=
  match c.region, c.openedAt with
  | none, _ => .ok ()
  | some region, some (line, text) => .error (.unclosed region line text)
  | some region, none => .error (.unclosed region c.line "")

def after (d : Dialect) (c : Classifier) (lines : List String) : Classifier :=
  lines.foldl (fun c line => (c.step d line).1) c

def ofScanner (s : Scanner) : Classifier where
  region := s.region
  line := s.line
  openedAt := s.opener.map fun o => (o.line, o.text)

end Classifier

def Dialect.scan (d : Dialect) (lines : List String) : Except ScanError (List Tag) :=
  Scanner.run d {} lines

end Recast
