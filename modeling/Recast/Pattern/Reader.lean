import Recast.Pattern.Expr
import Recast.Pattern.Property

set_option autoImplicit false

namespace Recast.Pattern

structure Modes where
  anyCase : Bool := false
  multiLine : Bool := false
  dotNewline : Bool := false
  returns : Bool := false
  loose : Bool := false
  alphabet : Alphabet := .unicode

structure Part where
  expr : Expr
  depth : Nat := 0
  repeatable : Bool := true

inductive Atom where
  | literal (c : Char) (byte : Bool)
  | set (s : CharSet)
  | place (a : Assertion)

def skipComments : (inComment : Bool) → List Char → List Char
  | _, [] => []
  | true, c :: rest => skipComments (c != '\n') rest
  | false, c :: rest =>
    if c == '#' then skipComments true rest
    else if Text.isBlank c then skipComments false rest
    else c :: rest

namespace Modes

def skip (m : Modes) (text : List Char) : List Char :=
  if m.loose then skipComments false text else text

def takeWhile (m : Modes) (p : Char → Bool) : (fuel : Nat) → List Char → List Char × List Char
  | fuel + 1, c :: rest =>
    if p c then
      let (taken, left) := m.takeWhile p fuel (m.skip rest)
      (c :: taken, left)
    else ([], c :: rest)
  | _, text => ([], text)

def withCase (m : Modes) (s : CharSet) : CharSet :=
  if m.anyCase then .anyCase m.alphabet s else s

-- The set or its complement. Over bytes a complement would hold parts of characters.
def negateIf (m : Modes) (negated : Bool) (s : CharSet) : Option CharSet :=
  match negated, m.alphabet with
  | false, _ => some s
  | true, .unicode => some (.complement s)
  | true, .ascii => none

def admits (m : Modes) (c : Char) : Bool :=
  m.alphabet == .unicode || c.toNat < 0x80

def blanks (m : Modes) : CharSet :=
  if m.alphabet == .unicode then .blank else CharSet.ranges [('\t', '\r'), (' ', ' ')]

def digits (m : Modes) : CharSet :=
  if m.alphabet == .unicode then .digit else .range '0' '9'

def words (m : Modes) : CharSet :=
  if m.alphabet == .unicode then .word
  else CharSet.ranges [('0', '9'), ('A', 'Z'), ('_', '_'), ('a', 'z')]

def dot? (m : Modes) : Option CharSet :=
  if m.alphabet == .ascii then none
  else if m.dotNewline then some .all
  else if m.returns then some (.complement (.union (.single '\r') (.single '\n')))
  else some (.complement (.single '\n'))

def lineStart (m : Modes) : Assertion :=
  if !m.multiLine then .textStart else if m.returns then .returnStart else .lineStart

def lineEnd (m : Modes) : Assertion :=
  if !m.multiLine then .textEnd else if m.returns then .returnEnd else .lineEnd

end Modes

namespace Reader

def isHexDigit (c : Char) : Bool :=
  c.isDigit || ('a' ≤ c && c ≤ 'f') || ('A' ≤ c && c ≤ 'F')

def isEscapable (c : Char) : Bool :=
  c.toNat < 0x80 && !c.isAlphanum && c != '<' && c != '>'

def charOfCode? (n : Nat) : Option Char :=
  if n.isValidChar then some (Char.ofNat n) else none

def fixedCode? (m : Modes) : (count value : Nat) → List Char → Option (Nat × List Char)
  | 0, value, text => some (value, text)
  | count + 1, value, c :: rest =>
    if isHexDigit c then fixedCode? m count (16 * value + Text.hexValue c) (m.skip rest) else none
  | _ + 1, _, [] => none

def codeEscape? (m : Modes) (count : Nat) (text : List Char) : Option (Atom × List Char) :=
  match m.skip text with
  | '{' :: rest =>
    match m.takeWhile (· != '}') rest.length (m.skip rest) with
    | (digits, _ :: left) =>
      if digits.isEmpty || !digits.all isHexDigit then none
      else (charOfCode? (Text.hexNumber digits)).map fun c => (.literal c false, m.skip left)
    | (_, []) => none
  | text =>
    (fixedCode? m count 0 text).bind fun (n, left) =>
      (charOfCode? n).map fun c => (.literal c (count == 2), left)

def query? (text : List Char) : Option (CharSet × Bool) :=
  let name := text.takeWhile fun c => c != '=' && c != ':'
  let negates := name.getLast? == some '!' && text[name.length]? == some '='
  match text.drop name.length with
  | [] => (Property.named? text).map fun s => (s, false)
  | _ :: value =>
    let name := if negates then name.dropLast else name
    (Property.valued? name value).map fun s => (s, negates)

def propertySet? (m : Modes) (negated : Bool) (q : Option (CharSet × Bool)) : Option Atom :=
  if m.alphabet == .ascii then none
  else q.bind fun (s, negates) =>
    (m.negateIf (negated != negates) (m.withCase s)).map .set

def propertyEscape? (m : Modes) (negated : Bool) (text : List Char) : Option (Atom × List Char) :=
  match m.skip text with
  | '{' :: rest =>
    match m.takeWhile (· != '}') rest.length (m.skip rest) with
    | (name, _ :: left) => (propertySet? m negated (query? name)).map fun a => (a, left)
    | (_, []) => none
  | c :: rest =>
    if c == '\\' then none
    else
      (propertySet? m negated ((Property.named? [c]).map fun s => (s, false))).map fun a =>
        (a, m.skip rest)
  | [] => none

-- A word boundary, or one of its named kinds in braces. Braces that hold no name are left for the
-- repetition that they begin.
def boundaryEscape? (m : Modes) (text : List Char) : Option (Atom × List Char) :=
  let isNameChar (c : Char) : Bool := c.isAlpha || c == '-'
  match text with
  | '{' :: rest =>
    match m.skip rest with
    | [] => none
    | c :: inner =>
      if !isNameChar c then some (.place (.boundary m.alphabet), text)
      else
        match m.takeWhile isNameChar (inner.length + 1) (c :: inner) with
        | (name, '}' :: left) =>
          match String.ofList name with
          | "start" => some (.place (.wordStart m.alphabet), left)
          | "end" => some (.place (.wordEnd m.alphabet), left)
          | "start-half" => some (.place (.noWordBefore m.alphabet), left)
          | "end-half" => some (.place (.noWordAfter m.alphabet), left)
          | _ => none
        | _ => none
  | _ => some (.place (.boundary m.alphabet), text)

def escape? (m : Modes) : List Char → Option (Atom × List Char)
  | [] => none
  | c :: rest =>
    let set (negated : Bool) (s : CharSet) := (m.negateIf negated s).map fun s => (Atom.set s, rest)
    match c with
    | 'x' => codeEscape? m 2 rest
    | 'u' => codeEscape? m 4 rest
    | 'U' => codeEscape? m 8 rest
    | 'p' => propertyEscape? m false rest
    | 'P' => propertyEscape? m true rest
    | 'd' => set false m.digits
    | 'D' => set true m.digits
    | 's' => set false m.blanks
    | 'S' => set true m.blanks
    | 'w' => set false m.words
    | 'W' => set true m.words
    | 'a' => some (.literal '\x07' false, rest)
    | 'f' => some (.literal '\x0c' false, rest)
    | 't' => some (.literal '\t' false, rest)
    | 'n' => some (.literal '\n' false, rest)
    | 'r' => some (.literal '\r' false, rest)
    | 'v' => some (.literal '\x0b' false, rest)
    | 'A' => some (.place .textStart, rest)
    | 'z' => some (.place .textEnd, rest)
    | 'b' => boundaryEscape? m rest
    | 'B' => some (.place (.noBoundary m.alphabet), rest)
    | '<' => some (.place (.wordStart m.alphabet), rest)
    | '>' => some (.place (.wordEnd m.alphabet), rest)
    | c => if isEscapable c then some (.literal c false, rest) else none

structure SetPart where
  set : CharSet
  depth : Nat := 0

inductive SetOp where
  | inter
  | minus
  | symmetric

-- A set that is still open: an operation waiting for its right side, and the items read since, the
-- last one first.
structure OpenSet where
  negated : Bool
  waiting : Option (SetOp × SetPart) := none
  items : List SetPart := []

namespace OpenSet

def push (o : OpenSet) (part : SetPart) : OpenSet :=
  { o with items := part :: o.items }

def union (o : OpenSet) : SetPart :=
  match o.items with
  | [] => ⟨.empty, 0⟩
  | [part] => part
  | parts => ⟨CharSet.unions (parts.reverse.map (·.set)), 1 + (parts.map (·.depth)).foldl max 0⟩

def total (m : Modes) (o : OpenSet) : SetPart :=
  let right := o.union
  match o.waiting with
  | none => right
  | some (op, left) =>
    let s := m.withCase left.set
    let t := m.withCase right.set
    let set := match op with
      | .inter => CharSet.inter s t
      | .minus => .minus s t
      | .symmetric => .symmetric s t
    ⟨set, 1 + max left.depth right.depth⟩

def operate (m : Modes) (o : OpenSet) (op : SetOp) : OpenSet :=
  { o with waiting := some (op, o.total m), items := [] }

def close? (m : Modes) (o : OpenSet) : Option SetPart :=
  let part := o.total m
  (m.negateIf o.negated (m.withCase part.set)).map fun s => ⟨s, part.depth + 1⟩

-- Leading dashes are literal, and so is a bracket that would close an empty set.
def begin (m : Modes) (text : List Char) : OpenSet × List Char :=
  let (negated, text) := match m.skip text with
    | '^' :: rest => (true, m.skip rest)
    | text => (false, text)
  let (dashes, text) := m.takeWhile (· == '-') text.length text
  let items := dashes.map fun c => (⟨.single c, 0⟩ : SetPart)
  match items, text with
  | [], ']' :: rest => (⟨negated, none, [⟨.single ']', 0⟩]⟩, m.skip rest)
  | items, text => (⟨negated, none, items⟩, text)

end OpenSet

def namedSet? (name : List Char) : Option CharSet :=
  match String.ofList name with
  | "alnum" => some (CharSet.ranges [('0', '9'), ('A', 'Z'), ('a', 'z')])
  | "alpha" => some (CharSet.ranges [('A', 'Z'), ('a', 'z')])
  | "ascii" => some (.range '\x00' '\x7f')
  | "blank" => some (CharSet.ranges [('\t', '\t'), (' ', ' ')])
  | "cntrl" => some (CharSet.ranges [('\x00', '\x1f'), ('\x7f', '\x7f')])
  | "digit" => some (.range '0' '9')
  | "graph" => some (.range '!' '~')
  | "lower" => some (.range 'a' 'z')
  | "print" => some (.range ' ' '~')
  | "punct" => some (CharSet.ranges [('!', '/'), (':', '@'), ('[', '\x60'), ('{', '~')])
  | "space" => some (CharSet.ranges [('\t', '\r'), (' ', ' ')])
  | "upper" => some (.range 'A' 'Z')
  | "word" => some (CharSet.ranges [('0', '9'), ('A', 'Z'), ('_', '_'), ('a', 'z')])
  | "xdigit" => some (CharSet.ranges [('0', '9'), ('A', 'F'), ('a', 'f')])
  | _ => none

/-- A named set such as `[:alpha:]`, without its opening bracket. The outer option says whether
there is one here, the inner whether it may be used. -/
def posixSet? (m : Modes) (text : List Char) : Option (Option CharSet × List Char) :=
  match text with
  | ':' :: rest =>
    let (negated, rest) := match rest with
      | '^' :: rest => (true, rest)
      | rest => (false, rest)
    let name := rest.takeWhile (· != ':')
    match rest.drop name.length with
    | ':' :: ']' :: left =>
      (namedSet? name).map fun s => (m.negateIf negated (m.withCase s), left)
    | _ => none
  | _ => none

def member? (m : Modes) : List Char → Option (Atom × List Char)
  | '\\' :: rest => escape? m rest
  | c :: rest => some (.literal c false, rest)
  | [] => none

def memberSet? (m : Modes) : Atom → Option CharSet
  | .literal c _ => if m.admits c then some (.single c) else none
  | .set s => some s
  | .place _ => none

def memberRange? (m : Modes) : Atom → Atom → Option CharSet
  | .literal lo _, .literal hi _ =>
    if lo ≤ hi && m.admits lo && m.admits hi then some (.range lo hi) else none
  | _, _ => none

def item? (m : Modes) (text : List Char) : Option (CharSet × List Char) :=
  (member? m text).bind fun (first, rest) =>
    let alone := (memberSet? m first).map fun s => (s, m.skip rest)
    match m.skip rest with
    | '-' :: after =>
      match m.skip after with
      | ']' :: _ | '-' :: _ => alone
      | after =>
        (member? m after).bind fun (last, left) =>
          (memberRange? m first last).map fun s => (s, left)
    | _ => alone

def readSet (m : Modes) : (fuel : Nat) → (current : OpenSet) → (outer : List OpenSet) →
    List Char → Option (SetPart × List Char)
  | 0, _, _, _ => none
  | fuel + 1, current, outer, text =>
    let deeper (rest : List Char) :=
      let (inner, rest) := OpenSet.begin m rest
      readSet m fuel inner (current :: outer) rest
    match m.skip text with
    | [] => none
    | '[' :: rest =>
      match posixSet? m rest with
      | some (some s, left) => readSet m fuel (current.push ⟨s, 0⟩) outer left
      | some (none, _) => none
      | none => deeper rest
    | ']' :: rest =>
      match current.close? m, outer with
      | none, _ => none
      | some part, [] => some (part, rest)
      | some part, parent :: outer => readSet m fuel (parent.push part) outer rest
    | '&' :: '&' :: rest => readSet m fuel (current.operate m .inter) outer rest
    | '-' :: '-' :: rest => readSet m fuel (current.operate m .minus) outer rest
    | '~' :: '~' :: rest => readSet m fuel (current.operate m .symmetric) outer rest
    | text =>
      match item? m text with
      | some (s, left) => readSet m fuel (current.push ⟨s, 0⟩) outer left
      | none => none

structure FlagList where
  seen : List Char := []
  modes : Modes
  off : Bool := false
  dangling : Bool := false

def FlagList.add? (f : FlagList) (c : Char) : Option FlagList :=
  if f.seen.contains c then none
  else
    let on := !f.off
    let next (m : Modes) : Option FlagList :=
      some { f with seen := c :: f.seen, modes := m, dangling := false }
    match c with
    | '-' => some { f with seen := c :: f.seen, off := true, dangling := true }
    | 'i' => next { f.modes with anyCase := on }
    | 'm' => next { f.modes with multiLine := on }
    | 's' => next { f.modes with dotNewline := on }
    | 'R' => next { f.modes with returns := on }
    | 'x' => next { f.modes with loose := on }
    | 'u' => next { f.modes with alphabet := if on then .unicode else .ascii }
    | 'U' => next f.modes
    | _ => none

/-- A group that is still open: the modes to return to after it, its finished branches and the parts
of the present one, last ones first. -/
structure OpenGroup where
  saved : Modes
  branches : List Part := []
  parts : List Part := []

def joinParts : List Part → Part
  | [] => ⟨.empty, 0, true⟩
  | [part] => part
  | last :: before =>
    { expr := before.foldl (fun e part => part.expr.andThen e) last.expr
      depth := 1 + ((last :: before).map (·.depth)).foldl max 0 }

namespace OpenGroup

def push (o : OpenGroup) (part : Part) : OpenGroup :=
  { o with parts := part :: o.parts }

def branch (o : OpenGroup) : OpenGroup :=
  { o with branches := joinParts o.parts :: o.branches, parts := [] }

def total (o : OpenGroup) : Part :=
  match o.branches with
  | [] => joinParts o.parts
  | branches =>
    let last := joinParts o.parts
    { expr := branches.foldl (fun e part => .alt part.expr e) last.expr
      depth := 1 + ((last :: branches).map (·.depth)).foldl max 0 }

end OpenGroup

structure State where
  modes : Modes := {}
  names : List (List Char) := []
  group : OpenGroup := { saved := {} }
  outer : List OpenGroup := []

namespace State

def push (s : State) (part : Part) : State :=
  { s with group := s.group.push part }

def enter (s : State) (modes : Modes) : State :=
  { s with modes, group := { saved := s.modes }, outer := s.group :: s.outer }

def leave? (s : State) : Option State :=
  match s.outer with
  | [] => none
  | parent :: outer =>
    let part := s.group.total
    some { s with
      modes := s.group.saved
      group := parent.push { expr := part.expr, depth := part.depth + 1 }
      outer }

def repeat? (s : State) (least : Nat) (more : Option Nat) : Option State :=
  match s.group.parts with
  | part :: before =>
    if part.repeatable then
      let part := { expr := .rep least more part.expr, depth := part.depth + 1 }
      some { s with group := { s.group with parts := part :: before } }
    else none
  | [] => none

end State

-- The text after a question mark that makes a repetition lazy; which of several matches is meant
-- has no bearing on whether there is one.
def dropLazy : List Char → List Char
  | '?' :: rest => rest
  | rest => rest

def number? (m : Modes) (text : List Char) : Option (Nat × List Char) :=
  let text := text.dropWhile Text.isBlank
  let (digits, rest) := m.takeWhile Char.isDigit text.length text
  let n := digits.foldl (fun n c => 10 * n + (c.toNat - '0'.toNat)) 0
  if digits.isEmpty || n > 0xFFFFFFFF then none
  else some (n, m.skip (rest.dropWhile Text.isBlank))

def counts? (m : Modes) (text : List Char) : Option (Nat × Option Nat × List Char) :=
  match number? m (m.skip text) with
  | some (least, '}' :: rest) => some (least, some 0, dropLazy (m.skip rest))
  | some (least, ',' :: rest) =>
    match m.skip rest with
    | '}' :: rest => some (least, none, dropLazy (m.skip rest))
    | rest =>
      match number? m rest with
      | some (most, '}' :: rest) =>
        if least ≤ most then some (least, some (most - least), dropLazy (m.skip rest)) else none
      | _ => none
  | _ => none

def isNameStart (c : Char) : Bool :=
  c == '_' || Text.isAlphabetic c

def isNameRest (c : Char) : Bool :=
  isNameStart c || c == '.' || c == '[' || c == ']' || (Text.category c).isNumber

def groupName? (text : List Char) : Option (List Char × List Char) :=
  match text.takeWhile (· != '>'), text.dropWhile (· != '>') with
  | first :: others, _ :: rest =>
    if isNameStart first && others.all isNameRest then some (first :: others, rest) else none
  | _, _ => none

def namedGroup? (s : State) (text : List Char) : Option (State × List Char) :=
  (groupName? text).bind fun (name, rest) =>
    if s.names.contains name then none
    else some ({ s with names := name :: s.names }.enter s.modes, rest)

def flagGroup? (s : State) : FlagList → List Char → Option (State × List Char)
  | _, [] => none
  | f, ')' :: rest =>
    if f.dangling || f.seen.isEmpty then none
    else
      let s := s.push { expr := .empty, repeatable := false }
      some ({ s with modes := f.modes }, rest)
  | f, ':' :: rest => if f.dangling then none else some (s.enter f.modes, rest)
  | f, c :: rest => (f.add? c).bind fun f => flagGroup? s f rest

def openGroup? (s : State) (text : List Char) : Option (State × List Char) :=
  match s.modes.skip text with
  | '?' :: '=' :: _ | '?' :: '!' :: _ => none
  | '?' :: '<' :: '=' :: _ | '?' :: '<' :: '!' :: _ => none
  | '?' :: 'P' :: '<' :: rest => namedGroup? s rest
  | '?' :: '<' :: rest => namedGroup? s rest
  | '?' :: rest => flagGroup? s { modes := s.modes } rest
  | rest => some (s.enter s.modes, rest)

def atomPart? (m : Modes) : Atom → Option Part
  | .literal c byte =>
    if byte && !m.admits c then none
    else if m.admits c then some { expr := .one (m.withCase (.single c)) }
    else some { expr := .one (.single c) }
  | .set s => some { expr := .one s }
  | .place a => some { expr := .assert a }

def step? (s : State) (text : List Char) : Option (State × List Char) :=
  let m := s.modes
  match text with
  | [] => some (s, [])
  | '(' :: rest => openGroup? s rest
  | ')' :: rest => s.leave?.map fun s => (s, rest)
  | '|' :: rest => some ({ s with group := s.group.branch }, rest)
  | '[' :: rest =>
    let (first, inner) := OpenSet.begin m rest
    (readSet m (rest.length + 1) first [] inner).map fun (part, left) =>
      (s.push { expr := .one part.set, depth := part.depth }, left)
  | '?' :: rest => (s.repeat? 0 (some 1)).map fun s => (s, dropLazy rest)
  | '*' :: rest => (s.repeat? 0 none).map fun s => (s, dropLazy rest)
  | '+' :: rest => (s.repeat? 1 none).map fun s => (s, dropLazy rest)
  | '{' :: rest =>
    (counts? m rest).bind fun (least, more, left) =>
      (s.repeat? least more).map fun s => (s, left)
  | '\\' :: rest =>
    (escape? m rest).bind fun (atom, left) =>
      (atomPart? m atom).map fun part => (s.push part, left)
  | '.' :: rest => m.dot?.map fun set => (s.push { expr := .one set }, rest)
  | '^' :: rest => some (s.push { expr := .assert m.lineStart }, rest)
  | '$' :: rest => some (s.push { expr := .assert m.lineEnd }, rest)
  | c :: rest => (atomPart? m (.literal c false)).map fun part => (s.push part, rest)

def run : (fuel : Nat) → State → List Char → Option State
  | 0, s, text => if (s.modes.skip text).isEmpty then some s else none
  | fuel + 1, s, text =>
    match s.modes.skip text with
    | [] => some s
    | text => (step? s text).bind fun (s, rest) => run fuel s rest

def depthLimit : Nat := 250

def weightLimit : Nat := 10 * 1024 * 1024

inductive Fault where
  | malformed
  | tooLarge
  deriving DecidableEq, Repr

def read (text : List Char) : Except Fault Expr :=
  match run text.length {} text with
  | some s =>
    let part := s.group.total
    if !s.outer.isEmpty || depthLimit < part.depth then .error .malformed
    else if weightLimit < part.expr.weight then .error .tooLarge
    else .ok part.expr
  | none => .error .malformed

end Reader

end Recast.Pattern

namespace Recast

structure Pattern where
  source : String
  expr : Pattern.Expr

namespace Pattern

def ofSourceWith (read : List Char → Except Reader.Fault Expr) (source : String) :
    Except Reader.Fault Pattern :=
  (read source.toList).map fun expr => { source, expr }

def ofSource (source : String) : Except Reader.Fault Pattern :=
  ofSourceWith Reader.read source

def matchesLine (p : Pattern) (line : String) : Bool :=
  p.expr.occursIn line.toList

end Pattern

end Recast
