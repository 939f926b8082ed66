import Recast.Pattern.CharSet

set_option autoImplicit false

namespace Recast.Pattern

structure Gap where
  before : Option Char
  after : Option Char
  deriving DecidableEq, Repr

inductive Assertion where
  | textStart
  | textEnd
  | lineStart
  | lineEnd
  | returnStart
  | returnEnd
  | boundary (a : Alphabet)
  | noBoundary (a : Alphabet)
  | wordStart (a : Alphabet)
  | wordEnd (a : Alphabet)
  | noWordBefore (a : Alphabet)
  | noWordAfter (a : Alphabet)
  deriving DecidableEq, Repr

namespace Assertion

def holds : Assertion → Gap → Bool
  | .textStart, g => g.before.isNone
  | .textEnd, g => g.after.isNone
  | .lineStart, g => g.before.all (· == '\n')
  | .lineEnd, g => g.after.all (· == '\n')
  | .returnStart, g =>
    g.before.all fun c => c == '\n' || (c == '\r' && g.after != some '\n')
  | .returnEnd, g =>
    g.after.all fun c => c == '\r' || (c == '\n' && g.before != some '\r')
  | .boundary a, g => g.before.any a.isWord != g.after.any a.isWord
  | .noBoundary a, g => g.before.any a.isWord == g.after.any a.isWord
  | .wordStart a, g => !g.before.any a.isWord && g.after.any a.isWord
  | .wordEnd a, g => g.before.any a.isWord && !g.after.any a.isWord
  | .noWordBefore a, g => !g.before.any a.isWord
  | .noWordAfter a, g => !g.after.any a.isWord

end Assertion

inductive Expr where
  | empty
  | one (s : CharSet)
  | assert (a : Assertion)
  | seq (e f : Expr)
  | alt (e f : Expr)
  -- The expression `least` times, and then up to `more` times again (without limit if none).
  | rep (least : Nat) (more : Option Nat) (e : Expr)
  deriving DecidableEq, Repr

/-- The expression matches the middle of `front ++ middle ++ back`. -/
inductive Matches : Expr → (front middle back : List Char) → Prop where
  | empty (front back : List Char) : Matches .empty front [] back
  | one (s : CharSet) (c : Char) (front back : List Char) :
      s.contains c = true → Matches (.one s) front [c] back
  | assert (a : Assertion) (front back : List Char) :
      a.holds ⟨front.getLast?, back.head?⟩ = true → Matches (.assert a) front [] back
  | seq {e f : Expr} {front u v back : List Char} :
      Matches e front u (v ++ back) → Matches f (front ++ u) v back →
      Matches (.seq e f) front (u ++ v) back
  | left {e f : Expr} {front u back : List Char} :
      Matches e front u back → Matches (.alt e f) front u back
  | right {e f : Expr} {front u back : List Char} :
      Matches f front u back → Matches (.alt e f) front u back
  | done (more : Option Nat) (e : Expr) (front back : List Char) :
      Matches (.rep 0 more e) front [] back
  | must {least : Nat} {more : Option Nat} {e : Expr} {front u v back : List Char} :
      Matches e front u (v ++ back) → Matches (.rep least more e) (front ++ u) v back →
      Matches (.rep (least + 1) more e) front (u ++ v) back
  | mayOnce {more : Nat} {e : Expr} {front u v back : List Char} :
      Matches e front u (v ++ back) → Matches (.rep 0 (some more) e) (front ++ u) v back →
      Matches (.rep 0 (some (more + 1)) e) front (u ++ v) back
  | may {e : Expr} {front u v back : List Char} :
      Matches e front u (v ++ back) → Matches (.rep 0 none e) (front ++ u) v back →
      Matches (.rep 0 none e) front (u ++ v) back

namespace Expr

def andThen : Expr → Expr → Expr
  | .empty, f => f
  | e, f => .seq e f

def nullable (g : Gap) : Expr → Bool
  | .empty => true
  | .one _ => false
  | .assert a => a.holds g
  | .seq e f => e.nullable g && f.nullable g
  | .alt e f => e.nullable g || f.nullable g
  | .rep least _ e => least == 0 || e.nullable g

/-- What is left of a repetition once a round of it has begun; `skips` says that rounds before that
one may have matched the empty text. -/
def rounds (skips : Bool) (e : Expr) : (least : Nat) → (more : Option Nat) → List Expr
  | 0, none => [.rep 0 none e]
  | 0, some 0 => []
  | 0, some (more + 1) => [.rep 0 (some more) e]
  | least + 1, more =>
    if skips then (List.range (least + 1)).map (.rep · more e) else [.rep least more e]

/-- What may be left of the expression after the character `c`, which stands right after `g`. -/
def advance (g : Gap) (c : Char) : Expr → List Expr
  | .empty => []
  | .one s => if s.contains c then [.empty] else []
  | .assert _ => []
  | .seq e f =>
    (e.advance g c).map (·.andThen f) ++ if e.nullable g then f.advance g c else []
  | .alt e f => e.advance g c ++ f.advance g c
  | .rep least more e =>
    (e.advance g c).flatMap fun d => (rounds (e.nullable g) e least more).map d.andThen

/-- Whether one of `live` matches at the start of the text, or `e` matches further on. The text
follows the character `last`. -/
def search (e : Expr) : (last : Option Char) → (live : List Expr) → List Char → Bool
  | last, live, [] => live.any (·.nullable ⟨last, none⟩)
  | last, live, c :: rest =>
    let g : Gap := ⟨last, some c⟩
    live.any (·.nullable g) ||
      e.search (some c) ((e :: live.flatMap (·.advance g c)).eraseDups) rest

def occursIn (e : Expr) (text : List Char) : Bool :=
  e.search none [e] text

-- About how many bytes an automaton for the expression takes.
def weight : Expr → Nat
  | .empty | .assert _ => 32
  | .one s => s.weight
  | .seq e f => e.weight + f.weight
  | .alt e f => e.weight + f.weight + 32
  | .rep least more e => (least + more.getD 1) * (e.weight + 32)

end Expr

end Recast.Pattern
