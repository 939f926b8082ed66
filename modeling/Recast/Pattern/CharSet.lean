import Recast.Text
import Recast.Text.CaseFold
import Recast.Text.Script

set_option autoImplicit false

namespace Recast.Pattern

open Text (Category)

inductive Alphabet where
  | unicode
  | ascii
  deriving DecidableEq, Repr

namespace Alphabet

def isWord : Alphabet → Char → Bool
  | .unicode => Text.isWord
  | .ascii => Text.isAsciiWord

def variants : Alphabet → Char → List Char
  | .unicode, c => Text.caseVariants c
  | .ascii, c => [c, Text.swapAsciiCase c]

end Alphabet

inductive CharSet where
  | empty
  | range (lo hi : Char)
  | blank
  | digit
  | word
  | alphabetic
  | category (g : Category)
  | script (code : List Char)
  | complement (s : CharSet)
  | union (s t : CharSet)
  | inter (s t : CharSet)
  | minus (s t : CharSet)
  | symmetric (s t : CharSet)
  | anyCase (a : Alphabet) (s : CharSet)
  deriving DecidableEq, Repr

namespace CharSet

def contains : CharSet → Char → Bool
  | .empty, _ => false
  | .range lo hi, c => lo ≤ c && c ≤ hi
  | .blank, c => Text.isBlank c
  | .digit, c => Text.isDecimalDigit c
  | .word, c => Text.isWord c
  | .alphabetic, c => Text.isAlphabetic c
  | .category g, c => Text.category c == g
  | .script code, c => Text.script c == code
  | .complement s, c => !s.contains c
  | .union s t, c => s.contains c || t.contains c
  | .inter s t, c => s.contains c && t.contains c
  | .minus s t, c => s.contains c && !t.contains c
  | .symmetric s t, c => s.contains c != t.contains c
  | .anyCase a s, c => (a.variants c).any s.contains

def single (c : Char) : CharSet :=
  .range c c

def all : CharSet :=
  .complement .empty

def unions : List CharSet → CharSet
  | [] => .empty
  | [s] => s
  | s :: rest => .union s (unions rest)

def ranges (pairs : List (Char × Char)) : CharSet :=
  unions (pairs.map fun (lo, hi) => .range lo hi)

def weight : CharSet → Nat
  | .empty => 32
  | .range lo hi => if hi.toNat < 0x80 then 32 else if lo == hi then 32 * lo.utf8Size else 160
  | .blank => 480
  | .digit => 2600
  | .word | .alphabetic => 19000
  | .category _ | .script _ => 4000
  | .complement s => s.weight + 480
  | .union s t | .inter s t | .minus s t | .symmetric s t => s.weight + t.weight
  | .anyCase _ s => 2 * s.weight

end CharSet

end Recast.Pattern
