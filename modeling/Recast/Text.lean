import Recast.Text.Category

set_option autoImplicit false

namespace Recast.Text

def openBrace : String := String.ofList ['{']

def closeBrace : String := String.ofList ['}']

@[simp] theorem closeBrace_ne_openBrace : closeBrace ≠ openBrace := by decide

@[simp] theorem toList_openBrace : openBrace.toList = ['{'] := String.toList_ofList

@[simp] theorem toList_closeBrace : closeBrace.toList = ['}'] := String.toList_ofList

def isBlank (c : Char) : Bool :=
  let n := c.toNat
  (0x9 ≤ n && n ≤ 0xD) || n == 0x20 || n == 0x85 || n == 0xA0 || n == 0x1680 ||
    (0x2000 ≤ n && n ≤ 0x200A) || n == 0x2028 || n == 0x2029 || n == 0x202F || n == 0x205F ||
    n == 0x3000

def trimStart (text : List Char) : List Char :=
  text.dropWhile isBlank

def trim (text : List Char) : List Char :=
  ((trimStart text).reverse.dropWhile isBlank).reverse

def isBlankLine (line : String) : Bool :=
  line.toList.all isBlank

def startsWith (line piece : String) : Bool :=
  piece.toList.isPrefixOf line.toList

def occursIn (piece : List Char) : List Char → Bool
  | [] => piece.isEmpty
  | c :: rest => piece.isPrefixOf (c :: rest) || occursIn piece rest

def contains (line piece : String) : Bool :=
  occursIn piece.toList line.toList

theorem occursIn_iff_infix {piece text : List Char} : occursIn piece text ↔ piece <:+: text := by
  induction text with
  | nil => simp [occursIn]
  | cons c rest ih => simp [occursIn, ih, List.infix_cons_iff]

theorem contains_iff_infix {line piece : String} :
    contains line piece ↔ piece.toList <:+: line.toList :=
  occursIn_iff_infix

def dropReturn : List Char → List Char
  | '\r' :: rest => rest
  | rest => rest

/-- The lines of a text that follows the characters `line` (backwards) of its first line. -/
def splitAfter : (line text : List Char) → List (List Char)
  | [], [] => []
  | line, [] => [line.reverse]
  | line, '\n' :: rest => (dropReturn line).reverse :: splitAfter [] rest
  | line, c :: rest => splitAfter (c :: line) rest

def lines (text : String) : List String :=
  (splitAfter [] text.toList).map String.ofList

def unlines (lines : List String) : String :=
  String.join (lines.map (· ++ "\n"))

def hexDigits (n : Nat) : List Char :=
  Nat.toDigits 16 n

def escape (c : Char) : List Char :=
  match c with
  | '\x00' => ['\\', '0']
  | '\t' => ['\\', 't']
  | '\r' => ['\\', 'r']
  | '\n' => ['\\', 'n']
  | '\\' => ['\\', '\\']
  | '"' => ['\\', '"']
  | c =>
    if isAttached c || !isPrintable c then
      ['\\', 'u', '{'] ++ hexDigits c.toNat ++ ['}']
    else [c]

def quoted (text : String) : String :=
  String.ofList ('"' :: text.toList.flatMap escape ++ ['"'])

end Recast.Text
