import Recast.Data
import Recast.Text

set_option autoImplicit false

namespace Recast.Toml

def isSpace (c : Char) : Bool :=
  c == ' ' || c == '\t'

def dropSpaces (text : List Char) : List Char :=
  text.dropWhile isSpace

def newline? : List Char → Option (List Char)
  | '\n' :: rest => some rest
  | '\r' :: '\n' :: rest => some rest
  | _ => none

def isCommentChar (c : Char) : Bool :=
  c == '\t' || (0x20 ≤ c.toNat && c != '\x7f')

def dropComment : List Char → List Char
  | '#' :: rest => rest.dropWhile isCommentChar
  | text => text

def lineEnd? (text : List Char) : Option (List Char) :=
  match dropComment (dropSpaces text) with
  | [] => some []
  | text => newline? text

def dropLayout : (inComment : Bool) → List Char → List Char
  | _, [] => []
  | true, c :: rest =>
    if c == '\n' then dropLayout false rest
    else if isCommentChar c then dropLayout true rest
    else match c, rest with
      | '\r', '\n' :: rest => dropLayout false rest
      | c, rest => c :: rest
  | false, c :: rest =>
    if isSpace c || c == '\n' then dropLayout false rest
    else match c, rest with
      | '#', rest => dropLayout true rest
      | '\r', '\n' :: rest => dropLayout false rest
      | c, rest => c :: rest

def isPlain (quote c : Char) : Bool :=
  c != quote && (c == '\t' || (0x20 ≤ c.toNat && c.toNat ≤ 0x7E) || 0x80 ≤ c.toNat)

def isHexDigit (c : Char) : Bool :=
  c.isDigit || ('a' ≤ c && c ≤ 'f') || ('A' ≤ c && c ≤ 'F')

def codeChar? (digits : List Char) : Option Char :=
  let n := Text.hexNumber digits
  if digits.all isHexDigit && n.isValidChar then some (Char.ofNat n) else none

def shortEscape? : Char → Option Char
  | 'b' => some '\x08'
  | 't' => some '\t'
  | 'n' => some '\n'
  | 'f' => some '\x0c'
  | 'r' => some '\r'
  | '"' => some '"'
  | '\\' => some '\\'
  | _ => none

def basicString? (read : List Char) : List Char → Option (List Char × List Char)
  | [] => none
  | '"' :: rest => some (read.reverse, rest)
  | '\\' :: 'u' :: a :: b :: c :: d :: rest =>
    (codeChar? [a, b, c, d]).bind fun x => basicString? (x :: read) rest
  | '\\' :: 'U' :: a :: b :: c :: d :: e :: f :: g :: h :: rest =>
    (codeChar? [a, b, c, d, e, f, g, h]).bind fun x => basicString? (x :: read) rest
  | '\\' :: c :: rest => (shortEscape? c).bind fun x => basicString? (x :: read) rest
  | c :: rest => if isPlain '\\' c then basicString? (c :: read) rest else none

def literalString? (text : List Char) : Option (List Char × List Char) :=
  match text.dropWhile (isPlain '\'') with
  | '\'' :: rest => some (text.takeWhile (isPlain '\''), rest)
  | _ => none

inductive Flow where
  | text
  | escapedEnd
  | trimming
  deriving DecidableEq

-- The rest of a string over several lines. Up to two quotes before the last three belong to it.
def longBasicString? (flow : Flow) (read : List Char) :
    List Char → Option (List Char × List Char)
  | [] => none
  | c :: rest =>
    if flow == .escapedEnd then
      match c, rest with
      | '\n', rest => longBasicString? .trimming read rest
      | '\r', '\n' :: rest => longBasicString? .trimming read rest
      | c, rest => if isSpace c then longBasicString? .escapedEnd read rest else none
    else if flow == .trimming && (isSpace c || c == '\n') then longBasicString? .trimming read rest
    else
      match c, rest with
      | '\r', '\n' :: rest =>
        if flow == .trimming then longBasicString? .trimming read rest
        else longBasicString? .text ('\n' :: read) rest
      | '\n', rest => longBasicString? .text ('\n' :: read) rest
      | '"', '"' :: '"' :: '"' :: '"' :: rest => some (('"' :: '"' :: read).reverse, rest)
      | '"', '"' :: '"' :: '"' :: rest => some (('"' :: read).reverse, rest)
      | '"', '"' :: '"' :: rest => some (read.reverse, rest)
      | '\\', 'u' :: a :: b :: c :: d :: rest =>
        (codeChar? [a, b, c, d]).bind fun x => longBasicString? .text (x :: read) rest
      | '\\', 'U' :: a :: b :: c :: d :: e :: f :: g :: h :: rest =>
        (codeChar? [a, b, c, d, e, f, g, h]).bind fun x => longBasicString? .text (x :: read) rest
      | '\\', c :: rest =>
        if c == '\n' then longBasicString? .trimming read rest
        else if isSpace c || c == '\r' && rest.head? == some '\n' then
          longBasicString? .escapedEnd read rest
        else (shortEscape? c).bind fun x => longBasicString? .text (x :: read) rest
      | c, rest => if isPlain '\\' c then longBasicString? .text (c :: read) rest else none

def longLiteralString? (read : List Char) : List Char → Option (List Char × List Char)
  | [] => none
  | '\'' :: '\'' :: '\'' :: '\'' :: '\'' :: rest => some (('\'' :: '\'' :: read).reverse, rest)
  | '\'' :: '\'' :: '\'' :: '\'' :: rest => some (('\'' :: read).reverse, rest)
  | '\'' :: '\'' :: '\'' :: rest => some (read.reverse, rest)
  | '\r' :: '\n' :: rest => longLiteralString? ('\n' :: read) rest
  | '\n' :: rest => longLiteralString? ('\n' :: read) rest
  | c :: rest => if isPlain '\x7f' c then longLiteralString? (c :: read) rest else none

def afterOpening (text : List Char) : List Char :=
  (newline? text).getD text

def string? : List Char → Option (List Char × List Char)
  | '"' :: '"' :: '"' :: rest => longBasicString? .text [] (afterOpening rest)
  | '"' :: rest => basicString? [] rest
  | '\'' :: '\'' :: '\'' :: rest => longLiteralString? [] (afterOpening rest)
  | '\'' :: rest => literalString? rest
  | _ => none

def digits? (isDigit : Char → Bool) (text : List Char) : Option (List Char × List Char) :=
  let token := text.takeWhile fun c => isDigit c || c == '_'
  let groups := token.splitOn '_'
  if groups.all (! ·.isEmpty) then some (token.filter (· != '_'), text.drop token.length) else none

def dropSign : List Char → List Char
  | '+' :: rest => rest
  | '-' :: rest => rest
  | text => text

def decimal (digits : List Char) : Nat :=
  digits.foldl (fun n c => 10 * n + (c.toNat - '0'.toNat)) 0

def inBase (base : Nat) (digits : List Char) : Nat :=
  digits.foldl (fun n c => base * n + Text.hexValue c) 0

def wholeDigits? (text : List Char) : Option (List Char × List Char) :=
  match digits? Char.isDigit text with
  | some ('0' :: _ :: _, _) => none
  | result => result

def isBetween (lo hi c : Char) : Bool :=
  lo ≤ c && c ≤ hi

def wordLimit : Nat := 0x8000000000000000

def integer? (text : List Char) : Option (List Char) :=
  let based (base : Nat) (isDigit : Char → Bool) (rest : List Char) : Option (List Char) :=
    (digits? isDigit rest).bind fun (ds, rest) =>
      if inBase base ds < wordLimit then some rest else none
  match text with
  | '0' :: 'x' :: rest => based 16 isHexDigit rest
  | '0' :: 'o' :: rest => based 8 (isBetween '0' '7') rest
  | '0' :: 'b' :: rest => based 2 (isBetween '0' '1') rest
  | text =>
    (wholeDigits? (dropSign text)).bind fun (ds, rest) =>
      let limit := if text.head? == some '-' then wordLimit + 1 else wordLimit
      if decimal ds < limit then some rest else none

def fraction? : List Char → Option (List Char × List Char)
  | '.' :: rest => digits? Char.isDigit rest
  | _ => none

def exponent? : List Char → Option (Bool × List Char × List Char)
  | e :: rest =>
    if e == 'e' || e == 'E' then
      (digits? Char.isDigit (dropSign rest)).map fun (ds, left) =>
        (rest.head? == some '-', ds, left)
    else none
  | [] => none

def overflows (mantissa places : Nat) (negative : Bool) (exponent : Nat) : Bool :=
  -- From here on a number rounds up past the largest finite one.
  let limit := Nat.pow 2 1024 - Nat.pow 2 970
  if mantissa == 0 then false
  else if negative then limit * Nat.pow 10 (min (places + exponent) 100000) ≤ mantissa
  else if 5000 + places < exponent then true
  else limit * Nat.pow 10 places ≤ mantissa * Nat.pow 10 exponent

def float? (text : List Char) : Option (List Char) :=
  match dropSign text with
  | 'i' :: 'n' :: 'f' :: rest => some rest
  | 'n' :: 'a' :: 'n' :: rest => some rest
  | unsigned =>
    (wholeDigits? unsigned).bind fun (whole, rest) =>
      let finite (fraction : List Char) (exponent : Bool × List Char) (rest : List Char) :
          Option (List Char) :=
        if text.head? != some '-' && overflows (decimal (whole ++ fraction)) fraction.length
          exponent.1 (decimal exponent.2) then none
        else some rest
      match fraction? rest with
      | some (fraction, rest) =>
        match exponent? rest with
        | some (negative, ds, rest) => finite fraction (negative, ds) rest
        | none => finite fraction (false, []) rest
      | none => (exponent? rest).bind fun (negative, ds, rest) => finite [] (negative, ds) rest

def number? (count : Nat) (text : List Char) : Option (Nat × List Char) :=
  let ds := text.take count
  if ds.length == count && ds.all Char.isDigit then some (decimal ds, text.drop count) else none

def sign? (c : Char) : List Char → Option (List Char)
  | d :: rest => if c == d then some rest else none
  | [] => none

def daysIn (year month : Nat) : Nat :=
  let leap := year % 4 == 0 && (year % 100 != 0 || year % 400 == 0)
  match month with
  | 2 => if leap then 29 else 28
  | 4 | 6 | 9 | 11 => 30
  | _ => 31

def date? (text : List Char) : Option (List Char) := do
  let (year, text) ← number? 4 text
  let (month, text) ← number? 2 (← sign? '-' text)
  let (day, text) ← number? 2 (← sign? '-' text)
  if 1 ≤ month && month ≤ 12 && 1 ≤ day && day ≤ daysIn year month then some text else none

def time? (text : List Char) : Option (List Char) := do
  let (hour, text) ← number? 2 text
  let (minute, text) ← number? 2 (← sign? ':' text)
  let (second, text) ← number? 2 (← sign? ':' text)
  if 23 < hour || 59 < minute || 60 < second then none
  match text with
  | '.' :: d :: rest => if d.isDigit then some (rest.dropWhile Char.isDigit) else some text
  | text => some text

def dropOffset (text : List Char) : List Char :=
  let offset? : Option (List Char) :=
    match text with
    | c :: rest =>
      if c == 'Z' || c == 'z' then some rest
      else if c == '+' || c == '-' then do
        let (hour, rest) ← number? 2 rest
        let (minute, rest) ← number? 2 (← sign? ':' rest)
        if hour ≤ 23 && minute ≤ 59 then some rest else none
      else none
    | [] => none
  offset?.getD text

def dateTime? (text : List Char) : Option (List Char) :=
  match date? text with
  | some rest =>
    let timed? : Option (List Char) :=
      match rest with
      | c :: rest => if c == 'T' || c == 't' || c == ' ' then time? rest else none
      | [] => none
    some ((timed?.map dropOffset).getD rest)
  | none => time? text

def taken (text rest : List Char) : String :=
  String.ofList (text.take (text.length - rest.length))

def scalar? (text : List Char) : Option (Data × List Char) :=
  match text with
  | 't' :: 'r' :: 'u' :: 'e' :: rest => some (.flag true, rest)
  | 'f' :: 'a' :: 'l' :: 's' :: 'e' :: rest => some (.flag false, rest)
  | text =>
    match dateTime? text with
    | some rest => some (.date (taken text rest), rest)
    | none =>
      ((float? text).or (integer? text)).map fun rest => (.number (taken text rest), rest)

end Recast.Toml
