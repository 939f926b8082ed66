import Recast.Dialect

set_option autoImplicit false

namespace Recast.Dialect

namespace Listing

def escapeJson (c : Char) : List Char :=
  match c with
  | '"' => ['\\', '"']
  | '\\' => ['\\', '\\']
  | '\n' => ['\\', 'n']
  | '\r' => ['\\', 'r']
  | '\t' => ['\\', 't']
  | '\x08' => ['\\', 'b']
  | '\x0c' => ['\\', 'f']
  | c =>
    if c.toNat < 0x20 then
      ['\\', 'u', '0', '0'] ++ Nat.toDigits 16 (c.toNat / 16) ++ Nat.toDigits 16 (c.toNat % 16)
    else [c]

def jsonText (text : String) : String :=
  String.ofList ('"' :: text.toList.flatMap escapeJson ++ ['"'])

def jsonBlock (depth : Nat) (opening closing : String) (items : List String) : String :=
  let margin (n : Nat) : String := "\n" ++ String.ofList (List.replicate (2 * n) ' ')
  if items.isEmpty then opening ++ closing
  else opening ++ margin (depth + 1) ++ ("," ++ margin (depth + 1)).intercalate items ++
    margin depth ++ closing

def jsonSummary (s : Summary) : String :=
  jsonBlock 1 Text.openBrace Text.closeBrace [
    "\"name\": " ++ jsonText s.name,
    "\"sources\": " ++ jsonBlock 2 "[" "]" (s.sources.map jsonText),
    "\"declaration\": " ++ jsonText s.declaration,
    "\"conditionals\": " ++ jsonText s.conditionals,
    "\"substitutions\": " ++ toString s.substitutions]

def json (summaries : List Summary) : String :=
  jsonBlock 0 "[" "]" (summaries.map jsonSummary) ++ "\n"

def plainSummary (s : Summary) : String :=
  s.name ++ "\n" ++
  "  sources:       " ++ (if s.sources.isEmpty then "-" else ", ".intercalate s.sources) ++ "\n" ++
  "  declarations:  " ++ s.declaration ++ "\n" ++
  "  conditionals:  " ++ s.conditionals ++ "\n" ++
  "  substitutions: " ++ toString s.substitutions ++ "\n"

def plain (summaries : List Summary) : String :=
  String.join (summaries.map plainSummary)

end Listing

end Recast.Dialect
