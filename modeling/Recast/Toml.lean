import Recast.Toml.Scalar
import Recast.Toml.Table

set_option autoImplicit false

namespace Recast.Toml

def depthLimit : Nat := 80

def isBareKeyChar (c : Char) : Bool :=
  c.isAlphanum || c == '-' || c == '_'

def keyPart? (text : List Char) : Option (String × List Char) :=
  match text with
  | '"' :: rest => (basicString? [] rest).map fun (k, rest) => (String.ofList k, rest)
  | '\'' :: rest => (literalString? rest).map fun (k, rest) => (String.ofList k, rest)
  | text =>
    let name := text.takeWhile isBareKeyChar
    if name.isEmpty then none else some (String.ofList name, text.drop name.length)

def keyParts? : (fuel : Nat) → List Char → Option (List String × String × List Char)
  | 0, _ => none
  | fuel + 1, text =>
    (keyPart? (dropSpaces text)).bind fun (part, rest) =>
      match dropSpaces rest with
      | '.' :: rest =>
        (keyParts? fuel rest).map fun (path, last, rest) => (part :: path, last, rest)
      | rest => some ([], part, rest)

def key? (text : List Char) : Option (List String × String × List Char) :=
  keyParts? (depthLimit - 1) text

mutual

def value? : (fuel depth : Nat) → List Char → Option (Data × List Char)
  | 0, _, _ => none
  | fuel + 1, depth, text =>
    match text with
    | '"' :: _ | '\'' :: _ => (string? text).map fun (s, rest) => (.text (String.ofList s), rest)
    | '[' :: rest =>
      if depthLimit ≤ depth + 1 then none
      else (items? fuel (depth + 1) rest).map fun (items, rest) => (.list items, rest)
    | '{' :: rest =>
      if depthLimit ≤ depth + 1 then none
      else
        match dropSpaces rest with
        | '}' :: rest => some (.record [], rest)
        | rest =>
          (pairs? fuel (depth + 1) [] rest).map fun (fields, rest) =>
            (.record (fieldsToData fields), rest)
    | text => scalar? text

def items? : (fuel depth : Nat) → List Char → Option (List Data × List Char)
  | 0, _, _ => none
  | fuel + 1, depth, text =>
    match dropLayout false text with
    | ']' :: rest => some ([], rest)
    | text =>
      (value? fuel depth text).bind fun (item, rest) =>
        match dropLayout false rest with
        | ',' :: rest => (items? fuel depth rest).map fun (items, rest) => (item :: items, rest)
        | ']' :: rest => some ([item], rest)
        | _ => none

def pairs? : (fuel depth : Nat) → Fields → List Char → Option (Fields × List Char)
  | 0, _, _, _ => none
  | fuel + 1, depth, fields, text =>
    match key? text with
    | some (path, key, '=' :: rest) =>
      (value? fuel depth (dropSpaces rest)).bind fun (value, rest) =>
        (fields.add? path key value).bind fun fields =>
          match dropSpaces rest with
          | ',' :: rest => pairs? fuel depth fields rest
          | '}' :: rest => some (fields, rest)
          | _ => none
    | _ => none

end

def header? (d : Draft) : List Char → Option (Draft × List Char)
  | '[' :: text =>
    match key? text with
    | some (path, key, ']' :: ']' :: rest) => do
      let rest ← lineEnd? rest
      let d ← d.openItem? path key
      return (d, rest)
    | _ => none
  | text =>
    match key? text with
    | some (path, key, ']' :: rest) => do
      let rest ← lineEnd? rest
      let d ← d.openTable? path key
      return (d, rest)
    | _ => none

def pair? (d : Draft) (text : List Char) : Option (Draft × List Char) :=
  match key? text with
  | some (path, key, '=' :: rest) => do
    let (value, rest) ← value? (2 * rest.length + 1) 0 (dropSpaces rest)
    let rest ← lineEnd? rest
    let current ← d.current.add? path key value
    return ({ d with current }, rest)
  | _ => none

def run? : (fuel : Nat) → Draft → List Char → Option Draft
  | 0, d, text => if (dropSpaces text).isEmpty then some d else none
  | fuel + 1, d, text =>
    match dropSpaces text with
    | [] => some d
    | '#' :: rest => (lineEnd? ('#' :: rest)).bind (run? fuel d)
    | '\n' :: rest => run? fuel d rest
    | '\r' :: '\n' :: rest => run? fuel d rest
    | '[' :: rest => (header? d rest).bind fun (d, rest) => run? fuel d rest
    | text => (pair? d text).bind fun (d, rest) => run? fuel d rest

-- The data of a file. A byte order mark at its start is left out.
def read? (text : String) : Option Data :=
  let text := match text.toList with
    | '\ufeff' :: rest => rest
    | text => text
  (run? text.length {} text).bind fun d => d.complete?.map fun root => .record (fieldsToData root)

end Recast.Toml
