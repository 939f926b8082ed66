import Recast.Pattern.CharSet

set_option autoImplicit false

namespace Recast.Pattern.Property

open Text (Category)

def normalize (name : List Char) : List Char :=
  let short := match name with
    | i :: s :: rest => if i.toLower == 'i' && s.toLower == 's' then rest else name
    | _ => name
  let plain := (short.filter fun c => c != ' ' && c != '_' && c != '-' && c.toNat < 0x80).map
    Char.toLower
  if short.length < name.length && plain == ['c'] then ['i', 's', 'c'] else plain

def groups : List (List String × List Category) := [
  (["l", "letter"], [.lu, .ll, .lt, .lm, .lo]),
  (["lc", "casedletter"], [.lu, .ll, .lt]),
  (["lu", "uppercaseletter"], [.lu]),
  (["ll", "lowercaseletter"], [.ll]),
  (["lt", "titlecaseletter"], [.lt]),
  (["lm", "modifierletter"], [.lm]),
  (["lo", "otherletter"], [.lo]),
  (["m", "mark", "combiningmark"], [.mn, .mc, .me]),
  (["mn", "nonspacingmark"], [.mn]),
  (["mc", "spacingmark"], [.mc]),
  (["me", "enclosingmark"], [.me]),
  (["n", "number"], [.nd, .nl, .no]),
  (["nd", "decimalnumber", "digit"], [.nd]),
  (["nl", "letternumber"], [.nl]),
  (["no", "othernumber"], [.no]),
  (["p", "punctuation", "punct"], [.pc, .pd, .ps, .pe, .pi, .pf, .po]),
  (["pc", "connectorpunctuation"], [.pc]),
  (["pd", "dashpunctuation"], [.pd]),
  (["ps", "openpunctuation"], [.ps]),
  (["pe", "closepunctuation"], [.pe]),
  (["pi", "initialpunctuation"], [.pi]),
  (["pf", "finalpunctuation"], [.pf]),
  (["po", "otherpunctuation"], [.po]),
  (["s", "symbol"], [.sm, .sc, .sk, .so]),
  (["sm", "mathsymbol"], [.sm]),
  (["sc", "currencysymbol"], [.sc]),
  (["sk", "modifiersymbol"], [.sk]),
  (["so", "othersymbol"], [.so]),
  (["z", "separator"], [.zs, .zl, .zp]),
  (["zs", "spaceseparator"], [.zs]),
  (["zl", "lineseparator"], [.zl]),
  (["zp", "paragraphseparator"], [.zp]),
  (["c", "other"], [.cc, .cf, .cs, .co, .cn]),
  (["cc", "control", "cntrl"], [.cc]),
  (["cf", "format"], [.cf]),
  (["cs", "surrogate"], [.cs]),
  (["co", "privateuse"], [.co]),
  (["cn", "unassigned"], [.cn])]

def categorySet? (name : List Char) : Option CharSet :=
  if name == ['a', 'n', 'y'] then some .all
  else if name == ['a', 's', 'c', 'i', 'i'] then some (.range '\x00' '\x7f')
  else if name == ['a', 's', 's', 'i', 'g', 'n', 'e', 'd'] then
    some (.complement (.category .cn))
  else
    (groups.find? fun (names, _) => names.any (·.toList == name)).map fun (_, gs) =>
      CharSet.unions (gs.map .category)

def scriptSet? (name : List Char) : Option CharSet :=
  (Text.scriptCode? (String.ofList name)).map .script

def otherLowercase : CharSet := CharSet.ranges [
  ('ª', 'ª'), ('º', 'º'), ('ʰ', 'ʸ'), ('ˀ', 'ˁ'), ('ˠ', 'ˤ'), ('ͅ', 'ͅ'), ('ͺ', 'ͺ'),
  ('ჼ', 'ჼ'), ('ᴬ', 'ᵪ'), ('ᵸ', 'ᵸ'), ('ᶛ', 'ᶿ'), ('ⁱ', 'ⁱ'), ('ⁿ', 'ⁿ'), ('ₐ', 'ₜ'), ('ⅰ', 'ⅿ'),
  ('ⓐ', 'ⓩ'), ('ⱼ', 'ⱽ'), ('ꚜ', 'ꚝ'), ('ꝰ', 'ꝰ'), ('ꟲ', 'ꟴ'), ('ꟸ', 'ꟹ'), ('ꭜ', 'ꭟ'), ('ꭩ', 'ꭩ')]

def otherUppercase : CharSet := CharSet.ranges [('Ⅰ', 'Ⅿ'), ('Ⓐ', 'Ⓩ'), ('🄰', '🅉'), ('🅐', '🅩'),
  ('🅰', '🆉')]

def flags : List (List String × CharSet) := [
  (["alphabetic", "alpha"], .alphabetic),
  (["lowercase", "lower"], .union (.category .ll) otherLowercase),
  (["uppercase", "upper"], .union (.category .lu) otherUppercase),
  (["whitespace", "wspace", "space"], .blank),
  (["joincontrol", "joinc"], .range '‌' '‍'),
  (["asciihexdigit", "ahex"], CharSet.ranges [('0', '9'), ('A', 'F'), ('a', 'f')]),
  (["hexdigit", "hex"], CharSet.ranges [('0', '9'), ('A', 'F'), ('a', 'f'), ('０', '９'),
    ('Ａ', 'Ｆ'), ('ａ', 'ｆ')])]

def named? (name : List Char) : Option CharSet :=
  let name := normalize name
  let flag := (flags.find? fun (names, _) => names.any (·.toList == name)).map (·.2)
  (flag.or (categorySet? name)).or (scriptSet? name)

def valued? (property value : List Char) : Option CharSet :=
  let property := String.ofList (normalize property)
  let value := normalize value
  if property == "generalcategory" || property == "gc" then categorySet? value
  else if property == "script" || property == "sc" || property == "scriptextensions" ||
    property == "scx" then scriptSet? value
  else none

end Recast.Pattern.Property
