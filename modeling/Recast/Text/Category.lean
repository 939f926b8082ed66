set_option autoImplicit false

namespace Recast.Text

def hexValue (c : Char) : Nat :=
  if c.isDigit then c.toNat - '0'.toNat else c.toUpper.toNat - 'A'.toNat + 10

def hexNumber (digits : List Char) : Nat :=
  digits.foldl (fun n c => 16 * n + hexValue c) 0

-- Runs of characters in ascending order: the first code point of each, and its label. A table is
-- written as rows of words, each a label of fixed width and that code point in hexadecimal.
structure Runs where
  starts : Array (Nat × List Char)

namespace Runs

def ofRows (width : Nat) (rows : List String) : Runs where
  starts := (rows.flatMap fun row => (row.toList.splitOn ' ').map fun word =>
    (hexNumber (word.drop width), word.take width)).toArray

-- The last run that starts at or before `n`, among those from `lo` up to `hi`.
def search (runs : Runs) (n : Nat) : (fuel lo hi : Nat) → Option (Nat × List Char)
  | 0, lo, _ => runs.starts[lo]?
  | fuel + 1, lo, hi =>
    let mid := (lo + hi) / 2
    if hi ≤ lo + 1 then runs.starts[lo]?
    else if (runs.starts[mid]?).any (·.1 ≤ n) then runs.search n fuel mid hi
    else runs.search n fuel lo mid

def find? (runs : Runs) (c : Char) : Option (Nat × List Char) :=
  runs.search c.toNat runs.starts.size 0 runs.starts.size

end Runs

inductive Category where
  | lu | ll | lt | lm | lo
  | mn | mc | me
  | nd | nl | no
  | pc | pd | ps | pe | pi | pf | po
  | sm | sc | sk | so
  | zs | zl | zp
  | cc | cf | cs | co | cn
  deriving DecidableEq, Repr

namespace Category

def all : List Category :=
  [.lu, .ll, .lt, .lm, .lo, .mn, .mc, .me, .nd, .nl, .no, .pc, .pd, .ps, .pe, .pi, .pf, .po,
    .sm, .sc, .sk, .so, .zs, .zl, .zp, .cc, .cf, .cs, .co, .cn]

def code : Category → List Char
  | .lu => ['L', 'u'] | .ll => ['L', 'l'] | .lt => ['L', 't']
  | .lm => ['L', 'm'] | .lo => ['L', 'o']
  | .mn => ['M', 'n'] | .mc => ['M', 'c'] | .me => ['M', 'e']
  | .nd => ['N', 'd'] | .nl => ['N', 'l'] | .no => ['N', 'o']
  | .pc => ['P', 'c'] | .pd => ['P', 'd'] | .ps => ['P', 's'] | .pe => ['P', 'e']
  | .pi => ['P', 'i'] | .pf => ['P', 'f'] | .po => ['P', 'o']
  | .sm => ['S', 'm'] | .sc => ['S', 'c'] | .sk => ['S', 'k'] | .so => ['S', 'o']
  | .zs => ['Z', 's'] | .zl => ['Z', 'l'] | .zp => ['Z', 'p']
  | .cc => ['C', 'c'] | .cf => ['C', 'f'] | .cs => ['C', 's']
  | .co => ['C', 'o'] | .cn => ['C', 'n']

def ofCode? (code : List Char) : Option Category :=
  all.find? (·.code == code)

def isLetter : Category → Bool
  | .lu | .ll | .lt | .lm | .lo => true
  | _ => false

def isMark : Category → Bool
  | .mn | .mc | .me => true
  | _ => false

def isNumber : Category → Bool
  | .nd | .nl | .no => true
  | _ => false

def rows : List String := [
    "Cc0 Zs20 Po21 Sc24 Po25 Ps28 Pe29 Po2A Sm2B Po2C Pd2D Po2E Nd30 Po3A Sm3C Po3F Lu41 Ps5B Po5C",
    "Pe5D Sk5E Pc5F Sk60 Ll61 Ps7B Sm7C Pe7D Sm7E Cc7F ZsA0 PoA1 ScA2 SoA6 PoA7 SkA8 SoA9 LoAA PiAB",
    "SmAC CfAD SoAE SkAF SoB0 SmB1 NoB2 SkB4 LlB5 PoB6 SkB8 NoB9 LoBA PfBB NoBC PoBF LuC0 SmD7 LuD8",
    "LlDF SmF7 LlF8 LL100 Ll138 LL139 Ll149 LL14A Lu178 Ll17A LL17B Ll17F Lu181 Ll183 Lu184 Ll185",
    "Lu186 Ll188 Lu189 Ll18C Lu18E Ll192 Lu193 Ll195 Lu196 Ll199 Lu19C Ll19E Lu19F Ll1A1 LL1A2",
    "Lu1A6 Ll1A8 Lu1A9 Ll1AA Lu1AC Ll1AD Lu1AE Ll1B0 Lu1B1 Ll1B4 Lu1B5 Ll1B6 Lu1B7 Ll1B9 Lo1BB",
    "Lu1BC Ll1BD Lo1C0 Lu1C4 Lt1C5 Ll1C6 Lu1C7 Lt1C8 Ll1C9 Lu1CA Lt1CB Ll1CC LL1CD Ll1DD LL1DE",
    "Ll1F0 Lu1F1 Lt1F2 Ll1F3 Lu1F4 Ll1F5 Lu1F6 Ll1F9 LL1FA Ll234 Lu23A Ll23C Lu23D Ll23F Lu241",
    "Ll242 Lu243 Ll247 LL248 Ll250 Lo294 Ll295 Lm2B0 Sk2C2 Lm2C6 Sk2D2 Lm2E0 Sk2E5 Lm2EC Sk2ED",
    "Lm2EE Sk2EF Mn300 LL370 Lm374 Sk375 Lu376 Ll377 Cn378 Lm37A Ll37B Po37E Lu37F Cn380 Sk384",
    "Lu386 Po387 Lu388 Cn38B Lu38C Cn38D Lu38E Ll390 Lu391 Cn3A2 Lu3A3 Ll3AC Lu3CF Ll3D0 Lu3D2",
    "Ll3D5 LL3D8 Ll3F0 Lu3F4 Ll3F5 Sm3F6 Lu3F7 Ll3F8 Lu3F9 Ll3FB Lu3FD Ll430 LL460 So482 Mn483",
    "Me488 LL48A Lu4C0 Ll4C2 LL4C3 Ll4CF LL4D0 Cn530 Lu531 Cn557 Lm559 Po55A Ll560 Po589 Pd58A",
    "Cn58B So58D Sc58F Cn590 Mn591 Pd5BE Mn5BF Po5C0 Mn5C1 Po5C3 Mn5C4 Po5C6 Mn5C7 Cn5C8 Lo5D0",
    "Cn5EB Lo5EF Po5F3 Cn5F5 Cf600 Sm606 Po609 Sc60B Po60C So60E Mn610 Po61B Cf61C Po61D Lo620",
    "Lm640 Lo641 Mn64B Nd660 Po66A Lo66E Mn670 Lo671 Po6D4 Lo6D5 Mn6D6 Cf6DD So6DE Mn6DF Lm6E5",
    "Mn6E7 So6E9 Mn6EA Lo6EE Nd6F0 Lo6FA So6FD Lo6FF Po700 Cn70E Cf70F Lo710 Mn711 Lo712 Mn730",
    "Cn74B Lo74D Mn7A6 Lo7B1 Cn7B2 Nd7C0 Lo7CA Mn7EB Lm7F4 So7F6 Po7F7 Lm7FA Cn7FB Mn7FD Sc7FE",
    "Lo800 Mn816 Lm81A Mn81B Lm824 Mn825 Lm828 Mn829 Cn82E Po830 Cn83F Lo840 Mn859 Cn85C Po85E",
    "Cn85F Lo860 Cn86B Lo870 Sk888 Lo889 Cn88F Cf890 Cn892 Mn898 Lo8A0 Lm8C9 Mn8CA Cf8E2 Mn8E3",
    "Mc903 Lo904 Mn93A Mc93B Mn93C Lo93D Mc93E Mn941 Mc949 Mn94D Mc94E Lo950 Mn951 Lo958 Mn962",
    "Po964 Nd966 Po970 Lm971 Lo972 Mn981 Mc982 Cn984 Lo985 Cn98D Lo98F Cn991 Lo993 Cn9A9 Lo9AA",
    "Cn9B1 Lo9B2 Cn9B3 Lo9B6 Cn9BA Mn9BC Lo9BD Mc9BE Mn9C1 Cn9C5 Mc9C7 Cn9C9 Mc9CB Mn9CD Lo9CE",
    "Cn9CF Mc9D7 Cn9D8 Lo9DC Cn9DE Lo9DF Mn9E2 Cn9E4 Nd9E6 Lo9F0 Sc9F2 No9F4 So9FA Sc9FB Lo9FC",
    "Po9FD Mn9FE Cn9FF MnA01 McA03 CnA04 LoA05 CnA0B LoA0F CnA11 LoA13 CnA29 LoA2A CnA31 LoA32",
    "CnA34 LoA35 CnA37 LoA38 CnA3A MnA3C CnA3D McA3E MnA41 CnA43 MnA47 CnA49 MnA4B CnA4E MnA51",
    "CnA52 LoA59 CnA5D LoA5E CnA5F NdA66 MnA70 LoA72 MnA75 PoA76 CnA77 MnA81 McA83 CnA84 LoA85",
    "CnA8E LoA8F CnA92 LoA93 CnAA9 LoAAA CnAB1 LoAB2 CnAB4 LoAB5 CnABA MnABC LoABD McABE MnAC1",
    "CnAC6 MnAC7 McAC9 CnACA McACB MnACD CnACE LoAD0 CnAD1 LoAE0 MnAE2 CnAE4 NdAE6 PoAF0 ScAF1",
    "CnAF2 LoAF9 MnAFA CnB00 MnB01 McB02 CnB04 LoB05 CnB0D LoB0F CnB11 LoB13 CnB29 LoB2A CnB31",
    "LoB32 CnB34 LoB35 CnB3A MnB3C LoB3D McB3E MnB3F McB40 MnB41 CnB45 McB47 CnB49 McB4B MnB4D",
    "CnB4E MnB55 McB57 CnB58 LoB5C CnB5E LoB5F MnB62 CnB64 NdB66 SoB70 LoB71 NoB72 CnB78 MnB82",
    "LoB83 CnB84 LoB85 CnB8B LoB8E CnB91 LoB92 CnB96 LoB99 CnB9B LoB9C CnB9D LoB9E CnBA0 LoBA3",
    "CnBA5 LoBA8 CnBAB LoBAE CnBBA McBBE MnBC0 McBC1 CnBC3 McBC6 CnBC9 McBCA MnBCD CnBCE LoBD0",
    "CnBD1 McBD7 CnBD8 NdBE6 NoBF0 SoBF3 ScBF9 SoBFA CnBFB MnC00 McC01 MnC04 LoC05 CnC0D LoC0E",
    "CnC11 LoC12 CnC29 LoC2A CnC3A MnC3C LoC3D MnC3E McC41 CnC45 MnC46 CnC49 MnC4A CnC4E MnC55",
    "CnC57 LoC58 CnC5B LoC5D CnC5E LoC60 MnC62 CnC64 NdC66 CnC70 PoC77 NoC78 SoC7F LoC80 MnC81",
    "McC82 PoC84 LoC85 CnC8D LoC8E CnC91 LoC92 CnCA9 LoCAA CnCB4 LoCB5 CnCBA MnCBC LoCBD McCBE",
    "MnCBF McCC0 CnCC5 MnCC6 McCC7 CnCC9 McCCA MnCCC CnCCE McCD5 CnCD7 LoCDD CnCDF LoCE0 MnCE2",
    "CnCE4 NdCE6 CnCF0 LoCF1 McCF3 CnCF4 MnD00 McD02 LoD04 CnD0D LoD0E CnD11 LoD12 MnD3B LoD3D",
    "McD3E MnD41 CnD45 McD46 CnD49 McD4A MnD4D LoD4E SoD4F CnD50 LoD54 McD57 NoD58 LoD5F MnD62",
    "CnD64 NdD66 NoD70 SoD79 LoD7A CnD80 MnD81 McD82 CnD84 LoD85 CnD97 LoD9A CnDB2 LoDB3 CnDBC",
    "LoDBD CnDBE LoDC0 CnDC7 MnDCA CnDCB McDCF MnDD2 CnDD5 MnDD6 CnDD7 McDD8 CnDE0 NdDE6 CnDF0",
    "McDF2 PoDF4 CnDF5 LoE01 MnE31 LoE32 MnE34 CnE3B ScE3F LoE40 LmE46 MnE47 PoE4F NdE50 PoE5A",
    "CnE5C LoE81 CnE83 LoE84 CnE85 LoE86 CnE8B LoE8C CnEA4 LoEA5 CnEA6 LoEA7 MnEB1 LoEB2 MnEB4",
    "LoEBD CnEBE LoEC0 CnEC5 LmEC6 CnEC7 MnEC8 CnECF NdED0 CnEDA LoEDC CnEE0 LoF00 SoF01 PoF04",
    "SoF13 PoF14 SoF15 MnF18 SoF1A NdF20 NoF2A SoF34 MnF35 SoF36 MnF37 SoF38 MnF39 PsF3A PeF3B",
    "PsF3C PeF3D McF3E LoF40 CnF48 LoF49 CnF6D MnF71 McF7F MnF80 PoF85 MnF86 LoF88 MnF8D CnF98",
    "MnF99 CnFBD SoFBE MnFC6 SoFC7 CnFCD SoFCE PoFD0 SoFD5 PoFD9 CnFDB Lo1000 Mc102B Mn102D Mc1031",
    "Mn1032 Mc1038 Mn1039 Mc103B Mn103D Lo103F Nd1040 Po104A Lo1050 Mc1056 Mn1058 Lo105A Mn105E",
    "Lo1061 Mc1062 Lo1065 Mc1067 Lo106E Mn1071 Lo1075 Mn1082 Mc1083 Mn1085 Mc1087 Mn108D Lo108E",
    "Mc108F Nd1090 Mc109A Mn109D So109E Lu10A0 Cn10C6 Lu10C7 Cn10C8 Lu10CD Cn10CE Ll10D0 Po10FB",
    "Lm10FC Ll10FD Lo1100 Cn1249 Lo124A Cn124E Lo1250 Cn1257 Lo1258 Cn1259 Lo125A Cn125E Lo1260",
    "Cn1289 Lo128A Cn128E Lo1290 Cn12B1 Lo12B2 Cn12B6 Lo12B8 Cn12BF Lo12C0 Cn12C1 Lo12C2 Cn12C6",
    "Lo12C8 Cn12D7 Lo12D8 Cn1311 Lo1312 Cn1316 Lo1318 Cn135B Mn135D Po1360 No1369 Cn137D Lo1380",
    "So1390 Cn139A Lu13A0 Cn13F6 Ll13F8 Cn13FE Pd1400 Lo1401 So166D Po166E Lo166F Zs1680 Lo1681",
    "Ps169B Pe169C Cn169D Lo16A0 Po16EB Nl16EE Lo16F1 Cn16F9 Lo1700 Mn1712 Mc1715 Cn1716 Lo171F",
    "Mn1732 Mc1734 Po1735 Cn1737 Lo1740 Mn1752 Cn1754 Lo1760 Cn176D Lo176E Cn1771 Mn1772 Cn1774",
    "Lo1780 Mn17B4 Mc17B6 Mn17B7 Mc17BE Mn17C6 Mc17C7 Mn17C9 Po17D4 Lm17D7 Po17D8 Sc17DB Lo17DC",
    "Mn17DD Cn17DE Nd17E0 Cn17EA No17F0 Cn17FA Po1800 Pd1806 Po1807 Mn180B Cf180E Mn180F Nd1810",
    "Cn181A Lo1820 Lm1843 Lo1844 Cn1879 Lo1880 Mn1885 Lo1887 Mn18A9 Lo18AA Cn18AB Lo18B0 Cn18F6",
    "Lo1900 Cn191F Mn1920 Mc1923 Mn1927 Mc1929 Cn192C Mc1930 Mn1932 Mc1933 Mn1939 Cn193C So1940",
    "Cn1941 Po1944 Nd1946 Lo1950 Cn196E Lo1970 Cn1975 Lo1980 Cn19AC Lo19B0 Cn19CA Nd19D0 No19DA",
    "Cn19DB So19DE Lo1A00 Mn1A17 Mc1A19 Mn1A1B Cn1A1C Po1A1E Lo1A20 Mc1A55 Mn1A56 Mc1A57 Mn1A58",
    "Cn1A5F Mn1A60 Mc1A61 Mn1A62 Mc1A63 Mn1A65 Mc1A6D Mn1A73 Cn1A7D Mn1A7F Nd1A80 Cn1A8A Nd1A90",
    "Cn1A9A Po1AA0 Lm1AA7 Po1AA8 Cn1AAE Mn1AB0 Me1ABE Mn1ABF Cn1ACF Mn1B00 Mc1B04 Lo1B05 Mn1B34",
    "Mc1B35 Mn1B36 Mc1B3B Mn1B3C Mc1B3D Mn1B42 Mc1B43 Lo1B45 Cn1B4D Nd1B50 Po1B5A So1B61 Mn1B6B",
    "So1B74 Po1B7D Cn1B7F Mn1B80 Mc1B82 Lo1B83 Mc1BA1 Mn1BA2 Mc1BA6 Mn1BA8 Mc1BAA Mn1BAB Lo1BAE",
    "Nd1BB0 Lo1BBA Mn1BE6 Mc1BE7 Mn1BE8 Mc1BEA Mn1BED Mc1BEE Mn1BEF Mc1BF2 Cn1BF4 Po1BFC Lo1C00",
    "Mc1C24 Mn1C2C Mc1C34 Mn1C36 Cn1C38 Po1C3B Nd1C40 Cn1C4A Lo1C4D Nd1C50 Lo1C5A Lm1C78 Po1C7E",
    "Ll1C80 Cn1C89 Lu1C90 Cn1CBB Lu1CBD Po1CC0 Cn1CC8 Mn1CD0 Po1CD3 Mn1CD4 Mc1CE1 Mn1CE2 Lo1CE9",
    "Mn1CED Lo1CEE Mn1CF4 Lo1CF5 Mc1CF7 Mn1CF8 Lo1CFA Cn1CFB Ll1D00 Lm1D2C Ll1D6B Lm1D78 Ll1D79",
    "Lm1D9B Mn1DC0 LL1E00 Ll1E96 LL1E9E Ll1F00 Lu1F08 Ll1F10 Cn1F16 Lu1F18 Cn1F1E Ll1F20 Lu1F28",
    "Ll1F30 Lu1F38 Ll1F40 Cn1F46 Lu1F48 Cn1F4E Ll1F50 Cn1F58 Lu1F59 Cn1F5A Lu1F5B Cn1F5C Lu1F5D",
    "Cn1F5E Lu1F5F Ll1F60 Lu1F68 Ll1F70 Cn1F7E Ll1F80 Lt1F88 Ll1F90 Lt1F98 Ll1FA0 Lt1FA8 Ll1FB0",
    "Cn1FB5 Ll1FB6 Lu1FB8 Lt1FBC Sk1FBD Ll1FBE Sk1FBF Ll1FC2 Cn1FC5 Ll1FC6 Lu1FC8 Lt1FCC Sk1FCD",
    "Ll1FD0 Cn1FD4 Ll1FD6 Lu1FD8 Cn1FDC Sk1FDD Ll1FE0 Lu1FE8 Sk1FED Cn1FF0 Ll1FF2 Cn1FF5 Ll1FF6",
    "Lu1FF8 Lt1FFC Sk1FFD Cn1FFF Zs2000 Cf200B Pd2010 Po2016 Pi2018 Pf2019 Ps201A Pi201B Pf201D",
    "Ps201E Pi201F Po2020 Zl2028 Zp2029 Cf202A Zs202F Po2030 Pi2039 Pf203A Po203B Pc203F Po2041",
    "Sm2044 Ps2045 Pe2046 Po2047 Sm2052 Po2053 Pc2054 Po2055 Zs205F Cf2060 Cn2065 Cf2066 No2070",
    "Lm2071 Cn2072 No2074 Sm207A Ps207D Pe207E Lm207F No2080 Sm208A Ps208D Pe208E Cn208F Lm2090",
    "Cn209D Sc20A0 Cn20C1 Mn20D0 Me20DD Mn20E1 Me20E2 Mn20E5 Cn20F1 So2100 Lu2102 So2103 Lu2107",
    "So2108 Ll210A Lu210B Ll210E Lu2110 Ll2113 So2114 Lu2115 So2116 Sm2118 Lu2119 So211E Lu2124",
    "So2125 Lu2126 So2127 Lu2128 So2129 Lu212A So212E Ll212F Lu2130 Ll2134 Lo2135 Ll2139 So213A",
    "Ll213C Lu213E Sm2140 Lu2145 Ll2146 So214A Sm214B So214C Ll214E So214F No2150 Nl2160 Lu2183",
    "Ll2184 Nl2185 No2189 So218A Cn218C Sm2190 So2195 Sm219A So219C Sm21A0 So21A1 Sm21A3 So21A4",
    "Sm21A6 So21A7 Sm21AE So21AF Sm21CE So21D0 Sm21D2 So21D3 Sm21D4 So21D5 Sm21F4 So2300 Ps2308",
    "Pe2309 Ps230A Pe230B So230C Sm2320 So2322 Ps2329 Pe232A So232B Sm237C So237D Sm239B So23B4",
    "Sm23DC So23E2 Cn2427 So2440 Cn244B No2460 So249C No24EA So2500 Sm25B7 So25B8 Sm25C1 So25C2",
    "Sm25F8 So2600 Sm266F So2670 Ps2768 Pe2769 Ps276A Pe276B Ps276C Pe276D Ps276E Pe276F Ps2770",
    "Pe2771 Ps2772 Pe2773 Ps2774 Pe2775 No2776 So2794 Sm27C0 Ps27C5 Pe27C6 Sm27C7 Ps27E6 Pe27E7",
    "Ps27E8 Pe27E9 Ps27EA Pe27EB Ps27EC Pe27ED Ps27EE Pe27EF Sm27F0 So2800 Sm2900 Ps2983 Pe2984",
    "Ps2985 Pe2986 Ps2987 Pe2988 Ps2989 Pe298A Ps298B Pe298C Ps298D Pe298E Ps298F Pe2990 Ps2991",
    "Pe2992 Ps2993 Pe2994 Ps2995 Pe2996 Ps2997 Pe2998 Sm2999 Ps29D8 Pe29D9 Ps29DA Pe29DB Sm29DC",
    "Ps29FC Pe29FD Sm29FE So2B00 Sm2B30 So2B45 Sm2B47 So2B4D Cn2B74 So2B76 Cn2B96 So2B97 Lu2C00",
    "Ll2C30 Lu2C60 Ll2C61 Lu2C62 Ll2C65 LL2C67 Lu2C6D Ll2C71 Lu2C72 Ll2C73 Lu2C75 Ll2C76 Lm2C7C",
    "Lu2C7E Ll2C81 LL2C82 Ll2CE4 So2CE5 LL2CEB Mn2CEF Lu2CF2 Ll2CF3 Cn2CF4 Po2CF9 No2CFD Po2CFE",
    "Ll2D00 Cn2D26 Ll2D27 Cn2D28 Ll2D2D Cn2D2E Lo2D30 Cn2D68 Lm2D6F Po2D70 Cn2D71 Mn2D7F Lo2D80",
    "Cn2D97 Lo2DA0 Cn2DA7 Lo2DA8 Cn2DAF Lo2DB0 Cn2DB7 Lo2DB8 Cn2DBF Lo2DC0 Cn2DC7 Lo2DC8 Cn2DCF",
    "Lo2DD0 Cn2DD7 Lo2DD8 Cn2DDF Mn2DE0 Po2E00 Pi2E02 Pf2E03 Pi2E04 Pf2E05 Po2E06 Pi2E09 Pf2E0A",
    "Po2E0B Pi2E0C Pf2E0D Po2E0E Pd2E17 Po2E18 Pd2E1A Po2E1B Pi2E1C Pf2E1D Po2E1E Pi2E20 Pf2E21",
    "Ps2E22 Pe2E23 Ps2E24 Pe2E25 Ps2E26 Pe2E27 Ps2E28 Pe2E29 Po2E2A Lm2E2F Po2E30 Pd2E3A Po2E3C",
    "Pd2E40 Po2E41 Ps2E42 Po2E43 So2E50 Po2E52 Ps2E55 Pe2E56 Ps2E57 Pe2E58 Ps2E59 Pe2E5A Ps2E5B",
    "Pe2E5C Pd2E5D Cn2E5E So2E80 Cn2E9A So2E9B Cn2EF4 So2F00 Cn2FD6 So2FF0 Cn2FFC Zs3000 Po3001",
    "So3004 Lm3005 Lo3006 Nl3007 Ps3008 Pe3009 Ps300A Pe300B Ps300C Pe300D Ps300E Pe300F Ps3010",
    "Pe3011 So3012 Ps3014 Pe3015 Ps3016 Pe3017 Ps3018 Pe3019 Ps301A Pe301B Pd301C Ps301D Pe301E",
    "So3020 Nl3021 Mn302A Mc302E Pd3030 Lm3031 So3036 Nl3038 Lm303B Lo303C Po303D So303E Cn3040",
    "Lo3041 Cn3097 Mn3099 Sk309B Lm309D Lo309F Pd30A0 Lo30A1 Po30FB Lm30FC Lo30FF Cn3100 Lo3105",
    "Cn3130 Lo3131 Cn318F So3190 No3192 So3196 Lo31A0 So31C0 Cn31E4 Lo31F0 So3200 Cn321F No3220",
    "So322A No3248 So3250 No3251 So3260 No3280 So328A No32B1 So32C0 Lo3400 So4DC0 Lo4E00 LmA015",
    "LoA016 CnA48D SoA490 CnA4C7 LoA4D0 LmA4F8 PoA4FE LoA500 LmA60C PoA60D LoA610 NdA620 LoA62A",
    "CnA62C LLA640 LoA66E MnA66F MeA670 PoA673 MnA674 PoA67E LmA67F LLA680 LmA69C MnA69E LoA6A0",
    "NlA6E6 MnA6F0 PoA6F2 CnA6F8 SkA700 LmA717 SkA720 LLA722 LlA730 LLA732 LmA770 LlA771 LLA779",
    "LuA77D LlA77F LLA780 LmA788 SkA789 LLA78B LoA78F LLA790 LlA794 LLA796 LuA7AA LlA7AF LuA7B0",
    "LlA7B5 LLA7B6 LuA7C4 LlA7C8 LuA7C9 LlA7CA CnA7CB LuA7D0 LlA7D1 CnA7D2 LlA7D3 CnA7D4 LlA7D5",
    "LLA7D6 CnA7DA LmA7F2 LuA7F5 LlA7F6 LoA7F7 LmA7F8 LlA7FA LoA7FB MnA802 LoA803 MnA806 LoA807",
    "MnA80B LoA80C McA823 MnA825 McA827 SoA828 MnA82C CnA82D NoA830 SoA836 ScA838 SoA839 CnA83A",
    "LoA840 PoA874 CnA878 McA880 LoA882 McA8B4 MnA8C4 CnA8C6 PoA8CE NdA8D0 CnA8DA MnA8E0 LoA8F2",
    "PoA8F8 LoA8FB PoA8FC LoA8FD MnA8FF NdA900 LoA90A MnA926 PoA92E LoA930 MnA947 McA952 CnA954",
    "PoA95F LoA960 CnA97D MnA980 McA983 LoA984 MnA9B3 McA9B4 MnA9B6 McA9BA MnA9BC McA9BE PoA9C1",
    "CnA9CE LmA9CF NdA9D0 CnA9DA PoA9DE LoA9E0 MnA9E5 LmA9E6 LoA9E7 NdA9F0 LoA9FA CnA9FF LoAA00",
    "MnAA29 McAA2F MnAA31 McAA33 MnAA35 CnAA37 LoAA40 MnAA43 LoAA44 MnAA4C McAA4D CnAA4E NdAA50",
    "CnAA5A PoAA5C LoAA60 LmAA70 LoAA71 SoAA77 LoAA7A McAA7B MnAA7C McAA7D LoAA7E MnAAB0 LoAAB1",
    "MnAAB2 LoAAB5 MnAAB7 LoAAB9 MnAABE LoAAC0 MnAAC1 LoAAC2 CnAAC3 LoAADB LmAADD PoAADE LoAAE0",
    "McAAEB MnAAEC McAAEE PoAAF0 LoAAF2 LmAAF3 McAAF5 MnAAF6 CnAAF7 LoAB01 CnAB07 LoAB09 CnAB0F",
    "LoAB11 CnAB17 LoAB20 CnAB27 LoAB28 CnAB2F LlAB30 SkAB5B LmAB5C LlAB60 LmAB69 SkAB6A CnAB6C",
    "LlAB70 LoABC0 McABE3 MnABE5 McABE6 MnABE8 McABE9 PoABEB McABEC MnABED CnABEE NdABF0 CnABFA",
    "LoAC00 CnD7A4 LoD7B0 CnD7C7 LoD7CB CnD7FC CsD800 CoE000 LoF900 CnFA6E LoFA70 CnFADA LlFB00",
    "CnFB07 LlFB13 CnFB18 LoFB1D MnFB1E LoFB1F SmFB29 LoFB2A CnFB37 LoFB38 CnFB3D LoFB3E CnFB3F",
    "LoFB40 CnFB42 LoFB43 CnFB45 LoFB46 SkFBB2 CnFBC3 LoFBD3 PeFD3E PsFD3F SoFD40 LoFD50 CnFD90",
    "LoFD92 CnFDC8 SoFDCF CnFDD0 LoFDF0 ScFDFC SoFDFD MnFE00 PoFE10 PsFE17 PeFE18 PoFE19 CnFE1A",
    "MnFE20 PoFE30 PdFE31 PcFE33 PsFE35 PeFE36 PsFE37 PeFE38 PsFE39 PeFE3A PsFE3B PeFE3C PsFE3D",
    "PeFE3E PsFE3F PeFE40 PsFE41 PeFE42 PsFE43 PeFE44 PoFE45 PsFE47 PeFE48 PoFE49 PcFE4D PoFE50",
    "CnFE53 PoFE54 PdFE58 PsFE59 PeFE5A PsFE5B PeFE5C PsFE5D PeFE5E PoFE5F SmFE62 PdFE63 SmFE64",
    "CnFE67 PoFE68 ScFE69 PoFE6A CnFE6C LoFE70 CnFE75 LoFE76 CnFEFD CfFEFF CnFF00 PoFF01 ScFF04",
    "PoFF05 PsFF08 PeFF09 PoFF0A SmFF0B PoFF0C PdFF0D PoFF0E NdFF10 PoFF1A SmFF1C PoFF1F LuFF21",
    "PsFF3B PoFF3C PeFF3D SkFF3E PcFF3F SkFF40 LlFF41 PsFF5B SmFF5C PeFF5D SmFF5E PsFF5F PeFF60",
    "PoFF61 PsFF62 PeFF63 PoFF64 LoFF66 LmFF70 LoFF71 LmFF9E LoFFA0 CnFFBF LoFFC2 CnFFC8 LoFFCA",
    "CnFFD0 LoFFD2 CnFFD8 LoFFDA CnFFDD ScFFE0 SmFFE2 SkFFE3 SoFFE4 ScFFE5 CnFFE7 SoFFE8 SmFFE9",
    "SoFFED CnFFEF CfFFF9 SoFFFC CnFFFE Lo10000 Cn1000C Lo1000D Cn10027 Lo10028 Cn1003B Lo1003C",
    "Cn1003E Lo1003F Cn1004E Lo10050 Cn1005E Lo10080 Cn100FB Po10100 Cn10103 No10107 Cn10134",
    "So10137 Nl10140 No10175 So10179 No1018A So1018C Cn1018F So10190 Cn1019D So101A0 Cn101A1",
    "So101D0 Mn101FD Cn101FE Lo10280 Cn1029D Lo102A0 Cn102D1 Mn102E0 No102E1 Cn102FC Lo10300",
    "No10320 Cn10324 Lo1032D Nl10341 Lo10342 Nl1034A Cn1034B Lo10350 Mn10376 Cn1037B Lo10380",
    "Cn1039E Po1039F Lo103A0 Cn103C4 Lo103C8 Po103D0 Nl103D1 Cn103D6 Lu10400 Ll10428 Lo10450",
    "Cn1049E Nd104A0 Cn104AA Lu104B0 Cn104D4 Ll104D8 Cn104FC Lo10500 Cn10528 Lo10530 Cn10564",
    "Po1056F Lu10570 Cn1057B Lu1057C Cn1058B Lu1058C Cn10593 Lu10594 Cn10596 Ll10597 Cn105A2",
    "Ll105A3 Cn105B2 Ll105B3 Cn105BA Ll105BB Cn105BD Lo10600 Cn10737 Lo10740 Cn10756 Lo10760",
    "Cn10768 Lm10780 Cn10786 Lm10787 Cn107B1 Lm107B2 Cn107BB Lo10800 Cn10806 Lo10808 Cn10809",
    "Lo1080A Cn10836 Lo10837 Cn10839 Lo1083C Cn1083D Lo1083F Cn10856 Po10857 No10858 Lo10860",
    "So10877 No10879 Lo10880 Cn1089F No108A7 Cn108B0 Lo108E0 Cn108F3 Lo108F4 Cn108F6 No108FB",
    "Lo10900 No10916 Cn1091C Po1091F Lo10920 Cn1093A Po1093F Cn10940 Lo10980 Cn109B8 No109BC",
    "Lo109BE No109C0 Cn109D0 No109D2 Lo10A00 Mn10A01 Cn10A04 Mn10A05 Cn10A07 Mn10A0C Lo10A10",
    "Cn10A14 Lo10A15 Cn10A18 Lo10A19 Cn10A36 Mn10A38 Cn10A3B Mn10A3F No10A40 Cn10A49 Po10A50",
    "Cn10A59 Lo10A60 No10A7D Po10A7F Lo10A80 No10A9D Cn10AA0 Lo10AC0 So10AC8 Lo10AC9 Mn10AE5",
    "Cn10AE7 No10AEB Po10AF0 Cn10AF7 Lo10B00 Cn10B36 Po10B39 Lo10B40 Cn10B56 No10B58 Lo10B60",
    "Cn10B73 No10B78 Lo10B80 Cn10B92 Po10B99 Cn10B9D No10BA9 Cn10BB0 Lo10C00 Cn10C49 Lu10C80",
    "Cn10CB3 Ll10CC0 Cn10CF3 No10CFA Lo10D00 Mn10D24 Cn10D28 Nd10D30 Cn10D3A No10E60 Cn10E7F",
    "Lo10E80 Cn10EAA Mn10EAB Pd10EAD Cn10EAE Lo10EB0 Cn10EB2 Mn10EFD Lo10F00 No10F1D Lo10F27",
    "Cn10F28 Lo10F30 Mn10F46 No10F51 Po10F55 Cn10F5A Lo10F70 Mn10F82 Po10F86 Cn10F8A Lo10FB0",
    "No10FC5 Cn10FCC Lo10FE0 Cn10FF7 Mc11000 Mn11001 Mc11002 Lo11003 Mn11038 Po11047 Cn1104E",
    "No11052 Nd11066 Mn11070 Lo11071 Mn11073 Lo11075 Cn11076 Mn1107F Mc11082 Lo11083 Mc110B0",
    "Mn110B3 Mc110B7 Mn110B9 Po110BB Cf110BD Po110BE Mn110C2 Cn110C3 Cf110CD Cn110CE Lo110D0",
    "Cn110E9 Nd110F0 Cn110FA Mn11100 Lo11103 Mn11127 Mc1112C Mn1112D Cn11135 Nd11136 Po11140",
    "Lo11144 Mc11145 Lo11147 Cn11148 Lo11150 Mn11173 Po11174 Lo11176 Cn11177 Mn11180 Mc11182",
    "Lo11183 Mc111B3 Mn111B6 Mc111BF Lo111C1 Po111C5 Mn111C9 Po111CD Mc111CE Mn111CF Nd111D0",
    "Lo111DA Po111DB Lo111DC Po111DD Cn111E0 No111E1 Cn111F5 Lo11200 Cn11212 Lo11213 Mc1122C",
    "Mn1122F Mc11232 Mn11234 Mc11235 Mn11236 Po11238 Mn1123E Lo1123F Mn11241 Cn11242 Lo11280",
    "Cn11287 Lo11288 Cn11289 Lo1128A Cn1128E Lo1128F Cn1129E Lo1129F Po112A9 Cn112AA Lo112B0",
    "Mn112DF Mc112E0 Mn112E3 Cn112EB Nd112F0 Cn112FA Mn11300 Mc11302 Cn11304 Lo11305 Cn1130D",
    "Lo1130F Cn11311 Lo11313 Cn11329 Lo1132A Cn11331 Lo11332 Cn11334 Lo11335 Cn1133A Mn1133B",
    "Lo1133D Mc1133E Mn11340 Mc11341 Cn11345 Mc11347 Cn11349 Mc1134B Cn1134E Lo11350 Cn11351",
    "Mc11357 Cn11358 Lo1135D Mc11362 Cn11364 Mn11366 Cn1136D Mn11370 Cn11375 Lo11400 Mc11435",
    "Mn11438 Mc11440 Mn11442 Mc11445 Mn11446 Lo11447 Po1144B Nd11450 Po1145A Cn1145C Po1145D",
    "Mn1145E Lo1145F Cn11462 Lo11480 Mc114B0 Mn114B3 Mc114B9 Mn114BA Mc114BB Mn114BF Mc114C1",
    "Mn114C2 Lo114C4 Po114C6 Lo114C7 Cn114C8 Nd114D0 Cn114DA Lo11580 Mc115AF Mn115B2 Cn115B6",
    "Mc115B8 Mn115BC Mc115BE Mn115BF Po115C1 Lo115D8 Mn115DC Cn115DE Lo11600 Mc11630 Mn11633",
    "Mc1163B Mn1163D Mc1163E Mn1163F Po11641 Lo11644 Cn11645 Nd11650 Cn1165A Po11660 Cn1166D",
    "Lo11680 Mn116AB Mc116AC Mn116AD Mc116AE Mn116B0 Mc116B6 Mn116B7 Lo116B8 Po116B9 Cn116BA",
    "Nd116C0 Cn116CA Lo11700 Cn1171B Mn1171D Mc11720 Mn11722 Mc11726 Mn11727 Cn1172C Nd11730",
    "No1173A Po1173C So1173F Lo11740 Cn11747 Lo11800 Mc1182C Mn1182F Mc11838 Mn11839 Po1183B",
    "Cn1183C Lu118A0 Ll118C0 Nd118E0 No118EA Cn118F3 Lo118FF Cn11907 Lo11909 Cn1190A Lo1190C",
    "Cn11914 Lo11915 Cn11917 Lo11918 Mc11930 Cn11936 Mc11937 Cn11939 Mn1193B Mc1193D Mn1193E",
    "Lo1193F Mc11940 Lo11941 Mc11942 Mn11943 Po11944 Cn11947 Nd11950 Cn1195A Lo119A0 Cn119A8",
    "Lo119AA Mc119D1 Mn119D4 Cn119D8 Mn119DA Mc119DC Mn119E0 Lo119E1 Po119E2 Lo119E3 Mc119E4",
    "Cn119E5 Lo11A00 Mn11A01 Lo11A0B Mn11A33 Mc11A39 Lo11A3A Mn11A3B Po11A3F Mn11A47 Cn11A48",
    "Lo11A50 Mn11A51 Mc11A57 Mn11A59 Lo11A5C Mn11A8A Mc11A97 Mn11A98 Po11A9A Lo11A9D Po11A9E",
    "Cn11AA3 Lo11AB0 Cn11AF9 Po11B00 Cn11B0A Lo11C00 Cn11C09 Lo11C0A Mc11C2F Mn11C30 Cn11C37",
    "Mn11C38 Mc11C3E Mn11C3F Lo11C40 Po11C41 Cn11C46 Nd11C50 No11C5A Cn11C6D Po11C70 Lo11C72",
    "Cn11C90 Mn11C92 Cn11CA8 Mc11CA9 Mn11CAA Mc11CB1 Mn11CB2 Mc11CB4 Mn11CB5 Cn11CB7 Lo11D00",
    "Cn11D07 Lo11D08 Cn11D0A Lo11D0B Mn11D31 Cn11D37 Mn11D3A Cn11D3B Mn11D3C Cn11D3E Mn11D3F",
    "Lo11D46 Mn11D47 Cn11D48 Nd11D50 Cn11D5A Lo11D60 Cn11D66 Lo11D67 Cn11D69 Lo11D6A Mc11D8A",
    "Cn11D8F Mn11D90 Cn11D92 Mc11D93 Mn11D95 Mc11D96 Mn11D97 Lo11D98 Cn11D99 Nd11DA0 Cn11DAA",
    "Lo11EE0 Mn11EF3 Mc11EF5 Po11EF7 Cn11EF9 Mn11F00 Lo11F02 Mc11F03 Lo11F04 Cn11F11 Lo11F12",
    "Mc11F34 Mn11F36 Cn11F3B Mc11F3E Mn11F40 Mc11F41 Mn11F42 Po11F43 Nd11F50 Cn11F5A Lo11FB0",
    "Cn11FB1 No11FC0 So11FD5 Sc11FDD So11FE1 Cn11FF2 Po11FFF Lo12000 Cn1239A Nl12400 Cn1246F",
    "Po12470 Cn12475 Lo12480 Cn12544 Lo12F90 Po12FF1 Cn12FF3 Lo13000 Cf13430 Mn13440 Lo13441",
    "Mn13447 Cn13456 Lo14400 Cn14647 Lo16800 Cn16A39 Lo16A40 Cn16A5F Nd16A60 Cn16A6A Po16A6E",
    "Lo16A70 Cn16ABF Nd16AC0 Cn16ACA Lo16AD0 Cn16AEE Mn16AF0 Po16AF5 Cn16AF6 Lo16B00 Mn16B30",
    "Po16B37 So16B3C Lm16B40 Po16B44 So16B45 Cn16B46 Nd16B50 Cn16B5A No16B5B Cn16B62 Lo16B63",
    "Cn16B78 Lo16B7D Cn16B90 Lu16E40 Ll16E60 No16E80 Po16E97 Cn16E9B Lo16F00 Cn16F4B Mn16F4F",
    "Lo16F50 Mc16F51 Cn16F88 Mn16F8F Lm16F93 Cn16FA0 Lm16FE0 Po16FE2 Lm16FE3 Mn16FE4 Cn16FE5",
    "Mc16FF0 Cn16FF2 Lo17000 Cn187F8 Lo18800 Cn18CD6 Lo18D00 Cn18D09 Lm1AFF0 Cn1AFF4 Lm1AFF5",
    "Cn1AFFC Lm1AFFD Cn1AFFF Lo1B000 Cn1B123 Lo1B132 Cn1B133 Lo1B150 Cn1B153 Lo1B155 Cn1B156",
    "Lo1B164 Cn1B168 Lo1B170 Cn1B2FC Lo1BC00 Cn1BC6B Lo1BC70 Cn1BC7D Lo1BC80 Cn1BC89 Lo1BC90",
    "Cn1BC9A So1BC9C Mn1BC9D Po1BC9F Cf1BCA0 Cn1BCA4 Mn1CF00 Cn1CF2E Mn1CF30 Cn1CF47 So1CF50",
    "Cn1CFC4 So1D000 Cn1D0F6 So1D100 Cn1D127 So1D129 Mc1D165 Mn1D167 So1D16A Mc1D16D Cf1D173",
    "Mn1D17B So1D183 Mn1D185 So1D18C Mn1D1AA So1D1AE Cn1D1EB So1D200 Mn1D242 So1D245 Cn1D246",
    "No1D2C0 Cn1D2D4 No1D2E0 Cn1D2F4 So1D300 Cn1D357 No1D360 Cn1D379 Lu1D400 Ll1D41A Lu1D434",
    "Ll1D44E Cn1D455 Ll1D456 Lu1D468 Ll1D482 Lu1D49C Cn1D49D Lu1D49E Cn1D4A0 Lu1D4A2 Cn1D4A3",
    "Lu1D4A5 Cn1D4A7 Lu1D4A9 Cn1D4AD Lu1D4AE Ll1D4B6 Cn1D4BA Ll1D4BB Cn1D4BC Ll1D4BD Cn1D4C4",
    "Ll1D4C5 Lu1D4D0 Ll1D4EA Lu1D504 Cn1D506 Lu1D507 Cn1D50B Lu1D50D Cn1D515 Lu1D516 Cn1D51D",
    "Ll1D51E Lu1D538 Cn1D53A Lu1D53B Cn1D53F Lu1D540 Cn1D545 Lu1D546 Cn1D547 Lu1D54A Cn1D551",
    "Ll1D552 Lu1D56C Ll1D586 Lu1D5A0 Ll1D5BA Lu1D5D4 Ll1D5EE Lu1D608 Ll1D622 Lu1D63C Ll1D656",
    "Lu1D670 Ll1D68A Cn1D6A6 Lu1D6A8 Sm1D6C1 Ll1D6C2 Sm1D6DB Ll1D6DC Lu1D6E2 Sm1D6FB Ll1D6FC",
    "Sm1D715 Ll1D716 Lu1D71C Sm1D735 Ll1D736 Sm1D74F Ll1D750 Lu1D756 Sm1D76F Ll1D770 Sm1D789",
    "Ll1D78A Lu1D790 Sm1D7A9 Ll1D7AA Sm1D7C3 Ll1D7C4 Lu1D7CA Ll1D7CB Cn1D7CC Nd1D7CE So1D800",
    "Mn1DA00 So1DA37 Mn1DA3B So1DA6D Mn1DA75 So1DA76 Mn1DA84 So1DA85 Po1DA87 Cn1DA8C Mn1DA9B",
    "Cn1DAA0 Mn1DAA1 Cn1DAB0 Ll1DF00 Lo1DF0A Ll1DF0B Cn1DF1F Ll1DF25 Cn1DF2B Mn1E000 Cn1E007",
    "Mn1E008 Cn1E019 Mn1E01B Cn1E022 Mn1E023 Cn1E025 Mn1E026 Cn1E02B Lm1E030 Cn1E06E Mn1E08F",
    "Cn1E090 Lo1E100 Cn1E12D Mn1E130 Lm1E137 Cn1E13E Nd1E140 Cn1E14A Lo1E14E So1E14F Cn1E150",
    "Lo1E290 Mn1E2AE Cn1E2AF Lo1E2C0 Mn1E2EC Nd1E2F0 Cn1E2FA Sc1E2FF Cn1E300 Lo1E4D0 Lm1E4EB",
    "Mn1E4EC Nd1E4F0 Cn1E4FA Lo1E7E0 Cn1E7E7 Lo1E7E8 Cn1E7EC Lo1E7ED Cn1E7EF Lo1E7F0 Cn1E7FF",
    "Lo1E800 Cn1E8C5 No1E8C7 Mn1E8D0 Cn1E8D7 Lu1E900 Ll1E922 Mn1E944 Lm1E94B Cn1E94C Nd1E950",
    "Cn1E95A Po1E95E Cn1E960 No1EC71 So1ECAC No1ECAD Sc1ECB0 No1ECB1 Cn1ECB5 No1ED01 So1ED2E",
    "No1ED2F Cn1ED3E Lo1EE00 Cn1EE04 Lo1EE05 Cn1EE20 Lo1EE21 Cn1EE23 Lo1EE24 Cn1EE25 Lo1EE27",
    "Cn1EE28 Lo1EE29 Cn1EE33 Lo1EE34 Cn1EE38 Lo1EE39 Cn1EE3A Lo1EE3B Cn1EE3C Lo1EE42 Cn1EE43",
    "Lo1EE47 Cn1EE48 Lo1EE49 Cn1EE4A Lo1EE4B Cn1EE4C Lo1EE4D Cn1EE50 Lo1EE51 Cn1EE53 Lo1EE54",
    "Cn1EE55 Lo1EE57 Cn1EE58 Lo1EE59 Cn1EE5A Lo1EE5B Cn1EE5C Lo1EE5D Cn1EE5E Lo1EE5F Cn1EE60",
    "Lo1EE61 Cn1EE63 Lo1EE64 Cn1EE65 Lo1EE67 Cn1EE6B Lo1EE6C Cn1EE73 Lo1EE74 Cn1EE78 Lo1EE79",
    "Cn1EE7D Lo1EE7E Cn1EE7F Lo1EE80 Cn1EE8A Lo1EE8B Cn1EE9C Lo1EEA1 Cn1EEA4 Lo1EEA5 Cn1EEAA",
    "Lo1EEAB Cn1EEBC Sm1EEF0 Cn1EEF2 So1F000 Cn1F02C So1F030 Cn1F094 So1F0A0 Cn1F0AF So1F0B1",
    "Cn1F0C0 So1F0C1 Cn1F0D0 So1F0D1 Cn1F0F6 No1F100 So1F10D Cn1F1AE So1F1E6 Cn1F203 So1F210",
    "Cn1F23C So1F240 Cn1F249 So1F250 Cn1F252 So1F260 Cn1F266 So1F300 Sk1F3FB So1F400 Cn1F6D8",
    "So1F6DC Cn1F6ED So1F6F0 Cn1F6FD So1F700 Cn1F777 So1F77B Cn1F7DA So1F7E0 Cn1F7EC So1F7F0",
    "Cn1F7F1 So1F800 Cn1F80C So1F810 Cn1F848 So1F850 Cn1F85A So1F860 Cn1F888 So1F890 Cn1F8AE",
    "So1F8B0 Cn1F8B2 So1F900 Cn1FA54 So1FA60 Cn1FA6E So1FA70 Cn1FA7D So1FA80 Cn1FA89 So1FA90",
    "Cn1FABE So1FABF Cn1FAC6 So1FACE Cn1FADC So1FAE0 Cn1FAE9 So1FAF0 Cn1FAF9 So1FB00 Cn1FB93",
    "So1FB94 Cn1FBCB Nd1FBF0 Cn1FBFA Lo20000 Cn2A6E0 Lo2A700 Cn2B73A Lo2B740 Cn2B81E Lo2B820",
    "Cn2CEA2 Lo2CEB0 Cn2EBE1 Lo2F800 Cn2FA1E Lo30000 Cn3134B Lo31350 Cn323B0 CfE0001 CnE0002",
    "CfE0020 CnE0080 MnE0100 CnE01F0 CoF0000 CnFFFFE Co100000 Cn10FFFE"]

end Category

def categoryRuns : Runs :=
  Runs.ofRows 2 Category.rows

def category (c : Char) : Category :=
  match categoryRuns.find? c with
  | none => .cn
  | some (start, label) =>
    (Category.ofCode? label).getD (if (c.toNat - start) % 2 == 0 then .lu else .ll)

def isDecimalDigit (c : Char) : Bool :=
  category c == .nd

-- Circled and squared Latin letters, which the table counts as symbols.
def isEnclosedLetter (c : Char) : Bool :=
  let n := c.toNat
  (0x24B6 ≤ n && n ≤ 0x24E9) || (0x1F130 ≤ n && n ≤ 0x1F149) ||
    (0x1F150 ≤ n && n ≤ 0x1F169) || (0x1F170 ≤ n && n ≤ 0x1F189)

def isWord (c : Char) : Bool :=
  let g := category c
  g.isLetter || g.isMark || g == .nd || g == .nl || g == .pc || isEnclosedLetter c ||
    c == '\u200c' || c == '\u200d'

def isAsciiWord (c : Char) : Bool :=
  c.isAlphanum || c == '_'

-- Whether the marks from a code point on are alphabetic (`A`) or bare (`B`).
def markRuns : Runs :=
  Runs.ofRows 1 [
    "B300 A345 B346 A5B0 B658 A659 B6DF A6E1 B6EA A6ED B740 A7A6 B7EB A816 B818 A81B B82D A8D4 B8E0",
    "A8E3 B8EA A8F0 B93C A93E B94D A94E B951 A955 B9BC A9BE B9CD A9D7 B9FE AA01 BA3C AA3E BA4D AA51",
    "BABC AABE BACD AAE2 BAFD AB01 BB3C AB3E BB4D AB56 BBCD ABD7 BC3C AC3E BC4D AC55 BCBC ACBE BCCD",
    "ACD5 BD3B AD3E BD4D AD57 BDCA ADCF BE47 AE4D BE4E AEB1 BEBA AEBB BEC8 AECD BECE AF71 BF84 AF8D",
    "BFC6 A102B B1037 A1038 B1039 A103B B135D A1712 B1714 A1732 B1734 A1752 B17B4 A17B6 B17C9 A1885",
    "B1939 A1A17 B1A60 A1A61 B1A75 A1ABF B1AC1 A1ACC B1B34 A1B35 B1B44 A1B80 B1BAA A1BAC B1BE6",
    "A1BE7 B1BF2 A1C24 B1C37 A1DE7 B1DF5 A2DE0 B302A AA674 BA67C AA69E BA6F0 AA802 BA806 AA80B",
    "BA82C AA880 BA8C4 AA8C5 BA8E0 AA8FF BA92B AA947 BA953 AA980 BA9B3 AA9B4 BA9C0 AA9E5 BAABF",
    "AAAEB BAAF6 AABE3 BABEC AFB1E BFE00 A10376 B10A38 A10D24 B10EFD A11000 B11046 A11073 B1107F",
    "A11080 B110B9 A110C2 B11133 A11145 B11173 A11180 B111C0 A111CE B11235 A11237 B112E9 A11300",
    "B1133B A1133E B1134D A11357 B11366 A11435 B11442 A11443 B11446 A114B0 B114C2 A115AF B115BF",
    "A115DC B1163F A11640 B116B6 A1171D B1172B A1182C B11839 A11930 B1193D A11940 B11943 A119D1",
    "B119E0 A119E4 B11A33 A11A35 B11A47 A11A51 B11A98 A11C2F B11C3F A11C92 B11D42 A11D43 B11D44",
    "A11D47 B11D97 A11EF3 B11F41 A16F4F B16FE4 A16FF0 B1BC9D A1BC9E B1CF00 A1E000 B1E130 A1E947",
    "B1E948"]

def isAlphabetic (c : Char) : Bool :=
  let g := category c
  g.isLetter || g == .nl || isEnclosedLetter c ||
    (g.isMark && (markRuns.find? c).any (·.2 == ['A']))

def isPrintable (c : Char) : Bool :=
  match category c with
  | .cc | .cf | .cs | .co | .cn | .zl | .zp => false
  | .zs => c == ' '
  | _ => true

def attachedMarks : List Nat :=
  [0x9BE, 0x9D7, 0xB3E, 0xB57, 0xBBE, 0xBD7, 0xCC2, 0xCD5, 0xCD6, 0xD3E, 0xD57, 0xDCF, 0xDDF,
    0x1B35, 0x200C, 0x302E, 0x302F, 0xFF9E, 0xFF9F, 0x1133E, 0x11357, 0x114B0, 0x114BD, 0x115AF,
    0x11930, 0x1D165, 0x1D16E, 0x1D16F, 0x1D170, 0x1D171, 0x1D172]

def isAttached (c : Char) : Bool :=
  let g := category c
  g == .mn || g == .me || attachedMarks.contains c.toNat ||
    (0xE0020 ≤ c.toNat && c.toNat ≤ 0xE007F)

end Recast.Text
