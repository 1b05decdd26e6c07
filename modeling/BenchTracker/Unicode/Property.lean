import BenchTracker.Unicode.LowerCase
import BenchTracker.Unicode.Printable
import BenchTracker.Unicode.Word

/-!
# Properties

The sets of characters that have a name by themselves. Names are in small letters and without
separators.
-/

namespace BenchTracker

namespace Unicode

/-- White space. -/
def spaceRanges : Ranges := Ranges.decode "9 4 18 0 100 0 26 0 5599 0 2431 10 29 1 5 0 47 0 4000 0"

/-- The characters that make up clusters, apart from those that extend others. -/
def graphemeBaseRanges : Ranges :=
  (Ranges.unionAll [Category.other, Category.lineSeparator, Category.paragraphSeparator,
    extendingRanges]).complement

def identifierStartRanges : Ranges :=
  (Ranges.unionAll [Category.letter, Category.letterNumber,
    Ranges.decode "6277 1 2193 0 21 0 3948 1"]).difference
      (Ranges.decode "11823 0")

def identifierRanges : Ranges :=
  (Ranges.unionAll [identifierStartRanges, Category.nonspacingMark, Category.spacingMark,
    Category.decimalNumber, Category.connectorPunctuation,
    Ranges.decode "183 0 719 0 4065 8 1640 0 1585 1 4333 0 52841 0"]).difference
      (Ranges.decode "")

/-- The starts of identifiers that a normal form turns into something else. -/
def irregularStarts : Ranges := Ranges.decode "
  890 0 2744 0 127 0 8679 1 52161 5 406 1 116 0 1 0 1 0 1 0 1 0 1 0 1 0 1 0 287 1"

def irregularIdentifiers : Ranges := Ranges.decode "
  890 0 11552 1 52161 5 406 1 116 0 1 0 1 0 1 0 1 0 1 0 1 0 1 0"

def mathRanges : Ranges :=
  Category.mathSymbol.union (Ranges.decode "
    94 0 881 2 2 0 26 1 2 1 7200 0 27 2 11 0 32 3 24 1 14 1 65 12 4 0 3 1 4 4 18 0 4 0 2 9 1 0 3 4
    6 0 3 1 2 1 1 2 1 5 3 3 5 4 75 4 2 3 1 1 1 1 1 0 1 4 2 1 4 1 4 17 2 1 1 0 1 6 1 0 6 1 290 3
    168 1 1 0 24 0 17 0 445 1 12 8 5 4 5 1 2 1 3 4 14 0 1 0 2 5 24 1 57 0 1 0 29 3 9 1 342 1 31 9
    403 21 63 3 32 1 54371 0 1 0 4 0 211 0 1 0 54465 84 1 70 1 1 2 0 2 1 2 3 1 11 1 0 1 6 1 64 1 3
    2 7 1 6 1 27 1 3 1 4 1 0 3 6 1 339 2 24 1 24 1 30 1 24 1 30 1 24 1 30 1 24 1 30 1 24 1 7 2 49
    5632 3 1 26 1 1 1 0 2 0 1 9 1 3 1 0 1 0 6 0 4 0 1 0 1 0 1 2 1 1 1 0 2 0 1 0 1 0 1 0 1 0 1 1 1
    0 2 3 1 6 1 3 1 3 1 0 1 9 1 16 5 2 1 4 1 16")

/-- The properties that are given by tables, with their names. -/
def propertyTable : List (List String × String) := [
  (["bidicontrol", "bidic"], "1564 0 6641 1 26 4 55 3"),
  (["bidimirrored", "bidim"], "
    40 1 18 0 1 0 28 0 1 0 29 0 1 0 45 0 15 0 3710 3 1885 1 2460 1 10 1 54 1 14 1 177 0 192 3 3 5
    3 0 3 1 3 3 1 3 1 0 1 0 4 8 5 0 1 17 5 3 9 1 1 0 1 7 1 31 2 3 5 0 9 1 2 18 5 1 9 4 2 1 4 23 2
    15 8 3 20 1 7 1 1085 13 74 0 2 3 1 1 1 2 5 3 5 2 3 13 403 21 2 5 1 13 8 0 7 5 3 0 4 4 1 1 2 4
    4 0 1 2 2 1 10 5 2 1 12 18 1 3 2 0 1 0 2 0 1 3 5 1 6 2 24 1 11 1 4 3 1 1 2 1 4 42 2 7 1 39 5 0
    1 0 3 4 5 2 4 0 3 4 1 0 256 0 515 3 3 1 1 1 14 1 2 9 43 7 427 9 2 7 52797 5 5 1 162 1 18 0 1 0
    28 0 1 0 29 0 1 0 1 1 1 1 55159 0 57 0 57 0 57 0 57 0"),
  (["dash"], "
    45 0 1372 0 51 0 3649 0 1029 0 2057 5 61 0 39 0 15 0 390 0 3076 0 2 0 31 1 4 0 28 0 446 0 19 0
    111 0 52624 1 37 0 10 0 169 0 3680 0 318 0"),
  (["defaultignorablecodepoint", "di"], "
    173 0 673 0 716 0 2882 1 1619 1 85 4 2043 4 26 4 49 15 4340 0 52379 15 239 0 160 0 79 8 48295
    3 5327 7 798341 4095"),
  (["deprecated", "dep"], "329 0 1321 0 2307 0 1 0 2089 1 2245 5 697 1 908502 0"),
  (["diacritic", "dia"], "
    94 0 1 0 71 0 6 0 4 0 2 1 503 158 1 7 5 5 17 1 4 0 9 1 253 4 209 0 55 44 1 0 1 1 1 1 1 0 131 7
    4 1 134 1 4 1 3 2 67 26 91 10 58 10 34 1 126 7 41 9 16 27 61 0 16 0 3 3 28 0 74 0 16 0 110 0
    16 0 110 0 16 0 47 2 60 0 16 0 7 0 119 0 110 0 16 0 110 0 16 0 109 1 16 0 124 0 111 0 12 5 1 0
    107 0 13 4 75 1 27 0 1 0 1 0 4 1 66 2 1 1 62 0 112 0 1 1 40 1 4 4 25 6 1 0 10 1 705 2 948 1 30
    0 148 10 9 0 347 2 292 0 20 7 2 0 48 14 2 10 3 14 2 11 72 0 15 0 38 8 54 1 58 0 11 1 66 1 64 5
    82 24 4 0 6 0 2 2 50 62 48 35 5 11 37 10 445 0 1 2 11 2 13 2 13 2 13 1 3312 2 317 0 506 5 105
    3 95 0 30066 0 12 1 1 0 28 1 82 1 14 33 102 2 102 0 6 1 12 0 37 0 151 0 27 17 57 3 36 0 95 0
    12 0 36 0 149 2 65 3 51 0 100 4 9 2 128 1 20272 0 769 15 270 0 1 0 47 0 45 1 67 0 764 0 1183 5
    1 41 1 8 637 2 4 0 165 1 571 5 38 0 26 4 396 0 2 2 70 10 49 3 192 0 41 0 72 1 120 1 62 0 76 0
    9 2 104 1 178 1 80 1 16 0 24 6 3 4 89 2 1 1 13 1 95 0 3 0 123 1 251 1 126 0 118 1 115 0 269 1
    258 1 4 0 156 0 83 0 18 0 81 0 421 0 258 0 1 1 81 0 65 0 359 1 23 0 5356 14 11481 0 2496 4 59
    6 564 1 546 16 80 1 16382 3 1 6 1 1 7937 45 2 22 544 2 3 5 8 7 2 6 30 3 3714 61 194 6 375 0 61
    3 766 1 736 6 109 2 1 2"),
  (["emoji"], "
    35 0 6 0 5 9 111 0 4 0 8077 0 12 0 216 0 22 0 90 5 15 1 367 1 12 0 166 0 25 10 4 2 199 0 231 1
    10 0 9 0 58 3 1 4 9 0 2 0 2 1 2 0 4 0 2 0 1 1 2 0 3 0 3 1 8 2 5 0 1 0 5 11 11 1 2 0 1 1 1 0 18
    0 2 1 18 5 1 0 1 1 3 1 5 0 2 1 4 1 11 1 5 1 2 0 5 1 1 0 1 1 20 1 5 5 1 3 2 0 4 0 2 0 2 5 1 0 2
    0 1 0 1 0 6 0 3 0 6 0 10 1 15 0 2 0 4 0 1 0 4 2 1 0 11 1 48 2 9 0 14 0 14 0 372 1 463 2 19 1
    51 0 4 0 1242 0 12 0 601 0 1 0 114026 0 202 0 160 1 12 1 14 0 2 9 75 25 1 1 23 0 20 0 2 8 21 1
    174 33 2 111 2 1 1 2 2 82 2 2 1 262 1 62 11 5 1 23 7 1 2 7 12 0 2 3 2 0 4 1 13 1 2 0 8 1 9 0 5
    2 12 2 8 2 2 0 1 0 4 0 6 0 3 0 6 85 48 69 5 7 2 3 3 9 3 0 1 1 3 0 2 9 227 11 4 0 283 46 1 9 1
    184 112 12 3 10 3 56 1 0 4 15 2 11 4 9"),
  (["emojicomponent", "ecomp"], "
    35 0 6 0 5 9 8147 0 213 0 56619 0 62422 25 507 4 1456 3 788076 95"),
  (["emojimodifier", "emod"], "127995 4"),
  (["emojimodifierbase", "ebase"], "
    9757 0 219 0 16 3 117879 0 60 2 2 0 2 2 117 1 2 10 21 18 3 0 4 2 1 2 7 0 1 0 24 0 201 1 4 0 21
    0 4 1 174 2 3 4 83 0 16 2 9 0 11 0 575 0 2 0 8 7 6 0 9 9 2 2 56 0 61 1 1 1 1 0 17 2 1 12 229 2
    42 8"),
  (["emojipresentation", "epres"], "
    8986 1 205 3 3 0 2 0 521 1 21 1 50 11 43 0 19 0 13 0 8 1 17 1 5 1 8 0 5 0 21 0 7 1 1 0 4 0 2 0
    7 0 4 1 28 0 35 0 1 0 4 2 1 0 61 2 24 0 14 0 859 1 51 0 4 0 115886 0 202 0 190 0 2 9 75 25 1 0
    24 0 20 0 2 4 1 2 21 1 174 32 12 8 1 69 1 21 12 42 4 4 12 16 3 0 3 70 1 0 1 186 2 62 13 3 1 23
    18 0 26 1 13 0 86 84 48 69 6 0 3 2 2 3 3 3 11 1 7 8 227 11 4 0 283 46 1 9 1 184 112 12 3 10 3
    56 1 0 4 15 2 11 4 9"),
  (["extendedpictographic", "extpict"], "
    169 0 4 0 8077 0 12 0 216 0 22 0 90 5 15 1 367 1 12 0 166 0 25 10 4 2 199 0 231 1 10 0 9 0 58
    3 1 4 9 0 2 0 2 1 2 0 4 0 2 0 1 1 2 0 3 0 3 1 8 2 5 0 1 0 5 11 11 1 2 0 1 1 1 0 18 0 2 1 18 5
    1 0 1 1 3 1 5 0 2 1 4 1 11 1 5 1 2 0 5 1 1 0 1 1 20 1 5 5 1 3 2 0 4 0 2 0 2 5 1 0 2 0 1 0 1 0
    6 0 3 0 6 0 10 1 15 0 2 0 4 0 1 0 4 2 1 0 11 1 48 2 9 0 14 0 14 0 372 1 463 2 19 1 51 0 4 0
    1242 0 12 0 601 0 1 0 114026 0 39 3 100 11 15 1 15 0 14 1 37 9 112 1 12 1 14 0 2 9 19 55 27 14
    10 0 20 0 2 8 1 3 9 22 6 187 2 111 2 1 1 2 2 82 2 2 1 3 5 253 1 62 11 5 1 23 7 1 2 7 12 0 2 3
    2 0 4 1 13 1 2 0 8 1 9 0 5 2 12 2 8 2 2 0 1 0 4 0 6 0 3 0 6 85 48 69 5 7 2 16 3 0 1 5 2 12 218
    37 12 3 56 7 10 5 40 7 30 1 12 3 2 13 9 38 12 46 1 9 1 184 88 7 14 145 256 1021"),
  (["extender", "ext"], "
    183 0 536 1 878 0 441 0 630 0 137 0 89 0 752 0 127 0 2371 0 56 0 611 0 398 0 68 0 5001 0 43 4
    103 1 93 2 28438 0 1526 0 962 0 22 0 137 0 108 0 21 1 21627 0 2064 1 1483 0 27 0 4 0 1223 0
    293 0 116 1 498 2 1231 0 832 0 19816 1 1180 1 1 0 14 1 29000 1 1201 0 852 2"),
  (["hexdigit", "hex"], "48 9 7 5 26 5 65193 9 7 5 26 5"),
  (["hyphen"], "45 0 127 0 1244 0 4731 0 2057 1 3589 0 739 0 52583 0 169 0 87 0"),
  (["idsbinaryoperator", "idsb"], "12272 1 2 9 497 0"),
  (["idstrinaryoperator", "idst"], "12274 1"),
  (["ideographic", "ideo"], "
    12294 1 25 8 14 2 965 6591 64 20991 22784 365 2 105 29962 0 13 4 9 7381 41 31 97 114 9085 395
    19716 42719 32 4381 2 5773 2 7472 15 621 2466 541 1506 4938 5 8489"),
  (["logicalorderexception", "loe"], "3648 4 123 4 2800 2 2 0 37114 1 2 0 1 1"),
  (["noncharactercodepoint", "nchar"], "
    64976 31 526 1 65534 1 65534 1 65534 1 65534 1 65534 1 65534 1 65534 1 65534 1 65534 1 65534 1
    65534 1 65534 1 65534 1 65534 1 65534 1 65534 1"),
  (["patternsyntax", "patsyn"], "
    33 14 10 6 26 3 1 0 26 3 34 6 1 0 1 1 1 0 1 1 4 0 4 0 3 0 23 0 31 0 7960 23 8 14 2 18 1 9 305
    719 160 629 30 1131 512 127 385 2 4 24 15 0 52493 1 261 1"),
  (["patternwhitespace", "patws"], "9 4 18 0 100 0 8072 1 24 1"),
  (["prependedconcatenationmark", "pcm"], "1536 5 215 0 49 0 384 1 80 0 67546 0 15 0"),
  (["quotationmark", "qmark"], "
    34 0 4 0 131 0 15 0 8028 7 25 1 3591 0 457 3 13 2 52769 3 189 0 4 0 90 1"),
  (["radical"], "11904 25 1 88 12 213"),
  (["regionalindicator", "ri"], "127462 25"),
  (["sentenceterminal", "sterm"], "
    33 0 12 0 16 0 1353 0 147 2 180 0 43 2 246 0 61 0 1 0 3 1 293 1 1764 1 790 0 4 1 773 0 198 1
    157 1 45 0 5 0 314 1 354 3 162 1 10 1 2 1 29 2 187 1 65 1 932 0 23 1 9 2 3247 2 306 0 13 0 22
    1 429 0 29948 0 270 1 227 0 3 0 382 1 86 1 95 0 152 1 147 2 144 1 249 0 21030 0 2 1 59 0 3 1
    169 0 12 0 16 0 65 0 2804 1 1277 4 44 3 189 1 117 3 127 2 129 1 6 0 16 1 88 1 1 1 108 0 298 1
    117 1 373 1 5 14 105 1 249 2 517 0 1 0 251 1 87 1 420 1 692 1 74 1 19241 1 133 0 65 1 11 0 553
    1 296 0 19974 0 7656 0"),
  (["softdotted", "sd"], "
    105 1 196 0 281 0 30 0 52 0 20 0 320 0 98 0 1 0 6409 0 51 0 13 0 3 0 132 0 157 0 421 0 214 1
    2866 0 108453 1 50 1 50 1 50 1 50 1 50 1 50 1 50 1 50 1 50 1 50 1 50 1 50 1 2182 0 305 1 26 0"),
  (["terminalpunctuation", "term"], "
    33 0 10 0 1 0 11 1 3 0 830 0 8 0 513 0 57 0 72 0 14 0 1 2 180 0 43 10 1 0 235 1 54 5 1 7 31 0
    261 1 1268 1 172 0 4 5 311 1 789 7 773 0 124 2 71 1 157 2 3 0 39 3 2 1 314 1 354 3 162 1 10 1
    1 2 29 2 187 4 62 1 932 0 23 1 9 2 3247 2 306 0 13 0 4 0 10 0 1 1 3 1 428 1 29947 1 269 2 227
    4 382 1 86 1 95 0 151 2 147 2 127 0 16 1 249 0 21030 0 2 1 57 2 1 3 169 0 10 0 1 0 11 1 3 0 65
    0 2 0 1082 0 48 0 1158 0 199 0 310 1 152 5 68 5 89 3 952 4 44 3 189 6 112 3 127 2 129 1 6 0 16
    1 88 4 108 0 298 1 117 2 12 1 358 3 3 14 105 1 249 2 517 0 1 0 251 1 87 1 4 1 414 2 45 0 645 1
    74 1 1323 4 17913 1 133 0 65 2 10 0 553 1 295 1 19974 0 7655 3"),
  (["unifiedideograph", "uideo"], "
    13312 6591 64 20991 23054 1 1 0 1 1 10 0 1 0 1 1 2 2 67030 42719 32 4381 2 5773 2 7472 15 621
    4514 4938 5 8489"),
  (["variationselector", "vs"], "6155 2 1 0 58864 15 852720 239")]

/-- The characters with the property of a name. -/
def property? (name : String) : Option Ranges :=
  match name with
  | "asciihexdigit" | "ahex" => some [(48, 57), (65, 70), (97, 102)]
  | "alphabetic" | "alpha" => some alphabeticRanges
  | "caseignorable" | "ci" => some caseIgnorableRanges
  | "cased" => some casedRanges
  | "graphemebase" | "grbase" => some graphemeBaseRanges
  | "graphemeextend" | "grext" => some extendingRanges
  | "idcontinue" | "idc" => some identifierRanges
  | "idstart" | "ids" => some identifierStartRanges
  | "joincontrol" | "joinc" => some joiners
  | "lowercase" | "lower" => some lowercaseRanges
  | "math" => some mathRanges
  | "uppercase" | "upper" => some uppercaseRanges
  | "whitespace" | "wspace" | "space" => some spaceRanges
  | "xidcontinue" | "xidc" => some (identifierRanges.difference irregularIdentifiers)
  | "xidstart" | "xids" => some (identifierStartRanges.difference irregularStarts)
  | _ => (propertyTable.find? fun entry => entry.1.contains name).map fun entry =>
    Ranges.decode entry.2

end Unicode

end BenchTracker
