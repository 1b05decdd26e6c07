import BenchTracker.Unicode.Ranges

/-!
# Scripts

The script that a character belongs to, and the further scripts that use it as well. Names are in
small letters and without separators.
-/

namespace BenchTracker

namespace Unicode

namespace Script

/-- The names of each script and the characters that belong to it. -/
def table : List (List String × String) := [
  (["adlam", "adlm"], "125184 75 4 9 4 1"),
  (["caucasianalbanian", "aghb"], "66864 51 11 0"),
  (["ahom"], "71424 26 2 14 4 22"),
  (["arabic", "arab"], "
    1536 4 1 5 1 13 1 2 1 31 1 9 11 25 1 107 1 33 80 47 240 33 5 74 1 28 62032 493 2 143 32 15 112
    4 1 134 3939 30 67 5 8 8 33 5 57088 3 1 26 1 1 1 0 2 0 1 9 1 3 1 0 1 0 6 0 4 0 1 0 1 0 1 2 1 1
    1 0 2 0 1 0 1 0 1 0 1 0 1 1 1 0 2 3 1 6 1 3 1 3 1 0 1 9 1 16 5 2 1 4 1 16 52 1"),
  (["imperialaramaic", "armi"], "67648 21 1 8"),
  (["armenian", "armn"], "1329 37 2 49 2 2 62851 4"),
  (["avestan", "avst"], "68352 53 3 6"),
  (["balinese", "bali"], "6912 76 1 49"),
  (["bamum", "bamu"], "42656 87 49416 568"),
  (["bassavah", "bass"], "92880 29 2 5"),
  (["batak", "batk"], "7104 51 8 3"),
  (["bengali", "beng"], "2432 3 1 7 2 1 2 21 1 6 1 0 3 3 2 8 2 1 2 3 8 0 4 1 1 4 2 24"),
  (["beriaerfe", "berf"], "93856 24 2 24"),
  (["bhaiksuki", "bhks"], "72704 8 1 44 1 13 10 28"),
  (["bopomofo", "bopo"], "746 1 11801 42 112 31"),
  (["brahmi", "brah"], "69632 77 4 35 9 0"),
  (["braille", "brai"], "10240 255"),
  (["buginese", "bugi"], "6656 27 2 1"),
  (["buhid", "buhd"], "5952 19"),
  (["chakma", "cakm"], "69888 52 1 17"),
  (["canadianaboriginal", "cans"], "5120 639 560 69 65978 15"),
  (["carian", "cari"], "66208 48"),
  (["cham"], "43520 54 9 13 2 9 2 3"),
  (["cherokee", "cher"], "5024 85 2 5 38770 79"),
  (["chorasmian", "chrs"], "69552 27"),
  (["coptic", "copt", "qaac"], "994 13 10384 115 5 6"),
  (["cyprominoan", "cpmn"], "77712 98"),
  (["cypriot", "cprt"], "67584 5 2 0 1 43 1 1 3 0 2 0"),
  (["cyrillic", "cyrl"], "
    1024 132 2 168 5968 10 160 0 76 0 4199 31 30784 95 22414 1 57856 61 33 0"),
  (["devanagari", "deva"], "2304 80 4 14 2 25 40800 31 29184 9"),
  (["divesakuru", "diak"], "71936 6 2 0 2 7 1 1 1 29 1 1 2 11 9 9"),
  (["dogra", "dogr"], "71680 59"),
  (["deseret", "dsrt"], "66560 79"),
  (["duployan", "dupl"], "113664 106 5 12 3 8 7 9 2 3"),
  (["egyptianhieroglyphs", "egyp"], "77824 1109 10 3994"),
  (["elbasan", "elba"], "66816 39"),
  (["elymaic", "elym"], "69600 22"),
  (["ethiopic", "ethi"], "
    4608 72 1 3 2 6 1 0 1 3 2 40 1 3 2 32 1 3 2 6 1 0 1 3 2 14 1 56 1 3 2 66 2 31 3 25 6630 22 9 6
    1 6 1 6 1 6 1 6 1 6 1 6 1 6 32034 5 2 5 2 5 9 6 1 6 81073 6 1 3 1 1 1 14"),
  (["garay", "gara"], "68928 37 3 28 8 1"),
  (["georgian", "geor"], "4256 37 1 0 5 0 2 42 1 3 2960 42 2 2 4160 37 1 0 5 0"),
  (["glagolitic", "glag"], "11264 95 111520 6 1 16 2 6 1 1 1 4"),
  (["gunjalagondi", "gong"], "73056 5 1 1 1 36 1 1 1 5 7 9"),
  (["masaramgondi", "gonm"], "72960 6 1 1 1 43 3 0 1 1 1 8 8 9"),
  (["gothic", "goth"], "66352 26"),
  (["grantha", "gran"], "70400 3 1 7 2 1 2 21 1 6 1 1 1 4 2 8 2 1 2 2 2 0 6 0 5 6 2 6 3 4"),
  (["greek", "grek"], "
    880 3 1 2 2 3 1 0 4 0 1 0 1 2 1 0 1 19 1 62 14 15 6438 4 50 4 4 4 84 0 320 21 2 5 2 37 2 5 2 7
    1 0 1 0 1 0 1 30 2 52 1 14 1 13 2 5 1 18 2 2 1 8 295 0 35390 0 21978 78 17 0 53343 69"),
  (["gujarati", "gujr"], "2689 2 1 8 1 2 1 21 1 6 1 1 1 4 2 9 1 2 1 2 2 0 15 3 2 11 7 6"),
  (["gurungkhema", "gukh"], "90368 57"),
  (["gurmukhi", "guru"], "2561 2 1 5 4 1 2 21 1 6 1 1 1 1 1 1 2 0 1 4 4 1 2 2 3 0 7 3 1 0 7 16"),
  (["hangul", "hang"], "
    4352 255 7726 1 257 93 113 30 65 30 30433 28 643 11171 12 22 4 48 10148 30 3 5 2 5 2 5 2 2"),
  (["hani", "han"], "
    11904 25 1 88 12 213 47 0 1 0 25 8 14 3 964 6591 64 20991 22784 365 2 105 29960 1 12 6 36873
    42719 32 4381 2 5773 2 7472 15 621 2466 541 1506 4938 5 8489"),
  (["hanunoo", "hano"], "5920 20"),
  (["hatran", "hatr"], "67808 18 1 1 5 4"),
  (["hebrew", "hebr"], "1425 54 8 26 4 5 62760 25 1 4 1 0 1 1 1 1 1 9"),
  (["hiragana", "hira"], "12353 85 6 2 98145 286 18 0 29 2 16557 0"),
  (["anatolianhieroglyphs", "hluw"], "82944 582"),
  (["pahawhhmong", "hmng"], "92928 69 10 9 1 6 1 20 5 18"),
  (["nyiakengpuachuehmong", "hmnp"], "123136 44 3 13 2 9 4 1"),
  (["oldhungarian", "hung"], "68736 50 13 50 7 5"),
  (["olditalic", "ital"], "66304 35 9 2"),
  (["javanese", "java"], "43392 77 2 9 4 1"),
  (["kayahli", "kali"], "43264 45 1 0"),
  (["katakana", "kana"], "
    12449 89 2 2 240 15 208 46 1 87 52238 9 1 44 45138 3 1 6 1 1 1 0 287 2 50 0 14 3"),
  (["kawi"], "73472 16 1 40 3 28"),
  (["kharoshthi", "khar"], "68096 3 1 1 5 7 1 2 1 28 2 2 4 9 7 8"),
  (["khmer", "khmr"], "6016 93 2 9 6 9 486 31"),
  (["khojki", "khoj"], "70144 17 1 46"),
  (["khitansmallscript", "kits"], "94180 0 6939 469 41 0"),
  (["kannada", "knda"], "3200 12 1 2 1 22 1 9 1 4 2 8 1 2 1 3 7 1 5 2 1 3 2 9 1 2"),
  (["kiratrai", "krai"], "93504 57"),
  (["kaithi", "kthi"], "69760 66 10 0"),
  (["taitham", "lana"], "6688 62 1 28 2 10 6 9 6 13"),
  (["laoo", "lao"], "3713 1 1 0 1 4 1 23 1 0 1 22 2 4 1 0 1 6 1 9 2 3"),
  (["latin", "latn"], "
    65 25 6 25 47 0 15 0 5 22 1 30 1 448 39 4 6683 37 6 48 5 3 5 12 1 69 65 255 369 0 13 0 16 12
    141 1 6 0 27 0 17 40 2775 31 31394 101 3 81 20 14 816 42 1 8 1 3 20374 6 1050 25 6 25 2085 5 1
    41 1 8 55109 30 6 5"),
  (["lepcha", "lepc"], "7168 55 3 14 3 2"),
  (["limbu", "limb"], "6400 30 1 11 4 11 4 0 3 11"),
  (["lineara", "lina"], "67072 310 9 21 10 7"),
  (["linearb", "linb"], "65536 11 1 25 1 18 1 1 1 14 2 13 34 122"),
  (["lisu"], "42192 47 31408 0"),
  (["lycian", "lyci"], "66176 28"),
  (["lydian", "lydi"], "67872 25 5 0"),
  (["mahajani", "mahj"], "69968 38"),
  (["makasar", "maka"], "73440 24"),
  (["mandaic", "mand"], "2112 27 2 0"),
  (["manichaean", "mani"], "68288 38 4 11"),
  (["marchen", "marc"], "72816 31 2 21 1 13"),
  (["medefaidrin", "medf"], "93760 90"),
  (["mendekikakui", "mend"], "124928 196 2 15"),
  (["meroiticcursive", "merc"], "68000 23 4 19 2 45"),
  (["meroitichieroglyphs", "mero"], "67968 31"),
  (["malayalam", "mlym"], "3328 12 1 2 1 50 1 2 1 5 4 15 2 25"),
  (["modi"], "71168 68 11 9"),
  (["mongolian", "mong"], "6144 1 2 0 1 19 6 88 7 42 64949 12"),
  (["mroo", "mro"], "92736 30 1 9 4 1"),
  (["meeteimayek", "mtei"], "43744 22 201 45 2 9"),
  (["multani", "mult"], "70272 6 1 0 1 3 1 14 1 10"),
  (["myanmar", "mymr"], "4096 159 39232 30 97 31 27728 19"),
  (["nagmundari", "nagm"], "124112 41"),
  (["nandinagari", "nand"], "72096 7 2 45 2 10"),
  (["oldnortharabian", "narb"], "68224 31"),
  (["nabataean", "nbat"], "67712 30 8 8"),
  (["newa"], "70656 91 1 4"),
  (["nkoo", "nko"], "1984 58 2 2"),
  (["nushu", "nshu"], "94177 0 16782 395"),
  (["ogham", "ogam"], "5760 28"),
  (["olchiki", "olck"], "7248 47"),
  (["olonal", "onao"], "124368 42 4 0"),
  (["oldturkic", "orkh"], "68608 72"),
  (["oriya", "orya"], "2817 2 1 7 2 1 2 21 1 6 1 1 1 4 2 8 2 1 2 2 7 2 4 1 1 4 2 17"),
  (["osage", "osge"], "66736 35 4 35"),
  (["osmanya", "osma"], "66688 29 2 9"),
  (["olduyghur", "ougr"], "69488 25"),
  (["palmyrene", "palm"], "67680 31"),
  (["paucinhau", "pauc"], "72384 56"),
  (["oldpermic", "perm"], "66384 42"),
  (["phagspa", "phag"], "43072 55"),
  (["inscriptionalpahlavi", "phli"], "68448 18 5 7"),
  (["psalterpahlavi", "phlp"], "68480 17 7 3 12 6"),
  (["phoenician", "phnx"], "67840 27 3 0"),
  (["plrd", "miao"], "93952 74 4 56 7 16"),
  (["inscriptionalparthian", "prti"], "68416 21 2 7"),
  (["rejang", "rjng"], "43312 35 11 0"),
  (["hanifirohingya", "rohg"], "68864 39 8 9"),
  (["runic", "runr"], "5792 74 3 10"),
  (["samaritan", "samr"], "2048 45 2 14"),
  (["oldsoutharabian", "sarb"], "68192 31"),
  (["saurashtra", "saur"], "43136 69 8 11"),
  (["signwriting", "sgnw"], "120832 651 15 4 1 14"),
  (["shavian", "shaw"], "66640 47"),
  (["sharada", "shrd"], "70016 95 2432 7"),
  (["siddham", "sidd"], "71040 53 2 37"),
  (["sidetic", "sidt"], "67904 25"),
  (["khudawadi", "sind"], "70320 58 5 9"),
  (["sinhala", "sinh"], "3457 2 1 17 3 23 1 8 1 0 2 6 3 0 4 5 1 0 1 7 6 9 2 2 66540 19"),
  (["sogdian", "sogd"], "69424 41"),
  (["oldsogdian", "sogo"], "69376 39"),
  (["sorasompeng", "sora"], "69840 24 7 9"),
  (["soyombo", "soyo"], "72272 82"),
  (["sundanese", "sund"], "7040 63 256 7"),
  (["sunuwar", "sunu"], "72640 33 14 9"),
  (["sylotinagri", "sylo"], "43008 44"),
  (["syriac", "syrc"], "1792 13 1 59 2 2 272 10"),
  (["tagbanwa", "tagb"], "5984 12 1 2 1 1"),
  (["takri", "takr"], "71296 57 6 9"),
  (["taile", "tale"], "6480 29 2 4"),
  (["newtailue", "talu"], "6528 43 4 25 6 10 3 1"),
  (["tamil", "taml"], "
    2946 1 1 5 3 2 1 3 3 1 1 0 1 1 3 1 3 2 3 11 4 4 3 2 1 3 2 0 6 0 14 20 70597 49 13 0"),
  (["tangut", "tang"], "94176 0 31 6911 512 30 97 114"),
  (["taiviet", "tavt"], "43648 66 24 4"),
  (["taiyo", "tayo"], "124608 30 1 21 8 1"),
  (["telugu", "telu"], "3072 12 1 2 1 22 1 15 2 8 1 2 1 3 7 1 1 2 1 1 2 3 2 9 7 8"),
  (["tifinagh", "tfng"], "11568 55 7 1 14 0"),
  (["tagalog", "tglg"], "5888 21 9 0"),
  (["thaana", "thaa"], "1920 49"),
  (["thai"], "3585 57 5 27"),
  (["tibetan", "tibt"], "3840 71 1 35 4 38 1 35 1 14 1 6 4 1"),
  (["tirhuta", "tirh"], "70784 71 8 9"),
  (["tangsa", "tnsa"], "92784 78 1 9"),
  (["todhri", "todr"], "67008 51"),
  (["tolongsiki", "tols"], "73136 43 4 9"),
  (["toto"], "123536 30"),
  (["tulutigalari", "tutg"], "70528 9 1 0 2 0 1 37 1 9 1 0 2 0 1 3 1 9 1 1 8 1"),
  (["ugaritic", "ugar"], "66432 29 1 0"),
  (["vaii", "vai"], "42240 299"),
  (["vithkuqi", "vith"], "66928 10 1 14 1 6 1 1 1 10 1 14 1 6 1 1"),
  (["warangciti", "wara"], "71840 82 12 0"),
  (["wancho", "wcho"], "123584 57 5 0"),
  (["oldpersian", "xpeo"], "66464 35 4 13"),
  (["cuneiform", "xsux"], "73728 921 102 110 1 4 11 195"),
  (["yezidi", "yezi"], "69248 41 1 2 2 1"),
  (["yiii", "yi"], "40960 1164 3 54"),
  (["zanabazarsquare", "zanb"], "72192 71"),
  (["inherited", "zinh", "qaai"], "
    768 111 277 1 452 10 26 0 736 3 4443 45 2 11 484 2 1 12 1 6 4 0 6 0 3 1 198 63 524 1 194 32
    3897 3 107 1 52581 15 16 13 975 0 226 0 4186 0 48068 45 2 22 544 2 17 7 2 6 30 3 798546 239"),
  (["common", "zyyy"], "
    0 64 26 5 26 46 1 14 1 4 23 0 31 0 449 38 5 4 2 19 116 0 9 0 6 0 1 0 637 0 6 0 14 0 3 0 32 0
    156 0 516 0 129 1 1241 0 405 3 290 0 1519 2 71 1 203 1 1 0 1229 0 13 0 7 3 1 5 1 2 2 0 773 11
    2 86 1 10 3 10 1 14 17 33 62 37 1 2 2 5 1 26 1 16 41 2 4 665 22 10 21 927 256 627 2 137 512 93
    402 20 1 0 1 24 15 7 4 3 91 1 3 0 90 1 147 15 32 37 9 0 48 63 31 80 47 0 88 167 6592 63 22784
    33 102 2 165 9 244 0 160 0 395 0 14 1 20946 1 208 9 22 34 1 18 1 3 147 0 1 31 26 5 26 10 10 0
    45 1 64 6 1 6 10 4 258 2 4 44 3 8 80 12 51 44 228 26 47524 3 3932 252 3 435 6 22 15 16 95 115
    60 245 10 38 2 61 3 16 8 1 7 29 4 60 213 19 12 19 12 86 9 24 135 84 1 70 1 1 2 0 2 1 2 3 1 11
    1 0 1 6 1 64 1 3 2 7 1 6 1 27 1 3 1 4 1 0 3 6 1 339 2 291 2 49 5233 67 76 60 706 43 4 99 12 14
    2 14 1 14 1 36 10 173 56 25 1 1 13 43 4 8 7 1 14 5 154 984 3 16 3 12 3 217 6 11 4 0 15 11 4 55
    8 9 6 39 8 29 2 11 4 1 14 8 39 343 8 13 2 12 3 10 3 56 1 0 4 15 2 11 4 9 7 146 1 102 787462 0
    30 95")]

/-- The characters of other scripts that a script uses as well. -/
def borrowed : List (List String × String) := [
  (["adlam"], "1567 0 32 0 6670 0 3569 0"),
  (["caucasianalbanian"], "772 0 44 0 44 0"),
  (["arabic"], "1548 0 14 0 3 0 32 0 10 10 26 0 6622 0 3569 0 52988 1 1440 27"),
  (["armenian"], "776 0"),
  (["avestan"], "183 0 11640 1"),
  (["bengali"], "700 0 1684 1 17 1 4970 0 1 0 2 1 1 0 8 0 8 0 2 0 4 0 2 2 35833 0"),
  (["bopomofo"], "711 0 1 2 13 0 11559 2 4 9 1 12 10 3 2 0 6 0 195 0 52553 1 282 4"),
  (["buginese"], "43471 0"),
  (["buhid"], "5941 1"),
  (["chakma"], "2534 9 1616 9"),
  (["carian"], "183 0 8098 0 2 0 3539 0"),
  (["cherokee"], "768 2 1 0 6 1 22 1 11 1"),
  (["coptic"], "183 0 584 0 3 1 1 0 108 1 10913 0 54472 27"),
  (["cyprominoan"], "65792 1"),
  (["cypriot"], "65792 2 4 44 3 8"),
  (["cyrillic"], "700 0 67 2 1 0 1 0 1 0 2 0 5 0 371 1 6513 0 4170 0"),
  (["devanagari"], "700 0 1684 1 17 1 4970 38 1 1 1014 0 34623 9"),
  (["dogra"], "2404 11 40640 9"),
  (["duployan"], "183 0 591 1 1 0 24 1 11031 0 101987 3"),
  (["elbasan"], "183 0 589 0"),
  (["ethiopic"], "782 0"),
  (["garay"], "1548 0 14 0 3 0"),
  (["georgian"], "183 0 1233 0 2929 0 3934 0 3542 0"),
  (["glagolitic"], "183 0 587 0 1 0 382 0 2 0 257 0 2929 0 3934 0 3560 0 30763 0"),
  (["gunjalagondi"], "183 0 2220 1"),
  (["masaramgondi"], "2404 1"),
  (["gothic"], "183 0 588 1 2 0 40 0"),
  (["grantha"], "2385 1 17 1 640 13 4316 0 1 1 30 2 3 1 1014 0 62026 0 3220 1 1 0"),
  (["greek"], "183 0 584 1 2 0 1 0 1 0 10 0 46 0 2 0 46 0 6731 1 667 0"),
  (["gujarati"], "2385 1 17 1 40650 9"),
  (["gurungkhema"], "2405 0"),
  (["gurmukhi"], "2385 1 17 1 40650 9"),
  (["hangul"], "12289 2 4 9 1 12 16 0 6 0 195 0 52553 1 282 4"),
  (["han"], "
    183 0 12088 15 1 2 2 0 1 9 1 12 10 3 2 0 6 0 4 3 187 0 148 15 32 37 9 0 48 39 56 48 15 11 51 0
    88 24 10 4 96 30 29441 7 22333 1 282 4 54266 17 7902 1"),
  (["hanunoo"], "5941 1"),
  (["hebrew"], "775 1"),
  (["hiragana"], "12289 2 4 9 1 12 16 5 1 0 4 1 91 3 3 0 90 1 52552 1 282 4 10 0 45 1"),
  (["oldhungarian"], "8282 0 2 0 3539 0 15 0"),
  (["javanese"], "43471 0"),
  (["kayahli"], "43310 0"),
  (["katakana"], "773 0 29 0 11485 2 4 9 1 12 16 5 1 0 4 1 91 3 3 0 90 1 52552 1 282 4 10 0 45 1"),
  (["khojki"], "2790 9 40256 9"),
  (["kannada"], "2385 1 17 1 4970 0 1 1 6 0 23 0 1 0 35643 5"),
  (["kaithi"], "2406 9 9409 0 31230 9"),
  (["latin"], "
    183 0 516 0 10 0 1 2 1 0 9 0 1 0 38 14 1 1 1 0 15 2 7 1 1 1 38 0 5 0 4 12 277 1 1226 1 1960 0
    3324 0 566 0 192 0 3366 0 30952 7 550 0"),
  (["limbu"], "2405 0"),
  (["lineara"], "65799 44"),
  (["linearb"], "65792 2 4 44 3 8"),
  (["lisu"], "700 0 16 0 11580 1"),
  (["lycian"], "8282 0"),
  (["lydian"], "183 0 11641 0"),
  (["mahajani"], "183 0 2220 11 40640 9"),
  (["mandaic"], "1600 0"),
  (["manichaean"], "1600 0"),
  (["meroitichieroglyphs"], "8285 0"),
  (["malayalam"], "2385 1 17 1 4980 0 23 0 35645 2"),
  (["modi"], "43056 9"),
  (["mongolian"], "6146 1 1 0 2089 0 4049 1 5 3"),
  (["multani"], "2662 9"),
  (["myanmar"], "43310 0"),
  (["nandinagari"], "2385 0 18 1 896 9 4089 0 8 0 7 0 35637 5"),
  (["newa"], "2385 1 4994 0 1 1 9 0 6 0 1 0 1 0"),
  (["nko"], "1548 0 14 0 3 0 63262 1"),
  (["olonal"], "2404 1"),
  (["oldturkic"], "8282 0 3541 0"),
  (["oriya"], "2385 1 17 1 4980 0 23 0"),
  (["osage"], "769 0 2 0 6 0 76 0"),
  (["olduyghur"], "1600 0 66737 0"),
  (["oldpermic"], "183 0 584 0 5 2 10 0 367 0"),
  (["phagspa"], "6146 1 1 0 2089 0 4050 0"),
  (["psalterpahlavi"], "1600 0"),
  (["hanifirohingya"], "1548 0 14 0 3 0 32 0 147 0"),
  (["runic"], "5867 2"),
  (["samaritan"], "11825 0"),
  (["shavian"], "183 0"),
  (["sharada"], "2385 0 4997 0 1 0 2 1 2 0 9 0 2 0 35650 5 2 0"),
  (["khudawadi"], "2404 1 40650 9"),
  (["sinhala"], "2404 1 5004 0"),
  (["sogdian"], "1600 0"),
  (["sunuwar"], "768 1 1 0 9 0 2 0 28 0 3 0"),
  (["sylotinagri"], "2404 1 128 9"),
  (["syriac"], "771 1 2 1 1 0 24 2 7 1 1 1 730 0 14 1 2 0 32 0 10 10 26 0 6023 0 1 0"),
  (["tagbanwa"], "5941 1"),
  (["takri"], "2404 1 40650 9"),
  (["taile"], "768 1 5 1 3 0 3379 9"),
  (["tamil"], "2385 1 17 1 4980 0 35864 0 27149 0 1 0 55 1"),
  (["tangut"], "12272 15 495 0"),
  (["telugu"], "2385 1 17 1 4975 1 1 0 1 0 23 0"),
  (["tifinagh"], "770 0 1 0 1 3 25 0"),
  (["tagalog"], "5941 1"),
  (["thaana"], "1548 0 14 1 2 0 64 9 63368 0 10 0"),
  (["thai"], "700 0 26 0 43 0 45 0"),
  (["tibetan"], "12296 3"),
  (["tirhuta"], "2385 1 17 1 4975 0 12 0 15 0 35645 9"),
  (["todhri"], "769 0 2 0 2 0 9 0 1 0 74 0"),
  (["toto"], "700 0"),
  (["tulutigalari"], "3302 9 4098 0 1 0 35643 5 187 0"),
  (["yezidi"], "1548 0 14 0 3 0 64 9"),
  (["yi"], "12289 1 5 9 2 7 223 0 52837 4")]

/-- The names of a script, if there is a script of that name. -/
def namesOf? (name : String) : Option (List String) :=
  (table.find? fun entry => entry.1.contains name).map (·.1)

/-- The characters that a table has under one of some names. -/
def lookup (table : List (List String × String)) (names : List String) : Ranges :=
  Ranges.unionAll ((table.filter fun entry => entry.1.any names.contains).map fun entry =>
    Ranges.decode entry.2)

/-- The characters that belong to the script of a name. -/
def named? (name : String) : Option Ranges := (namesOf? name).map (lookup table)

/-- The characters that some script borrows. -/
def shared : Ranges := Ranges.unionAll (borrowed.map fun entry => Ranges.decode entry.2)

/-- The characters that are used in the script of a name. Those without a script of their own are
left out where other scripts are known to use them. -/
def extended? (name : String) : Option Ranges :=
  (namesOf? name).map fun names =>
    if names.contains "common" || names.contains "inherited" then
      (lookup table names).difference shared
    else (lookup table names).union (lookup borrowed names)

end Script

end Unicode

end BenchTracker
