import ContentFilter.Text.RunTable

/-!
# Scripts

The scripts of Unicode 16 with their names, in lower case and without separators: once by the script
a character belongs to, and once by the scripts it is used in.
-/

namespace ContentFilter.Text

/-- The property `Script`. -/
def scripts : List (List String × RunTable) :=
  [(["adlam", "adlm"], .ofText
      "125184 76 4 10 4 2"),
    (["aghb", "caucasianalbanian"], .ofText
      "66864 52 11 1"),
    (["ahom"], .ofText
      "71424 27 2 15 4 23"),
    (["arab", "arabic"], .ofText
      "1536 5 1 6 1 14 1 3 1 32 1 10 11 26 1 108 1 34 80 48 240 31 1 2 5 75 1 29 62032 115 16
      363 2 80 2 54 7 1 32 16 112 5 1 135 3939 31 67 3 55 4 57088 4 1 27 1 2 1 1 2 1 1 10 1 4 1
      1 1 1 6 1 4 1 1 1 1 1 1 3 1 2 1 1 2 1 1 1 1 1 1 1 1 1 1 2 1 1 2 4 1 7 1 4 1 4 1 1 1 10 1
      17 5 3 1 5 1 17 52 2"),
    (["armi", "imperialaramaic"], .ofText
      "67648 22 1 9"),
    (["armn", "armenian"], .ofText
      "1329 38 2 50 2 3 62851 5"),
    (["avst", "avestan"], .ofText
      "68352 54 3 7"),
    (["bali", "balinese"], .ofText
      "6912 77 1 50"),
    (["bamu", "bamum"], .ofText
      "42656 88 49416 569"),
    (["bass", "bassavah"], .ofText
      "92880 30 2 6"),
    (["batk", "batak"], .ofText
      "7104 52 8 4"),
    (["beng", "bengali"], .ofText
      "2432 4 1 8 2 2 2 22 1 7 1 1 3 4 2 9 2 2 2 4 8 1 4 2 1 5 2 25"),
    (["bhks", "bhaiksuki"], .ofText
      "72704 9 1 45 1 14 10 29"),
    (["bopo", "bopomofo"], .ofText
      "746 2 11801 43 112 32"),
    (["brah", "brahmi"], .ofText
      "69632 78 4 36 9 1"),
    (["brai", "braille"], .ofText
      "10240 256"),
    (["bugi", "buginese"], .ofText
      "6656 28 2 2"),
    (["buhd", "buhid"], .ofText
      "5952 20"),
    (["cakm", "chakma"], .ofText
      "69888 53 1 18"),
    (["cans", "canadianaboriginal"], .ofText
      "5120 640 560 70 65978 16"),
    (["cari", "carian"], .ofText
      "66208 49"),
    (["cham"], .ofText
      "43520 55 9 14 2 10 2 4"),
    (["cher", "cherokee"], .ofText
      "5024 86 2 6 38770 80"),
    (["chrs", "chorasmian"], .ofText
      "69552 28"),
    (["copt", "coptic", "qaac"], .ofText
      "994 14 10384 116 5 7"),
    (["cpmn", "cyprominoan"], .ofText
      "77712 99"),
    (["cprt", "cypriot"], .ofText
      "67584 6 2 1 1 44 1 2 3 1 2 1"),
    (["cyrl", "cyrillic"], .ofText
      "1024 133 2 169 5968 11 160 1 76 1 4199 32 30784 96 22414 2 57856 62 33 1"),
    (["deva", "devanagari"], .ofText
      "2304 81 4 15 2 26 40800 32 29184 10"),
    (["diak", "divesakuru"], .ofText
      "71936 7 2 1 2 8 1 2 1 30 1 2 2 12 9 10"),
    (["dogr", "dogra"], .ofText
      "71680 60"),
    (["dsrt", "deseret"], .ofText
      "66560 80"),
    (["dupl", "duployan"], .ofText
      "113664 107 5 13 3 9 7 10 2 4"),
    (["egyp", "egyptianhieroglyphs"], .ofText
      "77824 1110 10 3995"),
    (["elba", "elbasan"], .ofText
      "66816 40"),
    (["elym", "elymaic"], .ofText
      "69600 23"),
    (["ethi", "ethiopic"], .ofText
      "4608 73 1 4 2 7 1 1 1 4 2 41 1 4 2 33 1 4 2 7 1 1 1 4 2 15 1 57 1 4 2 67 2 32 3 26 6630
      23 9 7 1 7 1 7 1 7 1 7 1 7 1 7 1 7 32034 6 2 6 2 6 9 7 1 7 81073 7 1 4 1 2 1 15"),
    (["gara", "garay"], .ofText
      "68928 38 3 29 8 2"),
    (["geor", "georgian"], .ofText
      "4256 38 1 1 5 1 2 43 1 4 2960 43 2 3 4160 38 1 1 5 1"),
    (["glag", "glagolitic"], .ofText
      "11264 96 111520 7 1 17 2 7 1 2 1 5"),
    (["gong", "gunjalagondi"], .ofText
      "73056 6 1 2 1 37 1 2 1 6 7 10"),
    (["gonm", "masaramgondi"], .ofText
      "72960 7 1 2 1 44 3 1 1 2 1 9 8 10"),
    (["goth", "gothic"], .ofText
      "66352 27"),
    (["gran", "grantha"], .ofText
      "70400 4 1 8 2 2 2 22 1 7 1 2 1 5 2 9 2 2 2 3 2 1 6 1 5 7 2 7 3 5"),
    (["grek", "greek"], .ofText
      "880 4 1 3 2 4 1 1 4 1 1 1 1 3 1 1 1 20 1 63 14 16 6438 5 50 5 4 5 84 1 320 22 2 6 2 38 2
      6 2 8 1 1 1 1 1 1 1 31 2 53 1 15 1 14 2 6 1 19 2 3 1 9 295 1 35390 1 21978 79 17 1 53343
      70"),
    (["gujr", "gujarati"], .ofText
      "2689 3 1 9 1 3 1 22 1 7 1 2 1 5 2 10 1 3 1 3 2 1 15 4 2 12 7 7"),
    (["gukh", "gurungkhema"], .ofText
      "90368 58"),
    (["guru", "gurmukhi"], .ofText
      "2561 3 1 6 4 2 2 22 1 7 1 2 1 2 1 2 2 1 1 5 4 2 2 3 3 1 7 4 1 1 7 17"),
    (["hang", "hangul"], .ofText
      "4352 256 7726 2 257 94 113 31 65 31 30433 29 643 11172 12 23 4 49 10148 31 3 6 2 6 2 6 2
      3"),
    (["hani", "han"], .ofText
      "11904 26 1 89 12 214 47 1 1 1 25 9 14 4 964 6592 64 20992 22784 366 2 106 29960 2 12 2
      36878 42720 32 4154 6 222 2 5762 14 7473 15 622 2466 542 1506 4939 5 4192"),
    (["hano", "hanunoo"], .ofText
      "5920 21"),
    (["hatr", "hatran"], .ofText
      "67808 19 1 2 5 5"),
    (["hebr", "hebrew"], .ofText
      "1425 55 8 27 4 6 62760 26 1 5 1 1 1 2 1 2 1 10"),
    (["hira", "hiragana"], .ofText
      "12353 86 6 3 98145 287 18 1 29 3 16557 1"),
    (["hluw", "anatolianhieroglyphs"], .ofText
      "82944 583"),
    (["hmng", "pahawhhmong"], .ofText
      "92928 70 10 10 1 7 1 21 5 19"),
    (["hmnp", "nyiakengpuachuehmong"], .ofText
      "123136 45 3 14 2 10 4 2"),
    (["hung", "oldhungarian"], .ofText
      "68736 51 13 51 7 6"),
    (["ital", "olditalic"], .ofText
      "66304 36 9 3"),
    (["java", "javanese"], .ofText
      "43392 78 2 10 4 2"),
    (["kali", "kayahli"], .ofText
      "43264 46 1 1"),
    (["kana", "katakana"], .ofText
      "12449 90 2 3 240 16 208 47 1 88 52238 10 1 45 45138 4 1 7 1 2 1 1 287 3 50 1 14 4"),
    (["kawi"], .ofText
      "73472 17 1 41 3 29"),
    (["khar", "kharoshthi"], .ofText
      "68096 4 1 2 5 8 1 3 1 29 2 3 4 10 7 9"),
    (["khmr", "khmer"], .ofText
      "6016 94 2 10 6 10 486 32"),
    (["khoj", "khojki"], .ofText
      "70144 18 1 47"),
    (["kits", "khitansmallscript"], .ofText
      "94180 1 6939 470 41 1"),
    (["knda", "kannada"], .ofText
      "3200 13 1 3 1 23 1 10 1 5 2 9 1 3 1 4 7 2 6 2 1 4 2 10 1 3"),
    (["krai", "kiratrai"], .ofText
      "93504 58"),
    (["kthi", "kaithi"], .ofText
      "69760 67 10 1"),
    (["lana", "taitham"], .ofText
      "6688 63 1 29 2 11 6 10 6 14"),
    (["laoo", "lao"], .ofText
      "3713 2 1 1 1 5 1 24 1 1 1 23 2 5 1 1 1 7 1 10 2 4"),
    (["latn", "latin"], .ofText
      "65 26 6 26 47 1 15 1 5 23 1 31 1 449 39 5 6683 38 6 49 5 4 5 13 1 70 65 256 369 1 13 1 16
      13 141 2 6 1 27 1 17 41 2775 32 31394 102 3 67 2 2 1 1 1 8 21 14 816 43 1 9 1 4 20374 7
      1050 26 6 26 2085 6 1 42 1 9 55109 31 6 6"),
    (["lepc", "lepcha"], .ofText
      "7168 56 3 15 3 3"),
    (["limb", "limbu"], .ofText
      "6400 31 1 12 4 12 4 1 3 12"),
    (["lina", "lineara"], .ofText
      "67072 311 9 22 10 8"),
    (["linb", "linearb"], .ofText
      "65536 12 1 26 1 19 1 2 1 15 2 14 34 123"),
    (["lisu"], .ofText
      "42192 48 31408 1"),
    (["lyci", "lycian"], .ofText
      "66176 29"),
    (["lydi", "lydian"], .ofText
      "67872 26 5 1"),
    (["mahj", "mahajani"], .ofText
      "69968 39"),
    (["maka", "makasar"], .ofText
      "73440 25"),
    (["mand", "mandaic"], .ofText
      "2112 28 2 1"),
    (["mani", "manichaean"], .ofText
      "68288 39 4 12"),
    (["marc", "marchen"], .ofText
      "72816 32 2 22 1 14"),
    (["medf", "medefaidrin"], .ofText
      "93760 91"),
    (["mend", "mendekikakui"], .ofText
      "124928 197 2 16"),
    (["merc", "meroiticcursive"], .ofText
      "68000 24 4 20 2 46"),
    (["mero", "meroitichieroglyphs"], .ofText
      "67968 32"),
    (["mlym", "malayalam"], .ofText
      "3328 13 1 3 1 51 1 3 1 6 4 16 2 26"),
    (["modi"], .ofText
      "71168 69 11 10"),
    (["mong", "mongolian"], .ofText
      "6144 2 2 1 1 20 6 89 7 43 64949 13"),
    (["mroo", "mro"], .ofText
      "92736 31 1 10 4 2"),
    (["mtei", "meeteimayek"], .ofText
      "43744 23 201 46 2 10"),
    (["mult", "multani"], .ofText
      "70272 7 1 1 1 4 1 15 1 11"),
    (["mymr", "myanmar"], .ofText
      "4096 160 39232 31 97 32 27728 20"),
    (["nagm", "nagmundari"], .ofText
      "124112 42"),
    (["nand", "nandinagari"], .ofText
      "72096 8 2 46 2 11"),
    (["narb", "oldnortharabian"], .ofText
      "68224 32"),
    (["nbat", "nabataean"], .ofText
      "67712 31 8 9"),
    (["newa"], .ofText
      "70656 92 1 5"),
    (["nkoo", "nko"], .ofText
      "1984 59 2 3"),
    (["nshu", "nushu"], .ofText
      "94177 1 16782 396"),
    (["ogam", "ogham"], .ofText
      "5760 29"),
    (["olck", "olchiki"], .ofText
      "7248 48"),
    (["onao", "olonal"], .ofText
      "124368 43 4 1"),
    (["orkh", "oldturkic"], .ofText
      "68608 73"),
    (["orya", "oriya"], .ofText
      "2817 3 1 8 2 2 2 22 1 7 1 2 1 5 2 9 2 2 2 3 7 3 4 2 1 5 2 18"),
    (["osge", "osage"], .ofText
      "66736 36 4 36"),
    (["osma", "osmanya"], .ofText
      "66688 30 2 10"),
    (["ougr", "olduyghur"], .ofText
      "69488 26"),
    (["palm", "palmyrene"], .ofText
      "67680 32"),
    (["pauc", "paucinhau"], .ofText
      "72384 57"),
    (["perm", "oldpermic"], .ofText
      "66384 43"),
    (["phag", "phagspa"], .ofText
      "43072 56"),
    (["phli", "inscriptionalpahlavi"], .ofText
      "68448 19 5 8"),
    (["phlp", "psalterpahlavi"], .ofText
      "68480 18 7 4 12 7"),
    (["phnx", "phoenician"], .ofText
      "67840 28 3 1"),
    (["plrd", "miao"], .ofText
      "93952 75 4 57 7 17"),
    (["prti", "inscriptionalparthian"], .ofText
      "68416 22 2 8"),
    (["rjng", "rejang"], .ofText
      "43312 36 11 1"),
    (["rohg", "hanifirohingya"], .ofText
      "68864 40 8 10"),
    (["runr", "runic"], .ofText
      "5792 75 3 11"),
    (["samr", "samaritan"], .ofText
      "2048 46 2 15"),
    (["sarb", "oldsoutharabian"], .ofText
      "68192 32"),
    (["saur", "saurashtra"], .ofText
      "43136 70 8 12"),
    (["sgnw", "signwriting"], .ofText
      "120832 652 15 5 1 15"),
    (["shaw", "shavian"], .ofText
      "66640 48"),
    (["shrd", "sharada"], .ofText
      "70016 96"),
    (["sidd", "siddham"], .ofText
      "71040 54 2 38"),
    (["sind", "khudawadi"], .ofText
      "70320 59 5 10"),
    (["sinh", "sinhala"], .ofText
      "3457 3 1 18 3 24 1 9 1 1 2 7 3 1 4 6 1 1 1 8 6 10 2 3 66540 20"),
    (["sogd", "sogdian"], .ofText
      "69424 42"),
    (["sogo", "oldsogdian"], .ofText
      "69376 40"),
    (["sora", "sorasompeng"], .ofText
      "69840 25 7 10"),
    (["soyo", "soyombo"], .ofText
      "72272 83"),
    (["sund", "sundanese"], .ofText
      "7040 64 256 8"),
    (["sunu", "sunuwar"], .ofText
      "72640 34 14 10"),
    (["sylo", "sylotinagri"], .ofText
      "43008 45"),
    (["syrc", "syriac"], .ofText
      "1792 14 1 60 2 3 272 11"),
    (["tagb", "tagbanwa"], .ofText
      "5984 13 1 3 1 2"),
    (["takr", "takri"], .ofText
      "71296 58 6 10"),
    (["tale", "taile"], .ofText
      "6480 30 2 5"),
    (["talu", "newtailue"], .ofText
      "6528 44 4 26 6 11 3 2"),
    (["taml", "tamil"], .ofText
      "2946 2 1 6 3 3 1 4 3 2 1 1 1 2 3 2 3 3 3 12 4 5 3 3 1 4 2 1 6 1 14 21 70597 50 13 1"),
    (["tang", "tangut"], .ofText
      "94176 1 31 6136 8 768 512 9"),
    (["tavt", "taiviet"], .ofText
      "43648 67 24 5"),
    (["telu", "telugu"], .ofText
      "3072 13 1 3 1 23 1 16 2 9 1 3 1 4 7 2 1 3 2 1 2 4 2 10 7 9"),
    (["tfng", "tifinagh"], .ofText
      "11568 56 7 2 14 1"),
    (["tglg", "tagalog"], .ofText
      "5888 22 9 1"),
    (["thaa", "thaana"], .ofText
      "1920 50"),
    (["thai"], .ofText
      "3585 58 5 28"),
    (["tibt", "tibetan"], .ofText
      "3840 72 1 36 4 39 1 36 1 15 1 7 4 2"),
    (["tirh", "tirhuta"], .ofText
      "70784 72 8 10"),
    (["tnsa", "tangsa"], .ofText
      "92784 79 1 10"),
    (["todr", "todhri"], .ofText
      "67008 52"),
    (["toto"], .ofText
      "123536 31"),
    (["tutg", "tulutigalari"], .ofText
      "70528 10 1 1 2 1 1 38 1 10 1 1 2 1 1 4 1 10 1 2 8 2"),
    (["ugar", "ugaritic"], .ofText
      "66432 30 1 1"),
    (["vaii", "vai"], .ofText
      "42240 300"),
    (["vith", "vithkuqi"], .ofText
      "66928 11 1 15 1 7 1 2 1 11 1 15 1 7 1 2"),
    (["wara", "warangciti"], .ofText
      "71840 83 12 1"),
    (["wcho", "wancho"], .ofText
      "123584 58 5 1"),
    (["xpeo", "oldpersian"], .ofText
      "66464 36 4 14"),
    (["xsux", "cuneiform"], .ofText
      "73728 922 102 111 1 5 11 196"),
    (["yezi", "yezidi"], .ofText
      "69248 42 1 3 2 2"),
    (["yiii", "yi"], .ofText
      "40960 1165 3 55"),
    (["zanb", "zanabazarsquare"], .ofText
      "72192 72"),
    (["zinh", "inherited", "qaai"], .ofText
      "768 112 277 2 452 11 26 1 736 4 4443 31 513 3 1 13 1 7 4 1 6 1 3 2 198 64 524 2 194 33
      3897 4 107 2 52581 16 16 14 975 1 226 1 4186 1 48068 46 2 23 544 3 17 8 2 7 30 4 798546
      240"),
    (["zyyy", "common"], .ofText
      "0 65 26 6 26 47 1 15 1 5 23 1 31 1 449 39 5 5 2 20 116 1 9 1 6 1 1 1 637 1 6 1 14 1 3 1
      32 1 156 1 516 1 129 2 1241 1 405 4 290 1 1519 3 71 2 203 2 1 1 1229 1 13 1 7 4 1 6 1 3 2
      1 773 12 2 87 1 11 3 11 1 15 17 33 63 38 1 3 2 6 1 27 1 17 41 3 4 666 22 11 21 928 256 628
      2 32 1 105 512 94 402 21 1 1 1 25 15 8 4 4 91 2 3 1 90 2 147 16 32 38 9 1 48 64 31 81 47 1
      88 168 6592 64 22784 34 102 3 165 10 244 1 160 1 395 1 14 2 20946 2 208 10 22 35 1 19 1 4
      147 1 1 32 26 6 26 11 10 1 45 2 64 7 1 7 10 5 258 3 4 45 3 9 80 13 51 45 228 27 47524 4
      3932 250 6 436 156 116 60 246 10 39 2 62 3 17 8 2 7 30 4 61 213 20 12 20 12 87 9 25 135 85
      1 71 1 2 2 1 2 2 2 4 1 12 1 1 1 7 1 65 1 4 2 8 1 7 1 28 1 4 1 5 1 1 3 7 1 340 2 292 2 50
      5233 68 76 61 706 44 4 100 12 15 2 15 1 15 1 37 10 174 56 26 1 2 13 44 4 9 7 2 14 6 154
      984 4 17 3 13 3 119 4 95 6 12 4 1 15 12 4 56 8 10 6 40 8 30 2 12 4 2 62 340 12 14 2 13 3
      10 5 56 7 15 2 11 6 9 7 147 1 102 787463 1 30 96")]

/-- The property `Script_Extensions`. -/
def scriptExtensions : List (List String × RunTable) :=
  [(["adlam", "adlm"], .ofText
      "1567 1 32 1 6670 1 3569 1 113342 76 4 10 4 2"),
    (["aghb", "caucasianalbanian"], .ofText
      "772 1 44 1 44 1 66001 52 11 1"),
    (["ahom"], .ofText
      "71424 27 2 15 4 23"),
    (["arab", "arabic"], .ofText
      "1536 5 1 215 1 34 80 48 240 31 1 2 5 75 1 29 5967 1 3569 1 52494 115 16 445 2 54 7 1 32
      16 112 5 1 135 995 28 2916 31 67 3 55 4 57088 4 1 27 1 2 1 1 2 1 1 10 1 4 1 1 1 1 6 1 4 1
      1 1 1 1 1 3 1 2 1 1 2 1 1 1 1 1 1 1 1 1 1 2 1 1 2 4 1 7 1 4 1 4 1 1 1 10 1 17 5 3 1 5 1 17
      52 2"),
    (["armi", "imperialaramaic"], .ofText
      "67648 22 1 9"),
    (["armn", "armenian"], .ofText
      "776 1 552 38 2 50 2 3 62851 5"),
    (["avst", "avestan"], .ofText
      "183 1 11640 2 56526 54 3 7"),
    (["bali", "balinese"], .ofText
      "6912 77 1 50"),
    (["bamu", "bamum"], .ofText
      "42656 88 49416 569"),
    (["bass", "bassavah"], .ofText
      "92880 30 2 6"),
    (["batk", "batak"], .ofText
      "7104 52 8 4"),
    (["beng", "bengali"], .ofText
      "700 1 1684 2 17 2 26 4 1 8 2 2 2 22 1 7 1 1 3 4 2 9 2 2 2 4 8 1 4 2 1 5 2 25 4817 1 1 1 2
      2 1 1 8 1 8 1 2 1 4 1 2 3 35833 1"),
    (["bhks", "bhaiksuki"], .ofText
      "72704 9 1 45 1 14 10 29"),
    (["bopo", "bopomofo"], .ofText
      "711 1 1 3 13 1 16 2 11541 3 4 10 1 13 10 4 2 1 6 1 195 1 9 43 112 32 52357 2 282 5"),
    (["brah", "brahmi"], .ofText
      "69632 78 4 36 9 1"),
    (["brai", "braille"], .ofText
      "10240 256"),
    (["bugi", "buginese"], .ofText
      "6656 28 2 2 36783 1"),
    (["buhd", "buhid"], .ofText
      "5941 2 9 20"),
    (["cakm", "chakma"], .ofText
      "2534 10 1616 10 65718 53 1 18"),
    (["cans", "canadianaboriginal"], .ofText
      "5120 640 560 70 65978 16"),
    (["cari", "carian"], .ofText
      "183 1 8098 1 2 1 3539 1 54382 49"),
    (["cham"], .ofText
      "43520 55 9 14 2 10 2 4"),
    (["cher", "cherokee"], .ofText
      "768 3 1 1 6 2 22 2 11 2 4206 86 2 6 38770 80"),
    (["chrs", "chorasmian"], .ofText
      "69552 28"),
    (["copt", "coptic", "qaac"], .ofText
      "183 1 584 1 3 2 1 1 108 2 108 14 10384 116 5 7 279 1 54472 28"),
    (["cpmn", "cyprominoan"], .ofText
      "65792 2 11918 99"),
    (["cprt", "cypriot"], .ofText
      "65792 3 4 45 3 9 1728 6 2 1 1 44 1 2 3 1 2 1"),
    (["cyrl", "cyrillic"], .ofText
      "700 1 67 3 1 1 1 1 1 1 2 1 5 1 238 304 5968 11 160 1 76 1 127 1 4071 32 67 1 30716 96
      22414 2 57856 62 33 1"),
    (["deva", "devanagari"], .ofText
      "700 1 1603 83 2 43 4944 39 1 2 1014 1 34623 10 166 32 29184 10"),
    (["diak", "divesakuru"], .ofText
      "71936 7 2 1 2 8 1 2 1 30 1 2 2 12 9 10"),
    (["dogr", "dogra"], .ofText
      "2404 12 40640 10 28614 60"),
    (["dsrt", "deseret"], .ofText
      "66560 80"),
    (["dupl", "duployan"], .ofText
      "183 1 591 2 1 1 24 2 11031 1 101827 107 5 13 3 9 7 10 2 8"),
    (["egyp", "egyptianhieroglyphs"], .ofText
      "77824 1110 10 3995"),
    (["elba", "elbasan"], .ofText
      "183 1 589 1 66042 40"),
    (["elym", "elymaic"], .ofText
      "69600 23"),
    (["ethi", "ethiopic"], .ofText
      "782 1 3825 73 1 4 2 7 1 1 1 4 2 41 1 4 2 33 1 4 2 7 1 1 1 4 2 15 1 57 1 4 2 67 2 32 3 26
      6630 23 9 7 1 7 1 7 1 7 1 7 1 7 1 7 1 7 32034 6 2 6 2 6 9 7 1 7 81073 7 1 4 1 2 1 15"),
    (["gara", "garay"], .ofText
      "1548 1 14 1 3 1 67360 38 3 29 8 2"),
    (["geor", "georgian"], .ofText
      "183 1 1233 1 2838 38 1 1 5 1 2 48 2960 43 2 3 922 1 3237 38 1 1 5 1 259 1"),
    (["glag", "glagolitic"], .ofText
      "183 1 587 1 1 1 382 1 2 1 257 1 2929 1 3934 1 2981 96 483 1 30763 1 80272 7 1 17 2 7 1 2
      1 5"),
    (["gong", "gunjalagondi"], .ofText
      "183 1 2220 2 70650 6 1 2 1 37 1 2 1 6 7 10"),
    (["gonm", "masaramgondi"], .ofText
      "2404 2 70554 7 1 2 1 44 3 1 1 2 1 9 8 10"),
    (["goth", "gothic"], .ofText
      "183 1 588 2 2 1 40 1 65534 27"),
    (["gran", "grantha"], .ofText
      "2385 2 17 2 640 14 4316 1 1 2 30 3 3 2 1014 1 61967 4 1 8 2 2 2 22 1 7 1 2 1 5 1 10 2 2 2
      3 2 1 6 1 5 7 2 7 3 5 3163 2 1 1"),
    (["grek", "greek"], .ofText
      "183 1 584 2 2 1 1 1 1 1 10 1 46 1 2 1 42 8 2 4 1 1 4 1 1 1 1 3 1 1 1 20 1 63 14 16 6438 5
      50 5 4 5 84 3 318 22 2 6 2 38 2 6 2 8 1 1 1 1 1 1 1 31 2 53 1 15 1 14 2 6 1 19 2 3 1 9 94
      1 200 1 35390 1 21978 79 17 1 53343 70"),
    (["gujr", "gujarati"], .ofText
      "2385 2 17 2 283 3 1 9 1 3 1 22 1 7 1 2 1 5 2 10 1 3 1 3 2 1 15 4 2 12 7 7 40240 10"),
    (["gukh", "gurungkhema"], .ofText
      "2405 1 87962 58"),
    (["guru", "gurmukhi"], .ofText
      "2385 2 17 2 155 3 1 6 4 2 2 22 1 7 1 2 1 2 1 2 2 1 1 5 4 2 2 3 3 1 7 4 1 1 7 17 40377 10"),
    (["hang", "hangul"], .ofText
      "4352 256 7681 3 4 10 1 13 14 3 6 1 195 1 53 94 113 31 65 31 30433 29 643 11172 12 23 4 49
      9801 2 282 5 58 31 3 6 2 6 2 6 2 3"),
    (["hani", "han"], .ofText
      "183 1 11720 26 1 89 12 214 26 16 1 3 1 13 1 13 1 13 2 1 6 9 187 1 148 16 32 38 9 1 48 40
      56 49 15 12 51 1 88 25 10 5 96 31 1 6592 64 20992 1792 8 20984 366 2 106 875 2 282 5 28796
      2 12 2 25454 18 7902 2 3502 42720 32 4154 6 222 2 5762 14 7473 15 622 2466 542 1506 4939 5
      4192"),
    (["hano", "hanunoo"], .ofText
      "5920 23"),
    (["hatr", "hatran"], .ofText
      "67808 19 1 2 5 5"),
    (["hebr", "hebrew"], .ofText
      "775 2 648 55 8 27 4 6 62760 26 1 5 1 1 1 2 1 2 1 10"),
    (["hira", "hiragana"], .ofText
      "12289 3 4 10 1 13 16 6 1 1 4 2 3 86 2 8 90 2 52552 2 282 5 10 1 45 2 45153 287 18 1 29 3
      16557 1"),
    (["hluw", "anatolianhieroglyphs"], .ofText
      "82944 583"),
    (["hmng", "pahawhhmong"], .ofText
      "92928 70 10 10 1 7 1 21 5 19"),
    (["hmnp", "nyiakengpuachuehmong"], .ofText
      "123136 45 3 14 2 10 4 2"),
    (["hung", "oldhungarian"], .ofText
      "8282 1 2 1 3539 1 15 1 56894 51 13 51 7 6"),
    (["ital", "olditalic"], .ofText
      "66304 36 9 3"),
    (["java", "javanese"], .ofText
      "43392 78 1 11 4 2"),
    (["kali", "kayahli"], .ofText
      "43264 48"),
    (["kana", "katakana"], .ofText
      "773 1 29 1 11485 3 4 10 1 13 16 6 1 1 4 2 91 4 3 96 240 16 208 47 1 88 51949 2 282 63
      45136 4 1 7 1 2 1 1 287 3 50 1 14 4"),
    (["kawi"], .ofText
      "73472 17 1 41 3 29"),
    (["khar", "kharoshthi"], .ofText
      "68096 4 1 2 5 8 1 3 1 29 2 3 4 10 7 9"),
    (["khmr", "khmer"], .ofText
      "6016 94 2 10 6 10 486 32"),
    (["khoj", "khojki"], .ofText
      "2790 10 40256 10 27078 18 1 47"),
    (["kits", "khitansmallscript"], .ofText
      "94180 1 6939 470 41 1"),
    (["knda", "kannada"], .ofText
      "2385 2 17 2 794 13 1 3 1 23 1 10 1 5 2 9 1 3 1 4 7 2 6 2 1 4 2 10 1 3 4060 1 1 2 6 1 23 1
      1 1 35643 6"),
    (["krai", "kiratrai"], .ofText
      "93504 58"),
    (["kthi", "kaithi"], .ofText
      "2406 10 9409 1 31230 10 26694 67 10 1"),
    (["lana", "taitham"], .ofText
      "6688 63 1 29 2 11 6 10 6 14"),
    (["laoo", "lao"], .ofText
      "3713 2 1 1 1 5 1 24 1 1 1 23 2 5 1 1 1 7 1 10 2 4"),
    (["latn", "latin"], .ofText
      "65 26 6 26 47 1 12 1 2 1 5 23 1 31 1 449 3 1 10 1 1 3 1 1 9 1 1 1 6 5 27 15 1 2 1 1 12 1
      2 3 7 2 1 2 38 1 5 1 4 13 277 2 1226 2 1960 1 3076 38 6 49 5 4 5 13 1 70 57 1 7 256 303 1
      65 1 13 1 16 13 83 1 57 2 6 1 27 1 17 41 2775 32 407 1 30952 8 26 102 3 67 2 2 1 1 1 8 21
      14 302 1 513 43 1 9 1 4 20374 7 1050 26 6 26 2085 6 1 42 1 9 55109 31 6 6"),
    (["lepc", "lepcha"], .ofText
      "7168 56 3 15 3 3"),
    (["limb", "limbu"], .ofText
      "2405 1 3994 31 1 12 4 12 4 1 3 12"),
    (["lina", "lineara"], .ofText
      "65799 45 1228 311 9 22 10 8"),
    (["linb", "linearb"], .ofText
      "65536 12 1 26 1 19 1 2 1 15 2 14 34 123 5 3 4 45 3 9"),
    (["lisu"], .ofText
      "700 1 16 1 11580 2 29892 48 31408 1"),
    (["lyci", "lycian"], .ofText
      "8282 1 57893 29"),
    (["lydi", "lydian"], .ofText
      "183 1 11641 1 56046 26 5 1"),
    (["mahj", "mahajani"], .ofText
      "183 1 2220 12 40640 10 26902 39"),
    (["maka", "makasar"], .ofText
      "73440 25"),
    (["mand", "mandaic"], .ofText
      "1600 1 511 28 2 1"),
    (["mani", "manichaean"], .ofText
      "1600 1 66687 39 4 12"),
    (["marc", "marchen"], .ofText
      "72816 32 2 22 1 14"),
    (["medf", "medefaidrin"], .ofText
      "93760 91"),
    (["mend", "mendekikakui"], .ofText
      "124928 197 2 16"),
    (["merc", "meroiticcursive"], .ofText
      "68000 24 4 20 2 46"),
    (["mero", "meroitichieroglyphs"], .ofText
      "8285 1 59682 32"),
    (["mlym", "malayalam"], .ofText
      "2385 2 17 2 922 13 1 3 1 51 1 3 1 6 4 16 2 26 3930 1 23 1 35645 3"),
    (["modi"], .ofText
      "43056 10 28102 69 11 10"),
    (["mong", "mongolian"], .ofText
      "6144 26 6 89 7 43 1924 1 4049 2 5 4 58964 13"),
    (["mroo", "mro"], .ofText
      "92736 31 1 10 4 2"),
    (["mtei", "meeteimayek"], .ofText
      "43744 23 201 46 2 10"),
    (["mult", "multani"], .ofText
      "2662 10 67600 7 1 1 1 4 1 15 1 11"),
    (["mymr", "myanmar"], .ofText
      "4096 160 39054 1 177 31 97 32 27728 20"),
    (["nagm", "nagmundari"], .ofText
      "124112 42"),
    (["nand", "nandinagari"], .ofText
      "2385 1 18 2 896 10 4089 1 8 1 7 1 35637 6 29034 8 2 46 2 11"),
    (["narb", "oldnortharabian"], .ofText
      "68224 32"),
    (["nbat", "nabataean"], .ofText
      "67712 31 8 9"),
    (["newa"], .ofText
      "2385 2 4994 1 1 2 9 1 6 1 1 1 1 1 63250 92 1 5"),
    (["nkoo", "nko"], .ofText
      "1548 1 14 1 3 1 416 59 2 3 62782 2"),
    (["nshu", "nushu"], .ofText
      "94177 1 16782 396"),
    (["ogam", "ogham"], .ofText
      "5760 29"),
    (["olck", "olchiki"], .ofText
      "7248 48"),
    (["onao", "olonal"], .ofText
      "2404 2 121962 43 4 1"),
    (["orkh", "oldturkic"], .ofText
      "8282 1 3541 1 56783 73"),
    (["orya", "oriya"], .ofText
      "2385 2 17 2 411 3 1 8 2 2 2 22 1 7 1 2 1 5 2 9 2 2 2 3 7 3 4 2 1 5 2 18 4450 1 23 1"),
    (["osge", "osage"], .ofText
      "769 1 2 1 6 1 76 1 65879 36 4 36"),
    (["osma", "osmanya"], .ofText
      "66688 30 2 10"),
    (["ougr", "olduyghur"], .ofText
      "1600 1 66737 1 1149 26"),
    (["palm", "palmyrene"], .ofText
      "67680 32"),
    (["pauc", "paucinhau"], .ofText
      "72384 57"),
    (["perm", "oldpermic"], .ofText
      "183 1 584 1 5 3 10 1 367 1 65228 43"),
    (["phag", "phagspa"], .ofText
      "6146 2 1 1 2089 1 4050 1 30781 56"),
    (["phli", "inscriptionalpahlavi"], .ofText
      "68448 19 5 8"),
    (["phlp", "psalterpahlavi"], .ofText
      "1600 1 66879 18 7 4 12 7"),
    (["phnx", "phoenician"], .ofText
      "67840 28 3 1"),
    (["plrd", "miao"], .ofText
      "93952 75 4 57 7 17"),
    (["prti", "inscriptionalparthian"], .ofText
      "68416 22 2 8"),
    (["rjng", "rejang"], .ofText
      "43312 36 11 1"),
    (["rohg", "hanifirohingya"], .ofText
      "1548 1 14 1 3 1 32 1 147 1 67115 40 8 10"),
    (["runr", "runic"], .ofText
      "5792 89"),
    (["samr", "samaritan"], .ofText
      "2048 46 2 15 9714 1"),
    (["sarb", "oldsoutharabian"], .ofText
      "68192 32"),
    (["saur", "saurashtra"], .ofText
      "43136 70 8 12"),
    (["sgnw", "signwriting"], .ofText
      "120832 652 15 5 1 15"),
    (["shaw", "shavian"], .ofText
      "183 1 66456 48"),
    (["shrd", "sharada"], .ofText
      "2385 1 4997 1 1 1 2 2 2 1 35663 6 2 1 26951 96"),
    (["sidd", "siddham"], .ofText
      "71040 54 2 38"),
    (["sind", "khudawadi"], .ofText
      "2404 2 40650 10 27254 59 5 10"),
    (["sinh", "sinhala"], .ofText
      "2404 2 1051 3 1 18 3 24 1 9 1 1 2 7 3 1 4 6 1 1 1 8 6 10 2 3 3837 1 62702 20"),
    (["sogd", "sogdian"], .ofText
      "1600 1 67823 42"),
    (["sogo", "oldsogdian"], .ofText
      "69376 40"),
    (["sora", "sorasompeng"], .ofText
      "69840 25 7 10"),
    (["soyo", "soyombo"], .ofText
      "72272 83"),
    (["sund", "sundanese"], .ofText
      "7040 64 256 8"),
    (["sunu", "sunuwar"], .ofText
      "768 2 1 1 9 1 2 1 28 1 3 1 71822 34 14 10"),
    (["sylo", "sylotinagri"], .ofText
      "2404 2 128 10 40464 45"),
    (["syrc", "syriac"], .ofText
      "771 2 2 2 1 1 21 1 2 3 7 2 1 1 731 1 14 2 2 1 32 1 10 11 26 1 143 14 1 60 2 3 272 11 5517
      1 1 1"),
    (["tagb", "tagbanwa"], .ofText
      "5941 2 41 13 1 3 1 2"),
    (["takr", "takri"], .ofText
      "2404 2 40650 10 28230 58 6 10"),
    (["tale", "taile"], .ofText
      "768 2 5 2 3 1 3379 10 2310 30 2 5"),
    (["talu", "newtailue"], .ofText
      "6528 44 4 26 6 11 3 2"),
    (["taml", "tamil"], .ofText
      "2385 2 17 2 540 2 1 6 3 3 1 4 3 2 1 1 1 2 3 2 3 3 3 12 4 5 3 3 1 4 2 1 6 1 14 21 4319 1
      35864 1 27149 1 1 1 55 2 3203 50 13 1"),
    (["tang", "tangut"], .ofText
      "12272 16 495 1 81392 1 31 6136 8 768 512 9"),
    (["tavt", "taiviet"], .ofText
      "43648 67 24 5"),
    (["telu", "telugu"], .ofText
      "2385 2 17 2 666 13 1 3 1 23 1 16 2 9 1 3 1 4 7 2 1 3 2 1 2 4 2 10 7 9 4186 1 23 1"),
    (["tfng", "tifinagh"], .ofText
      "770 1 1 1 1 4 25 1 10764 56 7 2 14 1"),
    (["tglg", "tagalog"], .ofText
      "5888 22 9 1 21 2"),
    (["thaa", "thaana"], .ofText
      "1548 1 14 2 2 1 64 10 278 50 63040 1 10 1"),
    (["thai"], .ofText
      "700 1 26 1 43 1 45 1 2767 58 5 28"),
    (["tibt", "tibetan"], .ofText
      "3840 72 1 36 4 39 1 36 1 15 1 7 4 2 8237 4"),
    (["tirh", "tirhuta"], .ofText
      "2385 2 17 2 5004 1 35645 10 27718 72 8 10"),
    (["tnsa", "tangsa"], .ofText
      "92784 79 1 10"),
    (["todr", "todhri"], .ofText
      "769 1 2 1 2 1 9 1 1 1 74 1 66145 52"),
    (["toto"], .ofText
      "700 1 122835 31"),
    (["tutg", "tulutigalari"], .ofText
      "3302 10 4098 1 1 1 35643 6 187 1 27278 10 1 1 2 1 1 38 1 10 1 1 2 1 1 4 1 10 1 2 8 2"),
    (["ugar", "ugaritic"], .ofText
      "66432 30 1 1"),
    (["vaii", "vai"], .ofText
      "42240 300"),
    (["vith", "vithkuqi"], .ofText
      "66928 11 1 15 1 7 1 2 1 11 1 15 1 7 1 2"),
    (["wara", "warangciti"], .ofText
      "71840 83 12 1"),
    (["wcho", "wancho"], .ofText
      "123584 58 5 1"),
    (["xpeo", "oldpersian"], .ofText
      "66464 36 4 14"),
    (["xsux", "cuneiform"], .ofText
      "73728 922 102 111 1 5 11 196"),
    (["yezi", "yezidi"], .ofText
      "1548 1 14 1 3 1 64 10 67606 42 1 3 2 2"),
    (["yiii", "yi"], .ofText
      "12289 2 5 10 2 8 223 1 28420 1165 3 55 23194 5"),
    (["zanb", "zanabazarsquare"], .ofText
      "72192 72"),
    (["zinh", "inherited", "qaai"], .ofText
      "783 1 2 1 1 12 1 2 3 7 2 1 2 16 1 2 1 18 1 5 1 4 1520 2 4443 31 755 54 1 1 1 5 524 2 194
      32 56592 16 16 14 975 1 52482 46 2 23 544 3 17 8 2 7 30 4 798546 240"),
    (["zyyy", "common"], .ofText
      "0 65 26 6 26 47 1 12 1 2 1 5 23 1 31 1 449 3 1 10 1 1 3 1 1 9 1 1 1 6 5 5 2 20 126 1 6 1
      1 1 637 1 215 1 516 1 1372 1 405 4 4135 12 2 33 1 31 1 10 1 2 1 7 1 11 3 11 1 15 17 33 63
      38 1 3 2 6 1 27 1 17 41 3 4 666 22 11 21 928 256 628 2 32 1 105 512 23 1 24 2 10 1 4 1 1 1
      26 418 1 3 1 13 1 13 1 21 1 529 24 31 1 49 15 12 4 161 10 5 96 31 1 6592 64 22792 26 102 3
      976 1 14 2 21156 10 22 21 2 12 1 19 1 4 147 1 1 32 26 6 26 6 127 7 1 7 10 5 402 13 51 45
      51715 250 6 436 156 116 60 246 10 39 2 62 3 17 8 2 7 30 4 61 213 20 12 20 12 87 27 7 135
      85 1 71 1 2 2 1 2 2 2 4 1 12 1 1 1 7 1 65 1 4 2 8 1 7 1 28 1 4 1 5 1 1 3 7 1 340 2 292 2
      50 5233 68 76 61 706 44 4 100 12 15 2 15 1 15 1 37 10 174 56 26 1 2 13 44 4 9 23 6 154 984
      4 17 3 13 3 119 4 95 6 12 4 1 15 12 4 56 8 10 6 40 8 30 2 12 4 2 62 340 12 14 2 13 3 10 5
      56 7 15 2 11 6 9 7 147 1 102 787463 1 30 96")]

end ContentFilter.Text
