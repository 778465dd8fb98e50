/-!
The scripts of the Unicode standard: for each its names in lower case, and its code points as
alternating gaps and runs.
-/

namespace ServiceGraph.Text.Table

/-- The values of the property Script. -/
def scripts : List (List String × String) :=
  [
   (["adlm", "adlam"],
    "125184 76 4 10 4 2"),
   (["ahom"],
    "71424 27 2 15 4 23"),
   (["hluw", "anatolianhieroglyphs"],
    "82944 583"),
   (["arab", "arabic"],
    "1536 5 1 6 1 14 1 3 1 32 1 10 11 26 1 108 1 34 80 48 240 31 1 2 6 74 1 29 62032 115 16 363 2
     80 2 54 7 1 32 16 112 5 1 135 3939 31 126 3 57088 4 1 27 1 2 1 1 2 1 1 10 1 4 1 1 1 1 6
     1 4 1 1 1 1 1 1 3 1 2 1 1 2 1 1 1 1 1 1 1 1 1 1 2 1 1 2 4 1 7 1 4 1 4 1 1 1 10 1 17 5 3
     1 5 1 17 52 2"),
   (["armn", "armenian"],
    "1329 38 2 50 2 3 62851 5"),
   (["avst", "avestan"],
    "68352 54 3 7"),
   (["bali", "balinese"],
    "6912 77 3 47"),
   (["bamu", "bamum"],
    "42656 88 49416 569"),
   (["bass", "bassavah"],
    "92880 30 2 6"),
   (["batk", "batak"],
    "7104 52 8 4"),
   (["beng", "bengali"],
    "2432 4 1 8 2 2 2 22 1 7 1 1 3 4 2 9 2 2 2 4 8 1 4 2 1 5 2 25"),
   (["bhks", "bhaiksuki"],
    "72704 9 1 45 1 14 10 29"),
   (["bopo", "bopomofo"],
    "746 2 11801 43 112 32"),
   (["brah", "brahmi"],
    "69632 78 4 36 9 1"),
   (["brai", "braille"],
    "10240 256"),
   (["bugi", "buginese"],
    "6656 28 2 2"),
   (["buhd", "buhid"],
    "5952 20"),
   (["cans", "canadianaboriginal"],
    "5120 640 560 70 65978 16"),
   (["cari", "carian"],
    "66208 49"),
   (["aghb", "caucasianalbanian"],
    "66864 52 11 1"),
   (["cakm", "chakma"],
    "69888 53 1 18"),
   (["cham"],
    "43520 55 9 14 2 10 2 4"),
   (["cher", "cherokee"],
    "5024 86 2 6 38770 80"),
   (["chrs", "chorasmian"],
    "69552 28"),
   (["zyyy", "common"],
    "0 65 26 6 26 47 1 15 1 5 23 1 31 1 449 39 5 5 2 20 116 1 9 1 6 1 1 1 637 1 6 1 14 1 3 1 32 1
     156 1 516 1 129 2 1241 1 405 4 290 1 1519 3 71 2 203 2 1 1 1229 1 13 1 7 4 1 6 1 3 2 1
     773 12 2 87 1 11 3 11 1 15 17 33 63 38 1 3 2 6 1 27 1 17 41 3 4 663 25 11 21 928 256 628
     2 32 1 105 512 94 402 12 4 5 1 1 1 25 15 8 4 4 91 2 3 1 90 2 147 16 32 36 60 64 31 81 47
     1 88 168 6592 64 22784 34 102 3 165 10 244 1 160 1 395 1 14 2 20946 2 208 10 22 35 1 19
     1 4 147 1 1 32 26 6 26 11 10 1 45 2 64 7 1 7 10 5 258 3 4 45 3 9 80 13 51 45 228 27
     47524 4 4780 116 60 246 10 39 2 62 3 17 8 2 7 30 4 61 213 20 12 20 12 87 9 25 135 85 1
     71 1 2 2 1 2 2 2 4 1 12 1 1 1 7 1 65 1 4 2 8 1 7 1 28 1 4 1 5 1 1 3 7 1 340 2 292 2 50
     5233 68 76 61 706 44 4 100 12 15 2 15 1 15 1 37 10 174 56 26 1 2 13 44 4 9 7 2 14 6 154
     984 4 17 3 13 3 119 4 95 6 12 4 1 15 12 4 56 8 10 6 40 8 30 2 2 78 340 12 14 2 13 3 9 7
     46 1 7 8 14 4 9 7 9 7 147 1 55 37 10 787463 1 30 96"),
   (["copt", "coptic", "qaac"],
    "994 14 10384 116 5 7"),
   (["xsux", "cuneiform"],
    "73728 922 102 111 1 5 11 196"),
   (["cprt", "cypriot"],
    "67584 6 2 1 1 44 1 2 3 1 2 1"),
   (["cpmn", "cyprominoan"],
    "77712 99"),
   (["cyrl", "cyrillic"],
    "1024 133 2 169 5968 9 162 1 76 1 4199 32 30784 96 22414 2 57856 62 33 1"),
   (["dsrt", "deseret"],
    "66560 80"),
   (["deva", "devanagari"],
    "2304 81 4 15 2 26 40800 32 29184 10"),
   (["diak", "divesakuru"],
    "71936 7 2 1 2 8 1 2 1 30 1 2 2 12 9 10"),
   (["dogr", "dogra"],
    "71680 60"),
   (["dupl", "duployan"],
    "113664 107 5 13 3 9 7 10 2 4"),
   (["egyp", "egyptianhieroglyphs"],
    "77824 1110"),
   (["elba", "elbasan"],
    "66816 40"),
   (["elym", "elymaic"],
    "69600 23"),
   (["ethi", "ethiopic"],
    "4608 73 1 4 2 7 1 1 1 4 2 41 1 4 2 33 1 4 2 7 1 1 1 4 2 15 1 57 1 4 2 67 2 32 3 26 6630 23 9
     7 1 7 1 7 1 7 1 7 1 7 1 7 1 7 32034 6 2 6 2 6 9 7 1 7 81073 7 1 4 1 2 1 15"),
   (["geor", "georgian"],
    "4256 38 1 1 5 1 2 43 1 4 2960 43 2 3 4160 38 1 1 5 1"),
   (["glag", "glagolitic"],
    "11264 96 111520 7 1 17 2 7 1 2 1 5"),
   (["goth", "gothic"],
    "66352 27"),
   (["gran", "grantha"],
    "70400 4 1 8 2 2 2 22 1 7 1 2 1 5 2 9 2 2 2 3 2 1 6 1 5 7 2 7 3 5"),
   (["grek", "greek"],
    "880 4 1 3 2 4 1 1 4 1 1 1 1 3 1 1 1 20 1 63 14 16 6438 5 50 5 4 5 84 1 320 22 2 6 2 38 2 6 2
     8 1 1 1 1 1 1 1 31 2 53 1 15 1 14 2 6 1 19 2 3 1 9 295 1 35390 1 21978 79 17 1 53343 70"),
   (["gujr", "gujarati"],
    "2689 3 1 9 1 3 1 22 1 7 1 2 1 5 2 10 1 3 1 3 2 1 15 4 2 12 7 7"),
   (["gong", "gunjalagondi"],
    "73056 6 1 2 1 37 1 2 1 6 7 10"),
   (["guru", "gurmukhi"],
    "2561 3 1 6 4 2 2 22 1 7 1 2 1 2 1 2 2 1 1 5 4 2 2 3 3 1 7 4 1 1 7 17"),
   (["hani", "han"],
    "11904 26 1 89 12 214 47 1 1 1 25 9 14 4 964 6592 64 20992 22784 366 2 106 29960 2 12 2 36878
     42720 32 4154 6 222 2 5762 14 7473 3103 542 1506 4939 5 4192"),
   (["hang", "hangul"],
    "4352 256 7726 2 257 94 113 31 65 31 30433 29 643 11172 12 23 4 49 10148 31 3 6 2 6 2 6 2 3"),
   (["rohg", "hanifirohingya"],
    "68864 40 8 10"),
   (["hano", "hanunoo"],
    "5920 21"),
   (["hatr", "hatran"],
    "67808 19 1 2 5 5"),
   (["hebr", "hebrew"],
    "1425 55 8 27 4 6 62760 26 1 5 1 1 1 2 1 2 1 10"),
   (["hira", "hiragana"],
    "12353 86 6 3 98145 287 18 1 29 3 16557 1"),
   (["armi", "imperialaramaic"],
    "67648 22 1 9"),
   (["zinh", "inherited", "qaai"],
    "768 112 277 2 452 11 26 1 736 4 4443 31 513 3 1 13 1 7 4 1 6 1 3 2 198 64 524 2 194 33 3897 4
     107 2 52581 16 16 14 975 1 226 1 4186 1 48068 46 2 23 544 3 17 8 2 7 30 4 798546 240"),
   (["phli", "inscriptionalpahlavi"],
    "68448 19 5 8"),
   (["prti", "inscriptionalparthian"],
    "68416 22 2 8"),
   (["java", "javanese"],
    "43392 78 2 10 4 2"),
   (["kthi", "kaithi"],
    "69760 67 10 1"),
   (["knda", "kannada"],
    "3200 13 1 3 1 23 1 10 1 5 2 9 1 3 1 4 7 2 6 2 1 4 2 10 1 3"),
   (["kana", "katakana"],
    "12449 90 2 3 240 16 208 47 1 88 52238 10 1 45 45138 4 1 7 1 2 1 1 287 3 50 1 14 4"),
   (["kawi"],
    "73472 17 1 41 3 28"),
   (["kali", "kayahli"],
    "43264 46 1 1"),
   (["khar", "kharoshthi"],
    "68096 4 1 2 5 8 1 3 1 29 2 3 4 10 7 9"),
   (["kits", "khitansmallscript"],
    "94180 1 6939 470"),
   (["khmr", "khmer"],
    "6016 94 2 10 6 10 486 32"),
   (["khoj", "khojki"],
    "70144 18 1 47"),
   (["sind", "khudawadi"],
    "70320 59 5 10"),
   (["laoo", "lao"],
    "3713 2 1 1 1 5 1 24 1 1 1 23 2 5 1 1 1 7 1 10 2 4"),
   (["latn", "latin"],
    "65 26 6 26 47 1 15 1 5 23 1 31 1 449 39 5 6683 38 6 49 5 4 5 13 1 70 65 256 369 1 13 1 16 13
     141 2 6 1 27 1 17 41 2775 32 31394 102 3 64 5 2 1 1 1 5 24 14 816 43 1 9 1 4 20374 7
     1050 26 6 26 2085 6 1 42 1 9 55109 31 6 6"),
   (["lepc", "lepcha"],
    "7168 56 3 15 3 3"),
   (["limb", "limbu"],
    "6400 31 1 12 4 12 4 1 3 12"),
   (["lina", "lineara"],
    "67072 311 9 22 10 8"),
   (["linb", "linearb"],
    "65536 12 1 26 1 19 1 2 1 15 2 14 34 123"),
   (["lisu"],
    "42192 48 31408 1"),
   (["lyci", "lycian"],
    "66176 29"),
   (["lydi", "lydian"],
    "67872 26 5 1"),
   (["mahj", "mahajani"],
    "69968 39"),
   (["maka", "makasar"],
    "73440 25"),
   (["mlym", "malayalam"],
    "3328 13 1 3 1 51 1 3 1 6 4 16 2 26"),
   (["mand", "mandaic"],
    "2112 28 2 1"),
   (["mani", "manichaean"],
    "68288 39 4 12"),
   (["marc", "marchen"],
    "72816 32 2 22 1 14"),
   (["gonm", "masaramgondi"],
    "72960 7 1 2 1 44 3 1 1 2 1 9 8 10"),
   (["medf", "medefaidrin"],
    "93760 91"),
   (["mtei", "meeteimayek"],
    "43744 23 201 46 2 10"),
   (["mend", "mendekikakui"],
    "124928 197 2 16"),
   (["merc", "meroiticcursive"],
    "68000 24 4 20 2 46"),
   (["mero", "meroitichieroglyphs"],
    "67968 32"),
   (["plrd", "miao"],
    "93952 75 4 57 7 17"),
   (["modi"],
    "71168 69 11 10"),
   (["mong", "mongolian"],
    "6144 2 2 1 1 20 6 89 7 43 64949 13"),
   (["mroo", "mro"],
    "92736 31 1 10 4 2"),
   (["mult", "multani"],
    "70272 7 1 1 1 4 1 15 1 11"),
   (["mymr", "myanmar"],
    "4096 160 39232 31 97 32"),
   (["nbat", "nabataean"],
    "67712 31 8 9"),
   (["nagm", "nagmundari"],
    "124112 42"),
   (["nand", "nandinagari"],
    "72096 8 2 46 2 11"),
   (["talu", "newtailue"],
    "6528 44 4 26 6 11 3 2"),
   (["newa"],
    "70656 92 1 5"),
   (["nkoo", "nko"],
    "1984 59 2 3"),
   (["nshu", "nushu"],
    "94177 1 16782 396"),
   (["hmnp", "nyiakengpuachuehmong"],
    "123136 45 3 14 2 10 4 2"),
   (["ogam", "ogham"],
    "5760 29"),
   (["olck", "olchiki"],
    "7248 48"),
   (["hung", "oldhungarian"],
    "68736 51 13 51 7 6"),
   (["ital", "olditalic"],
    "66304 36 9 3"),
   (["narb", "oldnortharabian"],
    "68224 32"),
   (["perm", "oldpermic"],
    "66384 43"),
   (["xpeo", "oldpersian"],
    "66464 36 4 14"),
   (["sogo", "oldsogdian"],
    "69376 40"),
   (["sarb", "oldsoutharabian"],
    "68192 32"),
   (["orkh", "oldturkic"],
    "68608 73"),
   (["ougr", "olduyghur"],
    "69488 26"),
   (["orya", "oriya"],
    "2817 3 1 8 2 2 2 22 1 7 1 2 1 5 2 9 2 2 2 3 7 3 4 2 1 5 2 18"),
   (["osge", "osage"],
    "66736 36 4 36"),
   (["osma", "osmanya"],
    "66688 30 2 10"),
   (["hmng", "pahawhhmong"],
    "92928 70 10 10 1 7 1 21 5 19"),
   (["palm", "palmyrene"],
    "67680 32"),
   (["pauc", "paucinhau"],
    "72384 57"),
   (["phag", "phagspa"],
    "43072 56"),
   (["phnx", "phoenician"],
    "67840 28 3 1"),
   (["phlp", "psalterpahlavi"],
    "68480 18 7 4 12 7"),
   (["rjng", "rejang"],
    "43312 36 11 1"),
   (["runr", "runic"],
    "5792 75 3 11"),
   (["samr", "samaritan"],
    "2048 46 2 15"),
   (["saur", "saurashtra"],
    "43136 70 8 12"),
   (["shrd", "sharada"],
    "70016 96"),
   (["shaw", "shavian"],
    "66640 48"),
   (["sidd", "siddham"],
    "71040 54 2 38"),
   (["sgnw", "signwriting"],
    "120832 652 15 5 1 15"),
   (["sinh", "sinhala"],
    "3457 3 1 18 3 24 1 9 1 1 2 7 3 1 4 6 1 1 1 8 6 10 2 3 66540 20"),
   (["sogd", "sogdian"],
    "69424 42"),
   (["sora", "sorasompeng"],
    "69840 25 7 10"),
   (["soyo", "soyombo"],
    "72272 83"),
   (["sund", "sundanese"],
    "7040 64 256 8"),
   (["sylo", "sylotinagri"],
    "43008 45"),
   (["syrc", "syriac"],
    "1792 14 1 60 2 3 272 11"),
   (["tglg", "tagalog"],
    "5888 22 9 1"),
   (["tagb", "tagbanwa"],
    "5984 13 1 3 1 2"),
   (["tale", "taile"],
    "6480 30 2 5"),
   (["lana", "taitham"],
    "6688 63 1 29 2 11 6 10 6 14"),
   (["tavt", "taiviet"],
    "43648 67 24 5"),
   (["takr", "takri"],
    "71296 58 6 10"),
   (["taml", "tamil"],
    "2946 2 1 6 3 3 1 4 3 2 1 1 1 2 3 2 3 3 3 12 4 5 3 3 1 4 2 1 6 1 14 21 70597 50 13 1"),
   (["tnsa", "tangsa"],
    "92784 79 1 10"),
   (["tang", "tangut"],
    "94176 1 31 6136 8 768 512 9"),
   (["telu", "telugu"],
    "3072 13 1 3 1 23 1 16 2 9 1 3 1 4 7 2 1 3 2 1 2 4 2 10 7 9"),
   (["thaa", "thaana"],
    "1920 50"),
   (["thai"],
    "3585 58 5 28"),
   (["tibt", "tibetan"],
    "3840 72 1 36 4 39 1 36 1 15 1 7 4 2"),
   (["tfng", "tifinagh"],
    "11568 56 7 2 14 1"),
   (["tirh", "tirhuta"],
    "70784 72 8 10"),
   (["toto"],
    "123536 31"),
   (["ugar", "ugaritic"],
    "66432 30 1 1"),
   (["zzzz", "unknown"],
    "888 2 6 4 7 1 1 1 20 1 397 1 38 2 50 2 3 1 55 8 27 4 6 11 270 1 60 2 101 14 59 2 49 2 15 1 28
     2 1 1 11 5 31 1 2 6 236 1 8 2 2 2 22 1 7 1 1 3 4 2 9 2 2 2 4 8 1 4 2 1 5 2 25 2 3 1 6 4
     2 2 22 1 7 1 2 1 2 1 2 2 1 1 5 4 2 2 3 3 1 7 4 1 1 7 17 10 3 1 9 1 3 1 22 1 7 1 2 1 5 2
     10 1 3 1 3 2 1 15 4 2 12 7 7 1 3 1 8 2 2 2 22 1 7 1 2 1 5 2 9 2 2 2 3 7 3 4 2 1 5 2 18
     10 2 1 6 3 3 1 4 3 2 1 1 1 2 3 2 3 3 3 12 4 5 3 3 1 4 2 1 6 1 14 21 5 13 1 3 1 23 1 16 2
     9 1 3 1 4 7 2 1 3 2 1 2 4 2 10 7 22 1 3 1 23 1 10 1 5 2 9 1 3 1 4 7 2 6 2 1 4 2 10 1 3
     12 13 1 3 1 51 1 3 1 6 4 16 2 26 1 3 1 18 3 24 1 9 1 1 2 7 3 1 4 6 1 1 1 8 6 10 2 3 12
     58 4 29 37 2 1 1 1 5 1 24 1 1 1 23 2 5 1 1 1 7 1 10 2 4 32 72 1 36 4 39 1 36 1 15 1 13
     37 198 1 1 5 1 2 377 1 4 2 7 1 1 1 4 2 41 1 4 2 33 1 4 2 7 1 1 1 4 2 15 1 57 1 4 2 67 2
     32 3 26 6 86 2 6 2 669 3 89 7 22 9 24 9 20 12 13 1 3 1 2 12 94 2 10 6 10 6 26 6 89 7 43
     5 70 10 31 1 12 4 12 4 1 3 42 2 5 11 44 4 26 6 11 3 62 2 65 1 29 2 11 6 10 6 14 2 31 49
     77 3 47 1 116 8 60 3 15 3 60 7 43 2 11 8 43 5 534 2 6 2 38 2 6 2 8 1 1 1 1 1 1 1 31 2 53
     1 15 1 14 2 6 1 19 2 3 1 9 1 101 1 12 2 27 1 13 3 33 15 33 15 140 4 663 25 11 21 1812 2
     32 1 349 5 45 1 1 5 1 2 56 7 2 14 24 9 7 1 7 1 7 1 7 1 7 1 7 1 7 1 7 1 126 34 26 1 89 12
     214 26 12 4 64 1 86 2 103 5 43 1 94 1 84 12 47 1 29293 3 55 9 348 20 184 8 203 5 2 1 1 1
     5 24 59 3 10 6 56 8 70 8 12 6 116 11 30 3 78 1 11 4 33 1 55 9 14 2 10 2 103 24 28 10 6 2
     6 2 6 9 7 1 7 1 60 4 126 2 10 6 11172 12 23 4 49 8452 366 2 106 38 7 12 5 5 26 1 5 1 1 1
     2 1 2 1 125 16 445 2 54 7 1 32 42 6 51 1 19 1 4 4 5 1 135 2 1 1 190 3 6 2 6 2 6 2 3 3 7
     1 7 10 5 2 12 1 26 1 19 1 2 1 15 2 14 34 123 5 3 4 45 3 88 1 13 3 1 47 46 130 29 3 49 15
     28 4 36 9 30 5 43 5 30 1 37 4 14 42 158 2 10 6 36 4 36 4 40 8 52 11 12 1 15 1 7 1 2 1 11
     1 15 1 7 1 2 67 311 9 22 10 8 24 6 1 42 1 9 69 6 2 1 1 44 1 2 3 1 2 23 1 72 8 9 48 19 1
     2 5 33 3 27 5 1 64 56 4 20 2 50 1 2 5 8 1 3 1 29 2 3 4 10 7 9 7 64 32 39 4 12 9 54 3 29
     2 27 5 26 7 4 12 7 80 73 55 51 13 51 7 46 8 10 294 31 1 42 1 3 2 2 75 43 8 42 22 26 38
     28 20 23 9 78 4 36 9 68 10 1 2 25 7 10 6 53 1 18 8 39 9 96 1 20 11 18 1 47 62 7 1 1 1 4
     1 15 1 11 6 59 5 10 6 4 1 8 2 2 2 22 1 7 1 2 1 5 1 10 2 2 2 3 2 1 6 1 5 7 2 7 3 5 139 92
     1 5 30 72 8 10 166 54 2 38 34 69 11 10 6 13 19 58 6 10 54 27 2 15 4 23 185 60 100 83 12
     8 2 1 2 8 1 2 1 30 1 2 2 12 9 10 70 8 2 46 2 11 27 72 8 83 13 73 7 10 246 9 1 45 1 14 10
     29 3 32 2 22 1 14 73 7 1 2 1 44 3 1 1 2 1 9 8 10 6 6 1 2 1 37 1 2 1 6 7 10 310 25 7 17 1
     41 3 28 86 1 15 50 13 923 102 111 1 5 11 196 2636 99 13 1110 4010 583 8633 569 7 31 1 10
     4 81 1 10 6 30 2 6 10 70 10 10 1 7 1 21 5 19 688 91 101 75 4 57 7 17 64 5 11 2 14 6136 8
     1238 42 9 8935 4 1 7 1 2 1 291 15 1 29 3 2 1 14 4 8 396 2308 107 5 13 3 9 7 10 2 8 4700
     46 2 23 9 116 60 246 10 39 2 194 21 70 122 20 12 20 12 87 9 25 135 85 1 71 1 2 2 1 2 2 2
     4 1 12 1 1 1 7 1 65 1 4 2 8 1 7 1 28 1 4 1 5 1 1 3 7 1 340 2 292 2 702 15 5 1 15 1104 31
     6 6 213 7 1 17 2 7 1 2 1 5 5 62 33 1 112 45 3 14 2 10 4 2 320 31 17 58 5 1 464 42 742 7
     1 4 1 2 1 15 1 197 2 16 41 76 4 10 4 2 785 68 76 61 194 4 1 27 1 2 1 1 2 1 1 10 1 4 1 1
     1 1 6 1 4 1 1 1 1 1 1 3 1 2 1 1 2 1 1 1 1 1 1 1 1 1 1 2 1 1 2 4 1 7 1 4 1 4 1 1 1 10 1
     17 5 3 1 5 1 17 52 2 270 44 4 100 12 15 2 15 1 15 1 37 10 174 56 29 13 44 4 9 7 2 14 6
     154 984 4 17 3 13 3 119 4 95 6 12 4 1 15 12 4 56 8 10 6 40 8 30 2 2 78 340 12 14 2 13 3
     9 7 46 1 7 8 14 4 9 7 9 7 147 1 55 37 10 1030 42720 32 4154 6 222 2 5762 14 7473 3103
     542 1506 4939 5 4192 711761 1 30 96 128 240 196112"),
   (["vaii", "vai"],
    "42240 300"),
   (["vith", "vithkuqi"],
    "66928 11 1 15 1 7 1 2 1 11 1 15 1 7 1 2"),
   (["wcho", "wancho"],
    "123584 58 5 1"),
   (["wara", "warangciti"],
    "71840 83 12 1"),
   (["yezi", "yezidi"],
    "69248 42 1 3 2 2"),
   (["yiii", "yi"],
    "40960 1165 3 55"),
   (["zanb", "zanabazarsquare"],
    "72192 72")]

end ServiceGraph.Text.Table
