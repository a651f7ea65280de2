/-!
# Tables of scripts

`scripts` gives for each script its names, the four-letter code first, and the ranges of its characters; a range may run
over places that are not assigned, and no character lies in two of them.  `sharedChars` gives the characters that are
used by several scripts, with the codes of those scripts.
-/
namespace PathRouter.CharSet

def scripts : List (List String × List (Nat × Nat)) := [
  (["adlm", "adlam"], [(125184, 125279)]),
  (["aghb", "caucasianalbanian"], [(66864, 66927)]),
  (["ahom"], [(71424, 71494)]),
  (["arab", "arabic"], [(1536, 1540), (1542, 1547), (1549, 1562), (1564, 1566), (1568, 1599), (1601, 1610),
    (1622, 1647), (1649, 1756), (1758, 1791), (1872, 1919), (2160, 2273), (2275, 2303), (64336, 64829),
    (64832, 65023), (65136, 65276), (69216, 69246), (69314, 69375), (126464, 126705)]),
  (["armi", "imperialaramaic"], [(67648, 67679)]),
  (["armn", "armenian"], [(1329, 1423), (64275, 64279)]),
  (["avst", "avestan"], [(68352, 68415)]),
  (["bali", "balinese"], [(6912, 7039)]),
  (["bamu", "bamum"], [(42656, 42743), (92160, 92728)]),
  (["bass", "bassavah"], [(92880, 92917)]),
  (["batk", "batak"], [(7104, 7167)]),
  (["beng", "bengali"], [(2432, 2558)]),
  (["bhks", "bhaiksuki"], [(72704, 72812)]),
  (["bopo", "bopomofo"], [(746, 747), (12549, 12591), (12704, 12735)]),
  (["brah", "brahmi"], [(69632, 69759)]),
  (["brai", "braille"], [(10240, 10495)]),
  (["bugi", "buginese"], [(6656, 6687)]),
  (["buhd", "buhid"], [(5952, 5971)]),
  (["cakm", "chakma"], [(69888, 69959)]),
  (["cans", "canadianaboriginal"], [(5120, 5759), (6320, 6389), (72368, 72383)]),
  (["cari", "carian"], [(66208, 66256)]),
  (["cham"], [(43520, 43615)]),
  (["cher", "cherokee"], [(5024, 5117), (43888, 43967)]),
  (["chrs", "chorasmian"], [(69552, 69579)]),
  (["copt", "coptic", "qaac"], [(994, 1007), (11392, 11519)]),
  (["cpmn", "cyprominoan"], [(77712, 77810)]),
  (["cprt", "cypriot"], [(67584, 67647)]),
  (["cyrl", "cyrillic"], [(1024, 1156), (1159, 1327), (7296, 7306), (7467, 7467), (7544, 7544), (11744, 11775),
    (42560, 42655), (65070, 65071), (122928, 123023)]),
  (["deva", "devanagari"], [(2304, 2384), (2389, 2403), (2406, 2431), (43232, 43263), (72448, 72457)]),
  (["diak", "divesakuru"], [(71936, 72025)]),
  (["dogr", "dogra"], [(71680, 71739)]),
  (["dsrt", "deseret"], [(66560, 66639)]),
  (["dupl", "duployan"], [(113664, 113823)]),
  (["egyp", "egyptianhieroglyphs"], [(77824, 82938)]),
  (["elba", "elbasan"], [(66816, 66855)]),
  (["elym", "elymaic"], [(69600, 69622)]),
  (["ethi", "ethiopic"], [(4608, 5017), (11648, 11742), (43777, 43822), (124896, 124926)]),
  (["gara", "garay"], [(68928, 69007)]),
  (["geor", "georgian"], [(4256, 4346), (4348, 4351), (7312, 7359), (11520, 11565)]),
  (["glag", "glagolitic"], [(11264, 11359), (122880, 122922)]),
  (["gong", "gunjalagondi"], [(73056, 73129)]),
  (["gonm", "masaramgondi"], [(72960, 73049)]),
  (["goth", "gothic"], [(66352, 66378)]),
  (["gran", "grantha"], [(70400, 70457), (70460, 70516)]),
  (["grek", "greek"], [(880, 883), (885, 893), (895, 900), (902, 902), (904, 993), (1008, 1023), (7462, 7466),
    (7517, 7521), (7526, 7530), (7615, 7615), (7936, 8190), (8486, 8486), (43877, 43877), (65856, 65934),
    (65952, 65952), (119296, 119365)]),
  (["gujr", "gujarati"], [(2689, 2815)]),
  (["gukh", "gurungkhema"], [(90368, 90425)]),
  (["guru", "gurmukhi"], [(2561, 2678)]),
  (["hang", "hangul"], [(4352, 4607), (12334, 12335), (12593, 12686), (12800, 12830), (12896, 12926),
    (43360, 43388), (44032, 55291), (65440, 65500)]),
  (["hani", "han"], [(11904, 12245), (12293, 12293), (12295, 12295), (12321, 12329), (12344, 12347), (13312, 19903),
    (19968, 40959), (63744, 64217), (94178, 94179), (94192, 94193), (131072, 205743)]),
  (["hano", "hanunoo"], [(5920, 5940)]),
  (["hatr", "hatran"], [(67808, 67839)]),
  (["hebr", "hebrew"], [(1425, 1524), (64285, 64335)]),
  (["hira", "hiragana"], [(12353, 12438), (12445, 12447), (110593, 110879), (110898, 110930), (127488, 127488)]),
  (["hluw", "anatolianhieroglyphs"], [(82944, 83526)]),
  (["hmng", "pahawhhmong"], [(92928, 93071)]),
  (["hmnp", "nyiakengpuachuehmong"], [(123136, 123215)]),
  (["hung", "oldhungarian"], [(68736, 68863)]),
  (["ital", "olditalic"], [(66304, 66351)]),
  (["java", "javanese"], [(43392, 43469), (43472, 43487)]),
  (["kali", "kayahli"], [(43264, 43309), (43311, 43311)]),
  (["kana", "katakana"], [(12449, 12538), (12541, 12543), (12784, 12799), (13008, 13054), (13056, 13143),
    (65382, 65391), (65393, 65437), (110576, 110592), (110880, 110882), (110933, 110951)]),
  (["kawi"], [(73472, 73562)]),
  (["khar", "kharoshthi"], [(68096, 68184)]),
  (["khmr", "khmer"], [(6016, 6137), (6624, 6655)]),
  (["khoj", "khojki"], [(70144, 70209)]),
  (["kits", "khitansmallscript"], [(94180, 94180), (101120, 101631)]),
  (["knda", "kannada"], [(3200, 3315)]),
  (["krai", "kiratrai"], [(93504, 93561)]),
  (["kthi", "kaithi"], [(69760, 69837)]),
  (["lana", "taitham"], [(6688, 6829)]),
  (["laoo", "lao"], [(3713, 3807)]),
  (["latn", "latin"], [(65, 90), (97, 122), (170, 170), (186, 186), (192, 214), (216, 246), (248, 696), (736, 740),
    (7424, 7461), (7468, 7516), (7522, 7525), (7531, 7543), (7545, 7614), (7680, 7935), (8305, 8305), (8319, 8319),
    (8336, 8348), (8490, 8491), (8498, 8498), (8526, 8526), (8544, 8584), (11360, 11391), (42786, 42887),
    (42891, 43007), (43824, 43866), (43868, 43876), (43878, 43881), (64256, 64262), (65313, 65338), (65345, 65370),
    (67456, 67514), (122624, 122666)]),
  (["lepc", "lepcha"], [(7168, 7247)]),
  (["limb", "limbu"], [(6400, 6479)]),
  (["lina", "lineara"], [(67072, 67431)]),
  (["linb", "linearb"], [(65536, 65786)]),
  (["lisu"], [(42192, 42239), (73648, 73648)]),
  (["lyci", "lycian"], [(66176, 66204)]),
  (["lydi", "lydian"], [(67872, 67903)]),
  (["mahj", "mahajani"], [(69968, 70006)]),
  (["maka", "makasar"], [(73440, 73464)]),
  (["mand", "mandaic"], [(2112, 2142)]),
  (["mani", "manichaean"], [(68288, 68342)]),
  (["marc", "marchen"], [(72816, 72886)]),
  (["medf", "medefaidrin"], [(93760, 93850)]),
  (["mend", "mendekikakui"], [(124928, 125142)]),
  (["merc", "meroiticcursive"], [(68000, 68095)]),
  (["mero", "meroitichieroglyphs"], [(67968, 67999)]),
  (["mlym", "malayalam"], [(3328, 3455)]),
  (["modi"], [(71168, 71257)]),
  (["mong", "mongolian"], [(6144, 6145), (6148, 6148), (6150, 6314), (71264, 71276)]),
  (["mroo", "mro"], [(92736, 92783)]),
  (["mtei", "meeteimayek"], [(43744, 43766), (43968, 44025)]),
  (["mult", "multani"], [(70272, 70313)]),
  (["mymr", "myanmar"], [(4096, 4255), (43488, 43518), (43616, 43647), (71376, 71395)]),
  (["nagm", "nagmundari"], [(124112, 124153)]),
  (["nand", "nandinagari"], [(72096, 72164)]),
  (["narb", "oldnortharabian"], [(68224, 68255)]),
  (["nbat", "nabataean"], [(67712, 67759)]),
  (["newa"], [(70656, 70753)]),
  (["nkoo", "nko"], [(1984, 2047)]),
  (["nshu", "nushu"], [(94177, 94177), (110960, 111355)]),
  (["ogam", "ogham"], [(5760, 5788)]),
  (["olck", "olchiki"], [(7248, 7295)]),
  (["onao", "olonal"], [(124368, 124415)]),
  (["orkh", "oldturkic"], [(68608, 68680)]),
  (["orya", "oriya"], [(2817, 2935)]),
  (["osge", "osage"], [(66736, 66811)]),
  (["osma", "osmanya"], [(66688, 66729)]),
  (["ougr", "olduyghur"], [(69488, 69513)]),
  (["palm", "palmyrene"], [(67680, 67711)]),
  (["pauc", "paucinhau"], [(72384, 72440)]),
  (["perm", "oldpermic"], [(66384, 66426)]),
  (["phag", "phagspa"], [(43072, 43127)]),
  (["phli", "inscriptionalpahlavi"], [(68448, 68479)]),
  (["phlp", "psalterpahlavi"], [(68480, 68527)]),
  (["phnx", "phoenician"], [(67840, 67871)]),
  (["plrd", "miao"], [(93952, 94111)]),
  (["prti", "inscriptionalparthian"], [(68416, 68447)]),
  (["rjng", "rejang"], [(43312, 43359)]),
  (["rohg", "hanifirohingya"], [(68864, 68921)]),
  (["runr", "runic"], [(5792, 5866), (5870, 5880)]),
  (["samr", "samaritan"], [(2048, 2110)]),
  (["sarb", "oldsoutharabian"], [(68192, 68223)]),
  (["saur", "saurashtra"], [(43136, 43225)]),
  (["sgnw", "signwriting"], [(120832, 121519)]),
  (["shaw", "shavian"], [(66640, 66687)]),
  (["shrd", "sharada"], [(70016, 70111)]),
  (["sidd", "siddham"], [(71040, 71133)]),
  (["sind", "khudawadi"], [(70320, 70393)]),
  (["sinh", "sinhala"], [(3457, 3572), (70113, 70132)]),
  (["sogd", "sogdian"], [(69424, 69465)]),
  (["sogo", "oldsogdian"], [(69376, 69415)]),
  (["sora", "sorasompeng"], [(69840, 69881)]),
  (["soyo", "soyombo"], [(72272, 72354)]),
  (["sund", "sundanese"], [(7040, 7103), (7360, 7367)]),
  (["sunu", "sunuwar"], [(72640, 72697)]),
  (["sylo", "sylotinagri"], [(43008, 43052)]),
  (["syrc", "syriac"], [(1792, 1871), (2144, 2154)]),
  (["tagb", "tagbanwa"], [(5984, 6003)]),
  (["takr", "takri"], [(71296, 71369)]),
  (["tale", "taile"], [(6480, 6516)]),
  (["talu", "newtailue"], [(6528, 6623)]),
  (["taml", "tamil"], [(2946, 3066), (73664, 73727)]),
  (["tang", "tangut"], [(94176, 94176), (94208, 101119), (101632, 101640)]),
  (["tavt", "taiviet"], [(43648, 43743)]),
  (["telu", "telugu"], [(3072, 3199)]),
  (["tfng", "tifinagh"], [(11568, 11647)]),
  (["tglg", "tagalog"], [(5888, 5919)]),
  (["thaa", "thaana"], [(1920, 1969)]),
  (["thai"], [(3585, 3642), (3648, 3675)]),
  (["tibt", "tibetan"], [(3840, 4052), (4057, 4058)]),
  (["tirh", "tirhuta"], [(70784, 70873)]),
  (["tnsa", "tangsa"], [(92784, 92873)]),
  (["todr", "todhri"], [(67008, 67059)]),
  (["toto"], [(123536, 123566)]),
  (["tutg", "tulutigalari"], [(70528, 70626)]),
  (["ugar", "ugaritic"], [(66432, 66463)]),
  (["vaii", "vai"], [(42240, 42539)]),
  (["vith", "vithkuqi"], [(66928, 67004)]),
  (["wara", "warangciti"], [(71840, 71935)]),
  (["wcho", "wancho"], [(123584, 123647)]),
  (["xpeo", "oldpersian"], [(66464, 66517)]),
  (["xsux", "cuneiform"], [(73728, 75075)]),
  (["yezi", "yezidi"], [(69248, 69297)]),
  (["yiii", "yi"], [(40960, 42182)]),
  (["zanb", "zanabazarsquare"], [(72192, 72263)]),
  (["zinh", "inherited", "qaai"], [(768, 879), (1157, 1158), (1611, 1621), (1648, 1648), (2385, 2388), (6832, 6862),
    (7376, 7378), (7380, 7392), (7394, 7400), (7405, 7405), (7412, 7412), (7416, 7417), (7616, 7679), (8204, 8205),
    (8400, 8432), (12330, 12333), (12441, 12442), (65024, 65039), (65056, 65069), (66045, 66045), (66272, 66272),
    (70459, 70459), (118528, 118598), (119143, 119145), (119163, 119170), (119173, 119179), (119210, 119213),
    (917760, 917999)]),
  (["zyyy", "common"], [(0, 64), (91, 96), (123, 169), (171, 185), (187, 191), (215, 215), (247, 247), (697, 735),
    (741, 745), (748, 767), (884, 884), (894, 894), (901, 901), (903, 903), (1541, 1541), (1548, 1548),
    (1563, 1563), (1567, 1567), (1600, 1600), (1757, 1757), (2274, 2274), (2404, 2405), (3647, 3647), (4053, 4056),
    (4347, 4347), (5867, 5869), (5941, 5942), (6146, 6147), (6149, 6149), (7379, 7379), (7393, 7393), (7401, 7404),
    (7406, 7411), (7413, 7415), (7418, 7418), (8192, 8203), (8206, 8304), (8308, 8318), (8320, 8334), (8352, 8384),
    (8448, 8485), (8487, 8489), (8492, 8497), (8499, 8525), (8527, 8543), (8585, 10239), (10496, 11263),
    (11776, 11869), (12272, 12292), (12294, 12294), (12296, 12320), (12336, 12343), (12348, 12351), (12443, 12444),
    (12448, 12448), (12539, 12540), (12688, 12703), (12736, 12783), (12832, 12895), (12927, 13007), (13055, 13055),
    (13144, 13311), (19904, 19967), (42752, 42785), (42888, 42890), (43056, 43065), (43310, 43310), (43471, 43471),
    (43867, 43867), (43882, 43883), (64830, 64831), (65040, 65049), (65072, 65131), (65279, 65312), (65339, 65344),
    (65371, 65381), (65392, 65392), (65438, 65439), (65504, 65533), (65792, 65855), (65936, 65948), (66000, 66044),
    (66273, 66299), (113824, 118451), (118608, 119142), (119146, 119162), (119171, 119172), (119180, 119209),
    (119214, 119274), (119488, 120831), (126065, 126269), (126976, 127487), (127489, 130041), (917505, 917631)])]

def sharedChars : List ((Nat × Nat) × List String) := [
  ((183, 183), ["avst", "cari", "copt", "dupl", "elba", "geor", "glag", "gong", "goth", "grek", "hani", "latn",
    "lydi", "mahj", "perm", "shaw"]),
  ((700, 700), ["beng", "cyrl", "deva", "latn", "lisu", "thai", "toto"]),
  ((711, 711), ["bopo", "latn"]),
  ((713, 715), ["bopo", "latn"]),
  ((717, 717), ["latn", "lisu"]),
  ((727, 727), ["latn", "thai"]),
  ((729, 729), ["bopo", "latn"]),
  ((768, 768), ["cher", "copt", "cyrl", "grek", "latn", "perm", "sunu", "tale"]),
  ((769, 769), ["cher", "cyrl", "grek", "latn", "osge", "sunu", "tale", "todr"]),
  ((770, 770), ["cher", "cyrl", "latn", "tfng"]),
  ((771, 771), ["glag", "latn", "sunu", "syrc", "thai"]),
  ((772, 772), ["aghb", "cher", "copt", "cyrl", "goth", "grek", "latn", "osge", "syrc", "tfng", "todr"]),
  ((773, 773), ["copt", "elba", "glag", "goth", "kana", "latn"]),
  ((774, 774), ["cyrl", "grek", "latn", "perm", "tfng"]),
  ((775, 775), ["copt", "dupl", "hebr", "latn", "perm", "syrc", "tale", "tfng", "todr"]),
  ((776, 776), ["armn", "cyrl", "dupl", "goth", "grek", "hebr", "latn", "perm", "syrc", "tale", "tfng"]),
  ((777, 777), ["latn", "tfng"]),
  ((778, 778), ["dupl", "latn", "syrc"]),
  ((779, 779), ["cher", "cyrl", "latn", "osge"]),
  ((780, 780), ["cher", "latn", "tale"]),
  ((781, 781), ["latn", "sunu"]),
  ((782, 782), ["ethi", "latn"]),
  ((784, 784), ["latn", "sunu"]),
  ((785, 785), ["cyrl", "latn", "todr"]),
  ((787, 787), ["grek", "latn", "perm", "todr"]),
  ((803, 803), ["cher", "dupl", "kana", "latn", "syrc", "tfng"]),
  ((804, 804), ["cher", "dupl", "latn", "syrc"]),
  ((805, 805), ["latn", "syrc"]),
  ((813, 813), ["latn", "sunu", "syrc"]),
  ((814, 814), ["latn", "syrc"]),
  ((816, 816), ["cher", "latn", "syrc"]),
  ((817, 817), ["aghb", "cher", "goth", "latn", "sunu", "syrc", "thai"]),
  ((834, 834), ["grek"]),
  ((837, 837), ["grek"]),
  ((856, 856), ["latn", "osge"]),
  ((862, 862), ["aghb", "latn", "todr"]),
  ((867, 879), ["latn"]),
  ((884, 885), ["copt", "grek"]),
  ((1155, 1155), ["cyrl", "perm"]),
  ((1156, 1156), ["cyrl", "glag"]),
  ((1157, 1158), ["cyrl", "latn"]),
  ((1159, 1159), ["cyrl", "glag"]),
  ((1417, 1417), ["armn", "geor", "glag"]),
  ((1548, 1548), ["arab", "gara", "nkoo", "rohg", "syrc", "thaa", "yezi"]),
  ((1563, 1563), ["arab", "gara", "nkoo", "rohg", "syrc", "thaa", "yezi"]),
  ((1564, 1564), ["arab", "syrc", "thaa"]),
  ((1567, 1567), ["adlm", "arab", "gara", "nkoo", "rohg", "syrc", "thaa", "yezi"]),
  ((1600, 1600), ["adlm", "arab", "mand", "mani", "ougr", "phlp", "rohg", "sogd", "syrc"]),
  ((1611, 1621), ["arab", "syrc"]),
  ((1632, 1641), ["arab", "thaa", "yezi"]),
  ((1648, 1648), ["arab", "syrc"]),
  ((1748, 1748), ["arab", "rohg"]),
  ((2385, 2385), ["beng", "deva", "gran", "gujr", "guru", "knda", "latn", "mlym", "nand", "newa", "orya", "shrd",
    "taml", "telu", "tirh"]),
  ((2386, 2386), ["beng", "deva", "gran", "gujr", "guru", "knda", "latn", "mlym", "newa", "orya", "taml", "telu",
    "tirh"]),
  ((2404, 2404), ["beng", "deva", "dogr", "gong", "gonm", "gran", "gujr", "guru", "knda", "mahj", "mlym", "nand",
    "onao", "orya", "sind", "sinh", "sylo", "takr", "taml", "telu", "tirh"]),
  ((2405, 2405), ["beng", "deva", "dogr", "gong", "gonm", "gran", "gujr", "gukh", "guru", "knda", "limb", "mahj",
    "mlym", "nand", "onao", "orya", "sind", "sinh", "sylo", "takr", "taml", "telu", "tirh"]),
  ((2406, 2415), ["deva", "dogr", "kthi", "mahj"]),
  ((2534, 2543), ["beng", "cakm", "sylo"]),
  ((2662, 2671), ["guru", "mult"]),
  ((2790, 2799), ["gujr", "khoj"]),
  ((3046, 3059), ["gran", "taml"]),
  ((3302, 3311), ["knda", "nand", "tutg"]),
  ((4160, 4169), ["cakm", "mymr", "tale"]),
  ((4347, 4347), ["geor", "glag", "latn"]),
  ((5867, 5869), ["runr"]),
  ((5941, 5942), ["buhd", "hano", "tagb", "tglg"]),
  ((6146, 6147), ["mong", "phag"]),
  ((6149, 6149), ["mong", "phag"]),
  ((7376, 7376), ["beng", "deva", "gran", "knda"]),
  ((7377, 7377), ["deva"]),
  ((7378, 7378), ["beng", "deva", "gran", "knda"]),
  ((7379, 7379), ["deva", "gran", "knda"]),
  ((7380, 7380), ["deva"]),
  ((7381, 7381), ["beng", "deva", "newa", "telu", "tirh"]),
  ((7382, 7382), ["beng", "deva", "telu"]),
  ((7383, 7383), ["deva", "newa", "shrd"]),
  ((7384, 7384), ["beng", "deva", "newa", "telu"]),
  ((7385, 7385), ["deva", "shrd"]),
  ((7386, 7386), ["deva", "knda", "mlym", "orya", "taml", "telu"]),
  ((7387, 7387), ["deva"]),
  ((7388, 7389), ["deva", "shrd"]),
  ((7390, 7391), ["deva"]),
  ((7392, 7392), ["deva", "shrd"]),
  ((7393, 7393), ["beng", "deva"]),
  ((7394, 7394), ["deva", "newa", "tirh"]),
  ((7395, 7400), ["deva"]),
  ((7401, 7401), ["deva", "nand", "newa"]),
  ((7402, 7402), ["beng", "deva", "shrd"]),
  ((7403, 7403), ["deva", "newa"]),
  ((7404, 7404), ["deva"]),
  ((7405, 7405), ["beng", "deva", "newa", "shrd"]),
  ((7406, 7409), ["deva"]),
  ((7410, 7410), ["beng", "deva", "gran", "knda", "mlym", "nand", "orya", "sinh", "telu", "tirh", "tutg"]),
  ((7411, 7411), ["deva", "gran"]),
  ((7412, 7412), ["deva", "gran", "knda", "tutg"]),
  ((7413, 7414), ["beng", "deva"]),
  ((7415, 7415), ["beng"]),
  ((7416, 7417), ["deva", "gran"]),
  ((7418, 7418), ["nand"]),
  ((7616, 7617), ["grek"]),
  ((7672, 7672), ["cyrl", "latn", "syrc"]),
  ((7674, 7674), ["syrc"]),
  ((8239, 8239), ["latn", "mong", "phag"]),
  ((8271, 8271), ["adlm", "arab"]),
  ((8282, 8282), ["cari", "geor", "glag", "hung", "lyci", "orkh"]),
  ((8285, 8285), ["cari", "grek", "hung", "mero"]),
  ((8432, 8432), ["deva", "gran", "latn"]),
  ((11799, 11799), ["copt", "latn"]),
  ((11824, 11824), ["avst", "orkh"]),
  ((11825, 11825), ["avst", "cari", "geor", "hung", "kthi", "lydi", "samr"]),
  ((11836, 11836), ["dupl"]),
  ((11841, 11841), ["adlm", "arab", "hung"]),
  ((11843, 11843), ["cyrl", "glag"]),
  ((12272, 12287), ["hani", "tang"]),
  ((12289, 12289), ["bopo", "hang", "hani", "hira", "kana", "mong", "yiii"]),
  ((12290, 12290), ["bopo", "hang", "hani", "hira", "kana", "mong", "phag", "yiii"]),
  ((12291, 12291), ["bopo", "hang", "hani", "hira", "kana"]),
  ((12294, 12294), ["hani"]),
  ((12296, 12297), ["bopo", "hang", "hani", "hira", "kana", "mong", "tibt", "yiii"]),
  ((12298, 12299), ["bopo", "hang", "hani", "hira", "kana", "lisu", "mong", "tibt", "yiii"]),
  ((12300, 12305), ["bopo", "hang", "hani", "hira", "kana", "yiii"]),
  ((12307, 12307), ["bopo", "hang", "hani", "hira", "kana"]),
  ((12308, 12315), ["bopo", "hang", "hani", "hira", "kana", "yiii"]),
  ((12316, 12319), ["bopo", "hang", "hani", "hira", "kana"]),
  ((12330, 12333), ["bopo", "hani"]),
  ((12336, 12336), ["bopo", "hang", "hani", "hira", "kana"]),
  ((12337, 12341), ["hira", "kana"]),
  ((12343, 12343), ["bopo", "hang", "hani", "hira", "kana"]),
  ((12348, 12349), ["hani", "hira", "kana"]),
  ((12350, 12351), ["hani"]),
  ((12441, 12444), ["hira", "kana"]),
  ((12448, 12448), ["hira", "kana"]),
  ((12539, 12539), ["bopo", "hang", "hani", "hira", "kana", "yiii"]),
  ((12540, 12540), ["hira", "kana"]),
  ((12688, 12703), ["hani"]),
  ((12736, 12773), ["hani"]),
  ((12783, 12783), ["hani", "tang"]),
  ((12832, 12871), ["hani"]),
  ((12928, 12976), ["hani"]),
  ((12992, 13003), ["hani"]),
  ((13055, 13055), ["hani"]),
  ((13144, 13168), ["hani"]),
  ((13179, 13183), ["hani"]),
  ((13280, 13310), ["hani"]),
  ((42607, 42607), ["cyrl", "glag"]),
  ((42752, 42759), ["hani", "latn"]),
  ((43056, 43058), ["deva", "dogr", "gujr", "guru", "khoj", "knda", "kthi", "mahj", "mlym", "modi", "nand", "shrd",
    "sind", "takr", "tirh", "tutg"]),
  ((43059, 43061), ["deva", "dogr", "gujr", "guru", "khoj", "knda", "kthi", "mahj", "modi", "nand", "shrd", "sind",
    "takr", "tirh", "tutg"]),
  ((43062, 43063), ["deva", "dogr", "gujr", "guru", "khoj", "kthi", "mahj", "modi", "sind", "takr", "tirh"]),
  ((43064, 43064), ["deva", "dogr", "gujr", "guru", "khoj", "kthi", "mahj", "modi", "shrd", "sind", "takr", "tirh"]),
  ((43065, 43065), ["deva", "dogr", "gujr", "guru", "khoj", "kthi", "mahj", "modi", "sind", "takr", "tirh"]),
  ((43249, 43249), ["beng", "deva", "tutg"]),
  ((43251, 43251), ["deva", "taml"]),
  ((43310, 43310), ["kali", "latn", "mymr"]),
  ((43471, 43471), ["bugi", "java"]),
  ((64830, 64831), ["arab", "nkoo"]),
  ((65010, 65010), ["arab", "thaa"]),
  ((65021, 65021), ["arab", "thaa"]),
  ((65093, 65094), ["bopo", "hang", "hani", "hira", "kana"]),
  ((65377, 65381), ["bopo", "hang", "hani", "hira", "kana", "yiii"]),
  ((65392, 65392), ["hira", "kana"]),
  ((65438, 65439), ["hira", "kana"]),
  ((65792, 65793), ["cpmn", "cprt", "linb"]),
  ((65794, 65794), ["cprt", "linb"]),
  ((65799, 65843), ["cprt", "lina", "linb"]),
  ((65847, 65855), ["cprt", "linb"]),
  ((66272, 66299), ["arab", "copt"]),
  ((68338, 68338), ["mani", "ougr"]),
  ((70401, 70401), ["gran", "taml"]),
  ((70403, 70403), ["gran", "taml"]),
  ((70459, 70460), ["gran", "taml"]),
  ((73680, 73681), ["gran", "taml"]),
  ((73683, 73683), ["gran", "taml"]),
  ((113824, 113827), ["dupl"]),
  ((119648, 119665), ["hani"]),
  ((127568, 127569), ["hani"])]

end PathRouter.CharSet
