import PathRouter.Text.Category
/-!
# The general category of every character, as a table of runs

Each entry gives the first code point of a run and the category all code points of the run share; a run lasts until the
next entry.  The table is cut into pages, in ascending order, and `Category.runs` is their concatenation.
-/
namespace PathRouter.Text.Category

def page0 : List (Nat × Category) := [
  (0, .cc), (32, .zs), (33, .po), (36, .sc), (37, .po), (40, .ps), (41, .pe), (42, .po), (43, .sm), (44, .po),
  (45, .pd), (46, .po), (48, .nd), (58, .po), (60, .sm), (63, .po), (65, .lu), (91, .ps), (92, .po), (93, .pe),
  (94, .sk), (95, .pc), (96, .sk), (97, .ll), (123, .ps), (124, .sm), (125, .pe), (126, .sm), (127, .cc), (160, .zs),
  (161, .po), (162, .sc), (166, .so), (167, .po), (168, .sk), (169, .so), (170, .lo), (171, .pi), (172, .sm),
  (173, .cf), (174, .so), (175, .sk), (176, .so), (177, .sm), (178, .no), (180, .sk), (181, .ll), (182, .po),
  (184, .sk), (185, .no), (186, .lo), (187, .pf), (188, .no), (191, .po), (192, .lu), (215, .sm), (216, .lu),
  (223, .ll), (247, .sm), (248, .ll), (256, .lu), (257, .ll), (258, .lu), (259, .ll), (260, .lu), (261, .ll),
  (262, .lu), (263, .ll), (264, .lu), (265, .ll), (266, .lu), (267, .ll), (268, .lu), (269, .ll), (270, .lu),
  (271, .ll), (272, .lu), (273, .ll), (274, .lu), (275, .ll), (276, .lu), (277, .ll), (278, .lu), (279, .ll),
  (280, .lu), (281, .ll), (282, .lu), (283, .ll), (284, .lu), (285, .ll), (286, .lu), (287, .ll), (288, .lu),
  (289, .ll), (290, .lu), (291, .ll), (292, .lu), (293, .ll), (294, .lu), (295, .ll), (296, .lu), (297, .ll),
  (298, .lu), (299, .ll), (300, .lu), (301, .ll), (302, .lu), (303, .ll), (304, .lu), (305, .ll), (306, .lu),
  (307, .ll), (308, .lu), (309, .ll), (310, .lu), (311, .ll), (313, .lu), (314, .ll), (315, .lu), (316, .ll),
  (317, .lu), (318, .ll), (319, .lu), (320, .ll), (321, .lu), (322, .ll), (323, .lu), (324, .ll), (325, .lu),
  (326, .ll), (327, .lu), (328, .ll), (330, .lu), (331, .ll), (332, .lu), (333, .ll), (334, .lu), (335, .ll),
  (336, .lu), (337, .ll), (338, .lu), (339, .ll), (340, .lu), (341, .ll), (342, .lu), (343, .ll), (344, .lu),
  (345, .ll), (346, .lu), (347, .ll), (348, .lu), (349, .ll), (350, .lu), (351, .ll), (352, .lu), (353, .ll),
  (354, .lu), (355, .ll), (356, .lu), (357, .ll), (358, .lu), (359, .ll), (360, .lu), (361, .ll), (362, .lu),
  (363, .ll), (364, .lu), (365, .ll), (366, .lu), (367, .ll), (368, .lu), (369, .ll), (370, .lu), (371, .ll),
  (372, .lu), (373, .ll), (374, .lu), (375, .ll), (376, .lu), (378, .ll), (379, .lu), (380, .ll), (381, .lu),
  (382, .ll), (385, .lu), (387, .ll), (388, .lu), (389, .ll), (390, .lu), (392, .ll), (393, .lu), (396, .ll),
  (398, .lu), (402, .ll), (403, .lu), (405, .ll), (406, .lu), (409, .ll), (412, .lu), (414, .ll), (415, .lu),
  (417, .ll), (418, .lu), (419, .ll), (420, .lu), (421, .ll), (422, .lu), (424, .ll), (425, .lu), (426, .ll),
  (428, .lu), (429, .ll), (430, .lu), (432, .ll), (433, .lu), (436, .ll), (437, .lu), (438, .ll), (439, .lu),
  (441, .ll), (443, .lo), (444, .lu), (445, .ll), (448, .lo), (452, .lu), (453, .lt), (454, .ll), (455, .lu),
  (456, .lt), (457, .ll), (458, .lu), (459, .lt), (460, .ll), (461, .lu), (462, .ll), (463, .lu), (464, .ll),
  (465, .lu), (466, .ll), (467, .lu), (468, .ll), (469, .lu), (470, .ll), (471, .lu), (472, .ll), (473, .lu),
  (474, .ll), (475, .lu), (476, .ll), (478, .lu), (479, .ll), (480, .lu), (481, .ll), (482, .lu), (483, .ll),
  (484, .lu), (485, .ll), (486, .lu), (487, .ll), (488, .lu), (489, .ll), (490, .lu), (491, .ll), (492, .lu),
  (493, .ll), (494, .lu), (495, .ll), (497, .lu), (498, .lt), (499, .ll), (500, .lu), (501, .ll), (502, .lu),
  (505, .ll), (506, .lu), (507, .ll), (508, .lu), (509, .ll), (510, .lu), (511, .ll), (512, .lu), (513, .ll),
  (514, .lu), (515, .ll), (516, .lu), (517, .ll), (518, .lu), (519, .ll), (520, .lu), (521, .ll), (522, .lu),
  (523, .ll), (524, .lu), (525, .ll), (526, .lu), (527, .ll), (528, .lu), (529, .ll), (530, .lu), (531, .ll),
  (532, .lu), (533, .ll), (534, .lu), (535, .ll), (536, .lu), (537, .ll), (538, .lu), (539, .ll), (540, .lu),
  (541, .ll), (542, .lu), (543, .ll), (544, .lu), (545, .ll), (546, .lu), (547, .ll), (548, .lu), (549, .ll),
  (550, .lu), (551, .ll), (552, .lu), (553, .ll), (554, .lu), (555, .ll), (556, .lu), (557, .ll), (558, .lu),
  (559, .ll), (560, .lu), (561, .ll), (562, .lu), (563, .ll), (570, .lu), (572, .ll), (573, .lu), (575, .ll),
  (577, .lu), (578, .ll), (579, .lu), (583, .ll), (584, .lu), (585, .ll), (586, .lu), (587, .ll), (588, .lu),
  (589, .ll), (590, .lu), (591, .ll), (660, .lo), (662, .ll), (688, .lm), (706, .sk), (710, .lm), (722, .sk),
  (736, .lm), (741, .sk), (748, .lm), (749, .sk), (750, .lm), (751, .sk), (768, .mn), (880, .lu), (881, .ll),
  (882, .lu), (883, .ll), (884, .lm), (885, .sk), (886, .lu), (887, .ll), (888, .cn), (890, .lm), (891, .ll),
  (894, .po), (895, .lu), (896, .cn), (900, .sk), (902, .lu), (903, .po), (904, .lu), (907, .cn), (908, .lu),
  (909, .cn), (910, .lu), (912, .ll), (913, .lu), (930, .cn), (931, .lu), (940, .ll), (975, .lu), (976, .ll),
  (978, .lu), (981, .ll), (984, .lu), (985, .ll), (986, .lu), (987, .ll), (988, .lu), (989, .ll), (990, .lu),
  (991, .ll), (992, .lu), (993, .ll), (994, .lu), (995, .ll), (996, .lu), (997, .ll), (998, .lu), (999, .ll),
  (1000, .lu), (1001, .ll), (1002, .lu), (1003, .ll), (1004, .lu), (1005, .ll), (1006, .lu), (1007, .ll), (1012, .lu),
  (1013, .ll), (1014, .sm), (1015, .lu)]

def page1 : List (Nat × Category) := [
  (1016, .ll), (1017, .lu), (1019, .ll), (1021, .lu), (1072, .ll), (1120, .lu), (1121, .ll), (1122, .lu), (1123, .ll),
  (1124, .lu), (1125, .ll), (1126, .lu), (1127, .ll), (1128, .lu), (1129, .ll), (1130, .lu), (1131, .ll), (1132, .lu),
  (1133, .ll), (1134, .lu), (1135, .ll), (1136, .lu), (1137, .ll), (1138, .lu), (1139, .ll), (1140, .lu), (1141, .ll),
  (1142, .lu), (1143, .ll), (1144, .lu), (1145, .ll), (1146, .lu), (1147, .ll), (1148, .lu), (1149, .ll), (1150, .lu),
  (1151, .ll), (1152, .lu), (1153, .ll), (1154, .so), (1155, .mn), (1160, .me), (1162, .lu), (1163, .ll), (1164, .lu),
  (1165, .ll), (1166, .lu), (1167, .ll), (1168, .lu), (1169, .ll), (1170, .lu), (1171, .ll), (1172, .lu), (1173, .ll),
  (1174, .lu), (1175, .ll), (1176, .lu), (1177, .ll), (1178, .lu), (1179, .ll), (1180, .lu), (1181, .ll), (1182, .lu),
  (1183, .ll), (1184, .lu), (1185, .ll), (1186, .lu), (1187, .ll), (1188, .lu), (1189, .ll), (1190, .lu), (1191, .ll),
  (1192, .lu), (1193, .ll), (1194, .lu), (1195, .ll), (1196, .lu), (1197, .ll), (1198, .lu), (1199, .ll), (1200, .lu),
  (1201, .ll), (1202, .lu), (1203, .ll), (1204, .lu), (1205, .ll), (1206, .lu), (1207, .ll), (1208, .lu), (1209, .ll),
  (1210, .lu), (1211, .ll), (1212, .lu), (1213, .ll), (1214, .lu), (1215, .ll), (1216, .lu), (1218, .ll), (1219, .lu),
  (1220, .ll), (1221, .lu), (1222, .ll), (1223, .lu), (1224, .ll), (1225, .lu), (1226, .ll), (1227, .lu), (1228, .ll),
  (1229, .lu), (1230, .ll), (1232, .lu), (1233, .ll), (1234, .lu), (1235, .ll), (1236, .lu), (1237, .ll), (1238, .lu),
  (1239, .ll), (1240, .lu), (1241, .ll), (1242, .lu), (1243, .ll), (1244, .lu), (1245, .ll), (1246, .lu), (1247, .ll),
  (1248, .lu), (1249, .ll), (1250, .lu), (1251, .ll), (1252, .lu), (1253, .ll), (1254, .lu), (1255, .ll), (1256, .lu),
  (1257, .ll), (1258, .lu), (1259, .ll), (1260, .lu), (1261, .ll), (1262, .lu), (1263, .ll), (1264, .lu), (1265, .ll),
  (1266, .lu), (1267, .ll), (1268, .lu), (1269, .ll), (1270, .lu), (1271, .ll), (1272, .lu), (1273, .ll), (1274, .lu),
  (1275, .ll), (1276, .lu), (1277, .ll), (1278, .lu), (1279, .ll), (1280, .lu), (1281, .ll), (1282, .lu), (1283, .ll),
  (1284, .lu), (1285, .ll), (1286, .lu), (1287, .ll), (1288, .lu), (1289, .ll), (1290, .lu), (1291, .ll), (1292, .lu),
  (1293, .ll), (1294, .lu), (1295, .ll), (1296, .lu), (1297, .ll), (1298, .lu), (1299, .ll), (1300, .lu), (1301, .ll),
  (1302, .lu), (1303, .ll), (1304, .lu), (1305, .ll), (1306, .lu), (1307, .ll), (1308, .lu), (1309, .ll), (1310, .lu),
  (1311, .ll), (1312, .lu), (1313, .ll), (1314, .lu), (1315, .ll), (1316, .lu), (1317, .ll), (1318, .lu), (1319, .ll),
  (1320, .lu), (1321, .ll), (1322, .lu), (1323, .ll), (1324, .lu), (1325, .ll), (1326, .lu), (1327, .ll), (1328, .cn),
  (1329, .lu), (1367, .cn), (1369, .lm), (1370, .po), (1376, .ll), (1417, .po), (1418, .pd), (1419, .cn), (1421, .so),
  (1423, .sc), (1424, .cn), (1425, .mn), (1470, .pd), (1471, .mn), (1472, .po), (1473, .mn), (1475, .po), (1476, .mn),
  (1478, .po), (1479, .mn), (1480, .cn), (1488, .lo), (1515, .cn), (1519, .lo), (1523, .po), (1525, .cn), (1536, .cf),
  (1542, .sm), (1545, .po), (1547, .sc), (1548, .po), (1550, .so), (1552, .mn), (1563, .po), (1564, .cf), (1565, .po),
  (1568, .lo), (1600, .lm), (1601, .lo), (1611, .mn), (1632, .nd), (1642, .po), (1646, .lo), (1648, .mn), (1649, .lo),
  (1748, .po), (1749, .lo), (1750, .mn), (1757, .cf), (1758, .so), (1759, .mn), (1765, .lm), (1767, .mn), (1769, .so),
  (1770, .mn), (1774, .lo), (1776, .nd), (1786, .lo), (1789, .so), (1791, .lo), (1792, .po), (1806, .cn), (1807, .cf),
  (1808, .lo), (1809, .mn), (1810, .lo), (1840, .mn), (1867, .cn), (1869, .lo), (1958, .mn), (1969, .lo), (1970, .cn),
  (1984, .nd), (1994, .lo), (2027, .mn), (2036, .lm), (2038, .so), (2039, .po), (2042, .lm), (2043, .cn), (2045, .mn),
  (2046, .sc), (2048, .lo), (2070, .mn), (2074, .lm), (2075, .mn), (2084, .lm), (2085, .mn), (2088, .lm), (2089, .mn),
  (2094, .cn), (2096, .po), (2111, .cn), (2112, .lo), (2137, .mn), (2140, .cn), (2142, .po), (2143, .cn), (2144, .lo),
  (2155, .cn), (2160, .lo), (2184, .sk), (2185, .lo), (2192, .cf), (2194, .cn), (2199, .mn), (2208, .lo), (2249, .lm),
  (2250, .mn), (2274, .cf), (2275, .mn), (2307, .mc), (2308, .lo), (2362, .mn), (2363, .mc), (2364, .mn), (2365, .lo),
  (2366, .mc), (2369, .mn), (2377, .mc), (2381, .mn), (2382, .mc), (2384, .lo), (2385, .mn), (2392, .lo), (2402, .mn),
  (2404, .po), (2406, .nd), (2416, .po), (2417, .lm), (2418, .lo), (2433, .mn), (2434, .mc), (2436, .cn), (2437, .lo),
  (2445, .cn), (2447, .lo), (2449, .cn), (2451, .lo), (2473, .cn), (2474, .lo), (2481, .cn), (2482, .lo), (2483, .cn),
  (2486, .lo), (2490, .cn), (2492, .mn), (2493, .lo), (2494, .mc), (2497, .mn), (2501, .cn), (2503, .mc), (2505, .cn),
  (2507, .mc), (2509, .mn), (2510, .lo), (2511, .cn), (2519, .mc), (2520, .cn), (2524, .lo), (2526, .cn), (2527, .lo),
  (2530, .mn), (2532, .cn), (2534, .nd), (2544, .lo), (2546, .sc), (2548, .no), (2554, .so), (2555, .sc), (2556, .lo),
  (2557, .po), (2558, .mn), (2559, .cn), (2561, .mn), (2563, .mc), (2564, .cn), (2565, .lo), (2571, .cn), (2575, .lo),
  (2577, .cn), (2579, .lo), (2601, .cn), (2602, .lo), (2609, .cn), (2610, .lo), (2612, .cn), (2613, .lo), (2615, .cn),
  (2616, .lo), (2618, .cn), (2620, .mn), (2621, .cn), (2622, .mc), (2625, .mn), (2627, .cn), (2631, .mn), (2633, .cn),
  (2635, .mn), (2638, .cn), (2641, .mn), (2642, .cn), (2649, .lo), (2653, .cn), (2654, .lo), (2655, .cn), (2662, .nd),
  (2672, .mn), (2674, .lo), (2677, .mn), (2678, .po), (2679, .cn), (2689, .mn)]

def page2 : List (Nat × Category) := [
  (2691, .mc), (2692, .cn), (2693, .lo), (2702, .cn), (2703, .lo), (2706, .cn), (2707, .lo), (2729, .cn), (2730, .lo),
  (2737, .cn), (2738, .lo), (2740, .cn), (2741, .lo), (2746, .cn), (2748, .mn), (2749, .lo), (2750, .mc), (2753, .mn),
  (2758, .cn), (2759, .mn), (2761, .mc), (2762, .cn), (2763, .mc), (2765, .mn), (2766, .cn), (2768, .lo), (2769, .cn),
  (2784, .lo), (2786, .mn), (2788, .cn), (2790, .nd), (2800, .po), (2801, .sc), (2802, .cn), (2809, .lo), (2810, .mn),
  (2816, .cn), (2817, .mn), (2818, .mc), (2820, .cn), (2821, .lo), (2829, .cn), (2831, .lo), (2833, .cn), (2835, .lo),
  (2857, .cn), (2858, .lo), (2865, .cn), (2866, .lo), (2868, .cn), (2869, .lo), (2874, .cn), (2876, .mn), (2877, .lo),
  (2878, .mc), (2879, .mn), (2880, .mc), (2881, .mn), (2885, .cn), (2887, .mc), (2889, .cn), (2891, .mc), (2893, .mn),
  (2894, .cn), (2901, .mn), (2903, .mc), (2904, .cn), (2908, .lo), (2910, .cn), (2911, .lo), (2914, .mn), (2916, .cn),
  (2918, .nd), (2928, .so), (2929, .lo), (2930, .no), (2936, .cn), (2946, .mn), (2947, .lo), (2948, .cn), (2949, .lo),
  (2955, .cn), (2958, .lo), (2961, .cn), (2962, .lo), (2966, .cn), (2969, .lo), (2971, .cn), (2972, .lo), (2973, .cn),
  (2974, .lo), (2976, .cn), (2979, .lo), (2981, .cn), (2984, .lo), (2987, .cn), (2990, .lo), (3002, .cn), (3006, .mc),
  (3008, .mn), (3009, .mc), (3011, .cn), (3014, .mc), (3017, .cn), (3018, .mc), (3021, .mn), (3022, .cn), (3024, .lo),
  (3025, .cn), (3031, .mc), (3032, .cn), (3046, .nd), (3056, .no), (3059, .so), (3065, .sc), (3066, .so), (3067, .cn),
  (3072, .mn), (3073, .mc), (3076, .mn), (3077, .lo), (3085, .cn), (3086, .lo), (3089, .cn), (3090, .lo), (3113, .cn),
  (3114, .lo), (3130, .cn), (3132, .mn), (3133, .lo), (3134, .mn), (3137, .mc), (3141, .cn), (3142, .mn), (3145, .cn),
  (3146, .mn), (3150, .cn), (3157, .mn), (3159, .cn), (3160, .lo), (3163, .cn), (3164, .lo), (3166, .cn), (3168, .lo),
  (3170, .mn), (3172, .cn), (3174, .nd), (3184, .cn), (3191, .po), (3192, .no), (3199, .so), (3200, .lo), (3201, .mn),
  (3202, .mc), (3204, .po), (3205, .lo), (3213, .cn), (3214, .lo), (3217, .cn), (3218, .lo), (3241, .cn), (3242, .lo),
  (3252, .cn), (3253, .lo), (3258, .cn), (3260, .mn), (3261, .lo), (3262, .mc), (3263, .mn), (3264, .mc), (3269, .cn),
  (3270, .mn), (3271, .mc), (3273, .cn), (3274, .mc), (3276, .mn), (3278, .cn), (3285, .mc), (3287, .cn), (3292, .lo),
  (3295, .cn), (3296, .lo), (3298, .mn), (3300, .cn), (3302, .nd), (3312, .cn), (3313, .lo), (3315, .mc), (3316, .cn),
  (3328, .mn), (3330, .mc), (3332, .lo), (3341, .cn), (3342, .lo), (3345, .cn), (3346, .lo), (3387, .mn), (3389, .lo),
  (3390, .mc), (3393, .mn), (3397, .cn), (3398, .mc), (3401, .cn), (3402, .mc), (3405, .mn), (3406, .lo), (3407, .so),
  (3408, .cn), (3412, .lo), (3415, .mc), (3416, .no), (3423, .lo), (3426, .mn), (3428, .cn), (3430, .nd), (3440, .no),
  (3449, .so), (3450, .lo), (3456, .cn), (3457, .mn), (3458, .mc), (3460, .cn), (3461, .lo), (3479, .cn), (3482, .lo),
  (3506, .cn), (3507, .lo), (3516, .cn), (3517, .lo), (3518, .cn), (3520, .lo), (3527, .cn), (3530, .mn), (3531, .cn),
  (3535, .mc), (3538, .mn), (3541, .cn), (3542, .mn), (3543, .cn), (3544, .mc), (3552, .cn), (3558, .nd), (3568, .cn),
  (3570, .mc), (3572, .po), (3573, .cn), (3585, .lo), (3633, .mn), (3634, .lo), (3636, .mn), (3643, .cn), (3647, .sc),
  (3648, .lo), (3654, .lm), (3655, .mn), (3663, .po), (3664, .nd), (3674, .po), (3676, .cn), (3713, .lo), (3715, .cn),
  (3716, .lo), (3717, .cn), (3718, .lo), (3723, .cn), (3724, .lo), (3748, .cn), (3749, .lo), (3750, .cn), (3751, .lo),
  (3761, .mn), (3762, .lo), (3764, .mn), (3773, .lo), (3774, .cn), (3776, .lo), (3781, .cn), (3782, .lm), (3783, .cn),
  (3784, .mn), (3791, .cn), (3792, .nd), (3802, .cn), (3804, .lo), (3808, .cn), (3840, .lo), (3841, .so), (3844, .po),
  (3859, .so), (3860, .po), (3861, .so), (3864, .mn), (3866, .so), (3872, .nd), (3882, .no), (3892, .so), (3893, .mn),
  (3894, .so), (3895, .mn), (3896, .so), (3897, .mn), (3898, .ps), (3899, .pe), (3900, .ps), (3901, .pe), (3902, .mc),
  (3904, .lo), (3912, .cn), (3913, .lo), (3949, .cn), (3953, .mn), (3967, .mc), (3968, .mn), (3973, .po), (3974, .mn),
  (3976, .lo), (3981, .mn), (3992, .cn), (3993, .mn), (4029, .cn), (4030, .so), (4038, .mn), (4039, .so), (4045, .cn),
  (4046, .so), (4048, .po), (4053, .so), (4057, .po), (4059, .cn), (4096, .lo), (4139, .mc), (4141, .mn), (4145, .mc),
  (4146, .mn), (4152, .mc), (4153, .mn), (4155, .mc), (4157, .mn), (4159, .lo), (4160, .nd), (4170, .po), (4176, .lo),
  (4182, .mc), (4184, .mn), (4186, .lo), (4190, .mn), (4193, .lo), (4194, .mc), (4197, .lo), (4199, .mc), (4206, .lo),
  (4209, .mn), (4213, .lo), (4226, .mn), (4227, .mc), (4229, .mn), (4231, .mc), (4237, .mn), (4238, .lo), (4239, .mc),
  (4240, .nd), (4250, .mc), (4253, .mn), (4254, .so), (4256, .lu), (4294, .cn), (4295, .lu), (4296, .cn), (4301, .lu),
  (4302, .cn), (4304, .ll), (4347, .po), (4348, .lm), (4349, .ll), (4352, .lo), (4681, .cn), (4682, .lo), (4686, .cn),
  (4688, .lo), (4695, .cn), (4696, .lo), (4697, .cn), (4698, .lo), (4702, .cn), (4704, .lo), (4745, .cn), (4746, .lo),
  (4750, .cn), (4752, .lo), (4785, .cn), (4786, .lo), (4790, .cn), (4792, .lo), (4799, .cn), (4800, .lo), (4801, .cn),
  (4802, .lo), (4806, .cn), (4808, .lo), (4823, .cn), (4824, .lo), (4881, .cn), (4882, .lo), (4886, .cn), (4888, .lo),
  (4955, .cn), (4957, .mn), (4960, .po), (4969, .no), (4989, .cn), (4992, .lo), (5008, .so), (5018, .cn), (5024, .lu),
  (5110, .cn), (5112, .ll), (5118, .cn), (5120, .pd), (5121, .lo), (5741, .so)]

def page3 : List (Nat × Category) := [
  (5742, .po), (5743, .lo), (5760, .zs), (5761, .lo), (5787, .ps), (5788, .pe), (5789, .cn), (5792, .lo), (5867, .po),
  (5870, .nl), (5873, .lo), (5881, .cn), (5888, .lo), (5906, .mn), (5909, .mc), (5910, .cn), (5919, .lo), (5938, .mn),
  (5940, .mc), (5941, .po), (5943, .cn), (5952, .lo), (5970, .mn), (5972, .cn), (5984, .lo), (5997, .cn), (5998, .lo),
  (6001, .cn), (6002, .mn), (6004, .cn), (6016, .lo), (6068, .mn), (6070, .mc), (6071, .mn), (6078, .mc), (6086, .mn),
  (6087, .mc), (6089, .mn), (6100, .po), (6103, .lm), (6104, .po), (6107, .sc), (6108, .lo), (6109, .mn), (6110, .cn),
  (6112, .nd), (6122, .cn), (6128, .no), (6138, .cn), (6144, .po), (6150, .pd), (6151, .po), (6155, .mn), (6158, .cf),
  (6159, .mn), (6160, .nd), (6170, .cn), (6176, .lo), (6211, .lm), (6212, .lo), (6265, .cn), (6272, .lo), (6277, .mn),
  (6279, .lo), (6313, .mn), (6314, .lo), (6315, .cn), (6320, .lo), (6390, .cn), (6400, .lo), (6431, .cn), (6432, .mn),
  (6435, .mc), (6439, .mn), (6441, .mc), (6444, .cn), (6448, .mc), (6450, .mn), (6451, .mc), (6457, .mn), (6460, .cn),
  (6464, .so), (6465, .cn), (6468, .po), (6470, .nd), (6480, .lo), (6510, .cn), (6512, .lo), (6517, .cn), (6528, .lo),
  (6572, .cn), (6576, .lo), (6602, .cn), (6608, .nd), (6618, .no), (6619, .cn), (6622, .so), (6656, .lo), (6679, .mn),
  (6681, .mc), (6683, .mn), (6684, .cn), (6686, .po), (6688, .lo), (6741, .mc), (6742, .mn), (6743, .mc), (6744, .mn),
  (6751, .cn), (6752, .mn), (6753, .mc), (6754, .mn), (6755, .mc), (6757, .mn), (6765, .mc), (6771, .mn), (6781, .cn),
  (6783, .mn), (6784, .nd), (6794, .cn), (6800, .nd), (6810, .cn), (6816, .po), (6823, .lm), (6824, .po), (6830, .cn),
  (6832, .mn), (6846, .me), (6847, .mn), (6878, .cn), (6880, .mn), (6892, .cn), (6912, .mn), (6916, .mc), (6917, .lo),
  (6964, .mn), (6965, .mc), (6966, .mn), (6971, .mc), (6972, .mn), (6973, .mc), (6978, .mn), (6979, .mc), (6981, .lo),
  (6989, .cn), (6990, .po), (6992, .nd), (7002, .po), (7009, .so), (7019, .mn), (7028, .so), (7037, .po), (7040, .mn),
  (7042, .mc), (7043, .lo), (7073, .mc), (7074, .mn), (7078, .mc), (7080, .mn), (7082, .mc), (7083, .mn), (7086, .lo),
  (7088, .nd), (7098, .lo), (7142, .mn), (7143, .mc), (7144, .mn), (7146, .mc), (7149, .mn), (7150, .mc), (7151, .mn),
  (7154, .mc), (7156, .cn), (7164, .po), (7168, .lo), (7204, .mc), (7212, .mn), (7220, .mc), (7222, .mn), (7224, .cn),
  (7227, .po), (7232, .nd), (7242, .cn), (7245, .lo), (7248, .nd), (7258, .lo), (7288, .lm), (7294, .po), (7296, .ll),
  (7305, .lu), (7306, .ll), (7307, .cn), (7312, .lu), (7355, .cn), (7357, .lu), (7360, .po), (7368, .cn), (7376, .mn),
  (7379, .po), (7380, .mn), (7393, .mc), (7394, .mn), (7401, .lo), (7405, .mn), (7406, .lo), (7412, .mn), (7413, .lo),
  (7415, .mc), (7416, .mn), (7418, .lo), (7419, .cn), (7424, .ll), (7468, .lm), (7531, .ll), (7544, .lm), (7545, .ll),
  (7579, .lm), (7616, .mn), (7680, .lu), (7681, .ll), (7682, .lu), (7683, .ll), (7684, .lu), (7685, .ll), (7686, .lu),
  (7687, .ll), (7688, .lu), (7689, .ll), (7690, .lu), (7691, .ll), (7692, .lu), (7693, .ll), (7694, .lu), (7695, .ll),
  (7696, .lu), (7697, .ll), (7698, .lu), (7699, .ll), (7700, .lu), (7701, .ll), (7702, .lu), (7703, .ll), (7704, .lu),
  (7705, .ll), (7706, .lu), (7707, .ll), (7708, .lu), (7709, .ll), (7710, .lu), (7711, .ll), (7712, .lu), (7713, .ll),
  (7714, .lu), (7715, .ll), (7716, .lu), (7717, .ll), (7718, .lu), (7719, .ll), (7720, .lu), (7721, .ll), (7722, .lu),
  (7723, .ll), (7724, .lu), (7725, .ll), (7726, .lu), (7727, .ll), (7728, .lu), (7729, .ll), (7730, .lu), (7731, .ll),
  (7732, .lu), (7733, .ll), (7734, .lu), (7735, .ll), (7736, .lu), (7737, .ll), (7738, .lu), (7739, .ll), (7740, .lu),
  (7741, .ll), (7742, .lu), (7743, .ll), (7744, .lu), (7745, .ll), (7746, .lu), (7747, .ll), (7748, .lu), (7749, .ll),
  (7750, .lu), (7751, .ll), (7752, .lu), (7753, .ll), (7754, .lu), (7755, .ll), (7756, .lu), (7757, .ll), (7758, .lu),
  (7759, .ll), (7760, .lu), (7761, .ll), (7762, .lu), (7763, .ll), (7764, .lu), (7765, .ll), (7766, .lu), (7767, .ll),
  (7768, .lu), (7769, .ll), (7770, .lu), (7771, .ll), (7772, .lu), (7773, .ll), (7774, .lu), (7775, .ll), (7776, .lu),
  (7777, .ll), (7778, .lu), (7779, .ll), (7780, .lu), (7781, .ll), (7782, .lu), (7783, .ll), (7784, .lu), (7785, .ll),
  (7786, .lu), (7787, .ll), (7788, .lu), (7789, .ll), (7790, .lu), (7791, .ll), (7792, .lu), (7793, .ll), (7794, .lu),
  (7795, .ll), (7796, .lu), (7797, .ll), (7798, .lu), (7799, .ll), (7800, .lu), (7801, .ll), (7802, .lu), (7803, .ll),
  (7804, .lu), (7805, .ll), (7806, .lu), (7807, .ll), (7808, .lu), (7809, .ll), (7810, .lu), (7811, .ll), (7812, .lu),
  (7813, .ll), (7814, .lu), (7815, .ll), (7816, .lu), (7817, .ll), (7818, .lu), (7819, .ll), (7820, .lu), (7821, .ll),
  (7822, .lu), (7823, .ll), (7824, .lu), (7825, .ll), (7826, .lu), (7827, .ll), (7828, .lu), (7829, .ll), (7838, .lu),
  (7839, .ll), (7840, .lu), (7841, .ll), (7842, .lu), (7843, .ll), (7844, .lu), (7845, .ll), (7846, .lu), (7847, .ll),
  (7848, .lu), (7849, .ll), (7850, .lu), (7851, .ll), (7852, .lu), (7853, .ll), (7854, .lu), (7855, .ll), (7856, .lu),
  (7857, .ll), (7858, .lu), (7859, .ll), (7860, .lu), (7861, .ll), (7862, .lu), (7863, .ll), (7864, .lu), (7865, .ll),
  (7866, .lu), (7867, .ll), (7868, .lu), (7869, .ll), (7870, .lu), (7871, .ll), (7872, .lu), (7873, .ll), (7874, .lu),
  (7875, .ll), (7876, .lu), (7877, .ll), (7878, .lu), (7879, .ll), (7880, .lu), (7881, .ll), (7882, .lu), (7883, .ll),
  (7884, .lu), (7885, .ll), (7886, .lu), (7887, .ll), (7888, .lu), (7889, .ll)]

def page4 : List (Nat × Category) := [
  (7890, .lu), (7891, .ll), (7892, .lu), (7893, .ll), (7894, .lu), (7895, .ll), (7896, .lu), (7897, .ll), (7898, .lu),
  (7899, .ll), (7900, .lu), (7901, .ll), (7902, .lu), (7903, .ll), (7904, .lu), (7905, .ll), (7906, .lu), (7907, .ll),
  (7908, .lu), (7909, .ll), (7910, .lu), (7911, .ll), (7912, .lu), (7913, .ll), (7914, .lu), (7915, .ll), (7916, .lu),
  (7917, .ll), (7918, .lu), (7919, .ll), (7920, .lu), (7921, .ll), (7922, .lu), (7923, .ll), (7924, .lu), (7925, .ll),
  (7926, .lu), (7927, .ll), (7928, .lu), (7929, .ll), (7930, .lu), (7931, .ll), (7932, .lu), (7933, .ll), (7934, .lu),
  (7935, .ll), (7944, .lu), (7952, .ll), (7958, .cn), (7960, .lu), (7966, .cn), (7968, .ll), (7976, .lu), (7984, .ll),
  (7992, .lu), (8000, .ll), (8006, .cn), (8008, .lu), (8014, .cn), (8016, .ll), (8024, .cn), (8025, .lu), (8026, .cn),
  (8027, .lu), (8028, .cn), (8029, .lu), (8030, .cn), (8031, .lu), (8032, .ll), (8040, .lu), (8048, .ll), (8062, .cn),
  (8064, .ll), (8072, .lt), (8080, .ll), (8088, .lt), (8096, .ll), (8104, .lt), (8112, .ll), (8117, .cn), (8118, .ll),
  (8120, .lu), (8124, .lt), (8125, .sk), (8126, .ll), (8127, .sk), (8130, .ll), (8133, .cn), (8134, .ll), (8136, .lu),
  (8140, .lt), (8141, .sk), (8144, .ll), (8148, .cn), (8150, .ll), (8152, .lu), (8156, .cn), (8157, .sk), (8160, .ll),
  (8168, .lu), (8173, .sk), (8176, .cn), (8178, .ll), (8181, .cn), (8182, .ll), (8184, .lu), (8188, .lt), (8189, .sk),
  (8191, .cn), (8192, .zs), (8203, .cf), (8208, .pd), (8214, .po), (8216, .pi), (8217, .pf), (8218, .ps), (8219, .pi),
  (8221, .pf), (8222, .ps), (8223, .pi), (8224, .po), (8232, .zl), (8233, .zp), (8234, .cf), (8239, .zs), (8240, .po),
  (8249, .pi), (8250, .pf), (8251, .po), (8255, .pc), (8257, .po), (8260, .sm), (8261, .ps), (8262, .pe), (8263, .po),
  (8274, .sm), (8275, .po), (8276, .pc), (8277, .po), (8287, .zs), (8288, .cf), (8293, .cn), (8294, .cf), (8304, .no),
  (8305, .lm), (8306, .cn), (8308, .no), (8314, .sm), (8317, .ps), (8318, .pe), (8319, .lm), (8320, .no), (8330, .sm),
  (8333, .ps), (8334, .pe), (8335, .cn), (8336, .lm), (8349, .cn), (8352, .sc), (8386, .cn), (8400, .mn), (8413, .me),
  (8417, .mn), (8418, .me), (8421, .mn), (8433, .cn), (8448, .so), (8450, .lu), (8451, .so), (8455, .lu), (8456, .so),
  (8458, .ll), (8459, .lu), (8462, .ll), (8464, .lu), (8467, .ll), (8468, .so), (8469, .lu), (8470, .so), (8472, .sm),
  (8473, .lu), (8478, .so), (8484, .lu), (8485, .so), (8486, .lu), (8487, .so), (8488, .lu), (8489, .so), (8490, .lu),
  (8494, .so), (8495, .ll), (8496, .lu), (8500, .ll), (8501, .lo), (8505, .ll), (8506, .so), (8508, .ll), (8510, .lu),
  (8512, .sm), (8517, .lu), (8518, .ll), (8522, .so), (8523, .sm), (8524, .so), (8526, .ll), (8527, .so), (8528, .no),
  (8544, .nl), (8579, .lu), (8580, .ll), (8581, .nl), (8585, .no), (8586, .so), (8588, .cn), (8592, .sm), (8597, .so),
  (8602, .sm), (8604, .so), (8608, .sm), (8609, .so), (8611, .sm), (8612, .so), (8614, .sm), (8615, .so), (8622, .sm),
  (8623, .so), (8654, .sm), (8656, .so), (8658, .sm), (8659, .so), (8660, .sm), (8661, .so), (8692, .sm), (8960, .so),
  (8968, .ps), (8969, .pe), (8970, .ps), (8971, .pe), (8972, .so), (8992, .sm), (8994, .so), (9001, .ps), (9002, .pe),
  (9003, .so), (9084, .sm), (9085, .so), (9115, .sm), (9140, .so), (9180, .sm), (9186, .so), (9258, .cn), (9280, .so),
  (9291, .cn), (9312, .no), (9372, .so), (9450, .no), (9472, .so), (9655, .sm), (9656, .so), (9665, .sm), (9666, .so),
  (9720, .sm), (9728, .so), (9839, .sm), (9840, .so), (10088, .ps), (10089, .pe), (10090, .ps), (10091, .pe),
  (10092, .ps), (10093, .pe), (10094, .ps), (10095, .pe), (10096, .ps), (10097, .pe), (10098, .ps), (10099, .pe),
  (10100, .ps), (10101, .pe), (10102, .no), (10132, .so), (10176, .sm), (10181, .ps), (10182, .pe), (10183, .sm),
  (10214, .ps), (10215, .pe), (10216, .ps), (10217, .pe), (10218, .ps), (10219, .pe), (10220, .ps), (10221, .pe),
  (10222, .ps), (10223, .pe), (10224, .sm), (10240, .so), (10496, .sm), (10627, .ps), (10628, .pe), (10629, .ps),
  (10630, .pe), (10631, .ps), (10632, .pe), (10633, .ps), (10634, .pe), (10635, .ps), (10636, .pe), (10637, .ps),
  (10638, .pe), (10639, .ps), (10640, .pe), (10641, .ps), (10642, .pe), (10643, .ps), (10644, .pe), (10645, .ps),
  (10646, .pe), (10647, .ps), (10648, .pe), (10649, .sm), (10712, .ps), (10713, .pe), (10714, .ps), (10715, .pe),
  (10716, .sm), (10748, .ps), (10749, .pe), (10750, .sm), (11008, .so), (11056, .sm), (11077, .so), (11079, .sm),
  (11085, .so), (11124, .cn), (11126, .so), (11264, .lu), (11312, .ll), (11360, .lu), (11361, .ll), (11362, .lu),
  (11365, .ll), (11367, .lu), (11368, .ll), (11369, .lu), (11370, .ll), (11371, .lu), (11372, .ll), (11373, .lu),
  (11377, .ll), (11378, .lu), (11379, .ll), (11381, .lu), (11382, .ll), (11388, .lm), (11390, .lu), (11393, .ll),
  (11394, .lu), (11395, .ll), (11396, .lu), (11397, .ll), (11398, .lu), (11399, .ll), (11400, .lu), (11401, .ll),
  (11402, .lu), (11403, .ll), (11404, .lu), (11405, .ll), (11406, .lu), (11407, .ll), (11408, .lu), (11409, .ll),
  (11410, .lu), (11411, .ll), (11412, .lu), (11413, .ll), (11414, .lu), (11415, .ll), (11416, .lu), (11417, .ll),
  (11418, .lu), (11419, .ll), (11420, .lu), (11421, .ll), (11422, .lu), (11423, .ll), (11424, .lu), (11425, .ll),
  (11426, .lu), (11427, .ll), (11428, .lu), (11429, .ll), (11430, .lu), (11431, .ll), (11432, .lu), (11433, .ll),
  (11434, .lu), (11435, .ll), (11436, .lu), (11437, .ll), (11438, .lu), (11439, .ll), (11440, .lu), (11441, .ll),
  (11442, .lu), (11443, .ll), (11444, .lu), (11445, .ll), (11446, .lu), (11447, .ll), (11448, .lu), (11449, .ll),
  (11450, .lu), (11451, .ll), (11452, .lu), (11453, .ll), (11454, .lu), (11455, .ll), (11456, .lu)]

def page5 : List (Nat × Category) := [
  (11457, .ll), (11458, .lu), (11459, .ll), (11460, .lu), (11461, .ll), (11462, .lu), (11463, .ll), (11464, .lu),
  (11465, .ll), (11466, .lu), (11467, .ll), (11468, .lu), (11469, .ll), (11470, .lu), (11471, .ll), (11472, .lu),
  (11473, .ll), (11474, .lu), (11475, .ll), (11476, .lu), (11477, .ll), (11478, .lu), (11479, .ll), (11480, .lu),
  (11481, .ll), (11482, .lu), (11483, .ll), (11484, .lu), (11485, .ll), (11486, .lu), (11487, .ll), (11488, .lu),
  (11489, .ll), (11490, .lu), (11491, .ll), (11493, .so), (11499, .lu), (11500, .ll), (11501, .lu), (11502, .ll),
  (11503, .mn), (11506, .lu), (11507, .ll), (11508, .cn), (11513, .po), (11517, .no), (11518, .po), (11520, .ll),
  (11558, .cn), (11559, .ll), (11560, .cn), (11565, .ll), (11566, .cn), (11568, .lo), (11624, .cn), (11631, .lm),
  (11632, .po), (11633, .cn), (11647, .mn), (11648, .lo), (11671, .cn), (11680, .lo), (11687, .cn), (11688, .lo),
  (11695, .cn), (11696, .lo), (11703, .cn), (11704, .lo), (11711, .cn), (11712, .lo), (11719, .cn), (11720, .lo),
  (11727, .cn), (11728, .lo), (11735, .cn), (11736, .lo), (11743, .cn), (11744, .mn), (11776, .po), (11778, .pi),
  (11779, .pf), (11780, .pi), (11781, .pf), (11782, .po), (11785, .pi), (11786, .pf), (11787, .po), (11788, .pi),
  (11789, .pf), (11790, .po), (11799, .pd), (11800, .po), (11802, .pd), (11803, .po), (11804, .pi), (11805, .pf),
  (11806, .po), (11808, .pi), (11809, .pf), (11810, .ps), (11811, .pe), (11812, .ps), (11813, .pe), (11814, .ps),
  (11815, .pe), (11816, .ps), (11817, .pe), (11818, .po), (11823, .lm), (11824, .po), (11834, .pd), (11836, .po),
  (11840, .pd), (11841, .po), (11842, .ps), (11843, .po), (11856, .so), (11858, .po), (11861, .ps), (11862, .pe),
  (11863, .ps), (11864, .pe), (11865, .ps), (11866, .pe), (11867, .ps), (11868, .pe), (11869, .pd), (11870, .cn),
  (11904, .so), (11930, .cn), (11931, .so), (12020, .cn), (12032, .so), (12246, .cn), (12272, .so), (12288, .zs),
  (12289, .po), (12292, .so), (12293, .lm), (12294, .lo), (12295, .nl), (12296, .ps), (12297, .pe), (12298, .ps),
  (12299, .pe), (12300, .ps), (12301, .pe), (12302, .ps), (12303, .pe), (12304, .ps), (12305, .pe), (12306, .so),
  (12308, .ps), (12309, .pe), (12310, .ps), (12311, .pe), (12312, .ps), (12313, .pe), (12314, .ps), (12315, .pe),
  (12316, .pd), (12317, .ps), (12318, .pe), (12320, .so), (12321, .nl), (12330, .mn), (12334, .mc), (12336, .pd),
  (12337, .lm), (12342, .so), (12344, .nl), (12347, .lm), (12348, .lo), (12349, .po), (12350, .so), (12352, .cn),
  (12353, .lo), (12439, .cn), (12441, .mn), (12443, .sk), (12445, .lm), (12447, .lo), (12448, .pd), (12449, .lo),
  (12539, .po), (12540, .lm), (12543, .lo), (12544, .cn), (12549, .lo), (12592, .cn), (12593, .lo), (12687, .cn),
  (12688, .so), (12690, .no), (12694, .so), (12704, .lo), (12736, .so), (12774, .cn), (12783, .so), (12784, .lo),
  (12800, .so), (12831, .cn), (12832, .no), (12842, .so), (12872, .no), (12880, .so), (12881, .no), (12896, .so),
  (12928, .no), (12938, .so), (12977, .no), (12992, .so), (13312, .lo), (19904, .so), (19968, .lo), (40981, .lm),
  (40982, .lo), (42125, .cn), (42128, .so), (42183, .cn), (42192, .lo), (42232, .lm), (42238, .po), (42240, .lo),
  (42508, .lm), (42509, .po), (42512, .lo), (42528, .nd), (42538, .lo), (42540, .cn), (42560, .lu), (42561, .ll),
  (42562, .lu), (42563, .ll), (42564, .lu), (42565, .ll), (42566, .lu), (42567, .ll), (42568, .lu), (42569, .ll),
  (42570, .lu), (42571, .ll), (42572, .lu), (42573, .ll), (42574, .lu), (42575, .ll), (42576, .lu), (42577, .ll),
  (42578, .lu), (42579, .ll), (42580, .lu), (42581, .ll), (42582, .lu), (42583, .ll), (42584, .lu), (42585, .ll),
  (42586, .lu), (42587, .ll), (42588, .lu), (42589, .ll), (42590, .lu), (42591, .ll), (42592, .lu), (42593, .ll),
  (42594, .lu), (42595, .ll), (42596, .lu), (42597, .ll), (42598, .lu), (42599, .ll), (42600, .lu), (42601, .ll),
  (42602, .lu), (42603, .ll), (42604, .lu), (42605, .ll), (42606, .lo), (42607, .mn), (42608, .me), (42611, .po),
  (42612, .mn), (42622, .po), (42623, .lm), (42624, .lu), (42625, .ll), (42626, .lu), (42627, .ll), (42628, .lu),
  (42629, .ll), (42630, .lu), (42631, .ll), (42632, .lu), (42633, .ll), (42634, .lu), (42635, .ll), (42636, .lu),
  (42637, .ll), (42638, .lu), (42639, .ll), (42640, .lu), (42641, .ll), (42642, .lu), (42643, .ll), (42644, .lu),
  (42645, .ll), (42646, .lu), (42647, .ll), (42648, .lu), (42649, .ll), (42650, .lu), (42651, .ll), (42652, .lm),
  (42654, .mn), (42656, .lo), (42726, .nl), (42736, .mn), (42738, .po), (42744, .cn), (42752, .sk), (42775, .lm),
  (42784, .sk), (42786, .lu), (42787, .ll), (42788, .lu), (42789, .ll), (42790, .lu), (42791, .ll), (42792, .lu),
  (42793, .ll), (42794, .lu), (42795, .ll), (42796, .lu), (42797, .ll), (42798, .lu), (42799, .ll), (42802, .lu),
  (42803, .ll), (42804, .lu), (42805, .ll), (42806, .lu), (42807, .ll), (42808, .lu), (42809, .ll), (42810, .lu),
  (42811, .ll), (42812, .lu), (42813, .ll), (42814, .lu), (42815, .ll), (42816, .lu), (42817, .ll), (42818, .lu),
  (42819, .ll), (42820, .lu), (42821, .ll), (42822, .lu), (42823, .ll), (42824, .lu), (42825, .ll), (42826, .lu),
  (42827, .ll), (42828, .lu), (42829, .ll), (42830, .lu), (42831, .ll), (42832, .lu), (42833, .ll), (42834, .lu),
  (42835, .ll), (42836, .lu), (42837, .ll), (42838, .lu), (42839, .ll), (42840, .lu), (42841, .ll), (42842, .lu),
  (42843, .ll), (42844, .lu), (42845, .ll), (42846, .lu), (42847, .ll), (42848, .lu), (42849, .ll), (42850, .lu),
  (42851, .ll), (42852, .lu), (42853, .ll), (42854, .lu), (42855, .ll), (42856, .lu), (42857, .ll), (42858, .lu),
  (42859, .ll), (42860, .lu), (42861, .ll), (42862, .lu), (42863, .ll), (42864, .lm), (42865, .ll), (42873, .lu),
  (42874, .ll), (42875, .lu), (42876, .ll), (42877, .lu), (42879, .ll), (42880, .lu), (42881, .ll), (42882, .lu),
  (42883, .ll), (42884, .lu), (42885, .ll), (42886, .lu), (42887, .ll), (42888, .lm), (42889, .sk), (42891, .lu),
  (42892, .ll), (42893, .lu), (42894, .ll), (42895, .lo)]

def page6 : List (Nat × Category) := [
  (42896, .lu), (42897, .ll), (42898, .lu), (42899, .ll), (42902, .lu), (42903, .ll), (42904, .lu), (42905, .ll),
  (42906, .lu), (42907, .ll), (42908, .lu), (42909, .ll), (42910, .lu), (42911, .ll), (42912, .lu), (42913, .ll),
  (42914, .lu), (42915, .ll), (42916, .lu), (42917, .ll), (42918, .lu), (42919, .ll), (42920, .lu), (42921, .ll),
  (42922, .lu), (42927, .ll), (42928, .lu), (42933, .ll), (42934, .lu), (42935, .ll), (42936, .lu), (42937, .ll),
  (42938, .lu), (42939, .ll), (42940, .lu), (42941, .ll), (42942, .lu), (42943, .ll), (42944, .lu), (42945, .ll),
  (42946, .lu), (42947, .ll), (42948, .lu), (42952, .ll), (42953, .lu), (42954, .ll), (42955, .lu), (42957, .ll),
  (42958, .lu), (42959, .ll), (42960, .lu), (42961, .ll), (42962, .lu), (42963, .ll), (42964, .lu), (42965, .ll),
  (42966, .lu), (42967, .ll), (42968, .lu), (42969, .ll), (42970, .lu), (42971, .ll), (42972, .lu), (42973, .cn),
  (42993, .lm), (42997, .lu), (42998, .ll), (42999, .lo), (43000, .lm), (43002, .ll), (43003, .lo), (43010, .mn),
  (43011, .lo), (43014, .mn), (43015, .lo), (43019, .mn), (43020, .lo), (43043, .mc), (43045, .mn), (43047, .mc),
  (43048, .so), (43052, .mn), (43053, .cn), (43056, .no), (43062, .so), (43064, .sc), (43065, .so), (43066, .cn),
  (43072, .lo), (43124, .po), (43128, .cn), (43136, .mc), (43138, .lo), (43188, .mc), (43204, .mn), (43206, .cn),
  (43214, .po), (43216, .nd), (43226, .cn), (43232, .mn), (43250, .lo), (43256, .po), (43259, .lo), (43260, .po),
  (43261, .lo), (43263, .mn), (43264, .nd), (43274, .lo), (43302, .mn), (43310, .po), (43312, .lo), (43335, .mn),
  (43346, .mc), (43348, .cn), (43359, .po), (43360, .lo), (43389, .cn), (43392, .mn), (43395, .mc), (43396, .lo),
  (43443, .mn), (43444, .mc), (43446, .mn), (43450, .mc), (43452, .mn), (43454, .mc), (43457, .po), (43470, .cn),
  (43471, .lm), (43472, .nd), (43482, .cn), (43486, .po), (43488, .lo), (43493, .mn), (43494, .lm), (43495, .lo),
  (43504, .nd), (43514, .lo), (43519, .cn), (43520, .lo), (43561, .mn), (43567, .mc), (43569, .mn), (43571, .mc),
  (43573, .mn), (43575, .cn), (43584, .lo), (43587, .mn), (43588, .lo), (43596, .mn), (43597, .mc), (43598, .cn),
  (43600, .nd), (43610, .cn), (43612, .po), (43616, .lo), (43632, .lm), (43633, .lo), (43639, .so), (43642, .lo),
  (43643, .mc), (43644, .mn), (43645, .mc), (43646, .lo), (43696, .mn), (43697, .lo), (43698, .mn), (43701, .lo),
  (43703, .mn), (43705, .lo), (43710, .mn), (43712, .lo), (43713, .mn), (43714, .lo), (43715, .cn), (43739, .lo),
  (43741, .lm), (43742, .po), (43744, .lo), (43755, .mc), (43756, .mn), (43758, .mc), (43760, .po), (43762, .lo),
  (43763, .lm), (43765, .mc), (43766, .mn), (43767, .cn), (43777, .lo), (43783, .cn), (43785, .lo), (43791, .cn),
  (43793, .lo), (43799, .cn), (43808, .lo), (43815, .cn), (43816, .lo), (43823, .cn), (43824, .ll), (43867, .sk),
  (43868, .lm), (43872, .ll), (43881, .lm), (43882, .sk), (43884, .cn), (43888, .ll), (43968, .lo), (44003, .mc),
  (44005, .mn), (44006, .mc), (44008, .mn), (44009, .mc), (44011, .po), (44012, .mc), (44013, .mn), (44014, .cn),
  (44016, .nd), (44026, .cn), (44032, .lo), (55204, .cn), (55216, .lo), (55239, .cn), (55243, .lo), (55292, .cn),
  (55296, .cs), (57344, .co), (63744, .lo), (64110, .cn), (64112, .lo), (64218, .cn), (64256, .ll), (64263, .cn),
  (64275, .ll), (64280, .cn), (64285, .lo), (64286, .mn), (64287, .lo), (64297, .sm), (64298, .lo), (64311, .cn),
  (64312, .lo), (64317, .cn), (64318, .lo), (64319, .cn), (64320, .lo), (64322, .cn), (64323, .lo), (64325, .cn),
  (64326, .lo), (64434, .sk), (64451, .so), (64467, .lo), (64830, .pe), (64831, .ps), (64832, .so), (64848, .lo),
  (64912, .so), (64914, .lo), (64968, .so), (64976, .cn), (65008, .lo), (65020, .sc), (65021, .so), (65024, .mn),
  (65040, .po), (65047, .ps), (65048, .pe), (65049, .po), (65050, .cn), (65056, .mn), (65072, .po), (65073, .pd),
  (65075, .pc), (65077, .ps), (65078, .pe), (65079, .ps), (65080, .pe), (65081, .ps), (65082, .pe), (65083, .ps),
  (65084, .pe), (65085, .ps), (65086, .pe), (65087, .ps), (65088, .pe), (65089, .ps), (65090, .pe), (65091, .ps),
  (65092, .pe), (65093, .po), (65095, .ps), (65096, .pe), (65097, .po), (65101, .pc), (65104, .po), (65107, .cn),
  (65108, .po), (65112, .pd), (65113, .ps), (65114, .pe), (65115, .ps), (65116, .pe), (65117, .ps), (65118, .pe),
  (65119, .po), (65122, .sm), (65123, .pd), (65124, .sm), (65127, .cn), (65128, .po), (65129, .sc), (65130, .po),
  (65132, .cn), (65136, .lo), (65141, .cn), (65142, .lo), (65277, .cn), (65279, .cf), (65280, .cn), (65281, .po),
  (65284, .sc), (65285, .po), (65288, .ps), (65289, .pe), (65290, .po), (65291, .sm), (65292, .po), (65293, .pd),
  (65294, .po), (65296, .nd), (65306, .po), (65308, .sm), (65311, .po), (65313, .lu), (65339, .ps), (65340, .po),
  (65341, .pe), (65342, .sk), (65343, .pc), (65344, .sk), (65345, .ll), (65371, .ps), (65372, .sm), (65373, .pe),
  (65374, .sm), (65375, .ps), (65376, .pe), (65377, .po), (65378, .ps), (65379, .pe), (65380, .po), (65382, .lo),
  (65392, .lm), (65393, .lo), (65438, .lm), (65440, .lo), (65471, .cn), (65474, .lo), (65480, .cn), (65482, .lo),
  (65488, .cn), (65490, .lo), (65496, .cn), (65498, .lo), (65501, .cn), (65504, .sc), (65506, .sm), (65507, .sk),
  (65508, .so), (65509, .sc), (65511, .cn), (65512, .so), (65513, .sm), (65517, .so), (65519, .cn), (65529, .cf),
  (65532, .so), (65534, .cn), (65536, .lo), (65548, .cn), (65549, .lo), (65575, .cn), (65576, .lo), (65595, .cn),
  (65596, .lo), (65598, .cn), (65599, .lo), (65614, .cn), (65616, .lo), (65630, .cn), (65664, .lo), (65787, .cn),
  (65792, .po), (65795, .cn), (65799, .no), (65844, .cn), (65847, .so), (65856, .nl), (65909, .no), (65913, .so),
  (65930, .no), (65932, .so), (65935, .cn), (65936, .so), (65949, .cn), (65952, .so), (65953, .cn), (66000, .so),
  (66045, .mn), (66046, .cn), (66176, .lo), (66205, .cn), (66208, .lo), (66257, .cn), (66272, .mn), (66273, .no),
  (66300, .cn), (66304, .lo), (66336, .no), (66340, .cn)]

def page7 : List (Nat × Category) := [
  (66349, .lo), (66369, .nl), (66370, .lo), (66378, .nl), (66379, .cn), (66384, .lo), (66422, .mn), (66427, .cn),
  (66432, .lo), (66462, .cn), (66463, .po), (66464, .lo), (66500, .cn), (66504, .lo), (66512, .po), (66513, .nl),
  (66518, .cn), (66560, .lu), (66600, .ll), (66640, .lo), (66718, .cn), (66720, .nd), (66730, .cn), (66736, .lu),
  (66772, .cn), (66776, .ll), (66812, .cn), (66816, .lo), (66856, .cn), (66864, .lo), (66916, .cn), (66927, .po),
  (66928, .lu), (66939, .cn), (66940, .lu), (66955, .cn), (66956, .lu), (66963, .cn), (66964, .lu), (66966, .cn),
  (66967, .ll), (66978, .cn), (66979, .ll), (66994, .cn), (66995, .ll), (67002, .cn), (67003, .ll), (67005, .cn),
  (67008, .lo), (67060, .cn), (67072, .lo), (67383, .cn), (67392, .lo), (67414, .cn), (67424, .lo), (67432, .cn),
  (67456, .lm), (67462, .cn), (67463, .lm), (67505, .cn), (67506, .lm), (67515, .cn), (67584, .lo), (67590, .cn),
  (67592, .lo), (67593, .cn), (67594, .lo), (67638, .cn), (67639, .lo), (67641, .cn), (67644, .lo), (67645, .cn),
  (67647, .lo), (67670, .cn), (67671, .po), (67672, .no), (67680, .lo), (67703, .so), (67705, .no), (67712, .lo),
  (67743, .cn), (67751, .no), (67760, .cn), (67808, .lo), (67827, .cn), (67828, .lo), (67830, .cn), (67835, .no),
  (67840, .lo), (67862, .no), (67868, .cn), (67871, .po), (67872, .lo), (67898, .cn), (67903, .po), (67904, .lo),
  (67930, .cn), (67968, .lo), (68024, .cn), (68028, .no), (68030, .lo), (68032, .no), (68048, .cn), (68050, .no),
  (68096, .lo), (68097, .mn), (68100, .cn), (68101, .mn), (68103, .cn), (68108, .mn), (68112, .lo), (68116, .cn),
  (68117, .lo), (68120, .cn), (68121, .lo), (68150, .cn), (68152, .mn), (68155, .cn), (68159, .mn), (68160, .no),
  (68169, .cn), (68176, .po), (68185, .cn), (68192, .lo), (68221, .no), (68223, .po), (68224, .lo), (68253, .no),
  (68256, .cn), (68288, .lo), (68296, .so), (68297, .lo), (68325, .mn), (68327, .cn), (68331, .no), (68336, .po),
  (68343, .cn), (68352, .lo), (68406, .cn), (68409, .po), (68416, .lo), (68438, .cn), (68440, .no), (68448, .lo),
  (68467, .cn), (68472, .no), (68480, .lo), (68498, .cn), (68505, .po), (68509, .cn), (68521, .no), (68528, .cn),
  (68608, .lo), (68681, .cn), (68736, .lu), (68787, .cn), (68800, .ll), (68851, .cn), (68858, .no), (68864, .lo),
  (68900, .mn), (68904, .cn), (68912, .nd), (68922, .cn), (68928, .nd), (68938, .lo), (68942, .lm), (68943, .lo),
  (68944, .lu), (68966, .cn), (68969, .mn), (68974, .pd), (68975, .lm), (68976, .ll), (68998, .cn), (69006, .sm),
  (69008, .cn), (69216, .no), (69247, .cn), (69248, .lo), (69290, .cn), (69291, .mn), (69293, .pd), (69294, .cn),
  (69296, .lo), (69298, .cn), (69314, .lo), (69317, .lm), (69318, .lo), (69320, .cn), (69328, .po), (69329, .so),
  (69337, .cn), (69370, .mn), (69376, .lo), (69405, .no), (69415, .lo), (69416, .cn), (69424, .lo), (69446, .mn),
  (69457, .no), (69461, .po), (69466, .cn), (69488, .lo), (69506, .mn), (69510, .po), (69514, .cn), (69552, .lo),
  (69573, .no), (69580, .cn), (69600, .lo), (69623, .cn), (69632, .mc), (69633, .mn), (69634, .mc), (69635, .lo),
  (69688, .mn), (69703, .po), (69710, .cn), (69714, .no), (69734, .nd), (69744, .mn), (69745, .lo), (69747, .mn),
  (69749, .lo), (69750, .cn), (69759, .mn), (69762, .mc), (69763, .lo), (69808, .mc), (69811, .mn), (69815, .mc),
  (69817, .mn), (69819, .po), (69821, .cf), (69822, .po), (69826, .mn), (69827, .cn), (69837, .cf), (69838, .cn),
  (69840, .lo), (69865, .cn), (69872, .nd), (69882, .cn), (69888, .mn), (69891, .lo), (69927, .mn), (69932, .mc),
  (69933, .mn), (69941, .cn), (69942, .nd), (69952, .po), (69956, .lo), (69957, .mc), (69959, .lo), (69960, .cn),
  (69968, .lo), (70003, .mn), (70004, .po), (70006, .lo), (70007, .cn), (70016, .mn), (70018, .mc), (70019, .lo),
  (70067, .mc), (70070, .mn), (70079, .mc), (70081, .lo), (70085, .po), (70089, .mn), (70093, .po), (70094, .mc),
  (70095, .mn), (70096, .nd), (70106, .lo), (70107, .po), (70108, .lo), (70109, .po), (70112, .cn), (70113, .no),
  (70133, .cn), (70144, .lo), (70162, .cn), (70163, .lo), (70188, .mc), (70191, .mn), (70194, .mc), (70196, .mn),
  (70197, .mc), (70198, .mn), (70200, .po), (70206, .mn), (70207, .lo), (70209, .mn), (70210, .cn), (70272, .lo),
  (70279, .cn), (70280, .lo), (70281, .cn), (70282, .lo), (70286, .cn), (70287, .lo), (70302, .cn), (70303, .lo),
  (70313, .po), (70314, .cn), (70320, .lo), (70367, .mn), (70368, .mc), (70371, .mn), (70379, .cn), (70384, .nd),
  (70394, .cn), (70400, .mn), (70402, .mc), (70404, .cn), (70405, .lo), (70413, .cn), (70415, .lo), (70417, .cn),
  (70419, .lo), (70441, .cn), (70442, .lo), (70449, .cn), (70450, .lo), (70452, .cn), (70453, .lo), (70458, .cn),
  (70459, .mn), (70461, .lo), (70462, .mc), (70464, .mn), (70465, .mc), (70469, .cn), (70471, .mc), (70473, .cn),
  (70475, .mc), (70478, .cn), (70480, .lo), (70481, .cn), (70487, .mc), (70488, .cn), (70493, .lo), (70498, .mc),
  (70500, .cn), (70502, .mn), (70509, .cn), (70512, .mn), (70517, .cn), (70528, .lo), (70538, .cn), (70539, .lo),
  (70540, .cn), (70542, .lo), (70543, .cn), (70544, .lo), (70582, .cn), (70583, .lo), (70584, .mc), (70587, .mn),
  (70593, .cn), (70594, .mc), (70595, .cn), (70597, .mc), (70598, .cn), (70599, .mc), (70603, .cn), (70604, .mc),
  (70606, .mn), (70607, .mc), (70608, .mn), (70609, .lo), (70610, .mn), (70611, .lo), (70612, .po), (70614, .cn),
  (70615, .po), (70617, .cn), (70625, .mn), (70627, .cn), (70656, .lo), (70709, .mc), (70712, .mn), (70720, .mc),
  (70722, .mn), (70725, .mc), (70726, .mn), (70727, .lo), (70731, .po), (70736, .nd), (70746, .po), (70748, .cn),
  (70749, .po), (70750, .mn), (70751, .lo), (70754, .cn), (70784, .lo), (70832, .mc), (70835, .mn), (70841, .mc),
  (70842, .mn), (70843, .mc), (70847, .mn), (70849, .mc), (70850, .mn), (70852, .lo), (70854, .po), (70855, .lo),
  (70856, .cn), (70864, .nd), (70874, .cn), (71040, .lo), (71087, .mc), (71090, .mn), (71094, .cn), (71096, .mc),
  (71100, .mn), (71102, .mc), (71103, .mn), (71105, .po)]

def page8 : List (Nat × Category) := [
  (71128, .lo), (71132, .mn), (71134, .cn), (71168, .lo), (71216, .mc), (71219, .mn), (71227, .mc), (71229, .mn),
  (71230, .mc), (71231, .mn), (71233, .po), (71236, .lo), (71237, .cn), (71248, .nd), (71258, .cn), (71264, .po),
  (71277, .cn), (71296, .lo), (71339, .mn), (71340, .mc), (71341, .mn), (71342, .mc), (71344, .mn), (71350, .mc),
  (71351, .mn), (71352, .lo), (71353, .po), (71354, .cn), (71360, .nd), (71370, .cn), (71376, .nd), (71396, .cn),
  (71424, .lo), (71451, .cn), (71453, .mn), (71454, .mc), (71455, .mn), (71456, .mc), (71458, .mn), (71462, .mc),
  (71463, .mn), (71468, .cn), (71472, .nd), (71482, .no), (71484, .po), (71487, .so), (71488, .lo), (71495, .cn),
  (71680, .lo), (71724, .mc), (71727, .mn), (71736, .mc), (71737, .mn), (71739, .po), (71740, .cn), (71840, .lu),
  (71872, .ll), (71904, .nd), (71914, .no), (71923, .cn), (71935, .lo), (71943, .cn), (71945, .lo), (71946, .cn),
  (71948, .lo), (71956, .cn), (71957, .lo), (71959, .cn), (71960, .lo), (71984, .mc), (71990, .cn), (71991, .mc),
  (71993, .cn), (71995, .mn), (71997, .mc), (71998, .mn), (71999, .lo), (72000, .mc), (72001, .lo), (72002, .mc),
  (72003, .mn), (72004, .po), (72007, .cn), (72016, .nd), (72026, .cn), (72096, .lo), (72104, .cn), (72106, .lo),
  (72145, .mc), (72148, .mn), (72152, .cn), (72154, .mn), (72156, .mc), (72160, .mn), (72161, .lo), (72162, .po),
  (72163, .lo), (72164, .mc), (72165, .cn), (72192, .lo), (72193, .mn), (72203, .lo), (72243, .mn), (72249, .mc),
  (72250, .lo), (72251, .mn), (72255, .po), (72263, .mn), (72264, .cn), (72272, .lo), (72273, .mn), (72279, .mc),
  (72281, .mn), (72284, .lo), (72330, .mn), (72343, .mc), (72344, .mn), (72346, .po), (72349, .lo), (72350, .po),
  (72355, .cn), (72368, .lo), (72441, .cn), (72448, .po), (72458, .cn), (72544, .mn), (72545, .mc), (72546, .mn),
  (72549, .mc), (72550, .mn), (72551, .mc), (72552, .cn), (72640, .lo), (72673, .po), (72674, .cn), (72688, .nd),
  (72698, .cn), (72704, .lo), (72713, .cn), (72714, .lo), (72751, .mc), (72752, .mn), (72759, .cn), (72760, .mn),
  (72766, .mc), (72767, .mn), (72768, .lo), (72769, .po), (72774, .cn), (72784, .nd), (72794, .no), (72813, .cn),
  (72816, .po), (72818, .lo), (72848, .cn), (72850, .mn), (72872, .cn), (72873, .mc), (72874, .mn), (72881, .mc),
  (72882, .mn), (72884, .mc), (72885, .mn), (72887, .cn), (72960, .lo), (72967, .cn), (72968, .lo), (72970, .cn),
  (72971, .lo), (73009, .mn), (73015, .cn), (73018, .mn), (73019, .cn), (73020, .mn), (73022, .cn), (73023, .mn),
  (73030, .lo), (73031, .mn), (73032, .cn), (73040, .nd), (73050, .cn), (73056, .lo), (73062, .cn), (73063, .lo),
  (73065, .cn), (73066, .lo), (73098, .mc), (73103, .cn), (73104, .mn), (73106, .cn), (73107, .mc), (73109, .mn),
  (73110, .mc), (73111, .mn), (73112, .lo), (73113, .cn), (73120, .nd), (73130, .cn), (73136, .lo), (73177, .lm),
  (73178, .lo), (73180, .cn), (73184, .nd), (73194, .cn), (73440, .lo), (73459, .mn), (73461, .mc), (73463, .po),
  (73465, .cn), (73472, .mn), (73474, .lo), (73475, .mc), (73476, .lo), (73489, .cn), (73490, .lo), (73524, .mc),
  (73526, .mn), (73531, .cn), (73534, .mc), (73536, .mn), (73537, .mc), (73538, .mn), (73539, .po), (73552, .nd),
  (73562, .mn), (73563, .cn), (73648, .lo), (73649, .cn), (73664, .no), (73685, .so), (73693, .sc), (73697, .so),
  (73714, .cn), (73727, .po), (73728, .lo), (74650, .cn), (74752, .nl), (74863, .cn), (74864, .po), (74869, .cn),
  (74880, .lo), (75076, .cn), (77712, .lo), (77809, .po), (77811, .cn), (77824, .lo), (78896, .cf), (78912, .mn),
  (78913, .lo), (78919, .mn), (78934, .cn), (78944, .lo), (82939, .cn), (82944, .lo), (83527, .cn), (90368, .lo),
  (90398, .mn), (90410, .mc), (90413, .mn), (90416, .nd), (90426, .cn), (92160, .lo), (92729, .cn), (92736, .lo),
  (92767, .cn), (92768, .nd), (92778, .cn), (92782, .po), (92784, .lo), (92863, .cn), (92864, .nd), (92874, .cn),
  (92880, .lo), (92910, .cn), (92912, .mn), (92917, .po), (92918, .cn), (92928, .lo), (92976, .mn), (92983, .po),
  (92988, .so), (92992, .lm), (92996, .po), (92997, .so), (92998, .cn), (93008, .nd), (93018, .cn), (93019, .no),
  (93026, .cn), (93027, .lo), (93048, .cn), (93053, .lo), (93072, .cn), (93504, .lm), (93507, .lo), (93547, .lm),
  (93549, .po), (93552, .nd), (93562, .cn), (93760, .lu), (93792, .ll), (93824, .no), (93847, .po), (93851, .cn),
  (93856, .lu), (93881, .cn), (93883, .ll), (93908, .cn), (93952, .lo), (94027, .cn), (94031, .mn), (94032, .lo),
  (94033, .mc), (94088, .cn), (94095, .mn), (94099, .lm), (94112, .cn), (94176, .lm), (94178, .po), (94179, .lm),
  (94180, .mn), (94181, .cn), (94192, .mc), (94194, .lm), (94196, .nl), (94199, .cn), (94208, .lo), (101590, .cn),
  (101631, .lo), (101663, .cn), (101760, .lo), (101875, .cn), (110576, .lm), (110580, .cn), (110581, .lm),
  (110588, .cn), (110589, .lm), (110591, .cn), (110592, .lo), (110883, .cn), (110898, .lo), (110899, .cn),
  (110928, .lo), (110931, .cn), (110933, .lo), (110934, .cn), (110948, .lo), (110952, .cn), (110960, .lo),
  (111356, .cn), (113664, .lo), (113771, .cn), (113776, .lo), (113789, .cn), (113792, .lo), (113801, .cn),
  (113808, .lo), (113818, .cn), (113820, .so), (113821, .mn), (113823, .po), (113824, .cf), (113828, .cn),
  (117760, .so), (118000, .nd), (118010, .so), (118013, .cn), (118016, .so), (118452, .cn), (118458, .so),
  (118481, .cn), (118496, .so), (118512, .sm), (118513, .cn), (118528, .mn), (118574, .cn), (118576, .mn),
  (118599, .cn), (118608, .so), (118724, .cn), (118784, .so), (119030, .cn), (119040, .so), (119079, .cn),
  (119081, .so), (119141, .mc), (119143, .mn), (119146, .so), (119149, .mc), (119155, .cf), (119163, .mn),
  (119171, .so), (119173, .mn), (119180, .so), (119210, .mn), (119214, .so), (119275, .cn), (119296, .so),
  (119362, .mn), (119365, .so), (119366, .cn), (119488, .no), (119508, .cn), (119520, .no), (119540, .cn),
  (119552, .so), (119639, .cn), (119648, .no), (119673, .cn), (119808, .lu), (119834, .ll), (119860, .lu),
  (119886, .ll), (119893, .cn), (119894, .ll), (119912, .lu), (119938, .ll), (119964, .lu), (119965, .cn),
  (119966, .lu)]

def page9 : List (Nat × Category) := [
  (119968, .cn), (119970, .lu), (119971, .cn), (119973, .lu), (119975, .cn), (119977, .lu), (119981, .cn),
  (119982, .lu), (119990, .ll), (119994, .cn), (119995, .ll), (119996, .cn), (119997, .ll), (120004, .cn),
  (120005, .ll), (120016, .lu), (120042, .ll), (120068, .lu), (120070, .cn), (120071, .lu), (120075, .cn),
  (120077, .lu), (120085, .cn), (120086, .lu), (120093, .cn), (120094, .ll), (120120, .lu), (120122, .cn),
  (120123, .lu), (120127, .cn), (120128, .lu), (120133, .cn), (120134, .lu), (120135, .cn), (120138, .lu),
  (120145, .cn), (120146, .ll), (120172, .lu), (120198, .ll), (120224, .lu), (120250, .ll), (120276, .lu),
  (120302, .ll), (120328, .lu), (120354, .ll), (120380, .lu), (120406, .ll), (120432, .lu), (120458, .ll),
  (120486, .cn), (120488, .lu), (120513, .sm), (120514, .ll), (120539, .sm), (120540, .ll), (120546, .lu),
  (120571, .sm), (120572, .ll), (120597, .sm), (120598, .ll), (120604, .lu), (120629, .sm), (120630, .ll),
  (120655, .sm), (120656, .ll), (120662, .lu), (120687, .sm), (120688, .ll), (120713, .sm), (120714, .ll),
  (120720, .lu), (120745, .sm), (120746, .ll), (120771, .sm), (120772, .ll), (120778, .lu), (120779, .ll),
  (120780, .cn), (120782, .nd), (120832, .so), (121344, .mn), (121399, .so), (121403, .mn), (121453, .so),
  (121461, .mn), (121462, .so), (121476, .mn), (121477, .so), (121479, .po), (121484, .cn), (121499, .mn),
  (121504, .cn), (121505, .mn), (121520, .cn), (122624, .ll), (122634, .lo), (122635, .ll), (122655, .cn),
  (122661, .ll), (122667, .cn), (122880, .mn), (122887, .cn), (122888, .mn), (122905, .cn), (122907, .mn),
  (122914, .cn), (122915, .mn), (122917, .cn), (122918, .mn), (122923, .cn), (122928, .lm), (122990, .cn),
  (123023, .mn), (123024, .cn), (123136, .lo), (123181, .cn), (123184, .mn), (123191, .lm), (123198, .cn),
  (123200, .nd), (123210, .cn), (123214, .lo), (123215, .so), (123216, .cn), (123536, .lo), (123566, .mn),
  (123567, .cn), (123584, .lo), (123628, .mn), (123632, .nd), (123642, .cn), (123647, .sc), (123648, .cn),
  (124112, .lo), (124139, .lm), (124140, .mn), (124144, .nd), (124154, .cn), (124368, .lo), (124398, .mn),
  (124400, .lo), (124401, .nd), (124411, .cn), (124415, .po), (124416, .cn), (124608, .lo), (124639, .cn),
  (124640, .lo), (124643, .mn), (124644, .lo), (124646, .mn), (124647, .lo), (124654, .mn), (124656, .lo),
  (124661, .mn), (124662, .cn), (124670, .lo), (124671, .lm), (124672, .cn), (124896, .lo), (124903, .cn),
  (124904, .lo), (124908, .cn), (124909, .lo), (124911, .cn), (124912, .lo), (124927, .cn), (124928, .lo),
  (125125, .cn), (125127, .no), (125136, .mn), (125143, .cn), (125184, .lu), (125218, .ll), (125252, .mn),
  (125259, .lm), (125260, .cn), (125264, .nd), (125274, .cn), (125278, .po), (125280, .cn), (126065, .no),
  (126124, .so), (126125, .no), (126128, .sc), (126129, .no), (126133, .cn), (126209, .no), (126254, .so),
  (126255, .no), (126270, .cn), (126464, .lo), (126468, .cn), (126469, .lo), (126496, .cn), (126497, .lo),
  (126499, .cn), (126500, .lo), (126501, .cn), (126503, .lo), (126504, .cn), (126505, .lo), (126515, .cn),
  (126516, .lo), (126520, .cn), (126521, .lo), (126522, .cn), (126523, .lo), (126524, .cn), (126530, .lo),
  (126531, .cn), (126535, .lo), (126536, .cn), (126537, .lo), (126538, .cn), (126539, .lo), (126540, .cn),
  (126541, .lo), (126544, .cn), (126545, .lo), (126547, .cn), (126548, .lo), (126549, .cn), (126551, .lo),
  (126552, .cn), (126553, .lo), (126554, .cn), (126555, .lo), (126556, .cn), (126557, .lo), (126558, .cn),
  (126559, .lo), (126560, .cn), (126561, .lo), (126563, .cn), (126564, .lo), (126565, .cn), (126567, .lo),
  (126571, .cn), (126572, .lo), (126579, .cn), (126580, .lo), (126584, .cn), (126585, .lo), (126589, .cn),
  (126590, .lo), (126591, .cn), (126592, .lo), (126602, .cn), (126603, .lo), (126620, .cn), (126625, .lo),
  (126628, .cn), (126629, .lo), (126634, .cn), (126635, .lo), (126652, .cn), (126704, .sm), (126706, .cn),
  (126976, .so), (127020, .cn), (127024, .so), (127124, .cn), (127136, .so), (127151, .cn), (127153, .so),
  (127168, .cn), (127169, .so), (127184, .cn), (127185, .so), (127222, .cn), (127232, .no), (127245, .so),
  (127406, .cn), (127462, .so), (127491, .cn), (127504, .so), (127548, .cn), (127552, .so), (127561, .cn),
  (127568, .so), (127570, .cn), (127584, .so), (127590, .cn), (127744, .so), (127995, .sk), (128000, .so),
  (128729, .cn), (128732, .so), (128749, .cn), (128752, .so), (128765, .cn), (128768, .so), (128986, .cn),
  (128992, .so), (129004, .cn), (129008, .so), (129009, .cn), (129024, .so), (129036, .cn), (129040, .so),
  (129096, .cn), (129104, .so), (129114, .cn), (129120, .so), (129160, .cn), (129168, .so), (129198, .cn),
  (129200, .so), (129212, .cn), (129216, .so), (129218, .cn), (129232, .sm), (129241, .cn), (129280, .so),
  (129624, .cn), (129632, .so), (129646, .cn), (129648, .so), (129661, .cn), (129664, .so), (129675, .cn),
  (129678, .so), (129735, .cn), (129736, .so), (129737, .cn), (129741, .so), (129757, .cn), (129759, .so),
  (129771, .cn), (129775, .so), (129785, .cn), (129792, .so), (129939, .cn), (129940, .so), (130032, .nd),
  (130042, .so), (130043, .cn), (131072, .lo), (173792, .cn), (173824, .lo), (178206, .cn), (178208, .lo),
  (183982, .cn), (183984, .lo), (191457, .cn), (191472, .lo), (192094, .cn), (194560, .lo), (195102, .cn),
  (196608, .lo), (201547, .cn), (201552, .lo), (210042, .cn), (917505, .cf), (917506, .cn), (917536, .cf),
  (917632, .cn), (917760, .mn), (918000, .cn), (983040, .co), (1048574, .cn), (1048576, .co), (1114110, .cn)]

/-- All runs, by ascending first code point. -/
def runs : List (Nat × Category) :=
  page0 ++
  page1 ++
  page2 ++
  page3 ++
  page4 ++
  page5 ++
  page6 ++
  page7 ++
  page8 ++
  page9

end PathRouter.Text.Category
