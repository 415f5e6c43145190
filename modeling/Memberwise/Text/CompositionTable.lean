/-! # Composition data

The order of combining marks and the pairs of a character and a mark that are one character, of
version 14 of the character database.
-/

namespace Memberwise.Text

/-- Runs (first, last, order) of marks: of two marks in a row the one of the lower order stands
first. -/
def markOrders : List (Nat × Nat × Nat) := [
  (768, 788, 230), (789, 789, 232), (790, 793, 220), (794, 794, 232), (795, 795, 216),
  (796, 800, 220), (801, 802, 202), (803, 806, 220), (807, 808, 202), (809, 819, 220),
  (820, 824, 1), (825, 828, 220), (829, 836, 230), (837, 837, 240), (838, 838, 230),
  (839, 841, 220), (842, 844, 230), (845, 846, 220), (848, 850, 230), (851, 854, 220),
  (855, 855, 230), (856, 856, 232), (857, 858, 220), (859, 859, 230), (860, 860, 233),
  (861, 862, 234), (863, 863, 233), (864, 865, 234), (866, 866, 233), (867, 879, 230),
  (1155, 1159, 230), (1425, 1425, 220), (1426, 1429, 230), (1430, 1430, 220), (1431, 1433, 230),
  (1434, 1434, 222), (1435, 1435, 220), (1436, 1441, 230), (1442, 1447, 220), (1448, 1449, 230),
  (1450, 1450, 220), (1451, 1452, 230), (1453, 1453, 222), (1454, 1454, 228), (1455, 1455, 230),
  (1456, 1456, 10), (1457, 1457, 11), (1458, 1458, 12), (1459, 1459, 13), (1460, 1460, 14),
  (1461, 1461, 15), (1462, 1462, 16), (1463, 1463, 17), (1464, 1464, 18), (1465, 1466, 19),
  (1467, 1467, 20), (1468, 1468, 21), (1469, 1469, 22), (1471, 1471, 23), (1473, 1473, 24),
  (1474, 1474, 25), (1476, 1476, 230), (1477, 1477, 220), (1479, 1479, 18), (1552, 1559, 230),
  (1560, 1560, 30), (1561, 1561, 31), (1562, 1562, 32), (1611, 1611, 27), (1612, 1612, 28),
  (1613, 1613, 29), (1614, 1614, 30), (1615, 1615, 31), (1616, 1616, 32), (1617, 1617, 33),
  (1618, 1618, 34), (1619, 1620, 230), (1621, 1622, 220), (1623, 1627, 230), (1628, 1628, 220),
  (1629, 1630, 230), (1631, 1631, 220), (1648, 1648, 35), (1750, 1756, 230), (1759, 1762, 230),
  (1763, 1763, 220), (1764, 1764, 230), (1767, 1768, 230), (1770, 1770, 220), (1771, 1772, 230),
  (1773, 1773, 220), (1809, 1809, 36), (1840, 1840, 230), (1841, 1841, 220), (1842, 1843, 230),
  (1844, 1844, 220), (1845, 1846, 230), (1847, 1849, 220), (1850, 1850, 230), (1851, 1852, 220),
  (1853, 1853, 230), (1854, 1854, 220), (1855, 1857, 230), (1858, 1858, 220), (1859, 1859, 230),
  (1860, 1860, 220), (1861, 1861, 230), (1862, 1862, 220), (1863, 1863, 230), (1864, 1864, 220),
  (1865, 1866, 230), (2027, 2033, 230), (2034, 2034, 220), (2035, 2035, 230), (2045, 2045, 220),
  (2070, 2073, 230), (2075, 2083, 230), (2085, 2087, 230), (2089, 2093, 230), (2137, 2139, 220),
  (2200, 2200, 230), (2201, 2203, 220), (2204, 2207, 230), (2250, 2254, 230), (2255, 2259, 220),
  (2260, 2273, 230), (2275, 2275, 220), (2276, 2277, 230), (2278, 2278, 220), (2279, 2280, 230),
  (2281, 2281, 220), (2282, 2284, 230), (2285, 2287, 220), (2288, 2288, 27), (2289, 2289, 28),
  (2290, 2290, 29), (2291, 2293, 230), (2294, 2294, 220), (2295, 2296, 230), (2297, 2298, 220),
  (2299, 2303, 230), (2364, 2364, 7), (2381, 2381, 9), (2385, 2385, 230), (2386, 2386, 220),
  (2387, 2388, 230), (2492, 2492, 7), (2509, 2509, 9), (2558, 2558, 230), (2620, 2620, 7),
  (2637, 2637, 9), (2748, 2748, 7), (2765, 2765, 9), (2876, 2876, 7), (2893, 2893, 9),
  (3021, 3021, 9), (3132, 3132, 7), (3149, 3149, 9), (3157, 3157, 84), (3158, 3158, 91),
  (3260, 3260, 7), (3277, 3277, 9), (3387, 3388, 9), (3405, 3405, 9), (3530, 3530, 9),
  (3640, 3641, 103), (3642, 3642, 9), (3656, 3659, 107), (3768, 3769, 118), (3770, 3770, 9),
  (3784, 3787, 122), (3864, 3865, 220), (3893, 3893, 220), (3895, 3895, 220), (3897, 3897, 216),
  (3953, 3953, 129), (3954, 3954, 130), (3956, 3956, 132), (3962, 3965, 130), (3968, 3968, 130),
  (3970, 3971, 230), (3972, 3972, 9), (3974, 3975, 230), (4038, 4038, 220), (4151, 4151, 7),
  (4153, 4154, 9), (4237, 4237, 220), (4957, 4959, 230), (5908, 5909, 9), (5940, 5940, 9),
  (6098, 6098, 9), (6109, 6109, 230), (6313, 6313, 228), (6457, 6457, 222), (6458, 6458, 230),
  (6459, 6459, 220), (6679, 6679, 230), (6680, 6680, 220), (6752, 6752, 9), (6773, 6780, 230),
  (6783, 6783, 220), (6832, 6836, 230), (6837, 6842, 220), (6843, 6844, 230), (6845, 6845, 220),
  (6847, 6848, 220), (6849, 6850, 230), (6851, 6852, 220), (6853, 6857, 230), (6858, 6858, 220),
  (6859, 6862, 230), (6964, 6964, 7), (6980, 6980, 9), (7019, 7019, 230), (7020, 7020, 220),
  (7021, 7027, 230), (7082, 7083, 9), (7142, 7142, 7), (7154, 7155, 9), (7223, 7223, 7),
  (7376, 7378, 230), (7380, 7380, 1), (7381, 7385, 220), (7386, 7387, 230), (7388, 7391, 220),
  (7392, 7392, 230), (7394, 7400, 1), (7405, 7405, 220), (7412, 7412, 230), (7416, 7417, 230),
  (7616, 7617, 230), (7618, 7618, 220), (7619, 7625, 230), (7626, 7626, 220), (7627, 7628, 230),
  (7629, 7629, 234), (7630, 7630, 214), (7631, 7631, 220), (7632, 7632, 202), (7633, 7669, 230),
  (7670, 7670, 232), (7671, 7672, 228), (7673, 7673, 220), (7674, 7674, 218), (7675, 7675, 230),
  (7676, 7676, 233), (7677, 7677, 220), (7678, 7678, 230), (7679, 7679, 220), (8400, 8401, 230),
  (8402, 8403, 1), (8404, 8407, 230), (8408, 8410, 1), (8411, 8412, 230), (8417, 8417, 230),
  (8421, 8422, 1), (8423, 8423, 230), (8424, 8424, 220), (8425, 8425, 230), (8426, 8427, 1),
  (8428, 8431, 220), (8432, 8432, 230), (11503, 11505, 230), (11647, 11647, 9),
  (11744, 11775, 230), (12330, 12330, 218), (12331, 12331, 228), (12332, 12332, 232),
  (12333, 12333, 222), (12334, 12335, 224), (12441, 12442, 8), (42607, 42607, 230),
  (42612, 42621, 230), (42654, 42655, 230), (42736, 42737, 230), (43014, 43014, 9),
  (43052, 43052, 9), (43204, 43204, 9), (43232, 43249, 230), (43307, 43309, 220),
  (43347, 43347, 9), (43443, 43443, 7), (43456, 43456, 9), (43696, 43696, 230),
  (43698, 43699, 230), (43700, 43700, 220), (43703, 43704, 230), (43710, 43711, 230),
  (43713, 43713, 230), (43766, 43766, 9), (44013, 44013, 9), (64286, 64286, 26),
  (65056, 65062, 230), (65063, 65069, 220), (65070, 65071, 230), (66045, 66045, 220),
  (66272, 66272, 220), (66422, 66426, 230), (68109, 68109, 220), (68111, 68111, 230),
  (68152, 68152, 230), (68153, 68153, 1), (68154, 68154, 220), (68159, 68159, 9),
  (68325, 68325, 230), (68326, 68326, 220), (68900, 68903, 230), (69291, 69292, 230),
  (69446, 69447, 220), (69448, 69450, 230), (69451, 69451, 220), (69452, 69452, 230),
  (69453, 69456, 220), (69506, 69506, 230), (69507, 69507, 220), (69508, 69508, 230),
  (69509, 69509, 220), (69702, 69702, 9), (69744, 69744, 9), (69759, 69759, 9), (69817, 69817, 9),
  (69818, 69818, 7), (69888, 69890, 230), (69939, 69940, 9), (70003, 70003, 7), (70080, 70080, 9),
  (70090, 70090, 7), (70197, 70197, 9), (70198, 70198, 7), (70377, 70377, 7), (70378, 70378, 9),
  (70459, 70460, 7), (70477, 70477, 9), (70502, 70508, 230), (70512, 70516, 230),
  (70722, 70722, 9), (70726, 70726, 7), (70750, 70750, 230), (70850, 70850, 9), (70851, 70851, 7),
  (71103, 71103, 9), (71104, 71104, 7), (71231, 71231, 9), (71350, 71350, 9), (71351, 71351, 7),
  (71467, 71467, 9), (71737, 71737, 9), (71738, 71738, 7), (71997, 71998, 9), (72003, 72003, 7),
  (72160, 72160, 9), (72244, 72244, 9), (72263, 72263, 9), (72345, 72345, 9), (72767, 72767, 9),
  (73026, 73026, 7), (73028, 73029, 9), (73111, 73111, 9), (92912, 92916, 1), (92976, 92982, 230),
  (94192, 94193, 6), (113822, 113822, 1), (119141, 119142, 216), (119143, 119145, 1),
  (119149, 119149, 226), (119150, 119154, 216), (119163, 119170, 220), (119173, 119177, 230),
  (119178, 119179, 220), (119210, 119213, 230), (119362, 119364, 230), (122880, 122886, 230),
  (122888, 122904, 230), (122907, 122913, 230), (122915, 122916, 230), (122918, 122922, 230),
  (123184, 123190, 230), (123566, 123566, 230), (123628, 123631, 230), (125136, 125142, 220),
  (125252, 125257, 230), (125258, 125258, 7)]

/-- The characters that are composed with each mark: the mark, then pairs of the base and the
composed character. -/
def compositions : List (Nat × List (Nat × Nat)) := [
  (768, [
    (65, 192), (69, 200), (73, 204), (79, 210), (85, 217), (97, 224), (101, 232), (105, 236),
    (111, 242), (117, 249), (220, 475), (252, 476), (78, 504), (110, 505), (1045, 1024),
    (1048, 1037), (1077, 1104), (1080, 1117), (274, 7700), (275, 7701), (332, 7760), (333, 7761),
    (87, 7808), (119, 7809), (194, 7846), (226, 7847), (258, 7856), (259, 7857), (202, 7872),
    (234, 7873), (212, 7890), (244, 7891), (416, 7900), (417, 7901), (431, 7914), (432, 7915),
    (89, 7922), (121, 7923), (7936, 7938), (7937, 7939), (7944, 7946), (7945, 7947), (7952, 7954),
    (7953, 7955), (7960, 7962), (7961, 7963), (7968, 7970), (7969, 7971), (7976, 7978),
    (7977, 7979), (7984, 7986), (7985, 7987), (7992, 7994), (7993, 7995), (8000, 8002),
    (8001, 8003), (8008, 8010), (8009, 8011), (8016, 8018), (8017, 8019), (8025, 8027),
    (8032, 8034), (8033, 8035), (8040, 8042), (8041, 8043), (945, 8048), (949, 8050), (951, 8052),
    (953, 8054), (959, 8056), (965, 8058), (969, 8060), (913, 8122), (917, 8136), (919, 8138),
    (8127, 8141), (970, 8146), (921, 8154), (8190, 8157), (971, 8162), (933, 8170), (168, 8173),
    (927, 8184), (937, 8186)]),
  (769, [
    (65, 193), (69, 201), (73, 205), (79, 211), (85, 218), (89, 221), (97, 225), (101, 233),
    (105, 237), (111, 243), (117, 250), (121, 253), (67, 262), (99, 263), (76, 313), (108, 314),
    (78, 323), (110, 324), (82, 340), (114, 341), (83, 346), (115, 347), (90, 377), (122, 378),
    (220, 471), (252, 472), (71, 500), (103, 501), (197, 506), (229, 507), (198, 508), (230, 509),
    (216, 510), (248, 511), (168, 901), (913, 902), (917, 904), (919, 905), (921, 906), (927, 908),
    (933, 910), (937, 911), (970, 912), (945, 940), (949, 941), (951, 942), (953, 943), (971, 944),
    (959, 972), (965, 973), (969, 974), (978, 979), (1043, 1027), (1050, 1036), (1075, 1107),
    (1082, 1116), (199, 7688), (231, 7689), (274, 7702), (275, 7703), (207, 7726), (239, 7727),
    (75, 7728), (107, 7729), (77, 7742), (109, 7743), (213, 7756), (245, 7757), (332, 7762),
    (333, 7763), (80, 7764), (112, 7765), (360, 7800), (361, 7801), (87, 7810), (119, 7811),
    (194, 7844), (226, 7845), (258, 7854), (259, 7855), (202, 7870), (234, 7871), (212, 7888),
    (244, 7889), (416, 7898), (417, 7899), (431, 7912), (432, 7913), (7936, 7940), (7937, 7941),
    (7944, 7948), (7945, 7949), (7952, 7956), (7953, 7957), (7960, 7964), (7961, 7965),
    (7968, 7972), (7969, 7973), (7976, 7980), (7977, 7981), (7984, 7988), (7985, 7989),
    (7992, 7996), (7993, 7997), (8000, 8004), (8001, 8005), (8008, 8012), (8009, 8013),
    (8016, 8020), (8017, 8021), (8025, 8029), (8032, 8036), (8033, 8037), (8040, 8044),
    (8041, 8045), (8127, 8142), (8190, 8158)]),
  (770, [
    (65, 194), (69, 202), (73, 206), (79, 212), (85, 219), (97, 226), (101, 234), (105, 238),
    (111, 244), (117, 251), (67, 264), (99, 265), (71, 284), (103, 285), (72, 292), (104, 293),
    (74, 308), (106, 309), (83, 348), (115, 349), (87, 372), (119, 373), (89, 374), (121, 375),
    (90, 7824), (122, 7825), (7840, 7852), (7841, 7853), (7864, 7878), (7865, 7879), (7884, 7896),
    (7885, 7897)]),
  (771, [
    (65, 195), (78, 209), (79, 213), (97, 227), (110, 241), (111, 245), (73, 296), (105, 297),
    (85, 360), (117, 361), (86, 7804), (118, 7805), (194, 7850), (226, 7851), (258, 7860),
    (259, 7861), (69, 7868), (101, 7869), (202, 7876), (234, 7877), (212, 7894), (244, 7895),
    (416, 7904), (417, 7905), (431, 7918), (432, 7919), (89, 7928), (121, 7929)]),
  (772, [
    (65, 256), (97, 257), (69, 274), (101, 275), (73, 298), (105, 299), (79, 332), (111, 333),
    (85, 362), (117, 363), (220, 469), (252, 470), (196, 478), (228, 479), (550, 480), (551, 481),
    (198, 482), (230, 483), (490, 492), (491, 493), (214, 554), (246, 555), (213, 556), (245, 557),
    (558, 560), (559, 561), (89, 562), (121, 563), (1048, 1250), (1080, 1251), (1059, 1262),
    (1091, 1263), (71, 7712), (103, 7713), (7734, 7736), (7735, 7737), (7770, 7772), (7771, 7773),
    (945, 8113), (913, 8121), (953, 8145), (921, 8153), (965, 8161), (933, 8169)]),
  (774, [
    (65, 258), (97, 259), (69, 276), (101, 277), (71, 286), (103, 287), (73, 300), (105, 301),
    (79, 334), (111, 335), (85, 364), (117, 365), (1059, 1038), (1048, 1049), (1080, 1081),
    (1091, 1118), (1046, 1217), (1078, 1218), (1040, 1232), (1072, 1233), (1045, 1238),
    (1077, 1239), (552, 7708), (553, 7709), (7840, 7862), (7841, 7863), (945, 8112), (913, 8120),
    (953, 8144), (921, 8152), (965, 8160), (933, 8168)]),
  (775, [
    (67, 266), (99, 267), (69, 278), (101, 279), (71, 288), (103, 289), (73, 304), (90, 379),
    (122, 380), (65, 550), (97, 551), (79, 558), (111, 559), (66, 7682), (98, 7683), (68, 7690),
    (100, 7691), (70, 7710), (102, 7711), (72, 7714), (104, 7715), (77, 7744), (109, 7745),
    (78, 7748), (110, 7749), (80, 7766), (112, 7767), (82, 7768), (114, 7769), (83, 7776),
    (115, 7777), (346, 7780), (347, 7781), (352, 7782), (353, 7783), (7778, 7784), (7779, 7785),
    (84, 7786), (116, 7787), (87, 7814), (119, 7815), (88, 7818), (120, 7819), (89, 7822),
    (121, 7823), (383, 7835)]),
  (776, [
    (65, 196), (69, 203), (73, 207), (79, 214), (85, 220), (97, 228), (101, 235), (105, 239),
    (111, 246), (117, 252), (121, 255), (89, 376), (921, 938), (933, 939), (953, 970), (965, 971),
    (978, 980), (1045, 1025), (1030, 1031), (1077, 1105), (1110, 1111), (1040, 1234), (1072, 1235),
    (1240, 1242), (1241, 1243), (1046, 1244), (1078, 1245), (1047, 1246), (1079, 1247),
    (1048, 1252), (1080, 1253), (1054, 1254), (1086, 1255), (1256, 1258), (1257, 1259),
    (1069, 1260), (1101, 1261), (1059, 1264), (1091, 1265), (1063, 1268), (1095, 1269),
    (1067, 1272), (1099, 1273), (72, 7718), (104, 7719), (213, 7758), (245, 7759), (362, 7802),
    (363, 7803), (87, 7812), (119, 7813), (88, 7820), (120, 7821), (116, 7831)]),
  (777, [
    (65, 7842), (97, 7843), (194, 7848), (226, 7849), (258, 7858), (259, 7859), (69, 7866),
    (101, 7867), (202, 7874), (234, 7875), (73, 7880), (105, 7881), (79, 7886), (111, 7887),
    (212, 7892), (244, 7893), (416, 7902), (417, 7903), (85, 7910), (117, 7911), (431, 7916),
    (432, 7917), (89, 7926), (121, 7927)]),
  (778, [
    (65, 197), (97, 229), (85, 366), (117, 367), (119, 7832), (121, 7833)]),
  (779, [
    (79, 336), (111, 337), (85, 368), (117, 369), (1059, 1266), (1091, 1267)]),
  (780, [
    (67, 268), (99, 269), (68, 270), (100, 271), (69, 282), (101, 283), (76, 317), (108, 318),
    (78, 327), (110, 328), (82, 344), (114, 345), (83, 352), (115, 353), (84, 356), (116, 357),
    (90, 381), (122, 382), (65, 461), (97, 462), (73, 463), (105, 464), (79, 465), (111, 466),
    (85, 467), (117, 468), (220, 473), (252, 474), (71, 486), (103, 487), (75, 488), (107, 489),
    (439, 494), (658, 495), (106, 496), (72, 542), (104, 543)]),
  (783, [
    (65, 512), (97, 513), (69, 516), (101, 517), (73, 520), (105, 521), (79, 524), (111, 525),
    (82, 528), (114, 529), (85, 532), (117, 533), (1140, 1142), (1141, 1143)]),
  (785, [
    (65, 514), (97, 515), (69, 518), (101, 519), (73, 522), (105, 523), (79, 526), (111, 527),
    (82, 530), (114, 531), (85, 534), (117, 535)]),
  (787, [
    (945, 7936), (913, 7944), (949, 7952), (917, 7960), (951, 7968), (919, 7976), (953, 7984),
    (921, 7992), (959, 8000), (927, 8008), (965, 8016), (969, 8032), (937, 8040), (961, 8164)]),
  (788, [
    (945, 7937), (913, 7945), (949, 7953), (917, 7961), (951, 7969), (919, 7977), (953, 7985),
    (921, 7993), (959, 8001), (927, 8009), (965, 8017), (933, 8025), (969, 8033), (937, 8041),
    (961, 8165), (929, 8172)]),
  (795, [
    (79, 416), (111, 417), (85, 431), (117, 432)]),
  (803, [
    (66, 7684), (98, 7685), (68, 7692), (100, 7693), (72, 7716), (104, 7717), (75, 7730),
    (107, 7731), (76, 7734), (108, 7735), (77, 7746), (109, 7747), (78, 7750), (110, 7751),
    (82, 7770), (114, 7771), (83, 7778), (115, 7779), (84, 7788), (116, 7789), (86, 7806),
    (118, 7807), (87, 7816), (119, 7817), (90, 7826), (122, 7827), (65, 7840), (97, 7841),
    (69, 7864), (101, 7865), (73, 7882), (105, 7883), (79, 7884), (111, 7885), (416, 7906),
    (417, 7907), (85, 7908), (117, 7909), (431, 7920), (432, 7921), (89, 7924), (121, 7925)]),
  (804, [
    (85, 7794), (117, 7795)]),
  (805, [
    (65, 7680), (97, 7681)]),
  (806, [
    (83, 536), (115, 537), (84, 538), (116, 539)]),
  (807, [
    (67, 199), (99, 231), (71, 290), (103, 291), (75, 310), (107, 311), (76, 315), (108, 316),
    (78, 325), (110, 326), (82, 342), (114, 343), (83, 350), (115, 351), (84, 354), (116, 355),
    (69, 552), (101, 553), (68, 7696), (100, 7697), (72, 7720), (104, 7721)]),
  (808, [
    (65, 260), (97, 261), (69, 280), (101, 281), (73, 302), (105, 303), (85, 370), (117, 371),
    (79, 490), (111, 491)]),
  (813, [
    (68, 7698), (100, 7699), (69, 7704), (101, 7705), (76, 7740), (108, 7741), (78, 7754),
    (110, 7755), (84, 7792), (116, 7793), (85, 7798), (117, 7799)]),
  (814, [
    (72, 7722), (104, 7723)]),
  (816, [
    (69, 7706), (101, 7707), (73, 7724), (105, 7725), (85, 7796), (117, 7797)]),
  (817, [
    (66, 7686), (98, 7687), (68, 7694), (100, 7695), (75, 7732), (107, 7733), (76, 7738),
    (108, 7739), (78, 7752), (110, 7753), (82, 7774), (114, 7775), (84, 7790), (116, 7791),
    (90, 7828), (122, 7829), (104, 7830)]),
  (824, [
    (8592, 8602), (8594, 8603), (8596, 8622), (8656, 8653), (8660, 8654), (8658, 8655),
    (8707, 8708), (8712, 8713), (8715, 8716), (8739, 8740), (8741, 8742), (8764, 8769),
    (8771, 8772), (8773, 8775), (8776, 8777), (61, 8800), (8801, 8802), (8781, 8813), (60, 8814),
    (62, 8815), (8804, 8816), (8805, 8817), (8818, 8820), (8819, 8821), (8822, 8824), (8823, 8825),
    (8826, 8832), (8827, 8833), (8834, 8836), (8835, 8837), (8838, 8840), (8839, 8841),
    (8866, 8876), (8872, 8877), (8873, 8878), (8875, 8879), (8828, 8928), (8829, 8929),
    (8849, 8930), (8850, 8931), (8882, 8938), (8883, 8939), (8884, 8940), (8885, 8941)]),
  (834, [
    (7936, 7942), (7937, 7943), (7944, 7950), (7945, 7951), (7968, 7974), (7969, 7975),
    (7976, 7982), (7977, 7983), (7984, 7990), (7985, 7991), (7992, 7998), (7993, 7999),
    (8016, 8022), (8017, 8023), (8025, 8031), (8032, 8038), (8033, 8039), (8040, 8046),
    (8041, 8047), (945, 8118), (168, 8129), (951, 8134), (8127, 8143), (953, 8150), (970, 8151),
    (8190, 8159), (965, 8166), (971, 8167), (969, 8182)]),
  (837, [
    (7936, 8064), (7937, 8065), (7938, 8066), (7939, 8067), (7940, 8068), (7941, 8069),
    (7942, 8070), (7943, 8071), (7944, 8072), (7945, 8073), (7946, 8074), (7947, 8075),
    (7948, 8076), (7949, 8077), (7950, 8078), (7951, 8079), (7968, 8080), (7969, 8081),
    (7970, 8082), (7971, 8083), (7972, 8084), (7973, 8085), (7974, 8086), (7975, 8087),
    (7976, 8088), (7977, 8089), (7978, 8090), (7979, 8091), (7980, 8092), (7981, 8093),
    (7982, 8094), (7983, 8095), (8032, 8096), (8033, 8097), (8034, 8098), (8035, 8099),
    (8036, 8100), (8037, 8101), (8038, 8102), (8039, 8103), (8040, 8104), (8041, 8105),
    (8042, 8106), (8043, 8107), (8044, 8108), (8045, 8109), (8046, 8110), (8047, 8111),
    (8048, 8114), (945, 8115), (940, 8116), (8118, 8119), (913, 8124), (8052, 8130), (951, 8131),
    (942, 8132), (8134, 8135), (919, 8140), (8060, 8178), (969, 8179), (974, 8180), (8182, 8183),
    (937, 8188)]),
  (1619, [
    (1575, 1570)]),
  (1620, [
    (1575, 1571), (1608, 1572), (1610, 1574), (1749, 1728), (1729, 1730), (1746, 1747)]),
  (1621, [
    (1575, 1573)]),
  (2364, [
    (2344, 2345), (2352, 2353), (2355, 2356)]),
  (2494, [
    (2503, 2507)]),
  (2519, [
    (2503, 2508)]),
  (2878, [
    (2887, 2891)]),
  (2902, [
    (2887, 2888)]),
  (2903, [
    (2887, 2892)]),
  (3006, [
    (3014, 3018), (3015, 3019)]),
  (3031, [
    (2962, 2964), (3014, 3020)]),
  (3158, [
    (3142, 3144)]),
  (3266, [
    (3270, 3274)]),
  (3285, [
    (3263, 3264), (3270, 3271), (3274, 3275)]),
  (3286, [
    (3270, 3272)]),
  (3390, [
    (3398, 3402), (3399, 3403)]),
  (3415, [
    (3398, 3404)]),
  (3530, [
    (3545, 3546), (3548, 3549)]),
  (3535, [
    (3545, 3548)]),
  (3551, [
    (3545, 3550)]),
  (4142, [
    (4133, 4134)]),
  (6965, [
    (6917, 6918), (6919, 6920), (6921, 6922), (6923, 6924), (6925, 6926), (6929, 6930),
    (6970, 6971), (6972, 6973), (6974, 6976), (6975, 6977), (6978, 6979)]),
  (12441, [
    (12363, 12364), (12365, 12366), (12367, 12368), (12369, 12370), (12371, 12372), (12373, 12374),
    (12375, 12376), (12377, 12378), (12379, 12380), (12381, 12382), (12383, 12384), (12385, 12386),
    (12388, 12389), (12390, 12391), (12392, 12393), (12399, 12400), (12402, 12403), (12405, 12406),
    (12408, 12409), (12411, 12412), (12358, 12436), (12445, 12446), (12459, 12460), (12461, 12462),
    (12463, 12464), (12465, 12466), (12467, 12468), (12469, 12470), (12471, 12472), (12473, 12474),
    (12475, 12476), (12477, 12478), (12479, 12480), (12481, 12482), (12484, 12485), (12486, 12487),
    (12488, 12489), (12495, 12496), (12498, 12499), (12501, 12502), (12504, 12505), (12507, 12508),
    (12454, 12532), (12527, 12535), (12528, 12536), (12529, 12537), (12530, 12538),
    (12541, 12542)]),
  (12442, [
    (12399, 12401), (12402, 12404), (12405, 12407), (12408, 12410), (12411, 12413), (12495, 12497),
    (12498, 12500), (12501, 12503), (12504, 12506), (12507, 12509)]),
  (69818, [
    (69785, 69786), (69787, 69788), (69797, 69803)]),
  (69927, [
    (69937, 69934), (69938, 69935)]),
  (70462, [
    (70471, 70475)]),
  (70487, [
    (70471, 70476)]),
  (70832, [
    (70841, 70844)]),
  (70842, [
    (70841, 70843)]),
  (70845, [
    (70841, 70846)]),
  (71087, [
    (71096, 71098), (71097, 71099)]),
  (71984, [
    (71989, 71992)])]

end Memberwise.Text
