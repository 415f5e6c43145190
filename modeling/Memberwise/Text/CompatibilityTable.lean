/-! # Compatibility data

Characters that stand for other characters in names: ligatures, letters of another width or
style, and the like, of version 14 of the character database.  Compatibility ideographs and the
contextual forms of Arabic letters are not listed.  A run is `(first, last, step, shift)`.
-/

namespace Memberwise.Text

/-- Runs among the letters of alphabets. -/
def alphabetRuns : List (Nat × Nat × Nat × Int) := [
  (170, 170, 1, -73), (181, 181, 1, 775), (186, 186, 1, -75), (383, 383, 1, -268),
  (688, 688, 1, -584), (689, 689, 1, -75), (690, 690, 1, -584), (691, 691, 1, -577),
  (692, 692, 1, -59), (693, 693, 1, -58), (694, 694, 1, -53), (695, 695, 1, -576),
  (696, 696, 1, -575), (736, 736, 1, -125), (737, 737, 1, -629), (738, 738, 1, -623),
  (739, 739, 1, -619), (740, 740, 1, -79), (832, 833, 1, -64), (835, 835, 1, -48),
  (884, 884, 1, -187), (903, 903, 1, -720), (976, 976, 1, -30), (977, 977, 1, -25),
  (978, 978, 1, -45), (979, 979, 1, -69), (980, 980, 1, -41), (981, 981, 1, -15),
  (982, 982, 1, -22), (1008, 1008, 1, -54), (1009, 1010, 1, -48), (1012, 1012, 1, -92),
  (1013, 1013, 1, -64), (1017, 1017, 1, -86), (4348, 4348, 1, -32)]

/-- Runs among modifier and accented letters. -/
def modifierRuns : List (Nat × Nat × Nat × Int) := [
  (7468, 7468, 1, -7403), (7469, 7469, 1, -7271), (7470, 7472, 2, -7404), (7473, 7473, 1, -7404),
  (7474, 7474, 1, -7076), (7475, 7482, 1, -7404), (7484, 7484, 1, -7405), (7485, 7485, 1, -6939),
  (7486, 7486, 1, -7406), (7487, 7487, 1, -7405), (7488, 7489, 1, -7404), (7490, 7490, 1, -7403),
  (7491, 7491, 1, -7394), (7492, 7493, 1, -6900), (7494, 7494, 1, -68), (7495, 7495, 1, -7397),
  (7496, 7497, 1, -7396), (7498, 7498, 1, -6897), (7499, 7500, 1, -6896), (7501, 7501, 1, -7398),
  (7503, 7503, 1, -7396), (7504, 7504, 1, -7395), (7505, 7505, 1, -7174), (7506, 7506, 1, -7395),
  (7507, 7507, 1, -6911), (7508, 7509, 1, -62), (7510, 7510, 1, -7398), (7511, 7512, 1, -7395),
  (7513, 7513, 1, -60), (7514, 7514, 1, -6891), (7515, 7515, 1, -7397), (7516, 7516, 1, -55),
  (7517, 7519, 1, -6571), (7520, 7521, 1, -6554), (7522, 7522, 1, -7417), (7523, 7523, 1, -7409),
  (7524, 7525, 1, -7407), (7526, 7527, 1, -6580), (7528, 7528, 1, -6567), (7529, 7530, 1, -6563),
  (7544, 7544, 1, -6459), (7579, 7579, 1, -6985), (7580, 7580, 1, -7481), (7581, 7581, 1, -6984),
  (7582, 7582, 1, -7342), (7583, 7583, 1, -6979), (7584, 7584, 1, -7482), (7585, 7585, 1, -6978),
  (7586, 7586, 1, -6977), (7587, 7587, 1, -6974), (7588, 7590, 1, -6972), (7591, 7591, 1, -44),
  (7592, 7592, 1, -6923), (7593, 7593, 1, -6972), (7594, 7594, 1, -37), (7595, 7595, 1, -6924),
  (7596, 7596, 1, -6971), (7597, 7597, 1, -6973), (7598, 7601, 1, -6972), (7602, 7602, 1, -6970),
  (7603, 7604, 1, -6961), (7605, 7605, 1, -7178), (7606, 7607, 1, -6957), (7608, 7608, 1, -156),
  (7609, 7610, 1, -6958), (7611, 7611, 1, -7489), (7612, 7614, 1, -6956), (7615, 7615, 1, -6663),
  (7835, 7835, 1, -58), (8049, 8049, 1, -7109), (8051, 8051, 1, -7110), (8053, 8053, 1, -7111),
  (8055, 8055, 1, -7112), (8057, 8057, 1, -7085), (8059, 8059, 1, -7086), (8061, 8061, 1, -7087),
  (8123, 8123, 1, -7221), (8126, 8126, 1, -7173), (8137, 8137, 1, -7233), (8139, 8139, 1, -7234),
  (8147, 8147, 1, -7235), (8155, 8155, 1, -7249), (8163, 8163, 1, -7219), (8171, 8171, 1, -7261),
  (8185, 8185, 1, -7277), (8187, 8187, 1, -7276)]

/-- Runs among letterlike signs and forms of another width. -/
def widthRuns : List (Nat × Nat × Nat × Int) := [
  (8305, 8305, 1, -8200), (8319, 8319, 1, -8209), (8336, 8336, 1, -8239), (8337, 8337, 1, -8236),
  (8338, 8338, 1, -8227), (8339, 8339, 1, -8219), (8340, 8340, 1, -7739), (8341, 8341, 1, -8237),
  (8342, 8345, 1, -8235), (8346, 8346, 1, -8234), (8347, 8348, 1, -8232), (8450, 8450, 1, -8383),
  (8455, 8455, 1, -8055), (8458, 8458, 1, -8355), (8459, 8459, 1, -8387), (8460, 8460, 1, -8388),
  (8461, 8461, 1, -8389), (8462, 8462, 1, -8358), (8463, 8463, 1, -8168), (8464, 8464, 1, -8391),
  (8465, 8465, 1, -8392), (8466, 8466, 1, -8390), (8467, 8467, 1, -8359), (8469, 8469, 1, -8391),
  (8473, 8475, 1, -8393), (8476, 8476, 1, -8394), (8477, 8477, 1, -8395), (8484, 8484, 1, -8394),
  (8486, 8486, 1, -7549), (8488, 8488, 1, -8398), (8490, 8490, 1, -8415), (8491, 8491, 1, -8294),
  (8492, 8493, 1, -8426), (8495, 8495, 1, -8394), (8496, 8497, 1, -8427), (8499, 8499, 1, -8422),
  (8500, 8500, 1, -8389), (8501, 8504, 1, -7013), (8505, 8505, 1, -8400), (8508, 8508, 1, -7548),
  (8509, 8509, 1, -7562), (8510, 8510, 1, -7595), (8511, 8511, 1, -7583), (8517, 8517, 1, -8449),
  (8518, 8519, 1, -8418), (8520, 8521, 1, -8415), (8544, 8544, 1, -8471), (8548, 8548, 1, -8462),
  (8553, 8553, 1, -8465), (8556, 8556, 1, -8480), (8557, 8558, 1, -8490), (8559, 8559, 1, -8482),
  (8560, 8560, 1, -8455), (8564, 8564, 1, -8446), (8569, 8569, 1, -8449), (8572, 8572, 1, -8464),
  (8573, 8574, 1, -8474), (8575, 8575, 1, -8466), (11388, 11388, 1, -11282),
  (11389, 11389, 1, -11303), (11631, 11631, 1, -14), (12344, 12344, 1, 8969),
  (12345, 12346, 1, 8971), (42652, 42652, 1, -41554), (42653, 42653, 1, -41553),
  (42864, 42864, 1, -1), (42994, 42994, 1, -42927), (42995, 42995, 1, -42925),
  (42996, 42996, 1, -42915), (43000, 43000, 1, -42706), (43001, 43001, 1, -42662),
  (43868, 43868, 1, -1077), (43869, 43869, 1, -38), (43870, 43870, 1, -43251),
  (43871, 43871, 1, -13), (43881, 43881, 1, -43228), (64288, 64288, 1, -62782),
  (64289, 64289, 1, -62801), (64290, 64291, 1, -62799), (64292, 64294, 1, -62793),
  (64295, 64295, 1, -62783), (64296, 64296, 1, -62782), (65075, 65075, 1, -64980),
  (65076, 65076, 1, -64981), (65101, 65101, 1, -65006), (65102, 65102, 1, -65007),
  (65103, 65103, 1, -65008), (65296, 65305, 1, -65248), (65313, 65338, 1, -65248),
  (65343, 65345, 2, -65248), (65346, 65370, 1, -65248), (65382, 65382, 1, -52852),
  (65383, 65383, 1, -52934), (65384, 65384, 1, -52933), (65385, 65385, 1, -52932),
  (65386, 65386, 1, -52931), (65387, 65387, 1, -52930), (65388, 65388, 1, -52873),
  (65389, 65389, 1, -52872), (65390, 65390, 1, -52871), (65391, 65391, 1, -52908),
  (65392, 65392, 1, -52852), (65393, 65393, 1, -52943), (65394, 65394, 1, -52942),
  (65395, 65395, 1, -52941), (65396, 65396, 1, -52940), (65397, 65398, 1, -52939),
  (65399, 65399, 1, -52938), (65400, 65400, 1, -52937), (65401, 65401, 1, -52936),
  (65402, 65402, 1, -52935), (65403, 65403, 1, -52934), (65404, 65404, 1, -52933),
  (65405, 65405, 1, -52932), (65406, 65406, 1, -52931), (65407, 65407, 1, -52930),
  (65408, 65408, 1, -52929), (65409, 65409, 1, -52928), (65410, 65410, 1, -52926),
  (65411, 65411, 1, -52925), (65412, 65412, 1, -52924), (65413, 65418, 1, -52923),
  (65419, 65419, 1, -52921), (65420, 65420, 1, -52919), (65421, 65421, 1, -52917),
  (65422, 65422, 1, -52915), (65423, 65427, 1, -52913), (65428, 65428, 1, -52912),
  (65429, 65429, 1, -52911), (65430, 65435, 1, -52910), (65436, 65436, 1, -52909),
  (65437, 65437, 1, -52906), (65438, 65439, 1, -52997), (65440, 65440, 1, -60992),
  (65441, 65442, 1, -61089), (65443, 65443, 1, -60921), (65444, 65444, 1, -61090),
  (65445, 65446, 1, -60921), (65447, 65449, 1, -61092), (65450, 65455, 1, -60922),
  (65456, 65456, 1, -61078), (65457, 65459, 1, -61099), (65460, 65460, 1, -61075),
  (65461, 65470, 1, -61100), (65474, 65479, 1, -61025), (65482, 65487, 1, -61027),
  (65490, 65495, 1, -61029), (65498, 65500, 1, -61031)]

/-- Runs among modifier letters and styled letters of the upper planes. -/
def scriptRuns : List (Nat × Nat × Nat × Int) := [
  (67457, 67458, 1, -66737), (67459, 67459, 1, -67229), (67460, 67460, 1, -66795),
  (67461, 67461, 1, -66866), (67463, 67463, 1, -66788), (67464, 67464, 1, -23586),
  (67465, 67465, 1, -66788), (67466, 67466, 1, -66790), (67467, 67468, 1, -66869),
  (67469, 67469, 1, -59900), (67470, 67470, 1, -66870), (67471, 67471, 1, -66865),
  (67472, 67472, 1, -66791), (67473, 67473, 1, -66861), (67474, 67474, 1, -66864),
  (67475, 67475, 1, -66867), (67476, 67476, 1, -66809), (67477, 67477, 1, -67182),
  (67478, 67478, 1, -66810), (67479, 67479, 1, -66864), (67480, 67480, 1, -66836),
  (67481, 67482, 1, -66799), (67483, 67483, 1, -66863), (67484, 67484, 1, 55144),
  (67485, 67485, 1, -24591), (67486, 67486, 1, -66864), (67487, 67487, 1, 55142),
  (67488, 67488, 1, -66834), (67489, 67489, 1, 55141), (67490, 67490, 1, -67242),
  (67491, 67492, 1, -66861), (67493, 67493, 1, -67380), (67494, 67494, 1, -66860),
  (67495, 67495, 1, 55137), (67496, 67497, 1, -66859), (67498, 67498, 1, -66858),
  (67499, 67499, 1, -66819), (67500, 67500, 1, -66822), (67501, 67501, 1, -23622),
  (67502, 67502, 1, -66823), (67503, 67503, 1, -66855), (67504, 67504, 1, -56127),
  (67506, 67506, 1, -66851), (67507, 67508, 1, -66834), (67509, 67509, 1, -66845),
  (67510, 67512, 1, -67062), (67513, 67513, 1, 55121), (67514, 67514, 1, 55140),
  (119808, 119833, 1, -119743), (119834, 119859, 1, -119737), (119860, 119885, 1, -119795),
  (119886, 119892, 1, -119789), (119894, 119911, 1, -119789), (119912, 119937, 1, -119847),
  (119938, 119963, 1, -119841), (119964, 119966, 2, -119899), (119967, 119967, 1, -119899),
  (119970, 119970, 1, -119899), (119973, 119974, 1, -119899), (119977, 119980, 1, -119899),
  (119982, 119989, 1, -119899), (119990, 119993, 1, -119893), (119995, 119997, 2, -119893),
  (119998, 120003, 1, -119893), (120005, 120015, 1, -119893), (120016, 120041, 1, -119951),
  (120042, 120067, 1, -119945)]

/-- Runs among styled letters and digits. -/
def styledRuns : List (Nat × Nat × Nat × Int) := [
  (120068, 120069, 1, -120003), (120071, 120074, 1, -120003), (120077, 120084, 1, -120003),
  (120086, 120092, 1, -120003), (120094, 120119, 1, -119997), (120120, 120121, 1, -120055),
  (120123, 120126, 1, -120055), (120128, 120132, 1, -120055), (120134, 120134, 1, -120055),
  (120138, 120144, 1, -120055), (120146, 120171, 1, -120049), (120172, 120197, 1, -120107),
  (120198, 120223, 1, -120101), (120224, 120249, 1, -120159), (120250, 120275, 1, -120153),
  (120276, 120301, 1, -120211), (120302, 120327, 1, -120205), (120328, 120353, 1, -120263),
  (120354, 120379, 1, -120257), (120380, 120405, 1, -120315), (120406, 120431, 1, -120309),
  (120432, 120457, 1, -120367), (120458, 120483, 1, -120361), (120484, 120484, 1, -120179),
  (120485, 120485, 1, -119918), (120488, 120504, 1, -119575), (120505, 120505, 1, -119585),
  (120506, 120512, 1, -119575), (120514, 120538, 1, -119569), (120540, 120540, 1, -119591),
  (120541, 120541, 1, -119589), (120542, 120542, 1, -119588), (120543, 120543, 1, -119577),
  (120544, 120544, 1, -119583), (120545, 120545, 1, -119585), (120546, 120562, 1, -119633),
  (120563, 120563, 1, -119643), (120564, 120570, 1, -119633), (120572, 120596, 1, -119627),
  (120598, 120598, 1, -119649), (120599, 120599, 1, -119647), (120600, 120600, 1, -119646),
  (120601, 120601, 1, -119635), (120602, 120602, 1, -119641), (120603, 120603, 1, -119643),
  (120604, 120620, 1, -119691), (120621, 120621, 1, -119701), (120622, 120628, 1, -119691),
  (120630, 120654, 1, -119685), (120656, 120656, 1, -119707), (120657, 120657, 1, -119705),
  (120658, 120658, 1, -119704), (120659, 120659, 1, -119693), (120660, 120660, 1, -119699),
  (120661, 120661, 1, -119701), (120662, 120678, 1, -119749), (120679, 120679, 1, -119759),
  (120680, 120686, 1, -119749), (120688, 120712, 1, -119743), (120714, 120714, 1, -119765),
  (120715, 120715, 1, -119763), (120716, 120716, 1, -119762), (120717, 120717, 1, -119751),
  (120718, 120718, 1, -119757), (120719, 120719, 1, -119759), (120720, 120736, 1, -119807),
  (120737, 120737, 1, -119817), (120738, 120744, 1, -119807), (120746, 120770, 1, -119801),
  (120772, 120772, 1, -119823), (120773, 120773, 1, -119821), (120774, 120774, 1, -119820),
  (120775, 120775, 1, -119809), (120776, 120776, 1, -119815), (120777, 120777, 1, -119817),
  (120778, 120779, 1, -119790), (120782, 120791, 1, -120734), (120792, 120801, 1, -120744),
  (120802, 120811, 1, -120754), (120812, 120821, 1, -120764), (120822, 120831, 1, -120774),
  (130032, 130041, 1, -129984)]

/-- Runs of characters that stand for one other character. -/
def compatibilityRuns : List (Nat × Nat × Nat × Int) :=
  alphabetRuns ++ modifierRuns ++ widthRuns ++ scriptRuns ++ styledRuns

/-- Characters that stand for several. -/
def compatibilityExpansions : List (Nat × List Nat) := [
  (306, [73, 74]), (307, [105, 106]), (319, [76, 183]), (320, [108, 183]), (329, [700, 110]),
  (452, [68, 381]), (453, [68, 382]), (454, [100, 382]), (455, [76, 74]), (456, [76, 106]),
  (457, [108, 106]), (458, [78, 74]), (459, [78, 106]), (460, [110, 106]), (497, [68, 90]),
  (498, [68, 122]), (499, [100, 122]), (836, [776, 769]), (1415, [1381, 1410]),
  (1653, [1575, 1652]), (1654, [1608, 1652]), (1655, [1735, 1652]), (1656, [1610, 1652]),
  (2392, [2325, 2364]), (2393, [2326, 2364]), (2394, [2327, 2364]), (2395, [2332, 2364]),
  (2396, [2337, 2364]), (2397, [2338, 2364]), (2398, [2347, 2364]), (2399, [2351, 2364]),
  (2524, [2465, 2492]), (2525, [2466, 2492]), (2527, [2479, 2492]), (2611, [2610, 2620]),
  (2614, [2616, 2620]), (2649, [2582, 2620]), (2650, [2583, 2620]), (2651, [2588, 2620]),
  (2654, [2603, 2620]), (2908, [2849, 2876]), (2909, [2850, 2876]), (3635, [3661, 3634]),
  (3763, [3789, 3762]), (3804, [3755, 3737]), (3805, [3755, 3745]), (3907, [3906, 4023]),
  (3917, [3916, 4023]), (3922, [3921, 4023]), (3927, [3926, 4023]), (3932, [3931, 4023]),
  (3945, [3904, 4021]), (3955, [3953, 3954]), (3957, [3953, 3956]), (3958, [4018, 3968]),
  (3959, [4018, 3953, 3968]), (3960, [4019, 3968]), (3961, [4019, 3953, 3968]),
  (3969, [3953, 3968]), (3987, [3986, 4023]), (3997, [3996, 4023]), (4002, [4001, 4023]),
  (4007, [4006, 4023]), (4012, [4011, 4023]), (4025, [3984, 4021]), (7834, [97, 702]),
  (8545, [73, 73]), (8546, [73, 73, 73]), (8547, [73, 86]), (8549, [86, 73]), (8550, [86, 73, 73]),
  (8551, [86, 73, 73, 73]), (8552, [73, 88]), (8554, [88, 73]), (8555, [88, 73, 73]),
  (8561, [105, 105]), (8562, [105, 105, 105]), (8563, [105, 118]), (8565, [118, 105]),
  (8566, [118, 105, 105]), (8567, [118, 105, 105, 105]), (8568, [105, 120]), (8570, [120, 105]),
  (8571, [120, 105, 105]), (12447, [12424, 12426]), (12543, [12467, 12488]), (64256, [102, 102]),
  (64257, [102, 105]), (64258, [102, 108]), (64259, [102, 102, 105]), (64260, [102, 102, 108]),
  (64261, [115, 116]), (64262, [115, 116]), (64275, [1396, 1398]), (64276, [1396, 1381]),
  (64277, [1396, 1387]), (64278, [1406, 1398]), (64279, [1396, 1389]), (64285, [1497, 1460]),
  (64287, [1522, 1463]), (64298, [1513, 1473]), (64299, [1513, 1474]), (64300, [1513, 1468, 1473]),
  (64301, [1513, 1468, 1474]), (64302, [1488, 1463]), (64303, [1488, 1464]), (64304, [1488, 1468]),
  (64305, [1489, 1468]), (64306, [1490, 1468]), (64307, [1491, 1468]), (64308, [1492, 1468]),
  (64309, [1493, 1468]), (64310, [1494, 1468]), (64312, [1496, 1468]), (64313, [1497, 1468]),
  (64314, [1498, 1468]), (64315, [1499, 1468]), (64316, [1500, 1468]), (64318, [1502, 1468]),
  (64320, [1504, 1468]), (64321, [1505, 1468]), (64323, [1507, 1468]), (64324, [1508, 1468]),
  (64326, [1510, 1468]), (64327, [1511, 1468]), (64328, [1512, 1468]), (64329, [1513, 1468]),
  (64330, [1514, 1468]), (64331, [1493, 1465]), (64332, [1489, 1471]), (64333, [1499, 1471]),
  (64334, [1508, 1471]), (64335, [1488, 1500])]

end Memberwise.Text
