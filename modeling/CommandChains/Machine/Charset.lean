import CommandChains.Machine.Octets

/-!
# Tables of codes

What the characters of codes stand for, and what looks like them.
-/

namespace CommandChains.Machine

/-!
## Characters that look alike

What can be written in the place of a character that a code does not have.
-/

namespace Charset

/-- Characters by their codes, each with a text that may stand for it. -/
def likenesses : List (Nat × String) :=
  [(160, " "), (169, "(C)"), (171, "<<"), (173, "-"), (174, "(R)"), (181, "u"), (184, ","),
    (187, ">>"), (188, " 1/4 "), (189, " 1/2 "), (190, " 3/4 "), (198, "AE"), (215, "x"),
    (223, "ss"), (230, "ae"), (306, "IJ"), (307, "ij"), (329, "\x27n"), (338, "OE"), (339, "oe"),
    (383, "s"), (455, "LJ"), (456, "Lj"), (457, "lj"), (458, "NJ"), (459, "Nj"), (460, "nj"),
    (497, "DZ"), (498, "Dz"), (499, "dz"), (700, "\x27"), (710, "^"), (712, "\x27"),
    (715, "\x60"), (717, "_"), (720, ":"), (732, "~"), (880, "H"), (881, "h"), (882, "SS"),
    (883, "ss"), (884, "#"), (885, "#\x60"), (886, "W"), (887, "w"), (890, "i"), (891, "s"),
    (892, "s"), (893, "s"), (895, "J"), (900, "\x60"), (901, "\x60"), (902, "A"), (903, ";"),
    (904, "E"), (905, "I"), (906, "I"), (908, "O"), (910, "Y"), (911, "O"), (912, "I"),
    (913, "A"), (914, "V"), (915, "G"), (916, "D"), (917, "E"), (918, "Z"), (919, "I"),
    (920, "TH"), (921, "I"), (922, "K"), (923, "L"), (924, "M"), (925, "N"), (926, "X"),
    (927, "O"), (928, "P"), (929, "R"), (931, "S"), (932, "T"), (933, "Y"), (934, "F"),
    (935, "CH"), (936, "PS"), (937, "O"), (938, "I"), (939, "Y"), (940, "a"), (941, "e"),
    (942, "i"), (943, "i"), (944, "y"), (945, "a"), (946, "v"), (947, "g"), (948, "d"),
    (949, "e"), (950, "z"), (951, "i"), (952, "th"), (953, "i"), (954, "k"), (955, "l"),
    (956, "m"), (957, "n"), (958, "x"), (959, "o"), (960, "p"), (961, "r"), (962, "s"),
    (963, "s"), (964, "t"), (965, "y"), (966, "f"), (967, "ch"), (968, "ps"), (969, "o"),
    (970, "i"), (971, "y"), (972, "o"), (973, "y"), (974, "o"), (975, "&"), (976, "b"),
    (977, "th"), (978, "Y\x60"), (979, "Y\x60"), (980, "Y\x60"), (981, "f"), (982, "p"),
    (983, "&"), (984, "Q"), (985, "q"), (986, "6"), (987, "6"), (988, "W"), (989, "w"),
    (990, "90"), (991, "90"), (992, "900"), (993, "900"), (994, "SH"), (995, "sh"), (996, "F"),
    (997, "f"), (998, "KH"), (999, "kh"), (1000, "H"), (1001, "h"), (1002, "DJ"), (1003, "dj"),
    (1004, "GJ"), (1005, "gj"), (1006, "TI"), (1007, "ti"), (1008, "k"), (1009, "r"),
    (1010, "s"), (1011, "j"), (1012, "TH"), (1013, "e"), (1014, "e"), (1015, "SH"), (1016, "sh"),
    (1017, "S"), (1018, "S"), (1019, "s"), (1020, "r"), (1021, "S"), (1022, "S"), (1023, "S"),
    (1025, "YO"), (1026, "DJ"), (1027, "G\x60"), (1028, "YE"), (1029, "Z\x60"), (1030, "I"),
    (1031, "YI"), (1032, "J"), (1033, "L\x60"), (1034, "N\x60"), (1035, "TSH"), (1036, "K\x60"),
    (1038, "U\x60"), (1039, "DH"), (1040, "A"), (1041, "B"), (1042, "V"), (1043, "G"),
    (1044, "D"), (1045, "E"), (1046, "ZH"), (1047, "Z"), (1048, "I"), (1049, "J"), (1050, "K"),
    (1051, "L"), (1052, "M"), (1053, "N"), (1054, "O"), (1055, "P"), (1056, "R"), (1057, "S"),
    (1058, "T"), (1059, "U"), (1060, "F"), (1061, "X"), (1062, "CZ"), (1063, "CH"), (1064, "SH"),
    (1065, "SHH"), (1066, "A\x60"), (1067, "Y\x60"), (1068, "\x60"), (1069, "E\x60"),
    (1070, "YU"), (1071, "YA"), (1072, "a"), (1073, "b"), (1074, "v"), (1075, "g"), (1076, "d"),
    (1077, "e"), (1078, "zh"), (1079, "z"), (1080, "i"), (1081, "j"), (1082, "k"), (1083, "l"),
    (1084, "m"), (1085, "n"), (1086, "o"), (1087, "p"), (1088, "r"), (1089, "s"), (1090, "t"),
    (1091, "u"), (1092, "f"), (1093, "x"), (1094, "cz"), (1095, "ch"), (1096, "sh"),
    (1097, "shh"), (1098, "\x60\x60"), (1099, "y\x60"), (1100, "\x60"), (1101, "e\x60"),
    (1102, "yu"), (1103, "ya"), (1105, "yo"), (1106, "dj"), (1107, "g\x60"), (1108, "ye"),
    (1109, "z\x60"), (1110, "i"), (1111, "yi"), (1112, "j"), (1113, "l\x60"), (1114, "n\x60"),
    (1115, "tsh"), (1116, "k\x60"), (1118, "u\x60"), (1119, "dh"), (1130, "O\x60"),
    (1131, "o\x60"), (1138, "FH"), (1139, "fh"), (1140, "YH"), (1141, "yh"), (1164, "E\x60"),
    (1165, "e\x60"), (1168, "G\x60"), (1169, "g\x60"), (1170, "GH"), (1171, "gh"), (1172, "GH"),
    (1173, "gh"), (1174, "ZH\x60"), (1175, "zh\x60"), (1178, "K\x60"), (1179, "k\x60"),
    (1182, "K\x60"), (1183, "k\x60"), (1186, "N\x60"), (1187, "n\x60"), (1188, "NG"),
    (1189, "ng"), (1190, "P\x60"), (1191, "p\x60"), (1192, "O\x60"), (1193, "o\x60"),
    (1194, "C\x60"), (1195, "C\x60"), (1196, "T\x60"), (1197, "t\x60"), (1198, "U"), (1199, "u"),
    (1202, "H\x60"), (1203, "h\x60"), (1204, "TCZ"), (1205, "tcz"), (1210, "SH\x60"),
    (1211, "sh\x60"), (1212, "CH\x60"), (1213, "ch\x60"), (1214, "CH\x60"), (1215, "ch\x60"),
    (1216, "i"), (1217, "ZH\x60"), (1218, "zh\x60"), (1227, "CH\x60"), (1228, "ch\x60"),
    (1232, "A\x60"), (1233, "a\x60"), (1234, "A\x60"), (1235, "a\x60"), (1238, "E\x60"),
    (1239, "e\x60"), (1240, "A\x60"), (1241, "a\x60"), (1244, "ZH\x60"), (1245, "zh\x60"),
    (1246, "Z\x60"), (1247, "z\x60"), (1248, "Z\x60"), (1249, "z\x60"), (1252, "I\x60"),
    (1253, "i\x60"), (1254, "O\x60"), (1255, "o\x60"), (1256, "O\x60"), (1257, "o\x60"),
    (1264, "U\x60"), (1265, "u\x60"), (1266, "U\x60"), (1267, "u\x60"), (1268, "CH\x60"),
    (1269, "ch\x60"), (1272, "Y\x60"), (1273, "y\x60"), (1523, "\x27"), (1524, "\""),
    (8194, " "), (8195, " "), (8196, " "), (8197, " "), (8198, " "), (8200, " "), (8201, " "),
    (8202, " "), (8203, ""), (8208, "-"), (8209, "-"), (8210, "-"), (8211, "-"), (8212, "--"),
    (8213, "-"), (8216, "\x27"), (8217, "\x27"), (8218, ","), (8219, "\x27"), (8220, "\""),
    (8221, "\""), (8222, ",,"), (8223, "\""), (8224, "+"), (8226, "o"), (8228, "."),
    (8229, ".."), (8230, "..."), (8239, " "), (8245, "\x60"), (8246, "\x60\x60"),
    (8247, "\x60\x60\x60"), (8249, "<"), (8250, ">"), (8252, "!!"), (8260, "/"), (8263, "??"),
    (8264, "?!"), (8265, "!?"), (8287, " "), (8288, ""), (8289, ""), (8290, ""), (8291, ""),
    (8353, "C="), (8360, "Rs"), (8364, "EUR"), (8377, "INR"), (8448, "a/c"), (8449, "a/s"),
    (8450, "C"), (8453, "c/o"), (8454, "c/u"), (8458, "g"), (8459, "H"), (8460, "H"),
    (8461, "H"), (8462, "h"), (8464, "I"), (8465, "I"), (8466, "L"), (8467, "l"), (8469, "N"),
    (8470, "No"), (8473, "P"), (8474, "Q"), (8475, "R"), (8476, "R"), (8477, "R"), (8481, "TEL"),
    (8482, "(TM)"), (8484, "Z"), (8486, "Ohm"), (8488, "Z"), (8492, "B"), (8493, "C"),
    (8494, "e"), (8495, "e"), (8496, "E"), (8497, "F"), (8499, "M"), (8500, "o"), (8505, "i"),
    (8517, "D"), (8518, "d"), (8519, "e"), (8520, "i"), (8521, "j"), (8531, " 1/3 "),
    (8532, " 2/3 "), (8533, " 1/5 "), (8534, " 2/5 "), (8535, " 3/5 "), (8536, " 4/5 "),
    (8537, " 1/6 "), (8538, " 5/6 "), (8539, " 1/8 "), (8540, " 3/8 "), (8541, " 5/8 "),
    (8542, " 7/8 "), (8543, " 1/"), (8544, "I"), (8545, "II"), (8546, "III"), (8547, "IV"),
    (8548, "V"), (8549, "VI"), (8550, "VII"), (8551, "VIII"), (8552, "IX"), (8553, "X"),
    (8554, "XI"), (8555, "XII"), (8556, "L"), (8557, "C"), (8558, "D"), (8559, "M"), (8560, "i"),
    (8561, "ii"), (8562, "iii"), (8563, "iv"), (8564, "v"), (8565, "vi"), (8566, "vii"),
    (8567, "viii"), (8568, "ix"), (8569, "x"), (8570, "xi"), (8571, "xii"), (8572, "l"),
    (8573, "c"), (8574, "d"), (8575, "m"), (8592, "<-"), (8594, "->"), (8596, "<->"),
    (8656, "<="), (8658, "=>"), (8660, "<=>"), (8722, "-"), (8725, "/"), (8726, "\\"),
    (8727, "*"), (8739, "|"), (8758, ":"), (8764, "~"), (8804, "<="), (8805, ">="), (8810, "<<"),
    (8811, ">>"), (8920, "<<<"), (8921, ">>>"), (9472, "-"), (9474, "|"), (9484, "+"),
    (9488, "+"), (9492, "+"), (9496, "+"), (9500, "+"), (9508, "+"), (9516, "+"), (9524, "+"),
    (9532, "+"), (9702, "o"), (12288, " "), (64256, "ff"), (64257, "fi"), (64258, "fl"),
    (64259, "ffi"), (64260, "ffl"), (64262, "st")]

/-- What may stand in the place of a character. Wide forms of characters are like the usual
ones. -/
def likeness? (code : Nat) : Option String :=
  match likenesses.lookup code with
  | some text => some text
  | none =>
    if 65281 ≤ code ∧ code ≤ 65374 then some (toString (Char.ofNat (code - 65248))) else none

end Charset

/-!
## Codes of one byte

In the codes of one byte the first half are the characters of ASCII. What the second half
stands for is written here, four digits of base 16 for each byte in order; dashes stand where
nothing is.
-/

namespace Charset.Upper

def iso88592 : String := String.join
  ["0080008100820083008400850086008700880089008a008b008c008d008e008f0090009100920093",
    "009400950096009700980099009a009b009c009d009e009f00a0010402d8014100a4013d015a00a7",
    "00a80160015e0164017900ad017d017b00b0010502db014200b4013e015b02c700b80161015f0165",
    "017a02dd017e017c015400c100c2010200c40139010600c7010c00c9011800cb011a00cd00ce010e",
    "01100143014700d300d4015000d600d70158016e00da017000dc00dd016200df015500e100e20103",
    "00e4013a010700e7010d00e9011900eb011b00ed00ee010f01110144014800f300f4015100f600f7",
    "0159016f00fa017100fc00fd016302d9"]

def iso88595 : String := String.join
  ["0080008100820083008400850086008700880089008a008b008c008d008e008f0090009100920093",
    "009400950096009700980099009a009b009c009d009e009f00a00401040204030404040504060407",
    "04080409040a040b040c00ad040e040f0410041104120413041404150416041704180419041a041b",
    "041c041d041e041f0420042104220423042404250426042704280429042a042b042c042d042e042f",
    "0430043104320433043404350436043704380439043a043b043c043d043e043f0440044104420443",
    "044404450446044704480449044a044b044c044d044e044f21160451045204530454045504560457",
    "04580459045a045b045c00a7045e045f"]

def iso88597 : String := String.join
  ["0080008100820083008400850086008700880089008a008b008c008d008e008f0090009100920093",
    "009400950096009700980099009a009b009c009d009e009f00a02018201900a320ac20af00a600a7",
    "00a800a9037a00ab00ac00ad----201500b000b100b200b303840385038600b703880389038a00bb",
    "038c00bd038e038f0390039103920393039403950396039703980399039a039b039c039d039e039f",
    "03a003a1----03a303a403a503a603a703a803a903aa03ab03ac03ad03ae03af03b003b103b203b3",
    "03b403b503b603b703b803b903ba03bb03bc03bd03be03bf03c003c103c203c303c403c503c603c7",
    "03c803c903ca03cb03cc03cd03ce----"]

def iso88599 : String := String.join
  ["0080008100820083008400850086008700880089008a008b008c008d008e008f0090009100920093",
    "009400950096009700980099009a009b009c009d009e009f00a000a100a200a300a400a500a600a7",
    "00a800a900aa00ab00ac00ad00ae00af00b000b100b200b300b400b500b600b700b800b900ba00bb",
    "00bc00bd00be00bf00c000c100c200c300c400c500c600c700c800c900ca00cb00cc00cd00ce00cf",
    "011e00d100d200d300d400d500d600d700d800d900da00db00dc0130015e00df00e000e100e200e3",
    "00e400e500e600e700e800e900ea00eb00ec00ed00ee00ef011f00f100f200f300f400f500f600f7",
    "00f800f900fa00fb00fc0131015f00ff"]

/-- Letters of Western Europe with the sign of the euro. -/
def iso885915 : String := String.join
  ["0080008100820083008400850086008700880089008a008b008c008d008e008f0090009100920093",
    "009400950096009700980099009a009b009c009d009e009f00a000a100a200a320ac00a5016000a7",
    "016100a900aa00ab00ac00ad00ae00af00b000b100b200b3017d00b500b600b7017e00b900ba00bb",
    "01520153017800bf00c000c100c200c300c400c500c600c700c800c900ca00cb00cc00cd00ce00cf",
    "00d000d100d200d300d400d500d600d700d800d900da00db00dc00dd00de00df00e000e100e200e3",
    "00e400e500e600e700e800e900ea00eb00ec00ed00ee00ef00f000f100f200f300f400f500f600f7",
    "00f800f900fa00fb00fc00fd00fe00ff"]

def cp1250 : String := String.join
  ["20ac----201a----201e202620202021----203001602039015a0164017d0179----20182019201c",
    "201d202220132014----21220161203a015b0165017e017a00a002c702d8014100a4010400a600a7",
    "00a800a9015e00ab00ac00ad00ae017b00b000b102db014200b400b500b600b700b80105015f00bb",
    "013d02dd013e017c015400c100c2010200c40139010600c7010c00c9011800cb011a00cd00ce010e",
    "01100143014700d300d4015000d600d70158016e00da017000dc00dd016200df015500e100e20103",
    "00e4013a010700e7010d00e9011900eb011b00ed00ee010f01110144014800f300f4015100f600f7",
    "0159016f00fa017100fc00fd016302d9"]

def cp1251 : String := String.join
  ["04020403201a0453201e20262020202120ac203004092039040a040c040b040f045220182019201c",
    "201d202220132014----21220459203a045a045c045b045f00a0040e045e040800a4049000a600a7",
    "040100a9040400ab00ac00ad00ae040700b000b104060456049100b500b600b704512116045400bb",
    "04580405045504570410041104120413041404150416041704180419041a041b041c041d041e041f",
    "0420042104220423042404250426042704280429042a042b042c042d042e042f0430043104320433",
    "043404350436043704380439043a043b043c043d043e043f04400441044204430444044504460447",
    "04480449044a044b044c044d044e044f"]

def cp1252 : String := String.join
  ["20ac----201a0192201e20262020202102c62030016020390152----017d--------20182019201c",
    "201d20222013201402dc21220161203a0153----017e017800a000a100a200a300a400a500a600a7",
    "00a800a900aa00ab00ac00ad00ae00af00b000b100b200b300b400b500b600b700b800b900ba00bb",
    "00bc00bd00be00bf00c000c100c200c300c400c500c600c700c800c900ca00cb00cc00cd00ce00cf",
    "00d000d100d200d300d400d500d600d700d800d900da00db00dc00dd00de00df00e000e100e200e3",
    "00e400e500e600e700e800e900ea00eb00ec00ed00ee00ef00f000f100f200f300f400f500f600f7",
    "00f800f900fa00fb00fc00fd00fe00ff"]

/-- Cyrillic letters in the places of the letters that sound alike. -/
def koi8r : String := String.join
  ["25002502250c251025142518251c2524252c2534253c258025842588258c25902591259225932320",
    "25a02219221a22482264226500a0232100b000b200b700f725502551255204512553255425552556",
    "255725582559255a255b255c255d255e255f25602561040125622563256425652566256725682569",
    "256a256b256c00a9044e0430043104460434043504440433044504380439043a043b043c043d043e",
    "043f044f044004410442044304360432044c044b04370448044d04490447044a042e041004110426",
    "0414041504240413042504180419041a041b041c041d041e041f042f042004210422042304160412",
    "042c042b04170428042d04290427042a"]

def koi8u : String := String.join
  ["25002502250c251025142518251c2524252c2534253c258025842588258c25902591259225932320",
    "25a02219221a22482264226500a0232100b000b200b700f725502551255204510454255404560457",
    "255725582559255a255b0491255d255e255f25602561040104042563040604072566256725682569",
    "256a0490256c00a9044e0430043104460434043504440433044504380439043a043b043c043d043e",
    "043f044f044004410442044304360432044c044b04370448044d04490447044a042e041004110426",
    "0414041504240413042504180419041a041b041c041d041e041f042f042004210422042304160412",
    "042c042b04170428042d04290427042a"]

def ibm437 : String := String.join
  ["00c700fc00e900e200e400e000e500e700ea00eb00e800ef00ee00ec00c400c500c900e600c600f4",
    "00f600f200fb00f900ff00d600dc00a200a300a520a7019200e100ed00f300fa00f100d100aa00ba",
    "00bf231000ac00bd00bc00a100ab00bb259125922593250225242561256225562555256325512557",
    "255d255c255b251025142534252c251c2500253c255e255f255a25542569256625602550256c2567",
    "2568256425652559255825522553256b256a2518250c25882584258c2590258003b100df039303c0",
    "03a303c300b503c403a6039803a903b4221e03c603b52229226100b1226522642320232100f72248",
    "00b0221900b7221a207f00b225a000a0"]

/-- More letters of Western Europe with lines for boxes. -/
def ibm850 : String := String.join
  ["00c700fc00e900e200e400e000e500e700ea00eb00e800ef00ee00ec00c400c500c900e600c600f4",
    "00f600f200fb00f900ff00d600dc00f800a300d800d7019200e100ed00f300fa00f100d100aa00ba",
    "00bf00ae00ac00bd00bc00a100ab00bb2591259225932502252400c100c200c000a9256325512557",
    "255d00a200a5251025142534252c251c2500253c00e300c3255a25542569256625602550256c00a4",
    "00f000d000ca00cb00c8013100cd00ce00cf2518250c2588258400a600cc258000d300df00d400d2",
    "00f500d500b500fe00de00da00db00d900fd00dd00af00b400ad00b1201700be00b600a700f700b8",
    "00b000a800b700b900b300b225a000a0"]

def cp866 : String := String.join
  ["0410041104120413041404150416041704180419041a041b041c041d041e041f0420042104220423",
    "042404250426042704280429042a042b042c042d042e042f04300431043204330434043504360437",
    "04380439043a043b043c043d043e043f259125922593250225242561256225562555256325512557",
    "255d255c255b251025142534252c251c2500253c255e255f255a25542569256625602550256c2567",
    "2568256425652559255825522553256b256a2518250c25882584258c259025800440044104420443",
    "044404450446044704480449044a044b044c044d044e044f040104510404045404070457040e045e",
    "00b0221900b7221a211600a425a000a0"]

def macintosh : String := String.join
  ["00c400c500c700c900d100d600dc00e100e000e200e400e300e500e700e900e800ea00eb00ed00ec",
    "00ee00ef00f100f300f200f400f600f500fa00f900fb00fc202000b000a200a300a7202200b600df",
    "00ae00a9212200b400a8226000c600d8221e00b12264226500a500b522022211220f03c0222b00aa",
    "00ba03a900e600f800bf00a100ac221a01922248039400ab00bb202600a000c000c300d501520153",
    "20132014201c201d2018201900f725ca00ff0178204420ac2039203afb01fb02202100b7201a201e",
    "203000c200ca00c100cb00c800cd00ce00cf00cc00d300d4e01e00d200da00db00d9013102c602dc",
    "00af02d802d902da00b802dd02db02c7"]

def all : List (String × List String) :=
  [(iso88592,
      ["ISO-8859-2", "ISO-IR-101", "ISO_8859-2:1987", "ISO_8859-2", "ISO8859-2", "ISO88592",
      "LATIN2", "L2", "CSISOLATIN2", "8859_2", "OSF00010002", "IBM912", "CP912"]),
    (iso88595,
      ["ISO-8859-5", "ISO-IR-144", "ISO_8859-5:1988", "ISO_8859-5", "ISO8859-5", "ISO88595",
      "CYRILLIC", "CSISOLATINCYRILLIC", "8859_5", "OSF00010005", "IBM915", "CP915"]),
    (iso88597,
      ["ISO-8859-7", "ISO-IR-126", "ISO_8859-7:2003", "ISO_8859-7:1987", "ISO_8859-7",
      "ISO8859-7", "ISO88597", "ELOT_928", "ECMA-118", "GREEK", "GREEK8", "CSISOLATINGREEK",
      "8859_7", "OSF00010007", "IBM813", "CP813"]),
    (iso88599,
      ["ISO-8859-9", "ISO-IR-148", "ISO_8859-9:1989", "ISO_8859-9", "ISO8859-9", "ISO88599",
      "LATIN5", "L5", "CSISOLATIN5", "8859_9", "OSF00010009", "IBM920", "CP920", "TS-5881",
      "ECMA-128"]),
    (iso885915,
      ["ISO-8859-15", "ISO8859-15", "ISO885915", "ISO-IR-203", "ISO_8859-15", "LATIN-9", "LATIN9",
      "ISO_8859-15:1998"]),
    (cp1250,
      ["CP1250", "MS-EE", "WINDOWS-1250"]),
    (cp1251,
      ["CP1251", "MS-CYRL", "WINDOWS-1251"]),
    (cp1252,
      ["CP1252", "MS-ANSI", "WINDOWS-1252"]),
    (koi8r,
      ["KOI8-R", "CSKOI8R", "KOI8R"]),
    (koi8u,
      ["KOI8-U", "KOI8U"]),
    (ibm437,
      ["IBM437", "CP437", "437", "CSPC8CODEPAGE437", "OSF100201B5"]),
    (ibm850,
      ["IBM850", "CP850", "850", "CSPC850MULTILINGUAL", "OSF10020352"]),
    (cp866,
      ["CP866", "IBM866", "866", "CSIBM866"]),
    (macintosh,
      ["MACINTOSH", "MAC", "CSMACINTOSH"])]

end Charset.Upper

/-!
## Charsets

A charset says by which bytes characters are written. Some write one byte for each
character, some two or four, and some as many as are needed.
-/

/-- The order of the bytes of a number, and whether a mark in front tells it. -/
inductive Charset.Order where
  | little
  | big
  | marked
  deriving DecidableEq, Repr

inductive Charset where
  | ascii
  | latin
  | utf8
  /-- One byte for each character, where the second half is listed. -/
  | single (upper : List (Option Nat))
  /-- Two bytes for each character. Those that have no place there are pairs or not there. -/
  | double (order : Charset.Order) (pairs : Bool)
  | quadruple (order : Charset.Order)
  deriving DecidableEq, Repr

namespace Charset

/-! ## Names -/

def entriesOf : Octets → List (Option Nat)
  | a :: b :: c :: d :: rest =>
    let digits := Octets.digitsOf 16 4 [a, b, c, d]
    (if digits.length = 4 then some (Octets.valueOf 16 digits) else none) :: entriesOf rest
  | _ => []

def basicNames : List (Charset × List String) :=
  [(ascii, ["", "ANSI_X3.4-1968", "ASCII", "US-ASCII", "US", "ANSI_X3.4-1986", "ANSI_X3.4", "646",
      "ISO-IR-6", "ISO646-US", "ISO_646.IRV:1991", "CP367", "IBM367", "CSASCII",
      "OSF00010020"]),
    (latin, ["ISO-8859-1", "ISO-IR-100", "ISO_8859-1:1987", "ISO_8859-1", "ISO8859-1", "ISO88591",
      "LATIN1", "L1", "IBM819", "CP819", "CSISOLATIN1", "8859_1", "OSF00010001"]),
    (utf8, ["UTF-8", "UTF8", "ISO-10646/UTF8/", "ISO-10646/UTF-8/", "ISO-IR-193",
      "OSF05010001"]),
    (double .marked true, ["UTF-16", "UTF16"]),
    (double .little true, ["UTF-16LE", "UTF16LE"]),
    (double .big true, ["UTF-16BE", "UTF16BE"]),
    (double .marked false, ["UNICODE", "CSUNICODE"]),
    (double .little false, ["UCS-2", "UCS2", "ISO-10646/UCS2/", "OSF00010100", "UCS-2LE", "UCS2LE",
      "UNICODELITTLE"]),
    (double .big false, ["UCS-2BE", "UCS2BE", "UNICODEBIG"]),
    (quadruple .marked, ["UTF-32", "UTF32"]),
    (quadruple .little, ["UTF-32LE", "UTF32LE", "UCS-4LE", "UCS4LE", "WCHAR_T", "INTERNAL"]),
    (quadruple .big, ["UTF-32BE", "UTF32BE", "UCS-4", "UCS4", "UCS-4BE", "UCS4BE", "CSUCS4",
      "ISO-10646", "10646-1:1993", "10646-1:1993/UCS4", "ISO-10646/UCS4/", "OSF00010104"])]

def ofName? (name : String) : Option Charset :=
  match basicNames.find? fun entry => entry.2.contains name with
  | some entry => some entry.1
  | none =>
    (Upper.all.find? fun entry => entry.2.contains name).map fun entry =>
      .single (entriesOf entry.1.toList)

/-! ## Reading -/

inductive Reading where
  | character (code size : Nat)
  | wrong (size : Nat)
  | cut

def goesOn (c : Char) : Bool := decide (128 ≤ c.toNat) && decide (c.toNat < 192)

/-- Reads a character of as many bytes as it needs. -/
def readMany (c : Char) (rest : Octets) : Reading :=
  let n := c.toNat
  if n < 128 then .character n 1
  else
    let count := if 194 ≤ n ∧ n < 224 then 2 else if 224 ≤ n ∧ n < 240 then 3
      else if 240 ≤ n ∧ n < 248 then 4 else 0
    let behind := (rest.take (if count = 0 then 4 else count - 1)).takeWhile goesOn
    if count = 0 then .wrong (behind.length + 1)
    else if behind.length + 1 < count then
      if behind.length = rest.length then .cut else .wrong (behind.length + 1)
    else
      let first := n % (if count = 2 then 32 else if count = 3 then 16 else 8)
      let code := behind.foldl (fun code c => code * 64 + c.toNat % 64) first
      let least := if count = 2 then 128 else if count = 3 then 2048 else 65536
      if code < least ∨ 1114111 < code ∨ (55296 ≤ code ∧ code < 57344) then .wrong count
      else .character code count

def numberOf (order : Order) (bytes : Octets) : Nat :=
  let inOrder := if order = .big then bytes else bytes.reverse
  inOrder.foldl (fun n c => n * 256 + c.toNat) 0

/-- Reads what stands in front of a text that is not empty. -/
def read (s : Charset) (c : Char) (rest : Octets) : Reading :=
  let text := c :: rest
  match s with
  | ascii => if c.toNat < 128 then .character c.toNat 1 else .wrong 1
  | latin => .character c.toNat 1
  | utf8 => readMany c rest
  | single upper =>
    if c.toNat < 128 then .character c.toNat 1
    else
      match (upper[c.toNat - 128]?).join with
      | some code => .character code 1
      | none => .wrong 1
  | double order pairs =>
    if text.length < 2 then .cut
    else
      let n := numberOf order (text.take 2)
      if n < 55296 ∨ 57344 ≤ n then .character n 2
      else if !pairs ∨ 56320 ≤ n then .wrong 2
      else if text.length < 4 then .cut
      else
        let m := numberOf order ((text.drop 2).take 2)
        if m < 56320 ∨ 57344 ≤ m then .wrong 2
        else .character (65536 + (n - 55296) * 1024 + (m - 56320)) 4
  | quadruple order =>
    if text.length < 4 then .cut
    else
      let n := numberOf order (text.take 4)
      if 1114111 < n ∨ (55296 ≤ n ∧ n < 57344) then .wrong 4 else .character n 4

/-- The charset in which the rest of a text is, and the length of the mark that tells
it. -/
def marked (s : Charset) (text : Octets) : Charset × Nat :=
  let codes := (text.take 4).map Char.toNat
  match s, codes with
  | double .marked pairs, 255 :: 254 :: _ => (double .little pairs, 2)
  | double .marked pairs, 254 :: 255 :: _ => (double .big pairs, 2)
  | double .marked pairs, _ => (double .little pairs, 0)
  | quadruple .marked, [255, 254, 0, 0] => (quadruple .little, 4)
  | quadruple .marked, [0, 0, 254, 255] => (quadruple .big, 4)
  | quadruple .marked, _ => (quadruple .little, 0)
  | s, _ => (s, 0)

/-! ## Writing -/

/-- So many bytes that write a number, the least first. -/
def bytesOf : Nat → Nat → Octets
  | 0, _ => []
  | size + 1, n => Char.ofNat (n % 256) :: bytesOf size (n / 256)

def numberIn (order : Order) (size n : Nat) : Octets :=
  let bytes := bytesOf size n
  if order = .big then bytes.reverse else bytes

/-- The bytes that write a character, if there are some. -/
def write? (s : Charset) (code : Nat) : Option Octets :=
  let one := some [Char.ofNat code]
  match s with
  | ascii => if code < 128 then one else none
  | latin => if code < 256 then one else none
  | utf8 => some (Octets.ofText (String.singleton (Char.ofNat code)))
  | single upper =>
    if code < 128 then one
    else (upper.findIdx? (· == some code)).map fun place => [Char.ofNat (place + 128)]
  | double order pairs =>
    if code < 65536 then some (numberIn order 2 code)
    else if pairs then
      let n := code - 65536
      some (numberIn order 2 (55296 + n / 1024) ++ numberIn order 2 (56320 + n % 1024))
    else none
  | quadruple order => some (numberIn order 4 code)

/-- What stands in front of a text in a charset. -/
def mark : Charset → Octets
  | double .marked _ => numberIn .little 2 65279
  | quadruple .marked => numberIn .little 4 65279
  | _ => []

/-! ## From one to another -/

/-- What is done about characters that the other charset does not have, and about bytes that
are no characters. -/
structure Leniency where
  alike : Bool := false
  omits : Bool := false
  deriving DecidableEq

/-- Why a text cannot be written in another charset. -/
inductive Trouble where
  | illegal (place : Nat)
  | cut

def Trouble.message : Trouble → Octets
  | illegal place => "illegal input sequence at position ".toList ++ Octets.ofNat place
  | cut => "incomplete character or shift sequence at end of buffer".toList

/-- A text that has been written in another charset, as far as it could be. -/
structure Written where
  text : Octets := []
  trouble : Option Trouble := none
  omitted : Bool := false

/-- What stands for a character in a charset, with the leniency there is. -/
def writeAlike? (s : Charset) (l : Leniency) (code : Nat) : Option Octets :=
  match s.write? code with
  | some bytes => some bytes
  | none =>
    if !l.alike then none
    else
      let text := (likeness? code).getD "?"
      (text.toList.mapM fun c => s.write? c.toNat).map List.flatten

/-- Writes a text in another charset. Every round takes at least one byte, so as many rounds
as there are bytes are enough. -/
def convertFrom (source target : Charset) (l : Leniency) : Nat → Nat → Octets → Written
  | _, _, [] => {}
  | 0, _, _ => {}
  | rounds + 1, place, c :: rest =>
    let after (size : Nat) : Written :=
      convertFrom source target l rounds (place + size) ((c :: rest).drop size)
    let refused (size : Nat) : Written :=
      if l.omits then { after size with omitted := true }
      else { trouble := some (.illegal place) }
    match source.read c rest with
    | .character code size =>
      match target.writeAlike? l code with
      | some bytes =>
        let w := after size
        { w with text := bytes ++ w.text }
      | none => refused size
    | .wrong size => refused size
    | .cut => { trouble := some .cut }

def convert (source target : Charset) (l : Leniency) (text : Octets) : Written :=
  let (source, size) := source.marked text
  let w := convertFrom source target l (text.length + 1) size (text.drop size)
  { w with text := (if text.isEmpty then [] else target.mark) ++ w.text }

end Charset

end CommandChains.Machine
