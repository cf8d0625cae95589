/-
  Marks in domain names, by the Unicode character database: characters that belong to the one
  before them.

  * `Domain.isNonspacingMark`, `Domain.isSpacingMark`: marks without and with room of their own.
  * `Domain.combiningClass`: marks of different classes may stand in any order; other characters
    are of class 0.
-/
import LightningLottery.Text.CodeTable

namespace LightningLottery
namespace Domain

/-- The edges of the set of marks without room of their own. -/
def nonspacingEdges : List Nat :=
  [0x300, 0x371, 0x483, 0x48B, 0x591, 0x5BE, 0x5BF, 0x5C0, 0x5C1, 0x5C3, 0x5C4, 0x5C6, 0x5C7, 0x5D0,
   0x610, 0x61B, 0x64B, 0x660, 0x670, 0x671, 0x6D6, 0x6DE, 0x6DF, 0x6E5, 0x6E7, 0x6E9, 0x6EA, 0x6EE,
   0x711, 0x712, 0x730, 0x74D, 0x7A6, 0x7B1, 0x7EB, 0x7F4, 0x7FD, 0x7FE, 0x816, 0x81A, 0x81B, 0x824,
   0x825, 0x828, 0x829, 0x830, 0x859, 0x85E, 0x897, 0x8A0, 0x8CA, 0x903, 0x93A, 0x93B, 0x93C, 0x93D,
   0x941, 0x949, 0x94D, 0x94E, 0x951, 0x960, 0x962, 0x964, 0x981, 0x982, 0x9BC, 0x9BD, 0x9C1, 0x9C7,
   0x9CD, 0x9CE, 0x9E2, 0x9E6, 0x9FE, 0xA03, 0xA3C, 0xA3E, 0xA41, 0xA5C, 0xA70, 0xA72, 0xA75, 0xA76,
   0xA81, 0xA83, 0xABC, 0xABD, 0xAC1, 0xAC9, 0xACD, 0xAD0, 0xAE2, 0xAE6, 0xAFA, 0xB02, 0xB3C, 0xB3D,
   0xB3F, 0xB40, 0xB41, 0xB47, 0xB4D, 0xB57, 0xB62, 0xB66, 0xB82, 0xB83, 0xBC0, 0xBC1, 0xBCD, 0xBD0,
   0xC00, 0xC01, 0xC04, 0xC05, 0xC3C, 0xC3D, 0xC3E, 0xC41, 0xC46, 0xC58, 0xC62, 0xC66, 0xC81, 0xC82,
   0xCBC, 0xCBD, 0xCBF, 0xCC0, 0xCC6, 0xCC7, 0xCCC, 0xCD5, 0xCE2, 0xCE6, 0xD00, 0xD02, 0xD3B, 0xD3D,
   0xD41, 0xD46, 0xD4D, 0xD4E, 0xD62, 0xD66, 0xD81, 0xD82, 0xDCA, 0xDCF, 0xDD2, 0xDD8, 0xE31, 0xE32,
   0xE34, 0xE3F, 0xE47, 0xE4F, 0xEB1, 0xEB2, 0xEB4, 0xEBD, 0xEC8, 0xED0, 0xF18, 0xF1A, 0xF35, 0xF36,
   0xF37, 0xF38, 0xF39, 0xF3A, 0xF71, 0xF7F, 0xF80, 0xF85, 0xF86, 0xF88, 0xF8D, 0xFBE, 0xFC6, 0xFC7,
   0x102D, 0x1031, 0x1032, 0x1038, 0x1039, 0x103B, 0x103D, 0x103F, 0x1058, 0x105A, 0x105E, 0x1061,
   0x1071, 0x1075, 0x1082, 0x1083, 0x1085, 0x1087, 0x108D, 0x108E, 0x109D, 0x109E, 0x135D, 0x1360,
   0x1712, 0x1715, 0x1732, 0x1734, 0x1752, 0x1760, 0x1772, 0x1780, 0x17B7, 0x17BE, 0x17C6, 0x17C7,
   0x17C9, 0x17D4, 0x17DD, 0x17E0, 0x1885, 0x1887, 0x18A9, 0x18AA, 0x1920, 0x1923, 0x1927, 0x1929,
   0x1932, 0x1933, 0x1939, 0x1940, 0x1A17, 0x1A19, 0x1A1B, 0x1A1E, 0x1A56, 0x1A57, 0x1A58, 0x1A61,
   0x1A62, 0x1A63, 0x1A65, 0x1A6D, 0x1A73, 0x1A80, 0x1AB0, 0x1B04, 0x1B34, 0x1B35, 0x1B36, 0x1B3B,
   0x1B3C, 0x1B3D, 0x1B42, 0x1B43, 0x1B6B, 0x1B74, 0x1B80, 0x1B82, 0x1BA2, 0x1BA6, 0x1BA8, 0x1BAA,
   0x1BAB, 0x1BAE, 0x1BE6, 0x1BE7, 0x1BE8, 0x1BEA, 0x1BED, 0x1BEE, 0x1BEF, 0x1BF2, 0x1C2C, 0x1C34,
   0x1C36, 0x1C3B, 0x1CD0, 0x1CD3, 0x1CD4, 0x1CE1, 0x1CE2, 0x1CE9, 0x1CED, 0x1CEE, 0x1CF4, 0x1CF5,
   0x1CF8, 0x1CFA, 0x1DC0, 0x1E01, 0x20D0, 0x2104, 0x2CEF, 0x2CF3, 0x2D7F, 0x2D80, 0x2DE0, 0x2E00,
   0x302A, 0x302E, 0x3099, 0x309D, 0xA66F, 0xA673, 0xA674, 0xA67E, 0xA69E, 0xA6A0, 0xA6F0, 0xA6F2,
   0xA802, 0xA803, 0xA806, 0xA807, 0xA80B, 0xA80C, 0xA825, 0xA827, 0xA82C, 0xA830, 0xA8C4, 0xA8CE,
   0xA8E0, 0xA8F2, 0xA8FF, 0xA900, 0xA926, 0xA92E, 0xA947, 0xA952, 0xA980, 0xA983, 0xA9B3, 0xA9B4,
   0xA9B6, 0xA9BA, 0xA9BC, 0xA9BE, 0xA9E5, 0xA9E6, 0xAA29, 0xAA2F, 0xAA31, 0xAA33, 0xAA35, 0xAA40,
   0xAA43, 0xAA44, 0xAA4C, 0xAA4D, 0xAA7C, 0xAA7D, 0xAAB0, 0xAAB1, 0xAAB2, 0xAAB5, 0xAAB7, 0xAAB9,
   0xAABE, 0xAAC0, 0xAAC1, 0xAAC2, 0xAAEC, 0xAAEE, 0xAAF6, 0xAB01, 0xABE5, 0xABE6, 0xABE8, 0xABE9,
   0xABED, 0xABF0, 0xFB1E, 0xFBB2, 0xFE20, 0xFE45, 0x101FD, 0x10280, 0x102E0, 0x102E1, 0x10376,
   0x10380, 0x10A01, 0x10A10, 0x10A38, 0x10A40, 0x10AE5, 0x10AEB, 0x10D24, 0x10D30, 0x10D69,
   0x10D6E, 0x10EAB, 0x10EAD, 0x10EFA, 0x10F00, 0x10F46, 0x10F51, 0x10F82, 0x10F86, 0x11001,
   0x11002, 0x11038, 0x11047, 0x11070, 0x11071, 0x11073, 0x11075, 0x1107F, 0x11082, 0x110B3,
   0x110B7, 0x110B9, 0x110BB, 0x110C2, 0x110D0, 0x11100, 0x11103, 0x11127, 0x1112C, 0x1112D,
   0x11136, 0x11173, 0x11174, 0x11180, 0x11182, 0x111B6, 0x111BF, 0x111C9, 0x111CD, 0x111CF,
   0x111D0, 0x1122F, 0x11232, 0x11234, 0x11235, 0x11236, 0x11238, 0x1123E, 0x1123F, 0x11241,
   0x11280, 0x112DF, 0x112E0, 0x112E3, 0x112F0, 0x11300, 0x11302, 0x1133B, 0x1133D, 0x11340,
   0x11341, 0x11366, 0x11380, 0x113BB, 0x113C2, 0x113CE, 0x113CF, 0x113D0, 0x113D1, 0x113D2,
   0x113D3, 0x113E1, 0x11400, 0x11438, 0x11440, 0x11442, 0x11445, 0x11446, 0x11447, 0x1145E,
   0x1145F, 0x114B3, 0x114B9, 0x114BA, 0x114BB, 0x114BF, 0x114C1, 0x114C2, 0x114C4, 0x115B2,
   0x115B8, 0x115BC, 0x115BE, 0x115BF, 0x115C1, 0x115DC, 0x11600, 0x11633, 0x1163B, 0x1163D,
   0x1163E, 0x1163F, 0x11641, 0x116AB, 0x116AC, 0x116AD, 0x116AE, 0x116B0, 0x116B6, 0x116B7,
   0x116B8, 0x1171D, 0x1171E, 0x1171F, 0x11720, 0x11722, 0x11726, 0x11727, 0x11730, 0x1182F,
   0x11838, 0x11839, 0x1183B, 0x1193B, 0x1193D, 0x1193E, 0x1193F, 0x11943, 0x11944, 0x119D4,
   0x119DC, 0x119E0, 0x119E1, 0x11A01, 0x11A0B, 0x11A33, 0x11A39, 0x11A3B, 0x11A3F, 0x11A47,
   0x11A50, 0x11A51, 0x11A57, 0x11A59, 0x11A5C, 0x11A8A, 0x11A97, 0x11A98, 0x11A9A, 0x11B60,
   0x11B61, 0x11B62, 0x11B65, 0x11B66, 0x11B67, 0x11C30, 0x11C3E, 0x11C3F, 0x11C40, 0x11C92,
   0x11CA9, 0x11CAA, 0x11CB1, 0x11CB2, 0x11CB4, 0x11CB5, 0x11D00, 0x11D31, 0x11D46, 0x11D47,
   0x11D50, 0x11D90, 0x11D93, 0x11D95, 0x11D96, 0x11D97, 0x11D98, 0x11EF3, 0x11EF5, 0x11F00,
   0x11F02, 0x11F36, 0x11F3E, 0x11F40, 0x11F41, 0x11F42, 0x11F43, 0x11F5A, 0x11FB0, 0x13440,
   0x13441, 0x13447, 0x13460, 0x1611E, 0x1612A, 0x1612D, 0x16130, 0x16AF0, 0x16AF5, 0x16B30,
   0x16B37, 0x16F4F, 0x16F50, 0x16F8F, 0x16F93, 0x16FE4, 0x16FF0, 0x1BC9D, 0x1BC9F, 0x1CF00,
   0x1CF50, 0x1D167, 0x1D16A, 0x1D17B, 0x1D183, 0x1D185, 0x1D18C, 0x1D1AA, 0x1D1AE, 0x1D242,
   0x1D245, 0x1DA00, 0x1DA37, 0x1DA3B, 0x1DA6D, 0x1DA75, 0x1DA76, 0x1DA84, 0x1DA85, 0x1DA9B,
   0x1DF00, 0x1E000, 0x1E100, 0x1E130, 0x1E137, 0x1E2AE, 0x1E2C0, 0x1E2EC, 0x1E2F0, 0x1E4EC,
   0x1E4F0, 0x1E5EE, 0x1E5F0, 0x1E6E3, 0x1E6E4, 0x1E6E6, 0x1E6E7, 0x1E6EE, 0x1E6F0, 0x1E6F5,
   0x1E6FE, 0x1E8D0, 0x1E922, 0x1E944, 0x1E94B]

/-- The edges of the set of marks with room of their own, other marks left out of account. -/
def spacingEdges : List Nat :=
  [0x903, 0x904, 0x93B, 0x93D, 0x93E, 0x950, 0x982, 0x985, 0x9BE, 0x9CE, 0x9D7, 0x9E0, 0xA03, 0xA05,
   0xA3E, 0xA5C, 0xA83, 0xA85, 0xABE, 0xAD0, 0xB02, 0xB05, 0xB3E, 0xB5F, 0xBBE, 0xBD0, 0xBD7, 0xBE6,
   0xC01, 0xC05, 0xC41, 0xC58, 0xC82, 0xC84, 0xCBE, 0xCDC, 0xCF3, 0xD04, 0xD3E, 0xD4E, 0xD57, 0xD58,
   0xD82, 0xD85, 0xDCF, 0xDE6, 0xDF2, 0xDF4, 0xF3E, 0xF40, 0xF7F, 0xF85, 0x102B, 0x103F, 0x1056,
   0x105A, 0x1062, 0x1065, 0x1067, 0x106E, 0x1083, 0x108E, 0x108F, 0x1090, 0x109A, 0x109E, 0x1715,
   0x171F, 0x1734, 0x1735, 0x17B6, 0x17D4, 0x1923, 0x1940, 0x1A19, 0x1A1E, 0x1A55, 0x1A80, 0x1B04,
   0x1B05, 0x1B35, 0x1B45, 0x1B82, 0x1B83, 0x1BA1, 0x1BAE, 0x1BE7, 0x1BFC, 0x1C24, 0x1C3B, 0x1CE1,
   0x1CE9, 0x1CF7, 0x1CFA, 0x302E, 0x3030, 0xA823, 0xA828, 0xA880, 0xA882, 0xA8B4, 0xA8CE, 0xA952,
   0xA95F, 0xA983, 0xA984, 0xA9B4, 0xA9C1, 0xAA2F, 0xAA40, 0xAA4D, 0xAA50, 0xAA7B, 0xAA7E, 0xAAEB,
   0xAAF0, 0xAAF5, 0xAB01, 0xABE3, 0xABEB, 0xABEC, 0xABF0, 0x11000, 0x11003, 0x11082, 0x11083,
   0x110B0, 0x110BB, 0x1112C, 0x11136, 0x11145, 0x11147, 0x11182, 0x11183, 0x111B3, 0x111C1,
   0x111CE, 0x111D0, 0x1122C, 0x11238, 0x112E0, 0x112F0, 0x11302, 0x11305, 0x1133E, 0x11350,
   0x11357, 0x1135D, 0x11362, 0x11380, 0x113B8, 0x113D1, 0x11435, 0x11447, 0x114B0, 0x114C4,
   0x115AF, 0x115C1, 0x11630, 0x11641, 0x116AC, 0x116B8, 0x1171E, 0x11730, 0x1182C, 0x1183B,
   0x11930, 0x1193F, 0x11940, 0x11941, 0x11942, 0x11944, 0x119D1, 0x119E1, 0x119E4, 0x11A00,
   0x11A39, 0x11A3A, 0x11A57, 0x11A5C, 0x11A97, 0x11A9A, 0x11B61, 0x11BC0, 0x11C2F, 0x11C40,
   0x11CA9, 0x11D00, 0x11D8A, 0x11D98, 0x11EF5, 0x11EF7, 0x11F03, 0x11F04, 0x11F34, 0x11F43,
   0x1612A, 0x16130, 0x16F51, 0x16F93, 0x16FF0, 0x16FF2, 0x1D165, 0x1D16A, 0x1D16D, 0x1D183]

/-- Where the combining class of marks changes. -/
def classChanges : List (Nat × Nat) :=
  [(0x300, 230), (0x315, 232), (0x316, 220), (0x31A, 232), (0x31B, 216), (0x31C, 220), (0x321, 202),
   (0x323, 220), (0x327, 202), (0x329, 220), (0x334, 1), (0x339, 220), (0x33D, 230), (0x347, 220),
   (0x34A, 230), (0x34D, 220), (0x350, 230), (0x353, 220), (0x357, 230), (0x358, 232), (0x359, 220),
   (0x35B, 230), (0x35C, 233), (0x35D, 234), (0x35F, 233), (0x360, 234), (0x362, 233), (0x363, 230),
   (0x488, 0), (0x591, 220), (0x592, 230), (0x596, 220), (0x597, 230), (0x59A, 222), (0x59B, 220),
   (0x59C, 230), (0x5A2, 220), (0x5A8, 230), (0x5AA, 220), (0x5AB, 230), (0x5AD, 222), (0x5AE, 228),
   (0x5AF, 230), (0x5B0, 10), (0x5B1, 11), (0x5B2, 12), (0x5B3, 13), (0x5B4, 14), (0x5B5, 15),
   (0x5B6, 16), (0x5B7, 17), (0x5B8, 18), (0x5B9, 19), (0x5BB, 20), (0x5BC, 21), (0x5BD, 22),
   (0x5BF, 23), (0x5C1, 24), (0x5C2, 25), (0x5C4, 230), (0x5C5, 220), (0x5C7, 18), (0x610, 230),
   (0x618, 30), (0x619, 31), (0x61A, 32), (0x64B, 27), (0x64C, 28), (0x64D, 29), (0x64E, 30),
   (0x64F, 31), (0x650, 32), (0x651, 33), (0x652, 34), (0x653, 230), (0x655, 220), (0x657, 230),
   (0x65C, 220), (0x65D, 230), (0x65F, 220), (0x670, 35), (0x6D6, 230), (0x6E3, 220), (0x6E4, 230),
   (0x6EA, 220), (0x6EB, 230), (0x6ED, 220), (0x711, 36), (0x730, 230), (0x731, 220), (0x732, 230),
   (0x734, 220), (0x735, 230), (0x737, 220), (0x73A, 230), (0x73B, 220), (0x73D, 230), (0x73E, 220),
   (0x73F, 230), (0x742, 220), (0x743, 230), (0x744, 220), (0x745, 230), (0x746, 220), (0x747, 230),
   (0x748, 220), (0x749, 230), (0x7A6, 0), (0x7EB, 230), (0x7F2, 220), (0x7F3, 230), (0x7FD, 220),
   (0x816, 230), (0x859, 220), (0x897, 230), (0x899, 220), (0x89C, 230), (0x8CF, 220), (0x8D4, 230),
   (0x8E3, 220), (0x8E4, 230), (0x8E6, 220), (0x8E7, 230), (0x8E9, 220), (0x8EA, 230), (0x8ED, 220),
   (0x8F0, 27), (0x8F1, 28), (0x8F2, 29), (0x8F3, 230), (0x8F6, 220), (0x8F7, 230), (0x8F9, 220),
   (0x8FB, 230), (0x900, 0), (0x93C, 7), (0x93E, 0), (0x94D, 9), (0x94E, 0), (0x951, 230),
   (0x952, 220), (0x953, 230), (0x955, 0), (0x9BC, 7), (0x9BE, 0), (0x9CD, 9), (0x9D7, 0),
   (0x9FE, 230), (0xA01, 0), (0xA3C, 7), (0xA3E, 0), (0xA4D, 9), (0xA51, 0), (0xABC, 7), (0xABE, 0),
   (0xACD, 9), (0xAE2, 0), (0xB3C, 7), (0xB3E, 0), (0xB4D, 9), (0xB55, 0), (0xBCD, 9), (0xBD7, 0),
   (0xC3C, 7), (0xC3E, 0), (0xC4D, 9), (0xC55, 84), (0xC56, 91), (0xC62, 0), (0xCBC, 7), (0xCBE, 0),
   (0xCCD, 9), (0xCD5, 0), (0xD3B, 9), (0xD3E, 0), (0xD4D, 9), (0xD57, 0), (0xDCA, 9), (0xDCF, 0),
   (0xE38, 103), (0xE3A, 9), (0xE47, 0), (0xE48, 107), (0xE4C, 0), (0xEB8, 118), (0xEBA, 9),
   (0xEBB, 0), (0xEC8, 122), (0xECC, 0), (0xF18, 220), (0xF39, 216), (0xF3E, 0), (0xF71, 129),
   (0xF72, 130), (0xF74, 132), (0xF7A, 130), (0xF7E, 0), (0xF80, 130), (0xF82, 230), (0xF84, 9),
   (0xF86, 230), (0xF8D, 0), (0xFC6, 220), (0x102B, 0), (0x1037, 7), (0x1038, 0), (0x1039, 9),
   (0x103B, 0), (0x108D, 220), (0x108F, 0), (0x135D, 230), (0x1712, 0), (0x1714, 9), (0x1732, 0),
   (0x1734, 9), (0x1752, 0), (0x17D2, 9), (0x17D3, 0), (0x17DD, 230), (0x1885, 0), (0x18A9, 228),
   (0x1920, 0), (0x1939, 222), (0x193A, 230), (0x193B, 220), (0x1A17, 230), (0x1A18, 220),
   (0x1A19, 0), (0x1A60, 9), (0x1A61, 0), (0x1A75, 230), (0x1A7F, 220), (0x1AB0, 230),
   (0x1AB5, 220), (0x1ABB, 230), (0x1ABD, 220), (0x1ABE, 0), (0x1ABF, 220), (0x1AC1, 230),
   (0x1AC3, 220), (0x1AC5, 230), (0x1ACA, 220), (0x1ACB, 230), (0x1ADD, 220), (0x1AE0, 230),
   (0x1AE6, 220), (0x1AE7, 230), (0x1AEB, 234), (0x1B00, 0), (0x1B34, 7), (0x1B35, 0), (0x1B44, 9),
   (0x1B6B, 230), (0x1B6C, 220), (0x1B6D, 230), (0x1B80, 0), (0x1BAA, 9), (0x1BAC, 0), (0x1BE6, 7),
   (0x1BE7, 0), (0x1BF2, 9), (0x1C24, 0), (0x1C37, 7), (0x1CD0, 230), (0x1CD4, 1), (0x1CD5, 220),
   (0x1CDA, 230), (0x1CDC, 220), (0x1CE0, 230), (0x1CE1, 0), (0x1CE2, 1), (0x1CED, 220),
   (0x1CF4, 230), (0x1CF7, 0), (0x1CF8, 230), (0x1DC2, 220), (0x1DC3, 230), (0x1DCA, 220),
   (0x1DCB, 230), (0x1DCD, 234), (0x1DCE, 214), (0x1DCF, 220), (0x1DD0, 202), (0x1DD1, 230),
   (0x1DF6, 232), (0x1DF7, 228), (0x1DF9, 220), (0x1DFA, 218), (0x1DFB, 230), (0x1DFC, 233),
   (0x1DFD, 220), (0x1DFE, 230), (0x1DFF, 220), (0x20D0, 230), (0x20D2, 1), (0x20D4, 230),
   (0x20D8, 1), (0x20DB, 230), (0x20DD, 0), (0x20E1, 230), (0x20E2, 0), (0x20E5, 1), (0x20E7, 230),
   (0x20E8, 220), (0x20E9, 230), (0x20EA, 1), (0x20EC, 220), (0x20F0, 230), (0x2D7F, 9),
   (0x2DE0, 230), (0x302A, 218), (0x302B, 228), (0x302C, 232), (0x302D, 222), (0x302E, 224),
   (0x3099, 8), (0xA66F, 230), (0xA670, 0), (0xA674, 230), (0xA802, 0), (0xA806, 9), (0xA80B, 0),
   (0xA82C, 9), (0xA880, 0), (0xA8C4, 9), (0xA8C5, 0), (0xA8E0, 230), (0xA8FF, 0), (0xA92B, 220),
   (0xA947, 0), (0xA953, 9), (0xA980, 0), (0xA9B3, 7), (0xA9B4, 0), (0xA9C0, 9), (0xA9E5, 0),
   (0xAAB0, 230), (0xAAB4, 220), (0xAAB7, 230), (0xAAEB, 0), (0xAAF6, 9), (0xABE3, 0), (0xABED, 9),
   (0xFB1E, 26), (0xFE20, 230), (0xFE27, 220), (0xFE2E, 230), (0x101FD, 220), (0x10376, 230),
   (0x10A01, 0), (0x10A0D, 220), (0x10A0E, 0), (0x10A0F, 230), (0x10A39, 1), (0x10A3A, 220),
   (0x10A3F, 9), (0x10AE5, 230), (0x10AE6, 220), (0x10D24, 230), (0x10EFA, 220), (0x10EFC, 0),
   (0x10EFD, 220), (0x10F48, 230), (0x10F4B, 220), (0x10F4C, 230), (0x10F4D, 220), (0x10F82, 230),
   (0x10F83, 220), (0x10F84, 230), (0x10F85, 220), (0x11000, 0), (0x11046, 9), (0x11073, 0),
   (0x1107F, 9), (0x11080, 0), (0x110B9, 9), (0x110BA, 7), (0x110C2, 0), (0x11100, 230),
   (0x11127, 0), (0x11133, 9), (0x11145, 0), (0x11173, 7), (0x11180, 0), (0x111C0, 9), (0x111C9, 0),
   (0x111CA, 7), (0x111CB, 0), (0x11235, 9), (0x11236, 7), (0x11237, 0), (0x112E9, 7), (0x112EA, 9),
   (0x11300, 0), (0x1133B, 7), (0x1133E, 0), (0x1134D, 9), (0x11357, 0), (0x11366, 230),
   (0x113B8, 0), (0x113CE, 9), (0x113D2, 0), (0x11442, 9), (0x11443, 0), (0x11446, 7),
   (0x1145E, 230), (0x114B0, 0), (0x114C2, 9), (0x114C3, 7), (0x115AF, 0), (0x115BF, 9),
   (0x115C0, 7), (0x115DC, 0), (0x1163F, 9), (0x11640, 0), (0x116B6, 9), (0x116B7, 7), (0x1171D, 0),
   (0x1172B, 9), (0x1182C, 0), (0x11839, 9), (0x1183A, 7), (0x11930, 0), (0x1193D, 9), (0x11940, 0),
   (0x11943, 7), (0x119D1, 0), (0x119E0, 9), (0x119E4, 0), (0x11A34, 9), (0x11A35, 0), (0x11A47, 9),
   (0x11A51, 0), (0x11A99, 9), (0x11B60, 0), (0x11C3F, 9), (0x11C92, 0), (0x11D42, 7), (0x11D43, 0),
   (0x11D44, 9), (0x11D47, 0), (0x11D97, 9), (0x11EF3, 0), (0x11F41, 9), (0x11F5A, 0), (0x1612F, 9),
   (0x16AF0, 1), (0x16B30, 230), (0x16F4F, 0), (0x16FF0, 6), (0x1BC9D, 0), (0x1BC9E, 1),
   (0x1CF00, 0), (0x1D165, 216), (0x1D167, 1), (0x1D16D, 226), (0x1D16E, 216), (0x1D17B, 220),
   (0x1D185, 230), (0x1D18A, 220), (0x1D1AA, 230), (0x1DA00, 0), (0x1E000, 230), (0x1E4EC, 232),
   (0x1E4EE, 220), (0x1E4EF, 230), (0x1E5EF, 220), (0x1E6E3, 230), (0x1E8D0, 220), (0x1E944, 230),
   (0x1E94A, 7)]

/-- Whether a character is a mark without room of its own. -/
def isNonspacingMark (c : Char) : Bool := inEdges nonspacingEdges c.toNat

/-- Whether a character is a mark with room of its own. -/
def isSpacingMark (c : Char) : Bool := !isNonspacingMark c && inEdges spacingEdges c.toNat

/-- Whether a character is a mark. -/
def isMark (c : Char) : Bool := isNonspacingMark c || isSpacingMark c

/-- The combining class of a character. -/
def combiningClass (c : Char) : Nat := if isMark c then valueAt 0 classChanges c.toNat else 0

end Domain
end LightningLottery
