/-!
# Classes of characters for nameprep

The canonical combining classes that order and block combining marks, the pairs
that canonical composition joins, the characters that nameprep prohibits (tables
C.1.2 to C.9 of RFC 3454) and the two bidirectional classes it checks: the
right-to-left characters (table D.1) and the left-to-right ones (table D.2).
-/

namespace Stencil.Files.Nameprep

/-- Part 1 of runs of code points with their canonical combining class, where it is not zero. -/
def combiningRuns1 : List (Nat × Nat × Nat) :=
  [(0x300, 0x314, 230), (0x315, 0x315, 232), (0x316, 0x319, 220), (0x31A, 0x31A, 232),
   (0x31B, 0x31B, 216), (0x31C, 0x320, 220), (0x321, 0x322, 202), (0x323, 0x326, 220),
   (0x327, 0x328, 202), (0x329, 0x333, 220), (0x334, 0x338, 1), (0x339, 0x33C, 220),
   (0x33D, 0x344, 230), (0x345, 0x345, 240), (0x346, 0x346, 230), (0x347, 0x349, 220),
   (0x34A, 0x34C, 230), (0x34D, 0x34E, 220), (0x350, 0x352, 230), (0x353, 0x356, 220),
   (0x357, 0x357, 230), (0x358, 0x358, 232), (0x359, 0x35A, 220), (0x35B, 0x35B, 230),
   (0x35C, 0x35C, 233), (0x35D, 0x35E, 234), (0x35F, 0x35F, 233), (0x360, 0x361, 234),
   (0x362, 0x362, 233), (0x363, 0x36F, 230), (0x483, 0x487, 230), (0x591, 0x591, 220),
   (0x592, 0x595, 230), (0x596, 0x596, 220), (0x597, 0x599, 230), (0x59A, 0x59A, 222),
   (0x59B, 0x59B, 220), (0x59C, 0x5A1, 230), (0x5A2, 0x5A7, 220), (0x5A8, 0x5A9, 230),
   (0x5AA, 0x5AA, 220), (0x5AB, 0x5AC, 230), (0x5AD, 0x5AD, 222), (0x5AE, 0x5AE, 228),
   (0x5AF, 0x5AF, 230), (0x5B0, 0x5B0, 10), (0x5B1, 0x5B1, 11), (0x5B2, 0x5B2, 12),
   (0x5B3, 0x5B3, 13), (0x5B4, 0x5B4, 14), (0x5B5, 0x5B5, 15), (0x5B6, 0x5B6, 16),
   (0x5B7, 0x5B7, 17), (0x5B8, 0x5B8, 18), (0x5B9, 0x5BA, 19), (0x5BB, 0x5BB, 20),
   (0x5BC, 0x5BC, 21), (0x5BD, 0x5BD, 22), (0x5BF, 0x5BF, 23), (0x5C1, 0x5C1, 24),
   (0x5C2, 0x5C2, 25), (0x5C4, 0x5C4, 230), (0x5C5, 0x5C5, 220), (0x5C7, 0x5C7, 18),
   (0x610, 0x617, 230), (0x618, 0x618, 30), (0x619, 0x619, 31), (0x61A, 0x61A, 32),
   (0x64B, 0x64B, 27), (0x64C, 0x64C, 28), (0x64D, 0x64D, 29), (0x64E, 0x64E, 30),
   (0x64F, 0x64F, 31), (0x650, 0x650, 32), (0x651, 0x651, 33), (0x652, 0x652, 34),
   (0x653, 0x654, 230), (0x655, 0x656, 220), (0x657, 0x65B, 230), (0x65C, 0x65C, 220),
   (0x65D, 0x65E, 230), (0x65F, 0x65F, 220), (0x670, 0x670, 35), (0x6D6, 0x6DC, 230),
   (0x6DF, 0x6E2, 230), (0x6E3, 0x6E3, 220), (0x6E4, 0x6E4, 230), (0x6E7, 0x6E8, 230),
   (0x6EA, 0x6EA, 220), (0x6EB, 0x6EC, 230), (0x6ED, 0x6ED, 220), (0x711, 0x711, 36),
   (0x730, 0x730, 230), (0x731, 0x731, 220), (0x732, 0x733, 230), (0x734, 0x734, 220),
   (0x735, 0x736, 230), (0x737, 0x739, 220), (0x73A, 0x73A, 230), (0x73B, 0x73C, 220),
   (0x73D, 0x73D, 230), (0x73E, 0x73E, 220), (0x73F, 0x741, 230), (0x742, 0x742, 220),
   (0x743, 0x743, 230), (0x744, 0x744, 220), (0x745, 0x745, 230), (0x746, 0x746, 220),
   (0x747, 0x747, 230), (0x748, 0x748, 220), (0x749, 0x74A, 230), (0x7EB, 0x7F1, 230),
   (0x7F2, 0x7F2, 220), (0x7F3, 0x7F3, 230), (0x7FD, 0x7FD, 220), (0x816, 0x819, 230),
   (0x81B, 0x823, 230), (0x825, 0x827, 230), (0x829, 0x82D, 230), (0x859, 0x85B, 220),
   (0x898, 0x898, 230), (0x899, 0x89B, 220), (0x89C, 0x89F, 230), (0x8CA, 0x8CE, 230),
   (0x8CF, 0x8D3, 220), (0x8D4, 0x8E1, 230), (0x8E3, 0x8E3, 220), (0x8E4, 0x8E5, 230),
   (0x8E6, 0x8E6, 220), (0x8E7, 0x8E8, 230), (0x8E9, 0x8E9, 220), (0x8EA, 0x8EC, 230),
   (0x8ED, 0x8EF, 220), (0x8F0, 0x8F0, 27), (0x8F1, 0x8F1, 28), (0x8F2, 0x8F2, 29),
   (0x8F3, 0x8F5, 230), (0x8F6, 0x8F6, 220), (0x8F7, 0x8F8, 230), (0x8F9, 0x8FA, 220),
   (0x8FB, 0x8FF, 230), (0x93C, 0x93C, 7), (0x94D, 0x94D, 9), (0x951, 0x951, 230),
   (0x952, 0x952, 220), (0x953, 0x954, 230), (0x9BC, 0x9BC, 7), (0x9CD, 0x9CD, 9),
   (0x9FE, 0x9FE, 230), (0xA3C, 0xA3C, 7), (0xA4D, 0xA4D, 9), (0xABC, 0xABC, 7),
   (0xACD, 0xACD, 9), (0xB3C, 0xB3C, 7), (0xB4D, 0xB4D, 9), (0xBCD, 0xBCD, 9),
   (0xC3C, 0xC3C, 7), (0xC4D, 0xC4D, 9), (0xC55, 0xC55, 84), (0xC56, 0xC56, 91),
   (0xCBC, 0xCBC, 7), (0xCCD, 0xCCD, 9), (0xD3B, 0xD3C, 9), (0xD4D, 0xD4D, 9),
   (0xDCA, 0xDCA, 9), (0xE38, 0xE39, 103), (0xE3A, 0xE3A, 9), (0xE48, 0xE4B, 107),
   (0xEB8, 0xEB9, 118), (0xEBA, 0xEBA, 9), (0xEC8, 0xECB, 122), (0xF18, 0xF19, 220),
   (0xF35, 0xF35, 220), (0xF37, 0xF37, 220), (0xF39, 0xF39, 216), (0xF71, 0xF71, 129),
   (0xF72, 0xF72, 130), (0xF74, 0xF74, 132), (0xF7A, 0xF7D, 130), (0xF80, 0xF80, 130),
   (0xF82, 0xF83, 230), (0xF84, 0xF84, 9), (0xF86, 0xF87, 230), (0xFC6, 0xFC6, 220),
   (0x1037, 0x1037, 7), (0x1039, 0x103A, 9), (0x108D, 0x108D, 220), (0x135D, 0x135F, 230),
   (0x1714, 0x1715, 9), (0x1734, 0x1734, 9), (0x17D2, 0x17D2, 9), (0x17DD, 0x17DD, 230),
   (0x18A9, 0x18A9, 228), (0x1939, 0x1939, 222), (0x193A, 0x193A, 230), (0x193B, 0x193B, 220),
   (0x1A17, 0x1A17, 230), (0x1A18, 0x1A18, 220), (0x1A60, 0x1A60, 9), (0x1A75, 0x1A7C, 230),
   (0x1A7F, 0x1A7F, 220), (0x1AB0, 0x1AB4, 230), (0x1AB5, 0x1ABA, 220), (0x1ABB, 0x1ABC, 230),
   (0x1ABD, 0x1ABD, 220), (0x1ABF, 0x1AC0, 220), (0x1AC1, 0x1AC2, 230), (0x1AC3, 0x1AC4, 220),
   (0x1AC5, 0x1AC9, 230), (0x1ACA, 0x1ACA, 220), (0x1ACB, 0x1ACE, 230), (0x1B34, 0x1B34, 7),
   (0x1B44, 0x1B44, 9), (0x1B6B, 0x1B6B, 230), (0x1B6C, 0x1B6C, 220), (0x1B6D, 0x1B73, 230),
   (0x1BAA, 0x1BAB, 9), (0x1BE6, 0x1BE6, 7), (0x1BF2, 0x1BF3, 9), (0x1C37, 0x1C37, 7),
   (0x1CD0, 0x1CD2, 230), (0x1CD4, 0x1CD4, 1), (0x1CD5, 0x1CD9, 220), (0x1CDA, 0x1CDB, 230),
   (0x1CDC, 0x1CDF, 220), (0x1CE0, 0x1CE0, 230), (0x1CE2, 0x1CE8, 1), (0x1CED, 0x1CED, 220),
   (0x1CF4, 0x1CF4, 230), (0x1CF8, 0x1CF9, 230), (0x1DC0, 0x1DC1, 230), (0x1DC2, 0x1DC2, 220),
   (0x1DC3, 0x1DC9, 230), (0x1DCA, 0x1DCA, 220), (0x1DCB, 0x1DCC, 230), (0x1DCD, 0x1DCD, 234),
   (0x1DCE, 0x1DCE, 214), (0x1DCF, 0x1DCF, 220), (0x1DD0, 0x1DD0, 202), (0x1DD1, 0x1DF5, 230),
   (0x1DF6, 0x1DF6, 232), (0x1DF7, 0x1DF8, 228), (0x1DF9, 0x1DF9, 220), (0x1DFA, 0x1DFA, 218),
   (0x1DFB, 0x1DFB, 230), (0x1DFC, 0x1DFC, 233), (0x1DFD, 0x1DFD, 220), (0x1DFE, 0x1DFE, 230),
   (0x1DFF, 0x1DFF, 220), (0x20D0, 0x20D1, 230), (0x20D2, 0x20D3, 1), (0x20D4, 0x20D7, 230),
   (0x20D8, 0x20DA, 1), (0x20DB, 0x20DC, 230), (0x20E1, 0x20E1, 230), (0x20E5, 0x20E6, 1),
   (0x20E7, 0x20E7, 230), (0x20E8, 0x20E8, 220), (0x20E9, 0x20E9, 230), (0x20EA, 0x20EB, 1),
   (0x20EC, 0x20EF, 220), (0x20F0, 0x20F0, 230), (0x2CEF, 0x2CF1, 230), (0x2D7F, 0x2D7F, 9),
   (0x2DE0, 0x2DFF, 230), (0x302A, 0x302A, 218), (0x302B, 0x302B, 228), (0x302C, 0x302C, 232),
   (0x302D, 0x302D, 222), (0x302E, 0x302F, 224), (0x3099, 0x309A, 8), (0xA66F, 0xA66F, 230),
   (0xA674, 0xA67D, 230), (0xA69E, 0xA69F, 230), (0xA6F0, 0xA6F1, 230), (0xA806, 0xA806, 9),
   (0xA82C, 0xA82C, 9), (0xA8C4, 0xA8C4, 9), (0xA8E0, 0xA8F1, 230), (0xA92B, 0xA92D, 220),
   (0xA953, 0xA953, 9), (0xA9B3, 0xA9B3, 7), (0xA9C0, 0xA9C0, 9), (0xAAB0, 0xAAB0, 230),
   (0xAAB2, 0xAAB3, 230), (0xAAB4, 0xAAB4, 220), (0xAAB7, 0xAAB8, 230), (0xAABE, 0xAABF, 230),
   (0xAAC1, 0xAAC1, 230), (0xAAF6, 0xAAF6, 9), (0xABED, 0xABED, 9), (0xFB1E, 0xFB1E, 26),
   (0xFE20, 0xFE26, 230), (0xFE27, 0xFE2D, 220), (0xFE2E, 0xFE2F, 230), (0x101FD, 0x101FD, 220),
   (0x102E0, 0x102E0, 220), (0x10376, 0x1037A, 230), (0x10A0D, 0x10A0D, 220), (0x10A0F, 0x10A0F, 230)]

/-- Part 2 of runs of code points with their canonical combining class, where it is not zero. -/
def combiningRuns2 : List (Nat × Nat × Nat) :=
  [(0x10A38, 0x10A38, 230), (0x10A39, 0x10A39, 1), (0x10A3A, 0x10A3A, 220), (0x10A3F, 0x10A3F, 9),
   (0x10AE5, 0x10AE5, 230), (0x10AE6, 0x10AE6, 220), (0x10D24, 0x10D27, 230), (0x10EAB, 0x10EAC, 230),
   (0x10F46, 0x10F47, 220), (0x10F48, 0x10F4A, 230), (0x10F4B, 0x10F4B, 220), (0x10F4C, 0x10F4C, 230),
   (0x10F4D, 0x10F50, 220), (0x10F82, 0x10F82, 230), (0x10F83, 0x10F83, 220), (0x10F84, 0x10F84, 230),
   (0x10F85, 0x10F85, 220), (0x11046, 0x11046, 9), (0x11070, 0x11070, 9), (0x1107F, 0x1107F, 9),
   (0x110B9, 0x110B9, 9), (0x110BA, 0x110BA, 7), (0x11100, 0x11102, 230), (0x11133, 0x11134, 9),
   (0x11173, 0x11173, 7), (0x111C0, 0x111C0, 9), (0x111CA, 0x111CA, 7), (0x11235, 0x11235, 9),
   (0x11236, 0x11236, 7), (0x112E9, 0x112E9, 7), (0x112EA, 0x112EA, 9), (0x1133B, 0x1133C, 7),
   (0x1134D, 0x1134D, 9), (0x11366, 0x1136C, 230), (0x11370, 0x11374, 230), (0x11442, 0x11442, 9),
   (0x11446, 0x11446, 7), (0x1145E, 0x1145E, 230), (0x114C2, 0x114C2, 9), (0x114C3, 0x114C3, 7),
   (0x115BF, 0x115BF, 9), (0x115C0, 0x115C0, 7), (0x1163F, 0x1163F, 9), (0x116B6, 0x116B6, 9),
   (0x116B7, 0x116B7, 7), (0x1172B, 0x1172B, 9), (0x11839, 0x11839, 9), (0x1183A, 0x1183A, 7),
   (0x1193D, 0x1193E, 9), (0x11943, 0x11943, 7), (0x119E0, 0x119E0, 9), (0x11A34, 0x11A34, 9),
   (0x11A47, 0x11A47, 9), (0x11A99, 0x11A99, 9), (0x11C3F, 0x11C3F, 9), (0x11D42, 0x11D42, 7),
   (0x11D44, 0x11D45, 9), (0x11D97, 0x11D97, 9), (0x16AF0, 0x16AF4, 1), (0x16B30, 0x16B36, 230),
   (0x16FF0, 0x16FF1, 6), (0x1BC9E, 0x1BC9E, 1), (0x1D165, 0x1D166, 216), (0x1D167, 0x1D169, 1),
   (0x1D16D, 0x1D16D, 226), (0x1D16E, 0x1D172, 216), (0x1D17B, 0x1D182, 220), (0x1D185, 0x1D189, 230),
   (0x1D18A, 0x1D18B, 220), (0x1D1AA, 0x1D1AD, 230), (0x1D242, 0x1D244, 230), (0x1E000, 0x1E006, 230),
   (0x1E008, 0x1E018, 230), (0x1E01B, 0x1E021, 230), (0x1E023, 0x1E024, 230), (0x1E026, 0x1E02A, 230),
   (0x1E130, 0x1E136, 230), (0x1E2AE, 0x1E2AE, 230), (0x1E2EC, 0x1E2EF, 230), (0x1E8D0, 0x1E8D6, 220),
   (0x1E944, 0x1E949, 230), (0x1E94A, 0x1E94A, 7)]

/-- Runs of code points with their canonical combining class, where it is not zero. -/
def combiningRuns : List (Nat × Nat × Nat) :=
  combiningRuns1 ++
    combiningRuns2

/-- Part 1 of the pairs that compose: a first character, a second and their composite. -/
def compositionPairs1 : List (Nat × Nat × Nat) :=
  [(0x3C, 0x338, 8814), (0x3D, 0x338, 8800), (0x3E, 0x338, 8815), (0x41, 0x300, 192),
   (0x41, 0x301, 193), (0x41, 0x302, 194), (0x41, 0x303, 195), (0x41, 0x304, 256),
   (0x41, 0x306, 258), (0x41, 0x307, 550), (0x41, 0x308, 196), (0x41, 0x309, 7842),
   (0x41, 0x30A, 197), (0x41, 0x30C, 461), (0x41, 0x30F, 512), (0x41, 0x311, 514),
   (0x41, 0x323, 7840), (0x41, 0x325, 7680), (0x41, 0x328, 260), (0x42, 0x307, 7682),
   (0x42, 0x323, 7684), (0x42, 0x331, 7686), (0x43, 0x301, 262), (0x43, 0x302, 264),
   (0x43, 0x307, 266), (0x43, 0x30C, 268), (0x43, 0x327, 199), (0x44, 0x307, 7690),
   (0x44, 0x30C, 270), (0x44, 0x323, 7692), (0x44, 0x327, 7696), (0x44, 0x32D, 7698),
   (0x44, 0x331, 7694), (0x45, 0x300, 200), (0x45, 0x301, 201), (0x45, 0x302, 202),
   (0x45, 0x303, 7868), (0x45, 0x304, 274), (0x45, 0x306, 276), (0x45, 0x307, 278),
   (0x45, 0x308, 203), (0x45, 0x309, 7866), (0x45, 0x30C, 282), (0x45, 0x30F, 516),
   (0x45, 0x311, 518), (0x45, 0x323, 7864), (0x45, 0x327, 552), (0x45, 0x328, 280),
   (0x45, 0x32D, 7704), (0x45, 0x330, 7706), (0x46, 0x307, 7710), (0x47, 0x301, 500),
   (0x47, 0x302, 284), (0x47, 0x304, 7712), (0x47, 0x306, 286), (0x47, 0x307, 288),
   (0x47, 0x30C, 486), (0x47, 0x327, 290), (0x48, 0x302, 292), (0x48, 0x307, 7714),
   (0x48, 0x308, 7718), (0x48, 0x30C, 542), (0x48, 0x323, 7716), (0x48, 0x327, 7720),
   (0x48, 0x32E, 7722), (0x49, 0x300, 204), (0x49, 0x301, 205), (0x49, 0x302, 206),
   (0x49, 0x303, 296), (0x49, 0x304, 298), (0x49, 0x306, 300), (0x49, 0x307, 304),
   (0x49, 0x308, 207), (0x49, 0x309, 7880), (0x49, 0x30C, 463), (0x49, 0x30F, 520),
   (0x49, 0x311, 522), (0x49, 0x323, 7882), (0x49, 0x328, 302), (0x49, 0x330, 7724),
   (0x4A, 0x302, 308), (0x4B, 0x301, 7728), (0x4B, 0x30C, 488), (0x4B, 0x323, 7730),
   (0x4B, 0x327, 310), (0x4B, 0x331, 7732), (0x4C, 0x301, 313), (0x4C, 0x30C, 317),
   (0x4C, 0x323, 7734), (0x4C, 0x327, 315), (0x4C, 0x32D, 7740), (0x4C, 0x331, 7738),
   (0x4D, 0x301, 7742), (0x4D, 0x307, 7744), (0x4D, 0x323, 7746), (0x4E, 0x300, 504),
   (0x4E, 0x301, 323), (0x4E, 0x303, 209), (0x4E, 0x307, 7748), (0x4E, 0x30C, 327),
   (0x4E, 0x323, 7750), (0x4E, 0x327, 325), (0x4E, 0x32D, 7754), (0x4E, 0x331, 7752),
   (0x4F, 0x300, 210), (0x4F, 0x301, 211), (0x4F, 0x302, 212), (0x4F, 0x303, 213),
   (0x4F, 0x304, 332), (0x4F, 0x306, 334), (0x4F, 0x307, 558), (0x4F, 0x308, 214),
   (0x4F, 0x309, 7886), (0x4F, 0x30B, 336), (0x4F, 0x30C, 465), (0x4F, 0x30F, 524),
   (0x4F, 0x311, 526), (0x4F, 0x31B, 416), (0x4F, 0x323, 7884), (0x4F, 0x328, 490),
   (0x50, 0x301, 7764), (0x50, 0x307, 7766), (0x52, 0x301, 340), (0x52, 0x307, 7768),
   (0x52, 0x30C, 344), (0x52, 0x30F, 528), (0x52, 0x311, 530), (0x52, 0x323, 7770),
   (0x52, 0x327, 342), (0x52, 0x331, 7774), (0x53, 0x301, 346), (0x53, 0x302, 348),
   (0x53, 0x307, 7776), (0x53, 0x30C, 352), (0x53, 0x323, 7778), (0x53, 0x326, 536),
   (0x53, 0x327, 350), (0x54, 0x307, 7786), (0x54, 0x30C, 356), (0x54, 0x323, 7788),
   (0x54, 0x326, 538), (0x54, 0x327, 354), (0x54, 0x32D, 7792), (0x54, 0x331, 7790),
   (0x55, 0x300, 217), (0x55, 0x301, 218), (0x55, 0x302, 219), (0x55, 0x303, 360),
   (0x55, 0x304, 362), (0x55, 0x306, 364), (0x55, 0x308, 220), (0x55, 0x309, 7910),
   (0x55, 0x30A, 366), (0x55, 0x30B, 368), (0x55, 0x30C, 467), (0x55, 0x30F, 532),
   (0x55, 0x311, 534), (0x55, 0x31B, 431), (0x55, 0x323, 7908), (0x55, 0x324, 7794),
   (0x55, 0x328, 370), (0x55, 0x32D, 7798), (0x55, 0x330, 7796), (0x56, 0x303, 7804),
   (0x56, 0x323, 7806), (0x57, 0x300, 7808), (0x57, 0x301, 7810), (0x57, 0x302, 372),
   (0x57, 0x307, 7814), (0x57, 0x308, 7812), (0x57, 0x323, 7816), (0x58, 0x307, 7818),
   (0x58, 0x308, 7820), (0x59, 0x300, 7922), (0x59, 0x301, 221), (0x59, 0x302, 374),
   (0x59, 0x303, 7928), (0x59, 0x304, 562), (0x59, 0x307, 7822), (0x59, 0x308, 376),
   (0x59, 0x309, 7926), (0x59, 0x323, 7924), (0x5A, 0x301, 377), (0x5A, 0x302, 7824),
   (0x5A, 0x307, 379), (0x5A, 0x30C, 381), (0x5A, 0x323, 7826), (0x5A, 0x331, 7828),
   (0x61, 0x300, 224), (0x61, 0x301, 225), (0x61, 0x302, 226), (0x61, 0x303, 227),
   (0x61, 0x304, 257), (0x61, 0x306, 259), (0x61, 0x307, 551), (0x61, 0x308, 228),
   (0x61, 0x309, 7843), (0x61, 0x30A, 229), (0x61, 0x30C, 462), (0x61, 0x30F, 513),
   (0x61, 0x311, 515), (0x61, 0x323, 7841), (0x61, 0x325, 7681), (0x61, 0x328, 261),
   (0x62, 0x307, 7683), (0x62, 0x323, 7685), (0x62, 0x331, 7687), (0x63, 0x301, 263),
   (0x63, 0x302, 265), (0x63, 0x307, 267), (0x63, 0x30C, 269), (0x63, 0x327, 231),
   (0x64, 0x307, 7691), (0x64, 0x30C, 271), (0x64, 0x323, 7693), (0x64, 0x327, 7697),
   (0x64, 0x32D, 7699), (0x64, 0x331, 7695), (0x65, 0x300, 232), (0x65, 0x301, 233),
   (0x65, 0x302, 234), (0x65, 0x303, 7869), (0x65, 0x304, 275), (0x65, 0x306, 277),
   (0x65, 0x307, 279), (0x65, 0x308, 235), (0x65, 0x309, 7867), (0x65, 0x30C, 283),
   (0x65, 0x30F, 517), (0x65, 0x311, 519), (0x65, 0x323, 7865), (0x65, 0x327, 553),
   (0x65, 0x328, 281), (0x65, 0x32D, 7705), (0x65, 0x330, 7707), (0x66, 0x307, 7711),
   (0x67, 0x301, 501), (0x67, 0x302, 285), (0x67, 0x304, 7713), (0x67, 0x306, 287),
   (0x67, 0x307, 289), (0x67, 0x30C, 487), (0x67, 0x327, 291), (0x68, 0x302, 293),
   (0x68, 0x307, 7715), (0x68, 0x308, 7719), (0x68, 0x30C, 543), (0x68, 0x323, 7717),
   (0x68, 0x327, 7721), (0x68, 0x32E, 7723), (0x68, 0x331, 7830), (0x69, 0x300, 236),
   (0x69, 0x301, 237), (0x69, 0x302, 238), (0x69, 0x303, 297), (0x69, 0x304, 299),
   (0x69, 0x306, 301), (0x69, 0x308, 239), (0x69, 0x309, 7881), (0x69, 0x30C, 464),
   (0x69, 0x30F, 521), (0x69, 0x311, 523), (0x69, 0x323, 7883), (0x69, 0x328, 303),
   (0x69, 0x330, 7725), (0x6A, 0x302, 309), (0x6A, 0x30C, 496), (0x6B, 0x301, 7729),
   (0x6B, 0x30C, 489), (0x6B, 0x323, 7731), (0x6B, 0x327, 311), (0x6B, 0x331, 7733),
   (0x6C, 0x301, 314), (0x6C, 0x30C, 318), (0x6C, 0x323, 7735), (0x6C, 0x327, 316),
   (0x6C, 0x32D, 7741), (0x6C, 0x331, 7739), (0x6D, 0x301, 7743), (0x6D, 0x307, 7745),
   (0x6D, 0x323, 7747), (0x6E, 0x300, 505), (0x6E, 0x301, 324), (0x6E, 0x303, 241),
   (0x6E, 0x307, 7749), (0x6E, 0x30C, 328), (0x6E, 0x323, 7751), (0x6E, 0x327, 326),
   (0x6E, 0x32D, 7755), (0x6E, 0x331, 7753), (0x6F, 0x300, 242), (0x6F, 0x301, 243),
   (0x6F, 0x302, 244), (0x6F, 0x303, 245), (0x6F, 0x304, 333), (0x6F, 0x306, 335),
   (0x6F, 0x307, 559), (0x6F, 0x308, 246), (0x6F, 0x309, 7887), (0x6F, 0x30B, 337)]

/-- Part 2 of the pairs that compose: a first character, a second and their composite. -/
def compositionPairs2 : List (Nat × Nat × Nat) :=
  [(0x6F, 0x30C, 466), (0x6F, 0x30F, 525), (0x6F, 0x311, 527), (0x6F, 0x31B, 417),
   (0x6F, 0x323, 7885), (0x6F, 0x328, 491), (0x70, 0x301, 7765), (0x70, 0x307, 7767),
   (0x72, 0x301, 341), (0x72, 0x307, 7769), (0x72, 0x30C, 345), (0x72, 0x30F, 529),
   (0x72, 0x311, 531), (0x72, 0x323, 7771), (0x72, 0x327, 343), (0x72, 0x331, 7775),
   (0x73, 0x301, 347), (0x73, 0x302, 349), (0x73, 0x307, 7777), (0x73, 0x30C, 353),
   (0x73, 0x323, 7779), (0x73, 0x326, 537), (0x73, 0x327, 351), (0x74, 0x307, 7787),
   (0x74, 0x308, 7831), (0x74, 0x30C, 357), (0x74, 0x323, 7789), (0x74, 0x326, 539),
   (0x74, 0x327, 355), (0x74, 0x32D, 7793), (0x74, 0x331, 7791), (0x75, 0x300, 249),
   (0x75, 0x301, 250), (0x75, 0x302, 251), (0x75, 0x303, 361), (0x75, 0x304, 363),
   (0x75, 0x306, 365), (0x75, 0x308, 252), (0x75, 0x309, 7911), (0x75, 0x30A, 367),
   (0x75, 0x30B, 369), (0x75, 0x30C, 468), (0x75, 0x30F, 533), (0x75, 0x311, 535),
   (0x75, 0x31B, 432), (0x75, 0x323, 7909), (0x75, 0x324, 7795), (0x75, 0x328, 371),
   (0x75, 0x32D, 7799), (0x75, 0x330, 7797), (0x76, 0x303, 7805), (0x76, 0x323, 7807),
   (0x77, 0x300, 7809), (0x77, 0x301, 7811), (0x77, 0x302, 373), (0x77, 0x307, 7815),
   (0x77, 0x308, 7813), (0x77, 0x30A, 7832), (0x77, 0x323, 7817), (0x78, 0x307, 7819),
   (0x78, 0x308, 7821), (0x79, 0x300, 7923), (0x79, 0x301, 253), (0x79, 0x302, 375),
   (0x79, 0x303, 7929), (0x79, 0x304, 563), (0x79, 0x307, 7823), (0x79, 0x308, 255),
   (0x79, 0x309, 7927), (0x79, 0x30A, 7833), (0x79, 0x323, 7925), (0x7A, 0x301, 378),
   (0x7A, 0x302, 7825), (0x7A, 0x307, 380), (0x7A, 0x30C, 382), (0x7A, 0x323, 7827),
   (0x7A, 0x331, 7829), (0xA8, 0x300, 8173), (0xA8, 0x301, 901), (0xA8, 0x342, 8129),
   (0xC2, 0x300, 7846), (0xC2, 0x301, 7844), (0xC2, 0x303, 7850), (0xC2, 0x309, 7848),
   (0xC4, 0x304, 478), (0xC5, 0x301, 506), (0xC6, 0x301, 508), (0xC6, 0x304, 482),
   (0xC7, 0x301, 7688), (0xCA, 0x300, 7872), (0xCA, 0x301, 7870), (0xCA, 0x303, 7876),
   (0xCA, 0x309, 7874), (0xCF, 0x301, 7726), (0xD4, 0x300, 7890), (0xD4, 0x301, 7888),
   (0xD4, 0x303, 7894), (0xD4, 0x309, 7892), (0xD5, 0x301, 7756), (0xD5, 0x304, 556),
   (0xD5, 0x308, 7758), (0xD6, 0x304, 554), (0xD8, 0x301, 510), (0xDC, 0x300, 475),
   (0xDC, 0x301, 471), (0xDC, 0x304, 469), (0xDC, 0x30C, 473), (0xE2, 0x300, 7847),
   (0xE2, 0x301, 7845), (0xE2, 0x303, 7851), (0xE2, 0x309, 7849), (0xE4, 0x304, 479),
   (0xE5, 0x301, 507), (0xE6, 0x301, 509), (0xE6, 0x304, 483), (0xE7, 0x301, 7689),
   (0xEA, 0x300, 7873), (0xEA, 0x301, 7871), (0xEA, 0x303, 7877), (0xEA, 0x309, 7875),
   (0xEF, 0x301, 7727), (0xF4, 0x300, 7891), (0xF4, 0x301, 7889), (0xF4, 0x303, 7895),
   (0xF4, 0x309, 7893), (0xF5, 0x301, 7757), (0xF5, 0x304, 557), (0xF5, 0x308, 7759),
   (0xF6, 0x304, 555), (0xF8, 0x301, 511), (0xFC, 0x300, 476), (0xFC, 0x301, 472),
   (0xFC, 0x304, 470), (0xFC, 0x30C, 474), (0x102, 0x300, 7856), (0x102, 0x301, 7854),
   (0x102, 0x303, 7860), (0x102, 0x309, 7858), (0x103, 0x300, 7857), (0x103, 0x301, 7855),
   (0x103, 0x303, 7861), (0x103, 0x309, 7859), (0x112, 0x300, 7700), (0x112, 0x301, 7702),
   (0x113, 0x300, 7701), (0x113, 0x301, 7703), (0x14C, 0x300, 7760), (0x14C, 0x301, 7762),
   (0x14D, 0x300, 7761), (0x14D, 0x301, 7763), (0x15A, 0x307, 7780), (0x15B, 0x307, 7781),
   (0x160, 0x307, 7782), (0x161, 0x307, 7783), (0x168, 0x301, 7800), (0x169, 0x301, 7801),
   (0x16A, 0x308, 7802), (0x16B, 0x308, 7803), (0x17F, 0x307, 7835), (0x1A0, 0x300, 7900),
   (0x1A0, 0x301, 7898), (0x1A0, 0x303, 7904), (0x1A0, 0x309, 7902), (0x1A0, 0x323, 7906),
   (0x1A1, 0x300, 7901), (0x1A1, 0x301, 7899), (0x1A1, 0x303, 7905), (0x1A1, 0x309, 7903),
   (0x1A1, 0x323, 7907), (0x1AF, 0x300, 7914), (0x1AF, 0x301, 7912), (0x1AF, 0x303, 7918),
   (0x1AF, 0x309, 7916), (0x1AF, 0x323, 7920), (0x1B0, 0x300, 7915), (0x1B0, 0x301, 7913),
   (0x1B0, 0x303, 7919), (0x1B0, 0x309, 7917), (0x1B0, 0x323, 7921), (0x1B7, 0x30C, 494),
   (0x1EA, 0x304, 492), (0x1EB, 0x304, 493), (0x226, 0x304, 480), (0x227, 0x304, 481),
   (0x228, 0x306, 7708), (0x229, 0x306, 7709), (0x22E, 0x304, 560), (0x22F, 0x304, 561),
   (0x292, 0x30C, 495), (0x391, 0x300, 8122), (0x391, 0x301, 902), (0x391, 0x304, 8121),
   (0x391, 0x306, 8120), (0x391, 0x313, 7944), (0x391, 0x314, 7945), (0x391, 0x345, 8124),
   (0x395, 0x300, 8136), (0x395, 0x301, 904), (0x395, 0x313, 7960), (0x395, 0x314, 7961),
   (0x397, 0x300, 8138), (0x397, 0x301, 905), (0x397, 0x313, 7976), (0x397, 0x314, 7977),
   (0x397, 0x345, 8140), (0x399, 0x300, 8154), (0x399, 0x301, 906), (0x399, 0x304, 8153),
   (0x399, 0x306, 8152), (0x399, 0x308, 938), (0x399, 0x313, 7992), (0x399, 0x314, 7993),
   (0x39F, 0x300, 8184), (0x39F, 0x301, 908), (0x39F, 0x313, 8008), (0x39F, 0x314, 8009),
   (0x3A1, 0x314, 8172), (0x3A5, 0x300, 8170), (0x3A5, 0x301, 910), (0x3A5, 0x304, 8169),
   (0x3A5, 0x306, 8168), (0x3A5, 0x308, 939), (0x3A5, 0x314, 8025), (0x3A9, 0x300, 8186),
   (0x3A9, 0x301, 911), (0x3A9, 0x313, 8040), (0x3A9, 0x314, 8041), (0x3A9, 0x345, 8188),
   (0x3AC, 0x345, 8116), (0x3AE, 0x345, 8132), (0x3B1, 0x300, 8048), (0x3B1, 0x301, 940),
   (0x3B1, 0x304, 8113), (0x3B1, 0x306, 8112), (0x3B1, 0x313, 7936), (0x3B1, 0x314, 7937),
   (0x3B1, 0x342, 8118), (0x3B1, 0x345, 8115), (0x3B5, 0x300, 8050), (0x3B5, 0x301, 941),
   (0x3B5, 0x313, 7952), (0x3B5, 0x314, 7953), (0x3B7, 0x300, 8052), (0x3B7, 0x301, 942),
   (0x3B7, 0x313, 7968), (0x3B7, 0x314, 7969), (0x3B7, 0x342, 8134), (0x3B7, 0x345, 8131),
   (0x3B9, 0x300, 8054), (0x3B9, 0x301, 943), (0x3B9, 0x304, 8145), (0x3B9, 0x306, 8144),
   (0x3B9, 0x308, 970), (0x3B9, 0x313, 7984), (0x3B9, 0x314, 7985), (0x3B9, 0x342, 8150),
   (0x3BF, 0x300, 8056), (0x3BF, 0x301, 972), (0x3BF, 0x313, 8000), (0x3BF, 0x314, 8001),
   (0x3C1, 0x313, 8164), (0x3C1, 0x314, 8165), (0x3C5, 0x300, 8058), (0x3C5, 0x301, 973),
   (0x3C5, 0x304, 8161), (0x3C5, 0x306, 8160), (0x3C5, 0x308, 971), (0x3C5, 0x313, 8016),
   (0x3C5, 0x314, 8017), (0x3C5, 0x342, 8166), (0x3C9, 0x300, 8060), (0x3C9, 0x301, 974),
   (0x3C9, 0x313, 8032), (0x3C9, 0x314, 8033), (0x3C9, 0x342, 8182), (0x3C9, 0x345, 8179),
   (0x3CA, 0x300, 8146), (0x3CA, 0x301, 912), (0x3CA, 0x342, 8151), (0x3CB, 0x300, 8162),
   (0x3CB, 0x301, 944), (0x3CB, 0x342, 8167), (0x3CE, 0x345, 8180), (0x3D2, 0x301, 979),
   (0x3D2, 0x308, 980), (0x406, 0x308, 1031), (0x410, 0x306, 1232), (0x410, 0x308, 1234),
   (0x413, 0x301, 1027), (0x415, 0x300, 1024), (0x415, 0x306, 1238), (0x415, 0x308, 1025),
   (0x416, 0x306, 1217), (0x416, 0x308, 1244), (0x417, 0x308, 1246), (0x418, 0x300, 1037),
   (0x418, 0x304, 1250), (0x418, 0x306, 1049), (0x418, 0x308, 1252), (0x41A, 0x301, 1036)]

/-- Part 3 of the pairs that compose: a first character, a second and their composite. -/
def compositionPairs3 : List (Nat × Nat × Nat) :=
  [(0x41E, 0x308, 1254), (0x423, 0x304, 1262), (0x423, 0x306, 1038), (0x423, 0x308, 1264),
   (0x423, 0x30B, 1266), (0x427, 0x308, 1268), (0x42B, 0x308, 1272), (0x42D, 0x308, 1260),
   (0x430, 0x306, 1233), (0x430, 0x308, 1235), (0x433, 0x301, 1107), (0x435, 0x300, 1104),
   (0x435, 0x306, 1239), (0x435, 0x308, 1105), (0x436, 0x306, 1218), (0x436, 0x308, 1245),
   (0x437, 0x308, 1247), (0x438, 0x300, 1117), (0x438, 0x304, 1251), (0x438, 0x306, 1081),
   (0x438, 0x308, 1253), (0x43A, 0x301, 1116), (0x43E, 0x308, 1255), (0x443, 0x304, 1263),
   (0x443, 0x306, 1118), (0x443, 0x308, 1265), (0x443, 0x30B, 1267), (0x447, 0x308, 1269),
   (0x44B, 0x308, 1273), (0x44D, 0x308, 1261), (0x456, 0x308, 1111), (0x474, 0x30F, 1142),
   (0x475, 0x30F, 1143), (0x4D8, 0x308, 1242), (0x4D9, 0x308, 1243), (0x4E8, 0x308, 1258),
   (0x4E9, 0x308, 1259), (0x627, 0x653, 1570), (0x627, 0x654, 1571), (0x627, 0x655, 1573),
   (0x648, 0x654, 1572), (0x64A, 0x654, 1574), (0x6C1, 0x654, 1730), (0x6D2, 0x654, 1747),
   (0x6D5, 0x654, 1728), (0x928, 0x93C, 2345), (0x930, 0x93C, 2353), (0x933, 0x93C, 2356),
   (0x9C7, 0x9BE, 2507), (0x9C7, 0x9D7, 2508), (0xB47, 0xB3E, 2891), (0xB47, 0xB56, 2888),
   (0xB47, 0xB57, 2892), (0xB92, 0xBD7, 2964), (0xBC6, 0xBBE, 3018), (0xBC6, 0xBD7, 3020),
   (0xBC7, 0xBBE, 3019), (0xC46, 0xC56, 3144), (0xCBF, 0xCD5, 3264), (0xCC6, 0xCC2, 3274),
   (0xCC6, 0xCD5, 3271), (0xCC6, 0xCD6, 3272), (0xCCA, 0xCD5, 3275), (0xD46, 0xD3E, 3402),
   (0xD46, 0xD57, 3404), (0xD47, 0xD3E, 3403), (0xDD9, 0xDCA, 3546), (0xDD9, 0xDCF, 3548),
   (0xDD9, 0xDDF, 3550), (0xDDC, 0xDCA, 3549), (0x1025, 0x102E, 4134), (0x1B05, 0x1B35, 6918),
   (0x1B07, 0x1B35, 6920), (0x1B09, 0x1B35, 6922), (0x1B0B, 0x1B35, 6924), (0x1B0D, 0x1B35, 6926),
   (0x1B11, 0x1B35, 6930), (0x1B3A, 0x1B35, 6971), (0x1B3C, 0x1B35, 6973), (0x1B3E, 0x1B35, 6976),
   (0x1B3F, 0x1B35, 6977), (0x1B42, 0x1B35, 6979), (0x1E36, 0x304, 7736), (0x1E37, 0x304, 7737),
   (0x1E5A, 0x304, 7772), (0x1E5B, 0x304, 7773), (0x1E62, 0x307, 7784), (0x1E63, 0x307, 7785),
   (0x1EA0, 0x302, 7852), (0x1EA0, 0x306, 7862), (0x1EA1, 0x302, 7853), (0x1EA1, 0x306, 7863),
   (0x1EB8, 0x302, 7878), (0x1EB9, 0x302, 7879), (0x1ECC, 0x302, 7896), (0x1ECD, 0x302, 7897),
   (0x1F00, 0x300, 7938), (0x1F00, 0x301, 7940), (0x1F00, 0x342, 7942), (0x1F00, 0x345, 8064),
   (0x1F01, 0x300, 7939), (0x1F01, 0x301, 7941), (0x1F01, 0x342, 7943), (0x1F01, 0x345, 8065),
   (0x1F02, 0x345, 8066), (0x1F03, 0x345, 8067), (0x1F04, 0x345, 8068), (0x1F05, 0x345, 8069),
   (0x1F06, 0x345, 8070), (0x1F07, 0x345, 8071), (0x1F08, 0x300, 7946), (0x1F08, 0x301, 7948),
   (0x1F08, 0x342, 7950), (0x1F08, 0x345, 8072), (0x1F09, 0x300, 7947), (0x1F09, 0x301, 7949),
   (0x1F09, 0x342, 7951), (0x1F09, 0x345, 8073), (0x1F0A, 0x345, 8074), (0x1F0B, 0x345, 8075),
   (0x1F0C, 0x345, 8076), (0x1F0D, 0x345, 8077), (0x1F0E, 0x345, 8078), (0x1F0F, 0x345, 8079),
   (0x1F10, 0x300, 7954), (0x1F10, 0x301, 7956), (0x1F11, 0x300, 7955), (0x1F11, 0x301, 7957),
   (0x1F18, 0x300, 7962), (0x1F18, 0x301, 7964), (0x1F19, 0x300, 7963), (0x1F19, 0x301, 7965),
   (0x1F20, 0x300, 7970), (0x1F20, 0x301, 7972), (0x1F20, 0x342, 7974), (0x1F20, 0x345, 8080),
   (0x1F21, 0x300, 7971), (0x1F21, 0x301, 7973), (0x1F21, 0x342, 7975), (0x1F21, 0x345, 8081),
   (0x1F22, 0x345, 8082), (0x1F23, 0x345, 8083), (0x1F24, 0x345, 8084), (0x1F25, 0x345, 8085),
   (0x1F26, 0x345, 8086), (0x1F27, 0x345, 8087), (0x1F28, 0x300, 7978), (0x1F28, 0x301, 7980),
   (0x1F28, 0x342, 7982), (0x1F28, 0x345, 8088), (0x1F29, 0x300, 7979), (0x1F29, 0x301, 7981),
   (0x1F29, 0x342, 7983), (0x1F29, 0x345, 8089), (0x1F2A, 0x345, 8090), (0x1F2B, 0x345, 8091),
   (0x1F2C, 0x345, 8092), (0x1F2D, 0x345, 8093), (0x1F2E, 0x345, 8094), (0x1F2F, 0x345, 8095),
   (0x1F30, 0x300, 7986), (0x1F30, 0x301, 7988), (0x1F30, 0x342, 7990), (0x1F31, 0x300, 7987),
   (0x1F31, 0x301, 7989), (0x1F31, 0x342, 7991), (0x1F38, 0x300, 7994), (0x1F38, 0x301, 7996),
   (0x1F38, 0x342, 7998), (0x1F39, 0x300, 7995), (0x1F39, 0x301, 7997), (0x1F39, 0x342, 7999),
   (0x1F40, 0x300, 8002), (0x1F40, 0x301, 8004), (0x1F41, 0x300, 8003), (0x1F41, 0x301, 8005),
   (0x1F48, 0x300, 8010), (0x1F48, 0x301, 8012), (0x1F49, 0x300, 8011), (0x1F49, 0x301, 8013),
   (0x1F50, 0x300, 8018), (0x1F50, 0x301, 8020), (0x1F50, 0x342, 8022), (0x1F51, 0x300, 8019),
   (0x1F51, 0x301, 8021), (0x1F51, 0x342, 8023), (0x1F59, 0x300, 8027), (0x1F59, 0x301, 8029),
   (0x1F59, 0x342, 8031), (0x1F60, 0x300, 8034), (0x1F60, 0x301, 8036), (0x1F60, 0x342, 8038),
   (0x1F60, 0x345, 8096), (0x1F61, 0x300, 8035), (0x1F61, 0x301, 8037), (0x1F61, 0x342, 8039),
   (0x1F61, 0x345, 8097), (0x1F62, 0x345, 8098), (0x1F63, 0x345, 8099), (0x1F64, 0x345, 8100),
   (0x1F65, 0x345, 8101), (0x1F66, 0x345, 8102), (0x1F67, 0x345, 8103), (0x1F68, 0x300, 8042),
   (0x1F68, 0x301, 8044), (0x1F68, 0x342, 8046), (0x1F68, 0x345, 8104), (0x1F69, 0x300, 8043),
   (0x1F69, 0x301, 8045), (0x1F69, 0x342, 8047), (0x1F69, 0x345, 8105), (0x1F6A, 0x345, 8106),
   (0x1F6B, 0x345, 8107), (0x1F6C, 0x345, 8108), (0x1F6D, 0x345, 8109), (0x1F6E, 0x345, 8110),
   (0x1F6F, 0x345, 8111), (0x1F70, 0x345, 8114), (0x1F74, 0x345, 8130), (0x1F7C, 0x345, 8178),
   (0x1FB6, 0x345, 8119), (0x1FBF, 0x300, 8141), (0x1FBF, 0x301, 8142), (0x1FBF, 0x342, 8143),
   (0x1FC6, 0x345, 8135), (0x1FF6, 0x345, 8183), (0x1FFE, 0x300, 8157), (0x1FFE, 0x301, 8158),
   (0x1FFE, 0x342, 8159), (0x2190, 0x338, 8602), (0x2192, 0x338, 8603), (0x2194, 0x338, 8622),
   (0x21D0, 0x338, 8653), (0x21D2, 0x338, 8655), (0x21D4, 0x338, 8654), (0x2203, 0x338, 8708),
   (0x2208, 0x338, 8713), (0x220B, 0x338, 8716), (0x2223, 0x338, 8740), (0x2225, 0x338, 8742),
   (0x223C, 0x338, 8769), (0x2243, 0x338, 8772), (0x2245, 0x338, 8775), (0x2248, 0x338, 8777),
   (0x224D, 0x338, 8813), (0x2261, 0x338, 8802), (0x2264, 0x338, 8816), (0x2265, 0x338, 8817),
   (0x2272, 0x338, 8820), (0x2273, 0x338, 8821), (0x2276, 0x338, 8824), (0x2277, 0x338, 8825),
   (0x227A, 0x338, 8832), (0x227B, 0x338, 8833), (0x227C, 0x338, 8928), (0x227D, 0x338, 8929),
   (0x2282, 0x338, 8836), (0x2283, 0x338, 8837), (0x2286, 0x338, 8840), (0x2287, 0x338, 8841),
   (0x2291, 0x338, 8930), (0x2292, 0x338, 8931), (0x22A2, 0x338, 8876), (0x22A8, 0x338, 8877),
   (0x22A9, 0x338, 8878), (0x22AB, 0x338, 8879), (0x22B2, 0x338, 8938), (0x22B3, 0x338, 8939),
   (0x22B4, 0x338, 8940), (0x22B5, 0x338, 8941), (0x3046, 0x3099, 12436), (0x304B, 0x3099, 12364),
   (0x304D, 0x3099, 12366), (0x304F, 0x3099, 12368), (0x3051, 0x3099, 12370), (0x3053, 0x3099, 12372),
   (0x3055, 0x3099, 12374), (0x3057, 0x3099, 12376), (0x3059, 0x3099, 12378), (0x305B, 0x3099, 12380),
   (0x305D, 0x3099, 12382), (0x305F, 0x3099, 12384), (0x3061, 0x3099, 12386), (0x3064, 0x3099, 12389),
   (0x3066, 0x3099, 12391), (0x3068, 0x3099, 12393), (0x306F, 0x3099, 12400), (0x306F, 0x309A, 12401),
   (0x3072, 0x3099, 12403), (0x3072, 0x309A, 12404), (0x3075, 0x3099, 12406), (0x3075, 0x309A, 12407),
   (0x3078, 0x3099, 12409), (0x3078, 0x309A, 12410), (0x307B, 0x3099, 12412), (0x307B, 0x309A, 12413),
   (0x309D, 0x3099, 12446), (0x30A6, 0x3099, 12532), (0x30AB, 0x3099, 12460), (0x30AD, 0x3099, 12462)]

/-- Part 4 of the pairs that compose: a first character, a second and their composite. -/
def compositionPairs4 : List (Nat × Nat × Nat) :=
  [(0x30AF, 0x3099, 12464), (0x30B1, 0x3099, 12466), (0x30B3, 0x3099, 12468), (0x30B5, 0x3099, 12470),
   (0x30B7, 0x3099, 12472), (0x30B9, 0x3099, 12474), (0x30BB, 0x3099, 12476), (0x30BD, 0x3099, 12478),
   (0x30BF, 0x3099, 12480), (0x30C1, 0x3099, 12482), (0x30C4, 0x3099, 12485), (0x30C6, 0x3099, 12487),
   (0x30C8, 0x3099, 12489), (0x30CF, 0x3099, 12496), (0x30CF, 0x309A, 12497), (0x30D2, 0x3099, 12499),
   (0x30D2, 0x309A, 12500), (0x30D5, 0x3099, 12502), (0x30D5, 0x309A, 12503), (0x30D8, 0x3099, 12505),
   (0x30D8, 0x309A, 12506), (0x30DB, 0x3099, 12508), (0x30DB, 0x309A, 12509), (0x30EF, 0x3099, 12535),
   (0x30F0, 0x3099, 12536), (0x30F1, 0x3099, 12537), (0x30F2, 0x3099, 12538), (0x30FD, 0x3099, 12542),
   (0x11099, 0x110BA, 69786), (0x1109B, 0x110BA, 69788), (0x110A5, 0x110BA, 69803), (0x11131, 0x11127, 69934),
   (0x11132, 0x11127, 69935), (0x11347, 0x1133E, 70475), (0x11347, 0x11357, 70476), (0x114B9, 0x114B0, 70844),
   (0x114B9, 0x114BA, 70843), (0x114B9, 0x114BD, 70846), (0x115B8, 0x115AF, 71098), (0x115B9, 0x115AF, 71099),
   (0x11935, 0x11930, 71992)]

/-- The pairs that compose: a first character, a second and their composite. -/
def compositionPairs : List (Nat × Nat × Nat) :=
  compositionPairs1 ++
    compositionPairs2 ++
    compositionPairs3 ++
    compositionPairs4

/-- The prohibited code points, as ranges. -/
def prohibitedRanges : List (Nat × Nat) :=
  [(0x80, 0xA0), (0x340, 0x341), (0x6DD, 0x6DD), (0x70F, 0x70F),
   (0x1680, 0x1680), (0x180E, 0x180E), (0x2000, 0x200F), (0x2028, 0x202F),
   (0x205F, 0x2063), (0x206A, 0x206F), (0x2FF0, 0x2FFB), (0x3000, 0x3000),
   (0xD800, 0xF8FF), (0xFDD0, 0xFDEF), (0xFEFF, 0xFEFF), (0xFFF9, 0xFFFF),
   (0x1D173, 0x1D17A), (0x1FFFE, 0x1FFFF), (0x2FFFE, 0x2FFFF), (0x3FFFE, 0x3FFFF),
   (0x4FFFE, 0x4FFFF), (0x5FFFE, 0x5FFFF), (0x6FFFE, 0x6FFFF), (0x7FFFE, 0x7FFFF),
   (0x8FFFE, 0x8FFFF), (0x9FFFE, 0x9FFFF), (0xAFFFE, 0xAFFFF), (0xBFFFE, 0xBFFFF),
   (0xCFFFE, 0xCFFFF), (0xDFFFE, 0xDFFFF), (0xE0001, 0xE0001), (0xE0020, 0xE007F),
   (0xEFFFE, 0x10FFFF)]

/-- The right-to-left code points (table D.1), as ranges. -/
def rightToLeftRanges : List (Nat × Nat) :=
  [(0x5BE, 0x5BE), (0x5C0, 0x5C0), (0x5C3, 0x5C3), (0x5D0, 0x5EA),
   (0x5F0, 0x5F4), (0x61B, 0x61B), (0x61F, 0x61F), (0x621, 0x63A),
   (0x640, 0x64A), (0x66D, 0x66F), (0x671, 0x6D5), (0x6DD, 0x6DD),
   (0x6E5, 0x6E6), (0x6FA, 0x6FE), (0x700, 0x70D), (0x710, 0x710),
   (0x712, 0x72C), (0x780, 0x7A5), (0x7B1, 0x7B1), (0x200F, 0x200F),
   (0xFB1D, 0xFB1D), (0xFB1F, 0xFB28), (0xFB2A, 0xFB36), (0xFB38, 0xFB3C),
   (0xFB3E, 0xFB3E), (0xFB40, 0xFB41), (0xFB43, 0xFB44), (0xFB46, 0xFBB1),
   (0xFBD3, 0xFD3D), (0xFD50, 0xFD8F), (0xFD92, 0xFDC7), (0xFDF0, 0xFDFC),
   (0xFE70, 0xFE74), (0xFE76, 0xFEFC)]

/-- Part 1 of the left-to-right code points (table D.2), as ranges. -/
def leftToRightRanges1 : List (Nat × Nat) :=
  [(0x41, 0x5A), (0x61, 0x7A), (0xAA, 0xAA), (0xB5, 0xB5),
   (0xBA, 0xBA), (0xC0, 0xD6), (0xD8, 0xF6), (0xF8, 0x220),
   (0x222, 0x233), (0x250, 0x2AD), (0x2B0, 0x2B8), (0x2BB, 0x2C1),
   (0x2D0, 0x2D1), (0x2E0, 0x2E4), (0x2EE, 0x2EE), (0x37A, 0x37A),
   (0x386, 0x386), (0x388, 0x38A), (0x38C, 0x38C), (0x38E, 0x3A1),
   (0x3A3, 0x3CE), (0x3D0, 0x3F5), (0x400, 0x482), (0x48A, 0x4CE),
   (0x4D0, 0x4F5), (0x4F8, 0x4F9), (0x500, 0x50F), (0x531, 0x556),
   (0x559, 0x55F), (0x561, 0x587), (0x589, 0x589), (0x903, 0x903),
   (0x905, 0x939), (0x93D, 0x940), (0x949, 0x94C), (0x950, 0x950),
   (0x958, 0x961), (0x964, 0x970), (0x982, 0x983), (0x985, 0x98C),
   (0x98F, 0x990), (0x993, 0x9A8), (0x9AA, 0x9B0), (0x9B2, 0x9B2),
   (0x9B6, 0x9B9), (0x9BE, 0x9C0), (0x9C7, 0x9C8), (0x9CB, 0x9CC),
   (0x9D7, 0x9D7), (0x9DC, 0x9DD), (0x9DF, 0x9E1), (0x9E6, 0x9F1),
   (0x9F4, 0x9FA), (0xA05, 0xA0A), (0xA0F, 0xA10), (0xA13, 0xA28),
   (0xA2A, 0xA30), (0xA32, 0xA33), (0xA35, 0xA36), (0xA38, 0xA39),
   (0xA3E, 0xA40), (0xA59, 0xA5C), (0xA5E, 0xA5E), (0xA66, 0xA6F),
   (0xA72, 0xA74), (0xA83, 0xA83), (0xA85, 0xA8B), (0xA8D, 0xA8D),
   (0xA8F, 0xA91), (0xA93, 0xAA8), (0xAAA, 0xAB0), (0xAB2, 0xAB3),
   (0xAB5, 0xAB9), (0xABD, 0xAC0), (0xAC9, 0xAC9), (0xACB, 0xACC),
   (0xAD0, 0xAD0), (0xAE0, 0xAE0), (0xAE6, 0xAEF), (0xB02, 0xB03),
   (0xB05, 0xB0C), (0xB0F, 0xB10), (0xB13, 0xB28), (0xB2A, 0xB30),
   (0xB32, 0xB33), (0xB36, 0xB39), (0xB3D, 0xB3E), (0xB40, 0xB40),
   (0xB47, 0xB48), (0xB4B, 0xB4C), (0xB57, 0xB57), (0xB5C, 0xB5D),
   (0xB5F, 0xB61), (0xB66, 0xB70), (0xB83, 0xB83), (0xB85, 0xB8A),
   (0xB8E, 0xB90), (0xB92, 0xB95), (0xB99, 0xB9A), (0xB9C, 0xB9C),
   (0xB9E, 0xB9F), (0xBA3, 0xBA4), (0xBA8, 0xBAA), (0xBAE, 0xBB5),
   (0xBB7, 0xBB9), (0xBBE, 0xBBF), (0xBC1, 0xBC2), (0xBC6, 0xBC8),
   (0xBCA, 0xBCC), (0xBD7, 0xBD7), (0xBE7, 0xBF2), (0xC01, 0xC03),
   (0xC05, 0xC0C), (0xC0E, 0xC10), (0xC12, 0xC28), (0xC2A, 0xC33),
   (0xC35, 0xC39), (0xC41, 0xC44), (0xC60, 0xC61), (0xC66, 0xC6F),
   (0xC82, 0xC83), (0xC85, 0xC8C), (0xC8E, 0xC90), (0xC92, 0xCA8),
   (0xCAA, 0xCB3), (0xCB5, 0xCB9), (0xCBE, 0xCBE), (0xCC0, 0xCC4),
   (0xCC7, 0xCC8), (0xCCA, 0xCCB), (0xCD5, 0xCD6), (0xCDE, 0xCDE),
   (0xCE0, 0xCE1), (0xCE6, 0xCEF), (0xD02, 0xD03), (0xD05, 0xD0C),
   (0xD0E, 0xD10), (0xD12, 0xD28), (0xD2A, 0xD39), (0xD3E, 0xD40),
   (0xD46, 0xD48), (0xD4A, 0xD4C), (0xD57, 0xD57), (0xD60, 0xD61),
   (0xD66, 0xD6F), (0xD82, 0xD83), (0xD85, 0xD96), (0xD9A, 0xDB1),
   (0xDB3, 0xDBB), (0xDBD, 0xDBD), (0xDC0, 0xDC6), (0xDCF, 0xDD1),
   (0xDD8, 0xDDF), (0xDF2, 0xDF4), (0xE01, 0xE30), (0xE32, 0xE33),
   (0xE40, 0xE46), (0xE4F, 0xE5B), (0xE81, 0xE82), (0xE84, 0xE84),
   (0xE87, 0xE88), (0xE8A, 0xE8A), (0xE8D, 0xE8D), (0xE94, 0xE97),
   (0xE99, 0xE9F), (0xEA1, 0xEA3), (0xEA5, 0xEA5), (0xEA7, 0xEA7),
   (0xEAA, 0xEAB), (0xEAD, 0xEB0), (0xEB2, 0xEB3), (0xEBD, 0xEBD),
   (0xEC0, 0xEC4), (0xEC6, 0xEC6), (0xED0, 0xED9), (0xEDC, 0xEDD),
   (0xF00, 0xF17), (0xF1A, 0xF34), (0xF36, 0xF36), (0xF38, 0xF38),
   (0xF3E, 0xF47), (0xF49, 0xF6A), (0xF7F, 0xF7F), (0xF85, 0xF85),
   (0xF88, 0xF8B), (0xFBE, 0xFC5), (0xFC7, 0xFCC), (0xFCF, 0xFCF),
   (0x1000, 0x1021), (0x1023, 0x1027), (0x1029, 0x102A), (0x102C, 0x102C),
   (0x1031, 0x1031), (0x1038, 0x1038), (0x1040, 0x1057), (0x10A0, 0x10C5),
   (0x10D0, 0x10F8), (0x10FB, 0x10FB), (0x1100, 0x1159), (0x115F, 0x11A2),
   (0x11A8, 0x11F9), (0x1200, 0x1206), (0x1208, 0x1246), (0x1248, 0x1248),
   (0x124A, 0x124D), (0x1250, 0x1256), (0x1258, 0x1258), (0x125A, 0x125D),
   (0x1260, 0x1286), (0x1288, 0x1288), (0x128A, 0x128D), (0x1290, 0x12AE),
   (0x12B0, 0x12B0), (0x12B2, 0x12B5), (0x12B8, 0x12BE), (0x12C0, 0x12C0),
   (0x12C2, 0x12C5), (0x12C8, 0x12CE), (0x12D0, 0x12D6), (0x12D8, 0x12EE),
   (0x12F0, 0x130E), (0x1310, 0x1310), (0x1312, 0x1315), (0x1318, 0x131E),
   (0x1320, 0x1346), (0x1348, 0x135A), (0x1361, 0x137C), (0x13A0, 0x13F4),
   (0x1401, 0x1676), (0x1681, 0x169A), (0x16A0, 0x16F0), (0x1700, 0x170C),
   (0x170E, 0x1711), (0x1720, 0x1731), (0x1735, 0x1736), (0x1740, 0x1751),
   (0x1760, 0x176C), (0x176E, 0x1770), (0x1780, 0x17B6), (0x17BE, 0x17C5),
   (0x17C7, 0x17C8), (0x17D4, 0x17DA), (0x17DC, 0x17DC), (0x17E0, 0x17E9),
   (0x1810, 0x1819), (0x1820, 0x1877), (0x1880, 0x18A8), (0x1E00, 0x1E9B),
   (0x1EA0, 0x1EF9), (0x1F00, 0x1F15), (0x1F18, 0x1F1D), (0x1F20, 0x1F45),
   (0x1F48, 0x1F4D), (0x1F50, 0x1F57), (0x1F59, 0x1F59), (0x1F5B, 0x1F5B),
   (0x1F5D, 0x1F5D), (0x1F5F, 0x1F7D), (0x1F80, 0x1FB4), (0x1FB6, 0x1FBC),
   (0x1FBE, 0x1FBE), (0x1FC2, 0x1FC4), (0x1FC6, 0x1FCC), (0x1FD0, 0x1FD3),
   (0x1FD6, 0x1FDB), (0x1FE0, 0x1FEC), (0x1FF2, 0x1FF4), (0x1FF6, 0x1FFC),
   (0x200E, 0x200E), (0x2071, 0x2071), (0x207F, 0x207F), (0x2102, 0x2102),
   (0x2107, 0x2107), (0x210A, 0x2113), (0x2115, 0x2115), (0x2119, 0x211D),
   (0x2124, 0x2124), (0x2126, 0x2126), (0x2128, 0x2128), (0x212A, 0x212D),
   (0x212F, 0x2131), (0x2133, 0x2139), (0x213D, 0x213F), (0x2145, 0x2149),
   (0x2160, 0x2183), (0x2336, 0x237A), (0x2395, 0x2395), (0x249C, 0x24E9),
   (0x3005, 0x3007), (0x3021, 0x3029), (0x3031, 0x3035), (0x3038, 0x303C),
   (0x3041, 0x3096), (0x309D, 0x309F), (0x30A1, 0x30FA), (0x30FC, 0x30FF),
   (0x3105, 0x312C), (0x3131, 0x318E), (0x3190, 0x31B7), (0x31F0, 0x321C)]

/-- Part 2 of the left-to-right code points (table D.2), as ranges. -/
def leftToRightRanges2 : List (Nat × Nat) :=
  [(0x3220, 0x3243), (0x3260, 0x327B), (0x327F, 0x32B0), (0x32C0, 0x32CB),
   (0x32D0, 0x32FE), (0x3300, 0x3376), (0x337B, 0x33DD), (0x33E0, 0x33FE),
   (0x3400, 0x4DB5), (0x4E00, 0x9FA5), (0xA000, 0xA48C), (0xAC00, 0xD7A3),
   (0xD800, 0xFA2D), (0xFA30, 0xFA6A), (0xFB00, 0xFB06), (0xFB13, 0xFB17),
   (0xFF21, 0xFF3A), (0xFF41, 0xFF5A), (0xFF66, 0xFFBE), (0xFFC2, 0xFFC7),
   (0xFFCA, 0xFFCF), (0xFFD2, 0xFFD7), (0xFFDA, 0xFFDC), (0x10300, 0x1031E),
   (0x10320, 0x10323), (0x10330, 0x1034A), (0x10400, 0x10425), (0x10428, 0x1044D),
   (0x1D000, 0x1D0F5), (0x1D100, 0x1D126), (0x1D12A, 0x1D166), (0x1D16A, 0x1D172),
   (0x1D183, 0x1D184), (0x1D18C, 0x1D1A9), (0x1D1AE, 0x1D1DD), (0x1D400, 0x1D454),
   (0x1D456, 0x1D49C), (0x1D49E, 0x1D49F), (0x1D4A2, 0x1D4A2), (0x1D4A5, 0x1D4A6),
   (0x1D4A9, 0x1D4AC), (0x1D4AE, 0x1D4B9), (0x1D4BB, 0x1D4BB), (0x1D4BD, 0x1D4C0),
   (0x1D4C2, 0x1D4C3), (0x1D4C5, 0x1D505), (0x1D507, 0x1D50A), (0x1D50D, 0x1D514),
   (0x1D516, 0x1D51C), (0x1D51E, 0x1D539), (0x1D53B, 0x1D53E), (0x1D540, 0x1D544),
   (0x1D546, 0x1D546), (0x1D54A, 0x1D550), (0x1D552, 0x1D6A3), (0x1D6A8, 0x1D7C9),
   (0x20000, 0x2A6D6), (0x2F800, 0x2FA1D), (0xF0000, 0xFFFFD), (0x100000, 0x10FFFD)]

/-- The left-to-right code points (table D.2), as ranges. -/
def leftToRightRanges : List (Nat × Nat) :=
  leftToRightRanges1 ++
    leftToRightRanges2

end Stencil.Files.Nameprep
