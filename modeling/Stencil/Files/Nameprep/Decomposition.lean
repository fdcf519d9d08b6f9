/-!
# Compatibility decompositions

The full compatibility decomposition of each character that has one, by the
Unicode database of version 3.2 with its later corrections; a character that was
not assigned in version 3.2 has none. Hangul syllables decompose by rule and are
not listed.
-/

namespace Stencil.Files.Nameprep

/-- Part 1 of the compatibility decompositions, by code point. -/
def decompositions1 : List (Nat × String) :=
  [(0xA0, " "), (0xA8, " \u0308"), (0xAA, "a"), (0xAF, " \u0304"),
   (0xB2, "2"), (0xB3, "3"), (0xB4, " \u0301"), (0xB5, "μ"),
   (0xB8, " \u0327"), (0xB9, "1"), (0xBA, "o"), (0xBC, "1⁄4"),
   (0xBD, "1⁄2"), (0xBE, "3⁄4"), (0xC0, "A\u0300"), (0xC1, "A\u0301"),
   (0xC2, "A\u0302"), (0xC3, "A\u0303"), (0xC4, "A\u0308"), (0xC5, "A\u030a"),
   (0xC7, "C\u0327"), (0xC8, "E\u0300"), (0xC9, "E\u0301"), (0xCA, "E\u0302"),
   (0xCB, "E\u0308"), (0xCC, "I\u0300"), (0xCD, "I\u0301"), (0xCE, "I\u0302"),
   (0xCF, "I\u0308"), (0xD1, "N\u0303"), (0xD2, "O\u0300"), (0xD3, "O\u0301"),
   (0xD4, "O\u0302"), (0xD5, "O\u0303"), (0xD6, "O\u0308"), (0xD9, "U\u0300"),
   (0xDA, "U\u0301"), (0xDB, "U\u0302"), (0xDC, "U\u0308"), (0xDD, "Y\u0301"),
   (0xE0, "a\u0300"), (0xE1, "a\u0301"), (0xE2, "a\u0302"), (0xE3, "a\u0303"),
   (0xE4, "a\u0308"), (0xE5, "a\u030a"), (0xE7, "c\u0327"), (0xE8, "e\u0300"),
   (0xE9, "e\u0301"), (0xEA, "e\u0302"), (0xEB, "e\u0308"), (0xEC, "i\u0300"),
   (0xED, "i\u0301"), (0xEE, "i\u0302"), (0xEF, "i\u0308"), (0xF1, "n\u0303"),
   (0xF2, "o\u0300"), (0xF3, "o\u0301"), (0xF4, "o\u0302"), (0xF5, "o\u0303"),
   (0xF6, "o\u0308"), (0xF9, "u\u0300"), (0xFA, "u\u0301"), (0xFB, "u\u0302"),
   (0xFC, "u\u0308"), (0xFD, "y\u0301"), (0xFF, "y\u0308"), (0x100, "A\u0304"),
   (0x101, "a\u0304"), (0x102, "A\u0306"), (0x103, "a\u0306"), (0x104, "A\u0328"),
   (0x105, "a\u0328"), (0x106, "C\u0301"), (0x107, "c\u0301"), (0x108, "C\u0302"),
   (0x109, "c\u0302"), (0x10A, "C\u0307"), (0x10B, "c\u0307"), (0x10C, "C\u030c"),
   (0x10D, "c\u030c"), (0x10E, "D\u030c"), (0x10F, "d\u030c"), (0x112, "E\u0304"),
   (0x113, "e\u0304"), (0x114, "E\u0306"), (0x115, "e\u0306"), (0x116, "E\u0307"),
   (0x117, "e\u0307"), (0x118, "E\u0328"), (0x119, "e\u0328"), (0x11A, "E\u030c"),
   (0x11B, "e\u030c"), (0x11C, "G\u0302"), (0x11D, "g\u0302"), (0x11E, "G\u0306"),
   (0x11F, "g\u0306"), (0x120, "G\u0307"), (0x121, "g\u0307"), (0x122, "G\u0327"),
   (0x123, "g\u0327"), (0x124, "H\u0302"), (0x125, "h\u0302"), (0x128, "I\u0303"),
   (0x129, "i\u0303"), (0x12A, "I\u0304"), (0x12B, "i\u0304"), (0x12C, "I\u0306"),
   (0x12D, "i\u0306"), (0x12E, "I\u0328"), (0x12F, "i\u0328"), (0x130, "I\u0307"),
   (0x132, "IJ"), (0x133, "ij"), (0x134, "J\u0302"), (0x135, "j\u0302"),
   (0x136, "K\u0327"), (0x137, "k\u0327"), (0x139, "L\u0301"), (0x13A, "l\u0301"),
   (0x13B, "L\u0327"), (0x13C, "l\u0327"), (0x13D, "L\u030c"), (0x13E, "l\u030c"),
   (0x13F, "L·"), (0x140, "l·"), (0x143, "N\u0301"), (0x144, "n\u0301"),
   (0x145, "N\u0327"), (0x146, "n\u0327"), (0x147, "N\u030c"), (0x148, "n\u030c"),
   (0x149, "ʼn"), (0x14C, "O\u0304"), (0x14D, "o\u0304"), (0x14E, "O\u0306"),
   (0x14F, "o\u0306"), (0x150, "O\u030b"), (0x151, "o\u030b"), (0x154, "R\u0301"),
   (0x155, "r\u0301"), (0x156, "R\u0327"), (0x157, "r\u0327"), (0x158, "R\u030c"),
   (0x159, "r\u030c"), (0x15A, "S\u0301"), (0x15B, "s\u0301"), (0x15C, "S\u0302"),
   (0x15D, "s\u0302"), (0x15E, "S\u0327"), (0x15F, "s\u0327"), (0x160, "S\u030c"),
   (0x161, "s\u030c"), (0x162, "T\u0327"), (0x163, "t\u0327"), (0x164, "T\u030c"),
   (0x165, "t\u030c"), (0x168, "U\u0303"), (0x169, "u\u0303"), (0x16A, "U\u0304"),
   (0x16B, "u\u0304"), (0x16C, "U\u0306"), (0x16D, "u\u0306"), (0x16E, "U\u030a"),
   (0x16F, "u\u030a"), (0x170, "U\u030b"), (0x171, "u\u030b"), (0x172, "U\u0328"),
   (0x173, "u\u0328"), (0x174, "W\u0302"), (0x175, "w\u0302"), (0x176, "Y\u0302"),
   (0x177, "y\u0302"), (0x178, "Y\u0308"), (0x179, "Z\u0301"), (0x17A, "z\u0301"),
   (0x17B, "Z\u0307"), (0x17C, "z\u0307"), (0x17D, "Z\u030c"), (0x17E, "z\u030c"),
   (0x17F, "s"), (0x1A0, "O\u031b"), (0x1A1, "o\u031b"), (0x1AF, "U\u031b"),
   (0x1B0, "u\u031b"), (0x1C4, "DZ\u030c"), (0x1C5, "Dz\u030c"), (0x1C6, "dz\u030c"),
   (0x1C7, "LJ"), (0x1C8, "Lj"), (0x1C9, "lj"), (0x1CA, "NJ"),
   (0x1CB, "Nj"), (0x1CC, "nj"), (0x1CD, "A\u030c"), (0x1CE, "a\u030c"),
   (0x1CF, "I\u030c"), (0x1D0, "i\u030c"), (0x1D1, "O\u030c"), (0x1D2, "o\u030c"),
   (0x1D3, "U\u030c"), (0x1D4, "u\u030c"), (0x1D5, "U\u0308\u0304"), (0x1D6, "u\u0308\u0304"),
   (0x1D7, "U\u0308\u0301"), (0x1D8, "u\u0308\u0301"), (0x1D9, "U\u0308\u030c"), (0x1DA, "u\u0308\u030c"),
   (0x1DB, "U\u0308\u0300"), (0x1DC, "u\u0308\u0300"), (0x1DE, "A\u0308\u0304"), (0x1DF, "a\u0308\u0304"),
   (0x1E0, "A\u0307\u0304"), (0x1E1, "a\u0307\u0304"), (0x1E2, "Æ\u0304"), (0x1E3, "æ\u0304"),
   (0x1E6, "G\u030c"), (0x1E7, "g\u030c"), (0x1E8, "K\u030c"), (0x1E9, "k\u030c"),
   (0x1EA, "O\u0328"), (0x1EB, "o\u0328"), (0x1EC, "O\u0328\u0304"), (0x1ED, "o\u0328\u0304"),
   (0x1EE, "Ʒ\u030c"), (0x1EF, "ʒ\u030c"), (0x1F0, "j\u030c"), (0x1F1, "DZ"),
   (0x1F2, "Dz"), (0x1F3, "dz"), (0x1F4, "G\u0301"), (0x1F5, "g\u0301"),
   (0x1F8, "N\u0300"), (0x1F9, "n\u0300"), (0x1FA, "A\u030a\u0301"), (0x1FB, "a\u030a\u0301"),
   (0x1FC, "Æ\u0301"), (0x1FD, "æ\u0301"), (0x1FE, "Ø\u0301"), (0x1FF, "ø\u0301"),
   (0x200, "A\u030f"), (0x201, "a\u030f"), (0x202, "A\u0311"), (0x203, "a\u0311"),
   (0x204, "E\u030f"), (0x205, "e\u030f"), (0x206, "E\u0311"), (0x207, "e\u0311"),
   (0x208, "I\u030f"), (0x209, "i\u030f"), (0x20A, "I\u0311"), (0x20B, "i\u0311"),
   (0x20C, "O\u030f"), (0x20D, "o\u030f"), (0x20E, "O\u0311"), (0x20F, "o\u0311"),
   (0x210, "R\u030f"), (0x211, "r\u030f"), (0x212, "R\u0311"), (0x213, "r\u0311"),
   (0x214, "U\u030f"), (0x215, "u\u030f"), (0x216, "U\u0311"), (0x217, "u\u0311"),
   (0x218, "S\u0326"), (0x219, "s\u0326"), (0x21A, "T\u0326"), (0x21B, "t\u0326"),
   (0x21E, "H\u030c"), (0x21F, "h\u030c"), (0x226, "A\u0307"), (0x227, "a\u0307"),
   (0x228, "E\u0327"), (0x229, "e\u0327"), (0x22A, "O\u0308\u0304"), (0x22B, "o\u0308\u0304"),
   (0x22C, "O\u0303\u0304"), (0x22D, "o\u0303\u0304"), (0x22E, "O\u0307"), (0x22F, "o\u0307"),
   (0x230, "O\u0307\u0304"), (0x231, "o\u0307\u0304"), (0x232, "Y\u0304"), (0x233, "y\u0304"),
   (0x2B0, "h"), (0x2B1, "ɦ"), (0x2B2, "j"), (0x2B3, "r"),
   (0x2B4, "ɹ"), (0x2B5, "ɻ"), (0x2B6, "ʁ"), (0x2B7, "w"),
   (0x2B8, "y"), (0x2D8, " \u0306"), (0x2D9, " \u0307"), (0x2DA, " \u030a"),
   (0x2DB, " \u0328"), (0x2DC, " \u0303"), (0x2DD, " \u030b"), (0x2E0, "ɣ"),
   (0x2E1, "l"), (0x2E2, "s"), (0x2E3, "x"), (0x2E4, "ʕ"),
   (0x340, "\u0300"), (0x341, "\u0301"), (0x343, "\u0313"), (0x344, "\u0308\u0301"),
   (0x374, "ʹ"), (0x37A, " \u0345"), (0x37E, ";"), (0x384, " \u0301"),
   (0x385, " \u0308\u0301"), (0x386, "Α\u0301"), (0x387, "·"), (0x388, "Ε\u0301"),
   (0x389, "Η\u0301"), (0x38A, "Ι\u0301"), (0x38C, "Ο\u0301"), (0x38E, "Υ\u0301"),
   (0x38F, "Ω\u0301"), (0x390, "ι\u0308\u0301"), (0x3AA, "Ι\u0308"), (0x3AB, "Υ\u0308"),
   (0x3AC, "α\u0301"), (0x3AD, "ε\u0301"), (0x3AE, "η\u0301"), (0x3AF, "ι\u0301"),
   (0x3B0, "υ\u0308\u0301"), (0x3CA, "ι\u0308"), (0x3CB, "υ\u0308"), (0x3CC, "ο\u0301"),
   (0x3CD, "υ\u0301"), (0x3CE, "ω\u0301"), (0x3D0, "β"), (0x3D1, "θ"),
   (0x3D2, "Υ"), (0x3D3, "Υ\u0301"), (0x3D4, "Υ\u0308"), (0x3D5, "φ"),
   (0x3D6, "π"), (0x3F0, "κ"), (0x3F1, "ρ"), (0x3F2, "ς"),
   (0x3F4, "Θ"), (0x3F5, "ε"), (0x400, "Е\u0300"), (0x401, "Е\u0308"),
   (0x403, "Г\u0301"), (0x407, "І\u0308"), (0x40C, "К\u0301"), (0x40D, "И\u0300"),
   (0x40E, "У\u0306"), (0x419, "И\u0306"), (0x439, "и\u0306"), (0x450, "е\u0300"),
   (0x451, "е\u0308"), (0x453, "г\u0301"), (0x457, "і\u0308"), (0x45C, "к\u0301"),
   (0x45D, "и\u0300"), (0x45E, "у\u0306"), (0x476, "Ѵ\u030f"), (0x477, "ѵ\u030f"),
   (0x4C1, "Ж\u0306"), (0x4C2, "ж\u0306"), (0x4D0, "А\u0306"), (0x4D1, "а\u0306"),
   (0x4D2, "А\u0308"), (0x4D3, "а\u0308"), (0x4D6, "Е\u0306"), (0x4D7, "е\u0306"),
   (0x4DA, "Ә\u0308"), (0x4DB, "ә\u0308"), (0x4DC, "Ж\u0308"), (0x4DD, "ж\u0308"),
   (0x4DE, "З\u0308"), (0x4DF, "з\u0308"), (0x4E2, "И\u0304"), (0x4E3, "и\u0304"),
   (0x4E4, "И\u0308"), (0x4E5, "и\u0308"), (0x4E6, "О\u0308"), (0x4E7, "о\u0308"),
   (0x4EA, "Ө\u0308"), (0x4EB, "ө\u0308"), (0x4EC, "Э\u0308"), (0x4ED, "э\u0308"),
   (0x4EE, "У\u0304"), (0x4EF, "у\u0304"), (0x4F0, "У\u0308"), (0x4F1, "у\u0308"),
   (0x4F2, "У\u030b"), (0x4F3, "у\u030b"), (0x4F4, "Ч\u0308"), (0x4F5, "ч\u0308"),
   (0x4F8, "Ы\u0308"), (0x4F9, "ы\u0308"), (0x587, "եւ"), (0x622, "ا\u0653")]

/-- Part 2 of the compatibility decompositions, by code point. -/
def decompositions2 : List (Nat × String) :=
  [(0x623, "ا\u0654"), (0x624, "و\u0654"), (0x625, "ا\u0655"), (0x626, "ي\u0654"),
   (0x675, "اٴ"), (0x676, "وٴ"), (0x677, "ۇٴ"), (0x678, "يٴ"),
   (0x6C0, "ە\u0654"), (0x6C2, "ہ\u0654"), (0x6D3, "ے\u0654"), (0x929, "न\u093c"),
   (0x931, "र\u093c"), (0x934, "ळ\u093c"), (0x958, "क\u093c"), (0x959, "ख\u093c"),
   (0x95A, "ग\u093c"), (0x95B, "ज\u093c"), (0x95C, "ड\u093c"), (0x95D, "ढ\u093c"),
   (0x95E, "फ\u093c"), (0x95F, "य\u093c"), (0x9CB, "\u09c7\u09be"), (0x9CC, "\u09c7\u09d7"),
   (0x9DC, "ড\u09bc"), (0x9DD, "ঢ\u09bc"), (0x9DF, "য\u09bc"), (0xA33, "ਲ\u0a3c"),
   (0xA36, "ਸ\u0a3c"), (0xA59, "ਖ\u0a3c"), (0xA5A, "ਗ\u0a3c"), (0xA5B, "ਜ\u0a3c"),
   (0xA5E, "ਫ\u0a3c"), (0xB48, "\u0b47\u0b56"), (0xB4B, "\u0b47\u0b3e"), (0xB4C, "\u0b47\u0b57"),
   (0xB5C, "ଡ\u0b3c"), (0xB5D, "ଢ\u0b3c"), (0xB94, "ஒ\u0bd7"), (0xBCA, "\u0bc6\u0bbe"),
   (0xBCB, "\u0bc7\u0bbe"), (0xBCC, "\u0bc6\u0bd7"), (0xC48, "\u0c46\u0c56"), (0xCC0, "\u0cbf\u0cd5"),
   (0xCC7, "\u0cc6\u0cd5"), (0xCC8, "\u0cc6\u0cd6"), (0xCCA, "\u0cc6\u0cc2"), (0xCCB, "\u0cc6\u0cc2\u0cd5"),
   (0xD4A, "\u0d46\u0d3e"), (0xD4B, "\u0d47\u0d3e"), (0xD4C, "\u0d46\u0d57"), (0xDDA, "\u0dd9\u0dca"),
   (0xDDC, "\u0dd9\u0dcf"), (0xDDD, "\u0dd9\u0dcf\u0dca"), (0xDDE, "\u0dd9\u0ddf"), (0xE33, "\u0e4dา"),
   (0xEB3, "\u0ecdາ"), (0xEDC, "ຫນ"), (0xEDD, "ຫມ"), (0xF0C, "་"),
   (0xF43, "ག\u0fb7"), (0xF4D, "ཌ\u0fb7"), (0xF52, "ད\u0fb7"), (0xF57, "བ\u0fb7"),
   (0xF5C, "ཛ\u0fb7"), (0xF69, "ཀ\u0fb5"), (0xF73, "\u0f71\u0f72"), (0xF75, "\u0f71\u0f74"),
   (0xF76, "\u0fb2\u0f80"), (0xF77, "\u0fb2\u0f71\u0f80"), (0xF78, "\u0fb3\u0f80"), (0xF79, "\u0fb3\u0f71\u0f80"),
   (0xF81, "\u0f71\u0f80"), (0xF93, "\u0f92\u0fb7"), (0xF9D, "\u0f9c\u0fb7"), (0xFA2, "\u0fa1\u0fb7"),
   (0xFA7, "\u0fa6\u0fb7"), (0xFAC, "\u0fab\u0fb7"), (0xFB9, "\u0f90\u0fb5"), (0x1026, "ဥ\u102e"),
   (0x1E00, "A\u0325"), (0x1E01, "a\u0325"), (0x1E02, "B\u0307"), (0x1E03, "b\u0307"),
   (0x1E04, "B\u0323"), (0x1E05, "b\u0323"), (0x1E06, "B\u0331"), (0x1E07, "b\u0331"),
   (0x1E08, "C\u0327\u0301"), (0x1E09, "c\u0327\u0301"), (0x1E0A, "D\u0307"), (0x1E0B, "d\u0307"),
   (0x1E0C, "D\u0323"), (0x1E0D, "d\u0323"), (0x1E0E, "D\u0331"), (0x1E0F, "d\u0331"),
   (0x1E10, "D\u0327"), (0x1E11, "d\u0327"), (0x1E12, "D\u032d"), (0x1E13, "d\u032d"),
   (0x1E14, "E\u0304\u0300"), (0x1E15, "e\u0304\u0300"), (0x1E16, "E\u0304\u0301"), (0x1E17, "e\u0304\u0301"),
   (0x1E18, "E\u032d"), (0x1E19, "e\u032d"), (0x1E1A, "E\u0330"), (0x1E1B, "e\u0330"),
   (0x1E1C, "E\u0327\u0306"), (0x1E1D, "e\u0327\u0306"), (0x1E1E, "F\u0307"), (0x1E1F, "f\u0307"),
   (0x1E20, "G\u0304"), (0x1E21, "g\u0304"), (0x1E22, "H\u0307"), (0x1E23, "h\u0307"),
   (0x1E24, "H\u0323"), (0x1E25, "h\u0323"), (0x1E26, "H\u0308"), (0x1E27, "h\u0308"),
   (0x1E28, "H\u0327"), (0x1E29, "h\u0327"), (0x1E2A, "H\u032e"), (0x1E2B, "h\u032e"),
   (0x1E2C, "I\u0330"), (0x1E2D, "i\u0330"), (0x1E2E, "I\u0308\u0301"), (0x1E2F, "i\u0308\u0301"),
   (0x1E30, "K\u0301"), (0x1E31, "k\u0301"), (0x1E32, "K\u0323"), (0x1E33, "k\u0323"),
   (0x1E34, "K\u0331"), (0x1E35, "k\u0331"), (0x1E36, "L\u0323"), (0x1E37, "l\u0323"),
   (0x1E38, "L\u0323\u0304"), (0x1E39, "l\u0323\u0304"), (0x1E3A, "L\u0331"), (0x1E3B, "l\u0331"),
   (0x1E3C, "L\u032d"), (0x1E3D, "l\u032d"), (0x1E3E, "M\u0301"), (0x1E3F, "m\u0301"),
   (0x1E40, "M\u0307"), (0x1E41, "m\u0307"), (0x1E42, "M\u0323"), (0x1E43, "m\u0323"),
   (0x1E44, "N\u0307"), (0x1E45, "n\u0307"), (0x1E46, "N\u0323"), (0x1E47, "n\u0323"),
   (0x1E48, "N\u0331"), (0x1E49, "n\u0331"), (0x1E4A, "N\u032d"), (0x1E4B, "n\u032d"),
   (0x1E4C, "O\u0303\u0301"), (0x1E4D, "o\u0303\u0301"), (0x1E4E, "O\u0303\u0308"), (0x1E4F, "o\u0303\u0308"),
   (0x1E50, "O\u0304\u0300"), (0x1E51, "o\u0304\u0300"), (0x1E52, "O\u0304\u0301"), (0x1E53, "o\u0304\u0301"),
   (0x1E54, "P\u0301"), (0x1E55, "p\u0301"), (0x1E56, "P\u0307"), (0x1E57, "p\u0307"),
   (0x1E58, "R\u0307"), (0x1E59, "r\u0307"), (0x1E5A, "R\u0323"), (0x1E5B, "r\u0323"),
   (0x1E5C, "R\u0323\u0304"), (0x1E5D, "r\u0323\u0304"), (0x1E5E, "R\u0331"), (0x1E5F, "r\u0331"),
   (0x1E60, "S\u0307"), (0x1E61, "s\u0307"), (0x1E62, "S\u0323"), (0x1E63, "s\u0323"),
   (0x1E64, "S\u0301\u0307"), (0x1E65, "s\u0301\u0307"), (0x1E66, "S\u030c\u0307"), (0x1E67, "s\u030c\u0307"),
   (0x1E68, "S\u0323\u0307"), (0x1E69, "s\u0323\u0307"), (0x1E6A, "T\u0307"), (0x1E6B, "t\u0307"),
   (0x1E6C, "T\u0323"), (0x1E6D, "t\u0323"), (0x1E6E, "T\u0331"), (0x1E6F, "t\u0331"),
   (0x1E70, "T\u032d"), (0x1E71, "t\u032d"), (0x1E72, "U\u0324"), (0x1E73, "u\u0324"),
   (0x1E74, "U\u0330"), (0x1E75, "u\u0330"), (0x1E76, "U\u032d"), (0x1E77, "u\u032d"),
   (0x1E78, "U\u0303\u0301"), (0x1E79, "u\u0303\u0301"), (0x1E7A, "U\u0304\u0308"), (0x1E7B, "u\u0304\u0308"),
   (0x1E7C, "V\u0303"), (0x1E7D, "v\u0303"), (0x1E7E, "V\u0323"), (0x1E7F, "v\u0323"),
   (0x1E80, "W\u0300"), (0x1E81, "w\u0300"), (0x1E82, "W\u0301"), (0x1E83, "w\u0301"),
   (0x1E84, "W\u0308"), (0x1E85, "w\u0308"), (0x1E86, "W\u0307"), (0x1E87, "w\u0307"),
   (0x1E88, "W\u0323"), (0x1E89, "w\u0323"), (0x1E8A, "X\u0307"), (0x1E8B, "x\u0307"),
   (0x1E8C, "X\u0308"), (0x1E8D, "x\u0308"), (0x1E8E, "Y\u0307"), (0x1E8F, "y\u0307"),
   (0x1E90, "Z\u0302"), (0x1E91, "z\u0302"), (0x1E92, "Z\u0323"), (0x1E93, "z\u0323"),
   (0x1E94, "Z\u0331"), (0x1E95, "z\u0331"), (0x1E96, "h\u0331"), (0x1E97, "t\u0308"),
   (0x1E98, "w\u030a"), (0x1E99, "y\u030a"), (0x1E9A, "aʾ"), (0x1E9B, "s\u0307"),
   (0x1EA0, "A\u0323"), (0x1EA1, "a\u0323"), (0x1EA2, "A\u0309"), (0x1EA3, "a\u0309"),
   (0x1EA4, "A\u0302\u0301"), (0x1EA5, "a\u0302\u0301"), (0x1EA6, "A\u0302\u0300"), (0x1EA7, "a\u0302\u0300"),
   (0x1EA8, "A\u0302\u0309"), (0x1EA9, "a\u0302\u0309"), (0x1EAA, "A\u0302\u0303"), (0x1EAB, "a\u0302\u0303"),
   (0x1EAC, "A\u0323\u0302"), (0x1EAD, "a\u0323\u0302"), (0x1EAE, "A\u0306\u0301"), (0x1EAF, "a\u0306\u0301"),
   (0x1EB0, "A\u0306\u0300"), (0x1EB1, "a\u0306\u0300"), (0x1EB2, "A\u0306\u0309"), (0x1EB3, "a\u0306\u0309"),
   (0x1EB4, "A\u0306\u0303"), (0x1EB5, "a\u0306\u0303"), (0x1EB6, "A\u0323\u0306"), (0x1EB7, "a\u0323\u0306"),
   (0x1EB8, "E\u0323"), (0x1EB9, "e\u0323"), (0x1EBA, "E\u0309"), (0x1EBB, "e\u0309"),
   (0x1EBC, "E\u0303"), (0x1EBD, "e\u0303"), (0x1EBE, "E\u0302\u0301"), (0x1EBF, "e\u0302\u0301"),
   (0x1EC0, "E\u0302\u0300"), (0x1EC1, "e\u0302\u0300"), (0x1EC2, "E\u0302\u0309"), (0x1EC3, "e\u0302\u0309"),
   (0x1EC4, "E\u0302\u0303"), (0x1EC5, "e\u0302\u0303"), (0x1EC6, "E\u0323\u0302"), (0x1EC7, "e\u0323\u0302"),
   (0x1EC8, "I\u0309"), (0x1EC9, "i\u0309"), (0x1ECA, "I\u0323"), (0x1ECB, "i\u0323"),
   (0x1ECC, "O\u0323"), (0x1ECD, "o\u0323"), (0x1ECE, "O\u0309"), (0x1ECF, "o\u0309"),
   (0x1ED0, "O\u0302\u0301"), (0x1ED1, "o\u0302\u0301"), (0x1ED2, "O\u0302\u0300"), (0x1ED3, "o\u0302\u0300"),
   (0x1ED4, "O\u0302\u0309"), (0x1ED5, "o\u0302\u0309"), (0x1ED6, "O\u0302\u0303"), (0x1ED7, "o\u0302\u0303"),
   (0x1ED8, "O\u0323\u0302"), (0x1ED9, "o\u0323\u0302"), (0x1EDA, "O\u031b\u0301"), (0x1EDB, "o\u031b\u0301"),
   (0x1EDC, "O\u031b\u0300"), (0x1EDD, "o\u031b\u0300"), (0x1EDE, "O\u031b\u0309"), (0x1EDF, "o\u031b\u0309"),
   (0x1EE0, "O\u031b\u0303"), (0x1EE1, "o\u031b\u0303"), (0x1EE2, "O\u031b\u0323"), (0x1EE3, "o\u031b\u0323"),
   (0x1EE4, "U\u0323"), (0x1EE5, "u\u0323"), (0x1EE6, "U\u0309"), (0x1EE7, "u\u0309"),
   (0x1EE8, "U\u031b\u0301"), (0x1EE9, "u\u031b\u0301"), (0x1EEA, "U\u031b\u0300"), (0x1EEB, "u\u031b\u0300"),
   (0x1EEC, "U\u031b\u0309"), (0x1EED, "u\u031b\u0309"), (0x1EEE, "U\u031b\u0303"), (0x1EEF, "u\u031b\u0303"),
   (0x1EF0, "U\u031b\u0323"), (0x1EF1, "u\u031b\u0323"), (0x1EF2, "Y\u0300"), (0x1EF3, "y\u0300"),
   (0x1EF4, "Y\u0323"), (0x1EF5, "y\u0323"), (0x1EF6, "Y\u0309"), (0x1EF7, "y\u0309"),
   (0x1EF8, "Y\u0303"), (0x1EF9, "y\u0303"), (0x1F00, "α\u0313"), (0x1F01, "α\u0314"),
   (0x1F02, "α\u0313\u0300"), (0x1F03, "α\u0314\u0300"), (0x1F04, "α\u0313\u0301"), (0x1F05, "α\u0314\u0301"),
   (0x1F06, "α\u0313\u0342"), (0x1F07, "α\u0314\u0342"), (0x1F08, "Α\u0313"), (0x1F09, "Α\u0314"),
   (0x1F0A, "Α\u0313\u0300"), (0x1F0B, "Α\u0314\u0300"), (0x1F0C, "Α\u0313\u0301"), (0x1F0D, "Α\u0314\u0301"),
   (0x1F0E, "Α\u0313\u0342"), (0x1F0F, "Α\u0314\u0342"), (0x1F10, "ε\u0313"), (0x1F11, "ε\u0314"),
   (0x1F12, "ε\u0313\u0300"), (0x1F13, "ε\u0314\u0300"), (0x1F14, "ε\u0313\u0301"), (0x1F15, "ε\u0314\u0301"),
   (0x1F18, "Ε\u0313"), (0x1F19, "Ε\u0314"), (0x1F1A, "Ε\u0313\u0300"), (0x1F1B, "Ε\u0314\u0300"),
   (0x1F1C, "Ε\u0313\u0301"), (0x1F1D, "Ε\u0314\u0301"), (0x1F20, "η\u0313"), (0x1F21, "η\u0314"),
   (0x1F22, "η\u0313\u0300"), (0x1F23, "η\u0314\u0300"), (0x1F24, "η\u0313\u0301"), (0x1F25, "η\u0314\u0301"),
   (0x1F26, "η\u0313\u0342"), (0x1F27, "η\u0314\u0342"), (0x1F28, "Η\u0313"), (0x1F29, "Η\u0314"),
   (0x1F2A, "Η\u0313\u0300"), (0x1F2B, "Η\u0314\u0300"), (0x1F2C, "Η\u0313\u0301"), (0x1F2D, "Η\u0314\u0301"),
   (0x1F2E, "Η\u0313\u0342"), (0x1F2F, "Η\u0314\u0342"), (0x1F30, "ι\u0313"), (0x1F31, "ι\u0314"),
   (0x1F32, "ι\u0313\u0300"), (0x1F33, "ι\u0314\u0300"), (0x1F34, "ι\u0313\u0301"), (0x1F35, "ι\u0314\u0301"),
   (0x1F36, "ι\u0313\u0342"), (0x1F37, "ι\u0314\u0342"), (0x1F38, "Ι\u0313"), (0x1F39, "Ι\u0314"),
   (0x1F3A, "Ι\u0313\u0300"), (0x1F3B, "Ι\u0314\u0300"), (0x1F3C, "Ι\u0313\u0301"), (0x1F3D, "Ι\u0314\u0301"),
   (0x1F3E, "Ι\u0313\u0342"), (0x1F3F, "Ι\u0314\u0342"), (0x1F40, "ο\u0313"), (0x1F41, "ο\u0314"),
   (0x1F42, "ο\u0313\u0300"), (0x1F43, "ο\u0314\u0300"), (0x1F44, "ο\u0313\u0301"), (0x1F45, "ο\u0314\u0301"),
   (0x1F48, "Ο\u0313"), (0x1F49, "Ο\u0314"), (0x1F4A, "Ο\u0313\u0300"), (0x1F4B, "Ο\u0314\u0300"),
   (0x1F4C, "Ο\u0313\u0301"), (0x1F4D, "Ο\u0314\u0301"), (0x1F50, "υ\u0313"), (0x1F51, "υ\u0314")]

/-- Part 3 of the compatibility decompositions, by code point. -/
def decompositions3 : List (Nat × String) :=
  [(0x1F52, "υ\u0313\u0300"), (0x1F53, "υ\u0314\u0300"), (0x1F54, "υ\u0313\u0301"), (0x1F55, "υ\u0314\u0301"),
   (0x1F56, "υ\u0313\u0342"), (0x1F57, "υ\u0314\u0342"), (0x1F59, "Υ\u0314"), (0x1F5B, "Υ\u0314\u0300"),
   (0x1F5D, "Υ\u0314\u0301"), (0x1F5F, "Υ\u0314\u0342"), (0x1F60, "ω\u0313"), (0x1F61, "ω\u0314"),
   (0x1F62, "ω\u0313\u0300"), (0x1F63, "ω\u0314\u0300"), (0x1F64, "ω\u0313\u0301"), (0x1F65, "ω\u0314\u0301"),
   (0x1F66, "ω\u0313\u0342"), (0x1F67, "ω\u0314\u0342"), (0x1F68, "Ω\u0313"), (0x1F69, "Ω\u0314"),
   (0x1F6A, "Ω\u0313\u0300"), (0x1F6B, "Ω\u0314\u0300"), (0x1F6C, "Ω\u0313\u0301"), (0x1F6D, "Ω\u0314\u0301"),
   (0x1F6E, "Ω\u0313\u0342"), (0x1F6F, "Ω\u0314\u0342"), (0x1F70, "α\u0300"), (0x1F71, "α\u0301"),
   (0x1F72, "ε\u0300"), (0x1F73, "ε\u0301"), (0x1F74, "η\u0300"), (0x1F75, "η\u0301"),
   (0x1F76, "ι\u0300"), (0x1F77, "ι\u0301"), (0x1F78, "ο\u0300"), (0x1F79, "ο\u0301"),
   (0x1F7A, "υ\u0300"), (0x1F7B, "υ\u0301"), (0x1F7C, "ω\u0300"), (0x1F7D, "ω\u0301"),
   (0x1F80, "α\u0313\u0345"), (0x1F81, "α\u0314\u0345"), (0x1F82, "α\u0313\u0300\u0345"), (0x1F83, "α\u0314\u0300\u0345"),
   (0x1F84, "α\u0313\u0301\u0345"), (0x1F85, "α\u0314\u0301\u0345"), (0x1F86, "α\u0313\u0342\u0345"), (0x1F87, "α\u0314\u0342\u0345"),
   (0x1F88, "Α\u0313\u0345"), (0x1F89, "Α\u0314\u0345"), (0x1F8A, "Α\u0313\u0300\u0345"), (0x1F8B, "Α\u0314\u0300\u0345"),
   (0x1F8C, "Α\u0313\u0301\u0345"), (0x1F8D, "Α\u0314\u0301\u0345"), (0x1F8E, "Α\u0313\u0342\u0345"), (0x1F8F, "Α\u0314\u0342\u0345"),
   (0x1F90, "η\u0313\u0345"), (0x1F91, "η\u0314\u0345"), (0x1F92, "η\u0313\u0300\u0345"), (0x1F93, "η\u0314\u0300\u0345"),
   (0x1F94, "η\u0313\u0301\u0345"), (0x1F95, "η\u0314\u0301\u0345"), (0x1F96, "η\u0313\u0342\u0345"), (0x1F97, "η\u0314\u0342\u0345"),
   (0x1F98, "Η\u0313\u0345"), (0x1F99, "Η\u0314\u0345"), (0x1F9A, "Η\u0313\u0300\u0345"), (0x1F9B, "Η\u0314\u0300\u0345"),
   (0x1F9C, "Η\u0313\u0301\u0345"), (0x1F9D, "Η\u0314\u0301\u0345"), (0x1F9E, "Η\u0313\u0342\u0345"), (0x1F9F, "Η\u0314\u0342\u0345"),
   (0x1FA0, "ω\u0313\u0345"), (0x1FA1, "ω\u0314\u0345"), (0x1FA2, "ω\u0313\u0300\u0345"), (0x1FA3, "ω\u0314\u0300\u0345"),
   (0x1FA4, "ω\u0313\u0301\u0345"), (0x1FA5, "ω\u0314\u0301\u0345"), (0x1FA6, "ω\u0313\u0342\u0345"), (0x1FA7, "ω\u0314\u0342\u0345"),
   (0x1FA8, "Ω\u0313\u0345"), (0x1FA9, "Ω\u0314\u0345"), (0x1FAA, "Ω\u0313\u0300\u0345"), (0x1FAB, "Ω\u0314\u0300\u0345"),
   (0x1FAC, "Ω\u0313\u0301\u0345"), (0x1FAD, "Ω\u0314\u0301\u0345"), (0x1FAE, "Ω\u0313\u0342\u0345"), (0x1FAF, "Ω\u0314\u0342\u0345"),
   (0x1FB0, "α\u0306"), (0x1FB1, "α\u0304"), (0x1FB2, "α\u0300\u0345"), (0x1FB3, "α\u0345"),
   (0x1FB4, "α\u0301\u0345"), (0x1FB6, "α\u0342"), (0x1FB7, "α\u0342\u0345"), (0x1FB8, "Α\u0306"),
   (0x1FB9, "Α\u0304"), (0x1FBA, "Α\u0300"), (0x1FBB, "Α\u0301"), (0x1FBC, "Α\u0345"),
   (0x1FBD, " \u0313"), (0x1FBE, "ι"), (0x1FBF, " \u0313"), (0x1FC0, " \u0342"),
   (0x1FC1, " \u0308\u0342"), (0x1FC2, "η\u0300\u0345"), (0x1FC3, "η\u0345"), (0x1FC4, "η\u0301\u0345"),
   (0x1FC6, "η\u0342"), (0x1FC7, "η\u0342\u0345"), (0x1FC8, "Ε\u0300"), (0x1FC9, "Ε\u0301"),
   (0x1FCA, "Η\u0300"), (0x1FCB, "Η\u0301"), (0x1FCC, "Η\u0345"), (0x1FCD, " \u0313\u0300"),
   (0x1FCE, " \u0313\u0301"), (0x1FCF, " \u0313\u0342"), (0x1FD0, "ι\u0306"), (0x1FD1, "ι\u0304"),
   (0x1FD2, "ι\u0308\u0300"), (0x1FD3, "ι\u0308\u0301"), (0x1FD6, "ι\u0342"), (0x1FD7, "ι\u0308\u0342"),
   (0x1FD8, "Ι\u0306"), (0x1FD9, "Ι\u0304"), (0x1FDA, "Ι\u0300"), (0x1FDB, "Ι\u0301"),
   (0x1FDD, " \u0314\u0300"), (0x1FDE, " \u0314\u0301"), (0x1FDF, " \u0314\u0342"), (0x1FE0, "υ\u0306"),
   (0x1FE1, "υ\u0304"), (0x1FE2, "υ\u0308\u0300"), (0x1FE3, "υ\u0308\u0301"), (0x1FE4, "ρ\u0313"),
   (0x1FE5, "ρ\u0314"), (0x1FE6, "υ\u0342"), (0x1FE7, "υ\u0308\u0342"), (0x1FE8, "Υ\u0306"),
   (0x1FE9, "Υ\u0304"), (0x1FEA, "Υ\u0300"), (0x1FEB, "Υ\u0301"), (0x1FEC, "Ρ\u0314"),
   (0x1FED, " \u0308\u0300"), (0x1FEE, " \u0308\u0301"), (0x1FEF, "\x60"), (0x1FF2, "ω\u0300\u0345"),
   (0x1FF3, "ω\u0345"), (0x1FF4, "ω\u0301\u0345"), (0x1FF6, "ω\u0342"), (0x1FF7, "ω\u0342\u0345"),
   (0x1FF8, "Ο\u0300"), (0x1FF9, "Ο\u0301"), (0x1FFA, "Ω\u0300"), (0x1FFB, "Ω\u0301"),
   (0x1FFC, "Ω\u0345"), (0x1FFD, " \u0301"), (0x1FFE, " \u0314"), (0x2000, " "),
   (0x2001, " "), (0x2002, " "), (0x2003, " "), (0x2004, " "),
   (0x2005, " "), (0x2006, " "), (0x2007, " "), (0x2008, " "),
   (0x2009, " "), (0x200A, " "), (0x2011, "‐"), (0x2017, " \u0333"),
   (0x2024, "."), (0x2025, ".."), (0x2026, "..."), (0x202F, " "),
   (0x2033, "′′"), (0x2034, "′′′"), (0x2036, "‵‵"), (0x2037, "‵‵‵"),
   (0x203C, "!!"), (0x203E, " \u0305"), (0x2047, "??"), (0x2048, "?!"),
   (0x2049, "!?"), (0x2057, "′′′′"), (0x205F, " "), (0x2070, "0"),
   (0x2071, "i"), (0x2074, "4"), (0x2075, "5"), (0x2076, "6"),
   (0x2077, "7"), (0x2078, "8"), (0x2079, "9"), (0x207A, "+"),
   (0x207B, "−"), (0x207C, "="), (0x207D, "("), (0x207E, ")"),
   (0x207F, "n"), (0x2080, "0"), (0x2081, "1"), (0x2082, "2"),
   (0x2083, "3"), (0x2084, "4"), (0x2085, "5"), (0x2086, "6"),
   (0x2087, "7"), (0x2088, "8"), (0x2089, "9"), (0x208A, "+"),
   (0x208B, "−"), (0x208C, "="), (0x208D, "("), (0x208E, ")"),
   (0x20A8, "Rs"), (0x2100, "a/c"), (0x2101, "a/s"), (0x2102, "C"),
   (0x2103, "°C"), (0x2105, "c/o"), (0x2106, "c/u"), (0x2107, "Ɛ"),
   (0x2109, "°F"), (0x210A, "g"), (0x210B, "H"), (0x210C, "H"),
   (0x210D, "H"), (0x210E, "h"), (0x210F, "ħ"), (0x2110, "I"),
   (0x2111, "I"), (0x2112, "L"), (0x2113, "l"), (0x2115, "N"),
   (0x2116, "No"), (0x2119, "P"), (0x211A, "Q"), (0x211B, "R"),
   (0x211C, "R"), (0x211D, "R"), (0x2120, "SM"), (0x2121, "TEL"),
   (0x2122, "TM"), (0x2124, "Z"), (0x2126, "Ω"), (0x2128, "Z"),
   (0x212A, "K"), (0x212B, "A\u030a"), (0x212C, "B"), (0x212D, "C"),
   (0x212F, "e"), (0x2130, "E"), (0x2131, "F"), (0x2133, "M"),
   (0x2134, "o"), (0x2135, "א"), (0x2136, "ב"), (0x2137, "ג"),
   (0x2138, "ד"), (0x2139, "i"), (0x213D, "γ"), (0x213E, "Γ"),
   (0x213F, "Π"), (0x2140, "∑"), (0x2145, "D"), (0x2146, "d"),
   (0x2147, "e"), (0x2148, "i"), (0x2149, "j"), (0x2153, "1⁄3"),
   (0x2154, "2⁄3"), (0x2155, "1⁄5"), (0x2156, "2⁄5"), (0x2157, "3⁄5"),
   (0x2158, "4⁄5"), (0x2159, "1⁄6"), (0x215A, "5⁄6"), (0x215B, "1⁄8"),
   (0x215C, "3⁄8"), (0x215D, "5⁄8"), (0x215E, "7⁄8"), (0x215F, "1⁄"),
   (0x2160, "I"), (0x2161, "II"), (0x2162, "III"), (0x2163, "IV"),
   (0x2164, "V"), (0x2165, "VI"), (0x2166, "VII"), (0x2167, "VIII"),
   (0x2168, "IX"), (0x2169, "X"), (0x216A, "XI"), (0x216B, "XII"),
   (0x216C, "L"), (0x216D, "C"), (0x216E, "D"), (0x216F, "M"),
   (0x2170, "i"), (0x2171, "ii"), (0x2172, "iii"), (0x2173, "iv"),
   (0x2174, "v"), (0x2175, "vi"), (0x2176, "vii"), (0x2177, "viii"),
   (0x2178, "ix"), (0x2179, "x"), (0x217A, "xi"), (0x217B, "xii"),
   (0x217C, "l"), (0x217D, "c"), (0x217E, "d"), (0x217F, "m"),
   (0x219A, "←\u0338"), (0x219B, "→\u0338"), (0x21AE, "↔\u0338"), (0x21CD, "⇐\u0338"),
   (0x21CE, "⇔\u0338"), (0x21CF, "⇒\u0338"), (0x2204, "∃\u0338"), (0x2209, "∈\u0338"),
   (0x220C, "∋\u0338"), (0x2224, "∣\u0338"), (0x2226, "∥\u0338"), (0x222C, "∫∫"),
   (0x222D, "∫∫∫"), (0x222F, "∮∮"), (0x2230, "∮∮∮"), (0x2241, "∼\u0338"),
   (0x2244, "≃\u0338"), (0x2247, "≅\u0338"), (0x2249, "≈\u0338"), (0x2260, "=\u0338"),
   (0x2262, "≡\u0338"), (0x226D, "≍\u0338"), (0x226E, "<\u0338"), (0x226F, ">\u0338"),
   (0x2270, "≤\u0338"), (0x2271, "≥\u0338"), (0x2274, "≲\u0338"), (0x2275, "≳\u0338"),
   (0x2278, "≶\u0338"), (0x2279, "≷\u0338"), (0x2280, "≺\u0338"), (0x2281, "≻\u0338"),
   (0x2284, "⊂\u0338"), (0x2285, "⊃\u0338"), (0x2288, "⊆\u0338"), (0x2289, "⊇\u0338"),
   (0x22AC, "⊢\u0338"), (0x22AD, "⊨\u0338"), (0x22AE, "⊩\u0338"), (0x22AF, "⊫\u0338"),
   (0x22E0, "≼\u0338"), (0x22E1, "≽\u0338"), (0x22E2, "⊑\u0338"), (0x22E3, "⊒\u0338"),
   (0x22EA, "⊲\u0338"), (0x22EB, "⊳\u0338"), (0x22EC, "⊴\u0338"), (0x22ED, "⊵\u0338"),
   (0x2329, "〈"), (0x232A, "〉"), (0x2460, "1"), (0x2461, "2"),
   (0x2462, "3"), (0x2463, "4"), (0x2464, "5"), (0x2465, "6"),
   (0x2466, "7"), (0x2467, "8"), (0x2468, "9"), (0x2469, "10"),
   (0x246A, "11"), (0x246B, "12"), (0x246C, "13"), (0x246D, "14"),
   (0x246E, "15"), (0x246F, "16"), (0x2470, "17"), (0x2471, "18"),
   (0x2472, "19"), (0x2473, "20"), (0x2474, "(1)"), (0x2475, "(2)"),
   (0x2476, "(3)"), (0x2477, "(4)"), (0x2478, "(5)"), (0x2479, "(6)"),
   (0x247A, "(7)"), (0x247B, "(8)"), (0x247C, "(9)"), (0x247D, "(10)"),
   (0x247E, "(11)"), (0x247F, "(12)"), (0x2480, "(13)"), (0x2481, "(14)")]

/-- Part 4 of the compatibility decompositions, by code point. -/
def decompositions4 : List (Nat × String) :=
  [(0x2482, "(15)"), (0x2483, "(16)"), (0x2484, "(17)"), (0x2485, "(18)"),
   (0x2486, "(19)"), (0x2487, "(20)"), (0x2488, "1."), (0x2489, "2."),
   (0x248A, "3."), (0x248B, "4."), (0x248C, "5."), (0x248D, "6."),
   (0x248E, "7."), (0x248F, "8."), (0x2490, "9."), (0x2491, "10."),
   (0x2492, "11."), (0x2493, "12."), (0x2494, "13."), (0x2495, "14."),
   (0x2496, "15."), (0x2497, "16."), (0x2498, "17."), (0x2499, "18."),
   (0x249A, "19."), (0x249B, "20."), (0x249C, "(a)"), (0x249D, "(b)"),
   (0x249E, "(c)"), (0x249F, "(d)"), (0x24A0, "(e)"), (0x24A1, "(f)"),
   (0x24A2, "(g)"), (0x24A3, "(h)"), (0x24A4, "(i)"), (0x24A5, "(j)"),
   (0x24A6, "(k)"), (0x24A7, "(l)"), (0x24A8, "(m)"), (0x24A9, "(n)"),
   (0x24AA, "(o)"), (0x24AB, "(p)"), (0x24AC, "(q)"), (0x24AD, "(r)"),
   (0x24AE, "(s)"), (0x24AF, "(t)"), (0x24B0, "(u)"), (0x24B1, "(v)"),
   (0x24B2, "(w)"), (0x24B3, "(x)"), (0x24B4, "(y)"), (0x24B5, "(z)"),
   (0x24B6, "A"), (0x24B7, "B"), (0x24B8, "C"), (0x24B9, "D"),
   (0x24BA, "E"), (0x24BB, "F"), (0x24BC, "G"), (0x24BD, "H"),
   (0x24BE, "I"), (0x24BF, "J"), (0x24C0, "K"), (0x24C1, "L"),
   (0x24C2, "M"), (0x24C3, "N"), (0x24C4, "O"), (0x24C5, "P"),
   (0x24C6, "Q"), (0x24C7, "R"), (0x24C8, "S"), (0x24C9, "T"),
   (0x24CA, "U"), (0x24CB, "V"), (0x24CC, "W"), (0x24CD, "X"),
   (0x24CE, "Y"), (0x24CF, "Z"), (0x24D0, "a"), (0x24D1, "b"),
   (0x24D2, "c"), (0x24D3, "d"), (0x24D4, "e"), (0x24D5, "f"),
   (0x24D6, "g"), (0x24D7, "h"), (0x24D8, "i"), (0x24D9, "j"),
   (0x24DA, "k"), (0x24DB, "l"), (0x24DC, "m"), (0x24DD, "n"),
   (0x24DE, "o"), (0x24DF, "p"), (0x24E0, "q"), (0x24E1, "r"),
   (0x24E2, "s"), (0x24E3, "t"), (0x24E4, "u"), (0x24E5, "v"),
   (0x24E6, "w"), (0x24E7, "x"), (0x24E8, "y"), (0x24E9, "z"),
   (0x24EA, "0"), (0x2A0C, "∫∫∫∫"), (0x2A74, "::="), (0x2A75, "=="),
   (0x2A76, "==="), (0x2ADC, "⫝\u0338"), (0x2E9F, "母"), (0x2EF3, "龟"),
   (0x2F00, "一"), (0x2F01, "丨"), (0x2F02, "丶"), (0x2F03, "丿"),
   (0x2F04, "乙"), (0x2F05, "亅"), (0x2F06, "二"), (0x2F07, "亠"),
   (0x2F08, "人"), (0x2F09, "儿"), (0x2F0A, "入"), (0x2F0B, "八"),
   (0x2F0C, "冂"), (0x2F0D, "冖"), (0x2F0E, "冫"), (0x2F0F, "几"),
   (0x2F10, "凵"), (0x2F11, "刀"), (0x2F12, "力"), (0x2F13, "勹"),
   (0x2F14, "匕"), (0x2F15, "匚"), (0x2F16, "匸"), (0x2F17, "十"),
   (0x2F18, "卜"), (0x2F19, "卩"), (0x2F1A, "厂"), (0x2F1B, "厶"),
   (0x2F1C, "又"), (0x2F1D, "口"), (0x2F1E, "囗"), (0x2F1F, "土"),
   (0x2F20, "士"), (0x2F21, "夂"), (0x2F22, "夊"), (0x2F23, "夕"),
   (0x2F24, "大"), (0x2F25, "女"), (0x2F26, "子"), (0x2F27, "宀"),
   (0x2F28, "寸"), (0x2F29, "小"), (0x2F2A, "尢"), (0x2F2B, "尸"),
   (0x2F2C, "屮"), (0x2F2D, "山"), (0x2F2E, "巛"), (0x2F2F, "工"),
   (0x2F30, "己"), (0x2F31, "巾"), (0x2F32, "干"), (0x2F33, "幺"),
   (0x2F34, "广"), (0x2F35, "廴"), (0x2F36, "廾"), (0x2F37, "弋"),
   (0x2F38, "弓"), (0x2F39, "彐"), (0x2F3A, "彡"), (0x2F3B, "彳"),
   (0x2F3C, "心"), (0x2F3D, "戈"), (0x2F3E, "戶"), (0x2F3F, "手"),
   (0x2F40, "支"), (0x2F41, "攴"), (0x2F42, "文"), (0x2F43, "斗"),
   (0x2F44, "斤"), (0x2F45, "方"), (0x2F46, "无"), (0x2F47, "日"),
   (0x2F48, "曰"), (0x2F49, "月"), (0x2F4A, "木"), (0x2F4B, "欠"),
   (0x2F4C, "止"), (0x2F4D, "歹"), (0x2F4E, "殳"), (0x2F4F, "毋"),
   (0x2F50, "比"), (0x2F51, "毛"), (0x2F52, "氏"), (0x2F53, "气"),
   (0x2F54, "水"), (0x2F55, "火"), (0x2F56, "爪"), (0x2F57, "父"),
   (0x2F58, "爻"), (0x2F59, "爿"), (0x2F5A, "片"), (0x2F5B, "牙"),
   (0x2F5C, "牛"), (0x2F5D, "犬"), (0x2F5E, "玄"), (0x2F5F, "玉"),
   (0x2F60, "瓜"), (0x2F61, "瓦"), (0x2F62, "甘"), (0x2F63, "生"),
   (0x2F64, "用"), (0x2F65, "田"), (0x2F66, "疋"), (0x2F67, "疒"),
   (0x2F68, "癶"), (0x2F69, "白"), (0x2F6A, "皮"), (0x2F6B, "皿"),
   (0x2F6C, "目"), (0x2F6D, "矛"), (0x2F6E, "矢"), (0x2F6F, "石"),
   (0x2F70, "示"), (0x2F71, "禸"), (0x2F72, "禾"), (0x2F73, "穴"),
   (0x2F74, "立"), (0x2F75, "竹"), (0x2F76, "米"), (0x2F77, "糸"),
   (0x2F78, "缶"), (0x2F79, "网"), (0x2F7A, "羊"), (0x2F7B, "羽"),
   (0x2F7C, "老"), (0x2F7D, "而"), (0x2F7E, "耒"), (0x2F7F, "耳"),
   (0x2F80, "聿"), (0x2F81, "肉"), (0x2F82, "臣"), (0x2F83, "自"),
   (0x2F84, "至"), (0x2F85, "臼"), (0x2F86, "舌"), (0x2F87, "舛"),
   (0x2F88, "舟"), (0x2F89, "艮"), (0x2F8A, "色"), (0x2F8B, "艸"),
   (0x2F8C, "虍"), (0x2F8D, "虫"), (0x2F8E, "血"), (0x2F8F, "行"),
   (0x2F90, "衣"), (0x2F91, "襾"), (0x2F92, "見"), (0x2F93, "角"),
   (0x2F94, "言"), (0x2F95, "谷"), (0x2F96, "豆"), (0x2F97, "豕"),
   (0x2F98, "豸"), (0x2F99, "貝"), (0x2F9A, "赤"), (0x2F9B, "走"),
   (0x2F9C, "足"), (0x2F9D, "身"), (0x2F9E, "車"), (0x2F9F, "辛"),
   (0x2FA0, "辰"), (0x2FA1, "辵"), (0x2FA2, "邑"), (0x2FA3, "酉"),
   (0x2FA4, "釆"), (0x2FA5, "里"), (0x2FA6, "金"), (0x2FA7, "長"),
   (0x2FA8, "門"), (0x2FA9, "阜"), (0x2FAA, "隶"), (0x2FAB, "隹"),
   (0x2FAC, "雨"), (0x2FAD, "靑"), (0x2FAE, "非"), (0x2FAF, "面"),
   (0x2FB0, "革"), (0x2FB1, "韋"), (0x2FB2, "韭"), (0x2FB3, "音"),
   (0x2FB4, "頁"), (0x2FB5, "風"), (0x2FB6, "飛"), (0x2FB7, "食"),
   (0x2FB8, "首"), (0x2FB9, "香"), (0x2FBA, "馬"), (0x2FBB, "骨"),
   (0x2FBC, "高"), (0x2FBD, "髟"), (0x2FBE, "鬥"), (0x2FBF, "鬯"),
   (0x2FC0, "鬲"), (0x2FC1, "鬼"), (0x2FC2, "魚"), (0x2FC3, "鳥"),
   (0x2FC4, "鹵"), (0x2FC5, "鹿"), (0x2FC6, "麥"), (0x2FC7, "麻"),
   (0x2FC8, "黃"), (0x2FC9, "黍"), (0x2FCA, "黑"), (0x2FCB, "黹"),
   (0x2FCC, "黽"), (0x2FCD, "鼎"), (0x2FCE, "鼓"), (0x2FCF, "鼠"),
   (0x2FD0, "鼻"), (0x2FD1, "齊"), (0x2FD2, "齒"), (0x2FD3, "龍"),
   (0x2FD4, "龜"), (0x2FD5, "龠"), (0x3000, " "), (0x3036, "〒"),
   (0x3038, "十"), (0x3039, "卄"), (0x303A, "卅"), (0x304C, "か\u3099"),
   (0x304E, "き\u3099"), (0x3050, "く\u3099"), (0x3052, "け\u3099"), (0x3054, "こ\u3099"),
   (0x3056, "さ\u3099"), (0x3058, "し\u3099"), (0x305A, "す\u3099"), (0x305C, "せ\u3099"),
   (0x305E, "そ\u3099"), (0x3060, "た\u3099"), (0x3062, "ち\u3099"), (0x3065, "つ\u3099"),
   (0x3067, "て\u3099"), (0x3069, "と\u3099"), (0x3070, "は\u3099"), (0x3071, "は\u309a"),
   (0x3073, "ひ\u3099"), (0x3074, "ひ\u309a"), (0x3076, "ふ\u3099"), (0x3077, "ふ\u309a"),
   (0x3079, "へ\u3099"), (0x307A, "へ\u309a"), (0x307C, "ほ\u3099"), (0x307D, "ほ\u309a"),
   (0x3094, "う\u3099"), (0x309B, " \u3099"), (0x309C, " \u309a"), (0x309E, "ゝ\u3099"),
   (0x309F, "より"), (0x30AC, "カ\u3099"), (0x30AE, "キ\u3099"), (0x30B0, "ク\u3099"),
   (0x30B2, "ケ\u3099"), (0x30B4, "コ\u3099"), (0x30B6, "サ\u3099"), (0x30B8, "シ\u3099"),
   (0x30BA, "ス\u3099"), (0x30BC, "セ\u3099"), (0x30BE, "ソ\u3099"), (0x30C0, "タ\u3099"),
   (0x30C2, "チ\u3099"), (0x30C5, "ツ\u3099"), (0x30C7, "テ\u3099"), (0x30C9, "ト\u3099"),
   (0x30D0, "ハ\u3099"), (0x30D1, "ハ\u309a"), (0x30D3, "ヒ\u3099"), (0x30D4, "ヒ\u309a"),
   (0x30D6, "フ\u3099"), (0x30D7, "フ\u309a"), (0x30D9, "ヘ\u3099"), (0x30DA, "ヘ\u309a"),
   (0x30DC, "ホ\u3099"), (0x30DD, "ホ\u309a"), (0x30F4, "ウ\u3099"), (0x30F7, "ワ\u3099"),
   (0x30F8, "ヰ\u3099"), (0x30F9, "ヱ\u3099"), (0x30FA, "ヲ\u3099"), (0x30FE, "ヽ\u3099"),
   (0x30FF, "コト"), (0x3131, "ᄀ"), (0x3132, "ᄁ"), (0x3133, "ᆪ"),
   (0x3134, "ᄂ"), (0x3135, "ᆬ"), (0x3136, "ᆭ"), (0x3137, "ᄃ")]

/-- Part 5 of the compatibility decompositions, by code point. -/
def decompositions5 : List (Nat × String) :=
  [(0x3138, "ᄄ"), (0x3139, "ᄅ"), (0x313A, "ᆰ"), (0x313B, "ᆱ"),
   (0x313C, "ᆲ"), (0x313D, "ᆳ"), (0x313E, "ᆴ"), (0x313F, "ᆵ"),
   (0x3140, "ᄚ"), (0x3141, "ᄆ"), (0x3142, "ᄇ"), (0x3143, "ᄈ"),
   (0x3144, "ᄡ"), (0x3145, "ᄉ"), (0x3146, "ᄊ"), (0x3147, "ᄋ"),
   (0x3148, "ᄌ"), (0x3149, "ᄍ"), (0x314A, "ᄎ"), (0x314B, "ᄏ"),
   (0x314C, "ᄐ"), (0x314D, "ᄑ"), (0x314E, "ᄒ"), (0x314F, "ᅡ"),
   (0x3150, "ᅢ"), (0x3151, "ᅣ"), (0x3152, "ᅤ"), (0x3153, "ᅥ"),
   (0x3154, "ᅦ"), (0x3155, "ᅧ"), (0x3156, "ᅨ"), (0x3157, "ᅩ"),
   (0x3158, "ᅪ"), (0x3159, "ᅫ"), (0x315A, "ᅬ"), (0x315B, "ᅭ"),
   (0x315C, "ᅮ"), (0x315D, "ᅯ"), (0x315E, "ᅰ"), (0x315F, "ᅱ"),
   (0x3160, "ᅲ"), (0x3161, "ᅳ"), (0x3162, "ᅴ"), (0x3163, "ᅵ"),
   (0x3164, "ᅠ"), (0x3165, "ᄔ"), (0x3166, "ᄕ"), (0x3167, "ᇇ"),
   (0x3168, "ᇈ"), (0x3169, "ᇌ"), (0x316A, "ᇎ"), (0x316B, "ᇓ"),
   (0x316C, "ᇗ"), (0x316D, "ᇙ"), (0x316E, "ᄜ"), (0x316F, "ᇝ"),
   (0x3170, "ᇟ"), (0x3171, "ᄝ"), (0x3172, "ᄞ"), (0x3173, "ᄠ"),
   (0x3174, "ᄢ"), (0x3175, "ᄣ"), (0x3176, "ᄧ"), (0x3177, "ᄩ"),
   (0x3178, "ᄫ"), (0x3179, "ᄬ"), (0x317A, "ᄭ"), (0x317B, "ᄮ"),
   (0x317C, "ᄯ"), (0x317D, "ᄲ"), (0x317E, "ᄶ"), (0x317F, "ᅀ"),
   (0x3180, "ᅇ"), (0x3181, "ᅌ"), (0x3182, "ᇱ"), (0x3183, "ᇲ"),
   (0x3184, "ᅗ"), (0x3185, "ᅘ"), (0x3186, "ᅙ"), (0x3187, "ᆄ"),
   (0x3188, "ᆅ"), (0x3189, "ᆈ"), (0x318A, "ᆑ"), (0x318B, "ᆒ"),
   (0x318C, "ᆔ"), (0x318D, "ᆞ"), (0x318E, "ᆡ"), (0x3192, "一"),
   (0x3193, "二"), (0x3194, "三"), (0x3195, "四"), (0x3196, "上"),
   (0x3197, "中"), (0x3198, "下"), (0x3199, "甲"), (0x319A, "乙"),
   (0x319B, "丙"), (0x319C, "丁"), (0x319D, "天"), (0x319E, "地"),
   (0x319F, "人"), (0x3200, "(ᄀ)"), (0x3201, "(ᄂ)"), (0x3202, "(ᄃ)"),
   (0x3203, "(ᄅ)"), (0x3204, "(ᄆ)"), (0x3205, "(ᄇ)"), (0x3206, "(ᄉ)"),
   (0x3207, "(ᄋ)"), (0x3208, "(ᄌ)"), (0x3209, "(ᄎ)"), (0x320A, "(ᄏ)"),
   (0x320B, "(ᄐ)"), (0x320C, "(ᄑ)"), (0x320D, "(ᄒ)"), (0x320E, "(가)"),
   (0x320F, "(나)"), (0x3210, "(다)"), (0x3211, "(라)"), (0x3212, "(마)"),
   (0x3213, "(바)"), (0x3214, "(사)"), (0x3215, "(아)"), (0x3216, "(자)"),
   (0x3217, "(차)"), (0x3218, "(카)"), (0x3219, "(타)"), (0x321A, "(파)"),
   (0x321B, "(하)"), (0x321C, "(주)"), (0x3220, "(一)"), (0x3221, "(二)"),
   (0x3222, "(三)"), (0x3223, "(四)"), (0x3224, "(五)"), (0x3225, "(六)"),
   (0x3226, "(七)"), (0x3227, "(八)"), (0x3228, "(九)"), (0x3229, "(十)"),
   (0x322A, "(月)"), (0x322B, "(火)"), (0x322C, "(水)"), (0x322D, "(木)"),
   (0x322E, "(金)"), (0x322F, "(土)"), (0x3230, "(日)"), (0x3231, "(株)"),
   (0x3232, "(有)"), (0x3233, "(社)"), (0x3234, "(名)"), (0x3235, "(特)"),
   (0x3236, "(財)"), (0x3237, "(祝)"), (0x3238, "(労)"), (0x3239, "(代)"),
   (0x323A, "(呼)"), (0x323B, "(学)"), (0x323C, "(監)"), (0x323D, "(企)"),
   (0x323E, "(資)"), (0x323F, "(協)"), (0x3240, "(祭)"), (0x3241, "(休)"),
   (0x3242, "(自)"), (0x3243, "(至)"), (0x3251, "21"), (0x3252, "22"),
   (0x3253, "23"), (0x3254, "24"), (0x3255, "25"), (0x3256, "26"),
   (0x3257, "27"), (0x3258, "28"), (0x3259, "29"), (0x325A, "30"),
   (0x325B, "31"), (0x325C, "32"), (0x325D, "33"), (0x325E, "34"),
   (0x325F, "35"), (0x3260, "ᄀ"), (0x3261, "ᄂ"), (0x3262, "ᄃ"),
   (0x3263, "ᄅ"), (0x3264, "ᄆ"), (0x3265, "ᄇ"), (0x3266, "ᄉ"),
   (0x3267, "ᄋ"), (0x3268, "ᄌ"), (0x3269, "ᄎ"), (0x326A, "ᄏ"),
   (0x326B, "ᄐ"), (0x326C, "ᄑ"), (0x326D, "ᄒ"), (0x326E, "가"),
   (0x326F, "나"), (0x3270, "다"), (0x3271, "라"), (0x3272, "마"),
   (0x3273, "바"), (0x3274, "사"), (0x3275, "아"), (0x3276, "자"),
   (0x3277, "차"), (0x3278, "카"), (0x3279, "타"), (0x327A, "파"),
   (0x327B, "하"), (0x3280, "一"), (0x3281, "二"), (0x3282, "三"),
   (0x3283, "四"), (0x3284, "五"), (0x3285, "六"), (0x3286, "七"),
   (0x3287, "八"), (0x3288, "九"), (0x3289, "十"), (0x328A, "月"),
   (0x328B, "火"), (0x328C, "水"), (0x328D, "木"), (0x328E, "金"),
   (0x328F, "土"), (0x3290, "日"), (0x3291, "株"), (0x3292, "有"),
   (0x3293, "社"), (0x3294, "名"), (0x3295, "特"), (0x3296, "財"),
   (0x3297, "祝"), (0x3298, "労"), (0x3299, "秘"), (0x329A, "男"),
   (0x329B, "女"), (0x329C, "適"), (0x329D, "優"), (0x329E, "印"),
   (0x329F, "注"), (0x32A0, "項"), (0x32A1, "休"), (0x32A2, "写"),
   (0x32A3, "正"), (0x32A4, "上"), (0x32A5, "中"), (0x32A6, "下"),
   (0x32A7, "左"), (0x32A8, "右"), (0x32A9, "医"), (0x32AA, "宗"),
   (0x32AB, "学"), (0x32AC, "監"), (0x32AD, "企"), (0x32AE, "資"),
   (0x32AF, "協"), (0x32B0, "夜"), (0x32B1, "36"), (0x32B2, "37"),
   (0x32B3, "38"), (0x32B4, "39"), (0x32B5, "40"), (0x32B6, "41"),
   (0x32B7, "42"), (0x32B8, "43"), (0x32B9, "44"), (0x32BA, "45"),
   (0x32BB, "46"), (0x32BC, "47"), (0x32BD, "48"), (0x32BE, "49"),
   (0x32BF, "50"), (0x32C0, "1月"), (0x32C1, "2月"), (0x32C2, "3月"),
   (0x32C3, "4月"), (0x32C4, "5月"), (0x32C5, "6月"), (0x32C6, "7月"),
   (0x32C7, "8月"), (0x32C8, "9月"), (0x32C9, "10月"), (0x32CA, "11月"),
   (0x32CB, "12月"), (0x32D0, "ア"), (0x32D1, "イ"), (0x32D2, "ウ"),
   (0x32D3, "エ"), (0x32D4, "オ"), (0x32D5, "カ"), (0x32D6, "キ"),
   (0x32D7, "ク"), (0x32D8, "ケ"), (0x32D9, "コ"), (0x32DA, "サ"),
   (0x32DB, "シ"), (0x32DC, "ス"), (0x32DD, "セ"), (0x32DE, "ソ"),
   (0x32DF, "タ"), (0x32E0, "チ"), (0x32E1, "ツ"), (0x32E2, "テ"),
   (0x32E3, "ト"), (0x32E4, "ナ"), (0x32E5, "ニ"), (0x32E6, "ヌ"),
   (0x32E7, "ネ"), (0x32E8, "ノ"), (0x32E9, "ハ"), (0x32EA, "ヒ"),
   (0x32EB, "フ"), (0x32EC, "ヘ"), (0x32ED, "ホ"), (0x32EE, "マ"),
   (0x32EF, "ミ"), (0x32F0, "ム"), (0x32F1, "メ"), (0x32F2, "モ"),
   (0x32F3, "ヤ"), (0x32F4, "ユ"), (0x32F5, "ヨ"), (0x32F6, "ラ"),
   (0x32F7, "リ"), (0x32F8, "ル"), (0x32F9, "レ"), (0x32FA, "ロ"),
   (0x32FB, "ワ"), (0x32FC, "ヰ"), (0x32FD, "ヱ"), (0x32FE, "ヲ"),
   (0x3300, "アハ\u309aート"), (0x3301, "アルファ"), (0x3302, "アンヘ\u309aア"), (0x3303, "アール"),
   (0x3304, "イニンク\u3099"), (0x3305, "インチ"), (0x3306, "ウォン"), (0x3307, "エスクート\u3099"),
   (0x3308, "エーカー"), (0x3309, "オンス"), (0x330A, "オーム"), (0x330B, "カイリ"),
   (0x330C, "カラット"), (0x330D, "カロリー"), (0x330E, "カ\u3099ロン"), (0x330F, "カ\u3099ンマ"),
   (0x3310, "キ\u3099カ\u3099"), (0x3311, "キ\u3099ニー"), (0x3312, "キュリー"), (0x3313, "キ\u3099ルタ\u3099ー"),
   (0x3314, "キロ"), (0x3315, "キロク\u3099ラム"), (0x3316, "キロメートル"), (0x3317, "キロワット"),
   (0x3318, "ク\u3099ラム"), (0x3319, "ク\u3099ラムトン"), (0x331A, "クルセ\u3099イロ"), (0x331B, "クローネ"),
   (0x331C, "ケース"), (0x331D, "コルナ"), (0x331E, "コーホ\u309a"), (0x331F, "サイクル"),
   (0x3320, "サンチーム"), (0x3321, "シリンク\u3099"), (0x3322, "センチ"), (0x3323, "セント"),
   (0x3324, "タ\u3099ース"), (0x3325, "テ\u3099シ"), (0x3326, "ト\u3099ル"), (0x3327, "トン"),
   (0x3328, "ナノ"), (0x3329, "ノット"), (0x332A, "ハイツ"), (0x332B, "ハ\u309aーセント"),
   (0x332C, "ハ\u309aーツ"), (0x332D, "ハ\u3099ーレル"), (0x332E, "ヒ\u309aアストル"), (0x332F, "ヒ\u309aクル"),
   (0x3330, "ヒ\u309aコ"), (0x3331, "ヒ\u3099ル"), (0x3332, "ファラット\u3099"), (0x3333, "フィート"),
   (0x3334, "フ\u3099ッシェル"), (0x3335, "フラン"), (0x3336, "ヘクタール"), (0x3337, "ヘ\u309aソ"),
   (0x3338, "ヘ\u309aニヒ"), (0x3339, "ヘルツ"), (0x333A, "ヘ\u309aンス"), (0x333B, "ヘ\u309aーシ\u3099"),
   (0x333C, "ヘ\u3099ータ"), (0x333D, "ホ\u309aイント"), (0x333E, "ホ\u3099ルト"), (0x333F, "ホン"),
   (0x3340, "ホ\u309aント\u3099"), (0x3341, "ホール"), (0x3342, "ホーン"), (0x3343, "マイクロ")]

/-- Part 6 of the compatibility decompositions, by code point. -/
def decompositions6 : List (Nat × String) :=
  [(0x3344, "マイル"), (0x3345, "マッハ"), (0x3346, "マルク"), (0x3347, "マンション"),
   (0x3348, "ミクロン"), (0x3349, "ミリ"), (0x334A, "ミリハ\u3099ール"), (0x334B, "メカ\u3099"),
   (0x334C, "メカ\u3099トン"), (0x334D, "メートル"), (0x334E, "ヤート\u3099"), (0x334F, "ヤール"),
   (0x3350, "ユアン"), (0x3351, "リットル"), (0x3352, "リラ"), (0x3353, "ルヒ\u309aー"),
   (0x3354, "ルーフ\u3099ル"), (0x3355, "レム"), (0x3356, "レントケ\u3099ン"), (0x3357, "ワット"),
   (0x3358, "0点"), (0x3359, "1点"), (0x335A, "2点"), (0x335B, "3点"),
   (0x335C, "4点"), (0x335D, "5点"), (0x335E, "6点"), (0x335F, "7点"),
   (0x3360, "8点"), (0x3361, "9点"), (0x3362, "10点"), (0x3363, "11点"),
   (0x3364, "12点"), (0x3365, "13点"), (0x3366, "14点"), (0x3367, "15点"),
   (0x3368, "16点"), (0x3369, "17点"), (0x336A, "18点"), (0x336B, "19点"),
   (0x336C, "20点"), (0x336D, "21点"), (0x336E, "22点"), (0x336F, "23点"),
   (0x3370, "24点"), (0x3371, "hPa"), (0x3372, "da"), (0x3373, "AU"),
   (0x3374, "bar"), (0x3375, "oV"), (0x3376, "pc"), (0x337B, "平成"),
   (0x337C, "昭和"), (0x337D, "大正"), (0x337E, "明治"), (0x337F, "株式会社"),
   (0x3380, "pA"), (0x3381, "nA"), (0x3382, "μA"), (0x3383, "mA"),
   (0x3384, "kA"), (0x3385, "KB"), (0x3386, "MB"), (0x3387, "GB"),
   (0x3388, "cal"), (0x3389, "kcal"), (0x338A, "pF"), (0x338B, "nF"),
   (0x338C, "μF"), (0x338D, "μg"), (0x338E, "mg"), (0x338F, "kg"),
   (0x3390, "Hz"), (0x3391, "kHz"), (0x3392, "MHz"), (0x3393, "GHz"),
   (0x3394, "THz"), (0x3395, "μl"), (0x3396, "ml"), (0x3397, "dl"),
   (0x3398, "kl"), (0x3399, "fm"), (0x339A, "nm"), (0x339B, "μm"),
   (0x339C, "mm"), (0x339D, "cm"), (0x339E, "km"), (0x339F, "mm2"),
   (0x33A0, "cm2"), (0x33A1, "m2"), (0x33A2, "km2"), (0x33A3, "mm3"),
   (0x33A4, "cm3"), (0x33A5, "m3"), (0x33A6, "km3"), (0x33A7, "m∕s"),
   (0x33A8, "m∕s2"), (0x33A9, "Pa"), (0x33AA, "kPa"), (0x33AB, "MPa"),
   (0x33AC, "GPa"), (0x33AD, "rad"), (0x33AE, "rad∕s"), (0x33AF, "rad∕s2"),
   (0x33B0, "ps"), (0x33B1, "ns"), (0x33B2, "μs"), (0x33B3, "ms"),
   (0x33B4, "pV"), (0x33B5, "nV"), (0x33B6, "μV"), (0x33B7, "mV"),
   (0x33B8, "kV"), (0x33B9, "MV"), (0x33BA, "pW"), (0x33BB, "nW"),
   (0x33BC, "μW"), (0x33BD, "mW"), (0x33BE, "kW"), (0x33BF, "MW"),
   (0x33C0, "kΩ"), (0x33C1, "MΩ"), (0x33C2, "a.m."), (0x33C3, "Bq"),
   (0x33C4, "cc"), (0x33C5, "cd"), (0x33C6, "C∕kg"), (0x33C7, "Co."),
   (0x33C8, "dB"), (0x33C9, "Gy"), (0x33CA, "ha"), (0x33CB, "HP"),
   (0x33CC, "in"), (0x33CD, "KK"), (0x33CE, "KM"), (0x33CF, "kt"),
   (0x33D0, "lm"), (0x33D1, "ln"), (0x33D2, "log"), (0x33D3, "lx"),
   (0x33D4, "mb"), (0x33D5, "mil"), (0x33D6, "mol"), (0x33D7, "PH"),
   (0x33D8, "p.m."), (0x33D9, "PPM"), (0x33DA, "PR"), (0x33DB, "sr"),
   (0x33DC, "Sv"), (0x33DD, "Wb"), (0x33E0, "1日"), (0x33E1, "2日"),
   (0x33E2, "3日"), (0x33E3, "4日"), (0x33E4, "5日"), (0x33E5, "6日"),
   (0x33E6, "7日"), (0x33E7, "8日"), (0x33E8, "9日"), (0x33E9, "10日"),
   (0x33EA, "11日"), (0x33EB, "12日"), (0x33EC, "13日"), (0x33ED, "14日"),
   (0x33EE, "15日"), (0x33EF, "16日"), (0x33F0, "17日"), (0x33F1, "18日"),
   (0x33F2, "19日"), (0x33F3, "20日"), (0x33F4, "21日"), (0x33F5, "22日"),
   (0x33F6, "23日"), (0x33F7, "24日"), (0x33F8, "25日"), (0x33F9, "26日"),
   (0x33FA, "27日"), (0x33FB, "28日"), (0x33FC, "29日"), (0x33FD, "30日"),
   (0x33FE, "31日"), (0xF900, "豈"), (0xF901, "更"), (0xF902, "車"),
   (0xF903, "賈"), (0xF904, "滑"), (0xF905, "串"), (0xF906, "句"),
   (0xF907, "龜"), (0xF908, "龜"), (0xF909, "契"), (0xF90A, "金"),
   (0xF90B, "喇"), (0xF90C, "奈"), (0xF90D, "懶"), (0xF90E, "癩"),
   (0xF90F, "羅"), (0xF910, "蘿"), (0xF911, "螺"), (0xF912, "裸"),
   (0xF913, "邏"), (0xF914, "樂"), (0xF915, "洛"), (0xF916, "烙"),
   (0xF917, "珞"), (0xF918, "落"), (0xF919, "酪"), (0xF91A, "駱"),
   (0xF91B, "亂"), (0xF91C, "卵"), (0xF91D, "欄"), (0xF91E, "爛"),
   (0xF91F, "蘭"), (0xF920, "鸞"), (0xF921, "嵐"), (0xF922, "濫"),
   (0xF923, "藍"), (0xF924, "襤"), (0xF925, "拉"), (0xF926, "臘"),
   (0xF927, "蠟"), (0xF928, "廊"), (0xF929, "朗"), (0xF92A, "浪"),
   (0xF92B, "狼"), (0xF92C, "郎"), (0xF92D, "來"), (0xF92E, "冷"),
   (0xF92F, "勞"), (0xF930, "擄"), (0xF931, "櫓"), (0xF932, "爐"),
   (0xF933, "盧"), (0xF934, "老"), (0xF935, "蘆"), (0xF936, "虜"),
   (0xF937, "路"), (0xF938, "露"), (0xF939, "魯"), (0xF93A, "鷺"),
   (0xF93B, "碌"), (0xF93C, "祿"), (0xF93D, "綠"), (0xF93E, "菉"),
   (0xF93F, "錄"), (0xF940, "鹿"), (0xF941, "論"), (0xF942, "壟"),
   (0xF943, "弄"), (0xF944, "籠"), (0xF945, "聾"), (0xF946, "牢"),
   (0xF947, "磊"), (0xF948, "賂"), (0xF949, "雷"), (0xF94A, "壘"),
   (0xF94B, "屢"), (0xF94C, "樓"), (0xF94D, "淚"), (0xF94E, "漏"),
   (0xF94F, "累"), (0xF950, "縷"), (0xF951, "陋"), (0xF952, "勒"),
   (0xF953, "肋"), (0xF954, "凜"), (0xF955, "凌"), (0xF956, "稜"),
   (0xF957, "綾"), (0xF958, "菱"), (0xF959, "陵"), (0xF95A, "讀"),
   (0xF95B, "拏"), (0xF95C, "樂"), (0xF95D, "諾"), (0xF95E, "丹"),
   (0xF95F, "寧"), (0xF960, "怒"), (0xF961, "率"), (0xF962, "異"),
   (0xF963, "北"), (0xF964, "磻"), (0xF965, "便"), (0xF966, "復"),
   (0xF967, "不"), (0xF968, "泌"), (0xF969, "數"), (0xF96A, "索"),
   (0xF96B, "參"), (0xF96C, "塞"), (0xF96D, "省"), (0xF96E, "葉"),
   (0xF96F, "說"), (0xF970, "殺"), (0xF971, "辰"), (0xF972, "沈"),
   (0xF973, "拾"), (0xF974, "若"), (0xF975, "掠"), (0xF976, "略"),
   (0xF977, "亮"), (0xF978, "兩"), (0xF979, "凉"), (0xF97A, "梁"),
   (0xF97B, "糧"), (0xF97C, "良"), (0xF97D, "諒"), (0xF97E, "量"),
   (0xF97F, "勵"), (0xF980, "呂"), (0xF981, "女"), (0xF982, "廬"),
   (0xF983, "旅"), (0xF984, "濾"), (0xF985, "礪"), (0xF986, "閭"),
   (0xF987, "驪"), (0xF988, "麗"), (0xF989, "黎"), (0xF98A, "力"),
   (0xF98B, "曆"), (0xF98C, "歷"), (0xF98D, "轢"), (0xF98E, "年"),
   (0xF98F, "憐"), (0xF990, "戀"), (0xF991, "撚"), (0xF992, "漣"),
   (0xF993, "煉"), (0xF994, "璉"), (0xF995, "秊"), (0xF996, "練"),
   (0xF997, "聯"), (0xF998, "輦"), (0xF999, "蓮"), (0xF99A, "連"),
   (0xF99B, "鍊"), (0xF99C, "列"), (0xF99D, "劣"), (0xF99E, "咽"),
   (0xF99F, "烈"), (0xF9A0, "裂"), (0xF9A1, "說"), (0xF9A2, "廉"),
   (0xF9A3, "念"), (0xF9A4, "捻"), (0xF9A5, "殮"), (0xF9A6, "簾"),
   (0xF9A7, "獵"), (0xF9A8, "令"), (0xF9A9, "囹"), (0xF9AA, "寧"),
   (0xF9AB, "嶺"), (0xF9AC, "怜"), (0xF9AD, "玲"), (0xF9AE, "瑩"),
   (0xF9AF, "羚"), (0xF9B0, "聆"), (0xF9B1, "鈴"), (0xF9B2, "零"),
   (0xF9B3, "靈"), (0xF9B4, "領"), (0xF9B5, "例"), (0xF9B6, "禮"),
   (0xF9B7, "醴"), (0xF9B8, "隸"), (0xF9B9, "惡"), (0xF9BA, "了"),
   (0xF9BB, "僚"), (0xF9BC, "寮"), (0xF9BD, "尿"), (0xF9BE, "料"),
   (0xF9BF, "樂"), (0xF9C0, "燎"), (0xF9C1, "療"), (0xF9C2, "蓼"),
   (0xF9C3, "遼"), (0xF9C4, "龍"), (0xF9C5, "暈"), (0xF9C6, "阮"),
   (0xF9C7, "劉"), (0xF9C8, "杻"), (0xF9C9, "柳"), (0xF9CA, "流"),
   (0xF9CB, "溜"), (0xF9CC, "琉"), (0xF9CD, "留"), (0xF9CE, "硫"),
   (0xF9CF, "紐"), (0xF9D0, "類"), (0xF9D1, "六"), (0xF9D2, "戮"),
   (0xF9D3, "陸"), (0xF9D4, "倫"), (0xF9D5, "崙"), (0xF9D6, "淪"),
   (0xF9D7, "輪"), (0xF9D8, "律"), (0xF9D9, "慄"), (0xF9DA, "栗")]

/-- Part 7 of the compatibility decompositions, by code point. -/
def decompositions7 : List (Nat × String) :=
  [(0xF9DB, "率"), (0xF9DC, "隆"), (0xF9DD, "利"), (0xF9DE, "吏"),
   (0xF9DF, "履"), (0xF9E0, "易"), (0xF9E1, "李"), (0xF9E2, "梨"),
   (0xF9E3, "泥"), (0xF9E4, "理"), (0xF9E5, "痢"), (0xF9E6, "罹"),
   (0xF9E7, "裏"), (0xF9E8, "裡"), (0xF9E9, "里"), (0xF9EA, "離"),
   (0xF9EB, "匿"), (0xF9EC, "溺"), (0xF9ED, "吝"), (0xF9EE, "燐"),
   (0xF9EF, "璘"), (0xF9F0, "藺"), (0xF9F1, "隣"), (0xF9F2, "鱗"),
   (0xF9F3, "麟"), (0xF9F4, "林"), (0xF9F5, "淋"), (0xF9F6, "臨"),
   (0xF9F7, "立"), (0xF9F8, "笠"), (0xF9F9, "粒"), (0xF9FA, "狀"),
   (0xF9FB, "炙"), (0xF9FC, "識"), (0xF9FD, "什"), (0xF9FE, "茶"),
   (0xF9FF, "刺"), (0xFA00, "切"), (0xFA01, "度"), (0xFA02, "拓"),
   (0xFA03, "糖"), (0xFA04, "宅"), (0xFA05, "洞"), (0xFA06, "暴"),
   (0xFA07, "輻"), (0xFA08, "行"), (0xFA09, "降"), (0xFA0A, "見"),
   (0xFA0B, "廓"), (0xFA0C, "兀"), (0xFA0D, "嗀"), (0xFA10, "塚"),
   (0xFA12, "晴"), (0xFA15, "凞"), (0xFA16, "猪"), (0xFA17, "益"),
   (0xFA18, "礼"), (0xFA19, "神"), (0xFA1A, "祥"), (0xFA1B, "福"),
   (0xFA1C, "靖"), (0xFA1D, "精"), (0xFA1E, "羽"), (0xFA20, "蘒"),
   (0xFA22, "諸"), (0xFA25, "逸"), (0xFA26, "都"), (0xFA2A, "飯"),
   (0xFA2B, "飼"), (0xFA2C, "館"), (0xFA2D, "鶴"), (0xFA30, "侮"),
   (0xFA31, "僧"), (0xFA32, "免"), (0xFA33, "勉"), (0xFA34, "勤"),
   (0xFA35, "卑"), (0xFA36, "喝"), (0xFA37, "嘆"), (0xFA38, "器"),
   (0xFA39, "塀"), (0xFA3A, "墨"), (0xFA3B, "層"), (0xFA3C, "屮"),
   (0xFA3D, "悔"), (0xFA3E, "慨"), (0xFA3F, "憎"), (0xFA40, "懲"),
   (0xFA41, "敏"), (0xFA42, "既"), (0xFA43, "暑"), (0xFA44, "梅"),
   (0xFA45, "海"), (0xFA46, "渚"), (0xFA47, "漢"), (0xFA48, "煮"),
   (0xFA49, "爫"), (0xFA4A, "琢"), (0xFA4B, "碑"), (0xFA4C, "社"),
   (0xFA4D, "祉"), (0xFA4E, "祈"), (0xFA4F, "祐"), (0xFA50, "祖"),
   (0xFA51, "祝"), (0xFA52, "禍"), (0xFA53, "禎"), (0xFA54, "穀"),
   (0xFA55, "突"), (0xFA56, "節"), (0xFA57, "練"), (0xFA58, "縉"),
   (0xFA59, "繁"), (0xFA5A, "署"), (0xFA5B, "者"), (0xFA5C, "臭"),
   (0xFA5D, "艹"), (0xFA5E, "艹"), (0xFA5F, "著"), (0xFA60, "褐"),
   (0xFA61, "視"), (0xFA62, "謁"), (0xFA63, "謹"), (0xFA64, "賓"),
   (0xFA65, "贈"), (0xFA66, "辶"), (0xFA67, "逸"), (0xFA68, "難"),
   (0xFA69, "響"), (0xFA6A, "頻"), (0xFB00, "ff"), (0xFB01, "fi"),
   (0xFB02, "fl"), (0xFB03, "ffi"), (0xFB04, "ffl"), (0xFB05, "st"),
   (0xFB06, "st"), (0xFB13, "մն"), (0xFB14, "մե"), (0xFB15, "մի"),
   (0xFB16, "վն"), (0xFB17, "մխ"), (0xFB1D, "י\u05b4"), (0xFB1F, "ײ\u05b7"),
   (0xFB20, "ע"), (0xFB21, "א"), (0xFB22, "ד"), (0xFB23, "ה"),
   (0xFB24, "כ"), (0xFB25, "ל"), (0xFB26, "ם"), (0xFB27, "ר"),
   (0xFB28, "ת"), (0xFB29, "+"), (0xFB2A, "ש\u05c1"), (0xFB2B, "ש\u05c2"),
   (0xFB2C, "ש\u05bc\u05c1"), (0xFB2D, "ש\u05bc\u05c2"), (0xFB2E, "א\u05b7"), (0xFB2F, "א\u05b8"),
   (0xFB30, "א\u05bc"), (0xFB31, "ב\u05bc"), (0xFB32, "ג\u05bc"), (0xFB33, "ד\u05bc"),
   (0xFB34, "ה\u05bc"), (0xFB35, "ו\u05bc"), (0xFB36, "ז\u05bc"), (0xFB38, "ט\u05bc"),
   (0xFB39, "י\u05bc"), (0xFB3A, "ך\u05bc"), (0xFB3B, "כ\u05bc"), (0xFB3C, "ל\u05bc"),
   (0xFB3E, "מ\u05bc"), (0xFB40, "נ\u05bc"), (0xFB41, "ס\u05bc"), (0xFB43, "ף\u05bc"),
   (0xFB44, "פ\u05bc"), (0xFB46, "צ\u05bc"), (0xFB47, "ק\u05bc"), (0xFB48, "ר\u05bc"),
   (0xFB49, "ש\u05bc"), (0xFB4A, "ת\u05bc"), (0xFB4B, "ו\u05b9"), (0xFB4C, "ב\u05bf"),
   (0xFB4D, "כ\u05bf"), (0xFB4E, "פ\u05bf"), (0xFB4F, "אל"), (0xFB50, "ٱ"),
   (0xFB51, "ٱ"), (0xFB52, "ٻ"), (0xFB53, "ٻ"), (0xFB54, "ٻ"),
   (0xFB55, "ٻ"), (0xFB56, "پ"), (0xFB57, "پ"), (0xFB58, "پ"),
   (0xFB59, "پ"), (0xFB5A, "ڀ"), (0xFB5B, "ڀ"), (0xFB5C, "ڀ"),
   (0xFB5D, "ڀ"), (0xFB5E, "ٺ"), (0xFB5F, "ٺ"), (0xFB60, "ٺ"),
   (0xFB61, "ٺ"), (0xFB62, "ٿ"), (0xFB63, "ٿ"), (0xFB64, "ٿ"),
   (0xFB65, "ٿ"), (0xFB66, "ٹ"), (0xFB67, "ٹ"), (0xFB68, "ٹ"),
   (0xFB69, "ٹ"), (0xFB6A, "ڤ"), (0xFB6B, "ڤ"), (0xFB6C, "ڤ"),
   (0xFB6D, "ڤ"), (0xFB6E, "ڦ"), (0xFB6F, "ڦ"), (0xFB70, "ڦ"),
   (0xFB71, "ڦ"), (0xFB72, "ڄ"), (0xFB73, "ڄ"), (0xFB74, "ڄ"),
   (0xFB75, "ڄ"), (0xFB76, "ڃ"), (0xFB77, "ڃ"), (0xFB78, "ڃ"),
   (0xFB79, "ڃ"), (0xFB7A, "چ"), (0xFB7B, "چ"), (0xFB7C, "چ"),
   (0xFB7D, "چ"), (0xFB7E, "ڇ"), (0xFB7F, "ڇ"), (0xFB80, "ڇ"),
   (0xFB81, "ڇ"), (0xFB82, "ڍ"), (0xFB83, "ڍ"), (0xFB84, "ڌ"),
   (0xFB85, "ڌ"), (0xFB86, "ڎ"), (0xFB87, "ڎ"), (0xFB88, "ڈ"),
   (0xFB89, "ڈ"), (0xFB8A, "ژ"), (0xFB8B, "ژ"), (0xFB8C, "ڑ"),
   (0xFB8D, "ڑ"), (0xFB8E, "ک"), (0xFB8F, "ک"), (0xFB90, "ک"),
   (0xFB91, "ک"), (0xFB92, "گ"), (0xFB93, "گ"), (0xFB94, "گ"),
   (0xFB95, "گ"), (0xFB96, "ڳ"), (0xFB97, "ڳ"), (0xFB98, "ڳ"),
   (0xFB99, "ڳ"), (0xFB9A, "ڱ"), (0xFB9B, "ڱ"), (0xFB9C, "ڱ"),
   (0xFB9D, "ڱ"), (0xFB9E, "ں"), (0xFB9F, "ں"), (0xFBA0, "ڻ"),
   (0xFBA1, "ڻ"), (0xFBA2, "ڻ"), (0xFBA3, "ڻ"), (0xFBA4, "ە\u0654"),
   (0xFBA5, "ە\u0654"), (0xFBA6, "ہ"), (0xFBA7, "ہ"), (0xFBA8, "ہ"),
   (0xFBA9, "ہ"), (0xFBAA, "ھ"), (0xFBAB, "ھ"), (0xFBAC, "ھ"),
   (0xFBAD, "ھ"), (0xFBAE, "ے"), (0xFBAF, "ے"), (0xFBB0, "ے\u0654"),
   (0xFBB1, "ے\u0654"), (0xFBD3, "ڭ"), (0xFBD4, "ڭ"), (0xFBD5, "ڭ"),
   (0xFBD6, "ڭ"), (0xFBD7, "ۇ"), (0xFBD8, "ۇ"), (0xFBD9, "ۆ"),
   (0xFBDA, "ۆ"), (0xFBDB, "ۈ"), (0xFBDC, "ۈ"), (0xFBDD, "ۇٴ"),
   (0xFBDE, "ۋ"), (0xFBDF, "ۋ"), (0xFBE0, "ۅ"), (0xFBE1, "ۅ"),
   (0xFBE2, "ۉ"), (0xFBE3, "ۉ"), (0xFBE4, "ې"), (0xFBE5, "ې"),
   (0xFBE6, "ې"), (0xFBE7, "ې"), (0xFBE8, "ى"), (0xFBE9, "ى"),
   (0xFBEA, "ي\u0654ا"), (0xFBEB, "ي\u0654ا"), (0xFBEC, "ي\u0654ە"), (0xFBED, "ي\u0654ە"),
   (0xFBEE, "ي\u0654و"), (0xFBEF, "ي\u0654و"), (0xFBF0, "ي\u0654ۇ"), (0xFBF1, "ي\u0654ۇ"),
   (0xFBF2, "ي\u0654ۆ"), (0xFBF3, "ي\u0654ۆ"), (0xFBF4, "ي\u0654ۈ"), (0xFBF5, "ي\u0654ۈ"),
   (0xFBF6, "ي\u0654ې"), (0xFBF7, "ي\u0654ې"), (0xFBF8, "ي\u0654ې"), (0xFBF9, "ي\u0654ى"),
   (0xFBFA, "ي\u0654ى"), (0xFBFB, "ي\u0654ى"), (0xFBFC, "ی"), (0xFBFD, "ی"),
   (0xFBFE, "ی"), (0xFBFF, "ی"), (0xFC00, "ي\u0654ج"), (0xFC01, "ي\u0654ح"),
   (0xFC02, "ي\u0654م"), (0xFC03, "ي\u0654ى"), (0xFC04, "ي\u0654ي"), (0xFC05, "بج"),
   (0xFC06, "بح"), (0xFC07, "بخ"), (0xFC08, "بم"), (0xFC09, "بى"),
   (0xFC0A, "بي"), (0xFC0B, "تج"), (0xFC0C, "تح"), (0xFC0D, "تخ"),
   (0xFC0E, "تم"), (0xFC0F, "تى"), (0xFC10, "تي"), (0xFC11, "ثج"),
   (0xFC12, "ثم"), (0xFC13, "ثى"), (0xFC14, "ثي"), (0xFC15, "جح"),
   (0xFC16, "جم"), (0xFC17, "حج"), (0xFC18, "حم"), (0xFC19, "خج"),
   (0xFC1A, "خح"), (0xFC1B, "خم"), (0xFC1C, "سج"), (0xFC1D, "سح"),
   (0xFC1E, "سخ"), (0xFC1F, "سم"), (0xFC20, "صح"), (0xFC21, "صم"),
   (0xFC22, "ضج"), (0xFC23, "ضح"), (0xFC24, "ضخ"), (0xFC25, "ضم"),
   (0xFC26, "طح"), (0xFC27, "طم"), (0xFC28, "ظم"), (0xFC29, "عج"),
   (0xFC2A, "عم"), (0xFC2B, "غج"), (0xFC2C, "غم"), (0xFC2D, "فج"),
   (0xFC2E, "فح"), (0xFC2F, "فخ"), (0xFC30, "فم"), (0xFC31, "فى"),
   (0xFC32, "في"), (0xFC33, "قح"), (0xFC34, "قم"), (0xFC35, "قى"),
   (0xFC36, "قي"), (0xFC37, "كا"), (0xFC38, "كج"), (0xFC39, "كح"),
   (0xFC3A, "كخ"), (0xFC3B, "كل"), (0xFC3C, "كم"), (0xFC3D, "كى"),
   (0xFC3E, "كي"), (0xFC3F, "لج"), (0xFC40, "لح"), (0xFC41, "لخ"),
   (0xFC42, "لم"), (0xFC43, "لى"), (0xFC44, "لي"), (0xFC45, "مج")]

/-- Part 8 of the compatibility decompositions, by code point. -/
def decompositions8 : List (Nat × String) :=
  [(0xFC46, "مح"), (0xFC47, "مخ"), (0xFC48, "مم"), (0xFC49, "مى"),
   (0xFC4A, "مي"), (0xFC4B, "نج"), (0xFC4C, "نح"), (0xFC4D, "نخ"),
   (0xFC4E, "نم"), (0xFC4F, "نى"), (0xFC50, "ني"), (0xFC51, "هج"),
   (0xFC52, "هم"), (0xFC53, "هى"), (0xFC54, "هي"), (0xFC55, "يج"),
   (0xFC56, "يح"), (0xFC57, "يخ"), (0xFC58, "يم"), (0xFC59, "يى"),
   (0xFC5A, "يي"), (0xFC5B, "ذ\u0670"), (0xFC5C, "ر\u0670"), (0xFC5D, "ى\u0670"),
   (0xFC5E, " \u064c\u0651"), (0xFC5F, " \u064d\u0651"), (0xFC60, " \u064e\u0651"), (0xFC61, " \u064f\u0651"),
   (0xFC62, " \u0650\u0651"), (0xFC63, " \u0651\u0670"), (0xFC64, "ي\u0654ر"), (0xFC65, "ي\u0654ز"),
   (0xFC66, "ي\u0654م"), (0xFC67, "ي\u0654ن"), (0xFC68, "ي\u0654ى"), (0xFC69, "ي\u0654ي"),
   (0xFC6A, "بر"), (0xFC6B, "بز"), (0xFC6C, "بم"), (0xFC6D, "بن"),
   (0xFC6E, "بى"), (0xFC6F, "بي"), (0xFC70, "تر"), (0xFC71, "تز"),
   (0xFC72, "تم"), (0xFC73, "تن"), (0xFC74, "تى"), (0xFC75, "تي"),
   (0xFC76, "ثر"), (0xFC77, "ثز"), (0xFC78, "ثم"), (0xFC79, "ثن"),
   (0xFC7A, "ثى"), (0xFC7B, "ثي"), (0xFC7C, "فى"), (0xFC7D, "في"),
   (0xFC7E, "قى"), (0xFC7F, "قي"), (0xFC80, "كا"), (0xFC81, "كل"),
   (0xFC82, "كم"), (0xFC83, "كى"), (0xFC84, "كي"), (0xFC85, "لم"),
   (0xFC86, "لى"), (0xFC87, "لي"), (0xFC88, "ما"), (0xFC89, "مم"),
   (0xFC8A, "نر"), (0xFC8B, "نز"), (0xFC8C, "نم"), (0xFC8D, "نن"),
   (0xFC8E, "نى"), (0xFC8F, "ني"), (0xFC90, "ى\u0670"), (0xFC91, "ير"),
   (0xFC92, "يز"), (0xFC93, "يم"), (0xFC94, "ين"), (0xFC95, "يى"),
   (0xFC96, "يي"), (0xFC97, "ي\u0654ج"), (0xFC98, "ي\u0654ح"), (0xFC99, "ي\u0654خ"),
   (0xFC9A, "ي\u0654م"), (0xFC9B, "ي\u0654ه"), (0xFC9C, "بج"), (0xFC9D, "بح"),
   (0xFC9E, "بخ"), (0xFC9F, "بم"), (0xFCA0, "به"), (0xFCA1, "تج"),
   (0xFCA2, "تح"), (0xFCA3, "تخ"), (0xFCA4, "تم"), (0xFCA5, "ته"),
   (0xFCA6, "ثم"), (0xFCA7, "جح"), (0xFCA8, "جم"), (0xFCA9, "حج"),
   (0xFCAA, "حم"), (0xFCAB, "خج"), (0xFCAC, "خم"), (0xFCAD, "سج"),
   (0xFCAE, "سح"), (0xFCAF, "سخ"), (0xFCB0, "سم"), (0xFCB1, "صح"),
   (0xFCB2, "صخ"), (0xFCB3, "صم"), (0xFCB4, "ضج"), (0xFCB5, "ضح"),
   (0xFCB6, "ضخ"), (0xFCB7, "ضم"), (0xFCB8, "طح"), (0xFCB9, "ظم"),
   (0xFCBA, "عج"), (0xFCBB, "عم"), (0xFCBC, "غج"), (0xFCBD, "غم"),
   (0xFCBE, "فج"), (0xFCBF, "فح"), (0xFCC0, "فخ"), (0xFCC1, "فم"),
   (0xFCC2, "قح"), (0xFCC3, "قم"), (0xFCC4, "كج"), (0xFCC5, "كح"),
   (0xFCC6, "كخ"), (0xFCC7, "كل"), (0xFCC8, "كم"), (0xFCC9, "لج"),
   (0xFCCA, "لح"), (0xFCCB, "لخ"), (0xFCCC, "لم"), (0xFCCD, "له"),
   (0xFCCE, "مج"), (0xFCCF, "مح"), (0xFCD0, "مخ"), (0xFCD1, "مم"),
   (0xFCD2, "نج"), (0xFCD3, "نح"), (0xFCD4, "نخ"), (0xFCD5, "نم"),
   (0xFCD6, "نه"), (0xFCD7, "هج"), (0xFCD8, "هم"), (0xFCD9, "ه\u0670"),
   (0xFCDA, "يج"), (0xFCDB, "يح"), (0xFCDC, "يخ"), (0xFCDD, "يم"),
   (0xFCDE, "يه"), (0xFCDF, "ي\u0654م"), (0xFCE0, "ي\u0654ه"), (0xFCE1, "بم"),
   (0xFCE2, "به"), (0xFCE3, "تم"), (0xFCE4, "ته"), (0xFCE5, "ثم"),
   (0xFCE6, "ثه"), (0xFCE7, "سم"), (0xFCE8, "سه"), (0xFCE9, "شم"),
   (0xFCEA, "شه"), (0xFCEB, "كل"), (0xFCEC, "كم"), (0xFCED, "لم"),
   (0xFCEE, "نم"), (0xFCEF, "نه"), (0xFCF0, "يم"), (0xFCF1, "يه"),
   (0xFCF2, "ـ\u064e\u0651"), (0xFCF3, "ـ\u064f\u0651"), (0xFCF4, "ـ\u0650\u0651"), (0xFCF5, "طى"),
   (0xFCF6, "طي"), (0xFCF7, "عى"), (0xFCF8, "عي"), (0xFCF9, "غى"),
   (0xFCFA, "غي"), (0xFCFB, "سى"), (0xFCFC, "سي"), (0xFCFD, "شى"),
   (0xFCFE, "شي"), (0xFCFF, "حى"), (0xFD00, "حي"), (0xFD01, "جى"),
   (0xFD02, "جي"), (0xFD03, "خى"), (0xFD04, "خي"), (0xFD05, "صى"),
   (0xFD06, "صي"), (0xFD07, "ضى"), (0xFD08, "ضي"), (0xFD09, "شج"),
   (0xFD0A, "شح"), (0xFD0B, "شخ"), (0xFD0C, "شم"), (0xFD0D, "شر"),
   (0xFD0E, "سر"), (0xFD0F, "صر"), (0xFD10, "ضر"), (0xFD11, "طى"),
   (0xFD12, "طي"), (0xFD13, "عى"), (0xFD14, "عي"), (0xFD15, "غى"),
   (0xFD16, "غي"), (0xFD17, "سى"), (0xFD18, "سي"), (0xFD19, "شى"),
   (0xFD1A, "شي"), (0xFD1B, "حى"), (0xFD1C, "حي"), (0xFD1D, "جى"),
   (0xFD1E, "جي"), (0xFD1F, "خى"), (0xFD20, "خي"), (0xFD21, "صى"),
   (0xFD22, "صي"), (0xFD23, "ضى"), (0xFD24, "ضي"), (0xFD25, "شج"),
   (0xFD26, "شح"), (0xFD27, "شخ"), (0xFD28, "شم"), (0xFD29, "شر"),
   (0xFD2A, "سر"), (0xFD2B, "صر"), (0xFD2C, "ضر"), (0xFD2D, "شج"),
   (0xFD2E, "شح"), (0xFD2F, "شخ"), (0xFD30, "شم"), (0xFD31, "سه"),
   (0xFD32, "شه"), (0xFD33, "طم"), (0xFD34, "سج"), (0xFD35, "سح"),
   (0xFD36, "سخ"), (0xFD37, "شج"), (0xFD38, "شح"), (0xFD39, "شخ"),
   (0xFD3A, "طم"), (0xFD3B, "ظم"), (0xFD3C, "ا\u064b"), (0xFD3D, "ا\u064b"),
   (0xFD50, "تجم"), (0xFD51, "تحج"), (0xFD52, "تحج"), (0xFD53, "تحم"),
   (0xFD54, "تخم"), (0xFD55, "تمج"), (0xFD56, "تمح"), (0xFD57, "تمخ"),
   (0xFD58, "جمح"), (0xFD59, "جمح"), (0xFD5A, "حمي"), (0xFD5B, "حمى"),
   (0xFD5C, "سحج"), (0xFD5D, "سجح"), (0xFD5E, "سجى"), (0xFD5F, "سمح"),
   (0xFD60, "سمح"), (0xFD61, "سمج"), (0xFD62, "سمم"), (0xFD63, "سمم"),
   (0xFD64, "صحح"), (0xFD65, "صحح"), (0xFD66, "صمم"), (0xFD67, "شحم"),
   (0xFD68, "شحم"), (0xFD69, "شجي"), (0xFD6A, "شمخ"), (0xFD6B, "شمخ"),
   (0xFD6C, "شمم"), (0xFD6D, "شمم"), (0xFD6E, "ضحى"), (0xFD6F, "ضخم"),
   (0xFD70, "ضخم"), (0xFD71, "طمح"), (0xFD72, "طمح"), (0xFD73, "طمم"),
   (0xFD74, "طمي"), (0xFD75, "عجم"), (0xFD76, "عمم"), (0xFD77, "عمم"),
   (0xFD78, "عمى"), (0xFD79, "غمم"), (0xFD7A, "غمي"), (0xFD7B, "غمى"),
   (0xFD7C, "فخم"), (0xFD7D, "فخم"), (0xFD7E, "قمح"), (0xFD7F, "قمم"),
   (0xFD80, "لحم"), (0xFD81, "لحي"), (0xFD82, "لحى"), (0xFD83, "لجج"),
   (0xFD84, "لجج"), (0xFD85, "لخم"), (0xFD86, "لخم"), (0xFD87, "لمح"),
   (0xFD88, "لمح"), (0xFD89, "محج"), (0xFD8A, "محم"), (0xFD8B, "محي"),
   (0xFD8C, "مجح"), (0xFD8D, "مجم"), (0xFD8E, "مخج"), (0xFD8F, "مخم"),
   (0xFD92, "مجخ"), (0xFD93, "همج"), (0xFD94, "همم"), (0xFD95, "نحم"),
   (0xFD96, "نحى"), (0xFD97, "نجم"), (0xFD98, "نجم"), (0xFD99, "نجى"),
   (0xFD9A, "نمي"), (0xFD9B, "نمى"), (0xFD9C, "يمم"), (0xFD9D, "يمم"),
   (0xFD9E, "بخي"), (0xFD9F, "تجي"), (0xFDA0, "تجى"), (0xFDA1, "تخي"),
   (0xFDA2, "تخى"), (0xFDA3, "تمي"), (0xFDA4, "تمى"), (0xFDA5, "جمي"),
   (0xFDA6, "جحى"), (0xFDA7, "جمى"), (0xFDA8, "سخى"), (0xFDA9, "صحي"),
   (0xFDAA, "شحي"), (0xFDAB, "ضحي"), (0xFDAC, "لجي"), (0xFDAD, "لمي"),
   (0xFDAE, "يحي"), (0xFDAF, "يجي"), (0xFDB0, "يمي"), (0xFDB1, "ممي"),
   (0xFDB2, "قمي"), (0xFDB3, "نحي"), (0xFDB4, "قمح"), (0xFDB5, "لحم"),
   (0xFDB6, "عمي"), (0xFDB7, "كمي"), (0xFDB8, "نجح"), (0xFDB9, "مخي"),
   (0xFDBA, "لجم"), (0xFDBB, "كمم"), (0xFDBC, "لجم"), (0xFDBD, "نجح"),
   (0xFDBE, "جحي"), (0xFDBF, "حجي"), (0xFDC0, "مجي"), (0xFDC1, "فمي"),
   (0xFDC2, "بحي"), (0xFDC3, "كمم"), (0xFDC4, "عجم"), (0xFDC5, "صمم"),
   (0xFDC6, "سخي"), (0xFDC7, "نجي"), (0xFDF0, "صلے"), (0xFDF1, "قلے"),
   (0xFDF2, "الله"), (0xFDF3, "اكبر"), (0xFDF4, "محمد"), (0xFDF5, "صلعم"),
   (0xFDF6, "رسول"), (0xFDF7, "عليه"), (0xFDF8, "وسلم"), (0xFDF9, "صلى"),
   (0xFDFA, "صلى الله عليه وسلم"), (0xFDFB, "جل جلاله"), (0xFDFC, "ریال"), (0xFE30, ".."),
   (0xFE31, "—"), (0xFE32, "–"), (0xFE33, "_"), (0xFE34, "_"),
   (0xFE35, "("), (0xFE36, ")"), (0xFE37, "\x7b"), (0xFE38, "\x7d"),
   (0xFE39, "〔"), (0xFE3A, "〕"), (0xFE3B, "【"), (0xFE3C, "】"),
   (0xFE3D, "《"), (0xFE3E, "》"), (0xFE3F, "〈"), (0xFE40, "〉"),
   (0xFE41, "「"), (0xFE42, "」"), (0xFE43, "『"), (0xFE44, "』")]

/-- Part 9 of the compatibility decompositions, by code point. -/
def decompositions9 : List (Nat × String) :=
  [(0xFE49, " \u0305"), (0xFE4A, " \u0305"), (0xFE4B, " \u0305"), (0xFE4C, " \u0305"),
   (0xFE4D, "_"), (0xFE4E, "_"), (0xFE4F, "_"), (0xFE50, ","),
   (0xFE51, "、"), (0xFE52, "."), (0xFE54, ";"), (0xFE55, ":"),
   (0xFE56, "?"), (0xFE57, "!"), (0xFE58, "—"), (0xFE59, "("),
   (0xFE5A, ")"), (0xFE5B, "\x7b"), (0xFE5C, "\x7d"), (0xFE5D, "〔"),
   (0xFE5E, "〕"), (0xFE5F, "#"), (0xFE60, "&"), (0xFE61, "*"),
   (0xFE62, "+"), (0xFE63, "-"), (0xFE64, "<"), (0xFE65, ">"),
   (0xFE66, "="), (0xFE68, "\x5c"), (0xFE69, "$"), (0xFE6A, "%"),
   (0xFE6B, "@"), (0xFE70, " \u064b"), (0xFE71, "ـ\u064b"), (0xFE72, " \u064c"),
   (0xFE74, " \u064d"), (0xFE76, " \u064e"), (0xFE77, "ـ\u064e"), (0xFE78, " \u064f"),
   (0xFE79, "ـ\u064f"), (0xFE7A, " \u0650"), (0xFE7B, "ـ\u0650"), (0xFE7C, " \u0651"),
   (0xFE7D, "ـ\u0651"), (0xFE7E, " \u0652"), (0xFE7F, "ـ\u0652"), (0xFE80, "ء"),
   (0xFE81, "ا\u0653"), (0xFE82, "ا\u0653"), (0xFE83, "ا\u0654"), (0xFE84, "ا\u0654"),
   (0xFE85, "و\u0654"), (0xFE86, "و\u0654"), (0xFE87, "ا\u0655"), (0xFE88, "ا\u0655"),
   (0xFE89, "ي\u0654"), (0xFE8A, "ي\u0654"), (0xFE8B, "ي\u0654"), (0xFE8C, "ي\u0654"),
   (0xFE8D, "ا"), (0xFE8E, "ا"), (0xFE8F, "ب"), (0xFE90, "ب"),
   (0xFE91, "ب"), (0xFE92, "ب"), (0xFE93, "ة"), (0xFE94, "ة"),
   (0xFE95, "ت"), (0xFE96, "ت"), (0xFE97, "ت"), (0xFE98, "ت"),
   (0xFE99, "ث"), (0xFE9A, "ث"), (0xFE9B, "ث"), (0xFE9C, "ث"),
   (0xFE9D, "ج"), (0xFE9E, "ج"), (0xFE9F, "ج"), (0xFEA0, "ج"),
   (0xFEA1, "ح"), (0xFEA2, "ح"), (0xFEA3, "ح"), (0xFEA4, "ح"),
   (0xFEA5, "خ"), (0xFEA6, "خ"), (0xFEA7, "خ"), (0xFEA8, "خ"),
   (0xFEA9, "د"), (0xFEAA, "د"), (0xFEAB, "ذ"), (0xFEAC, "ذ"),
   (0xFEAD, "ر"), (0xFEAE, "ر"), (0xFEAF, "ز"), (0xFEB0, "ز"),
   (0xFEB1, "س"), (0xFEB2, "س"), (0xFEB3, "س"), (0xFEB4, "س"),
   (0xFEB5, "ش"), (0xFEB6, "ش"), (0xFEB7, "ش"), (0xFEB8, "ش"),
   (0xFEB9, "ص"), (0xFEBA, "ص"), (0xFEBB, "ص"), (0xFEBC, "ص"),
   (0xFEBD, "ض"), (0xFEBE, "ض"), (0xFEBF, "ض"), (0xFEC0, "ض"),
   (0xFEC1, "ط"), (0xFEC2, "ط"), (0xFEC3, "ط"), (0xFEC4, "ط"),
   (0xFEC5, "ظ"), (0xFEC6, "ظ"), (0xFEC7, "ظ"), (0xFEC8, "ظ"),
   (0xFEC9, "ع"), (0xFECA, "ع"), (0xFECB, "ع"), (0xFECC, "ع"),
   (0xFECD, "غ"), (0xFECE, "غ"), (0xFECF, "غ"), (0xFED0, "غ"),
   (0xFED1, "ف"), (0xFED2, "ف"), (0xFED3, "ف"), (0xFED4, "ف"),
   (0xFED5, "ق"), (0xFED6, "ق"), (0xFED7, "ق"), (0xFED8, "ق"),
   (0xFED9, "ك"), (0xFEDA, "ك"), (0xFEDB, "ك"), (0xFEDC, "ك"),
   (0xFEDD, "ل"), (0xFEDE, "ل"), (0xFEDF, "ل"), (0xFEE0, "ل"),
   (0xFEE1, "م"), (0xFEE2, "م"), (0xFEE3, "م"), (0xFEE4, "م"),
   (0xFEE5, "ن"), (0xFEE6, "ن"), (0xFEE7, "ن"), (0xFEE8, "ن"),
   (0xFEE9, "ه"), (0xFEEA, "ه"), (0xFEEB, "ه"), (0xFEEC, "ه"),
   (0xFEED, "و"), (0xFEEE, "و"), (0xFEEF, "ى"), (0xFEF0, "ى"),
   (0xFEF1, "ي"), (0xFEF2, "ي"), (0xFEF3, "ي"), (0xFEF4, "ي"),
   (0xFEF5, "لا\u0653"), (0xFEF6, "لا\u0653"), (0xFEF7, "لا\u0654"), (0xFEF8, "لا\u0654"),
   (0xFEF9, "لا\u0655"), (0xFEFA, "لا\u0655"), (0xFEFB, "لا"), (0xFEFC, "لا"),
   (0xFF01, "!"), (0xFF02, "\x22"), (0xFF03, "#"), (0xFF04, "$"),
   (0xFF05, "%"), (0xFF06, "&"), (0xFF07, "'"), (0xFF08, "("),
   (0xFF09, ")"), (0xFF0A, "*"), (0xFF0B, "+"), (0xFF0C, ","),
   (0xFF0D, "-"), (0xFF0E, "."), (0xFF0F, "/"), (0xFF10, "0"),
   (0xFF11, "1"), (0xFF12, "2"), (0xFF13, "3"), (0xFF14, "4"),
   (0xFF15, "5"), (0xFF16, "6"), (0xFF17, "7"), (0xFF18, "8"),
   (0xFF19, "9"), (0xFF1A, ":"), (0xFF1B, ";"), (0xFF1C, "<"),
   (0xFF1D, "="), (0xFF1E, ">"), (0xFF1F, "?"), (0xFF20, "@"),
   (0xFF21, "A"), (0xFF22, "B"), (0xFF23, "C"), (0xFF24, "D"),
   (0xFF25, "E"), (0xFF26, "F"), (0xFF27, "G"), (0xFF28, "H"),
   (0xFF29, "I"), (0xFF2A, "J"), (0xFF2B, "K"), (0xFF2C, "L"),
   (0xFF2D, "M"), (0xFF2E, "N"), (0xFF2F, "O"), (0xFF30, "P"),
   (0xFF31, "Q"), (0xFF32, "R"), (0xFF33, "S"), (0xFF34, "T"),
   (0xFF35, "U"), (0xFF36, "V"), (0xFF37, "W"), (0xFF38, "X"),
   (0xFF39, "Y"), (0xFF3A, "Z"), (0xFF3B, "["), (0xFF3C, "\x5c"),
   (0xFF3D, "]"), (0xFF3E, "^"), (0xFF3F, "_"), (0xFF40, "\x60"),
   (0xFF41, "a"), (0xFF42, "b"), (0xFF43, "c"), (0xFF44, "d"),
   (0xFF45, "e"), (0xFF46, "f"), (0xFF47, "g"), (0xFF48, "h"),
   (0xFF49, "i"), (0xFF4A, "j"), (0xFF4B, "k"), (0xFF4C, "l"),
   (0xFF4D, "m"), (0xFF4E, "n"), (0xFF4F, "o"), (0xFF50, "p"),
   (0xFF51, "q"), (0xFF52, "r"), (0xFF53, "s"), (0xFF54, "t"),
   (0xFF55, "u"), (0xFF56, "v"), (0xFF57, "w"), (0xFF58, "x"),
   (0xFF59, "y"), (0xFF5A, "z"), (0xFF5B, "\x7b"), (0xFF5C, "|"),
   (0xFF5D, "\x7d"), (0xFF5E, "~"), (0xFF5F, "⦅"), (0xFF60, "⦆"),
   (0xFF61, "。"), (0xFF62, "「"), (0xFF63, "」"), (0xFF64, "、"),
   (0xFF65, "・"), (0xFF66, "ヲ"), (0xFF67, "ァ"), (0xFF68, "ィ"),
   (0xFF69, "ゥ"), (0xFF6A, "ェ"), (0xFF6B, "ォ"), (0xFF6C, "ャ"),
   (0xFF6D, "ュ"), (0xFF6E, "ョ"), (0xFF6F, "ッ"), (0xFF70, "ー"),
   (0xFF71, "ア"), (0xFF72, "イ"), (0xFF73, "ウ"), (0xFF74, "エ"),
   (0xFF75, "オ"), (0xFF76, "カ"), (0xFF77, "キ"), (0xFF78, "ク"),
   (0xFF79, "ケ"), (0xFF7A, "コ"), (0xFF7B, "サ"), (0xFF7C, "シ"),
   (0xFF7D, "ス"), (0xFF7E, "セ"), (0xFF7F, "ソ"), (0xFF80, "タ"),
   (0xFF81, "チ"), (0xFF82, "ツ"), (0xFF83, "テ"), (0xFF84, "ト"),
   (0xFF85, "ナ"), (0xFF86, "ニ"), (0xFF87, "ヌ"), (0xFF88, "ネ"),
   (0xFF89, "ノ"), (0xFF8A, "ハ"), (0xFF8B, "ヒ"), (0xFF8C, "フ"),
   (0xFF8D, "ヘ"), (0xFF8E, "ホ"), (0xFF8F, "マ"), (0xFF90, "ミ"),
   (0xFF91, "ム"), (0xFF92, "メ"), (0xFF93, "モ"), (0xFF94, "ヤ"),
   (0xFF95, "ユ"), (0xFF96, "ヨ"), (0xFF97, "ラ"), (0xFF98, "リ"),
   (0xFF99, "ル"), (0xFF9A, "レ"), (0xFF9B, "ロ"), (0xFF9C, "ワ"),
   (0xFF9D, "ン"), (0xFF9E, "\u3099"), (0xFF9F, "\u309a"), (0xFFA0, "ᅠ"),
   (0xFFA1, "ᄀ"), (0xFFA2, "ᄁ"), (0xFFA3, "ᆪ"), (0xFFA4, "ᄂ"),
   (0xFFA5, "ᆬ"), (0xFFA6, "ᆭ"), (0xFFA7, "ᄃ"), (0xFFA8, "ᄄ"),
   (0xFFA9, "ᄅ"), (0xFFAA, "ᆰ"), (0xFFAB, "ᆱ"), (0xFFAC, "ᆲ"),
   (0xFFAD, "ᆳ"), (0xFFAE, "ᆴ"), (0xFFAF, "ᆵ"), (0xFFB0, "ᄚ"),
   (0xFFB1, "ᄆ"), (0xFFB2, "ᄇ"), (0xFFB3, "ᄈ"), (0xFFB4, "ᄡ"),
   (0xFFB5, "ᄉ"), (0xFFB6, "ᄊ"), (0xFFB7, "ᄋ"), (0xFFB8, "ᄌ"),
   (0xFFB9, "ᄍ"), (0xFFBA, "ᄎ"), (0xFFBB, "ᄏ"), (0xFFBC, "ᄐ"),
   (0xFFBD, "ᄑ"), (0xFFBE, "ᄒ"), (0xFFC2, "ᅡ"), (0xFFC3, "ᅢ"),
   (0xFFC4, "ᅣ"), (0xFFC5, "ᅤ"), (0xFFC6, "ᅥ"), (0xFFC7, "ᅦ"),
   (0xFFCA, "ᅧ"), (0xFFCB, "ᅨ"), (0xFFCC, "ᅩ"), (0xFFCD, "ᅪ"),
   (0xFFCE, "ᅫ"), (0xFFCF, "ᅬ"), (0xFFD2, "ᅭ"), (0xFFD3, "ᅮ"),
   (0xFFD4, "ᅯ"), (0xFFD5, "ᅰ"), (0xFFD6, "ᅱ"), (0xFFD7, "ᅲ"),
   (0xFFDA, "ᅳ"), (0xFFDB, "ᅴ"), (0xFFDC, "ᅵ"), (0xFFE0, "¢"),
   (0xFFE1, "£"), (0xFFE2, "¬"), (0xFFE3, " \u0304"), (0xFFE4, "¦"),
   (0xFFE5, "¥"), (0xFFE6, "₩"), (0xFFE8, "│"), (0xFFE9, "←"),
   (0xFFEA, "↑"), (0xFFEB, "→"), (0xFFEC, "↓"), (0xFFED, "■"),
   (0xFFEE, "○"), (0x1D15E, "𝅗𝅥"), (0x1D15F, "𝅘𝅥"), (0x1D160, "𝅘𝅥𝅮")]

/-- Part 10 of the compatibility decompositions, by code point. -/
def decompositions10 : List (Nat × String) :=
  [(0x1D161, "𝅘𝅥𝅯"), (0x1D162, "𝅘𝅥𝅰"), (0x1D163, "𝅘𝅥𝅱"), (0x1D164, "𝅘𝅥𝅲"),
   (0x1D1BB, "𝆹𝅥"), (0x1D1BC, "𝆺𝅥"), (0x1D1BD, "𝆹𝅥𝅮"), (0x1D1BE, "𝆺𝅥𝅮"),
   (0x1D1BF, "𝆹𝅥𝅯"), (0x1D1C0, "𝆺𝅥𝅯"), (0x1D400, "A"), (0x1D401, "B"),
   (0x1D402, "C"), (0x1D403, "D"), (0x1D404, "E"), (0x1D405, "F"),
   (0x1D406, "G"), (0x1D407, "H"), (0x1D408, "I"), (0x1D409, "J"),
   (0x1D40A, "K"), (0x1D40B, "L"), (0x1D40C, "M"), (0x1D40D, "N"),
   (0x1D40E, "O"), (0x1D40F, "P"), (0x1D410, "Q"), (0x1D411, "R"),
   (0x1D412, "S"), (0x1D413, "T"), (0x1D414, "U"), (0x1D415, "V"),
   (0x1D416, "W"), (0x1D417, "X"), (0x1D418, "Y"), (0x1D419, "Z"),
   (0x1D41A, "a"), (0x1D41B, "b"), (0x1D41C, "c"), (0x1D41D, "d"),
   (0x1D41E, "e"), (0x1D41F, "f"), (0x1D420, "g"), (0x1D421, "h"),
   (0x1D422, "i"), (0x1D423, "j"), (0x1D424, "k"), (0x1D425, "l"),
   (0x1D426, "m"), (0x1D427, "n"), (0x1D428, "o"), (0x1D429, "p"),
   (0x1D42A, "q"), (0x1D42B, "r"), (0x1D42C, "s"), (0x1D42D, "t"),
   (0x1D42E, "u"), (0x1D42F, "v"), (0x1D430, "w"), (0x1D431, "x"),
   (0x1D432, "y"), (0x1D433, "z"), (0x1D434, "A"), (0x1D435, "B"),
   (0x1D436, "C"), (0x1D437, "D"), (0x1D438, "E"), (0x1D439, "F"),
   (0x1D43A, "G"), (0x1D43B, "H"), (0x1D43C, "I"), (0x1D43D, "J"),
   (0x1D43E, "K"), (0x1D43F, "L"), (0x1D440, "M"), (0x1D441, "N"),
   (0x1D442, "O"), (0x1D443, "P"), (0x1D444, "Q"), (0x1D445, "R"),
   (0x1D446, "S"), (0x1D447, "T"), (0x1D448, "U"), (0x1D449, "V"),
   (0x1D44A, "W"), (0x1D44B, "X"), (0x1D44C, "Y"), (0x1D44D, "Z"),
   (0x1D44E, "a"), (0x1D44F, "b"), (0x1D450, "c"), (0x1D451, "d"),
   (0x1D452, "e"), (0x1D453, "f"), (0x1D454, "g"), (0x1D456, "i"),
   (0x1D457, "j"), (0x1D458, "k"), (0x1D459, "l"), (0x1D45A, "m"),
   (0x1D45B, "n"), (0x1D45C, "o"), (0x1D45D, "p"), (0x1D45E, "q"),
   (0x1D45F, "r"), (0x1D460, "s"), (0x1D461, "t"), (0x1D462, "u"),
   (0x1D463, "v"), (0x1D464, "w"), (0x1D465, "x"), (0x1D466, "y"),
   (0x1D467, "z"), (0x1D468, "A"), (0x1D469, "B"), (0x1D46A, "C"),
   (0x1D46B, "D"), (0x1D46C, "E"), (0x1D46D, "F"), (0x1D46E, "G"),
   (0x1D46F, "H"), (0x1D470, "I"), (0x1D471, "J"), (0x1D472, "K"),
   (0x1D473, "L"), (0x1D474, "M"), (0x1D475, "N"), (0x1D476, "O"),
   (0x1D477, "P"), (0x1D478, "Q"), (0x1D479, "R"), (0x1D47A, "S"),
   (0x1D47B, "T"), (0x1D47C, "U"), (0x1D47D, "V"), (0x1D47E, "W"),
   (0x1D47F, "X"), (0x1D480, "Y"), (0x1D481, "Z"), (0x1D482, "a"),
   (0x1D483, "b"), (0x1D484, "c"), (0x1D485, "d"), (0x1D486, "e"),
   (0x1D487, "f"), (0x1D488, "g"), (0x1D489, "h"), (0x1D48A, "i"),
   (0x1D48B, "j"), (0x1D48C, "k"), (0x1D48D, "l"), (0x1D48E, "m"),
   (0x1D48F, "n"), (0x1D490, "o"), (0x1D491, "p"), (0x1D492, "q"),
   (0x1D493, "r"), (0x1D494, "s"), (0x1D495, "t"), (0x1D496, "u"),
   (0x1D497, "v"), (0x1D498, "w"), (0x1D499, "x"), (0x1D49A, "y"),
   (0x1D49B, "z"), (0x1D49C, "A"), (0x1D49E, "C"), (0x1D49F, "D"),
   (0x1D4A2, "G"), (0x1D4A5, "J"), (0x1D4A6, "K"), (0x1D4A9, "N"),
   (0x1D4AA, "O"), (0x1D4AB, "P"), (0x1D4AC, "Q"), (0x1D4AE, "S"),
   (0x1D4AF, "T"), (0x1D4B0, "U"), (0x1D4B1, "V"), (0x1D4B2, "W"),
   (0x1D4B3, "X"), (0x1D4B4, "Y"), (0x1D4B5, "Z"), (0x1D4B6, "a"),
   (0x1D4B7, "b"), (0x1D4B8, "c"), (0x1D4B9, "d"), (0x1D4BB, "f"),
   (0x1D4BD, "h"), (0x1D4BE, "i"), (0x1D4BF, "j"), (0x1D4C0, "k"),
   (0x1D4C2, "m"), (0x1D4C3, "n"), (0x1D4C5, "p"), (0x1D4C6, "q"),
   (0x1D4C7, "r"), (0x1D4C8, "s"), (0x1D4C9, "t"), (0x1D4CA, "u"),
   (0x1D4CB, "v"), (0x1D4CC, "w"), (0x1D4CD, "x"), (0x1D4CE, "y"),
   (0x1D4CF, "z"), (0x1D4D0, "A"), (0x1D4D1, "B"), (0x1D4D2, "C"),
   (0x1D4D3, "D"), (0x1D4D4, "E"), (0x1D4D5, "F"), (0x1D4D6, "G"),
   (0x1D4D7, "H"), (0x1D4D8, "I"), (0x1D4D9, "J"), (0x1D4DA, "K"),
   (0x1D4DB, "L"), (0x1D4DC, "M"), (0x1D4DD, "N"), (0x1D4DE, "O"),
   (0x1D4DF, "P"), (0x1D4E0, "Q"), (0x1D4E1, "R"), (0x1D4E2, "S"),
   (0x1D4E3, "T"), (0x1D4E4, "U"), (0x1D4E5, "V"), (0x1D4E6, "W"),
   (0x1D4E7, "X"), (0x1D4E8, "Y"), (0x1D4E9, "Z"), (0x1D4EA, "a"),
   (0x1D4EB, "b"), (0x1D4EC, "c"), (0x1D4ED, "d"), (0x1D4EE, "e"),
   (0x1D4EF, "f"), (0x1D4F0, "g"), (0x1D4F1, "h"), (0x1D4F2, "i"),
   (0x1D4F3, "j"), (0x1D4F4, "k"), (0x1D4F5, "l"), (0x1D4F6, "m"),
   (0x1D4F7, "n"), (0x1D4F8, "o"), (0x1D4F9, "p"), (0x1D4FA, "q"),
   (0x1D4FB, "r"), (0x1D4FC, "s"), (0x1D4FD, "t"), (0x1D4FE, "u"),
   (0x1D4FF, "v"), (0x1D500, "w"), (0x1D501, "x"), (0x1D502, "y"),
   (0x1D503, "z"), (0x1D504, "A"), (0x1D505, "B"), (0x1D507, "D"),
   (0x1D508, "E"), (0x1D509, "F"), (0x1D50A, "G"), (0x1D50D, "J"),
   (0x1D50E, "K"), (0x1D50F, "L"), (0x1D510, "M"), (0x1D511, "N"),
   (0x1D512, "O"), (0x1D513, "P"), (0x1D514, "Q"), (0x1D516, "S"),
   (0x1D517, "T"), (0x1D518, "U"), (0x1D519, "V"), (0x1D51A, "W"),
   (0x1D51B, "X"), (0x1D51C, "Y"), (0x1D51E, "a"), (0x1D51F, "b"),
   (0x1D520, "c"), (0x1D521, "d"), (0x1D522, "e"), (0x1D523, "f"),
   (0x1D524, "g"), (0x1D525, "h"), (0x1D526, "i"), (0x1D527, "j"),
   (0x1D528, "k"), (0x1D529, "l"), (0x1D52A, "m"), (0x1D52B, "n"),
   (0x1D52C, "o"), (0x1D52D, "p"), (0x1D52E, "q"), (0x1D52F, "r"),
   (0x1D530, "s"), (0x1D531, "t"), (0x1D532, "u"), (0x1D533, "v"),
   (0x1D534, "w"), (0x1D535, "x"), (0x1D536, "y"), (0x1D537, "z"),
   (0x1D538, "A"), (0x1D539, "B"), (0x1D53B, "D"), (0x1D53C, "E"),
   (0x1D53D, "F"), (0x1D53E, "G"), (0x1D540, "I"), (0x1D541, "J"),
   (0x1D542, "K"), (0x1D543, "L"), (0x1D544, "M"), (0x1D546, "O"),
   (0x1D54A, "S"), (0x1D54B, "T"), (0x1D54C, "U"), (0x1D54D, "V"),
   (0x1D54E, "W"), (0x1D54F, "X"), (0x1D550, "Y"), (0x1D552, "a"),
   (0x1D553, "b"), (0x1D554, "c"), (0x1D555, "d"), (0x1D556, "e"),
   (0x1D557, "f"), (0x1D558, "g"), (0x1D559, "h"), (0x1D55A, "i"),
   (0x1D55B, "j"), (0x1D55C, "k"), (0x1D55D, "l"), (0x1D55E, "m"),
   (0x1D55F, "n"), (0x1D560, "o"), (0x1D561, "p"), (0x1D562, "q"),
   (0x1D563, "r"), (0x1D564, "s"), (0x1D565, "t"), (0x1D566, "u"),
   (0x1D567, "v"), (0x1D568, "w"), (0x1D569, "x"), (0x1D56A, "y"),
   (0x1D56B, "z"), (0x1D56C, "A"), (0x1D56D, "B"), (0x1D56E, "C"),
   (0x1D56F, "D"), (0x1D570, "E"), (0x1D571, "F"), (0x1D572, "G"),
   (0x1D573, "H"), (0x1D574, "I"), (0x1D575, "J"), (0x1D576, "K"),
   (0x1D577, "L"), (0x1D578, "M"), (0x1D579, "N"), (0x1D57A, "O"),
   (0x1D57B, "P"), (0x1D57C, "Q"), (0x1D57D, "R"), (0x1D57E, "S"),
   (0x1D57F, "T"), (0x1D580, "U"), (0x1D581, "V"), (0x1D582, "W"),
   (0x1D583, "X"), (0x1D584, "Y"), (0x1D585, "Z"), (0x1D586, "a"),
   (0x1D587, "b"), (0x1D588, "c"), (0x1D589, "d"), (0x1D58A, "e"),
   (0x1D58B, "f"), (0x1D58C, "g"), (0x1D58D, "h"), (0x1D58E, "i"),
   (0x1D58F, "j"), (0x1D590, "k"), (0x1D591, "l"), (0x1D592, "m"),
   (0x1D593, "n"), (0x1D594, "o"), (0x1D595, "p"), (0x1D596, "q"),
   (0x1D597, "r"), (0x1D598, "s"), (0x1D599, "t"), (0x1D59A, "u"),
   (0x1D59B, "v"), (0x1D59C, "w"), (0x1D59D, "x"), (0x1D59E, "y")]

/-- Part 11 of the compatibility decompositions, by code point. -/
def decompositions11 : List (Nat × String) :=
  [(0x1D59F, "z"), (0x1D5A0, "A"), (0x1D5A1, "B"), (0x1D5A2, "C"),
   (0x1D5A3, "D"), (0x1D5A4, "E"), (0x1D5A5, "F"), (0x1D5A6, "G"),
   (0x1D5A7, "H"), (0x1D5A8, "I"), (0x1D5A9, "J"), (0x1D5AA, "K"),
   (0x1D5AB, "L"), (0x1D5AC, "M"), (0x1D5AD, "N"), (0x1D5AE, "O"),
   (0x1D5AF, "P"), (0x1D5B0, "Q"), (0x1D5B1, "R"), (0x1D5B2, "S"),
   (0x1D5B3, "T"), (0x1D5B4, "U"), (0x1D5B5, "V"), (0x1D5B6, "W"),
   (0x1D5B7, "X"), (0x1D5B8, "Y"), (0x1D5B9, "Z"), (0x1D5BA, "a"),
   (0x1D5BB, "b"), (0x1D5BC, "c"), (0x1D5BD, "d"), (0x1D5BE, "e"),
   (0x1D5BF, "f"), (0x1D5C0, "g"), (0x1D5C1, "h"), (0x1D5C2, "i"),
   (0x1D5C3, "j"), (0x1D5C4, "k"), (0x1D5C5, "l"), (0x1D5C6, "m"),
   (0x1D5C7, "n"), (0x1D5C8, "o"), (0x1D5C9, "p"), (0x1D5CA, "q"),
   (0x1D5CB, "r"), (0x1D5CC, "s"), (0x1D5CD, "t"), (0x1D5CE, "u"),
   (0x1D5CF, "v"), (0x1D5D0, "w"), (0x1D5D1, "x"), (0x1D5D2, "y"),
   (0x1D5D3, "z"), (0x1D5D4, "A"), (0x1D5D5, "B"), (0x1D5D6, "C"),
   (0x1D5D7, "D"), (0x1D5D8, "E"), (0x1D5D9, "F"), (0x1D5DA, "G"),
   (0x1D5DB, "H"), (0x1D5DC, "I"), (0x1D5DD, "J"), (0x1D5DE, "K"),
   (0x1D5DF, "L"), (0x1D5E0, "M"), (0x1D5E1, "N"), (0x1D5E2, "O"),
   (0x1D5E3, "P"), (0x1D5E4, "Q"), (0x1D5E5, "R"), (0x1D5E6, "S"),
   (0x1D5E7, "T"), (0x1D5E8, "U"), (0x1D5E9, "V"), (0x1D5EA, "W"),
   (0x1D5EB, "X"), (0x1D5EC, "Y"), (0x1D5ED, "Z"), (0x1D5EE, "a"),
   (0x1D5EF, "b"), (0x1D5F0, "c"), (0x1D5F1, "d"), (0x1D5F2, "e"),
   (0x1D5F3, "f"), (0x1D5F4, "g"), (0x1D5F5, "h"), (0x1D5F6, "i"),
   (0x1D5F7, "j"), (0x1D5F8, "k"), (0x1D5F9, "l"), (0x1D5FA, "m"),
   (0x1D5FB, "n"), (0x1D5FC, "o"), (0x1D5FD, "p"), (0x1D5FE, "q"),
   (0x1D5FF, "r"), (0x1D600, "s"), (0x1D601, "t"), (0x1D602, "u"),
   (0x1D603, "v"), (0x1D604, "w"), (0x1D605, "x"), (0x1D606, "y"),
   (0x1D607, "z"), (0x1D608, "A"), (0x1D609, "B"), (0x1D60A, "C"),
   (0x1D60B, "D"), (0x1D60C, "E"), (0x1D60D, "F"), (0x1D60E, "G"),
   (0x1D60F, "H"), (0x1D610, "I"), (0x1D611, "J"), (0x1D612, "K"),
   (0x1D613, "L"), (0x1D614, "M"), (0x1D615, "N"), (0x1D616, "O"),
   (0x1D617, "P"), (0x1D618, "Q"), (0x1D619, "R"), (0x1D61A, "S"),
   (0x1D61B, "T"), (0x1D61C, "U"), (0x1D61D, "V"), (0x1D61E, "W"),
   (0x1D61F, "X"), (0x1D620, "Y"), (0x1D621, "Z"), (0x1D622, "a"),
   (0x1D623, "b"), (0x1D624, "c"), (0x1D625, "d"), (0x1D626, "e"),
   (0x1D627, "f"), (0x1D628, "g"), (0x1D629, "h"), (0x1D62A, "i"),
   (0x1D62B, "j"), (0x1D62C, "k"), (0x1D62D, "l"), (0x1D62E, "m"),
   (0x1D62F, "n"), (0x1D630, "o"), (0x1D631, "p"), (0x1D632, "q"),
   (0x1D633, "r"), (0x1D634, "s"), (0x1D635, "t"), (0x1D636, "u"),
   (0x1D637, "v"), (0x1D638, "w"), (0x1D639, "x"), (0x1D63A, "y"),
   (0x1D63B, "z"), (0x1D63C, "A"), (0x1D63D, "B"), (0x1D63E, "C"),
   (0x1D63F, "D"), (0x1D640, "E"), (0x1D641, "F"), (0x1D642, "G"),
   (0x1D643, "H"), (0x1D644, "I"), (0x1D645, "J"), (0x1D646, "K"),
   (0x1D647, "L"), (0x1D648, "M"), (0x1D649, "N"), (0x1D64A, "O"),
   (0x1D64B, "P"), (0x1D64C, "Q"), (0x1D64D, "R"), (0x1D64E, "S"),
   (0x1D64F, "T"), (0x1D650, "U"), (0x1D651, "V"), (0x1D652, "W"),
   (0x1D653, "X"), (0x1D654, "Y"), (0x1D655, "Z"), (0x1D656, "a"),
   (0x1D657, "b"), (0x1D658, "c"), (0x1D659, "d"), (0x1D65A, "e"),
   (0x1D65B, "f"), (0x1D65C, "g"), (0x1D65D, "h"), (0x1D65E, "i"),
   (0x1D65F, "j"), (0x1D660, "k"), (0x1D661, "l"), (0x1D662, "m"),
   (0x1D663, "n"), (0x1D664, "o"), (0x1D665, "p"), (0x1D666, "q"),
   (0x1D667, "r"), (0x1D668, "s"), (0x1D669, "t"), (0x1D66A, "u"),
   (0x1D66B, "v"), (0x1D66C, "w"), (0x1D66D, "x"), (0x1D66E, "y"),
   (0x1D66F, "z"), (0x1D670, "A"), (0x1D671, "B"), (0x1D672, "C"),
   (0x1D673, "D"), (0x1D674, "E"), (0x1D675, "F"), (0x1D676, "G"),
   (0x1D677, "H"), (0x1D678, "I"), (0x1D679, "J"), (0x1D67A, "K"),
   (0x1D67B, "L"), (0x1D67C, "M"), (0x1D67D, "N"), (0x1D67E, "O"),
   (0x1D67F, "P"), (0x1D680, "Q"), (0x1D681, "R"), (0x1D682, "S"),
   (0x1D683, "T"), (0x1D684, "U"), (0x1D685, "V"), (0x1D686, "W"),
   (0x1D687, "X"), (0x1D688, "Y"), (0x1D689, "Z"), (0x1D68A, "a"),
   (0x1D68B, "b"), (0x1D68C, "c"), (0x1D68D, "d"), (0x1D68E, "e"),
   (0x1D68F, "f"), (0x1D690, "g"), (0x1D691, "h"), (0x1D692, "i"),
   (0x1D693, "j"), (0x1D694, "k"), (0x1D695, "l"), (0x1D696, "m"),
   (0x1D697, "n"), (0x1D698, "o"), (0x1D699, "p"), (0x1D69A, "q"),
   (0x1D69B, "r"), (0x1D69C, "s"), (0x1D69D, "t"), (0x1D69E, "u"),
   (0x1D69F, "v"), (0x1D6A0, "w"), (0x1D6A1, "x"), (0x1D6A2, "y"),
   (0x1D6A3, "z"), (0x1D6A8, "Α"), (0x1D6A9, "Β"), (0x1D6AA, "Γ"),
   (0x1D6AB, "Δ"), (0x1D6AC, "Ε"), (0x1D6AD, "Ζ"), (0x1D6AE, "Η"),
   (0x1D6AF, "Θ"), (0x1D6B0, "Ι"), (0x1D6B1, "Κ"), (0x1D6B2, "Λ"),
   (0x1D6B3, "Μ"), (0x1D6B4, "Ν"), (0x1D6B5, "Ξ"), (0x1D6B6, "Ο"),
   (0x1D6B7, "Π"), (0x1D6B8, "Ρ"), (0x1D6B9, "Θ"), (0x1D6BA, "Σ"),
   (0x1D6BB, "Τ"), (0x1D6BC, "Υ"), (0x1D6BD, "Φ"), (0x1D6BE, "Χ"),
   (0x1D6BF, "Ψ"), (0x1D6C0, "Ω"), (0x1D6C1, "∇"), (0x1D6C2, "α"),
   (0x1D6C3, "β"), (0x1D6C4, "γ"), (0x1D6C5, "δ"), (0x1D6C6, "ε"),
   (0x1D6C7, "ζ"), (0x1D6C8, "η"), (0x1D6C9, "θ"), (0x1D6CA, "ι"),
   (0x1D6CB, "κ"), (0x1D6CC, "λ"), (0x1D6CD, "μ"), (0x1D6CE, "ν"),
   (0x1D6CF, "ξ"), (0x1D6D0, "ο"), (0x1D6D1, "π"), (0x1D6D2, "ρ"),
   (0x1D6D3, "ς"), (0x1D6D4, "σ"), (0x1D6D5, "τ"), (0x1D6D6, "υ"),
   (0x1D6D7, "φ"), (0x1D6D8, "χ"), (0x1D6D9, "ψ"), (0x1D6DA, "ω"),
   (0x1D6DB, "∂"), (0x1D6DC, "ε"), (0x1D6DD, "θ"), (0x1D6DE, "κ"),
   (0x1D6DF, "φ"), (0x1D6E0, "ρ"), (0x1D6E1, "π"), (0x1D6E2, "Α"),
   (0x1D6E3, "Β"), (0x1D6E4, "Γ"), (0x1D6E5, "Δ"), (0x1D6E6, "Ε"),
   (0x1D6E7, "Ζ"), (0x1D6E8, "Η"), (0x1D6E9, "Θ"), (0x1D6EA, "Ι"),
   (0x1D6EB, "Κ"), (0x1D6EC, "Λ"), (0x1D6ED, "Μ"), (0x1D6EE, "Ν"),
   (0x1D6EF, "Ξ"), (0x1D6F0, "Ο"), (0x1D6F1, "Π"), (0x1D6F2, "Ρ"),
   (0x1D6F3, "Θ"), (0x1D6F4, "Σ"), (0x1D6F5, "Τ"), (0x1D6F6, "Υ"),
   (0x1D6F7, "Φ"), (0x1D6F8, "Χ"), (0x1D6F9, "Ψ"), (0x1D6FA, "Ω"),
   (0x1D6FB, "∇"), (0x1D6FC, "α"), (0x1D6FD, "β"), (0x1D6FE, "γ"),
   (0x1D6FF, "δ"), (0x1D700, "ε"), (0x1D701, "ζ"), (0x1D702, "η"),
   (0x1D703, "θ"), (0x1D704, "ι"), (0x1D705, "κ"), (0x1D706, "λ"),
   (0x1D707, "μ"), (0x1D708, "ν"), (0x1D709, "ξ"), (0x1D70A, "ο"),
   (0x1D70B, "π"), (0x1D70C, "ρ"), (0x1D70D, "ς"), (0x1D70E, "σ"),
   (0x1D70F, "τ"), (0x1D710, "υ"), (0x1D711, "φ"), (0x1D712, "χ"),
   (0x1D713, "ψ"), (0x1D714, "ω"), (0x1D715, "∂"), (0x1D716, "ε"),
   (0x1D717, "θ"), (0x1D718, "κ"), (0x1D719, "φ"), (0x1D71A, "ρ"),
   (0x1D71B, "π"), (0x1D71C, "Α"), (0x1D71D, "Β"), (0x1D71E, "Γ"),
   (0x1D71F, "Δ"), (0x1D720, "Ε"), (0x1D721, "Ζ"), (0x1D722, "Η"),
   (0x1D723, "Θ"), (0x1D724, "Ι"), (0x1D725, "Κ"), (0x1D726, "Λ"),
   (0x1D727, "Μ"), (0x1D728, "Ν"), (0x1D729, "Ξ"), (0x1D72A, "Ο"),
   (0x1D72B, "Π"), (0x1D72C, "Ρ"), (0x1D72D, "Θ"), (0x1D72E, "Σ"),
   (0x1D72F, "Τ"), (0x1D730, "Υ"), (0x1D731, "Φ"), (0x1D732, "Χ")]

/-- Part 12 of the compatibility decompositions, by code point. -/
def decompositions12 : List (Nat × String) :=
  [(0x1D733, "Ψ"), (0x1D734, "Ω"), (0x1D735, "∇"), (0x1D736, "α"),
   (0x1D737, "β"), (0x1D738, "γ"), (0x1D739, "δ"), (0x1D73A, "ε"),
   (0x1D73B, "ζ"), (0x1D73C, "η"), (0x1D73D, "θ"), (0x1D73E, "ι"),
   (0x1D73F, "κ"), (0x1D740, "λ"), (0x1D741, "μ"), (0x1D742, "ν"),
   (0x1D743, "ξ"), (0x1D744, "ο"), (0x1D745, "π"), (0x1D746, "ρ"),
   (0x1D747, "ς"), (0x1D748, "σ"), (0x1D749, "τ"), (0x1D74A, "υ"),
   (0x1D74B, "φ"), (0x1D74C, "χ"), (0x1D74D, "ψ"), (0x1D74E, "ω"),
   (0x1D74F, "∂"), (0x1D750, "ε"), (0x1D751, "θ"), (0x1D752, "κ"),
   (0x1D753, "φ"), (0x1D754, "ρ"), (0x1D755, "π"), (0x1D756, "Α"),
   (0x1D757, "Β"), (0x1D758, "Γ"), (0x1D759, "Δ"), (0x1D75A, "Ε"),
   (0x1D75B, "Ζ"), (0x1D75C, "Η"), (0x1D75D, "Θ"), (0x1D75E, "Ι"),
   (0x1D75F, "Κ"), (0x1D760, "Λ"), (0x1D761, "Μ"), (0x1D762, "Ν"),
   (0x1D763, "Ξ"), (0x1D764, "Ο"), (0x1D765, "Π"), (0x1D766, "Ρ"),
   (0x1D767, "Θ"), (0x1D768, "Σ"), (0x1D769, "Τ"), (0x1D76A, "Υ"),
   (0x1D76B, "Φ"), (0x1D76C, "Χ"), (0x1D76D, "Ψ"), (0x1D76E, "Ω"),
   (0x1D76F, "∇"), (0x1D770, "α"), (0x1D771, "β"), (0x1D772, "γ"),
   (0x1D773, "δ"), (0x1D774, "ε"), (0x1D775, "ζ"), (0x1D776, "η"),
   (0x1D777, "θ"), (0x1D778, "ι"), (0x1D779, "κ"), (0x1D77A, "λ"),
   (0x1D77B, "μ"), (0x1D77C, "ν"), (0x1D77D, "ξ"), (0x1D77E, "ο"),
   (0x1D77F, "π"), (0x1D780, "ρ"), (0x1D781, "ς"), (0x1D782, "σ"),
   (0x1D783, "τ"), (0x1D784, "υ"), (0x1D785, "φ"), (0x1D786, "χ"),
   (0x1D787, "ψ"), (0x1D788, "ω"), (0x1D789, "∂"), (0x1D78A, "ε"),
   (0x1D78B, "θ"), (0x1D78C, "κ"), (0x1D78D, "φ"), (0x1D78E, "ρ"),
   (0x1D78F, "π"), (0x1D790, "Α"), (0x1D791, "Β"), (0x1D792, "Γ"),
   (0x1D793, "Δ"), (0x1D794, "Ε"), (0x1D795, "Ζ"), (0x1D796, "Η"),
   (0x1D797, "Θ"), (0x1D798, "Ι"), (0x1D799, "Κ"), (0x1D79A, "Λ"),
   (0x1D79B, "Μ"), (0x1D79C, "Ν"), (0x1D79D, "Ξ"), (0x1D79E, "Ο"),
   (0x1D79F, "Π"), (0x1D7A0, "Ρ"), (0x1D7A1, "Θ"), (0x1D7A2, "Σ"),
   (0x1D7A3, "Τ"), (0x1D7A4, "Υ"), (0x1D7A5, "Φ"), (0x1D7A6, "Χ"),
   (0x1D7A7, "Ψ"), (0x1D7A8, "Ω"), (0x1D7A9, "∇"), (0x1D7AA, "α"),
   (0x1D7AB, "β"), (0x1D7AC, "γ"), (0x1D7AD, "δ"), (0x1D7AE, "ε"),
   (0x1D7AF, "ζ"), (0x1D7B0, "η"), (0x1D7B1, "θ"), (0x1D7B2, "ι"),
   (0x1D7B3, "κ"), (0x1D7B4, "λ"), (0x1D7B5, "μ"), (0x1D7B6, "ν"),
   (0x1D7B7, "ξ"), (0x1D7B8, "ο"), (0x1D7B9, "π"), (0x1D7BA, "ρ"),
   (0x1D7BB, "ς"), (0x1D7BC, "σ"), (0x1D7BD, "τ"), (0x1D7BE, "υ"),
   (0x1D7BF, "φ"), (0x1D7C0, "χ"), (0x1D7C1, "ψ"), (0x1D7C2, "ω"),
   (0x1D7C3, "∂"), (0x1D7C4, "ε"), (0x1D7C5, "θ"), (0x1D7C6, "κ"),
   (0x1D7C7, "φ"), (0x1D7C8, "ρ"), (0x1D7C9, "π"), (0x1D7CE, "0"),
   (0x1D7CF, "1"), (0x1D7D0, "2"), (0x1D7D1, "3"), (0x1D7D2, "4"),
   (0x1D7D3, "5"), (0x1D7D4, "6"), (0x1D7D5, "7"), (0x1D7D6, "8"),
   (0x1D7D7, "9"), (0x1D7D8, "0"), (0x1D7D9, "1"), (0x1D7DA, "2"),
   (0x1D7DB, "3"), (0x1D7DC, "4"), (0x1D7DD, "5"), (0x1D7DE, "6"),
   (0x1D7DF, "7"), (0x1D7E0, "8"), (0x1D7E1, "9"), (0x1D7E2, "0"),
   (0x1D7E3, "1"), (0x1D7E4, "2"), (0x1D7E5, "3"), (0x1D7E6, "4"),
   (0x1D7E7, "5"), (0x1D7E8, "6"), (0x1D7E9, "7"), (0x1D7EA, "8"),
   (0x1D7EB, "9"), (0x1D7EC, "0"), (0x1D7ED, "1"), (0x1D7EE, "2"),
   (0x1D7EF, "3"), (0x1D7F0, "4"), (0x1D7F1, "5"), (0x1D7F2, "6"),
   (0x1D7F3, "7"), (0x1D7F4, "8"), (0x1D7F5, "9"), (0x1D7F6, "0"),
   (0x1D7F7, "1"), (0x1D7F8, "2"), (0x1D7F9, "3"), (0x1D7FA, "4"),
   (0x1D7FB, "5"), (0x1D7FC, "6"), (0x1D7FD, "7"), (0x1D7FE, "8"),
   (0x1D7FF, "9"), (0x2F800, "丽"), (0x2F801, "丸"), (0x2F802, "乁"),
   (0x2F803, "𠄢"), (0x2F804, "你"), (0x2F805, "侮"), (0x2F806, "侻"),
   (0x2F807, "倂"), (0x2F808, "偺"), (0x2F809, "備"), (0x2F80A, "僧"),
   (0x2F80B, "像"), (0x2F80C, "㒞"), (0x2F80D, "𠘺"), (0x2F80E, "免"),
   (0x2F80F, "兔"), (0x2F810, "兤"), (0x2F811, "具"), (0x2F812, "𠔜"),
   (0x2F813, "㒹"), (0x2F814, "內"), (0x2F815, "再"), (0x2F816, "𠕋"),
   (0x2F817, "冗"), (0x2F818, "冤"), (0x2F819, "仌"), (0x2F81A, "冬"),
   (0x2F81B, "况"), (0x2F81C, "𩇟"), (0x2F81D, "凵"), (0x2F81E, "刃"),
   (0x2F81F, "㓟"), (0x2F820, "刻"), (0x2F821, "剆"), (0x2F822, "割"),
   (0x2F823, "剷"), (0x2F824, "㔕"), (0x2F825, "勇"), (0x2F826, "勉"),
   (0x2F827, "勤"), (0x2F828, "勺"), (0x2F829, "包"), (0x2F82A, "匆"),
   (0x2F82B, "北"), (0x2F82C, "卉"), (0x2F82D, "卑"), (0x2F82E, "博"),
   (0x2F82F, "即"), (0x2F830, "卽"), (0x2F831, "卿"), (0x2F832, "卿"),
   (0x2F833, "卿"), (0x2F834, "𠨬"), (0x2F835, "灰"), (0x2F836, "及"),
   (0x2F837, "叟"), (0x2F838, "𠭣"), (0x2F839, "叫"), (0x2F83A, "叱"),
   (0x2F83B, "吆"), (0x2F83C, "咞"), (0x2F83D, "吸"), (0x2F83E, "呈"),
   (0x2F83F, "周"), (0x2F840, "咢"), (0x2F841, "哶"), (0x2F842, "唐"),
   (0x2F843, "啓"), (0x2F844, "啣"), (0x2F845, "善"), (0x2F846, "善"),
   (0x2F847, "喙"), (0x2F848, "喫"), (0x2F849, "喳"), (0x2F84A, "嗂"),
   (0x2F84B, "圖"), (0x2F84C, "嘆"), (0x2F84D, "圗"), (0x2F84E, "噑"),
   (0x2F84F, "噴"), (0x2F850, "切"), (0x2F851, "壮"), (0x2F852, "城"),
   (0x2F853, "埴"), (0x2F854, "堍"), (0x2F855, "型"), (0x2F856, "堲"),
   (0x2F857, "報"), (0x2F858, "墬"), (0x2F859, "𡓤"), (0x2F85A, "売"),
   (0x2F85B, "壷"), (0x2F85C, "夆"), (0x2F85D, "多"), (0x2F85E, "夢"),
   (0x2F85F, "奢"), (0x2F860, "𡚨"), (0x2F861, "𡛪"), (0x2F862, "姬"),
   (0x2F863, "娛"), (0x2F864, "娧"), (0x2F865, "姘"), (0x2F866, "婦"),
   (0x2F867, "㛮"), (0x2F868, "𡍪"), (0x2F869, "嬈"), (0x2F86A, "嬾"),
   (0x2F86B, "嬾"), (0x2F86C, "𡧈"), (0x2F86D, "寃"), (0x2F86E, "寘"),
   (0x2F86F, "寧"), (0x2F870, "寳"), (0x2F871, "𡬘"), (0x2F872, "寿"),
   (0x2F873, "将"), (0x2F874, "弳"), (0x2F875, "尢"), (0x2F876, "㞁"),
   (0x2F877, "屠"), (0x2F878, "屮"), (0x2F879, "峀"), (0x2F87A, "岍"),
   (0x2F87B, "𡷤"), (0x2F87C, "嵃"), (0x2F87D, "𡷦"), (0x2F87E, "嵮"),
   (0x2F87F, "嵫"), (0x2F880, "嵼"), (0x2F881, "巡"), (0x2F882, "巢"),
   (0x2F883, "㠯"), (0x2F884, "巽"), (0x2F885, "帨"), (0x2F886, "帽"),
   (0x2F887, "幩"), (0x2F888, "㡢"), (0x2F889, "𢆃"), (0x2F88A, "㡼"),
   (0x2F88B, "庰"), (0x2F88C, "庳"), (0x2F88D, "庶"), (0x2F88E, "廊"),
   (0x2F88F, "𪎒"), (0x2F890, "廾"), (0x2F891, "𢌱"), (0x2F892, "𢌱"),
   (0x2F893, "舁"), (0x2F894, "弢"), (0x2F895, "弢"), (0x2F896, "㣇"),
   (0x2F897, "𣊸"), (0x2F898, "𦇚"), (0x2F899, "形"), (0x2F89A, "彫"),
   (0x2F89B, "㣣"), (0x2F89C, "徚"), (0x2F89D, "忍"), (0x2F89E, "志"),
   (0x2F89F, "忹"), (0x2F8A0, "悁"), (0x2F8A1, "㤺"), (0x2F8A2, "㤜"),
   (0x2F8A3, "悔"), (0x2F8A4, "𢛔"), (0x2F8A5, "惇"), (0x2F8A6, "慈"),
   (0x2F8A7, "慌"), (0x2F8A8, "慎"), (0x2F8A9, "慌"), (0x2F8AA, "慺"),
   (0x2F8AB, "憎"), (0x2F8AC, "憲"), (0x2F8AD, "憤"), (0x2F8AE, "憯"),
   (0x2F8AF, "懞"), (0x2F8B0, "懲"), (0x2F8B1, "懶"), (0x2F8B2, "成"),
   (0x2F8B3, "戛"), (0x2F8B4, "扝"), (0x2F8B5, "抱"), (0x2F8B6, "拔"),
   (0x2F8B7, "捐"), (0x2F8B8, "𢬌"), (0x2F8B9, "挽"), (0x2F8BA, "拼"),
   (0x2F8BB, "捨"), (0x2F8BC, "掃"), (0x2F8BD, "揤"), (0x2F8BE, "𢯱"),
   (0x2F8BF, "搢"), (0x2F8C0, "揅"), (0x2F8C1, "掩"), (0x2F8C2, "㨮"),
   (0x2F8C3, "摩"), (0x2F8C4, "摾"), (0x2F8C5, "撝"), (0x2F8C6, "摷")]

/-- Part 13 of the compatibility decompositions, by code point. -/
def decompositions13 : List (Nat × String) :=
  [(0x2F8C7, "㩬"), (0x2F8C8, "敏"), (0x2F8C9, "敬"), (0x2F8CA, "𣀊"),
   (0x2F8CB, "旣"), (0x2F8CC, "書"), (0x2F8CD, "晉"), (0x2F8CE, "㬙"),
   (0x2F8CF, "暑"), (0x2F8D0, "㬈"), (0x2F8D1, "㫤"), (0x2F8D2, "冒"),
   (0x2F8D3, "冕"), (0x2F8D4, "最"), (0x2F8D5, "暜"), (0x2F8D6, "肭"),
   (0x2F8D7, "䏙"), (0x2F8D8, "朗"), (0x2F8D9, "望"), (0x2F8DA, "朡"),
   (0x2F8DB, "杞"), (0x2F8DC, "杓"), (0x2F8DD, "𣏃"), (0x2F8DE, "㭉"),
   (0x2F8DF, "柺"), (0x2F8E0, "枅"), (0x2F8E1, "桒"), (0x2F8E2, "梅"),
   (0x2F8E3, "𣑭"), (0x2F8E4, "梎"), (0x2F8E5, "栟"), (0x2F8E6, "椔"),
   (0x2F8E7, "㮝"), (0x2F8E8, "楂"), (0x2F8E9, "榣"), (0x2F8EA, "槪"),
   (0x2F8EB, "檨"), (0x2F8EC, "𣚣"), (0x2F8ED, "櫛"), (0x2F8EE, "㰘"),
   (0x2F8EF, "次"), (0x2F8F0, "𣢧"), (0x2F8F1, "歔"), (0x2F8F2, "㱎"),
   (0x2F8F3, "歲"), (0x2F8F4, "殟"), (0x2F8F5, "殺"), (0x2F8F6, "殻"),
   (0x2F8F7, "𣪍"), (0x2F8F8, "𡴋"), (0x2F8F9, "𣫺"), (0x2F8FA, "汎"),
   (0x2F8FB, "𣲼"), (0x2F8FC, "沿"), (0x2F8FD, "泍"), (0x2F8FE, "汧"),
   (0x2F8FF, "洖"), (0x2F900, "派"), (0x2F901, "海"), (0x2F902, "流"),
   (0x2F903, "浩"), (0x2F904, "浸"), (0x2F905, "涅"), (0x2F906, "𣴞"),
   (0x2F907, "洴"), (0x2F908, "港"), (0x2F909, "湮"), (0x2F90A, "㴳"),
   (0x2F90B, "滋"), (0x2F90C, "滇"), (0x2F90D, "𣻑"), (0x2F90E, "淹"),
   (0x2F90F, "潮"), (0x2F910, "𣽞"), (0x2F911, "𣾎"), (0x2F912, "濆"),
   (0x2F913, "瀹"), (0x2F914, "瀞"), (0x2F915, "瀛"), (0x2F916, "㶖"),
   (0x2F917, "灊"), (0x2F918, "災"), (0x2F919, "灷"), (0x2F91A, "炭"),
   (0x2F91B, "𠔥"), (0x2F91C, "煅"), (0x2F91D, "𤉣"), (0x2F91E, "熜"),
   (0x2F91F, "䎫"), (0x2F920, "爨"), (0x2F921, "爵"), (0x2F922, "牐"),
   (0x2F923, "𤘈"), (0x2F924, "犀"), (0x2F925, "犕"), (0x2F926, "𤜵"),
   (0x2F927, "𤠔"), (0x2F928, "獺"), (0x2F929, "王"), (0x2F92A, "㺬"),
   (0x2F92B, "玥"), (0x2F92C, "㺸"), (0x2F92D, "㺸"), (0x2F92E, "瑇"),
   (0x2F92F, "瑜"), (0x2F930, "瑱"), (0x2F931, "璅"), (0x2F932, "瓊"),
   (0x2F933, "㼛"), (0x2F934, "甤"), (0x2F935, "𤰶"), (0x2F936, "甾"),
   (0x2F937, "𤲒"), (0x2F938, "異"), (0x2F939, "𢆟"), (0x2F93A, "瘐"),
   (0x2F93B, "𤾡"), (0x2F93C, "𤾸"), (0x2F93D, "𥁄"), (0x2F93E, "㿼"),
   (0x2F93F, "䀈"), (0x2F940, "直"), (0x2F941, "𥃳"), (0x2F942, "𥃲"),
   (0x2F943, "𥄙"), (0x2F944, "𥄳"), (0x2F945, "眞"), (0x2F946, "真"),
   (0x2F947, "真"), (0x2F948, "睊"), (0x2F949, "䀹"), (0x2F94A, "瞋"),
   (0x2F94B, "䁆"), (0x2F94C, "䂖"), (0x2F94D, "𥐝"), (0x2F94E, "硎"),
   (0x2F94F, "碌"), (0x2F950, "磌"), (0x2F951, "䃣"), (0x2F952, "𥘦"),
   (0x2F953, "祖"), (0x2F954, "𥚚"), (0x2F955, "𥛅"), (0x2F956, "福"),
   (0x2F957, "秫"), (0x2F958, "䄯"), (0x2F959, "穀"), (0x2F95A, "穊"),
   (0x2F95B, "穏"), (0x2F95C, "𥥼"), (0x2F95D, "𥪧"), (0x2F95E, "𥪧"),
   (0x2F95F, "窮"), (0x2F960, "䈂"), (0x2F961, "𥮫"), (0x2F962, "篆"),
   (0x2F963, "築"), (0x2F964, "䈧"), (0x2F965, "𥲀"), (0x2F966, "糒"),
   (0x2F967, "䊠"), (0x2F968, "糨"), (0x2F969, "糣"), (0x2F96A, "紀"),
   (0x2F96B, "𥾆"), (0x2F96C, "絣"), (0x2F96D, "䌁"), (0x2F96E, "緇"),
   (0x2F96F, "縂"), (0x2F970, "繅"), (0x2F971, "䌴"), (0x2F972, "𦈨"),
   (0x2F973, "𦉇"), (0x2F974, "䍙"), (0x2F975, "𦋙"), (0x2F976, "罺"),
   (0x2F977, "𦌾"), (0x2F978, "羕"), (0x2F979, "翺"), (0x2F97A, "者"),
   (0x2F97B, "𦓚"), (0x2F97C, "𦔣"), (0x2F97D, "聠"), (0x2F97E, "𦖨"),
   (0x2F97F, "聰"), (0x2F980, "𣍟"), (0x2F981, "䏕"), (0x2F982, "育"),
   (0x2F983, "脃"), (0x2F984, "䐋"), (0x2F985, "脾"), (0x2F986, "媵"),
   (0x2F987, "𦞧"), (0x2F988, "𦞵"), (0x2F989, "𣎓"), (0x2F98A, "𣎜"),
   (0x2F98B, "舁"), (0x2F98C, "舄"), (0x2F98D, "辞"), (0x2F98E, "䑫"),
   (0x2F98F, "芑"), (0x2F990, "芋"), (0x2F991, "芝"), (0x2F992, "劳"),
   (0x2F993, "花"), (0x2F994, "芳"), (0x2F995, "芽"), (0x2F996, "苦"),
   (0x2F997, "𦬼"), (0x2F998, "若"), (0x2F999, "茝"), (0x2F99A, "荣"),
   (0x2F99B, "莭"), (0x2F99C, "茣"), (0x2F99D, "莽"), (0x2F99E, "菧"),
   (0x2F99F, "著"), (0x2F9A0, "荓"), (0x2F9A1, "菊"), (0x2F9A2, "菌"),
   (0x2F9A3, "菜"), (0x2F9A4, "𦰶"), (0x2F9A5, "𦵫"), (0x2F9A6, "𦳕"),
   (0x2F9A7, "䔫"), (0x2F9A8, "蓱"), (0x2F9A9, "蓳"), (0x2F9AA, "蔖"),
   (0x2F9AB, "𧏊"), (0x2F9AC, "蕤"), (0x2F9AD, "𦼬"), (0x2F9AE, "䕝"),
   (0x2F9AF, "䕡"), (0x2F9B0, "𦾱"), (0x2F9B1, "𧃒"), (0x2F9B2, "䕫"),
   (0x2F9B3, "虐"), (0x2F9B4, "虜"), (0x2F9B5, "虧"), (0x2F9B6, "虩"),
   (0x2F9B7, "蚩"), (0x2F9B8, "蚈"), (0x2F9B9, "蜎"), (0x2F9BA, "蛢"),
   (0x2F9BB, "蝹"), (0x2F9BC, "蜨"), (0x2F9BD, "蝫"), (0x2F9BE, "螆"),
   (0x2F9BF, "䵗"), (0x2F9C0, "蟡"), (0x2F9C1, "蠁"), (0x2F9C2, "䗹"),
   (0x2F9C3, "衠"), (0x2F9C4, "衣"), (0x2F9C5, "𧙧"), (0x2F9C6, "裗"),
   (0x2F9C7, "裞"), (0x2F9C8, "䘵"), (0x2F9C9, "裺"), (0x2F9CA, "㒻"),
   (0x2F9CB, "𧢮"), (0x2F9CC, "𧥦"), (0x2F9CD, "䚾"), (0x2F9CE, "䛇"),
   (0x2F9CF, "誠"), (0x2F9D0, "諭"), (0x2F9D1, "變"), (0x2F9D2, "豕"),
   (0x2F9D3, "𧲨"), (0x2F9D4, "貫"), (0x2F9D5, "賁"), (0x2F9D6, "贛"),
   (0x2F9D7, "起"), (0x2F9D8, "𧼯"), (0x2F9D9, "𠠄"), (0x2F9DA, "跋"),
   (0x2F9DB, "趼"), (0x2F9DC, "跰"), (0x2F9DD, "𠣞"), (0x2F9DE, "軔"),
   (0x2F9DF, "輸"), (0x2F9E0, "𨗒"), (0x2F9E1, "𨗭"), (0x2F9E2, "邔"),
   (0x2F9E3, "郱"), (0x2F9E4, "鄑"), (0x2F9E5, "𨜮"), (0x2F9E6, "鄛"),
   (0x2F9E7, "鈸"), (0x2F9E8, "鋗"), (0x2F9E9, "鋘"), (0x2F9EA, "鉼"),
   (0x2F9EB, "鏹"), (0x2F9EC, "鐕"), (0x2F9ED, "𨯺"), (0x2F9EE, "開"),
   (0x2F9EF, "䦕"), (0x2F9F0, "閷"), (0x2F9F1, "𨵷"), (0x2F9F2, "䧦"),
   (0x2F9F3, "雃"), (0x2F9F4, "嶲"), (0x2F9F5, "霣"), (0x2F9F6, "𩅅"),
   (0x2F9F7, "𩈚"), (0x2F9F8, "䩮"), (0x2F9F9, "䩶"), (0x2F9FA, "韠"),
   (0x2F9FB, "𩐊"), (0x2F9FC, "䪲"), (0x2F9FD, "𩒖"), (0x2F9FE, "頋"),
   (0x2F9FF, "頋"), (0x2FA00, "頩"), (0x2FA01, "𩖶"), (0x2FA02, "飢"),
   (0x2FA03, "䬳"), (0x2FA04, "餩"), (0x2FA05, "馧"), (0x2FA06, "駂"),
   (0x2FA07, "駾"), (0x2FA08, "䯎"), (0x2FA09, "𩬰"), (0x2FA0A, "鬒"),
   (0x2FA0B, "鱀"), (0x2FA0C, "鳽"), (0x2FA0D, "䳎"), (0x2FA0E, "䳭"),
   (0x2FA0F, "鵧"), (0x2FA10, "𪃎"), (0x2FA11, "䳸"), (0x2FA12, "𪄅"),
   (0x2FA13, "𪈎"), (0x2FA14, "𪊑"), (0x2FA15, "麻"), (0x2FA16, "䵖"),
   (0x2FA17, "黹"), (0x2FA18, "黾"), (0x2FA19, "鼅"), (0x2FA1A, "鼏"),
   (0x2FA1B, "鼖"), (0x2FA1C, "鼻"), (0x2FA1D, "𪘀")]

/-- The compatibility decompositions, by code point. -/
def decompositions : List (Nat × String) :=
  decompositions1 ++
    decompositions2 ++
    decompositions3 ++
    decompositions4 ++
    decompositions5 ++
    decompositions6 ++
    decompositions7 ++
    decompositions8 ++
    decompositions9 ++
    decompositions10 ++
    decompositions11 ++
    decompositions12 ++
    decompositions13

end Stencil.Files.Nameprep
