/-!
# Nameprep mapping

The first step of nameprep (RFC 3491) maps each character of a label: the
characters of table B.1, such as the soft hyphen and the zero-width joiners, map to
nothing, and the characters of table B.2 map to their case folding, closed under
compatibility normalization (Unicode 3.2).
-/

namespace Stencil.Files.Nameprep

/-- The characters that map to nothing (table B.1), as ranges. -/
def removedRanges : List (Nat × Nat) :=
  [(0xAD, 0xAD), (0x34F, 0x34F), (0x1806, 0x1806), (0x180B, 0x180D), (0x200B, 0x200D), (0x2060, 0x2060),
   (0xFE00, 0xFE0F), (0xFEFF, 0xFEFF)]

/-- Part 1 of the case foldings of table B.2, by code point. -/
def foldings1 : List (Nat × String) :=
  [(0x41, "a"), (0x42, "b"), (0x43, "c"), (0x44, "d"),
   (0x45, "e"), (0x46, "f"), (0x47, "g"), (0x48, "h"),
   (0x49, "i"), (0x4A, "j"), (0x4B, "k"), (0x4C, "l"),
   (0x4D, "m"), (0x4E, "n"), (0x4F, "o"), (0x50, "p"),
   (0x51, "q"), (0x52, "r"), (0x53, "s"), (0x54, "t"),
   (0x55, "u"), (0x56, "v"), (0x57, "w"), (0x58, "x"),
   (0x59, "y"), (0x5A, "z"), (0xB5, "μ"), (0xC0, "à"),
   (0xC1, "á"), (0xC2, "â"), (0xC3, "ã"), (0xC4, "ä"),
   (0xC5, "å"), (0xC6, "æ"), (0xC7, "ç"), (0xC8, "è"),
   (0xC9, "é"), (0xCA, "ê"), (0xCB, "ë"), (0xCC, "ì"),
   (0xCD, "í"), (0xCE, "î"), (0xCF, "ï"), (0xD0, "ð"),
   (0xD1, "ñ"), (0xD2, "ò"), (0xD3, "ó"), (0xD4, "ô"),
   (0xD5, "õ"), (0xD6, "ö"), (0xD8, "ø"), (0xD9, "ù"),
   (0xDA, "ú"), (0xDB, "û"), (0xDC, "ü"), (0xDD, "ý"),
   (0xDE, "þ"), (0xDF, "ss"), (0x100, "ā"), (0x102, "ă"),
   (0x104, "ą"), (0x106, "ć"), (0x108, "ĉ"), (0x10A, "ċ"),
   (0x10C, "č"), (0x10E, "ď"), (0x110, "đ"), (0x112, "ē"),
   (0x114, "ĕ"), (0x116, "ė"), (0x118, "ę"), (0x11A, "ě"),
   (0x11C, "ĝ"), (0x11E, "ğ"), (0x120, "ġ"), (0x122, "ģ"),
   (0x124, "ĥ"), (0x126, "ħ"), (0x128, "ĩ"), (0x12A, "ī"),
   (0x12C, "ĭ"), (0x12E, "į"), (0x130, "i\u0307"), (0x132, "ĳ"),
   (0x134, "ĵ"), (0x136, "ķ"), (0x139, "ĺ"), (0x13B, "ļ"),
   (0x13D, "ľ"), (0x13F, "ŀ"), (0x141, "ł"), (0x143, "ń"),
   (0x145, "ņ"), (0x147, "ň"), (0x149, "ʼn"), (0x14A, "ŋ"),
   (0x14C, "ō"), (0x14E, "ŏ"), (0x150, "ő"), (0x152, "œ"),
   (0x154, "ŕ"), (0x156, "ŗ"), (0x158, "ř"), (0x15A, "ś"),
   (0x15C, "ŝ"), (0x15E, "ş"), (0x160, "š"), (0x162, "ţ"),
   (0x164, "ť"), (0x166, "ŧ"), (0x168, "ũ"), (0x16A, "ū"),
   (0x16C, "ŭ"), (0x16E, "ů"), (0x170, "ű"), (0x172, "ų"),
   (0x174, "ŵ"), (0x176, "ŷ"), (0x178, "ÿ"), (0x179, "ź"),
   (0x17B, "ż"), (0x17D, "ž"), (0x17F, "s"), (0x181, "ɓ"),
   (0x182, "ƃ"), (0x184, "ƅ"), (0x186, "ɔ"), (0x187, "ƈ"),
   (0x189, "ɖ"), (0x18A, "ɗ"), (0x18B, "ƌ"), (0x18E, "ǝ"),
   (0x18F, "ə"), (0x190, "ɛ"), (0x191, "ƒ"), (0x193, "ɠ"),
   (0x194, "ɣ"), (0x196, "ɩ"), (0x197, "ɨ"), (0x198, "ƙ"),
   (0x19C, "ɯ"), (0x19D, "ɲ"), (0x19F, "ɵ"), (0x1A0, "ơ"),
   (0x1A2, "ƣ"), (0x1A4, "ƥ"), (0x1A6, "ʀ"), (0x1A7, "ƨ"),
   (0x1A9, "ʃ"), (0x1AC, "ƭ"), (0x1AE, "ʈ"), (0x1AF, "ư"),
   (0x1B1, "ʊ"), (0x1B2, "ʋ"), (0x1B3, "ƴ"), (0x1B5, "ƶ"),
   (0x1B7, "ʒ"), (0x1B8, "ƹ"), (0x1BC, "ƽ"), (0x1C4, "ǆ"),
   (0x1C5, "ǆ"), (0x1C7, "ǉ"), (0x1C8, "ǉ"), (0x1CA, "ǌ"),
   (0x1CB, "ǌ"), (0x1CD, "ǎ"), (0x1CF, "ǐ"), (0x1D1, "ǒ"),
   (0x1D3, "ǔ"), (0x1D5, "ǖ"), (0x1D7, "ǘ"), (0x1D9, "ǚ"),
   (0x1DB, "ǜ"), (0x1DE, "ǟ"), (0x1E0, "ǡ"), (0x1E2, "ǣ"),
   (0x1E4, "ǥ"), (0x1E6, "ǧ"), (0x1E8, "ǩ"), (0x1EA, "ǫ"),
   (0x1EC, "ǭ"), (0x1EE, "ǯ"), (0x1F0, "j\u030c"), (0x1F1, "ǳ"),
   (0x1F2, "ǳ"), (0x1F4, "ǵ"), (0x1F6, "ƕ"), (0x1F7, "ƿ"),
   (0x1F8, "ǹ"), (0x1FA, "ǻ"), (0x1FC, "ǽ"), (0x1FE, "ǿ"),
   (0x200, "ȁ"), (0x202, "ȃ"), (0x204, "ȅ"), (0x206, "ȇ"),
   (0x208, "ȉ"), (0x20A, "ȋ"), (0x20C, "ȍ"), (0x20E, "ȏ"),
   (0x210, "ȑ"), (0x212, "ȓ"), (0x214, "ȕ"), (0x216, "ȗ"),
   (0x218, "ș"), (0x21A, "ț"), (0x21C, "ȝ"), (0x21E, "ȟ"),
   (0x220, "ƞ"), (0x222, "ȣ"), (0x224, "ȥ"), (0x226, "ȧ"),
   (0x228, "ȩ"), (0x22A, "ȫ"), (0x22C, "ȭ"), (0x22E, "ȯ"),
   (0x230, "ȱ"), (0x232, "ȳ"), (0x23A, "ⱥ"), (0x23B, "ȼ"),
   (0x23D, "ƚ"), (0x23E, "ⱦ"), (0x241, "ɂ"), (0x243, "ƀ"),
   (0x244, "ʉ"), (0x245, "ʌ"), (0x246, "ɇ"), (0x248, "ɉ"),
   (0x24A, "ɋ"), (0x24C, "ɍ"), (0x24E, "ɏ"), (0x345, "ι"),
   (0x370, "ͱ"), (0x372, "ͳ"), (0x376, "ͷ"), (0x37A, " ι"),
   (0x37F, "ϳ"), (0x386, "ά"), (0x388, "έ"), (0x389, "ή"),
   (0x38A, "ί"), (0x38C, "ό"), (0x38E, "ύ"), (0x38F, "ώ"),
   (0x390, "ι\u0308\u0301"), (0x391, "α"), (0x392, "β"), (0x393, "γ"),
   (0x394, "δ"), (0x395, "ε"), (0x396, "ζ"), (0x397, "η"),
   (0x398, "θ"), (0x399, "ι"), (0x39A, "κ"), (0x39B, "λ"),
   (0x39C, "μ"), (0x39D, "ν"), (0x39E, "ξ"), (0x39F, "ο"),
   (0x3A0, "π"), (0x3A1, "ρ"), (0x3A3, "σ"), (0x3A4, "τ"),
   (0x3A5, "υ"), (0x3A6, "φ"), (0x3A7, "χ"), (0x3A8, "ψ"),
   (0x3A9, "ω"), (0x3AA, "ϊ"), (0x3AB, "ϋ"), (0x3B0, "υ\u0308\u0301"),
   (0x3C2, "σ"), (0x3CF, "ϗ"), (0x3D0, "β"), (0x3D1, "θ"),
   (0x3D2, "υ"), (0x3D3, "ύ"), (0x3D4, "ϋ"), (0x3D5, "φ"),
   (0x3D6, "π"), (0x3D8, "ϙ"), (0x3DA, "ϛ"), (0x3DC, "ϝ"),
   (0x3DE, "ϟ"), (0x3E0, "ϡ"), (0x3E2, "ϣ"), (0x3E4, "ϥ"),
   (0x3E6, "ϧ"), (0x3E8, "ϩ"), (0x3EA, "ϫ"), (0x3EC, "ϭ"),
   (0x3EE, "ϯ"), (0x3F0, "κ"), (0x3F1, "ρ"), (0x3F2, "σ"),
   (0x3F4, "θ"), (0x3F5, "ε"), (0x3F7, "ϸ"), (0x3F9, "σ")]

/-- Part 2 of the case foldings of table B.2, by code point. -/
def foldings2 : List (Nat × String) :=
  [(0x3FA, "ϻ"), (0x3FD, "ͻ"), (0x3FE, "ͼ"), (0x3FF, "ͽ"),
   (0x400, "ѐ"), (0x401, "ё"), (0x402, "ђ"), (0x403, "ѓ"),
   (0x404, "є"), (0x405, "ѕ"), (0x406, "і"), (0x407, "ї"),
   (0x408, "ј"), (0x409, "љ"), (0x40A, "њ"), (0x40B, "ћ"),
   (0x40C, "ќ"), (0x40D, "ѝ"), (0x40E, "ў"), (0x40F, "џ"),
   (0x410, "а"), (0x411, "б"), (0x412, "в"), (0x413, "г"),
   (0x414, "д"), (0x415, "е"), (0x416, "ж"), (0x417, "з"),
   (0x418, "и"), (0x419, "й"), (0x41A, "к"), (0x41B, "л"),
   (0x41C, "м"), (0x41D, "н"), (0x41E, "о"), (0x41F, "п"),
   (0x420, "р"), (0x421, "с"), (0x422, "т"), (0x423, "у"),
   (0x424, "ф"), (0x425, "х"), (0x426, "ц"), (0x427, "ч"),
   (0x428, "ш"), (0x429, "щ"), (0x42A, "ъ"), (0x42B, "ы"),
   (0x42C, "ь"), (0x42D, "э"), (0x42E, "ю"), (0x42F, "я"),
   (0x460, "ѡ"), (0x462, "ѣ"), (0x464, "ѥ"), (0x466, "ѧ"),
   (0x468, "ѩ"), (0x46A, "ѫ"), (0x46C, "ѭ"), (0x46E, "ѯ"),
   (0x470, "ѱ"), (0x472, "ѳ"), (0x474, "ѵ"), (0x476, "ѷ"),
   (0x478, "ѹ"), (0x47A, "ѻ"), (0x47C, "ѽ"), (0x47E, "ѿ"),
   (0x480, "ҁ"), (0x48A, "ҋ"), (0x48C, "ҍ"), (0x48E, "ҏ"),
   (0x490, "ґ"), (0x492, "ғ"), (0x494, "ҕ"), (0x496, "җ"),
   (0x498, "ҙ"), (0x49A, "қ"), (0x49C, "ҝ"), (0x49E, "ҟ"),
   (0x4A0, "ҡ"), (0x4A2, "ң"), (0x4A4, "ҥ"), (0x4A6, "ҧ"),
   (0x4A8, "ҩ"), (0x4AA, "ҫ"), (0x4AC, "ҭ"), (0x4AE, "ү"),
   (0x4B0, "ұ"), (0x4B2, "ҳ"), (0x4B4, "ҵ"), (0x4B6, "ҷ"),
   (0x4B8, "ҹ"), (0x4BA, "һ"), (0x4BC, "ҽ"), (0x4BE, "ҿ"),
   (0x4C0, "ӏ"), (0x4C1, "ӂ"), (0x4C3, "ӄ"), (0x4C5, "ӆ"),
   (0x4C7, "ӈ"), (0x4C9, "ӊ"), (0x4CB, "ӌ"), (0x4CD, "ӎ"),
   (0x4D0, "ӑ"), (0x4D2, "ӓ"), (0x4D4, "ӕ"), (0x4D6, "ӗ"),
   (0x4D8, "ә"), (0x4DA, "ӛ"), (0x4DC, "ӝ"), (0x4DE, "ӟ"),
   (0x4E0, "ӡ"), (0x4E2, "ӣ"), (0x4E4, "ӥ"), (0x4E6, "ӧ"),
   (0x4E8, "ө"), (0x4EA, "ӫ"), (0x4EC, "ӭ"), (0x4EE, "ӯ"),
   (0x4F0, "ӱ"), (0x4F2, "ӳ"), (0x4F4, "ӵ"), (0x4F6, "ӷ"),
   (0x4F8, "ӹ"), (0x4FA, "ӻ"), (0x4FC, "ӽ"), (0x4FE, "ӿ"),
   (0x500, "ԁ"), (0x502, "ԃ"), (0x504, "ԅ"), (0x506, "ԇ"),
   (0x508, "ԉ"), (0x50A, "ԋ"), (0x50C, "ԍ"), (0x50E, "ԏ"),
   (0x510, "ԑ"), (0x512, "ԓ"), (0x514, "ԕ"), (0x516, "ԗ"),
   (0x518, "ԙ"), (0x51A, "ԛ"), (0x51C, "ԝ"), (0x51E, "ԟ"),
   (0x520, "ԡ"), (0x522, "ԣ"), (0x524, "ԥ"), (0x526, "ԧ"),
   (0x528, "ԩ"), (0x52A, "ԫ"), (0x52C, "ԭ"), (0x52E, "ԯ"),
   (0x531, "ա"), (0x532, "բ"), (0x533, "գ"), (0x534, "դ"),
   (0x535, "ե"), (0x536, "զ"), (0x537, "է"), (0x538, "ը"),
   (0x539, "թ"), (0x53A, "ժ"), (0x53B, "ի"), (0x53C, "լ"),
   (0x53D, "խ"), (0x53E, "ծ"), (0x53F, "կ"), (0x540, "հ"),
   (0x541, "ձ"), (0x542, "ղ"), (0x543, "ճ"), (0x544, "մ"),
   (0x545, "յ"), (0x546, "ն"), (0x547, "շ"), (0x548, "ո"),
   (0x549, "չ"), (0x54A, "պ"), (0x54B, "ջ"), (0x54C, "ռ"),
   (0x54D, "ս"), (0x54E, "վ"), (0x54F, "տ"), (0x550, "ր"),
   (0x551, "ց"), (0x552, "ւ"), (0x553, "փ"), (0x554, "ք"),
   (0x555, "օ"), (0x556, "ֆ"), (0x587, "եւ"), (0x10A0, "ⴀ"),
   (0x10A1, "ⴁ"), (0x10A2, "ⴂ"), (0x10A3, "ⴃ"), (0x10A4, "ⴄ"),
   (0x10A5, "ⴅ"), (0x10A6, "ⴆ"), (0x10A7, "ⴇ"), (0x10A8, "ⴈ"),
   (0x10A9, "ⴉ"), (0x10AA, "ⴊ"), (0x10AB, "ⴋ"), (0x10AC, "ⴌ"),
   (0x10AD, "ⴍ"), (0x10AE, "ⴎ"), (0x10AF, "ⴏ"), (0x10B0, "ⴐ"),
   (0x10B1, "ⴑ"), (0x10B2, "ⴒ"), (0x10B3, "ⴓ"), (0x10B4, "ⴔ"),
   (0x10B5, "ⴕ"), (0x10B6, "ⴖ"), (0x10B7, "ⴗ"), (0x10B8, "ⴘ"),
   (0x10B9, "ⴙ"), (0x10BA, "ⴚ"), (0x10BB, "ⴛ"), (0x10BC, "ⴜ"),
   (0x10BD, "ⴝ"), (0x10BE, "ⴞ"), (0x10BF, "ⴟ"), (0x10C0, "ⴠ"),
   (0x10C1, "ⴡ"), (0x10C2, "ⴢ"), (0x10C3, "ⴣ"), (0x10C4, "ⴤ"),
   (0x10C5, "ⴥ"), (0x10C7, "ⴧ"), (0x10CD, "ⴭ"), (0x13A0, "ꭰ"),
   (0x13A1, "ꭱ"), (0x13A2, "ꭲ"), (0x13A3, "ꭳ"), (0x13A4, "ꭴ"),
   (0x13A5, "ꭵ"), (0x13A6, "ꭶ"), (0x13A7, "ꭷ"), (0x13A8, "ꭸ"),
   (0x13A9, "ꭹ"), (0x13AA, "ꭺ"), (0x13AB, "ꭻ"), (0x13AC, "ꭼ"),
   (0x13AD, "ꭽ"), (0x13AE, "ꭾ"), (0x13AF, "ꭿ"), (0x13B0, "ꮀ"),
   (0x13B1, "ꮁ"), (0x13B2, "ꮂ"), (0x13B3, "ꮃ"), (0x13B4, "ꮄ"),
   (0x13B5, "ꮅ"), (0x13B6, "ꮆ"), (0x13B7, "ꮇ"), (0x13B8, "ꮈ"),
   (0x13B9, "ꮉ"), (0x13BA, "ꮊ"), (0x13BB, "ꮋ"), (0x13BC, "ꮌ"),
   (0x13BD, "ꮍ"), (0x13BE, "ꮎ"), (0x13BF, "ꮏ"), (0x13C0, "ꮐ"),
   (0x13C1, "ꮑ"), (0x13C2, "ꮒ"), (0x13C3, "ꮓ"), (0x13C4, "ꮔ"),
   (0x13C5, "ꮕ"), (0x13C6, "ꮖ"), (0x13C7, "ꮗ"), (0x13C8, "ꮘ"),
   (0x13C9, "ꮙ"), (0x13CA, "ꮚ"), (0x13CB, "ꮛ"), (0x13CC, "ꮜ"),
   (0x13CD, "ꮝ"), (0x13CE, "ꮞ"), (0x13CF, "ꮟ"), (0x13D0, "ꮠ"),
   (0x13D1, "ꮡ"), (0x13D2, "ꮢ"), (0x13D3, "ꮣ"), (0x13D4, "ꮤ"),
   (0x13D5, "ꮥ"), (0x13D6, "ꮦ"), (0x13D7, "ꮧ"), (0x13D8, "ꮨ"),
   (0x13D9, "ꮩ"), (0x13DA, "ꮪ"), (0x13DB, "ꮫ"), (0x13DC, "ꮬ"),
   (0x13DD, "ꮭ"), (0x13DE, "ꮮ"), (0x13DF, "ꮯ"), (0x13E0, "ꮰ"),
   (0x13E1, "ꮱ"), (0x13E2, "ꮲ"), (0x13E3, "ꮳ"), (0x13E4, "ꮴ")]

/-- Part 3 of the case foldings of table B.2, by code point. -/
def foldings3 : List (Nat × String) :=
  [(0x13E5, "ꮵ"), (0x13E6, "ꮶ"), (0x13E7, "ꮷ"), (0x13E8, "ꮸ"),
   (0x13E9, "ꮹ"), (0x13EA, "ꮺ"), (0x13EB, "ꮻ"), (0x13EC, "ꮼ"),
   (0x13ED, "ꮽ"), (0x13EE, "ꮾ"), (0x13EF, "ꮿ"), (0x13F0, "ᏸ"),
   (0x13F1, "ᏹ"), (0x13F2, "ᏺ"), (0x13F3, "ᏻ"), (0x13F4, "ᏼ"),
   (0x13F5, "ᏽ"), (0x1C90, "ა"), (0x1C91, "ბ"), (0x1C92, "გ"),
   (0x1C93, "დ"), (0x1C94, "ე"), (0x1C95, "ვ"), (0x1C96, "ზ"),
   (0x1C97, "თ"), (0x1C98, "ი"), (0x1C99, "კ"), (0x1C9A, "ლ"),
   (0x1C9B, "მ"), (0x1C9C, "ნ"), (0x1C9D, "ო"), (0x1C9E, "პ"),
   (0x1C9F, "ჟ"), (0x1CA0, "რ"), (0x1CA1, "ს"), (0x1CA2, "ტ"),
   (0x1CA3, "უ"), (0x1CA4, "ფ"), (0x1CA5, "ქ"), (0x1CA6, "ღ"),
   (0x1CA7, "ყ"), (0x1CA8, "შ"), (0x1CA9, "ჩ"), (0x1CAA, "ც"),
   (0x1CAB, "ძ"), (0x1CAC, "წ"), (0x1CAD, "ჭ"), (0x1CAE, "ხ"),
   (0x1CAF, "ჯ"), (0x1CB0, "ჰ"), (0x1CB1, "ჱ"), (0x1CB2, "ჲ"),
   (0x1CB3, "ჳ"), (0x1CB4, "ჴ"), (0x1CB5, "ჵ"), (0x1CB6, "ჶ"),
   (0x1CB7, "ჷ"), (0x1CB8, "ჸ"), (0x1CB9, "ჹ"), (0x1CBA, "ჺ"),
   (0x1CBD, "ჽ"), (0x1CBE, "ჾ"), (0x1CBF, "ჿ"), (0x1E00, "ḁ"),
   (0x1E02, "ḃ"), (0x1E04, "ḅ"), (0x1E06, "ḇ"), (0x1E08, "ḉ"),
   (0x1E0A, "ḋ"), (0x1E0C, "ḍ"), (0x1E0E, "ḏ"), (0x1E10, "ḑ"),
   (0x1E12, "ḓ"), (0x1E14, "ḕ"), (0x1E16, "ḗ"), (0x1E18, "ḙ"),
   (0x1E1A, "ḛ"), (0x1E1C, "ḝ"), (0x1E1E, "ḟ"), (0x1E20, "ḡ"),
   (0x1E22, "ḣ"), (0x1E24, "ḥ"), (0x1E26, "ḧ"), (0x1E28, "ḩ"),
   (0x1E2A, "ḫ"), (0x1E2C, "ḭ"), (0x1E2E, "ḯ"), (0x1E30, "ḱ"),
   (0x1E32, "ḳ"), (0x1E34, "ḵ"), (0x1E36, "ḷ"), (0x1E38, "ḹ"),
   (0x1E3A, "ḻ"), (0x1E3C, "ḽ"), (0x1E3E, "ḿ"), (0x1E40, "ṁ"),
   (0x1E42, "ṃ"), (0x1E44, "ṅ"), (0x1E46, "ṇ"), (0x1E48, "ṉ"),
   (0x1E4A, "ṋ"), (0x1E4C, "ṍ"), (0x1E4E, "ṏ"), (0x1E50, "ṑ"),
   (0x1E52, "ṓ"), (0x1E54, "ṕ"), (0x1E56, "ṗ"), (0x1E58, "ṙ"),
   (0x1E5A, "ṛ"), (0x1E5C, "ṝ"), (0x1E5E, "ṟ"), (0x1E60, "ṡ"),
   (0x1E62, "ṣ"), (0x1E64, "ṥ"), (0x1E66, "ṧ"), (0x1E68, "ṩ"),
   (0x1E6A, "ṫ"), (0x1E6C, "ṭ"), (0x1E6E, "ṯ"), (0x1E70, "ṱ"),
   (0x1E72, "ṳ"), (0x1E74, "ṵ"), (0x1E76, "ṷ"), (0x1E78, "ṹ"),
   (0x1E7A, "ṻ"), (0x1E7C, "ṽ"), (0x1E7E, "ṿ"), (0x1E80, "ẁ"),
   (0x1E82, "ẃ"), (0x1E84, "ẅ"), (0x1E86, "ẇ"), (0x1E88, "ẉ"),
   (0x1E8A, "ẋ"), (0x1E8C, "ẍ"), (0x1E8E, "ẏ"), (0x1E90, "ẑ"),
   (0x1E92, "ẓ"), (0x1E94, "ẕ"), (0x1E96, "h\u0331"), (0x1E97, "t\u0308"),
   (0x1E98, "w\u030a"), (0x1E99, "y\u030a"), (0x1E9A, "aʾ"), (0x1E9B, "ṡ"),
   (0x1E9E, "ss"), (0x1EA0, "ạ"), (0x1EA2, "ả"), (0x1EA4, "ấ"),
   (0x1EA6, "ầ"), (0x1EA8, "ẩ"), (0x1EAA, "ẫ"), (0x1EAC, "ậ"),
   (0x1EAE, "ắ"), (0x1EB0, "ằ"), (0x1EB2, "ẳ"), (0x1EB4, "ẵ"),
   (0x1EB6, "ặ"), (0x1EB8, "ẹ"), (0x1EBA, "ẻ"), (0x1EBC, "ẽ"),
   (0x1EBE, "ế"), (0x1EC0, "ề"), (0x1EC2, "ể"), (0x1EC4, "ễ"),
   (0x1EC6, "ệ"), (0x1EC8, "ỉ"), (0x1ECA, "ị"), (0x1ECC, "ọ"),
   (0x1ECE, "ỏ"), (0x1ED0, "ố"), (0x1ED2, "ồ"), (0x1ED4, "ổ"),
   (0x1ED6, "ỗ"), (0x1ED8, "ộ"), (0x1EDA, "ớ"), (0x1EDC, "ờ"),
   (0x1EDE, "ở"), (0x1EE0, "ỡ"), (0x1EE2, "ợ"), (0x1EE4, "ụ"),
   (0x1EE6, "ủ"), (0x1EE8, "ứ"), (0x1EEA, "ừ"), (0x1EEC, "ử"),
   (0x1EEE, "ữ"), (0x1EF0, "ự"), (0x1EF2, "ỳ"), (0x1EF4, "ỵ"),
   (0x1EF6, "ỷ"), (0x1EF8, "ỹ"), (0x1EFA, "ỻ"), (0x1EFC, "ỽ"),
   (0x1EFE, "ỿ"), (0x1F08, "ἀ"), (0x1F09, "ἁ"), (0x1F0A, "ἂ"),
   (0x1F0B, "ἃ"), (0x1F0C, "ἄ"), (0x1F0D, "ἅ"), (0x1F0E, "ἆ"),
   (0x1F0F, "ἇ"), (0x1F18, "ἐ"), (0x1F19, "ἑ"), (0x1F1A, "ἒ"),
   (0x1F1B, "ἓ"), (0x1F1C, "ἔ"), (0x1F1D, "ἕ"), (0x1F28, "ἠ"),
   (0x1F29, "ἡ"), (0x1F2A, "ἢ"), (0x1F2B, "ἣ"), (0x1F2C, "ἤ"),
   (0x1F2D, "ἥ"), (0x1F2E, "ἦ"), (0x1F2F, "ἧ"), (0x1F38, "ἰ"),
   (0x1F39, "ἱ"), (0x1F3A, "ἲ"), (0x1F3B, "ἳ"), (0x1F3C, "ἴ"),
   (0x1F3D, "ἵ"), (0x1F3E, "ἶ"), (0x1F3F, "ἷ"), (0x1F48, "ὀ"),
   (0x1F49, "ὁ"), (0x1F4A, "ὂ"), (0x1F4B, "ὃ"), (0x1F4C, "ὄ"),
   (0x1F4D, "ὅ"), (0x1F50, "υ\u0313"), (0x1F52, "υ\u0313\u0300"), (0x1F54, "υ\u0313\u0301"),
   (0x1F56, "υ\u0313\u0342"), (0x1F59, "ὑ"), (0x1F5B, "ὓ"), (0x1F5D, "ὕ"),
   (0x1F5F, "ὗ"), (0x1F68, "ὠ"), (0x1F69, "ὡ"), (0x1F6A, "ὢ"),
   (0x1F6B, "ὣ"), (0x1F6C, "ὤ"), (0x1F6D, "ὥ"), (0x1F6E, "ὦ"),
   (0x1F6F, "ὧ"), (0x1F80, "ἀι"), (0x1F81, "ἁι"), (0x1F82, "ἂι"),
   (0x1F83, "ἃι"), (0x1F84, "ἄι"), (0x1F85, "ἅι"), (0x1F86, "ἆι"),
   (0x1F87, "ἇι"), (0x1F88, "ἀι"), (0x1F89, "ἁι"), (0x1F8A, "ἂι"),
   (0x1F8B, "ἃι"), (0x1F8C, "ἄι"), (0x1F8D, "ἅι"), (0x1F8E, "ἆι"),
   (0x1F8F, "ἇι"), (0x1F90, "ἠι"), (0x1F91, "ἡι"), (0x1F92, "ἢι"),
   (0x1F93, "ἣι"), (0x1F94, "ἤι"), (0x1F95, "ἥι"), (0x1F96, "ἦι"),
   (0x1F97, "ἧι"), (0x1F98, "ἠι"), (0x1F99, "ἡι"), (0x1F9A, "ἢι"),
   (0x1F9B, "ἣι"), (0x1F9C, "ἤι"), (0x1F9D, "ἥι"), (0x1F9E, "ἦι"),
   (0x1F9F, "ἧι"), (0x1FA0, "ὠι"), (0x1FA1, "ὡι"), (0x1FA2, "ὢι"),
   (0x1FA3, "ὣι"), (0x1FA4, "ὤι"), (0x1FA5, "ὥι"), (0x1FA6, "ὦι"),
   (0x1FA7, "ὧι"), (0x1FA8, "ὠι"), (0x1FA9, "ὡι"), (0x1FAA, "ὢι"),
   (0x1FAB, "ὣι"), (0x1FAC, "ὤι"), (0x1FAD, "ὥι"), (0x1FAE, "ὦι"),
   (0x1FAF, "ὧι"), (0x1FB2, "ὰι"), (0x1FB3, "αι"), (0x1FB4, "άι"),
   (0x1FB6, "α\u0342"), (0x1FB7, "α\u0342ι"), (0x1FB8, "ᾰ"), (0x1FB9, "ᾱ")]

/-- Part 4 of the case foldings of table B.2, by code point. -/
def foldings4 : List (Nat × String) :=
  [(0x1FBA, "ὰ"), (0x1FBB, "ά"), (0x1FBC, "αι"), (0x1FBE, "ι"),
   (0x1FC2, "ὴι"), (0x1FC3, "ηι"), (0x1FC4, "ήι"), (0x1FC6, "η\u0342"),
   (0x1FC7, "η\u0342ι"), (0x1FC8, "ὲ"), (0x1FC9, "έ"), (0x1FCA, "ὴ"),
   (0x1FCB, "ή"), (0x1FCC, "ηι"), (0x1FD2, "ι\u0308\u0300"), (0x1FD3, "ι\u0308\u0301"),
   (0x1FD6, "ι\u0342"), (0x1FD7, "ι\u0308\u0342"), (0x1FD8, "ῐ"), (0x1FD9, "ῑ"),
   (0x1FDA, "ὶ"), (0x1FDB, "ί"), (0x1FE2, "υ\u0308\u0300"), (0x1FE3, "υ\u0308\u0301"),
   (0x1FE4, "ρ\u0313"), (0x1FE6, "υ\u0342"), (0x1FE7, "υ\u0308\u0342"), (0x1FE8, "ῠ"),
   (0x1FE9, "ῡ"), (0x1FEA, "ὺ"), (0x1FEB, "ύ"), (0x1FEC, "ῥ"),
   (0x1FF2, "ὼι"), (0x1FF3, "ωι"), (0x1FF4, "ώι"), (0x1FF6, "ω\u0342"),
   (0x1FF7, "ω\u0342ι"), (0x1FF8, "ὸ"), (0x1FF9, "ό"), (0x1FFA, "ὼ"),
   (0x1FFB, "ώ"), (0x1FFC, "ωι"), (0x20A8, "rs"), (0x2102, "c"),
   (0x2103, "°c"), (0x2107, "ɛ"), (0x2109, "°f"), (0x210B, "h"),
   (0x210C, "h"), (0x210D, "h"), (0x2110, "i"), (0x2111, "i"),
   (0x2112, "l"), (0x2115, "n"), (0x2116, "no"), (0x2119, "p"),
   (0x211A, "q"), (0x211B, "r"), (0x211C, "r"), (0x211D, "r"),
   (0x2120, "sm"), (0x2121, "tel"), (0x2122, "tm"), (0x2124, "z"),
   (0x2126, "ω"), (0x2128, "z"), (0x212A, "k"), (0x212B, "å"),
   (0x212C, "b"), (0x212D, "c"), (0x2130, "e"), (0x2131, "f"),
   (0x2132, "ⅎ"), (0x2133, "m"), (0x213E, "γ"), (0x213F, "π"),
   (0x2145, "d"), (0x2160, "ⅰ"), (0x2161, "ⅱ"), (0x2162, "ⅲ"),
   (0x2163, "ⅳ"), (0x2164, "ⅴ"), (0x2165, "ⅵ"), (0x2166, "ⅶ"),
   (0x2167, "ⅷ"), (0x2168, "ⅸ"), (0x2169, "ⅹ"), (0x216A, "ⅺ"),
   (0x216B, "ⅻ"), (0x216C, "ⅼ"), (0x216D, "ⅽ"), (0x216E, "ⅾ"),
   (0x216F, "ⅿ"), (0x2183, "ↄ"), (0x24B6, "ⓐ"), (0x24B7, "ⓑ"),
   (0x24B8, "ⓒ"), (0x24B9, "ⓓ"), (0x24BA, "ⓔ"), (0x24BB, "ⓕ"),
   (0x24BC, "ⓖ"), (0x24BD, "ⓗ"), (0x24BE, "ⓘ"), (0x24BF, "ⓙ"),
   (0x24C0, "ⓚ"), (0x24C1, "ⓛ"), (0x24C2, "ⓜ"), (0x24C3, "ⓝ"),
   (0x24C4, "ⓞ"), (0x24C5, "ⓟ"), (0x24C6, "ⓠ"), (0x24C7, "ⓡ"),
   (0x24C8, "ⓢ"), (0x24C9, "ⓣ"), (0x24CA, "ⓤ"), (0x24CB, "ⓥ"),
   (0x24CC, "ⓦ"), (0x24CD, "ⓧ"), (0x24CE, "ⓨ"), (0x24CF, "ⓩ"),
   (0x2C00, "ⰰ"), (0x2C01, "ⰱ"), (0x2C02, "ⰲ"), (0x2C03, "ⰳ"),
   (0x2C04, "ⰴ"), (0x2C05, "ⰵ"), (0x2C06, "ⰶ"), (0x2C07, "ⰷ"),
   (0x2C08, "ⰸ"), (0x2C09, "ⰹ"), (0x2C0A, "ⰺ"), (0x2C0B, "ⰻ"),
   (0x2C0C, "ⰼ"), (0x2C0D, "ⰽ"), (0x2C0E, "ⰾ"), (0x2C0F, "ⰿ"),
   (0x2C10, "ⱀ"), (0x2C11, "ⱁ"), (0x2C12, "ⱂ"), (0x2C13, "ⱃ"),
   (0x2C14, "ⱄ"), (0x2C15, "ⱅ"), (0x2C16, "ⱆ"), (0x2C17, "ⱇ"),
   (0x2C18, "ⱈ"), (0x2C19, "ⱉ"), (0x2C1A, "ⱊ"), (0x2C1B, "ⱋ"),
   (0x2C1C, "ⱌ"), (0x2C1D, "ⱍ"), (0x2C1E, "ⱎ"), (0x2C1F, "ⱏ"),
   (0x2C20, "ⱐ"), (0x2C21, "ⱑ"), (0x2C22, "ⱒ"), (0x2C23, "ⱓ"),
   (0x2C24, "ⱔ"), (0x2C25, "ⱕ"), (0x2C26, "ⱖ"), (0x2C27, "ⱗ"),
   (0x2C28, "ⱘ"), (0x2C29, "ⱙ"), (0x2C2A, "ⱚ"), (0x2C2B, "ⱛ"),
   (0x2C2C, "ⱜ"), (0x2C2D, "ⱝ"), (0x2C2E, "ⱞ"), (0x2C2F, "ⱟ"),
   (0x2C60, "ⱡ"), (0x2C62, "ɫ"), (0x2C63, "ᵽ"), (0x2C64, "ɽ"),
   (0x2C67, "ⱨ"), (0x2C69, "ⱪ"), (0x2C6B, "ⱬ"), (0x2C6D, "ɑ"),
   (0x2C6E, "ɱ"), (0x2C6F, "ɐ"), (0x2C70, "ɒ"), (0x2C72, "ⱳ"),
   (0x2C75, "ⱶ"), (0x2C7E, "ȿ"), (0x2C7F, "ɀ"), (0x2C80, "ⲁ"),
   (0x2C82, "ⲃ"), (0x2C84, "ⲅ"), (0x2C86, "ⲇ"), (0x2C88, "ⲉ"),
   (0x2C8A, "ⲋ"), (0x2C8C, "ⲍ"), (0x2C8E, "ⲏ"), (0x2C90, "ⲑ"),
   (0x2C92, "ⲓ"), (0x2C94, "ⲕ"), (0x2C96, "ⲗ"), (0x2C98, "ⲙ"),
   (0x2C9A, "ⲛ"), (0x2C9C, "ⲝ"), (0x2C9E, "ⲟ"), (0x2CA0, "ⲡ"),
   (0x2CA2, "ⲣ"), (0x2CA4, "ⲥ"), (0x2CA6, "ⲧ"), (0x2CA8, "ⲩ"),
   (0x2CAA, "ⲫ"), (0x2CAC, "ⲭ"), (0x2CAE, "ⲯ"), (0x2CB0, "ⲱ"),
   (0x2CB2, "ⲳ"), (0x2CB4, "ⲵ"), (0x2CB6, "ⲷ"), (0x2CB8, "ⲹ"),
   (0x2CBA, "ⲻ"), (0x2CBC, "ⲽ"), (0x2CBE, "ⲿ"), (0x2CC0, "ⳁ"),
   (0x2CC2, "ⳃ"), (0x2CC4, "ⳅ"), (0x2CC6, "ⳇ"), (0x2CC8, "ⳉ"),
   (0x2CCA, "ⳋ"), (0x2CCC, "ⳍ"), (0x2CCE, "ⳏ"), (0x2CD0, "ⳑ"),
   (0x2CD2, "ⳓ"), (0x2CD4, "ⳕ"), (0x2CD6, "ⳗ"), (0x2CD8, "ⳙ"),
   (0x2CDA, "ⳛ"), (0x2CDC, "ⳝ"), (0x2CDE, "ⳟ"), (0x2CE0, "ⳡ"),
   (0x2CE2, "ⳣ"), (0x2CEB, "ⳬ"), (0x2CED, "ⳮ"), (0x2CF2, "ⳳ"),
   (0x3371, "hpa"), (0x3373, "au"), (0x3375, "ov"), (0x3380, "pa"),
   (0x3381, "na"), (0x3382, "μa"), (0x3383, "ma"), (0x3384, "ka"),
   (0x3385, "kb"), (0x3386, "mb"), (0x3387, "gb"), (0x338A, "pf"),
   (0x338B, "nf"), (0x338C, "μf"), (0x3390, "hz"), (0x3391, "khz"),
   (0x3392, "mhz"), (0x3393, "ghz"), (0x3394, "thz"), (0x33A9, "pa"),
   (0x33AA, "kpa"), (0x33AB, "mpa"), (0x33AC, "gpa"), (0x33B4, "pv"),
   (0x33B5, "nv"), (0x33B6, "μv"), (0x33B7, "mv"), (0x33B8, "kv"),
   (0x33B9, "mv"), (0x33BA, "pw"), (0x33BB, "nw"), (0x33BC, "μw"),
   (0x33BD, "mw"), (0x33BE, "kw"), (0x33BF, "mw"), (0x33C0, "kω"),
   (0x33C1, "mω"), (0x33C3, "bq"), (0x33C6, "c∕kg"), (0x33C7, "co."),
   (0x33C8, "db"), (0x33C9, "gy"), (0x33CB, "hp"), (0x33CD, "kk"),
   (0x33CE, "km"), (0x33D7, "ph"), (0x33D9, "ppm"), (0x33DA, "pr"),
   (0x33DC, "sv"), (0x33DD, "wb"), (0xA640, "ꙁ"), (0xA642, "ꙃ"),
   (0xA644, "ꙅ"), (0xA646, "ꙇ"), (0xA648, "ꙉ"), (0xA64A, "ꙋ"),
   (0xA64C, "ꙍ"), (0xA64E, "ꙏ"), (0xA650, "ꙑ"), (0xA652, "ꙓ"),
   (0xA654, "ꙕ"), (0xA656, "ꙗ"), (0xA658, "ꙙ"), (0xA65A, "ꙛ")]

/-- Part 5 of the case foldings of table B.2, by code point. -/
def foldings5 : List (Nat × String) :=
  [(0xA65C, "ꙝ"), (0xA65E, "ꙟ"), (0xA660, "ꙡ"), (0xA662, "ꙣ"),
   (0xA664, "ꙥ"), (0xA666, "ꙧ"), (0xA668, "ꙩ"), (0xA66A, "ꙫ"),
   (0xA66C, "ꙭ"), (0xA680, "ꚁ"), (0xA682, "ꚃ"), (0xA684, "ꚅ"),
   (0xA686, "ꚇ"), (0xA688, "ꚉ"), (0xA68A, "ꚋ"), (0xA68C, "ꚍ"),
   (0xA68E, "ꚏ"), (0xA690, "ꚑ"), (0xA692, "ꚓ"), (0xA694, "ꚕ"),
   (0xA696, "ꚗ"), (0xA698, "ꚙ"), (0xA69A, "ꚛ"), (0xA722, "ꜣ"),
   (0xA724, "ꜥ"), (0xA726, "ꜧ"), (0xA728, "ꜩ"), (0xA72A, "ꜫ"),
   (0xA72C, "ꜭ"), (0xA72E, "ꜯ"), (0xA732, "ꜳ"), (0xA734, "ꜵ"),
   (0xA736, "ꜷ"), (0xA738, "ꜹ"), (0xA73A, "ꜻ"), (0xA73C, "ꜽ"),
   (0xA73E, "ꜿ"), (0xA740, "ꝁ"), (0xA742, "ꝃ"), (0xA744, "ꝅ"),
   (0xA746, "ꝇ"), (0xA748, "ꝉ"), (0xA74A, "ꝋ"), (0xA74C, "ꝍ"),
   (0xA74E, "ꝏ"), (0xA750, "ꝑ"), (0xA752, "ꝓ"), (0xA754, "ꝕ"),
   (0xA756, "ꝗ"), (0xA758, "ꝙ"), (0xA75A, "ꝛ"), (0xA75C, "ꝝ"),
   (0xA75E, "ꝟ"), (0xA760, "ꝡ"), (0xA762, "ꝣ"), (0xA764, "ꝥ"),
   (0xA766, "ꝧ"), (0xA768, "ꝩ"), (0xA76A, "ꝫ"), (0xA76C, "ꝭ"),
   (0xA76E, "ꝯ"), (0xA779, "ꝺ"), (0xA77B, "ꝼ"), (0xA77D, "ᵹ"),
   (0xA77E, "ꝿ"), (0xA780, "ꞁ"), (0xA782, "ꞃ"), (0xA784, "ꞅ"),
   (0xA786, "ꞇ"), (0xA78B, "ꞌ"), (0xA78D, "ɥ"), (0xA790, "ꞑ"),
   (0xA792, "ꞓ"), (0xA796, "ꞗ"), (0xA798, "ꞙ"), (0xA79A, "ꞛ"),
   (0xA79C, "ꞝ"), (0xA79E, "ꞟ"), (0xA7A0, "ꞡ"), (0xA7A2, "ꞣ"),
   (0xA7A4, "ꞥ"), (0xA7A6, "ꞧ"), (0xA7A8, "ꞩ"), (0xA7AA, "ɦ"),
   (0xA7AB, "ɜ"), (0xA7AC, "ɡ"), (0xA7AD, "ɬ"), (0xA7AE, "ɪ"),
   (0xA7B0, "ʞ"), (0xA7B1, "ʇ"), (0xA7B2, "ʝ"), (0xA7B3, "ꭓ"),
   (0xA7B4, "ꞵ"), (0xA7B6, "ꞷ"), (0xA7B8, "ꞹ"), (0xA7BA, "ꞻ"),
   (0xA7BC, "ꞽ"), (0xA7BE, "ꞿ"), (0xA7C0, "ꟁ"), (0xA7C2, "ꟃ"),
   (0xA7C4, "ꞔ"), (0xA7C5, "ʂ"), (0xA7C6, "ᶎ"), (0xA7C7, "ꟈ"),
   (0xA7C9, "ꟊ"), (0xA7D0, "ꟑ"), (0xA7D6, "ꟗ"), (0xA7D8, "ꟙ"),
   (0xA7F5, "ꟶ"), (0xFB00, "ff"), (0xFB01, "fi"), (0xFB02, "fl"),
   (0xFB03, "ffi"), (0xFB04, "ffl"), (0xFB05, "st"), (0xFB06, "st"),
   (0xFB13, "մն"), (0xFB14, "մե"), (0xFB15, "մի"), (0xFB16, "վն"),
   (0xFB17, "մխ"), (0xFF21, "ａ"), (0xFF22, "ｂ"), (0xFF23, "ｃ"),
   (0xFF24, "ｄ"), (0xFF25, "ｅ"), (0xFF26, "ｆ"), (0xFF27, "ｇ"),
   (0xFF28, "ｈ"), (0xFF29, "ｉ"), (0xFF2A, "ｊ"), (0xFF2B, "ｋ"),
   (0xFF2C, "ｌ"), (0xFF2D, "ｍ"), (0xFF2E, "ｎ"), (0xFF2F, "ｏ"),
   (0xFF30, "ｐ"), (0xFF31, "ｑ"), (0xFF32, "ｒ"), (0xFF33, "ｓ"),
   (0xFF34, "ｔ"), (0xFF35, "ｕ"), (0xFF36, "ｖ"), (0xFF37, "ｗ"),
   (0xFF38, "ｘ"), (0xFF39, "ｙ"), (0xFF3A, "ｚ"), (0x10400, "𐐨"),
   (0x10401, "𐐩"), (0x10402, "𐐪"), (0x10403, "𐐫"), (0x10404, "𐐬"),
   (0x10405, "𐐭"), (0x10406, "𐐮"), (0x10407, "𐐯"), (0x10408, "𐐰"),
   (0x10409, "𐐱"), (0x1040A, "𐐲"), (0x1040B, "𐐳"), (0x1040C, "𐐴"),
   (0x1040D, "𐐵"), (0x1040E, "𐐶"), (0x1040F, "𐐷"), (0x10410, "𐐸"),
   (0x10411, "𐐹"), (0x10412, "𐐺"), (0x10413, "𐐻"), (0x10414, "𐐼"),
   (0x10415, "𐐽"), (0x10416, "𐐾"), (0x10417, "𐐿"), (0x10418, "𐑀"),
   (0x10419, "𐑁"), (0x1041A, "𐑂"), (0x1041B, "𐑃"), (0x1041C, "𐑄"),
   (0x1041D, "𐑅"), (0x1041E, "𐑆"), (0x1041F, "𐑇"), (0x10420, "𐑈"),
   (0x10421, "𐑉"), (0x10422, "𐑊"), (0x10423, "𐑋"), (0x10424, "𐑌"),
   (0x10425, "𐑍"), (0x10426, "𐑎"), (0x10427, "𐑏"), (0x104B0, "𐓘"),
   (0x104B1, "𐓙"), (0x104B2, "𐓚"), (0x104B3, "𐓛"), (0x104B4, "𐓜"),
   (0x104B5, "𐓝"), (0x104B6, "𐓞"), (0x104B7, "𐓟"), (0x104B8, "𐓠"),
   (0x104B9, "𐓡"), (0x104BA, "𐓢"), (0x104BB, "𐓣"), (0x104BC, "𐓤"),
   (0x104BD, "𐓥"), (0x104BE, "𐓦"), (0x104BF, "𐓧"), (0x104C0, "𐓨"),
   (0x104C1, "𐓩"), (0x104C2, "𐓪"), (0x104C3, "𐓫"), (0x104C4, "𐓬"),
   (0x104C5, "𐓭"), (0x104C6, "𐓮"), (0x104C7, "𐓯"), (0x104C8, "𐓰"),
   (0x104C9, "𐓱"), (0x104CA, "𐓲"), (0x104CB, "𐓳"), (0x104CC, "𐓴"),
   (0x104CD, "𐓵"), (0x104CE, "𐓶"), (0x104CF, "𐓷"), (0x104D0, "𐓸"),
   (0x104D1, "𐓹"), (0x104D2, "𐓺"), (0x104D3, "𐓻"), (0x10570, "𐖗"),
   (0x10571, "𐖘"), (0x10572, "𐖙"), (0x10573, "𐖚"), (0x10574, "𐖛"),
   (0x10575, "𐖜"), (0x10576, "𐖝"), (0x10577, "𐖞"), (0x10578, "𐖟"),
   (0x10579, "𐖠"), (0x1057A, "𐖡"), (0x1057C, "𐖣"), (0x1057D, "𐖤"),
   (0x1057E, "𐖥"), (0x1057F, "𐖦"), (0x10580, "𐖧"), (0x10581, "𐖨"),
   (0x10582, "𐖩"), (0x10583, "𐖪"), (0x10584, "𐖫"), (0x10585, "𐖬"),
   (0x10586, "𐖭"), (0x10587, "𐖮"), (0x10588, "𐖯"), (0x10589, "𐖰"),
   (0x1058A, "𐖱"), (0x1058C, "𐖳"), (0x1058D, "𐖴"), (0x1058E, "𐖵"),
   (0x1058F, "𐖶"), (0x10590, "𐖷"), (0x10591, "𐖸"), (0x10592, "𐖹"),
   (0x10594, "𐖻"), (0x10595, "𐖼"), (0x10C80, "𐳀"), (0x10C81, "𐳁"),
   (0x10C82, "𐳂"), (0x10C83, "𐳃"), (0x10C84, "𐳄"), (0x10C85, "𐳅"),
   (0x10C86, "𐳆"), (0x10C87, "𐳇"), (0x10C88, "𐳈"), (0x10C89, "𐳉"),
   (0x10C8A, "𐳊"), (0x10C8B, "𐳋"), (0x10C8C, "𐳌"), (0x10C8D, "𐳍"),
   (0x10C8E, "𐳎"), (0x10C8F, "𐳏"), (0x10C90, "𐳐"), (0x10C91, "𐳑"),
   (0x10C92, "𐳒"), (0x10C93, "𐳓"), (0x10C94, "𐳔"), (0x10C95, "𐳕"),
   (0x10C96, "𐳖"), (0x10C97, "𐳗"), (0x10C98, "𐳘"), (0x10C99, "𐳙"),
   (0x10C9A, "𐳚"), (0x10C9B, "𐳛"), (0x10C9C, "𐳜"), (0x10C9D, "𐳝"),
   (0x10C9E, "𐳞"), (0x10C9F, "𐳟"), (0x10CA0, "𐳠"), (0x10CA1, "𐳡"),
   (0x10CA2, "𐳢"), (0x10CA3, "𐳣"), (0x10CA4, "𐳤"), (0x10CA5, "𐳥"),
   (0x10CA6, "𐳦"), (0x10CA7, "𐳧"), (0x10CA8, "𐳨"), (0x10CA9, "𐳩")]

/-- Part 6 of the case foldings of table B.2, by code point. -/
def foldings6 : List (Nat × String) :=
  [(0x10CAA, "𐳪"), (0x10CAB, "𐳫"), (0x10CAC, "𐳬"), (0x10CAD, "𐳭"),
   (0x10CAE, "𐳮"), (0x10CAF, "𐳯"), (0x10CB0, "𐳰"), (0x10CB1, "𐳱"),
   (0x10CB2, "𐳲"), (0x118A0, "𑣀"), (0x118A1, "𑣁"), (0x118A2, "𑣂"),
   (0x118A3, "𑣃"), (0x118A4, "𑣄"), (0x118A5, "𑣅"), (0x118A6, "𑣆"),
   (0x118A7, "𑣇"), (0x118A8, "𑣈"), (0x118A9, "𑣉"), (0x118AA, "𑣊"),
   (0x118AB, "𑣋"), (0x118AC, "𑣌"), (0x118AD, "𑣍"), (0x118AE, "𑣎"),
   (0x118AF, "𑣏"), (0x118B0, "𑣐"), (0x118B1, "𑣑"), (0x118B2, "𑣒"),
   (0x118B3, "𑣓"), (0x118B4, "𑣔"), (0x118B5, "𑣕"), (0x118B6, "𑣖"),
   (0x118B7, "𑣗"), (0x118B8, "𑣘"), (0x118B9, "𑣙"), (0x118BA, "𑣚"),
   (0x118BB, "𑣛"), (0x118BC, "𑣜"), (0x118BD, "𑣝"), (0x118BE, "𑣞"),
   (0x118BF, "𑣟"), (0x16E40, "𖹠"), (0x16E41, "𖹡"), (0x16E42, "𖹢"),
   (0x16E43, "𖹣"), (0x16E44, "𖹤"), (0x16E45, "𖹥"), (0x16E46, "𖹦"),
   (0x16E47, "𖹧"), (0x16E48, "𖹨"), (0x16E49, "𖹩"), (0x16E4A, "𖹪"),
   (0x16E4B, "𖹫"), (0x16E4C, "𖹬"), (0x16E4D, "𖹭"), (0x16E4E, "𖹮"),
   (0x16E4F, "𖹯"), (0x16E50, "𖹰"), (0x16E51, "𖹱"), (0x16E52, "𖹲"),
   (0x16E53, "𖹳"), (0x16E54, "𖹴"), (0x16E55, "𖹵"), (0x16E56, "𖹶"),
   (0x16E57, "𖹷"), (0x16E58, "𖹸"), (0x16E59, "𖹹"), (0x16E5A, "𖹺"),
   (0x16E5B, "𖹻"), (0x16E5C, "𖹼"), (0x16E5D, "𖹽"), (0x16E5E, "𖹾"),
   (0x16E5F, "𖹿"), (0x1D400, "a"), (0x1D401, "b"), (0x1D402, "c"),
   (0x1D403, "d"), (0x1D404, "e"), (0x1D405, "f"), (0x1D406, "g"),
   (0x1D407, "h"), (0x1D408, "i"), (0x1D409, "j"), (0x1D40A, "k"),
   (0x1D40B, "l"), (0x1D40C, "m"), (0x1D40D, "n"), (0x1D40E, "o"),
   (0x1D40F, "p"), (0x1D410, "q"), (0x1D411, "r"), (0x1D412, "s"),
   (0x1D413, "t"), (0x1D414, "u"), (0x1D415, "v"), (0x1D416, "w"),
   (0x1D417, "x"), (0x1D418, "y"), (0x1D419, "z"), (0x1D434, "a"),
   (0x1D435, "b"), (0x1D436, "c"), (0x1D437, "d"), (0x1D438, "e"),
   (0x1D439, "f"), (0x1D43A, "g"), (0x1D43B, "h"), (0x1D43C, "i"),
   (0x1D43D, "j"), (0x1D43E, "k"), (0x1D43F, "l"), (0x1D440, "m"),
   (0x1D441, "n"), (0x1D442, "o"), (0x1D443, "p"), (0x1D444, "q"),
   (0x1D445, "r"), (0x1D446, "s"), (0x1D447, "t"), (0x1D448, "u"),
   (0x1D449, "v"), (0x1D44A, "w"), (0x1D44B, "x"), (0x1D44C, "y"),
   (0x1D44D, "z"), (0x1D468, "a"), (0x1D469, "b"), (0x1D46A, "c"),
   (0x1D46B, "d"), (0x1D46C, "e"), (0x1D46D, "f"), (0x1D46E, "g"),
   (0x1D46F, "h"), (0x1D470, "i"), (0x1D471, "j"), (0x1D472, "k"),
   (0x1D473, "l"), (0x1D474, "m"), (0x1D475, "n"), (0x1D476, "o"),
   (0x1D477, "p"), (0x1D478, "q"), (0x1D479, "r"), (0x1D47A, "s"),
   (0x1D47B, "t"), (0x1D47C, "u"), (0x1D47D, "v"), (0x1D47E, "w"),
   (0x1D47F, "x"), (0x1D480, "y"), (0x1D481, "z"), (0x1D49C, "a"),
   (0x1D49E, "c"), (0x1D49F, "d"), (0x1D4A2, "g"), (0x1D4A5, "j"),
   (0x1D4A6, "k"), (0x1D4A9, "n"), (0x1D4AA, "o"), (0x1D4AB, "p"),
   (0x1D4AC, "q"), (0x1D4AE, "s"), (0x1D4AF, "t"), (0x1D4B0, "u"),
   (0x1D4B1, "v"), (0x1D4B2, "w"), (0x1D4B3, "x"), (0x1D4B4, "y"),
   (0x1D4B5, "z"), (0x1D4D0, "a"), (0x1D4D1, "b"), (0x1D4D2, "c"),
   (0x1D4D3, "d"), (0x1D4D4, "e"), (0x1D4D5, "f"), (0x1D4D6, "g"),
   (0x1D4D7, "h"), (0x1D4D8, "i"), (0x1D4D9, "j"), (0x1D4DA, "k"),
   (0x1D4DB, "l"), (0x1D4DC, "m"), (0x1D4DD, "n"), (0x1D4DE, "o"),
   (0x1D4DF, "p"), (0x1D4E0, "q"), (0x1D4E1, "r"), (0x1D4E2, "s"),
   (0x1D4E3, "t"), (0x1D4E4, "u"), (0x1D4E5, "v"), (0x1D4E6, "w"),
   (0x1D4E7, "x"), (0x1D4E8, "y"), (0x1D4E9, "z"), (0x1D504, "a"),
   (0x1D505, "b"), (0x1D507, "d"), (0x1D508, "e"), (0x1D509, "f"),
   (0x1D50A, "g"), (0x1D50D, "j"), (0x1D50E, "k"), (0x1D50F, "l"),
   (0x1D510, "m"), (0x1D511, "n"), (0x1D512, "o"), (0x1D513, "p"),
   (0x1D514, "q"), (0x1D516, "s"), (0x1D517, "t"), (0x1D518, "u"),
   (0x1D519, "v"), (0x1D51A, "w"), (0x1D51B, "x"), (0x1D51C, "y"),
   (0x1D538, "a"), (0x1D539, "b"), (0x1D53B, "d"), (0x1D53C, "e"),
   (0x1D53D, "f"), (0x1D53E, "g"), (0x1D540, "i"), (0x1D541, "j"),
   (0x1D542, "k"), (0x1D543, "l"), (0x1D544, "m"), (0x1D546, "o"),
   (0x1D54A, "s"), (0x1D54B, "t"), (0x1D54C, "u"), (0x1D54D, "v"),
   (0x1D54E, "w"), (0x1D54F, "x"), (0x1D550, "y"), (0x1D56C, "a"),
   (0x1D56D, "b"), (0x1D56E, "c"), (0x1D56F, "d"), (0x1D570, "e"),
   (0x1D571, "f"), (0x1D572, "g"), (0x1D573, "h"), (0x1D574, "i"),
   (0x1D575, "j"), (0x1D576, "k"), (0x1D577, "l"), (0x1D578, "m"),
   (0x1D579, "n"), (0x1D57A, "o"), (0x1D57B, "p"), (0x1D57C, "q"),
   (0x1D57D, "r"), (0x1D57E, "s"), (0x1D57F, "t"), (0x1D580, "u"),
   (0x1D581, "v"), (0x1D582, "w"), (0x1D583, "x"), (0x1D584, "y"),
   (0x1D585, "z"), (0x1D5A0, "a"), (0x1D5A1, "b"), (0x1D5A2, "c"),
   (0x1D5A3, "d"), (0x1D5A4, "e"), (0x1D5A5, "f"), (0x1D5A6, "g"),
   (0x1D5A7, "h"), (0x1D5A8, "i"), (0x1D5A9, "j"), (0x1D5AA, "k"),
   (0x1D5AB, "l"), (0x1D5AC, "m"), (0x1D5AD, "n"), (0x1D5AE, "o"),
   (0x1D5AF, "p"), (0x1D5B0, "q"), (0x1D5B1, "r"), (0x1D5B2, "s"),
   (0x1D5B3, "t"), (0x1D5B4, "u"), (0x1D5B5, "v"), (0x1D5B6, "w"),
   (0x1D5B7, "x"), (0x1D5B8, "y"), (0x1D5B9, "z"), (0x1D5D4, "a"),
   (0x1D5D5, "b"), (0x1D5D6, "c"), (0x1D5D7, "d"), (0x1D5D8, "e"),
   (0x1D5D9, "f"), (0x1D5DA, "g"), (0x1D5DB, "h"), (0x1D5DC, "i"),
   (0x1D5DD, "j"), (0x1D5DE, "k"), (0x1D5DF, "l"), (0x1D5E0, "m")]

/-- Part 7 of the case foldings of table B.2, by code point. -/
def foldings7 : List (Nat × String) :=
  [(0x1D5E1, "n"), (0x1D5E2, "o"), (0x1D5E3, "p"), (0x1D5E4, "q"),
   (0x1D5E5, "r"), (0x1D5E6, "s"), (0x1D5E7, "t"), (0x1D5E8, "u"),
   (0x1D5E9, "v"), (0x1D5EA, "w"), (0x1D5EB, "x"), (0x1D5EC, "y"),
   (0x1D5ED, "z"), (0x1D608, "a"), (0x1D609, "b"), (0x1D60A, "c"),
   (0x1D60B, "d"), (0x1D60C, "e"), (0x1D60D, "f"), (0x1D60E, "g"),
   (0x1D60F, "h"), (0x1D610, "i"), (0x1D611, "j"), (0x1D612, "k"),
   (0x1D613, "l"), (0x1D614, "m"), (0x1D615, "n"), (0x1D616, "o"),
   (0x1D617, "p"), (0x1D618, "q"), (0x1D619, "r"), (0x1D61A, "s"),
   (0x1D61B, "t"), (0x1D61C, "u"), (0x1D61D, "v"), (0x1D61E, "w"),
   (0x1D61F, "x"), (0x1D620, "y"), (0x1D621, "z"), (0x1D63C, "a"),
   (0x1D63D, "b"), (0x1D63E, "c"), (0x1D63F, "d"), (0x1D640, "e"),
   (0x1D641, "f"), (0x1D642, "g"), (0x1D643, "h"), (0x1D644, "i"),
   (0x1D645, "j"), (0x1D646, "k"), (0x1D647, "l"), (0x1D648, "m"),
   (0x1D649, "n"), (0x1D64A, "o"), (0x1D64B, "p"), (0x1D64C, "q"),
   (0x1D64D, "r"), (0x1D64E, "s"), (0x1D64F, "t"), (0x1D650, "u"),
   (0x1D651, "v"), (0x1D652, "w"), (0x1D653, "x"), (0x1D654, "y"),
   (0x1D655, "z"), (0x1D670, "a"), (0x1D671, "b"), (0x1D672, "c"),
   (0x1D673, "d"), (0x1D674, "e"), (0x1D675, "f"), (0x1D676, "g"),
   (0x1D677, "h"), (0x1D678, "i"), (0x1D679, "j"), (0x1D67A, "k"),
   (0x1D67B, "l"), (0x1D67C, "m"), (0x1D67D, "n"), (0x1D67E, "o"),
   (0x1D67F, "p"), (0x1D680, "q"), (0x1D681, "r"), (0x1D682, "s"),
   (0x1D683, "t"), (0x1D684, "u"), (0x1D685, "v"), (0x1D686, "w"),
   (0x1D687, "x"), (0x1D688, "y"), (0x1D689, "z"), (0x1D6A8, "α"),
   (0x1D6A9, "β"), (0x1D6AA, "γ"), (0x1D6AB, "δ"), (0x1D6AC, "ε"),
   (0x1D6AD, "ζ"), (0x1D6AE, "η"), (0x1D6AF, "θ"), (0x1D6B0, "ι"),
   (0x1D6B1, "κ"), (0x1D6B2, "λ"), (0x1D6B3, "μ"), (0x1D6B4, "ν"),
   (0x1D6B5, "ξ"), (0x1D6B6, "ο"), (0x1D6B7, "π"), (0x1D6B8, "ρ"),
   (0x1D6B9, "θ"), (0x1D6BA, "σ"), (0x1D6BB, "τ"), (0x1D6BC, "υ"),
   (0x1D6BD, "φ"), (0x1D6BE, "χ"), (0x1D6BF, "ψ"), (0x1D6C0, "ω"),
   (0x1D6D3, "σ"), (0x1D6E2, "α"), (0x1D6E3, "β"), (0x1D6E4, "γ"),
   (0x1D6E5, "δ"), (0x1D6E6, "ε"), (0x1D6E7, "ζ"), (0x1D6E8, "η"),
   (0x1D6E9, "θ"), (0x1D6EA, "ι"), (0x1D6EB, "κ"), (0x1D6EC, "λ"),
   (0x1D6ED, "μ"), (0x1D6EE, "ν"), (0x1D6EF, "ξ"), (0x1D6F0, "ο"),
   (0x1D6F1, "π"), (0x1D6F2, "ρ"), (0x1D6F3, "θ"), (0x1D6F4, "σ"),
   (0x1D6F5, "τ"), (0x1D6F6, "υ"), (0x1D6F7, "φ"), (0x1D6F8, "χ"),
   (0x1D6F9, "ψ"), (0x1D6FA, "ω"), (0x1D70D, "σ"), (0x1D71C, "α"),
   (0x1D71D, "β"), (0x1D71E, "γ"), (0x1D71F, "δ"), (0x1D720, "ε"),
   (0x1D721, "ζ"), (0x1D722, "η"), (0x1D723, "θ"), (0x1D724, "ι"),
   (0x1D725, "κ"), (0x1D726, "λ"), (0x1D727, "μ"), (0x1D728, "ν"),
   (0x1D729, "ξ"), (0x1D72A, "ο"), (0x1D72B, "π"), (0x1D72C, "ρ"),
   (0x1D72D, "θ"), (0x1D72E, "σ"), (0x1D72F, "τ"), (0x1D730, "υ"),
   (0x1D731, "φ"), (0x1D732, "χ"), (0x1D733, "ψ"), (0x1D734, "ω"),
   (0x1D747, "σ"), (0x1D756, "α"), (0x1D757, "β"), (0x1D758, "γ"),
   (0x1D759, "δ"), (0x1D75A, "ε"), (0x1D75B, "ζ"), (0x1D75C, "η"),
   (0x1D75D, "θ"), (0x1D75E, "ι"), (0x1D75F, "κ"), (0x1D760, "λ"),
   (0x1D761, "μ"), (0x1D762, "ν"), (0x1D763, "ξ"), (0x1D764, "ο"),
   (0x1D765, "π"), (0x1D766, "ρ"), (0x1D767, "θ"), (0x1D768, "σ"),
   (0x1D769, "τ"), (0x1D76A, "υ"), (0x1D76B, "φ"), (0x1D76C, "χ"),
   (0x1D76D, "ψ"), (0x1D76E, "ω"), (0x1D781, "σ"), (0x1D790, "α"),
   (0x1D791, "β"), (0x1D792, "γ"), (0x1D793, "δ"), (0x1D794, "ε"),
   (0x1D795, "ζ"), (0x1D796, "η"), (0x1D797, "θ"), (0x1D798, "ι"),
   (0x1D799, "κ"), (0x1D79A, "λ"), (0x1D79B, "μ"), (0x1D79C, "ν"),
   (0x1D79D, "ξ"), (0x1D79E, "ο"), (0x1D79F, "π"), (0x1D7A0, "ρ"),
   (0x1D7A1, "θ"), (0x1D7A2, "σ"), (0x1D7A3, "τ"), (0x1D7A4, "υ"),
   (0x1D7A5, "φ"), (0x1D7A6, "χ"), (0x1D7A7, "ψ"), (0x1D7A8, "ω"),
   (0x1D7BB, "σ"), (0x1E900, "𞤢"), (0x1E901, "𞤣"), (0x1E902, "𞤤"),
   (0x1E903, "𞤥"), (0x1E904, "𞤦"), (0x1E905, "𞤧"), (0x1E906, "𞤨"),
   (0x1E907, "𞤩"), (0x1E908, "𞤪"), (0x1E909, "𞤫"), (0x1E90A, "𞤬"),
   (0x1E90B, "𞤭"), (0x1E90C, "𞤮"), (0x1E90D, "𞤯"), (0x1E90E, "𞤰"),
   (0x1E90F, "𞤱"), (0x1E910, "𞤲"), (0x1E911, "𞤳"), (0x1E912, "𞤴"),
   (0x1E913, "𞤵"), (0x1E914, "𞤶"), (0x1E915, "𞤷"), (0x1E916, "𞤸"),
   (0x1E917, "𞤹"), (0x1E918, "𞤺"), (0x1E919, "𞤻"), (0x1E91A, "𞤼"),
   (0x1E91B, "𞤽"), (0x1E91C, "𞤾"), (0x1E91D, "𞤿"), (0x1E91E, "𞥀"),
   (0x1E91F, "𞥁"), (0x1E920, "𞥂"), (0x1E921, "𞥃")]

/-- The case foldings of table B.2, by code point. -/
def foldings : List (Nat × String) :=
  foldings1 ++
    foldings2 ++
    foldings3 ++
    foldings4 ++
    foldings5 ++
    foldings6 ++
    foldings7

end Stencil.Files.Nameprep
