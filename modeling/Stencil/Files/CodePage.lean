/-!
# Single-byte code pages

A code page reads every byte as at most one character. The tables here are the
seventy code pages of the codec registry that work this way: the EBCDIC pages
(`cp037`, `cp500`, `cp1140`, ...), the DOS and Windows pages (`cp437` ...
`cp1258`), the ISO 8859 parts, the KOI8 pages, the Macintosh pages and a few
others.

Each table is 256 characters in byte order, in rows of sixteen, `U+FFFE` standing where a
byte reads as no character; the sixty-two pages that keep ASCII give only the rows of their
upper half (`ofUpperRows`); `U+FFFE` is a noncharacter, which no page gives to a
byte. A byte with no character does not decode, and a character is written as the
last byte that reads as it: where two bytes read as one character (the Arabic
Macintosh pages read both `0x20` and `0xA0` as a space), the later byte wins.
-/

namespace Stencil.Files

/-- A single-byte code page: the character each byte reads as, in byte order, with
`U+FFFE` for a byte that reads as none. -/
structure CodePage where
  chars : Array Char
  deriving Inhabited

namespace CodePage

/-- The mark of a byte that reads as no character. -/
def unmapped : Char := '￾'

/-- The code page given by a text of its characters in byte order. -/
def ofText (s : String) : CodePage := ⟨s.toList.toArray⟩

/-- The code page given by rows of its characters in byte order. -/
def ofRows (rows : List String) : CodePage := ofText (String.join rows)

/-- The rows of the lower half of a code page that keeps ASCII: each byte below `0x80`
reads as the character of its code. -/
def asciiRows : List String :=
  ["\x00\x01\x02\x03\x04\x05\x06\x07\x08\x09\x0a\x0b\x0c\x0d\x0e\x0f",
   "\x10\x11\x12\x13\x14\x15\x16\x17\x18\x19\x1a\x1b\x1c\x1d\x1e\x1f",
   "\x20\x21\x22\x23\x24\x25\x26\x27\x28\x29\x2a\x2b\x2c\x2d\x2e\x2f",
   "0123456789\x3a\x3b\x3c\x3d\x3e\x3f",
   "\x40ABCDEFGHIJKLMNO",
   "PQRSTUVWXYZ\x5b\x5c\x5d\x5e\x5f",
   "\x60abcdefghijklmno",
   "pqrstuvwxyz\x7b\x7c\x7d\x7e\x7f"]

/-- A code page that keeps ASCII, given by the rows of its upper half. -/
def ofUpperRows (rows : List String) : CodePage := ofRows (asciiRows ++ rows)

/-- The character a byte reads as, if any. -/
def char? (p : CodePage) (b : UInt8) : Option Char :=
  match p.chars[b.toNat]? with
  | some c => if c = unmapped then none else some c
  | none => none

/-- The byte a character is written as: the last byte that reads as it. -/
def byte? (p : CodePage) (c : Char) : Option UInt8 :=
  if c = unmapped then none
  else
    (p.chars.toList.zipIdx.foldl (fun found (d, i) => if d = c then some i else found) none).map
      UInt8.ofNat

/-- Code page cp037. -/
def cp037 : CodePage := ofRows
  ["\x00\x01\x02\x03\u009c\x09\u0086\x7f\u0097\u008d\u008e\x0b\x0c\x0d\x0e\x0f",
   "\x10\x11\x12\x13\u009d\u0085\x08\u0087\x18\x19\u0092\u008f\x1c\x1d\x1e\x1f",
   "\u0080\u0081\u0082\u0083\u0084\x0a\x17\x1b\u0088\u0089\u008a\u008b\u008c\x05\x06\x07",
   "\u0090\u0091\x16\u0093\u0094\u0095\u0096\x04\u0098\u0099\u009a\u009b\x14\x15\u009e\x1a",
   "\x20\u00a0âäàáãåçñ¢\x2e\x3c\x28\x2b\x7c",
   "\x26éêëèíîïìß\x21\x24\x2a\x29\x3b¬",
   "\x2d\x2fÂÄÀÁÃÅÇÑ¦\x2c\x25\x5f\x3e\x3f",
   "øÉÊËÈÍÎÏÌ\x60\x3a\x23\x40\x27\x3d\x22",
   "Øabcdefghi«»ðýþ±",
   "°jklmnopqrªºæ¸Æ¤",
   "µ\x7estuvwxyz¡¿ÐÝÞ®",
   "\x5e£¥·©§¶¼½¾\x5b\x5d¯¨´×",
   "\x7bABCDEFGHI\u00adôöòóõ",
   "\x7dJKLMNOPQR¹ûüùúÿ",
   "\x5c÷STUVWXYZ²ÔÖÒÓÕ",
   "0123456789³ÛÜÙÚ\u009f"]

/-- Code page cp1006. -/
def cp1006 : CodePage := ofUpperRows
  ["\u0080\u0081\u0082\u0083\u0084\u0085\u0086\u0087\u0088\u0089\u008a\u008b\u008c\u008d\u008e\u008f",
   "\u0090\u0091\u0092\u0093\u0094\u0095\u0096\u0097\u0098\u0099\u009a\u009b\u009c\u009d\u009e\u009f",
   "\u00a0۰۱۲۳۴۵۶۷۸۹،؛\u00ad؟ﺁ",
   "ﺍﺎﺎﺏﺑﭖﭘﺓﺕﺗﭦﭨﺙﺛﺝﺟ",
   "ﭺﭼﺡﺣﺥﺧﺩﮄﺫﺭﮌﺯﮊﺱﺳﺵ",
   "ﺷﺹﺻﺽﺿﻁﻅﻉﻊﻋﻌﻍﻎﻏﻐﻑ",
   "ﻓﻕﻗﻙﻛﮒﮔﻝﻟﻠﻡﻣﮞﻥﻧﺅ",
   "ﻭﮦﮨﮩﮪﺀﺉﺊﺋﻱﻲﻳﮰﮮﹼﹽ"]

/-- Code page cp1026. -/
def cp1026 : CodePage := ofRows
  ["\x00\x01\x02\x03\u009c\x09\u0086\x7f\u0097\u008d\u008e\x0b\x0c\x0d\x0e\x0f",
   "\x10\x11\x12\x13\u009d\u0085\x08\u0087\x18\x19\u0092\u008f\x1c\x1d\x1e\x1f",
   "\u0080\u0081\u0082\u0083\u0084\x0a\x17\x1b\u0088\u0089\u008a\u008b\u008c\x05\x06\x07",
   "\u0090\u0091\x16\u0093\u0094\u0095\u0096\x04\u0098\u0099\u009a\u009b\x14\x15\u009e\x1a",
   "\x20\u00a0âäàáãå\x7bñÇ\x2e\x3c\x28\x2b\x21",
   "\x26éêëèíîïìßĞİ\x2a\x29\x3b\x5e",
   "\x2d\x2fÂÄÀÁÃÅ\x5bÑş\x2c\x25\x5f\x3e\x3f",
   "øÉÊËÈÍÎÏÌı\x3aÖŞ\x27\x3dÜ",
   "Øabcdefghi«»\x7d\x60¦±",
   "°jklmnopqrªºæ¸Æ¤",
   "µöstuvwxyz¡¿\x5d\x24\x40®",
   "¢£¥·©§¶¼½¾¬\x7c¯¨´×",
   "çABCDEFGHI\u00adô\x7eòóõ",
   "ğJKLMNOPQR¹û\x5cùúÿ",
   "ü÷STUVWXYZ²Ô\x23ÒÓÕ",
   "0123456789³Û\x22ÙÚ\u009f"]

/-- Code page cp1125. -/
def cp1125 : CodePage := ofUpperRows
  ["АБВГДЕЖЗИЙКЛМНОП",
   "РСТУФХЦЧШЩЪЫЬЭЮЯ",
   "абвгдежзийклмноп",
   "░▒▓│┤╡╢╖╕╣║╗╝╜╛┐",
   "└┴┬├─┼╞╟╚╔╩╦╠═╬╧",
   "╨╤╥╙╘╒╓╫╪┘┌█▄▌▐▀",
   "рстуфхцчшщъыьэюя",
   "ЁёҐґЄєІіЇї·√№¤■\u00a0"]

/-- Code page cp1140. -/
def cp1140 : CodePage := ofRows
  ["\x00\x01\x02\x03\u009c\x09\u0086\x7f\u0097\u008d\u008e\x0b\x0c\x0d\x0e\x0f",
   "\x10\x11\x12\x13\u009d\u0085\x08\u0087\x18\x19\u0092\u008f\x1c\x1d\x1e\x1f",
   "\u0080\u0081\u0082\u0083\u0084\x0a\x17\x1b\u0088\u0089\u008a\u008b\u008c\x05\x06\x07",
   "\u0090\u0091\x16\u0093\u0094\u0095\u0096\x04\u0098\u0099\u009a\u009b\x14\x15\u009e\x1a",
   "\x20\u00a0âäàáãåçñ¢\x2e\x3c\x28\x2b\x7c",
   "\x26éêëèíîïìß\x21\x24\x2a\x29\x3b¬",
   "\x2d\x2fÂÄÀÁÃÅÇÑ¦\x2c\x25\x5f\x3e\x3f",
   "øÉÊËÈÍÎÏÌ\x60\x3a\x23\x40\x27\x3d\x22",
   "Øabcdefghi«»ðýþ±",
   "°jklmnopqrªºæ¸Æ€",
   "µ\x7estuvwxyz¡¿ÐÝÞ®",
   "\x5e£¥·©§¶¼½¾\x5b\x5d¯¨´×",
   "\x7bABCDEFGHI\u00adôöòóõ",
   "\x7dJKLMNOPQR¹ûüùúÿ",
   "\x5c÷STUVWXYZ²ÔÖÒÓÕ",
   "0123456789³ÛÜÙÚ\u009f"]

/-- Code page cp1250. -/
def cp1250 : CodePage := ofUpperRows
  ["€￾‚￾„…†‡￾‰Š‹ŚŤŽŹ",
   "￾‘’“”•–—￾™š›śťžź",
   "\u00a0ˇ˘Ł¤Ą¦§¨©Ş«¬\u00ad®Ż",
   "°±˛ł´µ¶·¸ąş»Ľ˝ľż",
   "ŔÁÂĂÄĹĆÇČÉĘËĚÍÎĎ",
   "ĐŃŇÓÔŐÖ×ŘŮÚŰÜÝŢß",
   "ŕáâăäĺćçčéęëěíîď",
   "đńňóôőö÷řůúűüýţ˙"]

/-- Code page cp1251. -/
def cp1251 : CodePage := ofUpperRows
  ["ЂЃ‚ѓ„…†‡€‰Љ‹ЊЌЋЏ",
   "ђ‘’“”•–—￾™љ›њќћџ",
   "\u00a0ЎўЈ¤Ґ¦§Ё©Є«¬\u00ad®Ї",
   "°±Ііґµ¶·ё№є»јЅѕї",
   "АБВГДЕЖЗИЙКЛМНОП",
   "РСТУФХЦЧШЩЪЫЬЭЮЯ",
   "абвгдежзийклмноп",
   "рстуфхцчшщъыьэюя"]

/-- Code page cp1252. -/
def cp1252 : CodePage := ofUpperRows
  ["€￾‚ƒ„…†‡ˆ‰Š‹Œ￾Ž￾",
   "￾‘’“”•–—˜™š›œ￾žŸ",
   "\u00a0¡¢£¤¥¦§¨©ª«¬\u00ad®¯",
   "°±²³´µ¶·¸¹º»¼½¾¿",
   "ÀÁÂÃÄÅÆÇÈÉÊËÌÍÎÏ",
   "ÐÑÒÓÔÕÖ×ØÙÚÛÜÝÞß",
   "àáâãäåæçèéêëìíîï",
   "ðñòóôõö÷øùúûüýþÿ"]

/-- Code page cp1253. -/
def cp1253 : CodePage := ofUpperRows
  ["€￾‚ƒ„…†‡￾‰￾‹￾￾￾￾",
   "￾‘’“”•–—￾™￾›￾￾￾￾",
   "\u00a0΅Ά£¤¥¦§¨©￾«¬\u00ad®―",
   "°±²³΄µ¶·ΈΉΊ»Ό½ΎΏ",
   "ΐΑΒΓΔΕΖΗΘΙΚΛΜΝΞΟ",
   "ΠΡ￾ΣΤΥΦΧΨΩΪΫάέήί",
   "ΰαβγδεζηθικλμνξο",
   "πρςστυφχψωϊϋόύώ￾"]

/-- Code page cp1254. -/
def cp1254 : CodePage := ofUpperRows
  ["€￾‚ƒ„…†‡ˆ‰Š‹Œ￾￾￾",
   "￾‘’“”•–—˜™š›œ￾￾Ÿ",
   "\u00a0¡¢£¤¥¦§¨©ª«¬\u00ad®¯",
   "°±²³´µ¶·¸¹º»¼½¾¿",
   "ÀÁÂÃÄÅÆÇÈÉÊËÌÍÎÏ",
   "ĞÑÒÓÔÕÖ×ØÙÚÛÜİŞß",
   "àáâãäåæçèéêëìíîï",
   "ğñòóôõö÷øùúûüışÿ"]

/-- Code page cp1255. -/
def cp1255 : CodePage := ofUpperRows
  ["€￾‚ƒ„…†‡ˆ‰￾‹￾￾￾￾",
   "￾‘’“”•–—˜™￾›￾￾￾￾",
   "\u00a0¡¢£₪¥¦§¨©×«¬\u00ad®¯",
   "°±²³´µ¶·¸¹÷»¼½¾¿",
   "\u05b0\u05b1\u05b2\u05b3\u05b4\u05b5\u05b6\u05b7\u05b8\u05b9￾\u05bb\u05bc\u05bd־\u05bf",
   "׀\u05c1\u05c2׃װױײ׳״￾￾￾￾￾￾￾",
   "אבגדהוזחטיךכלםמן",
   "נסעףפץצקרשת￾￾\u200e\u200f￾"]

/-- Code page cp1256. -/
def cp1256 : CodePage := ofUpperRows
  ["€پ‚ƒ„…†‡ˆ‰ٹ‹Œچژڈ",
   "گ‘’“”•–—ک™ڑ›œ\u200c\u200dں",
   "\u00a0،¢£¤¥¦§¨©ھ«¬\u00ad®¯",
   "°±²³´µ¶·¸¹؛»¼½¾؟",
   "ہءآأؤإئابةتثجحخد",
   "ذرزسشصض×طظعغـفقك",
   "àلâمنهوçèéêëىيîï",
   "\u064b\u064c\u064d\u064eô\u064f\u0650÷\u0651ù\u0652ûü\u200e\u200fے"]

/-- Code page cp1257. -/
def cp1257 : CodePage := ofUpperRows
  ["€￾‚￾„…†‡￾‰￾‹￾¨ˇ¸",
   "￾‘’“”•–—￾™￾›￾¯˛￾",
   "\u00a0￾¢£¤￾¦§Ø©Ŗ«¬\u00ad®Æ",
   "°±²³´µ¶·ø¹ŗ»¼½¾æ",
   "ĄĮĀĆÄÅĘĒČÉŹĖĢĶĪĻ",
   "ŠŃŅÓŌÕÖ×ŲŁŚŪÜŻŽß",
   "ąįāćäåęēčéźėģķīļ",
   "šńņóōõö÷ųłśūüżž˙"]

/-- Code page cp1258. -/
def cp1258 : CodePage := ofUpperRows
  ["€￾‚ƒ„…†‡ˆ‰￾‹Œ￾￾￾",
   "￾‘’“”•–—˜™￾›œ￾￾Ÿ",
   "\u00a0¡¢£¤¥¦§¨©ª«¬\u00ad®¯",
   "°±²³´µ¶·¸¹º»¼½¾¿",
   "ÀÁÂĂÄÅÆÇÈÉÊË\u0300ÍÎÏ",
   "ĐÑ\u0309ÓÔƠÖ×ØÙÚÛÜƯ\u0303ß",
   "àáâăäåæçèéêë\u0301íîï",
   "đñ\u0323óôơö÷øùúûüư₫ÿ"]

/-- Code page cp273. -/
def cp273 : CodePage := ofRows
  ["\x00\x01\x02\x03\u009c\x09\u0086\x7f\u0097\u008d\u008e\x0b\x0c\x0d\x0e\x0f",
   "\x10\x11\x12\x13\u009d\u0085\x08\u0087\x18\x19\u0092\u008f\x1c\x1d\x1e\x1f",
   "\u0080\u0081\u0082\u0083\u0084\x0a\x17\x1b\u0088\u0089\u008a\u008b\u008c\x05\x06\x07",
   "\u0090\u0091\x16\u0093\u0094\u0095\u0096\x04\u0098\u0099\u009a\u009b\x14\x15\u009e\x1a",
   "\x20\u00a0â\x7bàáãåçñÄ\x2e\x3c\x28\x2b\x21",
   "\x26éêëèíîïì\x7eÜ\x24\x2a\x29\x3b\x5e",
   "\x2d\x2fÂ\x5bÀÁÃÅÇÑö\x2c\x25\x5f\x3e\x3f",
   "øÉÊËÈÍÎÏÌ\x60\x3a\x23§\x27\x3d\x22",
   "Øabcdefghi«»ðýþ±",
   "°jklmnopqrªºæ¸Æ¤",
   "µßstuvwxyz¡¿ÐÝÞ®",
   "¢£¥·©\x40¶¼½¾¬\x7c‾¨´×",
   "äABCDEFGHI\u00adô¦òóõ",
   "üJKLMNOPQR¹û\x7dùúÿ",
   "Ö÷STUVWXYZ²Ô\x5cÒÓÕ",
   "0123456789³Û\x5dÙÚ\u009f"]

/-- Code page cp424. -/
def cp424 : CodePage := ofRows
  ["\x00\x01\x02\x03\u009c\x09\u0086\x7f\u0097\u008d\u008e\x0b\x0c\x0d\x0e\x0f",
   "\x10\x11\x12\x13\u009d\u0085\x08\u0087\x18\x19\u0092\u008f\x1c\x1d\x1e\x1f",
   "\u0080\u0081\u0082\u0083\u0084\x0a\x17\x1b\u0088\u0089\u008a\u008b\u008c\x05\x06\x07",
   "\u0090\u0091\x16\u0093\u0094\u0095\u0096\x04\u0098\u0099\u009a\u009b\x14\x15\u009e\x1a",
   "\x20אבגדהוזחט¢\x2e\x3c\x28\x2b\x7c",
   "\x26יךכלםמןנס\x21\x24\x2a\x29\x3b¬",
   "\x2d\x2fעףפץצקרש¦\x2c\x25\x5f\x3e\x3f",
   "￾ת￾￾\u00a0￾￾￾‗\x60\x3a\x23\x40\x27\x3d\x22",
   "￾abcdefghi«»￾￾￾±",
   "°jklmnopqr￾￾￾¸￾¤",
   "µ\x7estuvwxyz￾￾￾￾￾®",
   "\x5e£¥·©§¶¼½¾\x5b\x5d¯¨´×",
   "\x7bABCDEFGHI\u00ad￾￾￾￾￾",
   "\x7dJKLMNOPQR¹￾￾￾￾￾",
   "\x5c÷STUVWXYZ²￾￾￾￾￾",
   "0123456789³￾￾￾￾\u009f"]

/-- Code page cp437. -/
def cp437 : CodePage := ofUpperRows
  ["ÇüéâäàåçêëèïîìÄÅ",
   "ÉæÆôöòûùÿÖÜ¢£¥₧ƒ",
   "áíóúñÑªº¿⌐¬½¼¡«»",
   "░▒▓│┤╡╢╖╕╣║╗╝╜╛┐",
   "└┴┬├─┼╞╟╚╔╩╦╠═╬╧",
   "╨╤╥╙╘╒╓╫╪┘┌█▄▌▐▀",
   "αßΓπΣσµτΦΘΩδ∞φε∩",
   "≡±≥≤⌠⌡÷≈°∙·√ⁿ²■\u00a0"]

/-- Code page cp500. -/
def cp500 : CodePage := ofRows
  ["\x00\x01\x02\x03\u009c\x09\u0086\x7f\u0097\u008d\u008e\x0b\x0c\x0d\x0e\x0f",
   "\x10\x11\x12\x13\u009d\u0085\x08\u0087\x18\x19\u0092\u008f\x1c\x1d\x1e\x1f",
   "\u0080\u0081\u0082\u0083\u0084\x0a\x17\x1b\u0088\u0089\u008a\u008b\u008c\x05\x06\x07",
   "\u0090\u0091\x16\u0093\u0094\u0095\u0096\x04\u0098\u0099\u009a\u009b\x14\x15\u009e\x1a",
   "\x20\u00a0âäàáãåçñ\x5b\x2e\x3c\x28\x2b\x21",
   "\x26éêëèíîïìß\x5d\x24\x2a\x29\x3b\x5e",
   "\x2d\x2fÂÄÀÁÃÅÇÑ¦\x2c\x25\x5f\x3e\x3f",
   "øÉÊËÈÍÎÏÌ\x60\x3a\x23\x40\x27\x3d\x22",
   "Øabcdefghi«»ðýþ±",
   "°jklmnopqrªºæ¸Æ¤",
   "µ\x7estuvwxyz¡¿ÐÝÞ®",
   "¢£¥·©§¶¼½¾¬\x7c¯¨´×",
   "\x7bABCDEFGHI\u00adôöòóõ",
   "\x7dJKLMNOPQR¹ûüùúÿ",
   "\x5c÷STUVWXYZ²ÔÖÒÓÕ",
   "0123456789³ÛÜÙÚ\u009f"]

/-- Code page cp720. -/
def cp720 : CodePage := ofUpperRows
  ["\u0080\u0081éâ\u0084à\u0086çêëèïî\u008d\u008e\u008f",
   "\u0090\u0651\u0652ô¤ـûùءآأؤ£إئا",
   "بةتثجحخدذرزسشص«»",
   "░▒▓│┤╡╢╖╕╣║╗╝╜╛┐",
   "└┴┬├─┼╞╟╚╔╩╦╠═╬╧",
   "╨╤╥╙╘╒╓╫╪┘┌█▄▌▐▀",
   "ضطظعغفµقكلمنهوىي",
   "≡\u064b\u064c\u064d\u064e\u064f\u0650≈°∙·√ⁿ²■\u00a0"]

/-- Code page cp737. -/
def cp737 : CodePage := ofUpperRows
  ["ΑΒΓΔΕΖΗΘΙΚΛΜΝΞΟΠ",
   "ΡΣΤΥΦΧΨΩαβγδεζηθ",
   "ικλμνξοπρσςτυφχψ",
   "░▒▓│┤╡╢╖╕╣║╗╝╜╛┐",
   "└┴┬├─┼╞╟╚╔╩╦╠═╬╧",
   "╨╤╥╙╘╒╓╫╪┘┌█▄▌▐▀",
   "ωάέήϊίόύϋώΆΈΉΊΌΎ",
   "Ώ±≥≤ΪΫ÷≈°∙·√ⁿ²■\u00a0"]

/-- Code page cp775. -/
def cp775 : CodePage := ofUpperRows
  ["ĆüéāäģåćłēŖŗīŹÄÅ",
   "ÉæÆōöĢ¢ŚśÖÜø£Ø×¤",
   "ĀĪóŻżź”¦©®¬½¼Ł«»",
   "░▒▓│┤ĄČĘĖ╣║╗╝ĮŠ┐",
   "└┴┬├─┼ŲŪ╚╔╩╦╠═╬Ž",
   "ąčęėįšųūž┘┌█▄▌▐▀",
   "ÓßŌŃõÕµńĶķĻļņĒŅ’",
   "\u00ad±“¾¶§÷„°∙·¹³²■\u00a0"]

/-- Code page cp850. -/
def cp850 : CodePage := ofUpperRows
  ["ÇüéâäàåçêëèïîìÄÅ",
   "ÉæÆôöòûùÿÖÜø£Ø×ƒ",
   "áíóúñÑªº¿®¬½¼¡«»",
   "░▒▓│┤ÁÂÀ©╣║╗╝¢¥┐",
   "└┴┬├─┼ãÃ╚╔╩╦╠═╬¤",
   "ðÐÊËÈıÍÎÏ┘┌█▄¦Ì▀",
   "ÓßÔÒõÕµþÞÚÛÙýÝ¯´",
   "\u00ad±‗¾¶§÷¸°¨·¹³²■\u00a0"]

/-- Code page cp852. -/
def cp852 : CodePage := ofUpperRows
  ["ÇüéâäůćçłëŐőîŹÄĆ",
   "ÉĹĺôöĽľŚśÖÜŤťŁ×č",
   "áíóúĄąŽžĘę¬źČş«»",
   "░▒▓│┤ÁÂĚŞ╣║╗╝Żż┐",
   "└┴┬├─┼Ăă╚╔╩╦╠═╬¤",
   "đĐĎËďŇÍÎě┘┌█▄ŢŮ▀",
   "ÓßÔŃńňŠšŔÚŕŰýÝţ´",
   "\u00ad˝˛ˇ˘§÷¸°¨˙űŘř■\u00a0"]

/-- Code page cp855. -/
def cp855 : CodePage := ofUpperRows
  ["ђЂѓЃёЁєЄѕЅіІїЇјЈ",
   "љЉњЊћЋќЌўЎџЏюЮъЪ",
   "аАбБцЦдДеЕфФгГ«»",
   "░▒▓│┤хХиИ╣║╗╝йЙ┐",
   "└┴┬├─┼кК╚╔╩╦╠═╬¤",
   "лЛмМнНоОп┘┌█▄Пя▀",
   "ЯрРсСтТуУжЖвВьЬ№",
   "\u00adыЫзЗшШэЭщЩчЧ§■\u00a0"]

/-- Code page cp856. -/
def cp856 : CodePage := ofUpperRows
  ["אבגדהוזחטיךכלםמן",
   "נסעףפץצקרשת￾£￾×￾",
   "￾￾￾￾￾￾￾￾￾®¬½¼￾«»",
   "░▒▓│┤￾￾￾©╣║╗╝¢¥┐",
   "└┴┬├─┼￾￾╚╔╩╦╠═╬¤",
   "￾￾￾￾￾￾￾￾￾┘┌█▄¦￾▀",
   "￾￾￾￾￾￾µ￾￾￾￾￾￾￾¯´",
   "\u00ad±‗¾¶§÷¸°¨·¹³²■\u00a0"]

/-- Code page cp857. -/
def cp857 : CodePage := ofUpperRows
  ["ÇüéâäàåçêëèïîıÄÅ",
   "ÉæÆôöòûùİÖÜø£ØŞş",
   "áíóúñÑĞğ¿®¬½¼¡«»",
   "░▒▓│┤ÁÂÀ©╣║╗╝¢¥┐",
   "└┴┬├─┼ãÃ╚╔╩╦╠═╬¤",
   "ºªÊËÈ￾ÍÎÏ┘┌█▄¦Ì▀",
   "ÓßÔÒõÕµ￾×ÚÛÙìÿ¯´",
   "\u00ad±￾¾¶§÷¸°¨·¹³²■\u00a0"]

/-- Code page cp858. -/
def cp858 : CodePage := ofUpperRows
  ["ÇüéâäàåçêëèïîìÄÅ",
   "ÉæÆôöòûùÿÖÜø£Ø×ƒ",
   "áíóúñÑªº¿®¬½¼¡«»",
   "░▒▓│┤ÁÂÀ©╣║╗╝¢¥┐",
   "└┴┬├─┼ãÃ╚╔╩╦╠═╬¤",
   "ðÐÊËÈ€ÍÎÏ┘┌█▄¦Ì▀",
   "ÓßÔÒõÕµþÞÚÛÙýÝ¯´",
   "\u00ad±‗¾¶§÷¸°¨·¹³²■\u00a0"]

/-- Code page cp860. -/
def cp860 : CodePage := ofUpperRows
  ["ÇüéâãàÁçêÊèÍÔìÃÂ",
   "ÉÀÈôõòÚùÌÕÜ¢£Ù₧Ó",
   "áíóúñÑªº¿Ò¬½¼¡«»",
   "░▒▓│┤╡╢╖╕╣║╗╝╜╛┐",
   "└┴┬├─┼╞╟╚╔╩╦╠═╬╧",
   "╨╤╥╙╘╒╓╫╪┘┌█▄▌▐▀",
   "αßΓπΣσµτΦΘΩδ∞φε∩",
   "≡±≥≤⌠⌡÷≈°∙·√ⁿ²■\u00a0"]

/-- Code page cp861. -/
def cp861 : CodePage := ofUpperRows
  ["ÇüéâäàåçêëèÐðÞÄÅ",
   "ÉæÆôöþûÝýÖÜø£Ø₧ƒ",
   "áíóúÁÍÓÚ¿⌐¬½¼¡«»",
   "░▒▓│┤╡╢╖╕╣║╗╝╜╛┐",
   "└┴┬├─┼╞╟╚╔╩╦╠═╬╧",
   "╨╤╥╙╘╒╓╫╪┘┌█▄▌▐▀",
   "αßΓπΣσµτΦΘΩδ∞φε∩",
   "≡±≥≤⌠⌡÷≈°∙·√ⁿ²■\u00a0"]

/-- Code page cp862. -/
def cp862 : CodePage := ofUpperRows
  ["אבגדהוזחטיךכלםמן",
   "נסעףפץצקרשת¢£¥₧ƒ",
   "áíóúñÑªº¿⌐¬½¼¡«»",
   "░▒▓│┤╡╢╖╕╣║╗╝╜╛┐",
   "└┴┬├─┼╞╟╚╔╩╦╠═╬╧",
   "╨╤╥╙╘╒╓╫╪┘┌█▄▌▐▀",
   "αßΓπΣσµτΦΘΩδ∞φε∩",
   "≡±≥≤⌠⌡÷≈°∙·√ⁿ²■\u00a0"]

/-- Code page cp863. -/
def cp863 : CodePage := ofUpperRows
  ["ÇüéâÂà¶çêëèïî‗À§",
   "ÉÈÊôËÏûù¤ÔÜ¢£ÙÛƒ",
   "¦´óú¨¸³¯Î⌐¬½¼¾«»",
   "░▒▓│┤╡╢╖╕╣║╗╝╜╛┐",
   "└┴┬├─┼╞╟╚╔╩╦╠═╬╧",
   "╨╤╥╙╘╒╓╫╪┘┌█▄▌▐▀",
   "αßΓπΣσµτΦΘΩδ∞φε∩",
   "≡±≥≤⌠⌡÷≈°∙·√ⁿ²■\u00a0"]

/-- Code page cp864. -/
def cp864 : CodePage := ofRows
  ["\x00\x01\x02\x03\x04\x05\x06\x07\x08\x09\x0a\x0b\x0c\x0d\x0e\x0f",
   "\x10\x11\x12\x13\x14\x15\x16\x17\x18\x19\x1a\x1b\x1c\x1d\x1e\x1f",
   "\x20\x21\x22\x23\x24٪\x26\x27\x28\x29\x2a\x2b\x2c\x2d\x2e\x2f",
   "0123456789\x3a\x3b\x3c\x3d\x3e\x3f",
   "\x40ABCDEFGHIJKLMNO",
   "PQRSTUVWXYZ\x5b\x5c\x5d\x5e\x5f",
   "\x60abcdefghijklmno",
   "pqrstuvwxyz\x7b\x7c\x7d\x7e\x7f",
   "°·∙√▒─│┼┤┬├┴┐┌└┘",
   "β∞φ±½¼≈«»ﻷﻸ￾￾ﻻﻼ￾",
   "\u00a0\u00adﺂ£¤ﺄ￾￾ﺎﺏﺕﺙ،ﺝﺡﺥ",
   "٠١٢٣٤٥٦٧٨٩ﻑ؛ﺱﺵﺹ؟",
   "¢ﺀﺁﺃﺅﻊﺋﺍﺑﺓﺗﺛﺟﺣﺧﺩ",
   "ﺫﺭﺯﺳﺷﺻﺿﻁﻅﻋﻏ¦¬÷×ﻉ",
   "ـﻓﻗﻛﻟﻣﻧﻫﻭﻯﻳﺽﻌﻎﻍﻡ",
   "ﹽ\u0651ﻥﻩﻬﻰﻲﻐﻕﻵﻶﻝﻙﻱ■￾"]

/-- Code page cp865. -/
def cp865 : CodePage := ofUpperRows
  ["ÇüéâäàåçêëèïîìÄÅ",
   "ÉæÆôöòûùÿÖÜø£Ø₧ƒ",
   "áíóúñÑªº¿⌐¬½¼¡«¤",
   "░▒▓│┤╡╢╖╕╣║╗╝╜╛┐",
   "└┴┬├─┼╞╟╚╔╩╦╠═╬╧",
   "╨╤╥╙╘╒╓╫╪┘┌█▄▌▐▀",
   "αßΓπΣσµτΦΘΩδ∞φε∩",
   "≡±≥≤⌠⌡÷≈°∙·√ⁿ²■\u00a0"]

/-- Code page cp866. -/
def cp866 : CodePage := ofUpperRows
  ["АБВГДЕЖЗИЙКЛМНОП",
   "РСТУФХЦЧШЩЪЫЬЭЮЯ",
   "абвгдежзийклмноп",
   "░▒▓│┤╡╢╖╕╣║╗╝╜╛┐",
   "└┴┬├─┼╞╟╚╔╩╦╠═╬╧",
   "╨╤╥╙╘╒╓╫╪┘┌█▄▌▐▀",
   "рстуфхцчшщъыьэюя",
   "ЁёЄєЇїЎў°∙·√№¤■\u00a0"]

/-- Code page cp869. -/
def cp869 : CodePage := ofUpperRows
  ["￾￾￾￾￾￾Ά￾·¬¦‘’Έ―Ή",
   "ΊΪΌ￾￾ΎΫ©Ώ²³ά£έήί",
   "ϊΐόύΑΒΓΔΕΖΗ½ΘΙ«»",
   "░▒▓│┤ΚΛΜΝ╣║╗╝ΞΟ┐",
   "└┴┬├─┼ΠΡ╚╔╩╦╠═╬Σ",
   "ΤΥΦΧΨΩαβγ┘┌█▄δε▀",
   "ζηθικλμνξοπρσςτ΄",
   "\u00ad±υφχ§ψ΅°¨ωϋΰώ■\u00a0"]

/-- Code page cp874. -/
def cp874 : CodePage := ofUpperRows
  ["€￾￾￾￾…￾￾￾￾￾￾￾￾￾￾",
   "￾‘’“”•–—￾￾￾￾￾￾￾￾",
   "\u00a0กขฃคฅฆงจฉชซฌญฎฏ",
   "ฐฑฒณดตถทธนบปผฝพฟ",
   "ภมยรฤลฦวศษสหฬอฮฯ",
   "ะ\u0e31าำ\u0e34\u0e35\u0e36\u0e37\u0e38\u0e39\u0e3a￾￾￾￾฿",
   "เแโใไๅๆ\u0e47\u0e48\u0e49\u0e4a\u0e4b\u0e4c\u0e4d\u0e4e๏",
   "๐๑๒๓๔๕๖๗๘๙๚๛￾￾￾￾"]

/-- Code page cp875. -/
def cp875 : CodePage := ofRows
  ["\x00\x01\x02\x03\u009c\x09\u0086\x7f\u0097\u008d\u008e\x0b\x0c\x0d\x0e\x0f",
   "\x10\x11\x12\x13\u009d\u0085\x08\u0087\x18\x19\u0092\u008f\x1c\x1d\x1e\x1f",
   "\u0080\u0081\u0082\u0083\u0084\x0a\x17\x1b\u0088\u0089\u008a\u008b\u008c\x05\x06\x07",
   "\u0090\u0091\x16\u0093\u0094\u0095\u0096\x04\u0098\u0099\u009a\u009b\x14\x15\u009e\x1a",
   "\x20ΑΒΓΔΕΖΗΘΙ\x5b\x2e\x3c\x28\x2b\x21",
   "\x26ΚΛΜΝΞΟΠΡΣ\x5d\x24\x2a\x29\x3b\x5e",
   "\x2d\x2fΤΥΦΧΨΩΪΫ\x7c\x2c\x25\x5f\x3e\x3f",
   "¨ΆΈΉ\u00a0ΊΌΎΏ\x60\x3a\x23\x40\x27\x3d\x22",
   "΅abcdefghiαβγδεζ",
   "°jklmnopqrηθικλμ",
   "´\x7estuvwxyzνξοπρσ",
   "£άέήϊίόύϋώςτυφχψ",
   "\x7bABCDEFGHI\u00adωΐΰ‘―",
   "\x7dJKLMNOPQR±½\x1a·’¦",
   "\x5c\x1aSTUVWXYZ²§\x1a\x1a«¬",
   "0123456789³©\x1a\x1a»\u009f"]

/-- Code page hp_roman8. -/
def hp_roman8 : CodePage := ofUpperRows
  ["\u0080\u0081\u0082\u0083\u0084\u0085\u0086\u0087\u0088\u0089\u008a\u008b\u008c\u008d\u008e\u008f",
   "\u0090\u0091\u0092\u0093\u0094\u0095\u0096\u0097\u0098\u0099\u009a\u009b\u009c\u009d\u009e\u009f",
   "\u00a0ÀÂÈÊËÎÏ´ˋˆ¨˜ÙÛ₤",
   "¯Ýý°ÇçÑñ¡¿¤£¥§ƒ¢",
   "âêôûáéóúàèòùäëöü",
   "ÅîØÆåíøæÄìÖÜÉïßÔ",
   "ÁÃãÐðÍÌÓÒÕõŠšÚŸÿ",
   "Þþ·µ¶¾—¼½ªº«■»±￾"]

/-- Code page iso8859_1. -/
def iso8859_1 : CodePage := ofUpperRows
  ["\u0080\u0081\u0082\u0083\u0084\u0085\u0086\u0087\u0088\u0089\u008a\u008b\u008c\u008d\u008e\u008f",
   "\u0090\u0091\u0092\u0093\u0094\u0095\u0096\u0097\u0098\u0099\u009a\u009b\u009c\u009d\u009e\u009f",
   "\u00a0¡¢£¤¥¦§¨©ª«¬\u00ad®¯",
   "°±²³´µ¶·¸¹º»¼½¾¿",
   "ÀÁÂÃÄÅÆÇÈÉÊËÌÍÎÏ",
   "ÐÑÒÓÔÕÖ×ØÙÚÛÜÝÞß",
   "àáâãäåæçèéêëìíîï",
   "ðñòóôõö÷øùúûüýþÿ"]

/-- Code page iso8859_10. -/
def iso8859_10 : CodePage := ofUpperRows
  ["\u0080\u0081\u0082\u0083\u0084\u0085\u0086\u0087\u0088\u0089\u008a\u008b\u008c\u008d\u008e\u008f",
   "\u0090\u0091\u0092\u0093\u0094\u0095\u0096\u0097\u0098\u0099\u009a\u009b\u009c\u009d\u009e\u009f",
   "\u00a0ĄĒĢĪĨĶ§ĻĐŠŦŽ\u00adŪŊ",
   "°ąēģīĩķ·ļđšŧž―ūŋ",
   "ĀÁÂÃÄÅÆĮČÉĘËĖÍÎÏ",
   "ÐŅŌÓÔÕÖŨØŲÚÛÜÝÞß",
   "āáâãäåæįčéęëėíîï",
   "ðņōóôõöũøųúûüýþĸ"]

/-- Code page iso8859_11. -/
def iso8859_11 : CodePage := ofUpperRows
  ["\u0080\u0081\u0082\u0083\u0084\u0085\u0086\u0087\u0088\u0089\u008a\u008b\u008c\u008d\u008e\u008f",
   "\u0090\u0091\u0092\u0093\u0094\u0095\u0096\u0097\u0098\u0099\u009a\u009b\u009c\u009d\u009e\u009f",
   "\u00a0กขฃคฅฆงจฉชซฌญฎฏ",
   "ฐฑฒณดตถทธนบปผฝพฟ",
   "ภมยรฤลฦวศษสหฬอฮฯ",
   "ะ\u0e31าำ\u0e34\u0e35\u0e36\u0e37\u0e38\u0e39\u0e3a￾￾￾￾฿",
   "เแโใไๅๆ\u0e47\u0e48\u0e49\u0e4a\u0e4b\u0e4c\u0e4d\u0e4e๏",
   "๐๑๒๓๔๕๖๗๘๙๚๛￾￾￾￾"]

/-- Code page iso8859_13. -/
def iso8859_13 : CodePage := ofUpperRows
  ["\u0080\u0081\u0082\u0083\u0084\u0085\u0086\u0087\u0088\u0089\u008a\u008b\u008c\u008d\u008e\u008f",
   "\u0090\u0091\u0092\u0093\u0094\u0095\u0096\u0097\u0098\u0099\u009a\u009b\u009c\u009d\u009e\u009f",
   "\u00a0”¢£¤„¦§Ø©Ŗ«¬\u00ad®Æ",
   "°±²³“µ¶·ø¹ŗ»¼½¾æ",
   "ĄĮĀĆÄÅĘĒČÉŹĖĢĶĪĻ",
   "ŠŃŅÓŌÕÖ×ŲŁŚŪÜŻŽß",
   "ąįāćäåęēčéźėģķīļ",
   "šńņóōõö÷ųłśūüżž’"]

/-- Code page iso8859_14. -/
def iso8859_14 : CodePage := ofUpperRows
  ["\u0080\u0081\u0082\u0083\u0084\u0085\u0086\u0087\u0088\u0089\u008a\u008b\u008c\u008d\u008e\u008f",
   "\u0090\u0091\u0092\u0093\u0094\u0095\u0096\u0097\u0098\u0099\u009a\u009b\u009c\u009d\u009e\u009f",
   "\u00a0Ḃḃ£ĊċḊ§Ẁ©ẂḋỲ\u00ad®Ÿ",
   "ḞḟĠġṀṁ¶ṖẁṗẃṠỳẄẅṡ",
   "ÀÁÂÃÄÅÆÇÈÉÊËÌÍÎÏ",
   "ŴÑÒÓÔÕÖṪØÙÚÛÜÝŶß",
   "àáâãäåæçèéêëìíîï",
   "ŵñòóôõöṫøùúûüýŷÿ"]

/-- Code page iso8859_15. -/
def iso8859_15 : CodePage := ofUpperRows
  ["\u0080\u0081\u0082\u0083\u0084\u0085\u0086\u0087\u0088\u0089\u008a\u008b\u008c\u008d\u008e\u008f",
   "\u0090\u0091\u0092\u0093\u0094\u0095\u0096\u0097\u0098\u0099\u009a\u009b\u009c\u009d\u009e\u009f",
   "\u00a0¡¢£€¥Š§š©ª«¬\u00ad®¯",
   "°±²³Žµ¶·ž¹º»ŒœŸ¿",
   "ÀÁÂÃÄÅÆÇÈÉÊËÌÍÎÏ",
   "ÐÑÒÓÔÕÖ×ØÙÚÛÜÝÞß",
   "àáâãäåæçèéêëìíîï",
   "ðñòóôõö÷øùúûüýþÿ"]

/-- Code page iso8859_16. -/
def iso8859_16 : CodePage := ofUpperRows
  ["\u0080\u0081\u0082\u0083\u0084\u0085\u0086\u0087\u0088\u0089\u008a\u008b\u008c\u008d\u008e\u008f",
   "\u0090\u0091\u0092\u0093\u0094\u0095\u0096\u0097\u0098\u0099\u009a\u009b\u009c\u009d\u009e\u009f",
   "\u00a0ĄąŁ€„Š§š©Ș«Ź\u00adźŻ",
   "°±ČłŽ”¶·žčș»ŒœŸż",
   "ÀÁÂĂÄĆÆÇÈÉÊËÌÍÎÏ",
   "ĐŃÒÓÔŐÖŚŰÙÚÛÜĘȚß",
   "àáâăäćæçèéêëìíîï",
   "đńòóôőöśűùúûüęțÿ"]

/-- Code page iso8859_2. -/
def iso8859_2 : CodePage := ofUpperRows
  ["\u0080\u0081\u0082\u0083\u0084\u0085\u0086\u0087\u0088\u0089\u008a\u008b\u008c\u008d\u008e\u008f",
   "\u0090\u0091\u0092\u0093\u0094\u0095\u0096\u0097\u0098\u0099\u009a\u009b\u009c\u009d\u009e\u009f",
   "\u00a0Ą˘Ł¤ĽŚ§¨ŠŞŤŹ\u00adŽŻ",
   "°ą˛ł´ľśˇ¸šşťź˝žż",
   "ŔÁÂĂÄĹĆÇČÉĘËĚÍÎĎ",
   "ĐŃŇÓÔŐÖ×ŘŮÚŰÜÝŢß",
   "ŕáâăäĺćçčéęëěíîď",
   "đńňóôőö÷řůúűüýţ˙"]

/-- Code page iso8859_3. -/
def iso8859_3 : CodePage := ofUpperRows
  ["\u0080\u0081\u0082\u0083\u0084\u0085\u0086\u0087\u0088\u0089\u008a\u008b\u008c\u008d\u008e\u008f",
   "\u0090\u0091\u0092\u0093\u0094\u0095\u0096\u0097\u0098\u0099\u009a\u009b\u009c\u009d\u009e\u009f",
   "\u00a0Ħ˘£¤￾Ĥ§¨İŞĞĴ\u00ad￾Ż",
   "°ħ²³´µĥ·¸ışğĵ½￾ż",
   "ÀÁÂ￾ÄĊĈÇÈÉÊËÌÍÎÏ",
   "￾ÑÒÓÔĠÖ×ĜÙÚÛÜŬŜß",
   "àáâ￾äċĉçèéêëìíîï",
   "￾ñòóôġö÷ĝùúûüŭŝ˙"]

/-- Code page iso8859_4. -/
def iso8859_4 : CodePage := ofUpperRows
  ["\u0080\u0081\u0082\u0083\u0084\u0085\u0086\u0087\u0088\u0089\u008a\u008b\u008c\u008d\u008e\u008f",
   "\u0090\u0091\u0092\u0093\u0094\u0095\u0096\u0097\u0098\u0099\u009a\u009b\u009c\u009d\u009e\u009f",
   "\u00a0ĄĸŖ¤ĨĻ§¨ŠĒĢŦ\u00adŽ¯",
   "°ą˛ŗ´ĩļˇ¸šēģŧŊžŋ",
   "ĀÁÂÃÄÅÆĮČÉĘËĖÍÎĪ",
   "ĐŅŌĶÔÕÖ×ØŲÚÛÜŨŪß",
   "āáâãäåæįčéęëėíîī",
   "đņōķôõö÷øųúûüũū˙"]

/-- Code page iso8859_5. -/
def iso8859_5 : CodePage := ofUpperRows
  ["\u0080\u0081\u0082\u0083\u0084\u0085\u0086\u0087\u0088\u0089\u008a\u008b\u008c\u008d\u008e\u008f",
   "\u0090\u0091\u0092\u0093\u0094\u0095\u0096\u0097\u0098\u0099\u009a\u009b\u009c\u009d\u009e\u009f",
   "\u00a0ЁЂЃЄЅІЇЈЉЊЋЌ\u00adЎЏ",
   "АБВГДЕЖЗИЙКЛМНОП",
   "РСТУФХЦЧШЩЪЫЬЭЮЯ",
   "абвгдежзийклмноп",
   "рстуфхцчшщъыьэюя",
   "№ёђѓєѕіїјљњћќ§ўџ"]

/-- Code page iso8859_6. -/
def iso8859_6 : CodePage := ofUpperRows
  ["\u0080\u0081\u0082\u0083\u0084\u0085\u0086\u0087\u0088\u0089\u008a\u008b\u008c\u008d\u008e\u008f",
   "\u0090\u0091\u0092\u0093\u0094\u0095\u0096\u0097\u0098\u0099\u009a\u009b\u009c\u009d\u009e\u009f",
   "\u00a0￾￾￾¤￾￾￾￾￾￾￾،\u00ad￾￾",
   "￾￾￾￾￾￾￾￾￾￾￾؛￾￾￾؟",
   "￾ءآأؤإئابةتثجحخد",
   "ذرزسشصضطظعغ￾￾￾￾￾",
   "ـفقكلمنهوىي\u064b\u064c\u064d\u064e\u064f",
   "\u0650\u0651\u0652￾￾￾￾￾￾￾￾￾￾￾￾￾"]

/-- Code page iso8859_7. -/
def iso8859_7 : CodePage := ofUpperRows
  ["\u0080\u0081\u0082\u0083\u0084\u0085\u0086\u0087\u0088\u0089\u008a\u008b\u008c\u008d\u008e\u008f",
   "\u0090\u0091\u0092\u0093\u0094\u0095\u0096\u0097\u0098\u0099\u009a\u009b\u009c\u009d\u009e\u009f",
   "\u00a0‘’£€₯¦§¨©ͺ«¬\u00ad￾―",
   "°±²³΄΅Ά·ΈΉΊ»Ό½ΎΏ",
   "ΐΑΒΓΔΕΖΗΘΙΚΛΜΝΞΟ",
   "ΠΡ￾ΣΤΥΦΧΨΩΪΫάέήί",
   "ΰαβγδεζηθικλμνξο",
   "πρςστυφχψωϊϋόύώ￾"]

/-- Code page iso8859_8. -/
def iso8859_8 : CodePage := ofUpperRows
  ["\u0080\u0081\u0082\u0083\u0084\u0085\u0086\u0087\u0088\u0089\u008a\u008b\u008c\u008d\u008e\u008f",
   "\u0090\u0091\u0092\u0093\u0094\u0095\u0096\u0097\u0098\u0099\u009a\u009b\u009c\u009d\u009e\u009f",
   "\u00a0￾¢£¤¥¦§¨©×«¬\u00ad®¯",
   "°±²³´µ¶·¸¹÷»¼½¾￾",
   "￾￾￾￾￾￾￾￾￾￾￾￾￾￾￾￾",
   "￾￾￾￾￾￾￾￾￾￾￾￾￾￾￾‗",
   "אבגדהוזחטיךכלםמן",
   "נסעףפץצקרשת￾￾\u200e\u200f￾"]

/-- Code page iso8859_9. -/
def iso8859_9 : CodePage := ofUpperRows
  ["\u0080\u0081\u0082\u0083\u0084\u0085\u0086\u0087\u0088\u0089\u008a\u008b\u008c\u008d\u008e\u008f",
   "\u0090\u0091\u0092\u0093\u0094\u0095\u0096\u0097\u0098\u0099\u009a\u009b\u009c\u009d\u009e\u009f",
   "\u00a0¡¢£¤¥¦§¨©ª«¬\u00ad®¯",
   "°±²³´µ¶·¸¹º»¼½¾¿",
   "ÀÁÂÃÄÅÆÇÈÉÊËÌÍÎÏ",
   "ĞÑÒÓÔÕÖ×ØÙÚÛÜİŞß",
   "àáâãäåæçèéêëìíîï",
   "ğñòóôõö÷øùúûüışÿ"]

/-- Code page koi8_r. -/
def koi8_r : CodePage := ofUpperRows
  ["─│┌┐└┘├┤┬┴┼▀▄█▌▐",
   "░▒▓⌠■∙√≈≤≥\u00a0⌡°²·÷",
   "═║╒ё╓╔╕╖╗╘╙╚╛╜╝╞",
   "╟╠╡Ё╢╣╤╥╦╧╨╩╪╫╬©",
   "юабцдефгхийклмно",
   "пярстужвьызшэщчъ",
   "ЮАБЦДЕФГХИЙКЛМНО",
   "ПЯРСТУЖВЬЫЗШЭЩЧЪ"]

/-- Code page koi8_t. -/
def koi8_t : CodePage := ofUpperRows
  ["қғ‚Ғ„…†‡￾‰ҳ‹ҲҷҶ￾",
   "Қ‘’“”•–—￾™￾›￾￾￾￾",
   "￾ӯӮё¤ӣ¦§￾￾￾«¬\u00ad®￾",
   "°±²Ё￾Ӣ¶·￾№￾»￾￾￾©",
   "юабцдефгхийклмно",
   "пярстужвьызшэщчъ",
   "ЮАБЦДЕФГХИЙКЛМНО",
   "ПЯРСТУЖВЬЫЗШЭЩЧЪ"]

/-- Code page koi8_u. -/
def koi8_u : CodePage := ofUpperRows
  ["─│┌┐└┘├┤┬┴┼▀▄█▌▐",
   "░▒▓⌠■∙√≈≤≥\u00a0⌡°²·÷",
   "═║╒ёє╔ії╗╘╙╚╛ґ╝╞",
   "╟╠╡ЁЄ╣ІЇ╦╧╨╩╪Ґ╬©",
   "юабцдефгхийклмно",
   "пярстужвьызшэщчъ",
   "ЮАБЦДЕФГХИЙКЛМНО",
   "ПЯРСТУЖВЬЫЗШЭЩЧЪ"]

/-- Code page kz1048. -/
def kz1048 : CodePage := ofUpperRows
  ["ЂЃ‚ѓ„…†‡€‰Љ‹ЊҚҺЏ",
   "ђ‘’“”•–—￾™љ›њқһџ",
   "\u00a0ҰұӘ¤Ө¦§Ё©Ғ«¬\u00ad®Ү",
   "°±Ііөµ¶·ё№ғ»әҢңү",
   "АБВГДЕЖЗИЙКЛМНОП",
   "РСТУФХЦЧШЩЪЫЬЭЮЯ",
   "абвгдежзийклмноп",
   "рстуфхцчшщъыьэюя"]

/-- Code page mac_arabic. -/
def mac_arabic : CodePage := ofUpperRows
  ["Ä\u00a0ÇÉÑÖÜáàâäں«çéè",
   "êëí…îïñó»ôö÷úùûü",
   "\x20\x21\x22\x23\x24٪\x26\x27\x28\x29\x2a\x2b،\x2d\x2e\x2f",
   "٠١٢٣٤٥٦٧٨٩\x3a؛\x3c\x3d\x3e؟",
   "❊ءآأؤإئابةتثجحخد",
   "ذرزسشصضطظعغ\x5b\x5c\x5d\x5e\x5f",
   "ـفقكلمنهوىي\u064b\u064c\u064d\u064e\u064f",
   "\u0650\u0651\u0652پٹچەڤگڈڑ\x7b\x7c\x7dژے"]

/-- Code page mac_croatian. -/
def mac_croatian : CodePage := ofUpperRows
  ["ÄÅÇÉÑÖÜáàâäãåçéè",
   "êëíìîïñóòôöõúùûü",
   "†°¢£§•¶ß®Š™´¨≠ŽØ",
   "∞±≤≥∆µ∂∑∏š∫ªºΩžø",
   "¿¡¬√ƒ≈Ć«Č…\u00a0ÀÃÕŒœ",
   "Đ—“”‘’÷◊©⁄€‹›Æ»",
   "–·‚„‰ÂćÁčÈÍÎÏÌÓÔ",
   "đÒÚÛÙıˆ˜¯πË˚¸Êæˇ"]

/-- Code page mac_cyrillic. -/
def mac_cyrillic : CodePage := ofUpperRows
  ["АБВГДЕЖЗИЙКЛМНОП",
   "РСТУФХЦЧШЩЪЫЬЭЮЯ",
   "†°Ґ£§•¶І®©™Ђђ≠Ѓѓ",
   "∞±≤≥іµґЈЄєЇїЉљЊњ",
   "јЅ¬√ƒ≈∆«»…\u00a0ЋћЌќѕ",
   "–—“”‘’÷„ЎўЏџ№Ёёя",
   "абвгдежзийклмноп",
   "рстуфхцчшщъыьэю€"]

/-- Code page mac_farsi. -/
def mac_farsi : CodePage := ofUpperRows
  ["Ä\u00a0ÇÉÑÖÜáàâäں«çéè",
   "êëí…îïñó»ôö÷úùûü",
   "\x20\x21\x22\x23\x24٪\x26\x27\x28\x29\x2a\x2b،\x2d\x2e\x2f",
   "۰۱۲۳۴۵۶۷۸۹\x3a؛\x3c\x3d\x3e؟",
   "❊ءآأؤإئابةتثجحخد",
   "ذرزسشصضطظعغ\x5b\x5c\x5d\x5e\x5f",
   "ـفقكلمنهوىي\u064b\u064c\u064d\u064e\u064f",
   "\u0650\u0651\u0652پٹچەڤگڈڑ\x7b\x7c\x7dژے"]

/-- Code page mac_greek. -/
def mac_greek : CodePage := ofUpperRows
  ["Ä¹²É³ÖÜ΅àâä΄¨çéè",
   "êë£™îï•½‰ôö¦€ùûü",
   "†ΓΔΘΛΞΠß®©ΣΪ§≠°·",
   "Α±≤≥¥ΒΕΖΗΙΚΜΦΫΨΩ",
   "άΝ¬ΟΡ≈Τ«»…\u00a0ΥΧΆΈœ",
   "–―“”‘’÷ΉΊΌΎέήίόΏ",
   "ύαβψδεφγηιξκλμνο",
   "πώρστθωςχυζϊϋΐΰ\u00ad"]

/-- Code page mac_iceland. -/
def mac_iceland : CodePage := ofUpperRows
  ["ÄÅÇÉÑÖÜáàâäãåçéè",
   "êëíìîïñóòôöõúùûü",
   "Ý°¢£§•¶ß®©™´¨≠ÆØ",
   "∞±≤≥¥µ∂∑∏π∫ªºΩæø",
   "¿¡¬√ƒ≈∆«»…\u00a0ÀÃÕŒœ",
   "–—“”‘’÷◊ÿŸ⁄€ÐðÞþ",
   "ý·‚„‰ÂÊÁËÈÍÎÏÌÓÔ",
   "ÒÚÛÙıˆ˜¯˘˙˚¸˝˛ˇ"]

/-- Code page mac_latin2. -/
def mac_latin2 : CodePage := ofUpperRows
  ["ÄĀāÉĄÖÜáąČäčĆćéŹ",
   "źĎíďĒēĖóėôöõúĚěü",
   "†°Ę£§•¶ß®©™ę¨≠ģĮ",
   "įĪ≤≥īĶ∂∑łĻļĽľĹĺŅ",
   "ņŃ¬√ńŇ∆«»…\u00a0ňŐÕőŌ",
   "–—“”‘’÷◊ōŔŕŘ‹›řŖ",
   "ŗŠ‚„šŚśÁŤťÍŽžŪÓÔ",
   "ūŮÚůŰűŲųÝýķŻŁżĢˇ"]

/-- Code page mac_roman. -/
def mac_roman : CodePage := ofUpperRows
  ["ÄÅÇÉÑÖÜáàâäãåçéè",
   "êëíìîïñóòôöõúùûü",
   "†°¢£§•¶ß®©™´¨≠ÆØ",
   "∞±≤≥¥µ∂∑∏π∫ªºΩæø",
   "¿¡¬√ƒ≈∆«»…\u00a0ÀÃÕŒœ",
   "–—“”‘’÷◊ÿŸ⁄€‹›ﬁﬂ",
   "‡·‚„‰ÂÊÁËÈÍÎÏÌÓÔ",
   "ÒÚÛÙıˆ˜¯˘˙˚¸˝˛ˇ"]

/-- Code page mac_romanian. -/
def mac_romanian : CodePage := ofUpperRows
  ["ÄÅÇÉÑÖÜáàâäãåçéè",
   "êëíìîïñóòôöõúùûü",
   "†°¢£§•¶ß®©™´¨≠ĂȘ",
   "∞±≤≥¥µ∂∑∏π∫ªºΩăș",
   "¿¡¬√ƒ≈∆«»…\u00a0ÀÃÕŒœ",
   "–—“”‘’÷◊ÿŸ⁄€‹›Țț",
   "‡·‚„‰ÂÊÁËÈÍÎÏÌÓÔ",
   "ÒÚÛÙıˆ˜¯˘˙˚¸˝˛ˇ"]

/-- Code page mac_turkish. -/
def mac_turkish : CodePage := ofUpperRows
  ["ÄÅÇÉÑÖÜáàâäãåçéè",
   "êëíìîïñóòôöõúùûü",
   "†°¢£§•¶ß®©™´¨≠ÆØ",
   "∞±≤≥¥µ∂∑∏π∫ªºΩæø",
   "¿¡¬√ƒ≈∆«»…\u00a0ÀÃÕŒœ",
   "–—“”‘’÷◊ÿŸĞğİıŞş",
   "‡·‚„‰ÂÊÁËÈÍÎÏÌÓÔ",
   "ÒÚÛÙˆ˜¯˘˙˚¸˝˛ˇ"]

/-- Code page palmos. -/
def palmos : CodePage := ofUpperRows
  ["€\u0081‚ƒ„…†‡ˆ‰Š‹Œ♦♣♥",
   "♠‘’“”•–—˜™š\u009bœ\u009d\u009eŸ",
   "\u00a0¡¢£¤¥¦§¨©ª«¬\u00ad®¯",
   "°±²³´µ¶·¸¹º»¼½¾¿",
   "ÀÁÂÃÄÅÆÇÈÉÊËÌÍÎÏ",
   "ÐÑÒÓÔÕÖ×ØÙÚÛÜÝÞß",
   "àáâãäåæçèéêëìíîï",
   "ðñòóôõö÷øùúûüýþÿ"]

/-- Code page ptcp154. -/
def ptcp154 : CodePage := ofUpperRows
  ["ҖҒӮғ„…ҶҮҲүҠӢҢҚҺҸ",
   "җ‘’“”•–—ҳҷҡӣңқһҹ",
   "\u00a0ЎўЈӨҘҰ§Ё©Ә«¬ӯ®Ҝ",
   "°ұІіҙө¶·ё№ә»јҪҫҝ",
   "АБВГДЕЖЗИЙКЛМНОП",
   "РСТУФХЦЧШЩЪЫЬЭЮЯ",
   "абвгдежзийклмноп",
   "рстуфхцчшщъыьэюя"]

/-- Code page tis_620. -/
def tis_620 : CodePage := ofUpperRows
  ["\u0080\u0081\u0082\u0083\u0084\u0085\u0086\u0087\u0088\u0089\u008a\u008b\u008c\u008d\u008e\u008f",
   "\u0090\u0091\u0092\u0093\u0094\u0095\u0096\u0097\u0098\u0099\u009a\u009b\u009c\u009d\u009e\u009f",
   "￾กขฃคฅฆงจฉชซฌญฎฏ",
   "ฐฑฒณดตถทธนบปผฝพฟ",
   "ภมยรฤลฦวศษสหฬอฮฯ",
   "ะ\u0e31าำ\u0e34\u0e35\u0e36\u0e37\u0e38\u0e39\u0e3a￾￾￾￾฿",
   "เแโใไๅๆ\u0e47\u0e48\u0e49\u0e4a\u0e4b\u0e4c\u0e4d\u0e4e๏",
   "๐๑๒๓๔๕๖๗๘๙๚๛￾￾￾￾"]

/-- The code pages, by the name of their codec module. -/
def byModule : List (String × CodePage) :=
  [("cp037", cp037),
   ("cp1006", cp1006),
   ("cp1026", cp1026),
   ("cp1125", cp1125),
   ("cp1140", cp1140),
   ("cp1250", cp1250),
   ("cp1251", cp1251),
   ("cp1252", cp1252),
   ("cp1253", cp1253),
   ("cp1254", cp1254),
   ("cp1255", cp1255),
   ("cp1256", cp1256),
   ("cp1257", cp1257),
   ("cp1258", cp1258),
   ("cp273", cp273),
   ("cp424", cp424),
   ("cp437", cp437),
   ("cp500", cp500),
   ("cp720", cp720),
   ("cp737", cp737),
   ("cp775", cp775),
   ("cp850", cp850),
   ("cp852", cp852),
   ("cp855", cp855),
   ("cp856", cp856),
   ("cp857", cp857),
   ("cp858", cp858),
   ("cp860", cp860),
   ("cp861", cp861),
   ("cp862", cp862),
   ("cp863", cp863),
   ("cp864", cp864),
   ("cp865", cp865),
   ("cp866", cp866),
   ("cp869", cp869),
   ("cp874", cp874),
   ("cp875", cp875),
   ("hp_roman8", hp_roman8),
   ("iso8859_1", iso8859_1),
   ("iso8859_10", iso8859_10),
   ("iso8859_11", iso8859_11),
   ("iso8859_13", iso8859_13),
   ("iso8859_14", iso8859_14),
   ("iso8859_15", iso8859_15),
   ("iso8859_16", iso8859_16),
   ("iso8859_2", iso8859_2),
   ("iso8859_3", iso8859_3),
   ("iso8859_4", iso8859_4),
   ("iso8859_5", iso8859_5),
   ("iso8859_6", iso8859_6),
   ("iso8859_7", iso8859_7),
   ("iso8859_8", iso8859_8),
   ("iso8859_9", iso8859_9),
   ("koi8_r", koi8_r),
   ("koi8_t", koi8_t),
   ("koi8_u", koi8_u),
   ("kz1048", kz1048),
   ("mac_arabic", mac_arabic),
   ("mac_croatian", mac_croatian),
   ("mac_cyrillic", mac_cyrillic),
   ("mac_farsi", mac_farsi),
   ("mac_greek", mac_greek),
   ("mac_iceland", mac_iceland),
   ("mac_latin2", mac_latin2),
   ("mac_roman", mac_roman),
   ("mac_romanian", mac_romanian),
   ("mac_turkish", mac_turkish),
   ("palmos", palmos),
   ("ptcp154", ptcp154),
   ("tis_620", tis_620)]

end CodePage

end Stencil.Files
