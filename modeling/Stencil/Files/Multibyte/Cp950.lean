import Stencil.Files.Multibyte.Big5

/-!
# The `cp950` code

The tables of the multibyte code `cp950`, as `MultibyteCode` reads them: those of `big5`,
but for four rows of second bytes, where `cp950` reads more sequences and some otherwise.
-/

namespace Stencil.Files

namespace MultibyteCode

/-- The rows of second bytes in which `cp950` differs from `big5`. -/
def cp950OwnRows : List (Nat × Nat × String) :=
  [(0xA1, 0x40, String.join
      ["\u3000，、。．‧；：？！︰…‥﹐﹑﹒·﹔﹕﹖﹗｜–︱—︳╴︴﹏（）︵︶｛｝︷︸〔〕︹︺【】︻︼《》︽︾〈〉︿﹀「」﹁﹂『』﹃﹄﹙﹚﷐﷐﷐﷐﷐﷐﷐﷐﷐﷐﷐﷐﷐﷐﷐﷐﷐﷐﷐﷐﷐﷐",
       "﷐﷐﷐﷐﷐﷐﷐﷐﷐﷐﷐﷐﹛﹜﹝﹞‘’“”〝〞‵′＃＆＊※§〃○●△▲◎☆★◇◆□■▽▼㊣℅¯￣＿ˍ﹉﹊﹍﹎﹋﹌﹟﹠﹡＋－×÷±√＜＞＝≦≧≠∞≒≡﹢﹣﹤﹥﹦～∩∪⊥∠∟⊿㏒㏑∫∮∵",
       "∴♀♂⊕⊙↑↓←→↖↗↙↘∥∣／"]),
   (0xA2, 0x40, String.join
      ["＼∕﹨＄￥〒￠￡％＠℃℉﹩﹪﹫㏕㎜㎝㎞㏎㎡㎎㎏㏄°兙兛兞兝兡兣嗧瓩糎▁▂▃▄▅▆▇█▏▎▍▌▋▊▉┼┴┬┤├▔─│▕┌┐└┘╭﷐﷐﷐﷐﷐﷐﷐﷐﷐﷐﷐﷐﷐﷐﷐﷐﷐﷐﷐﷐﷐﷐﷐﷐﷐﷐﷐",
       "﷐﷐﷐﷐﷐﷐﷐╮╰╯═╞╪╡◢◣◥◤╱╲╳０１２３４５６７８９ⅠⅡⅢⅣⅤⅥⅦⅧⅨⅩ〡〢〣〤〥〦〧〨〩十卄卅ＡＢＣＤＥＦＧＨＩＪＫＬＭＮＯＰＱＲＳＴＵＶＷＸＹＺａｂｃｄｅｆｇｈｉｊｋ",
       "ｌｍｎｏｐｑｒｓｔｕｖ"]),
   (0xA3, 0x40, String.join
      ["ｗｘｙｚΑΒΓΔΕΖΗΘΙΚΛΜΝΞΟΠΡΣΤΥΦΧΨΩαβγδεζηθικλμνξοπρστυφχψωㄅㄆㄇㄈㄉㄊㄋㄌㄍㄎㄏ﷐﷐﷐﷐﷐﷐﷐﷐﷐﷐﷐﷐﷐﷐﷐﷐﷐﷐﷐﷐﷐﷐﷐﷐﷐﷐﷐",
       "﷐﷐﷐﷐﷐﷐﷐ㄐㄑㄒㄓㄔㄕㄖㄗㄘㄙㄚㄛㄜㄝㄞㄟㄠㄡㄢㄣㄤㄥㄦㄧㄨㄩ˙ˉˊˇˋ﷐﷐﷐﷐﷐﷐﷐﷐﷐﷐﷐﷐﷐﷐﷐﷐﷐﷐﷐﷐﷐﷐﷐﷐﷐﷐﷐﷐﷐﷐﷐﷐﷐€"]),
   (0xF9, 0x40, String.join
      ["纘纛纙臠臡虆虇虈襹襺襼襻觿讘讙躥躤躣鑮鑭鑯鑱鑳靉顲饟鱨鱮鱭鸋鸍鸐鸏鸒鸑麡黵鼉齇齸齻齺齹圞灦籯蠼趲躦釃鑴鑸鑶鑵驠鱴鱳鱱鱵鸔鸓黶鼊﷐﷐﷐﷐﷐﷐﷐﷐﷐﷐﷐﷐﷐﷐﷐﷐﷐﷐﷐﷐﷐﷐﷐﷐﷐﷐﷐",
       "﷐﷐﷐﷐﷐﷐﷐龤灨灥糷虪蠾蠽蠿讞貜躩軉靋顳顴飌饡馫驤驦驧鬤鸕鸗齈戇欞爧虌躨钂钀钁驩驨鬮鸙爩虋讟钃鱹麷癵驫鱺鸝灩灪麤齾齉龘碁銹裏墻恒粧嫺╔╦╗╠╬╣╚╩╝╒╤╕╞╪╡╘╧╛╓╥╖╟╫",
       "╢╙╨╜║═╭╮╰╯▓"])]

/-- The rows of second bytes of `cp950`: those of `big5`, with its own in their place. -/
def cp950Rows : List (Nat × Nat × String) :=
  big5Rows.map fun row => (cp950OwnRows.find? (·.1 = row.1)).getD row

/-- The characters `cp950` writes otherwise than its tables say. -/
def cp950Written : List (Nat × List Nat) :=
  [(0x00A2, [0xA2, 0x46]),
   (0x00A3, [0xA2, 0x47]),
   (0x00A5, [0xA2, 0x44]),
   (0x2022, [0xA1, 0x45]),
   (0x203E, [0xA1, 0xC2]),
   (0x223C, [0xA1, 0xE3]),
   (0x2609, [0xA1, 0xF3]),
   (0x2641, [0xA1, 0xF2]),
   (0x5341, [0xA4, 0x51]),
   (0x5345, [0xA4, 0xCA]),
   (0xFF64, [0xA1, 0x4E])]

/-- The multibyte code `cp950`. -/
def cp950 : MultibyteCode where
  name := "cp950"
  first := big5.first
  rows := cp950Rows
  written := cp950Written

end MultibyteCode

end Stencil.Files
