import Stencil.Files.Multibyte

/-!
# The `big5` code

The tables of the multibyte code `big5`, as `MultibyteCode` reads them.
-/

namespace Stencil.Files

namespace MultibyteCode

/-- The rows of second bytes of `big5`, part 1. -/
def big5Rows1 : List (Nat × Nat × String) :=
  [(0xA1, 0x40, String.join
      ["\u3000，、。．•；：？！︰…‥﹐､﹒·﹔﹕﹖﹗｜–︱—︳╴︴﹏（）︵︶｛｝︷︸〔〕︹︺【】︻︼《》︽︾〈〉︿﹀「」﹁﹂『』﹃﹄﹙﹚﷐﷐﷐﷐﷐﷐﷐﷐﷐﷐﷐﷐﷐﷐﷐﷐﷐﷐﷐﷐﷐﷐",
       "﷐﷐﷐﷐﷐﷐﷐﷐﷐﷐﷐﷐﹛﹜﹝﹞‘’“”〝〞‵′＃＆＊※§〃○●△▲◎☆★◇◆□■▽▼㊣℅‾￣＿ˍ﹉﹊﹍﹎﹋﹌﹟﹠﹡＋－×÷±√＜＞＝≦≧≠∞≒≡﹢﹣﹤﹥﹦∼∩∪⊥∠∟⊿㏒㏑∫∮∵",
       "∴♀♂♁☉↑↓←→↖↗↙↘∥∣／"]),
   (0xA2, 0x40, String.join
      ["＼／＼＄¥〒¢£％＠℃℉﹩﹪﹫㏕㎜㎝㎞㏎㎡㎎㎏㏄°兙兛兞兝兡兣嗧瓩糎▁▂▃▄▅▆▇█▏▎▍▌▋▊▉┼┴┬┤├▔─│▕┌┐└┘╭﷐﷐﷐﷐﷐﷐﷐﷐﷐﷐﷐﷐﷐﷐﷐﷐﷐﷐﷐﷐﷐﷐﷐﷐﷐﷐﷐",
       "﷐﷐﷐﷐﷐﷐﷐╮╰╯═╞╪╡◢◣◥◤╱╲╳０１２３４５６７８９ⅠⅡⅢⅣⅤⅥⅦⅧⅨⅩ〡〢〣〤〥〦〧〨〩十卄卅ＡＢＣＤＥＦＧＨＩＪＫＬＭＮＯＰＱＲＳＴＵＶＷＸＹＺａｂｃｄｅｆｇｈｉｊｋ",
       "ｌｍｎｏｐｑｒｓｔｕｖ"]),
   (0xA3, 0x40, String.join
      ["ｗｘｙｚΑΒΓΔΕΖΗΘΙΚΛΜΝΞΟΠΡΣΤΥΦΧΨΩαβγδεζηθικλμνξοπρστυφχψωㄅㄆㄇㄈㄉㄊㄋㄌㄍㄎㄏ﷐﷐﷐﷐﷐﷐﷐﷐﷐﷐﷐﷐﷐﷐﷐﷐﷐﷐﷐﷐﷐﷐﷐﷐﷐﷐﷐",
       "﷐﷐﷐﷐﷐﷐﷐ㄐㄑㄒㄓㄔㄕㄖㄗㄘㄙㄚㄛㄜㄝㄞㄟㄠㄡㄢㄣㄤㄥㄦㄧㄨㄩ˙ˉˊˇˋ"]),
   (0xA4, 0x40, String.join
      ["一乙丁七乃九了二人儿入八几刀刁力匕十卜又三下丈上丫丸凡久么也乞于亡兀刃勺千叉口土士夕大女子孑孓寸小尢尸山川工己已巳巾干廾弋弓才﷐﷐﷐﷐﷐﷐﷐﷐﷐﷐﷐﷐﷐﷐﷐﷐﷐﷐﷐﷐﷐﷐﷐﷐﷐﷐﷐",
       "﷐﷐﷐﷐﷐﷐﷐丑丐不中丰丹之尹予云井互五亢仁什仃仆仇仍今介仄元允內六兮公冗凶分切刈勻勾勿化匹午升卅卞厄友及反壬天夫太夭孔少尤尺屯巴幻廿弔引心戈戶手扎支文斗斤方日曰月木欠止歹毋比毛氏",
       "水火爪父爻片牙牛犬王丙"]),
   (0xA5, 0x40, String.join
      ["世丕且丘主乍乏乎以付仔仕他仗代令仙仞充兄冉冊冬凹出凸刊加功包匆北匝仟半卉卡占卯卮去可古右召叮叩叨叼司叵叫另只史叱台句叭叻四囚外﷐﷐﷐﷐﷐﷐﷐﷐﷐﷐﷐﷐﷐﷐﷐﷐﷐﷐﷐﷐﷐﷐﷐﷐﷐﷐﷐",
       "﷐﷐﷐﷐﷐﷐﷐央失奴奶孕它尼巨巧左市布平幼弁弘弗必戊打扔扒扑斥旦朮本未末札正母民氐永汁汀氾犯玄玉瓜瓦甘生用甩田由甲申疋白皮皿目矛矢石示禾穴立丞丟乒乓乩亙交亦亥仿伉伙伊伕伍伐休伏仲件",
       "任仰仳份企伋光兇兆先全"]),
   (0xA6, 0x40, String.join
      ["共再冰列刑划刎刖劣匈匡匠印危吉吏同吊吐吁吋各向名合吃后吆吒因回囝圳地在圭圬圯圩夙多夷夸妄奸妃好她如妁字存宇守宅安寺尖屹州帆并年﷐﷐﷐﷐﷐﷐﷐﷐﷐﷐﷐﷐﷐﷐﷐﷐﷐﷐﷐﷐﷐﷐﷐﷐﷐﷐﷐",
       "﷐﷐﷐﷐﷐﷐﷐式弛忙忖戎戌戍成扣扛托收早旨旬旭曲曳有朽朴朱朵次此死氖汝汗汙江池汐汕污汛汍汎灰牟牝百竹米糸缶羊羽老考而耒耳聿肉肋肌臣自至臼舌舛舟艮色艾虫血行衣西阡串亨位住佇佗佞伴佛何",
       "估佐佑伽伺伸佃佔似但佣"]),
   (0xA7, 0x40, String.join
      ["作你伯低伶余佝佈佚兌克免兵冶冷別判利刪刨劫助努劬匣即卵吝吭吞吾否呎吧呆呃吳呈呂君吩告吹吻吸吮吵吶吠吼呀吱含吟听囪困囤囫坊坑址坍﷐﷐﷐﷐﷐﷐﷐﷐﷐﷐﷐﷐﷐﷐﷐﷐﷐﷐﷐﷐﷐﷐﷐﷐﷐﷐﷐",
       "﷐﷐﷐﷐﷐﷐﷐均坎圾坐坏圻壯夾妝妒妨妞妣妙妖妍妤妓妊妥孝孜孚孛完宋宏尬局屁尿尾岐岑岔岌巫希序庇床廷弄弟彤形彷役忘忌志忍忱快忸忪戒我抄抗抖技扶抉扭把扼找批扳抒扯折扮投抓抑抆改攻攸旱更",
       "束李杏材村杜杖杞杉杆杠"]),
   (0xA8, 0x40, String.join
      ["杓杗步每求汞沙沁沈沉沅沛汪決沐汰沌汨沖沒汽沃汲汾汴沆汶沍沔沘沂灶灼災灸牢牡牠狄狂玖甬甫男甸皂盯矣私秀禿究系罕肖肓肝肘肛肚育良芒﷐﷐﷐﷐﷐﷐﷐﷐﷐﷐﷐﷐﷐﷐﷐﷐﷐﷐﷐﷐﷐﷐﷐﷐﷐﷐﷐",
       "﷐﷐﷐﷐﷐﷐﷐芋芍見角言谷豆豕貝赤走足身車辛辰迂迆迅迄巡邑邢邪邦那酉釆里防阮阱阪阬並乖乳事些亞享京佯依侍佳使佬供例來侃佰併侈佩佻侖佾侏侑佺兔兒兕兩具其典冽函刻券刷刺到刮制剁劾劻卒協",
       "卓卑卦卷卸卹取叔受味呵"]),
   (0xA9, 0x40, String.join
      ["咖呸咕咀呻呷咄咒咆呼咐呱呶和咚呢周咋命咎固垃坷坪坩坡坦坤坼夜奉奇奈奄奔妾妻委妹妮姑姆姐姍始姓姊妯妳姒姅孟孤季宗定官宜宙宛尚屈居﷐﷐﷐﷐﷐﷐﷐﷐﷐﷐﷐﷐﷐﷐﷐﷐﷐﷐﷐﷐﷐﷐﷐﷐﷐﷐﷐",
       "﷐﷐﷐﷐﷐﷐﷐屆岷岡岸岩岫岱岳帘帚帖帕帛帑幸庚店府底庖延弦弧弩往征彿彼忝忠忽念忿怏怔怯怵怖怪怕怡性怩怫怛或戕房戾所承拉拌拄抿拂抹拒招披拓拔拋拈抨抽押拐拙拇拍抵拚抱拘拖拗拆抬拎放斧於",
       "旺昔易昌昆昂明昀昏昕昊"]),
   (0xAA, 0x40, String.join
      ["昇服朋杭枋枕東果杳杷枇枝林杯杰板枉松析杵枚枓杼杪杲欣武歧歿氓氛泣注泳沱泌泥河沽沾沼波沫法泓沸泄油況沮泗泅泱沿治泡泛泊沬泯泜泖泠﷐﷐﷐﷐﷐﷐﷐﷐﷐﷐﷐﷐﷐﷐﷐﷐﷐﷐﷐﷐﷐﷐﷐﷐﷐﷐﷐",
       "﷐﷐﷐﷐﷐﷐﷐炕炎炒炊炙爬爭爸版牧物狀狎狙狗狐玩玨玟玫玥甽疝疙疚的盂盲直知矽社祀祁秉秈空穹竺糾罔羌羋者肺肥肢肱股肫肩肴肪肯臥臾舍芳芝芙芭芽芟芹花芬芥芯芸芣芰芾芷虎虱初表軋迎返近邵邸",
       "邱邶采金長門阜陀阿阻附"]),
   (0xAB, 0x40, String.join
      ["陂隹雨青非亟亭亮信侵侯便俠俑俏保促侶俘俟俊俗侮俐俄係俚俎俞侷兗冒冑冠剎剃削前剌剋則勇勉勃勁匍南卻厚叛咬哀咨哎哉咸咦咳哇哂咽咪品﷐﷐﷐﷐﷐﷐﷐﷐﷐﷐﷐﷐﷐﷐﷐﷐﷐﷐﷐﷐﷐﷐﷐﷐﷐﷐﷐",
       "﷐﷐﷐﷐﷐﷐﷐哄哈咯咫咱咻咩咧咿囿垂型垠垣垢城垮垓奕契奏奎奐姜姘姿姣姨娃姥姪姚姦威姻孩宣宦室客宥封屎屏屍屋峙峒巷帝帥帟幽庠度建弈弭彥很待徊律徇後徉怒思怠急怎怨恍恰恨恢恆恃恬恫恪恤扁",
       "拜挖按拼拭持拮拽指拱拷"]),
   (0xAC, 0x40, String.join
      ["拯括拾拴挑挂政故斫施既春昭映昧是星昨昱昤曷柿染柱柔某柬架枯柵柩柯柄柑枴柚查枸柏柞柳枰柙柢柝柒歪殃殆段毒毗氟泉洋洲洪流津洌洱洞洗﷐﷐﷐﷐﷐﷐﷐﷐﷐﷐﷐﷐﷐﷐﷐﷐﷐﷐﷐﷐﷐﷐﷐﷐﷐﷐﷐",
       "﷐﷐﷐﷐﷐﷐﷐活洽派洶洛泵洹洧洸洩洮洵洎洫炫為炳炬炯炭炸炮炤爰牲牯牴狩狠狡玷珊玻玲珍珀玳甚甭畏界畎畋疫疤疥疢疣癸皆皇皈盈盆盃盅省盹相眉看盾盼眇矜砂研砌砍祆祉祈祇禹禺科秒秋穿突竿竽籽",
       "紂紅紀紉紇約紆缸美羿耄"]),
   (0xAD, 0x40, String.join
      ["耐耍耑耶胖胥胚胃胄背胡胛胎胞胤胝致舢苧范茅苣苛苦茄若茂茉苒苗英茁苜苔苑苞苓苟苯茆虐虹虻虺衍衫要觔計訂訃貞負赴赳趴軍軌述迦迢迪迥﷐﷐﷐﷐﷐﷐﷐﷐﷐﷐﷐﷐﷐﷐﷐﷐﷐﷐﷐﷐﷐﷐﷐﷐﷐﷐﷐",
       "﷐﷐﷐﷐﷐﷐﷐迭迫迤迨郊郎郁郃酋酊重閂限陋陌降面革韋韭音頁風飛食首香乘亳倌倍倣俯倦倥俸倩倖倆值借倚倒們俺倀倔倨俱倡個候倘俳修倭倪俾倫倉兼冤冥冢凍凌准凋剖剜剔剛剝匪卿原厝叟哨唐唁唷哼",
       "哥哲唆哺唔哩哭員唉哮哪"]),
   (0xAE, 0x40, String.join
      ["哦唧唇哽唏圃圄埂埔埋埃堉夏套奘奚娑娘娜娟娛娓姬娠娣娩娥娌娉孫屘宰害家宴宮宵容宸射屑展屐峭峽峻峪峨峰島崁峴差席師庫庭座弱徒徑徐恙﷐﷐﷐﷐﷐﷐﷐﷐﷐﷐﷐﷐﷐﷐﷐﷐﷐﷐﷐﷐﷐﷐﷐﷐﷐﷐﷐",
       "﷐﷐﷐﷐﷐﷐﷐恣恥恐恕恭恩息悄悟悚悍悔悌悅悖扇拳挈拿捎挾振捕捂捆捏捉挺捐挽挪挫挨捍捌效敉料旁旅時晉晏晃晒晌晅晁書朔朕朗校核案框桓根桂桔栩梳栗桌桑栽柴桐桀格桃株桅栓栘桁殊殉殷氣氧氨氦",
       "氤泰浪涕消涇浦浸海浙涓"]),
   (0xAF, 0x40, String.join
      ["浬涉浮浚浴浩涌涊浹涅浥涔烊烘烤烙烈烏爹特狼狹狽狸狷玆班琉珮珠珪珞畔畝畜畚留疾病症疲疳疽疼疹痂疸皋皰益盍盎眩真眠眨矩砰砧砸砝破砷﷐﷐﷐﷐﷐﷐﷐﷐﷐﷐﷐﷐﷐﷐﷐﷐﷐﷐﷐﷐﷐﷐﷐﷐﷐﷐﷐",
       "﷐﷐﷐﷐﷐﷐﷐砥砭砠砟砲祕祐祠祟祖神祝祗祚秤秣秧租秦秩秘窄窈站笆笑粉紡紗紋紊素索純紐紕級紜納紙紛缺罟羔翅翁耆耘耕耙耗耽耿胱脂胰脅胭胴脆胸胳脈能脊胼胯臭臬舀舐航舫舨般芻茫荒荔荊茸荐草",
       "茵茴荏茲茹茶茗荀茱茨荃"]),
   (0xB0, 0x40, String.join
      ["虔蚊蚪蚓蚤蚩蚌蚣蚜衰衷袁袂衽衹記訐討訌訕訊託訓訖訏訑豈豺豹財貢起躬軒軔軏辱送逆迷退迺迴逃追逅迸邕郡郝郢酒配酌釘針釗釜釙閃院陣陡﷐﷐﷐﷐﷐﷐﷐﷐﷐﷐﷐﷐﷐﷐﷐﷐﷐﷐﷐﷐﷐﷐﷐﷐﷐﷐﷐",
       "﷐﷐﷐﷐﷐﷐﷐陛陝除陘陞隻飢馬骨高鬥鬲鬼乾偺偽停假偃偌做偉健偶偎偕偵側偷偏倏偯偭兜冕凰剪副勒務勘動匐匏匙匿區匾參曼商啪啦啄啞啡啃啊唱啖問啕唯啤唸售啜唬啣唳啁啗圈國圉域堅堊堆埠埤基堂",
       "堵執培夠奢娶婁婉婦婪婀"]),
   (0xB1, 0x40, String.join
      ["娼婢婚婆婊孰寇寅寄寂宿密尉專將屠屜屝崇崆崎崛崖崢崑崩崔崙崤崧崗巢常帶帳帷康庸庶庵庾張強彗彬彩彫得徙從徘御徠徜恿患悉悠您惋悴惦悽﷐﷐﷐﷐﷐﷐﷐﷐﷐﷐﷐﷐﷐﷐﷐﷐﷐﷐﷐﷐﷐﷐﷐﷐﷐﷐﷐",
       "﷐﷐﷐﷐﷐﷐﷐情悻悵惜悼惘惕惆惟悸惚惇戚戛扈掠控捲掖探接捷捧掘措捱掩掉掃掛捫推掄授掙採掬排掏掀捻捩捨捺敝敖救教敗啟敏敘敕敔斜斛斬族旋旌旎晝晚晤晨晦晞曹勗望梁梯梢梓梵桿桶梱梧梗械梃棄",
       "梭梆梅梔條梨梟梡梂欲殺"]),
   (0xB2, 0x40, String.join
      ["毫毬氫涎涼淳淙液淡淌淤添淺清淇淋涯淑涮淞淹涸混淵淅淒渚涵淚淫淘淪深淮淨淆淄涪淬涿淦烹焉焊烽烯爽牽犁猜猛猖猓猙率琅琊球理現琍瓠瓶﷐﷐﷐﷐﷐﷐﷐﷐﷐﷐﷐﷐﷐﷐﷐﷐﷐﷐﷐﷐﷐﷐﷐﷐﷐﷐﷐",
       "﷐﷐﷐﷐﷐﷐﷐瓷甜產略畦畢異疏痔痕疵痊痍皎盔盒盛眷眾眼眶眸眺硫硃硎祥票祭移窒窕笠笨笛第符笙笞笮粒粗粕絆絃統紮紹紼絀細紳組累終紲紱缽羞羚翌翎習耜聊聆脯脖脣脫脩脰脤舂舵舷舶船莎莞莘荸莢",
       "莖莽莫莒莊莓莉莠荷荻荼"]),
   (0xB3, 0x40, String.join
      ["莆莧處彪蛇蛀蚶蛄蚵蛆蛋蚱蚯蛉術袞袈被袒袖袍袋覓規訪訝訣訥許設訟訛訢豉豚販責貫貨貪貧赧赦趾趺軛軟這逍通逗連速逝逐逕逞造透逢逖逛途﷐﷐﷐﷐﷐﷐﷐﷐﷐﷐﷐﷐﷐﷐﷐﷐﷐﷐﷐﷐﷐﷐﷐﷐﷐﷐﷐",
       "﷐﷐﷐﷐﷐﷐﷐部郭都酗野釵釦釣釧釭釩閉陪陵陳陸陰陴陶陷陬雀雪雩章竟頂頃魚鳥鹵鹿麥麻傢傍傅備傑傀傖傘傚最凱割剴創剩勞勝勛博厥啻喀喧啼喊喝喘喂喜喪喔喇喋喃喳單喟唾喲喚喻喬喱啾喉喫喙圍堯",
       "堪場堤堰報堡堝堠壹壺奠"]),
   (0xB4, 0x40, String.join
      ["婷媚婿媒媛媧孳孱寒富寓寐尊尋就嵌嵐崴嵇巽幅帽幀幃幾廊廁廂廄弼彭復循徨惑惡悲悶惠愜愣惺愕惰惻惴慨惱愎惶愉愀愒戟扉掣掌描揀揩揉揆揍﷐﷐﷐﷐﷐﷐﷐﷐﷐﷐﷐﷐﷐﷐﷐﷐﷐﷐﷐﷐﷐﷐﷐﷐﷐﷐﷐",
       "﷐﷐﷐﷐﷐﷐﷐插揣提握揖揭揮捶援揪換摒揚揹敞敦敢散斑斐斯普晰晴晶景暑智晾晷曾替期朝棺棕棠棘棗椅棟棵森棧棹棒棲棣棋棍植椒椎棉棚楮棻款欺欽殘殖殼毯氮氯氬港游湔渡渲湧湊渠渥渣減湛湘渤湖湮",
       "渭渦湯渴湍渺測湃渝渾滋"]),
   (0xB5, 0x40, String.join
      ["溉渙湎湣湄湲湩湟焙焚焦焰無然煮焜牌犄犀猶猥猴猩琺琪琳琢琥琵琶琴琯琛琦琨甥甦畫番痢痛痣痙痘痞痠登發皖皓皴盜睏短硝硬硯稍稈程稅稀窘﷐﷐﷐﷐﷐﷐﷐﷐﷐﷐﷐﷐﷐﷐﷐﷐﷐﷐﷐﷐﷐﷐﷐﷐﷐﷐﷐",
       "﷐﷐﷐﷐﷐﷐﷐窗窖童竣等策筆筐筒答筍筋筏筑粟粥絞結絨絕紫絮絲絡給絢絰絳善翔翕耋聒肅腕腔腋腑腎脹腆脾腌腓腴舒舜菩萃菸萍菠菅萋菁華菱菴著萊菰萌菌菽菲菊萸萎萄菜萇菔菟虛蛟蛙蛭蛔蛛蛤蛐蛞街",
       "裁裂袱覃視註詠評詞証詁"]),
   (0xB6, 0x40, String.join
      ["詔詛詐詆訴診訶詖象貂貯貼貳貽賁費賀貴買貶貿貸越超趁跎距跋跚跑跌跛跆軻軸軼辜逮逵週逸進逶鄂郵鄉郾酣酥量鈔鈕鈣鈉鈞鈍鈐鈇鈑閔閏開閑﷐﷐﷐﷐﷐﷐﷐﷐﷐﷐﷐﷐﷐﷐﷐﷐﷐﷐﷐﷐﷐﷐﷐﷐﷐﷐﷐",
       "﷐﷐﷐﷐﷐﷐﷐間閒閎隊階隋陽隅隆隍陲隄雁雅雄集雇雯雲韌項順須飧飪飯飩飲飭馮馭黃黍黑亂傭債傲傳僅傾催傷傻傯僇剿剷剽募勦勤勢勣匯嗟嗨嗓嗦嗎嗜嗇嗑嗣嗤嗯嗚嗡嗅嗆嗥嗉園圓塞塑塘塗塚塔填塌塭",
       "塊塢塒塋奧嫁嫉嫌媾媽媼"]),
   (0xB7, 0x40, String.join
      ["媳嫂媲嵩嵯幌幹廉廈弒彙徬微愚意慈感想愛惹愁愈慎慌慄慍愾愴愧愍愆愷戡戢搓搾搞搪搭搽搬搏搜搔損搶搖搗搆敬斟新暗暉暇暈暖暄暘暍會榔業﷐﷐﷐﷐﷐﷐﷐﷐﷐﷐﷐﷐﷐﷐﷐﷐﷐﷐﷐﷐﷐﷐﷐﷐﷐﷐﷐",
       "﷐﷐﷐﷐﷐﷐﷐楚楷楠楔極椰概楊楨楫楞楓楹榆楝楣楛歇歲毀殿毓毽溢溯滓溶滂源溝滇滅溥溘溼溺溫滑準溜滄滔溪溧溴煎煙煩煤煉照煜煬煦煌煥煞煆煨煖爺牒猷獅猿猾瑯瑚瑕瑟瑞瑁琿瑙瑛瑜當畸瘀痰瘁痲痱",
       "痺痿痴痳盞盟睛睫睦睞督"]),
   (0xB8, 0x40, String.join
      ["睹睪睬睜睥睨睢矮碎碰碗碘碌碉硼碑碓硿祺祿禁萬禽稜稚稠稔稟稞窟窠筷節筠筮筧粱粳粵經絹綑綁綏絛置罩罪署義羨群聖聘肆肄腱腰腸腥腮腳腫﷐﷐﷐﷐﷐﷐﷐﷐﷐﷐﷐﷐﷐﷐﷐﷐﷐﷐﷐﷐﷐﷐﷐﷐﷐﷐﷐",
       "﷐﷐﷐﷐﷐﷐﷐腹腺腦舅艇蒂葷落萱葵葦葫葉葬葛萼萵葡董葩葭葆虞虜號蛹蜓蜈蜇蜀蛾蛻蜂蜃蜆蜊衙裟裔裙補裘裝裡裊裕裒覜解詫該詳試詩詰誇詼詣誠話誅詭詢詮詬詹詻訾詨豢貊貉賊資賈賄貲賃賂賅跡跟跨",
       "路跳跺跪跤跦躲較載軾輊"]),
   (0xB9, 0x40, String.join
      ["辟農運遊道遂達逼違遐遇遏過遍遑逾遁鄒鄗酬酪酩釉鈷鉗鈸鈽鉀鈾鉛鉋鉤鉑鈴鉉鉍鉅鈹鈿鉚閘隘隔隕雍雋雉雊雷電雹零靖靴靶預頑頓頊頒頌飼飴﷐﷐﷐﷐﷐﷐﷐﷐﷐﷐﷐﷐﷐﷐﷐﷐﷐﷐﷐﷐﷐﷐﷐﷐﷐﷐﷐",
       "﷐﷐﷐﷐﷐﷐﷐飽飾馳馱馴髡鳩麂鼎鼓鼠僧僮僥僖僭僚僕像僑僱僎僩兢凳劃劂匱厭嗾嘀嘛嘗嗽嘔嘆嘉嘍嘎嗷嘖嘟嘈嘐嗶團圖塵塾境墓墊塹墅塽壽夥夢夤奪奩嫡嫦嫩嫗嫖嫘嫣孵寞寧寡寥實寨寢寤察對屢嶄嶇幛",
       "幣幕幗幔廓廖弊彆彰徹慇"]),
   (0xBA, 0x40, String.join
      ["愿態慷慢慣慟慚慘慵截撇摘摔撤摸摟摺摑摧搴摭摻敲斡旗旖暢暨暝榜榨榕槁榮槓構榛榷榻榫榴槐槍榭槌榦槃榣歉歌氳漳演滾漓滴漩漾漠漬漏漂漢﷐﷐﷐﷐﷐﷐﷐﷐﷐﷐﷐﷐﷐﷐﷐﷐﷐﷐﷐﷐﷐﷐﷐﷐﷐﷐﷐",
       "﷐﷐﷐﷐﷐﷐﷐滿滯漆漱漸漲漣漕漫漯澈漪滬漁滲滌滷熔熙煽熊熄熒爾犒犖獄獐瑤瑣瑪瑰瑭甄疑瘧瘍瘋瘉瘓盡監瞄睽睿睡磁碟碧碳碩碣禎福禍種稱窪窩竭端管箕箋筵算箝箔箏箸箇箄粹粽精綻綰綜綽綾綠緊綴",
       "網綱綺綢綿綵綸維緒緇綬"]),
   (0xBB, 0x40, String.join
      ["罰翠翡翟聞聚肇腐膀膏膈膊腿膂臧臺與舔舞艋蓉蒿蓆蓄蒙蒞蒲蒜蓋蒸蓀蓓蒐蒼蓑蓊蜿蜜蜻蜢蜥蜴蜘蝕蜷蜩裳褂裴裹裸製裨褚裯誦誌語誣認誡誓誤﷐﷐﷐﷐﷐﷐﷐﷐﷐﷐﷐﷐﷐﷐﷐﷐﷐﷐﷐﷐﷐﷐﷐﷐﷐﷐﷐",
       "﷐﷐﷐﷐﷐﷐﷐說誥誨誘誑誚誧豪貍貌賓賑賒赫趙趕跼輔輒輕輓辣遠遘遜遣遙遞遢遝遛鄙鄘鄞酵酸酷酴鉸銀銅銘銖鉻銓銜銨鉼銑閡閨閩閣閥閤隙障際雌雒需靼鞅韶頗領颯颱餃餅餌餉駁骯骰髦魁魂鳴鳶鳳麼鼻",
       "齊億儀僻僵價儂儈儉儅凜"]),
   (0xBC, 0x40, String.join
      ["劇劈劉劍劊勰厲嘮嘻嘹嘲嘿嘴嘩噓噎噗噴嘶嘯嘰墀墟增墳墜墮墩墦奭嬉嫻嬋嫵嬌嬈寮寬審寫層履嶝嶔幢幟幡廢廚廟廝廣廠彈影德徵慶慧慮慝慕憂﷐﷐﷐﷐﷐﷐﷐﷐﷐﷐﷐﷐﷐﷐﷐﷐﷐﷐﷐﷐﷐﷐﷐﷐﷐﷐﷐",
       "﷐﷐﷐﷐﷐﷐﷐慼慰慫慾憧憐憫憎憬憚憤憔憮戮摩摯摹撞撲撈撐撰撥撓撕撩撒撮播撫撚撬撙撢撳敵敷數暮暫暴暱樣樟槨樁樞標槽模樓樊槳樂樅槭樑歐歎殤毅毆漿潼澄潑潦潔澆潭潛潸潮澎潺潰潤澗潘滕潯潠潟",
       "熟熬熱熨牖犛獎獗瑩璋璃"]),
   (0xBD, 0x40, String.join
      ["瑾璀畿瘠瘩瘟瘤瘦瘡瘢皚皺盤瞎瞇瞌瞑瞋磋磅確磊碾磕碼磐稿稼穀稽稷稻窯窮箭箱範箴篆篇篁箠篌糊締練緯緻緘緬緝編緣線緞緩綞緙緲緹罵罷羯﷐﷐﷐﷐﷐﷐﷐﷐﷐﷐﷐﷐﷐﷐﷐﷐﷐﷐﷐﷐﷐﷐﷐﷐﷐﷐﷐",
       "﷐﷐﷐﷐﷐﷐﷐翩耦膛膜膝膠膚膘蔗蔽蔚蓮蔬蔭蔓蔑蔣蔡蔔蓬蔥蓿蔆螂蝴蝶蝠蝦蝸蝨蝙蝗蝌蝓衛衝褐複褒褓褕褊誼諒談諄誕請諸課諉諂調誰論諍誶誹諛豌豎豬賠賞賦賤賬賭賢賣賜質賡赭趟趣踫踐踝踢踏踩踟",
       "踡踞躺輝輛輟輩輦輪輜輞"]),
   (0xBE, 0x40, String.join
      ["輥適遮遨遭遷鄰鄭鄧鄱醇醉醋醃鋅銻銷鋪銬鋤鋁銳銼鋒鋇鋰銲閭閱霄霆震霉靠鞍鞋鞏頡頫頜颳養餓餒餘駝駐駟駛駑駕駒駙骷髮髯鬧魅魄魷魯鴆鴉﷐﷐﷐﷐﷐﷐﷐﷐﷐﷐﷐﷐﷐﷐﷐﷐﷐﷐﷐﷐﷐﷐﷐﷐﷐﷐﷐",
       "﷐﷐﷐﷐﷐﷐﷐鴃麩麾黎墨齒儒儘儔儐儕冀冪凝劑劓勳噙噫噹噩噤噸噪器噥噱噯噬噢噶壁墾壇壅奮嬝嬴學寰導彊憲憑憩憊懍憶憾懊懈戰擅擁擋撻撼據擄擇擂操撿擒擔撾整曆曉暹曄曇暸樽樸樺橙橫橘樹橄橢橡",
       "橋橇樵機橈歙歷氅濂澱澡"]),
   (0xBF, 0x40, String.join
      ["濃澤濁澧澳激澹澶澦澠澴熾燉燐燒燈燕熹燎燙燜燃燄獨璜璣璘璟璞瓢甌甍瘴瘸瘺盧盥瞠瞞瞟瞥磨磚磬磧禦積穎穆穌穋窺篙簑築篤篛篡篩篦糕糖縊﷐﷐﷐﷐﷐﷐﷐﷐﷐﷐﷐﷐﷐﷐﷐﷐﷐﷐﷐﷐﷐﷐﷐﷐﷐﷐﷐",
       "﷐﷐﷐﷐﷐﷐﷐縑縈縛縣縞縝縉縐罹羲翰翱翮耨膳膩膨臻興艘艙蕊蕙蕈蕨蕩蕃蕉蕭蕪蕞螃螟螞螢融衡褪褲褥褫褡親覦諦諺諫諱謀諜諧諮諾謁謂諷諭諳諶諼豫豭貓賴蹄踱踴蹂踹踵輻輯輸輳辨辦遵遴選遲遼遺鄴",
       "醒錠錶鋸錳錯錢鋼錫錄錚"]),
   (0xC0, 0x40, String.join
      ["錐錦錡錕錮錙閻隧隨險雕霎霑霖霍霓霏靛靜靦鞘頰頸頻頷頭頹頤餐館餞餛餡餚駭駢駱骸骼髻髭鬨鮑鴕鴣鴦鴨鴒鴛默黔龍龜優償儡儲勵嚎嚀嚐嚅嚇﷐﷐﷐﷐﷐﷐﷐﷐﷐﷐﷐﷐﷐﷐﷐﷐﷐﷐﷐﷐﷐﷐﷐﷐﷐﷐﷐",
       "﷐﷐﷐﷐﷐﷐﷐嚏壕壓壑壎嬰嬪嬤孺尷屨嶼嶺嶽嶸幫彌徽應懂懇懦懋戲戴擎擊擘擠擰擦擬擱擢擭斂斃曙曖檀檔檄檢檜櫛檣橾檗檐檠歜殮毚氈濘濱濟濠濛濤濫濯澀濬濡濩濕濮濰燧營燮燦燥燭燬燴燠爵牆獰獲璩",
       "環璦璨癆療癌盪瞳瞪瞰瞬"]),
   (0xC1, 0x40, String.join
      ["瞧瞭矯磷磺磴磯礁禧禪穗窿簇簍篾篷簌篠糠糜糞糢糟糙糝縮績繆縷縲繃縫總縱繅繁縴縹繈縵縿縯罄翳翼聱聲聰聯聳臆臃膺臂臀膿膽臉膾臨舉艱薪﷐﷐﷐﷐﷐﷐﷐﷐﷐﷐﷐﷐﷐﷐﷐﷐﷐﷐﷐﷐﷐﷐﷐﷐﷐﷐﷐",
       "﷐﷐﷐﷐﷐﷐﷐薄蕾薜薑薔薯薛薇薨薊虧蟀蟑螳蟒蟆螫螻螺蟈蟋褻褶襄褸褽覬謎謗謙講謊謠謝謄謐豁谿豳賺賽購賸賻趨蹉蹋蹈蹊轄輾轂轅輿避遽還邁邂邀鄹醣醞醜鍍鎂錨鍵鍊鍥鍋錘鍾鍬鍛鍰鍚鍔闊闋闌闈闆",
       "隱隸雖霜霞鞠韓顆颶餵騁"]),
   (0xC2, 0x40, String.join
      ["駿鮮鮫鮪鮭鴻鴿麋黏點黜黝黛鼾齋叢嚕嚮壙壘嬸彝懣戳擴擲擾攆擺擻擷斷曜朦檳檬櫃檻檸櫂檮檯歟歸殯瀉瀋濾瀆濺瀑瀏燻燼燾燸獷獵璧璿甕癖癘﷐﷐﷐﷐﷐﷐﷐﷐﷐﷐﷐﷐﷐﷐﷐﷐﷐﷐﷐﷐﷐﷐﷐﷐﷐﷐﷐",
       "﷐﷐﷐﷐﷐﷐﷐癒瞽瞿瞻瞼礎禮穡穢穠竄竅簫簧簪簞簣簡糧織繕繞繚繡繒繙罈翹翻職聶臍臏舊藏薩藍藐藉薰薺薹薦蟯蟬蟲蟠覆覲觴謨謹謬謫豐贅蹙蹣蹦蹤蹟蹕軀轉轍邇邃邈醫醬釐鎔鎊鎖鎢鎳鎮鎬鎰鎘鎚鎗闔",
       "闖闐闕離雜雙雛雞霤鞣鞦"]),
   (0xC3, 0x40, String.join
      ["鞭韹額顏題顎顓颺餾餿餽餮馥騎髁鬃鬆魏魎魍鯊鯉鯽鯈鯀鵑鵝鵠黠鼕鼬儳嚥壞壟壢寵龐廬懲懷懶懵攀攏曠曝櫥櫝櫚櫓瀛瀟瀨瀚瀝瀕瀘爆爍牘犢獸﷐﷐﷐﷐﷐﷐﷐﷐﷐﷐﷐﷐﷐﷐﷐﷐﷐﷐﷐﷐﷐﷐﷐﷐﷐﷐﷐",
       "﷐﷐﷐﷐﷐﷐﷐獺璽瓊瓣疇疆癟癡矇礙禱穫穩簾簿簸簽簷籀繫繭繹繩繪羅繳羶羹羸臘藩藝藪藕藤藥藷蟻蠅蠍蟹蟾襠襟襖襞譁譜識證譚譎譏譆譙贈贊蹼蹲躇蹶蹬蹺蹴轔轎辭邊邋醱醮鏡鏑鏟鏃鏈鏜鏝鏖鏢鏍鏘鏤",
       "鏗鏨關隴難霪霧靡韜韻類"]),
   (0xC4, 0x40, String.join
      ["願顛颼饅饉騖騙鬍鯨鯧鯖鯛鶉鵡鵲鵪鵬麒麗麓麴勸嚨嚷嚶嚴嚼壤孀孃孽寶巉懸懺攘攔攙曦朧櫬瀾瀰瀲爐獻瓏癢癥礦礪礬礫竇競籌籃籍糯糰辮繽繼﷐﷐﷐﷐﷐﷐﷐﷐﷐﷐﷐﷐﷐﷐﷐﷐﷐﷐﷐﷐﷐﷐﷐﷐﷐﷐﷐",
       "﷐﷐﷐﷐﷐﷐﷐纂罌耀臚艦藻藹蘑藺蘆蘋蘇蘊蠔蠕襤覺觸議譬警譯譟譫贏贍躉躁躅躂醴釋鐘鐃鏽闡霰飄饒饑馨騫騰騷騵鰓鰍鹹麵黨鼯齟齣齡儷儸囁囀囂夔屬巍懼懾攝攜斕曩櫻欄櫺殲灌爛犧瓖瓔癩矓籐纏續羼",
       "蘗蘭蘚蠣蠢蠡蠟襪襬覽譴"]),
   (0xC5, 0x40, String.join
      ["護譽贓躊躍躋轟辯醺鐮鐳鐵鐺鐸鐲鐫闢霸霹露響顧顥饗驅驃驀騾髏魔魑鰭鰥鶯鶴鷂鶸麝黯鼙齜齦齧儼儻囈囊囉孿巔巒彎懿攤權歡灑灘玀瓤疊癮癬﷐﷐﷐﷐﷐﷐﷐﷐﷐﷐﷐﷐﷐﷐﷐﷐﷐﷐﷐﷐﷐﷐﷐﷐﷐﷐﷐",
       "﷐﷐﷐﷐﷐﷐﷐禳籠籟聾聽臟襲襯觼讀贖贗躑躓轡酈鑄鑑鑒霽霾韃韁顫饕驕驍髒鬚鱉鰱鰾鰻鷓鷗鼴齬齪龔囌巖戀攣攫攪曬欐瓚竊籤籣籥纓纖纔臢蘸蘿蠱變邐邏鑣鑠鑤靨顯饜驚驛驗髓體髑鱔鱗鱖鷥麟黴囑壩攬",
       "灞癱癲矗罐羈蠶蠹衢讓讒"]),
   (0xC6, 0x40, String.join
      ["讖艷贛釀鑪靂靈靄韆顰驟鬢魘鱟鷹鷺鹼鹽鼇齷齲廳欖灣籬籮蠻觀躡釁鑲鑰顱饞髖鬣黌灤矚讚鑷韉驢驥纜讜躪釅鑽鑾鑼鱷鱸黷豔鑿鸚爨驪鬱鸛鸞籲﷐﷐﷐﷐﷐﷐﷐﷐﷐﷐﷐﷐﷐﷐﷐﷐﷐﷐﷐﷐﷐﷐﷐﷐﷐﷐﷐",
       "﷐﷐﷐﷐﷐﷐﷐ヾゝゞ々ぁあぃいぅうぇえぉおかがきぎくぐけげこごさざしじすずせぜそぞただちぢっつづてでとどなにぬねのはばぱひびぴふぶぷへべぺほぼぽまみむめもゃやゅゆょよらりるれろゎわ",
       "ゐゑをんァアィイゥウェ"]),
   (0xC7, 0x40, String.join
      ["エォオカガキギクグケゲコゴサザシジスズセゼソゾタダチヂッツヅテデトドナニヌネノハバパヒビピフブプヘベペホボポマミムメモャヤュユ﷐﷐﷐﷐﷐﷐﷐﷐﷐﷐﷐﷐﷐﷐﷐﷐﷐﷐﷐﷐﷐﷐﷐﷐﷐﷐﷐",
       "﷐﷐﷐﷐﷐﷐﷐ョヨラリルレロヮワヰヱヲンヴヵヶДЕЁЖЗИЙКЛМУФХЦЧШЩЪЫЬЭЮЯабвгдеёжзийклмнопрстуфхцчшщъыьэюя①②③④⑤⑥⑦⑧⑨⑩⑴",
       "⑵⑶⑷⑸⑹⑺⑻⑼⑽"]),
   (0xC9, 0x40, String.join
      ["乂乜凵匚厂万丌乇亍囗兀屮彳丏冇与丮亓仂仉仈冘勼卬厹圠夃夬尐巿旡殳毌气爿丱丼仨仜仩仡仝仚刌匜卌圢圣夗夯宁宄尒尻屴屳帄庀庂忉戉扐氕﷐﷐﷐﷐﷐﷐﷐﷐﷐﷐﷐﷐﷐﷐﷐﷐﷐﷐﷐﷐﷐﷐﷐﷐﷐﷐﷐",
       "﷐﷐﷐﷐﷐﷐﷐氶汃氿氻犮犰玊禸肊阞伎优伬仵伔仱伀价伈伝伂伅伢伓伄仴伒冱刓刉刐劦匢匟卍厊吇囡囟圮圪圴夼妀奼妅奻奾奷奿孖尕尥屼屺屻屾巟幵庄异弚彴忕忔忏扜扞扤扡扦扢扙扠扚扥旯旮朾朹朸朻机",
       "朿朼朳氘汆汒汜汏汊汔汋"]),
   (0xCA, 0x40, String.join
      ["汌灱牞犴犵玎甪癿穵网艸艼芀艽艿虍襾邙邗邘邛邔阢阤阠阣佖伻佢佉体佤伾佧佒佟佁佘伭伳伿佡冏冹刜刞刡劭劮匉卣卲厎厏吰吷吪呔呅吙吜吥吘﷐﷐﷐﷐﷐﷐﷐﷐﷐﷐﷐﷐﷐﷐﷐﷐﷐﷐﷐﷐﷐﷐﷐﷐﷐﷐﷐",
       "﷐﷐﷐﷐﷐﷐﷐吽呏呁吨吤呇囮囧囥坁坅坌坉坋坒夆奀妦妘妠妗妎妢妐妏妧妡宎宒尨尪岍岏岈岋岉岒岊岆岓岕巠帊帎庋庉庌庈庍弅弝彸彶忒忑忐忭忨忮忳忡忤忣忺忯忷忻怀忴戺抃抌抎抏抔抇扱扻扺扰抁抈扷",
       "扽扲扴攷旰旴旳旲旵杅杇"]),
   (0xCB, 0x40, String.join
      ["杙杕杌杈杝杍杚杋毐氙氚汸汧汫沄沋沏汱汯汩沚汭沇沕沜汦汳汥汻沎灴灺牣犿犽狃狆狁犺狅玕玗玓玔玒町甹疔疕皁礽耴肕肙肐肒肜芐芏芅芎芑芓﷐﷐﷐﷐﷐﷐﷐﷐﷐﷐﷐﷐﷐﷐﷐﷐﷐﷐﷐﷐﷐﷐﷐﷐﷐﷐﷐",
       "﷐﷐﷐﷐﷐﷐﷐芊芃芄豸迉辿邟邡邥邞邧邠阰阨阯阭丳侘佼侅佽侀侇佶佴侉侄佷佌侗佪侚佹侁佸侐侜侔侞侒侂侕佫佮冞冼冾刵刲刳剆刱劼匊匋匼厒厔咇呿咁咑咂咈呫呺呾呥呬呴呦咍呯呡呠咘呣呧呤囷囹坯坲",
       "坭坫坱坰坶垀坵坻坳坴坢"]),
   (0xCC, 0x40, String.join
      ["坨坽夌奅妵妺姏姎妲姌姁妶妼姃姖妱妽姀姈妴姇孢孥宓宕屄屇岮岤岠岵岯岨岬岟岣岭岢岪岧岝岥岶岰岦帗帔帙弨弢弣弤彔徂彾彽忞忥怭怦怙怲怋﷐﷐﷐﷐﷐﷐﷐﷐﷐﷐﷐﷐﷐﷐﷐﷐﷐﷐﷐﷐﷐﷐﷐﷐﷐﷐﷐",
       "﷐﷐﷐﷐﷐﷐﷐怴怊怗怳怚怞怬怢怍怐怮怓怑怌怉怜戔戽抭抴拑抾抪抶拊抮抳抯抻抩抰抸攽斨斻昉旼昄昒昈旻昃昋昍昅旽昑昐曶朊枅杬枎枒杶杻枘枆构杴枍枌杺枟枑枙枃杽极杸杹枔欥殀歾毞氝沓泬泫泮泙沶",
       "泔沭泧沷泐泂沺泃泆泭泲"]),
   (0xCD, 0x40, String.join
      ["泒泝沴沊沝沀泞泀洰泍泇沰泹泏泩泑炔炘炅炓炆炄炑炖炂炚炃牪狖狋狘狉狜狒狔狚狌狑玤玡玭玦玢玠玬玝瓝瓨甿畀甾疌疘皯盳盱盰盵矸矼矹矻矺﷐﷐﷐﷐﷐﷐﷐﷐﷐﷐﷐﷐﷐﷐﷐﷐﷐﷐﷐﷐﷐﷐﷐﷐﷐﷐﷐",
       "﷐﷐﷐﷐﷐﷐﷐矷祂礿秅穸穻竻籵糽耵肏肮肣肸肵肭舠芠苀芫芚芘芛芵芧芮芼芞芺芴芨芡芩苂芤苃芶芢虰虯虭虮豖迒迋迓迍迖迕迗邲邴邯邳邰阹阽阼阺陃俍俅俓侲俉俋俁俔俜俙侻侳俛俇俖侺俀侹俬剄剉勀勂",
       "匽卼厗厖厙厘咺咡咭咥哏"]),
   (0xCE, 0x40, String.join
      ["哃茍咷咮哖咶哅哆咠呰咼咢咾呲哞咰垵垞垟垤垌垗垝垛垔垘垏垙垥垚垕壴复奓姡姞姮娀姱姝姺姽姼姶姤姲姷姛姩姳姵姠姾姴姭宨屌峐峘峌峗峋峛﷐﷐﷐﷐﷐﷐﷐﷐﷐﷐﷐﷐﷐﷐﷐﷐﷐﷐﷐﷐﷐﷐﷐﷐﷐﷐﷐",
       "﷐﷐﷐﷐﷐﷐﷐峞峚峉峇峊峖峓峔峏峈峆峎峟峸巹帡帢帣帠帤庰庤庢庛庣庥弇弮彖徆怷怹恔恲恞恅恓恇恉恛恌恀恂恟怤恄恘恦恮扂扃拏挍挋拵挎挃拫拹挏挌拸拶挀挓挔拺挕拻拰敁敃斪斿昶昡昲昵昜昦昢昳昫",
       "昺昝昴昹昮朏朐柁柲柈枺"]),
   (0xCF, 0x40, String.join
      ["柜枻柸柘柀枷柅柫柤柟枵柍枳柷柶柮柣柂枹柎柧柰枲柼柆柭柌枮柦柛柺柉柊柃柪柋欨殂殄殶毖毘毠氠氡洨洴洭洟洼洿洒洊泚洳洄洙洺洚洑洀洝浂﷐﷐﷐﷐﷐﷐﷐﷐﷐﷐﷐﷐﷐﷐﷐﷐﷐﷐﷐﷐﷐﷐﷐﷐﷐﷐﷐",
       "﷐﷐﷐﷐﷐﷐﷐洁洘洷洃洏浀洇洠洬洈洢洉洐炷炟炾炱炰炡炴炵炩牁牉牊牬牰牳牮狊狤狨狫狟狪狦狣玅珌珂珈珅玹玶玵玴珫玿珇玾珃珆玸珋瓬瓮甮畇畈疧疪癹盄眈眃眄眅眊盷盻盺矧矨砆砑砒砅砐砏砎砉砃砓",
       "祊祌祋祅祄秕种秏秖秎窀"]),
   (0xD0, 0x40, String.join
      ["穾竑笀笁籺籸籹籿粀粁紃紈紁罘羑羍羾耇耎耏耔耷胘胇胠胑胈胂胐胅胣胙胜胊胕胉胏胗胦胍臿舡芔苙苾苹茇苨茀苕茺苫苖苴苬苡苲苵茌苻苶苰苪﷐﷐﷐﷐﷐﷐﷐﷐﷐﷐﷐﷐﷐﷐﷐﷐﷐﷐﷐﷐﷐﷐﷐﷐﷐﷐﷐",
       "﷐﷐﷐﷐﷐﷐﷐苤苠苺苳苭虷虴虼虳衁衎衧衪衩觓訄訇赲迣迡迮迠郱邽邿郕郅邾郇郋郈釔釓陔陏陑陓陊陎倞倅倇倓倢倰倛俵俴倳倷倬俶俷倗倜倠倧倵倯倱倎党冔冓凊凄凅凈凎剡剚剒剞剟剕剢勍匎厞唦哢唗唒",
       "哧哳哤唚哿唄唈哫唑唅哱"]),
   (0xD1, 0x40, String.join
      ["唊哻哷哸哠唎唃唋圁圂埌堲埕埒垺埆垽垼垸垶垿埇埐垹埁夎奊娙娖娭娮娕娏娗娊娞娳孬宧宭宬尃屖屔峬峿峮峱峷崀峹帩帨庨庮庪庬弳弰彧恝恚恧﷐﷐﷐﷐﷐﷐﷐﷐﷐﷐﷐﷐﷐﷐﷐﷐﷐﷐﷐﷐﷐﷐﷐﷐﷐﷐﷐",
       "﷐﷐﷐﷐﷐﷐﷐恁悢悈悀悒悁悝悃悕悛悗悇悜悎戙扆拲挐捖挬捄捅挶捃揤挹捋捊挼挩捁挴捘捔捙挭捇挳捚捑挸捗捀捈敊敆旆旃旄旂晊晟晇晑朒朓栟栚桉栲栳栻桋桏栖栱栜栵栫栭栯桎桄栴栝栒栔栦栨栮桍栺栥",
       "栠欬欯欭欱欴歭肂殈毦毤"])]

/-- The rows of second bytes of `big5`, part 2. -/
def big5Rows2 : List (Nat × Nat × String) :=
  [(0xD2, 0x40, String.join
      ["毨毣毢毧氥浺浣浤浶洍浡涒浘浢浭浯涑涍淯浿涆浞浧浠涗浰浼浟涂涘洯浨涋浾涀涄洖涃浻浽浵涐烜烓烑烝烋缹烢烗烒烞烠烔烍烅烆烇烚烎烡牂牸﷐﷐﷐﷐﷐﷐﷐﷐﷐﷐﷐﷐﷐﷐﷐﷐﷐﷐﷐﷐﷐﷐﷐﷐﷐﷐﷐",
       "﷐﷐﷐﷐﷐﷐﷐牷牶猀狺狴狾狶狳狻猁珓珙珥珖玼珧珣珩珜珒珛珔珝珚珗珘珨瓞瓟瓴瓵甡畛畟疰痁疻痄痀疿疶疺皊盉眝眛眐眓眒眣眑眕眙眚眢眧砣砬砢砵砯砨砮砫砡砩砳砪砱祔祛祏祜祓祒祑秫秬秠秮秭秪秜",
       "秞秝窆窉窅窋窌窊窇竘笐"]),
   (0xD3, 0x40, String.join
      ["笄笓笅笏笈笊笎笉笒粄粑粊粌粈粍粅紞紝紑紎紘紖紓紟紒紏紌罜罡罞罠罝罛羖羒翃翂翀耖耾耹胺胲胹胵脁胻脀舁舯舥茳茭荄茙荑茥荖茿荁茦茜茢﷐﷐﷐﷐﷐﷐﷐﷐﷐﷐﷐﷐﷐﷐﷐﷐﷐﷐﷐﷐﷐﷐﷐﷐﷐﷐﷐",
       "﷐﷐﷐﷐﷐﷐﷐荂荎茛茪茈茼荍茖茤茠茷茯茩荇荅荌荓茞茬荋茧荈虓虒蚢蚨蚖蚍蚑蚞蚇蚗蚆蚋蚚蚅蚥蚙蚡蚧蚕蚘蚎蚝蚐蚔衃衄衭衵衶衲袀衱衿衯袃衾衴衼訒豇豗豻貤貣赶赸趵趷趶軑軓迾迵适迿迻逄迼迶郖郠",
       "郙郚郣郟郥郘郛郗郜郤酐"]),
   (0xD4, 0x40, String.join
      ["酎酏釕釢釚陜陟隼飣髟鬯乿偰偪偡偞偠偓偋偝偲偈偍偁偛偊偢倕偅偟偩偫偣偤偆偀偮偳偗偑凐剫剭剬剮勖勓匭厜啵啶唼啍啐唴唪啑啢唶唵唰啒啅﷐﷐﷐﷐﷐﷐﷐﷐﷐﷐﷐﷐﷐﷐﷐﷐﷐﷐﷐﷐﷐﷐﷐﷐﷐﷐﷐",
       "﷐﷐﷐﷐﷐﷐﷐唌唲啥啎唹啈唭唻啀啋圊圇埻堔埢埶埜埴堀埭埽堈埸堋埳埏堇埮埣埲埥埬埡堎埼堐埧堁堌埱埩埰堍堄奜婠婘婕婧婞娸娵婭婐婟婥婬婓婤婗婃婝婒婄婛婈媎娾婍娹婌婰婩婇婑婖婂婜孲孮寁寀屙",
       "崞崋崝崚崠崌崨崍崦崥崏"]),
   (0xD5, 0x40, String.join
      ["崰崒崣崟崮帾帴庱庴庹庲庳弶弸徛徖徟悊悐悆悾悰悺惓惔惏惤惙惝惈悱惛悷惊悿惃惍惀挲捥掊掂捽掽掞掭掝掗掫掎捯掇掐据掯捵掜捭掮捼掤挻掟﷐﷐﷐﷐﷐﷐﷐﷐﷐﷐﷐﷐﷐﷐﷐﷐﷐﷐﷐﷐﷐﷐﷐﷐﷐﷐﷐",
       "﷐﷐﷐﷐﷐﷐﷐捸掅掁掑掍捰敓旍晥晡晛晙晜晢朘桹梇梐梜桭桮梮梫楖桯梣梬梩桵桴梲梏桷梒桼桫桲梪梀桱桾梛梖梋梠梉梤桸桻梑梌梊桽欶欳欷欸殑殏殍殎殌氪淀涫涴涳湴涬淩淢涷淶淔渀淈淠淟淖涾淥淜淝",
       "淛淴淊涽淭淰涺淕淂淏淉"]),
   (0xD6, 0x40, String.join
      ["淐淲淓淽淗淍淣涻烺焍烷焗烴焌烰焄烳焐烼烿焆焓焀烸烶焋焂焎牾牻牼牿猝猗猇猑猘猊猈狿猏猞玈珶珸珵琄琁珽琇琀珺珼珿琌琋珴琈畤畣痎痒痏﷐﷐﷐﷐﷐﷐﷐﷐﷐﷐﷐﷐﷐﷐﷐﷐﷐﷐﷐﷐﷐﷐﷐﷐﷐﷐﷐",
       "﷐﷐﷐﷐﷐﷐﷐痋痌痑痐皏皉盓眹眯眭眱眲眴眳眽眥眻眵硈硒硉硍硊硌砦硅硐祤祧祩祪祣祫祡离秺秸秶秷窏窔窐笵筇笴笥笰笢笤笳笘笪笝笱笫笭笯笲笸笚笣粔粘粖粣紵紽紸紶紺絅紬紩絁絇紾紿絊紻紨罣羕羜",
       "羝羛翊翋翍翐翑翇翏翉耟"]),
   (0xD7, 0x40, String.join
      ["耞耛聇聃聈脘脥脙脛脭脟脬脞脡脕脧脝脢舑舸舳舺舴舲艴莐莣莨莍荺荳莤荴莏莁莕莙荵莔莩荽莃莌莝莛莪莋荾莥莯莈莗莰荿莦莇莮荶莚虙虖蚿蚷﷐﷐﷐﷐﷐﷐﷐﷐﷐﷐﷐﷐﷐﷐﷐﷐﷐﷐﷐﷐﷐﷐﷐﷐﷐﷐﷐",
       "﷐﷐﷐﷐﷐﷐﷐蛂蛁蛅蚺蚰蛈蚹蚳蚸蛌蚴蚻蚼蛃蚽蚾衒袉袕袨袢袪袚袑袡袟袘袧袙袛袗袤袬袌袓袎覂觖觙觕訰訧訬訞谹谻豜豝豽貥赽赻赹趼跂趹趿跁軘軞軝軜軗軠軡逤逋逑逜逌逡郯郪郰郴郲郳郔郫郬郩酖酘",
       "酚酓酕釬釴釱釳釸釤釹釪"]),
   (0xD8, 0x40, String.join
      ["釫釷釨釮镺閆閈陼陭陫陱陯隿靪頄飥馗傛傕傔傞傋傣傃傌傎傝偨傜傒傂傇兟凔匒匑厤厧喑喨喥喭啷噅喢喓喈喏喵喁喣喒喤啽喌喦啿喕喡喎圌堩堷﷐﷐﷐﷐﷐﷐﷐﷐﷐﷐﷐﷐﷐﷐﷐﷐﷐﷐﷐﷐﷐﷐﷐﷐﷐﷐﷐",
       "﷐﷐﷐﷐﷐﷐﷐堙堞堧堣堨埵塈堥堜堛堳堿堶堮堹堸堭堬堻奡媯媔媟婺媢媞婸媦婼媥媬媕媮娷媄媊媗媃媋媩婻婽媌媜媏媓媝寪寍寋寔寑寊寎尌尰崷嵃嵫嵁嵋崿崵嵑嵎嵕崳崺嵒崽崱嵙嵂崹嵉崸崼崲崶嵀嵅幄幁",
       "彘徦徥徫惉悹惌惢惎惄愔"]),
   (0xD9, 0x40, String.join
      ["惲愊愖愅惵愓惸惼惾惁愃愘愝愐惿愄愋扊掔掱掰揎揥揨揯揃撝揳揊揠揶揕揲揵摡揟掾揝揜揄揘揓揂揇揌揋揈揰揗揙攲敧敪敤敜敨敥斌斝斞斮旐旒﷐﷐﷐﷐﷐﷐﷐﷐﷐﷐﷐﷐﷐﷐﷐﷐﷐﷐﷐﷐﷐﷐﷐﷐﷐﷐﷐",
       "﷐﷐﷐﷐﷐﷐﷐晼晬晻暀晱晹晪晲朁椌棓椄棜椪棬棪棱椏棖棷棫棤棶椓椐棳棡椇棌椈楰梴椑棯棆椔棸棐棽棼棨椋椊椗棎棈棝棞棦棴棑椆棔棩椕椥棇欹欻欿欼殔殗殙殕殽毰毲毳氰淼湆湇渟湉溈渼渽湅湢渫渿湁",
       "湝湳渜渳湋湀湑渻渃渮湞"]),
   (0xDA, 0x40, String.join
      ["湨湜湡渱渨湠湱湫渹渢渰湓湥渧湸湤湷湕湹湒湦渵渶湚焠焞焯烻焮焱焣焥焢焲焟焨焺焛牋牚犈犉犆犅犋猒猋猰猢猱猳猧猲猭猦猣猵猌琮琬琰琫琖﷐﷐﷐﷐﷐﷐﷐﷐﷐﷐﷐﷐﷐﷐﷐﷐﷐﷐﷐﷐﷐﷐﷐﷐﷐﷐﷐",
       "﷐﷐﷐﷐﷐﷐﷐琚琡琭琱琤琣琝琩琠琲瓻甯畯畬痧痚痡痦痝痟痤痗皕皒盚睆睇睄睍睅睊睎睋睌矞矬硠硤硥硜硭硱硪确硰硩硨硞硢祴祳祲祰稂稊稃稌稄窙竦竤筊笻筄筈筌筎筀筘筅粢粞粨粡絘絯絣絓絖絧絪絏絭",
       "絜絫絒絔絩絑絟絎缾缿罥"]),
   (0xDB, 0x40, String.join
      ["罦羢羠羡翗聑聏聐胾胔腃腊腒腏腇脽腍脺臦臮臷臸臹舄舼舽舿艵茻菏菹萣菀菨萒菧菤菼菶萐菆菈菫菣莿萁菝菥菘菿菡菋菎菖菵菉萉萏菞萑萆菂菳﷐﷐﷐﷐﷐﷐﷐﷐﷐﷐﷐﷐﷐﷐﷐﷐﷐﷐﷐﷐﷐﷐﷐﷐﷐﷐﷐",
       "﷐﷐﷐﷐﷐﷐﷐菕菺菇菑菪萓菃菬菮菄菻菗菢萛菛菾蛘蛢蛦蛓蛣蛚蛪蛝蛫蛜蛬蛩蛗蛨蛑衈衖衕袺裗袹袸裀袾袶袼袷袽袲褁裉覕覘覗觝觚觛詎詍訹詙詀詗詘詄詅詒詈詑詊詌詏豟貁貀貺貾貰貹貵趄趀趉跘跓跍跇",
       "跖跜跏跕跙跈跗跅軯軷軺"]),
   (0xDC, 0x40, String.join
      ["軹軦軮軥軵軧軨軶軫軱軬軴軩逭逴逯鄆鄬鄄郿郼鄈郹郻鄁鄀鄇鄅鄃酡酤酟酢酠鈁鈊鈥鈃鈚鈦鈏鈌鈀鈒釿釽鈆鈄鈧鈂鈜鈤鈙鈗鈅鈖镻閍閌閐隇陾隈﷐﷐﷐﷐﷐﷐﷐﷐﷐﷐﷐﷐﷐﷐﷐﷐﷐﷐﷐﷐﷐﷐﷐﷐﷐﷐﷐",
       "﷐﷐﷐﷐﷐﷐﷐隉隃隀雂雈雃雱雰靬靰靮頇颩飫鳦黹亃亄亶傽傿僆傮僄僊傴僈僂傰僁傺傱僋僉傶傸凗剺剸剻剼嗃嗛嗌嗐嗋嗊嗝嗀嗔嗄嗩喿嗒喍嗏嗕嗢嗖嗈嗲嗍嗙嗂圔塓塨塤塏塍塉塯塕塎塝塙塥塛堽塣塱壼嫇",
       "嫄嫋媺媸媱媵媰媿嫈媻嫆"]),
   (0xDD, 0x40, String.join
      ["媷嫀嫊媴媶嫍媹媐寖寘寙尟尳嵱嵣嵊嵥嵲嵬嵞嵨嵧嵢巰幏幎幊幍幋廅廌廆廋廇彀徯徭惷慉慊愫慅愶愲愮慆愯慏愩慀戠酨戣戥戤揅揱揫搐搒搉搠搤﷐﷐﷐﷐﷐﷐﷐﷐﷐﷐﷐﷐﷐﷐﷐﷐﷐﷐﷐﷐﷐﷐﷐﷐﷐﷐﷐",
       "﷐﷐﷐﷐﷐﷐﷐搳摃搟搕搘搹搷搢搣搌搦搰搨摁搵搯搊搚摀搥搧搋揧搛搮搡搎敯斒旓暆暌暕暐暋暊暙暔晸朠楦楟椸楎楢楱椿楅楪椹楂楗楙楺楈楉椵楬椳椽楥棰楸椴楩楀楯楄楶楘楁楴楌椻楋椷楜楏楑椲楒椯楻",
       "椼歆歅歃歂歈歁殛嗀毻毼"]),
   (0xDE, 0x40, String.join
      ["毹毷毸溛滖滈溏滀溟溓溔溠溱溹滆滒溽滁溞滉溷溰滍溦滏溲溾滃滜滘溙溒溎溍溤溡溿溳滐滊溗溮溣煇煔煒煣煠煁煝煢煲煸煪煡煂煘煃煋煰煟煐煓﷐﷐﷐﷐﷐﷐﷐﷐﷐﷐﷐﷐﷐﷐﷐﷐﷐﷐﷐﷐﷐﷐﷐﷐﷐﷐﷐",
       "﷐﷐﷐﷐﷐﷐﷐煄煍煚牏犍犌犑犐犎猼獂猻猺獀獊獉瑄瑊瑋瑒瑑瑗瑀瑏瑐瑎瑂瑆瑍瑔瓡瓿瓾瓽甝畹畷榃痯瘏瘃痷痾痼痹痸瘐痻痶痭痵痽皙皵盝睕睟睠睒睖睚睩睧睔睙睭矠碇碚碔碏碄碕碅碆碡碃硹碙碀碖硻祼",
       "禂祽祹稑稘稙稒稗稕稢稓"]),
   (0xDF, 0x40, String.join
      ["稛稐窣窢窞竫筦筤筭筴筩筲筥筳筱筰筡筸筶筣粲粴粯綈綆綀綍絿綅絺綎絻綃絼綌綔綄絽綒罭罫罧罨罬羦羥羧翛翜耡腤腠腷腜腩腛腢腲朡腞腶腧腯﷐﷐﷐﷐﷐﷐﷐﷐﷐﷐﷐﷐﷐﷐﷐﷐﷐﷐﷐﷐﷐﷐﷐﷐﷐﷐﷐",
       "﷐﷐﷐﷐﷐﷐﷐腄腡舝艉艄艀艂艅蓱萿葖葶葹蒏蒍葥葑葀蒆葧萰葍葽葚葙葴葳葝蔇葞萷萺萴葺葃葸萲葅萩菙葋萯葂萭葟葰萹葎葌葒葯蓅蒎萻葇萶萳葨葾葄萫葠葔葮葐蜋蜄蛷蜌蛺蛖蛵蝍蛸蜎蜉蜁蛶蜍蜅裖裋裍",
       "裎裞裛裚裌裐覅覛觟觥觤"]),
   (0xE0, 0x40, String.join
      ["觡觠觢觜触詶誆詿詡訿詷誂誄詵誃誁詴詺谼豋豊豥豤豦貆貄貅賌赨赩趑趌趎趏趍趓趔趐趒跰跠跬跱跮跐跩跣跢跧跲跫跴輆軿輁輀輅輇輈輂輋遒逿﷐﷐﷐﷐﷐﷐﷐﷐﷐﷐﷐﷐﷐﷐﷐﷐﷐﷐﷐﷐﷐﷐﷐﷐﷐﷐﷐",
       "﷐﷐﷐﷐﷐﷐﷐遄遉逽鄐鄍鄏鄑鄖鄔鄋鄎酮酯鉈鉒鈰鈺鉦鈳鉥鉞銃鈮鉊鉆鉭鉬鉏鉠鉧鉯鈶鉡鉰鈱鉔鉣鉐鉲鉎鉓鉌鉖鈲閟閜閞閛隒隓隑隗雎雺雽雸雵靳靷靸靲頏頍頎颬飶飹馯馲馰馵骭骫魛鳪鳭鳧麀黽僦僔僗僨",
       "僳僛僪僝僤僓僬僰僯僣僠"]),
   (0xE1, 0x40, String.join
      ["凘劀劁勩勫匰厬嘧嘕嘌嘒嗼嘏嘜嘁嘓嘂嗺嘝嘄嗿嗹墉塼墐墘墆墁塿塴墋塺墇墑墎塶墂墈塻墔墏壾奫嫜嫮嫥嫕嫪嫚嫭嫫嫳嫢嫠嫛嫬嫞嫝嫙嫨嫟孷寠﷐﷐﷐﷐﷐﷐﷐﷐﷐﷐﷐﷐﷐﷐﷐﷐﷐﷐﷐﷐﷐﷐﷐﷐﷐﷐﷐",
       "﷐﷐﷐﷐﷐﷐﷐寣屣嶂嶀嵽嶆嵺嶁嵷嶊嶉嶈嵾嵼嶍嵹嵿幘幙幓廘廑廗廎廜廕廙廒廔彄彃彯徶愬愨慁慞慱慳慒慓慲慬憀慴慔慺慛慥愻慪慡慖戩戧戫搫摍摛摝摴摶摲摳摽摵摦撦摎撂摞摜摋摓摠摐摿搿摬摫摙摥摷",
       "敳斠暡暠暟朅朄朢榱榶槉"]),
   (0xE2, 0x40, String.join
      ["榠槎榖榰榬榼榑榙榎榧榍榩榾榯榿槄榽榤槔榹槊榚槏榳榓榪榡榞槙榗榐槂榵榥槆歊歍歋殞殟殠毃毄毾滎滵滱漃漥滸漷滻漮漉潎漙漚漧漘漻漒滭漊﷐﷐﷐﷐﷐﷐﷐﷐﷐﷐﷐﷐﷐﷐﷐﷐﷐﷐﷐﷐﷐﷐﷐﷐﷐﷐﷐",
       "﷐﷐﷐﷐﷐﷐﷐漶潳滹滮漭潀漰漼漵滫漇漎潃漅滽滶漹漜滼漺漟漍漞漈漡熇熐熉熀熅熂熏煻熆熁熗牄牓犗犕犓獃獍獑獌瑢瑳瑱瑵瑲瑧瑮甀甂甃畽疐瘖瘈瘌瘕瘑瘊瘔皸瞁睼瞅瞂睮瞀睯睾瞃碲碪碴碭碨硾碫碞碥",
       "碠碬碢碤禘禊禋禖禕禔禓"]),
   (0xE3, 0x40, String.join
      ["禗禈禒禐稫穊稰稯稨稦窨窫窬竮箈箜箊箑箐箖箍箌箛箎箅箘劄箙箤箂粻粿粼粺綧綷緂綣綪緁緀緅綝緎緄緆緋緌綯綹綖綼綟綦綮綩綡緉罳翢翣翥翞﷐﷐﷐﷐﷐﷐﷐﷐﷐﷐﷐﷐﷐﷐﷐﷐﷐﷐﷐﷐﷐﷐﷐﷐﷐﷐﷐",
       "﷐﷐﷐﷐﷐﷐﷐耤聝聜膉膆膃膇膍膌膋舕蒗蒤蒡蒟蒺蓎蓂蒬蒮蒫蒹蒴蓁蓍蒪蒚蒱蓐蒝蒧蒻蒢蒔蓇蓌蒛蒩蒯蒨蓖蒘蒶蓏蒠蓗蓔蓒蓛蒰蒑虡蜳蜣蜨蝫蝀蜮蜞蜡蜙蜛蝃蜬蝁蜾蝆蜠蜲蜪蜭蜼蜒蜺蜱蜵蝂蜦蜧蜸蜤蜚蜰",
       "蜑裷裧裱裲裺裾裮裼裶裻"]),
   (0xE4, 0x40, String.join
      ["裰裬裫覝覡覟覞觩觫觨誫誙誋誒誏誖谽豨豩賕賏賗趖踉踂跿踍跽踊踃踇踆踅跾踀踄輐輑輎輍鄣鄜鄠鄢鄟鄝鄚鄤鄡鄛酺酲酹酳銥銤鉶銛鉺銠銔銪銍﷐﷐﷐﷐﷐﷐﷐﷐﷐﷐﷐﷐﷐﷐﷐﷐﷐﷐﷐﷐﷐﷐﷐﷐﷐﷐﷐",
       "﷐﷐﷐﷐﷐﷐﷐銦銚銫鉹銗鉿銣鋮銎銂銕銢鉽銈銡銊銆銌銙銧鉾銇銩銝銋鈭隞隡雿靘靽靺靾鞃鞀鞂靻鞄鞁靿韎韍頖颭颮餂餀餇馝馜駃馹馻馺駂馽駇骱髣髧鬾鬿魠魡魟鳱鳲鳵麧僿儃儰僸儆儇僶僾儋儌僽儊劋劌",
       "勱勯噈噂噌嘵噁噊噉噆噘"]),
   (0xE5, 0x40, String.join
      ["噚噀嘳嘽嘬嘾嘸嘪嘺圚墫墝墱墠墣墯墬墥墡壿嫿嫴嫽嫷嫶嬃嫸嬂嫹嬁嬇嬅嬏屧嶙嶗嶟嶒嶢嶓嶕嶠嶜嶡嶚嶞幩幝幠幜緳廛廞廡彉徲憋憃慹憱憰憢憉﷐﷐﷐﷐﷐﷐﷐﷐﷐﷐﷐﷐﷐﷐﷐﷐﷐﷐﷐﷐﷐﷐﷐﷐﷐﷐﷐",
       "﷐﷐﷐﷐﷐﷐﷐憛憓憯憭憟憒憪憡憍慦憳戭摮摰撖撠撅撗撜撏撋撊撌撣撟摨撱撘敶敺敹敻斲斳暵暰暩暲暷暪暯樀樆樗槥槸樕槱槤樠槿槬槢樛樝槾樧槲槮樔槷槧橀樈槦槻樍槼槫樉樄樘樥樏槶樦樇槴樖歑殥殣殢",
       "殦氁氀毿氂潁漦潾澇濆澒"]),
   (0xE6, 0x40, String.join
      ["澍澉澌潢潏澅潚澖潶潬澂潕潲潒潐潗澔澓潝漀潡潫潽潧澐潓澋潩潿澕潣潷潪潻熲熯熛熰熠熚熩熵熝熥熞熤熡熪熜熧熳犘犚獘獒獞獟獠獝獛獡獚獙﷐﷐﷐﷐﷐﷐﷐﷐﷐﷐﷐﷐﷐﷐﷐﷐﷐﷐﷐﷐﷐﷐﷐﷐﷐﷐﷐",
       "﷐﷐﷐﷐﷐﷐﷐獢璇璉璊璆璁瑽璅璈瑼瑹甈甇畾瘥瘞瘙瘝瘜瘣瘚瘨瘛皜皝皞皛瞍瞏瞉瞈磍碻磏磌磑磎磔磈磃磄磉禚禡禠禜禢禛歶稹窲窴窳箷篋箾箬篎箯箹篊箵糅糈糌糋緷緛緪緧緗緡縃緺緦緶緱緰緮緟罶羬羰",
       "羭翭翫翪翬翦翨聤聧膣膟"]),
   (0xE7, 0x40, String.join
      ["膞膕膢膙膗舖艏艓艒艐艎艑蔤蔻蔏蔀蔩蔎蔉蔍蔟蔊蔧蔜蓻蔫蓺蔈蔌蓴蔪蓲蔕蓷蓫蓳蓼蔒蓪蓩蔖蓾蔨蔝蔮蔂蓽蔞蓶蔱蔦蓧蓨蓰蓯蓹蔘蔠蔰蔋蔙蔯虢﷐﷐﷐﷐﷐﷐﷐﷐﷐﷐﷐﷐﷐﷐﷐﷐﷐﷐﷐﷐﷐﷐﷐﷐﷐﷐﷐",
       "﷐﷐﷐﷐﷐﷐﷐蝖蝣蝤蝷蟡蝳蝘蝔蝛蝒蝡蝚蝑蝞蝭蝪蝐蝎蝟蝝蝯蝬蝺蝮蝜蝥蝏蝻蝵蝢蝧蝩衚褅褌褔褋褗褘褙褆褖褑褎褉覢覤覣觭觰觬諏諆誸諓諑諔諕誻諗誾諀諅諘諃誺誽諙谾豍貏賥賟賙賨賚賝賧趠趜趡趛踠",
       "踣踥踤踮踕踛踖踑踙踦踧"]),
   (0xE8, 0x40, String.join
      ["踔踒踘踓踜踗踚輬輤輘輚輠輣輖輗遳遰遯遧遫鄯鄫鄩鄪鄲鄦鄮醅醆醊醁醂醄醀鋐鋃鋄鋀鋙銶鋏鋱鋟鋘鋩鋗鋝鋌鋯鋂鋨鋊鋈鋎鋦鋍鋕鋉鋠鋞鋧鋑鋓﷐﷐﷐﷐﷐﷐﷐﷐﷐﷐﷐﷐﷐﷐﷐﷐﷐﷐﷐﷐﷐﷐﷐﷐﷐﷐﷐",
       "﷐﷐﷐﷐﷐﷐﷐銵鋡鋆銴镼閬閫閮閰隤隢雓霅霈霂靚鞊鞎鞈韐韏頞頝頦頩頨頠頛頧颲餈飺餑餔餖餗餕駜駍駏駓駔駎駉駖駘駋駗駌骳髬髫髳髲髱魆魃魧魴魱魦魶魵魰魨魤魬鳼鳺鳽鳿鳷鴇鴀鳹鳻鴈鴅鴄麃黓鼏鼐",
       "儜儓儗儚儑凞匴叡噰噠噮"]),
   (0xE9, 0x40, String.join
      ["噳噦噣噭噲噞噷圜圛壈墽壉墿墺壂墼壆嬗嬙嬛嬡嬔嬓嬐嬖嬨嬚嬠嬞寯嶬嶱嶩嶧嶵嶰嶮嶪嶨嶲嶭嶯嶴幧幨幦幯廩廧廦廨廥彋徼憝憨憖懅憴懆懁懌憺﷐﷐﷐﷐﷐﷐﷐﷐﷐﷐﷐﷐﷐﷐﷐﷐﷐﷐﷐﷐﷐﷐﷐﷐﷐﷐﷐",
       "﷐﷐﷐﷐﷐﷐﷐憿憸憌擗擖擐擏擉撽撉擃擛擳擙攳敿敼斢曈暾曀曊曋曏暽暻暺曌朣樴橦橉橧樲橨樾橝橭橶橛橑樨橚樻樿橁橪橤橐橏橔橯橩橠樼橞橖橕橍橎橆歕歔歖殧殪殫毈毇氄氃氆澭濋澣濇澼濎濈潞濄澽澞",
       "濊澨瀄澥澮澺澬澪濏澿澸"]),
   (0xEA, 0x40, String.join
      ["澢濉澫濍澯澲澰燅燂熿熸燖燀燁燋燔燊燇燏熽燘熼燆燚燛犝犞獩獦獧獬獥獫獪瑿璚璠璔璒璕璡甋疀瘯瘭瘱瘽瘳瘼瘵瘲瘰皻盦瞚瞝瞡瞜瞛瞢瞣瞕瞙﷐﷐﷐﷐﷐﷐﷐﷐﷐﷐﷐﷐﷐﷐﷐﷐﷐﷐﷐﷐﷐﷐﷐﷐﷐﷐﷐",
       "﷐﷐﷐﷐﷐﷐﷐瞗磝磩磥磪磞磣磛磡磢磭磟磠禤穄穈穇窶窸窵窱窷篞篣篧篝篕篥篚篨篹篔篪篢篜篫篘篟糒糔糗糐糑縒縡縗縌縟縠縓縎縜縕縚縢縋縏縖縍縔縥縤罃罻罼罺羱翯耪耩聬膱膦膮膹膵膫膰膬膴膲膷膧",
       "臲艕艖艗蕖蕅蕫蕍蕓蕡蕘"]),
   (0xEB, 0x40, String.join
      ["蕀蕆蕤蕁蕢蕄蕑蕇蕣蔾蕛蕱蕎蕮蕵蕕蕧蕠薌蕦蕝蕔蕥蕬虣虥虤螛螏螗螓螒螈螁螖螘蝹螇螣螅螐螑螝螄螔螜螚螉褞褦褰褭褮褧褱褢褩褣褯褬褟觱諠﷐﷐﷐﷐﷐﷐﷐﷐﷐﷐﷐﷐﷐﷐﷐﷐﷐﷐﷐﷐﷐﷐﷐﷐﷐﷐﷐",
       "﷐﷐﷐﷐﷐﷐﷐諢諲諴諵諝謔諤諟諰諈諞諡諨諿諯諻貑貒貐賵賮賱賰賳赬赮趥趧踳踾踸蹀蹅踶踼踽蹁踰踿躽輶輮輵輲輹輷輴遶遹遻邆郺鄳鄵鄶醓醐醑醍醏錧錞錈錟錆錏鍺錸錼錛錣錒錁鍆錭錎錍鋋錝鋺錥錓鋹",
       "鋷錴錂錤鋿錩錹錵錪錔錌"]),
   (0xEC, 0x40, String.join
      ["錋鋾錉錀鋻錖閼闍閾閹閺閶閿閵閽隩雔霋霒霐鞙鞗鞔韰韸頵頯頲餤餟餧餩馞駮駬駥駤駰駣駪駩駧骹骿骴骻髶髺髹髷鬳鮀鮅鮇魼魾魻鮂鮓鮒鮐魺鮕﷐﷐﷐﷐﷐﷐﷐﷐﷐﷐﷐﷐﷐﷐﷐﷐﷐﷐﷐﷐﷐﷐﷐﷐﷐﷐﷐",
       "﷐﷐﷐﷐﷐﷐﷐魽鮈鴥鴗鴠鴞鴔鴩鴝鴘鴢鴐鴙鴟麈麆麇麮麭黕黖黺鼒鼽儦儥儢儤儠儩勴嚓嚌嚍嚆嚄嚃噾嚂噿嚁壖壔壏壒嬭嬥嬲嬣嬬嬧嬦嬯嬮孻寱寲嶷幬幪徾徻懃憵憼懧懠懥懤懨懞擯擩擣擫擤擨斁斀斶旚曒檍",
       "檖檁檥檉檟檛檡檞檇檓檎"]),
   (0xED, 0x40, String.join
      ["檕檃檨檤檑橿檦檚檅檌檒歛殭氉濌澩濴濔濣濜濭濧濦濞濲濝濢濨燡燱燨燲燤燰燢獳獮獯璗璲璫璐璪璭璱璥璯甐甑甒甏疄癃癈癉癇皤盩瞵瞫瞲瞷瞶﷐﷐﷐﷐﷐﷐﷐﷐﷐﷐﷐﷐﷐﷐﷐﷐﷐﷐﷐﷐﷐﷐﷐﷐﷐﷐﷐",
       "﷐﷐﷐﷐﷐﷐﷐瞴瞱瞨矰磳磽礂磻磼磲礅磹磾礄禫禨穜穛穖穘穔穚窾竀竁簅簏篲簀篿篻簎篴簋篳簂簉簃簁篸篽簆篰篱簐簊糨縭縼繂縳顈縸縪繉繀繇縩繌縰縻縶繄縺罅罿罾罽翴翲耬膻臄臌臊臅臇膼臩艛艚艜薃",
       "薀薏薧薕薠薋薣蕻薤薚薞"]),
   (0xEE, 0x40, String.join
      ["蕷蕼薉薡蕺蕸蕗薎薖薆薍薙薝薁薢薂薈薅蕹蕶薘薐薟虨螾螪螭蟅螰螬螹螵螼螮蟉蟃蟂蟌螷螯蟄蟊螴螶螿螸螽蟞螲褵褳褼褾襁襒褷襂覭覯覮觲觳謞﷐﷐﷐﷐﷐﷐﷐﷐﷐﷐﷐﷐﷐﷐﷐﷐﷐﷐﷐﷐﷐﷐﷐﷐﷐﷐﷐",
       "﷐﷐﷐﷐﷐﷐﷐謘謖謑謅謋謢謏謒謕謇謍謈謆謜謓謚豏豰豲豱豯貕貔賹赯蹎蹍蹓蹐蹌蹇轃轀邅遾鄸醚醢醛醙醟醡醝醠鎡鎃鎯鍤鍖鍇鍼鍘鍜鍶鍉鍐鍑鍠鍭鎏鍌鍪鍹鍗鍕鍒鍏鍱鍷鍻鍡鍞鍣鍧鎀鍎鍙闇闀闉闃闅閷",
       "隮隰隬霠霟霘霝霙鞚鞡鞜"]),
   (0xEF, 0x40, String.join
      ["鞞鞝韕韔韱顁顄顊顉顅顃餥餫餬餪餳餲餯餭餱餰馘馣馡騂駺駴駷駹駸駶駻駽駾駼騃骾髾髽鬁髼魈鮚鮨鮞鮛鮦鮡鮥鮤鮆鮢鮠鮯鴳鵁鵧鴶鴮鴯鴱鴸鴰﷐﷐﷐﷐﷐﷐﷐﷐﷐﷐﷐﷐﷐﷐﷐﷐﷐﷐﷐﷐﷐﷐﷐﷐﷐﷐﷐",
       "﷐﷐﷐﷐﷐﷐﷐鵅鵂鵃鴾鴷鵀鴽翵鴭麊麉麍麰黈黚黻黿鼤鼣鼢齔龠儱儭儮嚘嚜嚗嚚嚝嚙奰嬼屩屪巀幭幮懘懟懭懮懱懪懰懫懖懩擿攄擽擸攁攃擼斔旛曚曛曘櫅檹檽櫡櫆檺檶檷櫇檴檭歞毉氋瀇瀌瀍瀁瀅瀔瀎濿瀀",
       "濻瀦濼濷瀊爁燿燹爃燽獶"]),
   (0xF0, 0x40, String.join
      ["璸瓀璵瓁璾璶璻瓂甔甓癜癤癙癐癓癗癚皦皽盬矂瞺磿礌礓礔礉礐礒礑禭禬穟簜簩簙簠簟簭簝簦簨簢簥簰繜繐繖繣繘繢繟繑繠繗繓羵羳翷翸聵臑臒﷐﷐﷐﷐﷐﷐﷐﷐﷐﷐﷐﷐﷐﷐﷐﷐﷐﷐﷐﷐﷐﷐﷐﷐﷐﷐﷐",
       "﷐﷐﷐﷐﷐﷐﷐臐艟艞薴藆藀藃藂薳薵薽藇藄薿藋藎藈藅薱薶藒蘤薸薷薾虩蟧蟦蟢蟛蟫蟪蟥蟟蟳蟤蟔蟜蟓蟭蟘蟣螤蟗蟙蠁蟴蟨蟝襓襋襏襌襆襐襑襉謪謧謣謳謰謵譇謯謼謾謱謥謷謦謶謮謤謻謽謺豂豵貙貘貗賾",
       "贄贂贀蹜蹢蹠蹗蹖蹞蹥蹧"]),
   (0xF1, 0x40, String.join
      ["蹛蹚蹡蹝蹩蹔轆轇轈轋鄨鄺鄻鄾醨醥醧醯醪鎵鎌鎒鎷鎛鎝鎉鎧鎎鎪鎞鎦鎕鎈鎙鎟鎍鎱鎑鎲鎤鎨鎴鎣鎥闒闓闑隳雗雚巂雟雘雝霣霢霥鞬鞮鞨鞫鞤鞪﷐﷐﷐﷐﷐﷐﷐﷐﷐﷐﷐﷐﷐﷐﷐﷐﷐﷐﷐﷐﷐﷐﷐﷐﷐﷐﷐",
       "﷐﷐﷐﷐﷐﷐﷐鞢鞥韗韙韖韘韺顐顑顒颸饁餼餺騏騋騉騍騄騑騊騅騇騆髀髜鬈鬄鬅鬩鬵魊魌魋鯇鯆鯃鮿鯁鮵鮸鯓鮶鯄鮹鮽鵜鵓鵏鵊鵛鵋鵙鵖鵌鵗鵒鵔鵟鵘鵚麎麌黟鼁鼀鼖鼥鼫鼪鼩鼨齌齕儴儵劖勷厴嚫嚭嚦嚧",
       "嚪嚬壚壝壛夒嬽嬾嬿巃幰"]),
   (0xF2, 0x40, String.join
      ["徿懻攇攐攍攉攌攎斄旞旝曞櫧櫠櫌櫑櫙櫋櫟櫜櫐櫫櫏櫍櫞歠殰氌瀙瀧瀠瀖瀫瀡瀢瀣瀩瀗瀤瀜瀪爌爊爇爂爅犥犦犤犣犡瓋瓅璷瓃甖癠矉矊矄矱礝礛﷐﷐﷐﷐﷐﷐﷐﷐﷐﷐﷐﷐﷐﷐﷐﷐﷐﷐﷐﷐﷐﷐﷐﷐﷐﷐﷐",
       "﷐﷐﷐﷐﷐﷐﷐礡礜礗礞禰穧穨簳簼簹簬簻糬糪繶繵繸繰繷繯繺繲繴繨罋罊羃羆羷翽翾聸臗臕艤艡艣藫藱藭藙藡藨藚藗藬藲藸藘藟藣藜藑藰藦藯藞藢蠀蟺蠃蟶蟷蠉蠌蠋蠆蟼蠈蟿蠊蠂襢襚襛襗襡襜襘襝襙覈覷",
       "覶觶譐譈譊譀譓譖譔譋譕"]),
   (0xF3, 0x40, String.join
      ["譑譂譒譗豃豷豶貚贆贇贉趬趪趭趫蹭蹸蹳蹪蹯蹻軂轒轑轏轐轓辴酀鄿醰醭鏞鏇鏏鏂鏚鏐鏹鏬鏌鏙鎩鏦鏊鏔鏮鏣鏕鏄鏎鏀鏒鏧镽闚闛雡霩霫霬霨霦﷐﷐﷐﷐﷐﷐﷐﷐﷐﷐﷐﷐﷐﷐﷐﷐﷐﷐﷐﷐﷐﷐﷐﷐﷐﷐﷐",
       "﷐﷐﷐﷐﷐﷐﷐鞳鞷鞶韝韞韟顜顙顝顗颿颽颻颾饈饇饃馦馧騚騕騥騝騤騛騢騠騧騣騞騜騔髂鬋鬊鬎鬌鬷鯪鯫鯠鯞鯤鯦鯢鯰鯔鯗鯬鯜鯙鯥鯕鯡鯚鵷鶁鶊鶄鶈鵱鶀鵸鶆鶋鶌鵽鵫鵴鵵鵰鵩鶅鵳鵻鶂鵯鵹鵿鶇鵨麔麑",
       "黀黼鼭齀齁齍齖齗齘匷嚲"]),
   (0xF4, 0x40, String.join
      ["嚵嚳壣孅巆巇廮廯忀忁懹攗攖攕攓旟曨曣曤櫳櫰櫪櫨櫹櫱櫮櫯瀼瀵瀯瀷瀴瀱灂瀸瀿瀺瀹灀瀻瀳灁爓爔犨獽獼璺皫皪皾盭矌矎矏矍矲礥礣礧礨礤礩﷐﷐﷐﷐﷐﷐﷐﷐﷐﷐﷐﷐﷐﷐﷐﷐﷐﷐﷐﷐﷐﷐﷐﷐﷐﷐﷐",
       "﷐﷐﷐﷐﷐﷐﷐禲穮穬穭竷籉籈籊籇籅糮繻繾纁纀羺翿聹臛臙舋艨艩蘢藿蘁藾蘛蘀藶蘄蘉蘅蘌藽蠙蠐蠑蠗蠓蠖襣襦覹觷譠譪譝譨譣譥譧譭趮躆躈躄轙轖轗轕轘轚邍酃酁醷醵醲醳鐋鐓鏻鐠鐏鐔鏾鐕鐐鐨鐙鐍鏵",
       "鐀鏷鐇鐎鐖鐒鏺鐉鏸鐊鏿"]),
   (0xF5, 0x40, String.join
      ["鏼鐌鏶鐑鐆闞闠闟霮霯鞹鞻韽韾顠顢顣顟飁飂饐饎饙饌饋饓騲騴騱騬騪騶騩騮騸騭髇髊髆鬐鬒鬑鰋鰈鯷鰅鰒鯸鱀鰇鰎鰆鰗鰔鰉鶟鶙鶤鶝鶒鶘鶐鶛﷐﷐﷐﷐﷐﷐﷐﷐﷐﷐﷐﷐﷐﷐﷐﷐﷐﷐﷐﷐﷐﷐﷐﷐﷐﷐﷐",
       "﷐﷐﷐﷐﷐﷐﷐鶠鶔鶜鶪鶗鶡鶚鶢鶨鶞鶣鶿鶩鶖鶦鶧麙麛麚黥黤黧黦鼰鼮齛齠齞齝齙龑儺儹劘劗囃嚽嚾孈孇巋巏廱懽攛欂櫼欃櫸欀灃灄灊灈灉灅灆爝爚爙獾甗癪矐礭礱礯籔籓糲纊纇纈纋纆纍罍羻耰臝蘘蘪蘦",
       "蘟蘣蘜蘙蘧蘮蘡蘠蘩蘞蘥"]),
   (0xF6, 0x40, String.join
      ["蠩蠝蠛蠠蠤蠜蠫衊襭襩襮襫觺譹譸譅譺譻贐贔趯躎躌轞轛轝酆酄酅醹鐿鐻鐶鐩鐽鐼鐰鐹鐪鐷鐬鑀鐱闥闤闣霵霺鞿韡顤飉飆飀饘饖騹騽驆驄驂驁騺﷐﷐﷐﷐﷐﷐﷐﷐﷐﷐﷐﷐﷐﷐﷐﷐﷐﷐﷐﷐﷐﷐﷐﷐﷐﷐﷐",
       "﷐﷐﷐﷐﷐﷐﷐騿髍鬕鬗鬘鬖鬺魒鰫鰝鰜鰬鰣鰨鰩鰤鰡鶷鶶鶼鷁鷇鷊鷏鶾鷅鷃鶻鶵鷎鶹鶺鶬鷈鶱鶭鷌鶳鷍鶲鹺麜黫黮黭鼛鼘鼚鼱齎齥齤龒亹囆囅囋奱孋孌巕巑廲攡攠攦攢欋欈欉氍灕灖灗灒爞爟犩獿瓘瓕瓙瓗",
       "癭皭礵禴穰穱籗籜籙籛籚"]),
   (0xF7, 0x40, String.join
      ["糴糱纑罏羇臞艫蘴蘵蘳蘬蘲蘶蠬蠨蠦蠪蠥襱覿覾觻譾讄讂讆讅譿贕躕躔躚躒躐躖躗轠轢酇鑌鑐鑊鑋鑏鑇鑅鑈鑉鑆霿韣顪顩飋饔饛驎驓驔驌驏驈驊﷐﷐﷐﷐﷐﷐﷐﷐﷐﷐﷐﷐﷐﷐﷐﷐﷐﷐﷐﷐﷐﷐﷐﷐﷐﷐﷐",
       "﷐﷐﷐﷐﷐﷐﷐驉驒驐髐鬙鬫鬻魖魕鱆鱈鰿鱄鰹鰳鱁鰼鰷鰴鰲鰽鰶鷛鷒鷞鷚鷋鷐鷜鷑鷟鷩鷙鷘鷖鷵鷕鷝麶黰鼵鼳鼲齂齫龕龢儽劙壨壧奲孍巘蠯彏戁戃戄攩攥斖曫欑欒欏毊灛灚爢玂玁玃癰矔籧籦纕艬蘺虀蘹蘼",
       "蘱蘻蘾蠰蠲蠮蠳襶襴襳觾"]),
   (0xF8, 0x40, String.join
      ["讌讎讋讈豅贙躘轤轣醼鑢鑕鑝鑗鑞韄韅頀驖驙鬞鬟鬠鱒鱘鱐鱊鱍鱋鱕鱙鱌鱎鷻鷷鷯鷣鷫鷸鷤鷶鷡鷮鷦鷲鷰鷢鷬鷴鷳鷨鷭黂黐黲黳鼆鼜鼸鼷鼶齃齏﷐﷐﷐﷐﷐﷐﷐﷐﷐﷐﷐﷐﷐﷐﷐﷐﷐﷐﷐﷐﷐﷐﷐﷐﷐﷐﷐",
       "﷐﷐﷐﷐﷐﷐﷐齱齰齮齯囓囍孎屭攭曭曮欓灟灡灝灠爣瓛瓥矕礸禷禶籪纗羉艭虃蠸蠷蠵衋讔讕躞躟躠躝醾醽釂鑫鑨鑩雥靆靃靇韇韥驞髕魙鱣鱧鱦鱢鱞鱠鸂鷾鸇鸃鸆鸅鸀鸁鸉鷿鷽鸄麠鼞齆齴齵齶囔攮斸欘欙欗",
       "欚灢爦犪矘矙礹籩籫糶纚"]),
   (0xF9, 0x40, String.join
      ["纘纛纙臠臡虆虇虈襹襺襼襻觿讘讙躥躤躣鑮鑭鑯鑱鑳靉顲饟鱨鱮鱭鸋鸍鸐鸏鸒鸑麡黵鼉齇齸齻齺齹圞灦籯蠼趲躦釃鑴鑸鑶鑵驠鱴鱳鱱鱵鸔鸓黶鼊﷐﷐﷐﷐﷐﷐﷐﷐﷐﷐﷐﷐﷐﷐﷐﷐﷐﷐﷐﷐﷐﷐﷐﷐﷐﷐﷐",
       "﷐﷐﷐﷐﷐﷐﷐龤灨灥糷虪蠾蠽蠿讞貜躩軉靋顳顴飌饡馫驤驦驧鬤鸕鸗齈戇欞爧虌躨钂钀钁驩驨鬮鸙爩虋讟钃鱹麷癵驫鱺鸝灩灪麤齾齉龘"])]

/-- The rows of second bytes of `big5`. -/
def big5Rows : List (Nat × Nat × String) :=
  big5Rows1 ++
    big5Rows2

/-- The multibyte code `big5`. -/
def big5 : MultibyteCode where
  name := "big5"
  first := String.join
    ["\x00\x01\x02\x03\x04\x05\x06\x07\x08\x09\x0a\x0b\x0c\x0d\x0e\x0f\x10\x11\x12\x13\x14\x15\x16",
     "\x17\x18\x19\x1a\x1b\x1c\x1d\x1e\x1f\x20\x21\x22\x23\x24\x25\x26\x27\x28\x29\x2a\x2b\x2c\x2d",
     "\x2e\x2f0123456789\x3a\x3b\x3c\x3d\x3e\x3f\x40ABCDEFGHIJKLMNOPQRSTUVWXYZ\x5b\x5c\x5d\x5e\x5f",
     "\x60abcdefghijklmnopqrstuvwxyz\x7b\x7c\x7d\x7e\x7f﷒﷒﷒﷒﷒﷒﷒﷒﷒﷒﷒﷒﷒﷒﷒﷒﷒﷒﷒﷒﷒﷒﷒﷒﷒﷒﷒﷒﷒﷒﷒﷒﷒﷒﷒﷒﷒﷒﷒﷒﷒﷒",
     "﷒﷒﷒﷒﷒﷒﷒﷒﷒﷒﷒﷒﷒﷒﷒﷒﷒﷒﷒﷒﷒﷒﷒﷒﷒﷒﷒﷒﷒﷒﷒﷒﷒﷒﷒﷒﷒﷒﷒﷒﷒﷒﷒﷒﷒﷒﷒﷒﷒﷒﷒﷒﷒﷒﷒﷒﷒﷒﷒﷒﷒﷒﷒﷒﷒﷒﷒﷒﷒﷒﷒﷒﷒﷒﷒﷒﷒﷒﷒﷒﷒﷒﷒﷒﷒﷒"]
  rows := big5Rows
  lastWins := true

end MultibyteCode

end Stencil.Files
