/-! # Characters that stand for several

Letters that are written as one, fractions, numbers in brackets and the like stand for
several plain characters. The table lists them in runs of neighbours: the first code
point, and what each stands for, with bars between.
-/

namespace LedgerClient.Domain

/-- Runs of characters that stand for several others each. -/
def ligatureTexts : List (Nat × String) :=
  [(0xa8, " \u0308"), (0xaf, " \u0304"), (0xb4, " \u0301"), (0xb8, " \u0327"),
   (0xbc, "1⁄4|1⁄2|3⁄4"), (0x130, "i\u0307"), (0x132, "ij|ij"), (0x13f, "l·|l·"), (0x149, "ʼn"),
   (0x1c4, "dž|dž|dž|lj|lj|lj|nj|nj|nj"), (0x1f1, "dz|dz|dz"),
   (0x2d8, " \u0306| \u0307| \u030a| \u0328| \u0303| \u030b"), (0x344, "\u0308\u0301"),
   (0x37a, " ι"), (0x384, " \u0301| \u0308\u0301"), (0x587, "եւ"), (0x675, "اٴ|وٴ|ۇٴ|يٴ"),
   (0x958, "क\u093c|ख\u093c|ग\u093c|ज\u093c|ड\u093c|ढ\u093c|फ\u093c|य\u093c"),
   (0x9dc, "ড\u09bc|ঢ\u09bc"), (0x9df, "য\u09bc"), (0xa33, "ਲ\u0a3c"), (0xa36, "ਸ\u0a3c"),
   (0xa59, "ਖ\u0a3c|ਗ\u0a3c|ਜ\u0a3c"), (0xa5e, "ਫ\u0a3c"), (0xb5c, "ଡ\u0b3c|ଢ\u0b3c"),
   (0xe33, "\u0e4dา"), (0xeb3, "\u0ecdາ"), (0xedc, "ຫນ|ຫມ"), (0xf43, "ག\u0fb7"),
   (0xf4d, "ཌ\u0fb7"), (0xf52, "ད\u0fb7"), (0xf57, "བ\u0fb7"), (0xf5c, "ཛ\u0fb7"),
   (0xf69, "ཀ\u0fb5"), (0xf73, "\u0f71\u0f72"),
   (0xf75, "\u0f71\u0f74|\u0fb2\u0f80|\u0fb2\u0f71\u0f80|\u0fb3\u0f80"),
   (0xf79, "\u0fb3\u0f71\u0f80"), (0xf81, "\u0f71\u0f80"), (0xf93, "\u0f92\u0fb7"),
   (0xf9d, "\u0f9c\u0fb7"), (0xfa2, "\u0fa1\u0fb7"), (0xfa7, "\u0fa6\u0fb7"),
   (0xfac, "\u0fab\u0fb7"), (0xfb9, "\u0f90\u0fb5"), (0x1e9a, "aʾ"),
   (0x1f80, "ἀι|ἁι|ἂι|ἃι|ἄι|ἅι|ἆι|ἇι|ἀι|ἁι|ἂι|ἃι|ἄι|ἅι|ἆι|ἇι|ἠι|ἡι|ἢι|ἣι|ἤι"),
   (0x1f95, "ἥι|ἦι|ἧι|ἠι|ἡι|ἢι|ἣι|ἤι|ἥι|ἦι|ἧι|ὠι|ὡι|ὢι|ὣι|ὤι|ὥι|ὦι|ὧι|ὠι|ὡι"),
   (0x1faa, "ὢι|ὣι|ὤι|ὥι|ὦι|ὧι"), (0x1fb2, "ὰι|αι|άι"), (0x1fb7, "ᾶι"), (0x1fbc, "αι| \u0313"),
   (0x1fbf, " \u0313| \u0342| \u0308\u0342|ὴι|ηι|ήι"), (0x1fc7, "ῆι"),
   (0x1fcc, "ηι| \u0313\u0300| \u0313\u0301| \u0313\u0342"),
   (0x1fdd, " \u0314\u0300| \u0314\u0301| \u0314\u0342"), (0x1fed, " \u0308\u0300| \u0308\u0301"),
   (0x1ff2, "ὼι|ωι|ώι"), (0x1ff7, "ῶι"), (0x1ffc, "ωι| \u0301| \u0314"), (0x2017, " \u0333"),
   (0x2033, "′′|′′′"), (0x2036, "‵‵|‵‵‵"), (0x203c, "!!"), (0x203e, " \u0305"),
   (0x2047, "??|?!|!?"), (0x2057, "′′′′"), (0x20a8, "rs"), (0x2100, "a/c|a/s"), (0x2103, "°c"),
   (0x2105, "c/o|c/u"), (0x2109, "°f"), (0x2116, "no"), (0x2120, "sm|tel|tm"), (0x213b, "fax"),
   (0x2150, "1⁄7|1⁄9|1⁄10|1⁄3|2⁄3|1⁄5|2⁄5|3⁄5|4⁄5|1⁄6|5⁄6|1⁄8|3⁄8|5⁄8|7⁄8|1⁄"),
   (0x2161, "ii|iii|iv"), (0x2165, "vi|vii|viii|ix"), (0x216a, "xi|xii"), (0x2171, "ii|iii|iv"),
   (0x2175, "vi|vii|viii|ix"), (0x217a, "xi|xii"), (0x2189, "0⁄3"), (0x222c, "∫∫|∫∫∫"),
   (0x222f, "∮∮|∮∮∮"), (0x2469, "10|11|12|13|14|15|16|17|18|19|20|(1)|(2)|(3)|(4)|(5)|(6)|(7)"),
   (0x247b, "(8)|(9)|(10)|(11)|(12)|(13)|(14)|(15)|(16)|(17)|(18)|(19)|(20)"),
   (0x249c, "(a)|(b)|(c)|(d)|(e)|(f)|(g)|(h)|(i)|(j)|(k)|(l)|(m)|(n)|(o)|(p)"),
   (0x24ac, "(q)|(r)|(s)|(t)|(u)|(v)|(w)|(x)|(y)|(z)"), (0x2a0c, "∫∫∫∫"), (0x2a74, "::=|==|==="),
   (0x2adc, "⫝\u0338"), (0x309b, " \u3099| \u309a"), (0x309f, "より"), (0x30ff, "コト"),
   (0x3200, "(ᄀ)|(ᄂ)|(ᄃ)|(ᄅ)|(ᄆ)|(ᄇ)|(ᄉ)|(ᄋ)|(ᄌ)|(ᄎ)|(ᄏ)|(ᄐ)|(ᄑ)|(ᄒ)|(가)|(나)"),
   (0x3210, "(다)|(라)|(마)|(바)|(사)|(아)|(자)|(차)|(카)|(타)|(파)|(하)|(주)|(오전)|(오후)"),
   (0x3220, "(一)|(二)|(三)|(四)|(五)|(六)|(七)|(八)|(九)|(十)|(月)|(火)|(水)|(木)|(金)|(土)"),
   (0x3230, "(日)|(株)|(有)|(社)|(名)|(特)|(財)|(祝)|(労)|(代)|(呼)|(学)|(監)|(企)|(資)|(協)"),
   (0x3240, "(祭)|(休)|(自)|(至)"), (0x3250, "pte|21|22|23|24|25|26|27|28|29|30|31|32|33|34|35"),
   (0x327c, "참고|주의"), (0x32b1, "36|37|38|39|40|41|42|43|44|45|46|47|48|49|50|1月|2月|3月|4月|5月|6月"),
   (0x32c6, "7月|8月|9月|10月|11月|12月|hg|erg|ev|ltd"),
   (0x32ff, "令和|アパート|アルファ|アンペア|アール|イニング|インチ|ウォン|エスクード|エーカー|オンス|オーム|カイリ|カラット"),
   (0x330d, "カロリー|ガロン|ガンマ|ギガ|ギニー|キュリー|ギルダー|キロ|キログラム|キロメートル|キロワット|グラム|グラムトン"),
   (0x331a, "クルゼイロ|クローネ|ケース|コルナ|コーポ|サイクル|サンチーム|シリング|センチ|セント|ダース|デシ|ドル|トン|ナノ"),
   (0x3329, "ノット|ハイツ|パーセント|パーツ|バーレル|ピアストル|ピクル|ピコ|ビル|ファラッド|フィート|ブッシェル|フラン"),
   (0x3336, "ヘクタール|ペソ|ペニヒ|ヘルツ|ペンス|ページ|ベータ|ポイント|ボルト|ホン|ポンド|ホール|ホーン|マイクロ|マイル"),
   (0x3345, "マッハ|マルク|マンション|ミクロン|ミリ|ミリバール|メガ|メガトン|メートル|ヤード|ヤール|ユアン|リットル|リラ"),
   (0x3353, "ルピー|ルーブル|レム|レントゲン|ワット|0点|1点|2点|3点|4点|5点|6点|7点|8点|9点|10点|11点|12点"),
   (0x3365, "13点|14点|15点|16点|17点|18点|19点|20点|21点|22点|23点|24点|hpa|da|au|bar"),
   (0x3375, "ov|pc|dm|dm2|dm3|iu|平成|昭和|大正|明治|株式会社|pa|na|μa|ma|ka|kb|mb|gb"),
   (0x3388, "cal|kcal|pf|nf|μf|μg|mg|kg|hz|khz|mhz|ghz|thz|μl|ml|dl|kl|fm|nm"),
   (0x339b, "μm|mm|cm|km|mm2|cm2|m2|km2|mm3|cm3|m3|km3|m∕s|m∕s2|pa|kpa|mpa"),
   (0x33ac, "gpa|rad|rad∕s|rad∕s2|ps|ns|μs|ms|pv|nv|μv|mv|kv|mv|pw|nw|μw|mw"),
   (0x33be, "kw|mw|kω|mω"), (0x33c3, "bq|cc|cd|c∕kg"),
   (0x33c8, "db|gy|ha|hp|in|kk|km|kt|lm|ln|log|lx|mb|mil|mol|ph"),
   (0x33d9, "ppm|pr|sr|sv|wb|v∕m|a∕m|1日|2日|3日|4日|5日|6日|7日|8日|9日|10日|11日|12日"),
   (0x33ec, "13日|14日|15日|16日|17日|18日|19日|20日|21日|22日|23日|24日|25日|26日|27日|28日"),
   (0x33fc, "29日|30日|31日|gal"), (0xfb00, "ff|fi|fl|ffi|ffl|st|st"), (0xfb13, "մն|մե|մի|վն|մխ"),
   (0xfb1d, "י\u05b4"), (0xfb1f, "ײ\u05b7"),
   (0xfb2a, "ש\u05c1|ש\u05c2|ש\u05bc\u05c1|ש\u05bc\u05c2|א\u05b7|א\u05b8"),
   (0xfb30, "א\u05bc|ב\u05bc|ג\u05bc|ד\u05bc|ה\u05bc|ו\u05bc|ז\u05bc"),
   (0xfb38, "ט\u05bc|י\u05bc|ך\u05bc|כ\u05bc|ל\u05bc"), (0xfb3e, "מ\u05bc"),
   (0xfb40, "נ\u05bc|ס\u05bc"), (0xfb43, "ף\u05bc|פ\u05bc"),
   (0xfb46, "צ\u05bc|ק\u05bc|ר\u05bc|ש\u05bc|ת\u05bc|ו\u05b9|ב\u05bf|כ\u05bf"),
   (0xfb4e, "פ\u05bf|אל"), (0xfbdd, "ۇٴ"),
   (0xfbea, "ئا|ئا|ئە|ئە|ئو|ئو|ئۇ|ئۇ|ئۆ|ئۆ|ئۈ|ئۈ|ئې|ئې|ئې|ئى|ئى|ئى"),
   (0xfc00, "ئج|ئح|ئم|ئى|ئي|بج|بح|بخ|بم|بى|بي|تج|تح|تخ|تم|تى|تي|ثج|ثم|ثى|ثي"),
   (0xfc15, "جح|جم|حج|حم|خج|خح|خم|سج|سح|سخ|سم|صح|صم|ضج|ضح|ضخ|ضم|طح|طم|ظم|عج"),
   (0xfc2a, "عم|غج|غم|فج|فح|فخ|فم|فى|في|قح|قم|قى|قي|كا|كج|كح|كخ|كل|كم|كى|كي"),
   (0xfc3f, "لج|لح|لخ|لم|لى|لي|مج|مح|مخ|مم|مى|مي|نج|نح|نخ|نم|نى|ني|هج|هم|هى"),
   (0xfc54, "هي|يج|يح|يخ|يم|يى|يي|ذ\u0670|ر\u0670|ى\u0670| \u064c\u0651"),
   (0xfc5f, " \u064d\u0651| \u064e\u0651| \u064f\u0651| \u0650\u0651"),
   (0xfc63, " \u0651\u0670|ئر|ئز|ئم|ئن|ئى|ئي|بر|بز|بم|بن|بى|بي|تر|تز|تم|تن"),
   (0xfc74, "تى|تي|ثر|ثز|ثم|ثن|ثى|ثي|فى|في|قى|قي|كا|كل|كم|كى|كي|لم|لى|لي|ما"),
   (0xfc89, "مم|نر|نز|نم|نن|نى|ني|ى\u0670|ير|يز|يم|ين|يى|يي|ئج|ئح|ئخ|ئم|ئه"),
   (0xfc9c, "بج|بح|بخ|بم|به|تج|تح|تخ|تم|ته|ثم|جح|جم|حج|حم|خج|خم|سج|سح|سخ|سم"),
   (0xfcb1, "صح|صخ|صم|ضج|ضح|ضخ|ضم|طح|ظم|عج|عم|غج|غم|فج|فح|فخ|فم|قح|قم|كج|كح"),
   (0xfcc6, "كخ|كل|كم|لج|لح|لخ|لم|له|مج|مح|مخ|مم|نج|نح|نخ|نم|نه|هج|هم"),
   (0xfcd9, "ه\u0670|يج|يح|يخ|يم|يه|ئم|ئه|بم|به|تم|ته|ثم|ثه|سم|سه|شم|شه|كل"),
   (0xfcec, "كم|لم|نم|نه|يم|يه|ـ\u064e\u0651|ـ\u064f\u0651|ـ\u0650\u0651|طى"),
   (0xfcf6, "طي|عى|عي|غى|غي|سى|سي|شى|شي|حى|حي|جى|جي|خى|خي|صى|صي|ضى|ضي|شج|شح"),
   (0xfd0b, "شخ|شم|شر|سر|صر|ضر|طى|طي|عى|عي|غى|غي|سى|سي|شى|شي|حى|حي|جى|جي|خى"),
   (0xfd20, "خي|صى|صي|ضى|ضي|شج|شح|شخ|شم|شر|سر|صر|ضر|شج|شح|شخ|شم|سه|شه|طم|سج"),
   (0xfd35, "سح|سخ|شج|شح|شخ|طم|ظم|ا\u064b|ا\u064b"),
   (0xfd50, "تجم|تحج|تحج|تحم|تخم|تمج|تمح|تمخ|جمح|جمح|حمي|حمى|سحج|سجح|سجى|سمح"),
   (0xfd60, "سمح|سمج|سمم|سمم|صحح|صحح|صمم|شحم|شحم|شجي|شمخ|شمخ|شمم|شمم|ضحى|ضخم"),
   (0xfd70, "ضخم|طمح|طمح|طمم|طمي|عجم|عمم|عمم|عمى|غمم|غمي|غمى|فخم|فخم|قمح|قمم"),
   (0xfd80, "لحم|لحي|لحى|لجج|لجج|لخم|لخم|لمح|لمح|محج|محم|محي|مجح|مجم|مخج|مخم"),
   (0xfd92, "مجخ|همج|همم|نحم|نحى|نجم|نجم|نجى|نمي|نمى|يمم|يمم|بخي|تجي|تجى|تخي"),
   (0xfda2, "تخى|تمي|تمى|جمي|جحى|جمى|سخى|صحي|شحي|ضحي|لجي|لمي|يحي|يجي|يمي|ممي"),
   (0xfdb2, "قمي|نحي|قمح|لحم|عمي|كمي|نجح|مخي|لجم|كمم|لجم|نجح|جحي|حجي|مجي|فمي"),
   (0xfdc2, "بحي|كمم|عجم|صمم|سخي|نجي"),
   (0xfdf0, "صلے|قلے|الله|اكبر|محمد|صلعم|رسول|عليه|وسلم|صلى"),
   (0xfdfa, "صلى الله عليه وسلم|جل جلاله|ریال"), (0xfe49, " \u0305| \u0305| \u0305| \u0305"),
   (0xfe70, " \u064b|ـ\u064b| \u064c"), (0xfe74, " \u064d"),
   (0xfe76, " \u064e|ـ\u064e| \u064f|ـ\u064f| \u0650|ـ\u0650| \u0651|ـ\u0651"),
   (0xfe7e, " \u0652|ـ\u0652"), (0xfef5, "لآ|لآ|لأ|لأ|لإ|لإ|لا|لا"), (0xffe3, " \u0304"),
   (0x1d15e, "𝅗𝅥|𝅘𝅥|𝅘𝅥𝅮|𝅘𝅥𝅯|𝅘𝅥𝅰|𝅘𝅥𝅱|𝅘𝅥𝅲"), (0x1d1bb, "𝆹𝅥|𝆺𝅥|𝆹𝅥𝅮|𝆺𝅥𝅮|𝆹𝅥𝅯|𝆺𝅥𝅯"),
   (0x1f101, "0,|1,|2,|3,|4,|5,|6,|7,|8,|9,"),
   (0x1f110, "(a)|(b)|(c)|(d)|(e)|(f)|(g)|(h)|(i)|(j)|(k)|(l)|(m)|(n)|(o)|(p)"),
   (0x1f120, "(q)|(r)|(s)|(t)|(u)|(v)|(w)|(x)|(y)|(z)|〔s〕"), (0x1f12d, "cd|wz"),
   (0x1f14a, "hv|mv|sd|ss|ppv|wc"), (0x1f16a, "mc|md|mr"), (0x1f190, "dj"), (0x1f200, "ほか|ココ"),
   (0x1f240, "〔本〕|〔三〕|〔二〕|〔安〕|〔点〕|〔打〕|〔盗〕|〔勝〕|〔敗〕")]

/-- The runs, with the place of each character at hand. -/
def ligatureRuns : List (Nat × Array (List Char)) :=
  ligatureTexts.map fun (first, images) =>
    (first, ((images.splitOn "|").map String.toList).toArray)

/-- The characters that a character stands for, if they are several. -/
def ligature? (c : Char) : Option (List Char) :=
  ligatureRuns.findSome? fun (first, images) =>
    if first ≤ c.toNat then images[c.toNat - first]? else none

end LedgerClient.Domain
