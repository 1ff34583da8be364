/-! # Characters that stand for another

A name may be written with capitals, with letters that are set wide, bold or in a
circle, and with other forms of a character. Each stands for one plain character. The
table lists them in runs: the first code point, the step from one to the next, and
the text of what they stand for.
-/

namespace LedgerClient.Domain

/-- Runs of characters that stand for one other character each. -/
def letterTexts : List (Nat × Nat × String) :=
  [(0x41, 1, "abcdefghijklmnopqrstuvwxyz"), (0xa0, 1, " "), (0xaa, 1, "a"), (0xb2, 1, "23"),
   (0xb5, 1, "μ"), (0xb9, 1, "1o"), (0xc0, 1, "àáâãäåæçèéêëìíîïðñòóôõö"), (0xd8, 1, "øùúûüýþ"),
   (0x100, 2, "āăąćĉċčďđēĕėęěĝğġģĥħĩīĭį"), (0x134, 2, "ĵķ"), (0x139, 2, "ĺļľ"),
   (0x141, 2, "łńņň"), (0x14a, 2, "ŋōŏőœŕŗřśŝşšţťŧũūŭůűųŵŷÿ"), (0x179, 2, "źżžsɓ"),
   (0x182, 2, "ƃƅɔ"), (0x187, 2, "ƈɖƌ"), (0x18a, 1, "ɗ"), (0x18e, 1, "ǝəɛƒ"), (0x193, 1, "ɠɣ"),
   (0x196, 1, "ɩɨƙ"), (0x19c, 1, "ɯɲ"), (0x19f, 1, "ɵơ"), (0x1a2, 2, "ƣƥʀ"), (0x1a7, 2, "ƨʃ"),
   (0x1ac, 2, "ƭʈ"), (0x1af, 2, "ưʊƴƶʒ"), (0x1b2, 1, "ʋ"), (0x1b8, 1, "ƹ"), (0x1bc, 1, "ƽ"),
   (0x1cd, 2, "ǎǐǒǔǖǘǚǜ"), (0x1de, 2, "ǟǡǣǥǧǩǫǭǯ"),
   (0x1f4, 2, "ǵƕǹǻǽǿȁȃȅȇȉȋȍȏȑȓȕȗșțȝȟƞȣȥȧȩȫȭȯȱȳ"), (0x1f7, 1, "ƿ"), (0x23a, 1, "ⱥȼ"),
   (0x23d, 1, "ƚⱦ"), (0x241, 2, "ɂƀʌ"), (0x244, 2, "ʉɇɉɋɍɏ"), (0x2b0, 1, "hɦjrɹɻʁwy"),
   (0x2e0, 1, "ɣlsxʕ"), (0x340, 1, "\u0300\u0301"), (0x343, 2, "\u0313ι"), (0x370, 2, "ͱͳʹͷ"),
   (0x37e, 1, ";ϳ"), (0x386, 1, "ά·έήί"), (0x38c, 2, "όύ"), (0x38f, 2, "ώαγεηιλνορσυχωϋ"),
   (0x392, 2, "βδζθκμξπ"), (0x3a4, 2, "τφψϊ"), (0x3cf, 1, "ϗβθυύϋφπ"),
   (0x3d8, 2, "ϙϛϝϟϡϣϥϧϩϫϭϯκσθ"), (0x3f1, 1, "ρ"), (0x3f5, 2, "εϸσ"), (0x3fa, 1, "ϻ"),
   (0x3fd, 1, "ͻͼͽѐёђѓєѕіїјљњћќѝўџабвгдежзийклмнопрстуфхцчшщъыьэюя"),
   (0x460, 2, "ѡѣѥѧѩѫѭѯѱѳѵѷѹѻѽѿҁ"), (0x48a, 2, "ҋҍҏґғҕҗҙқҝҟҡңҥҧҩҫҭүұҳҵҷҹһҽҿӏ"),
   (0x4c1, 2, "ӂӄӆӈӊӌӎ"), (0x4d0, 2, "ӑӓӕӗәӛӝӟӡӣӥӧөӫӭӯӱӳӵӷӹӻӽӿԁԃԅԇԉԋԍԏԑԓԕԗԙԛԝԟԡԣԥԧԩԫԭԯ"),
   (0x531, 1, "աբգդեզէըթժիլխծկհձղճմյնշոչպջռսվտրցւփքօֆ"), (0xf0c, 1, "་"),
   (0x10a0, 1, "ⴀⴁⴂⴃⴄⴅⴆⴇⴈⴉⴊⴋⴌⴍⴎⴏⴐⴑⴒⴓⴔⴕⴖⴗⴘⴙⴚⴛⴜⴝⴞⴟⴠⴡⴢⴣⴤⴥ"), (0x10c7, 1, "ⴧ"), (0x10cd, 1, "ⴭ"),
   (0x10fc, 1, "ნ"), (0x13f8, 1, "ᏰᏱᏲᏳᏴᏵ"), (0x1c80, 1, "вдосттъѣꙋᲊ"),
   (0x1c90, 1, "აბგდევზთიკლმნოპჟრსტუფქღყშჩცძწჭხჯჰჱჲჳჴჵჶჷჸჹჺ"), (0x1cbd, 1, "ჽჾჿ"),
   (0x1d2c, 2, "abdǝhjlnoptwɐᴂdəɜ"), (0x1d2d, 1, "æ"), (0x1d31, 2, "egikm"),
   (0x1d3d, 2, "ȣruaɑbeɛgkŋɔᴗtᴝvβδχrvγφ"), (0x1d50, 2, "moᴖpuɯᴥγφiuβρχ"), (0x1d78, 1, "н"),
   (0x1d9b, 1, "ɒcɕðɜfɟɡɥɨɩɪᵻʝɭᶅʟɱɰɲɳɴɵɸʂʃƫʉʊᴜʋʌzʐʑʒθ"),
   (0x1e00, 2, "ḁḃḅḇḉḋḍḏḑḓḕḗḙḛḝḟḡḣḥḧḩḫḭḯḱḳḵḷḹḻḽḿṁṃṅṇṉṋṍṏṑṓṕṗṙṛṝṟṡṣṥṧṩṫṭṯ"),
   (0x1e70, 2, "ṱṳṵṷṹṻṽṿẁẃẅẇẉẋẍẏẑẓẕ"), (0x1e9b, 1, "ṡ"),
   (0x1e9e, 2, "ßạảấầẩẫậắằẳẵặẹẻẽếềểễệỉịọỏốồổỗộớờởỡợụủứừửữựỳỵỷỹỻỽỿ"), (0x1f08, 1, "ἀἁἂἃἄἅἆἇ"),
   (0x1f18, 1, "ἐἑἒἓἔἕ"), (0x1f28, 1, "ἠἡἢἣἤἥἦἧ"), (0x1f38, 1, "ἰἱἲἳἴἵἶἷ"), (0x1f48, 1, "ὀὁὂὃὄὅ"),
   (0x1f59, 2, "ὑὓὕὗ"), (0x1f68, 1, "ὠὡὢὣὤὥὦὧ"), (0x1f71, 2, "άέήίόύώ"), (0x1fb8, 1, "ᾰᾱὰά"),
   (0x1fbe, 1, "ι"), (0x1fc8, 1, "ὲέὴή"), (0x1fd3, 1, "ΐ"), (0x1fd8, 1, "ῐῑὶί"), (0x1fe3, 1, "ΰ"),
   (0x1fe8, 1, "ῠῡὺύῥ"), (0x1fef, 1, "`"), (0x1ff8, 1, "ὸόὼώ"), (0x2000, 1, "           "),
   (0x2011, 1, "‐"), (0x202f, 1, " "), (0x205f, 1, " "), (0x2070, 1, "0i"),
   (0x2074, 1, "456789+−=()n0123456789+−=()"), (0x2090, 1, "aeoxəhklmnpst"), (0x2102, 1, "c"),
   (0x2107, 1, "ɛ"), (0x210a, 1, "ghhhhħiill"), (0x2115, 1, "n"), (0x2119, 1, "pqrrr"),
   (0x2124, 2, "zωzkb"), (0x212b, 2, "åcefmאגi"), (0x2130, 2, "eⅎoבד"), (0x213c, 1, "πγγπ∑"),
   (0x2145, 1, "ddeij"), (0x2160, 1, "i"), (0x2164, 1, "v"), (0x2169, 1, "x"),
   (0x216c, 1, "lcdmi"), (0x2174, 1, "v"), (0x2179, 1, "x"), (0x217c, 1, "lcdm"),
   (0x2183, 1, "ↄ"), (0x2329, 1, "〈〉"), (0x2460, 1, "123456789"),
   (0x24b6, 1, "abcdefghijklmnopqrstuvwxyzabcdefghijklmnopqrstuvwxyz0"),
   (0x2c00, 1, "ⰰⰱⰲⰳⰴⰵⰶⰷⰸⰹⰺⰻⰼⰽⰾⰿⱀⱁⱂⱃⱄⱅⱆⱇⱈⱉⱊⱋⱌⱍⱎⱏⱐⱑⱒⱓⱔⱕⱖⱗⱘⱙⱚⱛⱜⱝⱞⱟ"), (0x2c60, 2, "ⱡɫɽ"),
   (0x2c63, 1, "ᵽ"), (0x2c67, 2, "ⱨⱪⱬɑɐ"), (0x2c6e, 2, "ɱɒⱳ"), (0x2c75, 1, "ⱶ"),
   (0x2c7c, 2, "jȿⲁⲃⲅⲇⲉⲋⲍⲏⲑⲓⲕⲗⲙⲛⲝⲟⲡⲣⲥⲧⲩⲫⲭⲯⲱⲳⲵⲷⲹⲻⲽⲿⳁⳃⳅⳇⳉⳋⳍⳏⳑⳓⳕⳗⳙⳛⳝⳟⳡⳣ"), (0x2c7d, 2, "vɀ"),
   (0x2ceb, 2, "ⳬⳮ"), (0x2cf2, 1, "ⳳ"), (0x2d6f, 1, "ⵡ"), (0x2e9f, 1, "母"), (0x2ef3, 1, "龟"),
   (0x2f00, 1, "一丨丶丿乙亅二亠人儿入八冂冖冫几凵刀力勹匕匚匸十卜卩厂厶又口囗土士夂夊夕大女子宀寸小尢尸屮山巛工己巾干幺广廴廾弋"),
   (0x2f38, 1, "弓彐彡彳心戈戶手支攴文斗斤方无日曰月木欠止歹殳毋比毛氏气水火爪父爻爿片牙牛犬玄玉瓜瓦甘生用田疋疒癶白皮皿目矛矢石"),
   (0x2f70, 1, "示禸禾穴立竹米糸缶网羊羽老而耒耳聿肉臣自至臼舌舛舟艮色艸虍虫血行衣襾見角言谷豆豕豸貝赤走足身車辛辰辵邑酉釆里金長"),
   (0x2fa8, 1, "門阜隶隹雨靑非面革韋韭音頁風飛食首香馬骨高髟鬥鬯鬲鬼魚鳥鹵鹿麥麻黃黍黑黹黽鼎鼓鼠鼻齊齒龍龜龠"), (0x3000, 2, " ."),
   (0x3036, 2, "〒十卅"), (0x3039, 1, "卄"),
   (0x3131, 1, "ᄀᄁᆪᄂᆬᆭᄃᄄᄅᆰᆱᆲᆳᆴᆵᄚᄆᄇᄈᄡᄉᄊᄋᄌᄍᄎᄏᄐᄑ하ᅢᅣᅤᅥᅦᅧᅨᅩᅪᅫᅬᅭᅮᅯᅰᅱᅲᅳᅴᅵ"),
   (0x3165, 1, "ᄔᄕᇇᇈᇌᇎᇓᇗᇙᄜᇝᇟᄝᄞᄠᄢᄣᄧᄩᄫᄬᄭᄮᄯᄲᄶᅀᅇᅌᇱᇲᅗᅘᅙᆄᆅᆈᆑᆒᆔᆞᆡ"), (0x3192, 1, "一二三四上中下甲乙丙丁天地人"),
   (0x3244, 1, "問幼文箏"), (0x3260, 1, "ᄀᄂᄃᄅᄆᄇᄉᄋᄌᄎᄏᄐᄑᄒ가나다라마바사아자차카타파하"),
   (0x327e, 2, "우一三五七九月水金日有名財労男適印項写上下右宗監資夜"), (0x3281, 2, "二四六八十火木土株社特祝秘女優注休正中左医学企協"),
   (0x32d0, 1, "アイウエオカキクケコサシスセソタチツテトナニヌネノハヒフヘホマミムメモヤユヨラリルレロワヰヱヲ"),
   (0xa640, 2, "ꙁꙃꙅꙇꙉꙋꙍꙏꙑꙓꙕꙗꙙꙛꙝꙟꙡꙣꙥꙧꙩꙫꙭ"), (0xa680, 2, "ꚁꚃꚅꚇꚉꚋꚍꚏꚑꚓꚕꚗꚙꚛъ"), (0xa69d, 1, "ь"),
   (0xa722, 2, "ꜣꜥꜧꜩꜫꜭꜯ"), (0xa732, 2, "ꜳꜵꜷꜹꜻꜽꜿꝁꝃꝅꝇꝉꝋꝍꝏꝑꝓꝕꝗꝙꝛꝝꝟꝡꝣꝥꝧꝩꝫꝭꝯꝯ"), (0xa779, 2, "ꝺꝼᵹ"),
   (0xa77e, 2, "ꝿꞁꞃꞅꞇ"), (0xa78b, 2, "ꞌɥ"), (0xa790, 2, "ꞑꞓ"),
   (0xa796, 2, "ꞗꞙꞛꞝꞟꞡꞣꞥꞧꞩɦɡɪʞʝꞵꞷꞹꞻꞽꞿꟁꟃꞔᶎ"), (0xa7ab, 2, "ɜɬ"), (0xa7b1, 2, "ʇꭓ"),
   (0xa7c5, 2, "ʂꟈꟊɤ"), (0xa7cc, 2, "ꟍ꟏ꟑꟓꟕꟗꟙꟛƛ"), (0xa7f1, 1, "scfqꟶ"), (0xa7f8, 1, "ħœ"),
   (0xab5c, 1, "ꜧꬷɫꭒ"), (0xab69, 1, "ʍ"),
   (0xab70, 1, "ᎠᎡᎢᎣᎤᎥᎦᎧᎨᎩᎪᎫᎬᎭᎮᎯᎰᎱᎲᎳᎴᎵᎶᎷᎸᎹᎺᎻᎼᎽᎾᎿᏀᏁᏂᏃᏄᏅᏆᏇᏈᏉᏊᏋᏌᏍᏎᏏᏐᏑᏒᏓᏔᏕᏖᏗ"),
   (0xaba8, 1, "ᏘᏙᏚᏛᏜᏝᏞᏟᏠᏡᏢᏣᏤᏥᏦᏧᏨᏩᏪᏫᏬᏭᏮᏯ"),
   (0xf900, 1, "豈更車賈滑串句龜龜契金喇奈懶癩羅蘿螺裸邏樂洛烙珞落酪駱亂卵欄爛蘭鸞嵐濫藍襤拉臘蠟廊朗浪狼郎來冷勞擄櫓爐盧老蘆虜路"),
   (0xf938, 1, "露魯鷺碌祿綠菉錄鹿論壟弄籠聾牢磊賂雷壘屢樓淚漏累縷陋勒肋凜凌稜綾菱陵讀拏樂諾丹寧怒率異北磻便復不泌數索參塞省葉說"),
   (0xf970, 1, "殺辰沈拾若掠略亮兩凉梁糧良諒量勵呂女廬旅濾礪閭驪麗黎力曆歷轢年憐戀撚漣煉璉秊練聯輦蓮連鍊列劣咽烈裂說廉念捻殮簾獵"),
   (0xf9a8, 1, "令囹寧嶺怜玲瑩羚聆鈴零靈領例禮醴隸惡了僚寮尿料樂燎療蓼遼龍暈阮劉杻柳流溜琉留硫紐類六戮陸倫崙淪輪律慄栗率隆利吏履"),
   (0xf9e0, 1, "易李梨泥理痢罹裏裡里離匿溺吝燐璘藺隣鱗麟林淋臨立笠粒狀炙識什茶刺切度拓糖宅洞暴輻行降見廓兀嗀"), (0xfa10, 2, "塚晴"),
   (0xfa15, 1, "凞猪益礼神祥福靖精羽"), (0xfa20, 2, "蘒諸"), (0xfa25, 1, "逸都"),
   (0xfa2a, 1, "飯飼館鶴郞隷侮僧免勉勤卑喝嘆器塀墨層屮悔慨憎懲敏既暑梅海渚漢煮爫琢碑社祉祈祐祖祝禍禎穀突節練縉繁署者臭艹艹著褐視"),
   (0xfa62, 1, "謁謹賓贈辶逸難響頻恵𤋮舘"),
   (0xfa70, 1, "並况全侀充冀勇勺喝啕喙嗢塚墳奄奔婢嬨廒廙彩徭惘慎愈憎慠懲戴揄搜摒敖晴朗望杖歹殺流滛滋漢瀞煮瞧爵犯猪瑱甆画瘝瘟益盛"),
   (0xfaa8, 1, "直睊着磌窱節类絛練缾者荒華蝹襁覆視調諸請謁諾諭謹變贈輸遲醙鉶陼難靖韛響頋頻鬒龜𢡊𢡄𣏕㮝䀘䀹𥉉𥳐𧻓齃龎"), (0xfb20, 1, "עאדהכלםרת+"),
   (0xfb50, 1, "ٱٱٻٻٻٻپپپپڀڀڀڀٺٺٺٺٿٿٿٿٹٹٹٹڤڤڤڤڦڦڦڦڄڄڄڄڃڃڃڃچچچچڇڇڇڇڍڍڌڌڎڎ"),
   (0xfb88, 1, "ڈڈژژڑڑککککگگگگڳڳڳڳڱڱڱڱںںڻڻڻڻۀۀہہہہھھھھےےۓۓ"), (0xfbd3, 1, "ڭڭڭڭۇۇۆۆۈۈ"),
   (0xfbde, 1, "ۋۋۅۅۉۉېېېېىى"), (0xfbfc, 1, "یییی"), (0xfe10, 1, ",、"), (0xfe13, 1, ":;!?〖〗"),
   (0xfe31, 1, "—–__()\x7b\x7d〔〕【】《》〈〉「」『』"), (0xfe47, 1, "[]"), (0xfe4d, 1, "___,、"),
   (0xfe54, 1, ";:?!—()\x7b\x7d〔〕#&*+-<>="), (0xfe68, 1, "\\$%@"),
   (0xfe80, 1, "ءآآأأؤؤإإئئئئااببببةةتتتتثثثثججججححححخخخخددذذررززسسسسششش"),
   (0xfeb8, 1, "شصصصصضضضضططططظظظظععععغغغغففففققققككككللللممممننننههههووى"), (0xfef0, 1, "ىيييي"),
   (0xff01, 1, "!\"#$%&'()*+,-./0123456789:;<=>?@abcdefghijklmnopqrstuvwx"),
   (0xff39, 1, "yz[\\]^_`abcdefghijklmnopqrstuvwxyz\x7b|\x7d~⦅⦆.「」、・ヲァィゥェォャュョッー"),
   (0xff71, 1, "アイウエオカキクケコサシスセソタチツテトナニヌネノハヒフヘホマミムメモヤユヨラリルレロワン\u3099\u309a"),
   (0xffa1, 1, "ᄀᄁᆪᄂᆬᆭᄃᄄᄅᆰᆱᆲᆳᆴᆵᄚᄆᄇᄈᄡᄉᄊᄋᄌᄍᄎᄏᄐᄑᄒ"), (0xffc2, 1, "ᅡᅢᅣᅤᅥᅦ"), (0xffca, 1, "ᅧᅨᅩᅪᅫᅬ"),
   (0xffd2, 1, "ᅭᅮᅯᅰᅱᅲ"), (0xffda, 1, "ᅳᅴᅵ"), (0xffe0, 2, "¢¬¦₩│↑↓○"), (0xffe1, 1, "£"),
   (0xffe5, 1, "¥"), (0xffe9, 2, "←→■"), (0x10400, 1, "𐐨𐐩𐐪𐐫𐐬𐐭𐐮𐐯𐐰𐐱𐐲𐐳𐐴𐐵𐐶𐐷𐐸𐐹𐐺𐐻𐐼𐐽𐐾𐐿𐑀𐑁𐑂𐑃𐑄𐑅𐑆𐑇𐑈𐑉𐑊𐑋𐑌𐑍𐑎𐑏"),
   (0x104b0, 1, "𐓘𐓙𐓚𐓛𐓜𐓝𐓞𐓟𐓠𐓡𐓢𐓣𐓤𐓥𐓦𐓧𐓨𐓩𐓪𐓫𐓬𐓭𐓮𐓯𐓰𐓱𐓲𐓳𐓴𐓵𐓶𐓷𐓸𐓹𐓺𐓻"), (0x10570, 2, "𐖗𐖙𐖛𐖝𐖟𐖡𐖣𐖥𐖧𐖩𐖫𐖭𐖯𐖱𐖳𐖵𐖷𐖹𐖻"),
   (0x10571, 2, "𐖘𐖚𐖜𐖞𐖠"), (0x1057d, 2, "𐖤𐖦𐖨𐖪𐖬𐖮𐖰"), (0x1058d, 2, "𐖴𐖶𐖸"), (0x10595, 1, "𐖼"),
   (0x10781, 2, "ːæɓʣʥɖᶑɞɤɠħɧʪɬꞎ𝼅𝼆ɶq𝼈ɾʨꭧʈ"), (0x10782, 2, "ˑʙ"),
   (0x10788, 2, "ꭦʤɗɘʩɢʛʜʄʫ𝼄ɮʎøɷɺɽʀʦʧⱱʏʢǀǂ𝼞"), (0x107b3, 2, "ʡʘǁ𝼊"),
   (0x10c80, 1, "𐳀𐳁𐳂𐳃𐳄𐳅𐳆𐳇𐳈𐳉𐳊𐳋𐳌𐳍𐳎𐳏𐳐𐳑𐳒𐳓𐳔𐳕𐳖𐳗𐳘𐳙𐳚𐳛𐳜𐳝𐳞𐳟𐳠𐳡𐳢𐳣𐳤𐳥𐳦𐳧𐳨𐳩𐳪𐳫𐳬𐳭𐳮𐳯𐳰𐳱𐳲"),
   (0x10d50, 1, "𐵰𐵱𐵲𐵳𐵴𐵵𐵶𐵷𐵸𐵹𐵺𐵻𐵼𐵽𐵾𐵿𐶀𐶁𐶂𐶃𐶄𐶅"), (0x118a0, 1, "𑣀𑣁𑣂𑣃𑣄𑣅𑣆𑣇𑣈𑣉𑣊𑣋𑣌𑣍𑣎𑣏𑣐𑣑𑣒𑣓𑣔𑣕𑣖𑣗𑣘𑣙𑣚𑣛𑣜𑣝𑣞𑣟"),
   (0x16e40, 1, "𖹠𖹡𖹢𖹣𖹤𖹥𖹦𖹧𖹨𖹩𖹪𖹫𖹬𖹭𖹮𖹯𖹰𖹱𖹲𖹳𖹴𖹵𖹶𖹷𖹸𖹹𖹺𖹻𖹼𖹽𖹾𖹿"), (0x16ea0, 1, "𖺻𖺼𖺽𖺾𖺿𖻀𖻁𖻂𖻃𖻄𖻅𖻆𖻇𖻈𖻉𖻊𖻋𖻌𖻍𖻎𖻏𖻐𖻑𖻒𖻓"),
   (0x1ccd6, 1, "abcdefghijklmnopqrstuvwxyz0123456789"),
   (0x1d400, 1, "abcdefghijklmnopqrstuvwxyzabcdefghijklmnopqrstuvwxyzabcd"),
   (0x1d438, 1, "efghijklmnopqrstuvwxyzabcdefg"),
   (0x1d456, 1, "ijklmnopqrstuvwxyzabcdefghijklmnopqrstuvwxyzabcdefghijkl"),
   (0x1d48e, 1, "mnopqrstuvwxyza"), (0x1d49e, 1, "cd"), (0x1d4a2, 1, "g"), (0x1d4a5, 1, "jk"),
   (0x1d4a9, 1, "nopq"), (0x1d4ae, 1, "stuvwxyzabcd"),
   (0x1d4bb, 2, "fhjlnprtvxzbdfhjlnprtvxzbdfhjlnprtvxzbdf"), (0x1d4be, 2, "ikm"),
   (0x1d4c6, 2, "qsuwyacegikmoqsuwyacegikmoqsuwya"), (0x1d508, 2, "eg"), (0x1d50d, 1, "jklmnopq"),
   (0x1d516, 2, "suwyacegikmoqsuwya"), (0x1d517, 2, "tvx"), (0x1d51f, 2, "bdfhjlnprtvxzbdf"),
   (0x1d53c, 2, "egikmo"), (0x1d541, 2, "jl"),
   (0x1d54a, 2, "suwyacegikmoqsuwyacegikmoqsuwyacegikmoqsuwyacegikmoqsuwy"),
   (0x1d5ba, 2, "acegikmoqsuwyacegikmoqsuwyacegikmoqsuwyacegikmoqsuwyaceg"),
   (0x1d62a, 2, "ikmoqsuwyacegikmoqsuwyacegikmoqsuwyacegikmoqsuwyacegikmo"),
   (0x1d69a, 2, "qsuwyı"), (0x1d54b, 2, "tvx"),
   (0x1d553, 2, "bdfhjlnprtvxzbdfhjlnprtvxzbdfhjlnprtvxzbdfhjlnprtvxzbdfh"),
   (0x1d5c3, 2, "jlnprtvxzbdfhjlnprtvxzbdfhjlnprtvxzbdfhjlnprtvxzbdfhjlnp"),
   (0x1d633, 2, "rtvxzbdfhjlnprtvxzbdfhjlnprtvxzbdfhjlnprtvxzbdfhjlnprtvx"), (0x1d6a3, 2, "zȷ"),
   (0x1d6a8, 1, "αβγδεζηθικλμνξοπρθστυφχψω∇αβγδεζηθικλμνξοπρσστυφχψω∂εθκφ"),
   (0x1d6e0, 1, "ρπαβγδεζηθικλμνξοπρθστυφχψω∇αβγδεζηθικλμνξοπρσστυφχψω∂εθ"),
   (0x1d718, 1, "κφρπαβγδεζηθικλμνξοπρθστυφχψω∇αβγδεζηθικλμνξοπρσστυφχψω∂"),
   (0x1d750, 1, "εθκφρπαβγδεζηθικλμνξοπρθστυφχψω∇αβγδεζηθικλμνξοπρσστυφχψ"),
   (0x1d788, 1, "ω∂εθκφρπαβγδεζηθικλμνξοπρθστυφχψω∇αβγδεζηθικλμνξοπρσστυφ"),
   (0x1d7c0, 1, "χψω∂εθκφρπϝϝ"),
   (0x1d7ce, 1, "01234567890123456789012345678901234567890123456789"),
   (0x1e030, 1, "абвгдежзиклмопрстуфхцчшыэюꚉәіјөүӏабвгдежзиклопсуфхцчшъыґ"),
   (0x1e068, 1, "іѕџҫꙑұ"), (0x1e900, 1, "𞤢𞤣𞤤𞤥𞤦𞤧𞤨𞤩𞤪𞤫𞤬𞤭𞤮𞤯𞤰𞤱𞤲𞤳𞤴𞤵𞤶𞤷𞤸𞤹𞤺𞤻𞤼𞤽𞤾𞤿𞥀𞥁𞥂𞥃"),
   (0x1ee00, 1, "ابجد"), (0x1ee05, 1, "وزحطيكلمنسعفصقرشتثخذضظغٮںڡٯ"), (0x1ee21, 1, "بج"),
   (0x1ee24, 1, "ه"), (0x1ee27, 2, "حيلنعص"), (0x1ee2a, 2, "كمسفقشث"), (0x1ee35, 2, "تخضغ"),
   (0x1ee42, 1, "ج"), (0x1ee47, 2, "حيلنعص"), (0x1ee4e, 1, "س"), (0x1ee52, 2, "قش"),
   (0x1ee57, 2, "خضغںٯب"), (0x1ee62, 2, "جه"), (0x1ee67, 1, "حطيك"), (0x1ee6c, 1, "منسعفصق"),
   (0x1ee74, 1, "شتثخ"), (0x1ee79, 1, "ضظغٮ"), (0x1ee7e, 2, "ڡاجهزط"),
   (0x1ee81, 2, "بدوحيلنعصرتخضغ"), (0x1ee8c, 2, "مسفقشثذظ"), (0x1eea1, 2, "بدوحيلنعصرتخضغ"),
   (0x1eea2, 1, "ج"), (0x1eea6, 2, "زط"), (0x1eeac, 2, "مسفقشثذظ"), (0x1f12b, 1, "cr"),
   (0x1f130, 1, "abcdefghijklmnopqrstuvwxyz"), (0x1f202, 1, "サ"),
   (0x1f210, 1, "手字双デ二多解天交映無料前後再新初終生販声吹演投捕一三遊左中右指走打禁空合満有月申割営配"), (0x1f250, 1, "得可"),
   (0x1fbf0, 1, "0123456789"),
   (0x2f800, 1, "丽丸乁𠄢你侮侻倂偺備僧像㒞𠘺免兔兤具𠔜㒹內再𠕋冗冤仌冬况𩇟凵刃㓟刻剆割剷㔕勇勉勤勺包匆北卉卑博即卽卿卿卿𠨬灰及叟"),
   (0x2f838, 1, "𠭣叫叱吆咞吸呈周咢哶唐啓啣善善喙喫喳嗂圖嘆圗噑噴切壮城埴堍型堲報墬𡓤売壷夆多夢奢𡚨𡛪姬娛娧姘婦㛮㛼嬈嬾嬾𡧈寃寘寧"),
   (0x2f870, 1, "寳𡬘寿将当尢㞁屠屮峀岍𡷤嵃𡷦嵮嵫嵼巡巢㠯巽帨帽幩㡢𢆃㡼庰庳庶廊𪎒廾𢌱𢌱舁弢弢㣇𣊸𦇚形彫㣣徚忍志忹悁㤺㤜悔𢛔惇慈慌"),
   (0x2f8a8, 1, "慎慌慺憎憲憤憯懞懲懶成戛扝抱拔捐𢬌挽拼捨掃揤𢯱搢揅掩㨮摩摾撝摷㩬敏敬𣀊旣書晉㬙暑㬈㫤冒冕最暜肭䏙朗望朡杞杓𣏃㭉柺"),
   (0x2f8e0, 1, "枅桒梅𣑭梎栟椔㮝楂榣槪檨𣚣櫛㰘次𣢧歔㱎歲殟殺殻𣪍𡴋𣫺汎𣲼沿泍汧洖派海流浩浸涅𣴞洴港湮㴳滋滇𣻑淹潮𣽞𣾎濆瀹瀞瀛㶖灊"),
   (0x2f918, 1, "災灷炭𠔥煅𤉣熜𤎫爨爵牐𤘈犀犕𤜵𤠔獺王㺬玥㺸㺸瑇瑜瑱璅瓊㼛甤𤰶甾𤲒異𢆟瘐𤾡𤾸𥁄㿼䀈直𥃳𥃲𥄙𥄳眞真真睊䀹瞋䁆䂖𥐝硎碌"),
   (0x2f950, 1, "磌䃣𥘦祖𥚚𥛅福秫䄯穀穊穏𥥼𥪧𥪧竮䈂𥮫篆築䈧𥲀糒䊠糨糣紀𥾆絣䌁緇縂繅䌴𦈨𦉇䍙𦋙罺𦌾羕翺者𦓚𦔣聠𦖨聰𣍟䏕育脃䐋脾媵𦞧"),
   (0x2f988, 1, "𦞵𣎓𣎜舁舄辞䑫芑芋芝劳花芳芽苦𦬼若茝荣莭茣莽菧著荓菊菌菜𦰶𦵫𦳕䔫蓱蓳蔖𧏊蕤𦼬䕝䕡𦾱𧃒䕫虐虜虧虩蚩蚈蜎蛢蝹蜨蝫螆䗗"),
   (0x2f9c0, 1, "蟡蠁䗹衠衣𧙧裗裞䘵裺㒻𧢮𧥦䚾䛇誠諭變豕𧲨貫賁贛起𧼯𠠄跋趼跰𠣞軔輸𨗒𨗭邔郱鄑𨜮鄛鈸鋗鋘鉼鏹鐕𨯺開䦕閷𨵷䧦雃嶲霣𩅅𩈚"),
   (0x2f9f8, 1, "䩮䩶韠𩐊䪲𩒖頋頋頩𩖶飢䬳餩馧駂駾䯎𩬰鬒鱀鳽䳎䳭鵧𪃎䳸𪄅𪈎𪊑麻䵖黹黾鼅鼏鼖鼻𪘀")]

/-- The runs, with the place of each character at hand. -/
def letterRuns : List (Nat × Nat × Array Char) :=
  letterTexts.map fun (first, step, images) => (first, step, images.toList.toArray)

/-- The one character that a character stands for. -/
def letter? (c : Char) : Option Char :=
  letterRuns.findSome? fun (first, step, images) =>
    if first ≤ c.toNat ∧ (c.toNat - first) % step = 0 then images[(c.toNat - first) / step]?
    else none

end LedgerClient.Domain
