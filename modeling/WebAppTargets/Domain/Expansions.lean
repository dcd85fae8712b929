namespace WebAppTargets.Domain

/-- Runs of characters, by the first one's code point, with what they stand for. -/
def expansions : List (Nat × List String) :=
  [(0xA8, [" ̈"]), (0xAF, [" ̄"]), (0xB4, [" ́"]), (0xB8, [" ̧"]), (0xBC, ["1⁄4", "1⁄2", "3⁄4"]),
   (0x130, ["i̇"]), (0x132, ["ij", "ij"]), (0x13F, ["l·", "l·"]), (0x149, ["ʼn"]),
   (0x1C4, ["dž", "dž", "dž", "lj", "lj", "lj", "nj", "nj", "nj"]), (0x1F1, ["dz", "dz", "dz"]),
   (0x2D8, [" ̆", " ̇", " ̊", " ̨", " ̃", " ̋"]), (0x344, ["̈́"]), (0x37A, [" ι"]),
   (0x384, [" ́", " ̈́"]), (0x587, ["եւ"]), (0x675, ["اٴ", "وٴ", "ۇٴ", "يٴ"]),
   (0x958, ["क़", "ख़", "ग़", "ज़", "ड़", "ढ़", "फ़", "य़"]), (0x9DC, ["ড়", "ঢ়"]),
   (0x9DF, ["য়"]), (0xA33, ["ਲ਼"]), (0xA36, ["ਸ਼"]), (0xA59, ["ਖ਼", "ਗ਼", "ਜ਼"]),
   (0xA5E, ["ਫ਼"]), (0xB5C, ["ଡ଼", "ଢ଼"]), (0xE33, ["ํา"]), (0xEB3, ["ໍາ"]),
   (0xEDC, ["ຫນ", "ຫມ"]), (0xF43, ["གྷ"]), (0xF4D, ["ཌྷ"]), (0xF52, ["དྷ"]), (0xF57, ["བྷ"]),
   (0xF5C, ["ཛྷ"]), (0xF69, ["ཀྵ"]), (0xF73, ["ཱི"]), (0xF75, ["ཱུ", "ྲྀ", "ྲཱྀ", "ླྀ", "ླཱྀ"]),
   (0xF81, ["ཱྀ"]), (0xF93, ["ྒྷ"]), (0xF9D, ["ྜྷ"]), (0xFA2, ["ྡྷ"]), (0xFA7, ["ྦྷ"]),
   (0xFAC, ["ྫྷ"]), (0xFB9, ["ྐྵ"]), (0x1E9A, ["aʾ"]),
   (0x1F80, ["ἀι", "ἁι", "ἂι", "ἃι", "ἄι", "ἅι", "ἆι", "ἇι", "ἀι", "ἁι", "ἂι", "ἃι"]),
   (0x1F8C, ["ἄι", "ἅι", "ἆι", "ἇι", "ἠι", "ἡι", "ἢι", "ἣι", "ἤι", "ἥι", "ἦι", "ἧι"]),
   (0x1F98, ["ἠι", "ἡι", "ἢι", "ἣι", "ἤι", "ἥι", "ἦι", "ἧι", "ὠι", "ὡι", "ὢι", "ὣι"]),
   (0x1FA4, ["ὤι", "ὥι", "ὦι", "ὧι", "ὠι", "ὡι", "ὢι", "ὣι", "ὤι", "ὥι", "ὦι", "ὧι"]),
   (0x1FB2, ["ὰι", "αι", "άι"]), (0x1FB7, ["ᾶι"]), (0x1FBC, ["αι", " ̓"]),
   (0x1FBF, [" ̓", " ͂", " ̈͂", "ὴι", "ηι", "ήι"]), (0x1FC7, ["ῆι"]),
   (0x1FCC, ["ηι", " ̓̀", " ̓́", " ̓͂"]), (0x1FDD, [" ̔̀", " ̔́", " ̔͂"]),
   (0x1FED, [" ̈̀", " ̈́"]), (0x1FF2, ["ὼι", "ωι", "ώι"]), (0x1FF7, ["ῶι"]),
   (0x1FFC, ["ωι", " ́", " ̔"]), (0x2017, [" ̳"]), (0x2033, ["′′", "′′′"]),
   (0x2036, ["‵‵", "‵‵‵"]), (0x203C, ["!!"]), (0x203E, [" ̅"]), (0x2047, ["??", "?!", "!?"]),
   (0x2057, ["′′′′"]), (0x20A8, ["rs"]), (0x2100, ["a/c", "a/s"]), (0x2103, ["°c"]),
   (0x2105, ["c/o", "c/u"]), (0x2109, ["°f"]), (0x2116, ["no"]), (0x2120, ["sm", "tel", "tm"]),
   (0x213B, ["fax"]),
   (0x2150, ["1⁄7", "1⁄9", "1⁄10", "1⁄3", "2⁄3", "1⁄5", "2⁄5", "3⁄5", "4⁄5", "1⁄6", "5⁄6"]),
   (0x215B, ["1⁄8", "3⁄8", "5⁄8", "7⁄8", "1⁄"]), (0x2161, ["ii", "iii", "iv"]),
   (0x2165, ["vi", "vii", "viii", "ix"]), (0x216A, ["xi", "xii"]), (0x2171, ["ii", "iii", "iv"]),
   (0x2175, ["vi", "vii", "viii", "ix"]), (0x217A, ["xi", "xii"]), (0x2189, ["0⁄3"]),
   (0x222C, ["∫∫", "∫∫∫"]), (0x222F, ["∮∮", "∮∮∮"]),
   (0x2469, ["10", "11", "12", "13", "14", "15", "16", "17", "18", "19", "20", "(1)"]),
   (0x2475, ["(2)", "(3)", "(4)", "(5)", "(6)", "(7)", "(8)", "(9)", "(10)", "(11)"]),
   (0x247F, ["(12)", "(13)", "(14)", "(15)", "(16)", "(17)", "(18)", "(19)", "(20)"]),
   (0x249C, ["(a)", "(b)", "(c)", "(d)", "(e)", "(f)", "(g)", "(h)", "(i)", "(j)", "(k)"]),
   (0x24A7, ["(l)", "(m)", "(n)", "(o)", "(p)", "(q)", "(r)", "(s)", "(t)", "(u)", "(v)"]),
   (0x24B2, ["(w)", "(x)", "(y)", "(z)"]), (0x2A0C, ["∫∫∫∫"]), (0x2A74, ["::=", "==", "==="]),
   (0x2ADC, ["⫝̸"]), (0x309B, [" ゙", " ゚"]), (0x309F, ["より"]), (0x30FF, ["コト"]),
   (0x3200, ["(ᄀ)", "(ᄂ)", "(ᄃ)", "(ᄅ)", "(ᄆ)", "(ᄇ)", "(ᄉ)", "(ᄋ)", "(ᄌ)", "(ᄎ)", "(ᄏ)"]),
   (0x320B, ["(ᄐ)", "(ᄑ)", "(ᄒ)", "(가)", "(나)", "(다)", "(라)", "(마)", "(바)", "(사)", "(아)"]),
   (0x3216, ["(자)", "(차)", "(카)", "(타)", "(파)", "(하)", "(주)", "(오전)", "(오후)"]),
   (0x3220, ["(一)", "(二)", "(三)", "(四)", "(五)", "(六)", "(七)", "(八)", "(九)", "(十)", "(月)"]),
   (0x322B, ["(火)", "(水)", "(木)", "(金)", "(土)", "(日)", "(株)", "(有)", "(社)", "(名)", "(特)"]),
   (0x3236, ["(財)", "(祝)", "(労)", "(代)", "(呼)", "(学)", "(監)", "(企)", "(資)", "(協)", "(祭)"]),
   (0x3241, ["(休)", "(自)", "(至)"]),
   (0x3250, ["pte", "21", "22", "23", "24", "25", "26", "27", "28", "29", "30", "31"]),
   (0x325C, ["32", "33", "34", "35"]), (0x327C, ["참고", "주의"]),
   (0x32B1, ["36", "37", "38", "39", "40", "41", "42", "43", "44", "45", "46", "47"]),
   (0x32BD, ["48", "49", "50", "1月", "2月", "3月", "4月", "5月", "6月", "7月", "8月", "9月"]),
   (0x32C9, ["10月", "11月", "12月", "hg", "erg", "ev", "ltd"]),
   (0x32FF, ["令和", "アパート", "アルファ", "アンペア", "アール", "イニング", "インチ", "ウォン", "エスクード", "エーカー"]),
   (0x3309, ["オンス", "オーム", "カイリ", "カラット", "カロリー", "ガロン", "ガンマ", "ギガ", "ギニー", "キュリー"]),
   (0x3313, ["ギルダー", "キロ", "キログラム", "キロメートル", "キロワット", "グラム", "グラムトン", "クルゼイロ", "クローネ"]),
   (0x331C, ["ケース", "コルナ", "コーポ", "サイクル", "サンチーム", "シリング", "センチ", "セント", "ダース", "デシ", "ドル"]),
   (0x3327, ["トン", "ナノ", "ノット", "ハイツ", "パーセント", "パーツ", "バーレル", "ピアストル", "ピクル", "ピコ", "ビル"]),
   (0x3332, ["ファラッド", "フィート", "ブッシェル", "フラン", "ヘクタール", "ペソ", "ペニヒ", "ヘルツ", "ペンス", "ページ"]),
   (0x333C, ["ベータ", "ポイント", "ボルト", "ホン", "ポンド", "ホール", "ホーン", "マイクロ", "マイル", "マッハ", "マルク"]),
   (0x3347, ["マンション", "ミクロン", "ミリ", "ミリバール", "メガ", "メガトン", "メートル", "ヤード", "ヤール", "ユアン"]),
   (0x3351, ["リットル", "リラ", "ルピー", "ルーブル", "レム", "レントゲン", "ワット", "0点", "1点", "2点", "3点"]),
   (0x335C, ["4点", "5点", "6点", "7点", "8点", "9点", "10点", "11点", "12点", "13点", "14点", "15点"]),
   (0x3368, ["16点", "17点", "18点", "19点", "20点", "21点", "22点", "23点", "24点", "hpa", "da"]),
   (0x3373, ["au", "bar", "ov", "pc", "dm", "dm2", "dm3", "iu", "平成", "昭和", "大正", "明治"]),
   (0x337F, ["株式会社", "pa", "na", "μa", "ma", "ka", "kb", "mb", "gb", "cal", "kcal", "pf"]),
   (0x338B, ["nf", "μf", "μg", "mg", "kg", "hz", "khz", "mhz", "ghz", "thz", "μl", "ml"]),
   (0x3397, ["dl", "kl", "fm", "nm", "μm", "mm", "cm", "km", "mm2", "cm2", "m2", "km2"]),
   (0x33A3, ["mm3", "cm3", "m3", "km3", "m∕s", "m∕s2", "pa", "kpa", "mpa", "gpa", "rad"]),
   (0x33AE, ["rad∕s", "rad∕s2", "ps", "ns", "μs", "ms", "pv", "nv", "μv", "mv", "kv", "mv"]),
   (0x33BA, ["pw", "nw", "μw", "mw", "kw", "mw", "kω", "mω"]),
   (0x33C3, ["bq", "cc", "cd", "c∕kg"]),
   (0x33C8, ["db", "gy", "ha", "hp", "in", "kk", "km", "kt", "lm", "ln", "log", "lx"]),
   (0x33D4, ["mb", "mil", "mol", "ph"]),
   (0x33D9, ["ppm", "pr", "sr", "sv", "wb", "v∕m", "a∕m", "1日", "2日", "3日", "4日", "5日"]),
   (0x33E5, ["6日", "7日", "8日", "9日", "10日", "11日", "12日", "13日", "14日", "15日", "16日"]),
   (0x33F0, ["17日", "18日", "19日", "20日", "21日", "22日", "23日", "24日", "25日", "26日", "27日"]),
   (0x33FB, ["28日", "29日", "30日", "31日", "gal"]),
   (0xFB00, ["ff", "fi", "fl", "ffi", "ffl", "st", "st"]),
   (0xFB13, ["մն", "մե", "մի", "վն", "մխ"]), (0xFB1D, ["יִ"]), (0xFB1F, ["ײַ"]),
   (0xFB2A, ["שׁ", "שׂ", "שּׁ", "שּׂ", "אַ", "אָ", "אּ", "בּ", "גּ", "דּ", "הּ", "וּ"]),
   (0xFB36, ["זּ"]), (0xFB38, ["טּ", "יּ", "ךּ", "כּ", "לּ"]), (0xFB3E, ["מּ"]),
   (0xFB40, ["נּ", "סּ"]), (0xFB43, ["ףּ", "פּ"]),
   (0xFB46, ["צּ", "קּ", "רּ", "שּ", "תּ", "וֹ", "בֿ", "כֿ", "פֿ", "אל"]), (0xFBDD, ["ۇٴ"]),
   (0xFBEA, ["ئا", "ئا", "ئە", "ئە", "ئو", "ئو", "ئۇ", "ئۇ", "ئۆ", "ئۆ", "ئۈ", "ئۈ"]),
   (0xFBF6, ["ئې", "ئې", "ئې", "ئى", "ئى", "ئى"]),
   (0xFC00, ["ئج", "ئح", "ئم", "ئى", "ئي", "بج", "بح", "بخ", "بم", "بى", "بي", "تج"]),
   (0xFC0C, ["تح", "تخ", "تم", "تى", "تي", "ثج", "ثم", "ثى", "ثي", "جح", "جم", "حج"]),
   (0xFC18, ["حم", "خج", "خح", "خم", "سج", "سح", "سخ", "سم", "صح", "صم", "ضج", "ضح"]),
   (0xFC24, ["ضخ", "ضم", "طح", "طم", "ظم", "عج", "عم", "غج", "غم", "فج", "فح", "فخ"]),
   (0xFC30, ["فم", "فى", "في", "قح", "قم", "قى", "قي", "كا", "كج", "كح", "كخ", "كل"]),
   (0xFC3C, ["كم", "كى", "كي", "لج", "لح", "لخ", "لم", "لى", "لي", "مج", "مح", "مخ"]),
   (0xFC48, ["مم", "مى", "مي", "نج", "نح", "نخ", "نم", "نى", "ني", "هج", "هم", "هى"]),
   (0xFC54, ["هي", "يج", "يح", "يخ", "يم", "يى", "يي", "ذٰ", "رٰ", "ىٰ", " ٌّ", " ٍّ"]),
   (0xFC60, [" َّ", " ُّ", " ِّ", " ّٰ", "ئر", "ئز", "ئم", "ئن", "ئى", "ئي", "بر", "بز"]),
   (0xFC6C, ["بم", "بن", "بى", "بي", "تر", "تز", "تم", "تن", "تى", "تي", "ثر", "ثز"]),
   (0xFC78, ["ثم", "ثن", "ثى", "ثي", "فى", "في", "قى", "قي", "كا", "كل", "كم", "كى"]),
   (0xFC84, ["كي", "لم", "لى", "لي", "ما", "مم", "نر", "نز", "نم", "نن", "نى", "ني"]),
   (0xFC90, ["ىٰ", "ير", "يز", "يم", "ين", "يى", "يي", "ئج", "ئح", "ئخ", "ئم", "ئه"]),
   (0xFC9C, ["بج", "بح", "بخ", "بم", "به", "تج", "تح", "تخ", "تم", "ته", "ثم", "جح"]),
   (0xFCA8, ["جم", "حج", "حم", "خج", "خم", "سج", "سح", "سخ", "سم", "صح", "صخ", "صم"]),
   (0xFCB4, ["ضج", "ضح", "ضخ", "ضم", "طح", "ظم", "عج", "عم", "غج", "غم", "فج", "فح"]),
   (0xFCC0, ["فخ", "فم", "قح", "قم", "كج", "كح", "كخ", "كل", "كم", "لج", "لح", "لخ"]),
   (0xFCCC, ["لم", "له", "مج", "مح", "مخ", "مم", "نج", "نح", "نخ", "نم", "نه", "هج"]),
   (0xFCD8, ["هم", "هٰ", "يج", "يح", "يخ", "يم", "يه", "ئم", "ئه", "بم", "به", "تم"]),
   (0xFCE4, ["ته", "ثم", "ثه", "سم", "سه", "شم", "شه", "كل", "كم", "لم", "نم", "نه"]),
   (0xFCF0, ["يم", "يه", "ـَّ", "ـُّ", "ـِّ", "طى", "طي", "عى", "عي", "غى", "غي", "سى"]),
   (0xFCFC, ["سي", "شى", "شي", "حى", "حي", "جى", "جي", "خى", "خي", "صى", "صي", "ضى"]),
   (0xFD08, ["ضي", "شج", "شح", "شخ", "شم", "شر", "سر", "صر", "ضر", "طى", "طي", "عى"]),
   (0xFD14, ["عي", "غى", "غي", "سى", "سي", "شى", "شي", "حى", "حي", "جى", "جي", "خى"]),
   (0xFD20, ["خي", "صى", "صي", "ضى", "ضي", "شج", "شح", "شخ", "شم", "شر", "سر", "صر"]),
   (0xFD2C, ["ضر", "شج", "شح", "شخ", "شم", "سه", "شه", "طم", "سج", "سح", "سخ", "شج"]),
   (0xFD38, ["شح", "شخ", "طم", "ظم", "اً", "اً"]),
   (0xFD50, ["تجم", "تحج", "تحج", "تحم", "تخم", "تمج", "تمح", "تمخ", "جمح", "جمح", "حمي"]),
   (0xFD5B, ["حمى", "سحج", "سجح", "سجى", "سمح", "سمح", "سمج", "سمم", "سمم", "صحح", "صحح"]),
   (0xFD66, ["صمم", "شحم", "شحم", "شجي", "شمخ", "شمخ", "شمم", "شمم", "ضحى", "ضخم", "ضخم"]),
   (0xFD71, ["طمح", "طمح", "طمم", "طمي", "عجم", "عمم", "عمم", "عمى", "غمم", "غمي", "غمى"]),
   (0xFD7C, ["فخم", "فخم", "قمح", "قمم", "لحم", "لحي", "لحى", "لجج", "لجج", "لخم", "لخم"]),
   (0xFD87, ["لمح", "لمح", "محج", "محم", "محي", "مجح", "مجم", "مخج", "مخم"]),
   (0xFD92, ["مجخ", "همج", "همم", "نحم", "نحى", "نجم", "نجم", "نجى", "نمي", "نمى", "يمم"]),
   (0xFD9D, ["يمم", "بخي", "تجي", "تجى", "تخي", "تخى", "تمي", "تمى", "جمي", "جحى", "جمى"]),
   (0xFDA8, ["سخى", "صحي", "شحي", "ضحي", "لجي", "لمي", "يحي", "يجي", "يمي", "ممي", "قمي"]),
   (0xFDB3, ["نحي", "قمح", "لحم", "عمي", "كمي", "نجح", "مخي", "لجم", "كمم", "لجم", "نجح"]),
   (0xFDBE, ["جحي", "حجي", "مجي", "فمي", "بحي", "كمم", "عجم", "صمم", "سخي", "نجي"]),
   (0xFDF0, ["صلے", "قلے", "الله", "اكبر", "محمد", "صلعم", "رسول", "عليه", "وسلم", "صلى"]),
   (0xFDFA, ["صلى الله عليه وسلم", "جل جلاله", "ریال"]), (0xFE49, [" ̅", " ̅", " ̅", " ̅"]),
   (0xFE70, [" ً", "ـً", " ٌ"]), (0xFE74, [" ٍ"]),
   (0xFE76, [" َ", "ـَ", " ُ", "ـُ", " ِ", "ـِ", " ّ", "ـّ", " ْ", "ـْ"]),
   (0xFEF5, ["لآ", "لآ", "لأ", "لأ", "لإ", "لإ", "لا", "لا"]), (0xFFE3, [" ̄"]),
   (0x1D15E, ["𝅗𝅥", "𝅘𝅥", "𝅘𝅥𝅮", "𝅘𝅥𝅯", "𝅘𝅥𝅰", "𝅘𝅥𝅱", "𝅘𝅥𝅲"]),
   (0x1D1BB, ["𝆹𝅥", "𝆺𝅥", "𝆹𝅥𝅮", "𝆺𝅥𝅮", "𝆹𝅥𝅯", "𝆺𝅥𝅯"]),
   (0x1F101, ["0,", "1,", "2,", "3,", "4,", "5,", "6,", "7,", "8,", "9,"]),
   (0x1F110, ["(a)", "(b)", "(c)", "(d)", "(e)", "(f)", "(g)", "(h)", "(i)", "(j)", "(k)"]),
   (0x1F11B, ["(l)", "(m)", "(n)", "(o)", "(p)", "(q)", "(r)", "(s)", "(t)", "(u)", "(v)"]),
   (0x1F126, ["(w)", "(x)", "(y)", "(z)", "〔s〕"]), (0x1F12D, ["cd", "wz"]),
   (0x1F14A, ["hv", "mv", "sd", "ss", "ppv", "wc"]), (0x1F16A, ["mc", "md", "mr"]),
   (0x1F190, ["dj"]), (0x1F200, ["ほか", "ココ"]),
   (0x1F240, ["〔本〕", "〔三〕", "〔二〕", "〔安〕", "〔点〕", "〔打〕", "〔盗〕", "〔勝〕", "〔敗〕"])]

end WebAppTargets.Domain
