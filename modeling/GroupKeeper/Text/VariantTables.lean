import GroupKeeper.Text.Images

/-! Character data for shapes: characters that differ from others in their shape only, such as wide,
raised and joined letters. The data is that of version 17 of the character standard. -/

namespace GroupKeeper.Text

/-- Runs of letters and digits in other shapes, with the distance to the usual shape. -/
def variantShifts : List Shift := [
  ⟨0x13F8, 0x13FD, 1, -8⟩, ⟨0x1D33, 0x1D3A, 1, -7372⟩, ⟨0x1DAE, 0x1DB1, 1, -6972⟩,
  ⟨0x2074, 0x2079, 1, -8256⟩, ⟨0x2080, 0x2089, 1, -8272⟩, ⟨0x2096, 0x2099, 1, -8235⟩,
  ⟨0x2135, 0x2138, 1, -7013⟩, ⟨0x2460, 0x2468, 1, -9263⟩, ⟨0x24D0, 0x24E9, 1, -9327⟩,
  ⟨0x313A, 0x313F, 1, -8074⟩, ⟨0x3145, 0x314E, 1, -8252⟩, ⟨0x314F, 0x3163, 1, -8174⟩,
  ⟨0x3178, 0x317C, 1, -8269⟩, ⟨0x3269, 0x326D, 1, -8539⟩, ⟨0x32E4, 0x32E9, 1, -538⟩,
  ⟨0x32EE, 0x32F2, 1, -528⟩, ⟨0x32F5, 0x32FA, 1, -525⟩, ⟨0x32FB, 0x32FE, 1, -524⟩,
  ⟨0xAB70, 0xABBF, 1, -38864⟩, ⟨0xFE41, 0xFE44, 1, -52789⟩, ⟨0xFF01, 0xFF20, 1, -65248⟩,
  ⟨0xFF3B, 0xFF5E, 1, -65248⟩, ⟨0xFF85, 0xFF8A, 1, -52923⟩, ⟨0xFF8F, 0xFF93, 1, -52913⟩,
  ⟨0xFF96, 0xFF9B, 1, -52910⟩, ⟨0xFFAA, 0xFFAF, 1, -60922⟩, ⟨0xFFB5, 0xFFBE, 1, -61100⟩,
  ⟨0xFFC2, 0xFFC7, 1, -61025⟩, ⟨0xFFCA, 0xFFCF, 1, -61027⟩, ⟨0xFFD2, 0xFFD7, 1, -61029⟩,
  ⟨0xFFE9, 0xFFEC, 1, -56921⟩, ⟨0x1CCD6, 0x1CCEF, 1, -117877⟩, ⟨0x1CCF0, 0x1CCF9, 1, -117952⟩,
  ⟨0x1D400, 0x1D419, 1, -119711⟩, ⟨0x1D41A, 0x1D433, 1, -119737⟩, ⟨0x1D434, 0x1D44D, 1, -119763⟩,
  ⟨0x1D44E, 0x1D454, 1, -119789⟩, ⟨0x1D456, 0x1D467, 1, -119789⟩, ⟨0x1D468, 0x1D481, 1, -119815⟩,
  ⟨0x1D482, 0x1D49B, 1, -119841⟩, ⟨0x1D4A9, 0x1D4AC, 1, -119867⟩, ⟨0x1D4AE, 0x1D4B5, 1, -119867⟩,
  ⟨0x1D4B6, 0x1D4B9, 1, -119893⟩, ⟨0x1D4BD, 0x1D4C3, 1, -119893⟩, ⟨0x1D4C5, 0x1D4CF, 1, -119893⟩,
  ⟨0x1D4D0, 0x1D4E9, 1, -119919⟩, ⟨0x1D4EA, 0x1D503, 1, -119945⟩, ⟨0x1D507, 0x1D50A, 1, -119971⟩,
  ⟨0x1D50D, 0x1D514, 1, -119971⟩, ⟨0x1D516, 0x1D51C, 1, -119971⟩, ⟨0x1D51E, 0x1D537, 1, -119997⟩,
  ⟨0x1D53B, 0x1D53E, 1, -120023⟩, ⟨0x1D540, 0x1D544, 1, -120023⟩, ⟨0x1D54A, 0x1D550, 1, -120023⟩,
  ⟨0x1D552, 0x1D56B, 1, -120049⟩, ⟨0x1D56C, 0x1D585, 1, -120075⟩, ⟨0x1D586, 0x1D59F, 1, -120101⟩,
  ⟨0x1D5A0, 0x1D5B9, 1, -120127⟩, ⟨0x1D5BA, 0x1D5D3, 1, -120153⟩, ⟨0x1D5D4, 0x1D5ED, 1, -120179⟩,
  ⟨0x1D5EE, 0x1D607, 1, -120205⟩, ⟨0x1D608, 0x1D621, 1, -120231⟩, ⟨0x1D622, 0x1D63B, 1, -120257⟩,
  ⟨0x1D63C, 0x1D655, 1, -120283⟩, ⟨0x1D656, 0x1D66F, 1, -120309⟩, ⟨0x1D670, 0x1D689, 1, -120335⟩,
  ⟨0x1D68A, 0x1D6A3, 1, -120361⟩, ⟨0x1D6A8, 0x1D6B8, 1, -119543⟩, ⟨0x1D6BA, 0x1D6C0, 1, -119543⟩,
  ⟨0x1D6C2, 0x1D6D2, 1, -119569⟩, ⟨0x1D6D4, 0x1D6DA, 1, -119569⟩, ⟨0x1D6E2, 0x1D6F2, 1, -119601⟩,
  ⟨0x1D6F4, 0x1D6FA, 1, -119601⟩, ⟨0x1D6FC, 0x1D70C, 1, -119627⟩, ⟨0x1D70E, 0x1D714, 1, -119627⟩,
  ⟨0x1D71C, 0x1D72C, 1, -119659⟩, ⟨0x1D72E, 0x1D734, 1, -119659⟩, ⟨0x1D736, 0x1D746, 1, -119685⟩,
  ⟨0x1D748, 0x1D74E, 1, -119685⟩, ⟨0x1D756, 0x1D766, 1, -119717⟩, ⟨0x1D768, 0x1D76E, 1, -119717⟩,
  ⟨0x1D770, 0x1D780, 1, -119743⟩, ⟨0x1D782, 0x1D788, 1, -119743⟩, ⟨0x1D790, 0x1D7A0, 1, -119775⟩,
  ⟨0x1D7A2, 0x1D7A8, 1, -119775⟩, ⟨0x1D7AA, 0x1D7BA, 1, -119801⟩, ⟨0x1D7BC, 0x1D7C2, 1, -119801⟩,
  ⟨0x1D7CE, 0x1D7D7, 1, -120734⟩, ⟨0x1D7D8, 0x1D7E1, 1, -120744⟩, ⟨0x1D7E2, 0x1D7EB, 1, -120754⟩,
  ⟨0x1D7EC, 0x1D7F5, 1, -120764⟩, ⟨0x1D7F6, 0x1D7FF, 1, -120774⟩, ⟨0x1E030, 0x1E038, 1, -121856⟩,
  ⟨0x1E03C, 0x1E046, 1, -121854⟩, ⟨0x1E051, 0x1E059, 1, -121889⟩, ⟨0x1E05F, 0x1E064, 1, -121884⟩,
  ⟨0x1EE0A, 0x1EE0D, 1, -124871⟩, ⟨0x1EE2A, 0x1EE2D, 1, -124903⟩, ⟨0x1F130, 0x1F149, 1, -127183⟩,
  ⟨0x1FBF0, 0x1FBF9, 1, -129984⟩]

private def variantImagesFirst : List Images := [
  .ofTexts 0xA0 [" "], .ofTexts 0xA8 [" \u0308"], .ofTexts 0xAA ["a"], .ofTexts 0xAF [" \u0304"],
  .ofTexts 0xB2 ["2", "3", " \u0301", "μ"], .ofTexts 0xB8 [" \u0327", "1", "o"],
  .ofTexts 0xBC ["1⁄4", "1⁄2", "3⁄4"], .ofTexts 0x133 ["ij"], .ofTexts 0x140 ["l·"],
  .ofTexts 0x149 ["ʼn"], .ofTexts 0x17F ["s"], .ofTexts 0x1C6 ["dž"], .ofTexts 0x1C9 ["lj"],
  .ofTexts 0x1CC ["nj"], .ofTexts 0x1F3 ["dz"],
  .ofTexts 0x2B0 ["h", "ɦ", "j", "r", "ɹ", "ɻ", "ʁ", "w", "y"],
  .ofTexts 0x2D8 [" \u0306", " \u0307", " \u030a", " \u0328", " \u0303", " \u030b"],
  .ofTexts 0x2E0 ["ɣ", "l", "s", "x", "ʕ"], .ofTexts 0x345 ["ι"], .ofTexts 0x37A [" ι"],
  .ofTexts 0x384 [" \u0301", " \u0308\u0301"], .ofTexts 0x3D0 ["β", "θ", "υ", "ύ", "ϋ", "φ", "π"],
  .ofTexts 0x3F0 ["κ", "ρ", "σ"], .ofTexts 0x3F5 ["ε"], .ofTexts 0x587 ["եւ"],
  .ofTexts 0x675 ["\u0627\u0674", "\u0648\u0674", "\u06c7\u0674", "\u064a\u0674"],
  .ofTexts 0xE33 ["\u0e4dา"], .ofTexts 0xEB3 ["\u0ecdາ"], .ofTexts 0xEDC ["ຫນ", "ຫມ"],
  .ofTexts 0xF0C ["་"], .ofTexts 0xF77 ["\u0fb2\u0f71\u0f80"],
  .ofTexts 0xF79 ["\u0fb3\u0f71\u0f80"], .ofTexts 0x10FC ["ნ"],
  .ofTexts 0x1C80 ["в", "д", "о", "с", "т", "т", "ъ", "ѣ", "ꙋ"], .ofTexts 0x1D2C ["a", "æ", "b"],
  .ofTexts 0x1D30 ["d", "e", "ǝ"],
  .ofTexts 0x1D3C ["o", "ȣ", "p", "r", "t", "u", "w", "a", "ɐ", "ɑ", "ᴂ", "b", "d", "e", "ə", "ɛ",
    "ɜ", "g"],
  .ofTexts 0x1D4F ["k", "m", "ŋ", "o", "ɔ", "ᴖ", "ᴗ", "p", "t", "u", "ᴝ", "ɯ", "v", "ᴥ", "β", "γ",
    "δ", "φ", "χ", "i", "r", "u", "v", "β", "γ", "ρ", "φ", "χ"],
  .ofTexts 0x1D78 ["н"],
  .ofTexts 0x1D9B ["ɒ", "c", "ɕ", "ð", "ɜ", "f", "ɟ", "ɡ", "ɥ", "ɨ", "ɩ", "ɪ", "ᵻ", "ʝ", "ɭ", "ᶅ",
    "ʟ", "ɱ", "ɰ"],
  .ofTexts 0x1DB2 ["ɸ", "ʂ", "ʃ", "ƫ", "ʉ", "ʊ", "ᴜ", "ʋ", "ʌ", "z", "ʐ", "ʑ", "ʒ", "θ"],
  .ofTexts 0x1E9A ["aʾ", "ṡ"], .ofTexts 0x1F80 ["ἀι", "ἁι", "ἂι", "ἃι", "ἄι", "ἅι", "ἆι", "ἇι"],
  .ofTexts 0x1F90 ["ἠι", "ἡι", "ἢι", "ἣι", "ἤι", "ἥι", "ἦι", "ἧι"],
  .ofTexts 0x1FA0 ["ὠι", "ὡι", "ὢι", "ὣι", "ὤι", "ὥι", "ὦι", "ὧι"],
  .ofTexts 0x1FB2 ["ὰι", "αι", "άι"], .ofTexts 0x1FB7 ["ᾶι"], .ofTexts 0x1FBD [" \u0313"],
  .ofTexts 0x1FBF [" \u0313", " \u0342", " \u0308\u0342", "ὴι", "ηι", "ήι"], .ofTexts 0x1FC7 ["ῆι"],
  .ofTexts 0x1FCD [" \u0313\u0300", " \u0313\u0301", " \u0313\u0342"],
  .ofTexts 0x1FDD [" \u0314\u0300", " \u0314\u0301", " \u0314\u0342"],
  .ofTexts 0x1FED [" \u0308\u0300", " \u0308\u0301"], .ofTexts 0x1FF2 ["ὼι", "ωι", "ώι"],
  .ofTexts 0x1FF7 ["ῶι"], .ofTexts 0x1FFD [" \u0301", " \u0314"],
  .ofTexts 0x2000 [" ", " ", " ", " ", " ", " ", " ", " ", " ", " ", " "], .ofTexts 0x2011 ["‐"],
  .ofTexts 0x2017 [" \u0333"], .ofTexts 0x202F [" "], .ofTexts 0x2033 ["′′", "′′′"],
  .ofTexts 0x2036 ["‵‵", "‵‵‵"], .ofTexts 0x203C ["!!"], .ofTexts 0x203E [" \u0305"],
  .ofTexts 0x2047 ["??", "?!", "!?"], .ofTexts 0x2057 ["′′′′"], .ofTexts 0x205F [" "],
  .ofTexts 0x2070 ["0", "i"], .ofTexts 0x207A ["+", "−", "=", "(", ")", "n"],
  .ofTexts 0x208A ["+", "−", "=", "(", ")"], .ofTexts 0x2090 ["a", "e", "o", "x", "ə", "h"],
  .ofTexts 0x209A ["p", "s", "t"], .ofTexts 0x20A8 ["rs"],
  .ofTexts 0x2100 ["a/c", "a/s", "c", "°c"], .ofTexts 0x2105 ["c/o", "c/u", "ɛ"],
  .ofTexts 0x2109 ["°f", "g", "h", "h", "h", "h", "ħ", "i", "i", "l", "l"],
  .ofTexts 0x2115 ["n", "no"], .ofTexts 0x2119 ["p", "q", "r", "r", "r"],
  .ofTexts 0x2120 ["sm", "tel", "tm"], .ofTexts 0x2124 ["z"], .ofTexts 0x2128 ["z"],
  .ofTexts 0x212C ["b", "c"], .ofTexts 0x212F ["e", "e", "f"], .ofTexts 0x2133 ["m", "o"],
  .ofTexts 0x2139 ["i"], .ofTexts 0x213B ["fax", "π", "γ", "γ", "π", "∑"],
  .ofTexts 0x2145 ["d", "d", "e", "i", "j"],
  .ofTexts 0x2150 ["1⁄7", "1⁄9", "1⁄10", "1⁄3", "2⁄3", "1⁄5", "2⁄5", "3⁄5", "4⁄5", "1⁄6", "5⁄6",
    "1⁄8", "3⁄8", "5⁄8", "7⁄8", "1⁄"],
  .ofTexts 0x2170 ["i", "ii", "iii", "iv", "v", "vi", "vii", "viii", "ix", "x", "xi", "xii", "l",
    "c", "d", "m"],
  .ofTexts 0x2189 ["0⁄3"], .ofTexts 0x222C ["∫∫", "∫∫∫"], .ofTexts 0x222F ["∮∮", "∮∮∮"],
  .ofTexts 0x2469 ["10", "11", "12", "13", "14", "15", "16", "17", "18", "19", "20", "(1)", "(2)",
    "(3)", "(4)", "(5)", "(6)", "(7)", "(8)", "(9)", "(10)", "(11)", "(12)", "(13)", "(14)",
    "(15)", "(16)", "(17)", "(18)", "(19)", "(20)"],
  .ofTexts 0x249C ["(a)", "(b)", "(c)", "(d)", "(e)", "(f)", "(g)", "(h)", "(i)", "(j)", "(k)",
    "(l)", "(m)", "(n)", "(o)", "(p)", "(q)", "(r)", "(s)", "(t)", "(u)", "(v)", "(w)", "(x)",
    "(y)", "(z)"],
  .ofTexts 0x24EA ["0"], .ofTexts 0x2A0C ["∫∫∫∫"], .ofTexts 0x2A74 ["::=", "==", "==="],
  .ofTexts 0x2C7C ["j", "v"], .ofTexts 0x2D6F ["ⵡ"], .ofTexts 0x2E9F ["母"], .ofTexts 0x2EF3 ["龟"]]

private def variantImagesSecond : List Images := [
  .ofTexts 0x2F00 ["一", "丨", "丶", "丿", "乙", "亅", "二", "亠", "人", "儿", "入", "八", "冂", "冖", "冫", "几",
    "凵", "刀", "力", "勹", "匕", "匚", "匸", "十", "卜", "卩", "厂", "厶", "又", "口", "囗", "土", "士", "夂", "夊",
    "夕", "大", "女", "子", "宀", "寸", "小", "尢", "尸", "屮", "山", "巛", "工", "己", "巾", "干", "幺", "广", "廴",
    "廾", "弋", "弓", "彐", "彡", "彳", "心", "戈", "戶", "手"],
  .ofTexts 0x2F40 ["支", "攴", "文", "斗", "斤", "方", "无", "日", "曰", "月", "木", "欠", "止", "歹", "殳", "毋",
    "比", "毛", "氏", "气", "水", "火", "爪", "父", "爻", "爿", "片", "牙", "牛", "犬", "玄", "玉", "瓜", "瓦", "甘",
    "生", "用", "田", "疋", "疒", "癶", "白", "皮", "皿", "目", "矛", "矢", "石", "示", "禸", "禾", "穴", "立", "竹",
    "米", "糸", "缶", "网", "羊", "羽", "老", "而", "耒", "耳"],
  .ofTexts 0x2F80 ["聿", "肉", "臣", "自", "至", "臼", "舌", "舛", "舟", "艮", "色", "艸", "虍", "虫", "血", "行",
    "衣", "襾", "見", "角", "言", "谷", "豆", "豕", "豸", "貝", "赤", "走", "足", "身", "車", "辛", "辰", "辵", "邑",
    "酉", "釆", "里", "金", "長", "門", "阜", "隶", "隹", "雨", "靑", "非", "面", "革", "韋", "韭", "音", "頁", "風",
    "飛", "食", "首", "香", "馬", "骨", "高", "髟", "鬥", "鬯"],
  .ofTexts 0x2FC0 ["鬲", "鬼", "魚", "鳥", "鹵", "鹿", "麥", "麻", "黃", "黍", "黑", "黹", "黽", "鼎", "鼓", "鼠",
    "鼻", "齊", "齒", "龍", "龜", "龠"],
  .ofTexts 0x3000 [" "], .ofTexts 0x3002 ["."], .ofTexts 0x3036 ["〒"],
  .ofTexts 0x3038 ["十", "卄", "卅"], .ofTexts 0x309B [" \u3099", " \u309a"], .ofTexts 0x309F ["より"],
  .ofTexts 0x30FF ["コト"], .ofTexts 0x3131 ["ᄀ", "ᄁ", "ᆪ", "ᄂ", "ᆬ", "ᆭ", "ᄃ", "ᄄ", "ᄅ"],
  .ofTexts 0x3140 ["ᄚ", "ᄆ", "ᄇ", "ᄈ", "ᄡ"],
  .ofTexts 0x3165 ["ᄔ", "ᄕ", "ᇇ", "ᇈ", "ᇌ", "ᇎ", "ᇓ", "ᇗ", "ᇙ", "ᄜ", "ᇝ", "ᇟ", "ᄝ", "ᄞ", "ᄠ", "ᄢ",
    "ᄣ", "ᄧ", "ᄩ"],
  .ofTexts 0x317D ["ᄲ", "ᄶ", "ᅀ", "ᅇ", "ᅌ", "ᇱ", "ᇲ", "ᅗ", "ᅘ", "ᅙ", "ᆄ", "ᆅ", "ᆈ", "ᆑ", "ᆒ", "ᆔ",
    "ᆞ", "ᆡ"],
  .ofTexts 0x3192 ["一", "二", "三", "四", "上", "中", "下", "甲", "乙", "丙", "丁", "天", "地", "人"],
  .ofTexts 0x3200 ["(ᄀ)", "(ᄂ)", "(ᄃ)", "(ᄅ)", "(ᄆ)", "(ᄇ)", "(ᄉ)", "(ᄋ)", "(ᄌ)", "(ᄎ)", "(ᄏ)",
    "(ᄐ)", "(ᄑ)", "(ᄒ)", "(가)", "(나)", "(다)", "(라)", "(마)", "(바)", "(사)", "(아)", "(자)", "(차)",
    "(카)", "(타)", "(파)", "(하)", "(주)", "(오전)", "(오후)"],
  .ofTexts 0x3220 ["(一)", "(二)", "(三)", "(四)", "(五)", "(六)", "(七)", "(八)", "(九)", "(十)", "(月)",
    "(火)", "(水)", "(木)", "(金)", "(土)", "(日)", "(株)", "(有)", "(社)", "(名)", "(特)", "(財)", "(祝)",
    "(労)", "(代)", "(呼)", "(学)", "(監)", "(企)", "(資)", "(協)", "(祭)", "(休)", "(自)", "(至)", "問", "幼",
    "文", "箏"],
  .ofTexts 0x3250 ["pte", "21", "22", "23", "24", "25", "26", "27", "28", "29", "30", "31", "32",
    "33", "34", "35", "ᄀ", "ᄂ", "ᄃ", "ᄅ", "ᄆ", "ᄇ", "ᄉ", "ᄋ", "ᄌ"],
  .ofTexts 0x326E ["가", "나", "다", "라", "마", "바", "사", "아", "자", "차", "카", "타", "파", "하", "참고",
    "주의", "우"]]

private def variantImagesThird : List Images := [
  .ofTexts 0x3280 ["一", "二", "三", "四", "五", "六", "七", "八", "九", "十", "月", "火", "水", "木", "金", "土",
    "日", "株", "有", "社", "名", "特", "財", "祝", "労", "秘", "男", "女", "適", "優", "印", "注", "項", "休", "写",
    "正", "上", "中", "下", "左", "右", "医", "宗", "学", "監", "企", "資", "協", "夜", "36", "37", "38", "39",
    "40", "41", "42", "43", "44", "45", "46", "47", "48", "49", "50"],
  .ofTexts 0x32C0 ["1月", "2月", "3月", "4月", "5月", "6月", "7月", "8月", "9月", "10月", "11月", "12月",
    "hg", "erg", "ev", "ltd", "ア", "イ", "ウ", "エ", "オ", "カ", "キ", "ク", "ケ", "コ", "サ", "シ", "ス",
    "セ", "ソ", "タ", "チ", "ツ", "テ", "ト"],
  .ofTexts 0x32EA ["ヒ", "フ", "ヘ", "ホ"], .ofTexts 0x32F3 ["ヤ", "ユ"],
  .ofTexts 0x32FF ["令和", "アパート", "アルファ", "アンペア", "アール", "イニング", "インチ", "ウォン", "エスクード", "エーカー",
    "オンス", "オーム", "カイリ", "カラット", "カロリー", "ガロン", "ガンマ", "ギガ", "ギニー", "キュリー", "ギルダー", "キロ", "キログラム",
    "キロメートル", "キロワット", "グラム", "グラムトン", "クルゼイロ", "クローネ", "ケース", "コルナ", "コーポ", "サイクル", "サンチーム",
    "シリング", "センチ", "セント", "ダース", "デシ", "ドル", "トン", "ナノ", "ノット", "ハイツ", "パーセント", "パーツ", "バーレル",
    "ピアストル", "ピクル", "ピコ", "ビル", "ファラッド", "フィート", "ブッシェル", "フラン", "ヘクタール", "ペソ", "ペニヒ", "ヘルツ",
    "ペンス", "ページ", "ベータ", "ポイント", "ボルト"],
  .ofTexts 0x333F ["ホン", "ポンド", "ホール", "ホーン", "マイクロ", "マイル", "マッハ", "マルク", "マンション", "ミクロン", "ミリ",
    "ミリバール", "メガ", "メガトン", "メートル", "ヤード", "ヤール", "ユアン", "リットル", "リラ", "ルピー", "ルーブル", "レム",
    "レントゲン", "ワット", "0点", "1点", "2点", "3点", "4点", "5点", "6点", "7点", "8点", "9点", "10点", "11点",
    "12点", "13点", "14点", "15点", "16点", "17点", "18点", "19点", "20点", "21点", "22点", "23点", "24点",
    "hpa", "da", "au", "bar", "ov", "pc", "dm", "dm2", "dm3", "iu", "平成", "昭和", "大正", "明治"],
  .ofTexts 0x337F ["株式会社", "pa", "na", "μa", "ma", "ka", "kb", "mb", "gb", "cal", "kcal", "pf",
    "nf", "μf", "μg", "mg", "kg", "hz", "khz", "mhz", "ghz", "thz", "μl", "ml", "dl", "kl", "fm",
    "nm", "μm", "mm", "cm", "km", "mm2", "cm2", "m2", "km2", "mm3", "cm3", "m3", "km3", "m∕s",
    "m∕s2", "pa", "kpa", "mpa", "gpa", "rad", "rad∕s", "rad∕s2", "ps", "ns", "μs", "ms", "pv",
    "nv", "μv", "mv", "kv", "mv", "pw", "nw", "μw", "mw", "kw"],
  .ofTexts 0x33BF ["mw", "kω", "mω"], .ofTexts 0x33C3 ["bq", "cc", "cd", "c∕kg"],
  .ofTexts 0x33C8 ["db", "gy", "ha", "hp", "in", "kk", "km", "kt", "lm", "ln", "log", "lx", "mb",
    "mil", "mol", "ph"],
  .ofTexts 0x33D9 ["ppm", "pr", "sr", "sv", "wb", "v∕m", "a∕m", "1日", "2日", "3日", "4日", "5日",
    "6日", "7日", "8日", "9日", "10日", "11日", "12日", "13日", "14日", "15日", "16日", "17日", "18日", "19日",
    "20日", "21日", "22日", "23日", "24日", "25日", "26日", "27日", "28日", "29日", "30日", "31日", "gal"],
  .ofTexts 0xA69C ["ъ", "ь"], .ofTexts 0xA770 ["ꝯ"], .ofTexts 0xA7F1 ["s", "c", "f", "q"],
  .ofTexts 0xA7F8 ["ħ", "œ"], .ofTexts 0xAB5C ["ꜧ", "ꬷ", "ɫ", "ꭒ"], .ofTexts 0xAB69 ["ʍ"],
  .ofTexts 0xFB00 ["ff", "fi", "fl", "ffi", "ffl", "st", "st"],
  .ofTexts 0xFB13 ["մն", "մե", "մի", "վն", "մխ"],
  .ofTexts 0xFB20 ["\u05e2", "\u05d0", "\u05d3", "\u05d4", "\u05db", "\u05dc", "\u05dd", "\u05e8",
    "\u05ea", "+"]]

private def variantImagesFourth : List Images := [
  .ofTexts 0xFB4F ["\u05d0\u05dc", "\u0671", "\u0671", "\u067b", "\u067b", "\u067b", "\u067b",
    "\u067e", "\u067e", "\u067e", "\u067e", "\u0680", "\u0680", "\u0680", "\u0680", "\u067a",
    "\u067a", "\u067a", "\u067a", "\u067f", "\u067f", "\u067f", "\u067f", "\u0679", "\u0679",
    "\u0679", "\u0679", "\u06a4", "\u06a4", "\u06a4", "\u06a4", "\u06a6", "\u06a6", "\u06a6",
    "\u06a6", "\u0684", "\u0684", "\u0684", "\u0684", "\u0683", "\u0683", "\u0683", "\u0683",
    "\u0686", "\u0686", "\u0686", "\u0686", "\u0687", "\u0687", "\u0687", "\u0687", "\u068d",
    "\u068d", "\u068c", "\u068c", "\u068e", "\u068e", "\u0688", "\u0688", "\u0698", "\u0698",
    "\u0691", "\u0691", "\u06a9"],
  .ofTexts 0xFB8F ["\u06a9", "\u06a9", "\u06a9", "\u06af", "\u06af", "\u06af", "\u06af", "\u06b3",
    "\u06b3", "\u06b3", "\u06b3", "\u06b1", "\u06b1", "\u06b1", "\u06b1", "\u06ba", "\u06ba",
    "\u06bb", "\u06bb", "\u06bb", "\u06bb", "\u06c0", "\u06c0", "\u06c1", "\u06c1", "\u06c1",
    "\u06c1", "\u06be", "\u06be", "\u06be", "\u06be", "\u06d2", "\u06d2", "\u06d3", "\u06d3"],
  .ofTexts 0xFBD3 ["\u06ad", "\u06ad", "\u06ad", "\u06ad", "\u06c7", "\u06c7", "\u06c6", "\u06c6",
    "\u06c8", "\u06c8", "\u06c7\u0674", "\u06cb", "\u06cb", "\u06c5", "\u06c5", "\u06c9",
    "\u06c9", "\u06d0", "\u06d0", "\u06d0", "\u06d0", "\u0649", "\u0649", "\u0626\u0627",
    "\u0626\u0627", "\u0626\u06d5", "\u0626\u06d5", "\u0626\u0648", "\u0626\u0648",
    "\u0626\u06c7", "\u0626\u06c7", "\u0626\u06c6", "\u0626\u06c6", "\u0626\u06c8",
    "\u0626\u06c8", "\u0626\u06d0", "\u0626\u06d0", "\u0626\u06d0", "\u0626\u0649",
    "\u0626\u0649", "\u0626\u0649", "\u06cc", "\u06cc", "\u06cc", "\u06cc", "\u0626\u062c",
    "\u0626\u062d", "\u0626\u0645", "\u0626\u0649", "\u0626\u064a", "\u0628\u062c",
    "\u0628\u062d", "\u0628\u062e", "\u0628\u0645", "\u0628\u0649", "\u0628\u064a",
    "\u062a\u062c", "\u062a\u062d", "\u062a\u062e", "\u062a\u0645", "\u062a\u0649",
    "\u062a\u064a", "\u062b\u062c", "\u062b\u0645"],
  .ofTexts 0xFC13 ["\u062b\u0649", "\u062b\u064a", "\u062c\u062d", "\u062c\u0645", "\u062d\u062c",
    "\u062d\u0645", "\u062e\u062c", "\u062e\u062d", "\u062e\u0645", "\u0633\u062c",
    "\u0633\u062d", "\u0633\u062e", "\u0633\u0645", "\u0635\u062d", "\u0635\u0645",
    "\u0636\u062c", "\u0636\u062d", "\u0636\u062e", "\u0636\u0645", "\u0637\u062d",
    "\u0637\u0645", "\u0638\u0645", "\u0639\u062c", "\u0639\u0645", "\u063a\u062c",
    "\u063a\u0645", "\u0641\u062c", "\u0641\u062d", "\u0641\u062e", "\u0641\u0645",
    "\u0641\u0649", "\u0641\u064a", "\u0642\u062d", "\u0642\u0645", "\u0642\u0649",
    "\u0642\u064a", "\u0643\u0627", "\u0643\u062c", "\u0643\u062d", "\u0643\u062e",
    "\u0643\u0644", "\u0643\u0645", "\u0643\u0649", "\u0643\u064a", "\u0644\u062c",
    "\u0644\u062d", "\u0644\u062e", "\u0644\u0645", "\u0644\u0649", "\u0644\u064a",
    "\u0645\u062c", "\u0645\u062d", "\u0645\u062e", "\u0645\u0645", "\u0645\u0649",
    "\u0645\u064a", "\u0646\u062c", "\u0646\u062d", "\u0646\u062e", "\u0646\u0645",
    "\u0646\u0649", "\u0646\u064a", "\u0647\u062c", "\u0647\u0645"],
  .ofTexts 0xFC53 ["\u0647\u0649", "\u0647\u064a", "\u064a\u062c", "\u064a\u062d", "\u064a\u062e",
    "\u064a\u0645", "\u064a\u0649", "\u064a\u064a", "\u0630\u0670", "\u0631\u0670",
    "\u0649\u0670", " \u064c\u0651", " \u064d\u0651", " \u064e\u0651", " \u064f\u0651",
    " \u0650\u0651", " \u0651\u0670", "\u0626\u0631", "\u0626\u0632", "\u0626\u0645",
    "\u0626\u0646", "\u0626\u0649", "\u0626\u064a", "\u0628\u0631", "\u0628\u0632",
    "\u0628\u0645", "\u0628\u0646", "\u0628\u0649", "\u0628\u064a", "\u062a\u0631",
    "\u062a\u0632", "\u062a\u0645", "\u062a\u0646", "\u062a\u0649", "\u062a\u064a",
    "\u062b\u0631", "\u062b\u0632", "\u062b\u0645", "\u062b\u0646", "\u062b\u0649",
    "\u062b\u064a", "\u0641\u0649", "\u0641\u064a", "\u0642\u0649", "\u0642\u064a",
    "\u0643\u0627", "\u0643\u0644", "\u0643\u0645", "\u0643\u0649", "\u0643\u064a",
    "\u0644\u0645", "\u0644\u0649", "\u0644\u064a", "\u0645\u0627", "\u0645\u0645",
    "\u0646\u0631", "\u0646\u0632", "\u0646\u0645", "\u0646\u0646", "\u0646\u0649",
    "\u0646\u064a", "\u0649\u0670", "\u064a\u0631", "\u064a\u0632"],
  .ofTexts 0xFC93 ["\u064a\u0645", "\u064a\u0646", "\u064a\u0649", "\u064a\u064a", "\u0626\u062c",
    "\u0626\u062d", "\u0626\u062e", "\u0626\u0645", "\u0626\u0647", "\u0628\u062c",
    "\u0628\u062d", "\u0628\u062e", "\u0628\u0645", "\u0628\u0647", "\u062a\u062c",
    "\u062a\u062d", "\u062a\u062e", "\u062a\u0645", "\u062a\u0647", "\u062b\u0645",
    "\u062c\u062d", "\u062c\u0645", "\u062d\u062c", "\u062d\u0645", "\u062e\u062c",
    "\u062e\u0645", "\u0633\u062c", "\u0633\u062d", "\u0633\u062e", "\u0633\u0645",
    "\u0635\u062d", "\u0635\u062e", "\u0635\u0645", "\u0636\u062c", "\u0636\u062d",
    "\u0636\u062e", "\u0636\u0645", "\u0637\u062d", "\u0638\u0645", "\u0639\u062c",
    "\u0639\u0645", "\u063a\u062c", "\u063a\u0645", "\u0641\u062c", "\u0641\u062d",
    "\u0641\u062e", "\u0641\u0645", "\u0642\u062d", "\u0642\u0645", "\u0643\u062c",
    "\u0643\u062d", "\u0643\u062e", "\u0643\u0644", "\u0643\u0645", "\u0644\u062c",
    "\u0644\u062d", "\u0644\u062e", "\u0644\u0645", "\u0644\u0647", "\u0645\u062c",
    "\u0645\u062d", "\u0645\u062e", "\u0645\u0645", "\u0646\u062c"],
  .ofTexts 0xFCD3 ["\u0646\u062d", "\u0646\u062e", "\u0646\u0645", "\u0646\u0647", "\u0647\u062c",
    "\u0647\u0645", "\u0647\u0670", "\u064a\u062c", "\u064a\u062d", "\u064a\u062e",
    "\u064a\u0645", "\u064a\u0647", "\u0626\u0645", "\u0626\u0647", "\u0628\u0645",
    "\u0628\u0647", "\u062a\u0645", "\u062a\u0647", "\u062b\u0645", "\u062b\u0647",
    "\u0633\u0645", "\u0633\u0647", "\u0634\u0645", "\u0634\u0647", "\u0643\u0644",
    "\u0643\u0645", "\u0644\u0645", "\u0646\u0645", "\u0646\u0647", "\u064a\u0645",
    "\u064a\u0647", "\u0640\u064e\u0651", "\u0640\u064f\u0651", "\u0640\u0650\u0651",
    "\u0637\u0649", "\u0637\u064a", "\u0639\u0649", "\u0639\u064a", "\u063a\u0649",
    "\u063a\u064a", "\u0633\u0649", "\u0633\u064a", "\u0634\u0649", "\u0634\u064a",
    "\u062d\u0649", "\u062d\u064a", "\u062c\u0649", "\u062c\u064a", "\u062e\u0649",
    "\u062e\u064a", "\u0635\u0649", "\u0635\u064a", "\u0636\u0649", "\u0636\u064a",
    "\u0634\u062c", "\u0634\u062d", "\u0634\u062e", "\u0634\u0645", "\u0634\u0631",
    "\u0633\u0631", "\u0635\u0631", "\u0636\u0631", "\u0637\u0649", "\u0637\u064a"]]

private def variantImagesFifth : List Images := [
  .ofTexts 0xFD13 ["\u0639\u0649", "\u0639\u064a", "\u063a\u0649", "\u063a\u064a", "\u0633\u0649",
    "\u0633\u064a", "\u0634\u0649", "\u0634\u064a", "\u062d\u0649", "\u062d\u064a",
    "\u062c\u0649", "\u062c\u064a", "\u062e\u0649", "\u062e\u064a", "\u0635\u0649",
    "\u0635\u064a", "\u0636\u0649", "\u0636\u064a", "\u0634\u062c", "\u0634\u062d",
    "\u0634\u062e", "\u0634\u0645", "\u0634\u0631", "\u0633\u0631", "\u0635\u0631",
    "\u0636\u0631", "\u0634\u062c", "\u0634\u062d", "\u0634\u062e", "\u0634\u0645",
    "\u0633\u0647", "\u0634\u0647", "\u0637\u0645", "\u0633\u062c", "\u0633\u062d",
    "\u0633\u062e", "\u0634\u062c", "\u0634\u062d", "\u0634\u062e", "\u0637\u0645",
    "\u0638\u0645", "\u0627\u064b", "\u0627\u064b"],
  .ofTexts 0xFD50 ["\u062a\u062c\u0645", "\u062a\u062d\u062c", "\u062a\u062d\u062c",
    "\u062a\u062d\u0645", "\u062a\u062e\u0645", "\u062a\u0645\u062c", "\u062a\u0645\u062d",
    "\u062a\u0645\u062e", "\u062c\u0645\u062d", "\u062c\u0645\u062d", "\u062d\u0645\u064a",
    "\u062d\u0645\u0649", "\u0633\u062d\u062c", "\u0633\u062c\u062d", "\u0633\u062c\u0649",
    "\u0633\u0645\u062d", "\u0633\u0645\u062d", "\u0633\u0645\u062c", "\u0633\u0645\u0645",
    "\u0633\u0645\u0645", "\u0635\u062d\u062d", "\u0635\u062d\u062d", "\u0635\u0645\u0645",
    "\u0634\u062d\u0645", "\u0634\u062d\u0645", "\u0634\u062c\u064a", "\u0634\u0645\u062e",
    "\u0634\u0645\u062e", "\u0634\u0645\u0645", "\u0634\u0645\u0645", "\u0636\u062d\u0649",
    "\u0636\u062e\u0645", "\u0636\u062e\u0645", "\u0637\u0645\u062d", "\u0637\u0645\u062d",
    "\u0637\u0645\u0645", "\u0637\u0645\u064a", "\u0639\u062c\u0645", "\u0639\u0645\u0645",
    "\u0639\u0645\u0645", "\u0639\u0645\u0649", "\u063a\u0645\u0645", "\u063a\u0645\u064a",
    "\u063a\u0645\u0649", "\u0641\u062e\u0645", "\u0641\u062e\u0645", "\u0642\u0645\u062d",
    "\u0642\u0645\u0645", "\u0644\u062d\u0645", "\u0644\u062d\u064a", "\u0644\u062d\u0649",
    "\u0644\u062c\u062c", "\u0644\u062c\u062c", "\u0644\u062e\u0645", "\u0644\u062e\u0645",
    "\u0644\u0645\u062d", "\u0644\u0645\u062d", "\u0645\u062d\u062c", "\u0645\u062d\u0645",
    "\u0645\u062d\u064a", "\u0645\u062c\u062d", "\u0645\u062c\u0645", "\u0645\u062e\u062c",
    "\u0645\u062e\u0645"],
  .ofTexts 0xFD92 ["\u0645\u062c\u062e", "\u0647\u0645\u062c", "\u0647\u0645\u0645",
    "\u0646\u062d\u0645", "\u0646\u062d\u0649", "\u0646\u062c\u0645", "\u0646\u062c\u0645",
    "\u0646\u062c\u0649", "\u0646\u0645\u064a", "\u0646\u0645\u0649", "\u064a\u0645\u0645",
    "\u064a\u0645\u0645", "\u0628\u062e\u064a", "\u062a\u062c\u064a", "\u062a\u062c\u0649",
    "\u062a\u062e\u064a", "\u062a\u062e\u0649", "\u062a\u0645\u064a", "\u062a\u0645\u0649",
    "\u062c\u0645\u064a", "\u062c\u062d\u0649", "\u062c\u0645\u0649", "\u0633\u062e\u0649",
    "\u0635\u062d\u064a", "\u0634\u062d\u064a", "\u0636\u062d\u064a", "\u0644\u062c\u064a",
    "\u0644\u0645\u064a", "\u064a\u062d\u064a", "\u064a\u062c\u064a", "\u064a\u0645\u064a",
    "\u0645\u0645\u064a", "\u0642\u0645\u064a", "\u0646\u062d\u064a", "\u0642\u0645\u062d",
    "\u0644\u062d\u0645", "\u0639\u0645\u064a", "\u0643\u0645\u064a", "\u0646\u062c\u062d",
    "\u0645\u062e\u064a", "\u0644\u062c\u0645", "\u0643\u0645\u0645", "\u0644\u062c\u0645",
    "\u0646\u062c\u062d", "\u062c\u062d\u064a", "\u062d\u062c\u064a", "\u0645\u062c\u064a",
    "\u0641\u0645\u064a", "\u0628\u062d\u064a", "\u0643\u0645\u0645", "\u0639\u062c\u0645",
    "\u0635\u0645\u0645", "\u0633\u062e\u064a", "\u0646\u062c\u064a"],
  .ofTexts 0xFDF0 ["\u0635\u0644\u06d2", "\u0642\u0644\u06d2", "\u0627\u0644\u0644\u0647",
    "\u0627\u0643\u0628\u0631", "\u0645\u062d\u0645\u062f", "\u0635\u0644\u0639\u0645",
    "\u0631\u0633\u0648\u0644", "\u0639\u0644\u064a\u0647", "\u0648\u0633\u0644\u0645",
    "\u0635\u0644\u0649",
    "\u0635\u0644\u0649 \u0627\u0644\u0644\u0647 \u0639\u0644\u064a\u0647 \u0648\u0633\u0644\u0645",
    "\u062c\u0644 \u062c\u0644\u0627\u0644\u0647", "\u0631\u06cc\u0627\u0644"],
  .ofTexts 0xFE10 [",", "、"], .ofTexts 0xFE13 [":", ";", "!", "?", "〖", "〗"],
  .ofTexts 0xFE31 ["—", "–", "_", "_", "(", ")", "\x7b", "\x7d", "〔", "〕", "【", "】", "《", "》",
    "〈", "〉"],
  .ofTexts 0xFE47 ["[", "]", " \u0305", " \u0305", " \u0305", " \u0305", "_", "_", "_", ",", "、"],
  .ofTexts 0xFE54 [";", ":", "?", "!", "—", "(", ")", "\x7b", "\x7d", "〔", "〕", "#", "&", "*",
    "+", "-", "<", ">", "="],
  .ofTexts 0xFE68 ["\\", "$", "%", "@"], .ofTexts 0xFE70 [" \u064b", "\u0640\u064b", " \u064c"],
  .ofTexts 0xFE74 [" \u064d"],
  .ofTexts 0xFE76 [" \u064e", "\u0640\u064e", " \u064f", "\u0640\u064f", " \u0650",
    "\u0640\u0650", " \u0651", "\u0640\u0651", " \u0652", "\u0640\u0652", "\u0621", "\u0622",
    "\u0622", "\u0623", "\u0623", "\u0624", "\u0624", "\u0625", "\u0625", "\u0626", "\u0626",
    "\u0626", "\u0626", "\u0627", "\u0627", "\u0628", "\u0628", "\u0628", "\u0628", "\u0629",
    "\u0629", "\u062a", "\u062a", "\u062a", "\u062a", "\u062b", "\u062b", "\u062b", "\u062b",
    "\u062c", "\u062c", "\u062c", "\u062c", "\u062d", "\u062d", "\u062d", "\u062d", "\u062e",
    "\u062e", "\u062e", "\u062e", "\u062f", "\u062f", "\u0630", "\u0630", "\u0631", "\u0631",
    "\u0632", "\u0632", "\u0633", "\u0633", "\u0633", "\u0633", "\u0634"],
  .ofTexts 0xFEB6 ["\u0634", "\u0634", "\u0634", "\u0635", "\u0635", "\u0635", "\u0635", "\u0636",
    "\u0636", "\u0636", "\u0636", "\u0637", "\u0637", "\u0637", "\u0637", "\u0638", "\u0638",
    "\u0638", "\u0638", "\u0639", "\u0639", "\u0639", "\u0639", "\u063a", "\u063a", "\u063a",
    "\u063a", "\u0641", "\u0641", "\u0641", "\u0641", "\u0642", "\u0642", "\u0642", "\u0642",
    "\u0643", "\u0643", "\u0643", "\u0643", "\u0644", "\u0644", "\u0644", "\u0644", "\u0645",
    "\u0645", "\u0645", "\u0645", "\u0646", "\u0646", "\u0646", "\u0646", "\u0647", "\u0647",
    "\u0647", "\u0647", "\u0648", "\u0648", "\u0649", "\u0649", "\u064a", "\u064a", "\u064a",
    "\u064a", "\u0644\u0622"],
  .ofTexts 0xFEF6 ["\u0644\u0622", "\u0644\u0623", "\u0644\u0623", "\u0644\u0625", "\u0644\u0625",
    "\u0644\u0627", "\u0644\u0627"],
  .ofTexts 0xFF5F ["⦅", "⦆", ".", "「", "」", "、", "・", "ヲ", "ァ", "ィ", "ゥ", "ェ", "ォ", "ャ", "ュ", "ョ",
    "ッ", "ー", "ア", "イ", "ウ", "エ", "オ", "カ", "キ", "ク", "ケ", "コ", "サ", "シ", "ス", "セ", "ソ", "タ", "チ",
    "ツ", "テ", "ト"],
  .ofTexts 0xFF8B ["ヒ", "フ", "ヘ", "ホ"], .ofTexts 0xFF94 ["ヤ", "ユ"],
  .ofTexts 0xFF9C ["ワ", "ン", "\u3099", "\u309a"]]

private def variantImagesSixth : List Images := [
  .ofTexts 0xFFA1 ["ᄀ", "ᄁ", "ᆪ", "ᄂ", "ᆬ", "ᆭ", "ᄃ", "ᄄ", "ᄅ"],
  .ofTexts 0xFFB0 ["ᄚ", "ᄆ", "ᄇ", "ᄈ", "ᄡ"], .ofTexts 0xFFDA ["ᅳ", "ᅴ", "ᅵ"],
  .ofTexts 0xFFE0 ["¢", "£", "¬", " \u0304", "¦", "¥", "₩"], .ofTexts 0xFFE8 ["│"],
  .ofTexts 0xFFED ["■", "○"], .ofTexts 0x10781 ["ː", "ˑ", "æ", "ʙ", "ɓ"],
  .ofTexts 0x10787 ["ʣ", "ꭦ", "ʥ", "ʤ", "ɖ", "ɗ", "ᶑ", "ɘ", "ɞ", "ʩ", "ɤ", "ɢ", "ɠ", "ʛ", "ħ",
    "ʜ", "ɧ", "ʄ", "ʪ", "ʫ", "ɬ", "𝼄", "ꞎ", "ɮ", "𝼅", "ʎ", "𝼆", "ø", "ɶ", "ɷ", "q", "ɺ", "𝼈", "ɽ",
    "ɾ", "ʀ", "ʨ", "ʦ", "ꭧ", "ʧ", "ʈ", "ⱱ"],
  .ofTexts 0x107B2 ["ʏ", "ʡ", "ʢ", "ʘ", "ǀ", "ǁ", "ǂ", "𝼊", "𝼞"], .ofTexts 0x1D49C ["a"],
  .ofTexts 0x1D49E ["c", "d"], .ofTexts 0x1D4A2 ["g"], .ofTexts 0x1D4A5 ["j", "k"],
  .ofTexts 0x1D4BB ["f"], .ofTexts 0x1D504 ["a", "b"], .ofTexts 0x1D538 ["a", "b"],
  .ofTexts 0x1D546 ["o"], .ofTexts 0x1D6A4 ["ı", "ȷ"], .ofTexts 0x1D6B9 ["θ"],
  .ofTexts 0x1D6C1 ["∇"], .ofTexts 0x1D6D3 ["σ"],
  .ofTexts 0x1D6DB ["∂", "ε", "θ", "κ", "φ", "ρ", "π"], .ofTexts 0x1D6F3 ["θ"],
  .ofTexts 0x1D6FB ["∇"], .ofTexts 0x1D70D ["σ"],
  .ofTexts 0x1D715 ["∂", "ε", "θ", "κ", "φ", "ρ", "π"], .ofTexts 0x1D72D ["θ"],
  .ofTexts 0x1D735 ["∇"], .ofTexts 0x1D747 ["σ"],
  .ofTexts 0x1D74F ["∂", "ε", "θ", "κ", "φ", "ρ", "π"], .ofTexts 0x1D767 ["θ"],
  .ofTexts 0x1D76F ["∇"], .ofTexts 0x1D781 ["σ"],
  .ofTexts 0x1D789 ["∂", "ε", "θ", "κ", "φ", "ρ", "π"], .ofTexts 0x1D7A1 ["θ"],
  .ofTexts 0x1D7A9 ["∇"], .ofTexts 0x1D7BB ["σ"],
  .ofTexts 0x1D7C3 ["∂", "ε", "θ", "κ", "φ", "ρ", "π", "ϝ", "ϝ"], .ofTexts 0x1E039 ["к", "л", "м"],
  .ofTexts 0x1E047 ["ы", "э", "ю", "ꚉ", "ә", "і", "ј", "ө", "ү", "ӏ"],
  .ofTexts 0x1E05A ["к", "л", "о", "п", "с"],
  .ofTexts 0x1E065 ["ъ", "ы", "ґ", "і", "ѕ", "џ", "ҫ", "ꙑ", "ұ"],
  .ofTexts 0x1EE00 ["\u0627", "\u0628", "\u062c", "\u062f"],
  .ofTexts 0x1EE05 ["\u0648", "\u0632", "\u062d", "\u0637", "\u064a"],
  .ofTexts 0x1EE0E ["\u0633", "\u0639", "\u0641", "\u0635", "\u0642", "\u0631", "\u0634",
    "\u062a", "\u062b", "\u062e", "\u0630", "\u0636", "\u0638", "\u063a", "\u066e", "\u06ba",
    "\u06a1", "\u066f"],
  .ofTexts 0x1EE21 ["\u0628", "\u062c"], .ofTexts 0x1EE24 ["\u0647"], .ofTexts 0x1EE27 ["\u062d"],
  .ofTexts 0x1EE29 ["\u064a"], .ofTexts 0x1EE2E ["\u0633", "\u0639", "\u0641", "\u0635", "\u0642"],
  .ofTexts 0x1EE34 ["\u0634", "\u062a", "\u062b", "\u062e"], .ofTexts 0x1EE39 ["\u0636"],
  .ofTexts 0x1EE3B ["\u063a"], .ofTexts 0x1EE42 ["\u062c"], .ofTexts 0x1EE47 ["\u062d"],
  .ofTexts 0x1EE49 ["\u064a"], .ofTexts 0x1EE4B ["\u0644"],
  .ofTexts 0x1EE4D ["\u0646", "\u0633", "\u0639"], .ofTexts 0x1EE51 ["\u0635", "\u0642"],
  .ofTexts 0x1EE54 ["\u0634"], .ofTexts 0x1EE57 ["\u062e"], .ofTexts 0x1EE59 ["\u0636"],
  .ofTexts 0x1EE5B ["\u063a"], .ofTexts 0x1EE5D ["\u06ba"], .ofTexts 0x1EE5F ["\u066f"],
  .ofTexts 0x1EE61 ["\u0628", "\u062c"], .ofTexts 0x1EE64 ["\u0647"],
  .ofTexts 0x1EE67 ["\u062d", "\u0637", "\u064a", "\u0643"],
  .ofTexts 0x1EE6C ["\u0645", "\u0646", "\u0633", "\u0639", "\u0641", "\u0635", "\u0642"],
  .ofTexts 0x1EE74 ["\u0634", "\u062a", "\u062b", "\u062e"],
  .ofTexts 0x1EE79 ["\u0636", "\u0638", "\u063a", "\u066e"], .ofTexts 0x1EE7E ["\u06a1"],
  .ofTexts 0x1EE80 ["\u0627", "\u0628", "\u062c", "\u062f", "\u0647", "\u0648", "\u0632",
    "\u062d", "\u0637", "\u064a"],
  .ofTexts 0x1EE8B ["\u0644", "\u0645", "\u0646", "\u0633", "\u0639", "\u0641", "\u0635",
    "\u0642", "\u0631", "\u0634", "\u062a", "\u062b", "\u062e", "\u0630", "\u0636", "\u0638",
    "\u063a"],
  .ofTexts 0x1EEA1 ["\u0628", "\u062c", "\u062f"],
  .ofTexts 0x1EEA5 ["\u0648", "\u0632", "\u062d", "\u0637", "\u064a"],
  .ofTexts 0x1EEAB ["\u0644", "\u0645", "\u0646", "\u0633", "\u0639", "\u0641", "\u0635",
    "\u0642", "\u0631", "\u0634", "\u062a", "\u062b", "\u062e", "\u0630", "\u0636", "\u0638",
    "\u063a"],
  .ofTexts 0x1F101 ["0,", "1,", "2,", "3,", "4,", "5,", "6,", "7,", "8,", "9,"],
  .ofTexts 0x1F110 ["(a)", "(b)", "(c)", "(d)", "(e)", "(f)", "(g)", "(h)", "(i)", "(j)", "(k)",
    "(l)", "(m)", "(n)", "(o)", "(p)", "(q)", "(r)", "(s)", "(t)", "(u)", "(v)", "(w)", "(x)",
    "(y)", "(z)", "〔s〕", "c", "r", "cd", "wz"],
  .ofTexts 0x1F14A ["hv", "mv", "sd", "ss", "ppv", "wc"], .ofTexts 0x1F16A ["mc", "md", "mr"],
  .ofTexts 0x1F190 ["dj"], .ofTexts 0x1F200 ["ほか", "ココ", "サ"],
  .ofTexts 0x1F210 ["手", "字", "双", "デ", "二", "多", "解", "天", "交", "映", "無", "料", "前", "後", "再",
    "新", "初", "終", "生", "販", "声", "吹", "演", "投", "捕", "一", "三", "遊", "左", "中", "右", "指", "走", "打",
    "禁", "空", "合", "満", "有", "月", "申", "割", "営", "配"],
  .ofTexts 0x1F240 ["〔本〕", "〔三〕", "〔二〕", "〔安〕", "〔点〕", "〔打〕", "〔盗〕", "〔勝〕", "〔敗〕"],
  .ofTexts 0x1F250 ["得", "可"]]

/-- Characters that are shapes of others, or of several at once, with these. -/
def variantImages : List Images :=
  variantImagesFirst ++ variantImagesSecond ++ variantImagesThird ++ variantImagesFourth
    ++ variantImagesFifth ++ variantImagesSixth

end GroupKeeper.Text
