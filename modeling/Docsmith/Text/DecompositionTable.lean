-- SUMMARY: What characters of names decompose into and combine to.

/-!
# Decompositions

Tables of the Unicode standard for the characters that may stand in a name: their compatibility
decompositions, the classes of marks, and the pairs that combine to one character. Hangul syllables
are left out, since they follow a rule.
-/

namespace Docsmith.Text

/-- Neighbouring characters, from a code point on, and what each of them is made of. A point
    stands for a character that is made of nothing else. -/
def decompositions : List (Nat × List String) := [
  (170, ["a"]),
  (181, ["μ . . . . o . . . . . À Á Â Ã Ä Å . Ç È É Ê Ë Ì Í Î Ï . Ñ Ò Ó Ô Õ Ö . .",
    "Ù Ú Û Ü Ý . . à á â ã ä å . ç è é ê ë ì í î ï . ñ ò ó ô õ ö . . ù",
    "ú û ü ý . ÿ Ā ā Ă ă Ą ą Ć ć Ĉ ĉ Ċ ċ Č č Ď ď . . Ē ē Ĕ ĕ Ė ė Ę ę",
    "Ě ě Ĝ ĝ Ğ ğ Ġ ġ Ģ ģ Ĥ ĥ . . Ĩ ĩ Ī ī Ĭ ĭ Į į İ . IJ ij Ĵ ĵ Ķ ķ . Ĺ",
    "ĺ Ļ ļ Ľ ľ L· l· . . Ń ń Ņ ņ Ň ň ʼn . . Ō ō Ŏ ŏ Ő ő . . Ŕ ŕ Ŗ ŗ Ř ř Ś",
    "ś Ŝ ŝ Ş ş Š š Ţ ţ Ť ť . . Ũ ũ Ū ū Ŭ ŭ Ů ů Ű ű Ų ų Ŵ ŵ Ŷ ŷ Ÿ Ź",
    "ź Ż ż Ž ž s"]),
  (416, ["Ơ ơ"]), (431, ["Ư ư"]),
  (452, ["DŽ Dž dž LJ Lj lj NJ Nj nj Ǎ ǎ Ǐ ǐ Ǒ ǒ Ǔ ǔ Ǖ ǖ Ǘ ǘ Ǚ ǚ Ǜ ǜ . Ǟ",
    "ǟ Ǡ ǡ Ǣ ǣ . . Ǧ ǧ Ǩ ǩ Ǫ ǫ Ǭ ǭ Ǯ ǯ ǰ DZ Dz dz Ǵ ǵ . . Ǹ ǹ Ǻ ǻ Ǽ",
    "ǽ Ǿ ǿ Ȁ ȁ Ȃ ȃ Ȅ ȅ Ȇ ȇ Ȉ ȉ Ȋ ȋ Ȍ ȍ Ȏ ȏ Ȑ ȑ Ȓ ȓ Ȕ ȕ Ȗ ȗ Ș ș Ț ț",
    ". . Ȟ ȟ"]),
  (550, ["Ȧ ȧ Ȩ ȩ Ȫ ȫ Ȭ ȭ Ȯ ȯ Ȱ ȱ Ȳ ȳ"]), (688, ["h ɦ j r ɹ ɻ ʁ w y"]),
  (736, ["ɣ l s x ʕ"]), (832, ["̀ ́ . ̓ ̈́"]), (884, ["ʹ"]),
  (902, ["Ά · Έ Ή Ί . Ό . Ύ Ώ ΐ"]), (938, ["Ϊ Ϋ ά έ ή ί ΰ"]),
  (970, ["ϊ ϋ ό ύ ώ . β θ Υ Ύ Ϋ φ π"]), (1008, ["κ ρ ς . Θ ε . . . Σ"]),
  (1024, ["Ѐ Ё . Ѓ . . . Ї . . . . Ќ Ѝ Ў"]), (1049, ["Й"]), (1081, ["й"]),
  (1104, ["ѐ ё . ѓ . . . ї . . . . ќ ѝ ў"]), (1142, ["Ѷ ѷ"]), (1217, ["Ӂ ӂ"]),
  (1232, ["Ӑ ӑ Ӓ ӓ . . Ӗ ӗ . . Ӛ ӛ Ӝ ӝ Ӟ ӟ . . Ӣ ӣ Ӥ ӥ Ӧ ӧ . . Ӫ ӫ Ӭ ӭ Ӯ ӯ Ӱ",
    "ӱ Ӳ ӳ Ӵ ӵ . . Ӹ ӹ"]),
  (1415, ["եւ"]), (1570, ["آ أ ؤ إ ئ"]), (1653, ["اٴ وٴ ۇٴ يٴ"]), (1728, ["ۀ . ۂ"]),
  (1747, ["ۓ"]), (2345, ["ऩ"]), (2353, ["ऱ . . ऴ"]), (2392, ["क़ ख़ ग़ ज़ ड़ ढ़ फ़ य़"]),
  (2507, ["ো ৌ"]), (2524, ["ড় ঢ় . য়"]), (2611, ["ਲ਼ . . ਸ਼"]), (2649, ["ਖ਼ ਗ਼ ਜ਼ . . ਫ਼"]),
  (2888, ["ୈ . . ୋ ୌ"]), (2908, ["ଡ଼ ଢ଼"]), (2964, ["ஔ"]), (3018, ["ொ ோ ௌ"]),
  (3144, ["ై"]), (3264, ["ೀ"]), (3271, ["ೇ ೈ . ೊ ೋ"]), (3402, ["ൊ ോ ൌ"]),
  (3546, ["ේ . ො ෝ ෞ"]), (3635, ["ํา"]), (3763, ["ໍາ"]), (3804, ["ຫນ ຫມ"]), (3907, ["གྷ"]),
  (3917, ["ཌྷ . . . . དྷ . . . . བྷ . . . . ཛྷ"]), (3945, ["ཀྵ"]),
  (3955, ["ཱི . ཱུ ྲྀ ྲཱྀ ླྀ ླཱྀ"]), (3969, ["ཱྀ"]), (3987, ["ྒྷ"]),
  (3997, ["ྜྷ . . . . ྡྷ . . . . ྦྷ . . . . ྫྷ"]), (4025, ["ྐྵ"]), (4134, ["ဦ"]), (4348, ["ნ"]),
  (6918, ["ᬆ . ᬈ . ᬊ . ᬌ . ᬎ . . . ᬒ"]), (6971, ["ᬻ . ᬽ . . ᭀ ᭁ . ᭃ"]),
  (7468, ["A Æ B . D E Ǝ G H I J K L M N . O Ȣ P R T U W a ɐ ɑ ᴂ b d e ə ɛ ɜ g . k m ŋ o ɔ ᴖ ᴗ p t u ᴝ",
    "ɯ v ᴥ β γ δ φ χ i r u v β γ ρ φ χ"]),
  (7544, ["н"]),
  (7579, ["ɒ c ɕ ð ɜ f ɟ ɡ ɥ ɨ ɩ ɪ ᵻ ʝ ɭ ᶅ ʟ ɱ ɰ ɲ ɳ ɴ ɵ ɸ ʂ ʃ ƫ ʉ ʊ ᴜ ʋ ʌ z ʐ ʑ ʒ θ"]),
  (7680, ["Ḁ ḁ Ḃ ḃ Ḅ ḅ Ḇ ḇ Ḉ ḉ Ḋ ḋ Ḍ ḍ Ḏ ḏ Ḑ ḑ Ḓ ḓ Ḕ ḕ Ḗ ḗ Ḙ ḙ Ḛ ḛ",
    "Ḝ ḝ Ḟ ḟ Ḡ ḡ Ḣ ḣ Ḥ ḥ Ḧ ḧ Ḩ ḩ Ḫ ḫ Ḭ ḭ Ḯ ḯ Ḱ ḱ Ḳ ḳ Ḵ ḵ Ḷ ḷ Ḹ",
    "ḹ Ḻ ḻ Ḽ ḽ Ḿ ḿ Ṁ ṁ Ṃ ṃ Ṅ ṅ Ṇ ṇ Ṉ ṉ Ṋ ṋ Ṍ ṍ Ṏ ṏ Ṑ ṑ Ṓ ṓ Ṕ",
    "ṕ Ṗ ṗ Ṙ ṙ Ṛ ṛ Ṝ ṝ Ṟ ṟ Ṡ ṡ Ṣ ṣ Ṥ ṥ Ṧ ṧ Ṩ ṩ Ṫ ṫ Ṭ ṭ Ṯ ṯ Ṱ",
    "ṱ Ṳ ṳ Ṵ ṵ Ṷ ṷ Ṹ ṹ Ṻ ṻ Ṽ ṽ Ṿ ṿ Ẁ ẁ Ẃ ẃ Ẅ ẅ Ẇ ẇ Ẉ ẉ Ẋ ẋ Ẍ ẍ",
    "Ẏ ẏ Ẑ ẑ Ẓ ẓ Ẕ ẕ ẖ ẗ ẘ ẙ aʾ ṡ . . . . Ạ ạ Ả ả Ấ ấ Ầ ầ Ẩ ẩ Ẫ",
    "ẫ Ậ ậ Ắ ắ Ằ ằ Ẳ ẳ Ẵ ẵ Ặ ặ Ẹ ẹ Ẻ ẻ Ẽ ẽ Ế ế Ề ề Ể",
    "ể Ễ ễ Ệ ệ Ỉ ỉ Ị ị Ọ ọ Ỏ ỏ Ố ố Ồ ồ Ổ ổ Ỗ ỗ Ộ ộ Ớ ớ",
    "Ờ ờ Ở ở Ỡ ỡ Ợ ợ Ụ ụ Ủ ủ Ứ ứ Ừ ừ Ử ử Ữ ữ Ự ự Ỳ ỳ Ỵ",
    "ỵ Ỷ ỷ Ỹ ỹ"]),
  (7936, ["ἀ ἁ ἂ ἃ ἄ ἅ ἆ ἇ Ἀ Ἁ Ἂ Ἃ Ἄ Ἅ Ἆ Ἇ ἐ ἑ ἒ ἓ ἔ ἕ . . Ἐ Ἑ",
    "Ἒ Ἓ Ἔ Ἕ . . ἠ ἡ ἢ ἣ ἤ ἥ ἦ ἧ Ἠ Ἡ Ἢ Ἣ Ἤ Ἥ Ἦ Ἧ ἰ ἱ ἲ",
    "ἳ ἴ ἵ ἶ ἷ Ἰ Ἱ Ἲ Ἳ Ἴ Ἵ Ἶ Ἷ ὀ ὁ ὂ ὃ ὄ ὅ . . Ὀ Ὁ Ὂ Ὃ",
    "Ὄ Ὅ . . ὐ ὑ ὒ ὓ ὔ ὕ ὖ ὗ . Ὑ . Ὓ . Ὕ . Ὗ ὠ ὡ ὢ ὣ ὤ ὥ ὦ",
    "ὧ Ὠ Ὡ Ὢ Ὣ Ὤ Ὥ Ὦ Ὧ ὰ ά ὲ έ ὴ ή ὶ ί ὸ ό ὺ ύ ὼ ώ . . ᾀ ᾁ ᾂ",
    "ᾃ ᾄ ᾅ ᾆ ᾇ ᾈ ᾉ ᾊ ᾋ ᾌ ᾍ ᾎ ᾏ ᾐ ᾑ ᾒ ᾓ ᾔ ᾕ",
    "ᾖ ᾗ ᾘ ᾙ ᾚ ᾛ ᾜ ᾝ ᾞ ᾟ ᾠ ᾡ ᾢ ᾣ ᾤ ᾥ ᾦ ᾧ ᾨ",
    "ᾩ ᾪ ᾫ ᾬ ᾭ ᾮ ᾯ ᾰ ᾱ ᾲ ᾳ ᾴ . ᾶ ᾷ Ᾰ Ᾱ Ὰ Ά ᾼ . ι . . . ῂ ῃ",
    "ῄ . ῆ ῇ Ὲ Έ Ὴ Ή ῌ . . . ῐ ῑ ῒ ΐ . . ῖ ῗ Ῐ Ῑ Ὶ Ί . . . . ῠ ῡ ῢ ΰ",
    "ῤ ῥ ῦ ῧ Ῠ Ῡ Ὺ Ύ Ῥ . . . . . ῲ ῳ ῴ . ῶ ῷ Ὸ Ό Ὼ Ώ ῼ"]),
  (8305, ["i"]), (8319, ["n"]), (8336, ["a e o x ə h k l m n p s t"]),
  (8450, ["C . . . . Ɛ . . g H H H h ħ I I L l . N . . . P Q R R R"]),
  (8484, ["Z . Ω . Z . K Å B C . e E F . M o א ב ג ד i . . π γ Γ Π . . . . . D d e i j"]),
  (8544, ["I II III IV V VI VII VIII IX X XI XII L C D M i ii iii iv v vi vii viii ix x xi xii l c d m"]),
  (11388, ["j V"]), (11631, ["ⵡ"]), (12344, ["十 卄 卅"]),
  (12364, ["が . ぎ . ぐ . げ . ご . ざ . じ . ず . ぜ . ぞ . だ . ぢ . . づ . で . ど"]),
  (12400, ["ば ぱ . び ぴ . ぶ ぷ . べ ぺ . ぼ ぽ"]), (12436, ["ゔ"]), (12446, ["ゞ より"]),
  (12460, ["ガ . ギ . グ . ゲ . ゴ . ザ . ジ . ズ . ゼ . ゾ . ダ . ヂ . . ヅ . デ . ド"]),
  (12496, ["バ パ . ビ ピ . ブ プ . ベ ペ . ボ ポ"]), (12532, ["ヴ . . ヷ ヸ ヹ ヺ . . . ヾ コト"]),
  (12593, ["ᄀ ᄁ ᆪ ᄂ ᆬ ᆭ ᄃ ᄄ ᄅ ᆰ ᆱ ᆲ ᆳ ᆴ ᆵ ᄚ ᄆ ᄇ ᄈ ᄡ ᄉ ᄊ ᄋ ᄌ ᄍ ᄎ ᄏ ᄐ ᄑ ᄒ ᅡ ᅢ ᅣ ᅤ ᅥ ᅦ ᅧ ᅨ ᅩ ᅪ ᅫ ᅬ ᅭ ᅮ ᅯ ᅰ",
    "ᅱ ᅲ ᅳ ᅴ ᅵ ᅠ ᄔ ᄕ ᇇ ᇈ ᇌ ᇎ ᇓ ᇗ ᇙ ᄜ ᇝ ᇟ ᄝ ᄞ ᄠ ᄢ ᄣ ᄧ ᄩ ᄫ ᄬ ᄭ ᄮ ᄯ ᄲ ᄶ ᅀ ᅇ ᅌ ᇱ ᇲ ᅗ ᅘ ᅙ ᆄ ᆅ ᆈ ᆑ ᆒ ᆔ",
    "ᆞ ᆡ"]),
  (42652, ["ъ ь"]), (42864, ["ꝯ"]), (42994, ["C F Q . . . Ħ œ"]), (43868, ["ꜧ ꬷ ɫ ꭒ"]),
  (43881, ["ʍ"]),
  (63744, ["豈 更 車 賈 滑 串 句 龜 龜 契 金 喇 奈 懶 癩 羅 蘿 螺 裸 邏 樂 洛 烙 珞 落 酪 駱 亂 卵 欄 爛 蘭 鸞 嵐 濫 藍 襤 拉 臘 蠟 廊 朗 浪 狼 郎 來",
    "冷 勞 擄 櫓 爐 盧 老 蘆 虜 路 露 魯 鷺 碌 祿 綠 菉 錄 鹿 論 壟 弄 籠 聾 牢 磊 賂 雷 壘 屢 樓 淚 漏 累 縷 陋 勒 肋 凜 凌 稜 綾 菱 陵 讀 拏",
    "樂 諾 丹 寧 怒 率 異 北 磻 便 復 不 泌 數 索 參 塞 省 葉 說 殺 辰 沈 拾 若 掠 略 亮 兩 凉 梁 糧 良 諒 量 勵 呂 女 廬 旅 濾 礪 閭 驪 麗 黎",
    "力 曆 歷 轢 年 憐 戀 撚 漣 煉 璉 秊 練 聯 輦 蓮 連 鍊 列 劣 咽 烈 裂 說 廉 念 捻 殮 簾 獵 令 囹 寧 嶺 怜 玲 瑩 羚 聆 鈴 零 靈 領 例 禮 醴",
    "隸 惡 了 僚 寮 尿 料 樂 燎 療 蓼 遼 龍 暈 阮 劉 杻 柳 流 溜 琉 留 硫 紐 類 六 戮 陸 倫 崙 淪 輪 律 慄 栗 率 隆 利 吏 履 易 李 梨 泥 理 痢",
    "罹 裏 裡 里 離 匿 溺 吝 燐 璘 藺 隣 鱗 麟 林 淋 臨 立 笠 粒 狀 炙 識 什 茶 刺 切 度 拓 糖 宅 洞 暴 輻 行 降 見 廓 兀 嗀 . . 塚 . 晴 .",
    ". 凞 猪 益 礼 神 祥 福 靖 精 羽 . 蘒 . 諸 . . 逸 都 . . . 飯 飼 館 鶴 郞 隷 侮 僧 免 勉 勤 卑 喝 嘆 器 塀 墨 層 屮 悔 慨 憎 懲 敏",
    "既 暑 梅 海 渚 漢 煮 爫 琢 碑 社 祉 祈 祐 祖 祝 禍 禎 穀 突 節 練 縉 繁 署 者 臭 艹 艹 著 褐 視 謁 謹 賓 贈 辶 逸 難 響 頻 恵 𤋮 舘 . .",
    "並 况 全 侀 充 冀 勇 勺 喝 啕 喙 嗢 塚 墳 奄 奔 婢 嬨 廒 廙 彩 徭 惘 慎 愈 憎 慠 懲 戴 揄 搜 摒 敖 晴 朗 望 杖 歹 殺 流 滛 滋 漢 瀞 煮 瞧",
    "爵 犯 猪 瑱 甆 画 瘝 瘟 益 盛 直 睊 着 磌 窱 節 类 絛 練 缾 者 荒 華 蝹 襁 覆 視 調 諸 請 謁 諾 諭 謹 變 贈 輸 遲 醙 鉶 陼 難 靖 韛 響 頋",
    "頻 鬒 龜 𢡊 𢡄 𣏕 㮝 䀘 䀹 𥉉 𥳐 𧻓 齃 龎"]),
  (64256, ["ff fi fl ffi ffl st st"]),
  (64275, ["մն մե մի վն մխ . . . . . יִ . ײַ ע א ד ה כ ל ם ר ת . שׁ שׂ שּׁ שּׂ אַ אָ אּ בּ גּ דּ הּ וּ",
    "זּ . טּ יּ ךּ כּ לּ . מּ . נּ סּ . ףּ פּ . צּ קּ רּ שּ תּ וֹ בֿ כֿ פֿ אל ٱ ٱ ٻ ٻ ٻ ٻ پ پ پ پ",
    "ڀ ڀ ڀ ڀ ٺ ٺ ٺ ٺ ٿ ٿ ٿ ٿ ٹ ٹ ٹ ٹ ڤ ڤ ڤ ڤ ڦ ڦ ڦ ڦ ڄ ڄ ڄ ڄ ڃ ڃ ڃ ڃ چ چ چ چ ڇ ڇ ڇ ڇ ڍ ڍ ڌ ڌ ڎ ڎ",
    "ڈ ڈ ژ ژ ڑ ڑ ک ک ک ک گ گ گ گ ڳ ڳ ڳ ڳ ڱ ڱ ڱ ڱ ں ں ڻ ڻ ڻ ڻ ۀ ۀ ہ ہ ہ ہ ھ ھ ھ ھ ے ے ۓ ۓ"]),
  (64467, ["ڭ ڭ ڭ ڭ ۇ ۇ ۆ ۆ ۈ ۈ ۇٴ ۋ ۋ ۅ ۅ ۉ ۉ ې ې ې ې ى ى ئا ئا ئە ئە ئو ئو ئۇ ئۇ ئۆ ئۆ ئۈ",
    "ئۈ ئې ئې ئې ئى ئى ئى ی ی ی ی ئج ئح ئم ئى ئي بج بح بخ بم بى بي تج تح تخ تم تى تي",
    "ثج ثم ثى ثي جح جم حج حم خج خح خم سج سح سخ سم صح صم ضج ضح ضخ ضم طح طم ظم عج عم غج غم فج فح فخ",
    "فم فى في قح قم قى قي كا كج كح كخ كل كم كى كي لج لح لخ لم لى لي مج مح مخ مم مى مي نج نح نخ نم",
    "نى ني هج هم هى هي يج يح يخ يم يى يي ذٰ رٰ ىٰ"]),
  (64612, ["ئر ئز ئم ئن ئى ئي بر بز بم بن بى بي تر تز تم تن تى تي ثر ثز ثم ثن ثى ثي فى في قى قي كا",
    "كل كم كى كي لم لى لي ما مم نر نز نم نن نى ني ىٰ ير يز يم ين يى يي ئج ئح ئخ ئم ئه بج بح",
    "بخ بم به تج تح تخ تم ته ثم جح جم حج حم خج خم سج سح سخ سم صح صخ صم ضج ضح ضخ ضم طح ظم عج عم غج",
    "غم فج فح فخ فم قح قم كج كح كخ كل كم لج لح لخ لم له مج مح مخ مم نج نح نخ نم نه هج هم هٰ يج يح",
    "يخ يم يه ئم ئه بم به تم ته ثم ثه سم سه شم شه كل كم لم نم نه يم يه ـَّ ـُّ ـِّ طى طي عى عي",
    "غى غي سى سي شى شي حى حي جى جي خى خي صى صي ضى ضي شج شح شخ شم شر سر صر ضر طى طي عى عي غى غي سى",
    "سي شى شي حى حي جى جي خى خي صى صي ضى ضي شج شح شخ شم شر سر صر ضر شج شح شخ شم سه شه طم سج سح سخ",
    "شج شح شخ طم ظم اً اً"]),
  (64848, ["تجم تحج تحج تحم تخم تمج تمح تمخ جمح جمح حمي حمى سحج سجح سجى سمح سمح سمج سمم سمم صحح صحح صمم",
    "شحم شحم شجي شمخ شمخ شمم شمم ضحى ضخم ضخم طمح طمح طمم طمي عجم عمم عمم عمى غمم غمي غمى فخم فخم",
    "قمح قمم لحم لحي لحى لجج لجج لخم لخم لمح لمح محج محم محي مجح مجم مخج مخم . . مجخ همج همم نحم",
    "نحى نجم نجم نجى نمي نمى يمم يمم بخي تجي تجى تخي تخى تمي تمى جمي جحى جمى سخى صحي شحي ضحي لجي",
    "لمي يحي يجي يمي ممي قمي نحي قمح لحم عمي كمي نجح مخي لجم كمم لجم نجح جحي حجي مجي فمي بحي كمم",
    "عجم صمم سخي نجي"]),
  (65008, ["صلے قلے الله اكبر محمد صلعم رسول عليه وسلم صلى"]), (65075, ["_ _"]),
  (65101, ["_ _ _"]),
  (65137, ["ـً . . . . . ـَ . ـُ . ـِ . ـّ . ـْ ء آ آ أ أ ؤ ؤ إ إ ئ ئ ئ ئ ا ا ب ب ب ب ة ة ت",
    "ت ت ت ث ث ث ث ج ج ج ج ح ح ح ح خ خ خ خ د د ذ ذ ر ر ز ز س س س س ش ش ش ش ص ص ص ص ض ض ض ض ط ط ط",
    "ط ظ ظ ظ ظ ع ع ع ع غ غ غ غ ف ف ف ف ق ق ق ق ك ك ك ك ل ل ل ل م م م م ن ن ن ن ه ه ه ه و و ى ى ي",
    "ي ي ي لآ لآ لأ لأ لإ لإ لا لا"]),
  (65296, ["0 1 2 3 4 5 6 7 8 9"]),
  (65313, ["A B C D E F G H I J K L M N O P Q R S T U V W X Y Z . . . . _ . a b c d e f g h i j k l m n",
    "o p q r s t u v w x y z"]),
  (65382, ["ヲ ァ ィ ゥ ェ ォ ャ ュ ョ ッ ー ア イ ウ エ オ カ キ ク ケ コ サ シ ス セ ソ タ チ ツ テ ト ナ ニ ヌ ネ ノ ハ ヒ フ ヘ ホ マ ミ ム メ モ",
    "ヤ ユ ヨ ラ リ ル レ ロ ワ ン ゙ ゚ ᅠ ᄀ ᄁ ᆪ ᄂ ᆬ ᆭ ᄃ ᄄ ᄅ ᆰ ᆱ ᆲ ᆳ ᆴ ᆵ ᄚ ᄆ ᄇ ᄈ ᄡ ᄉ ᄊ ᄋ ᄌ ᄍ ᄎ ᄏ ᄐ ᄑ ᄒ . . .",
    "ᅡ ᅢ ᅣ ᅤ ᅥ ᅦ . . ᅧ ᅨ ᅩ ᅪ ᅫ ᅬ . . ᅭ ᅮ ᅯ ᅰ ᅱ ᅲ . . ᅳ ᅴ ᅵ"]),
  (67457, ["ː ˑ æ ʙ ɓ . ʣ ꭦ ʥ ʤ ɖ ɗ ᶑ ɘ ɞ ʩ ɤ ɢ ɠ ʛ ħ ʜ ɧ ʄ ʪ ʫ ɬ 𝼄 ꞎ ɮ 𝼅 ʎ 𝼆 ø ɶ ɷ q ɺ 𝼈 ɽ ɾ ʀ ʨ ʦ ꭧ ʧ",
    "ʈ ⱱ . ʏ ʡ ʢ ʘ ǀ ǁ ǂ 𝼊 𝼞"]),
  (69786, ["𑂚 . 𑂜"]), (69803, ["𑂫"]), (69934, ["𑄮 𑄯"]), (70475, ["𑍋 𑍌"]),
  (70843, ["𑒻 𑒼 . 𑒾"]), (71098, ["𑖺 𑖻"]), (71992, ["𑤸"]),
  (119808, ["A B C D E F G H I J K L M N O P Q R S T U V W X Y Z a b c d e f g h i j k l m n o p q r s t",
    "u v w x y z A B C D E F G H I J K L M N O P Q R S T U V W X Y Z a b c d e f g . i j k l m n",
    "o p q r s t u v w x y z A B C D E F G H I J K L M N O P Q R S T U V W X Y Z a b c d e f g h",
    "i j k l m n o p q r s t u v w x y z A . C D . . G . . J K . . N O P Q . S T U V W X Y Z a b",
    "c d . f . h i j k l m n . p q r s t u v w x y z A B C D E F G H I J K L M N O P Q R S T U V",
    "W X Y Z a b c d e f g h i j k l m n o p q r s t u v w x y z A B . D E F G . . J K L M N O P",
    "Q . S T U V W X Y . a b c d e f g h i j k l m n o p q r s t u v w x y z A B . D E F G . I J",
    "K L M . O . . . S T U V W X Y . a b c d e f g h i j k l m n o p q r s t u v w x y z A B C D",
    "E F G H I J K L M N O P Q R S T U V W X Y Z a b c d e f g h i j k l m n o p q r s t u v w x",
    "y z A B C D E F G H I J K L M N O P Q R S T U V W X Y Z a b c d e f g h i j k l m n o p q r",
    "s t u v w x y z A B C D E F G H I J K L M N O P Q R S T U V W X Y Z a b c d e f g h i j k l",
    "m n o p q r s t u v w x y z A B C D E F G H I J K L M N O P Q R S T U V W X Y Z a b c d e f",
    "g h i j k l m n o p q r s t u v w x y z A B C D E F G H I J K L M N O P Q R S T U V W X Y Z",
    "a b c d e f g h i j k l m n o p q r s t u v w x y z A B C D E F G H I J K L M N O P Q R S T",
    "U V W X Y Z a b c d e f g h i j k l m n o p q r s t u v w x y z ı ȷ . . Α Β Γ Δ Ε Ζ Η Θ Ι Κ",
    "Λ Μ Ν Ξ Ο Π Ρ Θ Σ Τ Υ Φ Χ Ψ Ω . α β γ δ ε ζ η θ ι κ λ μ ν ξ ο π ρ ς σ τ υ φ χ ψ ω . ε θ κ φ",
    "ρ π Α Β Γ Δ Ε Ζ Η Θ Ι Κ Λ Μ Ν Ξ Ο Π Ρ Θ Σ Τ Υ Φ Χ Ψ Ω . α β γ δ ε ζ η θ ι κ λ μ ν ξ ο π ρ ς",
    "σ τ υ φ χ ψ ω . ε θ κ φ ρ π Α Β Γ Δ Ε Ζ Η Θ Ι Κ Λ Μ Ν Ξ Ο Π Ρ Θ Σ Τ Υ Φ Χ Ψ Ω . α β γ δ ε ζ",
    "η θ ι κ λ μ ν ξ ο π ρ ς σ τ υ φ χ ψ ω . ε θ κ φ ρ π Α Β Γ Δ Ε Ζ Η Θ Ι Κ Λ Μ Ν Ξ Ο Π Ρ Θ Σ Τ",
    "Υ Φ Χ Ψ Ω . α β γ δ ε ζ η θ ι κ λ μ ν ξ ο π ρ ς σ τ υ φ χ ψ ω . ε θ κ φ ρ π Α Β Γ Δ Ε Ζ Η Θ",
    "Ι Κ Λ Μ Ν Ξ Ο Π Ρ Θ Σ Τ Υ Φ Χ Ψ Ω . α β γ δ ε ζ η θ ι κ λ μ ν ξ ο π ρ ς σ τ υ φ χ ψ ω . ε θ",
    "κ φ ρ π Ϝ ϝ . . 0 1 2 3 4 5 6 7 8 9 0 1 2 3 4 5 6 7 8 9 0 1 2 3 4 5 6 7 8 9 0 1 2 3 4 5 6 7",
    "8 9 0 1 2 3 4 5 6 7 8 9"]),
  (126464, ["ا ب ج د . و ز ح ط ي ك ل م ن س ع ف ص ق ر ش ت ث خ ذ ض ظ غ ٮ ں ڡ ٯ . ب ج . ه . . ح . ي ك ل م ن",
    "س ع ف ص ق . ش ت ث خ . ض . غ"]),
  (126530, ["ج . . . . ح . ي . ل . ن س ع . ص ق . ش . . خ . ض . غ . ں . ٯ . ب ج . ه . . ح ط ي ك . م ن س ع",
    "ف ص ق . ش ت ث خ . ض ظ غ ٮ . ڡ . ا ب ج د ه و ز ح ط ي . ل م ن س ع ف ص ق ر ش ت ث خ ذ ض ظ غ . .",
    ". . . ب ج د . و ز ح ط ي . ل م ن س ع ف ص ق ر ش ت ث خ ذ ض ظ غ"]),
  (130032, ["0 1 2 3 4 5 6 7 8 9"]),
  (194560, ["丽 丸 乁 𠄢 你 侮 侻 倂 偺 備 僧 像 㒞 𠘺 免 兔 兤 具 𠔜 㒹 內 再 𠕋 冗 冤 仌 冬 况 𩇟 凵 刃 㓟 刻 剆 割 剷 㔕 勇 勉 勤 勺 包 匆 北 卉 卑",
    "博 即 卽 卿 卿 卿 𠨬 灰 及 叟 𠭣 叫 叱 吆 咞 吸 呈 周 咢 哶 唐 啓 啣 善 善 喙 喫 喳 嗂 圖 嘆 圗 噑 噴 切 壮 城 埴 堍 型 堲 報 墬 𡓤 売 壷",
    "夆 多 夢 奢 𡚨 𡛪 姬 娛 娧 姘 婦 㛮 㛼 嬈 嬾 嬾 𡧈 寃 寘 寧 寳 𡬘 寿 将 当 尢 㞁 屠 屮 峀 岍 𡷤 嵃 𡷦 嵮 嵫 嵼 巡 巢 㠯 巽 帨 帽 幩 㡢 𢆃",
    "㡼 庰 庳 庶 廊 𪎒 廾 𢌱 𢌱 舁 弢 弢 㣇 𣊸 𦇚 形 彫 㣣 徚 忍 志 忹 悁 㤺 㤜 悔 𢛔 惇 慈 慌 慎 慌 慺 憎 憲 憤 憯 懞 懲 懶 成 戛 扝 抱 拔 捐",
    "𢬌 挽 拼 捨 掃 揤 𢯱 搢 揅 掩 㨮 摩 摾 撝 摷 㩬 敏 敬 𣀊 旣 書 晉 㬙 暑 㬈 㫤 冒 冕 最 暜 肭 䏙 朗 望 朡 杞 杓 𣏃 㭉 柺 枅 桒 梅 𣑭 梎 栟",
    "椔 㮝 楂 榣 槪 檨 𣚣 櫛 㰘 次 𣢧 歔 㱎 歲 殟 殺 殻 𣪍 𡴋 𣫺 汎 𣲼 沿 泍 汧 洖 派 海 流 浩 浸 涅 𣴞 洴 港 湮 㴳 滋 滇 𣻑 淹 潮 𣽞 𣾎 濆 瀹",
    "瀞 瀛 㶖 灊 災 灷 炭 𠔥 煅 𤉣 熜 𤎫 爨 爵 牐 𤘈 犀 犕 𤜵 𤠔 獺 王 㺬 玥 㺸 㺸 瑇 瑜 瑱 璅 瓊 㼛 甤 𤰶 甾 𤲒 異 𢆟 瘐 𤾡 𤾸 𥁄 㿼 䀈 直 𥃳",
    "𥃲 𥄙 𥄳 眞 真 真 睊 䀹 瞋 䁆 䂖 𥐝 硎 碌 磌 䃣 𥘦 祖 𥚚 𥛅 福 秫 䄯 穀 穊 穏 𥥼 𥪧 𥪧 竮 䈂 𥮫 篆 築 䈧 𥲀 糒 䊠 糨 糣 紀 𥾆 絣 䌁 緇 縂",
    "繅 䌴 𦈨 𦉇 䍙 𦋙 罺 𦌾 羕 翺 者 𦓚 𦔣 聠 𦖨 聰 𣍟 䏕 育 脃 䐋 脾 媵 𦞧 𦞵 𣎓 𣎜 舁 舄 辞 䑫 芑 芋 芝 劳 花 芳 芽 苦 𦬼 若 茝 荣 莭 茣 莽",
    "菧 著 荓 菊 菌 菜 𦰶 𦵫 𦳕 䔫 蓱 蓳 蔖 𧏊 蕤 𦼬 䕝 䕡 𦾱 𧃒 䕫 虐 虜 虧 虩 蚩 蚈 蜎 蛢 蝹 蜨 蝫 螆 䗗 蟡 蠁 䗹 衠 衣 𧙧 裗 裞 䘵 裺 㒻 𧢮",
    "𧥦 䚾 䛇 誠 諭 變 豕 𧲨 貫 賁 贛 起 𧼯 𠠄 跋 趼 跰 𠣞 軔 輸 𨗒 𨗭 邔 郱 鄑 𨜮 鄛 鈸 鋗 鋘 鉼 鏹 鐕 𨯺 開 䦕 閷 𨵷 䧦 雃 嶲 霣 𩅅 𩈚 䩮 䩶",
    "韠 𩐊 䪲 𩒖 頋 頋 頩 𩖶 飢 䬳 餩 馧 駂 駾 䯎 𩬰 鬒 鱀 鳽 䳎 䳭 鵧 𪃎 䳸 𪄅 𪈎 𪊑 麻 䵖 黹 黾 鼅 鼏 鼖 鼻 𪘀"])]

/-- The classes of marks, with the gaps and runs of their code points. Marks of different classes
    may change places. -/
def markClasses : List (Nat × List Nat) := [
  (1, [820, 5, 6555, 1, 13, 7, 1001, 2, 4, 3, 10, 2, 3, 2, 59725, 1, 24758, 5, 20905, 1, 5320,
    3]),
  (6, [94192, 2]),
  (7, [2364, 1, 127, 1, 127, 1, 127, 1, 127, 1, 255, 1, 127, 1, 890, 1, 2812, 1, 177, 1, 80, 1,
    36219, 1, 26374, 1, 184, 1, 86, 1, 107, 1, 178, 1, 81, 2, 265, 1, 124, 1, 252, 1, 246, 1,
    386, 1, 264, 1, 1022, 1, 52231, 1]),
  (8, [12441, 2]),
  (9, [2381, 1, 127, 1, 127, 1, 127, 1, 127, 1, 127, 1, 127, 1, 127, 1, 109, 2, 16, 1, 124, 1,
    111, 1, 127, 1, 201, 1, 180, 2, 1753, 2, 30, 1, 157, 1, 653, 1, 227, 1, 101, 2, 70, 2,
    4491, 1, 31366, 1, 37, 1, 151, 1, 142, 1, 108, 1, 309, 1, 246, 1, 24145, 1, 1542, 1, 41,
    1, 14, 1, 57, 1, 121, 2, 139, 1, 116, 1, 180, 1, 98, 1, 244, 1, 127, 1, 252, 1, 127, 1,
    118, 1, 116, 1, 269, 1, 259, 2, 161, 1, 83, 1, 18, 1, 81, 1, 421, 1, 260, 2, 81, 1]),
  (10, [1456, 1]), (11, [1457, 1]), (12, [1458, 1]), (13, [1459, 1]), (14, [1460, 1]),
  (15, [1461, 1]), (16, [1462, 1]), (17, [1463, 1]), (18, [1464, 1, 14, 1]), (19, [1465, 2]),
  (20, [1467, 1]), (21, [1468, 1]), (22, [1469, 1]), (23, [1471, 1]), (24, [1473, 1]),
  (25, [1474, 1]), (26, [64286, 1]), (27, [1611, 1, 676, 1]), (28, [1612, 1, 676, 1]),
  (29, [1613, 1, 676, 1]), (30, [1560, 1, 53, 1]), (31, [1561, 1, 53, 1]), (32, [1562, 1, 53, 1]),
  (33, [1617, 1]), (34, [1618, 1]), (35, [1648, 1]), (36, [1809, 1]), (84, [3157, 1]),
  (91, [3158, 1]), (103, [3640, 2]), (107, [3656, 4]), (118, [3768, 2]), (122, [3784, 4]),
  (129, [3953, 1]), (130, [3954, 1, 7, 4, 2, 1]), (132, [3956, 1]), (202, [801, 2, 4, 2, 6823, 1]),
  (214, [7630, 1]), (216, [795, 1, 3101, 1, 115243, 2, 7, 5]), (218, [7674, 1, 4655, 1]),
  (220, [790, 4, 2, 5, 2, 4, 2, 11, 5, 4, 10, 3, 3, 2, 4, 4, 2, 2, 566, 1, 4, 1, 4, 1, 6, 6, 2, 1,
    26, 1, 143, 2, 5, 1, 2, 1, 131, 1, 6, 1, 2, 1, 67, 1, 2, 1, 2, 3, 1, 2, 1, 1, 3, 1, 1, 1,
    1, 1, 1, 1, 169, 1, 10, 1, 91, 3, 61, 3, 51, 5, 15, 1, 2, 1, 2, 1, 3, 3, 6, 1, 2, 2, 87,
    1, 1477, 2, 27, 1, 1, 1, 142, 1, 198, 1, 2221, 1, 220, 1, 102, 1, 53, 6, 2, 1, 1, 2, 2,
    2, 5, 1, 161, 1, 360, 5, 2, 4, 13, 1, 212, 1, 7, 1, 4, 1, 41, 1, 3, 1, 1, 1, 744, 1, 3,
    4, 34875, 3, 390, 1, 21362, 7, 975, 1, 226, 1, 1836, 1, 44, 1, 171, 1, 1119, 2, 3, 1, 1,
    4, 50, 1, 1, 1, 49653, 8, 7, 2, 5956, 7]),
  (222, [1434, 1, 18, 1, 5003, 1, 5875, 1]), (224, [12334, 2]), (226, [119149, 1]),
  (228, [1454, 1, 4858, 1, 1357, 2, 4658, 1]),
  (230, [768, 21, 40, 8, 1, 1, 3, 3, 3, 3, 4, 1, 3, 1, 7, 13, 275, 5, 266, 4, 1, 3, 2, 6, 6, 2, 1,
    2, 2, 1, 20, 1, 75, 8, 59, 2, 2, 5, 1, 2, 119, 7, 2, 4, 1, 1, 2, 2, 2, 2, 67, 1, 1, 2, 1,
    2, 3, 1, 2, 1, 1, 3, 1, 1, 1, 1, 1, 1, 1, 2, 160, 7, 1, 1, 34, 4, 1, 9, 1, 3, 1, 5, 106,
    1, 3, 4, 42, 5, 5, 14, 2, 2, 1, 2, 1, 3, 6, 3, 1, 2, 2, 5, 81, 1, 1, 2, 169, 1, 1411, 2,
    2, 2, 981, 3, 1149, 1, 348, 1, 220, 1, 93, 8, 51, 5, 6, 2, 4, 2, 2, 5, 1, 4, 156, 1, 1,
    7, 348, 3, 7, 2, 4, 1, 19, 1, 3, 2, 198, 2, 1, 7, 1, 2, 4, 37, 5, 1, 2, 1, 721, 2, 2, 4,
    3, 2, 4, 1, 5, 1, 1, 1, 6, 1, 3070, 3, 238, 32, 30831, 1, 4, 10, 32, 2, 80, 2, 494, 18,
    446, 1, 1, 2, 3, 2, 5, 2, 1, 1, 21342, 7, 7, 2, 1350, 5, 1684, 1, 40, 1, 172, 1, 574, 4,
    387, 2, 155, 3, 1, 1, 53, 1, 1, 1, 379, 3, 611, 7, 3, 5, 233, 1, 22225, 7, 26190, 5, 32,
    4, 148, 3, 3515, 7, 1, 17, 2, 7, 1, 2, 1, 5, 261, 7, 375, 1, 61, 4, 1620, 6]),
  (232, [789, 1, 4, 1, 61, 1, 6813, 1, 4661, 1]), (233, [860, 1, 2, 1, 2, 1, 6809, 1]),
  (234, [861, 2, 1, 2, 6763, 1]), (240, [837, 1])]

/-- Pairs of characters, each followed by the character that they combine to. -/
def combinations : List String := [
  "ÀÀÁÁÂÂÃÃÄÄÅÅÇÇÈÈÉÉÊÊËËÌÌÍÍÎÎÏÏÑÑÒÒÓÓÔÔÕÕÖÖÙÙÚÚÛÛÜÜÝÝààááââããää",
  "ååççèèééêêëëììííîîïïññòòóóôôõõööùùúúûûüüýýÿÿĀĀāāĂĂăăĄĄąąĆĆććĈĈ",
  "ĉĉĊĊċċČČččĎĎďďĒĒēēĔĔĕĕĖĖėėĘĘęęĚĚěěĜĜĝĝĞĞğğĠĠġġĢĢģģĤĤĥĥĨĨĩĩĪĪīī",
  "ĬĬĭĭĮĮįįİİĴĴĵĵĶĶķķĹĹĺĺĻĻļļĽĽľľŃŃńńŅŅņņŇŇňňŌŌōōŎŎŏŏŐŐőőŔŔŕŕŖŖŗŗ",
  "ŘŘřřŚŚśśŜŜŝŝŞŞşşŠŠššŢŢţţŤŤťťŨŨũũŪŪūūŬŬŭŭŮŮůůŰŰűűŲŲųųŴŴŵŵŶŶŷŷŸŸ",
  "ŹŹźźŻŻżżŽŽžžƠƠơơƯƯưưǍǍǎǎǏǏǐǐǑǑǒǒǓǓǔǔǕǕǖǖǗǗǘǘǙǙǚǚǛǛǜǜǞǞǟǟǠǠǡǡǢǢ",
  "ǣǣǦǦǧǧǨǨǩǩǪǪǫǫǬǬǭǭǮǮǯǯǰǰǴǴǵǵǸǸǹǹǺǺǻǻǼǼǽǽǾǾǿǿȀȀȁȁȂȂȃȃȄȄȅȅȆȆȇȇȈȈ",
  "ȉȉȊȊȋȋȌȌȍȍȎȎȏȏȐȐȑȑȒȒȓȓȔȔȕȕȖȖȗȗȘȘșșȚȚțțȞȞȟȟȦȦȧȧȨȨȩȩȪȪȫȫȬȬȭȭȮȮȯȯ",
  "ȰȰȱȱȲȲȳȳ΅΅ΆΆΈΈΉΉΊΊΌΌΎΎΏΏΐΐΪΪΫΫάάέέήήίίΰΰϊϊϋϋόόύύώώϓϓϔϔЀЀЁЁЃЃЇЇ",
  "ЌЌЍЍЎЎЙЙййѐѐёёѓѓїїќќѝѝўўѶѶѷѷӁӁӂӂӐӐӑӑӒӒӓӓӖӖӗӗӚӚӛӛӜӜӝӝӞӞӟӟӢӢӣӣӤӤ",
  "ӥӥӦӦӧӧӪӪӫӫӬӬӭӭӮӮӯӯӰӰӱӱӲӲӳӳӴӴӵӵӸӸӹӹآآأأؤؤإإئئۀۀۂۂۓۓऩऩऱऱऴऴোোৌৌୈୈ",
  "ୋୋୌୌஔஔொொோோௌௌైైೀೀೇೇೈೈೊೊೋೋൊൊോോൌൌේේොොෝෝෞෞဦဦᬆᬆᬈᬈᬊᬊᬌᬌᬎᬎᬒᬒᬻᬻᬽᬽᭀᭀᭁᭁᭃᭃ",
  "ḀḀḁḁḂḂḃḃḄḄḅḅḆḆḇḇḈḈḉḉḊḊḋḋḌḌḍḍḎḎḏḏḐḐḑḑḒḒḓḓḔḔḕḕḖḖḗḗḘḘḙḙḚḚḛḛḜḜḝḝḞḞ",
  "ḟḟḠḠḡḡḢḢḣḣḤḤḥḥḦḦḧḧḨḨḩḩḪḪḫḫḬḬḭḭḮḮḯḯḰḰḱḱḲḲḳḳḴḴḵḵḶḶḷḷḸḸḹḹḺḺḻḻḼḼḽḽ",
  "ḾḾḿḿṀṀṁṁṂṂṃṃṄṄṅṅṆṆṇṇṈṈṉṉṊṊṋṋṌṌṍṍṎṎṏṏṐṐṑṑṒṒṓṓṔṔṕṕṖṖṗṗṘṘṙṙṚṚṛṛṜṜ",
  "ṝṝṞṞṟṟṠṠṡṡṢṢṣṣṤṤṥṥṦṦṧṧṨṨṩṩṪṪṫṫṬṬṭṭṮṮṯṯṰṰṱṱṲṲṳṳṴṴṵṵṶṶṷṷṸṸṹṹṺṺṻṻ",
  "ṼṼṽṽṾṾṿṿẀẀẁẁẂẂẃẃẄẄẅẅẆẆẇẇẈẈẉẉẊẊẋẋẌẌẍẍẎẎẏẏẐẐẑẑẒẒẓẓẔẔẕẕẖẖẗẗẘẘẙẙẛẛ",
  "ẠẠạạẢẢảảẤẤấấẦẦầầẨẨẩẩẪẪẫẫẬẬậậẮẮắắẰẰằằẲẲẳẳẴẴẵẵẶẶặặẸẸẹẹẺẺẻẻẼẼẽẽẾẾ",
  "ếếỀỀềềỂỂểểỄỄễễỆỆệệỈỈỉỉỊỊịịỌỌọọỎỎỏỏỐỐốốỒỒồồỔỔổổỖỖỗỗỘỘộộỚỚớớỜỜờờ",
  "ỞỞởởỠỠỡỡỢỢợợỤỤụụỦỦủủỨỨứứỪỪừừỬỬửửỮỮữữỰỰựựỲỲỳỳỴỴỵỵỶỶỷỷỸỸỹỹἀἀἁἁἂἂ",
  "ἃἃἄἄἅἅἆἆἇἇἈἈἉἉἊἊἋἋἌἌἍἍἎἎἏἏἐἐἑἑἒἒἓἓἔἔἕἕἘἘἙἙἚἚἛἛἜἜἝἝἠἠἡἡἢἢἣἣἤἤἥἥ",
  "ἦἦἧἧἨἨἩἩἪἪἫἫἬἬἭἭἮἮἯἯἰἰἱἱἲἲἳἳἴἴἵἵἶἶἷἷἸἸἹἹἺἺἻἻἼἼἽἽἾἾἿἿὀὀὁὁὂὂὃὃὄὄ",
  "ὅὅὈὈὉὉὊὊὋὋὌὌὍὍὐὐὑὑὒὒὓὓὔὔὕὕὖὖὗὗὙὙὛὛὝὝὟὟὠὠὡὡὢὢὣὣὤὤὥὥὦὦὧὧὨὨὩὩὪὪὫὫ",
  "ὬὬὭὭὮὮὯὯὰὰὲὲὴὴὶὶὸὸὺὺὼὼᾀᾀᾁᾁᾂᾂᾃᾃᾄᾄᾅᾅᾆᾆᾇᾇᾈᾈᾉᾉᾊᾊᾋᾋᾌᾌᾍᾍᾎᾎᾏᾏᾐᾐᾑᾑᾒᾒᾓᾓ",
  "ᾔᾔᾕᾕᾖᾖᾗᾗᾘᾘᾙᾙᾚᾚᾛᾛᾜᾜᾝᾝᾞᾞᾟᾟᾠᾠᾡᾡᾢᾢᾣᾣᾤᾤᾥᾥᾦᾦᾧᾧᾨᾨᾩᾩᾪᾪᾫᾫᾬᾬᾭᾭᾮᾮᾯᾯᾰᾰᾱᾱᾲᾲ",
  "ᾳᾳᾴᾴᾶᾶᾷᾷᾸᾸᾹᾹᾺᾺᾼᾼ῁῁ῂῂῃῃῄῄῆῆῇῇῈῈῊῊῌῌ῍῍῎῎῏῏ῐῐῑῑῒῒῖῖῗῗῘῘῙῙῚῚ῝῝῞῞῟῟",
  "ῠῠῡῡῢῢῤῤῥῥῦῦῧῧῨῨῩῩῪῪῬῬ῭῭ῲῲῳῳῴῴῶῶῷῷῸῸῺῺῼῼ↚↚↛↛↮↮⇍⇍⇎⇎⇏⇏∄∄∉∉∌∌∤∤∦∦",
  "≁≁≄≄≇≇≉≉≠≠≢≢≭≭≮≮≯≯≰≰≱≱≴≴≵≵≸≸≹≹⊀⊀⊁⊁⊄⊄⊅⊅⊈⊈⊉⊉⊬⊬⊭⊭⊮⊮⊯⊯⋠⋠⋡⋡⋢⋢⋣⋣⋪⋪⋫⋫",
  "⋬⋬⋭⋭ががぎぎぐぐげげごござざじじずずぜぜぞぞだだぢぢづづででどどばばぱぱびびぴぴぶぶぷぷべべぺぺぼぼぽぽゔゔゞゞガガギギ",
  "ググゲゲゴゴザザジジズズゼゼゾゾダダヂヂヅヅデデドドババパパビビピピブブププベベペペボボポポヴヴヷヷヸヸヹヹヺヺヾヾ𑂚𑂚𑂜𑂜",
  "𑂫𑂫𑄮𑄮𑄯𑄯𑍋𑍋𑍌𑍌𑒻𑒻𑒼𑒼𑒾𑒾𑖺𑖺𑖻𑖻𑤸𑤸"]

end Docsmith.Text
