/-! # Characters that stand for others in domain names

A domain name may be written with wide, raised, circled and other variants of characters, with
ligatures and with abbreviations that are one character. The rows list what they stand for.
-/

set_option autoImplicit false

namespace ApiGateway.Network

/-- The texts that the characters from a code point on stand for, with a space between two. -/
def imageRows : Array (Nat × String) := #[
  (170, "a"),
  (178, "2 3 ´ μ ¶ · ¸ 1 o » 1⁄4 1⁄2 3⁄4"),
  (306, "ij ij"),
  (319, "l· l·"),
  (329, "ʼn"),
  (383, "s"),
  (452, "dž dž dž lj lj lj nj nj nj"),
  (497, "dz dz dz"),
  (688, "h ɦ j r ɹ ɻ ʁ w y"),
  (736, "ɣ l s x ʕ"),
  (832, "\u0300 \u0301 \u0342 \u0313 \u0308\u0301 ι"),
  (884, "ʹ"),
  (894, ";"),
  (903, "·"),
  (976, "β θ υ ύ ϋ φ π"),
  (1008, "κ ρ σ ϳ θ ε ϶ ϸ ϸ σ"),
  (1415, "եւ"),
  (1653, "\u0627\u0674 \u0648\u0674 \u06c7\u0674 \u064a\u0674"),
  (2392, "क\u093c ख\u093c ग\u093c ज\u093c ड\u093c ढ\u093c फ\u093c य\u093c"),
  (2524, "ড\u09bc ঢ\u09bc \u09de য\u09bc"),
  (2611, "ਲ\u0a3c \u0a34 ਵ ਸ\u0a3c"),
  (2649, "ਖ\u0a3c ਗ\u0a3c ਜ\u0a3c ੜ \u0a5d ਫ\u0a3c"),
  (2908, "ଡ\u0b3c ଢ\u0b3c"),
  (3635, "\u0e4dา"),
  (3763, "\u0ecdາ"),
  (3804, "ຫນ ຫມ"),
  (3852, "་"),
  (3907, "ག\u0fb7"),
  (3917, "ཌ\u0fb7"),
  (3922, "ད\u0fb7"),
  (3927, "བ\u0fb7"),
  (3932, "ཛ\u0fb7"),
  (3945, "ཀ\u0fb5"),
  (3955, "\u0f71\u0f72 \u0f74 \u0f71\u0f74 \u0fb2\u0f80 \u0fb2\u0f71\u0f80 \u0fb3\u0f80"),
  (3961, "\u0fb3\u0f71\u0f80"),
  (3969, "\u0f71\u0f80"),
  (3987, "\u0f92\u0fb7"),
  (3997, "\u0f9c\u0fb7"),
  (4002, "\u0fa1\u0fb7"),
  (4007, "\u0fa6\u0fb7"),
  (4012, "\u0fab\u0fb7"),
  (4025, "\u0f90\u0fb5"),
  (4348, "ნ"),
  (5112, "Ᏸ Ᏹ Ᏺ Ᏻ Ᏼ Ᏽ"),
  (7296, "в д о с т т ъ ѣ ꙋ"),
  (7468, "a æ b ᴯ d e ǝ g h i j k l m n ᴻ o ȣ p r t u w a ɐ ɑ ᴂ b d e ə ɛ ɜ g ᵎ k m ŋ o ɔ"),
  (7508, "ᴖ ᴗ p t u ᴝ ɯ v ᴥ β γ δ φ χ i r u v β γ ρ φ χ"),
  (7544, "н"),
  (7579, "ɒ c ɕ ð ɜ f ɟ ɡ ɥ ɨ ɩ ɪ ᵻ ʝ ɭ ᶅ ʟ ɱ ɰ ɲ ɳ ɴ ɵ ɸ ʂ ʃ ƫ ʉ ʊ ᴜ ʋ ʌ z ʐ ʑ ʒ θ"),
  (7834, "aʾ ṡ"),
  (8049, "ά ὲ έ ὴ ή ὶ ί ὸ ό ὺ ύ ὼ ώ \u1f7e \u1f7f ἀι ἁι ἂι ἃι ἄι ἅι ἆι ἇι ἀι ἁι ἂι ἃι ἄι"),
  (8077, "ἅι ἆι ἇι ἠι ἡι ἢι ἣι ἤι ἥι ἦι ἧι ἠι ἡι ἢι ἣι ἤι ἥι ἦι ἧι ὠι ὡι ὢι ὣι ὤι ὥι ὦι ὧι"),
  (8104, "ὠι ὡι ὢι ὣι ὤι ὥι ὦι ὧι ᾰ ᾱ ὰι αι άι \u1fb5 ᾶ ᾶι ᾰ ᾱ ὰ ά αι ᾽ ι ᾿ ῀ ῁ ὴι ηι ήι"),
  (8135, "ῆι ὲ έ ὴ ή ηι"),
  (8147, "ΐ"),
  (8155, "ί"),
  (8163, "ΰ"),
  (8171, "ύ ῥ ῭ ΅ ` \u1ff0 \u1ff1 ὼι ωι ώι \u1ff5 ῶ ῶι ὸ ό ὼ ώ ωι"),
  (8209, "‐"),
  (8243, "′′ ′′′ ‵ ‵‵ ‵‵‵"),
  (8252, "!!"),
  (8263, "?? ?! !?"),
  (8279, "′′′′"),
  (8304, "0 i \u2072 \u2073 4 5 6 7 8 9 + − = ( ) n 0 1 2 3 4 5 6 7 8 9 + − = ( ) \u208f a"),
  (8337, "e o x ə h k l m n p s t"),
  (8360, "rs"),
  (8448, "a/c a/s c °c ℄ c/o c/u ɛ ℈ °f g h h h h ħ i i l l ℔ n no ℗ ℘ p q r r r ℞ ℟ sm"),
  (8481, "tel tm ℣ z ℥ ω ℧ z ℩ k å b c ℮ e e f ⅎ m o \u05d0 \u05d1 \u05d2 \u05d3 i ℺ fax π"),
  (8509, "γ γ π ∑"),
  (8517, "d d e i j"),
  (8528, "1⁄7 1⁄9 1⁄10 1⁄3 2⁄3 1⁄5 2⁄5 3⁄5 4⁄5 1⁄6 5⁄6 1⁄8 3⁄8 5⁄8 7⁄8 1⁄ i ii iii iv v vi"),
  (8550, "vii viii ix x xi xii l c d m i ii iii iv v vi vii viii ix x xi xii l c d m"),
  (8585, "0⁄3"),
  (8748, "∫∫ ∫∫∫ ∮ ∮∮ ∮∮∮"),
  (9001, "〈 〉"),
  (9312, "1 2 3 4 5 6 7 8 9 10 11 12 13 14 15 16 17 18 19 20 (1) (2) (3) (4) (5) (6) (7)"),
  (9339, "(8) (9) (10) (11) (12) (13) (14) (15) (16) (17) (18) (19) (20)"),
  (9372, "(a) (b) (c) (d) (e) (f) (g) (h) (i) (j) (k) (l) (m) (n) (o) (p) (q) (r) (s) (t)"),
  (9392, "(u) (v) (w) (x) (y) (z) a b c d e f g h i j k l m n o p q r s t u v w x y z a b"),
  (9426, "c d e f g h i j k l m n o p q r s t u v w x y z 0"),
  (10764, "∫∫∫∫"),
  (10868, "::= == ==="),
  (10972, "⫝\u0338"),
  (11388, "j v"),
  (11631, "ⵡ"),
  (11935, "母"),
  (12019, "龟"),
  (12032, "一 丨 丶 丿 乙 亅 二 亠 人 儿 入 八 冂 冖 冫 几 凵 刀 力 勹 匕 匚 匸 十 卜 卩 厂 厶 又 口 囗 土 士 夂 夊 夕 大 女 子 宀"),
  (12072, "寸 小 尢 尸 屮 山 巛 工 己 巾 干 幺 广 廴 廾 弋 弓 彐 彡 彳 心 戈 戶 手 支 攴 文 斗 斤 方 无 日 曰 月 木 欠 止 歹 殳 毋"),
  (12112, "比 毛 氏 气 水 火 爪 父 爻 爿 片 牙 牛 犬 玄 玉 瓜 瓦 甘 生 用 田 疋 疒 癶 白 皮 皿 目 矛 矢 石 示 禸 禾 穴 立 竹 米 糸"),
  (12152, "缶 网 羊 羽 老 而 耒 耳 聿 肉 臣 自 至 臼 舌 舛 舟 艮 色 艸 虍 虫 血 行 衣 襾 見 角 言 谷 豆 豕 豸 貝 赤 走 足 身 車 辛"),
  (12192, "辰 辵 邑 酉 釆 里 金 長 門 阜 隶 隹 雨 靑 非 面 革 韋 韭 音 頁 風 飛 食 首 香 馬 骨 高 髟 鬥 鬯 鬲 鬼 魚 鳥 鹵 鹿 麥 麻"),
  (12232, "黃 黍 黑 黹 黽 鼎 鼓 鼠 鼻 齊 齒 龍 龜 龠"),
  (12290, "."),
  (12342, "〒 〷 十 卄 卅"),
  (12447, "より"),
  (12543, "コト"),
  (12593, "ᄀ ᄁ ᆪ ᄂ ᆬ ᆭ ᄃ ᄄ ᄅ ᆰ ᆱ ᆲ ᆳ ᆴ ᆵ ᄚ ᄆ ᄇ ᄈ ᄡ ᄉ ᄊ ᄋ ᄌ ᄍ ᄎ ᄏ ᄐ ᄑ ᄒ ᅡ ᅢ ᅣ ᅤ ᅥ ᅦ ᅧ ᅨ ᅩ ᅪ"),
  (12633, "ᅫ ᅬ ᅭ ᅮ ᅯ ᅰ ᅱ ᅲ ᅳ ᅴ ᅵ ㅤ ᄔ ᄕ ᇇ ᇈ ᇌ ᇎ ᇓ ᇗ ᇙ ᄜ ᇝ ᇟ ᄝ ᄞ ᄠ ᄢ ᄣ ᄧ ᄩ ᄫ ᄬ ᄭ ᄮ ᄯ ᄲ ᄶ ᅀ ᅇ"),
  (12673, "ᅌ ᇱ ᇲ ᅗ ᅘ ᅙ ᆄ ᆅ ᆈ ᆑ ᆒ ᆔ ᆞ ᆡ \u318f ㆐ ㆑ 一 二 三 四 上 中 下 甲 乙 丙 丁 天 地 人"),
  (12800, "(ᄀ) (ᄂ) (ᄃ) (ᄅ) (ᄆ) (ᄇ) (ᄉ) (ᄋ) (ᄌ) (ᄎ) (ᄏ) (ᄐ) (ᄑ) (ᄒ) (가) (나) (다) (라) (마) (바)"),
  (12820, "(사) (아) (자) (차) (카) (타) (파) (하) (주) (오전) (오후) \u321f (一) (二) (三) (四) (五) (六) (七)"),
  (12839, "(八) (九) (十) (月) (火) (水) (木) (金) (土) (日) (株) (有) (社) (名) (特) (財) (祝) (労) (代) (呼)"),
  (12859, "(学) (監) (企) (資) (協) (祭) (休) (自) (至) 問 幼 文 箏"),
  (12880, "pte 21 22 23 24 25 26 27 28 29 30 31 32 33 34 35 ᄀ ᄂ ᄃ ᄅ ᄆ ᄇ ᄉ ᄋ ᄌ ᄎ ᄏ ᄐ ᄑ ᄒ 가 나"),
  (12912, "다 라 마 바 사 아 자 차 카 타 파 하 참고 주의 우 ㉿ 一 二 三 四 五 六 七 八 九 十 月 火 水 木 金 土 日 株 有 社 名 特 財"),
  (12951, "祝 労 秘 男 女 適 優 印 注 項 休 写 正 上 中 下 左 右 医 宗 学 監 企 資 協 夜 36 37 38 39 40 41 42 43 44"),
  (12986, "45 46 47 48 49 50 1月 2月 3月 4月 5月 6月 7月 8月 9月 10月 11月 12月 hg erg ev ltd ア イ ウ エ オ"),
  (13013, "カ キ ク ケ コ サ シ ス セ ソ タ チ ツ テ ト ナ ニ ヌ ネ ノ ハ ヒ フ ヘ ホ マ ミ ム メ モ ヤ ユ ヨ ラ リ ル レ ロ ワ ヰ"),
  (13053, "ヱ ヲ 令和 アパート アルファ アンペア アール イニング インチ ウォン エスクード エーカー オンス オーム カイリ カラット カロリー ガロン ガンマ"),
  (13072, "ギガ ギニー キュリー ギルダー キロ キログラム キロメートル キロワット グラム グラムトン クルゼイロ クローネ ケース コルナ コーポ サイクル"),
  (13088, "サンチーム シリング センチ セント ダース デシ ドル トン ナノ ノット ハイツ パーセント パーツ バーレル ピアストル ピクル ピコ ビル ファラッド"),
  (13107, "フィート ブッシェル フラン ヘクタール ペソ ペニヒ ヘルツ ペンス ページ ベータ ポイント ボルト ホン ポンド ホール ホーン マイクロ マイル マッハ"),
  (13126, "マルク マンション ミクロン ミリ ミリバール メガ メガトン メートル ヤード ヤール ユアン リットル リラ ルピー ルーブル レム レントゲン ワット"),
  (13144, "0点 1点 2点 3点 4点 5点 6点 7点 8点 9点 10点 11点 12点 13点 14点 15点 16点 17点 18点 19点 20点 21点"),
  (13166, "22点 23点 24点 hpa da au bar ov pc dm dm2 dm3 iu 平成 昭和 大正 明治 株式会社 pa na μa ma ka kb"),
  (13190, "mb gb cal kcal pf nf μf μg mg kg hz khz mhz ghz thz μl ml dl kl fm nm μm mm cm"),
  (13214, "km mm2 cm2 m2 km2 mm3 cm3 m3 km3 m∕s m∕s2 pa kpa mpa gpa rad rad∕s rad∕s2 ps ns"),
  (13234, "μs ms pv nv μv mv kv mv pw nw μw mw kw mw kω mω ㏂ bq cc cd c∕kg ㏇ db gy ha hp in"),
  (13261, "kk km kt lm ln log lx mb mil mol ph ㏘ ppm pr sr sv wb v∕m a∕m 1日 2日 3日 4日 5日 6日"),
  (13286, "7日 8日 9日 10日 11日 12日 13日 14日 15日 16日 17日 18日 19日 20日 21日 22日 23日 24日 25日 26日 27日"),
  (13307, "28日 29日 30日 31日 gal"),
  (42652, "ъ ь"),
  (42864, "ꝯ"),
  (42993, "s c f q ꟶ ꟶ ꟷ ħ œ"),
  (43868, "ꜧ ꬷ ɫ ꭒ"),
  (43881, "ʍ"),
  (43888, "Ꭰ Ꭱ Ꭲ Ꭳ Ꭴ Ꭵ Ꭶ Ꭷ Ꭸ Ꭹ Ꭺ Ꭻ Ꭼ Ꭽ Ꭾ Ꭿ Ꮀ Ꮁ Ꮂ Ꮃ Ꮄ Ꮅ Ꮆ Ꮇ Ꮈ Ꮉ Ꮊ Ꮋ Ꮌ Ꮍ Ꮎ Ꮏ Ꮐ Ꮑ Ꮒ Ꮓ Ꮔ Ꮕ Ꮖ Ꮗ"),
  (43928, "Ꮘ Ꮙ Ꮚ Ꮛ Ꮜ Ꮝ Ꮞ Ꮟ Ꮠ Ꮡ Ꮢ Ꮣ Ꮤ Ꮥ Ꮦ Ꮧ Ꮨ Ꮩ Ꮪ Ꮫ Ꮬ Ꮭ Ꮮ Ꮯ Ꮰ Ꮱ Ꮲ Ꮳ Ꮴ Ꮵ Ꮶ Ꮷ Ꮸ Ꮹ Ꮺ Ꮻ Ꮼ Ꮽ Ꮾ Ꮿ"),
  (63744, "豈 更 車 賈 滑 串 句 龜 龜 契 金 喇 奈 懶 癩 羅 蘿 螺 裸 邏 樂 洛 烙 珞 落 酪 駱 亂 卵 欄 爛 蘭 鸞 嵐 濫 藍 襤 拉 臘 蠟"),
  (63784, "廊 朗 浪 狼 郎 來 冷 勞 擄 櫓 爐 盧 老 蘆 虜 路 露 魯 鷺 碌 祿 綠 菉 錄 鹿 論 壟 弄 籠 聾 牢 磊 賂 雷 壘 屢 樓 淚 漏 累"),
  (63824, "縷 陋 勒 肋 凜 凌 稜 綾 菱 陵 讀 拏 樂 諾 丹 寧 怒 率 異 北 磻 便 復 不 泌 數 索 參 塞 省 葉 說 殺 辰 沈 拾 若 掠 略 亮"),
  (63864, "兩 凉 梁 糧 良 諒 量 勵 呂 女 廬 旅 濾 礪 閭 驪 麗 黎 力 曆 歷 轢 年 憐 戀 撚 漣 煉 璉 秊 練 聯 輦 蓮 連 鍊 列 劣 咽 烈"),
  (63904, "裂 說 廉 念 捻 殮 簾 獵 令 囹 寧 嶺 怜 玲 瑩 羚 聆 鈴 零 靈 領 例 禮 醴 隸 惡 了 僚 寮 尿 料 樂 燎 療 蓼 遼 龍 暈 阮 劉"),
  (63944, "杻 柳 流 溜 琉 留 硫 紐 類 六 戮 陸 倫 崙 淪 輪 律 慄 栗 率 隆 利 吏 履 易 李 梨 泥 理 痢 罹 裏 裡 里 離 匿 溺 吝 燐 璘"),
  (63984, "藺 隣 鱗 麟 林 淋 臨 立 笠 粒 狀 炙 識 什 茶 刺 切 度 拓 糖 宅 洞 暴 輻 行 降 見 廓 兀 嗀 﨎 﨏 塚 﨑 晴 﨓 﨔 凞 猪 益"),
  (64024, "礼 神 祥 福 靖 精 羽 﨟 蘒 﨡 諸 﨣 﨤 逸 都 﨧 﨨 﨩 飯 飼 館 鶴 郞 隷 侮 僧 免 勉 勤 卑 喝 嘆 器 塀 墨 層 屮 悔 慨 憎"),
  (64064, "懲 敏 既 暑 梅 海 渚 漢 煮 爫 琢 碑 社 祉 祈 祐 祖 祝 禍 禎 穀 突 節 練 縉 繁 署 者 臭 艹 艹 著 褐 視 謁 謹 賓 贈 辶 逸"),
  (64104, "難 響 頻 恵 𤋮 舘 \ufa6e \ufa6f 並 况 全 侀 充 冀 勇 勺 喝 啕 喙 嗢 塚 墳 奄 奔 婢 嬨 廒 廙 彩 徭 惘 慎 愈 憎 慠"),
  (64139, "懲 戴 揄 搜 摒 敖 晴 朗 望 杖 歹 殺 流 滛 滋 漢 瀞 煮 瞧 爵 犯 猪 瑱 甆 画 瘝 瘟 益 盛 直 睊 着 磌 窱 節 类 絛 練 缾 者"),
  (64179, "荒 華 蝹 襁 覆 視 調 諸 請 謁 諾 諭 謹 變 贈 輸 遲 醙 鉶 陼 難 靖 韛 響 頋 頻 鬒 龜 𢡊 𢡄 𣏕 㮝 䀘 䀹 𥉉 𥳐 𧻓 齃 龎"),
  (64256, "ff fi fl ffi ffl st st"),
  (64275, "մն մե մի վն մխ"),
  (64285, "\u05d9\u05b4 \ufb1e \u05f2\u05b7 \u05e2 \u05d0 \u05d3 \u05d4 \u05db \u05dc"),
  (64294, "\u05dd \u05e8 \u05ea + \u05e9\u05c1 \u05e9\u05c2 \u05e9\u05bc\u05c1"),
  (64301, "\u05e9\u05bc\u05c2 \u05d0\u05b7 \u05d0\u05b8 \u05d0\u05bc \u05d1\u05bc"),
  (64306, "\u05d2\u05bc \u05d3\u05bc \u05d4\u05bc \u05d5\u05bc \u05d6\u05bc"),
  (64312, "\u05d8\u05bc \u05d9\u05bc \u05da\u05bc \u05db\u05bc \u05dc\u05bc"),
  (64318, "\u05de\u05bc \ufb3f \u05e0\u05bc \u05e1\u05bc \ufb42 \u05e3\u05bc \u05e4\u05bc"),
  (64326, "\u05e6\u05bc \u05e7\u05bc \u05e8\u05bc \u05e9\u05bc \u05ea\u05bc \u05d5\u05b9"),
  (64332, "\u05d1\u05bf \u05db\u05bf \u05e4\u05bf \u05d0\u05dc \u0671 \u0671 \u067b \u067b"),
  (64340, "\u067b \u067b \u067e \u067e \u067e \u067e \u0680 \u0680 \u0680 \u0680 \u067a"),
  (64351, "\u067a \u067a \u067a \u067f \u067f \u067f \u067f \u0679 \u0679 \u0679 \u0679"),
  (64362, "\u06a4 \u06a4 \u06a4 \u06a4 \u06a6 \u06a6 \u06a6 \u06a6 \u0684 \u0684 \u0684"),
  (64373, "\u0684 \u0683 \u0683 \u0683 \u0683 \u0686 \u0686 \u0686 \u0686 \u0687 \u0687"),
  (64384, "\u0687 \u0687 \u068d \u068d \u068c \u068c \u068e \u068e \u0688 \u0688 \u0698"),
  (64395, "\u0698 \u0691 \u0691 \u06a9 \u06a9 \u06a9 \u06a9 \u06af \u06af \u06af \u06af"),
  (64406, "\u06b3 \u06b3 \u06b3 \u06b3 \u06b1 \u06b1 \u06b1 \u06b1 \u06ba \u06ba \u06bb"),
  (64417, "\u06bb \u06bb \u06bb \u06c0 \u06c0 \u06c1 \u06c1 \u06c1 \u06c1 \u06be \u06be"),
  (64428, "\u06be \u06be \u06d2 \u06d2 \u06d3 \u06d3"),
  (64467, "\u06ad \u06ad \u06ad \u06ad \u06c7 \u06c7 \u06c6 \u06c6 \u06c8 \u06c8"),
  (64477, "\u06c7\u0674 \u06cb \u06cb \u06c5 \u06c5 \u06c9 \u06c9 \u06d0 \u06d0 \u06d0"),
  (64487, "\u06d0 \u0649 \u0649 \u0626\u0627 \u0626\u0627 \u0626\u06d5 \u0626\u06d5"),
  (64494, "\u0626\u0648 \u0626\u0648 \u0626\u06c7 \u0626\u06c7 \u0626\u06c6 \u0626\u06c6"),
  (64500, "\u0626\u06c8 \u0626\u06c8 \u0626\u06d0 \u0626\u06d0 \u0626\u06d0 \u0626\u0649"),
  (64506, "\u0626\u0649 \u0626\u0649 \u06cc \u06cc \u06cc \u06cc \u0626\u062c \u0626\u062d"),
  (64514, "\u0626\u0645 \u0626\u0649 \u0626\u064a \u0628\u062c \u0628\u062d \u0628\u062e"),
  (64520, "\u0628\u0645 \u0628\u0649 \u0628\u064a \u062a\u062c \u062a\u062d \u062a\u062e"),
  (64526, "\u062a\u0645 \u062a\u0649 \u062a\u064a \u062b\u062c \u062b\u0645 \u062b\u0649"),
  (64532, "\u062b\u064a \u062c\u062d \u062c\u0645 \u062d\u062c \u062d\u0645 \u062e\u062c"),
  (64538, "\u062e\u062d \u062e\u0645 \u0633\u062c \u0633\u062d \u0633\u062e \u0633\u0645"),
  (64544, "\u0635\u062d \u0635\u0645 \u0636\u062c \u0636\u062d \u0636\u062e \u0636\u0645"),
  (64550, "\u0637\u062d \u0637\u0645 \u0638\u0645 \u0639\u062c \u0639\u0645 \u063a\u062c"),
  (64556, "\u063a\u0645 \u0641\u062c \u0641\u062d \u0641\u062e \u0641\u0645 \u0641\u0649"),
  (64562, "\u0641\u064a \u0642\u062d \u0642\u0645 \u0642\u0649 \u0642\u064a \u0643\u0627"),
  (64568, "\u0643\u062c \u0643\u062d \u0643\u062e \u0643\u0644 \u0643\u0645 \u0643\u0649"),
  (64574, "\u0643\u064a \u0644\u062c \u0644\u062d \u0644\u062e \u0644\u0645 \u0644\u0649"),
  (64580, "\u0644\u064a \u0645\u062c \u0645\u062d \u0645\u062e \u0645\u0645 \u0645\u0649"),
  (64586, "\u0645\u064a \u0646\u062c \u0646\u062d \u0646\u062e \u0646\u0645 \u0646\u0649"),
  (64592, "\u0646\u064a \u0647\u062c \u0647\u0645 \u0647\u0649 \u0647\u064a \u064a\u062c"),
  (64598, "\u064a\u062d \u064a\u062e \u064a\u0645 \u064a\u0649 \u064a\u064a \u0630\u0670"),
  (64604, "\u0631\u0670 \u0649\u0670"),
  (64612, "\u0626\u0631 \u0626\u0632 \u0626\u0645 \u0626\u0646 \u0626\u0649 \u0626\u064a"),
  (64618, "\u0628\u0631 \u0628\u0632 \u0628\u0645 \u0628\u0646 \u0628\u0649 \u0628\u064a"),
  (64624, "\u062a\u0631 \u062a\u0632 \u062a\u0645 \u062a\u0646 \u062a\u0649 \u062a\u064a"),
  (64630, "\u062b\u0631 \u062b\u0632 \u062b\u0645 \u062b\u0646 \u062b\u0649 \u062b\u064a"),
  (64636, "\u0641\u0649 \u0641\u064a \u0642\u0649 \u0642\u064a \u0643\u0627 \u0643\u0644"),
  (64642, "\u0643\u0645 \u0643\u0649 \u0643\u064a \u0644\u0645 \u0644\u0649 \u0644\u064a"),
  (64648, "\u0645\u0627 \u0645\u0645 \u0646\u0631 \u0646\u0632 \u0646\u0645 \u0646\u0646"),
  (64654, "\u0646\u0649 \u0646\u064a \u0649\u0670 \u064a\u0631 \u064a\u0632 \u064a\u0645"),
  (64660, "\u064a\u0646 \u064a\u0649 \u064a\u064a \u0626\u062c \u0626\u062d \u0626\u062e"),
  (64666, "\u0626\u0645 \u0626\u0647 \u0628\u062c \u0628\u062d \u0628\u062e \u0628\u0645"),
  (64672, "\u0628\u0647 \u062a\u062c \u062a\u062d \u062a\u062e \u062a\u0645 \u062a\u0647"),
  (64678, "\u062b\u0645 \u062c\u062d \u062c\u0645 \u062d\u062c \u062d\u0645 \u062e\u062c"),
  (64684, "\u062e\u0645 \u0633\u062c \u0633\u062d \u0633\u062e \u0633\u0645 \u0635\u062d"),
  (64690, "\u0635\u062e \u0635\u0645 \u0636\u062c \u0636\u062d \u0636\u062e \u0636\u0645"),
  (64696, "\u0637\u062d \u0638\u0645 \u0639\u062c \u0639\u0645 \u063a\u062c \u063a\u0645"),
  (64702, "\u0641\u062c \u0641\u062d \u0641\u062e \u0641\u0645 \u0642\u062d \u0642\u0645"),
  (64708, "\u0643\u062c \u0643\u062d \u0643\u062e \u0643\u0644 \u0643\u0645 \u0644\u062c"),
  (64714, "\u0644\u062d \u0644\u062e \u0644\u0645 \u0644\u0647 \u0645\u062c \u0645\u062d"),
  (64720, "\u0645\u062e \u0645\u0645 \u0646\u062c \u0646\u062d \u0646\u062e \u0646\u0645"),
  (64726, "\u0646\u0647 \u0647\u062c \u0647\u0645 \u0647\u0670 \u064a\u062c \u064a\u062d"),
  (64732, "\u064a\u062e \u064a\u0645 \u064a\u0647 \u0626\u0645 \u0626\u0647 \u0628\u0645"),
  (64738, "\u0628\u0647 \u062a\u0645 \u062a\u0647 \u062b\u0645 \u062b\u0647 \u0633\u0645"),
  (64744, "\u0633\u0647 \u0634\u0645 \u0634\u0647 \u0643\u0644 \u0643\u0645 \u0644\u0645"),
  (64750, "\u0646\u0645 \u0646\u0647 \u064a\u0645 \u064a\u0647 \u0640\u064e\u0651"),
  (64755, "\u0640\u064f\u0651 \u0640\u0650\u0651 \u0637\u0649 \u0637\u064a \u0639\u0649"),
  (64760, "\u0639\u064a \u063a\u0649 \u063a\u064a \u0633\u0649 \u0633\u064a \u0634\u0649"),
  (64766, "\u0634\u064a \u062d\u0649 \u062d\u064a \u062c\u0649 \u062c\u064a \u062e\u0649"),
  (64772, "\u062e\u064a \u0635\u0649 \u0635\u064a \u0636\u0649 \u0636\u064a \u0634\u062c"),
  (64778, "\u0634\u062d \u0634\u062e \u0634\u0645 \u0634\u0631 \u0633\u0631 \u0635\u0631"),
  (64784, "\u0636\u0631 \u0637\u0649 \u0637\u064a \u0639\u0649 \u0639\u064a \u063a\u0649"),
  (64790, "\u063a\u064a \u0633\u0649 \u0633\u064a \u0634\u0649 \u0634\u064a \u062d\u0649"),
  (64796, "\u062d\u064a \u062c\u0649 \u062c\u064a \u062e\u0649 \u062e\u064a \u0635\u0649"),
  (64802, "\u0635\u064a \u0636\u0649 \u0636\u064a \u0634\u062c \u0634\u062d \u0634\u062e"),
  (64808, "\u0634\u0645 \u0634\u0631 \u0633\u0631 \u0635\u0631 \u0636\u0631 \u0634\u062c"),
  (64814, "\u0634\u062d \u0634\u062e \u0634\u0645 \u0633\u0647 \u0634\u0647 \u0637\u0645"),
  (64820, "\u0633\u062c \u0633\u062d \u0633\u062e \u0634\u062c \u0634\u062d \u0634\u062e"),
  (64826, "\u0637\u0645 \u0638\u0645 \u0627\u064b \u0627\u064b"),
  (64848, "\u062a\u062c\u0645 \u062a\u062d\u062c \u062a\u062d\u062c \u062a\u062d\u0645"),
  (64852, "\u062a\u062e\u0645 \u062a\u0645\u062c \u062a\u0645\u062d \u062a\u0645\u062e"),
  (64856, "\u062c\u0645\u062d \u062c\u0645\u062d \u062d\u0645\u064a \u062d\u0645\u0649"),
  (64860, "\u0633\u062d\u062c \u0633\u062c\u062d \u0633\u062c\u0649 \u0633\u0645\u062d"),
  (64864, "\u0633\u0645\u062d \u0633\u0645\u062c \u0633\u0645\u0645 \u0633\u0645\u0645"),
  (64868, "\u0635\u062d\u062d \u0635\u062d\u062d \u0635\u0645\u0645 \u0634\u062d\u0645"),
  (64872, "\u0634\u062d\u0645 \u0634\u062c\u064a \u0634\u0645\u062e \u0634\u0645\u062e"),
  (64876, "\u0634\u0645\u0645 \u0634\u0645\u0645 \u0636\u062d\u0649 \u0636\u062e\u0645"),
  (64880, "\u0636\u062e\u0645 \u0637\u0645\u062d \u0637\u0645\u062d \u0637\u0645\u0645"),
  (64884, "\u0637\u0645\u064a \u0639\u062c\u0645 \u0639\u0645\u0645 \u0639\u0645\u0645"),
  (64888, "\u0639\u0645\u0649 \u063a\u0645\u0645 \u063a\u0645\u064a \u063a\u0645\u0649"),
  (64892, "\u0641\u062e\u0645 \u0641\u062e\u0645 \u0642\u0645\u062d \u0642\u0645\u0645"),
  (64896, "\u0644\u062d\u0645 \u0644\u062d\u064a \u0644\u062d\u0649 \u0644\u062c\u062c"),
  (64900, "\u0644\u062c\u062c \u0644\u062e\u0645 \u0644\u062e\u0645 \u0644\u0645\u062d"),
  (64904, "\u0644\u0645\u062d \u0645\u062d\u062c \u0645\u062d\u0645 \u0645\u062d\u064a"),
  (64908, "\u0645\u062c\u062d \u0645\u062c\u0645 \u0645\u062e\u062c \u0645\u062e\u0645"),
  (64914, "\u0645\u062c\u062e \u0647\u0645\u062c \u0647\u0645\u0645 \u0646\u062d\u0645"),
  (64918, "\u0646\u062d\u0649 \u0646\u062c\u0645 \u0646\u062c\u0645 \u0646\u062c\u0649"),
  (64922, "\u0646\u0645\u064a \u0646\u0645\u0649 \u064a\u0645\u0645 \u064a\u0645\u0645"),
  (64926, "\u0628\u062e\u064a \u062a\u062c\u064a \u062a\u062c\u0649 \u062a\u062e\u064a"),
  (64930, "\u062a\u062e\u0649 \u062a\u0645\u064a \u062a\u0645\u0649 \u062c\u0645\u064a"),
  (64934, "\u062c\u062d\u0649 \u062c\u0645\u0649 \u0633\u062e\u0649 \u0635\u062d\u064a"),
  (64938, "\u0634\u062d\u064a \u0636\u062d\u064a \u0644\u062c\u064a \u0644\u0645\u064a"),
  (64942, "\u064a\u062d\u064a \u064a\u062c\u064a \u064a\u0645\u064a \u0645\u0645\u064a"),
  (64946, "\u0642\u0645\u064a \u0646\u062d\u064a \u0642\u0645\u062d \u0644\u062d\u0645"),
  (64950, "\u0639\u0645\u064a \u0643\u0645\u064a \u0646\u062c\u062d \u0645\u062e\u064a"),
  (64954, "\u0644\u062c\u0645 \u0643\u0645\u0645 \u0644\u062c\u0645 \u0646\u062c\u062d"),
  (64958, "\u062c\u062d\u064a \u062d\u062c\u064a \u0645\u062c\u064a \u0641\u0645\u064a"),
  (64962, "\u0628\u062d\u064a \u0643\u0645\u0645 \u0639\u062c\u0645 \u0635\u0645\u0645"),
  (64966, "\u0633\u062e\u064a \u0646\u062c\u064a"),
  (65008, "\u0635\u0644\u06d2 \u0642\u0644\u06d2 \u0627\u0644\u0644\u0647"),
  (65011, "\u0627\u0643\u0628\u0631 \u0645\u062d\u0645\u062f \u0635\u0644\u0639\u0645"),
  (65014, "\u0631\u0633\u0648\u0644 \u0639\u0644\u064a\u0647 \u0648\u0633\u0644\u0645"),
  (65017, "\u0635\u0644\u0649 \ufdfa \ufdfb \u0631\u06cc\u0627\u0644"),
  (65040, ", 、 ︒ : ; ! ? 〖 〗"),
  (65073, "— – _ _ ( ) \x7b \x7d 〔 〕 【 】 《 》 〈 〉 「 」 『 』 ﹅ ﹆ [ ]"),
  (65101, "_ _ _ , 、 ﹒ \ufe53 ; : ? ! — ( ) \x7b \x7d 〔 〕 # & * + - < > = \ufe67 \\ $ % @"),
  (65137, "\u0640\u064b"),
  (65143, "\u0640\u064e \ufe78 \u0640\u064f \ufe7a \u0640\u0650 \ufe7c \u0640\u0651"),
  (65151, "\u0640\u0652 \u0621 \u0622 \u0622 \u0623 \u0623 \u0624 \u0624 \u0625 \u0625"),
  (65161, "\u0626 \u0626 \u0626 \u0626 \u0627 \u0627 \u0628 \u0628 \u0628 \u0628 \u0629"),
  (65172, "\u0629 \u062a \u062a \u062a \u062a \u062b \u062b \u062b \u062b \u062c \u062c"),
  (65183, "\u062c \u062c \u062d \u062d \u062d \u062d \u062e \u062e \u062e \u062e \u062f"),
  (65194, "\u062f \u0630 \u0630 \u0631 \u0631 \u0632 \u0632 \u0633 \u0633 \u0633 \u0633"),
  (65205, "\u0634 \u0634 \u0634 \u0634 \u0635 \u0635 \u0635 \u0635 \u0636 \u0636 \u0636"),
  (65216, "\u0636 \u0637 \u0637 \u0637 \u0637 \u0638 \u0638 \u0638 \u0638 \u0639 \u0639"),
  (65227, "\u0639 \u0639 \u063a \u063a \u063a \u063a \u0641 \u0641 \u0641 \u0641 \u0642"),
  (65238, "\u0642 \u0642 \u0642 \u0643 \u0643 \u0643 \u0643 \u0644 \u0644 \u0644 \u0644"),
  (65249, "\u0645 \u0645 \u0645 \u0645 \u0646 \u0646 \u0646 \u0646 \u0647 \u0647 \u0647"),
  (65260, "\u0647 \u0648 \u0648 \u0649 \u0649 \u064a \u064a \u064a \u064a \u0644\u0622"),
  (65270, "\u0644\u0622 \u0644\u0623 \u0644\u0623 \u0644\u0625 \u0644\u0625 \u0644\u0627"),
  (65276, "\u0644\u0627"),
  (65281, "! \" # $ % & ' ( ) * + , - . / 0 1 2 3 4 5 6 7 8 9 : ; < = > ? @ a b c d e f g h"),
  (65321, "i j k l m n o p q r s t u v w x y z [ \\ ] ^ _ ` a b c d e f g h i j k l m n o p"),
  (65361, "q r s t u v w x y z \x7b | \x7d ~ ⦅ ⦆ . 「 」 、 ・ ヲ ァ ィ ゥ ェ ォ ャ ュ ョ ッ ー ア イ ウ エ オ"),
  (65398, "カ キ ク ケ コ サ シ ス セ ソ タ チ ツ テ ト ナ ニ ヌ ネ ノ ハ ヒ フ ヘ ホ マ ミ ム メ モ ヤ ユ ヨ ラ リ ル レ ロ ワ ン"),
  (65438, "\u3099 \u309a ﾠ ᄀ ᄁ ᆪ ᄂ ᆬ ᆭ ᄃ ᄄ ᄅ ᆰ ᆱ ᆲ ᆳ ᆴ ᆵ ᄚ ᄆ ᄇ ᄈ ᄡ ᄉ ᄊ ᄋ ᄌ ᄍ ᄎ ᄏ ᄐ ᄑ ᄒ"),
  (65474, "ᅡ ᅢ ᅣ ᅤ ᅥ ᅦ \uffc8 \uffc9 ᅧ ᅨ ᅩ ᅪ ᅫ ᅬ \uffd0 \uffd1 ᅭ ᅮ ᅯ ᅰ ᅱ ᅲ \uffd8 \uffd9 ᅳ"),
  (65499, "ᅴ ᅵ \uffdd \uffde \uffdf ¢ £ ¬ ￣ ¦ ¥ ₩ \uffe7 │ ← ↑ → ↓ ■ ○"),
  (67457, "ː ˑ æ ʙ ɓ 𐞆 ʣ ꭦ ʥ ʤ ɖ ɗ ᶑ ɘ ɞ ʩ ɤ ɢ ɠ ʛ ħ ʜ ɧ ʄ ʪ ʫ ɬ 𝼄 ꞎ ɮ 𝼅 ʎ 𝼆 ø ɶ ɷ q ɺ 𝼈 ɽ"),
  (67497, "ɾ ʀ ʨ ʦ ꭧ ʧ ʈ ⱱ 𐞱 ʏ ʡ ʢ ʘ ǀ ǁ ǂ 𝼊 𝼞"),
  (117974, "a b c d e f g h i j k l m n o p q r s t u v w x y z 0 1 2 3 4 5 6 7 8 9"),
  (119134, "𝅗𝅥 𝅘𝅥 𝅘𝅥𝅮 𝅘𝅥𝅯 𝅘𝅥𝅰 𝅘𝅥𝅱 𝅘𝅥𝅲"),
  (119227, "𝆹𝅥 𝆺𝅥 𝆹𝅥𝅮 𝆺𝅥𝅮 𝆹𝅥𝅯 𝆺𝅥𝅯"),
  (119808, "a b c d e f g h i j k l m n o p q r s t u v w x y z a b c d e f g h i j k l m n"),
  (119848, "o p q r s t u v w x y z a b c d e f g h i j k l m n o p q r s t u v w x y z a b"),
  (119888, "c d e f g 𝑕 i j k l m n o p q r s t u v w x y z a b c d e f g h i j k l m n o p"),
  (119928, "q r s t u v w x y z a b c d e f g h i j k l m n o p q r s t u v w x y z a 𝒝 c d"),
  (119970, "g 𝒣 𝒤 j k 𝒧 𝒨 n o p q 𝒭 s t u v w x y z a b c d 𝒺 f 𝒼 h i j k l m n 𝓄 p q r s t"),
  (120010, "u v w x y z a b c d e f g h i j k l m n o p q r s t u v w x y z a b c d e f g h"),
  (120050, "i j k l m n o p q r s t u v w x y z a b 𝔆 d e f g 𝔋 𝔌 j k l m n o p q 𝔕 s t u v"),
  (120090, "w x y 𝔝 a b c d e f g h i j k l m n o p q r s t u v w x y z a b 𝔺 d e f g 𝔿 i j"),
  (120130, "k l m 𝕅 o 𝕇 𝕈 𝕉 s t u v w x y 𝕑 a b c d e f g h i j k l m n o p q r s t u v w x"),
  (120170, "y z a b c d e f g h i j k l m n o p q r s t u v w x y z a b c d e f g h i j k l"),
  (120210, "m n o p q r s t u v w x y z a b c d e f g h i j k l m n o p q r s t u v w x y z"),
  (120250, "a b c d e f g h i j k l m n o p q r s t u v w x y z a b c d e f g h i j k l m n"),
  (120290, "o p q r s t u v w x y z a b c d e f g h i j k l m n o p q r s t u v w x y z a b"),
  (120330, "c d e f g h i j k l m n o p q r s t u v w x y z a b c d e f g h i j k l m n o p"),
  (120370, "q r s t u v w x y z a b c d e f g h i j k l m n o p q r s t u v w x y z a b c d"),
  (120410, "e f g h i j k l m n o p q r s t u v w x y z a b c d e f g h i j k l m n o p q r"),
  (120450, "s t u v w x y z a b c d e f g h i j k l m n o p q r s t u v w x y z ı ȷ 𝚦 𝚧 α β"),
  (120490, "γ δ ε ζ η θ ι κ λ μ ν ξ ο π ρ θ σ τ υ φ χ ψ ω ∇ α β γ δ ε ζ η θ ι κ λ μ ν ξ ο π"),
  (120530, "ρ σ σ τ υ φ χ ψ ω ∂ ε θ κ φ ρ π α β γ δ ε ζ η θ ι κ λ μ ν ξ ο π ρ θ σ τ υ φ χ ψ"),
  (120570, "ω ∇ α β γ δ ε ζ η θ ι κ λ μ ν ξ ο π ρ σ σ τ υ φ χ ψ ω ∂ ε θ κ φ ρ π α β γ δ ε ζ"),
  (120610, "η θ ι κ λ μ ν ξ ο π ρ θ σ τ υ φ χ ψ ω ∇ α β γ δ ε ζ η θ ι κ λ μ ν ξ ο π ρ σ σ τ"),
  (120650, "υ φ χ ψ ω ∂ ε θ κ φ ρ π α β γ δ ε ζ η θ ι κ λ μ ν ξ ο π ρ θ σ τ υ φ χ ψ ω ∇ α β"),
  (120690, "γ δ ε ζ η θ ι κ λ μ ν ξ ο π ρ σ σ τ υ φ χ ψ ω ∂ ε θ κ φ ρ π α β γ δ ε ζ η θ ι κ"),
  (120730, "λ μ ν ξ ο π ρ θ σ τ υ φ χ ψ ω ∇ α β γ δ ε ζ η θ ι κ λ μ ν ξ ο π ρ σ σ τ υ φ χ ψ"),
  (120770, "ω ∂ ε θ κ φ ρ π ϝ ϝ 𝟌 𝟍 0 1 2 3 4 5 6 7 8 9 0 1 2 3 4 5 6 7 8 9 0 1 2 3 4 5 6 7"),
  (120810, "8 9 0 1 2 3 4 5 6 7 8 9 0 1 2 3 4 5 6 7 8 9"),
  (122928, "а б в г д е ж з и к л м о п р с т у ф х ц ч ш ы э ю ꚉ ә і ј ө ү ӏ а б в г д е ж"),
  (122968, "з и к л о п с у ф х ц ч ш ъ ы ґ і ѕ џ ҫ ꙑ ұ"),
  (126464, "\u0627 \u0628 \u062c \u062f 𞸄 \u0648 \u0632 \u062d \u0637 \u064a \u0643 \u0644"),
  (126476, "\u0645 \u0646 \u0633 \u0639 \u0641 \u0635 \u0642 \u0631 \u0634 \u062a \u062b"),
  (126487, "\u062e \u0630 \u0636 \u0638 \u063a \u066e \u06ba \u06a1 \u066f 𞸠 \u0628 \u062c"),
  (126500, "\u0647 𞸥 𞸦 \u062d 𞸨 \u064a \u0643 \u0644 \u0645 \u0646 \u0633 \u0639 \u0641"),
  (126513, "\u0635 \u0642 𞸳 \u0634 \u062a \u062b \u062e 𞸸 \u0636 𞸺 \u063a"),
  (126530, "\u062c"),
  (126535, "\u062d 𞹈 \u064a 𞹊 \u0644 𞹌 \u0646 \u0633 \u0639 𞹐 \u0635 \u0642 𞹓 \u0634"),
  (126551, "\u062e 𞹘 \u0636 𞹚 \u063a 𞹜 \u06ba 𞹞 \u066f 𞹠 \u0628 \u062c 𞹣 \u0647 𞹥 𞹦 \u062d"),
  (126568, "\u0637 \u064a \u0643 𞹫 \u0645 \u0646 \u0633 \u0639 \u0641 \u0635 \u0642 𞹳 \u0634"),
  (126581, "\u062a \u062b \u062e 𞹸 \u0636 \u0638 \u063a \u066e 𞹽 \u06a1 𞹿 \u0627 \u0628"),
  (126594, "\u062c \u062f \u0647 \u0648 \u0632 \u062d \u0637 \u064a 𞺊 \u0644 \u0645 \u0646"),
  (126606, "\u0633 \u0639 \u0641 \u0635 \u0642 \u0631 \u0634 \u062a \u062b \u062e \u0630"),
  (126617, "\u0636 \u0638 \u063a"),
  (126625, "\u0628 \u062c \u062f 𞺤 \u0648 \u0632 \u062d \u0637 \u064a 𞺪 \u0644 \u0645 \u0646"),
  (126638, "\u0633 \u0639 \u0641 \u0635 \u0642 \u0631 \u0634 \u062a \u062b \u062e \u0630"),
  (126649, "\u0636 \u0638 \u063a"),
  (127233, "0, 1, 2, 3, 4, 5, 6, 7, 8, 9,"),
  (127248, "(a) (b) (c) (d) (e) (f) (g) (h) (i) (j) (k) (l) (m) (n) (o) (p) (q) (r) (s) (t)"),
  (127268, "(u) (v) (w) (x) (y) (z) 〔s〕 c r cd wz 🄯 a b c d e f g h i j k l m n o p q r s t"),
  (127300, "u v w x y z hv mv sd ss ppv wc"),
  (127338, "mc md mr"),
  (127376, "dj"),
  (127488, "ほか ココ サ"),
  (127504, "手 字 双 デ 二 多 解 天 交 映 無 料 前 後 再 新 初 終 生 販 声 吹 演 投 捕 一 三 遊 左 中 右 指 走 打 禁 空 合 満 有 月"),
  (127544, "申 割 営 配"),
  (127552, "〔本〕 〔三〕 〔二〕 〔安〕 〔点〕 〔打〕 〔盗〕 〔勝〕 〔敗〕"),
  (127568, "得 可"),
  (130032, "0 1 2 3 4 5 6 7 8 9"),
  (194560, "丽 丸 乁 𠄢 你 侮 侻 倂 偺 備 僧 像 㒞 𠘺 免 兔 兤 具 𠔜 㒹 內 再 𠕋 冗 冤 仌 冬 况 𩇟 凵 刃 㓟 刻 剆 割 剷 㔕 勇 勉 勤"),
  (194600, "勺 包 匆 北 卉 卑 博 即 卽 卿 卿 卿 𠨬 灰 及 叟 𠭣 叫 叱 吆 咞 吸 呈 周 咢 哶 唐 啓 啣 善 善 喙 喫 喳 嗂 圖 嘆 圗 噑 噴"),
  (194640, "切 壮 城 埴 堍 型 堲 報 墬 𡓤 売 壷 夆 多 夢 奢 𡚨 𡛪 姬 娛 娧 姘 婦 㛮 㛼 嬈 嬾 嬾 𡧈 寃 寘 寧 寳 𡬘 寿 将 当 尢 㞁 屠"),
  (194680, "屮 峀 岍 𡷤 嵃 𡷦 嵮 嵫 嵼 巡 巢 㠯 巽 帨 帽 幩 㡢 𢆃 㡼 庰 庳 庶 廊 𪎒 廾 𢌱 𢌱 舁 弢 弢 㣇 𣊸 𦇚 形 彫 㣣 徚 忍 志 忹"),
  (194720, "悁 㤺 㤜 悔 𢛔 惇 慈 慌 慎 慌 慺 憎 憲 憤 憯 懞 懲 懶 成 戛 扝 抱 拔 捐 𢬌 挽 拼 捨 掃 揤 𢯱 搢 揅 掩 㨮 摩 摾 撝 摷 㩬"),
  (194760, "敏 敬 𣀊 旣 書 晉 㬙 暑 㬈 㫤 冒 冕 最 暜 肭 䏙 朗 望 朡 杞 杓 𣏃 㭉 柺 枅 桒 梅 𣑭 梎 栟 椔 㮝 楂 榣 槪 檨 𣚣 櫛 㰘 次"),
  (194800, "𣢧 歔 㱎 歲 殟 殺 殻 𣪍 𡴋 𣫺 汎 𣲼 沿 泍 汧 洖 派 海 流 浩 浸 涅 𣴞 洴 港 湮 㴳 滋 滇 𣻑 淹 潮 𣽞 𣾎 濆 瀹 瀞 瀛 㶖 灊"),
  (194840, "災 灷 炭 𠔥 煅 𤉣 熜 𤎫 爨 爵 牐 𤘈 犀 犕 𤜵 𤠔 獺 王 㺬 玥 㺸 㺸 瑇 瑜 瑱 璅 瓊 㼛 甤 𤰶 甾 𤲒 異 𢆟 瘐 𤾡 𤾸 𥁄 㿼 䀈"),
  (194880, "直 𥃳 𥃲 𥄙 𥄳 眞 真 真 睊 䀹 瞋 䁆 䂖 𥐝 硎 碌 磌 䃣 𥘦 祖 𥚚 𥛅 福 秫 䄯 穀 穊 穏 𥥼 𥪧 𥪧 竮 䈂 𥮫 篆 築 䈧 𥲀 糒 䊠"),
  (194920, "糨 糣 紀 𥾆 絣 䌁 緇 縂 繅 䌴 𦈨 𦉇 䍙 𦋙 罺 𦌾 羕 翺 者 𦓚 𦔣 聠 𦖨 聰 𣍟 䏕 育 脃 䐋 脾 媵 𦞧 𦞵 𣎓 𣎜 舁 舄 辞 䑫 芑"),
  (194960, "芋 芝 劳 花 芳 芽 苦 𦬼 若 茝 荣 莭 茣 莽 菧 著 荓 菊 菌 菜 𦰶 𦵫 𦳕 䔫 蓱 蓳 蔖 𧏊 蕤 𦼬 䕝 䕡 𦾱 𧃒 䕫 虐 虜 虧 虩 蚩"),
  (195000, "蚈 蜎 蛢 蝹 蜨 蝫 螆 䗗 蟡 蠁 䗹 衠 衣 𧙧 裗 裞 䘵 裺 㒻 𧢮 𧥦 䚾 䛇 誠 諭 變 豕 𧲨 貫 賁 贛 起 𧼯 𠠄 跋 趼 跰 𠣞 軔 輸"),
  (195040, "𨗒 𨗭 邔 郱 鄑 𨜮 鄛 鈸 鋗 鋘 鉼 鏹 鐕 𨯺 開 䦕 閷 𨵷 䧦 雃 嶲 霣 𩅅 𩈚 䩮 䩶 韠 𩐊 䪲 𩒖 頋 頋 頩 𩖶 飢 䬳 餩 馧 駂 駾"),
  (195080, "䯎 𩬰 鬒 鱀 鳽 䳎 䳭 鵧 𪃎 䳸 𪄅 𪈎 𪊑 麻 䵖 黹 黾 鼅 鼏 鼖 鼻 𪘀")]

end ApiGateway.Network
