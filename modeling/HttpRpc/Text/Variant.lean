import HttpRpc.Text.Case
import HttpRpc.Text.Joining
import HttpRpc.Text.Split

/-!
# Variants

Some characters are variants of others: capital letters, ligatures, letters in circles, wide and
narrow forms, units of measure in one square. The plain form of a character is what it stands for
(`plain?`), so that texts which differ in variants alone have the same plain form. Invisible
characters have an empty one. Characters that stand for blanks, for dots other than full stops or
for delimiters of URLs have none.
-/

namespace HttpRpc.Text

/-- The ranges whose graphic characters and marks are variants of other characters or invisible,
capital letters aside. -/
def variantRanges : List (Nat × Nat) :=
  [(0xA8, 0xA8), (0xAA, 0xAA), (0xAF, 0xAF), (0xB2, 0xB5), (0xB8, 0xBA), (0xBC, 0xBE),
   (0x133, 0x133), (0x140, 0x140), (0x149, 0x149), (0x17F, 0x17F), (0x1C6, 0x1CC), (0x1F3, 0x1F3),
   (0x2B0, 0x2B8), (0x2D8, 0x2DD), (0x2E0, 0x2E4), (0x340, 0x341), (0x343, 0x345), (0x34F, 0x34F),
   (0x374, 0x374), (0x37A, 0x37A), (0x37E, 0x387), (0x3D0, 0x3D6), (0x3F0, 0x3F2), (0x3F5, 0x3F5),
   (0x587, 0x587), (0x675, 0x678), (0x958, 0x95F), (0x9DC, 0x9DF), (0xA33, 0xA33), (0xA36, 0xA36),
   (0xA59, 0xA5B), (0xA5E, 0xA5E), (0xB5C, 0xB5D), (0xE33, 0xE33), (0xEB3, 0xEB3), (0xEDC, 0xEDD),
   (0xF0C, 0xF0C), (0xF43, 0xF43), (0xF4D, 0xF4D), (0xF52, 0xF52), (0xF57, 0xF57), (0xF5C, 0xF5C),
   (0xF69, 0xF69), (0xF73, 0xF73), (0xF75, 0xF79), (0xF81, 0xF81), (0xF93, 0xF93), (0xF9D, 0xF9D),
   (0xFA2, 0xFA2), (0xFA7, 0xFA7), (0xFAC, 0xFAC), (0xFB9, 0xFB9), (0x10FC, 0x10FC),
   (0x13F8, 0x13FD), (0x17B4, 0x17B5), (0x180B, 0x180F), (0x1C80, 0x1C88), (0x1D2C, 0x1D2E),
   (0x1D30, 0x1D3A), (0x1D3C, 0x1D4D), (0x1D4F, 0x1D6A), (0x1D78, 0x1D78), (0x1D9B, 0x1DBF),
   (0x1E9A, 0x1E9B), (0x1F71, 0x1F71), (0x1F73, 0x1F73), (0x1F75, 0x1F75), (0x1F77, 0x1F77),
   (0x1F79, 0x1F79), (0x1F7B, 0x1F7B), (0x1F7D, 0x1FA7), (0x1FB2, 0x1FB4), (0x1FB7, 0x1FC4),
   (0x1FC7, 0x1FCF), (0x1FD3, 0x1FD3), (0x1FDD, 0x1FDF), (0x1FE3, 0x1FE3), (0x1FED, 0x1FF4),
   (0x1FF7, 0x1FFE), (0x2011, 0x2011), (0x2017, 0x2017), (0x2024, 0x2026), (0x2033, 0x2034),
   (0x2036, 0x2037), (0x203C, 0x203C), (0x203E, 0x203E), (0x2047, 0x2049), (0x2057, 0x2057),
   (0x2070, 0x209C), (0x20A8, 0x20A8), (0x2100, 0x2103), (0x2105, 0x2107), (0x2109, 0x2113),
   (0x2115, 0x2116), (0x2119, 0x211D), (0x2120, 0x2122), (0x2124, 0x2124), (0x2128, 0x2128),
   (0x212C, 0x212D), (0x212F, 0x2139), (0x213B, 0x2140), (0x2145, 0x2149), (0x2150, 0x217F),
   (0x2189, 0x2189), (0x222C, 0x222D), (0x222F, 0x2230), (0x2329, 0x232A), (0x2460, 0x24EA),
   (0x2A0C, 0x2A0C), (0x2A74, 0x2A76), (0x2ADC, 0x2ADC), (0x2C7C, 0x2C7D), (0x2D6F, 0x2D6F),
   (0x2E9F, 0x2E9F), (0x2EF3, 0x2FFF), (0x3002, 0x3002), (0x3036, 0x3036), (0x3038, 0x303A),
   (0x309B, 0x309C), (0x309F, 0x309F), (0x30FF, 0x30FF), (0x3131, 0x318E), (0x3192, 0x319F),
   (0x31EF, 0x31EF), (0x3200, 0x3247), (0x3250, 0x327E), (0x3280, 0x33FF), (0xA69C, 0xA69D),
   (0xA770, 0xA770), (0xA7F1, 0xA7F4), (0xA7F8, 0xA7F9), (0xAB5C, 0xAB5F), (0xAB69, 0xAB69),
   (0xAB70, 0xABBF), (0xF900, 0xFA0D), (0xFA10, 0xFA10), (0xFA12, 0xFA12), (0xFA15, 0xFA1E),
   (0xFA20, 0xFA20), (0xFA22, 0xFA22), (0xFA25, 0xFA26), (0xFA2A, 0xFB1D), (0xFB1F, 0xFBB1),
   (0xFBD3, 0xFD3D), (0xFD50, 0xFD8F), (0xFD92, 0xFDC7), (0xFDF0, 0xFDFC), (0xFE00, 0xFE19),
   (0xFE30, 0xFE44), (0xFE47, 0xFE72), (0xFE74, 0xFFFD), (0x10781, 0x107BA), (0x1CCD6, 0x1CCF9),
   (0x1D15E, 0x1D164), (0x1D1BB, 0x1D1C0), (0x1D400, 0x1D7FF), (0x1E030, 0x1E06D),
   (0x1EE00, 0x1EEBB), (0x1F100, 0x1F10A), (0x1F110, 0x1F12E), (0x1F130, 0x1F14F),
   (0x1F16A, 0x1F16C), (0x1F190, 0x1F190), (0x1F200, 0x1F251), (0x1FBF0, 0x1FBF9),
   (0x2F800, 0x2FA1D), (0xE0100, 0xE01EF)]

/-- The ranges of invisible characters. -/
def invisibleRanges : List (Nat × Nat) :=
  [(0xAD, 0xAD), (0x34F, 0x34F), (0x115F, 0x1160), (0x17B4, 0x17B5), (0x180B, 0x180F),
   (0x200B, 0x200B), (0x2060, 0x2064), (0x206A, 0x206F), (0x3164, 0x3164), (0xFE00, 0xFE0F),
   (0xFEFF, 0xFEFF), (0xFFA0, 0xFFA0), (0x1BCA0, 0x1BCA3), (0x1D173, 0x1D17A),
   (0xE0100, 0xE01EF)]

/-! ## Plain forms -/

/-- A row of neighbouring characters, by the first, and their plain forms between spaces. The place
of a character without a plain form is empty. -/
structure VariantRow where
  first : Nat
  forms : String
deriving DecidableEq, Repr

/-- The rows of variants up to U+1FFF. -/
def variantsBefore2000 : List VariantRow :=
  [⟨0xAA, "a"⟩, ⟨0xB2, "2 3  μ    1 o  1⁄4 1⁄2 3⁄4"⟩, ⟨0x133, "ij"⟩, ⟨0x140, "l·"⟩, ⟨0x149, "ʼn"⟩,
   ⟨0x17F, "s"⟩, ⟨0x1C6, "dž lj lj lj nj nj nj"⟩, ⟨0x1F3, "dz"⟩, ⟨0x2B0, "h ɦ j r ɹ ɻ ʁ w y"⟩,
   ⟨0x2E0, "ɣ l s x ʕ"⟩, ⟨0x340, "\u0300 \u0301  \u0313 \u0308\u0301 ι"⟩, ⟨0x374, "ʹ"⟩,
   ⟨0x37E, "; ϳ       ά ·"⟩, ⟨0x3D0, "β θ υ ύ ϋ φ π"⟩, ⟨0x3F0, "κ ρ σ   ε"⟩, ⟨0x587, "եւ"⟩,
   ⟨0x675, "\u0627\u0674 \u0648\u0674 \u06C7\u0674 \u064A\u0674"⟩,
   ⟨0x958, "क\u093C ख\u093C ग\u093C ज\u093C ड\u093C ढ\u093C फ\u093C य\u093C"⟩,
   ⟨0x9DC, "ড\u09BC ঢ\u09BC  য\u09BC"⟩, ⟨0xA33, "ਲ\u0A3C   ਸ\u0A3C"⟩,
   ⟨0xA59, "ਖ\u0A3C ਗ\u0A3C ਜ\u0A3C   ਫ\u0A3C"⟩, ⟨0xB5C, "ଡ\u0B3C ଢ\u0B3C"⟩, ⟨0xE33, "\u0E4Dา"⟩,
   ⟨0xEB3, "\u0ECDາ"⟩, ⟨0xEDC, "ຫນ ຫມ"⟩, ⟨0xF0C, "་"⟩, ⟨0xF43, "ག\u0FB7"⟩,
   ⟨0xF4D, "ཌ\u0FB7     ད\u0FB7     བ\u0FB7     ཛ\u0FB7"⟩, ⟨0xF69, "ཀ\u0FB5"⟩,
   ⟨0xF73, "\u0F71\u0F72  \u0F71\u0F74 \u0FB2\u0F80 \u0FB2\u0F71\u0F80 \u0FB3\u0F80"⟩,
   ⟨0xF79, "\u0FB3\u0F71\u0F80"⟩, ⟨0xF81, "\u0F71\u0F80"⟩, ⟨0xF93, "\u0F92\u0FB7"⟩,
   ⟨0xF9D, "\u0F9C\u0FB7     \u0FA1\u0FB7     \u0FA6\u0FB7     \u0FAB\u0FB7"⟩,
   ⟨0xFB9, "\u0F90\u0FB5"⟩, ⟨0x10FC, "ნ"⟩, ⟨0x13F8, "Ᏸ Ᏹ Ᏺ Ᏻ Ᏼ Ᏽ"⟩, ⟨0x1C80, "в д о с т т ъ ѣ ꙋ"⟩,
   ⟨0x1D2C, "a æ b  d e ǝ g h i j k l m n  o ȣ p r t u w a ɐ ɑ ᴂ b d e ə ɛ ɜ g  k m ŋ o ɔ ᴖ ᴗ p"⟩,
   ⟨0x1D57, "t u ᴝ ɯ v ᴥ β γ δ φ χ i r u v β γ ρ φ χ"⟩, ⟨0x1D78, "н"⟩,
   ⟨0x1D9B, "ɒ c ɕ ð ɜ f ɟ ɡ ɥ ɨ ɩ ɪ ᵻ ʝ ɭ ᶅ ʟ ɱ ɰ ɲ ɳ ɴ ɵ ɸ ʂ ʃ ƫ ʉ ʊ ᴜ ʋ ʌ z ʐ ʑ ʒ θ"⟩,
   ⟨0x1E9A, "aʾ ṡ"⟩,
   ⟨0x1F71, "ά  έ  ή  ί  ό  ύ  ώ   ἀι ἁι ἂι ἃι ἄι ἅι ἆι ἇι ἀι ἁι ἂι ἃι ἄι ἅι ἆι ἇι ἠι ἡι ἢι ἣι"⟩,
   ⟨0x1F94, "ἤι ἥι ἦι ἧι ἠι ἡι ἢι ἣι ἤι ἥι ἦι ἧι ὠι ὡι ὢι ὣι ὤι ὥι ὦι ὧι"⟩,
   ⟨0x1FB2, "ὰι αι άι   ᾶι ᾰ ᾱ ὰ ά αι  ι    ὴι ηι ήι   ῆι ὲ έ ὴ ή ηι       ΐ"⟩, ⟨0x1FE3, "ΰ"⟩,
   ⟨0x1FEF, "\x60   ὼι ωι ώι   ῶι ὸ ό ὼ ώ ωι"⟩]

/-- The rows of variants from U+2000 to U+2FFF. -/
def variantsBefore3000 : List VariantRow :=
  [⟨0x2011, "‐"⟩, ⟨0x2033, "′′ ′′′  ‵‵ ‵‵‵     !!"⟩, ⟨0x2057, "′′′′"⟩,
   ⟨0x2070, "0 i   4 5 6 7 8 9 + − = ( ) n 0 1 2 3 4 5 6 7 8 9 + − = ( )  a e o x ə h k l m n p"⟩,
   ⟨0x209B, "s t"⟩, ⟨0x20A8, "rs"⟩,
   ⟨0x2102, "c °c    ɛ  °f g h h h h ħ i i l l  n no   p q r r r   sm tel tm  z    z    b c  e e"⟩,
   ⟨0x2131, "f ⅎ m o \u05D0 \u05D1 \u05D2 \u05D3 i  fax π γ γ π ∑     d d e i j       1⁄7 1⁄9"⟩,
   ⟨0x2152, "1⁄10 1⁄3 2⁄3 1⁄5 2⁄5 3⁄5 4⁄5 1⁄6 5⁄6 1⁄8 3⁄8 5⁄8 7⁄8 1⁄ i ii iii iv v vi vii viii"⟩,
   ⟨0x2168, "ix x xi xii l c d m i ii iii iv v vi vii viii ix x xi xii l c d m"⟩, ⟨0x2189, "0⁄3"⟩,
   ⟨0x222C, "∫∫ ∫∫∫  ∮∮ ∮∮∮"⟩, ⟨0x2329, "〈 〉"⟩,
   ⟨0x2460, "1 2 3 4 5 6 7 8 9 10 11 12 13 14 15 16 17 18 19 20 (1) (2) (3) (4) (5) (6) (7) (8)"⟩,
   ⟨0x247C, "(9) (10) (11) (12) (13) (14) (15) (16) (17) (18) (19) (20)"⟩,
   ⟨0x249C, "(a) (b) (c) (d) (e) (f) (g) (h) (i) (j) (k) (l) (m) (n) (o) (p) (q) (r) (s) (t) (u)"⟩,
   ⟨0x24B1, "(v) (w) (x) (y) (z) a b c d e f g h i j k l m n o p q r s t u v w x y z a b c d e f"⟩,
   ⟨0x24D6, "g h i j k l m n o p q r s t u v w x y z 0"⟩, ⟨0x2A0C, "∫∫∫∫"⟩, ⟨0x2A75, "== ==="⟩,
   ⟨0x2ADC, "⫝\u0338"⟩, ⟨0x2C7C, "j v"⟩, ⟨0x2D6F, "ⵡ"⟩, ⟨0x2E9F, "母"⟩, ⟨0x2EF3, "龟"⟩,
   ⟨0x2F00, "一 丨 丶 丿 乙 亅 二 亠 人 儿 入 八 冂 冖 冫 几 凵 刀 力 勹 匕 匚 匸 十 卜 卩 厂 厶 又 口 囗 土 士 夂 夊 夕 大 女 子 宀 寸 小"⟩,
   ⟨0x2F2A, "尢 尸 屮 山 巛 工 己 巾 干 幺 广 廴 廾 弋 弓 彐 彡 彳 心 戈 戶 手 支 攴 文 斗 斤 方 无 日 曰 月 木 欠 止 歹 殳 毋 比 毛 氏 气"⟩,
   ⟨0x2F54, "水 火 爪 父 爻 爿 片 牙 牛 犬 玄 玉 瓜 瓦 甘 生 用 田 疋 疒 癶 白 皮 皿 目 矛 矢 石 示 禸 禾 穴 立 竹 米 糸 缶 网 羊 羽 老 而"⟩,
   ⟨0x2F7E, "耒 耳 聿 肉 臣 自 至 臼 舌 舛 舟 艮 色 艸 虍 虫 血 行 衣 襾 見 角 言 谷 豆 豕 豸 貝 赤 走 足 身 車 辛 辰 辵 邑 酉 釆 里 金 長"⟩,
   ⟨0x2FA8, "門 阜 隶 隹 雨 靑 非 面 革 韋 韭 音 頁 風 飛 食 首 香 馬 骨 高 髟 鬥 鬯 鬲 鬼 魚 鳥 鹵 鹿 麥 麻 黃 黍 黑 黹 黽 鼎 鼓 鼠 鼻 齊"⟩,
   ⟨0x2FD2, "齒 龍 龜 龠"⟩]

/-- The rows of variants from U+3000 to U+F8FF. -/
def variantsBeforeF900 : List VariantRow :=
  [⟨0x3002, "."⟩, ⟨0x3036, "〒  十 卄 卅"⟩, ⟨0x309F, "より"⟩, ⟨0x30FF, "コト"⟩,
   ⟨0x3131, "ᄀ ᄁ ᆪ ᄂ ᆬ ᆭ ᄃ ᄄ ᄅ ᆰ ᆱ ᆲ ᆳ ᆴ ᆵ ᄚ ᄆ ᄇ ᄈ ᄡ ᄉ ᄊ ᄋ ᄌ ᄍ ᄎ ᄏ ᄐ ᄑ ᄒ ᅡ ᅢ ᅣ ᅤ ᅥ ᅦ ᅧ ᅨ ᅩ ᅪ ᅫ ᅬ"⟩,
   ⟨0x315B, "ᅭ ᅮ ᅯ ᅰ ᅱ ᅲ ᅳ ᅴ ᅵ  ᄔ ᄕ ᇇ ᇈ ᇌ ᇎ ᇓ ᇗ ᇙ ᄜ ᇝ ᇟ ᄝ ᄞ ᄠ ᄢ ᄣ ᄧ ᄩ ᄫ ᄬ ᄭ ᄮ ᄯ ᄲ ᄶ ᅀ ᅇ ᅌ ᇱ ᇲ ᅗ"⟩,
   ⟨0x3185, "ᅘ ᅙ ᆄ ᆅ ᆈ ᆑ ᆒ ᆔ ᆞ ᆡ    一 二 三 四 上 中 下 甲 乙 丙 丁 天 地 人"⟩,
   ⟨0x3200, "(ᄀ) (ᄂ) (ᄃ) (ᄅ) (ᄆ) (ᄇ) (ᄉ) (ᄋ) (ᄌ) (ᄎ) (ᄏ) (ᄐ) (ᄑ) (ᄒ) (가) (나) (다) (라) (마) (바) (사)"⟩,
   ⟨0x3215, "(아) (자) (차) (카) (타) (파) (하) (주) (오전) (오후)  (一) (二) (三) (四) (五) (六) (七) (八) (九) (十)"⟩,
   ⟨0x322A, "(月) (火) (水) (木) (金) (土) (日) (株) (有) (社) (名) (特) (財) (祝) (労) (代) (呼) (学) (監) (企) (資)"⟩,
   ⟨0x323F, "(協) (祭) (休) (自) (至) 問 幼 文 箏"⟩,
   ⟨0x3250, "pte 21 22 23 24 25 26 27 28 29 30 31 32 33 34 35 ᄀ ᄂ ᄃ ᄅ ᄆ ᄇ ᄉ ᄋ ᄌ ᄎ ᄏ ᄐ ᄑ ᄒ 가 나 다"⟩,
   ⟨0x3271, "라 마 바 사 아 자 차 카 타 파 하 참고 주의 우  一 二 三 四 五 六 七 八 九 十 月 火 水 木 金 土 日 株 有 社 名 特 財 祝 労 秘"⟩,
   ⟨0x329A, "男 女 適 優 印 注 項 休 写 正 上 中 下 左 右 医 宗 学 監 企 資 協 夜 36 37 38 39 40 41 42 43 44 45 46 47"⟩,
   ⟨0x32BD, "48 49 50 1月 2月 3月 4月 5月 6月 7月 8月 9月 10月 11月 12月 hg erg ev ltd ア イ ウ エ オ カ キ ク ケ コ サ"⟩,
   ⟨0x32DB, "シ ス セ ソ タ チ ツ テ ト ナ ニ ヌ ネ ノ ハ ヒ フ ヘ ホ マ ミ ム メ モ ヤ ユ ヨ ラ リ ル レ ロ ワ ヰ ヱ ヲ 令和 アパート"⟩,
   ⟨0x3301, "アルファ アンペア アール イニング インチ ウォン エスクード エーカー オンス オーム カイリ カラット カロリー ガロン ガンマ ギガ ギニー キュリー"⟩,
   ⟨0x3313, "ギルダー キロ キログラム キロメートル キロワット グラム グラムトン クルゼイロ クローネ ケース コルナ コーポ サイクル サンチーム シリング センチ セント"⟩,
   ⟨0x3324, "ダース デシ ドル トン ナノ ノット ハイツ パーセント パーツ バーレル ピアストル ピクル ピコ ビル ファラッド フィート ブッシェル フラン ヘクタール"⟩,
   ⟨0x3337, "ペソ ペニヒ ヘルツ ペンス ページ ベータ ポイント ボルト ホン ポンド ホール ホーン マイクロ マイル マッハ マルク マンション ミクロン ミリ ミリバール"⟩,
   ⟨0x334B, "メガ メガトン メートル ヤード ヤール ユアン リットル リラ ルピー ルーブル レム レントゲン ワット 0点 1点 2点 3点 4点 5点 6点 7点 8点"⟩,
   ⟨0x3361, "9点 10点 11点 12点 13点 14点 15点 16点 17点 18点 19点 20点 21点 22点 23点 24点 hpa da au bar ov pc"⟩,
   ⟨0x3377, "dm dm2 dm3 iu 平成 昭和 大正 明治 株式会社 pa na μa ma ka kb mb gb cal kcal pf nf μf μg mg kg"⟩,
   ⟨0x3390, "hz khz mhz ghz thz μl ml dl kl fm nm μm mm cm km mm2 cm2 m2 km2 mm3 cm3 m3 km3 m∕s"⟩,
   ⟨0x33A8, "m∕s2 pa kpa mpa gpa rad rad∕s rad∕s2 ps ns μs ms pv nv μv mv kv mv pw nw μw mw kw"⟩,
   ⟨0x33BF, "mw kω mω  bq cc cd c∕kg  db gy ha hp in kk km kt lm ln log lx mb mil mol ph  ppm pr"⟩,
   ⟨0x33DB, "sr sv wb v∕m a∕m 1日 2日 3日 4日 5日 6日 7日 8日 9日 10日 11日 12日 13日 14日 15日 16日 17日 18日 19日"⟩,
   ⟨0x33F3, "20日 21日 22日 23日 24日 25日 26日 27日 28日 29日 30日 31日 gal"⟩, ⟨0xA69C, "ъ ь"⟩, ⟨0xA770, "ꝯ"⟩,
   ⟨0xA7F1, "s c f q    ħ œ"⟩, ⟨0xAB5C, "ꜧ ꬷ ɫ ꭒ"⟩,
   ⟨0xAB69, "ʍ       Ꭰ Ꭱ Ꭲ Ꭳ Ꭴ Ꭵ Ꭶ Ꭷ Ꭸ Ꭹ Ꭺ Ꭻ Ꭼ Ꭽ Ꭾ Ꭿ Ꮀ Ꮁ Ꮂ Ꮃ Ꮄ Ꮅ Ꮆ Ꮇ Ꮈ Ꮉ Ꮊ Ꮋ Ꮌ Ꮍ Ꮎ Ꮏ Ꮐ Ꮑ Ꮒ Ꮓ Ꮔ Ꮕ"⟩,
   ⟨0xAB96, "Ꮖ Ꮗ Ꮘ Ꮙ Ꮚ Ꮛ Ꮜ Ꮝ Ꮞ Ꮟ Ꮠ Ꮡ Ꮢ Ꮣ Ꮤ Ꮥ Ꮦ Ꮧ Ꮨ Ꮩ Ꮪ Ꮫ Ꮬ Ꮭ Ꮮ Ꮯ Ꮰ Ꮱ Ꮲ Ꮳ Ꮴ Ꮵ Ꮶ Ꮷ Ꮸ Ꮹ Ꮺ Ꮻ Ꮼ Ꮽ Ꮾ Ꮿ"⟩]

/-- The rows of variants from U+F900 to U+FFFF. -/
def variantsBefore10000 : List VariantRow :=
  [⟨0xF900, "豈 更 車 賈 滑 串 句 龜 龜 契 金 喇 奈 懶 癩 羅 蘿 螺 裸 邏 樂 洛 烙 珞 落 酪 駱 亂 卵 欄 爛 蘭 鸞 嵐 濫 藍 襤 拉 臘 蠟 廊 朗"⟩,
   ⟨0xF92A, "浪 狼 郎 來 冷 勞 擄 櫓 爐 盧 老 蘆 虜 路 露 魯 鷺 碌 祿 綠 菉 錄 鹿 論 壟 弄 籠 聾 牢 磊 賂 雷 壘 屢 樓 淚 漏 累 縷 陋 勒 肋"⟩,
   ⟨0xF954, "凜 凌 稜 綾 菱 陵 讀 拏 樂 諾 丹 寧 怒 率 異 北 磻 便 復 不 泌 數 索 參 塞 省 葉 說 殺 辰 沈 拾 若 掠 略 亮 兩 凉 梁 糧 良 諒"⟩,
   ⟨0xF97E, "量 勵 呂 女 廬 旅 濾 礪 閭 驪 麗 黎 力 曆 歷 轢 年 憐 戀 撚 漣 煉 璉 秊 練 聯 輦 蓮 連 鍊 列 劣 咽 烈 裂 說 廉 念 捻 殮 簾 獵"⟩,
   ⟨0xF9A8, "令 囹 寧 嶺 怜 玲 瑩 羚 聆 鈴 零 靈 領 例 禮 醴 隸 惡 了 僚 寮 尿 料 樂 燎 療 蓼 遼 龍 暈 阮 劉 杻 柳 流 溜 琉 留 硫 紐 類 六"⟩,
   ⟨0xF9D2, "戮 陸 倫 崙 淪 輪 律 慄 栗 率 隆 利 吏 履 易 李 梨 泥 理 痢 罹 裏 裡 里 離 匿 溺 吝 燐 璘 藺 隣 鱗 麟 林 淋 臨 立 笠 粒 狀 炙"⟩,
   ⟨0xF9FC, "識 什 茶 刺 切 度 拓 糖 宅 洞 暴 輻 行 降 見 廓 兀 嗀   塚  晴   凞 猪 益 礼 神 祥 福 靖 精 羽  蘒  諸   逸 都    飯 飼"⟩,
   ⟨0xFA2C, "館 鶴 郞 隷 侮 僧 免 勉 勤 卑 喝 嘆 器 塀 墨 層 屮 悔 慨 憎 懲 敏 既 暑 梅 海 渚 漢 煮 爫 琢 碑 社 祉 祈 祐 祖 祝 禍 禎 穀 突"⟩,
   ⟨0xFA56, "節 練 縉 繁 署 者 臭 艹 艹 著 褐 視 謁 謹 賓 贈 辶 逸 難 響 頻 恵 𤋮 舘   並 况 全 侀 充 冀 勇 勺 喝 啕 喙 嗢 塚 墳 奄 奔 婢"⟩,
   ⟨0xFA81, "嬨 廒 廙 彩 徭 惘 慎 愈 憎 慠 懲 戴 揄 搜 摒 敖 晴 朗 望 杖 歹 殺 流 滛 滋 漢 瀞 煮 瞧 爵 犯 猪 瑱 甆 画 瘝 瘟 益 盛 直 睊 着"⟩,
   ⟨0xFAAB, "磌 窱 節 类 絛 練 缾 者 荒 華 蝹 襁 覆 視 調 諸 請 謁 諾 諭 謹 變 贈 輸 遲 醙 鉶 陼 難 靖 韛 響 頋 頻 鬒 龜 𢡊 𢡄 𣏕 㮝 䀘 䀹"⟩,
   ⟨0xFAD5, "𥉉 𥳐 𧻓 齃 龎"⟩, ⟨0xFB00, "ff fi fl ffi ffl st st"⟩,
   ⟨0xFB13, "մն մե մի վն մխ      \u05D9\u05B4  \u05F2\u05B7 \u05E2 \u05D0 \u05D3 \u05D4 \u05DB"⟩,
   ⟨0xFB25, "\u05DC \u05DD \u05E8 \u05EA + \u05E9\u05C1 \u05E9\u05C2 \u05E9\u05BC\u05C1"⟩,
   ⟨0xFB2D, "\u05E9\u05BC\u05C2 \u05D0\u05B7 \u05D0\u05B8 \u05D0\u05BC \u05D1\u05BC \u05D2\u05BC"⟩,
   ⟨0xFB33, "\u05D3\u05BC \u05D4\u05BC \u05D5\u05BC \u05D6\u05BC  \u05D8\u05BC \u05D9\u05BC"⟩,
   ⟨0xFB3A, "\u05DA\u05BC \u05DB\u05BC \u05DC\u05BC  \u05DE\u05BC  \u05E0\u05BC \u05E1\u05BC"⟩,
   ⟨0xFB43, "\u05E3\u05BC \u05E4\u05BC  \u05E6\u05BC \u05E7\u05BC \u05E8\u05BC \u05E9\u05BC"⟩,
   ⟨0xFB4A, "\u05EA\u05BC \u05D5\u05B9 \u05D1\u05BF \u05DB\u05BF \u05E4\u05BF \u05D0\u05DC"⟩,
   ⟨0xFB50, "\u0671 \u0671 \u067B \u067B \u067B \u067B \u067E \u067E \u067E \u067E \u0680 \u0680"⟩,
   ⟨0xFB5C, "\u0680 \u0680 \u067A \u067A \u067A \u067A \u067F \u067F \u067F \u067F \u0679 \u0679"⟩,
   ⟨0xFB68, "\u0679 \u0679 \u06A4 \u06A4 \u06A4 \u06A4 \u06A6 \u06A6 \u06A6 \u06A6 \u0684 \u0684"⟩,
   ⟨0xFB74, "\u0684 \u0684 \u0683 \u0683 \u0683 \u0683 \u0686 \u0686 \u0686 \u0686 \u0687 \u0687"⟩,
   ⟨0xFB80, "\u0687 \u0687 \u068D \u068D \u068C \u068C \u068E \u068E \u0688 \u0688 \u0698 \u0698"⟩,
   ⟨0xFB8C, "\u0691 \u0691 \u06A9 \u06A9 \u06A9 \u06A9 \u06AF \u06AF \u06AF \u06AF \u06B3 \u06B3"⟩,
   ⟨0xFB98, "\u06B3 \u06B3 \u06B1 \u06B1 \u06B1 \u06B1 \u06BA \u06BA \u06BB \u06BB \u06BB \u06BB"⟩,
   ⟨0xFBA4, "\u06C0 \u06C0 \u06C1 \u06C1 \u06C1 \u06C1 \u06BE \u06BE \u06BE \u06BE \u06D2 \u06D2"⟩,
   ⟨0xFBB0, "\u06D3 \u06D3"⟩,
   ⟨0xFBD3, "\u06AD \u06AD \u06AD \u06AD \u06C7 \u06C7 \u06C6 \u06C6 \u06C8 \u06C8 \u06C7\u0674"⟩,
   ⟨0xFBDE, "\u06CB \u06CB \u06C5 \u06C5 \u06C9 \u06C9 \u06D0 \u06D0 \u06D0 \u06D0 \u0649 \u0649"⟩,
   ⟨0xFBEA, "\u0626\u0627 \u0626\u0627 \u0626\u06D5 \u0626\u06D5 \u0626\u0648 \u0626\u0648"⟩,
   ⟨0xFBF0, "\u0626\u06C7 \u0626\u06C7 \u0626\u06C6 \u0626\u06C6 \u0626\u06C8 \u0626\u06C8"⟩,
   ⟨0xFBF6, "\u0626\u06D0 \u0626\u06D0 \u0626\u06D0 \u0626\u0649 \u0626\u0649 \u0626\u0649"⟩,
   ⟨0xFBFC, "\u06CC \u06CC \u06CC \u06CC \u0626\u062C \u0626\u062D \u0626\u0645 \u0626\u0649"⟩,
   ⟨0xFC04, "\u0626\u064A \u0628\u062C \u0628\u062D \u0628\u062E \u0628\u0645 \u0628\u0649"⟩,
   ⟨0xFC0A, "\u0628\u064A \u062A\u062C \u062A\u062D \u062A\u062E \u062A\u0645 \u062A\u0649"⟩,
   ⟨0xFC10, "\u062A\u064A \u062B\u062C \u062B\u0645 \u062B\u0649 \u062B\u064A \u062C\u062D"⟩,
   ⟨0xFC16, "\u062C\u0645 \u062D\u062C \u062D\u0645 \u062E\u062C \u062E\u062D \u062E\u0645"⟩,
   ⟨0xFC1C, "\u0633\u062C \u0633\u062D \u0633\u062E \u0633\u0645 \u0635\u062D \u0635\u0645"⟩,
   ⟨0xFC22, "\u0636\u062C \u0636\u062D \u0636\u062E \u0636\u0645 \u0637\u062D \u0637\u0645"⟩,
   ⟨0xFC28, "\u0638\u0645 \u0639\u062C \u0639\u0645 \u063A\u062C \u063A\u0645 \u0641\u062C"⟩,
   ⟨0xFC2E, "\u0641\u062D \u0641\u062E \u0641\u0645 \u0641\u0649 \u0641\u064A \u0642\u062D"⟩,
   ⟨0xFC34, "\u0642\u0645 \u0642\u0649 \u0642\u064A \u0643\u0627 \u0643\u062C \u0643\u062D"⟩,
   ⟨0xFC3A, "\u0643\u062E \u0643\u0644 \u0643\u0645 \u0643\u0649 \u0643\u064A \u0644\u062C"⟩,
   ⟨0xFC40, "\u0644\u062D \u0644\u062E \u0644\u0645 \u0644\u0649 \u0644\u064A \u0645\u062C"⟩,
   ⟨0xFC46, "\u0645\u062D \u0645\u062E \u0645\u0645 \u0645\u0649 \u0645\u064A \u0646\u062C"⟩,
   ⟨0xFC4C, "\u0646\u062D \u0646\u062E \u0646\u0645 \u0646\u0649 \u0646\u064A \u0647\u062C"⟩,
   ⟨0xFC52, "\u0647\u0645 \u0647\u0649 \u0647\u064A \u064A\u062C \u064A\u062D \u064A\u062E"⟩,
   ⟨0xFC58, "\u064A\u0645 \u064A\u0649 \u064A\u064A \u0630\u0670 \u0631\u0670 \u0649\u0670"⟩,
   ⟨0xFC64, "\u0626\u0631 \u0626\u0632 \u0626\u0645 \u0626\u0646 \u0626\u0649 \u0626\u064A"⟩,
   ⟨0xFC6A, "\u0628\u0631 \u0628\u0632 \u0628\u0645 \u0628\u0646 \u0628\u0649 \u0628\u064A"⟩,
   ⟨0xFC70, "\u062A\u0631 \u062A\u0632 \u062A\u0645 \u062A\u0646 \u062A\u0649 \u062A\u064A"⟩,
   ⟨0xFC76, "\u062B\u0631 \u062B\u0632 \u062B\u0645 \u062B\u0646 \u062B\u0649 \u062B\u064A"⟩,
   ⟨0xFC7C, "\u0641\u0649 \u0641\u064A \u0642\u0649 \u0642\u064A \u0643\u0627 \u0643\u0644"⟩,
   ⟨0xFC82, "\u0643\u0645 \u0643\u0649 \u0643\u064A \u0644\u0645 \u0644\u0649 \u0644\u064A"⟩,
   ⟨0xFC88, "\u0645\u0627 \u0645\u0645 \u0646\u0631 \u0646\u0632 \u0646\u0645 \u0646\u0646"⟩,
   ⟨0xFC8E, "\u0646\u0649 \u0646\u064A \u0649\u0670 \u064A\u0631 \u064A\u0632 \u064A\u0645"⟩,
   ⟨0xFC94, "\u064A\u0646 \u064A\u0649 \u064A\u064A \u0626\u062C \u0626\u062D \u0626\u062E"⟩,
   ⟨0xFC9A, "\u0626\u0645 \u0626\u0647 \u0628\u062C \u0628\u062D \u0628\u062E \u0628\u0645"⟩,
   ⟨0xFCA0, "\u0628\u0647 \u062A\u062C \u062A\u062D \u062A\u062E \u062A\u0645 \u062A\u0647"⟩,
   ⟨0xFCA6, "\u062B\u0645 \u062C\u062D \u062C\u0645 \u062D\u062C \u062D\u0645 \u062E\u062C"⟩,
   ⟨0xFCAC, "\u062E\u0645 \u0633\u062C \u0633\u062D \u0633\u062E \u0633\u0645 \u0635\u062D"⟩,
   ⟨0xFCB2, "\u0635\u062E \u0635\u0645 \u0636\u062C \u0636\u062D \u0636\u062E \u0636\u0645"⟩,
   ⟨0xFCB8, "\u0637\u062D \u0638\u0645 \u0639\u062C \u0639\u0645 \u063A\u062C \u063A\u0645"⟩,
   ⟨0xFCBE, "\u0641\u062C \u0641\u062D \u0641\u062E \u0641\u0645 \u0642\u062D \u0642\u0645"⟩,
   ⟨0xFCC4, "\u0643\u062C \u0643\u062D \u0643\u062E \u0643\u0644 \u0643\u0645 \u0644\u062C"⟩,
   ⟨0xFCCA, "\u0644\u062D \u0644\u062E \u0644\u0645 \u0644\u0647 \u0645\u062C \u0645\u062D"⟩,
   ⟨0xFCD0, "\u0645\u062E \u0645\u0645 \u0646\u062C \u0646\u062D \u0646\u062E \u0646\u0645"⟩,
   ⟨0xFCD6, "\u0646\u0647 \u0647\u062C \u0647\u0645 \u0647\u0670 \u064A\u062C \u064A\u062D"⟩,
   ⟨0xFCDC, "\u064A\u062E \u064A\u0645 \u064A\u0647 \u0626\u0645 \u0626\u0647 \u0628\u0645"⟩,
   ⟨0xFCE2, "\u0628\u0647 \u062A\u0645 \u062A\u0647 \u062B\u0645 \u062B\u0647 \u0633\u0645"⟩,
   ⟨0xFCE8, "\u0633\u0647 \u0634\u0645 \u0634\u0647 \u0643\u0644 \u0643\u0645 \u0644\u0645"⟩,
   ⟨0xFCEE, "\u0646\u0645 \u0646\u0647 \u064A\u0645 \u064A\u0647 \u0640\u064E\u0651"⟩,
   ⟨0xFCF3, "\u0640\u064F\u0651 \u0640\u0650\u0651 \u0637\u0649 \u0637\u064A \u0639\u0649"⟩,
   ⟨0xFCF8, "\u0639\u064A \u063A\u0649 \u063A\u064A \u0633\u0649 \u0633\u064A \u0634\u0649"⟩,
   ⟨0xFCFE, "\u0634\u064A \u062D\u0649 \u062D\u064A \u062C\u0649 \u062C\u064A \u062E\u0649"⟩,
   ⟨0xFD04, "\u062E\u064A \u0635\u0649 \u0635\u064A \u0636\u0649 \u0636\u064A \u0634\u062C"⟩,
   ⟨0xFD0A, "\u0634\u062D \u0634\u062E \u0634\u0645 \u0634\u0631 \u0633\u0631 \u0635\u0631"⟩,
   ⟨0xFD10, "\u0636\u0631 \u0637\u0649 \u0637\u064A \u0639\u0649 \u0639\u064A \u063A\u0649"⟩,
   ⟨0xFD16, "\u063A\u064A \u0633\u0649 \u0633\u064A \u0634\u0649 \u0634\u064A \u062D\u0649"⟩,
   ⟨0xFD1C, "\u062D\u064A \u062C\u0649 \u062C\u064A \u062E\u0649 \u062E\u064A \u0635\u0649"⟩,
   ⟨0xFD22, "\u0635\u064A \u0636\u0649 \u0636\u064A \u0634\u062C \u0634\u062D \u0634\u062E"⟩,
   ⟨0xFD28, "\u0634\u0645 \u0634\u0631 \u0633\u0631 \u0635\u0631 \u0636\u0631 \u0634\u062C"⟩,
   ⟨0xFD2E, "\u0634\u062D \u0634\u062E \u0634\u0645 \u0633\u0647 \u0634\u0647 \u0637\u0645"⟩,
   ⟨0xFD34, "\u0633\u062C \u0633\u062D \u0633\u062E \u0634\u062C \u0634\u062D \u0634\u062E"⟩,
   ⟨0xFD3A, "\u0637\u0645 \u0638\u0645 \u0627\u064B \u0627\u064B"⟩,
   ⟨0xFD50, "\u062A\u062C\u0645 \u062A\u062D\u062C \u062A\u062D\u062C \u062A\u062D\u0645"⟩,
   ⟨0xFD54, "\u062A\u062E\u0645 \u062A\u0645\u062C \u062A\u0645\u062D \u062A\u0645\u062E"⟩,
   ⟨0xFD58, "\u062C\u0645\u062D \u062C\u0645\u062D \u062D\u0645\u064A \u062D\u0645\u0649"⟩,
   ⟨0xFD5C, "\u0633\u062D\u062C \u0633\u062C\u062D \u0633\u062C\u0649 \u0633\u0645\u062D"⟩,
   ⟨0xFD60, "\u0633\u0645\u062D \u0633\u0645\u062C \u0633\u0645\u0645 \u0633\u0645\u0645"⟩,
   ⟨0xFD64, "\u0635\u062D\u062D \u0635\u062D\u062D \u0635\u0645\u0645 \u0634\u062D\u0645"⟩,
   ⟨0xFD68, "\u0634\u062D\u0645 \u0634\u062C\u064A \u0634\u0645\u062E \u0634\u0645\u062E"⟩,
   ⟨0xFD6C, "\u0634\u0645\u0645 \u0634\u0645\u0645 \u0636\u062D\u0649 \u0636\u062E\u0645"⟩,
   ⟨0xFD70, "\u0636\u062E\u0645 \u0637\u0645\u062D \u0637\u0645\u062D \u0637\u0645\u0645"⟩,
   ⟨0xFD74, "\u0637\u0645\u064A \u0639\u062C\u0645 \u0639\u0645\u0645 \u0639\u0645\u0645"⟩,
   ⟨0xFD78, "\u0639\u0645\u0649 \u063A\u0645\u0645 \u063A\u0645\u064A \u063A\u0645\u0649"⟩,
   ⟨0xFD7C, "\u0641\u062E\u0645 \u0641\u062E\u0645 \u0642\u0645\u062D \u0642\u0645\u0645"⟩,
   ⟨0xFD80, "\u0644\u062D\u0645 \u0644\u062D\u064A \u0644\u062D\u0649 \u0644\u062C\u062C"⟩,
   ⟨0xFD84, "\u0644\u062C\u062C \u0644\u062E\u0645 \u0644\u062E\u0645 \u0644\u0645\u062D"⟩,
   ⟨0xFD88, "\u0644\u0645\u062D \u0645\u062D\u062C \u0645\u062D\u0645 \u0645\u062D\u064A"⟩,
   ⟨0xFD8C, "\u0645\u062C\u062D \u0645\u062C\u0645 \u0645\u062E\u062C \u0645\u062E\u0645"⟩,
   ⟨0xFD92, "\u0645\u062C\u062E \u0647\u0645\u062C \u0647\u0645\u0645 \u0646\u062D\u0645"⟩,
   ⟨0xFD96, "\u0646\u062D\u0649 \u0646\u062C\u0645 \u0646\u062C\u0645 \u0646\u062C\u0649"⟩,
   ⟨0xFD9A, "\u0646\u0645\u064A \u0646\u0645\u0649 \u064A\u0645\u0645 \u064A\u0645\u0645"⟩,
   ⟨0xFD9E, "\u0628\u062E\u064A \u062A\u062C\u064A \u062A\u062C\u0649 \u062A\u062E\u064A"⟩,
   ⟨0xFDA2, "\u062A\u062E\u0649 \u062A\u0645\u064A \u062A\u0645\u0649 \u062C\u0645\u064A"⟩,
   ⟨0xFDA6, "\u062C\u062D\u0649 \u062C\u0645\u0649 \u0633\u062E\u0649 \u0635\u062D\u064A"⟩,
   ⟨0xFDAA, "\u0634\u062D\u064A \u0636\u062D\u064A \u0644\u062C\u064A \u0644\u0645\u064A"⟩,
   ⟨0xFDAE, "\u064A\u062D\u064A \u064A\u062C\u064A \u064A\u0645\u064A \u0645\u0645\u064A"⟩,
   ⟨0xFDB2, "\u0642\u0645\u064A \u0646\u062D\u064A \u0642\u0645\u062D \u0644\u062D\u0645"⟩,
   ⟨0xFDB6, "\u0639\u0645\u064A \u0643\u0645\u064A \u0646\u062C\u062D \u0645\u062E\u064A"⟩,
   ⟨0xFDBA, "\u0644\u062C\u0645 \u0643\u0645\u0645 \u0644\u062C\u0645 \u0646\u062C\u062D"⟩,
   ⟨0xFDBE, "\u062C\u062D\u064A \u062D\u062C\u064A \u0645\u062C\u064A \u0641\u0645\u064A"⟩,
   ⟨0xFDC2, "\u0628\u062D\u064A \u0643\u0645\u0645 \u0639\u062C\u0645 \u0635\u0645\u0645"⟩,
   ⟨0xFDC6, "\u0633\u062E\u064A \u0646\u062C\u064A"⟩,
   ⟨0xFDF0, "\u0635\u0644\u06D2 \u0642\u0644\u06D2 \u0627\u0644\u0644\u0647"⟩,
   ⟨0xFDF3, "\u0627\u0643\u0628\u0631 \u0645\u062D\u0645\u062F \u0635\u0644\u0639\u0645"⟩,
   ⟨0xFDF6, "\u0631\u0633\u0648\u0644 \u0639\u0644\u064A\u0647 \u0648\u0633\u0644\u0645"⟩,
   ⟨0xFDF9, "\u0635\u0644\u0649   \u0631\u06CC\u0627\u0644"⟩, ⟨0xFE10, ", 、   ; !  〖 〗"⟩,
   ⟨0xFE31, "— – _ _ ( ) \x7b \x7d 〔 〕 【 】 《 》 〈 〉 「 」 『 』"⟩,
   ⟨0xFE4D, "_ _ _ , 、   ;   ! — ( ) \x7b \x7d 〔 〕  & * + -   =   $"⟩,
   ⟨0xFE71, "\u0640\u064B      \u0640\u064E  \u0640\u064F  \u0640\u0650  \u0640\u0651"⟩,
   ⟨0xFE7F, "\u0640\u0652 \u0621 \u0622 \u0622 \u0623 \u0623 \u0624 \u0624 \u0625 \u0625 \u0626"⟩,
   ⟨0xFE8A, "\u0626 \u0626 \u0626 \u0627 \u0627 \u0628 \u0628 \u0628 \u0628 \u0629 \u0629 \u062A"⟩,
   ⟨0xFE96, "\u062A \u062A \u062A \u062B \u062B \u062B \u062B \u062C \u062C \u062C \u062C \u062D"⟩,
   ⟨0xFEA2, "\u062D \u062D \u062D \u062E \u062E \u062E \u062E \u062F \u062F \u0630 \u0630 \u0631"⟩,
   ⟨0xFEAE, "\u0631 \u0632 \u0632 \u0633 \u0633 \u0633 \u0633 \u0634 \u0634 \u0634 \u0634 \u0635"⟩,
   ⟨0xFEBA, "\u0635 \u0635 \u0635 \u0636 \u0636 \u0636 \u0636 \u0637 \u0637 \u0637 \u0637 \u0638"⟩,
   ⟨0xFEC6, "\u0638 \u0638 \u0638 \u0639 \u0639 \u0639 \u0639 \u063A \u063A \u063A \u063A \u0641"⟩,
   ⟨0xFED2, "\u0641 \u0641 \u0641 \u0642 \u0642 \u0642 \u0642 \u0643 \u0643 \u0643 \u0643 \u0644"⟩,
   ⟨0xFEDE, "\u0644 \u0644 \u0644 \u0645 \u0645 \u0645 \u0645 \u0646 \u0646 \u0646 \u0646 \u0647"⟩,
   ⟨0xFEEA, "\u0647 \u0647 \u0647 \u0648 \u0648 \u0649 \u0649 \u064A \u064A \u064A \u064A"⟩,
   ⟨0xFEF5, "\u0644\u0622 \u0644\u0622 \u0644\u0623 \u0644\u0623 \u0644\u0625 \u0644\u0625"⟩,
   ⟨0xFEFB, "\u0644\u0627 \u0644\u0627     ! \"  $  & \x27 ( ) * + , - .  0 1 2 3 4 5 6 7 8 9  ;"⟩,
   ⟨0xFF1D, "=    a b c d e f g h i j k l m n o p q r s t u v w x y z     _ \x60 a b c d e f g h"⟩,
   ⟨0xFF49, "i j k l m n o p q r s t u v w x y z \x7b  \x7d ~ ⦅ ⦆ . 「 」 、 ・ ヲ ァ ィ ゥ ェ ォ ャ ュ ョ ッ"⟩,
   ⟨0xFF70, "ー ア イ ウ エ オ カ キ ク ケ コ サ シ ス セ ソ タ チ ツ テ ト ナ ニ ヌ ネ ノ ハ ヒ フ ヘ ホ マ ミ ム メ モ ヤ ユ ヨ ラ リ ル"⟩,
   ⟨0xFF9A, "レ ロ ワ ン \u3099 \u309A  ᄀ ᄁ ᆪ ᄂ ᆬ ᆭ ᄃ ᄄ ᄅ ᆰ ᆱ ᆲ ᆳ ᆴ ᆵ ᄚ ᄆ ᄇ ᄈ ᄡ ᄉ ᄊ ᄋ ᄌ ᄍ ᄎ ᄏ ᄐ ᄑ ᄒ"⟩,
   ⟨0xFFC2, "ᅡ ᅢ ᅣ ᅤ ᅥ ᅦ   ᅧ ᅨ ᅩ ᅪ ᅫ ᅬ   ᅭ ᅮ ᅯ ᅰ ᅱ ᅲ   ᅳ ᅴ ᅵ    ¢ £ ¬  ¦ ¥ ₩  │ ← ↑ → ↓ ■ ○"⟩]

/-- The rows of variants from U+10000 on. -/
def variantsFrom10000 : List VariantRow :=
  [⟨0x10781, "ː ˑ æ ʙ ɓ  ʣ ꭦ ʥ ʤ ɖ ɗ ᶑ ɘ ɞ ʩ ɤ ɢ ɠ ʛ ħ ʜ ɧ ʄ ʪ ʫ ɬ 𝼄 ꞎ ɮ 𝼅 ʎ 𝼆 ø ɶ ɷ q ɺ 𝼈 ɽ ɾ ʀ"⟩,
   ⟨0x107AB, "ʨ ʦ ꭧ ʧ ʈ ⱱ  ʏ ʡ ʢ ʘ ǀ ǁ ǂ 𝼊 𝼞"⟩,
   ⟨0x1CCD6, "a b c d e f g h i j k l m n o p q r s t u v w x y z 0 1 2 3 4 5 6 7 8 9"⟩,
   ⟨0x1D15E, "𝅗𝅥 𝅘𝅥 𝅘𝅥𝅮 𝅘𝅥𝅯 𝅘𝅥𝅰 𝅘𝅥𝅱 𝅘𝅥𝅲"⟩, ⟨0x1D1BB, "𝆹𝅥 𝆺𝅥 𝆹𝅥𝅮 𝆺𝅥𝅮 𝆹𝅥𝅯 𝆺𝅥𝅯"⟩,
   ⟨0x1D400, "a b c d e f g h i j k l m n o p q r s t u v w x y z a b c d e f g h i j k l m n o"⟩,
   ⟨0x1D429, "p q r s t u v w x y z a b c d e f g h i j k l m n o p q r s t u v w x y z a b c d"⟩,
   ⟨0x1D452, "e f g  i j k l m n o p q r s t u v w x y z a b c d e f g h i j k l m n o p q r s t"⟩,
   ⟨0x1D47C, "u v w x y z a b c d e f g h i j k l m n o p q r s t u v w x y z a  c d   g   j k"⟩,
   ⟨0x1D4A9, "n o p q  s t u v w x y z a b c d  f  h i j k l m n  p q r s t u v w x y z a b c d"⟩,
   ⟨0x1D4D4, "e f g h i j k l m n o p q r s t u v w x y z a b c d e f g h i j k l m n o p q r s"⟩,
   ⟨0x1D4FD, "t u v w x y z a b  d e f g   j k l m n o p q  s t u v w x y  a b c d e f g h i j k"⟩,
   ⟨0x1D529, "l m n o p q r s t u v w x y z a b  d e f g  i j k l m  o    s t u v w x y  a b c d"⟩,
   ⟨0x1D556, "e f g h i j k l m n o p q r s t u v w x y z a b c d e f g h i j k l m n o p q r s"⟩,
   ⟨0x1D57F, "t u v w x y z a b c d e f g h i j k l m n o p q r s t u v w x y z a b c d e f g h"⟩,
   ⟨0x1D5A8, "i j k l m n o p q r s t u v w x y z a b c d e f g h i j k l m n o p q r s t u v w"⟩,
   ⟨0x1D5D1, "x y z a b c d e f g h i j k l m n o p q r s t u v w x y z a b c d e f g h i j k l"⟩,
   ⟨0x1D5FA, "m n o p q r s t u v w x y z a b c d e f g h i j k l m n o p q r s t u v w x y z a"⟩,
   ⟨0x1D623, "b c d e f g h i j k l m n o p q r s t u v w x y z a b c d e f g h i j k l m n o p"⟩,
   ⟨0x1D64C, "q r s t u v w x y z a b c d e f g h i j k l m n o p q r s t u v w x y z a b c d e"⟩,
   ⟨0x1D675, "f g h i j k l m n o p q r s t u v w x y z a b c d e f g h i j k l m n o p q r s t"⟩,
   ⟨0x1D69E, "u v w x y z ı ȷ   α β γ δ ε ζ η θ ι κ λ μ ν ξ ο π ρ θ σ τ υ φ χ ψ ω ∇ α β γ δ ε ζ"⟩,
   ⟨0x1D6C8, "η θ ι κ λ μ ν ξ ο π ρ σ σ τ υ φ χ ψ ω ∂ ε θ κ φ ρ π α β γ δ ε ζ η θ ι κ λ μ ν ξ ο"⟩,
   ⟨0x1D6F1, "π ρ θ σ τ υ φ χ ψ ω ∇ α β γ δ ε ζ η θ ι κ λ μ ν ξ ο π ρ σ σ τ υ φ χ ψ ω ∂ ε θ κ φ"⟩,
   ⟨0x1D71A, "ρ π α β γ δ ε ζ η θ ι κ λ μ ν ξ ο π ρ θ σ τ υ φ χ ψ ω ∇ α β γ δ ε ζ η θ ι κ λ μ ν"⟩,
   ⟨0x1D743, "ξ ο π ρ σ σ τ υ φ χ ψ ω ∂ ε θ κ φ ρ π α β γ δ ε ζ η θ ι κ λ μ ν ξ ο π ρ θ σ τ υ φ"⟩,
   ⟨0x1D76C, "χ ψ ω ∇ α β γ δ ε ζ η θ ι κ λ μ ν ξ ο π ρ σ σ τ υ φ χ ψ ω ∂ ε θ κ φ ρ π α β γ δ ε"⟩,
   ⟨0x1D795, "ζ η θ ι κ λ μ ν ξ ο π ρ θ σ τ υ φ χ ψ ω ∇ α β γ δ ε ζ η θ ι κ λ μ ν ξ ο π ρ σ σ τ"⟩,
   ⟨0x1D7BE, "υ φ χ ψ ω ∂ ε θ κ φ ρ π ϝ ϝ   0 1 2 3 4 5 6 7 8 9 0 1 2 3 4 5 6 7 8 9 0 1 2 3 4 5"⟩,
   ⟨0x1D7E8, "6 7 8 9 0 1 2 3 4 5 6 7 8 9 0 1 2 3 4 5 6 7 8 9"⟩,
   ⟨0x1E030, "а б в г д е ж з и к л м о п р с т у ф х ц ч ш ы э ю ꚉ ә і ј ө ү ӏ а б в г д е ж з"⟩,
   ⟨0x1E059, "и к л о п с у ф х ц ч ш ъ ы ґ і ѕ џ ҫ ꙑ ұ"⟩,
   ⟨0x1EE00, "\u0627 \u0628 \u062C \u062F  \u0648 \u0632 \u062D \u0637 \u064A \u0643 \u0644"⟩,
   ⟨0x1EE0C, "\u0645 \u0646 \u0633 \u0639 \u0641 \u0635 \u0642 \u0631 \u0634 \u062A \u062B"⟩,
   ⟨0x1EE17, "\u062E \u0630 \u0636 \u0638 \u063A \u066E \u06BA \u06A1 \u066F  \u0628 \u062C"⟩,
   ⟨0x1EE24, "\u0647   \u062D  \u064A \u0643 \u0644 \u0645 \u0646 \u0633 \u0639 \u0641 \u0635"⟩,
   ⟨0x1EE32, "\u0642  \u0634 \u062A \u062B \u062E  \u0636  \u063A       \u062C     \u062D"⟩,
   ⟨0x1EE49, "\u064A  \u0644  \u0646 \u0633 \u0639  \u0635 \u0642  \u0634   \u062E  \u0636"⟩,
   ⟨0x1EE5B, "\u063A  \u06BA  \u066F  \u0628 \u062C  \u0647   \u062D \u0637 \u064A \u0643"⟩,
   ⟨0x1EE6C, "\u0645 \u0646 \u0633 \u0639 \u0641 \u0635 \u0642  \u0634 \u062A \u062B \u062E"⟩,
   ⟨0x1EE79, "\u0636 \u0638 \u063A \u066E  \u06A1  \u0627 \u0628 \u062C \u062F \u0647 \u0648"⟩,
   ⟨0x1EE86, "\u0632 \u062D \u0637 \u064A  \u0644 \u0645 \u0646 \u0633 \u0639 \u0641 \u0635"⟩,
   ⟨0x1EE92, "\u0642 \u0631 \u0634 \u062A \u062B \u062E \u0630 \u0636 \u0638 \u063A      \u0628"⟩,
   ⟨0x1EEA2, "\u062C \u062F  \u0648 \u0632 \u062D \u0637 \u064A  \u0644 \u0645 \u0646 \u0633"⟩,
   ⟨0x1EEAF, "\u0639 \u0641 \u0635 \u0642 \u0631 \u0634 \u062A \u062B \u062E \u0630 \u0636"⟩,
   ⟨0x1EEBA, "\u0638 \u063A"⟩,
   ⟨0x1F101, "0, 1, 2, 3, 4, 5, 6, 7, 8, 9,      (a) (b) (c) (d) (e) (f) (g) (h) (i) (j) (k) (l)"⟩,
   ⟨0x1F11C, "(m) (n) (o) (p) (q) (r) (s) (t) (u) (v) (w) (x) (y) (z) 〔s〕 c r cd wz  a b c d e f"⟩,
   ⟨0x1F136, "g h i j k l m n o p q r s t u v w x y z hv mv sd ss ppv wc"⟩, ⟨0x1F16A, "mc md mr"⟩,
   ⟨0x1F190, "dj"⟩, ⟨0x1F200, "ほか ココ サ"⟩,
   ⟨0x1F210, "手 字 双 デ 二 多 解 天 交 映 無 料 前 後 再 新 初 終 生 販 声 吹 演 投 捕 一 三 遊 左 中 右 指 走 打 禁 空 合 満 有 月 申"⟩,
   ⟨0x1F239, "割 営 配     〔本〕 〔三〕 〔二〕 〔安〕 〔点〕 〔打〕 〔盗〕 〔勝〕 〔敗〕"⟩, ⟨0x1F250, "得 可"⟩,
   ⟨0x1FBF0, "0 1 2 3 4 5 6 7 8 9"⟩,
   ⟨0x2F800, "丽 丸 乁 𠄢 你 侮 侻 倂 偺 備 僧 像 㒞 𠘺 免 兔 兤 具 𠔜 㒹 內 再 𠕋 冗 冤 仌 冬 况 𩇟 凵 刃 㓟 刻 剆 割 剷 㔕 勇 勉 勤 勺"⟩,
   ⟨0x2F829, "包 匆 北 卉 卑 博 即 卽 卿 卿 卿 𠨬 灰 及 叟 𠭣 叫 叱 吆 咞 吸 呈 周 咢 哶 唐 啓 啣 善 善 喙 喫 喳 嗂 圖 嘆 圗 噑 噴 切 壮"⟩,
   ⟨0x2F852, "城 埴 堍 型 堲 報 墬 𡓤 売 壷 夆 多 夢 奢 𡚨 𡛪 姬 娛 娧 姘 婦 㛮 㛼 嬈 嬾 嬾 𡧈 寃 寘 寧 寳 𡬘 寿 将 当 尢 㞁 屠 屮 峀 岍"⟩,
   ⟨0x2F87B, "𡷤 嵃 𡷦 嵮 嵫 嵼 巡 巢 㠯 巽 帨 帽 幩 㡢 𢆃 㡼 庰 庳 庶 廊 𪎒 廾 𢌱 𢌱 舁 弢 弢 㣇 𣊸 𦇚 形 彫 㣣 徚 忍 志 忹 悁 㤺 㤜 悔"⟩,
   ⟨0x2F8A4, "𢛔 惇 慈 慌 慎 慌 慺 憎 憲 憤 憯 懞 懲 懶 成 戛 扝 抱 拔 捐 𢬌 挽 拼 捨 掃 揤 𢯱 搢 揅 掩 㨮 摩 摾 撝 摷 㩬 敏 敬 𣀊 旣 書"⟩,
   ⟨0x2F8CD, "晉 㬙 暑 㬈 㫤 冒 冕 最 暜 肭 䏙 朗 望 朡 杞 杓 𣏃 㭉 柺 枅 桒 梅 𣑭 梎 栟 椔 㮝 楂 榣 槪 檨 𣚣 櫛 㰘 次 𣢧 歔 㱎 歲 殟 殺"⟩,
   ⟨0x2F8F6, "殻 𣪍 𡴋 𣫺 汎 𣲼 沿 泍 汧 洖 派 海 流 浩 浸 涅 𣴞 洴 港 湮 㴳 滋 滇 𣻑 淹 潮 𣽞 𣾎 濆 瀹 瀞 瀛 㶖 灊 災 灷 炭 𠔥 煅 𤉣 熜"⟩,
   ⟨0x2F91F, "𤎫 爨 爵 牐 𤘈 犀 犕 𤜵 𤠔 獺 王 㺬 玥 㺸 㺸 瑇 瑜 瑱 璅 瓊 㼛 甤 𤰶 甾 𤲒 異 𢆟 瘐 𤾡 𤾸 𥁄 㿼 䀈 直 𥃳 𥃲 𥄙 𥄳 眞 真 真"⟩,
   ⟨0x2F948, "睊 䀹 瞋 䁆 䂖 𥐝 硎 碌 磌 䃣 𥘦 祖 𥚚 𥛅 福 秫 䄯 穀 穊 穏 𥥼 𥪧 𥪧 竮 䈂 𥮫 篆 築 䈧 𥲀 糒 䊠 糨 糣 紀 𥾆 絣 䌁 緇 縂 繅"⟩,
   ⟨0x2F971, "䌴 𦈨 𦉇 䍙 𦋙 罺 𦌾 羕 翺 者 𦓚 𦔣 聠 𦖨 聰 𣍟 䏕 育 脃 䐋 脾 媵 𦞧 𦞵 𣎓 𣎜 舁 舄 辞 䑫 芑 芋 芝 劳 花 芳 芽 苦 𦬼 若 茝"⟩,
   ⟨0x2F99A, "荣 莭 茣 莽 菧 著 荓 菊 菌 菜 𦰶 𦵫 𦳕 䔫 蓱 蓳 蔖 𧏊 蕤 𦼬 䕝 䕡 𦾱 𧃒 䕫 虐 虜 虧 虩 蚩 蚈 蜎 蛢 蝹 蜨 蝫 螆 䗗 蟡 蠁 䗹"⟩,
   ⟨0x2F9C3, "衠 衣 𧙧 裗 裞 䘵 裺 㒻 𧢮 𧥦 䚾 䛇 誠 諭 變 豕 𧲨 貫 賁 贛 起 𧼯 𠠄 跋 趼 跰 𠣞 軔 輸 𨗒 𨗭 邔 郱 鄑 𨜮 鄛 鈸 鋗 鋘 鉼 鏹"⟩,
   ⟨0x2F9EC, "鐕 𨯺 開 䦕 閷 𨵷 䧦 雃 嶲 霣 𩅅 𩈚 䩮 䩶 韠 𩐊 䪲 𩒖 頋 頋 頩 𩖶 飢 䬳 餩 馧 駂 駾 䯎 𩬰 鬒 鱀 鳽 䳎 䳭 鵧 𪃎 䳸 𪄅 𪈎 𪊑"⟩,
   ⟨0x2FA15, "麻 䵖 黹 黾 鼅 鼏 鼖 鼻 𪘀"⟩]

/-- The plain form that a row states. -/
def VariantRow.form? (row : VariantRow) (code : Nat) : Option (List Char) :=
  ((splitOn ' ' row.forms.toList)[code - row.first]?).filter (!·.isEmpty)

/-- The rows among which that of a character is, if there is one. -/
def variantRows (code : Nat) : List VariantRow :=
  if code < 0x2000 then variantsBefore2000
  else if code < 0x3000 then variantsBefore3000
  else if code < 0xF900 then variantsBeforeF900
  else if code < 0x10000 then variantsBefore10000
  else variantsFrom10000

/-- The plain form of a character that is no capital letter. -/
def plainSmall? (c : Char) : Option (List Char) :=
  if inRanges variantRanges c.toNat then do
    let row ← ((variantRows c.toNat).takeWhile (·.first ≤ c.toNat)).getLast?
    row.form? c.toNat
  else if isGraphic c || isMark c then some [c]
  else none

/-- Whether the character is a letter of the Cherokee script that is no variant of its small form.
-/
def isCherokee (c : Char) : Bool :=
  0x13A0 ≤ c.toNat && c.toNat ≤ 0x13F5

/-- The plain form of a character. -/
def plain? (c : Char) : Option (List Char) :=
  if c.toNat < 0x80 then some (lower c)
  else if c == joiner || c == nonJoiner || isCherokee c then some [c]
  else if inRanges invisibleRanges c.toNat then some []
  else ((lower c).mapM plainSmall?).map List.flatten

end HttpRpc.Text
