import BookLookup.Text.Split

/-!
# Characters with spelled-out simple forms

The characters whose simple forms follow no rule, among them ligatures, numbers
in circles, presentation forms and duplicates of ideographs. They are those of
Unicode 17 and an Armenian letter added since.
-/

namespace BookLookup
namespace Folding

/-- Simple forms of characters with adjacent code points. -/
structure Spelling where
  /-- The first code point. -/
  first : Nat
  /-- The last code point. -/
  last : Nat
  /-- The simple forms in order, with a space between them. -/
  forms : String

/-- The simple form of a code point of some adjacent ones. -/
def Spelling.simple? (spelling : Spelling) (code : Nat) : Option (List Char) :=
  if spelling.first ≤ code ∧ code ≤ spelling.last then
    (Split.pieces ' ' spelling.forms.toList)[code - spelling.first]?
  else none

/-- The spelled-out simple forms in the order of the code points. -/
def spellings : List Spelling := [
  ⟨0xAA, 0xAA, "a"⟩,
  ⟨0xB2, 0xB3, "2 3"⟩,
  ⟨0xB5, 0xB5, "μ"⟩,
  ⟨0xB9, 0xBA, "1 o"⟩,
  ⟨0xBC, 0xBE, "1⁄4 1⁄2 3⁄4"⟩,
  ⟨0x130, 0x130, "i\u0307"⟩,
  ⟨0x132, 0x134, "ij ij ĵ"⟩,
  ⟨0x136, 0x136, "ķ"⟩,
  ⟨0x139, 0x139, "ĺ"⟩,
  ⟨0x13B, 0x13B, "ļ"⟩,
  ⟨0x13D, 0x13D, "ľ"⟩,
  ⟨0x13F, 0x140, "l· l·"⟩,
  ⟨0x149, 0x149, "ʼn"⟩,
  ⟨0x178, 0x179, "ÿ ź"⟩,
  ⟨0x17B, 0x17B, "ż"⟩,
  ⟨0x17D, 0x17D, "ž"⟩,
  ⟨0x17F, 0x17F, "s"⟩,
  ⟨0x181, 0x182, "ɓ ƃ"⟩,
  ⟨0x184, 0x184, "ƅ"⟩,
  ⟨0x186, 0x187, "ɔ ƈ"⟩,
  ⟨0x189, 0x18B, "ɖ ɗ ƌ"⟩,
  ⟨0x18E, 0x191, "ǝ ə ɛ ƒ"⟩,
  ⟨0x193, 0x194, "ɠ ɣ"⟩,
  ⟨0x196, 0x198, "ɩ ɨ ƙ"⟩,
  ⟨0x19C, 0x19D, "ɯ ɲ"⟩,
  ⟨0x19F, 0x1A0, "ɵ ơ"⟩,
  ⟨0x1A2, 0x1A2, "ƣ"⟩,
  ⟨0x1A4, 0x1A4, "ƥ"⟩,
  ⟨0x1A6, 0x1A7, "ʀ ƨ"⟩,
  ⟨0x1A9, 0x1A9, "ʃ"⟩,
  ⟨0x1AC, 0x1AC, "ƭ"⟩,
  ⟨0x1AE, 0x1AF, "ʈ ư"⟩,
  ⟨0x1B1, 0x1B3, "ʊ ʋ ƴ"⟩,
  ⟨0x1B5, 0x1B5, "ƶ"⟩,
  ⟨0x1B7, 0x1B8, "ʒ ƹ"⟩,
  ⟨0x1BC, 0x1BC, "ƽ"⟩,
  ⟨0x1C4, 0x1CC, "dž dž dž lj lj lj nj nj nj"⟩,
  ⟨0x1F1, 0x1F4, "dz dz dz ǵ"⟩,
  ⟨0x1F6, 0x1F7, "ƕ ƿ"⟩,
  ⟨0x220, 0x220, "ƞ"⟩,
  ⟨0x23A, 0x23B, "ⱥ ȼ"⟩,
  ⟨0x23D, 0x23E, "ƚ ⱦ"⟩,
  ⟨0x241, 0x241, "ɂ"⟩,
  ⟨0x243, 0x245, "ƀ ʉ ʌ"⟩,
  ⟨0x2B0, 0x2B8, "h ɦ j r ɹ ɻ ʁ w y"⟩,
  ⟨0x2E0, 0x2E4, "ɣ l s x ʕ"⟩,
  ⟨0x340, 0x341, "\u0300 \u0301"⟩,
  ⟨0x343, 0x345, "\u0313 \u0308\u0301 ι"⟩,
  ⟨0x370, 0x370, "ͱ"⟩,
  ⟨0x372, 0x372, "ͳ"⟩,
  ⟨0x374, 0x374, "ʹ"⟩,
  ⟨0x376, 0x376, "ͷ"⟩,
  ⟨0x37E, 0x37F, "; ϳ"⟩,
  ⟨0x386, 0x38A, "ά · έ ή ί"⟩,
  ⟨0x38C, 0x38C, "ό"⟩,
  ⟨0x38E, 0x38F, "ύ ώ"⟩,
  ⟨0x3CF, 0x3D6, "ϗ β θ υ ύ ϋ φ π"⟩,
  ⟨0x3F0, 0x3F2, "κ ρ σ"⟩,
  ⟨0x3F4, 0x3F5, "θ ε"⟩,
  ⟨0x3F7, 0x3F7, "ϸ"⟩,
  ⟨0x3F9, 0x3FA, "σ ϻ"⟩,
  ⟨0x3FD, 0x3FF, "ͻ ͼ ͽ"⟩,
  ⟨0x4C0, 0x4C0, "ӏ"⟩,
  ⟨0x558, 0x558, "է"⟩,
  ⟨0x587, 0x587, "եւ"⟩,
  ⟨0x675, 0x678, "\u0627\u0674 \u0648\u0674 \u06c7\u0674 \u064a\u0674"⟩,
  ⟨0x958, 0x95E, "क\u093c ख\u093c ग\u093c ज\u093c ड\u093c ढ\u093c फ\u093c"⟩,
  ⟨0x95F, 0x95F, "य\u093c"⟩,
  ⟨0x9DC, 0x9DD, "ড\u09bc ঢ\u09bc"⟩,
  ⟨0x9DF, 0x9DF, "য\u09bc"⟩,
  ⟨0xA33, 0xA33, "ਲ\u0a3c"⟩,
  ⟨0xA36, 0xA36, "ਸ\u0a3c"⟩,
  ⟨0xA59, 0xA5B, "ਖ\u0a3c ਗ\u0a3c ਜ\u0a3c"⟩,
  ⟨0xA5E, 0xA5E, "ਫ\u0a3c"⟩,
  ⟨0xB5C, 0xB5D, "ଡ\u0b3c ଢ\u0b3c"⟩,
  ⟨0xE33, 0xE33, "\u0e4dา"⟩,
  ⟨0xEB3, 0xEB3, "\u0ecdາ"⟩,
  ⟨0xEDC, 0xEDD, "ຫນ ຫມ"⟩,
  ⟨0xF0C, 0xF0C, "་"⟩,
  ⟨0xF43, 0xF43, "ག\u0fb7"⟩,
  ⟨0xF4D, 0xF4D, "ཌ\u0fb7"⟩,
  ⟨0xF52, 0xF52, "ད\u0fb7"⟩,
  ⟨0xF57, 0xF57, "བ\u0fb7"⟩,
  ⟨0xF5C, 0xF5C, "ཛ\u0fb7"⟩,
  ⟨0xF69, 0xF69, "ཀ\u0fb5"⟩,
  ⟨0xF73, 0xF73, "\u0f71\u0f72"⟩,
  ⟨0xF75, 0xF78, "\u0f71\u0f74 \u0fb2\u0f80 \u0fb2\u0f71\u0f80 \u0fb3\u0f80"⟩,
  ⟨0xF79, 0xF79, "\u0fb3\u0f71\u0f80"⟩,
  ⟨0xF81, 0xF81, "\u0f71\u0f80"⟩,
  ⟨0xF93, 0xF93, "\u0f92\u0fb7"⟩,
  ⟨0xF9D, 0xF9D, "\u0f9c\u0fb7"⟩,
  ⟨0xFA2, 0xFA2, "\u0fa1\u0fb7"⟩,
  ⟨0xFA7, 0xFA7, "\u0fa6\u0fb7"⟩,
  ⟨0xFAC, 0xFAC, "\u0fab\u0fb7"⟩,
  ⟨0xFB9, 0xFB9, "\u0f90\u0fb5"⟩,
  ⟨0x10C7, 0x10C7, "ⴧ"⟩,
  ⟨0x10CD, 0x10CD, "ⴭ"⟩,
  ⟨0x10FC, 0x10FC, "ნ"⟩,
  ⟨0x1C80, 0x1C89, "в д о с т т ъ ѣ ꙋ ᲊ"⟩,
  ⟨0x1CBD, 0x1CBF, "ჽ ჾ ჿ"⟩,
  ⟨0x1D2C, 0x1D2E, "a æ b"⟩,
  ⟨0x1D30, 0x1D30, "d"⟩,
  ⟨0x1D32, 0x1D32, "ǝ"⟩,
  ⟨0x1D3C, 0x1D4B, "o ȣ p r t u w a ɐ ɑ ᴂ b d e ə ɛ"⟩,
  ⟨0x1D4C, 0x1D4D, "ɜ g"⟩,
  ⟨0x1D4F, 0x1D5E, "k m ŋ o ɔ ᴖ ᴗ p t u ᴝ ɯ v ᴥ β γ"⟩,
  ⟨0x1D5F, 0x1D6A, "δ φ χ i r u v β γ ρ φ χ"⟩,
  ⟨0x1D78, 0x1D78, "н"⟩,
  ⟨0x1D9B, 0x1DAA, "ɒ c ɕ ð ɜ f ɟ ɡ ɥ ɨ ɩ ɪ ᵻ ʝ ɭ ᶅ"⟩,
  ⟨0x1DAB, 0x1DAD, "ʟ ɱ ɰ"⟩,
  ⟨0x1DB2, 0x1DBF, "ɸ ʂ ʃ ƫ ʉ ʊ ᴜ ʋ ʌ z ʐ ʑ ʒ θ"⟩,
  ⟨0x1E9A, 0x1E9B, "aʾ ṡ"⟩,
  ⟨0x1E9E, 0x1E9E, "ß"⟩,
  ⟨0x1F71, 0x1F71, "ά"⟩,
  ⟨0x1F73, 0x1F73, "έ"⟩,
  ⟨0x1F75, 0x1F75, "ή"⟩,
  ⟨0x1F77, 0x1F77, "ί"⟩,
  ⟨0x1F79, 0x1F79, "ό"⟩,
  ⟨0x1F7B, 0x1F7B, "ύ"⟩,
  ⟨0x1F7D, 0x1F7D, "ώ"⟩,
  ⟨0x1F80, 0x1F8F, "ἀι ἁι ἂι ἃι ἄι ἅι ἆι ἇι ἀι ἁι ἂι ἃι ἄι ἅι ἆι ἇι"⟩,
  ⟨0x1F90, 0x1F9F, "ἠι ἡι ἢι ἣι ἤι ἥι ἦι ἧι ἠι ἡι ἢι ἣι ἤι ἥι ἦι ἧι"⟩,
  ⟨0x1FA0, 0x1FAF, "ὠι ὡι ὢι ὣι ὤι ὥι ὦι ὧι ὠι ὡι ὢι ὣι ὤι ὥι ὦι ὧι"⟩,
  ⟨0x1FB2, 0x1FB4, "ὰι αι άι"⟩,
  ⟨0x1FB7, 0x1FBC, "ᾶι ᾰ ᾱ ὰ ά αι"⟩,
  ⟨0x1FBE, 0x1FBE, "ι"⟩,
  ⟨0x1FC2, 0x1FC4, "ὴι ηι ήι"⟩,
  ⟨0x1FC7, 0x1FCC, "ῆι ὲ έ ὴ ή ηι"⟩,
  ⟨0x1FD3, 0x1FD3, "ΐ"⟩,
  ⟨0x1FD8, 0x1FDB, "ῐ ῑ ὶ ί"⟩,
  ⟨0x1FE3, 0x1FE3, "ΰ"⟩,
  ⟨0x1FE8, 0x1FEC, "ῠ ῡ ὺ ύ ῥ"⟩,
  ⟨0x1FEF, 0x1FEF, "`"⟩,
  ⟨0x1FF2, 0x1FF4, "ὼι ωι ώι"⟩,
  ⟨0x1FF7, 0x1FFC, "ῶι ὸ ό ὼ ώ ωι"⟩,
  ⟨0x2011, 0x2011, "‐"⟩,
  ⟨0x2033, 0x2034, "′′ ′′′"⟩,
  ⟨0x2036, 0x2037, "‵‵ ‵‵‵"⟩,
  ⟨0x203C, 0x203C, "!!"⟩,
  ⟨0x2047, 0x2049, "?? ?! !?"⟩,
  ⟨0x2057, 0x2057, "′′′′"⟩,
  ⟨0x2070, 0x2071, "0 i"⟩,
  ⟨0x207A, 0x207F, "+ − = ( ) n"⟩,
  ⟨0x208A, 0x208E, "+ − = ( )"⟩,
  ⟨0x2090, 0x2095, "a e o x ə h"⟩,
  ⟨0x209A, 0x209C, "p s t"⟩,
  ⟨0x20A8, 0x20A8, "rs"⟩,
  ⟨0x2100, 0x2103, "a/c a/s c °c"⟩,
  ⟨0x2105, 0x2107, "c/o c/u ɛ"⟩,
  ⟨0x2109, 0x2113, "°f g h h h h ħ i i l l"⟩,
  ⟨0x2115, 0x2116, "n no"⟩,
  ⟨0x2119, 0x211D, "p q r r r"⟩,
  ⟨0x2120, 0x2122, "sm tel tm"⟩,
  ⟨0x2124, 0x2124, "z"⟩,
  ⟨0x2126, 0x2126, "ω"⟩,
  ⟨0x2128, 0x2128, "z"⟩,
  ⟨0x212A, 0x212D, "k å b c"⟩,
  ⟨0x212F, 0x2134, "e e f ⅎ m o"⟩,
  ⟨0x2139, 0x2139, "i"⟩,
  ⟨0x213B, 0x2140, "fax π γ γ π ∑"⟩,
  ⟨0x2145, 0x2149, "d d e i j"⟩,
  ⟨0x2150, 0x215D, "1⁄7 1⁄9 1⁄10 1⁄3 2⁄3 1⁄5 2⁄5 3⁄5 4⁄5 1⁄6 5⁄6 1⁄8 3⁄8 5⁄8"⟩,
  ⟨0x215E, 0x216D, "7⁄8 1⁄ i ii iii iv v vi vii viii ix x xi xii l c"⟩,
  ⟨0x216E, 0x217D, "d m i ii iii iv v vi vii viii ix x xi xii l c"⟩,
  ⟨0x217E, 0x217F, "d m"⟩,
  ⟨0x2183, 0x2183, "ↄ"⟩,
  ⟨0x2189, 0x2189, "0⁄3"⟩,
  ⟨0x222C, 0x222D, "∫∫ ∫∫∫"⟩,
  ⟨0x222F, 0x2230, "∮∮ ∮∮∮"⟩,
  ⟨0x2329, 0x232A, "〈 〉"⟩,
  ⟨0x2469, 0x2478, "10 11 12 13 14 15 16 17 18 19 20 (1) (2) (3) (4) (5)"⟩,
  ⟨0x2479, 0x2484, "(6) (7) (8) (9) (10) (11) (12) (13) (14) (15) (16) (17)"⟩,
  ⟨0x2485, 0x2487, "(18) (19) (20)"⟩,
  ⟨0x249C, 0x24A9, "(a) (b) (c) (d) (e) (f) (g) (h) (i) (j) (k) (l) (m) (n)"⟩,
  ⟨0x24AA, 0x24B5, "(o) (p) (q) (r) (s) (t) (u) (v) (w) (x) (y) (z)"⟩,
  ⟨0x24EA, 0x24EA, "0"⟩,
  ⟨0x2A0C, 0x2A0C, "∫∫∫∫"⟩,
  ⟨0x2A74, 0x2A76, "::= == ==="⟩,
  ⟨0x2ADC, 0x2ADC, "⫝\u0338"⟩,
  ⟨0x2C60, 0x2C60, "ⱡ"⟩,
  ⟨0x2C62, 0x2C64, "ɫ ᵽ ɽ"⟩,
  ⟨0x2C67, 0x2C67, "ⱨ"⟩,
  ⟨0x2C69, 0x2C69, "ⱪ"⟩,
  ⟨0x2C6B, 0x2C6B, "ⱬ"⟩,
  ⟨0x2C6D, 0x2C70, "ɑ ɱ ɐ ɒ"⟩,
  ⟨0x2C72, 0x2C72, "ⱳ"⟩,
  ⟨0x2C75, 0x2C75, "ⱶ"⟩,
  ⟨0x2C7C, 0x2C7F, "j v ȿ ɀ"⟩,
  ⟨0x2CEB, 0x2CEB, "ⳬ"⟩,
  ⟨0x2CED, 0x2CED, "ⳮ"⟩,
  ⟨0x2CF2, 0x2CF2, "ⳳ"⟩,
  ⟨0x2D6F, 0x2D6F, "ⵡ"⟩,
  ⟨0x2E9F, 0x2E9F, "母"⟩,
  ⟨0x2EF3, 0x2EF3, "龟"⟩,
  ⟨0x2F00, 0x2F0F, "一 丨 丶 丿 乙 亅 二 亠 人 儿 入 八 冂 冖 冫 几"⟩,
  ⟨0x2F10, 0x2F1F, "凵 刀 力 勹 匕 匚 匸 十 卜 卩 厂 厶 又 口 囗 土"⟩,
  ⟨0x2F20, 0x2F2F, "士 夂 夊 夕 大 女 子 宀 寸 小 尢 尸 屮 山 巛 工"⟩,
  ⟨0x2F30, 0x2F3F, "己 巾 干 幺 广 廴 廾 弋 弓 彐 彡 彳 心 戈 戶 手"⟩,
  ⟨0x2F40, 0x2F4F, "支 攴 文 斗 斤 方 无 日 曰 月 木 欠 止 歹 殳 毋"⟩,
  ⟨0x2F50, 0x2F5F, "比 毛 氏 气 水 火 爪 父 爻 爿 片 牙 牛 犬 玄 玉"⟩,
  ⟨0x2F60, 0x2F6F, "瓜 瓦 甘 生 用 田 疋 疒 癶 白 皮 皿 目 矛 矢 石"⟩,
  ⟨0x2F70, 0x2F7F, "示 禸 禾 穴 立 竹 米 糸 缶 网 羊 羽 老 而 耒 耳"⟩,
  ⟨0x2F80, 0x2F8F, "聿 肉 臣 自 至 臼 舌 舛 舟 艮 色 艸 虍 虫 血 行"⟩,
  ⟨0x2F90, 0x2F9F, "衣 襾 見 角 言 谷 豆 豕 豸 貝 赤 走 足 身 車 辛"⟩,
  ⟨0x2FA0, 0x2FAF, "辰 辵 邑 酉 釆 里 金 長 門 阜 隶 隹 雨 靑 非 面"⟩,
  ⟨0x2FB0, 0x2FBF, "革 韋 韭 音 頁 風 飛 食 首 香 馬 骨 高 髟 鬥 鬯"⟩,
  ⟨0x2FC0, 0x2FCF, "鬲 鬼 魚 鳥 鹵 鹿 麥 麻 黃 黍 黑 黹 黽 鼎 鼓 鼠"⟩,
  ⟨0x2FD0, 0x2FD5, "鼻 齊 齒 龍 龜 龠"⟩,
  ⟨0x3002, 0x3002, "."⟩,
  ⟨0x3036, 0x3036, "〒"⟩,
  ⟨0x3038, 0x303A, "十 卄 卅"⟩,
  ⟨0x309F, 0x309F, "より"⟩,
  ⟨0x30FF, 0x30FF, "コト"⟩,
  ⟨0x3131, 0x3139, "ᄀ ᄁ ᆪ ᄂ ᆬ ᆭ ᄃ ᄄ ᄅ"⟩,
  ⟨0x3140, 0x3144, "ᄚ ᄆ ᄇ ᄈ ᄡ"⟩,
  ⟨0x3165, 0x3174, "ᄔ ᄕ ᇇ ᇈ ᇌ ᇎ ᇓ ᇗ ᇙ ᄜ ᇝ ᇟ ᄝ ᄞ ᄠ ᄢ"⟩,
  ⟨0x3175, 0x3177, "ᄣ ᄧ ᄩ"⟩,
  ⟨0x317D, 0x318C, "ᄲ ᄶ ᅀ ᅇ ᅌ ᇱ ᇲ ᅗ ᅘ ᅙ ᆄ ᆅ ᆈ ᆑ ᆒ ᆔ"⟩,
  ⟨0x318D, 0x318E, "ᆞ ᆡ"⟩,
  ⟨0x3192, 0x319F, "一 二 三 四 上 中 下 甲 乙 丙 丁 天 地 人"⟩,
  ⟨0x3200, 0x320D, "(ᄀ) (ᄂ) (ᄃ) (ᄅ) (ᄆ) (ᄇ) (ᄉ) (ᄋ) (ᄌ) (ᄎ) (ᄏ) (ᄐ) (ᄑ) (ᄒ)"⟩,
  ⟨0x320E, 0x321B, "(가) (나) (다) (라) (마) (바) (사) (아) (자) (차) (카) (타) (파) (하)"⟩,
  ⟨0x321C, 0x321E, "(주) (오전) (오후)"⟩,
  ⟨0x3220, 0x322D, "(一) (二) (三) (四) (五) (六) (七) (八) (九) (十) (月) (火) (水) (木)"⟩,
  ⟨0x322E, 0x323B, "(金) (土) (日) (株) (有) (社) (名) (特) (財) (祝) (労) (代) (呼) (学)"⟩,
  ⟨0x323C, 0x3247, "(監) (企) (資) (協) (祭) (休) (自) (至) 問 幼 文 箏"⟩,
  ⟨0x3250, 0x325F, "pte 21 22 23 24 25 26 27 28 29 30 31 32 33 34 35"⟩,
  ⟨0x3260, 0x3268, "ᄀ ᄂ ᄃ ᄅ ᄆ ᄇ ᄉ ᄋ ᄌ"⟩,
  ⟨0x326E, 0x327D, "가 나 다 라 마 바 사 아 자 차 카 타 파 하 참고 주의"⟩,
  ⟨0x327E, 0x327E, "우"⟩,
  ⟨0x3280, 0x328F, "一 二 三 四 五 六 七 八 九 十 月 火 水 木 金 土"⟩,
  ⟨0x3290, 0x329F, "日 株 有 社 名 特 財 祝 労 秘 男 女 適 優 印 注"⟩,
  ⟨0x32A0, 0x32AF, "項 休 写 正 上 中 下 左 右 医 宗 学 監 企 資 協"⟩,
  ⟨0x32B0, 0x32BF, "夜 36 37 38 39 40 41 42 43 44 45 46 47 48 49 50"⟩,
  ⟨0x32C0, 0x32CF, "1月 2月 3月 4月 5月 6月 7月 8月 9月 10月 11月 12月 hg erg ev ltd"⟩,
  ⟨0x32D0, 0x32DF, "ア イ ウ エ オ カ キ ク ケ コ サ シ ス セ ソ タ"⟩,
  ⟨0x32E0, 0x32E3, "チ ツ テ ト"⟩,
  ⟨0x32EA, 0x32ED, "ヒ フ ヘ ホ"⟩,
  ⟨0x32F3, 0x32F4, "ヤ ユ"⟩,
  ⟨0x32FF, 0x330A, "令和 アパート アルファ アンペア アール イニング インチ ウォン エスクード エーカー オンス オーム"⟩,
  ⟨0x330B, 0x3316, "カイリ カラット カロリー ガロン ガンマ ギガ ギニー キュリー ギルダー キロ キログラム キロメートル"⟩,
  ⟨0x3317, 0x3321, "キロワット グラム グラムトン クルゼイロ クローネ ケース コルナ コーポ サイクル サンチーム シリング"⟩,
  ⟨0x3322, 0x332F, "センチ セント ダース デシ ドル トン ナノ ノット ハイツ パーセント パーツ バーレル ピアストル ピクル"⟩,
  ⟨0x3330, 0x333C, "ピコ ビル ファラッド フィート ブッシェル フラン ヘクタール ペソ ペニヒ ヘルツ ペンス ページ ベータ"⟩,
  ⟨0x333D, 0x3349, "ポイント ボルト ホン ポンド ホール ホーン マイクロ マイル マッハ マルク マンション ミクロン ミリ"⟩,
  ⟨0x334A, 0x3356, "ミリバール メガ メガトン メートル ヤード ヤール ユアン リットル リラ ルピー ルーブル レム レントゲン"⟩,
  ⟨0x3357, 0x3366, "ワット 0点 1点 2点 3点 4点 5点 6点 7点 8点 9点 10点 11点 12点 13点 14点"⟩,
  ⟨0x3367, 0x3375, "15点 16点 17点 18点 19点 20点 21点 22点 23点 24点 hpa da au bar ov"⟩,
  ⟨0x3376, 0x3385, "pc dm dm2 dm3 iu 平成 昭和 大正 明治 株式会社 pa na μa ma ka kb"⟩,
  ⟨0x3386, 0x3395, "mb gb cal kcal pf nf μf μg mg kg hz khz mhz ghz thz μl"⟩,
  ⟨0x3396, 0x33A5, "ml dl kl fm nm μm mm cm km mm2 cm2 m2 km2 mm3 cm3 m3"⟩,
  ⟨0x33A6, 0x33B3, "km3 m∕s m∕s2 pa kpa mpa gpa rad rad∕s rad∕s2 ps ns μs ms"⟩,
  ⟨0x33B4, 0x33C1, "pv nv μv mv kv mv pw nw μw mw kw mw kω mω"⟩,
  ⟨0x33C3, 0x33C6, "bq cc cd c∕kg"⟩,
  ⟨0x33C8, 0x33D7, "db gy ha hp in kk km kt lm ln log lx mb mil mol ph"⟩,
  ⟨0x33D9, 0x33E8, "ppm pr sr sv wb v∕m a∕m 1日 2日 3日 4日 5日 6日 7日 8日 9日"⟩,
  ⟨0x33E9, 0x33F6, "10日 11日 12日 13日 14日 15日 16日 17日 18日 19日 20日 21日 22日 23日"⟩,
  ⟨0x33F7, 0x33FF, "24日 25日 26日 27日 28日 29日 30日 31日 gal"⟩,
  ⟨0xA69C, 0xA69D, "ъ ь"⟩,
  ⟨0xA770, 0xA770, "ꝯ"⟩,
  ⟨0xA779, 0xA779, "ꝺ"⟩,
  ⟨0xA77B, 0xA77B, "ꝼ"⟩,
  ⟨0xA77D, 0xA77D, "ᵹ"⟩,
  ⟨0xA78B, 0xA78B, "ꞌ"⟩,
  ⟨0xA78D, 0xA78D, "ɥ"⟩,
  ⟨0xA790, 0xA790, "ꞑ"⟩,
  ⟨0xA792, 0xA792, "ꞓ"⟩,
  ⟨0xA7AA, 0xA7AE, "ɦ ɜ ɡ ɬ ɪ"⟩,
  ⟨0xA7B0, 0xA7B3, "ʞ ʇ ʝ ꭓ"⟩,
  ⟨0xA7C4, 0xA7C7, "ꞔ ʂ ᶎ ꟈ"⟩,
  ⟨0xA7C9, 0xA7C9, "ꟊ"⟩,
  ⟨0xA7CB, 0xA7CB, "ɤ"⟩,
  ⟨0xA7DC, 0xA7DC, "ƛ"⟩,
  ⟨0xA7F1, 0xA7F5, "s c f q ꟶ"⟩,
  ⟨0xA7F8, 0xA7F9, "ħ œ"⟩,
  ⟨0xAB5C, 0xAB5F, "ꜧ ꬷ ɫ ꭒ"⟩,
  ⟨0xAB69, 0xAB69, "ʍ"⟩,
  ⟨0xF900, 0xF90F, "豈 更 車 賈 滑 串 句 龜 龜 契 金 喇 奈 懶 癩 羅"⟩,
  ⟨0xF910, 0xF91F, "蘿 螺 裸 邏 樂 洛 烙 珞 落 酪 駱 亂 卵 欄 爛 蘭"⟩,
  ⟨0xF920, 0xF92F, "鸞 嵐 濫 藍 襤 拉 臘 蠟 廊 朗 浪 狼 郎 來 冷 勞"⟩,
  ⟨0xF930, 0xF93F, "擄 櫓 爐 盧 老 蘆 虜 路 露 魯 鷺 碌 祿 綠 菉 錄"⟩,
  ⟨0xF940, 0xF94F, "鹿 論 壟 弄 籠 聾 牢 磊 賂 雷 壘 屢 樓 淚 漏 累"⟩,
  ⟨0xF950, 0xF95F, "縷 陋 勒 肋 凜 凌 稜 綾 菱 陵 讀 拏 樂 諾 丹 寧"⟩,
  ⟨0xF960, 0xF96F, "怒 率 異 北 磻 便 復 不 泌 數 索 參 塞 省 葉 說"⟩,
  ⟨0xF970, 0xF97F, "殺 辰 沈 拾 若 掠 略 亮 兩 凉 梁 糧 良 諒 量 勵"⟩,
  ⟨0xF980, 0xF98F, "呂 女 廬 旅 濾 礪 閭 驪 麗 黎 力 曆 歷 轢 年 憐"⟩,
  ⟨0xF990, 0xF99F, "戀 撚 漣 煉 璉 秊 練 聯 輦 蓮 連 鍊 列 劣 咽 烈"⟩,
  ⟨0xF9A0, 0xF9AF, "裂 說 廉 念 捻 殮 簾 獵 令 囹 寧 嶺 怜 玲 瑩 羚"⟩,
  ⟨0xF9B0, 0xF9BF, "聆 鈴 零 靈 領 例 禮 醴 隸 惡 了 僚 寮 尿 料 樂"⟩,
  ⟨0xF9C0, 0xF9CF, "燎 療 蓼 遼 龍 暈 阮 劉 杻 柳 流 溜 琉 留 硫 紐"⟩,
  ⟨0xF9D0, 0xF9DF, "類 六 戮 陸 倫 崙 淪 輪 律 慄 栗 率 隆 利 吏 履"⟩,
  ⟨0xF9E0, 0xF9EF, "易 李 梨 泥 理 痢 罹 裏 裡 里 離 匿 溺 吝 燐 璘"⟩,
  ⟨0xF9F0, 0xF9FF, "藺 隣 鱗 麟 林 淋 臨 立 笠 粒 狀 炙 識 什 茶 刺"⟩,
  ⟨0xFA00, 0xFA0D, "切 度 拓 糖 宅 洞 暴 輻 行 降 見 廓 兀 嗀"⟩,
  ⟨0xFA10, 0xFA10, "塚"⟩,
  ⟨0xFA12, 0xFA12, "晴"⟩,
  ⟨0xFA15, 0xFA1E, "凞 猪 益 礼 神 祥 福 靖 精 羽"⟩,
  ⟨0xFA20, 0xFA20, "蘒"⟩,
  ⟨0xFA22, 0xFA22, "諸"⟩,
  ⟨0xFA25, 0xFA26, "逸 都"⟩,
  ⟨0xFA2A, 0xFA39, "飯 飼 館 鶴 郞 隷 侮 僧 免 勉 勤 卑 喝 嘆 器 塀"⟩,
  ⟨0xFA3A, 0xFA49, "墨 層 屮 悔 慨 憎 懲 敏 既 暑 梅 海 渚 漢 煮 爫"⟩,
  ⟨0xFA4A, 0xFA59, "琢 碑 社 祉 祈 祐 祖 祝 禍 禎 穀 突 節 練 縉 繁"⟩,
  ⟨0xFA5A, 0xFA69, "署 者 臭 艹 艹 著 褐 視 謁 謹 賓 贈 辶 逸 難 響"⟩,
  ⟨0xFA6A, 0xFA6D, "頻 恵 𤋮 舘"⟩,
  ⟨0xFA70, 0xFA7F, "並 况 全 侀 充 冀 勇 勺 喝 啕 喙 嗢 塚 墳 奄 奔"⟩,
  ⟨0xFA80, 0xFA8F, "婢 嬨 廒 廙 彩 徭 惘 慎 愈 憎 慠 懲 戴 揄 搜 摒"⟩,
  ⟨0xFA90, 0xFA9F, "敖 晴 朗 望 杖 歹 殺 流 滛 滋 漢 瀞 煮 瞧 爵 犯"⟩,
  ⟨0xFAA0, 0xFAAF, "猪 瑱 甆 画 瘝 瘟 益 盛 直 睊 着 磌 窱 節 类 絛"⟩,
  ⟨0xFAB0, 0xFABF, "練 缾 者 荒 華 蝹 襁 覆 視 調 諸 請 謁 諾 諭 謹"⟩,
  ⟨0xFAC0, 0xFACF, "變 贈 輸 遲 醙 鉶 陼 難 靖 韛 響 頋 頻 鬒 龜 𢡊"⟩,
  ⟨0xFAD0, 0xFAD9, "𢡄 𣏕 㮝 䀘 䀹 𥉉 𥳐 𧻓 齃 龎"⟩,
  ⟨0xFB00, 0xFB06, "ff fi fl ffi ffl st st"⟩,
  ⟨0xFB13, 0xFB17, "մն մե մի վն մխ"⟩,
  ⟨0xFB1D, 0xFB1D, "\u05d9\u05b4"⟩,
  ⟨0xFB1F, 0xFB25, "\u05f2\u05b7 \u05e2 \u05d0 \u05d3 \u05d4 \u05db \u05dc"⟩,
  ⟨0xFB26, 0xFB2B, "\u05dd \u05e8 \u05ea + \u05e9\u05c1 \u05e9\u05c2"⟩,
  ⟨0xFB2C, 0xFB2E, "\u05e9\u05bc\u05c1 \u05e9\u05bc\u05c2 \u05d0\u05b7"⟩,
  ⟨0xFB2F, 0xFB32, "\u05d0\u05b8 \u05d0\u05bc \u05d1\u05bc \u05d2\u05bc"⟩,
  ⟨0xFB33, 0xFB36, "\u05d3\u05bc \u05d4\u05bc \u05d5\u05bc \u05d6\u05bc"⟩,
  ⟨0xFB38, 0xFB3B, "\u05d8\u05bc \u05d9\u05bc \u05da\u05bc \u05db\u05bc"⟩,
  ⟨0xFB3C, 0xFB3C, "\u05dc\u05bc"⟩,
  ⟨0xFB3E, 0xFB3E, "\u05de\u05bc"⟩,
  ⟨0xFB40, 0xFB41, "\u05e0\u05bc \u05e1\u05bc"⟩,
  ⟨0xFB43, 0xFB44, "\u05e3\u05bc \u05e4\u05bc"⟩,
  ⟨0xFB46, 0xFB49, "\u05e6\u05bc \u05e7\u05bc \u05e8\u05bc \u05e9\u05bc"⟩,
  ⟨0xFB4A, 0xFB4D, "\u05ea\u05bc \u05d5\u05b9 \u05d1\u05bf \u05db\u05bf"⟩,
  ⟨0xFB4E, 0xFB53, "\u05e4\u05bf \u05d0\u05dc \u0671 \u0671 \u067b \u067b"⟩,
  ⟨0xFB54, 0xFB5B, "\u067b \u067b \u067e \u067e \u067e \u067e \u0680 \u0680"⟩,
  ⟨0xFB5C, 0xFB63, "\u0680 \u0680 \u067a \u067a \u067a \u067a \u067f \u067f"⟩,
  ⟨0xFB64, 0xFB6B, "\u067f \u067f \u0679 \u0679 \u0679 \u0679 \u06a4 \u06a4"⟩,
  ⟨0xFB6C, 0xFB73, "\u06a4 \u06a4 \u06a6 \u06a6 \u06a6 \u06a6 \u0684 \u0684"⟩,
  ⟨0xFB74, 0xFB7B, "\u0684 \u0684 \u0683 \u0683 \u0683 \u0683 \u0686 \u0686"⟩,
  ⟨0xFB7C, 0xFB83, "\u0686 \u0686 \u0687 \u0687 \u0687 \u0687 \u068d \u068d"⟩,
  ⟨0xFB84, 0xFB8B, "\u068c \u068c \u068e \u068e \u0688 \u0688 \u0698 \u0698"⟩,
  ⟨0xFB8C, 0xFB93, "\u0691 \u0691 \u06a9 \u06a9 \u06a9 \u06a9 \u06af \u06af"⟩,
  ⟨0xFB94, 0xFB9B, "\u06af \u06af \u06b3 \u06b3 \u06b3 \u06b3 \u06b1 \u06b1"⟩,
  ⟨0xFB9C, 0xFBA3, "\u06b1 \u06b1 \u06ba \u06ba \u06bb \u06bb \u06bb \u06bb"⟩,
  ⟨0xFBA4, 0xFBAB, "\u06c0 \u06c0 \u06c1 \u06c1 \u06c1 \u06c1 \u06be \u06be"⟩,
  ⟨0xFBAC, 0xFBB1, "\u06be \u06be \u06d2 \u06d2 \u06d3 \u06d3"⟩,
  ⟨0xFBD3, 0xFBDA, "\u06ad \u06ad \u06ad \u06ad \u06c7 \u06c7 \u06c6 \u06c6"⟩,
  ⟨0xFBDB, 0xFBE1, "\u06c8 \u06c8 \u06c7\u0674 \u06cb \u06cb \u06c5 \u06c5"⟩,
  ⟨0xFBE2, 0xFBE9, "\u06c9 \u06c9 \u06d0 \u06d0 \u06d0 \u06d0 \u0649 \u0649"⟩,
  ⟨0xFBEA, 0xFBED, "\u0626\u0627 \u0626\u0627 \u0626\u06d5 \u0626\u06d5"⟩,
  ⟨0xFBEE, 0xFBF1, "\u0626\u0648 \u0626\u0648 \u0626\u06c7 \u0626\u06c7"⟩,
  ⟨0xFBF2, 0xFBF5, "\u0626\u06c6 \u0626\u06c6 \u0626\u06c8 \u0626\u06c8"⟩,
  ⟨0xFBF6, 0xFBF9, "\u0626\u06d0 \u0626\u06d0 \u0626\u06d0 \u0626\u0649"⟩,
  ⟨0xFBFA, 0xFBFF, "\u0626\u0649 \u0626\u0649 \u06cc \u06cc \u06cc \u06cc"⟩,
  ⟨0xFC00, 0xFC03, "\u0626\u062c \u0626\u062d \u0626\u0645 \u0626\u0649"⟩,
  ⟨0xFC04, 0xFC07, "\u0626\u064a \u0628\u062c \u0628\u062d \u0628\u062e"⟩,
  ⟨0xFC08, 0xFC0B, "\u0628\u0645 \u0628\u0649 \u0628\u064a \u062a\u062c"⟩,
  ⟨0xFC0C, 0xFC0F, "\u062a\u062d \u062a\u062e \u062a\u0645 \u062a\u0649"⟩,
  ⟨0xFC10, 0xFC13, "\u062a\u064a \u062b\u062c \u062b\u0645 \u062b\u0649"⟩,
  ⟨0xFC14, 0xFC17, "\u062b\u064a \u062c\u062d \u062c\u0645 \u062d\u062c"⟩,
  ⟨0xFC18, 0xFC1B, "\u062d\u0645 \u062e\u062c \u062e\u062d \u062e\u0645"⟩,
  ⟨0xFC1C, 0xFC1F, "\u0633\u062c \u0633\u062d \u0633\u062e \u0633\u0645"⟩,
  ⟨0xFC20, 0xFC23, "\u0635\u062d \u0635\u0645 \u0636\u062c \u0636\u062d"⟩,
  ⟨0xFC24, 0xFC27, "\u0636\u062e \u0636\u0645 \u0637\u062d \u0637\u0645"⟩,
  ⟨0xFC28, 0xFC2B, "\u0638\u0645 \u0639\u062c \u0639\u0645 \u063a\u062c"⟩,
  ⟨0xFC2C, 0xFC2F, "\u063a\u0645 \u0641\u062c \u0641\u062d \u0641\u062e"⟩,
  ⟨0xFC30, 0xFC33, "\u0641\u0645 \u0641\u0649 \u0641\u064a \u0642\u062d"⟩,
  ⟨0xFC34, 0xFC37, "\u0642\u0645 \u0642\u0649 \u0642\u064a \u0643\u0627"⟩,
  ⟨0xFC38, 0xFC3B, "\u0643\u062c \u0643\u062d \u0643\u062e \u0643\u0644"⟩,
  ⟨0xFC3C, 0xFC3F, "\u0643\u0645 \u0643\u0649 \u0643\u064a \u0644\u062c"⟩,
  ⟨0xFC40, 0xFC43, "\u0644\u062d \u0644\u062e \u0644\u0645 \u0644\u0649"⟩,
  ⟨0xFC44, 0xFC47, "\u0644\u064a \u0645\u062c \u0645\u062d \u0645\u062e"⟩,
  ⟨0xFC48, 0xFC4B, "\u0645\u0645 \u0645\u0649 \u0645\u064a \u0646\u062c"⟩,
  ⟨0xFC4C, 0xFC4F, "\u0646\u062d \u0646\u062e \u0646\u0645 \u0646\u0649"⟩,
  ⟨0xFC50, 0xFC53, "\u0646\u064a \u0647\u062c \u0647\u0645 \u0647\u0649"⟩,
  ⟨0xFC54, 0xFC57, "\u0647\u064a \u064a\u062c \u064a\u062d \u064a\u062e"⟩,
  ⟨0xFC58, 0xFC5B, "\u064a\u0645 \u064a\u0649 \u064a\u064a \u0630\u0670"⟩,
  ⟨0xFC5C, 0xFC5D, "\u0631\u0670 \u0649\u0670"⟩,
  ⟨0xFC64, 0xFC67, "\u0626\u0631 \u0626\u0632 \u0626\u0645 \u0626\u0646"⟩,
  ⟨0xFC68, 0xFC6B, "\u0626\u0649 \u0626\u064a \u0628\u0631 \u0628\u0632"⟩,
  ⟨0xFC6C, 0xFC6F, "\u0628\u0645 \u0628\u0646 \u0628\u0649 \u0628\u064a"⟩,
  ⟨0xFC70, 0xFC73, "\u062a\u0631 \u062a\u0632 \u062a\u0645 \u062a\u0646"⟩,
  ⟨0xFC74, 0xFC77, "\u062a\u0649 \u062a\u064a \u062b\u0631 \u062b\u0632"⟩,
  ⟨0xFC78, 0xFC7B, "\u062b\u0645 \u062b\u0646 \u062b\u0649 \u062b\u064a"⟩,
  ⟨0xFC7C, 0xFC7F, "\u0641\u0649 \u0641\u064a \u0642\u0649 \u0642\u064a"⟩,
  ⟨0xFC80, 0xFC83, "\u0643\u0627 \u0643\u0644 \u0643\u0645 \u0643\u0649"⟩,
  ⟨0xFC84, 0xFC87, "\u0643\u064a \u0644\u0645 \u0644\u0649 \u0644\u064a"⟩,
  ⟨0xFC88, 0xFC8B, "\u0645\u0627 \u0645\u0645 \u0646\u0631 \u0646\u0632"⟩,
  ⟨0xFC8C, 0xFC8F, "\u0646\u0645 \u0646\u0646 \u0646\u0649 \u0646\u064a"⟩,
  ⟨0xFC90, 0xFC93, "\u0649\u0670 \u064a\u0631 \u064a\u0632 \u064a\u0645"⟩,
  ⟨0xFC94, 0xFC97, "\u064a\u0646 \u064a\u0649 \u064a\u064a \u0626\u062c"⟩,
  ⟨0xFC98, 0xFC9B, "\u0626\u062d \u0626\u062e \u0626\u0645 \u0626\u0647"⟩,
  ⟨0xFC9C, 0xFC9F, "\u0628\u062c \u0628\u062d \u0628\u062e \u0628\u0645"⟩,
  ⟨0xFCA0, 0xFCA3, "\u0628\u0647 \u062a\u062c \u062a\u062d \u062a\u062e"⟩,
  ⟨0xFCA4, 0xFCA7, "\u062a\u0645 \u062a\u0647 \u062b\u0645 \u062c\u062d"⟩,
  ⟨0xFCA8, 0xFCAB, "\u062c\u0645 \u062d\u062c \u062d\u0645 \u062e\u062c"⟩,
  ⟨0xFCAC, 0xFCAF, "\u062e\u0645 \u0633\u062c \u0633\u062d \u0633\u062e"⟩,
  ⟨0xFCB0, 0xFCB3, "\u0633\u0645 \u0635\u062d \u0635\u062e \u0635\u0645"⟩,
  ⟨0xFCB4, 0xFCB7, "\u0636\u062c \u0636\u062d \u0636\u062e \u0636\u0645"⟩,
  ⟨0xFCB8, 0xFCBB, "\u0637\u062d \u0638\u0645 \u0639\u062c \u0639\u0645"⟩,
  ⟨0xFCBC, 0xFCBF, "\u063a\u062c \u063a\u0645 \u0641\u062c \u0641\u062d"⟩,
  ⟨0xFCC0, 0xFCC3, "\u0641\u062e \u0641\u0645 \u0642\u062d \u0642\u0645"⟩,
  ⟨0xFCC4, 0xFCC7, "\u0643\u062c \u0643\u062d \u0643\u062e \u0643\u0644"⟩,
  ⟨0xFCC8, 0xFCCB, "\u0643\u0645 \u0644\u062c \u0644\u062d \u0644\u062e"⟩,
  ⟨0xFCCC, 0xFCCF, "\u0644\u0645 \u0644\u0647 \u0645\u062c \u0645\u062d"⟩,
  ⟨0xFCD0, 0xFCD3, "\u0645\u062e \u0645\u0645 \u0646\u062c \u0646\u062d"⟩,
  ⟨0xFCD4, 0xFCD7, "\u0646\u062e \u0646\u0645 \u0646\u0647 \u0647\u062c"⟩,
  ⟨0xFCD8, 0xFCDB, "\u0647\u0645 \u0647\u0670 \u064a\u062c \u064a\u062d"⟩,
  ⟨0xFCDC, 0xFCDF, "\u064a\u062e \u064a\u0645 \u064a\u0647 \u0626\u0645"⟩,
  ⟨0xFCE0, 0xFCE3, "\u0626\u0647 \u0628\u0645 \u0628\u0647 \u062a\u0645"⟩,
  ⟨0xFCE4, 0xFCE7, "\u062a\u0647 \u062b\u0645 \u062b\u0647 \u0633\u0645"⟩,
  ⟨0xFCE8, 0xFCEB, "\u0633\u0647 \u0634\u0645 \u0634\u0647 \u0643\u0644"⟩,
  ⟨0xFCEC, 0xFCEF, "\u0643\u0645 \u0644\u0645 \u0646\u0645 \u0646\u0647"⟩,
  ⟨0xFCF0, 0xFCF2, "\u064a\u0645 \u064a\u0647 \u0640\u064e\u0651"⟩,
  ⟨0xFCF3, 0xFCF5, "\u0640\u064f\u0651 \u0640\u0650\u0651 \u0637\u0649"⟩,
  ⟨0xFCF6, 0xFCF9, "\u0637\u064a \u0639\u0649 \u0639\u064a \u063a\u0649"⟩,
  ⟨0xFCFA, 0xFCFD, "\u063a\u064a \u0633\u0649 \u0633\u064a \u0634\u0649"⟩,
  ⟨0xFCFE, 0xFD01, "\u0634\u064a \u062d\u0649 \u062d\u064a \u062c\u0649"⟩,
  ⟨0xFD02, 0xFD05, "\u062c\u064a \u062e\u0649 \u062e\u064a \u0635\u0649"⟩,
  ⟨0xFD06, 0xFD09, "\u0635\u064a \u0636\u0649 \u0636\u064a \u0634\u062c"⟩,
  ⟨0xFD0A, 0xFD0D, "\u0634\u062d \u0634\u062e \u0634\u0645 \u0634\u0631"⟩,
  ⟨0xFD0E, 0xFD11, "\u0633\u0631 \u0635\u0631 \u0636\u0631 \u0637\u0649"⟩,
  ⟨0xFD12, 0xFD15, "\u0637\u064a \u0639\u0649 \u0639\u064a \u063a\u0649"⟩,
  ⟨0xFD16, 0xFD19, "\u063a\u064a \u0633\u0649 \u0633\u064a \u0634\u0649"⟩,
  ⟨0xFD1A, 0xFD1D, "\u0634\u064a \u062d\u0649 \u062d\u064a \u062c\u0649"⟩,
  ⟨0xFD1E, 0xFD21, "\u062c\u064a \u062e\u0649 \u062e\u064a \u0635\u0649"⟩,
  ⟨0xFD22, 0xFD25, "\u0635\u064a \u0636\u0649 \u0636\u064a \u0634\u062c"⟩,
  ⟨0xFD26, 0xFD29, "\u0634\u062d \u0634\u062e \u0634\u0645 \u0634\u0631"⟩,
  ⟨0xFD2A, 0xFD2D, "\u0633\u0631 \u0635\u0631 \u0636\u0631 \u0634\u062c"⟩,
  ⟨0xFD2E, 0xFD31, "\u0634\u062d \u0634\u062e \u0634\u0645 \u0633\u0647"⟩,
  ⟨0xFD32, 0xFD35, "\u0634\u0647 \u0637\u0645 \u0633\u062c \u0633\u062d"⟩,
  ⟨0xFD36, 0xFD39, "\u0633\u062e \u0634\u062c \u0634\u062d \u0634\u062e"⟩,
  ⟨0xFD3A, 0xFD3D, "\u0637\u0645 \u0638\u0645 \u0627\u064b \u0627\u064b"⟩,
  ⟨0xFD50, 0xFD52, "\u062a\u062c\u0645 \u062a\u062d\u062c \u062a\u062d\u062c"⟩,
  ⟨0xFD53, 0xFD55, "\u062a\u062d\u0645 \u062a\u062e\u0645 \u062a\u0645\u062c"⟩,
  ⟨0xFD56, 0xFD58, "\u062a\u0645\u062d \u062a\u0645\u062e \u062c\u0645\u062d"⟩,
  ⟨0xFD59, 0xFD5B, "\u062c\u0645\u062d \u062d\u0645\u064a \u062d\u0645\u0649"⟩,
  ⟨0xFD5C, 0xFD5E, "\u0633\u062d\u062c \u0633\u062c\u062d \u0633\u062c\u0649"⟩,
  ⟨0xFD5F, 0xFD61, "\u0633\u0645\u062d \u0633\u0645\u062d \u0633\u0645\u062c"⟩,
  ⟨0xFD62, 0xFD64, "\u0633\u0645\u0645 \u0633\u0645\u0645 \u0635\u062d\u062d"⟩,
  ⟨0xFD65, 0xFD67, "\u0635\u062d\u062d \u0635\u0645\u0645 \u0634\u062d\u0645"⟩,
  ⟨0xFD68, 0xFD6A, "\u0634\u062d\u0645 \u0634\u062c\u064a \u0634\u0645\u062e"⟩,
  ⟨0xFD6B, 0xFD6D, "\u0634\u0645\u062e \u0634\u0645\u0645 \u0634\u0645\u0645"⟩,
  ⟨0xFD6E, 0xFD70, "\u0636\u062d\u0649 \u0636\u062e\u0645 \u0636\u062e\u0645"⟩,
  ⟨0xFD71, 0xFD73, "\u0637\u0645\u062d \u0637\u0645\u062d \u0637\u0645\u0645"⟩,
  ⟨0xFD74, 0xFD76, "\u0637\u0645\u064a \u0639\u062c\u0645 \u0639\u0645\u0645"⟩,
  ⟨0xFD77, 0xFD79, "\u0639\u0645\u0645 \u0639\u0645\u0649 \u063a\u0645\u0645"⟩,
  ⟨0xFD7A, 0xFD7C, "\u063a\u0645\u064a \u063a\u0645\u0649 \u0641\u062e\u0645"⟩,
  ⟨0xFD7D, 0xFD7F, "\u0641\u062e\u0645 \u0642\u0645\u062d \u0642\u0645\u0645"⟩,
  ⟨0xFD80, 0xFD82, "\u0644\u062d\u0645 \u0644\u062d\u064a \u0644\u062d\u0649"⟩,
  ⟨0xFD83, 0xFD85, "\u0644\u062c\u062c \u0644\u062c\u062c \u0644\u062e\u0645"⟩,
  ⟨0xFD86, 0xFD88, "\u0644\u062e\u0645 \u0644\u0645\u062d \u0644\u0645\u062d"⟩,
  ⟨0xFD89, 0xFD8B, "\u0645\u062d\u062c \u0645\u062d\u0645 \u0645\u062d\u064a"⟩,
  ⟨0xFD8C, 0xFD8E, "\u0645\u062c\u062d \u0645\u062c\u0645 \u0645\u062e\u062c"⟩,
  ⟨0xFD8F, 0xFD8F, "\u0645\u062e\u0645"⟩,
  ⟨0xFD92, 0xFD94, "\u0645\u062c\u062e \u0647\u0645\u062c \u0647\u0645\u0645"⟩,
  ⟨0xFD95, 0xFD97, "\u0646\u062d\u0645 \u0646\u062d\u0649 \u0646\u062c\u0645"⟩,
  ⟨0xFD98, 0xFD9A, "\u0646\u062c\u0645 \u0646\u062c\u0649 \u0646\u0645\u064a"⟩,
  ⟨0xFD9B, 0xFD9D, "\u0646\u0645\u0649 \u064a\u0645\u0645 \u064a\u0645\u0645"⟩,
  ⟨0xFD9E, 0xFDA0, "\u0628\u062e\u064a \u062a\u062c\u064a \u062a\u062c\u0649"⟩,
  ⟨0xFDA1, 0xFDA3, "\u062a\u062e\u064a \u062a\u062e\u0649 \u062a\u0645\u064a"⟩,
  ⟨0xFDA4, 0xFDA6, "\u062a\u0645\u0649 \u062c\u0645\u064a \u062c\u062d\u0649"⟩,
  ⟨0xFDA7, 0xFDA9, "\u062c\u0645\u0649 \u0633\u062e\u0649 \u0635\u062d\u064a"⟩,
  ⟨0xFDAA, 0xFDAC, "\u0634\u062d\u064a \u0636\u062d\u064a \u0644\u062c\u064a"⟩,
  ⟨0xFDAD, 0xFDAF, "\u0644\u0645\u064a \u064a\u062d\u064a \u064a\u062c\u064a"⟩,
  ⟨0xFDB0, 0xFDB2, "\u064a\u0645\u064a \u0645\u0645\u064a \u0642\u0645\u064a"⟩,
  ⟨0xFDB3, 0xFDB5, "\u0646\u062d\u064a \u0642\u0645\u062d \u0644\u062d\u0645"⟩,
  ⟨0xFDB6, 0xFDB8, "\u0639\u0645\u064a \u0643\u0645\u064a \u0646\u062c\u062d"⟩,
  ⟨0xFDB9, 0xFDBB, "\u0645\u062e\u064a \u0644\u062c\u0645 \u0643\u0645\u0645"⟩,
  ⟨0xFDBC, 0xFDBE, "\u0644\u062c\u0645 \u0646\u062c\u062d \u062c\u062d\u064a"⟩,
  ⟨0xFDBF, 0xFDC1, "\u062d\u062c\u064a \u0645\u062c\u064a \u0641\u0645\u064a"⟩,
  ⟨0xFDC2, 0xFDC4, "\u0628\u062d\u064a \u0643\u0645\u0645 \u0639\u062c\u0645"⟩,
  ⟨0xFDC5, 0xFDC7, "\u0635\u0645\u0645 \u0633\u062e\u064a \u0646\u062c\u064a"⟩,
  ⟨0xFDF0, 0xFDF1, "\u0635\u0644\u06d2 \u0642\u0644\u06d2"⟩,
  ⟨0xFDF2, 0xFDF3, "\u0627\u0644\u0644\u0647 \u0627\u0643\u0628\u0631"⟩,
  ⟨0xFDF4, 0xFDF5, "\u0645\u062d\u0645\u062f \u0635\u0644\u0639\u0645"⟩,
  ⟨0xFDF6, 0xFDF7, "\u0631\u0633\u0648\u0644 \u0639\u0644\u064a\u0647"⟩,
  ⟨0xFDF8, 0xFDF9, "\u0648\u0633\u0644\u0645 \u0635\u0644\u0649"⟩,
  ⟨0xFDFC, 0xFDFC, "\u0631\u06cc\u0627\u0644"⟩,
  ⟨0xFE10, 0xFE11, ", 、"⟩,
  ⟨0xFE13, 0xFE18, ": ; ! ? 〖 〗"⟩,
  ⟨0xFE31, 0xFE40, "— – _ _ ( ) \x7b \x7d 〔 〕 【 】 《 》 〈 〉"⟩,
  ⟨0xFE47, 0xFE48, "[ ]"⟩,
  ⟨0xFE4D, 0xFE51, "_ _ _ , 、"⟩,
  ⟨0xFE54, 0xFE63, "; : ? ! — ( ) \x7b \x7d 〔 〕 # & * + -"⟩,
  ⟨0xFE64, 0xFE66, "< > ="⟩,
  ⟨0xFE68, 0xFE6B, "\\ $ % @"⟩,
  ⟨0xFE71, 0xFE71, "\u0640\u064b"⟩,
  ⟨0xFE77, 0xFE77, "\u0640\u064e"⟩,
  ⟨0xFE79, 0xFE79, "\u0640\u064f"⟩,
  ⟨0xFE7B, 0xFE7B, "\u0640\u0650"⟩,
  ⟨0xFE7D, 0xFE7D, "\u0640\u0651"⟩,
  ⟨0xFE7F, 0xFE85, "\u0640\u0652 \u0621 \u0622 \u0622 \u0623 \u0623 \u0624"⟩,
  ⟨0xFE86, 0xFE8D, "\u0624 \u0625 \u0625 \u0626 \u0626 \u0626 \u0626 \u0627"⟩,
  ⟨0xFE8E, 0xFE95, "\u0627 \u0628 \u0628 \u0628 \u0628 \u0629 \u0629 \u062a"⟩,
  ⟨0xFE96, 0xFE9D, "\u062a \u062a \u062a \u062b \u062b \u062b \u062b \u062c"⟩,
  ⟨0xFE9E, 0xFEA5, "\u062c \u062c \u062c \u062d \u062d \u062d \u062d \u062e"⟩,
  ⟨0xFEA6, 0xFEAD, "\u062e \u062e \u062e \u062f \u062f \u0630 \u0630 \u0631"⟩,
  ⟨0xFEAE, 0xFEB5, "\u0631 \u0632 \u0632 \u0633 \u0633 \u0633 \u0633 \u0634"⟩,
  ⟨0xFEB6, 0xFEBD, "\u0634 \u0634 \u0634 \u0635 \u0635 \u0635 \u0635 \u0636"⟩,
  ⟨0xFEBE, 0xFEC5, "\u0636 \u0636 \u0636 \u0637 \u0637 \u0637 \u0637 \u0638"⟩,
  ⟨0xFEC6, 0xFECD, "\u0638 \u0638 \u0638 \u0639 \u0639 \u0639 \u0639 \u063a"⟩,
  ⟨0xFECE, 0xFED5, "\u063a \u063a \u063a \u0641 \u0641 \u0641 \u0641 \u0642"⟩,
  ⟨0xFED6, 0xFEDD, "\u0642 \u0642 \u0642 \u0643 \u0643 \u0643 \u0643 \u0644"⟩,
  ⟨0xFEDE, 0xFEE5, "\u0644 \u0644 \u0644 \u0645 \u0645 \u0645 \u0645 \u0646"⟩,
  ⟨0xFEE6, 0xFEED, "\u0646 \u0646 \u0646 \u0647 \u0647 \u0647 \u0647 \u0648"⟩,
  ⟨0xFEEE, 0xFEF4, "\u0648 \u0649 \u0649 \u064a \u064a \u064a \u064a"⟩,
  ⟨0xFEF5, 0xFEF8, "\u0644\u0622 \u0644\u0622 \u0644\u0623 \u0644\u0623"⟩,
  ⟨0xFEF9, 0xFEFC, "\u0644\u0625 \u0644\u0625 \u0644\u0627 \u0644\u0627"⟩,
  ⟨0xFF5F, 0xFF6E, "⦅ ⦆ . 「 」 、 ・ ヲ ァ ィ ゥ ェ ォ ャ ュ ョ"⟩,
  ⟨0xFF6F, 0xFF7E, "ッ ー ア イ ウ エ オ カ キ ク ケ コ サ シ ス セ"⟩,
  ⟨0xFF7F, 0xFF84, "ソ タ チ ツ テ ト"⟩,
  ⟨0xFF8B, 0xFF8E, "ヒ フ ヘ ホ"⟩,
  ⟨0xFF94, 0xFF95, "ヤ ユ"⟩,
  ⟨0xFF9C, 0xFF9F, "ワ ン \u3099 \u309a"⟩,
  ⟨0xFFA1, 0xFFA9, "ᄀ ᄁ ᆪ ᄂ ᆬ ᆭ ᄃ ᄄ ᄅ"⟩,
  ⟨0xFFB0, 0xFFB4, "ᄚ ᄆ ᄇ ᄈ ᄡ"⟩,
  ⟨0xFFDA, 0xFFDC, "ᅳ ᅴ ᅵ"⟩,
  ⟨0xFFE0, 0xFFE2, "¢ £ ¬"⟩,
  ⟨0xFFE4, 0xFFE6, "¦ ¥ ₩"⟩,
  ⟨0xFFE8, 0xFFE8, "│"⟩,
  ⟨0xFFED, 0xFFEE, "■ ○"⟩,
  ⟨0x1058D, 0x1058D, "𐖴"⟩,
  ⟨0x1058F, 0x1058F, "𐖶"⟩,
  ⟨0x10591, 0x10591, "𐖸"⟩,
  ⟨0x10595, 0x10595, "𐖼"⟩,
  ⟨0x10781, 0x10785, "ː ˑ æ ʙ ɓ"⟩,
  ⟨0x10787, 0x10796, "ʣ ꭦ ʥ ʤ ɖ ɗ ᶑ ɘ ɞ ʩ ɤ ɢ ɠ ʛ ħ ʜ"⟩,
  ⟨0x10797, 0x107A6, "ɧ ʄ ʪ ʫ ɬ 𝼄 ꞎ ɮ 𝼅 ʎ 𝼆 ø ɶ ɷ q ɺ"⟩,
  ⟨0x107A7, 0x107B0, "𝼈 ɽ ɾ ʀ ʨ ʦ ꭧ ʧ ʈ ⱱ"⟩,
  ⟨0x107B2, 0x107BA, "ʏ ʡ ʢ ʘ ǀ ǁ ǂ 𝼊 𝼞"⟩,
  ⟨0x1D15E, 0x1D164, "𝅗𝅥 𝅘𝅥 𝅘𝅥𝅮 𝅘𝅥𝅯 𝅘𝅥𝅰 𝅘𝅥𝅱 𝅘𝅥𝅲"⟩,
  ⟨0x1D1BB, 0x1D1C0, "𝆹𝅥 𝆺𝅥 𝆹𝅥𝅮 𝆺𝅥𝅮 𝆹𝅥𝅯 𝆺𝅥𝅯"⟩,
  ⟨0x1D44F, 0x1D44F, "b"⟩,
  ⟨0x1D451, 0x1D451, "d"⟩,
  ⟨0x1D453, 0x1D453, "f"⟩,
  ⟨0x1D49C, 0x1D49C, "a"⟩,
  ⟨0x1D49E, 0x1D49F, "c d"⟩,
  ⟨0x1D4A2, 0x1D4A2, "g"⟩,
  ⟨0x1D4A5, 0x1D4A6, "j k"⟩,
  ⟨0x1D4BE, 0x1D4BE, "i"⟩,
  ⟨0x1D4C0, 0x1D4C0, "k"⟩,
  ⟨0x1D4C2, 0x1D4C2, "m"⟩,
  ⟨0x1D504, 0x1D505, "a b"⟩,
  ⟨0x1D538, 0x1D539, "a b"⟩,
  ⟨0x1D546, 0x1D546, "o"⟩,
  ⟨0x1D6A4, 0x1D6A5, "ı ȷ"⟩,
  ⟨0x1D6B9, 0x1D6B9, "θ"⟩,
  ⟨0x1D6C1, 0x1D6C1, "∇"⟩,
  ⟨0x1D6D3, 0x1D6D3, "σ"⟩,
  ⟨0x1D6DB, 0x1D6E1, "∂ ε θ κ φ ρ π"⟩,
  ⟨0x1D6F3, 0x1D6F3, "θ"⟩,
  ⟨0x1D6FB, 0x1D6FB, "∇"⟩,
  ⟨0x1D70D, 0x1D70D, "σ"⟩,
  ⟨0x1D715, 0x1D71B, "∂ ε θ κ φ ρ π"⟩,
  ⟨0x1D72D, 0x1D72D, "θ"⟩,
  ⟨0x1D735, 0x1D735, "∇"⟩,
  ⟨0x1D747, 0x1D747, "σ"⟩,
  ⟨0x1D74F, 0x1D755, "∂ ε θ κ φ ρ π"⟩,
  ⟨0x1D767, 0x1D767, "θ"⟩,
  ⟨0x1D76F, 0x1D76F, "∇"⟩,
  ⟨0x1D781, 0x1D781, "σ"⟩,
  ⟨0x1D789, 0x1D78F, "∂ ε θ κ φ ρ π"⟩,
  ⟨0x1D7A1, 0x1D7A1, "θ"⟩,
  ⟨0x1D7A9, 0x1D7A9, "∇"⟩,
  ⟨0x1D7BB, 0x1D7BB, "σ"⟩,
  ⟨0x1D7C3, 0x1D7CB, "∂ ε θ κ φ ρ π ϝ ϝ"⟩,
  ⟨0x1E039, 0x1E03B, "к л м"⟩,
  ⟨0x1E047, 0x1E050, "ы э ю ꚉ ә і ј ө ү ӏ"⟩,
  ⟨0x1E05A, 0x1E05E, "к л о п с"⟩,
  ⟨0x1E065, 0x1E06D, "ъ ы ґ і ѕ џ ҫ ꙑ ұ"⟩,
  ⟨0x1EE00, 0x1EE03, "\u0627 \u0628 \u062c \u062f"⟩,
  ⟨0x1EE05, 0x1EE09, "\u0648 \u0632 \u062d \u0637 \u064a"⟩,
  ⟨0x1EE0E, 0x1EE14, "\u0633 \u0639 \u0641 \u0635 \u0642 \u0631 \u0634"⟩,
  ⟨0x1EE15, 0x1EE1B, "\u062a \u062b \u062e \u0630 \u0636 \u0638 \u063a"⟩,
  ⟨0x1EE1C, 0x1EE1F, "\u066e \u06ba \u06a1 \u066f"⟩,
  ⟨0x1EE21, 0x1EE22, "\u0628 \u062c"⟩,
  ⟨0x1EE24, 0x1EE24, "\u0647"⟩,
  ⟨0x1EE27, 0x1EE27, "\u062d"⟩,
  ⟨0x1EE29, 0x1EE29, "\u064a"⟩,
  ⟨0x1EE2E, 0x1EE32, "\u0633 \u0639 \u0641 \u0635 \u0642"⟩,
  ⟨0x1EE34, 0x1EE37, "\u0634 \u062a \u062b \u062e"⟩,
  ⟨0x1EE39, 0x1EE39, "\u0636"⟩,
  ⟨0x1EE3B, 0x1EE3B, "\u063a"⟩,
  ⟨0x1EE42, 0x1EE42, "\u062c"⟩,
  ⟨0x1EE47, 0x1EE47, "\u062d"⟩,
  ⟨0x1EE49, 0x1EE49, "\u064a"⟩,
  ⟨0x1EE4B, 0x1EE4B, "\u0644"⟩,
  ⟨0x1EE4D, 0x1EE4F, "\u0646 \u0633 \u0639"⟩,
  ⟨0x1EE51, 0x1EE52, "\u0635 \u0642"⟩,
  ⟨0x1EE54, 0x1EE54, "\u0634"⟩,
  ⟨0x1EE57, 0x1EE57, "\u062e"⟩,
  ⟨0x1EE59, 0x1EE59, "\u0636"⟩,
  ⟨0x1EE5B, 0x1EE5B, "\u063a"⟩,
  ⟨0x1EE5D, 0x1EE5D, "\u06ba"⟩,
  ⟨0x1EE5F, 0x1EE5F, "\u066f"⟩,
  ⟨0x1EE61, 0x1EE62, "\u0628 \u062c"⟩,
  ⟨0x1EE64, 0x1EE64, "\u0647"⟩,
  ⟨0x1EE67, 0x1EE6A, "\u062d \u0637 \u064a \u0643"⟩,
  ⟨0x1EE6C, 0x1EE72, "\u0645 \u0646 \u0633 \u0639 \u0641 \u0635 \u0642"⟩,
  ⟨0x1EE74, 0x1EE77, "\u0634 \u062a \u062b \u062e"⟩,
  ⟨0x1EE79, 0x1EE7C, "\u0636 \u0638 \u063a \u066e"⟩,
  ⟨0x1EE7E, 0x1EE7E, "\u06a1"⟩,
  ⟨0x1EE80, 0x1EE86, "\u0627 \u0628 \u062c \u062f \u0647 \u0648 \u0632"⟩,
  ⟨0x1EE87, 0x1EE89, "\u062d \u0637 \u064a"⟩,
  ⟨0x1EE8B, 0x1EE91, "\u0644 \u0645 \u0646 \u0633 \u0639 \u0641 \u0635"⟩,
  ⟨0x1EE92, 0x1EE98, "\u0642 \u0631 \u0634 \u062a \u062b \u062e \u0630"⟩,
  ⟨0x1EE99, 0x1EE9B, "\u0636 \u0638 \u063a"⟩,
  ⟨0x1EEA1, 0x1EEA3, "\u0628 \u062c \u062f"⟩,
  ⟨0x1EEA5, 0x1EEA9, "\u0648 \u0632 \u062d \u0637 \u064a"⟩,
  ⟨0x1EEAB, 0x1EEB1, "\u0644 \u0645 \u0646 \u0633 \u0639 \u0641 \u0635"⟩,
  ⟨0x1EEB2, 0x1EEB8, "\u0642 \u0631 \u0634 \u062a \u062b \u062e \u0630"⟩,
  ⟨0x1EEB9, 0x1EEBB, "\u0636 \u0638 \u063a"⟩,
  ⟨0x1F101, 0x1F10A, "0, 1, 2, 3, 4, 5, 6, 7, 8, 9,"⟩,
  ⟨0x1F110, 0x1F11C, "(a) (b) (c) (d) (e) (f) (g) (h) (i) (j) (k) (l) (m)"⟩,
  ⟨0x1F11D, 0x1F129, "(n) (o) (p) (q) (r) (s) (t) (u) (v) (w) (x) (y) (z)"⟩,
  ⟨0x1F12A, 0x1F12E, "〔s〕 c r cd wz"⟩,
  ⟨0x1F14A, 0x1F14F, "hv mv sd ss ppv wc"⟩,
  ⟨0x1F16A, 0x1F16C, "mc md mr"⟩,
  ⟨0x1F190, 0x1F190, "dj"⟩,
  ⟨0x1F200, 0x1F202, "ほか ココ サ"⟩,
  ⟨0x1F210, 0x1F21F, "手 字 双 デ 二 多 解 天 交 映 無 料 前 後 再 新"⟩,
  ⟨0x1F220, 0x1F22F, "初 終 生 販 声 吹 演 投 捕 一 三 遊 左 中 右 指"⟩,
  ⟨0x1F230, 0x1F23B, "走 打 禁 空 合 満 有 月 申 割 営 配"⟩,
  ⟨0x1F240, 0x1F248, "〔本〕 〔三〕 〔二〕 〔安〕 〔点〕 〔打〕 〔盗〕 〔勝〕 〔敗〕"⟩,
  ⟨0x1F250, 0x1F251, "得 可"⟩,
  ⟨0x2F800, 0x2F80F, "丽 丸 乁 𠄢 你 侮 侻 倂 偺 備 僧 像 㒞 𠘺 免 兔"⟩,
  ⟨0x2F810, 0x2F81F, "兤 具 𠔜 㒹 內 再 𠕋 冗 冤 仌 冬 况 𩇟 凵 刃 㓟"⟩,
  ⟨0x2F820, 0x2F82F, "刻 剆 割 剷 㔕 勇 勉 勤 勺 包 匆 北 卉 卑 博 即"⟩,
  ⟨0x2F830, 0x2F83F, "卽 卿 卿 卿 𠨬 灰 及 叟 𠭣 叫 叱 吆 咞 吸 呈 周"⟩,
  ⟨0x2F840, 0x2F84F, "咢 哶 唐 啓 啣 善 善 喙 喫 喳 嗂 圖 嘆 圗 噑 噴"⟩,
  ⟨0x2F850, 0x2F85F, "切 壮 城 埴 堍 型 堲 報 墬 𡓤 売 壷 夆 多 夢 奢"⟩,
  ⟨0x2F860, 0x2F86F, "𡚨 𡛪 姬 娛 娧 姘 婦 㛮 㛼 嬈 嬾 嬾 𡧈 寃 寘 寧"⟩,
  ⟨0x2F870, 0x2F87F, "寳 𡬘 寿 将 当 尢 㞁 屠 屮 峀 岍 𡷤 嵃 𡷦 嵮 嵫"⟩,
  ⟨0x2F880, 0x2F88F, "嵼 巡 巢 㠯 巽 帨 帽 幩 㡢 𢆃 㡼 庰 庳 庶 廊 𪎒"⟩,
  ⟨0x2F890, 0x2F89F, "廾 𢌱 𢌱 舁 弢 弢 㣇 𣊸 𦇚 形 彫 㣣 徚 忍 志 忹"⟩,
  ⟨0x2F8A0, 0x2F8AF, "悁 㤺 㤜 悔 𢛔 惇 慈 慌 慎 慌 慺 憎 憲 憤 憯 懞"⟩,
  ⟨0x2F8B0, 0x2F8BF, "懲 懶 成 戛 扝 抱 拔 捐 𢬌 挽 拼 捨 掃 揤 𢯱 搢"⟩,
  ⟨0x2F8C0, 0x2F8CF, "揅 掩 㨮 摩 摾 撝 摷 㩬 敏 敬 𣀊 旣 書 晉 㬙 暑"⟩,
  ⟨0x2F8D0, 0x2F8DF, "㬈 㫤 冒 冕 最 暜 肭 䏙 朗 望 朡 杞 杓 𣏃 㭉 柺"⟩,
  ⟨0x2F8E0, 0x2F8EF, "枅 桒 梅 𣑭 梎 栟 椔 㮝 楂 榣 槪 檨 𣚣 櫛 㰘 次"⟩,
  ⟨0x2F8F0, 0x2F8FF, "𣢧 歔 㱎 歲 殟 殺 殻 𣪍 𡴋 𣫺 汎 𣲼 沿 泍 汧 洖"⟩,
  ⟨0x2F900, 0x2F90F, "派 海 流 浩 浸 涅 𣴞 洴 港 湮 㴳 滋 滇 𣻑 淹 潮"⟩,
  ⟨0x2F910, 0x2F91F, "𣽞 𣾎 濆 瀹 瀞 瀛 㶖 灊 災 灷 炭 𠔥 煅 𤉣 熜 𤎫"⟩,
  ⟨0x2F920, 0x2F92F, "爨 爵 牐 𤘈 犀 犕 𤜵 𤠔 獺 王 㺬 玥 㺸 㺸 瑇 瑜"⟩,
  ⟨0x2F930, 0x2F93F, "瑱 璅 瓊 㼛 甤 𤰶 甾 𤲒 異 𢆟 瘐 𤾡 𤾸 𥁄 㿼 䀈"⟩,
  ⟨0x2F940, 0x2F94F, "直 𥃳 𥃲 𥄙 𥄳 眞 真 真 睊 䀹 瞋 䁆 䂖 𥐝 硎 碌"⟩,
  ⟨0x2F950, 0x2F95F, "磌 䃣 𥘦 祖 𥚚 𥛅 福 秫 䄯 穀 穊 穏 𥥼 𥪧 𥪧 竮"⟩,
  ⟨0x2F960, 0x2F96F, "䈂 𥮫 篆 築 䈧 𥲀 糒 䊠 糨 糣 紀 𥾆 絣 䌁 緇 縂"⟩,
  ⟨0x2F970, 0x2F97F, "繅 䌴 𦈨 𦉇 䍙 𦋙 罺 𦌾 羕 翺 者 𦓚 𦔣 聠 𦖨 聰"⟩,
  ⟨0x2F980, 0x2F98F, "𣍟 䏕 育 脃 䐋 脾 媵 𦞧 𦞵 𣎓 𣎜 舁 舄 辞 䑫 芑"⟩,
  ⟨0x2F990, 0x2F99F, "芋 芝 劳 花 芳 芽 苦 𦬼 若 茝 荣 莭 茣 莽 菧 著"⟩,
  ⟨0x2F9A0, 0x2F9AF, "荓 菊 菌 菜 𦰶 𦵫 𦳕 䔫 蓱 蓳 蔖 𧏊 蕤 𦼬 䕝 䕡"⟩,
  ⟨0x2F9B0, 0x2F9BF, "𦾱 𧃒 䕫 虐 虜 虧 虩 蚩 蚈 蜎 蛢 蝹 蜨 蝫 螆 䗗"⟩,
  ⟨0x2F9C0, 0x2F9CF, "蟡 蠁 䗹 衠 衣 𧙧 裗 裞 䘵 裺 㒻 𧢮 𧥦 䚾 䛇 誠"⟩,
  ⟨0x2F9D0, 0x2F9DF, "諭 變 豕 𧲨 貫 賁 贛 起 𧼯 𠠄 跋 趼 跰 𠣞 軔 輸"⟩,
  ⟨0x2F9E0, 0x2F9EF, "𨗒 𨗭 邔 郱 鄑 𨜮 鄛 鈸 鋗 鋘 鉼 鏹 鐕 𨯺 開 䦕"⟩,
  ⟨0x2F9F0, 0x2F9FF, "閷 𨵷 䧦 雃 嶲 霣 𩅅 𩈚 䩮 䩶 韠 𩐊 䪲 𩒖 頋 頋"⟩,
  ⟨0x2FA00, 0x2FA0F, "頩 𩖶 飢 䬳 餩 馧 駂 駾 䯎 𩬰 鬒 鱀 鳽 䳎 䳭 鵧"⟩,
  ⟨0x2FA10, 0x2FA1D, "𪃎 䳸 𪄅 𪈎 𪊑 麻 䵖 黹 黾 鼅 鼏 鼖 鼻 𪘀"⟩]

end Folding
end BookLookup
