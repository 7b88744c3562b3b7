/-!
# Composites

A letter and the mark after it, and sometimes two letters, have a single
character that stands for both, their composite. Only the composites that texts
prefer to the two characters are listed; they are those of Unicode 17. The
composites of Korean letters follow a rule and are not listed.
-/

namespace BookLookup
namespace Composite

/-- Composites with the same second character. -/
structure Row where
  /-- The code point of the second character. -/
  second : Nat
  /-- The first characters. -/
  firsts : String
  /-- The composites, one for each first character. -/
  composites : String

/-- The composites in the order of their second characters. -/
def rows : List Row := [
  ⟨0x300, "AEINOUWYaeinouwy¨ÂÊÔÜâêôüĂăĒēŌ", "ÀÈÌǸÒÙẀỲàèìǹòùẁỳ῭ẦỀỒǛầềồǜẰằḔḕṐ"⟩,
  ⟨0x300, "ōƠơƯưΑΕΗΙΟΥΩαεηιουωϊϋЕИеиἀἁἈἉἐ", "ṑỜờỪừᾺῈῊῚῸῪῺὰὲὴὶὸὺὼῒῢЀЍѐѝἂἃἊἋἒ"⟩,
  ⟨0x300, "ἑἘἙἠἡἨἩἰἱἸἹὀὁὈὉὐὑὙὠὡὨὩ᾿῾", "ἓἚἛἢἣἪἫἲἳἺἻὂὃὊὋὒὓὛὢὣὪὫ῍῝"⟩,
  ⟨0x301, "ACEGIKLMNOPRSUWYZacegiklmnoprs", "ÁĆÉǴÍḰĹḾŃÓṔŔŚÚẂÝŹáćéǵíḱĺḿńóṕŕś"⟩,
  ⟨0x301, "uwyz¨ÂÅÆÇÊÏÔÕØÜâåæçêïôõøüĂăĒēŌ", "úẃýź΅ẤǺǼḈẾḮỐṌǾǗấǻǽḉếḯốṍǿǘẮắḖḗṒ"⟩,
  ⟨0x301, "ōŨũƠơƯưΑΕΗΙΟΥΩαεηιουωϊϋϒГКгкἀἁ", "ṓṸṹỚớỨứΆΈΉΊΌΎΏάέήίόύώΐΰϓЃЌѓќἄἅ"⟩,
  ⟨0x301, "ἈἉἐἑἘἙἠἡἨἩἰἱἸἹὀὁὈὉὐὑὙὠὡὨὩ᾿῾", "ἌἍἔἕἜἝἤἥἬἭἴἵἼἽὄὅὌὍὔὕὝὤὥὬὭ῎῞"⟩,
  ⟨0x302, "ACEGHIJOSUWYZaceghijosuwyzẠạẸẹ", "ÂĈÊĜĤÎĴÔŜÛŴŶẐâĉêĝĥîĵôŝûŵŷẑẬậỆệ"⟩,
  ⟨0x302, "Ọọ", "Ộộ"⟩,
  ⟨0x303, "AEINOUVYaeinouvyÂÊÔâêôĂăƠơƯư", "ÃẼĨÑÕŨṼỸãẽĩñõũṽỹẪỄỖẫễỗẴẵỠỡỮữ"⟩,
  ⟨0x304, "AEGIOUYaegiouyÄÆÕÖÜäæõöüǪǫȦȧȮȯ", "ĀĒḠĪŌŪȲāēḡīōūȳǞǢȬȪǕǟǣȭȫǖǬǭǠǡȰȱ"⟩,
  ⟨0x304, "ΑΙΥαιυИУиуḶḷṚṛ", "ᾹῙῩᾱῑῡӢӮӣӯḸḹṜṝ"⟩,
  ⟨0x306, "AEGIOUaegiouȨȩΑΙΥαιυАЕЖИУаежиу", "ĂĔĞĬŎŬăĕğĭŏŭḜḝᾸῘῨᾰῐῠӐӖӁЙЎӑӗӂйў"⟩,
  ⟨0x306, "Ạạ", "Ặặ"⟩,
  ⟨0x307, "ABCDEFGHIMNOPRSTWXYZabcdefghmn", "ȦḂĊḊĖḞĠḢİṀṄȮṖṘṠṪẆẊẎŻȧḃċḋėḟġḣṁṅ"⟩,
  ⟨0x307, "oprstwxyzŚśŠšſṢṣ𐗒𐗚", "ȯṗṙṡṫẇẋẏżṤṥṦṧẛṨṩ𐗉𐗤"⟩,
  ⟨0x308, "AEHIOUWXYaehiotuwxyÕõŪūΙΥιυϒІА", "ÄËḦÏÖÜẄẌŸäëḧïöẗüẅẍÿṎṏṺṻΪΫϊϋϔЇӒ"⟩,
  ⟨0x308, "ЕЖЗИОУЧЫЭаежзиоучыэіӘәӨө", "ЁӜӞӤӦӰӴӸӬӓёӝӟӥӧӱӵӹӭїӚӛӪӫ"⟩,
  ⟨0x309, "AEIOUYaeiouyÂÊÔâêôĂăƠơƯư", "ẢẺỈỎỦỶảẻỉỏủỷẨỂỔẩểổẲẳỞởỬử"⟩,
  ⟨0x30A, "AUauwy", "ÅŮåůẘẙ"⟩,
  ⟨0x30B, "OUouУу", "ŐŰőűӲӳ"⟩,
  ⟨0x30C, "ACDEGHIKLNORSTUZacdeghijklnors", "ǍČĎĚǦȞǏǨĽŇǑŘŠŤǓŽǎčďěǧȟǐǰǩľňǒřš"⟩,
  ⟨0x30C, "tuzÜüƷʒ", "ťǔžǙǚǮǯ"⟩,
  ⟨0x30F, "AEIORUaeioruѴѵ", "ȀȄȈȌȐȔȁȅȉȍȑȕѶѷ"⟩,
  ⟨0x311, "AEIORUaeioru", "ȂȆȊȎȒȖȃȇȋȏȓȗ"⟩,
  ⟨0x313, "ΑΕΗΙΟΩαεηιορυω", "ἈἘἨἸὈὨἀἐἠἰὀῤὐὠ"⟩,
  ⟨0x314, "ΑΕΗΙΟΡΥΩαεηιορυω", "ἉἙἩἹὉῬὙὩἁἑἡἱὁῥὑὡ"⟩,
  ⟨0x31B, "OUou", "ƠƯơư"⟩,
  ⟨0x323, "ABDEHIKLMNORSTUVWYZabdehiklmno", "ẠḄḌẸḤỊḲḶṂṆỌṚṢṬỤṾẈỴẒạḅḍẹḥịḳḷṃṇọ"⟩,
  ⟨0x323, "rstuvwyzƠơƯư", "ṛṣṭụṿẉỵẓỢợỰự"⟩,
  ⟨0x324, "Uu", "Ṳṳ"⟩,
  ⟨0x325, "Aa", "Ḁḁ"⟩,
  ⟨0x326, "STst", "ȘȚșț"⟩,
  ⟨0x327, "CDEGHKLNRSTcdeghklnrst", "ÇḐȨĢḨĶĻŅŖŞŢçḑȩģḩķļņŗşţ"⟩,
  ⟨0x328, "AEIOUaeiou", "ĄĘĮǪŲąęįǫų"⟩,
  ⟨0x32D, "DELNTUdelntu", "ḒḘḼṊṰṶḓḙḽṋṱṷ"⟩,
  ⟨0x32E, "Hh", "Ḫḫ"⟩,
  ⟨0x330, "EIUeiu", "ḚḬṴḛḭṵ"⟩,
  ⟨0x331, "BDKLNRTZbdhklnrtz", "ḆḎḴḺṈṞṮẔḇḏẖḵḻṉṟṯẕ"⟩,
  ⟨0x338, "<=>←→↔⇐⇒⇔∃∈∋∣∥∼≃≅≈≍≡≤≥≲≳≶≷≺≻≼≽", "≮≠≯↚↛↮⇍⇏⇎∄∉∌∤∦≁≄≇≉≭≢≰≱≴≵≸≹⊀⊁⋠⋡"⟩,
  ⟨0x338, "⊂⊃⊆⊇⊑⊒⊢⊨⊩⊫⊲⊳⊴⊵", "⊄⊅⊈⊉⋢⋣⊬⊭⊮⊯⋪⋫⋬⋭"⟩,
  ⟨0x342, "¨αηιυωϊϋἀἁἈἉἠἡἨἩἰἱἸἹὐὑὙὠὡὨὩ᾿῾", "῁ᾶῆῖῦῶῗῧἆἇἎἏἦἧἮἯἶἷἾἿὖὗὟὦὧὮὯ῏῟"⟩,
  ⟨0x345, "ΑΗΩάήαηωώἀἁἂἃἄἅἆἇἈἉἊἋἌἍἎἏἠἡἢἣἤ", "ᾼῌῼᾴῄᾳῃῳῴᾀᾁᾂᾃᾄᾅᾆᾇᾈᾉᾊᾋᾌᾍᾎᾏᾐᾑᾒᾓᾔ"⟩,
  ⟨0x345, "ἥἦἧἨἩἪἫἬἭἮἯὠὡὢὣὤὥὦὧὨὩὪὫὬὭὮὯὰὴὼ", "ᾕᾖᾗᾘᾙᾚᾛᾜᾝᾞᾟᾠᾡᾢᾣᾤᾥᾦᾧᾨᾩᾪᾫᾬᾭᾮᾯᾲῂῲ"⟩,
  ⟨0x345, "ᾶῆῶ", "ᾷῇῷ"⟩,
  ⟨0x653, "\u0627", "\u0622"⟩,
  ⟨0x654, "\u0627\u0648\u064a\u06c1\u06d2", "\u0623\u0624\u0626\u06c2\u06d3"⟩,
  ⟨0x654, "\u06d5", "\u06c0"⟩,
  ⟨0x655, "\u0627", "\u0625"⟩,
  ⟨0x93C, "नरळ", "ऩऱऴ"⟩,
  ⟨0x9BE, "\u09c7", "\u09cb"⟩,
  ⟨0x9D7, "\u09c7", "\u09cc"⟩,
  ⟨0xB3E, "\u0b47", "\u0b4b"⟩,
  ⟨0xB56, "\u0b47", "\u0b48"⟩,
  ⟨0xB57, "\u0b47", "\u0b4c"⟩,
  ⟨0xBBE, "\u0bc6\u0bc7", "\u0bca\u0bcb"⟩,
  ⟨0xBD7, "ஒ\u0bc6", "ஔ\u0bcc"⟩,
  ⟨0xC56, "\u0c46", "\u0c48"⟩,
  ⟨0xCC2, "\u0cc6", "\u0cca"⟩,
  ⟨0xCD5, "\u0cbf\u0cc6\u0cca", "\u0cc0\u0cc7\u0ccb"⟩,
  ⟨0xCD6, "\u0cc6", "\u0cc8"⟩,
  ⟨0xD3E, "\u0d46\u0d47", "\u0d4a\u0d4b"⟩,
  ⟨0xD57, "\u0d46", "\u0d4c"⟩,
  ⟨0xDCA, "\u0dd9\u0ddc", "\u0dda\u0ddd"⟩,
  ⟨0xDCF, "\u0dd9", "\u0ddc"⟩,
  ⟨0xDDF, "\u0dd9", "\u0dde"⟩,
  ⟨0x102E, "ဥ", "ဦ"⟩,
  ⟨0x1B35, "ᬅᬇᬉᬋᬍᬑ\u1b3a\u1b3c\u1b3e\u1b3f", "ᬆᬈᬊᬌᬎᬒ\u1b3b\u1b3d\u1b40\u1b41"⟩,
  ⟨0x1B35, "\u1b42", "\u1b43"⟩,
  ⟨0x3099, "うかきくけこさしすせそたちつてとはひふへほゝウカキクケコサシ", "ゔがぎぐげござじずぜぞだぢづでどばびぶべぼゞヴガギグゲゴザジ"⟩,
  ⟨0x3099, "スセソタチツテトハヒフヘホワヰヱヲヽ", "ズゼゾダヂヅデドバビブベボヷヸヹヺヾ"⟩,
  ⟨0x309A, "はひふへほハヒフヘホ", "ぱぴぷぺぽパピプペポ"⟩,
  ⟨0x110BA, "𑂙𑂛𑂥", "𑂚𑂜𑂫"⟩,
  ⟨0x11127, "𑄱𑄲", "𑄮𑄯"⟩,
  ⟨0x1133E, "𑍇", "𑍋"⟩,
  ⟨0x11357, "𑍇", "𑍌"⟩,
  ⟨0x113B8, "𑏂", "𑏇"⟩,
  ⟨0x113BB, "𑎄", "𑎅"⟩,
  ⟨0x113C2, "𑎎", "𑎎𑏅"⟩,
  ⟨0x113C9, "𑎂𑎐𑏂", "𑎃𑎑𑏈"⟩,
  ⟨0x114B0, "𑒹", "𑒼"⟩,
  ⟨0x114BA, "𑒹", "𑒻"⟩,
  ⟨0x114BD, "𑒹", "𑒾"⟩,
  ⟨0x115AF, "𑖸𑖹", "𑖺𑖻"⟩,
  ⟨0x11930, "𑤵", "𑤸"⟩,
  ⟨0x1611E, "𖄞", "𖄡"⟩,
  ⟨0x1611F, "𖄡𖄡𖄩𖄩", "𖄣𖄦𖄧𖄤"⟩,
  ⟨0x16120, "𖄡𖄞", "𖄥𖄨"⟩,
  ⟨0x16129, "𖄞", "𖄢"⟩,
  ⟨0x16D67, "𖵩𖵩", "𖵪𖵧𖵪"⟩]

/-- The composite of two characters in a row. -/
def Row.compose? (row : Row) (first second : Char) : Option Char :=
  if row.second = second.toNat then
    (row.firsts.toList.zip row.composites.toList).lookup first
  else none

/-- The two characters of a composite in a row. -/
def Row.parts? (row : Row) (symbol : Char) : Option (Char × Char) :=
  ((row.composites.toList.zip row.firsts.toList).lookup symbol).map
    fun first => (first, Char.ofNat row.second)

/-- The composite of a leading and a vowel letter, or of these and a trailing
letter. -/
def syllable? (first second : Char) : Option Char :=
  let leading := first.toNat - 0x1100
  let vowel := second.toNat - 0x1161
  let trailing := second.toNat - 0x11A7
  let lead := first.toNat - 0xAC00
  if 0x1100 ≤ first.toNat ∧ leading < 19 ∧
      0x1161 ≤ second.toNat ∧ vowel < 21 then
    some (Char.ofNat (0xAC00 + (leading * 21 + vowel) * 28))
  else if 0xAC00 ≤ first.toNat ∧ lead < 11172 ∧ lead % 28 = 0 ∧
      0x11A7 < second.toNat ∧ trailing < 28 then
    some (Char.ofNat (first.toNat + trailing))
  else none

/-- The two parts of a Korean syllable. -/
def syllableParts? (symbol : Char) : Option (Char × Char) :=
  let index := symbol.toNat - 0xAC00
  if 0xAC00 ≤ symbol.toNat ∧ index < 11172 then
    if index % 28 = 0 then
      some (Char.ofNat (0x1100 + index / 588),
        Char.ofNat (0x1161 + index % 588 / 28))
    else
      some (Char.ofNat (symbol.toNat - index % 28),
        Char.ofNat (0x11A7 + index % 28))
  else none

/-- The composite of two characters. -/
def compose? (first second : Char) : Option Char :=
  (syllable? first second).or (rows.findSome? (·.compose? first second))

/-- The two characters that a character is the composite of. -/
def parts? (symbol : Char) : Option (Char × Char) :=
  (syllableParts? symbol).or (rows.findSome? (·.parts? symbol))

end Composite
end BookLookup
