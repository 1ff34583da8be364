/-! # Letters with marks

A letter and the mark after it may be written as one character. The table lists for
each mark the letters, and in the same order the characters that are one with it. The
syllables of Hangul are composed by reckoning: of a leading consonant, a vowel, and
perhaps a trailing consonant.
-/

namespace LedgerClient.Domain

/-- For each mark the letters that it goes with, and what they make together. -/
def compositionTexts : List (Nat × String × String) :=
  [(0x300, "aeiouünеиēōwâăêôơưyἀἁἐἑἠἡἰἱὀὁὐ", "àèìòùǜǹѐѝḕṑẁầằềồờừỳἂἃἒἓἢἣἲἳὂὃὒ"),
   (0x300, "ὑὠὡαεηιουωϊϋ", "ὓὢὣὰὲὴὶὸὺὼῒῢ"),
   (0x301, "aeiouyclnrszügåæøϊαεηιϋουωгкçē", "áéíóúýćĺńŕśźǘǵǻǽǿΐάέήίΰόύώѓќḉḗ"),
   (0x301, "ïkmõōpũwâăêôơưἀἁἐἑἠἡἰἱὀὁὐὑὠὡ", "ḯḱḿṍṓṕṹẃấắếốớứἄἅἔἕἤἥἴἵὄὅὔὕὤὥ"),
   (0x302, "aeioucghjswyzạẹọ", "âêîôûĉĝĥĵŝŵŷẑậệộ"), (0x303, "anoiuvâăeêôơưy", "ãñõĩũṽẫẵẽễỗỡữỹ"),
   (0x304, "aeiouüäȧæǫöõȯyиуgḷṛαιυ", "āēīōūǖǟǡǣǭȫȭȱȳӣӯḡḹṝᾱῑῡ"),
   (0x306, "aegiouиужаеȩạαιυ", "ăĕğĭŏŭйўӂӑӗḝặᾰῐῠ"),
   (0x307, "cegzaobdfhmnprsśšṣtwxy𐗒𐗚", "ċėġżȧȯḃḋḟḣṁṅṗṙṡṥṧṩṫẇẋẏ𐗉𐗤"),
   (0x308, "aeiouyιυеіаәжзиоөэучыhõūwxt", "äëïöüÿϊϋёїӓӛӝӟӥӧӫӭӱӵӹḧṏṻẅẍẗ"),
   (0x309, "aâăeêioôơuưy", "ảẩẳẻểỉỏổởủửỷ"), (0x30a, "auwy", "åůẘẙ"), (0x30b, "ouу", "őűӳ"),
   (0x30c, "cdelnrstzaiouügkʒjh", "čďěľňřšťžǎǐǒǔǚǧǩǯǰȟ"), (0x30f, "aeioruѵ", "ȁȅȉȍȑȕѷ"),
   (0x311, "aeioru", "ȃȇȋȏȓȗ"), (0x313, "αεηιουωρ", "ἀἐἠἰὀὐὠῤ"), (0x314, "αεηιουωρ", "ἁἑἡἱὁὑὡῥ"),
   (0x31b, "ou", "ơư"), (0x323, "bdhklmnrstvwzaeioơuưy", "ḅḍḥḳḷṃṇṛṣṭṿẉẓạẹịọợụựỵ"),
   (0x324, "u", "ṳ"), (0x325, "a", "ḁ"), (0x326, "st", "șț"),
   (0x327, "cgklnrstedh", "çģķļņŗşţȩḑḩ"), (0x328, "aeiuo", "ąęįųǫ"), (0x32d, "delntu", "ḓḙḽṋṱṷ"),
   (0x32e, "h", "ḫ"), (0x330, "eiu", "ḛḭṵ"), (0x331, "bdklnrtzh", "ḇḏḵḻṉṟṯẕẖ"),
   (0x338, "←→↔⇐⇔⇒∃∈∋∣∥∼≃≅≈=≡≍<>≤≥≲≳≶≷≺≻⊂⊃", "↚↛↮⇍⇎⇏∄∉∌∤∦≁≄≇≉≠≢≭≮≯≰≱≴≵≸≹⊀⊁⊄⊅"),
   (0x338, "⊆⊇⊢⊨⊩⊫≼≽⊑⊒⊲⊳⊴⊵", "⊈⊉⊬⊭⊮⊯⋠⋡⋢⋣⋪⋫⋬⋭"), (0x342, "ἀἁἠἡἰἱὐὑὠὡαηιϊυϋω", "ἆἇἦἧἶἷὖὗὦὧᾶῆῖῗῦῧῶ"),
   (0x653, "ا", "آ"), (0x654, "اويەہے", "أؤئۀۂۓ"), (0x655, "ا", "إ"), (0x93c, "नरळ", "ऩऱऴ"),
   (0x9be, "\u09c7", "\u09cb"), (0x9d7, "\u09c7", "\u09cc"), (0xb3e, "\u0b47", "\u0b4b"),
   (0xb56, "\u0b47", "\u0b48"), (0xb57, "\u0b47", "\u0b4c"),
   (0xbbe, "\u0bc6\u0bc7", "\u0bca\u0bcb"), (0xbd7, "ஒ\u0bc6", "ஔ\u0bcc"),
   (0xc56, "\u0c46", "\u0c48"), (0xcc2, "\u0cc6", "\u0cca"),
   (0xcd5, "\u0cbf\u0cc6\u0cca", "\u0cc0\u0cc7\u0ccb"), (0xcd6, "\u0cc6", "\u0cc8"),
   (0xd3e, "\u0d46\u0d47", "\u0d4a\u0d4b"), (0xd57, "\u0d46", "\u0d4c"),
   (0xdca, "\u0dd9\u0ddc", "\u0dda\u0ddd"), (0xdcf, "\u0dd9", "\u0ddc"),
   (0xddf, "\u0dd9", "\u0dde"), (0x102e, "ဥ", "ဦ"),
   (0x1b35, "ᬅᬇᬉᬋᬍᬑ\u1b3a\u1b3c\u1b3e\u1b3f\u1b42", "ᬆᬈᬊᬌᬎᬒ\u1b3b\u1b3d\u1b40\u1b41\u1b43"),
   (0x3099, "かきくけこさしすせそたちつてとはひふへほうゝカキクケコサシス", "がぎぐげござじずぜぞだぢづでどばびぶべぼゔゞガギグゲゴザジズ"),
   (0x3099, "セソタチツテトハヒフヘホウワヰヱヲヽ", "ゼゾダヂヅデドバビブベボヴヷヸヹヺヾ"), (0x309a, "はひふへほハヒフヘホ", "ぱぴぷぺぽパピプペポ"),
   (0x110ba, "𑂙𑂛𑂥", "𑂚𑂜𑂫"), (0x11127, "𑄱𑄲", "𑄮𑄯"), (0x1133e, "𑍇", "𑍋"), (0x11357, "𑍇", "𑍌"),
   (0x113b8, "𑏂", "𑏇"), (0x113bb, "𑎄", "𑎅"), (0x113c2, "𑎎", "𑎎𑏅"), (0x113c9, "𑎂𑎐𑏂", "𑎃𑎑𑏈"),
   (0x114b0, "𑒹", "𑒼"), (0x114ba, "𑒹", "𑒻"), (0x114bd, "𑒹", "𑒾"), (0x115af, "𑖸𑖹", "𑖺𑖻"),
   (0x11930, "𑤵", "𑤸"), (0x1611e, "𖄞", "𖄡"), (0x1611f, "𖄢𖄡𖄢", "𖄣𖄤𖄦𖄧"), (0x16120, "𖄡𖄞", "𖄥𖄨"),
   (0x16129, "𖄞", "𖄢"), (0x16d67, "𖵧𖵣𖵩", "𖵨𖵩𖵪")]

/-- For each mark the pairs of a letter and of what they make together. -/
def compositions : List (Char × List (Char × Char)) :=
  compositionTexts.map fun (mark, letters, composed) =>
    (Char.ofNat mark, letters.toList.zip composed.toList)

/-- The first consonant that a syllable of Hangul can begin with. -/
def firstLeading : Nat := 0x1100

/-- How many consonants a syllable can begin with. -/
def leadingCount : Nat := 19

/-- The first vowel of Hangul. -/
def firstVowel : Nat := 0x1161

/-- How many vowels there are. -/
def vowelCount : Nat := 21

/-- The code point before the first consonant that a syllable can end with. -/
def beforeTrailing : Nat := 0x11a7

/-- How many ways a syllable can end; one of them is with its vowel. -/
def endingCount : Nat := 28

/-- The first syllable of Hangul. -/
def firstSyllable : Nat := 0xac00

/-- How many syllables there are. -/
def syllableCount : Nat := leadingCount * vowelCount * endingCount

/-- The letter and the mark that a character is made of. -/
def parts? (c : Char) : Option (Char × Char) :=
  let index := c.toNat - firstSyllable
  if firstSyllable ≤ c.toNat ∧ index < syllableCount then
    if index % endingCount = 0 then
      let syllable := index / endingCount
      some (Char.ofNat (firstLeading + syllable / vowelCount),
        Char.ofNat (firstVowel + syllable % vowelCount))
    else
      some (Char.ofNat (c.toNat - index % endingCount),
        Char.ofNat (beforeTrailing + index % endingCount))
  else
    compositions.findSome? fun (mark, pairs) =>
      (pairs.find? fun pair => pair.2 == c).map fun pair => (pair.1, mark)

/-- What a letter and a mark make together. -/
def compose? (letter mark : Char) : Option Char :=
  let leading := letter.toNat - firstLeading
  let vowel := mark.toNat - firstVowel
  let syllable := letter.toNat - firstSyllable
  let ending := mark.toNat - beforeTrailing
  if firstLeading ≤ letter.toNat ∧ leading < leadingCount ∧
      firstVowel ≤ mark.toNat ∧ vowel < vowelCount then
    some (Char.ofNat (firstSyllable + (leading * vowelCount + vowel) * endingCount))
  else if firstSyllable ≤ letter.toNat ∧ syllable < syllableCount ∧ syllable % endingCount = 0 ∧
      beforeTrailing < mark.toNat ∧ ending < endingCount then
    some (Char.ofNat (letter.toNat + ending))
  else
    compositions.findSome? fun (found, pairs) =>
      if found = mark then pairs.lookup letter else none

end LedgerClient.Domain
