/-!
# Scripts

The scripts of the Unicode character database, the characters of each, and the characters that
several scripts share.
-/

namespace RecordQuery.Pattern

/-- The names of each script beside its four-letter code, in lower case and without separators. -/
def scriptNames : List (String × String) := [
    ("adlam", "adlm"), ("ahom", "ahom"), ("anatolianhieroglyphs", "hluw"), ("arabic", "arab"),
    ("armenian", "armn"), ("avestan", "avst"), ("balinese", "bali"), ("bamum", "bamu"),
    ("bassavah", "bass"), ("batak", "batk"), ("bengali", "beng"), ("beriaerfe", "berf"),
    ("bhaiksuki", "bhks"), ("bopomofo", "bopo"), ("brahmi", "brah"), ("braille", "brai"),
    ("buginese", "bugi"), ("buhid", "buhd"), ("canadianaboriginal", "cans"), ("carian", "cari"),
    ("caucasianalbanian", "aghb"), ("chakma", "cakm"), ("cham", "cham"), ("cherokee", "cher"),
    ("chorasmian", "chrs"), ("common", "zyyy"), ("coptic", "copt"), ("cuneiform", "xsux"),
    ("cypriot", "cprt"), ("cyprominoan", "cpmn"), ("cyrillic", "cyrl"), ("deseret", "dsrt"),
    ("devanagari", "deva"), ("divesakuru", "diak"), ("dogra", "dogr"), ("duployan", "dupl"),
    ("egyptianhieroglyphs", "egyp"), ("elbasan", "elba"), ("elymaic", "elym"),
    ("ethiopic", "ethi"), ("garay", "gara"), ("georgian", "geor"), ("glagolitic", "glag"),
    ("gothic", "goth"), ("grantha", "gran"), ("greek", "grek"), ("gujarati", "gujr"),
    ("gunjalagondi", "gong"), ("gurmukhi", "guru"), ("gurungkhema", "gukh"), ("han", "hani"),
    ("hangul", "hang"), ("hanifirohingya", "rohg"), ("hanunoo", "hano"), ("hatran", "hatr"),
    ("hebrew", "hebr"), ("hiragana", "hira"), ("imperialaramaic", "armi"), ("inherited", "zinh"),
    ("inscriptionalpahlavi", "phli"), ("inscriptionalparthian", "prti"), ("javanese", "java"),
    ("kaithi", "kthi"), ("kannada", "knda"), ("katakana", "kana"), ("kawi", "kawi"),
    ("kayahli", "kali"), ("kharoshthi", "khar"), ("khitansmallscript", "kits"), ("khmer", "khmr"),
    ("khojki", "khoj"), ("khudawadi", "sind"), ("kiratrai", "krai"), ("lao", "laoo"),
    ("latin", "latn"), ("lepcha", "lepc"), ("limbu", "limb"), ("lineara", "lina"),
    ("linearb", "linb"), ("lisu", "lisu"), ("lycian", "lyci"), ("lydian", "lydi"),
    ("mahajani", "mahj"), ("makasar", "maka"), ("malayalam", "mlym"), ("mandaic", "mand"),
    ("manichaean", "mani"), ("marchen", "marc"), ("masaramgondi", "gonm"),
    ("medefaidrin", "medf"), ("meeteimayek", "mtei"), ("mendekikakui", "mend"),
    ("meroiticcursive", "merc"), ("meroitichieroglyphs", "mero"), ("miao", "plrd"),
    ("modi", "modi"), ("mongolian", "mong"), ("mro", "mroo"), ("multani", "mult"),
    ("myanmar", "mymr"), ("nabataean", "nbat"), ("nagmundari", "nagm"), ("nandinagari", "nand"),
    ("newa", "newa"), ("newtailue", "talu"), ("nko", "nkoo"), ("nushu", "nshu"),
    ("nyiakengpuachuehmong", "hmnp"), ("ogham", "ogam"), ("olchiki", "olck"),
    ("oldhungarian", "hung"), ("olditalic", "ital"), ("oldnortharabian", "narb"),
    ("oldpermic", "perm"), ("oldpersian", "xpeo"), ("oldsogdian", "sogo"),
    ("oldsoutharabian", "sarb"), ("oldturkic", "orkh"), ("olduyghur", "ougr"), ("olonal", "onao"),
    ("oriya", "orya"), ("osage", "osge"), ("osmanya", "osma"), ("pahawhhmong", "hmng"),
    ("palmyrene", "palm"), ("paucinhau", "pauc"), ("phagspa", "phag"), ("phoenician", "phnx"),
    ("psalterpahlavi", "phlp"), ("qaac", "copt"), ("qaai", "zinh"), ("rejang", "rjng"),
    ("runic", "runr"), ("samaritan", "samr"), ("saurashtra", "saur"), ("sharada", "shrd"),
    ("shavian", "shaw"), ("siddham", "sidd"), ("sidetic", "sidt"), ("signwriting", "sgnw"),
    ("sinhala", "sinh"), ("sogdian", "sogd"), ("sorasompeng", "sora"), ("soyombo", "soyo"),
    ("sundanese", "sund"), ("sunuwar", "sunu"), ("sylotinagri", "sylo"), ("syriac", "syrc"),
    ("tagalog", "tglg"), ("tagbanwa", "tagb"), ("taile", "tale"), ("taitham", "lana"),
    ("taiviet", "tavt"), ("taiyo", "tayo"), ("takri", "takr"), ("tamil", "taml"),
    ("tangsa", "tnsa"), ("tangut", "tang"), ("telugu", "telu"), ("thaana", "thaa"),
    ("thai", "thai"), ("tibetan", "tibt"), ("tifinagh", "tfng"), ("tirhuta", "tirh"),
    ("todhri", "todr"), ("tolongsiki", "tols"), ("toto", "toto"), ("tulutigalari", "tutg"),
    ("ugaritic", "ugar"), ("vai", "vaii"), ("vithkuqi", "vith"), ("wancho", "wcho"),
    ("warangciti", "wara"), ("yezidi", "yezi"), ("yi", "yiii"), ("zanabazarsquare", "zanb")]

/-- Ranges of characters and the code of their script, below U+3000. -/
def scriptRangesLow : List (Nat × Nat × String) := [
    (0x0, 0x40, "zyyy"), (0x41, 0x5a, "latn"), (0x5b, 0x60, "zyyy"), (0x61, 0x7a, "latn"),
    (0x7b, 0xa9, "zyyy"), (0xaa, 0xaa, "latn"), (0xab, 0xb9, "zyyy"), (0xba, 0xba, "latn"),
    (0xbb, 0xbf, "zyyy"), (0xc0, 0xd6, "latn"), (0xd7, 0xd7, "zyyy"), (0xd8, 0xf6, "latn"),
    (0xf7, 0xf7, "zyyy"), (0xf8, 0x2b8, "latn"), (0x2b9, 0x2df, "zyyy"), (0x2e0, 0x2e4, "latn"),
    (0x2e5, 0x2e9, "zyyy"), (0x2ea, 0x2eb, "bopo"), (0x2ec, 0x2ff, "zyyy"),
    (0x300, 0x36f, "zinh"), (0x370, 0x373, "grek"), (0x374, 0x374, "zyyy"),
    (0x375, 0x377, "grek"), (0x37a, 0x37d, "grek"), (0x37e, 0x37e, "zyyy"),
    (0x37f, 0x37f, "grek"), (0x384, 0x384, "grek"), (0x385, 0x385, "zyyy"),
    (0x386, 0x386, "grek"), (0x387, 0x387, "zyyy"), (0x388, 0x38a, "grek"),
    (0x38c, 0x38c, "grek"), (0x38e, 0x3a1, "grek"), (0x3a3, 0x3e1, "grek"),
    (0x3e2, 0x3ef, "copt"), (0x3f0, 0x3ff, "grek"), (0x400, 0x484, "cyrl"),
    (0x485, 0x486, "zinh"), (0x487, 0x52f, "cyrl"), (0x531, 0x556, "armn"),
    (0x559, 0x58a, "armn"), (0x58d, 0x58f, "armn"), (0x591, 0x5c7, "hebr"),
    (0x5d0, 0x5ea, "hebr"), (0x5ef, 0x5f4, "hebr"), (0x600, 0x604, "arab"),
    (0x605, 0x605, "zyyy"), (0x606, 0x60b, "arab"), (0x60c, 0x60c, "zyyy"),
    (0x60d, 0x61a, "arab"), (0x61b, 0x61b, "zyyy"), (0x61c, 0x61e, "arab"),
    (0x61f, 0x61f, "zyyy"), (0x620, 0x63f, "arab"), (0x640, 0x640, "zyyy"),
    (0x641, 0x64a, "arab"), (0x64b, 0x655, "zinh"), (0x656, 0x66f, "arab"),
    (0x670, 0x670, "zinh"), (0x671, 0x6dc, "arab"), (0x6dd, 0x6dd, "zyyy"),
    (0x6de, 0x6ff, "arab"), (0x700, 0x70d, "syrc"), (0x70f, 0x74a, "syrc"),
    (0x74d, 0x74f, "syrc"), (0x750, 0x77f, "arab"), (0x780, 0x7b1, "thaa"),
    (0x7c0, 0x7fa, "nkoo"), (0x7fd, 0x7ff, "nkoo"), (0x800, 0x82d, "samr"),
    (0x830, 0x83e, "samr"), (0x840, 0x85b, "mand"), (0x85e, 0x85e, "mand"),
    (0x860, 0x86a, "syrc"), (0x870, 0x891, "arab"), (0x897, 0x8e1, "arab"),
    (0x8e2, 0x8e2, "zyyy"), (0x8e3, 0x8ff, "arab"), (0x900, 0x950, "deva"),
    (0x951, 0x954, "zinh"), (0x955, 0x963, "deva"), (0x964, 0x965, "zyyy"),
    (0x966, 0x97f, "deva"), (0x980, 0x983, "beng"), (0x985, 0x98c, "beng"),
    (0x98f, 0x990, "beng"), (0x993, 0x9a8, "beng"), (0x9aa, 0x9b0, "beng"),
    (0x9b2, 0x9b2, "beng"), (0x9b6, 0x9b9, "beng"), (0x9bc, 0x9c4, "beng"),
    (0x9c7, 0x9c8, "beng"), (0x9cb, 0x9ce, "beng"), (0x9d7, 0x9d7, "beng"),
    (0x9dc, 0x9dd, "beng"), (0x9df, 0x9e3, "beng"), (0x9e6, 0x9fe, "beng"),
    (0xa01, 0xa03, "guru"), (0xa05, 0xa0a, "guru"), (0xa0f, 0xa10, "guru"),
    (0xa13, 0xa28, "guru"), (0xa2a, 0xa30, "guru"), (0xa32, 0xa33, "guru"),
    (0xa35, 0xa36, "guru"), (0xa38, 0xa39, "guru"), (0xa3c, 0xa3c, "guru"),
    (0xa3e, 0xa42, "guru"), (0xa47, 0xa48, "guru"), (0xa4b, 0xa4d, "guru"),
    (0xa51, 0xa51, "guru"), (0xa59, 0xa5c, "guru"), (0xa5e, 0xa5e, "guru"),
    (0xa66, 0xa76, "guru"), (0xa81, 0xa83, "gujr"), (0xa85, 0xa8d, "gujr"),
    (0xa8f, 0xa91, "gujr"), (0xa93, 0xaa8, "gujr"), (0xaaa, 0xab0, "gujr"),
    (0xab2, 0xab3, "gujr"), (0xab5, 0xab9, "gujr"), (0xabc, 0xac5, "gujr"),
    (0xac7, 0xac9, "gujr"), (0xacb, 0xacd, "gujr"), (0xad0, 0xad0, "gujr"),
    (0xae0, 0xae3, "gujr"), (0xae6, 0xaf1, "gujr"), (0xaf9, 0xaff, "gujr"),
    (0xb01, 0xb03, "orya"), (0xb05, 0xb0c, "orya"), (0xb0f, 0xb10, "orya"),
    (0xb13, 0xb28, "orya"), (0xb2a, 0xb30, "orya"), (0xb32, 0xb33, "orya"),
    (0xb35, 0xb39, "orya"), (0xb3c, 0xb44, "orya"), (0xb47, 0xb48, "orya"),
    (0xb4b, 0xb4d, "orya"), (0xb55, 0xb57, "orya"), (0xb5c, 0xb5d, "orya"),
    (0xb5f, 0xb63, "orya"), (0xb66, 0xb77, "orya"), (0xb82, 0xb83, "taml"),
    (0xb85, 0xb8a, "taml"), (0xb8e, 0xb90, "taml"), (0xb92, 0xb95, "taml"),
    (0xb99, 0xb9a, "taml"), (0xb9c, 0xb9c, "taml"), (0xb9e, 0xb9f, "taml"),
    (0xba3, 0xba4, "taml"), (0xba8, 0xbaa, "taml"), (0xbae, 0xbb9, "taml"),
    (0xbbe, 0xbc2, "taml"), (0xbc6, 0xbc8, "taml"), (0xbca, 0xbcd, "taml"),
    (0xbd0, 0xbd0, "taml"), (0xbd7, 0xbd7, "taml"), (0xbe6, 0xbfa, "taml"),
    (0xc00, 0xc0c, "telu"), (0xc0e, 0xc10, "telu"), (0xc12, 0xc28, "telu"),
    (0xc2a, 0xc39, "telu"), (0xc3c, 0xc44, "telu"), (0xc46, 0xc48, "telu"),
    (0xc4a, 0xc4d, "telu"), (0xc55, 0xc56, "telu"), (0xc58, 0xc5a, "telu"),
    (0xc5c, 0xc5d, "telu"), (0xc60, 0xc63, "telu"), (0xc66, 0xc6f, "telu"),
    (0xc77, 0xc7f, "telu"), (0xc80, 0xc8c, "knda"), (0xc8e, 0xc90, "knda"),
    (0xc92, 0xca8, "knda"), (0xcaa, 0xcb3, "knda"), (0xcb5, 0xcb9, "knda"),
    (0xcbc, 0xcc4, "knda"), (0xcc6, 0xcc8, "knda"), (0xcca, 0xccd, "knda"),
    (0xcd5, 0xcd6, "knda"), (0xcdc, 0xcde, "knda"), (0xce0, 0xce3, "knda"),
    (0xce6, 0xcef, "knda"), (0xcf1, 0xcf3, "knda"), (0xd00, 0xd0c, "mlym"),
    (0xd0e, 0xd10, "mlym"), (0xd12, 0xd44, "mlym"), (0xd46, 0xd48, "mlym"),
    (0xd4a, 0xd4f, "mlym"), (0xd54, 0xd63, "mlym"), (0xd66, 0xd7f, "mlym"),
    (0xd81, 0xd83, "sinh"), (0xd85, 0xd96, "sinh"), (0xd9a, 0xdb1, "sinh"),
    (0xdb3, 0xdbb, "sinh"), (0xdbd, 0xdbd, "sinh"), (0xdc0, 0xdc6, "sinh"),
    (0xdca, 0xdca, "sinh"), (0xdcf, 0xdd4, "sinh"), (0xdd6, 0xdd6, "sinh"),
    (0xdd8, 0xddf, "sinh"), (0xde6, 0xdef, "sinh"), (0xdf2, 0xdf4, "sinh"),
    (0xe01, 0xe3a, "thai"), (0xe3f, 0xe3f, "zyyy"), (0xe40, 0xe5b, "thai"),
    (0xe81, 0xe82, "laoo"), (0xe84, 0xe84, "laoo"), (0xe86, 0xe8a, "laoo"),
    (0xe8c, 0xea3, "laoo"), (0xea5, 0xea5, "laoo"), (0xea7, 0xebd, "laoo"),
    (0xec0, 0xec4, "laoo"), (0xec6, 0xec6, "laoo"), (0xec8, 0xece, "laoo"),
    (0xed0, 0xed9, "laoo"), (0xedc, 0xedf, "laoo"), (0xf00, 0xf47, "tibt"),
    (0xf49, 0xf6c, "tibt"), (0xf71, 0xf97, "tibt"), (0xf99, 0xfbc, "tibt"),
    (0xfbe, 0xfcc, "tibt"), (0xfce, 0xfd4, "tibt"), (0xfd5, 0xfd8, "zyyy"),
    (0xfd9, 0xfda, "tibt"), (0x1000, 0x109f, "mymr"), (0x10a0, 0x10c5, "geor"),
    (0x10c7, 0x10c7, "geor"), (0x10cd, 0x10cd, "geor"), (0x10d0, 0x10fa, "geor"),
    (0x10fb, 0x10fb, "zyyy"), (0x10fc, 0x10ff, "geor"), (0x1100, 0x11ff, "hang"),
    (0x1200, 0x1248, "ethi"), (0x124a, 0x124d, "ethi"), (0x1250, 0x1256, "ethi"),
    (0x1258, 0x1258, "ethi"), (0x125a, 0x125d, "ethi"), (0x1260, 0x1288, "ethi"),
    (0x128a, 0x128d, "ethi"), (0x1290, 0x12b0, "ethi"), (0x12b2, 0x12b5, "ethi"),
    (0x12b8, 0x12be, "ethi"), (0x12c0, 0x12c0, "ethi"), (0x12c2, 0x12c5, "ethi"),
    (0x12c8, 0x12d6, "ethi"), (0x12d8, 0x1310, "ethi"), (0x1312, 0x1315, "ethi"),
    (0x1318, 0x135a, "ethi"), (0x135d, 0x137c, "ethi"), (0x1380, 0x1399, "ethi"),
    (0x13a0, 0x13f5, "cher"), (0x13f8, 0x13fd, "cher"), (0x1400, 0x167f, "cans"),
    (0x1680, 0x169c, "ogam"), (0x16a0, 0x16ea, "runr"), (0x16eb, 0x16ed, "zyyy"),
    (0x16ee, 0x16f8, "runr"), (0x1700, 0x1715, "tglg"), (0x171f, 0x171f, "tglg"),
    (0x1720, 0x1734, "hano"), (0x1735, 0x1736, "zyyy"), (0x1740, 0x1753, "buhd"),
    (0x1760, 0x176c, "tagb"), (0x176e, 0x1770, "tagb"), (0x1772, 0x1773, "tagb"),
    (0x1780, 0x17dd, "khmr"), (0x17e0, 0x17e9, "khmr"), (0x17f0, 0x17f9, "khmr"),
    (0x1800, 0x1801, "mong"), (0x1802, 0x1803, "zyyy"), (0x1804, 0x1804, "mong"),
    (0x1805, 0x1805, "zyyy"), (0x1806, 0x1819, "mong"), (0x1820, 0x1878, "mong"),
    (0x1880, 0x18aa, "mong"), (0x18b0, 0x18f5, "cans"), (0x1900, 0x191e, "limb"),
    (0x1920, 0x192b, "limb"), (0x1930, 0x193b, "limb"), (0x1940, 0x1940, "limb"),
    (0x1944, 0x194f, "limb"), (0x1950, 0x196d, "tale"), (0x1970, 0x1974, "tale"),
    (0x1980, 0x19ab, "talu"), (0x19b0, 0x19c9, "talu"), (0x19d0, 0x19da, "talu"),
    (0x19de, 0x19df, "talu"), (0x19e0, 0x19ff, "khmr"), (0x1a00, 0x1a1b, "bugi"),
    (0x1a1e, 0x1a1f, "bugi"), (0x1a20, 0x1a5e, "lana"), (0x1a60, 0x1a7c, "lana"),
    (0x1a7f, 0x1a89, "lana"), (0x1a90, 0x1a99, "lana"), (0x1aa0, 0x1aad, "lana"),
    (0x1ab0, 0x1add, "zinh"), (0x1ae0, 0x1aeb, "zinh"), (0x1b00, 0x1b4c, "bali"),
    (0x1b4e, 0x1b7f, "bali"), (0x1b80, 0x1bbf, "sund"), (0x1bc0, 0x1bf3, "batk"),
    (0x1bfc, 0x1bff, "batk"), (0x1c00, 0x1c37, "lepc"), (0x1c3b, 0x1c49, "lepc"),
    (0x1c4d, 0x1c4f, "lepc"), (0x1c50, 0x1c7f, "olck"), (0x1c80, 0x1c8a, "cyrl"),
    (0x1c90, 0x1cba, "geor"), (0x1cbd, 0x1cbf, "geor"), (0x1cc0, 0x1cc7, "sund"),
    (0x1cd0, 0x1cd2, "zinh"), (0x1cd3, 0x1cd3, "zyyy"), (0x1cd4, 0x1ce0, "zinh"),
    (0x1ce1, 0x1ce1, "zyyy"), (0x1ce2, 0x1ce8, "zinh"), (0x1ce9, 0x1cec, "zyyy"),
    (0x1ced, 0x1ced, "zinh"), (0x1cee, 0x1cf3, "zyyy"), (0x1cf4, 0x1cf4, "zinh"),
    (0x1cf5, 0x1cf7, "zyyy"), (0x1cf8, 0x1cf9, "zinh"), (0x1cfa, 0x1cfa, "zyyy"),
    (0x1d00, 0x1d25, "latn"), (0x1d26, 0x1d2a, "grek"), (0x1d2b, 0x1d2b, "cyrl"),
    (0x1d2c, 0x1d5c, "latn"), (0x1d5d, 0x1d61, "grek"), (0x1d62, 0x1d65, "latn"),
    (0x1d66, 0x1d6a, "grek"), (0x1d6b, 0x1d77, "latn"), (0x1d78, 0x1d78, "cyrl"),
    (0x1d79, 0x1dbe, "latn"), (0x1dbf, 0x1dbf, "grek"), (0x1dc0, 0x1dff, "zinh"),
    (0x1e00, 0x1eff, "latn"), (0x1f00, 0x1f15, "grek"), (0x1f18, 0x1f1d, "grek"),
    (0x1f20, 0x1f45, "grek"), (0x1f48, 0x1f4d, "grek"), (0x1f50, 0x1f57, "grek"),
    (0x1f59, 0x1f59, "grek"), (0x1f5b, 0x1f5b, "grek"), (0x1f5d, 0x1f5d, "grek"),
    (0x1f5f, 0x1f7d, "grek"), (0x1f80, 0x1fb4, "grek"), (0x1fb6, 0x1fc4, "grek"),
    (0x1fc6, 0x1fd3, "grek"), (0x1fd6, 0x1fdb, "grek"), (0x1fdd, 0x1fef, "grek"),
    (0x1ff2, 0x1ff4, "grek"), (0x1ff6, 0x1ffe, "grek"), (0x2000, 0x200b, "zyyy"),
    (0x200c, 0x200d, "zinh"), (0x200e, 0x2064, "zyyy"), (0x2066, 0x2070, "zyyy"),
    (0x2071, 0x2071, "latn"), (0x2074, 0x207e, "zyyy"), (0x207f, 0x207f, "latn"),
    (0x2080, 0x208e, "zyyy"), (0x2090, 0x209c, "latn"), (0x20a0, 0x20c1, "zyyy"),
    (0x20d0, 0x20f0, "zinh"), (0x2100, 0x2125, "zyyy"), (0x2126, 0x2126, "grek"),
    (0x2127, 0x2129, "zyyy"), (0x212a, 0x212b, "latn"), (0x212c, 0x2131, "zyyy"),
    (0x2132, 0x2132, "latn"), (0x2133, 0x214d, "zyyy"), (0x214e, 0x214e, "latn"),
    (0x214f, 0x215f, "zyyy"), (0x2160, 0x2188, "latn"), (0x2189, 0x218b, "zyyy"),
    (0x2190, 0x2429, "zyyy"), (0x2440, 0x244a, "zyyy"), (0x2460, 0x27ff, "zyyy"),
    (0x2800, 0x28ff, "brai"), (0x2900, 0x2b73, "zyyy"), (0x2b76, 0x2bff, "zyyy"),
    (0x2c00, 0x2c5f, "glag"), (0x2c60, 0x2c7f, "latn"), (0x2c80, 0x2cf3, "copt"),
    (0x2cf9, 0x2cff, "copt"), (0x2d00, 0x2d25, "geor"), (0x2d27, 0x2d27, "geor"),
    (0x2d2d, 0x2d2d, "geor"), (0x2d30, 0x2d67, "tfng"), (0x2d6f, 0x2d70, "tfng"),
    (0x2d7f, 0x2d7f, "tfng"), (0x2d80, 0x2d96, "ethi"), (0x2da0, 0x2da6, "ethi"),
    (0x2da8, 0x2dae, "ethi"), (0x2db0, 0x2db6, "ethi"), (0x2db8, 0x2dbe, "ethi"),
    (0x2dc0, 0x2dc6, "ethi"), (0x2dc8, 0x2dce, "ethi"), (0x2dd0, 0x2dd6, "ethi"),
    (0x2dd8, 0x2dde, "ethi"), (0x2de0, 0x2dff, "cyrl"), (0x2e00, 0x2e5d, "zyyy"),
    (0x2e80, 0x2e99, "hani"), (0x2e9b, 0x2ef3, "hani"), (0x2f00, 0x2fd5, "hani"),
    (0x2ff0, 0x3004, "zyyy")]

/-- Ranges of characters and the code of their script, from U+3000 to U+10FFF. -/
def scriptRangesMiddle : List (Nat × Nat × String) := [
    (0x3005, 0x3005, "hani"), (0x3006, 0x3006, "zyyy"), (0x3007, 0x3007, "hani"),
    (0x3008, 0x3020, "zyyy"), (0x3021, 0x3029, "hani"), (0x302a, 0x302d, "zinh"),
    (0x302e, 0x302f, "hang"), (0x3030, 0x3037, "zyyy"), (0x3038, 0x303b, "hani"),
    (0x303c, 0x303f, "zyyy"), (0x3041, 0x3096, "hira"), (0x3099, 0x309a, "zinh"),
    (0x309b, 0x309c, "zyyy"), (0x309d, 0x309f, "hira"), (0x30a0, 0x30a0, "zyyy"),
    (0x30a1, 0x30fa, "kana"), (0x30fb, 0x30fc, "zyyy"), (0x30fd, 0x30ff, "kana"),
    (0x3105, 0x312f, "bopo"), (0x3131, 0x318e, "hang"), (0x3190, 0x319f, "zyyy"),
    (0x31a0, 0x31bf, "bopo"), (0x31c0, 0x31e5, "zyyy"), (0x31ef, 0x31ef, "zyyy"),
    (0x31f0, 0x31ff, "kana"), (0x3200, 0x321e, "hang"), (0x3220, 0x325f, "zyyy"),
    (0x3260, 0x327e, "hang"), (0x327f, 0x32cf, "zyyy"), (0x32d0, 0x32fe, "kana"),
    (0x32ff, 0x32ff, "zyyy"), (0x3300, 0x3357, "kana"), (0x3358, 0x33ff, "zyyy"),
    (0x3400, 0x4dbf, "hani"), (0x4dc0, 0x4dff, "zyyy"), (0x4e00, 0x9fff, "hani"),
    (0xa000, 0xa48c, "yiii"), (0xa490, 0xa4c6, "yiii"), (0xa4d0, 0xa4ff, "lisu"),
    (0xa500, 0xa62b, "vaii"), (0xa640, 0xa69f, "cyrl"), (0xa6a0, 0xa6f7, "bamu"),
    (0xa700, 0xa721, "zyyy"), (0xa722, 0xa787, "latn"), (0xa788, 0xa78a, "zyyy"),
    (0xa78b, 0xa7dc, "latn"), (0xa7f1, 0xa7ff, "latn"), (0xa800, 0xa82c, "sylo"),
    (0xa830, 0xa839, "zyyy"), (0xa840, 0xa877, "phag"), (0xa880, 0xa8c5, "saur"),
    (0xa8ce, 0xa8d9, "saur"), (0xa8e0, 0xa8ff, "deva"), (0xa900, 0xa92d, "kali"),
    (0xa92e, 0xa92e, "zyyy"), (0xa92f, 0xa92f, "kali"), (0xa930, 0xa953, "rjng"),
    (0xa95f, 0xa95f, "rjng"), (0xa960, 0xa97c, "hang"), (0xa980, 0xa9cd, "java"),
    (0xa9cf, 0xa9cf, "zyyy"), (0xa9d0, 0xa9d9, "java"), (0xa9de, 0xa9df, "java"),
    (0xa9e0, 0xa9fe, "mymr"), (0xaa00, 0xaa36, "cham"), (0xaa40, 0xaa4d, "cham"),
    (0xaa50, 0xaa59, "cham"), (0xaa5c, 0xaa5f, "cham"), (0xaa60, 0xaa7f, "mymr"),
    (0xaa80, 0xaac2, "tavt"), (0xaadb, 0xaadf, "tavt"), (0xaae0, 0xaaf6, "mtei"),
    (0xab01, 0xab06, "ethi"), (0xab09, 0xab0e, "ethi"), (0xab11, 0xab16, "ethi"),
    (0xab20, 0xab26, "ethi"), (0xab28, 0xab2e, "ethi"), (0xab30, 0xab5a, "latn"),
    (0xab5b, 0xab5b, "zyyy"), (0xab5c, 0xab64, "latn"), (0xab65, 0xab65, "grek"),
    (0xab66, 0xab69, "latn"), (0xab6a, 0xab6b, "zyyy"), (0xab70, 0xabbf, "cher"),
    (0xabc0, 0xabed, "mtei"), (0xabf0, 0xabf9, "mtei"), (0xac00, 0xd7a3, "hang"),
    (0xd7b0, 0xd7c6, "hang"), (0xd7cb, 0xd7fb, "hang"), (0xf900, 0xfa6d, "hani"),
    (0xfa70, 0xfad9, "hani"), (0xfb00, 0xfb06, "latn"), (0xfb13, 0xfb17, "armn"),
    (0xfb1d, 0xfb36, "hebr"), (0xfb38, 0xfb3c, "hebr"), (0xfb3e, 0xfb3e, "hebr"),
    (0xfb40, 0xfb41, "hebr"), (0xfb43, 0xfb44, "hebr"), (0xfb46, 0xfb4f, "hebr"),
    (0xfb50, 0xfd3d, "arab"), (0xfd3e, 0xfd3f, "zyyy"), (0xfd40, 0xfdcf, "arab"),
    (0xfdf0, 0xfdff, "arab"), (0xfe00, 0xfe0f, "zinh"), (0xfe10, 0xfe19, "zyyy"),
    (0xfe20, 0xfe2d, "zinh"), (0xfe2e, 0xfe2f, "cyrl"), (0xfe30, 0xfe52, "zyyy"),
    (0xfe54, 0xfe66, "zyyy"), (0xfe68, 0xfe6b, "zyyy"), (0xfe70, 0xfe74, "arab"),
    (0xfe76, 0xfefc, "arab"), (0xfeff, 0xfeff, "zyyy"), (0xff01, 0xff20, "zyyy"),
    (0xff21, 0xff3a, "latn"), (0xff3b, 0xff40, "zyyy"), (0xff41, 0xff5a, "latn"),
    (0xff5b, 0xff65, "zyyy"), (0xff66, 0xff6f, "kana"), (0xff70, 0xff70, "zyyy"),
    (0xff71, 0xff9d, "kana"), (0xff9e, 0xff9f, "zyyy"), (0xffa0, 0xffbe, "hang"),
    (0xffc2, 0xffc7, "hang"), (0xffca, 0xffcf, "hang"), (0xffd2, 0xffd7, "hang"),
    (0xffda, 0xffdc, "hang"), (0xffe0, 0xffe6, "zyyy"), (0xffe8, 0xffee, "zyyy"),
    (0xfff9, 0xfffd, "zyyy"), (0x10000, 0x1000b, "linb"), (0x1000d, 0x10026, "linb"),
    (0x10028, 0x1003a, "linb"), (0x1003c, 0x1003d, "linb"), (0x1003f, 0x1004d, "linb"),
    (0x10050, 0x1005d, "linb"), (0x10080, 0x100fa, "linb"), (0x10100, 0x10102, "zyyy"),
    (0x10107, 0x10133, "zyyy"), (0x10137, 0x1013f, "zyyy"), (0x10140, 0x1018e, "grek"),
    (0x10190, 0x1019c, "zyyy"), (0x101a0, 0x101a0, "grek"), (0x101d0, 0x101fc, "zyyy"),
    (0x101fd, 0x101fd, "zinh"), (0x10280, 0x1029c, "lyci"), (0x102a0, 0x102d0, "cari"),
    (0x102e0, 0x102e0, "zinh"), (0x102e1, 0x102fb, "zyyy"), (0x10300, 0x10323, "ital"),
    (0x1032d, 0x1032f, "ital"), (0x10330, 0x1034a, "goth"), (0x10350, 0x1037a, "perm"),
    (0x10380, 0x1039d, "ugar"), (0x1039f, 0x1039f, "ugar"), (0x103a0, 0x103c3, "xpeo"),
    (0x103c8, 0x103d5, "xpeo"), (0x10400, 0x1044f, "dsrt"), (0x10450, 0x1047f, "shaw"),
    (0x10480, 0x1049d, "osma"), (0x104a0, 0x104a9, "osma"), (0x104b0, 0x104d3, "osge"),
    (0x104d8, 0x104fb, "osge"), (0x10500, 0x10527, "elba"), (0x10530, 0x10563, "aghb"),
    (0x1056f, 0x1056f, "aghb"), (0x10570, 0x1057a, "vith"), (0x1057c, 0x1058a, "vith"),
    (0x1058c, 0x10592, "vith"), (0x10594, 0x10595, "vith"), (0x10597, 0x105a1, "vith"),
    (0x105a3, 0x105b1, "vith"), (0x105b3, 0x105b9, "vith"), (0x105bb, 0x105bc, "vith"),
    (0x105c0, 0x105f3, "todr"), (0x10600, 0x10736, "lina"), (0x10740, 0x10755, "lina"),
    (0x10760, 0x10767, "lina"), (0x10780, 0x10785, "latn"), (0x10787, 0x107b0, "latn"),
    (0x107b2, 0x107ba, "latn"), (0x10800, 0x10805, "cprt"), (0x10808, 0x10808, "cprt"),
    (0x1080a, 0x10835, "cprt"), (0x10837, 0x10838, "cprt"), (0x1083c, 0x1083c, "cprt"),
    (0x1083f, 0x1083f, "cprt"), (0x10840, 0x10855, "armi"), (0x10857, 0x1085f, "armi"),
    (0x10860, 0x1087f, "palm"), (0x10880, 0x1089e, "nbat"), (0x108a7, 0x108af, "nbat"),
    (0x108e0, 0x108f2, "hatr"), (0x108f4, 0x108f5, "hatr"), (0x108fb, 0x108ff, "hatr"),
    (0x10900, 0x1091b, "phnx"), (0x1091f, 0x1091f, "phnx"), (0x10920, 0x10939, "lydi"),
    (0x1093f, 0x1093f, "lydi"), (0x10940, 0x10959, "sidt"), (0x10980, 0x1099f, "mero"),
    (0x109a0, 0x109b7, "merc"), (0x109bc, 0x109cf, "merc"), (0x109d2, 0x109ff, "merc"),
    (0x10a00, 0x10a03, "khar"), (0x10a05, 0x10a06, "khar"), (0x10a0c, 0x10a13, "khar"),
    (0x10a15, 0x10a17, "khar"), (0x10a19, 0x10a35, "khar"), (0x10a38, 0x10a3a, "khar"),
    (0x10a3f, 0x10a48, "khar"), (0x10a50, 0x10a58, "khar"), (0x10a60, 0x10a7f, "sarb"),
    (0x10a80, 0x10a9f, "narb"), (0x10ac0, 0x10ae6, "mani"), (0x10aeb, 0x10af6, "mani"),
    (0x10b00, 0x10b35, "avst"), (0x10b39, 0x10b3f, "avst"), (0x10b40, 0x10b55, "prti"),
    (0x10b58, 0x10b5f, "prti"), (0x10b60, 0x10b72, "phli"), (0x10b78, 0x10b7f, "phli"),
    (0x10b80, 0x10b91, "phlp"), (0x10b99, 0x10b9c, "phlp"), (0x10ba9, 0x10baf, "phlp"),
    (0x10c00, 0x10c48, "orkh"), (0x10c80, 0x10cb2, "hung"), (0x10cc0, 0x10cf2, "hung"),
    (0x10cfa, 0x10cff, "hung"), (0x10d00, 0x10d27, "rohg"), (0x10d30, 0x10d39, "rohg"),
    (0x10d40, 0x10d65, "gara"), (0x10d69, 0x10d85, "gara"), (0x10d8e, 0x10d8f, "gara"),
    (0x10e60, 0x10e7e, "arab"), (0x10e80, 0x10ea9, "yezi"), (0x10eab, 0x10ead, "yezi"),
    (0x10eb0, 0x10eb1, "yezi"), (0x10ec2, 0x10ec7, "arab"), (0x10ed0, 0x10ed8, "arab"),
    (0x10efa, 0x10eff, "arab"), (0x10f00, 0x10f27, "sogo"), (0x10f30, 0x10f59, "sogd"),
    (0x10f70, 0x10f89, "ougr"), (0x10fb0, 0x10fcb, "chrs"), (0x10fe0, 0x10ff6, "elym")]

/-- Ranges of characters and the code of their script, from U+11000 on. -/
def scriptRangesHigh : List (Nat × Nat × String) := [
    (0x11000, 0x1104d, "brah"), (0x11052, 0x11075, "brah"), (0x1107f, 0x1107f, "brah"),
    (0x11080, 0x110c2, "kthi"), (0x110cd, 0x110cd, "kthi"), (0x110d0, 0x110e8, "sora"),
    (0x110f0, 0x110f9, "sora"), (0x11100, 0x11134, "cakm"), (0x11136, 0x11147, "cakm"),
    (0x11150, 0x11176, "mahj"), (0x11180, 0x111df, "shrd"), (0x111e1, 0x111f4, "sinh"),
    (0x11200, 0x11211, "khoj"), (0x11213, 0x11241, "khoj"), (0x11280, 0x11286, "mult"),
    (0x11288, 0x11288, "mult"), (0x1128a, 0x1128d, "mult"), (0x1128f, 0x1129d, "mult"),
    (0x1129f, 0x112a9, "mult"), (0x112b0, 0x112ea, "sind"), (0x112f0, 0x112f9, "sind"),
    (0x11300, 0x11303, "gran"), (0x11305, 0x1130c, "gran"), (0x1130f, 0x11310, "gran"),
    (0x11313, 0x11328, "gran"), (0x1132a, 0x11330, "gran"), (0x11332, 0x11333, "gran"),
    (0x11335, 0x11339, "gran"), (0x1133b, 0x1133b, "zinh"), (0x1133c, 0x11344, "gran"),
    (0x11347, 0x11348, "gran"), (0x1134b, 0x1134d, "gran"), (0x11350, 0x11350, "gran"),
    (0x11357, 0x11357, "gran"), (0x1135d, 0x11363, "gran"), (0x11366, 0x1136c, "gran"),
    (0x11370, 0x11374, "gran"), (0x11380, 0x11389, "tutg"), (0x1138b, 0x1138b, "tutg"),
    (0x1138e, 0x1138e, "tutg"), (0x11390, 0x113b5, "tutg"), (0x113b7, 0x113c0, "tutg"),
    (0x113c2, 0x113c2, "tutg"), (0x113c5, 0x113c5, "tutg"), (0x113c7, 0x113ca, "tutg"),
    (0x113cc, 0x113d5, "tutg"), (0x113d7, 0x113d8, "tutg"), (0x113e1, 0x113e2, "tutg"),
    (0x11400, 0x1145b, "newa"), (0x1145d, 0x11461, "newa"), (0x11480, 0x114c7, "tirh"),
    (0x114d0, 0x114d9, "tirh"), (0x11580, 0x115b5, "sidd"), (0x115b8, 0x115dd, "sidd"),
    (0x11600, 0x11644, "modi"), (0x11650, 0x11659, "modi"), (0x11660, 0x1166c, "mong"),
    (0x11680, 0x116b9, "takr"), (0x116c0, 0x116c9, "takr"), (0x116d0, 0x116e3, "mymr"),
    (0x11700, 0x1171a, "ahom"), (0x1171d, 0x1172b, "ahom"), (0x11730, 0x11746, "ahom"),
    (0x11800, 0x1183b, "dogr"), (0x118a0, 0x118f2, "wara"), (0x118ff, 0x118ff, "wara"),
    (0x11900, 0x11906, "diak"), (0x11909, 0x11909, "diak"), (0x1190c, 0x11913, "diak"),
    (0x11915, 0x11916, "diak"), (0x11918, 0x11935, "diak"), (0x11937, 0x11938, "diak"),
    (0x1193b, 0x11946, "diak"), (0x11950, 0x11959, "diak"), (0x119a0, 0x119a7, "nand"),
    (0x119aa, 0x119d7, "nand"), (0x119da, 0x119e4, "nand"), (0x11a00, 0x11a47, "zanb"),
    (0x11a50, 0x11aa2, "soyo"), (0x11ab0, 0x11abf, "cans"), (0x11ac0, 0x11af8, "pauc"),
    (0x11b00, 0x11b09, "deva"), (0x11b60, 0x11b67, "shrd"), (0x11bc0, 0x11be1, "sunu"),
    (0x11bf0, 0x11bf9, "sunu"), (0x11c00, 0x11c08, "bhks"), (0x11c0a, 0x11c36, "bhks"),
    (0x11c38, 0x11c45, "bhks"), (0x11c50, 0x11c6c, "bhks"), (0x11c70, 0x11c8f, "marc"),
    (0x11c92, 0x11ca7, "marc"), (0x11ca9, 0x11cb6, "marc"), (0x11d00, 0x11d06, "gonm"),
    (0x11d08, 0x11d09, "gonm"), (0x11d0b, 0x11d36, "gonm"), (0x11d3a, 0x11d3a, "gonm"),
    (0x11d3c, 0x11d3d, "gonm"), (0x11d3f, 0x11d47, "gonm"), (0x11d50, 0x11d59, "gonm"),
    (0x11d60, 0x11d65, "gong"), (0x11d67, 0x11d68, "gong"), (0x11d6a, 0x11d8e, "gong"),
    (0x11d90, 0x11d91, "gong"), (0x11d93, 0x11d98, "gong"), (0x11da0, 0x11da9, "gong"),
    (0x11db0, 0x11ddb, "tols"), (0x11de0, 0x11de9, "tols"), (0x11ee0, 0x11ef8, "maka"),
    (0x11f00, 0x11f10, "kawi"), (0x11f12, 0x11f3a, "kawi"), (0x11f3e, 0x11f5a, "kawi"),
    (0x11fb0, 0x11fb0, "lisu"), (0x11fc0, 0x11ff1, "taml"), (0x11fff, 0x11fff, "taml"),
    (0x12000, 0x12399, "xsux"), (0x12400, 0x1246e, "xsux"), (0x12470, 0x12474, "xsux"),
    (0x12480, 0x12543, "xsux"), (0x12f90, 0x12ff2, "cpmn"), (0x13000, 0x13455, "egyp"),
    (0x13460, 0x143fa, "egyp"), (0x14400, 0x14646, "hluw"), (0x16100, 0x16139, "gukh"),
    (0x16800, 0x16a38, "bamu"), (0x16a40, 0x16a5e, "mroo"), (0x16a60, 0x16a69, "mroo"),
    (0x16a6e, 0x16a6f, "mroo"), (0x16a70, 0x16abe, "tnsa"), (0x16ac0, 0x16ac9, "tnsa"),
    (0x16ad0, 0x16aed, "bass"), (0x16af0, 0x16af5, "bass"), (0x16b00, 0x16b45, "hmng"),
    (0x16b50, 0x16b59, "hmng"), (0x16b5b, 0x16b61, "hmng"), (0x16b63, 0x16b77, "hmng"),
    (0x16b7d, 0x16b8f, "hmng"), (0x16d40, 0x16d79, "krai"), (0x16e40, 0x16e9a, "medf"),
    (0x16ea0, 0x16eb8, "berf"), (0x16ebb, 0x16ed3, "berf"), (0x16f00, 0x16f4a, "plrd"),
    (0x16f4f, 0x16f87, "plrd"), (0x16f8f, 0x16f9f, "plrd"), (0x16fe0, 0x16fe0, "tang"),
    (0x16fe1, 0x16fe1, "nshu"), (0x16fe2, 0x16fe3, "hani"), (0x16fe4, 0x16fe4, "kits"),
    (0x16ff0, 0x16ff6, "hani"), (0x17000, 0x18aff, "tang"), (0x18b00, 0x18cd5, "kits"),
    (0x18cff, 0x18cff, "kits"), (0x18d00, 0x18d1e, "tang"), (0x18d80, 0x18df2, "tang"),
    (0x1aff0, 0x1aff3, "kana"), (0x1aff5, 0x1affb, "kana"), (0x1affd, 0x1affe, "kana"),
    (0x1b000, 0x1b000, "kana"), (0x1b001, 0x1b11f, "hira"), (0x1b120, 0x1b122, "kana"),
    (0x1b132, 0x1b132, "hira"), (0x1b150, 0x1b152, "hira"), (0x1b155, 0x1b155, "kana"),
    (0x1b164, 0x1b167, "kana"), (0x1b170, 0x1b2fb, "nshu"), (0x1bc00, 0x1bc6a, "dupl"),
    (0x1bc70, 0x1bc7c, "dupl"), (0x1bc80, 0x1bc88, "dupl"), (0x1bc90, 0x1bc99, "dupl"),
    (0x1bc9c, 0x1bc9f, "dupl"), (0x1bca0, 0x1bca3, "zyyy"), (0x1cc00, 0x1ccfc, "zyyy"),
    (0x1cd00, 0x1ceb3, "zyyy"), (0x1ceba, 0x1ced0, "zyyy"), (0x1cee0, 0x1cef0, "zyyy"),
    (0x1cf00, 0x1cf2d, "zinh"), (0x1cf30, 0x1cf46, "zinh"), (0x1cf50, 0x1cfc3, "zyyy"),
    (0x1d000, 0x1d0f5, "zyyy"), (0x1d100, 0x1d126, "zyyy"), (0x1d129, 0x1d166, "zyyy"),
    (0x1d167, 0x1d169, "zinh"), (0x1d16a, 0x1d17a, "zyyy"), (0x1d17b, 0x1d182, "zinh"),
    (0x1d183, 0x1d184, "zyyy"), (0x1d185, 0x1d18b, "zinh"), (0x1d18c, 0x1d1a9, "zyyy"),
    (0x1d1aa, 0x1d1ad, "zinh"), (0x1d1ae, 0x1d1ea, "zyyy"), (0x1d200, 0x1d245, "grek"),
    (0x1d2c0, 0x1d2d3, "zyyy"), (0x1d2e0, 0x1d2f3, "zyyy"), (0x1d300, 0x1d356, "zyyy"),
    (0x1d360, 0x1d378, "zyyy"), (0x1d400, 0x1d454, "zyyy"), (0x1d456, 0x1d49c, "zyyy"),
    (0x1d49e, 0x1d49f, "zyyy"), (0x1d4a2, 0x1d4a2, "zyyy"), (0x1d4a5, 0x1d4a6, "zyyy"),
    (0x1d4a9, 0x1d4ac, "zyyy"), (0x1d4ae, 0x1d4b9, "zyyy"), (0x1d4bb, 0x1d4bb, "zyyy"),
    (0x1d4bd, 0x1d4c3, "zyyy"), (0x1d4c5, 0x1d505, "zyyy"), (0x1d507, 0x1d50a, "zyyy"),
    (0x1d50d, 0x1d514, "zyyy"), (0x1d516, 0x1d51c, "zyyy"), (0x1d51e, 0x1d539, "zyyy"),
    (0x1d53b, 0x1d53e, "zyyy"), (0x1d540, 0x1d544, "zyyy"), (0x1d546, 0x1d546, "zyyy"),
    (0x1d54a, 0x1d550, "zyyy"), (0x1d552, 0x1d6a5, "zyyy"), (0x1d6a8, 0x1d7cb, "zyyy"),
    (0x1d7ce, 0x1d7ff, "zyyy"), (0x1d800, 0x1da8b, "sgnw"), (0x1da9b, 0x1da9f, "sgnw"),
    (0x1daa1, 0x1daaf, "sgnw"), (0x1df00, 0x1df1e, "latn"), (0x1df25, 0x1df2a, "latn"),
    (0x1e000, 0x1e006, "glag"), (0x1e008, 0x1e018, "glag"), (0x1e01b, 0x1e021, "glag"),
    (0x1e023, 0x1e024, "glag"), (0x1e026, 0x1e02a, "glag"), (0x1e030, 0x1e06d, "cyrl"),
    (0x1e08f, 0x1e08f, "cyrl"), (0x1e100, 0x1e12c, "hmnp"), (0x1e130, 0x1e13d, "hmnp"),
    (0x1e140, 0x1e149, "hmnp"), (0x1e14e, 0x1e14f, "hmnp"), (0x1e290, 0x1e2ae, "toto"),
    (0x1e2c0, 0x1e2f9, "wcho"), (0x1e2ff, 0x1e2ff, "wcho"), (0x1e4d0, 0x1e4f9, "nagm"),
    (0x1e5d0, 0x1e5fa, "onao"), (0x1e5ff, 0x1e5ff, "onao"), (0x1e6c0, 0x1e6de, "tayo"),
    (0x1e6e0, 0x1e6f5, "tayo"), (0x1e6fe, 0x1e6ff, "tayo"), (0x1e7e0, 0x1e7e6, "ethi"),
    (0x1e7e8, 0x1e7eb, "ethi"), (0x1e7ed, 0x1e7ee, "ethi"), (0x1e7f0, 0x1e7fe, "ethi"),
    (0x1e800, 0x1e8c4, "mend"), (0x1e8c7, 0x1e8d6, "mend"), (0x1e900, 0x1e94b, "adlm"),
    (0x1e950, 0x1e959, "adlm"), (0x1e95e, 0x1e95f, "adlm"), (0x1ec71, 0x1ecb4, "zyyy"),
    (0x1ed01, 0x1ed3d, "zyyy"), (0x1ee00, 0x1ee03, "arab"), (0x1ee05, 0x1ee1f, "arab"),
    (0x1ee21, 0x1ee22, "arab"), (0x1ee24, 0x1ee24, "arab"), (0x1ee27, 0x1ee27, "arab"),
    (0x1ee29, 0x1ee32, "arab"), (0x1ee34, 0x1ee37, "arab"), (0x1ee39, 0x1ee39, "arab"),
    (0x1ee3b, 0x1ee3b, "arab"), (0x1ee42, 0x1ee42, "arab"), (0x1ee47, 0x1ee47, "arab"),
    (0x1ee49, 0x1ee49, "arab"), (0x1ee4b, 0x1ee4b, "arab"), (0x1ee4d, 0x1ee4f, "arab"),
    (0x1ee51, 0x1ee52, "arab"), (0x1ee54, 0x1ee54, "arab"), (0x1ee57, 0x1ee57, "arab"),
    (0x1ee59, 0x1ee59, "arab"), (0x1ee5b, 0x1ee5b, "arab"), (0x1ee5d, 0x1ee5d, "arab"),
    (0x1ee5f, 0x1ee5f, "arab"), (0x1ee61, 0x1ee62, "arab"), (0x1ee64, 0x1ee64, "arab"),
    (0x1ee67, 0x1ee6a, "arab"), (0x1ee6c, 0x1ee72, "arab"), (0x1ee74, 0x1ee77, "arab"),
    (0x1ee79, 0x1ee7c, "arab"), (0x1ee7e, 0x1ee7e, "arab"), (0x1ee80, 0x1ee89, "arab"),
    (0x1ee8b, 0x1ee9b, "arab"), (0x1eea1, 0x1eea3, "arab"), (0x1eea5, 0x1eea9, "arab"),
    (0x1eeab, 0x1eebb, "arab"), (0x1eef0, 0x1eef1, "arab"), (0x1f000, 0x1f02b, "zyyy"),
    (0x1f030, 0x1f093, "zyyy"), (0x1f0a0, 0x1f0ae, "zyyy"), (0x1f0b1, 0x1f0bf, "zyyy"),
    (0x1f0c1, 0x1f0cf, "zyyy"), (0x1f0d1, 0x1f0f5, "zyyy"), (0x1f100, 0x1f1ad, "zyyy"),
    (0x1f1e6, 0x1f1ff, "zyyy"), (0x1f200, 0x1f200, "hira"), (0x1f201, 0x1f202, "zyyy"),
    (0x1f210, 0x1f23b, "zyyy"), (0x1f240, 0x1f248, "zyyy"), (0x1f250, 0x1f251, "zyyy"),
    (0x1f260, 0x1f265, "zyyy"), (0x1f300, 0x1f6d8, "zyyy"), (0x1f6dc, 0x1f6ec, "zyyy"),
    (0x1f6f0, 0x1f6fc, "zyyy"), (0x1f700, 0x1f7d9, "zyyy"), (0x1f7e0, 0x1f7eb, "zyyy"),
    (0x1f7f0, 0x1f7f0, "zyyy"), (0x1f800, 0x1f80b, "zyyy"), (0x1f810, 0x1f847, "zyyy"),
    (0x1f850, 0x1f859, "zyyy"), (0x1f860, 0x1f887, "zyyy"), (0x1f890, 0x1f8ad, "zyyy"),
    (0x1f8b0, 0x1f8bb, "zyyy"), (0x1f8c0, 0x1f8c1, "zyyy"), (0x1f8d0, 0x1f8d8, "zyyy"),
    (0x1f900, 0x1fa57, "zyyy"), (0x1fa60, 0x1fa6d, "zyyy"), (0x1fa70, 0x1fa7c, "zyyy"),
    (0x1fa80, 0x1fa8a, "zyyy"), (0x1fa8e, 0x1fac6, "zyyy"), (0x1fac8, 0x1fac8, "zyyy"),
    (0x1facd, 0x1fadc, "zyyy"), (0x1fadf, 0x1faea, "zyyy"), (0x1faef, 0x1faf8, "zyyy"),
    (0x1fb00, 0x1fb92, "zyyy"), (0x1fb94, 0x1fbfa, "zyyy"), (0x20000, 0x2a6df, "hani"),
    (0x2a700, 0x2b81d, "hani"), (0x2b820, 0x2cead, "hani"), (0x2ceb0, 0x2ebe0, "hani"),
    (0x2ebf0, 0x2ee5d, "hani"), (0x2f800, 0x2fa1d, "hani"), (0x30000, 0x3134a, "hani"),
    (0x31350, 0x33479, "hani"), (0xe0001, 0xe0001, "zyyy"), (0xe0020, 0xe007f, "zyyy"),
    (0xe0100, 0xe01ef, "zinh")]

/-- Ranges of characters that are used in other scripts than their own, and the codes of those
scripts. -/
def scriptExtensionRanges : List (Nat × Nat × List String) := [
    (0xb7, 0xb7, ["avst", "cari", "copt", "dupl", "elba", "geor", "glag", "gong", "goth", "grek",
    "hani", "latn", "lydi", "mahj", "perm", "shaw"]), (0x2bc, 0x2bc, ["beng", "cyrl", "deva",
    "latn", "lisu", "thai", "toto"]), (0x2c7, 0x2c7, ["bopo", "latn"]),
    (0x2c9, 0x2cb, ["bopo", "latn"]), (0x2cd, 0x2cd, ["latn", "lisu"]),
    (0x2d7, 0x2d7, ["latn", "thai"]), (0x2d9, 0x2d9, ["bopo", "latn"]), (0x300, 0x300, ["cher",
    "copt", "cyrl", "grek", "latn", "perm", "sunu", "tale"]), (0x301, 0x301, ["cher", "cyrl",
    "grek", "latn", "osge", "sunu", "tale", "todr"]),
    (0x302, 0x302, ["cher", "cyrl", "latn", "tfng"]),
    (0x303, 0x303, ["glag", "latn", "sunu", "syrc", "thai"]), (0x304, 0x304, ["aghb", "cher",
    "copt", "cyrl", "goth", "grek", "latn", "osge", "syrc", "tfng", "todr"]), (0x305, 0x305,
    ["copt", "elba", "glag", "goth", "kana", "latn"]),
    (0x306, 0x306, ["cyrl", "grek", "latn", "perm", "tfng"]), (0x307, 0x307, ["copt", "dupl",
    "hebr", "latn", "perm", "syrc", "tale", "tfng", "todr"]), (0x308, 0x308, ["armn", "cyrl",
    "dupl", "goth", "grek", "hebr", "latn", "perm", "syrc", "tale", "tfng"]),
    (0x309, 0x309, ["latn", "tfng"]), (0x30a, 0x30a, ["dupl", "latn", "syrc"]),
    (0x30b, 0x30b, ["cher", "cyrl", "latn", "osge"]), (0x30c, 0x30c, ["cher", "latn", "tale"]),
    (0x30d, 0x30d, ["latn", "sunu"]), (0x30e, 0x30e, ["ethi", "latn"]),
    (0x310, 0x310, ["latn", "sunu"]), (0x311, 0x311, ["cyrl", "latn", "todr"]),
    (0x313, 0x313, ["grek", "latn", "perm", "todr"]), (0x323, 0x323, ["cher", "dupl", "kana",
    "latn", "syrc", "tfng"]), (0x324, 0x324, ["cher", "dupl", "latn", "syrc"]),
    (0x325, 0x325, ["latn", "syrc"]), (0x32d, 0x32d, ["latn", "sunu", "syrc"]),
    (0x32e, 0x32e, ["latn", "syrc"]), (0x330, 0x330, ["cher", "latn", "syrc"]), (0x331, 0x331,
    ["aghb", "cher", "goth", "latn", "sunu", "syrc", "thai"]), (0x342, 0x342, ["grek"]),
    (0x345, 0x345, ["grek"]), (0x358, 0x358, ["latn", "osge"]),
    (0x35e, 0x35e, ["aghb", "latn", "todr"]), (0x363, 0x36f, ["latn"]),
    (0x374, 0x375, ["copt", "grek"]), (0x483, 0x483, ["cyrl", "perm"]),
    (0x484, 0x484, ["cyrl", "glag"]), (0x485, 0x486, ["cyrl", "latn"]),
    (0x487, 0x487, ["cyrl", "glag"]), (0x589, 0x589, ["armn", "geor", "glag"]), (0x60c, 0x60c,
    ["arab", "gara", "nkoo", "rohg", "syrc", "thaa", "yezi"]), (0x61b, 0x61b, ["arab", "gara",
    "nkoo", "rohg", "syrc", "thaa", "yezi"]), (0x61c, 0x61c, ["arab", "syrc", "thaa"]), (0x61f,
    0x61f, ["adlm", "arab", "gara", "nkoo", "rohg", "syrc", "thaa", "yezi"]), (0x640, 0x640,
    ["adlm", "arab", "mand", "mani", "ougr", "phlp", "rohg", "sogd", "syrc"]),
    (0x64b, 0x655, ["arab", "syrc"]), (0x660, 0x669, ["arab", "thaa", "yezi"]),
    (0x670, 0x670, ["arab", "syrc"]), (0x6d4, 0x6d4, ["arab", "rohg"]), (0x951, 0x951, ["beng",
    "deva", "gran", "gujr", "guru", "knda", "latn", "mlym", "nand", "newa", "orya", "shrd",
    "taml", "telu", "tirh"]), (0x952, 0x952, ["beng", "deva", "gran", "gujr", "guru", "knda",
    "latn", "mlym", "newa", "orya", "taml", "telu", "tirh"]), (0x964, 0x964, ["beng", "deva",
    "dogr", "gong", "gonm", "gran", "gujr", "guru", "knda", "mahj", "mlym", "nand", "onao",
    "orya", "sind", "sinh", "sylo", "takr", "taml", "telu", "tirh"]), (0x965, 0x965, ["beng",
    "deva", "dogr", "gong", "gonm", "gran", "gujr", "gukh", "guru", "knda", "limb", "mahj",
    "mlym", "nand", "onao", "orya", "sind", "sinh", "sylo", "takr", "taml", "telu", "tirh"]),
    (0x966, 0x96f, ["deva", "dogr", "kthi", "mahj"]), (0x9e6, 0x9ef, ["beng", "cakm", "sylo"]),
    (0xa66, 0xa6f, ["guru", "mult"]), (0xae6, 0xaef, ["gujr", "khoj"]),
    (0xbe6, 0xbf3, ["gran", "taml"]), (0xce6, 0xcef, ["knda", "nand", "tutg"]),
    (0x1040, 0x1049, ["cakm", "mymr", "tale"]), (0x10fb, 0x10fb, ["geor", "glag", "latn"]),
    (0x16eb, 0x16ed, ["runr"]), (0x1735, 0x1736, ["buhd", "hano", "tagb", "tglg"]),
    (0x1802, 0x1803, ["mong", "phag"]), (0x1805, 0x1805, ["mong", "phag"]),
    (0x1cd0, 0x1cd0, ["beng", "deva", "gran", "knda"]), (0x1cd1, 0x1cd1, ["deva"]),
    (0x1cd2, 0x1cd2, ["beng", "deva", "gran", "knda"]),
    (0x1cd3, 0x1cd3, ["deva", "gran", "knda"]), (0x1cd4, 0x1cd4, ["deva"]),
    (0x1cd5, 0x1cd5, ["beng", "deva", "newa", "telu", "tirh"]),
    (0x1cd6, 0x1cd6, ["beng", "deva", "telu"]), (0x1cd7, 0x1cd7, ["deva", "newa", "shrd"]),
    (0x1cd8, 0x1cd8, ["beng", "deva", "newa", "telu"]), (0x1cd9, 0x1cd9, ["deva", "shrd"]),
    (0x1cda, 0x1cda, ["deva", "knda", "mlym", "orya", "taml", "telu"]),
    (0x1cdb, 0x1cdb, ["deva"]), (0x1cdc, 0x1cdd, ["deva", "shrd"]), (0x1cde, 0x1cdf, ["deva"]),
    (0x1ce0, 0x1ce0, ["deva", "shrd"]), (0x1ce1, 0x1ce1, ["beng", "deva"]),
    (0x1ce2, 0x1ce2, ["deva", "newa", "tirh"]), (0x1ce3, 0x1ce8, ["deva"]),
    (0x1ce9, 0x1ce9, ["deva", "nand", "newa"]), (0x1cea, 0x1cea, ["beng", "deva", "shrd"]),
    (0x1ceb, 0x1ceb, ["deva", "newa"]), (0x1cec, 0x1cec, ["deva"]),
    (0x1ced, 0x1ced, ["beng", "deva", "newa", "shrd"]), (0x1cee, 0x1cf1, ["deva"]), (0x1cf2,
    0x1cf2, ["beng", "deva", "gran", "knda", "mlym", "nand", "orya", "sinh", "telu", "tirh",
    "tutg"]), (0x1cf3, 0x1cf3, ["deva", "gran"]),
    (0x1cf4, 0x1cf4, ["deva", "gran", "knda", "tutg"]), (0x1cf5, 0x1cf6, ["beng", "deva"]),
    (0x1cf7, 0x1cf7, ["beng"]), (0x1cf8, 0x1cf9, ["deva", "gran"]), (0x1cfa, 0x1cfa, ["nand"]),
    (0x1dc0, 0x1dc1, ["grek"]), (0x1df8, 0x1df8, ["cyrl", "latn", "syrc"]),
    (0x1dfa, 0x1dfa, ["syrc"]), (0x202f, 0x202f, ["latn", "mong", "phag"]),
    (0x204f, 0x204f, ["adlm", "arab"]), (0x205a, 0x205a, ["cari", "geor", "glag", "hung", "lyci",
    "orkh"]), (0x205d, 0x205d, ["cari", "grek", "hung", "mero"]),
    (0x20f0, 0x20f0, ["deva", "gran", "latn"]), (0x2e17, 0x2e17, ["copt", "latn"]),
    (0x2e30, 0x2e30, ["avst", "orkh"]), (0x2e31, 0x2e31, ["avst", "cari", "geor", "hung", "kthi",
    "lydi", "samr"]), (0x2e3c, 0x2e3c, ["dupl"]), (0x2e41, 0x2e41, ["adlm", "arab", "hung"]),
    (0x2e43, 0x2e43, ["cyrl", "glag"]), (0x2ff0, 0x2fff, ["hani", "tang"]), (0x3001, 0x3001,
    ["bopo", "hang", "hani", "hira", "kana", "mong", "yiii"]), (0x3002, 0x3002, ["bopo", "hang",
    "hani", "hira", "kana", "mong", "phag", "yiii"]),
    (0x3003, 0x3003, ["bopo", "hang", "hani", "hira", "kana"]), (0x3006, 0x3006, ["hani"]),
    (0x3008, 0x3009, ["bopo", "hang", "hani", "hira", "kana", "mong", "tibt", "yiii"]), (0x300a,
    0x300b, ["bopo", "hang", "hani", "hira", "kana", "lisu", "mong", "tibt", "yiii"]), (0x300c,
    0x3011, ["bopo", "hang", "hani", "hira", "kana", "yiii"]),
    (0x3013, 0x3013, ["bopo", "hang", "hani", "hira", "kana"]), (0x3014, 0x301b, ["bopo", "hang",
    "hani", "hira", "kana", "yiii"]), (0x301c, 0x301f, ["bopo", "hang", "hani", "hira", "kana"]),
    (0x302a, 0x302d, ["bopo", "hani"]),
    (0x3030, 0x3030, ["bopo", "hang", "hani", "hira", "kana"]),
    (0x3031, 0x3035, ["hira", "kana"]),
    (0x3037, 0x3037, ["bopo", "hang", "hani", "hira", "kana"]),
    (0x303c, 0x303d, ["hani", "hira", "kana"]), (0x303e, 0x303f, ["hani"]),
    (0x3099, 0x309c, ["hira", "kana"]), (0x30a0, 0x30a0, ["hira", "kana"]), (0x30fb, 0x30fb,
    ["bopo", "hang", "hani", "hira", "kana", "yiii"]), (0x30fc, 0x30fc, ["hira", "kana"]),
    (0x3190, 0x319f, ["hani"]), (0x31c0, 0x31e5, ["hani"]), (0x31ef, 0x31ef, ["hani", "tang"]),
    (0x3220, 0x3247, ["hani"]), (0x3280, 0x32b0, ["hani"]), (0x32c0, 0x32cb, ["hani"]),
    (0x32ff, 0x32ff, ["hani"]), (0x3358, 0x3370, ["hani"]), (0x337b, 0x337f, ["hani"]),
    (0x33e0, 0x33fe, ["hani"]), (0xa66f, 0xa66f, ["cyrl", "glag"]),
    (0xa700, 0xa707, ["hani", "latn"]), (0xa830, 0xa832, ["deva", "dogr", "gujr", "guru", "khoj",
    "knda", "kthi", "mahj", "mlym", "modi", "nand", "shrd", "sind", "takr", "tirh", "tutg"]),
    (0xa833, 0xa835, ["deva", "dogr", "gujr", "guru", "khoj", "knda", "kthi", "mahj", "modi",
    "nand", "shrd", "sind", "takr", "tirh", "tutg"]), (0xa836, 0xa837, ["deva", "dogr", "gujr",
    "guru", "khoj", "kthi", "mahj", "modi", "sind", "takr", "tirh"]), (0xa838, 0xa838, ["deva",
    "dogr", "gujr", "guru", "khoj", "kthi", "mahj", "modi", "shrd", "sind", "takr", "tirh"]),
    (0xa839, 0xa839, ["deva", "dogr", "gujr", "guru", "khoj", "kthi", "mahj", "modi", "sind",
    "takr", "tirh"]), (0xa8f1, 0xa8f1, ["beng", "deva", "tutg"]),
    (0xa8f3, 0xa8f3, ["deva", "taml"]), (0xa92e, 0xa92e, ["kali", "latn", "mymr"]),
    (0xa9cf, 0xa9cf, ["bugi", "java"]), (0xfd3e, 0xfd3f, ["arab", "nkoo"]),
    (0xfdf2, 0xfdf2, ["arab", "thaa"]), (0xfdfd, 0xfdfd, ["arab", "thaa"]),
    (0xfe45, 0xfe46, ["bopo", "hang", "hani", "hira", "kana"]), (0xff61, 0xff65, ["bopo", "hang",
    "hani", "hira", "kana", "yiii"]), (0xff70, 0xff70, ["hira", "kana"]),
    (0xff9e, 0xff9f, ["hira", "kana"]), (0x10100, 0x10101, ["cpmn", "cprt", "linb"]),
    (0x10102, 0x10102, ["cprt", "linb"]), (0x10107, 0x10133, ["cprt", "lina", "linb"]),
    (0x10137, 0x1013f, ["cprt", "linb"]), (0x102e0, 0x102fb, ["arab", "copt"]),
    (0x10af2, 0x10af2, ["mani", "ougr"]), (0x11301, 0x11301, ["gran", "taml"]),
    (0x11303, 0x11303, ["gran", "taml"]), (0x1133b, 0x1133c, ["gran", "taml"]),
    (0x11fd0, 0x11fd1, ["gran", "taml"]), (0x11fd3, 0x11fd3, ["gran", "taml"]),
    (0x1bca0, 0x1bca3, ["dupl"]), (0x1d360, 0x1d371, ["hani"]), (0x1f250, 0x1f251, ["hani"])]

end RecordQuery.Pattern
