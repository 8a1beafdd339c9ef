/-!
# Characters in domain names

Data for the compatibility processing of internationalised domain names: what each character of
Unicode is replaced by before a name is looked up, which characters are left out, and which no name
may have.
-/

namespace GrammarBots.Domain.MappingTable

/-- Code points `first`, `first + step`, … up to `last`, all moved by `delta`. -/
structure Shift where
  /-- The first code point. -/
  first : Nat
  /-- The last code point. -/
  last : Nat
  /-- The distance between neighbours: two where upper and lower case alternate. -/
  step : Nat
  /-- What is added to each of them. -/
  delta : Int

/-- The longer runs of characters that are replaced by one at the same distance. -/
def shifts : List Shift := [
    ⟨0x41, 0x5A, 1, 32⟩, ⟨0xC0, 0xD6, 1, 32⟩, ⟨0xD8, 0xDE, 1, 32⟩, ⟨0x100, 0x12E, 2, 1⟩,
    ⟨0x141, 0x147, 2, 1⟩, ⟨0x14A, 0x176, 2, 1⟩, ⟨0x1CD, 0x1DB, 2, 1⟩, ⟨0x1DE, 0x1EE, 2, 1⟩,
    ⟨0x1F8, 0x21E, 2, 1⟩, ⟨0x222, 0x232, 2, 1⟩, ⟨0x246, 0x24E, 2, 1⟩, ⟨0x391, 0x3A1, 1, 32⟩,
    ⟨0x3A3, 0x3AB, 1, 32⟩, ⟨0x3D8, 0x3EE, 2, 1⟩, ⟨0x400, 0x40F, 1, 80⟩, ⟨0x410, 0x42F, 1, 32⟩,
    ⟨0x460, 0x480, 2, 1⟩, ⟨0x48A, 0x4BE, 2, 1⟩, ⟨0x4C1, 0x4CD, 2, 1⟩, ⟨0x4D0, 0x52E, 2, 1⟩,
    ⟨0x531, 0x556, 1, 48⟩, ⟨0x10A0, 0x10C5, 1, 7264⟩, ⟨0x13F8, 0x13FD, 1, -8⟩,
    ⟨0x1C90, 0x1CBA, 1, -3008⟩, ⟨0x1D31, 0x1D39, 2, -7372⟩, ⟨0x1D34, 0x1D3A, 2, -7372⟩,
    ⟨0x1DAE, 0x1DB1, 1, -6972⟩, ⟨0x1E00, 0x1E94, 2, 1⟩, ⟨0x1EA0, 0x1EFE, 2, 1⟩,
    ⟨0x1F08, 0x1F0F, 1, -8⟩, ⟨0x1F18, 0x1F1D, 1, -8⟩, ⟨0x1F28, 0x1F2F, 1, -8⟩,
    ⟨0x1F38, 0x1F3F, 1, -8⟩, ⟨0x1F48, 0x1F4D, 1, -8⟩, ⟨0x1F59, 0x1F5F, 2, -8⟩,
    ⟨0x1F68, 0x1F6F, 1, -8⟩, ⟨0x2074, 0x2079, 1, -8256⟩, ⟨0x2080, 0x2089, 1, -8272⟩,
    ⟨0x2096, 0x2099, 1, -8235⟩, ⟨0x2135, 0x2138, 1, -7013⟩, ⟨0x2460, 0x2468, 1, -9263⟩,
    ⟨0x24B6, 0x24CF, 1, -9301⟩, ⟨0x24D0, 0x24E9, 1, -9327⟩, ⟨0x2C00, 0x2C2F, 1, 48⟩,
    ⟨0x2C80, 0x2CE2, 2, 1⟩, ⟨0x313A, 0x313F, 1, -8074⟩, ⟨0x3145, 0x314E, 1, -8252⟩,
    ⟨0x314F, 0x3163, 1, -8174⟩, ⟨0x3178, 0x317C, 1, -8269⟩, ⟨0x3269, 0x326D, 1, -8539⟩,
    ⟨0x32E4, 0x32E9, 1, -538⟩, ⟨0x32EE, 0x32F2, 1, -528⟩, ⟨0x32F5, 0x32FA, 1, -525⟩,
    ⟨0x32FB, 0x32FE, 1, -524⟩, ⟨0xA640, 0xA66C, 2, 1⟩, ⟨0xA680, 0xA69A, 2, 1⟩,
    ⟨0xA722, 0xA72E, 2, 1⟩, ⟨0xA732, 0xA76E, 2, 1⟩, ⟨0xA77E, 0xA786, 2, 1⟩, ⟨0xA796, 0xA7A8, 2, 1⟩,
    ⟨0xA7B4, 0xA7C2, 2, 1⟩, ⟨0xA7CC, 0xA7DA, 2, 1⟩, ⟨0xAB70, 0xABBF, 1, -38864⟩,
    ⟨0xFE41, 0xFE44, 1, -52789⟩, ⟨0xFF02, 0xFF18, 2, -65248⟩, ⟨0xFF07, 0xFF0D, 2, -65248⟩,
    ⟨0xFF11, 0xFF1D, 2, -65248⟩, ⟨0xFF21, 0xFF3A, 1, -65216⟩, ⟨0xFF3F, 0xFF5B, 1, -65248⟩,
    ⟨0xFF85, 0xFF8A, 1, -52923⟩, ⟨0xFF8F, 0xFF93, 1, -52913⟩, ⟨0xFF96, 0xFF9B, 1, -52910⟩,
    ⟨0xFFAA, 0xFFAF, 1, -60922⟩, ⟨0xFFB5, 0xFFBE, 1, -61100⟩, ⟨0xFFC2, 0xFFC7, 1, -61025⟩,
    ⟨0xFFCA, 0xFFCF, 1, -61027⟩, ⟨0xFFD2, 0xFFD7, 1, -61029⟩, ⟨0xFFE9, 0xFFEC, 1, -56921⟩,
    ⟨0x10400, 0x10427, 1, 40⟩, ⟨0x104B0, 0x104D3, 1, 40⟩, ⟨0x10570, 0x10594, 2, 39⟩,
    ⟨0x10571, 0x10579, 2, 39⟩, ⟨0x1057D, 0x10589, 2, 39⟩, ⟨0x10C80, 0x10CB2, 1, 64⟩,
    ⟨0x10D50, 0x10D65, 1, 32⟩, ⟨0x118A0, 0x118BF, 1, 32⟩, ⟨0x16E40, 0x16E5F, 1, 32⟩,
    ⟨0x16EA0, 0x16EB8, 1, 27⟩, ⟨0x1CCD6, 0x1CCEF, 1, -117877⟩, ⟨0x1CCF0, 0x1CCF9, 1, -117952⟩,
    ⟨0x1D400, 0x1D419, 1, -119711⟩, ⟨0x1D41A, 0x1D433, 1, -119737⟩, ⟨0x1D434, 0x1D44D, 1, -119763⟩,
    ⟨0x1D44E, 0x1D466, 2, -119789⟩, ⟨0x1D457, 0x1D467, 2, -119789⟩, ⟨0x1D468, 0x1D481, 1, -119815⟩,
    ⟨0x1D482, 0x1D49B, 1, -119841⟩, ⟨0x1D4A9, 0x1D4AC, 1, -119867⟩, ⟨0x1D4AE, 0x1D4B5, 1, -119867⟩,
    ⟨0x1D4B6, 0x1D4B9, 1, -119893⟩, ⟨0x1D4BB, 0x1D4CF, 2, -119893⟩, ⟨0x1D4C6, 0x1D4CE, 2, -119893⟩,
    ⟨0x1D4D0, 0x1D4E9, 1, -119919⟩, ⟨0x1D4EA, 0x1D503, 1, -119945⟩, ⟨0x1D507, 0x1D50A, 1, -119971⟩,
    ⟨0x1D50D, 0x1D514, 1, -119971⟩, ⟨0x1D516, 0x1D51C, 1, -119971⟩, ⟨0x1D51E, 0x1D537, 1, -119997⟩,
    ⟨0x1D53B, 0x1D53E, 1, -120023⟩, ⟨0x1D540, 0x1D544, 1, -120023⟩, ⟨0x1D54A, 0x1D550, 1, -120023⟩,
    ⟨0x1D552, 0x1D56B, 1, -120049⟩, ⟨0x1D56C, 0x1D585, 1, -120075⟩, ⟨0x1D586, 0x1D59F, 1, -120101⟩,
    ⟨0x1D5A0, 0x1D5B9, 1, -120127⟩, ⟨0x1D5BA, 0x1D5D3, 1, -120153⟩, ⟨0x1D5D4, 0x1D5ED, 1, -120179⟩,
    ⟨0x1D5EE, 0x1D607, 1, -120205⟩, ⟨0x1D608, 0x1D621, 1, -120231⟩, ⟨0x1D622, 0x1D63B, 1, -120257⟩,
    ⟨0x1D63C, 0x1D655, 1, -120283⟩, ⟨0x1D656, 0x1D66F, 1, -120309⟩, ⟨0x1D670, 0x1D689, 1, -120335⟩,
    ⟨0x1D68A, 0x1D6A3, 1, -120361⟩, ⟨0x1D6A8, 0x1D6B8, 1, -119543⟩, ⟨0x1D6BA, 0x1D6C0, 1, -119543⟩,
    ⟨0x1D6C2, 0x1D6D2, 1, -119569⟩, ⟨0x1D6D4, 0x1D6DA, 1, -119569⟩, ⟨0x1D6E2, 0x1D6F2, 1, -119601⟩,
    ⟨0x1D6F4, 0x1D6FA, 1, -119601⟩, ⟨0x1D6FC, 0x1D70C, 1, -119627⟩, ⟨0x1D70E, 0x1D714, 1, -119627⟩,
    ⟨0x1D71C, 0x1D72C, 1, -119659⟩, ⟨0x1D72E, 0x1D734, 1, -119659⟩, ⟨0x1D736, 0x1D746, 1, -119685⟩,
    ⟨0x1D748, 0x1D74E, 1, -119685⟩, ⟨0x1D756, 0x1D766, 1, -119717⟩, ⟨0x1D768, 0x1D76E, 1, -119717⟩,
    ⟨0x1D770, 0x1D780, 1, -119743⟩, ⟨0x1D782, 0x1D788, 1, -119743⟩, ⟨0x1D790, 0x1D7A0, 1, -119775⟩,
    ⟨0x1D7A2, 0x1D7A8, 1, -119775⟩, ⟨0x1D7AA, 0x1D7BA, 1, -119801⟩, ⟨0x1D7BC, 0x1D7C2, 1, -119801⟩,
    ⟨0x1D7CE, 0x1D7D7, 1, -120734⟩, ⟨0x1D7D8, 0x1D7E1, 1, -120744⟩, ⟨0x1D7E2, 0x1D7EB, 1, -120754⟩,
    ⟨0x1D7EC, 0x1D7F5, 1, -120764⟩, ⟨0x1D7F6, 0x1D7FF, 1, -120774⟩, ⟨0x1E030, 0x1E038, 1, -121856⟩,
    ⟨0x1E03C, 0x1E046, 1, -121854⟩, ⟨0x1E051, 0x1E059, 1, -121889⟩, ⟨0x1E05F, 0x1E064, 1, -121884⟩,
    ⟨0x1E900, 0x1E921, 1, 34⟩, ⟨0x1EE0A, 0x1EE0D, 1, -124871⟩, ⟨0x1EE2A, 0x1EE2D, 1, -124903⟩,
    ⟨0x1F130, 0x1F149, 1, -127183⟩, ⟨0x1FBF0, 0x1FBF9, 1, -129984⟩]

/-- Replacements of neighbouring characters. -/
structure Replacements where
  /-- The first code point. -/
  first : Nat
  /-- The last code point. -/
  last : Nat
  /-- What each is replaced by, with a blank in between; maybe by itself. -/
  words : String

/-- What the other characters are replaced by, in order of code points. -/
def replacements : List Replacements := [
    ⟨0xAA, 0xAA, "a"⟩,
    ⟨0xB2, 0xB3, "2 3"⟩,
    ⟨0xB5, 0xB5, "μ"⟩,
    ⟨0xB9, 0xBE, "1 o » 1⁄4 1⁄2 3⁄4"⟩,
    ⟨0x130, 0x140, "i\u0307 ı ij ij ĵ ĵ ķ ķ ĸ ĺ ĺ ļ ļ ľ ľ l· l·"⟩,
    ⟨0x149, 0x149, "ʼn"⟩,
    ⟨0x178, 0x19E, "ÿ ź ź ż ż ž ž s ƀ ɓ ƃ ƃ ƅ ƅ ɔ ƈ ƈ ɖ ɗ ƌ ƌ ƍ ǝ ə ɛ ƒ ƒ ɠ ɣ ƕ ɩ ɨ ƙ ƙ ƚ ƛ ɯ ɲ ƞ"⟩,
    ⟨0x19F, 0x1BC, "ɵ ơ ơ ƣ ƣ ƥ ƥ ʀ ƨ ƨ ʃ ƪ ƫ ƭ ƭ ʈ ư ư ʊ ʋ ƴ ƴ ƶ ƶ ʒ ƹ ƹ ƺ ƻ ƽ"⟩,
    ⟨0x1C4, 0x1CC, "dž dž dž lj lj lj nj nj nj"⟩,
    ⟨0x1F1, 0x1F7, "dz dz dz ǵ ǵ ƕ ƿ"⟩,
    ⟨0x220, 0x220, "ƞ"⟩,
    ⟨0x23A, 0x245, "ⱥ ȼ ȼ ƚ ⱦ ȿ ɀ ɂ ɂ ƀ ʉ ʌ"⟩,
    ⟨0x2B0, 0x2B8, "h ɦ j r ɹ ɻ ʁ w y"⟩,
    ⟨0x2E0, 0x2E4, "ɣ l s x ʕ"⟩,
    ⟨0x340, 0x345, "\u0300 \u0301 \u0342 \u0313 \u0308\u0301 ι"⟩,
    ⟨0x370, 0x376, "ͱ ͱ ͳ ͳ ʹ ͵ ͷ"⟩,
    ⟨0x37E, 0x37F, "; ϳ"⟩,
    ⟨0x386, 0x38A, "ά · έ ή ί"⟩,
    ⟨0x38C, 0x38C, "ό"⟩,
    ⟨0x38E, 0x38F, "ύ ώ"⟩,
    ⟨0x3CF, 0x3D6, "ϗ β θ υ ύ ϋ φ π"⟩,
    ⟨0x3F0, 0x3FF, "κ ρ σ ϳ θ ε ϶ ϸ ϸ σ ϻ ϻ ϼ ͻ ͼ ͽ"⟩,
    ⟨0x4C0, 0x4C0, "ӏ"⟩,
    ⟨0x587, 0x587, "եւ"⟩,
    ⟨0x675, 0x678, "\u0627\u0674 \u0648\u0674 \u06c7\u0674 \u064a\u0674"⟩,
    ⟨0x958, 0x95F, "क\u093c ख\u093c ग\u093c ज\u093c ड\u093c ढ\u093c फ\u093c य\u093c"⟩,
    ⟨0x9DC, 0x9DD, "ড\u09bc ঢ\u09bc"⟩,
    ⟨0x9DF, 0x9DF, "য\u09bc"⟩,
    ⟨0xA33, 0xA33, "ਲ\u0a3c"⟩,
    ⟨0xA36, 0xA36, "ਸ\u0a3c"⟩,
    ⟨0xA59, 0xA5B, "ਖ\u0a3c ਗ\u0a3c ਜ\u0a3c"⟩,
    ⟨0xA5E, 0xA5E, "ਫ\u0a3c"⟩,
    ⟨0xB5C, 0xB5D, "ଡ\u0b3c ଢ\u0b3c"⟩,
    ⟨0xE33, 0xE33, "\u0e4dา"⟩,
    ⟨0xEB3, 0xEB3, "\u0ecdາ"⟩,
    ⟨0xEDC, 0xEDD, "ຫນ ຫມ"⟩,
    ⟨0xF0C, 0xF0C, "་"⟩,
    ⟨0xF43, 0xF43, "ག\u0fb7"⟩,
    ⟨0xF4D, 0xF5C, "ཌ\u0fb7 ཎ ཏ ཐ ད ད\u0fb7 ན པ ཕ བ བ\u0fb7 མ ཙ ཚ ཛ ཛ\u0fb7"⟩,
    ⟨0xF69, 0xF69, "ཀ\u0fb5"⟩,
    ⟨0xF73, 0xF78, "\u0f71\u0f72 \u0f74 \u0f71\u0f74 \u0fb2\u0f80 \u0fb2\u0f71\u0f80 \u0fb3\u0f80"⟩,
    ⟨0xF79, 0xF79, "\u0fb3\u0f71\u0f80"⟩,
    ⟨0xF81, 0xF81, "\u0f71\u0f80"⟩,
    ⟨0xF93, 0xF93, "\u0f92\u0fb7"⟩,
    ⟨0xF9D, 0xFA5, "\u0f9c\u0fb7 \u0f9e \u0f9f \u0fa0 \u0fa1 \u0fa1\u0fb7 \u0fa3 \u0fa4 \u0fa5"⟩,
    ⟨0xFA6, 0xFAC, "\u0fa6 \u0fa6\u0fb7 \u0fa8 \u0fa9 \u0faa \u0fab \u0fab\u0fb7"⟩,
    ⟨0xFB9, 0xFB9, "\u0f90\u0fb5"⟩,
    ⟨0x10C7, 0x10C7, "ⴧ"⟩,
    ⟨0x10CD, 0x10CD, "ⴭ"⟩,
    ⟨0x10FC, 0x10FC, "ნ"⟩,
    ⟨0x1C80, 0x1C89, "в д о с т т ъ ѣ ꙋ \u1c8a"⟩,
    ⟨0x1CBD, 0x1CBF, "ჽ ჾ ჿ"⟩,
    ⟨0x1D2C, 0x1D30, "a æ b ᴯ d"⟩,
    ⟨0x1D32, 0x1D32, "ǝ"⟩,
    ⟨0x1D3C, 0x1D61, "o ȣ p r t u w a ɐ ɑ ᴂ b d e ə ɛ ɜ g ᵎ k m ŋ o ɔ ᴖ ᴗ p t u ᴝ ɯ v ᴥ β γ δ φ χ"⟩,
    ⟨0x1D62, 0x1D6A, "i r u v β γ ρ φ χ"⟩,
    ⟨0x1D78, 0x1D78, "н"⟩,
    ⟨0x1D9B, 0x1DAD, "ɒ c ɕ ð ɜ f ɟ ɡ ɥ ɨ ɩ ɪ ᵻ ʝ ɭ ᶅ ʟ ɱ ɰ"⟩,
    ⟨0x1DB2, 0x1DBF, "ɸ ʂ ʃ ƫ ʉ ʊ ᴜ ʋ ʌ z ʐ ʑ ʒ θ"⟩,
    ⟨0x1E9A, 0x1E9E, "aʾ ṡ ẜ ẝ ß"⟩,
    ⟨0x1F71, 0x1F7D, "ά ὲ έ ὴ ή ὶ ί ὸ ό ὺ ύ ὼ ώ"⟩,
    ⟨0x1F80, 0x1F98, "ἀι ἁι ἂι ἃι ἄι ἅι ἆι ἇι ἀι ἁι ἂι ἃι ἄι ἅι ἆι ἇι ἠι ἡι ἢι ἣι ἤι ἥι ἦι ἧι ἠι"⟩,
    ⟨0x1F99, 0x1FB2, "ἡι ἢι ἣι ἤι ἥι ἦι ἧι ὠι ὡι ὢι ὣι ὤι ὥι ὦι ὧι ὠι ὡι ὢι ὣι ὤι ὥι ὦι ὧι ᾰ ᾱ ὰι"⟩,
    ⟨0x1FB3, 0x1FB4, "αι άι"⟩,
    ⟨0x1FB7, 0x1FBC, "ᾶι ᾰ ᾱ ὰ ά αι"⟩,
    ⟨0x1FBE, 0x1FBE, "ι"⟩,
    ⟨0x1FC2, 0x1FC4, "ὴι ηι ήι"⟩,
    ⟨0x1FC7, 0x1FCC, "ῆι ὲ έ ὴ ή ηι"⟩,
    ⟨0x1FD3, 0x1FD3, "ΐ"⟩,
    ⟨0x1FD8, 0x1FDB, "ῐ ῑ ὶ ί"⟩,
    ⟨0x1FE3, 0x1FEC, "ΰ ῤ ῥ ῦ ῧ ῠ ῡ ὺ ύ ῥ"⟩,
    ⟨0x1FEF, 0x1FEF, "\x60"⟩,
    ⟨0x1FF2, 0x1FF4, "ὼι ωι ώι"⟩,
    ⟨0x1FF7, 0x1FFC, "ῶι ὸ ό ὼ ώ ωι"⟩,
    ⟨0x2011, 0x2011, "‐"⟩,
    ⟨0x2033, 0x203C, "′′ ′′′ ‵ ‵‵ ‵‵‵ ‸ ‹ › ※ !!"⟩,
    ⟨0x2057, 0x2057, "′′′′"⟩,
    ⟨0x2070, 0x2071, "0 i"⟩,
    ⟨0x207A, 0x207F, "+ − = ( ) n"⟩,
    ⟨0x208A, 0x208E, "+ − = ( )"⟩,
    ⟨0x2090, 0x2095, "a e o x ə h"⟩,
    ⟨0x209A, 0x209C, "p s t"⟩,
    ⟨0x20A8, 0x20A8, "rs"⟩,
    ⟨0x2102, 0x2103, "c °c"⟩,
    ⟨0x2107, 0x2129, "ɛ ℈ °f g h h h h ħ i i l l ℔ n no ℗ ℘ p q r r r ℞ ℟ sm tel tm ℣ z ℥ ω ℧ z ℩"⟩,
    ⟨0x212A, 0x2134, "k å b c ℮ e e f ⅎ m o"⟩,
    ⟨0x2139, 0x2155, "i ℺ fax π γ γ π ∑ ⅁ ⅂ ⅃ ⅄ d d e i j ⅊ ⅋ ⅌ ⅍ ⅎ ⅏ 1⁄7 1⁄9 1⁄10 1⁄3 2⁄3 1⁄5"⟩,
    ⟨0x2156, 0x216A, "2⁄5 3⁄5 4⁄5 1⁄6 5⁄6 1⁄8 3⁄8 5⁄8 7⁄8 1⁄ i ii iii iv v vi vii viii ix x xi"⟩,
    ⟨0x216B, 0x2188, "xii l c d m i ii iii iv v vi vii viii ix x xi xii l c d m ↀ ↁ ↂ ↄ ↄ ↅ ↆ ↇ ↈ"⟩,
    ⟨0x2189, 0x2189, "0⁄3"⟩,
    ⟨0x222C, 0x2230, "∫∫ ∫∫∫ ∮ ∮∮ ∮∮∮"⟩,
    ⟨0x2329, 0x232A, "〈 〉"⟩,
    ⟨0x2469, 0x247D, "10 11 12 13 14 15 16 17 18 19 20 (1) (2) (3) (4) (5) (6) (7) (8) (9) (10)"⟩,
    ⟨0x247E, 0x2487, "(11) (12) (13) (14) (15) (16) (17) (18) (19) (20)"⟩,
    ⟨0x249C, 0x24AE, "(a) (b) (c) (d) (e) (f) (g) (h) (i) (j) (k) (l) (m) (n) (o) (p) (q) (r) (s)"⟩,
    ⟨0x24AF, 0x24B5, "(t) (u) (v) (w) (x) (y) (z)"⟩,
    ⟨0x24EA, 0x24EA, "0"⟩,
    ⟨0x2A0C, 0x2A0C, "∫∫∫∫"⟩,
    ⟨0x2A75, 0x2A76, "== ==="⟩,
    ⟨0x2ADC, 0x2ADC, "⫝\u0338"⟩,
    ⟨0x2C60, 0x2C7F, "ⱡ ⱡ ɫ ᵽ ɽ ⱥ ⱦ ⱨ ⱨ ⱪ ⱪ ⱬ ⱬ ɑ ɱ ɐ ɒ ⱱ ⱳ ⱳ ⱴ ⱶ ⱶ ⱷ ⱸ ⱹ ⱺ ⱻ j v ȿ ɀ"⟩,
    ⟨0x2CEB, 0x2CF2, "ⳬ ⳬ ⳮ ⳮ \u2cef \u2cf0 \u2cf1 ⳳ"⟩,
    ⟨0x2D6F, 0x2D6F, "ⵡ"⟩,
    ⟨0x2E9F, 0x2E9F, "母"⟩,
    ⟨0x2EF3, 0x2EF3, "龟"⟩,
    ⟨0x2F00, 0x2F25, "一 丨 丶 丿 乙 亅 二 亠 人 儿 入 八 冂 冖 冫 几 凵 刀 力 勹 匕 匚 匸 十 卜 卩 厂 厶 又 口 囗 土 士 夂 夊 夕 大 女"⟩,
    ⟨0x2F26, 0x2F4B, "子 宀 寸 小 尢 尸 屮 山 巛 工 己 巾 干 幺 广 廴 廾 弋 弓 彐 彡 彳 心 戈 戶 手 支 攴 文 斗 斤 方 无 日 曰 月 木 欠"⟩,
    ⟨0x2F4C, 0x2F71, "止 歹 殳 毋 比 毛 氏 气 水 火 爪 父 爻 爿 片 牙 牛 犬 玄 玉 瓜 瓦 甘 生 用 田 疋 疒 癶 白 皮 皿 目 矛 矢 石 示 禸"⟩,
    ⟨0x2F72, 0x2F97, "禾 穴 立 竹 米 糸 缶 网 羊 羽 老 而 耒 耳 聿 肉 臣 自 至 臼 舌 舛 舟 艮 色 艸 虍 虫 血 行 衣 襾 見 角 言 谷 豆 豕"⟩,
    ⟨0x2F98, 0x2FBD, "豸 貝 赤 走 足 身 車 辛 辰 辵 邑 酉 釆 里 金 長 門 阜 隶 隹 雨 靑 非 面 革 韋 韭 音 頁 風 飛 食 首 香 馬 骨 高 髟"⟩,
    ⟨0x2FBE, 0x2FD5, "鬥 鬯 鬲 鬼 魚 鳥 鹵 鹿 麥 麻 黃 黍 黑 黹 黽 鼎 鼓 鼠 鼻 齊 齒 龍 龜 龠"⟩,
    ⟨0x3002, 0x3002, "."⟩,
    ⟨0x3036, 0x303A, "〒 〷 十 卄 卅"⟩,
    ⟨0x309F, 0x309F, "より"⟩,
    ⟨0x30FF, 0x30FF, "コト"⟩,
    ⟨0x3131, 0x3139, "ᄀ ᄁ ᆪ ᄂ ᆬ ᆭ ᄃ ᄄ ᄅ"⟩,
    ⟨0x3140, 0x3144, "ᄚ ᄆ ᄇ ᄈ ᄡ"⟩,
    ⟨0x3165, 0x3177, "ᄔ ᄕ ᇇ ᇈ ᇌ ᇎ ᇓ ᇗ ᇙ ᄜ ᇝ ᇟ ᄝ ᄞ ᄠ ᄢ ᄣ ᄧ ᄩ"⟩,
    ⟨0x317D, 0x318E, "ᄲ ᄶ ᅀ ᅇ ᅌ ᇱ ᇲ ᅗ ᅘ ᅙ ᆄ ᆅ ᆈ ᆑ ᆒ ᆔ ᆞ ᆡ"⟩,
    ⟨0x3192, 0x319F, "一 二 三 四 上 中 下 甲 乙 丙 丁 天 地 人"⟩,
    ⟨0x3200, 0x3212, "(ᄀ) (ᄂ) (ᄃ) (ᄅ) (ᄆ) (ᄇ) (ᄉ) (ᄋ) (ᄌ) (ᄎ) (ᄏ) (ᄐ) (ᄑ) (ᄒ) (가) (나) (다) (라) (마)"⟩,
    ⟨0x3213, 0x321E, "(바) (사) (아) (자) (차) (카) (타) (파) (하) (주) (오전) (오후)"⟩,
    ⟨0x3220, 0x3232, "(一) (二) (三) (四) (五) (六) (七) (八) (九) (十) (月) (火) (水) (木) (金) (土) (日) (株) (有)"⟩,
    ⟨0x3233, 0x3247, "(社) (名) (特) (財) (祝) (労) (代) (呼) (学) (監) (企) (資) (協) (祭) (休) (自) (至) 問 幼 文 箏"⟩,
    ⟨0x3250, 0x3268, "pte 21 22 23 24 25 26 27 28 29 30 31 32 33 34 35 ᄀ ᄂ ᄃ ᄅ ᄆ ᄇ ᄉ ᄋ ᄌ"⟩,
    ⟨0x326E, 0x3292, "가 나 다 라 마 바 사 아 자 차 카 타 파 하 참고 주의 우 ㉿ 一 二 三 四 五 六 七 八 九 十 月 火 水 木 金 土 日 株 有"⟩,
    ⟨0x3293, 0x32B5, "社 名 特 財 祝 労 秘 男 女 適 優 印 注 項 休 写 正 上 中 下 左 右 医 宗 学 監 企 資 協 夜 36 37 38 39 40"⟩,
    ⟨0x32B6, 0x32CD, "41 42 43 44 45 46 47 48 49 50 1月 2月 3月 4月 5月 6月 7月 8月 9月 10月 11月 12月 hg erg"⟩,
    ⟨0x32CE, 0x32E3, "ev ltd ア イ ウ エ オ カ キ ク ケ コ サ シ ス セ ソ タ チ ツ テ ト"⟩,
    ⟨0x32EA, 0x32ED, "ヒ フ ヘ ホ"⟩,
    ⟨0x32F3, 0x32F4, "ヤ ユ"⟩,
    ⟨0x32FF, 0x330F, "令和 アパート アルファ アンペア アール イニング インチ ウォン エスクード エーカー オンス オーム カイリ カラット カロリー ガロン ガンマ"⟩,
    ⟨0x3310, 0x331E, "ギガ ギニー キュリー ギルダー キロ キログラム キロメートル キロワット グラム グラムトン クルゼイロ クローネ ケース コルナ コーポ"⟩,
    ⟨0x331F, 0x3330, "サイクル サンチーム シリング センチ セント ダース デシ ドル トン ナノ ノット ハイツ パーセント パーツ バーレル ピアストル ピクル ピコ"⟩,
    ⟨0x3331, 0x3341, "ビル ファラッド フィート ブッシェル フラン ヘクタール ペソ ペニヒ ヘルツ ペンス ページ ベータ ポイント ボルト ホン ポンド ホール"⟩,
    ⟨0x3342, 0x3352, "ホーン マイクロ マイル マッハ マルク マンション ミクロン ミリ ミリバール メガ メガトン メートル ヤード ヤール ユアン リットル リラ"⟩,
    ⟨0x3353, 0x3367, "ルピー ルーブル レム レントゲン ワット 0点 1点 2点 3点 4点 5点 6点 7点 8点 9点 10点 11点 12点 13点 14点 15点"⟩,
    ⟨0x3368, 0x337C, "16点 17点 18点 19点 20点 21点 22点 23点 24点 hpa da au bar ov pc dm dm2 dm3 iu 平成 昭和"⟩,
    ⟨0x337D, 0x3392, "大正 明治 株式会社 pa na μa ma ka kb mb gb cal kcal pf nf μf μg mg kg hz khz mhz"⟩,
    ⟨0x3393, 0x33A7, "ghz thz μl ml dl kl fm nm μm mm cm km mm2 cm2 m2 km2 mm3 cm3 m3 km3 m∕s"⟩,
    ⟨0x33A8, 0x33BC, "m∕s2 pa kpa mpa gpa rad rad∕s rad∕s2 ps ns μs ms pv nv μv mv kv mv pw nw μw"⟩,
    ⟨0x33BD, 0x33C1, "mw kw mw kω mω"⟩,
    ⟨0x33C3, 0x33C6, "bq cc cd c∕kg"⟩,
    ⟨0x33C8, 0x33D7, "db gy ha hp in kk km kt lm ln log lx mb mil mol ph"⟩,
    ⟨0x33D9, 0x33EE, "ppm pr sr sv wb v∕m a∕m 1日 2日 3日 4日 5日 6日 7日 8日 9日 10日 11日 12日 13日 14日 15日"⟩,
    ⟨0x33EF, 0x33FF, "16日 17日 18日 19日 20日 21日 22日 23日 24日 25日 26日 27日 28日 29日 30日 31日 gal"⟩,
    ⟨0xA69C, 0xA69D, "ъ ь"⟩,
    ⟨0xA770, 0xA770, "ꝯ"⟩,
    ⟨0xA779, 0xA77D, "ꝺ ꝺ ꝼ ꝼ ᵹ"⟩,
    ⟨0xA78B, 0xA792, "ꞌ ꞌ ɥ ꞎ ꞏ ꞑ ꞑ ꞓ"⟩,
    ⟨0xA7AA, 0xA7B3, "ɦ ɜ ɡ ɬ ɪ ꞯ ʞ ʇ ʝ ꭓ"⟩,
    ⟨0xA7C4, 0xA7CB, "ꞔ ʂ ᶎ ꟈ ꟈ ꟊ ꟊ ɤ"⟩,
    ⟨0xA7DC, 0xA7DC, "ƛ"⟩,
    ⟨0xA7F1, 0xA7F9, "s c f q ꟶ ꟶ ꟷ ħ œ"⟩,
    ⟨0xAB5C, 0xAB5F, "ꜧ ꬷ ɫ ꭒ"⟩,
    ⟨0xAB69, 0xAB69, "ʍ"⟩,
    ⟨0xF900, 0xF925, "豈 更 車 賈 滑 串 句 龜 龜 契 金 喇 奈 懶 癩 羅 蘿 螺 裸 邏 樂 洛 烙 珞 落 酪 駱 亂 卵 欄 爛 蘭 鸞 嵐 濫 藍 襤 拉"⟩,
    ⟨0xF926, 0xF94B, "臘 蠟 廊 朗 浪 狼 郎 來 冷 勞 擄 櫓 爐 盧 老 蘆 虜 路 露 魯 鷺 碌 祿 綠 菉 錄 鹿 論 壟 弄 籠 聾 牢 磊 賂 雷 壘 屢"⟩,
    ⟨0xF94C, 0xF971, "樓 淚 漏 累 縷 陋 勒 肋 凜 凌 稜 綾 菱 陵 讀 拏 樂 諾 丹 寧 怒 率 異 北 磻 便 復 不 泌 數 索 參 塞 省 葉 說 殺 辰"⟩,
    ⟨0xF972, 0xF997, "沈 拾 若 掠 略 亮 兩 凉 梁 糧 良 諒 量 勵 呂 女 廬 旅 濾 礪 閭 驪 麗 黎 力 曆 歷 轢 年 憐 戀 撚 漣 煉 璉 秊 練 聯"⟩,
    ⟨0xF998, 0xF9BD, "輦 蓮 連 鍊 列 劣 咽 烈 裂 說 廉 念 捻 殮 簾 獵 令 囹 寧 嶺 怜 玲 瑩 羚 聆 鈴 零 靈 領 例 禮 醴 隸 惡 了 僚 寮 尿"⟩,
    ⟨0xF9BE, 0xF9E3, "料 樂 燎 療 蓼 遼 龍 暈 阮 劉 杻 柳 流 溜 琉 留 硫 紐 類 六 戮 陸 倫 崙 淪 輪 律 慄 栗 率 隆 利 吏 履 易 李 梨 泥"⟩,
    ⟨0xF9E4, 0xFA09, "理 痢 罹 裏 裡 里 離 匿 溺 吝 燐 璘 藺 隣 鱗 麟 林 淋 臨 立 笠 粒 狀 炙 識 什 茶 刺 切 度 拓 糖 宅 洞 暴 輻 行 降"⟩,
    ⟨0xFA0A, 0xFA2F, "見 廓 兀 嗀 﨎 﨏 塚 﨑 晴 﨓 﨔 凞 猪 益 礼 神 祥 福 靖 精 羽 﨟 蘒 﨡 諸 﨣 﨤 逸 都 﨧 﨨 﨩 飯 飼 館 鶴 郞 隷"⟩,
    ⟨0xFA30, 0xFA55, "侮 僧 免 勉 勤 卑 喝 嘆 器 塀 墨 層 屮 悔 慨 憎 懲 敏 既 暑 梅 海 渚 漢 煮 爫 琢 碑 社 祉 祈 祐 祖 祝 禍 禎 穀 突"⟩,
    ⟨0xFA56, 0xFA6D, "節 練 縉 繁 署 者 臭 艹 艹 著 褐 視 謁 謹 賓 贈 辶 逸 難 響 頻 恵 𤋮 舘"⟩,
    ⟨0xFA70, 0xFA95, "並 况 全 侀 充 冀 勇 勺 喝 啕 喙 嗢 塚 墳 奄 奔 婢 嬨 廒 廙 彩 徭 惘 慎 愈 憎 慠 懲 戴 揄 搜 摒 敖 晴 朗 望 杖 歹"⟩,
    ⟨0xFA96, 0xFABB, "殺 流 滛 滋 漢 瀞 煮 瞧 爵 犯 猪 瑱 甆 画 瘝 瘟 益 盛 直 睊 着 磌 窱 節 类 絛 練 缾 者 荒 華 蝹 襁 覆 視 調 諸 請"⟩,
    ⟨0xFABC, 0xFAD9, "謁 諾 諭 謹 變 贈 輸 遲 醙 鉶 陼 難 靖 韛 響 頋 頻 鬒 龜 𢡊 𢡄 𣏕 㮝 䀘 䀹 𥉉 𥳐 𧻓 齃 龎"⟩,
    ⟨0xFB00, 0xFB06, "ff fi fl ffi ffl st st"⟩,
    ⟨0xFB13, 0xFB17, "մն մե մի վն մխ"⟩,
    ⟨0xFB1D, 0xFB25, "\u05d9\u05b4 \ufb1e \u05f2\u05b7 \u05e2 \u05d0 \u05d3 \u05d4 \u05db \u05dc"⟩,
    ⟨0xFB26, 0xFB2C, "\u05dd \u05e8 \u05ea + \u05e9\u05c1 \u05e9\u05c2 \u05e9\u05bc\u05c1"⟩,
    ⟨0xFB2D, 0xFB31, "\u05e9\u05bc\u05c2 \u05d0\u05b7 \u05d0\u05b8 \u05d0\u05bc \u05d1\u05bc"⟩,
    ⟨0xFB32, 0xFB36, "\u05d2\u05bc \u05d3\u05bc \u05d4\u05bc \u05d5\u05bc \u05d6\u05bc"⟩,
    ⟨0xFB38, 0xFB3C, "\u05d8\u05bc \u05d9\u05bc \u05da\u05bc \u05db\u05bc \u05dc\u05bc"⟩,
    ⟨0xFB3E, 0xFB3E, "\u05de\u05bc"⟩,
    ⟨0xFB40, 0xFB41, "\u05e0\u05bc \u05e1\u05bc"⟩,
    ⟨0xFB43, 0xFB44, "\u05e3\u05bc \u05e4\u05bc"⟩,
    ⟨0xFB46, 0xFB4A, "\u05e6\u05bc \u05e7\u05bc \u05e8\u05bc \u05e9\u05bc \u05ea\u05bc"⟩,
    ⟨0xFB4B, 0xFB50, "\u05d5\u05b9 \u05d1\u05bf \u05db\u05bf \u05e4\u05bf \u05d0\u05dc \u0671"⟩,
    ⟨0xFB51, 0xFB5A, "\u0671 \u067b \u067b \u067b \u067b \u067e \u067e \u067e \u067e \u0680"⟩,
    ⟨0xFB5B, 0xFB64, "\u0680 \u0680 \u0680 \u067a \u067a \u067a \u067a \u067f \u067f \u067f"⟩,
    ⟨0xFB65, 0xFB6E, "\u067f \u0679 \u0679 \u0679 \u0679 \u06a4 \u06a4 \u06a4 \u06a4 \u06a6"⟩,
    ⟨0xFB6F, 0xFB78, "\u06a6 \u06a6 \u06a6 \u0684 \u0684 \u0684 \u0684 \u0683 \u0683 \u0683"⟩,
    ⟨0xFB79, 0xFB82, "\u0683 \u0686 \u0686 \u0686 \u0686 \u0687 \u0687 \u0687 \u0687 \u068d"⟩,
    ⟨0xFB83, 0xFB8C, "\u068d \u068c \u068c \u068e \u068e \u0688 \u0688 \u0698 \u0698 \u0691"⟩,
    ⟨0xFB8D, 0xFB96, "\u0691 \u06a9 \u06a9 \u06a9 \u06a9 \u06af \u06af \u06af \u06af \u06b3"⟩,
    ⟨0xFB97, 0xFBA0, "\u06b3 \u06b3 \u06b3 \u06b1 \u06b1 \u06b1 \u06b1 \u06ba \u06ba \u06bb"⟩,
    ⟨0xFBA1, 0xFBAA, "\u06bb \u06bb \u06bb \u06c0 \u06c0 \u06c1 \u06c1 \u06c1 \u06c1 \u06be"⟩,
    ⟨0xFBAB, 0xFBB1, "\u06be \u06be \u06be \u06d2 \u06d2 \u06d3 \u06d3"⟩,
    ⟨0xFBD3, 0xFBDC, "\u06ad \u06ad \u06ad \u06ad \u06c7 \u06c7 \u06c6 \u06c6 \u06c8 \u06c8"⟩,
    ⟨0xFBDD, 0xFBE6, "\u06c7\u0674 \u06cb \u06cb \u06c5 \u06c5 \u06c9 \u06c9 \u06d0 \u06d0 \u06d0"⟩,
    ⟨0xFBE7, 0xFBED, "\u06d0 \u0649 \u0649 \u0626\u0627 \u0626\u0627 \u0626\u06d5 \u0626\u06d5"⟩,
    ⟨0xFBEE, 0xFBF2, "\u0626\u0648 \u0626\u0648 \u0626\u06c7 \u0626\u06c7 \u0626\u06c6"⟩,
    ⟨0xFBF3, 0xFBF7, "\u0626\u06c6 \u0626\u06c8 \u0626\u06c8 \u0626\u06d0 \u0626\u06d0"⟩,
    ⟨0xFBF8, 0xFBFE, "\u0626\u06d0 \u0626\u0649 \u0626\u0649 \u0626\u0649 \u06cc \u06cc \u06cc"⟩,
    ⟨0xFBFF, 0xFC04, "\u06cc \u0626\u062c \u0626\u062d \u0626\u0645 \u0626\u0649 \u0626\u064a"⟩,
    ⟨0xFC05, 0xFC09, "\u0628\u062c \u0628\u062d \u0628\u062e \u0628\u0645 \u0628\u0649"⟩,
    ⟨0xFC0A, 0xFC0E, "\u0628\u064a \u062a\u062c \u062a\u062d \u062a\u062e \u062a\u0645"⟩,
    ⟨0xFC0F, 0xFC13, "\u062a\u0649 \u062a\u064a \u062b\u062c \u062b\u0645 \u062b\u0649"⟩,
    ⟨0xFC14, 0xFC18, "\u062b\u064a \u062c\u062d \u062c\u0645 \u062d\u062c \u062d\u0645"⟩,
    ⟨0xFC19, 0xFC1D, "\u062e\u062c \u062e\u062d \u062e\u0645 \u0633\u062c \u0633\u062d"⟩,
    ⟨0xFC1E, 0xFC22, "\u0633\u062e \u0633\u0645 \u0635\u062d \u0635\u0645 \u0636\u062c"⟩,
    ⟨0xFC23, 0xFC27, "\u0636\u062d \u0636\u062e \u0636\u0645 \u0637\u062d \u0637\u0645"⟩,
    ⟨0xFC28, 0xFC2C, "\u0638\u0645 \u0639\u062c \u0639\u0645 \u063a\u062c \u063a\u0645"⟩,
    ⟨0xFC2D, 0xFC31, "\u0641\u062c \u0641\u062d \u0641\u062e \u0641\u0645 \u0641\u0649"⟩,
    ⟨0xFC32, 0xFC36, "\u0641\u064a \u0642\u062d \u0642\u0645 \u0642\u0649 \u0642\u064a"⟩,
    ⟨0xFC37, 0xFC3B, "\u0643\u0627 \u0643\u062c \u0643\u062d \u0643\u062e \u0643\u0644"⟩,
    ⟨0xFC3C, 0xFC40, "\u0643\u0645 \u0643\u0649 \u0643\u064a \u0644\u062c \u0644\u062d"⟩,
    ⟨0xFC41, 0xFC45, "\u0644\u062e \u0644\u0645 \u0644\u0649 \u0644\u064a \u0645\u062c"⟩,
    ⟨0xFC46, 0xFC4A, "\u0645\u062d \u0645\u062e \u0645\u0645 \u0645\u0649 \u0645\u064a"⟩,
    ⟨0xFC4B, 0xFC4F, "\u0646\u062c \u0646\u062d \u0646\u062e \u0646\u0645 \u0646\u0649"⟩,
    ⟨0xFC50, 0xFC54, "\u0646\u064a \u0647\u062c \u0647\u0645 \u0647\u0649 \u0647\u064a"⟩,
    ⟨0xFC55, 0xFC59, "\u064a\u062c \u064a\u062d \u064a\u062e \u064a\u0645 \u064a\u0649"⟩,
    ⟨0xFC5A, 0xFC5D, "\u064a\u064a \u0630\u0670 \u0631\u0670 \u0649\u0670"⟩,
    ⟨0xFC64, 0xFC68, "\u0626\u0631 \u0626\u0632 \u0626\u0645 \u0626\u0646 \u0626\u0649"⟩,
    ⟨0xFC69, 0xFC6D, "\u0626\u064a \u0628\u0631 \u0628\u0632 \u0628\u0645 \u0628\u0646"⟩,
    ⟨0xFC6E, 0xFC72, "\u0628\u0649 \u0628\u064a \u062a\u0631 \u062a\u0632 \u062a\u0645"⟩,
    ⟨0xFC73, 0xFC77, "\u062a\u0646 \u062a\u0649 \u062a\u064a \u062b\u0631 \u062b\u0632"⟩,
    ⟨0xFC78, 0xFC7C, "\u062b\u0645 \u062b\u0646 \u062b\u0649 \u062b\u064a \u0641\u0649"⟩,
    ⟨0xFC7D, 0xFC81, "\u0641\u064a \u0642\u0649 \u0642\u064a \u0643\u0627 \u0643\u0644"⟩,
    ⟨0xFC82, 0xFC86, "\u0643\u0645 \u0643\u0649 \u0643\u064a \u0644\u0645 \u0644\u0649"⟩,
    ⟨0xFC87, 0xFC8B, "\u0644\u064a \u0645\u0627 \u0645\u0645 \u0646\u0631 \u0646\u0632"⟩,
    ⟨0xFC8C, 0xFC90, "\u0646\u0645 \u0646\u0646 \u0646\u0649 \u0646\u064a \u0649\u0670"⟩,
    ⟨0xFC91, 0xFC95, "\u064a\u0631 \u064a\u0632 \u064a\u0645 \u064a\u0646 \u064a\u0649"⟩,
    ⟨0xFC96, 0xFC9A, "\u064a\u064a \u0626\u062c \u0626\u062d \u0626\u062e \u0626\u0645"⟩,
    ⟨0xFC9B, 0xFC9F, "\u0626\u0647 \u0628\u062c \u0628\u062d \u0628\u062e \u0628\u0645"⟩,
    ⟨0xFCA0, 0xFCA4, "\u0628\u0647 \u062a\u062c \u062a\u062d \u062a\u062e \u062a\u0645"⟩,
    ⟨0xFCA5, 0xFCA9, "\u062a\u0647 \u062b\u0645 \u062c\u062d \u062c\u0645 \u062d\u062c"⟩,
    ⟨0xFCAA, 0xFCAE, "\u062d\u0645 \u062e\u062c \u062e\u0645 \u0633\u062c \u0633\u062d"⟩,
    ⟨0xFCAF, 0xFCB3, "\u0633\u062e \u0633\u0645 \u0635\u062d \u0635\u062e \u0635\u0645"⟩,
    ⟨0xFCB4, 0xFCB8, "\u0636\u062c \u0636\u062d \u0636\u062e \u0636\u0645 \u0637\u062d"⟩,
    ⟨0xFCB9, 0xFCBD, "\u0638\u0645 \u0639\u062c \u0639\u0645 \u063a\u062c \u063a\u0645"⟩,
    ⟨0xFCBE, 0xFCC2, "\u0641\u062c \u0641\u062d \u0641\u062e \u0641\u0645 \u0642\u062d"⟩,
    ⟨0xFCC3, 0xFCC7, "\u0642\u0645 \u0643\u062c \u0643\u062d \u0643\u062e \u0643\u0644"⟩,
    ⟨0xFCC8, 0xFCCC, "\u0643\u0645 \u0644\u062c \u0644\u062d \u0644\u062e \u0644\u0645"⟩,
    ⟨0xFCCD, 0xFCD1, "\u0644\u0647 \u0645\u062c \u0645\u062d \u0645\u062e \u0645\u0645"⟩,
    ⟨0xFCD2, 0xFCD6, "\u0646\u062c \u0646\u062d \u0646\u062e \u0646\u0645 \u0646\u0647"⟩,
    ⟨0xFCD7, 0xFCDB, "\u0647\u062c \u0647\u0645 \u0647\u0670 \u064a\u062c \u064a\u062d"⟩,
    ⟨0xFCDC, 0xFCE0, "\u064a\u062e \u064a\u0645 \u064a\u0647 \u0626\u0645 \u0626\u0647"⟩,
    ⟨0xFCE1, 0xFCE5, "\u0628\u0645 \u0628\u0647 \u062a\u0645 \u062a\u0647 \u062b\u0645"⟩,
    ⟨0xFCE6, 0xFCEA, "\u062b\u0647 \u0633\u0645 \u0633\u0647 \u0634\u0645 \u0634\u0647"⟩,
    ⟨0xFCEB, 0xFCEF, "\u0643\u0644 \u0643\u0645 \u0644\u0645 \u0646\u0645 \u0646\u0647"⟩,
    ⟨0xFCF0, 0xFCF3, "\u064a\u0645 \u064a\u0647 \u0640\u064e\u0651 \u0640\u064f\u0651"⟩,
    ⟨0xFCF4, 0xFCF8, "\u0640\u0650\u0651 \u0637\u0649 \u0637\u064a \u0639\u0649 \u0639\u064a"⟩,
    ⟨0xFCF9, 0xFCFD, "\u063a\u0649 \u063a\u064a \u0633\u0649 \u0633\u064a \u0634\u0649"⟩,
    ⟨0xFCFE, 0xFD02, "\u0634\u064a \u062d\u0649 \u062d\u064a \u062c\u0649 \u062c\u064a"⟩,
    ⟨0xFD03, 0xFD07, "\u062e\u0649 \u062e\u064a \u0635\u0649 \u0635\u064a \u0636\u0649"⟩,
    ⟨0xFD08, 0xFD0C, "\u0636\u064a \u0634\u062c \u0634\u062d \u0634\u062e \u0634\u0645"⟩,
    ⟨0xFD0D, 0xFD11, "\u0634\u0631 \u0633\u0631 \u0635\u0631 \u0636\u0631 \u0637\u0649"⟩,
    ⟨0xFD12, 0xFD16, "\u0637\u064a \u0639\u0649 \u0639\u064a \u063a\u0649 \u063a\u064a"⟩,
    ⟨0xFD17, 0xFD1B, "\u0633\u0649 \u0633\u064a \u0634\u0649 \u0634\u064a \u062d\u0649"⟩,
    ⟨0xFD1C, 0xFD20, "\u062d\u064a \u062c\u0649 \u062c\u064a \u062e\u0649 \u062e\u064a"⟩,
    ⟨0xFD21, 0xFD25, "\u0635\u0649 \u0635\u064a \u0636\u0649 \u0636\u064a \u0634\u062c"⟩,
    ⟨0xFD26, 0xFD2A, "\u0634\u062d \u0634\u062e \u0634\u0645 \u0634\u0631 \u0633\u0631"⟩,
    ⟨0xFD2B, 0xFD2F, "\u0635\u0631 \u0636\u0631 \u0634\u062c \u0634\u062d \u0634\u062e"⟩,
    ⟨0xFD30, 0xFD34, "\u0634\u0645 \u0633\u0647 \u0634\u0647 \u0637\u0645 \u0633\u062c"⟩,
    ⟨0xFD35, 0xFD39, "\u0633\u062d \u0633\u062e \u0634\u062c \u0634\u062d \u0634\u062e"⟩,
    ⟨0xFD3A, 0xFD3D, "\u0637\u0645 \u0638\u0645 \u0627\u064b \u0627\u064b"⟩,
    ⟨0xFD50, 0xFD53, "\u062a\u062c\u0645 \u062a\u062d\u062c \u062a\u062d\u062c \u062a\u062d\u0645"⟩,
    ⟨0xFD54, 0xFD57, "\u062a\u062e\u0645 \u062a\u0645\u062c \u062a\u0645\u062d \u062a\u0645\u062e"⟩,
    ⟨0xFD58, 0xFD5B, "\u062c\u0645\u062d \u062c\u0645\u062d \u062d\u0645\u064a \u062d\u0645\u0649"⟩,
    ⟨0xFD5C, 0xFD5F, "\u0633\u062d\u062c \u0633\u062c\u062d \u0633\u062c\u0649 \u0633\u0645\u062d"⟩,
    ⟨0xFD60, 0xFD63, "\u0633\u0645\u062d \u0633\u0645\u062c \u0633\u0645\u0645 \u0633\u0645\u0645"⟩,
    ⟨0xFD64, 0xFD67, "\u0635\u062d\u062d \u0635\u062d\u062d \u0635\u0645\u0645 \u0634\u062d\u0645"⟩,
    ⟨0xFD68, 0xFD6B, "\u0634\u062d\u0645 \u0634\u062c\u064a \u0634\u0645\u062e \u0634\u0645\u062e"⟩,
    ⟨0xFD6C, 0xFD6F, "\u0634\u0645\u0645 \u0634\u0645\u0645 \u0636\u062d\u0649 \u0636\u062e\u0645"⟩,
    ⟨0xFD70, 0xFD73, "\u0636\u062e\u0645 \u0637\u0645\u062d \u0637\u0645\u062d \u0637\u0645\u0645"⟩,
    ⟨0xFD74, 0xFD77, "\u0637\u0645\u064a \u0639\u062c\u0645 \u0639\u0645\u0645 \u0639\u0645\u0645"⟩,
    ⟨0xFD78, 0xFD7B, "\u0639\u0645\u0649 \u063a\u0645\u0645 \u063a\u0645\u064a \u063a\u0645\u0649"⟩,
    ⟨0xFD7C, 0xFD7F, "\u0641\u062e\u0645 \u0641\u062e\u0645 \u0642\u0645\u062d \u0642\u0645\u0645"⟩,
    ⟨0xFD80, 0xFD83, "\u0644\u062d\u0645 \u0644\u062d\u064a \u0644\u062d\u0649 \u0644\u062c\u062c"⟩,
    ⟨0xFD84, 0xFD87, "\u0644\u062c\u062c \u0644\u062e\u0645 \u0644\u062e\u0645 \u0644\u0645\u062d"⟩,
    ⟨0xFD88, 0xFD8B, "\u0644\u0645\u062d \u0645\u062d\u062c \u0645\u062d\u0645 \u0645\u062d\u064a"⟩,
    ⟨0xFD8C, 0xFD8F, "\u0645\u062c\u062d \u0645\u062c\u0645 \u0645\u062e\u062c \u0645\u062e\u0645"⟩,
    ⟨0xFD90, 0xFD94, "\ufd90 \ufd91 \u0645\u062c\u062e \u0647\u0645\u062c \u0647\u0645\u0645"⟩,
    ⟨0xFD95, 0xFD98, "\u0646\u062d\u0645 \u0646\u062d\u0649 \u0646\u062c\u0645 \u0646\u062c\u0645"⟩,
    ⟨0xFD99, 0xFD9C, "\u0646\u062c\u0649 \u0646\u0645\u064a \u0646\u0645\u0649 \u064a\u0645\u0645"⟩,
    ⟨0xFD9D, 0xFDA0, "\u064a\u0645\u0645 \u0628\u062e\u064a \u062a\u062c\u064a \u062a\u062c\u0649"⟩,
    ⟨0xFDA1, 0xFDA4, "\u062a\u062e\u064a \u062a\u062e\u0649 \u062a\u0645\u064a \u062a\u0645\u0649"⟩,
    ⟨0xFDA5, 0xFDA8, "\u062c\u0645\u064a \u062c\u062d\u0649 \u062c\u0645\u0649 \u0633\u062e\u0649"⟩,
    ⟨0xFDA9, 0xFDAC, "\u0635\u062d\u064a \u0634\u062d\u064a \u0636\u062d\u064a \u0644\u062c\u064a"⟩,
    ⟨0xFDAD, 0xFDB0, "\u0644\u0645\u064a \u064a\u062d\u064a \u064a\u062c\u064a \u064a\u0645\u064a"⟩,
    ⟨0xFDB1, 0xFDB4, "\u0645\u0645\u064a \u0642\u0645\u064a \u0646\u062d\u064a \u0642\u0645\u062d"⟩,
    ⟨0xFDB5, 0xFDB8, "\u0644\u062d\u0645 \u0639\u0645\u064a \u0643\u0645\u064a \u0646\u062c\u062d"⟩,
    ⟨0xFDB9, 0xFDBC, "\u0645\u062e\u064a \u0644\u062c\u0645 \u0643\u0645\u0645 \u0644\u062c\u0645"⟩,
    ⟨0xFDBD, 0xFDC0, "\u0646\u062c\u062d \u062c\u062d\u064a \u062d\u062c\u064a \u0645\u062c\u064a"⟩,
    ⟨0xFDC1, 0xFDC4, "\u0641\u0645\u064a \u0628\u062d\u064a \u0643\u0645\u0645 \u0639\u062c\u0645"⟩,
    ⟨0xFDC5, 0xFDC7, "\u0635\u0645\u0645 \u0633\u062e\u064a \u0646\u062c\u064a"⟩,
    ⟨0xFDF0, 0xFDF2, "\u0635\u0644\u06d2 \u0642\u0644\u06d2 \u0627\u0644\u0644\u0647"⟩,
    ⟨0xFDF3, 0xFDF5, "\u0627\u0643\u0628\u0631 \u0645\u062d\u0645\u062f \u0635\u0644\u0639\u0645"⟩,
    ⟨0xFDF6, 0xFDF8, "\u0631\u0633\u0648\u0644 \u0639\u0644\u064a\u0647 \u0648\u0633\u0644\u0645"⟩,
    ⟨0xFDF9, 0xFDF9, "\u0635\u0644\u0649"⟩,
    ⟨0xFDFC, 0xFDFC, "\u0631\u06cc\u0627\u0644"⟩,
    ⟨0xFE10, 0xFE11, ", 、"⟩,
    ⟨0xFE14, 0xFE15, "; !"⟩,
    ⟨0xFE17, 0xFE18, "〖 〗"⟩,
    ⟨0xFE31, 0xFE40, "— – _ _ ( ) \x7b \x7d 〔 〕 【 】 《 》 〈 〉"⟩,
    ⟨0xFE4D, 0xFE51, "_ _ _ , 、"⟩,
    ⟨0xFE54, 0xFE54, ";"⟩,
    ⟨0xFE57, 0xFE5E, "! — ( ) \x7b \x7d 〔 〕"⟩,
    ⟨0xFE60, 0xFE63, "& * + -"⟩,
    ⟨0xFE66, 0xFE66, "="⟩,
    ⟨0xFE69, 0xFE69, "$"⟩,
    ⟨0xFE71, 0xFE71, "\u0640\u064b"⟩,
    ⟨0xFE77, 0xFE77, "\u0640\u064e"⟩,
    ⟨0xFE79, 0xFE79, "\u0640\u064f"⟩,
    ⟨0xFE7B, 0xFE7B, "\u0640\u0650"⟩,
    ⟨0xFE7D, 0xFE7D, "\u0640\u0651"⟩,
    ⟨0xFE7F, 0xFE88, "\u0640\u0652 \u0621 \u0622 \u0622 \u0623 \u0623 \u0624 \u0624 \u0625 \u0625"⟩,
    ⟨0xFE89, 0xFE92, "\u0626 \u0626 \u0626 \u0626 \u0627 \u0627 \u0628 \u0628 \u0628 \u0628"⟩,
    ⟨0xFE93, 0xFE9C, "\u0629 \u0629 \u062a \u062a \u062a \u062a \u062b \u062b \u062b \u062b"⟩,
    ⟨0xFE9D, 0xFEA6, "\u062c \u062c \u062c \u062c \u062d \u062d \u062d \u062d \u062e \u062e"⟩,
    ⟨0xFEA7, 0xFEB0, "\u062e \u062e \u062f \u062f \u0630 \u0630 \u0631 \u0631 \u0632 \u0632"⟩,
    ⟨0xFEB1, 0xFEBA, "\u0633 \u0633 \u0633 \u0633 \u0634 \u0634 \u0634 \u0634 \u0635 \u0635"⟩,
    ⟨0xFEBB, 0xFEC4, "\u0635 \u0635 \u0636 \u0636 \u0636 \u0636 \u0637 \u0637 \u0637 \u0637"⟩,
    ⟨0xFEC5, 0xFECE, "\u0638 \u0638 \u0638 \u0638 \u0639 \u0639 \u0639 \u0639 \u063a \u063a"⟩,
    ⟨0xFECF, 0xFED8, "\u063a \u063a \u0641 \u0641 \u0641 \u0641 \u0642 \u0642 \u0642 \u0642"⟩,
    ⟨0xFED9, 0xFEE2, "\u0643 \u0643 \u0643 \u0643 \u0644 \u0644 \u0644 \u0644 \u0645 \u0645"⟩,
    ⟨0xFEE3, 0xFEEC, "\u0645 \u0645 \u0646 \u0646 \u0646 \u0646 \u0647 \u0647 \u0647 \u0647"⟩,
    ⟨0xFEED, 0xFEF5, "\u0648 \u0648 \u0649 \u0649 \u064a \u064a \u064a \u064a \u0644\u0622"⟩,
    ⟨0xFEF6, 0xFEFA, "\u0644\u0622 \u0644\u0623 \u0644\u0623 \u0644\u0625 \u0644\u0625"⟩,
    ⟨0xFEFB, 0xFEFC, "\u0644\u0627 \u0644\u0627"⟩,
    ⟨0xFF01, 0xFF01, "!"⟩,
    ⟨0xFF5D, 0xFF80, "\x7d ~ ⦅ ⦆ . 「 」 、 ・ ヲ ァ ィ ゥ ェ ォ ャ ュ ョ ッ ー ア イ ウ エ オ カ キ ク ケ コ サ シ ス セ ソ タ"⟩,
    ⟨0xFF81, 0xFF84, "チ ツ テ ト"⟩,
    ⟨0xFF8B, 0xFF8E, "ヒ フ ヘ ホ"⟩,
    ⟨0xFF94, 0xFF95, "ヤ ユ"⟩,
    ⟨0xFF9C, 0xFF9F, "ワ ン \u3099 \u309a"⟩,
    ⟨0xFFA1, 0xFFA9, "ᄀ ᄁ ᆪ ᄂ ᆬ ᆭ ᄃ ᄄ ᄅ"⟩,
    ⟨0xFFB0, 0xFFB4, "ᄚ ᄆ ᄇ ᄈ ᄡ"⟩,
    ⟨0xFFDA, 0xFFDC, "ᅳ ᅴ ᅵ"⟩,
    ⟨0xFFE0, 0xFFE2, "¢ £ ¬"⟩,
    ⟨0xFFE4, 0xFFE6, "¦ ¥ ₩"⟩,
    ⟨0xFFE8, 0xFFE8, "│"⟩,
    ⟨0xFFED, 0xFFEE, "■ ○"⟩,
    ⟨0x1058D, 0x1058D, "𐖴"⟩,
    ⟨0x1058F, 0x1058F, "𐖶"⟩,
    ⟨0x10591, 0x10591, "𐖸"⟩,
    ⟨0x10595, 0x10595, "𐖼"⟩,
    ⟨0x10781, 0x10785, "ː ˑ æ ʙ ɓ"⟩,
    ⟨0x10787, 0x107AB, "ʣ ꭦ ʥ ʤ ɖ ɗ ᶑ ɘ ɞ ʩ ɤ ɢ ɠ ʛ ħ ʜ ɧ ʄ ʪ ʫ ɬ 𝼄 ꞎ ɮ 𝼅 ʎ 𝼆 ø ɶ ɷ q ɺ 𝼈 ɽ ɾ ʀ ʨ"⟩,
    ⟨0x107AC, 0x107B0, "ʦ ꭧ ʧ ʈ ⱱ"⟩,
    ⟨0x107B2, 0x107BA, "ʏ ʡ ʢ ʘ ǀ ǁ ǂ 𝼊 𝼞"⟩,
    ⟨0x1D15E, 0x1D164, "𝅗𝅥 𝅘𝅥 𝅘𝅥𝅮 𝅘𝅥𝅯 𝅘𝅥𝅰 𝅘𝅥𝅱 𝅘𝅥𝅲"⟩,
    ⟨0x1D1BB, 0x1D1C0, "𝆹𝅥 𝆺𝅥 𝆹𝅥𝅮 𝆺𝅥𝅮 𝆹𝅥𝅯 𝆺𝅥𝅯"⟩,
    ⟨0x1D44F, 0x1D44F, "b"⟩,
    ⟨0x1D451, 0x1D451, "d"⟩,
    ⟨0x1D453, 0x1D453, "f"⟩,
    ⟨0x1D49C, 0x1D49C, "a"⟩,
    ⟨0x1D49E, 0x1D49F, "c d"⟩,
    ⟨0x1D4A2, 0x1D4A2, "g"⟩,
    ⟨0x1D4A5, 0x1D4A6, "j k"⟩,
    ⟨0x1D4BE, 0x1D4BE, "i"⟩,
    ⟨0x1D4C0, 0x1D4C0, "k"⟩,
    ⟨0x1D4C2, 0x1D4C2, "m"⟩,
    ⟨0x1D504, 0x1D505, "a b"⟩,
    ⟨0x1D538, 0x1D539, "a b"⟩,
    ⟨0x1D546, 0x1D546, "o"⟩,
    ⟨0x1D6A4, 0x1D6A5, "ı ȷ"⟩,
    ⟨0x1D6B9, 0x1D6B9, "θ"⟩,
    ⟨0x1D6C1, 0x1D6C1, "∇"⟩,
    ⟨0x1D6D3, 0x1D6D3, "σ"⟩,
    ⟨0x1D6DB, 0x1D6E1, "∂ ε θ κ φ ρ π"⟩,
    ⟨0x1D6F3, 0x1D6F3, "θ"⟩,
    ⟨0x1D6FB, 0x1D6FB, "∇"⟩,
    ⟨0x1D70D, 0x1D70D, "σ"⟩,
    ⟨0x1D715, 0x1D71B, "∂ ε θ κ φ ρ π"⟩,
    ⟨0x1D72D, 0x1D72D, "θ"⟩,
    ⟨0x1D735, 0x1D735, "∇"⟩,
    ⟨0x1D747, 0x1D747, "σ"⟩,
    ⟨0x1D74F, 0x1D755, "∂ ε θ κ φ ρ π"⟩,
    ⟨0x1D767, 0x1D767, "θ"⟩,
    ⟨0x1D76F, 0x1D76F, "∇"⟩,
    ⟨0x1D781, 0x1D781, "σ"⟩,
    ⟨0x1D789, 0x1D78F, "∂ ε θ κ φ ρ π"⟩,
    ⟨0x1D7A1, 0x1D7A1, "θ"⟩,
    ⟨0x1D7A9, 0x1D7A9, "∇"⟩,
    ⟨0x1D7BB, 0x1D7BB, "σ"⟩,
    ⟨0x1D7C3, 0x1D7CB, "∂ ε θ κ φ ρ π ϝ ϝ"⟩,
    ⟨0x1E039, 0x1E03B, "к л м"⟩,
    ⟨0x1E047, 0x1E050, "ы э ю ꚉ ә і ј ө ү ӏ"⟩,
    ⟨0x1E05A, 0x1E05E, "к л о п с"⟩,
    ⟨0x1E065, 0x1E06D, "ъ ы ґ і ѕ џ ҫ ꙑ ұ"⟩,
    ⟨0x1EE00, 0x1EE03, "\u0627 \u0628 \u062c \u062f"⟩,
    ⟨0x1EE05, 0x1EE09, "\u0648 \u0632 \u062d \u0637 \u064a"⟩,
    ⟨0x1EE0E, 0x1EE17, "\u0633 \u0639 \u0641 \u0635 \u0642 \u0631 \u0634 \u062a \u062b \u062e"⟩,
    ⟨0x1EE18, 0x1EE1F, "\u0630 \u0636 \u0638 \u063a \u066e \u06ba \u06a1 \u066f"⟩,
    ⟨0x1EE21, 0x1EE22, "\u0628 \u062c"⟩,
    ⟨0x1EE24, 0x1EE24, "\u0647"⟩,
    ⟨0x1EE27, 0x1EE27, "\u062d"⟩,
    ⟨0x1EE29, 0x1EE29, "\u064a"⟩,
    ⟨0x1EE2E, 0x1EE32, "\u0633 \u0639 \u0641 \u0635 \u0642"⟩,
    ⟨0x1EE34, 0x1EE37, "\u0634 \u062a \u062b \u062e"⟩,
    ⟨0x1EE39, 0x1EE39, "\u0636"⟩,
    ⟨0x1EE3B, 0x1EE3B, "\u063a"⟩,
    ⟨0x1EE42, 0x1EE42, "\u062c"⟩,
    ⟨0x1EE47, 0x1EE47, "\u062d"⟩,
    ⟨0x1EE49, 0x1EE49, "\u064a"⟩,
    ⟨0x1EE4B, 0x1EE4B, "\u0644"⟩,
    ⟨0x1EE4D, 0x1EE4F, "\u0646 \u0633 \u0639"⟩,
    ⟨0x1EE51, 0x1EE52, "\u0635 \u0642"⟩,
    ⟨0x1EE54, 0x1EE54, "\u0634"⟩,
    ⟨0x1EE57, 0x1EE57, "\u062e"⟩,
    ⟨0x1EE59, 0x1EE59, "\u0636"⟩,
    ⟨0x1EE5B, 0x1EE5B, "\u063a"⟩,
    ⟨0x1EE5D, 0x1EE5D, "\u06ba"⟩,
    ⟨0x1EE5F, 0x1EE5F, "\u066f"⟩,
    ⟨0x1EE61, 0x1EE62, "\u0628 \u062c"⟩,
    ⟨0x1EE64, 0x1EE64, "\u0647"⟩,
    ⟨0x1EE67, 0x1EE6A, "\u062d \u0637 \u064a \u0643"⟩,
    ⟨0x1EE6C, 0x1EE72, "\u0645 \u0646 \u0633 \u0639 \u0641 \u0635 \u0642"⟩,
    ⟨0x1EE74, 0x1EE77, "\u0634 \u062a \u062b \u062e"⟩,
    ⟨0x1EE79, 0x1EE7C, "\u0636 \u0638 \u063a \u066e"⟩,
    ⟨0x1EE7E, 0x1EE7E, "\u06a1"⟩,
    ⟨0x1EE80, 0x1EE89, "\u0627 \u0628 \u062c \u062f \u0647 \u0648 \u0632 \u062d \u0637 \u064a"⟩,
    ⟨0x1EE8B, 0x1EE94, "\u0644 \u0645 \u0646 \u0633 \u0639 \u0641 \u0635 \u0642 \u0631 \u0634"⟩,
    ⟨0x1EE95, 0x1EE9B, "\u062a \u062b \u062e \u0630 \u0636 \u0638 \u063a"⟩,
    ⟨0x1EEA1, 0x1EEA3, "\u0628 \u062c \u062f"⟩,
    ⟨0x1EEA5, 0x1EEA9, "\u0648 \u0632 \u062d \u0637 \u064a"⟩,
    ⟨0x1EEAB, 0x1EEB4, "\u0644 \u0645 \u0646 \u0633 \u0639 \u0641 \u0635 \u0642 \u0631 \u0634"⟩,
    ⟨0x1EEB5, 0x1EEBB, "\u062a \u062b \u062e \u0630 \u0636 \u0638 \u063a"⟩,
    ⟨0x1F101, 0x1F117, "0, 1, 2, 3, 4, 5, 6, 7, 8, 9, 🄋 🄌 🄍 🄎 🄏 (a) (b) (c) (d) (e) (f) (g) (h)"⟩,
    ⟨0x1F118, 0x1F129, "(i) (j) (k) (l) (m) (n) (o) (p) (q) (r) (s) (t) (u) (v) (w) (x) (y) (z)"⟩,
    ⟨0x1F12A, 0x1F12E, "〔s〕 c r cd wz"⟩,
    ⟨0x1F14A, 0x1F14F, "hv mv sd ss ppv wc"⟩,
    ⟨0x1F16A, 0x1F16C, "mc md mr"⟩,
    ⟨0x1F190, 0x1F190, "dj"⟩,
    ⟨0x1F200, 0x1F202, "ほか ココ サ"⟩,
    ⟨0x1F210, 0x1F234, "手 字 双 デ 二 多 解 天 交 映 無 料 前 後 再 新 初 終 生 販 声 吹 演 投 捕 一 三 遊 左 中 右 指 走 打 禁 空 合"⟩,
    ⟨0x1F235, 0x1F23B, "満 有 月 申 割 営 配"⟩,
    ⟨0x1F240, 0x1F248, "〔本〕 〔三〕 〔二〕 〔安〕 〔点〕 〔打〕 〔盗〕 〔勝〕 〔敗〕"⟩,
    ⟨0x1F250, 0x1F251, "得 可"⟩,
    ⟨0x2F800, 0x2F824, "丽 丸 乁 𠄢 你 侮 侻 倂 偺 備 僧 像 㒞 𠘺 免 兔 兤 具 𠔜 㒹 內 再 𠕋 冗 冤 仌 冬 况 𩇟 凵 刃 㓟 刻 剆 割 剷 㔕"⟩,
    ⟨0x2F825, 0x2F849, "勇 勉 勤 勺 包 匆 北 卉 卑 博 即 卽 卿 卿 卿 𠨬 灰 及 叟 𠭣 叫 叱 吆 咞 吸 呈 周 咢 哶 唐 啓 啣 善 善 喙 喫 喳"⟩,
    ⟨0x2F84A, 0x2F86E, "嗂 圖 嘆 圗 噑 噴 切 壮 城 埴 堍 型 堲 報 墬 𡓤 売 壷 夆 多 夢 奢 𡚨 𡛪 姬 娛 娧 姘 婦 㛮 㛼 嬈 嬾 嬾 𡧈 寃 寘"⟩,
    ⟨0x2F86F, 0x2F893, "寧 寳 𡬘 寿 将 当 尢 㞁 屠 屮 峀 岍 𡷤 嵃 𡷦 嵮 嵫 嵼 巡 巢 㠯 巽 帨 帽 幩 㡢 𢆃 㡼 庰 庳 庶 廊 𪎒 廾 𢌱 𢌱 舁"⟩,
    ⟨0x2F894, 0x2F8B8, "弢 弢 㣇 𣊸 𦇚 形 彫 㣣 徚 忍 志 忹 悁 㤺 㤜 悔 𢛔 惇 慈 慌 慎 慌 慺 憎 憲 憤 憯 懞 懲 懶 成 戛 扝 抱 拔 捐 𢬌"⟩,
    ⟨0x2F8B9, 0x2F8DD, "挽 拼 捨 掃 揤 𢯱 搢 揅 掩 㨮 摩 摾 撝 摷 㩬 敏 敬 𣀊 旣 書 晉 㬙 暑 㬈 㫤 冒 冕 最 暜 肭 䏙 朗 望 朡 杞 杓 𣏃"⟩,
    ⟨0x2F8DE, 0x2F902, "㭉 柺 枅 桒 梅 𣑭 梎 栟 椔 㮝 楂 榣 槪 檨 𣚣 櫛 㰘 次 𣢧 歔 㱎 歲 殟 殺 殻 𣪍 𡴋 𣫺 汎 𣲼 沿 泍 汧 洖 派 海 流"⟩,
    ⟨0x2F903, 0x2F927, "浩 浸 涅 𣴞 洴 港 湮 㴳 滋 滇 𣻑 淹 潮 𣽞 𣾎 濆 瀹 瀞 瀛 㶖 灊 災 灷 炭 𠔥 煅 𤉣 熜 𤎫 爨 爵 牐 𤘈 犀 犕 𤜵 𤠔"⟩,
    ⟨0x2F928, 0x2F94C, "獺 王 㺬 玥 㺸 㺸 瑇 瑜 瑱 璅 瓊 㼛 甤 𤰶 甾 𤲒 異 𢆟 瘐 𤾡 𤾸 𥁄 㿼 䀈 直 𥃳 𥃲 𥄙 𥄳 眞 真 真 睊 䀹 瞋 䁆 䂖"⟩,
    ⟨0x2F94D, 0x2F971, "𥐝 硎 碌 磌 䃣 𥘦 祖 𥚚 𥛅 福 秫 䄯 穀 穊 穏 𥥼 𥪧 𥪧 竮 䈂 𥮫 篆 築 䈧 𥲀 糒 䊠 糨 糣 紀 𥾆 絣 䌁 緇 縂 繅 䌴"⟩,
    ⟨0x2F972, 0x2F996, "𦈨 𦉇 䍙 𦋙 罺 𦌾 羕 翺 者 𦓚 𦔣 聠 𦖨 聰 𣍟 䏕 育 脃 䐋 脾 媵 𦞧 𦞵 𣎓 𣎜 舁 舄 辞 䑫 芑 芋 芝 劳 花 芳 芽 苦"⟩,
    ⟨0x2F997, 0x2F9BB, "𦬼 若 茝 荣 莭 茣 莽 菧 著 荓 菊 菌 菜 𦰶 𦵫 𦳕 䔫 蓱 蓳 蔖 𧏊 蕤 𦼬 䕝 䕡 𦾱 𧃒 䕫 虐 虜 虧 虩 蚩 蚈 蜎 蛢 蝹"⟩,
    ⟨0x2F9BC, 0x2F9E0, "蜨 蝫 螆 䗗 蟡 蠁 䗹 衠 衣 𧙧 裗 裞 䘵 裺 㒻 𧢮 𧥦 䚾 䛇 誠 諭 變 豕 𧲨 貫 賁 贛 起 𧼯 𠠄 跋 趼 跰 𠣞 軔 輸 𨗒"⟩,
    ⟨0x2F9E1, 0x2FA05, "𨗭 邔 郱 鄑 𨜮 鄛 鈸 鋗 鋘 鉼 鏹 鐕 𨯺 開 䦕 閷 𨵷 䧦 雃 嶲 霣 𩅅 𩈚 䩮 䩶 韠 𩐊 䪲 𩒖 頋 頋 頩 𩖶 飢 䬳 餩 馧"⟩,
    ⟨0x2FA06, 0x2FA1D, "駂 駾 䯎 𩬰 鬒 鱀 鳽 䳎 䳭 鵧 𪃎 䳸 𪄅 𪈎 𪊑 麻 䵖 黹 黾 鼅 鼏 鼖 鼻 𪘀"⟩]

/-- The characters that are left out of a name. -/
def ignored : Array (Nat × Nat) := #[
    (0xAD, 0xAD), (0x34F, 0x34F), (0x115F, 0x1160), (0x17B4, 0x17B5), (0x180B, 0x180F),
    (0x200B, 0x200B), (0x2060, 0x2064), (0x206A, 0x206F), (0x3164, 0x3164), (0xFE00, 0xFE0F),
    (0xFEFF, 0xFEFF), (0xFFA0, 0xFFA0), (0x1BCA0, 0x1BCA3), (0x1D173, 0x1D17A), (0xE0100, 0xE01EF)]

/-- The characters that no name may have.  The ranges run on over code points without a
character, which no name may have either. -/
def refused : Array (Nat × Nat) := #[
    (0x80, 0xA0), (0xA8, 0xA8), (0xAF, 0xAF), (0xB4, 0xB4), (0xB8, 0xB8), (0x2D8, 0x2DD),
    (0x37A, 0x37A), (0x384, 0x385), (0x600, 0x605), (0x61C, 0x61C), (0x6DD, 0x6DD), (0x70F, 0x70F),
    (0x890, 0x891), (0x8E2, 0x8E2), (0x1680, 0x1680), (0x1FBD, 0x1FBD), (0x1FBF, 0x1FC1),
    (0x1FCD, 0x1FCF), (0x1FDD, 0x1FDF), (0x1FED, 0x1FEE), (0x1FFD, 0x200A), (0x200E, 0x200F),
    (0x2017, 0x2017), (0x2024, 0x2026), (0x2028, 0x202F), (0x203E, 0x203E), (0x2047, 0x2049),
    (0x205F, 0x205F), (0x2066, 0x2069), (0x2100, 0x2101), (0x2105, 0x2106), (0x2488, 0x249B),
    (0x2A74, 0x2A74), (0x2FF0, 0x3000), (0x309B, 0x309C), (0x31EF, 0x31EF), (0x33C2, 0x33C2),
    (0x33C7, 0x33C7), (0x33D8, 0x33D8), (0xE000, 0xF8FF), (0xFC5E, 0xFC63), (0xFDFA, 0xFDFB),
    (0xFE12, 0xFE13), (0xFE16, 0xFE16), (0xFE19, 0xFE19), (0xFE30, 0xFE30), (0xFE47, 0xFE4C),
    (0xFE52, 0xFE52), (0xFE55, 0xFE56), (0xFE5F, 0xFE5F), (0xFE64, 0xFE65), (0xFE68, 0xFE68),
    (0xFE6A, 0xFE70), (0xFE72, 0xFE72), (0xFE74, 0xFE76), (0xFE78, 0xFE78), (0xFE7A, 0xFE7A),
    (0xFE7C, 0xFE7C), (0xFE7E, 0xFE7E), (0xFF03, 0xFF03), (0xFF05, 0xFF05), (0xFF0F, 0xFF0F),
    (0xFF1A, 0xFF1A), (0xFF1C, 0xFF1C), (0xFF1E, 0xFF20), (0xFF3B, 0xFF3E), (0xFF5C, 0xFF5C),
    (0xFFE3, 0xFFE3), (0xFFF9, 0xFFFD), (0x110BD, 0x110BD), (0x110CD, 0x110CD), (0x13430, 0x1343F),
    (0x1F100, 0x1F100), (0xE0001, 0xE007F), (0xF0000, 0x10FFFD)]

end GrammarBots.Domain.MappingTable
