import FeatureCatalog.Text.Numeral

/-! Folding of the characters of a domain. Characters that users do not tell apart are folded into
one text: capitals into small letters, and letters of other widths and styles into plain ones. -/

namespace FeatureCatalog.Url.Domain

/-- Characters from `first` to `last`, `step` apart, with the texts that they fold into, a space
between each two. -/
structure FoldingRun where
  first : Nat
  last : Nat
  step : Nat
  texts : String

/-- The text that the character with code point `n` folds into, if the run has that character. -/
def FoldingRun.fold? (run : FoldingRun) (n : Nat) : Option (List Char) :=
  if run.first ≤ n ∧ n ≤ run.last ∧ (n - run.first) % run.step = 0 then
    (Text.pieces ' ' run.texts.toList)[(n - run.first) / run.step]?
  else none

/-- The characters that fold into another text. -/
def foldingRuns : List FoldingRun :=
  [ ⟨0x0041, 0x005A, 1, "a b c d e f g h i j k l m n o p q r s t u v w x y z"⟩,
    ⟨0x00AA, 0x00AA, 1, "a"⟩, ⟨0x00B2, 0x00B3, 1, "2 3"⟩, ⟨0x00B5, 0x00B5, 1, "μ"⟩,
    ⟨0x00B9, 0x00BA, 1, "1 o"⟩, ⟨0x00BC, 0x00BE, 1, "1⁄4 1⁄2 3⁄4"⟩,
    ⟨0x00C0, 0x00D6, 1, "à á â ã ä å æ ç è é ê ë ì í î ï ð ñ ò ó ô õ ö"⟩,
    ⟨0x00D8, 0x00DE, 1, "ø ù ú û ü ý þ"⟩,
    ⟨0x0100, 0x0132, 2, "ā ă ą ć ĉ ċ č ď đ ē ĕ ė ę ě ĝ ğ ġ ģ ĥ ħ ĩ ī ĭ į i̇ ij"⟩,
    ⟨0x0133, 0x0134, 1, "ij ĵ"⟩, ⟨0x0136, 0x0136, 1, "ķ"⟩, ⟨0x0139, 0x013F, 2, "ĺ ļ ľ l·"⟩,
    ⟨0x0140, 0x0141, 1, "l· ł"⟩, ⟨0x0143, 0x0149, 2, "ń ņ ň ʼn"⟩,
    ⟨0x014A, 0x0178, 2, "ŋ ō ŏ ő œ ŕ ŗ ř ś ŝ ş š ţ ť ŧ ũ ū ŭ ů ű ų ŵ ŷ ÿ"⟩,
    ⟨0x0179, 0x0181, 2, "ź ż ž s ɓ"⟩, ⟨0x0182, 0x0186, 2, "ƃ ƅ ɔ"⟩, ⟨0x0187, 0x0189, 2, "ƈ ɖ"⟩,
    ⟨0x018A, 0x018B, 1, "ɗ ƌ"⟩, ⟨0x018E, 0x0191, 1, "ǝ ə ɛ ƒ"⟩, ⟨0x0193, 0x0194, 1, "ɠ ɣ"⟩,
    ⟨0x0196, 0x0198, 1, "ɩ ɨ ƙ"⟩, ⟨0x019C, 0x019D, 1, "ɯ ɲ"⟩, ⟨0x019F, 0x01A0, 1, "ɵ ơ"⟩,
    ⟨0x01A2, 0x01A6, 2, "ƣ ƥ ʀ"⟩, ⟨0x01A7, 0x01A9, 2, "ƨ ʃ"⟩, ⟨0x01AC, 0x01AE, 2, "ƭ ʈ"⟩,
    ⟨0x01AF, 0x01B1, 2, "ư ʊ"⟩, ⟨0x01B2, 0x01B3, 1, "ʋ ƴ"⟩, ⟨0x01B5, 0x01B7, 2, "ƶ ʒ"⟩,
    ⟨0x01B8, 0x01B8, 1, "ƹ"⟩, ⟨0x01BC, 0x01BC, 1, "ƽ"⟩,
    ⟨0x01C4, 0x01CD, 1, "dž dž dž lj lj lj nj nj nj ǎ"⟩, ⟨0x01CF, 0x01DB, 2, "ǐ ǒ ǔ ǖ ǘ ǚ ǜ"⟩,
    ⟨0x01DE, 0x01EE, 2, "ǟ ǡ ǣ ǥ ǧ ǩ ǫ ǭ ǯ"⟩, ⟨0x01F1, 0x01F4, 1, "dz dz dz ǵ"⟩,
    ⟨0x01F6, 0x01F8, 1, "ƕ ƿ ǹ"⟩,
    ⟨0x01FA, 0x0232, 2, "ǻ ǽ ǿ ȁ ȃ ȅ ȇ ȉ ȋ ȍ ȏ ȑ ȓ ȕ ȗ ș ț ȝ ȟ ƞ ȣ ȥ ȧ ȩ ȫ ȭ ȯ ȱ ȳ"⟩,
    ⟨0x023A, 0x023B, 1, "ⱥ ȼ"⟩, ⟨0x023D, 0x023E, 1, "ƚ ⱦ"⟩, ⟨0x0241, 0x0243, 2, "ɂ ƀ"⟩,
    ⟨0x0244, 0x0246, 1, "ʉ ʌ ɇ"⟩, ⟨0x0248, 0x024E, 2, "ɉ ɋ ɍ ɏ"⟩,
    ⟨0x02B0, 0x02B8, 1, "h ɦ j r ɹ ɻ ʁ w y"⟩, ⟨0x02E0, 0x02E4, 1, "ɣ l s x ʕ"⟩,
    ⟨0x0340, 0x0341, 1, "̀ ́"⟩, ⟨0x0343, 0x0345, 1, "̓ ̈́ ι"⟩, ⟨0x0370, 0x0376, 2, "ͱ ͳ ʹ ͷ"⟩,
    ⟨0x037E, 0x037F, 1, "; ϳ"⟩, ⟨0x0386, 0x038A, 1, "ά · έ ή ί"⟩, ⟨0x038C, 0x038E, 2, "ό ύ"⟩,
    ⟨0x038F, 0x0391, 2, "ώ α"⟩, ⟨0x0392, 0x03A1, 1, "β γ δ ε ζ η θ ι κ λ μ ν ξ ο π ρ"⟩,
    ⟨0x03A3, 0x03AB, 1, "σ τ υ φ χ ψ ω ϊ ϋ"⟩, ⟨0x03CF, 0x03D6, 1, "ϗ β θ υ ύ ϋ φ π"⟩,
    ⟨0x03D8, 0x03F0, 2, "ϙ ϛ ϝ ϟ ϡ ϣ ϥ ϧ ϩ ϫ ϭ ϯ κ"⟩, ⟨0x03F1, 0x03F2, 1, "ρ σ"⟩,
    ⟨0x03F4, 0x03F5, 1, "θ ε"⟩, ⟨0x03F7, 0x03F9, 2, "ϸ σ"⟩, ⟨0x03FA, 0x03FA, 1, "ϻ"⟩,
    ⟨0x03FD, 0x041C, 1, "ͻ ͼ ͽ ѐ ё ђ ѓ є ѕ і ї ј љ њ ћ ќ ѝ ў џ а б в г д е ж з и й к л м"⟩,
    ⟨0x041D, 0x042F, 1, "н о п р с т у ф х ц ч ш щ ъ ы ь э ю я"⟩,
    ⟨0x0460, 0x0480, 2, "ѡ ѣ ѥ ѧ ѩ ѫ ѭ ѯ ѱ ѳ ѵ ѷ ѹ ѻ ѽ ѿ ҁ"⟩,
    ⟨0x048A, 0x04C0, 2, "ҋ ҍ ҏ ґ ғ ҕ җ ҙ қ ҝ ҟ ҡ ң ҥ ҧ ҩ ҫ ҭ ү ұ ҳ ҵ ҷ ҹ һ ҽ ҿ ӏ"⟩,
    ⟨0x04C1, 0x04CD, 2, "ӂ ӄ ӆ ӈ ӊ ӌ ӎ"⟩,
    ⟨0x04D0, 0x050E, 2, "ӑ ӓ ӕ ӗ ә ӛ ӝ ӟ ӡ ӣ ӥ ӧ ө ӫ ӭ ӯ ӱ ӳ ӵ ӷ ӹ ӻ ӽ ӿ ԁ ԃ ԅ ԇ ԉ ԋ ԍ ԏ"⟩,
    ⟨0x0510, 0x052E, 2, "ԑ ԓ ԕ ԗ ԙ ԛ ԝ ԟ ԡ ԣ ԥ ԧ ԩ ԫ ԭ ԯ"⟩,
    ⟨0x0531, 0x0550, 1, "ա բ գ դ ե զ է ը թ ժ ի լ խ ծ կ հ ձ ղ ճ մ յ ն շ ո չ պ ջ ռ ս վ տ ր"⟩,
    ⟨0x0551, 0x0556, 1, "ց ւ փ ք օ ֆ"⟩, ⟨0x0558, 0x0558, 1, "է"⟩, ⟨0x0587, 0x0587, 1, "եւ"⟩,
    ⟨0x058B, 0x058B, 1, "ի"⟩, ⟨0x0675, 0x0678, 1, "اٴ وٴ ۇٴ يٴ"⟩,
    ⟨0x0958, 0x095F, 1, "क़ ख़ ग़ ज़ ड़ ढ़ फ़ य़"⟩, ⟨0x09DC, 0x09DD, 1, "ড় ঢ়"⟩,
    ⟨0x09DF, 0x09DF, 1, "য়"⟩, ⟨0x0A33, 0x0A33, 1, "ਲ਼"⟩, ⟨0x0A36, 0x0A36, 1, "ਸ਼"⟩,
    ⟨0x0A59, 0x0A5B, 1, "ਖ਼ ਗ਼ ਜ਼"⟩, ⟨0x0A5E, 0x0A5E, 1, "ਫ਼"⟩, ⟨0x0B5C, 0x0B5D, 1, "ଡ଼ ଢ଼"⟩,
    ⟨0x0E33, 0x0E33, 1, "ํา"⟩, ⟨0x0EB3, 0x0EB3, 1, "ໍາ"⟩, ⟨0x0EDC, 0x0EDD, 1, "ຫນ ຫມ"⟩,
    ⟨0x0F0C, 0x0F0C, 1, "་"⟩, ⟨0x0F43, 0x0F43, 1, "གྷ"⟩, ⟨0x0F4D, 0x0F4D, 1, "ཌྷ"⟩,
    ⟨0x0F52, 0x0F52, 1, "དྷ"⟩, ⟨0x0F57, 0x0F57, 1, "བྷ"⟩, ⟨0x0F5C, 0x0F5C, 1, "ཛྷ"⟩,
    ⟨0x0F69, 0x0F69, 1, "ཀྵ"⟩, ⟨0x0F73, 0x0F75, 2, "ཱི ཱུ"⟩, ⟨0x0F76, 0x0F79, 1, "ྲྀ ྲཱྀ ླྀ ླཱྀ"⟩,
    ⟨0x0F81, 0x0F81, 1, "ཱྀ"⟩, ⟨0x0F93, 0x0F93, 1, "ྒྷ"⟩, ⟨0x0F9D, 0x0F9D, 1, "ྜྷ"⟩,
    ⟨0x0FA2, 0x0FA2, 1, "ྡྷ"⟩, ⟨0x0FA7, 0x0FA7, 1, "ྦྷ"⟩, ⟨0x0FAC, 0x0FAC, 1, "ྫྷ"⟩,
    ⟨0x0FB9, 0x0FB9, 1, "ྐྵ"⟩,
    ⟨0x10A0, 0x10BF, 1, "ⴀ ⴁ ⴂ ⴃ ⴄ ⴅ ⴆ ⴇ ⴈ ⴉ ⴊ ⴋ ⴌ ⴍ ⴎ ⴏ ⴐ ⴑ ⴒ ⴓ ⴔ ⴕ ⴖ ⴗ ⴘ ⴙ ⴚ ⴛ ⴜ ⴝ ⴞ ⴟ"⟩,
    ⟨0x10C0, 0x10C5, 1, "ⴠ ⴡ ⴢ ⴣ ⴤ ⴥ"⟩, ⟨0x10C7, 0x10C7, 1, "ⴧ"⟩, ⟨0x10CD, 0x10CD, 1, "ⴭ"⟩,
    ⟨0x10FC, 0x10FC, 1, "ნ"⟩, ⟨0x13F8, 0x13FD, 1, "Ᏸ Ᏹ Ᏺ Ᏻ Ᏼ Ᏽ"⟩,
    ⟨0x1C80, 0x1C89, 1, "в д о с т т ъ ѣ ꙋ ᲊ"⟩,
    ⟨0x1C90, 0x1CAF, 1, "ა ბ გ დ ე ვ ზ თ ი კ ლ მ ნ ო პ ჟ რ ს ტ უ ფ ქ ღ ყ შ ჩ ც ძ წ ჭ ხ ჯ"⟩,
    ⟨0x1CB0, 0x1CBA, 1, "ჰ ჱ ჲ ჳ ჴ ჵ ჶ ჷ ჸ ჹ ჺ"⟩, ⟨0x1CBD, 0x1CBF, 1, "ჽ ჾ ჿ"⟩,
    ⟨0x1D2C, 0x1D2E, 1, "a æ b"⟩, ⟨0x1D30, 0x1D3A, 1, "d e ǝ g h i j k l m n"⟩,
    ⟨0x1D3C, 0x1D4D, 1, "o ȣ p r t u w a ɐ ɑ ᴂ b d e ə ɛ ɜ g"⟩,
    ⟨0x1D4F, 0x1D6A, 1, "k m ŋ o ɔ ᴖ ᴗ p t u ᴝ ɯ v ᴥ β γ δ φ χ i r u v β γ ρ φ χ"⟩,
    ⟨0x1D78, 0x1D78, 1, "н"⟩,
    ⟨0x1D9B, 0x1DBA, 1, "ɒ c ɕ ð ɜ f ɟ ɡ ɥ ɨ ɩ ɪ ᵻ ʝ ɭ ᶅ ʟ ɱ ɰ ɲ ɳ ɴ ɵ ɸ ʂ ʃ ƫ ʉ ʊ ᴜ ʋ ʌ"⟩,
    ⟨0x1DBB, 0x1DBF, 1, "z ʐ ʑ ʒ θ"⟩,
    ⟨0x1E00, 0x1E3E, 2, "ḁ ḃ ḅ ḇ ḉ ḋ ḍ ḏ ḑ ḓ ḕ ḗ ḙ ḛ ḝ ḟ ḡ ḣ ḥ ḧ ḩ ḫ ḭ ḯ ḱ ḳ ḵ ḷ ḹ ḻ ḽ ḿ"⟩,
    ⟨0x1E40, 0x1E7E, 2, "ṁ ṃ ṅ ṇ ṉ ṋ ṍ ṏ ṑ ṓ ṕ ṗ ṙ ṛ ṝ ṟ ṡ ṣ ṥ ṧ ṩ ṫ ṭ ṯ ṱ ṳ ṵ ṷ ṹ ṻ ṽ ṿ"⟩,
    ⟨0x1E80, 0x1E94, 2, "ẁ ẃ ẅ ẇ ẉ ẋ ẍ ẏ ẑ ẓ ẕ"⟩, ⟨0x1E9A, 0x1E9B, 1, "aʾ ṡ"⟩,
    ⟨0x1E9E, 0x1EDC, 2, "ß ạ ả ấ ầ ẩ ẫ ậ ắ ằ ẳ ẵ ặ ẹ ẻ ẽ ế ề ể ễ ệ ỉ ị ọ ỏ ố ồ ổ ỗ ộ ớ ờ"⟩,
    ⟨0x1EDE, 0x1EFE, 2, "ở ỡ ợ ụ ủ ứ ừ ử ữ ự ỳ ỵ ỷ ỹ ỻ ỽ ỿ"⟩,
    ⟨0x1F08, 0x1F0F, 1, "ἀ ἁ ἂ ἃ ἄ ἅ ἆ ἇ"⟩, ⟨0x1F18, 0x1F1D, 1, "ἐ ἑ ἒ ἓ ἔ ἕ"⟩,
    ⟨0x1F28, 0x1F2F, 1, "ἠ ἡ ἢ ἣ ἤ ἥ ἦ ἧ"⟩, ⟨0x1F38, 0x1F3F, 1, "ἰ ἱ ἲ ἳ ἴ ἵ ἶ ἷ"⟩,
    ⟨0x1F48, 0x1F4D, 1, "ὀ ὁ ὂ ὃ ὄ ὅ"⟩, ⟨0x1F59, 0x1F5F, 2, "ὑ ὓ ὕ ὗ"⟩,
    ⟨0x1F68, 0x1F6F, 1, "ὠ ὡ ὢ ὣ ὤ ὥ ὦ ὧ"⟩, ⟨0x1F71, 0x1F7D, 2, "ά έ ή ί ό ύ ώ"⟩,
    ⟨0x1F80, 0x1F94, 1, "ἀι ἁι ἂι ἃι ἄι ἅι ἆι ἇι ἀι ἁι ἂι ἃι ἄι ἅι ἆι ἇι ἠι ἡι ἢι ἣι ἤι"⟩,
    ⟨0x1F95, 0x1FA9, 1, "ἥι ἦι ἧι ἠι ἡι ἢι ἣι ἤι ἥι ἦι ἧι ὠι ὡι ὢι ὣι ὤι ὥι ὦι ὧι ὠι ὡι"⟩,
    ⟨0x1FAA, 0x1FAF, 1, "ὢι ὣι ὤι ὥι ὦι ὧι"⟩, ⟨0x1FB2, 0x1FB4, 1, "ὰι αι άι"⟩,
    ⟨0x1FB7, 0x1FBC, 1, "ᾶι ᾰ ᾱ ὰ ά αι"⟩, ⟨0x1FBE, 0x1FBE, 1, "ι"⟩,
    ⟨0x1FC2, 0x1FC4, 1, "ὴι ηι ήι"⟩, ⟨0x1FC7, 0x1FCC, 1, "ῆι ὲ έ ὴ ή ηι"⟩,
    ⟨0x1FD3, 0x1FD3, 1, "ΐ"⟩, ⟨0x1FD8, 0x1FDB, 1, "ῐ ῑ ὶ ί"⟩, ⟨0x1FE3, 0x1FE3, 1, "ΰ"⟩,
    ⟨0x1FE8, 0x1FEC, 1, "ῠ ῡ ὺ ύ ῥ"⟩, ⟨0x1FEF, 0x1FEF, 1, "`"⟩, ⟨0x1FF2, 0x1FF4, 1, "ὼι ωι ώι"⟩,
    ⟨0x1FF7, 0x1FFC, 1, "ῶι ὸ ό ὼ ώ ωι"⟩, ⟨0x2011, 0x2011, 1, "‐"⟩, ⟨0x2033, 0x2034, 1, "′′ ′′′"⟩,
    ⟨0x2036, 0x2037, 1, "‵‵ ‵‵‵"⟩, ⟨0x203C, 0x203C, 1, "!!"⟩, ⟨0x2057, 0x2057, 1, "′′′′"⟩,
    ⟨0x2070, 0x2071, 1, "0 i"⟩,
    ⟨0x2074, 0x208E, 1, "4 5 6 7 8 9 + − = ( ) n 0 1 2 3 4 5 6 7 8 9 + − = ( )"⟩,
    ⟨0x2090, 0x209F, 1, "a e o x ə h k l m n p s t w y z"⟩, ⟨0x20A8, 0x20A8, 1, "rs"⟩,
    ⟨0x2102, 0x2103, 1, "c °c"⟩, ⟨0x2107, 0x2109, 2, "ɛ °f"⟩,
    ⟨0x210A, 0x2113, 1, "g h h h h ħ i i l l"⟩, ⟨0x2115, 0x2116, 1, "n no"⟩,
    ⟨0x2119, 0x211D, 1, "p q r r r"⟩, ⟨0x2120, 0x2122, 1, "sm tel tm"⟩,
    ⟨0x2124, 0x212A, 2, "z ω z k"⟩, ⟨0x212B, 0x212D, 1, "å b c"⟩,
    ⟨0x212F, 0x2139, 1, "e e f ⅎ m o א ב ג ד i"⟩, ⟨0x213B, 0x2140, 1, "fax π γ γ π ∑"⟩,
    ⟨0x2145, 0x2149, 1, "d d e i j"⟩,
    ⟨0x2150, 0x215F, 1, "1⁄7 1⁄9 1⁄10 1⁄3 2⁄3 1⁄5 2⁄5 3⁄5 4⁄5 1⁄6 5⁄6 1⁄8 3⁄8 5⁄8 7⁄8 1⁄"⟩,
    ⟨0x2160, 0x2175, 1, "i ii iii iv v vi vii viii ix x xi xii l c d m i ii iii iv v vi"⟩,
    ⟨0x2176, 0x217F, 1, "vii viii ix x xi xii l c d m"⟩, ⟨0x2183, 0x2183, 1, "ↄ"⟩,
    ⟨0x2189, 0x2189, 1, "0⁄3"⟩, ⟨0x222C, 0x222D, 1, "∫∫ ∫∫∫"⟩, ⟨0x222F, 0x2230, 1, "∮∮ ∮∮∮"⟩,
    ⟨0x2329, 0x232A, 1, "〈 〉"⟩,
    ⟨0x2460, 0x2476, 1, "1 2 3 4 5 6 7 8 9 10 11 12 13 14 15 16 17 18 19 20 (1) (2) (3)"⟩,
    ⟨0x2477, 0x2484, 1, "(4) (5) (6) (7) (8) (9) (10) (11) (12) (13) (14) (15) (16) (17)"⟩,
    ⟨0x2485, 0x2487, 1, "(18) (19) (20)"⟩,
    ⟨0x249C, 0x24AB, 1, "(a) (b) (c) (d) (e) (f) (g) (h) (i) (j) (k) (l) (m) (n) (o) (p)"⟩,
    ⟨0x24AC, 0x24C1, 1, "(q) (r) (s) (t) (u) (v) (w) (x) (y) (z) a b c d e f g h i j k l"⟩,
    ⟨0x24C2, 0x24E1, 1, "m n o p q r s t u v w x y z a b c d e f g h i j k l m n o p q r"⟩,
    ⟨0x24E2, 0x24EA, 1, "s t u v w x y z 0"⟩, ⟨0x2A0C, 0x2A0C, 1, "∫∫∫∫"⟩,
    ⟨0x2A75, 0x2A76, 1, "== ==="⟩, ⟨0x2ADC, 0x2ADC, 1, "⫝̸"⟩,
    ⟨0x2C00, 0x2C1F, 1, "ⰰ ⰱ ⰲ ⰳ ⰴ ⰵ ⰶ ⰷ ⰸ ⰹ ⰺ ⰻ ⰼ ⰽ ⰾ ⰿ ⱀ ⱁ ⱂ ⱃ ⱄ ⱅ ⱆ ⱇ ⱈ ⱉ ⱊ ⱋ ⱌ ⱍ ⱎ ⱏ"⟩,
    ⟨0x2C20, 0x2C2F, 1, "ⱐ ⱑ ⱒ ⱓ ⱔ ⱕ ⱖ ⱗ ⱘ ⱙ ⱚ ⱛ ⱜ ⱝ ⱞ ⱟ"⟩, ⟨0x2C60, 0x2C62, 2, "ⱡ ɫ"⟩,
    ⟨0x2C63, 0x2C64, 1, "ᵽ ɽ"⟩, ⟨0x2C67, 0x2C6D, 2, "ⱨ ⱪ ⱬ ɑ"⟩, ⟨0x2C6E, 0x2C70, 1, "ɱ ɐ ɒ"⟩,
    ⟨0x2C72, 0x2C72, 1, "ⱳ"⟩, ⟨0x2C75, 0x2C75, 1, "ⱶ"⟩, ⟨0x2C7C, 0x2C80, 1, "j v ȿ ɀ ⲁ"⟩,
    ⟨0x2C82, 0x2CC0, 2, "ⲃ ⲅ ⲇ ⲉ ⲋ ⲍ ⲏ ⲑ ⲓ ⲕ ⲗ ⲙ ⲛ ⲝ ⲟ ⲡ ⲣ ⲥ ⲧ ⲩ ⲫ ⲭ ⲯ ⲱ ⲳ ⲵ ⲷ ⲹ ⲻ ⲽ ⲿ ⳁ"⟩,
    ⟨0x2CC2, 0x2CE2, 2, "ⳃ ⳅ ⳇ ⳉ ⳋ ⳍ ⳏ ⳑ ⳓ ⳕ ⳗ ⳙ ⳛ ⳝ ⳟ ⳡ ⳣ"⟩, ⟨0x2CEB, 0x2CED, 2, "ⳬ ⳮ"⟩,
    ⟨0x2CF2, 0x2CF2, 1, "ⳳ"⟩, ⟨0x2D6F, 0x2D6F, 1, "ⵡ"⟩, ⟨0x2E9F, 0x2E9F, 1, "母"⟩,
    ⟨0x2EF3, 0x2EF3, 1, "龟"⟩,
    ⟨0x2F00, 0x2F1F, 1, "一 丨 丶 丿 乙 亅 二 亠 人 儿 入 八 冂 冖 冫 几 凵 刀 力 勹 匕 匚 匸 十 卜 卩 厂 厶 又 口 囗 土"⟩,
    ⟨0x2F20, 0x2F3F, 1, "士 夂 夊 夕 大 女 子 宀 寸 小 尢 尸 屮 山 巛 工 己 巾 干 幺 广 廴 廾 弋 弓 彐 彡 彳 心 戈 戶 手"⟩,
    ⟨0x2F40, 0x2F5F, 1, "支 攴 文 斗 斤 方 无 日 曰 月 木 欠 止 歹 殳 毋 比 毛 氏 气 水 火 爪 父 爻 爿 片 牙 牛 犬 玄 玉"⟩,
    ⟨0x2F60, 0x2F7F, 1, "瓜 瓦 甘 生 用 田 疋 疒 癶 白 皮 皿 目 矛 矢 石 示 禸 禾 穴 立 竹 米 糸 缶 网 羊 羽 老 而 耒 耳"⟩,
    ⟨0x2F80, 0x2F9F, 1, "聿 肉 臣 自 至 臼 舌 舛 舟 艮 色 艸 虍 虫 血 行 衣 襾 見 角 言 谷 豆 豕 豸 貝 赤 走 足 身 車 辛"⟩,
    ⟨0x2FA0, 0x2FBF, 1, "辰 辵 邑 酉 釆 里 金 長 門 阜 隶 隹 雨 靑 非 面 革 韋 韭 音 頁 風 飛 食 首 香 馬 骨 高 髟 鬥 鬯"⟩,
    ⟨0x2FC0, 0x2FD5, 1, "鬲 鬼 魚 鳥 鹵 鹿 麥 麻 黃 黍 黑 黹 黽 鼎 鼓 鼠 鼻 齊 齒 龍 龜 龠"⟩, ⟨0x3002, 0x3002, 1, "."⟩,
    ⟨0x3036, 0x3038, 2, "〒 十"⟩, ⟨0x3039, 0x303A, 1, "卄 卅"⟩, ⟨0x309F, 0x309F, 1, "より"⟩,
    ⟨0x30FF, 0x30FF, 1, "コト"⟩,
    ⟨0x3131, 0x3150, 1, "ᄀ ᄁ ᆪ ᄂ ᆬ ᆭ ᄃ ᄄ ᄅ ᆰ ᆱ ᆲ ᆳ ᆴ ᆵ ᄚ ᄆ ᄇ ᄈ ᄡ ᄉ ᄊ ᄋ ᄌ ᄍ ᄎ ᄏ ᄐ ᄑ ᄒ ᅡ ᅢ"⟩,
    ⟨0x3151, 0x3163, 1, "ᅣ ᅤ ᅥ ᅦ ᅧ ᅨ ᅩ ᅪ ᅫ ᅬ ᅭ ᅮ ᅯ ᅰ ᅱ ᅲ ᅳ ᅴ ᅵ"⟩,
    ⟨0x3165, 0x3184, 1, "ᄔ ᄕ ᇇ ᇈ ᇌ ᇎ ᇓ ᇗ ᇙ ᄜ ᇝ ᇟ ᄝ ᄞ ᄠ ᄢ ᄣ ᄧ ᄩ ᄫ ᄬ ᄭ ᄮ ᄯ ᄲ ᄶ ᅀ ᅇ ᅌ ᇱ ᇲ ᅗ"⟩,
    ⟨0x3185, 0x318E, 1, "ᅘ ᅙ ᆄ ᆅ ᆈ ᆑ ᆒ ᆔ ᆞ ᆡ"⟩, ⟨0x3192, 0x319F, 1, "一 二 三 四 上 中 下 甲 乙 丙 丁 天 地 人"⟩,
    ⟨0x3200, 0x320F, 1, "(ᄀ) (ᄂ) (ᄃ) (ᄅ) (ᄆ) (ᄇ) (ᄉ) (ᄋ) (ᄌ) (ᄎ) (ᄏ) (ᄐ) (ᄑ) (ᄒ) (가) (나)"⟩,
    ⟨0x3210, 0x321E, 1, "(다) (라) (마) (바) (사) (아) (자) (차) (카) (타) (파) (하) (주) (오전) (오후)"⟩,
    ⟨0x3220, 0x322F, 1, "(一) (二) (三) (四) (五) (六) (七) (八) (九) (十) (月) (火) (水) (木) (金) (土)"⟩,
    ⟨0x3230, 0x323F, 1, "(日) (株) (有) (社) (名) (特) (財) (祝) (労) (代) (呼) (学) (監) (企) (資) (協)"⟩,
    ⟨0x3240, 0x3247, 1, "(祭) (休) (自) (至) 問 幼 文 箏"⟩,
    ⟨0x3250, 0x3266, 1, "pte 21 22 23 24 25 26 27 28 29 30 31 32 33 34 35 ᄀ ᄂ ᄃ ᄅ ᄆ ᄇ ᄉ"⟩,
    ⟨0x3267, 0x327E, 1, "ᄋ ᄌ ᄎ ᄏ ᄐ ᄑ ᄒ 가 나 다 라 마 바 사 아 자 차 카 타 파 하 참고 주의 우"⟩,
    ⟨0x3280, 0x329F, 1, "一 二 三 四 五 六 七 八 九 十 月 火 水 木 金 土 日 株 有 社 名 特 財 祝 労 秘 男 女 適 優 印 注"⟩,
    ⟨0x32A0, 0x32BA, 1, "項 休 写 正 上 中 下 左 右 医 宗 学 監 企 資 協 夜 36 37 38 39 40 41 42 43 44 45"⟩,
    ⟨0x32BB, 0x32CE, 1, "46 47 48 49 50 1月 2月 3月 4月 5月 6月 7月 8月 9月 10月 11月 12月 hg erg ev"⟩,
    ⟨0x32CF, 0x32ED, 1, "ltd ア イ ウ エ オ カ キ ク ケ コ サ シ ス セ ソ タ チ ツ テ ト ナ ニ ヌ ネ ノ ハ ヒ フ ヘ ホ"⟩,
    ⟨0x32EE, 0x3304, 1, "マ ミ ム メ モ ヤ ユ ヨ ラ リ ル レ ロ ワ ヰ ヱ ヲ 令和 アパート アルファ アンペア アール イニング"⟩,
    ⟨0x3305, 0x3312, 1, "インチ ウォン エスクード エーカー オンス オーム カイリ カラット カロリー ガロン ガンマ ギガ ギニー キュリー"⟩,
    ⟨0x3313, 0x331E, 1, "ギルダー キロ キログラム キロメートル キロワット グラム グラムトン クルゼイロ クローネ ケース コルナ コーポ"⟩,
    ⟨0x331F, 0x332D, 1, "サイクル サンチーム シリング センチ セント ダース デシ ドル トン ナノ ノット ハイツ パーセント パーツ バーレル"⟩,
    ⟨0x332E, 0x333B, 1, "ピアストル ピクル ピコ ビル ファラッド フィート ブッシェル フラン ヘクタール ペソ ペニヒ ヘルツ ペンス ページ"⟩,
    ⟨0x333C, 0x3349, 1, "ベータ ポイント ボルト ホン ポンド ホール ホーン マイクロ マイル マッハ マルク マンション ミクロン ミリ"⟩,
    ⟨0x334A, 0x3358, 1, "ミリバール メガ メガトン メートル ヤード ヤール ユアン リットル リラ ルピー ルーブル レム レントゲン ワット 0点"⟩,
    ⟨0x3359, 0x336A, 1, "1点 2点 3点 4点 5点 6点 7点 8点 9点 10点 11点 12点 13点 14点 15点 16点 17点 18点"⟩,
    ⟨0x336B, 0x337C, 1, "19点 20点 21点 22点 23点 24点 hpa da au bar ov pc dm dm2 dm3 iu 平成 昭和"⟩,
    ⟨0x337D, 0x338F, 1, "大正 明治 株式会社 pa na μa ma ka kb mb gb cal kcal pf nf μf μg mg kg"⟩,
    ⟨0x3390, 0x33A2, 1, "hz khz mhz ghz thz μl ml dl kl fm nm μm mm cm km mm2 cm2 m2 km2"⟩,
    ⟨0x33A3, 0x33B1, 1, "mm3 cm3 m3 km3 m∕s m∕s2 pa kpa mpa gpa rad rad∕s rad∕s2 ps ns"⟩,
    ⟨0x33B2, 0x33C1, 1, "μs ms pv nv μv mv kv mv pw nw μw mw kw mw kω mω"⟩,
    ⟨0x33C3, 0x33C6, 1, "bq cc cd c∕kg"⟩,
    ⟨0x33C8, 0x33D7, 1, "db gy ha hp in kk km kt lm ln log lx mb mil mol ph"⟩,
    ⟨0x33D9, 0x33EB, 1, "ppm pr sr sv wb v∕m a∕m 1日 2日 3日 4日 5日 6日 7日 8日 9日 10日 11日 12日"⟩,
    ⟨0x33EC, 0x33FB, 1, "13日 14日 15日 16日 17日 18日 19日 20日 21日 22日 23日 24日 25日 26日 27日 28日"⟩,
    ⟨0x33FC, 0x33FF, 1, "29日 30日 31日 gal"⟩,
    ⟨0xA640, 0xA66C, 2, "ꙁ ꙃ ꙅ ꙇ ꙉ ꙋ ꙍ ꙏ ꙑ ꙓ ꙕ ꙗ ꙙ ꙛ ꙝ ꙟ ꙡ ꙣ ꙥ ꙧ ꙩ ꙫ ꙭ"⟩,
    ⟨0xA680, 0xA69C, 2, "ꚁ ꚃ ꚅ ꚇ ꚉ ꚋ ꚍ ꚏ ꚑ ꚓ ꚕ ꚗ ꚙ ꚛ ъ"⟩, ⟨0xA69D, 0xA69D, 1, "ь"⟩,
    ⟨0xA722, 0xA72E, 2, "ꜣ ꜥ ꜧ ꜩ ꜫ ꜭ ꜯ"⟩,
    ⟨0xA732, 0xA770, 2, "ꜳ ꜵ ꜷ ꜹ ꜻ ꜽ ꜿ ꝁ ꝃ ꝅ ꝇ ꝉ ꝋ ꝍ ꝏ ꝑ ꝓ ꝕ ꝗ ꝙ ꝛ ꝝ ꝟ ꝡ ꝣ ꝥ ꝧ ꝩ ꝫ ꝭ ꝯ ꝯ"⟩,
    ⟨0xA779, 0xA77D, 2, "ꝺ ꝼ ᵹ"⟩, ⟨0xA77E, 0xA786, 2, "ꝿ ꞁ ꞃ ꞅ ꞇ"⟩, ⟨0xA78B, 0xA78D, 2, "ꞌ ɥ"⟩,
    ⟨0xA790, 0xA792, 2, "ꞑ ꞓ"⟩, ⟨0xA796, 0xA7AA, 2, "ꞗ ꞙ ꞛ ꞝ ꞟ ꞡ ꞣ ꞥ ꞧ ꞩ ɦ"⟩,
    ⟨0xA7AB, 0xA7AE, 1, "ɜ ɡ ɬ ɪ"⟩, ⟨0xA7B0, 0xA7B4, 1, "ʞ ʇ ʝ ꭓ ꞵ"⟩,
    ⟨0xA7B6, 0xA7C4, 2, "ꞷ ꞹ ꞻ ꞽ ꞿ ꟁ ꟃ ꞔ"⟩, ⟨0xA7C5, 0xA7C7, 1, "ʂ ᶎ ꟈ"⟩,
    ⟨0xA7C9, 0xA7CB, 2, "ꟊ ɤ"⟩, ⟨0xA7CC, 0xA7DC, 2, "ꟍ ꟏ ꟑ ꟓ ꟕ ꟗ ꟙ ꟛ ƛ"⟩,
    ⟨0xA7F1, 0xA7F5, 1, "s c f q ꟶ"⟩, ⟨0xA7F8, 0xA7F9, 1, "ħ œ"⟩, ⟨0xAB5C, 0xAB5F, 1, "ꜧ ꬷ ɫ ꭒ"⟩,
    ⟨0xAB69, 0xAB69, 1, "ʍ"⟩, ⟨0xAB6C, 0xAB6C, 1, "ꭋ"⟩,
    ⟨0xAB70, 0xAB8F, 1, "Ꭰ Ꭱ Ꭲ Ꭳ Ꭴ Ꭵ Ꭶ Ꭷ Ꭸ Ꭹ Ꭺ Ꭻ Ꭼ Ꭽ Ꭾ Ꭿ Ꮀ Ꮁ Ꮂ Ꮃ Ꮄ Ꮅ Ꮆ Ꮇ Ꮈ Ꮉ Ꮊ Ꮋ Ꮌ Ꮍ Ꮎ Ꮏ"⟩,
    ⟨0xAB90, 0xABAF, 1, "Ꮐ Ꮑ Ꮒ Ꮓ Ꮔ Ꮕ Ꮖ Ꮗ Ꮘ Ꮙ Ꮚ Ꮛ Ꮜ Ꮝ Ꮞ Ꮟ Ꮠ Ꮡ Ꮢ Ꮣ Ꮤ Ꮥ Ꮦ Ꮧ Ꮨ Ꮩ Ꮪ Ꮫ Ꮬ Ꮭ Ꮮ Ꮯ"⟩,
    ⟨0xABB0, 0xABBF, 1, "Ꮰ Ꮱ Ꮲ Ꮳ Ꮴ Ꮵ Ꮶ Ꮷ Ꮸ Ꮹ Ꮺ Ꮻ Ꮼ Ꮽ Ꮾ Ꮿ"⟩,
    ⟨0xF900, 0xF91F, 1, "豈 更 車 賈 滑 串 句 龜 龜 契 金 喇 奈 懶 癩 羅 蘿 螺 裸 邏 樂 洛 烙 珞 落 酪 駱 亂 卵 欄 爛 蘭"⟩,
    ⟨0xF920, 0xF93F, 1, "鸞 嵐 濫 藍 襤 拉 臘 蠟 廊 朗 浪 狼 郎 來 冷 勞 擄 櫓 爐 盧 老 蘆 虜 路 露 魯 鷺 碌 祿 綠 菉 錄"⟩,
    ⟨0xF940, 0xF95F, 1, "鹿 論 壟 弄 籠 聾 牢 磊 賂 雷 壘 屢 樓 淚 漏 累 縷 陋 勒 肋 凜 凌 稜 綾 菱 陵 讀 拏 樂 諾 丹 寧"⟩,
    ⟨0xF960, 0xF97F, 1, "怒 率 異 北 磻 便 復 不 泌 數 索 參 塞 省 葉 說 殺 辰 沈 拾 若 掠 略 亮 兩 凉 梁 糧 良 諒 量 勵"⟩,
    ⟨0xF980, 0xF99F, 1, "呂 女 廬 旅 濾 礪 閭 驪 麗 黎 力 曆 歷 轢 年 憐 戀 撚 漣 煉 璉 秊 練 聯 輦 蓮 連 鍊 列 劣 咽 烈"⟩,
    ⟨0xF9A0, 0xF9BF, 1, "裂 說 廉 念 捻 殮 簾 獵 令 囹 寧 嶺 怜 玲 瑩 羚 聆 鈴 零 靈 領 例 禮 醴 隸 惡 了 僚 寮 尿 料 樂"⟩,
    ⟨0xF9C0, 0xF9DF, 1, "燎 療 蓼 遼 龍 暈 阮 劉 杻 柳 流 溜 琉 留 硫 紐 類 六 戮 陸 倫 崙 淪 輪 律 慄 栗 率 隆 利 吏 履"⟩,
    ⟨0xF9E0, 0xF9FF, 1, "易 李 梨 泥 理 痢 罹 裏 裡 里 離 匿 溺 吝 燐 璘 藺 隣 鱗 麟 林 淋 臨 立 笠 粒 狀 炙 識 什 茶 刺"⟩,
    ⟨0xFA00, 0xFA0D, 1, "切 度 拓 糖 宅 洞 暴 輻 行 降 見 廓 兀 嗀"⟩, ⟨0xFA10, 0xFA12, 2, "塚 晴"⟩,
    ⟨0xFA15, 0xFA1E, 1, "凞 猪 益 礼 神 祥 福 靖 精 羽"⟩, ⟨0xFA20, 0xFA22, 2, "蘒 諸"⟩,
    ⟨0xFA25, 0xFA26, 1, "逸 都"⟩,
    ⟨0xFA2A, 0xFA49, 1, "飯 飼 館 鶴 郞 隷 侮 僧 免 勉 勤 卑 喝 嘆 器 塀 墨 層 屮 悔 慨 憎 懲 敏 既 暑 梅 海 渚 漢 煮 爫"⟩,
    ⟨0xFA4A, 0xFA69, 1, "琢 碑 社 祉 祈 祐 祖 祝 禍 禎 穀 突 節 練 縉 繁 署 者 臭 艹 艹 著 褐 視 謁 謹 賓 贈 辶 逸 難 響"⟩,
    ⟨0xFA6A, 0xFA6D, 1, "頻 恵 𤋮 舘"⟩,
    ⟨0xFA70, 0xFA8F, 1, "並 况 全 侀 充 冀 勇 勺 喝 啕 喙 嗢 塚 墳 奄 奔 婢 嬨 廒 廙 彩 徭 惘 慎 愈 憎 慠 懲 戴 揄 搜 摒"⟩,
    ⟨0xFA90, 0xFAAF, 1, "敖 晴 朗 望 杖 歹 殺 流 滛 滋 漢 瀞 煮 瞧 爵 犯 猪 瑱 甆 画 瘝 瘟 益 盛 直 睊 着 磌 窱 節 类 絛"⟩,
    ⟨0xFAB0, 0xFACF, 1, "練 缾 者 荒 華 蝹 襁 覆 視 調 諸 請 謁 諾 諭 謹 變 贈 輸 遲 醙 鉶 陼 難 靖 韛 響 頋 頻 鬒 龜 𢡊"⟩,
    ⟨0xFAD0, 0xFAD9, 1, "𢡄 𣏕 㮝 䀘 䀹 𥉉 𥳐 𧻓 齃 龎"⟩, ⟨0xFB00, 0xFB06, 1, "ff fi fl ffi ffl st st"⟩,
    ⟨0xFB13, 0xFB17, 1, "մն մե մի վն մխ"⟩, ⟨0xFB1D, 0xFB1F, 2, "יִ ײַ"⟩,
    ⟨0xFB20, 0xFB36, 1, "ע א ד ה כ ל ם ר ת + שׁ שׂ שּׁ שּׂ אַ אָ אּ בּ גּ דּ הּ וּ זּ"⟩,
    ⟨0xFB38, 0xFB3C, 1, "טּ יּ ךּ כּ לּ"⟩, ⟨0xFB3E, 0xFB40, 2, "מּ נּ"⟩,
    ⟨0xFB41, 0xFB43, 2, "סּ ףּ"⟩, ⟨0xFB44, 0xFB46, 2, "פּ צּ"⟩,
    ⟨0xFB47, 0xFB61, 1, "קּ רּ שּ תּ וֹ בֿ כֿ פֿ אל ٱ ٱ ٻ ٻ ٻ ٻ پ پ پ پ ڀ ڀ ڀ ڀ ٺ ٺ ٺ ٺ"⟩,
    ⟨0xFB62, 0xFB81, 1, "ٿ ٿ ٿ ٿ ٹ ٹ ٹ ٹ ڤ ڤ ڤ ڤ ڦ ڦ ڦ ڦ ڄ ڄ ڄ ڄ ڃ ڃ ڃ ڃ چ چ چ چ ڇ ڇ ڇ ڇ"⟩,
    ⟨0xFB82, 0xFBA1, 1, "ڍ ڍ ڌ ڌ ڎ ڎ ڈ ڈ ژ ژ ڑ ڑ ک ک ک ک گ گ گ گ ڳ ڳ ڳ ڳ ڱ ڱ ڱ ڱ ں ں ڻ ڻ"⟩,
    ⟨0xFBA2, 0xFBB1, 1, "ڻ ڻ ۀ ۀ ہ ہ ہ ہ ھ ھ ھ ھ ے ے ۓ ۓ"⟩,
    ⟨0xFBD3, 0xFBEE, 1, "ڭ ڭ ڭ ڭ ۇ ۇ ۆ ۆ ۈ ۈ ۇٴ ۋ ۋ ۅ ۅ ۉ ۉ ې ې ې ې ى ى ئا ئا ئە ئە ئو"⟩,
    ⟨0xFBEF, 0xFC04, 1, "ئو ئۇ ئۇ ئۆ ئۆ ئۈ ئۈ ئې ئې ئې ئى ئى ئى ی ی ی ی ئج ئح ئم ئى ئي"⟩,
    ⟨0xFC05, 0xFC19, 1, "بج بح بخ بم بى بي تج تح تخ تم تى تي ثج ثم ثى ثي جح جم حج حم خج"⟩,
    ⟨0xFC1A, 0xFC2E, 1, "خح خم سج سح سخ سم صح صم ضج ضح ضخ ضم طح طم ظم عج عم غج غم فج فح"⟩,
    ⟨0xFC2F, 0xFC43, 1, "فخ فم فى في قح قم قى قي كا كج كح كخ كل كم كى كي لج لح لخ لم لى"⟩,
    ⟨0xFC44, 0xFC58, 1, "لي مج مح مخ مم مى مي نج نح نخ نم نى ني هج هم هى هي يج يح يخ يم"⟩,
    ⟨0xFC59, 0xFC5D, 1, "يى يي ذٰ رٰ ىٰ"⟩,
    ⟨0xFC64, 0xFC78, 1, "ئر ئز ئم ئن ئى ئي بر بز بم بن بى بي تر تز تم تن تى تي ثر ثز ثم"⟩,
    ⟨0xFC79, 0xFC8D, 1, "ثن ثى ثي فى في قى قي كا كل كم كى كي لم لى لي ما مم نر نز نم نن"⟩,
    ⟨0xFC8E, 0xFCA2, 1, "نى ني ىٰ ير يز يم ين يى يي ئج ئح ئخ ئم ئه بج بح بخ بم به تج تح"⟩,
    ⟨0xFCA3, 0xFCB7, 1, "تخ تم ته ثم جح جم حج حم خج خم سج سح سخ سم صح صخ صم ضج ضح ضخ ضم"⟩,
    ⟨0xFCB8, 0xFCCC, 1, "طح ظم عج عم غج غم فج فح فخ فم قح قم كج كح كخ كل كم لج لح لخ لم"⟩,
    ⟨0xFCCD, 0xFCE1, 1, "له مج مح مخ مم نج نح نخ نم نه هج هم هٰ يج يح يخ يم يه ئم ئه بم"⟩,
    ⟨0xFCE2, 0xFCF5, 1, "به تم ته ثم ثه سم سه شم شه كل كم لم نم نه يم يه ـَّ ـُّ ـِّ طى"⟩,
    ⟨0xFCF6, 0xFD0A, 1, "طي عى عي غى غي سى سي شى شي حى حي جى جي خى خي صى صي ضى ضي شج شح"⟩,
    ⟨0xFD0B, 0xFD1F, 1, "شخ شم شر سر صر ضر طى طي عى عي غى غي سى سي شى شي حى حي جى جي خى"⟩,
    ⟨0xFD20, 0xFD34, 1, "خي صى صي ضى ضي شج شح شخ شم شر سر صر ضر شج شح شخ شم سه شه طم سج"⟩,
    ⟨0xFD35, 0xFD3D, 1, "سح سخ شج شح شخ طم ظم اً اً"⟩,
    ⟨0xFD50, 0xFD5F, 1, "تجم تحج تحج تحم تخم تمج تمح تمخ جمح جمح حمي حمى سحج سجح سجى سمح"⟩,
    ⟨0xFD60, 0xFD6F, 1, "سمح سمج سمم سمم صحح صحح صمم شحم شحم شجي شمخ شمخ شمم شمم ضحى ضخم"⟩,
    ⟨0xFD70, 0xFD7F, 1, "ضخم طمح طمح طمم طمي عجم عمم عمم عمى غمم غمي غمى فخم فخم قمح قمم"⟩,
    ⟨0xFD80, 0xFD8F, 1, "لحم لحي لحى لجج لجج لخم لخم لمح لمح محج محم محي مجح مجم مخج مخم"⟩,
    ⟨0xFD92, 0xFDA1, 1, "مجخ همج همم نحم نحى نجم نجم نجى نمي نمى يمم يمم بخي تجي تجى تخي"⟩,
    ⟨0xFDA2, 0xFDB1, 1, "تخى تمي تمى جمي جحى جمى سخى صحي شحي ضحي لجي لمي يحي يجي يمي ممي"⟩,
    ⟨0xFDB2, 0xFDC1, 1, "قمي نحي قمح لحم عمي كمي نجح مخي لجم كمم لجم نجح جحي حجي مجي فمي"⟩,
    ⟨0xFDC2, 0xFDC7, 1, "بحي كمم عجم صمم سخي نجي"⟩,
    ⟨0xFDF0, 0xFDF9, 1, "صلے قلے الله اكبر محمد صلعم رسول عليه وسلم صلى"⟩,
    ⟨0xFDFC, 0xFDFC, 1, "ریال"⟩, ⟨0xFE10, 0xFE11, 1, ", 、"⟩, ⟨0xFE14, 0xFE15, 1, "; !"⟩,
    ⟨0xFE17, 0xFE18, 1, "〖 〗"⟩,
    ⟨0xFE31, 0xFE44, 1, "— – _ _ ( ) \x7b \x7d 〔 〕 【 】 《 》 〈 〉 「 」 『 』"⟩,
    ⟨0xFE4D, 0xFE51, 1, "_ _ _ , 、"⟩, ⟨0xFE54, 0xFE54, 1, ";"⟩,
    ⟨0xFE57, 0xFE5E, 1, "! — ( ) \x7b \x7d 〔 〕"⟩, ⟨0xFE60, 0xFE63, 1, "& * + -"⟩,
    ⟨0xFE66, 0xFE66, 1, "="⟩, ⟨0xFE69, 0xFE69, 1, "$"⟩, ⟨0xFE71, 0xFE71, 1, "ـً"⟩,
    ⟨0xFE77, 0xFE7F, 2, "ـَ ـُ ـِ ـّ ـْ"⟩,
    ⟨0xFE80, 0xFE9F, 1, "ء آ آ أ أ ؤ ؤ إ إ ئ ئ ئ ئ ا ا ب ب ب ب ة ة ت ت ت ت ث ث ث ث ج ج ج"⟩,
    ⟨0xFEA0, 0xFEBF, 1, "ج ح ح ح ح خ خ خ خ د د ذ ذ ر ر ز ز س س س س ش ش ش ش ص ص ص ص ض ض ض"⟩,
    ⟨0xFEC0, 0xFEDF, 1, "ض ط ط ط ط ظ ظ ظ ظ ع ع ع ع غ غ غ غ ف ف ف ف ق ق ق ق ك ك ك ك ل ل ل"⟩,
    ⟨0xFEE0, 0xFEFB, 1, "ل م م م م ن ن ن ن ه ه ه ه و و ى ى ي ي ي ي لآ لآ لأ لأ لإ لإ لا"⟩,
    ⟨0xFEFC, 0xFEFC, 1, "لا"⟩, ⟨0xFF01, 0xFF02, 1, "! \""⟩, ⟨0xFF04, 0xFF06, 2, "$ &"⟩,
    ⟨0xFF07, 0xFF0E, 1, "' ( ) * + , - ."⟩, ⟨0xFF10, 0xFF19, 1, "0 1 2 3 4 5 6 7 8 9"⟩,
    ⟨0xFF1B, 0xFF1D, 2, "; ="⟩,
    ⟨0xFF21, 0xFF3A, 1, "a b c d e f g h i j k l m n o p q r s t u v w x y z"⟩,
    ⟨0xFF3F, 0xFF5B, 1, "_ ` a b c d e f g h i j k l m n o p q r s t u v w x y z \x7b"⟩,
    ⟨0xFF5D, 0xFF7A, 1, "\x7d ~ ⦅ ⦆ . 「 」 、 ・ ヲ ァ ィ ゥ ェ ォ ャ ュ ョ ッ ー ア イ ウ エ オ カ キ ク ケ コ"⟩,
    ⟨0xFF7B, 0xFF9A, 1, "サ シ ス セ ソ タ チ ツ テ ト ナ ニ ヌ ネ ノ ハ ヒ フ ヘ ホ マ ミ ム メ モ ヤ ユ ヨ ラ リ ル レ"⟩,
    ⟨0xFF9B, 0xFF9F, 1, "ロ ワ ン ゙ ゚"⟩,
    ⟨0xFFA1, 0xFFBE, 1, "ᄀ ᄁ ᆪ ᄂ ᆬ ᆭ ᄃ ᄄ ᄅ ᆰ ᆱ ᆲ ᆳ ᆴ ᆵ ᄚ ᄆ ᄇ ᄈ ᄡ ᄉ ᄊ ᄋ ᄌ ᄍ ᄎ ᄏ ᄐ ᄑ ᄒ"⟩,
    ⟨0xFFC2, 0xFFC7, 1, "ᅡ ᅢ ᅣ ᅤ ᅥ ᅦ"⟩, ⟨0xFFCA, 0xFFCF, 1, "ᅧ ᅨ ᅩ ᅪ ᅫ ᅬ"⟩,
    ⟨0xFFD2, 0xFFD7, 1, "ᅭ ᅮ ᅯ ᅰ ᅱ ᅲ"⟩, ⟨0xFFDA, 0xFFDC, 1, "ᅳ ᅴ ᅵ"⟩, ⟨0xFFE0, 0xFFE2, 1, "¢ £ ¬"⟩,
    ⟨0xFFE4, 0xFFE6, 1, "¦ ¥ ₩"⟩, ⟨0xFFE8, 0xFFEE, 1, "│ ← ↑ → ↓ ■ ○"⟩,
    ⟨0x10400, 0x1041F, 1, "𐐨 𐐩 𐐪 𐐫 𐐬 𐐭 𐐮 𐐯 𐐰 𐐱 𐐲 𐐳 𐐴 𐐵 𐐶 𐐷 𐐸 𐐹 𐐺 𐐻 𐐼 𐐽 𐐾 𐐿 𐑀 𐑁 𐑂 𐑃 𐑄 𐑅 𐑆 𐑇"⟩,
    ⟨0x10420, 0x10427, 1, "𐑈 𐑉 𐑊 𐑋 𐑌 𐑍 𐑎 𐑏"⟩,
    ⟨0x104B0, 0x104CF, 1, "𐓘 𐓙 𐓚 𐓛 𐓜 𐓝 𐓞 𐓟 𐓠 𐓡 𐓢 𐓣 𐓤 𐓥 𐓦 𐓧 𐓨 𐓩 𐓪 𐓫 𐓬 𐓭 𐓮 𐓯 𐓰 𐓱 𐓲 𐓳 𐓴 𐓵 𐓶 𐓷"⟩,
    ⟨0x104D0, 0x104D3, 1, "𐓸 𐓹 𐓺 𐓻"⟩, ⟨0x10570, 0x1057A, 1, "𐖗 𐖘 𐖙 𐖚 𐖛 𐖜 𐖝 𐖞 𐖟 𐖠 𐖡"⟩,
    ⟨0x1057C, 0x1058A, 1, "𐖣 𐖤 𐖥 𐖦 𐖧 𐖨 𐖩 𐖪 𐖫 𐖬 𐖭 𐖮 𐖯 𐖰 𐖱"⟩, ⟨0x1058C, 0x10592, 1, "𐖳 𐖴 𐖵 𐖶 𐖷 𐖸 𐖹"⟩,
    ⟨0x10594, 0x10595, 1, "𐖻 𐖼"⟩, ⟨0x10781, 0x10785, 1, "ː ˑ æ ʙ ɓ"⟩,
    ⟨0x10787, 0x107A6, 1, "ʣ ꭦ ʥ ʤ ɖ ɗ ᶑ ɘ ɞ ʩ ɤ ɢ ɠ ʛ ħ ʜ ɧ ʄ ʪ ʫ ɬ 𝼄 ꞎ ɮ 𝼅 ʎ 𝼆 ø ɶ ɷ q ɺ"⟩,
    ⟨0x107A7, 0x107B0, 1, "𝼈 ɽ ɾ ʀ ʨ ʦ ꭧ ʧ ʈ ⱱ"⟩, ⟨0x107B2, 0x107BA, 1, "ʏ ʡ ʢ ʘ ǀ ǁ ǂ 𝼊 𝼞"⟩,
    ⟨0x10C80, 0x10C9F, 1, "𐳀 𐳁 𐳂 𐳃 𐳄 𐳅 𐳆 𐳇 𐳈 𐳉 𐳊 𐳋 𐳌 𐳍 𐳎 𐳏 𐳐 𐳑 𐳒 𐳓 𐳔 𐳕 𐳖 𐳗 𐳘 𐳙 𐳚 𐳛 𐳜 𐳝 𐳞 𐳟"⟩,
    ⟨0x10CA0, 0x10CB2, 1, "𐳠 𐳡 𐳢 𐳣 𐳤 𐳥 𐳦 𐳧 𐳨 𐳩 𐳪 𐳫 𐳬 𐳭 𐳮 𐳯 𐳰 𐳱 𐳲"⟩,
    ⟨0x10D50, 0x10D65, 1, "𐵰 𐵱 𐵲 𐵳 𐵴 𐵵 𐵶 𐵷 𐵸 𐵹 𐵺 𐵻 𐵼 𐵽 𐵾 𐵿 𐶀 𐶁 𐶂 𐶃 𐶄 𐶅"⟩,
    ⟨0x118A0, 0x118BF, 1, "𑣀 𑣁 𑣂 𑣃 𑣄 𑣅 𑣆 𑣇 𑣈 𑣉 𑣊 𑣋 𑣌 𑣍 𑣎 𑣏 𑣐 𑣑 𑣒 𑣓 𑣔 𑣕 𑣖 𑣗 𑣘 𑣙 𑣚 𑣛 𑣜 𑣝 𑣞 𑣟"⟩,
    ⟨0x16E40, 0x16E5F, 1, "𖹠 𖹡 𖹢 𖹣 𖹤 𖹥 𖹦 𖹧 𖹨 𖹩 𖹪 𖹫 𖹬 𖹭 𖹮 𖹯 𖹰 𖹱 𖹲 𖹳 𖹴 𖹵 𖹶 𖹷 𖹸 𖹹 𖹺 𖹻 𖹼 𖹽 𖹾 𖹿"⟩,
    ⟨0x16EA0, 0x16EB8, 1, "𖺻 𖺼 𖺽 𖺾 𖺿 𖻀 𖻁 𖻂 𖻃 𖻄 𖻅 𖻆 𖻇 𖻈 𖻉 𖻊 𖻋 𖻌 𖻍 𖻎 𖻏 𖻐 𖻑 𖻒 𖻓"⟩,
    ⟨0x1CCD6, 0x1CCF5, 1, "a b c d e f g h i j k l m n o p q r s t u v w x y z 0 1 2 3 4 5"⟩,
    ⟨0x1CCF6, 0x1CCF9, 1, "6 7 8 9"⟩, ⟨0x1D15E, 0x1D164, 1, "𝅗𝅥 𝅘𝅥 𝅘𝅥𝅮 𝅘𝅥𝅯 𝅘𝅥𝅰 𝅘𝅥𝅱 𝅘𝅥𝅲"⟩,
    ⟨0x1D1BB, 0x1D1C0, 1, "𝆹𝅥 𝆺𝅥 𝆹𝅥𝅮 𝆺𝅥𝅮 𝆹𝅥𝅯 𝆺𝅥𝅯"⟩,
    ⟨0x1D400, 0x1D41F, 1, "a b c d e f g h i j k l m n o p q r s t u v w x y z a b c d e f"⟩,
    ⟨0x1D420, 0x1D43F, 1, "g h i j k l m n o p q r s t u v w x y z a b c d e f g h i j k l"⟩,
    ⟨0x1D440, 0x1D454, 1, "m n o p q r s t u v w x y z a b c d e f g"⟩,
    ⟨0x1D456, 0x1D475, 1, "i j k l m n o p q r s t u v w x y z a b c d e f g h i j k l m n"⟩,
    ⟨0x1D476, 0x1D495, 1, "o p q r s t u v w x y z a b c d e f g h i j k l m n o p q r s t"⟩,
    ⟨0x1D496, 0x1D49C, 1, "u v w x y z a"⟩, ⟨0x1D49E, 0x1D49F, 1, "c d"⟩,
    ⟨0x1D4A2, 0x1D4A2, 1, "g"⟩, ⟨0x1D4A5, 0x1D4A6, 1, "j k"⟩, ⟨0x1D4A9, 0x1D4AC, 1, "n o p q"⟩,
    ⟨0x1D4AE, 0x1D4B9, 1, "s t u v w x y z a b c d"⟩, ⟨0x1D4BB, 0x1D4BD, 2, "f h"⟩,
    ⟨0x1D4BE, 0x1D4C3, 1, "i j k l m n"⟩,
    ⟨0x1D4C5, 0x1D4E4, 1, "p q r s t u v w x y z a b c d e f g h i j k l m n o p q r s t u"⟩,
    ⟨0x1D4E5, 0x1D504, 1, "v w x y z a b c d e f g h i j k l m n o p q r s t u v w x y z a"⟩,
    ⟨0x1D505, 0x1D505, 1, "b"⟩, ⟨0x1D507, 0x1D50A, 1, "d e f g"⟩,
    ⟨0x1D50D, 0x1D514, 1, "j k l m n o p q"⟩, ⟨0x1D516, 0x1D51C, 1, "s t u v w x y"⟩,
    ⟨0x1D51E, 0x1D539, 1, "a b c d e f g h i j k l m n o p q r s t u v w x y z a b"⟩,
    ⟨0x1D53B, 0x1D53E, 1, "d e f g"⟩, ⟨0x1D540, 0x1D544, 1, "i j k l m"⟩,
    ⟨0x1D546, 0x1D546, 1, "o"⟩, ⟨0x1D54A, 0x1D550, 1, "s t u v w x y"⟩,
    ⟨0x1D552, 0x1D571, 1, "a b c d e f g h i j k l m n o p q r s t u v w x y z a b c d e f"⟩,
    ⟨0x1D572, 0x1D591, 1, "g h i j k l m n o p q r s t u v w x y z a b c d e f g h i j k l"⟩,
    ⟨0x1D592, 0x1D5B1, 1, "m n o p q r s t u v w x y z a b c d e f g h i j k l m n o p q r"⟩,
    ⟨0x1D5B2, 0x1D5D1, 1, "s t u v w x y z a b c d e f g h i j k l m n o p q r s t u v w x"⟩,
    ⟨0x1D5D2, 0x1D5F1, 1, "y z a b c d e f g h i j k l m n o p q r s t u v w x y z a b c d"⟩,
    ⟨0x1D5F2, 0x1D611, 1, "e f g h i j k l m n o p q r s t u v w x y z a b c d e f g h i j"⟩,
    ⟨0x1D612, 0x1D631, 1, "k l m n o p q r s t u v w x y z a b c d e f g h i j k l m n o p"⟩,
    ⟨0x1D632, 0x1D651, 1, "q r s t u v w x y z a b c d e f g h i j k l m n o p q r s t u v"⟩,
    ⟨0x1D652, 0x1D671, 1, "w x y z a b c d e f g h i j k l m n o p q r s t u v w x y z a b"⟩,
    ⟨0x1D672, 0x1D691, 1, "c d e f g h i j k l m n o p q r s t u v w x y z a b c d e f g h"⟩,
    ⟨0x1D692, 0x1D6A5, 1, "i j k l m n o p q r s t u v w x y z ı ȷ"⟩,
    ⟨0x1D6A8, 0x1D6C7, 1, "α β γ δ ε ζ η θ ι κ λ μ ν ξ ο π ρ θ σ τ υ φ χ ψ ω ∇ α β γ δ ε ζ"⟩,
    ⟨0x1D6C8, 0x1D6E7, 1, "η θ ι κ λ μ ν ξ ο π ρ σ σ τ υ φ χ ψ ω ∂ ε θ κ φ ρ π α β γ δ ε ζ"⟩,
    ⟨0x1D6E8, 0x1D707, 1, "η θ ι κ λ μ ν ξ ο π ρ θ σ τ υ φ χ ψ ω ∇ α β γ δ ε ζ η θ ι κ λ μ"⟩,
    ⟨0x1D708, 0x1D727, 1, "ν ξ ο π ρ σ σ τ υ φ χ ψ ω ∂ ε θ κ φ ρ π α β γ δ ε ζ η θ ι κ λ μ"⟩,
    ⟨0x1D728, 0x1D747, 1, "ν ξ ο π ρ θ σ τ υ φ χ ψ ω ∇ α β γ δ ε ζ η θ ι κ λ μ ν ξ ο π ρ σ"⟩,
    ⟨0x1D748, 0x1D767, 1, "σ τ υ φ χ ψ ω ∂ ε θ κ φ ρ π α β γ δ ε ζ η θ ι κ λ μ ν ξ ο π ρ θ"⟩,
    ⟨0x1D768, 0x1D787, 1, "σ τ υ φ χ ψ ω ∇ α β γ δ ε ζ η θ ι κ λ μ ν ξ ο π ρ σ σ τ υ φ χ ψ"⟩,
    ⟨0x1D788, 0x1D7A7, 1, "ω ∂ ε θ κ φ ρ π α β γ δ ε ζ η θ ι κ λ μ ν ξ ο π ρ θ σ τ υ φ χ ψ"⟩,
    ⟨0x1D7A8, 0x1D7C7, 1, "ω ∇ α β γ δ ε ζ η θ ι κ λ μ ν ξ ο π ρ σ σ τ υ φ χ ψ ω ∂ ε θ κ φ"⟩,
    ⟨0x1D7C8, 0x1D7CB, 1, "ρ π ϝ ϝ"⟩,
    ⟨0x1D7CE, 0x1D7ED, 1, "0 1 2 3 4 5 6 7 8 9 0 1 2 3 4 5 6 7 8 9 0 1 2 3 4 5 6 7 8 9 0 1"⟩,
    ⟨0x1D7EE, 0x1D7FF, 1, "2 3 4 5 6 7 8 9 0 1 2 3 4 5 6 7 8 9"⟩,
    ⟨0x1E030, 0x1E04F, 1, "а б в г д е ж з и к л м о п р с т у ф х ц ч ш ы э ю ꚉ ә і ј ө ү"⟩,
    ⟨0x1E050, 0x1E06D, 1, "ӏ а б в г д е ж з и к л о п с у ф х ц ч ш ъ ы ґ і ѕ џ ҫ ꙑ ұ"⟩,
    ⟨0x1E900, 0x1E91F, 1, "𞤢 𞤣 𞤤 𞤥 𞤦 𞤧 𞤨 𞤩 𞤪 𞤫 𞤬 𞤭 𞤮 𞤯 𞤰 𞤱 𞤲 𞤳 𞤴 𞤵 𞤶 𞤷 𞤸 𞤹 𞤺 𞤻 𞤼 𞤽 𞤾 𞤿 𞥀 𞥁"⟩,
    ⟨0x1E920, 0x1E921, 1, "𞥂 𞥃"⟩, ⟨0x1EE00, 0x1EE03, 1, "ا ب ج د"⟩,
    ⟨0x1EE05, 0x1EE1F, 1, "و ز ح ط ي ك ل م ن س ع ف ص ق ر ش ت ث خ ذ ض ظ غ ٮ ں ڡ ٯ"⟩,
    ⟨0x1EE21, 0x1EE22, 1, "ب ج"⟩, ⟨0x1EE24, 0x1EE24, 1, "ه"⟩, ⟨0x1EE27, 0x1EE29, 2, "ح ي"⟩,
    ⟨0x1EE2A, 0x1EE32, 1, "ك ل م ن س ع ف ص ق"⟩, ⟨0x1EE34, 0x1EE37, 1, "ش ت ث خ"⟩,
    ⟨0x1EE39, 0x1EE3B, 2, "ض غ"⟩, ⟨0x1EE42, 0x1EE42, 1, "ج"⟩, ⟨0x1EE47, 0x1EE4D, 2, "ح ي ل ن"⟩,
    ⟨0x1EE4E, 0x1EE4F, 1, "س ع"⟩, ⟨0x1EE51, 0x1EE52, 1, "ص ق"⟩, ⟨0x1EE54, 0x1EE54, 1, "ش"⟩,
    ⟨0x1EE57, 0x1EE61, 2, "خ ض غ ں ٯ ب"⟩, ⟨0x1EE62, 0x1EE64, 2, "ج ه"⟩,
    ⟨0x1EE67, 0x1EE6A, 1, "ح ط ي ك"⟩, ⟨0x1EE6C, 0x1EE72, 1, "م ن س ع ف ص ق"⟩,
    ⟨0x1EE74, 0x1EE77, 1, "ش ت ث خ"⟩, ⟨0x1EE79, 0x1EE7C, 1, "ض ظ غ ٮ"⟩,
    ⟨0x1EE7E, 0x1EE80, 2, "ڡ ا"⟩, ⟨0x1EE81, 0x1EE89, 1, "ب ج د ه و ز ح ط ي"⟩,
    ⟨0x1EE8B, 0x1EE9B, 1, "ل م ن س ع ف ص ق ر ش ت ث خ ذ ض ظ غ"⟩, ⟨0x1EEA1, 0x1EEA3, 1, "ب ج د"⟩,
    ⟨0x1EEA5, 0x1EEA9, 1, "و ز ح ط ي"⟩, ⟨0x1EEAB, 0x1EEBB, 1, "ل م ن س ع ف ص ق ر ش ت ث خ ذ ض ظ غ"⟩,
    ⟨0x1F101, 0x1F10A, 1, "0, 1, 2, 3, 4, 5, 6, 7, 8, 9,"⟩,
    ⟨0x1F110, 0x1F11F, 1, "(a) (b) (c) (d) (e) (f) (g) (h) (i) (j) (k) (l) (m) (n) (o) (p)"⟩,
    ⟨0x1F120, 0x1F12E, 1, "(q) (r) (s) (t) (u) (v) (w) (x) (y) (z) 〔s〕 c r cd wz"⟩,
    ⟨0x1F130, 0x1F14D, 1, "a b c d e f g h i j k l m n o p q r s t u v w x y z hv mv sd ss"⟩,
    ⟨0x1F14E, 0x1F14F, 1, "ppv wc"⟩, ⟨0x1F16A, 0x1F16C, 1, "mc md mr"⟩,
    ⟨0x1F190, 0x1F190, 1, "dj"⟩, ⟨0x1F200, 0x1F202, 1, "ほか ココ サ"⟩,
    ⟨0x1F210, 0x1F22F, 1, "手 字 双 デ 二 多 解 天 交 映 無 料 前 後 再 新 初 終 生 販 声 吹 演 投 捕 一 三 遊 左 中 右 指"⟩,
    ⟨0x1F230, 0x1F23B, 1, "走 打 禁 空 合 満 有 月 申 割 営 配"⟩,
    ⟨0x1F240, 0x1F248, 1, "〔本〕 〔三〕 〔二〕 〔安〕 〔点〕 〔打〕 〔盗〕 〔勝〕 〔敗〕"⟩, ⟨0x1F250, 0x1F251, 1, "得 可"⟩,
    ⟨0x1FBF0, 0x1FBF9, 1, "0 1 2 3 4 5 6 7 8 9"⟩,
    ⟨0x2F800, 0x2F81F, 1, "丽 丸 乁 𠄢 你 侮 侻 倂 偺 備 僧 像 㒞 𠘺 免 兔 兤 具 𠔜 㒹 內 再 𠕋 冗 冤 仌 冬 况 𩇟 凵 刃 㓟"⟩,
    ⟨0x2F820, 0x2F83F, 1, "刻 剆 割 剷 㔕 勇 勉 勤 勺 包 匆 北 卉 卑 博 即 卽 卿 卿 卿 𠨬 灰 及 叟 𠭣 叫 叱 吆 咞 吸 呈 周"⟩,
    ⟨0x2F840, 0x2F85F, 1, "咢 哶 唐 啓 啣 善 善 喙 喫 喳 嗂 圖 嘆 圗 噑 噴 切 壮 城 埴 堍 型 堲 報 墬 𡓤 売 壷 夆 多 夢 奢"⟩,
    ⟨0x2F860, 0x2F87F, 1, "𡚨 𡛪 姬 娛 娧 姘 婦 㛮 㛼 嬈 嬾 嬾 𡧈 寃 寘 寧 寳 𡬘 寿 将 当 尢 㞁 屠 屮 峀 岍 𡷤 嵃 𡷦 嵮 嵫"⟩,
    ⟨0x2F880, 0x2F89F, 1, "嵼 巡 巢 㠯 巽 帨 帽 幩 㡢 𢆃 㡼 庰 庳 庶 廊 𪎒 廾 𢌱 𢌱 舁 弢 弢 㣇 𣊸 𦇚 形 彫 㣣 徚 忍 志 忹"⟩,
    ⟨0x2F8A0, 0x2F8BF, 1, "悁 㤺 㤜 悔 𢛔 惇 慈 慌 慎 慌 慺 憎 憲 憤 憯 懞 懲 懶 成 戛 扝 抱 拔 捐 𢬌 挽 拼 捨 掃 揤 𢯱 搢"⟩,
    ⟨0x2F8C0, 0x2F8DF, 1, "揅 掩 㨮 摩 摾 撝 摷 㩬 敏 敬 𣀊 旣 書 晉 㬙 暑 㬈 㫤 冒 冕 最 暜 肭 䏙 朗 望 朡 杞 杓 𣏃 㭉 柺"⟩,
    ⟨0x2F8E0, 0x2F8FF, 1, "枅 桒 梅 𣑭 梎 栟 椔 㮝 楂 榣 槪 檨 𣚣 櫛 㰘 次 𣢧 歔 㱎 歲 殟 殺 殻 𣪍 𡴋 𣫺 汎 𣲼 沿 泍 汧 洖"⟩,
    ⟨0x2F900, 0x2F91F, 1, "派 海 流 浩 浸 涅 𣴞 洴 港 湮 㴳 滋 滇 𣻑 淹 潮 𣽞 𣾎 濆 瀹 瀞 瀛 㶖 灊 災 灷 炭 𠔥 煅 𤉣 熜 𤎫"⟩,
    ⟨0x2F920, 0x2F93F, 1, "爨 爵 牐 𤘈 犀 犕 𤜵 𤠔 獺 王 㺬 玥 㺸 㺸 瑇 瑜 瑱 璅 瓊 㼛 甤 𤰶 甾 𤲒 異 𢆟 瘐 𤾡 𤾸 𥁄 㿼 䀈"⟩,
    ⟨0x2F940, 0x2F95F, 1, "直 𥃳 𥃲 𥄙 𥄳 眞 真 真 睊 䀹 瞋 䁆 䂖 𥐝 硎 碌 磌 䃣 𥘦 祖 𥚚 𥛅 福 秫 䄯 穀 穊 穏 𥥼 𥪧 𥪧 竮"⟩,
    ⟨0x2F960, 0x2F97F, 1, "䈂 𥮫 篆 築 䈧 𥲀 糒 䊠 糨 糣 紀 𥾆 絣 䌁 緇 縂 繅 䌴 𦈨 𦉇 䍙 𦋙 罺 𦌾 羕 翺 者 𦓚 𦔣 聠 𦖨 聰"⟩,
    ⟨0x2F980, 0x2F99F, 1, "𣍟 䏕 育 脃 䐋 脾 媵 𦞧 𦞵 𣎓 𣎜 舁 舄 辞 䑫 芑 芋 芝 劳 花 芳 芽 苦 𦬼 若 茝 荣 莭 茣 莽 菧 著"⟩,
    ⟨0x2F9A0, 0x2F9BF, 1, "荓 菊 菌 菜 𦰶 𦵫 𦳕 䔫 蓱 蓳 蔖 𧏊 蕤 𦼬 䕝 䕡 𦾱 𧃒 䕫 虐 虜 虧 虩 蚩 蚈 蜎 蛢 蝹 蜨 蝫 螆 䗗"⟩,
    ⟨0x2F9C0, 0x2F9DF, 1, "蟡 蠁 䗹 衠 衣 𧙧 裗 裞 䘵 裺 㒻 𧢮 𧥦 䚾 䛇 誠 諭 變 豕 𧲨 貫 賁 贛 起 𧼯 𠠄 跋 趼 跰 𠣞 軔 輸"⟩,
    ⟨0x2F9E0, 0x2F9FF, 1, "𨗒 𨗭 邔 郱 鄑 𨜮 鄛 鈸 鋗 鋘 鉼 鏹 鐕 𨯺 開 䦕 閷 𨵷 䧦 雃 嶲 霣 𩅅 𩈚 䩮 䩶 韠 𩐊 䪲 𩒖 頋 頋"⟩,
    ⟨0x2FA00, 0x2FA1D, 1, "頩 𩖶 飢 䬳 餩 馧 駂 駾 䯎 𩬰 鬒 鱀 鳽 䳎 䳭 鵧 𪃎 䳸 𪄅 𪈎 𪊑 麻 䵖 黹 黾 鼅 鼏 鼖 鼻 𪘀"⟩ ]

/-- The text that a character folds into, if that is not the character itself. -/
def folded? (c : Char) : Option (List Char) :=
  foldingRuns.findSome? (·.fold? c.toNat)

end FeatureCatalog.Url.Domain
