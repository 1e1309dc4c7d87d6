import FeatureCatalog.Text.Marks

/-! Composed text: a letter and the marks on it are one character where there is such a character,
and marks that do not touch each other stand in the order of their classes. Texts that differ only
in this look alike, and each has one composed form. The characters that have one fixed other form,
such as the sign for the unit ohm, stay as they are here. -/

namespace FeatureCatalog.Text

/-- The characters that are composed of another and a mark. A row has a mark, and then letters each
followed by the same letter with the mark on it. Rows whose letters have other marks already come
before those whose letters have fewer of them. -/
def compositions : List (Nat × String) :=
  [ (0x0345, "ἂᾂἃᾃἄᾄἅᾅἆᾆἇᾇἊᾊἋᾋἌᾌἍᾍἎᾎἏᾏἢᾒἣᾓἤᾔἥᾕἦᾖἧᾗἪᾚἫᾛἬᾜἭᾝἮᾞἯᾟὢᾢὣᾣὤᾤὥᾥὦᾦὧᾧὪᾪὫᾫὬᾬὭᾭὮᾮὯᾯ"),
    (0x0300, "ÜǛüǜĒḔēḕŌṐōṑÂẦâầĂẰăằÊỀêềÔỒôồƠỜơờƯỪưừἀἂἁἃἈἊἉἋἐἒἑἓἘἚἙἛἠἢἡἣἨἪἩἫἰἲἱἳἸἺἹἻὀὂὁὃὈὊὉὋὐὒὑὓ"),
    (0x0300, "ὙὛὠὢὡὣὨὪὩὫϊῒϋῢ"),
    (0x0301, "ÜǗüǘÅǺåǻϊΐϋΰÇḈçḉĒḖēḗÏḮïḯÕṌõṍŌṒōṓŨṸũṹÂẤâấĂẮăắÊẾêếÔỐôốƠỚơớƯỨưứἀἄἁἅἈἌἉἍἐἔἑἕἘἜἙἝἠἤἡἥ"),
    (0x0301, "ἨἬἩἭἰἴἱἵἸἼἹἽὀὄὁὅὈὌὉὍὐὔὑὕὙὝὠὤὡὥὨὬὩὭ"),
    (0x0302, "ẠẬạậẸỆẹệỌỘọộ"),
    (0x0303, "ÂẪâẫĂẴăẵÊỄêễÔỖôỗƠỠơỡƯỮưữ"),
    (0x0304, "ÜǕüǖÄǞäǟȦǠȧǡǪǬǫǭÖȪöȫÕȬõȭȮȰȯȱḶḸḷḹṚṜṛṝ"),
    (0x0306, "ȨḜȩḝẠẶạặ"),
    (0x0307, "ŚṤśṥŠṦšṧṢṨṣṩ"),
    (0x0308, "ÕṎõṏŪṺūṻ"),
    (0x0309, "ÂẨâẩĂẲăẳÊỂêểÔỔôổƠỞơởƯỬưử"),
    (0x030C, "ÜǙüǚ"),
    (0x0323, "ƠỢơợƯỰưự"),
    (0x0342, "ἀἆἁἇἈἎἉἏἠἦἡἧἨἮἩἯἰἶἱἷἸἾἹἿὐὖὑὗὙὟὠὦὡὧὨὮὩὯϊῗϋῧ"),
    (0x0345, "ἀᾀἁᾁἈᾈἉᾉἠᾐἡᾑἨᾘἩᾙὠᾠὡᾡὨᾨὩᾩὰᾲάᾴᾶᾷὴῂήῄῆῇὼῲώῴῶῷ"),
    (0x0CD5, "ೊೋ"),
    (0x0DCA, "ොෝ"),
    (0x1611F, "𖄡𖄦𖄢𖄧"),
    (0x16120, "𖄡𖄨"),
    (0x16D67, "𖵩𖵪"),
    (0x0300, "AÀEÈIÌOÒUÙaàeèiìoòuùNǸnǹЕЀИЍеѐиѝWẀwẁYỲyỳαὰεὲηὴιὶοὸυὺωὼΑᾺΕῈΗῊ᾿῍ΙῚ῾῝ΥῪ¨῭ΟῸΩῺ"),
    (0x0301, "AÁEÉIÍOÓUÚYÝaáeéiíoóuúyýCĆcćLĹlĺNŃnńRŔrŕSŚsśZŹzźGǴgǵÆǼæǽØǾøǿ¨΅ΑΆΕΈΗΉΙΊΟΌΥΎΩΏαάεέ"),
    (0x0301, "ηήιίοόυύωώϒϓГЃКЌгѓкќKḰkḱMḾmḿPṔpṕWẂwẃ᾿῎῾῞"),
    (0x0302, "AÂEÊIÎOÔUÛaâeêiîoôuûCĈcĉGĜgĝHĤhĥJĴjĵSŜsŝWŴwŵYŶyŷZẐzẑ"),
    (0x0303, "AÃNÑOÕaãnñoõIĨiĩUŨuũVṼvṽEẼeẽYỸyỹ"),
    (0x0304, "AĀaāEĒeēIĪiīOŌoōUŪuūÆǢæǣYȲyȳИӢиӣУӮуӯGḠgḡαᾱΑᾹιῑΙῙυῡΥῩ"),
    (0x0306, "AĂaăEĔeĕGĞgğIĬiĭOŎoŏUŬuŭУЎИЙийуўЖӁжӂАӐаӑЕӖеӗαᾰΑᾸιῐΙῘυῠΥῨ"),
    (0x0307, "CĊcċEĖeėGĠgġIİZŻzżAȦaȧOȮoȯBḂbḃDḊdḋFḞfḟHḢhḣMṀmṁNṄnṅPṖpṗRṘrṙSṠsṡTṪtṫWẆwẇXẊxẋYẎyẏſẛ"),
    (0x0307, "𐗒𐗉𐗚𐗤"),
    (0x0308, "AÄEËIÏOÖUÜaäeëiïoöuüyÿYŸΙΪΥΫιϊυϋϒϔЕЁІЇеёіїАӒаӓӘӚәӛЖӜжӝЗӞзӟИӤиӥОӦоӧӨӪөӫЭӬэӭУӰуӱЧӴ"),
    (0x0308, "чӵЫӸыӹHḦhḧWẄwẅXẌxẍtẗ"),
    (0x0309, "AẢaảEẺeẻIỈiỉOỎoỏUỦuủYỶyỷ"),
    (0x030A, "AÅaåUŮuůwẘyẙ"),
    (0x030B, "OŐoőUŰuűУӲуӳ"),
    (0x030C, "CČcčDĎdďEĚeěLĽlľNŇnňRŘrřSŠsšTŤtťZŽzžAǍaǎIǏiǐOǑoǒUǓuǔGǦgǧKǨkǩƷǮʒǯjǰHȞhȟ"),
    (0x030F, "AȀaȁEȄeȅIȈiȉOȌoȍRȐrȑUȔuȕѴѶѵѷ"),
    (0x0311, "AȂaȃEȆeȇIȊiȋOȎoȏRȒrȓUȖuȗ"),
    (0x0313, "αἀΑἈεἐΕἘηἠΗἨιἰΙἸοὀΟὈυὐωὠΩὨρῤ"),
    (0x0314, "αἁΑἉεἑΕἙηἡΗἩιἱΙἹοὁΟὉυὑΥὙωὡΩὩρῥΡῬ"),
    (0x031B, "OƠoơUƯuư"),
    (0x0323, "BḄbḅDḌdḍHḤhḥKḲkḳLḶlḷMṂmṃNṆnṇRṚrṛSṢsṣTṬtṭVṾvṿWẈwẉZẒzẓAẠaạEẸeẹIỊiịOỌoọUỤuụYỴyỵ"),
    (0x0324, "UṲuṳ"),
    (0x0325, "AḀaḁ"),
    (0x0326, "SȘsșTȚtț"),
    (0x0327, "CÇcçGĢgģKĶkķLĻlļNŅnņRŖrŗSŞsşTŢtţEȨeȩDḐdḑHḨhḩ"),
    (0x0328, "AĄaąEĘeęIĮiįUŲuųOǪoǫ"),
    (0x032D, "DḒdḓEḘeḙLḼlḽNṊnṋTṰtṱUṶuṷ"),
    (0x032E, "HḪhḫ"),
    (0x0330, "EḚeḛIḬiḭUṴuṵ"),
    (0x0331, "BḆbḇDḎdḏKḴkḵLḺlḻNṈnṉRṞrṟTṮtṯZẔzẕhẖ"),
    (0x0338, "←↚→↛↔↮⇐⇍⇔⇎⇒⇏∃∄∈∉∋∌∣∤∥∦∼≁≃≄≅≇≈≉=≠≡≢≍≭<≮>≯≤≰≥≱≲≴≳≵≶≸≷≹≺⊀≻⊁⊂⊄⊃⊅⊆⊈⊇⊉⊢⊬⊨⊭⊩⊮⊫⊯≼⋠≽⋡⊑⋢⊒⋣"),
    (0x0338, "⊲⋪⊳⋫⊴⋬⊵⋭"),
    (0x0342, "αᾶ¨῁ηῆ᾿῏ιῖ῾῟υῦωῶ"),
    (0x0345, "αᾳΑᾼηῃΗῌωῳΩῼ"),
    (0x0653, "اآ"),
    (0x0654, "اأوؤيئەۀہۂےۓ"),
    (0x0655, "اإ"),
    (0x093C, "नऩरऱळऴ"),
    (0x09BE, "েো"),
    (0x09D7, "েৌ"),
    (0x0B3E, "େୋ"),
    (0x0B56, "େୈ"),
    (0x0B57, "େୌ"),
    (0x0BBE, "ெொேோ"),
    (0x0BD7, "ஒஔெௌ"),
    (0x0C56, "ెై"),
    (0x0CC2, "ೆೊ"),
    (0x0CD5, "ಿೀೆೇ"),
    (0x0CD6, "ೆೈ"),
    (0x0D3E, "െൊേോ"),
    (0x0D57, "െൌ"),
    (0x0DCA, "ෙේ"),
    (0x0DCF, "ෙො"),
    (0x0DDF, "ෙෞ"),
    (0x102E, "ဥဦ"),
    (0x1B35, "ᬅᬆᬇᬈᬉᬊᬋᬌᬍᬎᬑᬒᬺᬻᬼᬽᬾᭀᬿᭁᭂᭃ"),
    (0x3099, "かがきぎくぐけげこごさざしじすずせぜそぞただちぢつづてでとどはばひびふぶへべほぼうゔゝゞカガキギクグケゲコゴサザシジスズセゼソゾタダチヂツヅテデトドハバヒビフブ"),
    (0x3099, "ヘベホボウヴワヷヰヸヱヹヲヺヽヾ"),
    (0x309A, "はぱひぴふぷへぺほぽハパヒピフプヘペホポ"),
    (0x110BA, "𑂙𑂚𑂛𑂜𑂥𑂫"),
    (0x11127, "𑄱𑄮𑄲𑄯"),
    (0x1133E, "𑍇𑍋"),
    (0x11357, "𑍇𑍌"),
    (0x113B8, "𑏅𑎸"),
    (0x113BB, "𑎄𑎅"),
    (0x113C2, "𑎋𑎎𑏅𑏂"),
    (0x113C9, "𑎂𑎃𑎐𑎑𑏅𑏉"),
    (0x114B0, "𑒹𑒼"),
    (0x114BA, "𑒹𑒻"),
    (0x114BD, "𑒹𑒾"),
    (0x115AF, "𑖸𑖺𑖹𑖻"),
    (0x11930, "𑤵𑤸"),
    (0x1611E, "𖄡𖄞"),
    (0x1611F, "𖄦𖄩𖄤"),
    (0x16120, "𖄨"),
    (0x16129, "𖄡𖄩"),
    (0x16D67, "𖵨𖵧𖵣𖵩") ]

/-- The letters of a row, each with the letter that has the mark. -/
def letterPairs : List Char → List (Char × Char)
  | letter :: composed :: rest => (letter, composed) :: letterPairs rest
  | _ => []

/-- The rows of `compositions` with their letters in pairs. -/
def compositionRows : List (Char × List (Char × Char)) :=
  compositions.map fun row => (Char.ofNat row.1, letterPairs row.2.toList)

/-! ### Korean syllables

A syllable has a leading consonant, a vowel, and perhaps a trailing consonant, and the syllables
stand in the order of these. -/

/-- The first leading consonant, of 19. -/
def firstLead : Nat := 0x1100

/-- The first vowel, of 21. -/
def firstVowel : Nat := 0x1161

/-- The code point before the first trailing consonant, of 27. -/
def noTrail : Nat := 0x11A7

/-- The first syllable. -/
def firstSyllable : Nat := 0xAC00

/-- The parts of a syllable. -/
def syllableParts? (c : Char) : Option (List Char) :=
  let n := c.toNat - firstSyllable
  if firstSyllable ≤ c.toNat ∧ n < 19 * 21 * 28 then
    let lead := Char.ofNat (firstLead + n / (21 * 28))
    let vowel := Char.ofNat (firstVowel + n / 28 % 21)
    let trail := n % 28
    some (lead :: vowel :: if trail = 0 then [] else [Char.ofNat (noTrail + trail)])
  else none

/-- The syllable of a leading consonant and a vowel, or of a syllable without a trailing consonant
and one. -/
def syllableOf? (a b : Char) : Option Char :=
  let lead := a.toNat - firstLead
  let vowel := b.toNat - firstVowel
  let syllable := a.toNat - firstSyllable
  let trail := b.toNat - noTrail
  if firstLead ≤ a.toNat ∧ lead < 19 ∧ firstVowel ≤ b.toNat ∧ vowel < 21 then
    some (Char.ofNat (firstSyllable + (lead * 21 + vowel) * 28))
  else if firstSyllable ≤ a.toNat ∧ syllable < 19 * 21 * 28 ∧ syllable % 28 = 0 ∧
      noTrail < b.toNat ∧ trail < 28 then
    some (Char.ofNat (a.toNat + trail))
  else none

/-! ### Composition -/

/-- The character that is composed of the two. -/
def composedOf? (a b : Char) : Option Char :=
  match syllableOf? a b with
  | some c => some c
  | none =>
    (compositionRows.filter (·.1 = b)).findSome? fun row =>
      (row.2.find? (·.1 = a)).map (·.2)

/-- Takes one mark off the letter that a text starts with, if the row has that letter. -/
def takeOff (cs : List Char) (row : Char × List (Char × Char)) : List Char :=
  match cs with
  | [] => []
  | c :: marks =>
    match row.2.find? (·.2 = c) with
    | some (letter, _) => letter :: row.1 :: marks
    | none => c :: marks

/-- A letter with its marks apart. -/
def apart (c : Char) : List Char :=
  if c.toNat < 0x00C0 then [c]
  else
    match syllableParts? c with
    | some parts => parts
    | none => compositionRows.foldl takeOff [c]

/-- Puts a character before a text, behind the marks of lower classes that the text starts with. -/
def insertByClass (c : Char) : List Char → List Char
  | [] => [c]
  | d :: rest =>
    if combiningClass d ≠ 0 ∧ combiningClass d < combiningClass c then d :: insertByClass c rest
    else c :: d :: rest

/-- The text with each run of marks in the order of their classes. -/
def orderMarks : List Char → List Char
  | [] => []
  | c :: rest => insertByClass c (orderMarks rest)

/-- Composes `letter` with the marks that follow it. `passed` has the marks that stay, the last one
first; they keep away later marks of their own class. -/
def composeFrom (letter : Char) (passed : List Char) : List Char → List Char
  | [] => letter :: passed.reverse
  | c :: rest =>
    let isFree := passed.all fun d => decide (combiningClass d < combiningClass c)
    match if isFree then composedOf? letter c else none with
    | some both => composeFrom both passed rest
    | none =>
      if combiningClass c = 0 then letter :: passed.reverse ++ composeFrom c [] rest
      else composeFrom letter (c :: passed) rest

/-- The composed form of a text. -/
def composed (cs : List Char) : List Char :=
  match orderMarks (cs.flatMap apart) with
  | [] => []
  | c :: rest => composeFrom c [] rest

end FeatureCatalog.Text
