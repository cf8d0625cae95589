/-
  Composed characters in domain names (Unicode Standard Annex 15, form C).

  * `Domain.compositeRows`: the characters that are made of a base and a mark; Korean syllables are
    made of their letters by rule.
  * `Domain.compose`: marks in the order of their classes, and each base made one with the marks
    that it has a composed character with.
-/
import LightningLottery.Url.Domain.Mark

namespace LightningLottery
namespace Domain

/-! ## Two characters as one -/

/-- Composed characters by their second part: each row gives a mark, and bases each of which its
    composed character follows. Capital letters are left out, as names do not hold them. -/
def compositeRows : List (Nat × String) :=
  [(0x300, "aàeèiìnǹoòuùwẁyỳâầêềôồüǜăằēḕōṑơờưừαὰεὲηὴιὶοὸυὺωὼϊῒϋῢеѐиѝἀἂἁἃἐἒἑἓἠἢἡἣἰἲἱἳ"),
   (0x300, "ὀὂὁὃὐὒὑὓὠὢὡὣ"),
   (0x301, "aácćeégǵiíkḱlĺmḿnńoópṕrŕsśuúwẃyýzźâấåǻæǽçḉêếïḯôốõṍøǿüǘăắēḗōṓũṹơớưứαάεέηή"),
   (0x301, "ιίοόυύωώϊΐϋΰгѓкќἀἄἁἅἐἔἑἕἠἤἡἥἰἴἱἵὀὄὁὅὐὔὑὕὠὤὡὥ"),
   (0x302, "aâcĉeêgĝhĥiîjĵoôsŝuûwŵyŷzẑạậẹệọộ"),
   (0x303, "aãeẽiĩnñoõuũvṽyỹâẫêễôỗăẵơỡưữ"),
   (0x304, "aāeēgḡiīoōuūyȳäǟæǣõȭöȫüǖǫǭȧǡȯȱαᾱιῑυῡиӣуӯḷḹṛṝ"),
   (0x306, "aăeĕgğiĭoŏuŭȩḝαᾰιῐυῠаӑеӗжӂийуўạặ"),
   (0x307, "aȧbḃcċdḋeėfḟgġhḣmṁnṅoȯpṗrṙsṡtṫwẇxẋyẏzżśṥšṧṣṩ𐗒𐗉𐗚𐗤"),
   (0x308, "aäeëhḧiïoötẗuüwẅxẍyÿõṏūṻιϊυϋаӓеёжӝзӟиӥоӧуӱчӵыӹэӭіїәӛөӫ"),
   (0x309, "aảeẻiỉoỏuủyỷâẩêểôổăẳơởưử"),
   (0x30A, "aåuůwẘyẙ"),
   (0x30B, "oőuűуӳ"),
   (0x30C, "aǎcčdďeěgǧhȟiǐjǰkǩlľnňoǒrřsštťuǔzžüǚʒǯ"),
   (0x30F, "aȁeȅiȉoȍrȑuȕѵѷ"),
   (0x311, "aȃeȇiȋoȏrȓuȗ"),
   (0x313, "αἀεἐηἠιἰοὀρῤυὐωὠ"),
   (0x314, "αἁεἑηἡιἱοὁρῥυὑωὡ"),
   (0x31B, "oơuư"),
   (0x323, "aạbḅdḍeẹhḥiịkḳlḷmṃnṇoọrṛsṣtṭuụvṿwẉyỵzẓơợưự"),
   (0x324, "uṳ"),
   (0x325, "aḁ"),
   (0x326, "sștț"),
   (0x327, "cçdḑeȩgģhḩkķlļnņrŗsştţ"),
   (0x328, "aąeęiįoǫuų"),
   (0x32D, "dḓeḙlḽnṋtṱuṷ"),
   (0x32E, "hḫ"),
   (0x330, "eḛiḭuṵ"),
   (0x331, "bḇdḏhẖkḵlḻnṉrṟtṯzẕ"),
   (0x338, "<≮=≠>≯←↚→↛↔↮⇐⇍⇒⇏⇔⇎∃∄∈∉∋∌∣∤∥∦∼≁≃≄≅≇≈≉≍≭≡≢≤≰≥≱≲≴≳≵≶≸≷≹≺⊀≻⊁≼⋠≽⋡⊂⊄⊃⊅⊆⊈⊇⊉⊑⋢⊒⋣"),
   (0x338, "⊢⊬⊨⊭⊩⊮⊫⊯⊲⋪⊳⋫⊴⋬⊵⋭"),
   (0x342, "αᾶηῆιῖυῦωῶϊῗϋῧἀἆἁἇἠἦἡἧἰἶἱἷὐὖὑὗὠὦὡὧ"),
   (0x653, "اآ"),
   (0x654, "اأوؤيئہۂےۓەۀ"),
   (0x655, "اإ"),
   (0x93C, "नऩरऱळऴ"),
   (0x9BE, "েো"),
   (0x9D7, "েৌ"),
   (0xB3E, "େୋ"),
   (0xB56, "େୈ"),
   (0xB57, "େୌ"),
   (0xBBE, "ெொேோ"),
   (0xBD7, "ஒஔெௌ"),
   (0xC56, "ెై"),
   (0xCC2, "ೆೊ"),
   (0xCD5, "ಿೀೆೇೊೋ"),
   (0xCD6, "ೆೈ"),
   (0xD3E, "െൊേോ"),
   (0xD57, "െൌ"),
   (0xDCA, "ෙේොෝ"),
   (0xDCF, "ෙො"),
   (0xDDF, "ෙෞ"),
   (0x102E, "ဥဦ"),
   (0x1B35, "ᬅᬆᬇᬈᬉᬊᬋᬌᬍᬎᬑᬒᬺᬻᬼᬽᬾᭀᬿᭁᭂᭃ"),
   (0x3099, "うゔかがきぎくぐけげこごさざしじすずせぜそぞただちぢつづてでとどはばひびふぶへべほぼゝゞウヴカガキギクグケゲコゴサザシジスズセゼソゾタダチヂツヅ"),
   (0x3099, "テデトドハバヒビフブヘベホボワヷヰヸヱヹヲヺヽヾ"),
   (0x309A, "はぱひぴふぷへぺほぽハパヒピフプヘペホポ"),
   (0x110BA, "𑂙𑂚𑂛𑂜𑂥𑂫"),
   (0x11127, "𑄱𑄮𑄲𑄯"),
   (0x1133E, "𑍇𑍋"),
   (0x11357, "𑍇𑍌"),
   (0x113B8, "𑏅𑎸"),
   (0x113BB, "𑎄𑎅"),
   (0x113C2, "𑎋𑎎𑏅𑏂"),
   (0x113C9, "𑎂𑎃𑎐𑎑𑏅𑏉"),
   (0x114B0, "𑒹𑒼"),
   (0x114BA, "𑒹𑒻"),
   (0x114BD, "𑒹𑒾"),
   (0x115AF, "𑖸𑖺𑖹𑖻"),
   (0x11930, "𑤵𑤸"),
   (0x1611E, "𖄡𖄞"),
   (0x1611F, "𖄦𖄡𖄦𖄢𖄧𖄩𖄤"),
   (0x16120, "𖄨𖄡𖄨"),
   (0x16129, "𖄡𖄩"),
   (0x16D67, "𖵣𖵪𖵨𖵩𖵪")]

/-- A character made of two. -/
structure Composite where
  base : Char
  mark : Char
  whole : Char

/-- Bases and composed characters in turn, as composites with a mark. -/
def compositesWith (mark : Char) : List Char → List Composite
  | base :: whole :: rest => ⟨base, mark, whole⟩ :: compositesWith mark rest
  | _ => []

/-- The characters made of two. -/
def composites : List Composite :=
  compositeRows.flatMap fun (mark, text) => compositesWith (Char.ofNat mark) text.toList

/-- The Korean syllable that two letters, or a syllable and a final letter, make. -/
def syllable? (a b : Nat) : Option Nat :=
  if 0x1100 ≤ a && a < 0x1113 && 0x1161 ≤ b && b < 0x1176 then
    some (0xAC00 + ((a - 0x1100) * 21 + (b - 0x1161)) * 28)
  else if 0xAC00 ≤ a && a < 0xD7A4 && (a - 0xAC00) % 28 == 0 && 0x11A7 < b && b < 0x11C3 then
    some (a + (b - 0x11A7))
  else none

/-- The two parts of a Korean syllable. -/
def syllableParts? (code : Nat) : Option (Nat × Nat) :=
  if 0xAC00 ≤ code && code < 0xD7A4 then
    let i := code - 0xAC00
    if i % 28 == 0 then some (0x1100 + i / 588, 0x1161 + i / 28 % 21)
    else some (code - i % 28, 0x11A7 + i % 28)
  else none

/-- The character that two make. -/
def whole? (a b : Char) : Option Char :=
  match syllable? a.toNat b.toNat with
  | some code => some (Char.ofNat code)
  | none => (composites.find? fun k => k.base == a && k.mark == b).map (·.whole)

/-- The two characters that one is made of. -/
def parts? (c : Char) : Option (Char × Char) :=
  match syllableParts? c.toNat with
  | some (a, b) => some (Char.ofNat a, Char.ofNat b)
  | none => (composites.find? fun k => k.whole == c).map fun k => (k.base, k.mark)

/-! ## Text -/

/-- The characters that one is made of in the end; `depth` bounds how often a base is taken apart
    again. -/
def apart (depth : Nat) (c : Char) : List Char :=
  match depth, parts? c with
  | depth + 1, some (base, mark) => apart depth base ++ [mark]
  | _, _ => [c]

/-- No base is composed of more than this many characters. -/
def maxDepth : Nat := 4

/-- A character put in front of characters that are in order: a mark goes behind marks of smaller
    classes. -/
def insertInOrder (c : Char) : List Char → List Char
  | [] => [c]
  | d :: ds =>
    if combiningClass d == 0 || combiningClass c ≤ combiningClass d then c :: d :: ds
    else d :: insertInOrder c ds

/-- Marks in the order of their classes. -/
def inOrder (cs : List Char) : List Char := cs.foldr insertInOrder []

/-- Makes a base one with what follows it; `kept` are the marks that stay apart, nearest first. A
    mark reaches the base only past marks of smaller classes. -/
def composeFrom (base : Char) (kept : List Char) : List Char → List Char
  | [] => base :: kept.reverse
  | c :: cs =>
    let reaches := kept.head?.all fun k => combiningClass k < combiningClass c
    match if reaches then whole? base c else none with
    | some whole => composeFrom whole kept cs
    | none =>
      if combiningClass c == 0 then base :: kept.reverse ++ composeFrom c [] cs
      else composeFrom base (c :: kept) cs

/-- A text with its characters composed. -/
def compose (cs : List Char) : List Char :=
  match inOrder (cs.flatMap (apart maxDepth)) with
  | [] => []
  | c :: cs => composeFrom c [] cs

end Domain
end LightningLottery
