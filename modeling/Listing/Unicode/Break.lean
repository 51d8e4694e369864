import Listing.Unicode.Property
import Listing.Unicode.Script

/-!
# Where text breaks

The classes of characters by which a text is cut into what is seen as characters, into words and
into sentences. Classes with many members are put together from other properties; the remaining
ones are listed. A class that no character has any more keeps its name.
-/

namespace Listing.Unicode

/-- The members of a class as an answer to a question for it. -/
abbrev ClassAnswer := Option (Option Ranges)

/-- The class with a name among some classes, of which those in `empty` have no members. -/
def classNamed? (classes : List (List String × Ranges)) (empty : List String) (name : List Char) :
    ClassAnswer :=
  if empty.any (looseName · == name) then some none
  else (classes.find? (·.1.any (looseName · == name))).map fun c => some c.2

/-- The classes of emoji that are no longer in use. -/
def formerEmojiClasses : List String :=
  ["EB", "E_Base", "EBG", "E_Base_GAZ", "EM", "E_Modifier", "GAZ", "Glue_After_Zwj", "XX", "Other"]

/-- The members of a property that has a list of its own. -/
def listed (name : String) : Ranges :=
  (Value.find? listedProperties (looseName name)).getD []

/-- The members of a script. -/
def scriptOf (name : String) : Ranges := (Value.find? scripts (looseName name)).getD []

/-- The joiner of width zero. -/
def joiner : Ranges := [(0x200D, 0x200D)]

/-! ### Characters -/

/-- The first syllable of each row of Hangul syllables; the other ones have a final consonant. -/
def openSyllables : Ranges := (List.range 399).map fun i => (0xAC00 + 28 * i, 0xAC00 + 28 * i)

/-- The characters that belong to what follows them. -/
def prepended : Ranges :=
  Table.ranges
    ["600-605 6DD 70F 890-891 8E2 D4E 110BD 110CD 111C2-111C3 113D1 1193F 11941 11A3A 11A84-11A89",
      "11D46 11F02"]

/-- The characters that belong to what precedes them. -/
def extending : Ranges := .diff (.union graphemeExtend (listed "Emoji_Modifier")) joiner

/-- The spacing marks that stand for themselves. -/
def standaloneMarks : Ranges :=
  Table.ranges
    ["102B-102C 1038 1062-1064 1067-106D 1083 1087-108C 108F 109A-109C 1A61 1A63-1A64 AA7B AA7D",
      "11720-11721"]

/-- The spacing marks that belong to what precedes them. -/
def spacingMarks : Ranges :=
  .diff (.diff (.union (categoriesOf ["Mc"]) [(0xE33, 0xE33), (0xEB3, 0xEB3)]) extending)
    standaloneMarks

/-- The controls, among them the unassigned characters that are not to be shown. -/
def controls : Ranges :=
  .union (.inter (listed "Default_Ignorable_Code_Point") unassigned)
    (.diff (.diff (.diff (categoriesOf ["Zl", "Zp", "Cc", "Cf"]) graphemeExtend) prepended)
      (Table.ranges ["A D 200C-200D"]))

/-- The class of a character with a name, which is given as it is compared. -/
def graphemeBreak? : List Char → ClassAnswer :=
  classNamed?
    [(["CN", "Control"], controls),
      (["CR"], [(0xD, 0xD)]),
      (["EX", "Extend"], extending),
      (["L"], Table.ranges ["1100-115F A960-A97C"]),
      (["LF"], [(0xA, 0xA)]),
      (["LV"], openSyllables),
      (["LVT"], .diff [(0xAC00, 0xD7A3)] openSyllables),
      (["PP", "Prepend"], prepended),
      (["RI", "Regional_Indicator"], listed "Regional_Indicator"),
      (["SM", "SpacingMark"], spacingMarks),
      (["T"], Table.ranges ["11A8-11FF D7CB-D7FB"]),
      (["V"], Table.ranges ["1160-11A7 16D63 16D67-16D6A D7B0-D7C6"]),
      (["ZWJ"], joiner)]
    formerEmojiClasses

/-! ### Words -/

/-- The characters that extend a letter. -/
def marks : Ranges :=
  .union (.union graphemeExtend (categoriesOf ["Mc"])) (listed "Emoji_Modifier")

/-- The characters in front of a number that count as its part. -/
def numberSigns : Ranges := Table.ranges ["600-605 6DD 890-891 8E2 110BD 110CD"]

/-- The characters of scripts whose words only a dictionary tells apart. -/
def dictionaryScripts : Ranges :=
  Table.ranges
    ["E01-E3A E40-E4E E81-E82 E84 E86-E8A E8C-EA3 EA5 EA7-EBD EC0-EC4 EC6 EC8-ECE EDC-EDF",
      "1000-103F 1050-108F 109A-109F 1780-17D3 17D7 17DC-17DD 1950-196D 1970-1974 1980-19AB",
      "19B0-19C9 19DA 19DE-19DF 1A20-1A5E 1A60-1A7C 1AA0-1AAD A9E0-A9EF A9FA-A9FE AA60-AAC2",
      "AADB-AADF 11700-1171A 1171D-1172B 1173A-1173B 1173F-11746"]

/-- The characters of Katakana and those that are used with them. -/
def katakana : Ranges :=
  .union (scriptOf "Katakana") (Table.ranges ["3031-3035 309B-309C 30A0 30FC FF70"])

/-- The letters of Hebrew. -/
def hebrewLetters : Ranges := .inter (scriptOf "Hebrew") (categoriesOf ["Lo"])

/-- The letters of words. -/
def wordLetters : Ranges :=
  let others :=
    Table.ranges
      ["2C2-2C5 2D2-2D7 2DE-2DF 2E5-2EB 2ED 2EF-2FF 55A-55C 55E 58A 5F3 70F A708-A716 A720-A721",
        "A789-A78A AB5B"]
  let excluded :=
    [listed "Ideographic", katakana, scriptOf "Hiragana", marks, hebrewLetters, dictionaryScripts]
  .union (excluded.foldl Ranges.diff alphabetic) others

/-- The class of a character for words, by a name, which is given as it is compared. -/
def wordBreak? : List Char → ClassAnswer :=
  classNamed?
    [(["CR"], [(0xD, 0xD)]),
      (["DQ", "Double_Quote"], [(0x22, 0x22)]),
      (["EX", "ExtendNumLet"], .union (categoriesOf ["Pc"]) [(0x202F, 0x202F)]),
      (["Extend"], .diff marks joiner),
      (["FO", "Format"], .diff (.diff (.diff (categoriesOf ["Cf"]) prepended) marks)
        (Table.ranges ["200B-200D"])),
      (["HL", "Hebrew_Letter"], hebrewLetters),
      (["KA", "Katakana"], katakana),
      (["LE", "ALetter"], wordLetters),
      (["LF"], [(0xA, 0xA)]),
      (["MB", "MidNumLet"], Table.ranges ["2E 2018-2019 2024 FE52 FF07 FF0E"]),
      (["ML", "MidLetter"], Table.ranges ["3A B7 387 55F 5F4 2027 FE13 FE55 FF1A"]),
      (["MN", "MidNum"],
        Table.ranges ["2C 3B 37E 589 60C-60D 66C 7F8 2044 FE10 FE14 FE50 FE54 FF0C FF1B"]),
      (["NL", "Newline"], Table.ranges ["B-C 85 2028-2029"]),
      (["NU", "Numeric"], .union (.union (categoriesOf ["Nd"]) [(0x66B, 0x66B)]) numberSigns),
      (["RI", "Regional_Indicator"], listed "Regional_Indicator"),
      (["SQ", "Single_Quote"], [(0x27, 0x27)]),
      (["WSegSpace"], .diff (categoriesOf ["Zs"]) (Table.ranges ["A0 2007 202F"])),
      (["ZWJ"], joiner)]
    formerEmojiClasses

/-! ### Sentences -/

/-- The small letters of Georgian, which count as letters without case, and their capitals. -/
def georgianLetters : Ranges := Table.ranges ["10D0-10FA 10FD-10FF 1C90-1CBA 1CBD-1CBF"]

/-- The characters that extend a letter in a sentence. -/
def sentenceMarks : Ranges := .union (.union graphemeExtend (categoriesOf ["Mc"])) joiner

/-- The full stops, which may end a sentence or not. -/
def fullStops : Ranges := Table.ranges ["2E 2024 FE52 FF0E"]

/-- The small letters of sentences. -/
def sentenceLower : Ranges := .diff (.diff lowercase graphemeExtend) georgianLetters

/-- The capital letters of sentences. -/
def sentenceUpper : Ranges := .diff (.union uppercase (categoriesOf ["Lt"])) georgianLetters

/-- The class of a character for sentences, by a name, which is given as it is compared. -/
def sentenceBreak? : List Char → ClassAnswer :=
  classNamed?
    [(["AT", "ATerm"], fullStops),
      (["CL", "Close"], .union
        (.diff (.union (categoriesOf ["Ps", "Pe"]) (listed "Quotation_Mark"))
          (Table.ranges ["FF02 FF07"]))
        (Table.ranges ["275B-2760 2E00-2E0D 2E1C-2E1D 2E20-2E21 1F676-1F678"])),
      (["CR"], [(0xD, 0xD)]),
      (["EX", "Extend"], sentenceMarks),
      (["FO", "Format"], .diff (.diff (.diff (categoriesOf ["Cf"]) numberSigns) sentenceMarks)
        (Table.ranges ["200C"])),
      (["LE", "OLetter"], .union [(0x5F3, 0x5F3)]
        (.diff (.diff (.diff alphabetic sentenceLower) sentenceUpper) sentenceMarks)),
      (["LF"], [(0xA, 0xA)]),
      (["LO", "Lower"], sentenceLower),
      (["NU", "Numeric"],
        .union (.union (categoriesOf ["Nd"]) [(0x66B, 0x66C)]) numberSigns),
      (["SC", "SContinue"],
        Table.ranges
          ["2C-2D 3A 55D 60C-60D 7F8 1802 1808 2013-2014 3001 FE10-FE11 FE13 FE31-FE32 FE50-FE51",
            "FE55 FE58 FE63 FF0C-FF0D FF1A FF64"]),
      (["SE", "Sep"], Table.ranges ["85 2028-2029"]),
      (["SP", "Sp"], .diff whiteSpace (Table.ranges ["A D 85 2028-2029"])),
      (["ST", "STerm"], .diff (listed "Sentence_Terminal") fullStops),
      (["UP", "Upper"], sentenceUpper)]
    ["XX", "Other"]

end Listing.Unicode
