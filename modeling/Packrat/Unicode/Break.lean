import Packrat.Unicode.Property
import Packrat.Unicode.Script

/-! Classes of characters for finding the borders of graphemes, words and sentences. All
of them are put together from categories, scripts and properties. -/
namespace Packrat.Unicode.Break

def joiner : CharSet := .ofWritten "200D"

def regional : CharSet := .ofWritten "1F1E6-1F1FF"

def script (name : String) : CharSet := ((Script.named? name).map Script.chars).getD .empty

def markedGrapheme : CharSet :=
  (Property.graphemeExtend.union (Property.members "Emoji_Modifier")).diff joiner

def prepended : CharSet :=
  (Property.members "PCM").union
    (.ofWritten "D4E 111C2-111C3 113D1 1193F 11941 11A3A 11A84-11A89 11D46 11F02")

def controlled : CharSet :=
  (CharSet.unions [Category.anyOf [.lineSeparator, .paragraphSeparator, .control, .format],
    Property.ignorable.diff Category.assigned]).diff
    (.unions [.ofWritten "A D 200C-200D", markedGrapheme, prepended])

def spacing : CharSet :=
  ((Category.chars .spacingMark).union (.ofWritten "E33 EB3")).diff
    (markedGrapheme.union (.ofWritten "102B-102C 1038 1062-1064 1067-106D 1083 1087-108C 108F
      109A-109C 1A61 1A63-1A64 AA7B AA7D 11720-11721"))

def openSyllables : CharSet := ⟨(List.range 399).map fun i => (0xAC00 + 28 * i, 0xAC00 + 28 * i)⟩

def closedSyllables : CharSet := (CharSet.ofWritten "AC00-D7A3").diff openSyllables

def grapheme : List (List String × CharSet) :=
  [(["CR"], .ofWritten "D"), (["LF"], .ofWritten "A"), (["Control", "CN"], controlled),
    (["Extend", "EX"], markedGrapheme), (["ZWJ"], joiner), (["Regional_Indicator", "RI"], regional),
    (["Prepend", "PP"], prepended), (["SpacingMark", "SM"], spacing),
    (["L"], .ofWritten "1100-115F A960-A97C"),
    (["V"], .ofWritten "1160-11A7 16D63 16D67-16D6A D7B0-D7C6"),
    (["T"], .ofWritten "11A8-11FF D7CB-D7FB"), (["LV"], openSyllables), (["LVT"], closedSyllables)]

def numberSigns : CharSet := .ofWritten "600-605 6DD 890-891 8E2 110BD 110CD"

def numeric : CharSet :=
  .unions [Category.chars .decimalNumber, numberSigns, .ofWritten "66B"]

def katakana : CharSet := (script "Katakana").union (.ofWritten "3031-3035 309B-309C 30A0 30FC FF70")

def hebrewLetter : CharSet := (script "Hebrew").inter (Category.chars .otherLetter)

def markedWord : CharSet := (markedGrapheme.union (Category.chars .spacingMark)).diff joiner

def unparted : CharSet := .ofWritten "E01-E3A E40-E4E E81-E82 E84 E86-E8A E8C-EA3 EA5 EA7-EBD
  EC0-EC4 EC6 EC8-ECE EDC-EDF 1000-103F 1050-108F 109A-109F 1780-17D3 17D7 17DC-17DD 1950-196D
  1970-1974 1980-19AB 19B0-19C9 19DA 19DE-19DF 1A20-1A5E 1A60-1A7C 1AA0-1AAD A9E0-A9EF A9FA-A9FE
  AA60-AAC2 AADB-AADF 11700-1171A 1171D-1172B 1173A-1173B 1173F-11746"

def wordLetter : CharSet :=
  (Property.alphabetic.union (.ofWritten "2C2-2C5 2D2-2D7 2DE-2DF 2E5-2EB 2ED 2EF-2FF 55A-55C 55E
    58A 5F3 70F A708-A716 A720-A721 A789-A78A AB5B")).diff
    (.unions [Property.members "Ideographic", katakana, unparted, script "Hiragana", markedWord,
      hebrewLetter, numeric, Category.chars .connectorPunctuation, joiner])

def word : List (List String × CharSet) :=
  [(["CR"], .ofWritten "D"), (["LF"], .ofWritten "A"),
    (["Newline", "NL"], .ofWritten "B-C 85 2028-2029"), (["Extend"], markedWord), (["ZWJ"], joiner),
    (["Format", "FO"], (Category.chars .format).diff
      (.unions [.ofWritten "70F 200B-200D E0020-E007F", numberSigns])),
    (["Regional_Indicator", "RI"], regional), (["Katakana", "KA"], katakana),
    (["Hebrew_Letter", "HL"], hebrewLetter), (["ALetter", "LE"], wordLetter),
    (["Single_Quote", "SQ"], .ofWritten "27"), (["Double_Quote", "DQ"], .ofWritten "22"),
    (["MidNumLet", "MB"], .ofWritten "2E 2018-2019 2024 FE52 FF07 FF0E"),
    (["MidLetter", "ML"], .ofWritten "3A B7 387 55F 5F4 2027 FE13 FE55 FF1A"),
    (["MidNum", "MN"], .ofWritten "2C 3B 37E 589 60C-60D 66C 7F8 2044 FE10 FE14 FE50 FE54 FF0C FF1B"),
    (["Numeric", "NU"], numeric),
    (["ExtendNumLet", "EX"], (Category.chars .connectorPunctuation).union (.ofWritten "202F")),
    (["WSegSpace"], (Category.chars .spaceSeparator).diff (.ofWritten "A0 2007 202F"))]

def markedSentence : CharSet :=
  .unions [Property.graphemeExtend, Category.chars .spacingMark, joiner]

def separator : CharSet := .ofWritten "85 2028-2029"

def lowerLetter : CharSet :=
  Property.lowercase.diff (Property.graphemeExtend.union (.ofWritten "10D0-10FA 10FD-10FF"))

def upperLetter : CharSet :=
  ((Category.chars .titlecaseLetter).union Property.uppercase).diff (.ofWritten "1C90-1CBA 1CBD-1CBF")

def sentenceLetter : CharSet :=
  (Property.alphabetic.union (.ofWritten "5F3")).diff
    (.unions [lowerLetter, upperLetter, markedSentence])

def fullStop : CharSet := .ofWritten "2E 2024 FE52 FF0E"

def terminator : CharSet := (Property.members "Sentence_Terminal").diff fullStop

def closing : CharSet :=
  (CharSet.unions [Property.members "Quotation_Mark",
    Category.anyOf [.openPunctuation, .closePunctuation, .initialPunctuation, .finalPunctuation],
    .ofWritten "275B-2760 2E00-2E01 2E06-2E08 2E0B 1F676-1F678"]).diff
    (.unions [.ofWritten "5F3 FF02 FF07", fullStop, terminator])

def sentence : List (List String × CharSet) :=
  [(["CR"], .ofWritten "D"), (["LF"], .ofWritten "A"), (["Extend", "EX"], markedSentence),
    (["Sep", "SE"], separator),
    (["Format", "FO"], (Category.chars .format).diff (numberSigns.union markedSentence)),
    (["Sp", "SP"], (Property.members "White_Space").diff (separator.union (.ofWritten "A D"))),
    (["Lower", "LO"], lowerLetter), (["Upper", "UP"], upperLetter),
    (["OLetter", "LE"], sentenceLetter), (["Numeric", "NU"], numeric.union (.ofWritten "66C")),
    (["ATerm", "AT"], fullStop), (["STerm", "ST"], terminator), (["Close", "CL"], closing),
    (["SContinue", "SC"], .ofWritten "2C-2D 3A 55D 60C-60D 7F8 1802 1808 2013-2014 3001 FE10-FE11
      FE13 FE31-FE32 FE50-FE51 FE55 FE58 FE63 FF0C-FF0D FF1A FF64")]

def named? (classes : List (List String × CharSet)) (name : String) : Option CharSet :=
  (classes.find? (Name.hasName ·.1 name)).map Prod.snd

end Packrat.Unicode.Break
