import PubList.Unicode.PropertyName

/-!
# Places where a text can be divided

Three properties divide the characters into classes, by which the ends of graphemes, of words and of
sentences are found. A character in none of the classes of a property has no value that a name stands
for. Most classes are computed from categories, properties and scripts.
-/

namespace PubList.Unicode

open GeneralCategory (charsOf)

/-- A class of characters and its names. -/
structure CharClass where
  names : List String
  chars : CharSet

/-- The characters of the class whose name has a key. -/
def CharClass.ofKey? (classes : List CharClass) (key : Text) : Option CharSet :=
  (classes.find? fun c => isKeyOf key c.names).map CharClass.chars

/-- The characters of a script, given by one of its names. -/
def scriptChars (name : String) : CharSet :=
  ((Script.ofKey? (nameKey name.toList)).map Script.chars).getD .empty

/-- The marks that join the character in front of them, and the modifiers of an emoji. -/
def extendingMarks : CharSet := graphemeExtend.union (BinaryProperty.chars .emojiModifier)

/-- The marks with a width of their own, those that extend a grapheme left out. -/
def spacingMarks : CharSet := (charsOf [.spacingMark]).diff extendingMarks

/-- The numerals that stand in front of the digits of a number, or around them. -/
def prependedNumerals : CharSet := .ofTable "600-605 6DD 890-891 8E2 110BD 110CD"

/-- The characters of a format that neither join nor extend others. -/
def formatChars : CharSet :=
  (charsOf [.format]).diff
    (.unions [graphemeExtend, .ofTable "200C-200D", BinaryProperty.chars .prependedConcatenationMark])

def regionalIndicators : CharClass :=
  ⟨["RI", "Regional_Indicator"], BinaryProperty.chars .regionalIndicator⟩

def zeroWidthJoiner : CharClass := ⟨["ZWJ"], .ofTable "200D"⟩

def carriageReturn : CharClass := ⟨["CR"], .ofTable "D"⟩

def lineFeed : CharClass := ⟨["LF"], .ofTable "A"⟩

/-! ## Graphemes -/

/-- The characters that stand alone: controls and formats, and code points that are kept for them. -/
def graphemeControls : CharSet :=
  (CharSet.unions [charsOf [.lineSeparator, .paragraphSeparator, .control], formatChars,
    GeneralCategory.unassignedPoints.inter (BinaryProperty.chars .defaultIgnorable)]).diff <|
    .unions [carriageReturn.chars, lineFeed.chars, graphemeExtend]

/-- The spacing marks that begin a grapheme of their own. -/
def separateMarks : CharSet := .ofTable
  "102B-102C 1038 1062-1064 1067-106D 1083 1087-108C 108F 109A-109C 1A61 1A63-1A64 AA7B AA7D
  11720-11721"

/-- The Korean syllables without a consonant at the end. -/
def openSyllables : CharSet := .ofTable "AC00-D788/1C"

/-- The classes by which the ends of graphemes are found. -/
def graphemeClasses : List CharClass :=
  [⟨["CN", "Control"], graphemeControls⟩,
    carriageReturn,
    ⟨["EX", "Extend"], extendingMarks⟩,
    ⟨["L"], .ofTable "1100-115F A960-A97C"⟩,
    lineFeed,
    ⟨["LV"], openSyllables⟩,
    ⟨["LVT"], CharSet.diff (.ofTable "AC00-D7A3") openSyllables⟩,
    ⟨["PP", "Prepend"], .union (BinaryProperty.chars .prependedConcatenationMark) <|
      .ofTable "D4E 111C2-111C3 113D1 1193F 11941 11A3A 11A84-11A89 11D46 11F02"⟩,
    regionalIndicators,
    ⟨["SM", "SpacingMark"], (spacingMarks.union (.ofTable "E33 EB3")).diff separateMarks⟩,
    ⟨["T"], .ofTable "11A8-11FF D7CB-D7FB"⟩,
    ⟨["V"], .ofTable "1160-11A7 D7B0-D7C6 16D63 16D67-16D6A"⟩,
    zeroWidthJoiner]

/-! ## Words -/

/-- The letters and marks of scripts that leave no space between words. -/
def unspacedLetters : CharSet := .ofTable
  "E01-E3A E40-E4E E81-E82 E84 E86-E8A E8C-EA3 EA5 EA7-EBD EC0-EC4 EC6 EC8-ECE EDC-EDF 1000-103F
  1050-108F 109A-109F 1780-17D3 17D7 17DC-17DD 1950-196D 1970-1974 1980-19AB 19B0-19C9 19DA
  19DE-19DF 1A20-1A5E 1A60-1A7C 1AA0-1AAD A9E0-A9EF A9FA-A9FE AA60-AAC2 AADB-AADF 11700-1171A
  1171D-1172B 1173A-1173B 1173F-11746"

def wordExtend : CharSet := extendingMarks.union spacingMarks

def katakana : CharSet :=
  (scriptChars "Katakana").union (.ofTable "3031-3035 309B-309C 30A0 30FC FF70")

def hebrewLetters : CharSet := (scriptChars "Hebrew").inter (charsOf [.otherLetter])

/-- The characters of numbers, the separator of thousands among them. -/
def numberChars : CharSet :=
  .unions [charsOf [.decimalNumber], prependedNumerals, .ofTable "66B-66C"]

/-- The letters of words that spaces stand between, and signs that are used like letters. -/
def spacedLetters : CharSet :=
  (alphabetic.union (.ofTable
    "B8 2C2-2C5 2D2-2D7 2DE-2DF 2E5-2EB 2ED 2EF-2FF 55A-55C 55E 58A 5F3 70F A708-A716 A720-A721
    A789-A78A AB5B")).diff <|
    .unions [BinaryProperty.chars .ideographic, katakana, unspacedLetters, scriptChars "Hiragana",
      wordExtend, hebrewLetters]

/-- The classes by which the ends of words are found. -/
def wordClasses : List CharClass :=
  [⟨["LE", "ALetter"], spacedLetters⟩,
    carriageReturn,
    ⟨["DQ", "Double_Quote"], .ofTable "22"⟩,
    ⟨["Extend"], wordExtend⟩,
    ⟨["EX", "ExtendNumLet"], (charsOf [.connectorPunctuation]).union (.ofTable "202F")⟩,
    ⟨["FO", "Format"], formatChars.diff (.ofTable "200B")⟩,
    ⟨["HL", "Hebrew_Letter"], hebrewLetters⟩,
    ⟨["KA", "Katakana"], katakana⟩,
    lineFeed,
    ⟨["ML", "MidLetter"], .ofTable "3A B7 387 55F 5F4 2027 FE13 FE55 FF1A"⟩,
    ⟨["MN", "MidNum"], .ofTable
      "2C 3B 37E 589 60C-60D 66C 7F8 2044 FE10 FE14 FE50 FE54 FF0C FF1B"⟩,
    ⟨["MB", "MidNumLet"], .ofTable "2E 2018-2019 2024 FE52 FF07 FF0E"⟩,
    ⟨["NL", "Newline"], .ofTable "B-C 85 2028-2029"⟩,
    ⟨["NU", "Numeric"], numberChars.diff (.ofTable "66C")⟩,
    regionalIndicators,
    ⟨["SQ", "Single_Quote"], .ofTable "27"⟩,
    ⟨["WSegSpace"], (charsOf [.spaceSeparator]).diff (.ofTable "A0 2007 202F")⟩,
    zeroWidthJoiner]

/-! ## Sentences -/

def sentenceExtend : CharSet :=
  .unions [graphemeExtend, charsOf [.spacingMark], zeroWidthJoiner.chars]

/-- The points that end a sentence, or an abbreviation. -/
def fullStops : CharSet := .ofTable "2E 2024 FE52 FF0E"

/-- The small letters. Those of the Georgian alphabet have no capitals in a sentence. -/
def smallLetters : CharSet :=
  lowercaseLetters.diff (graphemeExtend.union (.ofTable "10D0-10FA 10FD-10FF"))

def capitalLetters : CharSet :=
  ((charsOf [.titlecaseLetter]).union uppercaseLetters).diff (.ofTable "1C90-1CBA 1CBD-1CBF")

/-- The quotation marks, brackets and parentheses around a sentence or a part of it. -/
def enclosingMarks : CharSet :=
  (charsOf [.openPunctuation, .closePunctuation]).union <| .ofTable
    "22 27 AB BB 2018-2019 201B-201D 201F 2039-203A 275B-2760 2E00-2E0D 2E1C-2E1D 2E20-2E21
    1F676-1F678"

/-- The classes by which the ends of sentences are found. -/
def sentenceClasses : List CharClass :=
  [⟨["AT", "ATerm"], fullStops⟩,
    carriageReturn,
    ⟨["CL", "Close"], enclosingMarks.diff (sentenceTerminal.union fullStops)⟩,
    ⟨["EX", "Extend"], sentenceExtend⟩,
    ⟨["FO", "Format"], formatChars.union (.ofTable "70F")⟩,
    lineFeed,
    ⟨["LO", "Lower"], smallLetters⟩,
    ⟨["NU", "Numeric"], numberChars⟩,
    ⟨["LE", "OLetter"], (alphabetic.union (.ofTable "5F3")).diff
      (.unions [smallLetters, capitalLetters, sentenceExtend])⟩,
    ⟨["SE", "Sep"], .ofTable "85 2028-2029"⟩,
    ⟨["SC", "SContinue"], .ofTable
      "2C-2D 3A-3B 37E 55D 60C-60D 7F8 1802 1808 2013-2014 3001 FE10-FE11 FE13-FE14 FE31-FE32
      FE50-FE51 FE54-FE55 FE58 FE63 FF0C-FF0D FF1A-FF1B FF64"⟩,
    ⟨["SP", "Sp"], whiteSpace.diff (.ofTable "A D 85 2028-2029")⟩,
    ⟨["ST", "STerm"], sentenceTerminal.diff fullStops⟩,
    ⟨["UP", "Upper"], capitalLetters⟩]

end PubList.Unicode
