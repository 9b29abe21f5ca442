import RecordFilter.Unicode.DerivedProperty

/-! # Text segmentation

The classes of characters that decide where a grapheme, a word or a sentence ends.

* `CharSet.ofGraphemeBreak?`, `CharSet.ofWordBreak?`, `CharSet.ofSentenceBreak?`: the characters of
  a class, by its name. -/

namespace RecordFilter.CharSet

/-- The characters that tag the one before. -/
def tagCharacters : CharSet := ofRange 0xe0020 0xe007f

/-- The character that joins the ones beside it. -/
def zeroWidthJoiner : CharSet := single '\u200d'

/-! ## Graphemes -/

/-- The leading consonants of Korean syllables. -/
def hangulLeading : CharSet :=
  .ofGaps
    "1100 60 9800 1d"

/-- The vowels of Korean syllables, and vowels that join in the same way. -/
def hangulVowel : CharSet :=
  .ofGaps
    "1160 48 c608 17 959c 1 3 4"

/-- The trailing consonants of Korean syllables. -/
def hangulTrailing : CharSet :=
  .ofGaps
    "11a8 58 c5cb 31"

/-- The Korean syllables. -/
def hangulSyllables : CharSet := ofRange 0xac00 0xd7a3

/-- The Korean syllables without a trailing consonant. -/
def hangulOpenSyllables : CharSet :=
  ofPoints ((List.range 399).map fun index => 0xac00 + 28 * index)

/-- Spacing marks that start a grapheme. -/
def separateSpacingMarks : CharSet :=
  .ofGaps
    "102b 2 b 1 29 3 2 7 15 1 3 6 2 1 a 3 9c4 1 1 2 9016 1 1 1 6ca2 2"

/-- Letters that belong to the grapheme after them. -/
def prependedLetters : CharSet :=
  .ofGaps
    "d4e 1 10473 2 20d 1 56d 1 1 1 f8 1 49 6 2bc 1 1bb 1"

/-- The class of graphemes with the given name. -/
def ofGraphemeBreak? : String → Option CharSet
  | "cn" | "control" =>
      let unassigned := (ofCategory "Cn").intersection defaultIgnorableCodePoint
      some <| (((ofCategories ["Zl", "Zp", "Cc", "Cf"]).union unassigned).difference
        graphemeExtend).difference <|
          unions [prependedConcatenationMark, single '\r', single '\n', zeroWidthJoiner]
  | "cr" => some (single '\r')
  | "ex" | "extend" => some (graphemeExtend.union emojiModifier)
  | "l" => some hangulLeading
  | "lf" => some (single '\n')
  | "lv" => some hangulOpenSyllables
  | "lvt" => some (hangulSyllables.difference hangulOpenSyllables)
  | "pp" | "prepend" => some (prependedConcatenationMark.union prependedLetters)
  | "ri" | "regionalindicator" => some regionalIndicator
  | "sm" | "spacingmark" =>
      let marks := unions [ofCategory "Mc", single '\u0e33', single '\u0eb3']
      some ((marks.difference graphemeExtend).difference separateSpacingMarks)
  | "t" => some hangulTrailing
  | "v" => some hangulVowel
  | "zwj" => some zeroWidthJoiner
  | _ => none

/-! ## Words -/

/-- Letters of words. -/
def wordLetters : CharSet :=
  .ofGaps
    "41 1a 6 1a 2f 1 a 1 4 1 5 17 1 1f 1 1e0 6 22 70 5 1 2 2 4 1 1 6 1 1 3 1 1 1 14 1 53 1 8b 8 a6
     1 26 2 4 1 1 1 29 1 1 68 1 2c 2b 23 2 1 63 1 1 f 2 7 2 a 3 2 1 10 1 1 1e 1d 59 b 1 18 21 9 2
     4 1 5 16 4 1 9 1 3 1 17 19 7 b 5 18 1 6 11 2a 3a 36 3 1 12 1 7 a f 10 4 8 2 2 2 16 1 7 1 1 3
     4 3 1 10 1 d 2 1 3 e 2 a 1 8 6 4 2 2 16 1 7 1 2 1 2 1 2 1f 4 1 1 13 3 10 9 1 3 1 16 1 7 1 2 1
     5 3 1 12 1 f 2 17 1 b 8 2 2 2 16 1 7 1 2 1 5 3 1 1e 2 1 3 f 1 11 1 1 6 3 3 1 4 3 2 1 1 1 2 3
     2 3 3 3 c 16 1 34 8 1 3 1 17 1 10 3 1 1a 3 2 1 2 2 1e 1 4 8 1 3 1 17 1 a 1 5 3 1 1f 2 1 2 f 2
     11 9 1 3 1 29 2 1 10 1 5 3 8 3 18 6 5 12 3 18 1 9 1 1 2 7 139 1 3f 8 1 24 1b 5 113 26 1 1 5 1
     2 2b 1 14d 1 4 2 7 1 1 1 4 2 29 1 4 2 21 1 4 2 7 1 1 1 4 2 f 1 39 1 4 2 43 25 10 10 56 2 6 3
     26c 2 11 1 1a 5 4b 3 b 7 12 d 13 e 12 e d 1 3 af 59 7 5 2 22 1 1 5 46 a 1f e1 17 ee 2f 11 8
     36 1e d 2 a 2c 1a 24 29 3 a 24 2 b 5 2b 2 3 29 4 1 6 1 2 3 1 5 c0 40 116 2 6 2 26 2 6 2 8 1 1
     1 1 1 1 1 1f 2 35 1 7 1 1 3 3 1 7 3 4 2 6 4 d 5 3 1 7 74 1 d 1 10 d 65 1 4 1 2 a 1 1 3 5 6 1
     1 1 1 1 1 4 1 b 2 4 5 5 4 1 11 29 32d 34 716 e5 6 4 3 2 c 26 1 1 5 1 2 38 7 1 10 17 9 7 1 7 1
     7 1 7 1 7 1 7 1 7 1 7 50 1 1d5 1 35 2 c8 2b 1 5e 11 20 6e40 48d 43 2e 2 10d 3 10 a 2 14 2f 10
     1f 2 50 18 c6 2 2 1 1 1 8 15 10 1 3 1 4 1 17 1d 34 e 32 3e 6 3 1 1 2 b 1c a 17 19 1d 7 2f 1c
     1 30 29 17 3 1 8 94 b 7 3 c 6 2 6 2 6 9 7 1 7 1 3a 6 73 1d 2ba4 c 17 4 31 2304 7 c 5 38 62 21
     16b 12 40 2 36 28 c 74 5 1 87 24 1a 6 1a 45 1f 3 6 2 6 2 6 2 3 23 c 1 1a 1 13 1 2 1 f 2 e 22
     7b 45 35 10b 1d 3 31 2f 20 d 1e 5 26 a 1e 2 24 4 8 1 5 2a 9e 12 24 4 24 4 28 8 34 c b 1 f 1 7
     1 2 1 b 1 f 1 7 1 2 3 34 c 137 9 16 a 8 18 6 1 2a 1 9 45 6 2 1 1 2c 1 2 3 1 2 17 a 17 9 1f 41
     13 1 2 a 16 a 1a 46 38 6 2 40 1 f 4 1 3 1 1d 2a 1d 3 1d 23 8 1 1c 1b 36 a 16 a 13 d 12 6e 49
     37 33 d 33 d 24 26 1c 9 17 fa 2a 6 2 10 3 3b 1d a 1 8 16 2a 12 2e 15 1b 17 c 35 39 2 2 1 d 2d
     20 19 1a 24 1d 1 2 1 8 23 3 1 c 30 e 4 15 1 1 1 23 12 1 19 13 2 3f 7 1 1 1 4 1 f 1 a 7 2f 26
     8 2 2 2 16 1 7 1 2 1 5 3 1 12 1 c 5 1e a 1 1 2 1 1 26 1 1 19 1 1 1 2c 35 12 4 14 3 1e 30 14 2
     1 1 b8 2f 29 4 24 30 14 1 3b 2b d 1 147 2c 74 40 1f 8 2 1 2 8 1 2 1 18 f 1 1 1 5e 8 2 27 10 1
     1 1 1c 1 a 28 7 1 15 1 b 2e 13 1 12 49 c7 21 1f 9 1 25 11 1 31 1e 70 7 1 2 1 26 15 1 19 6 1 2
     1 20 e 1 147 13 f 1 1 d 1 22 7c 1 4f 39a 66 6f 11 c4 a4c 61 f 430 11 6 19 f9b 5 247 1ab9 1e
     6e2 239 7 1f 11 4f 11 1e 12 30 10 4 1f 15 5 13 1b0 2d d3 40 80 4b 5 1 42 d 40 2 1 1 4c1c 6b 5
     d 3 9 7 a 1766 55 1 47 1 2 2 1 2 2 2 4 1 c 1 1 1 7 1 41 1 4 2 8 1 7 1 1c 1 4 1 5 1 1 3 7 1
     154 2 19 1 19 1 1f 1 19 1 1f 1 19 1 1f 1 19 1 1f 1 19 1 8 734 1f 6 6 105 3e 92 2d a 7 10 1
     141 1e 12 2c 1e4 1c e4 1e 2 1 1ef 7 1 4 1 2 1 f 1 c5 3b 44 7 1 4b4 4 1 1b 1 2 1 1 2 1 1 a 1 4
     1 1 1 1 6 1 4 1 1 1 1 1 1 3 1 2 1 1 2 1 1 1 1 1 1 1 1 1 1 2 1 1 2 4 1 7 1 4 1 4 1 1 1 a 1 11
     5 3 1 5 1 11 274 1a 6 1a 6 1a"

/-- Hebrew letters. -/
def hebrewLetters : CharSet :=
  .ofGaps
    "5d0 1b 4 4 f52a 1 1 a 1 d 1 5 1 1 1 2 1 2 1 a"

/-- Katakana, with the marks that are used with them. -/
def katakanaLetters : CharSet :=
  .ofGaps
    "3031 5 65 2 3 5b 1 4 f0 10 d0 2f 1 58 cc0e 38 b052 4 1 7 1 2 1 1 11f 3 32 1 e 4"

/-- Marks inside words. -/
def midLetter : CharSet :=
  .ofGaps
    "3a 1 7c 1 2cf 1 1d7 1 94 1 1a32 1 ddeb 1 41 1 c4 1"

/-- Marks inside numbers. -/
def midNumber : CharSet :=
  .ofGaps
    "2c 1 e 1 342 1 20a 1 82 2 5e 1 18b 1 184b 1 ddcb 1 3 1 3b 1 3 1 b7 1 e 1"

/-- Marks inside words and numbers. -/
def midNumberLetter : CharSet :=
  .ofGaps
    "2e 1 1fe9 2 a 1 de2d 1 b4 1 6 1"

/-- Spaces between words. -/
def wordSpaces : CharSet :=
  .ofGaps
    "20 1 165f 1 97f 7 1 3 54 1 fa0 1"

/-- The class of words with the given name. -/
def ofWordBreak? : String → Option CharSet
  | "cr" => some (single '\r')
  | "dq" | "doublequote" => some (ofPoints [0x22])
  | "ex" | "extendnumlet" => some ((ofCategory "Pc").union (single '\u202f'))
  | "extend" => some (unions [graphemeExtend, ofCategory "Mc", emojiModifier])
  | "fo" | "format" =>
      some (((ofCategory "Cf").difference (ofRange 0x200b 0x200d)).difference tagCharacters)
  | "hl" | "hebrewletter" => some hebrewLetters
  | "ka" | "katakana" => some katakanaLetters
  | "le" | "aletter" => some wordLetters
  | "lf" => some (single '\n')
  | "mb" | "midnumlet" => some midNumberLetter
  | "ml" | "midletter" => some midLetter
  | "mn" | "midnum" => some midNumber
  | "nl" | "newline" =>
      some (unions [ofRange 0xb 0xc, single '\u0085', ofRange 0x2028 0x2029])
  | "nu" | "numeric" => some (decimalNumber.union (single '\u066b'))
  | "ri" | "regionalindicator" => some regionalIndicator
  | "sq" | "singlequote" => some (ofPoints [0x27])
  | "wsegspace" => some wordSpaces
  | "zwj" => some zeroWidthJoiner
  | _ => none

/-! ## Sentences -/

/-- Georgian letters without case in sentences, though they have an upper case. -/
def georgianLower : CharSet := (ofRange 0x10d0 0x10fa).union (ofRange 0x10fd 0x10ff)

/-- The upper case of Georgian letters. -/
def georgianUpper : CharSet := (ofRange 0x1c90 0x1cba).union (ofRange 0x1cbd 0x1cbf)

/-- Lower-case characters of sentences. -/
def sentenceLower : CharSet := (lowercase.difference graphemeExtend).difference georgianLower

/-- Upper-case characters of sentences. -/
def sentenceUpper : CharSet := (uppercase.union (ofCategory "Lt")).difference georgianUpper

/-- Marks that extend the character before them. -/
def sentenceExtend : CharSet := unions [graphemeExtend, ofCategory "Mc", zeroWidthJoiner]

/-- Full stops, which may end a sentence. -/
def fullStops : CharSet :=
  unions [single '.', single '\u2024', single '\ufe52', single '\uff0e']

/-- Closing marks besides brackets and quotation marks in pairs. -/
def otherClosing : CharSet :=
  .ofGaps
    "22 1 4 1 2733 6 69f 2 4 3 2 1 1c86a 3"

/-- Marks after which a sentence goes on. -/
def sentenceContinue : CharSet :=
  .ofGaps
    "2c 2 c 1 522 1 ae 2 1ea 1 1009 1 5 1 80a 2 fec 1 ce0e 2 1 1 1d 2 1d 2 3 1 2 1 a 1 a8 2 c 1 49
     1"

/-- The class of sentences with the given name. -/
def ofSentenceBreak? : String → Option CharSet
  | "at" | "aterm" => some fullStops
  | "cl" | "close" => some ((ofCategories ["Ps", "Pe", "Pi", "Pf"]).union otherClosing)
  | "cr" => some (single '\r')
  | "ex" | "extend" => some sentenceExtend
  | "fo" | "format" =>
      some (((ofCategory "Cf").difference (ofRange 0x200c 0x200d)).difference tagCharacters)
  | "le" | "oletter" =>
      some ((((alphabetic.union (single '\u05f3')).difference sentenceLower).difference
        sentenceUpper).difference sentenceExtend)
  | "lf" => some (single '\n')
  | "lo" | "lower" => some sentenceLower
  | "nu" | "numeric" => some (decimalNumber.union (ofRange 0x66b 0x66c))
  | "sc" | "scontinue" => some sentenceContinue
  | "se" | "sep" => some ((single '\u0085').union (ofRange 0x2028 0x2029))
  | "sp" => some (whiteSpace.difference
      (unions [single '\n', single '\r', single '\u0085', ofRange 0x2028 0x2029]))
  | "st" | "sterm" => some (sentenceTerminal.difference fullStops)
  | "up" | "upper" => some sentenceUpper
  | _ => none

end RecordFilter.CharSet
