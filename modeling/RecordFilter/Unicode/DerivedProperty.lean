import RecordFilter.Unicode.Category
import RecordFilter.Unicode.Property

/-! # Derived properties

The yes-or-no properties of characters that follow from listed ones and from the general
categories: case, letters, identifiers, graphemes. After them come tests of single characters.

* `isWordChar`, `isAsciiWordChar`: the characters that words are made of.
* `isAlphabetic`, `isAlphanumeric`: the characters that names are made of.
* `isWhiteSpace`, `dropWhiteSpace`: white space. -/

namespace RecordFilter.CharSet

/-! ## Letters and digits -/

/-- The decimal digits of all scripts. -/
def decimalNumber : CharSet := ofCategory "Nd"

/-- Lower-case characters. -/
def lowercase : CharSet := (ofCategory "Ll").union otherLowercase

/-- Upper-case characters. -/
def uppercase : CharSet := (ofCategory "Lu").union otherUppercase

/-- Characters with a case. -/
def cased : CharSet := unions [lowercase, uppercase, ofCategory "Lt"]

/-- Characters that are skipped where the case of neighbours matters: marks, modifiers, and the
punctuation inside words. -/
def caseIgnorable : CharSet :=
  unions [
    ofCategories ["Mn", "Me", "Cf", "Lm", "Sk"],
    .ofGaps
      "27 1 6 1 b 1 7c 1 2cf 1 1d7 1 94 1 1a23 2 a 1 2 1 ddeb 1 3e 1 2 1 b1 1 6 1 b 1"]

/-- Letters and what is used like them. -/
def alphabetic : CharSet :=
  unions [lowercase, uppercase, ofCategories ["Lt", "Lm", "Lo", "Nl"], otherAlphabetic]

/-- Letters and numeric characters. -/
def alphanumeric : CharSet := alphabetic.union (ofCategory "N")

/-- The characters that words are made of: letters, combining marks, decimal digits, connecting
punctuation such as the underscore, and the two characters that control joining. -/
def word : CharSet := unions [alphabetic, ofCategories ["M", "Nd", "Pc"], joinControl]

/-- Mathematical characters. -/
def math : CharSet := (ofCategory "Sm").union otherMath

/-- Characters that change under some mapping of case. -/
def changesWhenCasemapped : CharSet :=
  unions [changesWhenLowercased, changesWhenTitlecased, changesWhenUppercased]

/-! ## Identifiers -/

/-- Characters that patterns keep for themselves. -/
def reservedForPatterns : CharSet := patternSyntax.union patternWhiteSpace

/-- Characters that may start an identifier. -/
def idStart : CharSet :=
  (unions [ofCategories ["L", "Nl"], otherIdStart]).difference reservedForPatterns

/-- Characters that may go on in an identifier. -/
def idContinue : CharSet :=
  (unions [idStart, ofCategories ["Mn", "Mc", "Nd", "Pc"], otherIdContinue]).difference
    reservedForPatterns

/-- Characters that compatibility mappings turn into text that does not start an identifier. -/
def unstableIdStart : CharSet :=
  .ofGaps
    "37a 1 ab8 1 7f 1 21e7 2 cbc1 6 196 2 74 1 1 1 1 1 1 1 1 1 1 1 1 1 1 1 11f 2"

/-- Characters that compatibility mappings turn into text that does not go on in an identifier. -/
def unstableIdContinue : CharSet :=
  .ofGaps
    "37a 1 2d20 2 cbc1 6 196 2 74 1 1 1 1 1 1 1 1 1 1 1 1 1 1 1"

/-- Characters that may start an identifier before and after compatibility mappings. -/
def xidStart : CharSet := idStart.difference unstableIdStart

/-- Characters that may go on in an identifier before and after compatibility mappings. -/
def xidContinue : CharSet := idContinue.difference unstableIdContinue

/-! ## Display and graphemes -/

/-- Characters that are ignored where they cannot be shown. -/
def defaultIgnorableCodePoint : CharSet :=
  (unions [otherDefaultIgnorableCodePoint, ofCategory "Cf", variationSelector]).difference <|
    unions [whiteSpace, ofRange 0xfff9 0xfffb, ofRange 0x13430 0x1343f,
      prependedConcatenationMark]

/-- Characters that extend a grapheme. -/
def graphemeExtend : CharSet := (ofCategories ["Me", "Mn"]).union otherGraphemeExtend

/-- Characters that can be the base of a grapheme. -/
def graphemeBase : CharSet :=
  (ofCategories ["L", "M", "N", "P", "S", "Zs"]).difference graphemeExtend

end RecordFilter.CharSet

/-! ## Tests of characters -/

namespace RecordFilter

/-- Whether the character can be part of a word. -/
def isWordChar (char : Char) : Bool := CharSet.word.contains char

/-- Whether the character can be part of a word of ASCII characters. -/
def isAsciiWordChar (char : Char) : Bool := char.isAlphanum || char = '_'

/-- Whether the character is a letter or used like one. -/
def isAlphabetic (char : Char) : Bool := CharSet.alphabetic.contains char

/-- Whether the character is a letter or numeric. -/
def isAlphanumeric (char : Char) : Bool := CharSet.alphanumeric.contains char

/-- Whether the character is white space: those with the property `White_Space`. -/
def isWhiteSpace (char : Char) : Bool :=
  let point := char.toNat
  (0x9 ≤ point && point ≤ 0xd) || point == 0x20 || point == 0x85 || point == 0xa0
    || point == 0x1680 || (0x2000 ≤ point && point ≤ 0x200a) || point == 0x2028
    || point == 0x2029 || point == 0x202f || point == 0x205f || point == 0x3000

/-- A digit is not white space. -/
theorem isWhiteSpace_of_isDigit {char : Char} (digit : char.isDigit = true) :
    isWhiteSpace char = false := by
  simp only [Char.isDigit, ge_iff_le, Bool.and_eq_true, decide_eq_true_eq] at digit
  obtain ⟨above, below⟩ := digit
  rw [UInt32.le_iff_toNat_le] at above below
  have low : 48 ≤ char.toNat := above
  have high : char.toNat ≤ 57 := below
  simp only [isWhiteSpace, Bool.or_eq_false_iff, Bool.and_eq_false_iff, decide_eq_false_iff_not,
    beq_eq_false_iff_ne]
  omega

/-- Drop the white space at the start of a text. -/
def dropWhiteSpace (text : List Char) : List Char := text.dropWhile isWhiteSpace

end RecordFilter
