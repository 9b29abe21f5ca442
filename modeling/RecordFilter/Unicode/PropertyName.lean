import RecordFilter.Unicode.Age
import RecordFilter.Unicode.Script
import RecordFilter.Unicode.Segmentation

/-! # Sets by the names of properties

Sets of characters are named by a property, or by a property with a value. In names case, spaces,
underscores, hyphens, an initial "is" and characters outside ASCII do not matter.

* `looseName`: what matters of a name.
* `CharSet.ofPropertyName?`: the characters with a yes-or-no property, of a general category or of
  a script.
* `CharSet.ofPropertyValue?`: the characters with a value of a property. -/

namespace RecordFilter

/-- What matters of a name. The name that only consists of "is" and one `c` keeps all three
letters: it abbreviates a property of its own. -/
def looseName (name : List Char) : String :=
  let letters (part : List Char) : List Char :=
    (part.filter fun char => char.toNat < 0x80 && !" _-".contains char).map Char.toLower
  match name with
  | first :: second :: rest =>
      if first.toLower = 'i' ∧ second.toLower = 's' then
        if letters rest = ['c'] then "isc" else String.ofList (letters rest)
      else String.ofList (letters name)
  | _ => String.ofList (letters name)

namespace CharSet

/-- The characters with a yes-or-no property. -/
def ofBinaryProperty? : String → Option CharSet
  | "alpha" | "alphabetic" => some alphabetic
  | "ahex" | "asciihexdigit" => some asciiHexDigit
  | "bidic" | "bidicontrol" => some bidiControl
  | "bidim" | "bidimirrored" => some bidiMirrored
  | "cased" => some cased
  | "ci" | "caseignorable" => some caseIgnorable
  | "cwcf" | "changeswhencasefolded" => some changesWhenCasefolded
  | "cwcm" | "changeswhencasemapped" => some changesWhenCasemapped
  | "cwl" | "changeswhenlowercased" => some changesWhenLowercased
  | "cwt" | "changeswhentitlecased" => some changesWhenTitlecased
  | "cwu" | "changeswhenuppercased" => some changesWhenUppercased
  | "dash" => some dash
  | "di" | "defaultignorablecodepoint" => some defaultIgnorableCodePoint
  | "dep" | "deprecated" => some deprecated
  | "dia" | "diacritic" => some diacritic
  | "emoji" => some emoji
  | "ecomp" | "emojicomponent" => some emojiComponent
  | "emod" | "emojimodifier" => some emojiModifier
  | "ebase" | "emojimodifierbase" => some emojiModifierBase
  | "epres" | "emojipresentation" => some emojiPresentation
  | "extpict" | "extendedpictographic" => some extendedPictographic
  | "ext" | "extender" => some extender
  | "grbase" | "graphemebase" => some graphemeBase
  | "grext" | "graphemeextend" => some graphemeExtend
  | "hex" | "hexdigit" => some hexDigit
  | "hyphen" => some hyphen
  | "idcompatmathcontinue" => some idCompatMathContinue
  | "idcompatmathstart" => some idCompatMathStart
  | "idc" | "idcontinue" => some idContinue
  | "ideo" | "ideographic" => some ideographic
  | "idsb" | "idsbinaryoperator" => some idsBinaryOperator
  | "ids" | "idstart" => some idStart
  | "idst" | "idstrinaryoperator" => some idsTrinaryOperator
  | "idsu" | "idsunaryoperator" => some idsUnaryOperator
  | "joinc" | "joincontrol" => some joinControl
  | "loe" | "logicalorderexception" => some logicalOrderException
  | "lower" | "lowercase" => some lowercase
  | "math" => some math
  | "mcm" | "modifiercombiningmark" => some modifierCombiningMark
  | "nchar" | "noncharactercodepoint" => some noncharacterCodePoint
  | "oalpha" | "otheralphabetic" => some otherAlphabetic
  | "odi" | "otherdefaultignorablecodepoint" => some otherDefaultIgnorableCodePoint
  | "ogrext" | "othergraphemeextend" => some otherGraphemeExtend
  | "oidc" | "otheridcontinue" => some otherIdContinue
  | "oids" | "otheridstart" => some otherIdStart
  | "olower" | "otherlowercase" => some otherLowercase
  | "omath" | "othermath" => some otherMath
  | "oupper" | "otheruppercase" => some otherUppercase
  | "patsyn" | "patternsyntax" => some patternSyntax
  | "patws" | "patternwhitespace" => some patternWhiteSpace
  | "pcm" | "prependedconcatenationmark" => some prependedConcatenationMark
  | "qmark" | "quotationmark" => some quotationMark
  | "radical" => some radical
  | "ri" | "regionalindicator" => some regionalIndicator
  | "sterm" | "sentenceterminal" => some sentenceTerminal
  | "sd" | "softdotted" => some softDotted
  | "term" | "terminalpunctuation" => some terminalPunctuation
  | "uideo" | "unifiedideograph" => some unifiedIdeograph
  | "upper" | "uppercase" => some uppercase
  | "vs" | "variationselector" => some variationSelector
  | "space" | "whitespace" | "wspace" => some whiteSpace
  | "xidc" | "xidcontinue" => some xidContinue
  | "xids" | "xidstart" => some xidStart
  | _ => none

/-- The characters of a general category, and three sets that are named beside them. -/
def ofCategoryName? : String → Option CharSet
  | "any" => some every
  | "ascii" => some (ofRange 0 0x7f)
  | "assigned" => some (ofCategory "Cn").complement
  | name => (categoryCode? name).map ofCategory

/-- The characters that a single name stands for. A property comes before a category, and a
category before a script. -/
def ofPropertyName? (name : String) : Option CharSet :=
  ofBinaryProperty? name <|> ofCategoryName? name <|> ofScript? name

/-- The characters with a value of a property. -/
def ofPropertyValue? (value : String) : String → Option CharSet
  | "gc" | "generalcategory" => ofCategoryName? value
  | "sc" | "script" => ofScript? value
  | "scx" | "scriptextensions" => ofScriptExtensions? value
  | "age" => ofAge? value
  | "gcb" | "graphemeclusterbreak" => ofGraphemeBreak? value
  | "wb" | "wordbreak" => ofWordBreak? value
  | "sb" | "sentencebreak" => ofSentenceBreak? value
  | _ => none

end CharSet

end RecordFilter
