import Gherkin.Pattern.CharSet
import Gherkin.Unicode.PropertyTable

/-!
# Properties that hold of a character or not

The Boolean properties of Unicode 15.0. Some are tables of their own; the others are put together
from tables as the standard derives them.
-/

namespace Gherkin.ClassName

open Unicode CategoryTable PropertyTable

/-! ## Case -/

/-- Characters that have a case. -/
def cased : CharSet :=
  .tables (Property.lowercase ++ Property.uppercase ++ [titlecaseLetter])

/-- Characters that do not end a word when its case is mapped. -/
def caseIgnorable : CharSet :=
  .tables
    [nonspacingMark, enclosingMark, format, modifierLetter, modifierSymbol, midLetter,
     midNumberOrLetter, [(0x27, 0x27)]]

/-- Characters that some mapping of case changes. -/
def changesWhenCasemapped : CharSet :=
  .tables [CaseFold.folding, CaseFold.folds, fullyMapped]

/-- Characters that folding changes. One that decomposes into the letter that it folds to does not
count as changed. -/
def changesWhenCasefolded : CharSet :=
  .diff (.tables [CaseFold.folding, fullyFolded]) (.ranges [(0x1FBE, 0x1FBE)])

/-- Characters that change in lower case. -/
def changesWhenLowercased : CharSet :=
  .inter changesWhenCasemapped (.tables (Property.uppercase ++ [titlecaseLetter]))

/-- Characters that change in upper case. -/
def changesWhenUppercased : CharSet :=
  .diff changesWhenCasemapped (.tables Property.uppercase)

/-- The small letters of Georgian, which stand at the beginning of a title as they are. -/
def georgianSmall : Ranges := [(0x10D0, 0x10FA), (0x10FD, 0x10FF)]

/-- Characters that change at the beginning of a title: those that change in upper case, except
that the letters of two characters have a case of their own for it. -/
def changesWhenTitlecased : CharSet :=
  .union (.diff changesWhenUppercased (.tables [titlecaseLetter, georgianSmall]))
    (.ranges [(0x1C4, 0x1C4), (0x1C7, 0x1C7), (0x1CA, 0x1CA), (0x1F1, 0x1F1)])

/-! ## Names -/

/-- Characters that names leave to the syntax around them. -/
def patternReserved : CharSet := .tables [patternSyntax, patternWhiteSpace]

/-- Characters that may begin a name. -/
def idStart : CharSet :=
  .diff (.tables (Property.letters ++ [letterNumber, otherIdStart])) patternReserved

/-- Characters that may stand within a name. -/
def idContinue : CharSet :=
  .union idStart
    (.tables
      [nonspacingMark, spacingMark, decimalNumber, connectorPunctuation, otherIdContinue])

/-- As `idStart`, with names that stay names when they are normalized. -/
def xidStart : CharSet :=
  .diff idStart (.tables [decomposingName, [(0xE33, 0xE33), (0xEB3, 0xEB3), (0xFF9E, 0xFF9F)]])

/-- As `idContinue`, with names that stay names when they are normalized. -/
def xidContinue : CharSet := .diff idContinue (.ranges decomposingName)

/-! ## Clusters -/

/-- Characters that go with the one before them. -/
def graphemeExtend : CharSet :=
  .tables [nonspacingMark, enclosingMark, Property.otherExtending]

/-- Visible characters that go with no other. -/
def graphemeBase : CharSet :=
  .diff
    (.tables
      (Property.letters ++ Property.marks ++ Property.numbers ++ Property.punctuation
        ++ Property.symbols ++ [spaceSeparator]))
    graphemeExtend

/-- The five tones of skin. -/
def emojiModifier : Ranges := [(0x1F3FB, 0x1F3FF)]

/-- The letters that flags are made of. -/
def regionalIndicator : Ranges := [(0x1F1E6, 0x1F1FF)]

/-! ## The names of all properties -/

/-- Properties that hold of a character or not, under the names they answer to. -/
def properties : List (List String × CharSet) :=
  [(["ahex", "asciihexdigit"], .ranges [(0x30, 0x39), (0x41, 0x46), (0x61, 0x66)]),
   (["alpha", "alphabetic"], .tables Property.alphabetic),
   (["bidic", "bidicontrol"], .ranges bidiControl),
   (["cased"], cased),
   (["ci", "caseignorable"], caseIgnorable),
   (["cwcf", "changeswhencasefolded"], changesWhenCasefolded),
   (["cwcm", "changeswhencasemapped"], changesWhenCasemapped),
   (["cwl", "changeswhenlowercased"], changesWhenLowercased),
   (["cwt", "changeswhentitlecased"], changesWhenTitlecased),
   (["cwu", "changeswhenuppercased"], changesWhenUppercased),
   (["dash"],
    .tables
      [dashPunctuation, [(0x2053, 0x2053), (0x207B, 0x207B), (0x208B, 0x208B), (0x2212, 0x2212)]]),
   (["dep", "deprecated"], .ranges deprecated),
   (["di", "defaultignorablecodepoint"], .ranges defaultIgnorable),
   (["dia", "diacritic"], .ranges diacritic),
   (["ebase", "emojimodifierbase"], .ranges emojiModifierBase),
   (["ecomp", "emojicomponent"], .ranges emojiComponent),
   (["emod", "emojimodifier"], .ranges emojiModifier),
   (["emoji"], .ranges Property.emoji),
   (["epres", "emojipresentation"], .ranges emojiPresentation),
   (["ext", "extender"], .ranges extender),
   (["extpict", "extendedpictographic"], .ranges extendedPictographic),
   (["grbase", "graphemebase"], graphemeBase),
   (["grext", "graphemeextend"], graphemeExtend),
   (["grlink", "graphemelink"], .ranges virama),
   (["hex", "hexdigit"], .ranges Property.hexDigit),
   (["hyphen"], .ranges hyphen),
   (["idc", "idcontinue"], idContinue),
   (["ideo", "ideographic"], .ranges ideographic),
   (["ids", "idstart"], idStart),
   (["idsb", "idsbinaryoperator"], .ranges [(0x2FF0, 0x2FF1), (0x2FF4, 0x2FFB)]),
   (["idst", "idstrinaryoperator"], .ranges [(0x2FF2, 0x2FF3)]),
   (["joinc", "joincontrol"], .ranges [(0x200C, 0x200D)]),
   (["loe", "logicalorderexception"], .ranges logicalOrderException),
   (["lower", "lowercase"], .tables Property.lowercase),
   (["math"], .tables [mathSymbol, otherMath]),
   (["nchar", "noncharactercodepoint"], .ranges noncharacter),
   (["oalpha", "otheralphabetic"], .tables [Property.enclosedLetters, Property.alphabeticMarks]),
   (["odi", "otherdefaultignorablecodepoint"],
    .diff (.ranges defaultIgnorable) (.tables [format, variationSelector])),
   (["ogrext", "othergraphemeextend"], .ranges Property.otherExtending),
   (["oidc", "otheridcontinue"], .ranges otherIdContinue),
   (["oids", "otheridstart"], .ranges otherIdStart),
   (["olower", "otherlowercase"], .ranges Property.otherLowercase),
   (["omath", "othermath"], .ranges otherMath),
   (["oupper", "otheruppercase"], .diff (.tables Property.uppercase) (.ranges uppercaseLetter)),
   (["patsyn", "patternsyntax"], .ranges patternSyntax),
   (["patws", "patternwhitespace"], .ranges patternWhiteSpace),
   (["pcm", "prependedconcatenationmark"], .ranges prependedMark),
   (["qmark", "quotationmark"], .ranges quotationMark),
   (["radical"], .ranges radical),
   (["ri", "regionalindicator"], .ranges regionalIndicator),
   (["sd", "softdotted"], .ranges softDotted),
   (["space", "whitespace", "wspace"], .space),
   (["sterm", "sentenceterminal"], .ranges sentenceTerminal),
   (["term", "terminalpunctuation"], .tables [sentenceTerminal, phraseTerminal]),
   (["uideo", "unifiedideograph"], .ranges unifiedIdeograph),
   (["upper", "uppercase"], .tables Property.uppercase),
   (["vs", "variationselector"], .ranges variationSelector),
   (["xidc", "xidcontinue"], xidContinue),
   (["xids", "xidstart"], xidStart)]

end Gherkin.ClassName
