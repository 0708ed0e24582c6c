import Gherkin.Pattern.ClassName.Property
import Gherkin.Unicode.ScriptTable

/-!
# Classes of characters for finding boundaries

Unicode 15.0 finds the boundaries of clusters, words and sentences by a class of each character. The
classes of one kind exclude each other; the characters that stand in none of them have no class that
a pattern may name.
-/

namespace Gherkin.ClassName

open Unicode CategoryTable PropertyTable

/-- The characters of the script with the short name. -/
def ofScript (short : String) : CharSet :=
  .tables ((ScriptTable.named.filter fun entry => entry.1.contains short).map (·.2))

/-- The two characters that join others or keep them apart. -/
def joiners : Ranges := [(0x200C, 0x200D)]

/-! ## Clusters -/

/-- Syllables of Hangul without a final consonant. -/
def openSyllable : Ranges :=
  (List.range 399).map fun k => (0xAC00 + 28 * k, 0xAC00 + 28 * k)

/-- Characters that no cluster holds but their own. -/
def clusterControl : CharSet :=
  .diff
    (.union (.tables [control, format, lineSeparator, paragraphSeparator])
      (.diff (.ranges defaultIgnorable) (.tables Property.assigned)))
    (.union (.tables [[(0xA, 0xA), (0xD, 0xD)], joiners, prependedMark]) graphemeExtend)

/-- Characters that go with the cluster before them. -/
def clusterExtend : CharSet := .union graphemeExtend (.ranges emojiModifier)

/-- Spacing marks that go with the cluster before them. -/
def clusterMark : CharSet :=
  .union (.diff (.ranges spacingMark) (.union graphemeExtend (.ranges visibleVowel)))
    (.ranges [(0xE33, 0xE33), (0xEB3, 0xEB3)])

/-- The classes for boundaries of clusters, under the names they answer to. -/
def clusterClasses : List (List String × CharSet) :=
  [(["cn", "control"], clusterControl),
   (["cr"], .singleton '\r'),
   (["ex", "extend"], clusterExtend),
   (["l"], .ranges [(0x1100, 0x115F), (0xA960, 0xA97C)]),
   (["lf"], .singleton '\n'),
   (["lv"], .ranges openSyllable),
   (["lvt"], .diff (.ranges [(0xAC00, 0xD7A3)]) (.ranges openSyllable)),
   (["pp", "prepend"], .tables [prependedMark, precedingConsonant]),
   (["ri", "regionalindicator"], .ranges regionalIndicator),
   (["sm", "spacingmark"], clusterMark),
   (["t"], .ranges [(0x11A8, 0x11FF), (0xD7CB, 0xD7FB)]),
   (["v"], .ranges [(0x1160, 0x11A7), (0xD7B0, 0xD7C6)]),
   (["zwj"], .ranges [(0x200D, 0x200D)])]

/-! ## Words -/

/-- Characters that go with the one before them in a word. -/
def wordExtend : CharSet := .union clusterExtend (.ranges spacingMark)

/-- Letters of Hebrew, between which a quotation mark may stand within a word. -/
def hebrewLetter : CharSet := .inter (ofScript "hebr") (.ranges otherLetter)

/-- Letters of Katakana, and the marks that are written with them. -/
def katakana : CharSet :=
  .union (ofScript "kana")
    (.ranges
      [(0x3031, 0x3035), (0x309B, 0x309C), (0x30A0, 0x30A0), (0x30FC, 0x30FC), (0xFF70, 0xFF70)])

/-- Letters of scripts that separate words by blanks. -/
def wordLetter : CharSet :=
  .union
    (.diff (.tables Property.alphabetic)
      (.unions
        [.tables [ideographic, unspacedLetter], ofScript "hira", katakana, hebrewLetter,
         wordExtend]))
    (.ranges toneLetter)

/-- The classes for boundaries of words, under the names they answer to. -/
def wordClasses : List (List String × CharSet) :=
  [(["cr"], .singleton '\r'),
   (["dq", "doublequote"], .singleton '\x22'),
   (["ex", "extendnumlet"], .tables [connectorPunctuation, [(0x202F, 0x202F)]]),
   (["extend"], wordExtend),
   (["fo", "format"],
    .diff (.ranges format) (.union (.tables [joiners, [(0x200B, 0x200B)]]) graphemeExtend)),
   (["hl", "hebrewletter"], hebrewLetter),
   (["ka", "katakana"], katakana),
   (["le", "aletter"], wordLetter),
   (["lf"], .singleton '\n'),
   (["mb", "midnumlet"], .ranges midNumberOrLetter),
   (["ml", "midletter"], .ranges midLetter),
   (["mn", "midnum"], .ranges midNumber),
   (["nl", "newline"], .ranges [(0xB, 0xC), (0x85, 0x85), (0x2028, 0x2029)]),
   (["nu", "numeric"], .tables [decimalNumber, [(0x66B, 0x66B)]]),
   (["ri", "regionalindicator"], .ranges regionalIndicator),
   (["sq", "singlequote"], .singleton '\x27'),
   (["wsegspace"],
    .diff (.ranges spaceSeparator) (.ranges [(0xA0, 0xA0), (0x2007, 0x2007), (0x202F, 0x202F)])),
   (["zwj"], .ranges [(0x200D, 0x200D)])]

/-! ## Sentences -/

/-- Characters that go with the one before them in a sentence. -/
def sentenceExtend : CharSet :=
  .union graphemeExtend (.tables [spacingMark, [(0x200D, 0x200D)]])

/-- Letters in lower case, without those of Georgian, which may begin a sentence. -/
def sentenceLower : CharSet :=
  .diff (.tables Property.lowercase) (.union graphemeExtend (.ranges georgianSmall))

/-- Letters in upper case or at the beginning of a title, without those of Georgian, which stand in
whole words only. -/
def sentenceUpper : CharSet :=
  .diff (.tables (Property.uppercase ++ [titlecaseLetter]))
    (.ranges [(0x1C90, 0x1CBA), (0x1CBD, 0x1CBF)])

/-- Letters without a case. -/
def sentenceLetter : CharSet :=
  .union
    (.diff (.tables Property.alphabetic) (.unions [sentenceLower, sentenceUpper, sentenceExtend]))
    (.ranges [(0x5F3, 0x5F3)])

/-- Full stops, which need not end a sentence. -/
def fullStop : Ranges :=
  [(0x2E, 0x2E), (0x2024, 0x2024), (0xFE52, 0xFE52), (0xFF0E, 0xFF0E)]

/-- Separators of paragraphs. -/
def sentenceSeparator : Ranges := [(0x85, 0x85), (0x2028, 0x2029)]

/-- The classes for boundaries of sentences, under the names they answer to. -/
def sentenceClasses : List (List String × CharSet) :=
  [(["at", "aterm"], .ranges fullStop),
   (["cl", "close"],
    .tables
      [openPunctuation, closePunctuation, initialPunctuation, finalPunctuation, decoratedQuote]),
   (["cr"], .singleton '\r'),
   (["ex", "extend"], sentenceExtend),
   (["fo", "format"], .diff (.ranges format) (.union (.ranges joiners) graphemeExtend)),
   (["le", "oletter"], sentenceLetter),
   (["lf"], .singleton '\n'),
   (["lo", "lower"], sentenceLower),
   (["nu", "numeric"], .tables [decimalNumber, [(0x66B, 0x66C)]]),
   (["sc", "scontinue"], .ranges sentenceContinue),
   (["se", "sep"], .ranges sentenceSeparator),
   (["sp"], .diff .space (.tables [[(0xA, 0xA), (0xD, 0xD)], sentenceSeparator])),
   (["st", "sterm"], .diff (.ranges sentenceTerminal) (.ranges fullStop)),
   (["up", "upper"], sentenceUpper)]

end Gherkin.ClassName
