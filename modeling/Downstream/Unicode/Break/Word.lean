import Downstream.Unicode.Break.Grapheme
import Downstream.Unicode.Script

/-!
# Breaks between words

What a character is when a text is divided into words. The classes are disjoint: a definition leaves
out what an earlier one has.
-/

namespace Downstream.Unicode.Break.Word

open CharSet Category

/-- Ends of lines other than the carriage return and the line feed. -/
def newline : CharSet :=
  ranges [(0x0B, 0x0C), (0x85, 0x85), (0x2028, 0x2029)]

/-- Characters that go with what stands before them. -/
def extend : CharSet :=
  union Grapheme.extend (ranges spacingMark)

/-- Numerals: decimal digits, a decimal sign and signs around numbers. -/
def numeric : CharSet :=
  union (ranges decimalNumber)
    (ranges [(0x600, 0x605), (0x66B, 0x66B), (0x6DD, 0x6DD), (0x890, 0x891), (0x8E2, 0x8E2),
      (0x110BD, 0x110BD), (0x110CD, 0x110CD)])

/-- Format characters within words. -/
def formatting : CharSet :=
  diff (ranges format)
    (unions [extend, Grapheme.prepend, ranges [(0x200B, 0x200B), (0x200D, 0x200D)]])

/-- Katakana and signs used with it. -/
def katakana : CharSet :=
  union (ranges Script.katakana)
    (ranges [(0x3031, 0x3035), (0x309B, 0x309C), (0x30A0, 0x30A0), (0x30FC, 0x30FC),
      (0xFF70, 0xFF70)])

/-- Hebrew letters. -/
def hebrewLetter : CharSet :=
  inter (ranges Script.hebrew) (ranges otherLetter)

/-- Signs within both words and numbers. -/
def midNumLet : CharSet :=
  ranges [(0x2E, 0x2E), (0x2018, 0x2019), (0x2024, 0x2024), (0xFE52, 0xFE52), (0xFF07, 0xFF07),
    (0xFF0E, 0xFF0E)]

/-- Signs within words. -/
def midLetter : CharSet :=
  ranges [(0x3A, 0x3A), (0xB7, 0xB7), (0x387, 0x387), (0x55F, 0x55F), (0x5F4, 0x5F4),
    (0x2027, 0x2027), (0xFE13, 0xFE13), (0xFE55, 0xFE55), (0xFF1A, 0xFF1A)]

/-- Signs within numbers. -/
def midNum : CharSet :=
  ranges [(0x2C, 0x2C), (0x3B, 0x3B), (0x37E, 0x37E), (0x589, 0x589), (0x60C, 0x60D),
    (0x66C, 0x66C), (0x7F8, 0x7F8), (0x2044, 0x2044), (0xFE10, 0xFE10), (0xFE14, 0xFE14),
    (0xFE50, 0xFE50), (0xFE54, 0xFE54), (0xFF0C, 0xFF0C), (0xFF1B, 0xFF1B)]

/-- Connectors. -/
def extendNumLet : CharSet :=
  union (ranges connectorPunctuation) (single 0x202F)

/-- Spaces at which a line may end. -/
def segmentSpace : CharSet :=
  diff (ranges spaceSeparator) (ranges [(0xA0, 0xA0), (0x2007, 0x2007), (0x202F, 0x202F)])

/-- Letters of the scripts that write words without blanks, for which a dictionary is needed. -/
def unspacedLetter : Ranges :=
  [(0xE01, 0xE30), (0xE32, 0xE33), (0xE40, 0xE46), (0xE81, 0xE82), (0xE84, 0xE84), (0xE86, 0xE8A),
   (0xE8C, 0xEA3), (0xEA5, 0xEA5), (0xEA7, 0xEB0), (0xEB2, 0xEB3), (0xEBD, 0xEBD), (0xEC0, 0xEC4),
   (0xEC6, 0xEC6), (0xEDC, 0xEDF), (0x1000, 0x102A), (0x103F, 0x103F), (0x1050, 0x1055),
   (0x105A, 0x105D), (0x1061, 0x1061), (0x1065, 0x1066), (0x106E, 0x1070), (0x1075, 0x1081),
   (0x108E, 0x108E), (0x1780, 0x17B3), (0x17D7, 0x17D7), (0x17DC, 0x17DC), (0x1950, 0x196D),
   (0x1970, 0x1974), (0x1980, 0x19AB), (0x19B0, 0x19C9), (0x1A20, 0x1A54), (0x1AA7, 0x1AA7),
   (0xA9E0, 0xA9E4), (0xA9E6, 0xA9EF), (0xA9FA, 0xA9FE), (0xAA60, 0xAA76), (0xAA7A, 0xAA7A),
   (0xAA7E, 0xAAAF), (0xAAB1, 0xAAB1), (0xAAB5, 0xAAB6), (0xAAB9, 0xAABD), (0xAAC0, 0xAAC0),
   (0xAAC2, 0xAAC2), (0xAADB, 0xAADD), (0x11700, 0x1171A), (0x11740, 0x11746)]

/-- Signs that count as letters. -/
def letterlike : Ranges :=
  [(0x2C2, 0x2C5), (0x2D2, 0x2D7), (0x2DE, 0x2DF), (0x2E5, 0x2EB), (0x2ED, 0x2ED), (0x2EF, 0x2FF),
   (0x55A, 0x55C), (0x55E, 0x55E), (0x58A, 0x58A), (0x5F3, 0x5F3), (0x70F, 0x70F),
   (0xA708, 0xA716), (0xA720, 0xA721), (0xA789, 0xA78A), (0xAB5B, 0xAB5B)]

/-- Letters of words. -/
def letter : CharSet :=
  diff (union Property.alphabetic (ranges letterlike))
    (unions [extend, numeric, katakana, hebrewLetter, ranges ideographic, ranges Script.hiragana,
      ranges unspacedLetter])

/-- The classes, each under all its names. -/
def all : List (List String × CharSet) :=
  [(["cr"], Grapheme.carriageReturn),
   (["dq", "doublequote"], single 0x22),
   (["ex", "extendnumlet"], extendNumLet),
   (["extend"], extend),
   (["fo", "format"], formatting),
   (["hl", "hebrewletter"], hebrewLetter),
   (["ka", "katakana"], katakana),
   (["le", "aletter"], letter),
   (["lf"], Grapheme.lineFeed),
   (["mb", "midnumlet"], midNumLet),
   (["ml", "midletter"], midLetter),
   (["mn", "midnum"], midNum),
   (["nl", "newline"], newline),
   (["nu", "numeric"], numeric),
   (["ri", "regionalindicator"], ranges regionalIndicator),
   (["sq", "singlequote"], single 0x27),
   (["wsegspace"], segmentSpace),
   (["zwj"], Grapheme.joiner)]

/-- The class of a name, in the form in which names are compared. -/
def named? (name : String) : Option CharSet :=
  (all.find? fun entry => entry.1.contains name).map Prod.snd

end Downstream.Unicode.Break.Word
