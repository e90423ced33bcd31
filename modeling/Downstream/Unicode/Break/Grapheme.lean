import Downstream.Unicode.Property.Derived

/-!
# Breaks between graphemes

What a character is when a text is divided into what readers take for single characters. The classes
are disjoint: a definition leaves out what an earlier one has.
-/

namespace Downstream.Unicode.Break.Grapheme

open CharSet Category

/-- The code point of the carriage return. -/
def carriageReturn : CharSet := single 0x0D

/-- The code point of the line feed. -/
def lineFeed : CharSet := single 0x0A

/-- The joiner that makes one picture of several. -/
def joiner : CharSet := single 0x200D

/-- Characters that go with what stands before them. -/
def extend : CharSet :=
  union Property.graphemeExtend (ranges emojiModifier)

/-- Letters that go with what stands after them. -/
def prefixedLetter : Ranges :=
  [(0xD4E, 0xD4E), (0x111C2, 0x111C3), (0x113D1, 0x113D1), (0x1193F, 0x1193F), (0x11941, 0x11941),
   (0x11A3A, 0x11A3A), (0x11A84, 0x11A89), (0x11D46, 0x11D46), (0x11F02, 0x11F02)]

/-- Characters that go with what stands after them. -/
def prepend : CharSet :=
  union (ranges prependedConcatenationMark) (ranges prefixedLetter)

/-- Controls, formats and what is to be ignored, each of which stands alone. -/
def control : CharSet :=
  diff
    (unions [ranges lineSeparator, ranges paragraphSeparator, ranges Unicode.control,
      ranges format, inter unassigned (ranges defaultIgnorable)])
    (unions [carriageReturn, lineFeed, joiner, extend, prepend])

/-- Spacing marks that stand alone. -/
def looseMark : Ranges :=
  [(0x102B, 0x102C), (0x1038, 0x1038), (0x1062, 0x1064), (0x1067, 0x106D), (0x1083, 0x1083),
   (0x1087, 0x108C), (0x108F, 0x108F), (0x109A, 0x109C), (0x1A61, 0x1A61), (0x1A63, 0x1A64),
   (0xAA7B, 0xAA7B), (0xAA7D, 0xAA7D), (0x11720, 0x11721)]

/-- Spacing marks that go with what stands before them. -/
def spacing : CharSet :=
  diff (union (ranges spacingMark) (ranges [(0xE33, 0xE33), (0xEB3, 0xEB3)]))
    (union extend (ranges looseMark))

/-- The first Hangul syllable. -/
def firstSyllable : Nat := 0xAC00

/-- The number of Hangul syllables that start with the same two letters: one without a third letter,
then those with one. -/
def syllablesPerVowel : Nat := 28

/-- The first of all Hangul syllables that start with the same two letters. -/
def openSyllables : List Nat :=
  (List.range 399).map fun k => firstSyllable + k * syllablesPerVowel

/-- The classes, each under all its names. -/
def all : List (List String × CharSet) :=
  [(["cn", "control"], control),
   (["cr"], carriageReturn),
   (["ex", "extend"], extend),
   (["l"], ranges [(0x1100, 0x115F), (0xA960, 0xA97C)]),
   (["lf"], lineFeed),
   (["lv"], ranges (openSyllables.map fun c => (c, c))),
   (["lvt"], ranges (openSyllables.map fun c => (c + 1, c + syllablesPerVowel - 1))),
   (["pp", "prepend"], prepend),
   (["ri", "regionalindicator"], ranges regionalIndicator),
   (["sm", "spacingmark"], spacing),
   (["t"], ranges [(0x11A8, 0x11FF), (0xD7CB, 0xD7FB)]),
   (["v"], ranges [(0x1160, 0x11A7), (0xD7B0, 0xD7C6), (0x16D63, 0x16D63), (0x16D67, 0x16D6A)]),
   (["zwj"], joiner)]

/-- The class of a name, in the form in which names are compared. -/
def named? (name : String) : Option CharSet :=
  (all.find? fun entry => entry.1.contains name).map Prod.snd

end Downstream.Unicode.Break.Grapheme
