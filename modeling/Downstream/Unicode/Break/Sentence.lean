import Downstream.Unicode.Break.Word

/-!
# Breaks between sentences

What a character is when a text is divided into sentences. The classes are disjoint: a definition
leaves out what an earlier one has.
-/

namespace Downstream.Unicode.Break.Sentence

open CharSet Category

/-- Ends of lines other than the carriage return and the line feed. -/
def separation : CharSet :=
  ranges [(0x85, 0x85), (0x2028, 0x2029)]

/-- Characters that go with what stands before them. -/
def extend : CharSet :=
  unions [Property.graphemeExtend, ranges spacingMark, Grapheme.joiner]

/-- Numerals: decimal digits, signs within numbers and signs around them. -/
def numeric : CharSet :=
  union Word.numeric (single 0x66C)

/-- Format characters. -/
def formatting : CharSet :=
  diff (ranges format) (union extend numeric)

/-- Blanks. -/
def blank : CharSet :=
  diff (ranges whiteSpace) (unions [separation, Grapheme.carriageReturn, Grapheme.lineFeed])

/-- Georgian letters with a capital form that does not start sentences. -/
def mkhedruli : Ranges :=
  [(0x10D0, 0x10FA), (0x10FD, 0x10FF)]

/-- The capital forms of those letters. -/
def mtavruli : Ranges :=
  [(0x1C90, 0x1CBA), (0x1CBD, 0x1CBF)]

/-- Small letters. -/
def lower : CharSet :=
  diff Property.lowercase (union extend (ranges mkhedruli))

/-- Capital letters. -/
def upper : CharSet :=
  diff (union Property.uppercase (ranges titlecaseLetter)) (ranges mtavruli)

/-- Other letters. -/
def letter : CharSet :=
  diff (union Property.alphabetic (single 0x5F3)) (unions [extend, lower, upper])

/-- Signs that may end a sentence or stand within a word. -/
def fullStop : CharSet :=
  ranges [(0x2E, 0x2E), (0x2024, 0x2024), (0xFE52, 0xFE52), (0xFF0E, 0xFF0E)]

/-- Signs after which a sentence goes on. -/
def continuation : CharSet :=
  ranges [(0x2C, 0x2D), (0x3A, 0x3B), (0x37E, 0x37E), (0x55D, 0x55D), (0x60C, 0x60D),
    (0x7F8, 0x7F8), (0x1802, 0x1802), (0x1808, 0x1808), (0x2013, 0x2014), (0x3001, 0x3001),
    (0xFE10, 0xFE11), (0xFE13, 0xFE14), (0xFE31, 0xFE32), (0xFE50, 0xFE51), (0xFE54, 0xFE55),
    (0xFE58, 0xFE58), (0xFE63, 0xFE63), (0xFF0C, 0xFF0D), (0xFF1A, 0xFF1B), (0xFF64, 0xFF64)]

/-- Signs that end a sentence. -/
def terminal : CharSet :=
  diff (ranges sentenceTerminal) fullStop

/-- Brackets and quotes. -/
def closing : CharSet :=
  unions [ranges openPunctuation, ranges closePunctuation, ranges initialPunctuation,
    ranges finalPunctuation,
    ranges [(0x22, 0x22), (0x27, 0x27), (0x275B, 0x2760), (0x2E00, 0x2E01), (0x2E06, 0x2E08),
      (0x2E0B, 0x2E0B), (0x1F676, 0x1F678)]]

/-- The classes, each under all its names. -/
def all : List (List String × CharSet) :=
  [(["at", "aterm"], fullStop),
   (["cl", "close"], closing),
   (["cr"], Grapheme.carriageReturn),
   (["ex", "extend"], extend),
   (["fo", "format"], formatting),
   (["le", "oletter"], letter),
   (["lf"], Grapheme.lineFeed),
   (["lo", "lower"], lower),
   (["nu", "numeric"], numeric),
   (["sc", "scontinue"], continuation),
   (["se", "sep"], separation),
   (["sp"], blank),
   (["st", "sterm"], terminal),
   (["up", "upper"], upper)]

/-- The class of a name, in the form in which names are compared. -/
def named? (name : String) : Option CharSet :=
  (all.find? fun entry => entry.1.contains name).map Prod.snd

end Downstream.Unicode.Break.Sentence
