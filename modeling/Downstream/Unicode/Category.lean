import Downstream.Unicode.CharSet
import Downstream.Unicode.Category.Letter
import Downstream.Unicode.Category.Mark
import Downstream.Unicode.Category.Number
import Downstream.Unicode.Category.Punctuation
import Downstream.Unicode.Category.Symbol
import Downstream.Unicode.Category.Separator
import Downstream.Unicode.Category.Control

/-!
# General categories

Every code point has one general category; the groups (`letter`, `mark`, ...) join several of them,
and `unassigned` holds what no category names.
-/

namespace Downstream.Unicode.Category

open CharSet

/-- Letters of all kinds (L). -/
def letter : CharSet :=
  unions [ranges lowercaseLetter, ranges uppercaseLetter, ranges otherLetter,
    ranges modifierLetter, ranges titlecaseLetter]

/-- Letters with case (LC). -/
def casedLetter : CharSet :=
  unions [ranges lowercaseLetter, ranges uppercaseLetter, ranges titlecaseLetter]

/-- Marks (M). -/
def mark : CharSet :=
  unions [ranges nonspacingMark, ranges spacingMark, ranges enclosingMark]

/-- Numbers (N). -/
def number : CharSet :=
  unions [ranges decimalNumber, ranges letterNumber, ranges otherNumber]

/-- Punctuation (P). -/
def punctuation : CharSet :=
  unions [ranges otherPunctuation, ranges connectorPunctuation, ranges dashPunctuation,
    ranges openPunctuation, ranges closePunctuation, ranges initialPunctuation,
    ranges finalPunctuation]

/-- Symbols (S). -/
def symbol : CharSet :=
  unions [ranges mathSymbol, ranges currencySymbol, ranges modifierSymbol, ranges otherSymbol]

/-- Separators (Z). -/
def separator : CharSet :=
  unions [ranges spaceSeparator, ranges lineSeparator, ranges paragraphSeparator]

/-- All assigned code points but surrogates. -/
def assigned : CharSet :=
  unions [letter, number, punctuation, symbol, separator, mark, ranges control, ranges format,
    ranges privateUse]

/-- Unassigned code points (Cn). -/
def unassigned : CharSet :=
  compl assigned

/-- Control and format characters, private use and what is unassigned (C). -/
def other : CharSet :=
  unions [ranges control, ranges format, ranges privateUse, unassigned]

/-- The categories and their groups, each under all its names. -/
def all : List (List String × CharSet) :=
  [(["any"], compl CharSet.empty),
   (["ascii"], ranges [(0, 0x7F)]),
   (["assigned"], assigned),
   (["c", "other"], other),
   (["cc", "control", "cntrl"], ranges control),
   (["cf", "format"], ranges format),
   (["cn", "unassigned"], unassigned),
   (["co", "privateuse"], ranges privateUse),
   (["l", "letter"], letter),
   (["lc", "casedletter"], casedLetter),
   (["ll", "lowercaseletter"], ranges lowercaseLetter),
   (["lm", "modifierletter"], ranges modifierLetter),
   (["lo", "otherletter"], ranges otherLetter),
   (["lt", "titlecaseletter"], ranges titlecaseLetter),
   (["lu", "uppercaseletter"], ranges uppercaseLetter),
   (["m", "mark", "combiningmark"], mark),
   (["mc", "spacingmark"], ranges spacingMark),
   (["me", "enclosingmark"], ranges enclosingMark),
   (["mn", "nonspacingmark"], ranges nonspacingMark),
   (["n", "number"], number),
   (["nd", "decimalnumber", "digit"], ranges decimalNumber),
   (["nl", "letternumber"], ranges letterNumber),
   (["no", "othernumber"], ranges otherNumber),
   (["p", "punctuation", "punct"], punctuation),
   (["pc", "connectorpunctuation"], ranges connectorPunctuation),
   (["pd", "dashpunctuation"], ranges dashPunctuation),
   (["pe", "closepunctuation"], ranges closePunctuation),
   (["pf", "finalpunctuation"], ranges finalPunctuation),
   (["pi", "initialpunctuation"], ranges initialPunctuation),
   (["po", "otherpunctuation"], ranges otherPunctuation),
   (["ps", "openpunctuation"], ranges openPunctuation),
   (["s", "symbol"], symbol),
   (["sc", "currencysymbol"], ranges currencySymbol),
   (["sk", "modifiersymbol"], ranges modifierSymbol),
   (["sm", "mathsymbol"], ranges mathSymbol),
   (["so", "othersymbol"], ranges otherSymbol),
   (["z", "separator"], separator),
   (["zl", "lineseparator"], ranges lineSeparator),
   (["zp", "paragraphseparator"], ranges paragraphSeparator),
   (["zs", "spaceseparator"], ranges spaceSeparator)]

/-- The category or group of a name, in the form in which names are compared. -/
def named? (name : String) : Option CharSet :=
  (all.find? fun entry => entry.1.contains name).map Prod.snd

end Downstream.Unicode.Category
