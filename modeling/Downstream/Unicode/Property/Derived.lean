import Downstream.Unicode.Category
import Downstream.Unicode.Property.Table
import Downstream.Unicode.Property.CaseTable

/-!
# Derived properties

Binary properties that follow from the general categories and from other properties.
-/

namespace Downstream.Unicode.Property

open CharSet Category

/-- Alphabetic characters. -/
def alphabetic : CharSet :=
  unions [letter, ranges letterNumber, ranges otherAlphabetic]

/-- Lowercase characters. -/
def lowercase : CharSet :=
  union (ranges lowercaseLetter) (ranges otherLowercase)

/-- Uppercase characters. -/
def uppercase : CharSet :=
  union (ranges uppercaseLetter) (ranges otherUppercase)

/-- Characters with case. -/
def cased : CharSet :=
  unions [lowercase, uppercase, ranges titlecaseLetter]

/-- Characters that do not count when the case of their neighbours is judged. -/
def caseIgnorable : CharSet :=
  unions [ranges nonspacingMark, ranges enclosingMark, ranges format, ranges modifierLetter,
    ranges modifierSymbol, ranges otherCaseIgnorable]

/-- Mathematical characters. -/
def math : CharSet :=
  union (ranges mathSymbol) (ranges otherMath)

/-- Characters that extend a grapheme. -/
def graphemeExtend : CharSet :=
  unions [ranges nonspacingMark, ranges enclosingMark, ranges otherGraphemeExtend]

/-- Characters that start a grapheme. -/
def graphemeBase : CharSet :=
  compl (unions [other, ranges lineSeparator, ranges paragraphSeparator, graphemeExtend])

/-- Starts of identifiers. -/
def idStart : CharSet :=
  diff (unions [letter, ranges letterNumber, ranges otherIdStart]) (ranges patternSyntax)

/-- Characters of identifiers. -/
def idContinue : CharSet :=
  unions [idStart, ranges nonspacingMark, ranges spacingMark, ranges decimalNumber,
    ranges connectorPunctuation, ranges otherIdContinue]

/-- Starts of identifiers that stay so under normalization. -/
def xidStart : CharSet :=
  diff idStart (ranges notXidStart)

/-- Characters of identifiers that stay so under normalization. -/
def xidContinue : CharSet :=
  diff idContinue (ranges notXidContinue)

/-- Characters of words: alphabetic characters, marks, digits, connectors and joiners. -/
def word : CharSet :=
  unions [alphabetic, mark, ranges decimalNumber, ranges connectorPunctuation, ranges joinControl]

/-- Whether a character is a blank. -/
def isBlank (c : Char) : Bool :=
  whiteSpace.has c.toNat

/-- Whether a character belongs to words. -/
def isWord (c : Char) : Bool :=
  word.has c.toNat

/-- Characters that change in lower case. -/
def changesWhenLowercased : CharSet :=
  diff (union uppercase (ranges titlecaseLetter)) (ranges withoutLowercase)

/-- Characters that change in upper case. -/
def changesWhenUppercased : CharSet :=
  diff (union lowercase (ranges titlecaseLetter)) (ranges withoutUppercase)

/-- Characters that change in title case. -/
def changesWhenTitlecased : CharSet :=
  diff (union changesWhenUppercased (ranges titlecaseOnly)) (ranges sameInTitlecase)

/-- Characters that change in some case. -/
def changesWhenCasemapped : CharSet :=
  unions [changesWhenLowercased, changesWhenUppercased, changesWhenTitlecased]

/-- Characters that change when their case is folded. -/
def changesWhenCasefolded : CharSet :=
  diff (union changesWhenLowercased (ranges foldedLowercase)) (ranges foldedUppercase)

/-- Signs and digits inside identifiers of mathematics. -/
def idCompatMathContinue : CharSet :=
  union (ranges idCompatMathStart) (ranges idCompatMathScript)

end Downstream.Unicode.Property
