import Downstream.Unicode.Age
import Downstream.Unicode.Break.Sentence
import Downstream.Unicode.Break.Word
import Downstream.Unicode.Property.Derived
import Downstream.Unicode.Script

/-!
# Character properties by name

`Property.named?` finds a property, category or script by a single name, and `Property.valued?` one
by the name of the property and its value. Names are compared without case, blanks, hyphens,
underscores and a leading `is` (`comparable`).
-/

namespace Downstream.Unicode.Property

open CharSet Category

/-- A name in the form in which names are compared: ASCII only, in lower case, without blanks,
hyphens, underscores and a leading `is`. `isc` stays as it is. -/
def comparable (name : String) : String :=
  let chars := name.toList
  let (strip, rest) :=
    match chars with
    | i :: s :: rest => if i.toLower = 'i' && s.toLower = 's' then (true, rest) else (false, chars)
    | _ => (false, chars)
  let kept := (rest.filter fun c => c.toNat ≤ 0x7F && c != ' ' && c != '_' && c != '-').map
    Char.toLower
  if strip && kept == ['c'] then "isc" else String.ofList kept

/-- The binary properties, each under all its names. -/
def binary : List (List String × CharSet) :=
  [(["ahex", "asciihexdigit"], ranges asciiHexDigit),
   (["alpha", "alphabetic"], alphabetic),
   (["bidic", "bidicontrol"], ranges bidiControl),
   (["bidim", "bidimirrored"], ranges bidiMirrored),
   (["cased"], cased),
   (["cwcf", "changeswhencasefolded"], changesWhenCasefolded),
   (["cwcm", "changeswhencasemapped"], changesWhenCasemapped),
   (["cwl", "changeswhenlowercased"], changesWhenLowercased),
   (["cwt", "changeswhentitlecased"], changesWhenTitlecased),
   (["cwu", "changeswhenuppercased"], changesWhenUppercased),
   (["ci", "caseignorable"], caseIgnorable),
   (["dash"], ranges dash),
   (["dep", "deprecated"], ranges deprecatedChar),
   (["di", "defaultignorablecodepoint"], ranges defaultIgnorable),
   (["dia", "diacritic"], ranges diacritic),
   (["ebase", "emojimodifierbase"], ranges emojiModifierBase),
   (["ecomp", "emojicomponent"], ranges emojiComponent),
   (["emod", "emojimodifier"], ranges emojiModifier),
   (["emoji"], ranges emoji),
   (["epres", "emojipresentation"], ranges emojiPresentation),
   (["ext", "extender"], ranges extender),
   (["extpict", "extendedpictographic"], ranges extendedPictographic),
   (["grbase", "graphemebase"], graphemeBase),
   (["grext", "graphemeextend"], graphemeExtend),
   (["grlink", "graphemelink"], ranges graphemeLink),
   (["hex", "hexdigit"], ranges hexDigit),
   (["hyphen"], ranges hyphen),
   (["idc", "idcontinue"], idContinue),
   (["idcompatmathcontinue"], idCompatMathContinue),
   (["idcompatmathstart"], ranges idCompatMathStart),
   (["ideo", "ideographic"], ranges ideographic),
   (["ids", "idstart"], idStart),
   (["idsb", "idsbinaryoperator"], ranges idsBinaryOperator),
   (["idst", "idstrinaryoperator"], ranges idsTrinaryOperator),
   (["idsu", "idsunaryoperator"], ranges idsUnaryOperator),
   (["joinc", "joincontrol"], ranges joinControl),
   (["loe", "logicalorderexception"], ranges logicalOrderException),
   (["lower", "lowercase"], lowercase),
   (["math"], math),
   (["mcm", "modifiercombiningmark"], ranges modifierCombiningMark),
   (["nchar", "noncharactercodepoint"], ranges noncharacter),
   (["oalpha", "otheralphabetic"], ranges otherAlphabetic),
   (["odi", "otherdefaultignorablecodepoint"], ranges otherDefaultIgnorable),
   (["ogrext", "othergraphemeextend"], ranges otherGraphemeExtend),
   (["oidc", "otheridcontinue"], ranges otherIdContinue),
   (["oids", "otheridstart"], ranges otherIdStart),
   (["olower", "otherlowercase"], ranges otherLowercase),
   (["omath", "othermath"], ranges otherMath),
   (["oupper", "otheruppercase"], ranges otherUppercase),
   (["patsyn", "patternsyntax"], ranges patternSyntax),
   (["patws", "patternwhitespace"], ranges patternWhiteSpace),
   (["pcm", "prependedconcatenationmark"], ranges prependedConcatenationMark),
   (["qmark", "quotationmark"], ranges quotationMark),
   (["radical"], ranges radical),
   (["ri", "regionalindicator"], ranges regionalIndicator),
   (["sd", "softdotted"], ranges softDotted),
   (["space", "whitespace", "wspace"], ranges whiteSpace),
   (["sterm", "sentenceterminal"], ranges sentenceTerminal),
   (["term", "terminalpunctuation"], ranges terminalPunctuation),
   (["uideo", "unifiedideograph"], ranges unifiedIdeograph),
   (["upper", "uppercase"], uppercase),
   (["vs", "variationselector"], ranges variationSelector),
   (["xidc", "xidcontinue"], xidContinue),
   (["xids", "xidstart"], xidStart)]

/-- A script by name. -/
def script? (name : String) : Option CharSet :=
  (Script.all.find? fun entry => entry.1.contains name).map fun entry => ranges entry.2

/-- The characters that a script is used with: its own, those of other scripts that it shares, and
for the common and the inherited script only those that no script claims. -/
def scriptExtension? (name : String) : Option CharSet := do
  let (names, own) ← Script.all.find? fun entry => entry.1.contains name
  if names.contains "common" || names.contains "inherited" then
    return diff (ranges own) (ranges ScriptExtension.shared)
  match Script.extensions.find? fun entry => names.contains entry.1 with
  | some (_, more) => return union (ranges own) (ranges more)
  | none => return ranges own

/-- The property, category or script of a name, as written. The names of properties come before
those of categories, and these before those of scripts. -/
def named? (name : String) : Option CharSet :=
  let name := comparable name
  match (binary.find? fun entry => entry.1.contains name).map Prod.snd with
  | some set => some set
  | none =>
    match Category.named? name with
    | some set => some set
    | none => script? name

/-- The characters with a value of a property, both as written. -/
def valued? (property value : String) : Option CharSet :=
  let property := comparable property
  let value := comparable value
  if ["age"].contains property then Age.named? value
  else if ["gc", "generalcategory"].contains property then Category.named? value
  else if ["gcb", "graphemeclusterbreak"].contains property then Break.Grapheme.named? value
  else if ["sb", "sentencebreak"].contains property then Break.Sentence.named? value
  else if ["sc", "script"].contains property then script? value
  else if ["scx", "scriptextensions"].contains property then scriptExtension? value
  else if ["wb", "wordbreak"].contains property then Break.Word.named? value
  else none

end Downstream.Unicode.Property
