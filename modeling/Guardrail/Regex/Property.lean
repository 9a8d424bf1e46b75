import Guardrail.Regex.CharClass
import Guardrail.Text.Property.Age
import Guardrail.Text.Property.Emoji
import Guardrail.Text.Property.Identifier
import Guardrail.Text.Property.Math
import Guardrail.Text.Property.ScriptExtension
import Guardrail.Text.Property.SentenceBreak

/-!
# Properties by name

The sets of characters that property names stand for in patterns, as of Unicode 16: general
categories, scripts, properties that a character has or has not, and the values of those that have
several. Names are read in a loose form: without regard to case, blanks, hyphens, underscores,
characters beyond ASCII, and a leading `is`.
-/

namespace Guardrail.CharClass

open Text

/-- A letter that Unicode 17 moved from the lower-case letters to the other letters. -/
def pharyngealSet : CharSet := [(0x295, 0x295)]

/-- A set of Unicode 17 as it was before the letter was moved out of it. -/
def withPharyngeal (set : CharSet) : CharSet := set.asOf16.union pharyngealSet

/-- The general category of a loose name. -/
def category? : String → Option CharSet
  | "l" | "letter" => some letterSet.asOf16
  | "lc" | "casedletter" => some (withPharyngeal casedLetterSet)
  | "lu" | "uppercaseletter" => some uppercaseLetterSet.asOf16
  | "ll" | "lowercaseletter" => some (withPharyngeal lowercaseLetterSet)
  | "lt" | "titlecaseletter" => some titlecaseLetterSet.asOf16
  | "lm" | "modifierletter" => some modifierLetterSet.asOf16
  | "lo" | "otherletter" => some (otherLetterSet.asOf16.diff pharyngealSet)
  | "m" | "mark" | "combiningmark" => some markSet.asOf16
  | "mc" | "spacingmark" => some spacingMarkSet.asOf16
  | "me" | "enclosingmark" => some enclosingMarkSet.asOf16
  | "mn" | "nonspacingmark" => some nonspacingMarkSet.asOf16
  | "n" | "number" => some numericSet.asOf16
  | "nd" | "decimalnumber" | "digit" => some decimalSet.asOf16
  | "nl" | "letternumber" => some letterNumberSet.asOf16
  | "no" | "othernumber" => some otherNumberSet.asOf16
  | "p" | "punct" | "punctuation" => some punctuationSet.asOf16
  | "pc" | "connectorpunctuation" => some connectorSet.asOf16
  | "pd" | "dashpunctuation" => some dashPunctuationSet.asOf16
  | "ps" | "openpunctuation" => some openingSet.asOf16
  | "pe" | "closepunctuation" => some closingSet.asOf16
  | "pi" | "initialpunctuation" => some initialQuoteSet.asOf16
  | "pf" | "finalpunctuation" => some finalQuoteSet.asOf16
  | "po" | "otherpunctuation" => some otherPunctuationSet.asOf16
  | "s" | "symbol" => some symbolSet.asOf16
  | "sm" | "mathsymbol" => some mathSymbolSet.asOf16
  | "sc" | "currencysymbol" => some currencySymbolSet.asOf16
  | "sk" | "modifiersymbol" => some modifierSymbolSet.asOf16
  | "so" | "othersymbol" => some otherSymbolSet.asOf16
  | "z" | "separator" => some separatorSet
  | "zs" | "spaceseparator" => some spaceSeparatorSet
  | "zl" | "lineseparator" => some lineSeparatorSet
  | "zp" | "paragraphseparator" => some paragraphSeparatorSet
  | "c" | "other" => some (shapedSet.union separatorSet).asOf16.compl
  | "cc" | "cntrl" | "control" => some controlSet
  | "cf" | "format" => some formatSet.asOf16
  | "cn" | "unassigned" => some assignedSet.asOf16.compl
  | "co" | "privateuse" => some privateUseSet
  | "any" => some [(0, CharSet.maxPoint)]
  | "assigned" => some assignedSet.asOf16
  | "ascii" => some [(0x0, 0x7F)]
  | _ => none

/-- Characters with the property `Grapheme_Base`. -/
def graphemeBaseSet : CharSet :=
  ((shapedSet.union spaceSeparatorSet).diff graphemeExtendSet).asOf16

/-- The property of a loose name that a character has or has not. -/
def binary? : String → Option CharSet
  | "asciihexdigit" | "ahex" => some asciiHexDigitSet
  | "alphabetic" | "alpha" => some alphabeticSet.asOf16
  | "bidicontrol" | "bidic" => some bidiControlSet
  | "bidimirrored" | "bidim" => some bidiMirroredSet
  | "cased" => some (withPharyngeal casedSet)
  | "caseignorable" | "ci" => some caseIgnorableSet.asOf16
  | "changeswhencasefolded" | "cwcf" => some changesFoldedSet
  | "changeswhencasemapped" | "cwcm" => some changesMappedSet
  | "changeswhenlowercased" | "cwl" => some changesLoweredSet
  | "changeswhentitlecased" | "cwt" => some changesTitledSet
  | "changeswhenuppercased" | "cwu" => some changesRaisedSet
  | "dash" => some dashSet
  | "defaultignorablecodepoint" | "di" => some ignorableSet
  | "deprecated" | "dep" => some deprecatedSet
  | "diacritic" | "dia" => some diacriticSet
  | "emoji" => some emojiSet
  | "emojicomponent" | "ecomp" => some emojiComponentSet
  | "emojimodifier" | "emod" => some emojiModifierSet
  | "emojimodifierbase" | "ebase" => some emojiModifierBaseSet
  | "emojipresentation" | "epres" => some emojiPresentationSet
  | "extendedpictographic" | "extpict" => some pictographicSet
  | "extender" | "ext" => some extenderSet
  | "graphemebase" | "grbase" => some graphemeBaseSet
  | "graphemeextend" | "grext" => some graphemeExtendSet.asOf16
  | "graphemelink" | "grlink" => some graphemeLinkSet
  | "hexdigit" | "hex" => some hexDigitSet
  | "hyphen" => some hyphenSet
  | "idcompatmathcontinue" => some idCompatMathContinueSet
  | "idcompatmathstart" => some idCompatMathStartSet
  | "idcontinue" | "idc" => some idContinueSet
  | "idstart" | "ids" => some idStartSet
  | "ideographic" | "ideo" => some ideographicSet
  | "idsbinaryoperator" | "idsb" => some binaryDescriptionSet
  | "idstrinaryoperator" | "idst" => some ternaryDescriptionSet
  | "idsunaryoperator" | "idsu" => some unaryDescriptionSet
  | "joincontrol" | "joinc" => some joinControlSet
  | "logicalorderexception" | "loe" => some logicalOrderSet
  | "lowercase" | "lower" => some (withPharyngeal lowercaseSet)
  | "math" => some mathSet
  | "modifiercombiningmark" | "mcm" => some modifierCombiningSet
  | "noncharactercodepoint" | "nchar" => some noncharacterSet
  | "otheralphabetic" | "oalpha" => some otherAlphabeticSet.asOf16
  | "otherdefaultignorablecodepoint" | "odi" => some otherIgnorableSet
  | "othergraphemeextend" | "ogrext" => some otherGraphemeExtendSet
  | "otheridcontinue" | "oidc" => some otherIdContinueSet
  | "otheridstart" | "oids" => some otherIdStartSet
  | "otherlowercase" | "olower" => some otherLowercaseSet.asOf16
  | "othermath" | "omath" => some otherMathSet
  | "otheruppercase" | "oupper" => some otherUppercaseSet
  | "patternsyntax" | "patsyn" => some patternSyntaxSet
  | "patternwhitespace" | "patws" => some patternBlankSet
  | "prependedconcatenationmark" | "pcm" => some prependedSet
  | "quotationmark" | "qmark" => some quotationMarkSet
  | "radical" => some radicalSet
  | "regionalindicator" | "ri" => some regionalIndicatorSet
  | "sentenceterminal" | "sterm" => some sentenceTerminalSet
  | "softdotted" | "sd" => some softDottedSet
  | "terminalpunctuation" | "term" => some terminalPunctuationSet
  | "unifiedideograph" | "uideo" => some unifiedIdeographSet
  | "uppercase" | "upper" => some uppercaseSet.asOf16
  | "variationselector" | "vs" => some variationSelectorSet
  | "whitespace" | "wspace" | "space" => some blankSet
  | "xidcontinue" | "xidc" => some xidContinueSet
  | "xidstart" | "xids" => some xidStartSet
  | _ => none

/-- The set that a loose name stands for by itself. -/
def named? (name : String) : Option CharSet :=
  ((binary? name).or (category? name)).or (script? name)

/-- The set of the characters that have a value of a property. -/
def valued? (name value : String) : Option CharSet :=
  match name with
  | "generalcategory" | "gc" => category? value
  | "script" | "sc" => script? value
  | "scriptextensions" | "scx" => scriptExtension? value
  | "age" => assignedSince? value
  | "graphemeclusterbreak" | "gcb" => clusterBreak? value
  | "wordbreak" | "wb" => wordBreak? value
  | "sentencebreak" | "sb" => sentenceBreak? value
  | _ => none

/-- A name in its loose form. A leading `is` is not part of a name, except of the name `isc`. -/
def loose (name : List Char) : String :=
  let plain (cs : List Char) : List Char :=
    (cs.filter fun c => c.toNat < 128 && c != ' ' && c != '-' && c != '_').map Char.toLower
  match name with
  | i :: s :: rest =>
    if i.toLower = 'i' ∧ s.toLower = 's' then
      let rest := plain rest
      String.ofList (if rest = ['c'] then ['i', 's', 'c'] else rest)
    else String.ofList (plain name)
  | _ => String.ofList (plain name)

/-- The parts of a text before and after the first place where a sign stands. -/
def splitAt? (sign : List Char) : List Char → Option (List Char × List Char)
  | [] => none
  | c :: cs =>
    if sign.isPrefixOf (c :: cs) then some ([], (c :: cs).drop sign.length)
    else (splitAt? sign cs).map fun (before, after) => (c :: before, after)

/-- The set that a property stands for, and whether its complement is meant: a name, or a name and a
value with a sign between them. Of the signs, `!=` is looked for first and means the complement. -/
def property? (text : List Char) : Option (Bool × CharSet) :=
  let value (negated : Bool) (parts : List Char × List Char) : Option (Bool × CharSet) :=
    (valued? (loose parts.1) (loose parts.2)).map fun set => (negated, set)
  match splitAt? ['!', '='] text with
  | some parts => value true parts
  | none =>
    match (splitAt? [':'] text).or (splitAt? ['='] text) with
    | some parts => value false parts
    | none => (named? (loose text)).map fun set => (false, set)

end Guardrail.CharClass
