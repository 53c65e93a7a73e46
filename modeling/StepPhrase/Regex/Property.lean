import StepPhrase.Regex.Class
import StepPhrase.Unicode.Age
import StepPhrase.Unicode.Break.Grapheme
import StepPhrase.Unicode.Break.Sentence
import StepPhrase.Unicode.Break.Word
import StepPhrase.Unicode.CaseChange
import StepPhrase.Unicode.Script
import StepPhrase.Unicode.ScriptExtension

/-! The character sets that properties of Unicode name. -/
namespace StepPhrase.Regex.Property

open StepPhrase.Unicode

/-- A property name in lower case, without blanks, hyphens, underscores and a leading `is`. -/
def normalize (name : List Char) : String :=
  let kept (s : List Char) : List Char :=
    (s.filter fun c => c.toNat < 0x80 && c != ' ' && c != '_' && c != '-').map Char.toLower
  match name with
  | i :: s :: rest =>
    if i.toLower = 'i' ∧ s.toLower = 's' then
      if kept rest = ['c'] then "isc" else String.ofList (kept rest)
    else String.ofList (kept name)
  | _ => String.ofList (kept name)

def named? {α : Type} (name : String) (table : List (List String × α)) : Option α :=
  (table.find? (·.1.contains name)).map (·.2)

def textSet? (name : String) (table : List (List String × String)) : Option CharSet :=
  (named? name table).map .ofText

def assigned : CharSet :=
  .unions [Class.letter, Class.mark, Class.number, Category.connector, Category.dash,
    Category.openPunctuation, Category.closePunctuation, Category.initialPunctuation,
    Category.finalPunctuation, Category.otherPunctuation, Category.mathSymbol,
    Category.currencySymbol, Category.modifierSymbol, Category.otherSymbol, Category.space,
    Category.lineSeparator, Category.paragraphSeparator, Category.control, Category.format,
    Category.surrogate, Category.privateUse]

/-- The general categories and their groups, by all their names, and the tables they consist of.
Surrogates are no characters and have no name. -/
def categories : List (List String × List CharSet) := [
  (["any"], [.any]),
  (["ascii"], [Class.ascii]),
  (["cc", "control", "cntrl"], [Category.control]),
  (["cf", "format"], [Category.format]),
  (["co", "privateuse"], [Category.privateUse]),
  (["l", "letter"], [Class.letter]),
  (["lc", "casedletter"], [Category.lowercaseLetter, Category.titlecaseLetter,
    Category.uppercaseLetter]),
  (["ll", "lowercaseletter"], [Category.lowercaseLetter]),
  (["lm", "modifierletter"], [Category.modifierLetter]),
  (["lo", "otherletter"], [Category.otherLetter]),
  (["lt", "titlecaseletter"], [Category.titlecaseLetter]),
  (["lu", "uppercaseletter"], [Category.uppercaseLetter]),
  (["m", "mark", "combiningmark"], [Class.mark]),
  (["mc", "spacingmark"], [Category.spacingMark]),
  (["me", "enclosingmark"], [Category.enclosingMark]),
  (["mn", "nonspacingmark"], [Category.nonspacingMark]),
  (["n", "number"], [Class.number]),
  (["nd", "decimalnumber", "digit"], [decimalDigits]),
  (["nl", "letternumber"], [Category.letterNumber]),
  (["no", "othernumber"], [Category.otherNumber]),
  (["p", "punctuation", "punct"], [Category.connector, Category.dash, Category.openPunctuation,
    Category.closePunctuation, Category.initialPunctuation, Category.finalPunctuation,
    Category.otherPunctuation]),
  (["pc", "connectorpunctuation"], [Category.connector]),
  (["pd", "dashpunctuation"], [Category.dash]),
  (["pe", "closepunctuation"], [Category.closePunctuation]),
  (["pf", "finalpunctuation"], [Category.finalPunctuation]),
  (["pi", "initialpunctuation"], [Category.initialPunctuation]),
  (["po", "otherpunctuation"], [Category.otherPunctuation]),
  (["ps", "openpunctuation"], [Category.openPunctuation]),
  (["s", "symbol"], [Category.mathSymbol, Category.currencySymbol, Category.modifierSymbol,
    Category.otherSymbol]),
  (["sc", "currencysymbol"], [Category.currencySymbol]),
  (["sk", "modifiersymbol"], [Category.modifierSymbol]),
  (["sm", "mathsymbol"], [Category.mathSymbol]),
  (["so", "othersymbol"], [Category.otherSymbol]),
  (["z", "separator"], [Category.space, Category.lineSeparator, Category.paragraphSeparator]),
  (["zl", "lineseparator"], [Category.lineSeparator]),
  (["zp", "paragraphseparator"], [Category.paragraphSeparator]),
  (["zs", "spaceseparator"], [Category.space])]

def category? (name : String) : Option CharSet :=
  match name with
  | "assigned" => some assigned.compl.compl
  | "cn" | "unassigned" => some assigned.compl
  | "c" | "other" =>
    some (.unions [assigned.compl, Category.control, Category.format, Category.surrogate,
      Category.privateUse])
  | name => (named? name categories).map .unions

def cased : CharSet := .unions [Class.lowercase, Class.uppercase, Category.titlecaseLetter]

def graphemeExtend : CharSet :=
  .unions [Category.nonspacingMark, Category.enclosingMark, otherGraphemeExtend]

def graphemeBase : CharSet :=
  assigned.diff (.unions [graphemeExtend, Category.control, Category.format, Category.surrogate,
    Category.privateUse, Category.lineSeparator, Category.paragraphSeparator])

def caseIgnorable : CharSet :=
  .unions [Category.nonspacingMark, Category.enclosingMark, Category.format,
    Category.modifierLetter, Category.modifierSymbol, .ofText
    "27 2E 3A B7 387 55F 5F4 2018-2019 2024 2027 FE13 FE52 FE55 FF07 FF0E FF1A"]

def idStart : CharSet :=
  (CharSet.unions [Class.letter, Category.letterNumber, otherIdStart]).diff (.char '\u2e2f')

def idContinue : CharSet :=
  .unions [idStart, Category.nonspacingMark, Category.spacingMark, decimalDigits,
    Category.connector, otherIdContinue]

def xidStart : CharSet :=
  idStart.diff (.ofText
    "37A E33 EB3 309B-309C FC5E-FC63 FDFA-FDFB FE70 FE72 FE74 FE76 FE78 FE7A FE7C FE7E FF9E-FF9F")

def xidContinue : CharSet :=
  idContinue.diff (.ofText
    "37A 309B-309C FC5E-FC63 FDFA-FDFB FE70 FE72 FE74 FE76 FE78 FE7A FE7C FE7E")

/-- The binary properties that have tables of their own or are made from categories. -/
def derived? (name : String) : Option CharSet :=
  match name with
  | "alphabetic" | "alpha" => some Class.alphabetic
  | "cased" => some cased
  | "caseignorable" | "ci" => some caseIgnorable
  | "changeswhencasefolded" | "cwcf" => some changesWhenCasefolded
  | "changeswhencasemapped" | "cwcm" =>
    some (.unions [changesWhenLowercased, changesWhenUppercased, changesWhenTitlecased])
  | "changeswhenlowercased" | "cwl" => some changesWhenLowercased
  | "changeswhentitlecased" | "cwt" => some changesWhenTitlecased
  | "changeswhenuppercased" | "cwu" => some changesWhenUppercased
  | "graphemebase" | "grbase" => some graphemeBase
  | "graphemeextend" | "grext" => some graphemeExtend
  | "idcontinue" | "idc" => some idContinue
  | "idstart" | "ids" => some idStart
  | "lowercase" | "lower" => some Class.lowercase
  | "math" => some (Category.mathSymbol.union otherMath)
  | "otheralphabetic" | "oalpha" => some otherAlphabetic
  | "othergraphemeextend" | "ogrext" => some otherGraphemeExtend
  | "otheridcontinue" | "oidc" => some otherIdContinue
  | "otheridstart" | "oids" => some otherIdStart
  | "otherlowercase" | "olower" => some otherLowercase
  | "othermath" | "omath" => some otherMath
  | "otheruppercase" | "oupper" => some otherUppercase
  | "uppercase" | "upper" => some Class.uppercase
  | "whitespace" | "wspace" | "space" => some whiteSpace
  | "xidcontinue" | "xidc" => some xidContinue
  | "xidstart" | "xids" => some xidStart
  | _ => none

def binary? (name : String) : Option CharSet := derived? name <|> textSet? name smallProperties

def script? (name : String) : Option CharSet := textSet? name scripts

/-- The characters that are used with the script: its own, but for those that name their scripts,
and those that name it. -/
def scriptExtension? (name : String) : Option CharSet :=
  match scripts.find? (·.1.contains name) with
  | some (script :: _, own) =>
    let sets := scriptExtensions.map fun (text, names) => (CharSet.ofText text, names)
    let others := CharSet.unions (sets.map (·.1))
    some (.unions ((CharSet.ofText own).diff others ::
      (sets.filter (·.2.contains script)).map (·.1)))
  | _ => none

/-- The code points that a version of Unicode, such as `6.1` or `v61`, had assigned. -/
def age? (name : String) : Option CharSet :=
  let isNamed (version : String) : Bool :=
    name = version || name.toList = 'v' :: version.toList.filter (· != '.')
  let earlier := ages.takeWhile fun (version, _) => !isNamed version
  match ages.drop earlier.length with
  | [] => none
  | last :: _ => some (.unions ((earlier ++ [last]).map fun (_, text) => CharSet.ofText text))

/-- The first syllable of each block of 28 among the composed ones of Hangul, and the others. -/
def hangulLV : CharSet := ⟨(List.range 399).map fun k => (0xAC00 + 28 * k, 0xAC00 + 28 * k)⟩

def hangulLVT : CharSet := (CharSet.range 0xAC00 0xD7A3).diff hangulLV

def emojiModifier : CharSet := .range 0x1F3FB 0x1F3FF

def graphemeBreak? (name : String) : Option CharSet :=
  match name with
  | "extend" | "ex" => some (graphemeExtend.union emojiModifier)
  | "lv" => some hangulLV
  | "lvt" => some hangulLVT
  | name => textSet? name Break.graphemeValues

def wordBreak? (name : String) : Option CharSet :=
  match name with
  | "extend" => some (.unions [graphemeExtend, Category.spacingMark, emojiModifier])
  | name => textSet? name Break.wordValues

def sentenceExtend : CharSet :=
  .unions [graphemeExtend, Category.spacingMark, .range 0x200D 0x200D]

/-- Lower-case letters of sentences; those of Georgian are not among them. -/
def sentenceLower : CharSet :=
  Class.lowercase.diff (graphemeExtend.union (.ofText "10D0-10FA 10FD-10FF"))

def sentenceUpper : CharSet :=
  (Class.uppercase.union Category.titlecaseLetter).diff (.ofText "1C90-1CBA 1CBD-1CBF")

def sentenceBreak? (name : String) : Option CharSet :=
  match name with
  | "extend" | "ex" => some sentenceExtend
  | "lower" | "lo" => some sentenceLower
  | "oletter" | "le" =>
    some ((Class.alphabetic.union (.range 0x5F3 0x5F3)).diff
      (.unions [sentenceLower, sentenceUpper, sentenceExtend]))
  | "upper" | "up" => some sentenceUpper
  | name => textSet? name Break.sentenceValues

/-- The set of a property that is named alone: a binary property, a category or a script. -/
def lookup? (name : List Char) : Option CharSet :=
  let name := normalize name
  let general := category? name <|> script? name
  if name = "cf" ∨ name = "sc" ∨ name = "lc" then general else binary? name <|> general

/-- The set of the characters whose property `name` has the value. -/
def lookupValue? (name value : List Char) : Option CharSet :=
  let value := normalize value
  match normalize name with
  | "gc" | "generalcategory" => category? value
  | "sc" | "script" => script? value
  | "scx" | "scriptextensions" => scriptExtension? value
  | "age" => age? value
  | "gcb" | "graphemeclusterbreak" => graphemeBreak? value
  | "wb" | "wordbreak" => wordBreak? value
  | "sb" | "sentencebreak" => sentenceBreak? value
  | _ => none

end StepPhrase.Regex.Property
