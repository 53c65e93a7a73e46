import StepPhrase.Regex.Property
import StepPhrase.Unicode.Additions

/-! Texts in quotation marks, with escapes for what would not be seen. -/
namespace StepPhrase.Text

open StepPhrase.Unicode StepPhrase.Regex

/-- Characters that extend the one before them. The halfwidth sound marks do not: they are
letters. -/
def extending : CharSet :=
  (Property.graphemeExtend.diff (.range 0xFF9E 0xFF9F)).union Additions.extending

/-- Characters that show nothing although they are letters. -/
def fillers : CharSet :=
  .ofText "115F-1160 3164 FFA0"

/-- Characters that are seen as themselves: all that are assigned but controls, formats, private
ones, separators other than the space, and those that extend the character before them. -/
def visible : CharSet :=
  (Property.assigned.union Additions.all).diff (.unions [extending, fillers,
    Category.space.diff (.char ' '), Category.lineSeparator, Category.paragraphSeparator,
    Category.control, Category.format, Category.surrogate, Category.privateUse])

def isVisible (c : Char) : Bool := visible.contains c

def escapeChar (c : Char) : String :=
  match c with
  | '\x00' => "\\0"
  | '\t' => "\\t"
  | '\n' => "\\n"
  | '\r' => "\\r"
  | '"' => "\\\""
  | '\\' => "\\\\"
  | c =>
    if isVisible c then c.toString
    else "\\u\x7b" ++ String.ofList (Nat.toDigits 16 c.toNat) ++ "\x7d"

def quoted (s : String) : String := "\"" ++ String.join (s.toList.map escapeChar) ++ "\""

/-- Items in square brackets. -/
def listed (items : List String) : String := "[" ++ ", ".intercalate items ++ "]"

end StepPhrase.Text
