/-! Why a text is no number, truth value or character. -/
namespace StepPhrase

inductive ScalarError where
  | emptyInteger
  | invalidDigit
  | tooLarge
  | tooSmall
  | emptyFloat
  | invalidFloat
  | notBool
  | noChar
  | manyChars
  deriving DecidableEq, Repr

def ScalarError.message : ScalarError → String
  | emptyInteger => "cannot parse integer from empty string"
  | invalidDigit => "invalid digit found in string"
  | tooLarge => "number too large to fit in target type"
  | tooSmall => "number too small to fit in target type"
  | emptyFloat => "cannot parse float from empty string"
  | invalidFloat => "invalid float literal"
  | notBool => "provided string was not `true` or `false`"
  | noChar => "cannot parse char from empty string"
  | manyChars => "too many characters in string"

end StepPhrase
