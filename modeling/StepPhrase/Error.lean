import StepPhrase.Pattern.Fault
import StepPhrase.Scalar.Fault

/-! Everything that can fail when steps are matched and their arguments converted, with the text of
each error and the texts of its causes. -/
namespace StepPhrase

/-- What a step was not given when it was built. -/
inductive ArgumentFault where
  | noPattern
  | noType
  | emptyTypeName
  deriving DecidableEq, Repr

def ArgumentFault.message : ArgumentFault → String
  | noPattern => "expression can not be null"
  | noType => "table or doc-string type can not be null"
  | emptyTypeName => "table or doc-string type name can not be empty"

mutual

/-- Why a caller's code gave up: a reason of its own, or an error that it passes on. -/
inductive Cause where
  | reason (text : String)
  | scalar (e : ScalarError)
  | truthValue (value : String)
  | trimmed (e : Cause)
  | pattern (e : PatternError)
  | parameter (e : ParameterError)
  | table (e : TableError)
  | conversion (e : ConversionError)
  | step (e : StepError)

/-- A parameter type refused a captured text. -/
inductive ParameterError where
  | refused (parameter value : String) (cause : Cause)

/-- Faults of tables and of the rows read from them. -/
inductive TableError where
  | unevenRow (rowNumber expected actual : Nat)
  | missingHeader
  | duplicateHeader (column : String)
  | missingColumn (rowNumber : Nat) (column : String)
  | missingCell (rowNumber columnIndex : Nat)
  | cellParse (rowNumber columnIndex : Nat) (columnLabel : String) (cause : Cause)

inductive ConversionError where
  | noConverter (typeName : String)
  | notSingleCell (height width : Nat)
  | columnCount (expected actual : Nat)
  | duplicateKey (key : String)
  | typeMismatch (expected : String)
  | table (e : TableError)
  | parameter (e : ParameterError)
  | transform (typeName : String) (cause : Cause)
  /-- Converters called for each other deeper than the stack allows. -/
  | nestedTooDeep (typeName : String)

inductive StepError where
  | invalidArgument (fault : ArgumentFault)
  | malformedExpression (e : PatternError)
  | undefinedTableType (name : String)
  | malformedTable (e : TableError)
  | conversionFailure (e : ConversionError)

end

mutual

def Cause.message : Cause → String
  | .reason text => text
  | .scalar e => e.message
  | .truthValue value =>
    "unrecognised boolean value '" ++ value ++ "' (expected yes/y/true/1 or no/n/false/0)"
  | .trimmed e => "failed to parse trimmed value: " ++ e.message
  | .pattern e => e.message
  | .parameter e => e.message
  | .table e => e.message
  | .conversion e => e.message
  | .step e => e.message

def ParameterError.message : ParameterError → String
  | .refused parameter value cause =>
    "cannot convert `" ++ value ++ "` to parameter type `" ++ parameter ++ "`: " ++ cause.message

def TableError.message : TableError → String
  | .unevenRow rowNumber expected actual =>
    "data table row " ++ toString rowNumber ++ " has " ++ toString actual ++
      " cells but expected " ++ toString expected
  | .missingHeader => "data table requires a header row"
  | .duplicateHeader column => "data table header contains duplicate column '" ++ column ++ "'"
  | .missingColumn rowNumber column =>
    "data table row " ++ toString rowNumber ++ " is missing column '" ++ column ++ "'"
  | .missingCell rowNumber columnIndex =>
    "data table row " ++ toString rowNumber ++ " is missing cell " ++ toString columnIndex
  | .cellParse rowNumber columnIndex columnLabel cause =>
    "row " ++ toString rowNumber ++ ", column " ++ toString columnIndex ++ columnLabel ++ ": " ++
      cause.message

def ConversionError.message : ConversionError → String
  | .noConverter typeName => "no table converter registered for `" ++ typeName ++ "`"
  | .notSingleCell height width =>
    "expected a single cell but the table is " ++ toString height ++ "x" ++ toString width
  | .columnCount expected actual =>
    "expected " ++ toString expected ++ " columns but the table has " ++ toString actual
  | .duplicateKey key => "duplicate key '" ++ key ++ "' in table"
  | .typeMismatch expected => "converted value is not a `" ++ expected ++ "`"
  | .table e => e.message
  | .parameter e => e.message
  | .transform typeName cause =>
    "cannot convert table to `" ++ typeName ++ "`: " ++ cause.message
  | .nestedTooDeep typeName => "conversions nest too deep at `" ++ typeName ++ "`"

def StepError.message : StepError → String
  | .invalidArgument fault => fault.message
  | .malformedExpression e => "malformed step expression: " ++ e.message
  | .undefinedTableType name => "data table type `" ++ name ++ "` is not defined"
  | .malformedTable e => e.message
  | .conversionFailure e => e.message

end

mutual

/-- The messages of the causes behind an error, the nearest first. -/
def Cause.chain : Cause → List String
  | .reason _ => []
  | .scalar _ => []
  | .truthValue _ => []
  | .trimmed e => e.message :: e.chain
  | .pattern e => e.chain
  | .parameter e => e.chain
  | .table e => e.chain
  | .conversion e => e.chain
  | .step e => e.chain

def ParameterError.chain : ParameterError → List String
  | .refused _ _ cause => cause.message :: cause.chain

def TableError.chain : TableError → List String
  | .cellParse _ _ _ cause => cause.message :: cause.chain
  | _ => []

def ConversionError.chain : ConversionError → List String
  | .table e => e.chain
  | .parameter e => e.chain
  | .transform _ cause => cause.message :: cause.chain
  | _ => []

def StepError.chain : StepError → List String
  | .malformedExpression e => e.message :: e.chain
  | .malformedTable e => e.chain
  | .conversionFailure e => e.chain
  | _ => []

end

end StepPhrase
