import StepPhrase.Describe
import StepPhrase.Suite.Script
import StepPhrase.Proofs.Regex.Code
import StepPhrase.Proofs.Regex.Matching
import StepPhrase.Proofs.Regex.Path
import StepPhrase.Proofs.Regex.Joins
import StepPhrase.Proofs.Regex.Building
import StepPhrase.Proofs.Regex.Exploration
import StepPhrase.Proofs.Regex.Renumbering
import StepPhrase.Proofs.Regex.Stability.Bracket
import StepPhrase.Proofs.Regex.Embedding
import StepPhrase.Proofs.Regex.Stability.Count
import StepPhrase.Proofs.Regex.Enclosing
import StepPhrase.Proofs.Pattern.Source
import StepPhrase.Proofs.Regex.Likeness
import StepPhrase.Proofs.Regex.Opened
import StepPhrase.Proofs.Pattern.Cut
import StepPhrase.Proofs.Unicode.Folding
import StepPhrase.Proofs.Pattern.Fragments
import StepPhrase.Proofs.Pattern.Types
import StepPhrase.Proofs.Expression.Compiled
import StepPhrase.Proofs.Expression.Alignment
import StepPhrase.Proofs.Expression.Anchoring
import StepPhrase.Proofs.Expression.Matching
import StepPhrase.Proofs.Expression.Agreement
import StepPhrase.Proofs.Pattern.Balance
import StepPhrase.Proofs.Pattern.Placeholder
import StepPhrase.Proofs.Pattern.Scan
import StepPhrase.Proofs.Expression.Faults
import StepPhrase.Proofs.Expression.Escaping
import StepPhrase.Proofs.Text.Ascii
import StepPhrase.Proofs.Scalar.Reading
import StepPhrase.Proofs.Expression.Conversion
import StepPhrase.Proofs.Regex.Preferred
import StepPhrase.Proofs.Regex.Ways
import StepPhrase.Proofs.Regex.Order
import StepPhrase.Proofs.Pattern.Choice
import StepPhrase.Proofs.Expression.Choice
import StepPhrase.Proofs.Pattern.Hint
import StepPhrase.Proofs.Expression.Strict
import StepPhrase.Proofs.Expression.Hints
import StepPhrase.Proofs.Registry.History
import StepPhrase.Proofs.Lookup
import StepPhrase.Proofs.Registry.Definitions
import StepPhrase.Proofs.Table.Rows
import StepPhrase.Proofs.Table.Transpose
import StepPhrase.Proofs.Step.Created
import StepPhrase.Proofs.Step.Run
import StepPhrase.Proofs.Step.Named
import StepPhrase.Proofs.Registry.Typing
import StepPhrase.Proofs.Step.Typed
import StepPhrase.Proofs.Step.Structural
import StepPhrase.Proofs.Step.Malformed
import StepPhrase.Proofs.Step.Transposed
import StepPhrase.Proofs.Step.LastDefinitions
import StepPhrase.Proofs.Text.Json
import StepPhrase.Proofs.Registry.Listing
import StepPhrase.Proofs.Step.Records
import StepPhrase.Proofs.Table.Reading
import StepPhrase.Proofs.Table.HeaderMaps
import StepPhrase.Proofs.Table.Records
import StepPhrase.Proofs.Scalar.Integer
import StepPhrase.Proofs.Expression.Arguments
import StepPhrase.Proofs.Pattern.Writing
import StepPhrase.Proofs.Table.Keys
import StepPhrase.Proofs.Causes
import StepPhrase.Proofs.Pattern.Closing
import StepPhrase.Proofs.Pattern.Appending
