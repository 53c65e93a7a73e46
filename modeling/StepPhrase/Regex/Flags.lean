import StepPhrase.Regex.Class
import StepPhrase.Unicode.Folding

/-! Flags of regular expressions, and what verbose mode skips. -/
namespace StepPhrase.Regex

open StepPhrase.Unicode

structure Flags where
  /-- `i` -/
  ignoreCase : Bool := false
  /-- `m`: `^` and `$` match at lines. -/
  multiLine : Bool := false
  /-- `s`: `.` matches line ends too. -/
  dotAll : Bool := false
  /-- `U`: `?` after a repetition makes it greedy. -/
  swapGreed : Bool := false
  /-- `u`: classes hold characters of all scripts. -/
  unicode : Bool := true
  /-- `x`: blanks and comments are skipped. -/
  verbose : Bool := false
  /-- `R`: `\r` and `\r\n` end lines too. -/
  crlf : Bool := false

namespace Flags

def set? (f : Flags) (flag : Char) (on : Bool) : Option Flags :=
  match flag with
  | 'i' => some { f with ignoreCase := on }
  | 'm' => some { f with multiLine := on }
  | 's' => some { f with dotAll := on }
  | 'U' => some { f with swapGreed := on }
  | 'u' => some { f with unicode := on }
  | 'x' => some { f with verbose := on }
  | 'R' => some { f with crlf := on }
  | _ => none

/-- Reads flags up to `:` or `)`, each at most once and the last no hyphen. Gives the new flags,
whether there was one, the end mark and what follows it. -/
def read (f : Flags) (seen : List Char) : List Char → Option (Flags × Bool × Char × List Char)
  | [] => none
  | c :: rest =>
    if c = ':' ∨ c = ')' then
      if seen.head? = some '-' then none else some (f, !seen.isEmpty, c, rest)
    else if seen.contains c then none
    else if c = '-' then read f ('-' :: seen) rest
    else match f.set? c (!seen.contains '-') with
      | some f => read f (c :: seen) rest
      | none => none

/-- The set with the characters that differ from a member in case at most, if the flags ignore
case; without `u` these are those of ASCII. -/
def fold (f : Flags) (s : CharSet) : CharSet :=
  if !f.ignoreCase then s
  else if f.unicode then Folding.close s
  else (Folding.close s).inter Class.ascii

/-- The set as the flags make it: folded, and complemented if `negated`. Without `u` sets are of
ASCII and have no complement, as it would hold bytes that are no characters. -/
def close? (f : Flags) (negated : Bool) (s : CharSet) : Option CharSet :=
  if !negated then some (f.fold s)
  else if f.unicode then some (f.fold s).compl
  else none

def word (f : Flags) : CharSet := if f.unicode then Class.word else Class.asciiWord

end Flags

/-- What is left after blanks and comments, of which one may have begun. -/
def skipVerbose (inComment : Bool) : List Char → List Char
  | [] => []
  | c :: rest =>
    if inComment then skipVerbose (c != '\n') rest
    else if Unicode.isBlank c then skipVerbose false rest
    else if c = '#' then skipVerbose true rest
    else c :: rest

/-- Skips blanks and comments if the mode is verbose. -/
def skip (verbose : Bool) (s : List Char) : List Char :=
  if verbose then skipVerbose false s else s

end StepPhrase.Regex
