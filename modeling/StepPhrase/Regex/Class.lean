import StepPhrase.Unicode.Blank
import StepPhrase.Unicode.CharSet.Algebra
import StepPhrase.Unicode.Property

/-! The sets of characters that regular expressions have short names for, and those these are made
of. -/
namespace StepPhrase.Regex.Class

open StepPhrase.Unicode

def ascii : CharSet := .range 0 0x7F

def letter : CharSet :=
  .unions [Category.lowercaseLetter, Category.uppercaseLetter, Category.titlecaseLetter,
    Category.modifierLetter, Category.otherLetter]

def lowercase : CharSet := Category.lowercaseLetter.union otherLowercase

def uppercase : CharSet := Category.uppercaseLetter.union otherUppercase

def alphabetic : CharSet :=
  .unions [letter, Category.letterNumber, otherLowercase, otherUppercase, otherAlphabetic]

def mark : CharSet :=
  .unions [Category.nonspacingMark, Category.spacingMark, Category.enclosingMark]

/-- Characters of words: alphabetic ones, marks, digits, connectors and the two joiners. -/
def word : CharSet :=
  .unions [alphabetic, mark, decimalDigits, Category.connector, .range 0x200C 0x200D]

def number : CharSet := .unions [decimalDigits, Category.letterNumber, Category.otherNumber]

def asciiDigit : CharSet := .range '0'.toNat '9'.toNat

def asciiSpace : CharSet := ⟨[(0x9, 0xD), (0x20, 0x20)]⟩

def asciiWord : CharSet := ⟨[(0x30, 0x39), (0x41, 0x5A), (0x5F, 0x5F), (0x61, 0x7A)]⟩

end StepPhrase.Regex.Class
