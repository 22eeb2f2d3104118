import PatternGrammar.CharSet
import PatternGrammar.Unicode.Letters
import PatternGrammar.Unicode.Marks
import PatternGrammar.Unicode.Numbers
import PatternGrammar.Unicode.Punctuation
import PatternGrammar.Unicode.Symbols
import PatternGrammar.Unicode.Separators
import PatternGrammar.Unicode.Invisibles
import PatternGrammar.Unicode.Newest

/-!
# Sets built from the general categories

Letters, marks, numbers and so on as unions of general categories; the alphabetic characters, the word characters, the
characters of names, and those that are shown as they are when text is quoted.
-/

namespace PatternGrammar.CharSet

open Unicode

def casedLetters : CharSet :=
  unions [bands upperLetters, bands lowerLetters, bands titleLetters]

def letters : CharSet :=
  unions [bands lowerLetters, bands upperLetters, bands otherLetters, bands modifierLetters, bands titleLetters]

def marks : CharSet :=
  unions [bands nonspacingMarks, bands spacingMarks, bands enclosingMarks]

def digits : CharSet :=
  bands decimalDigits

def numbers : CharSet :=
  unions [bands decimalDigits, bands letterNumbers, bands otherNumbers]

def punctuation : CharSet :=
  unions [bands otherPunctuation, bands connectors, bands dashes, bands openBrackets, bands closeBrackets,
    bands initialQuotes, bands finalQuotes]

def symbols : CharSet :=
  unions [bands mathSymbols, bands currencySymbols, bands modifierSymbols, bands otherSymbols]

def separators : CharSet :=
  unions [bands spaceSeparators, bands lineSeparators, bands paragraphSeparators]

def assigned : CharSet :=
  unions [letters, marks, numbers, punctuation, symbols, separators, bands controls, bands formats, bands privateUse]

def spaces : CharSet :=
  bands whiteSpace

/-- Alphabetic characters: letters, letter numbers, vowel signs, and letters in circles and squares. -/
def alphabetic : CharSet :=
  unions [letters, bands letterNumbers, bands alphabeticMarks, bands circledLetters]

/-- Alphabetic characters, the newest ones among them. They may begin a name. -/
def nameStarts : CharSet :=
  union alphabetic (bands newAlphabetic)

/-- Alphabetic characters and numbers, the newest ones among them. They may stand inside a name. -/
def nameParts : CharSet :=
  unions [nameStarts, numbers, bands newNumbers]

def uppercase : CharSet :=
  union (bands upperLetters) (bands otherUppercase)

def lowercase : CharSet :=
  union (bands lowerLetters) (bands otherLowercase)

/-- Word characters: alphabetic characters, marks, decimal digits, connectors such as `_`, and joiners. -/
def words : CharSet :=
  unions [letters, digits, bands connectors, marks, bands letterNumbers, bands joiners, bands circledLetters]

def asciiDigits : CharSet :=
  range 0x30 0x39

def asciiSpaces : CharSet :=
  bands [⟨0x09, 0x0D, 1⟩, ⟨0x20, 0x20, 1⟩]

def asciiWords : CharSet :=
  bands [⟨0x30, 0x39, 1⟩, ⟨0x41, 0x5A, 1⟩, ⟨0x5F, 0x5F, 1⟩, ⟨0x61, 0x7A, 1⟩]

def graphemeExtending : CharSet :=
  unions [bands nonspacingMarks, bands enclosingMarks, bands graphemeExtenders]

/-- Characters with a general category that gives them a shape, the newest ones among them. -/
def shaped : CharSet :=
  unions [letters, numbers, punctuation, symbols, marks, bands newCharacters]

/-- Characters that have a shape of their own, so that quoted text shows them as they are: the space and the shaped
characters, without the marks that extend the grapheme before them and the letters that only fill a place. -/
def printable : CharSet :=
  union (single 0x20)
    (diff shaped (unions [inter marks graphemeExtending, bands newNonspacingMarks, bands otherIgnorables]))

end PatternGrammar.CharSet
