import PatternGrammar.CharSet.Standard
import PatternGrammar.Unicode.Case
import PatternGrammar.Unicode.Emoji
import PatternGrammar.Unicode.Identifiers
import PatternGrammar.Unicode.Signs

/-!
# Derived properties

Properties that the Unicode character database derives from general categories and from lists of its own: those about
letter case, identifiers, graphemes, punctuation and emoji.
-/

namespace PatternGrammar.CharSet

open Unicode

/-! ## Letter case -/

def cased : CharSet :=
  unions [lowercase, uppercase, bands titleLetters]

/-- Characters that the rules of case pass over: marks, format characters, modifiers and some punctuation. -/
def caseIgnorable : CharSet :=
  unions [bands nonspacingMarks, bands enclosingMarks, bands formats, bands modifierLetters, bands modifierSymbols,
    bands caseIgnorableSigns]

def lowerChanging : CharSet :=
  diff (union uppercase (bands titleLetters)) (bands plainCapitals)

def upperChanging : CharSet :=
  diff (union lowercase (bands titleLetters)) (bands plainSmalls)

def titleChanging : CharSet :=
  diff (union upperChanging (bands capitalDigraphs)) (bands titleForms)

def foldChanging : CharSet :=
  diff (union lowerChanging (bands foldedSmalls)) (bands unfoldedCapitals)

def caseChanging : CharSet :=
  unions [lowerChanging, upperChanging, titleChanging]

/-! ## Identifiers -/

/-- Characters reserved for patterns, which are never part of an identifier. -/
def patternReserved : CharSet :=
  union (bands patternSyntax) (bands patternSpaces)

def identifierStarts : CharSet :=
  diff (unions [letters, bands letterNumbers, bands otherIdStarts]) patternReserved

def identifierParts : CharSet :=
  diff (unions [identifierStarts, bands nonspacingMarks, bands spacingMarks, digits, bands connectors,
    bands otherIdContinues]) patternReserved

/-- Characters that may start an identifier, also after compatibility composition. -/
def closedIdentifierStarts : CharSet :=
  diff identifierStarts (bands composedIdStarts)

/-- Characters that may stand inside an identifier, also after compatibility composition. -/
def closedIdentifierParts : CharSet :=
  diff identifierParts (bands composedIdContinues)

/-! ## Graphemes and what is shown -/

/-- Characters that a grapheme may begin with: neither separators nor others nor characters that extend graphemes. -/
def graphemeBases : CharSet :=
  diff (unions [letters, marks, numbers, punctuation, symbols, bands spaceSeparators]) graphemeExtending

/-- Characters that are not shown, even where there is no picture for them. -/
def ignorable : CharSet :=
  diff (unions [bands otherIgnorables, bands formats, bands variationSelectors])
    (unions [spaces, bands prependedMarks, bands shownFormats])

/-! ## Signs -/

def mathematical : CharSet :=
  union (bands mathSymbols) (bands otherMath)

def allDashes : CharSet :=
  union (bands dashes) (bands otherDashes)

def terminalPunctuation : CharSet :=
  union (bands sentenceEnds) (bands clauseEnds)

def asciiHexDigits : CharSet :=
  bands [⟨0x30, 0x39, 1⟩, ⟨0x41, 0x46, 1⟩, ⟨0x61, 0x66, 1⟩]

/-- Emoji, shown as such or as text by default. -/
def emoji : CharSet :=
  union (bands emojiPresentations) (bands textEmoji)

end PatternGrammar.CharSet
