import PatternGrammar.CharSet.Derived
import PatternGrammar.Unicode.Breaks
import PatternGrammar.Unicode.Ideographs

/-!
# Graphemes, words and sentences

How characters behave at the boundaries of graphemes, words and sentences. Each of the three tables gives the classes of
characters by name; a character that is in none of them separates by itself.
-/

namespace PatternGrammar.CharSet

open Unicode

def carriageReturn : CharSet :=
  single 0x0D

def lineFeed : CharSet :=
  single 0x0A

/-- The sign that joins the pictures on both sides of it. -/
def zeroWidthJoiner : CharSet :=
  single 0x200D

/-- Characters that extend what is before them: marks of all kinds and what else extends a grapheme. -/
def extending : CharSet :=
  union graphemeExtending (bands spacingMarks)

/-! ## Graphemes -/

def graphemeClasses : List (List String × CharSet) :=
  [(["cr"], carriageReturn),
   (["lf"], lineFeed),
   (["cn", "control"], bands graphemeControls),
   (["ex", "extend"], union graphemeExtending (bands emojiModifiers)),
   (["l"], bands hangulLeads),
   (["v"], bands hangulVowels),
   (["t"], bands hangulTails),
   (["lv"], bands openSyllables),
   (["lvt"], diff (bands syllables) (bands openSyllables)),
   (["pp", "prepend"], union (bands prependedMarks) (bands prependedLetters)),
   (["ri", "regionalindicator"], bands regionalIndicators),
   (["sm", "spacingmark"],
    union (diff (bands spacingMarks) (union graphemeExtending (bands separateMarks))) (bands spacingVowels)),
   (["zwj"], zeroWidthJoiner)]

/-! ## Words -/

/-- Letters of scripts in which spaces stand between words. -/
def wordLetters : CharSet :=
  diff (union alphabetic (bands wordSigns))
    (unions [bands ideographs, bands katakanaLetters, bands hebrewLetters, extending, bands unspacedLetters])

def wordClasses : List (List String × CharSet) :=
  [(["cr"], carriageReturn),
   (["lf"], lineFeed),
   (["nl", "newline"], bands wordNewlines),
   (["extend"], union extending (bands emojiModifiers)),
   (["zwj"], zeroWidthJoiner),
   (["fo", "format"], diff (bands formats) (bands wordFormatExceptions)),
   (["ri", "regionalindicator"], bands regionalIndicators),
   (["ka", "katakana"], bands katakanaLetters),
   (["hl", "hebrewletter"], bands hebrewLetters),
   (["le", "aletter"], wordLetters),
   (["sq", "singlequote"], single 0x27),
   (["dq", "doublequote"], single 0x22),
   (["mb", "midnumlet"], bands infixes),
   (["ml", "midletter"], bands letterInfixes),
   (["mn", "midnum"], bands digitInfixes),
   (["nu", "numeric"], diff (union digits (bands numberSigns)) (bands digitSeparators)),
   (["ex", "extendnumlet"], bands wordConnectors),
   (["wsegspace"], bands wordSpaces)]

/-! ## Sentences -/

/-- Letters that may follow the end of a sentence only in the middle of one. -/
def sentenceSmalls : CharSet :=
  diff lowercase (bands caselessSmalls)

/-- Letters that begin sentences. -/
def sentenceCapitals : CharSet :=
  diff (union uppercase (bands titleLetters)) (bands caselessCapitals)

def sentenceClasses : List (List String × CharSet) :=
  [(["cr"], carriageReturn),
   (["lf"], lineFeed),
   (["ex", "extend"], union extending zeroWidthJoiner),
   (["se", "sep"], bands sentenceSeparators),
   (["fo", "format"], diff (bands formats) (bands sentenceFormatExceptions)),
   (["sp"], diff spaces (unions [carriageReturn, lineFeed, bands sentenceSeparators])),
   (["lo", "lower"], sentenceSmalls),
   (["up", "upper"], sentenceCapitals),
   (["le", "oletter"],
    union (diff alphabetic (unions [sentenceSmalls, sentenceCapitals, extending])) (bands sentenceLetters)),
   (["nu", "numeric"], union digits (bands numberSigns)),
   (["at", "aterm"], bands fullStops),
   (["sc", "scontinue"], bands sentenceInfixes),
   (["st", "sterm"], diff (bands sentenceEnds) (bands fullStops)),
   (["cl", "close"],
    unions [bands openBrackets, bands closeBrackets, bands initialQuotes, bands finalQuotes, bands otherCloses])]

end PatternGrammar.CharSet
