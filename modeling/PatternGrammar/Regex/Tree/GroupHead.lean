import PatternGrammar.Regex.Tree.Escape

/-!
# The heads of groups

What stands between the opening parenthesis of a group and its body: nothing, a name, or flags; and flags that are set
for the rest of the group around them.
-/

namespace PatternGrammar.Regex

/-- What an opening parenthesis begins. -/
inductive GroupHead where
  /-- A capture group. -/
  | capture
  /-- A capture group with a name, which has not been given before. -/
  | named (name : List Char) (span : Span)
  /-- A group that sets flags for its body. -/
  | flagged (settings : List FlagSetting)
  /-- No group, but flags for the rest of the group around. -/
  | setFlags (settings : List FlagSetting)
  deriving DecidableEq, Repr

/-! ## Flags -/

def Flag.ofChar? : Char → Option Flag
  | 'i' => some .caseInsensitive
  | 'm' => some .multiLine
  | 's' => some .dotMatchesNewLine
  | 'U' => some .swapGreed
  | 'u' => some .unicode
  | 'R' => some .crlf
  | 'x' => some .ignoreWhitespace
  | _ => none

/-- A flag letter, or the `-` that switches the flags after it off. -/
inductive FlagItem where
  | negation
  | flag (f : Flag)
  deriving DecidableEq, Repr

def FlagItem.ofChar? (c : Char) : Option FlagItem :=
  if c == '-' then some .negation else (Flag.ofChar? c).map .flag

/-- Reads flags up to the `:` or `)` after them, which is left. The items before are in `seen`, the last of them in
front. -/
def readFlagItems (seen : List (FlagItem × Span)) : List Char → Reading (List (FlagItem × Span))
  | [] => refuse .flagMissing [] []
  | c :: rest =>
    if c == ':' || c == ')' then
      match seen with
      | (.negation, span) :: _ => refuseAt .flagNegationDangling span
      | _ => .ok (seen.reverse, c :: rest)
    else
      let span := Span.between (c :: rest) rest
      match FlagItem.ofChar? c with
      | none => refuseAt .flagUnrecognized span
      | some item =>
        match seen.find? (·.1 = item) with
        | some (_, earlier) =>
          refuseRepeat (if item = .negation then .flagNegationRepeated else .flagDuplicate) span earlier
        | none => readFlagItems ((item, span) :: seen) rest

/-- The settings that some flag items make: on before the `-`, off after it. -/
def settingsOf (on : Bool) : List FlagItem → List FlagSetting
  | [] => []
  | .negation :: items => settingsOf false items
  | .flag f :: items => (f, on) :: settingsOf on items

def settingOf? (flag : Flag) : List FlagSetting → Option Bool
  | [] => none
  | (f, on) :: settings => if f = flag then some on else settingOf? flag settings

/-! ## Names -/

def isNameChar (first : Bool) (c : Char) : Bool :=
  if first then c == '_' || CharSet.nameStarts.mem c
  else c == '_' || c == '.' || c == '[' || c == ']' || CharSet.nameParts.mem c

/-- Reads the characters of a name up to the `>` after it, which is left. -/
def readNameChars (first : Bool) : List Char → Reading (List Char)
  | [] => refuse .groupNameUnclosed [] []
  | c :: rest =>
    if c == '>' then .ok ([], c :: rest)
    else if !isNameChar first c then refuse .groupNameInvalid (c :: rest) rest
    else
      match readNameChars false rest with
      | .error e => .error e
      | .ok (name, after) => .ok (c :: name, after)

/-- Reads a name that is not among the names `given` before. -/
def readName (given : List (List Char × Span)) (text : List Char) : Reading GroupHead :=
  match readNameChars true text with
  | .error e => .error e
  | .ok (name, rest) =>
    if name.isEmpty then refuseAt .groupNameEmpty (.here text)
    else
      let span := Span.between text rest
      match given.find? (·.1 = name) with
      | some (_, earlier) => refuseRepeat .groupNameDuplicate span earlier
      | none => .ok (.named name span, rest.drop 1)

/-! ## All heads -/

/-- The text after a mark that begins some text. -/
def after? (mark text : List Char) : Option (List Char) :=
  if mark.isPrefixOf text then some (text.drop mark.length) else none

/-- The text after the mark of a look-around, if there is one. -/
def lookAround? (text : List Char) : Option (List Char) :=
  [['?', '='], ['?', '!'], ['?', '<', '='], ['?', '<', '!']].findSome? (after? · text)

/-- Reads the head of a group from its parenthesis on. -/
def readGroupHead (ignoring : Bool) (given : List (List Char × Span)) (text : List Char) : Reading GroupHead :=
  let inner := skipIgnored ignoring (text.drop 1)
  -- before names, which begin like a look behind
  match lookAround? inner with
  | some after => refuse .lookAround text after
  | none =>
    match (after? ['?', 'P', '<'] inner).or (after? ['?', '<'] inner) with
    | some afterMark => readName given afterMark
    | none =>
      match inner with
      | '?' :: [] => refuseAt .groupUnclosed (.first text)
      | '?' :: flags =>
        match readFlagItems [] flags with
        | .error e => .error e
        | .ok (items, rest) =>
          let settings := settingsOf true (items.map (·.1))
          if rest.head? = some ')' then
            -- without flags the question mark is a repetition of nothing
            if items.isEmpty then refuseAt .repetitionMissing (.here inner)
            else .ok (.setFlags settings, rest.drop 1)
          else .ok (.flagged settings, rest.drop 1)
      | _ => .ok (.capture, inner)

end PatternGrammar.Regex
