import PatternGrammar.Regex.Tree.Bracket
import PatternGrammar.Regex.Tree.Count
import PatternGrammar.Regex.Tree.GroupHead

/-!
# The tree of a text

`Tree.ofText` reads a pattern. It goes through the text once, with one frame for each group that is open. The first
fault from left to right is reported.
-/

namespace PatternGrammar.Regex

/-- The body of a group, or of the whole pattern, as far as it is read. -/
structure Frame where
  /-- The text from the parenthesis on and the kind of the group. The whole pattern has none. -/
  opened : Option (List Char × GroupKind)
  /-- Whether white space and comments are ignored from here on. -/
  ignoring : Bool
  /-- The branches before the one under way, backwards. -/
  branches : List Tree
  /-- The place where the first branch starts. -/
  bodyAt : Span
  /-- The items of the branch under way, backwards. -/
  items : List Tree
  /-- The place where the branch under way starts. -/
  branchAt : Span

namespace Frame

def start (opened : Option (List Char × GroupKind)) (ignoring : Bool) (text : List Char) : Frame :=
  ⟨opened, ignoring, [], .here text, [], .here text⟩

/-- The branch under way, which ends before `rest`. -/
def branch (f : Frame) (rest : List Char) : Tree :=
  let span := f.branchAt.through (.here rest)
  match f.items with
  | [] => .empty span
  | [item] => item
  | items => .concat span items.reverse

/-- The body, which ends before `rest`. -/
def body (f : Frame) (rest : List Char) : Tree :=
  match f.branches with
  | [] => f.branch rest
  | branches => .alternation (f.bodyAt.through (.here rest)) (f.branch rest :: branches).reverse

def push (f : Frame) (item : Tree) : Frame :=
  { f with items := item :: f.items }

/-- The frame after a `|`, which stands before `rest`. -/
def nextBranch (f : Frame) (bar rest : List Char) : Frame :=
  { f with branches := f.branch bar :: f.branches, items := [], branchAt := .here rest }

/-- The item that a repetition operator would repeat, and the frame without it. Flags and nothing at all cannot be
repeated. -/
def takeLast? (f : Frame) : Option (Tree × Frame) :=
  match f.items with
  | [] => none
  | .flags _ _ :: _ => none
  | item :: items => some (item, { f with items := items })

/-- The frame with its last item repeated, up to `rest`. -/
def pushRepeated (f : Frame) (item : Tree) (count : Count) (rest : List Char) : Frame :=
  f.push (.repetition (item.span.through (.here rest)) count.min count.max count.greedy item)

end Frame

/-- Reads on in the innermost open group `frame`, itself inside the groups `outer`; the group names given before are in
`names`. Each step reads at least one character, so the fuel is the length of the text. -/
def readBody : Nat → Frame → List Frame → List (List Char × Span) → List Char → Except SyntaxError Tree
  | 0, frame, _, _, text =>
    match frame.opened with
    | none => .ok (frame.body text)
    | some (parenthesis, _) => refuseAt .groupUnclosed (.first parenthesis)
  | fuel + 1, frame, outer, names, text =>
    match skipIgnored frame.ignoring text with
    | [] =>
      match frame.opened with
      | none => .ok (frame.body [])
      | some (parenthesis, _) => refuseAt .groupUnclosed (.first parenthesis)
    | c :: rest =>
      let here := c :: rest
      if c == '(' then
        match readGroupHead frame.ignoring names here with
        | .error e => .error e
        | .ok (.capture, after) =>
          readBody fuel (.start (some (here, .capture)) frame.ignoring after) (frame :: outer) names after
        | .ok (.named name span, after) =>
          readBody fuel (.start (some (here, .capture)) frame.ignoring after) (frame :: outer)
            ((name, span) :: names) after
        | .ok (.flagged settings, after) =>
          let ignoring := (settingOf? .ignoreWhitespace settings).getD frame.ignoring
          readBody fuel (.start (some (here, .flagged settings)) ignoring after) (frame :: outer)
            names after
        | .ok (.setFlags settings, after) =>
          -- no frame: the flags hold to the end of the group around
          let ignoring := (settingOf? .ignoreWhitespace settings).getD frame.ignoring
          let frame := { frame.push (.flags (.between here after) settings) with ignoring := ignoring }
          readBody fuel frame outer names after
      else if c == ')' then
        match frame.opened, outer with
        | some (parenthesis, kind), f :: fs =>
          -- the frame below says for itself whether white space is ignored, so what was set inside ends here
          readBody fuel (f.push (.group (.between parenthesis rest) kind (frame.body here))) fs names rest
        | _, _ => refuse .groupUnopened here rest
      else if c == '|' then readBody fuel (frame.nextBranch here rest) outer names rest
      else if c == '[' then
        match readClass frame.ignoring here with
        | .error e => .error e
        | .ok (item, after) => readBody fuel (frame.push item) outer names after
      else if c == '?' || c == '*' || c == '+' then
        match frame.takeLast? with
        | none => refuseAt .repetitionMissing (.here here)
        | some (item, frame) =>
          let (count, after) := readOperator c rest
          readBody fuel (frame.pushRepeated item count after) outer names after
      else if c == '{' then
        match frame.takeLast? with
        | none => refuseAt .repetitionMissing (.here here)
        | some (item, frame) =>
          -- that there is nothing to repeat is reported before what is wrong with the counts
          match readCounts frame.ignoring here with
          | .error e => .error e
          | .ok (count, after) => readBody fuel (frame.pushRepeated item count after) outer names after
      else
        match readAtom frame.ignoring here with
        | .error e => .error e
        | .ok (atom, after) => readBody fuel (frame.push atom.toTree) outer names after

def Tree.ofText (pattern : List Char) : Except SyntaxError Tree :=
  readBody (pattern.length + 1) (.start none false pattern) [] [] pattern

end PatternGrammar.Regex
