import PatternGrammar.Config

/-!
# Options as JSON

Options are written as one object with all members in order and no white space.
-/

namespace PatternGrammar.Config

def member (c : Config) (f : Field) : List Char :=
  '"' :: f.name.toList ++ ['"', ':'] ++ (c.valueText f).toList

def members (c : Config) : List Field → List Char
  | [] => []
  | [f] => c.member f
  | f :: g :: fs => c.member f ++ ',' :: c.members (g :: fs)

def toJson (c : Config) : List Char :=
  '{' :: c.members Field.all ++ ['}']

end PatternGrammar.Config
