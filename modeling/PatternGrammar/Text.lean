/-!
# Texts

Texts are lists of characters, so that positions and lengths count characters.
-/

namespace PatternGrammar

abbrev Text := List Char

def Text.piece (text : Text) (start stop : Nat) : Text :=
  (text.drop start).take (stop - start)

end PatternGrammar
