/-!
# Errors

What can go wrong before anything is parsed: a pattern or the options for it are refused.
-/

namespace PatternGrammar

/-- Why a pattern, or the options for one, cannot be used. -/
inductive PatternError where
  /-- The pattern is not well-formed. -/
  | invalidPattern (pattern message : String)
  /-- The compiled pattern would be larger than the options allow. -/
  | patternTooLarge (pattern message : String)
  /-- The options cannot be read. -/
  | invalidConfig (message : String)
  deriving DecidableEq, Repr

namespace PatternError

def message : PatternError → String
  | invalidPattern p m => "Invalid regular expression `" ++ p ++ "`: " ++ m
  | patternTooLarge p m => "Regular expression `" ++ p ++ "` is too large: " ++ m
  | invalidConfig m => "Invalid pattern config: " ++ m

def pattern? : PatternError → Option String
  | invalidPattern p _ => some p
  | patternTooLarge p _ => some p
  | invalidConfig _ => none

end PatternError

end PatternGrammar
