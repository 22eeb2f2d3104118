import PatternGrammar.Config.ByteStream.Reader
import PatternGrammar.PatternError

/-!
# Loading options

Options come from a text, of which all bytes are there from the start, or from a file, which is read as a stream. What
goes wrong is reported as a `PatternError` that says where.
-/

namespace PatternGrammar.Config

def ofJson (text : List Char) : Except PatternError Config :=
  match read (Text.utf8 text) with
  | .ok c => .ok c
  | .error e => .error (.invalidConfig ("Failed to parse config: " ++ e.message .text))

/-- What is found under the name of a file. -/
inductive FileState where
  | missing
  | directory
  | bytes (content : List UInt8)
  deriving DecidableEq, Repr

def ofFile : FileState → Except PatternError Config
  | .missing => .error (.invalidConfig "Failed to open config file: No such file or directory (os error 2)")
  | .directory => .error (.invalidConfig "Failed to parse config file: Is a directory (os error 21)")
  | .bytes content =>
    match readStream (.ofBytes content) with
    | .ok c => .ok c
    | .error r => .error (.invalidConfig ("Failed to parse config file: " ++ r.message))

end PatternGrammar.Config
