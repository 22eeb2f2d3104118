import PatternGrammar.Config.Loading
import PatternGrammar.Proofs.Config.ByteStream.Reader

/-!
# Options from texts and from files

A text and a file with its bytes are read in two ways, a file byte by byte; they hold the same options, and are refused
for the same cause. The places in the two messages may differ by the byte that has been looked at.
-/

namespace PatternGrammar.Config

/-- Options from a file, by what is read from its bytes at once. -/
theorem ofFile_bytes (bytes : List UInt8) :
    ofFile (.bytes bytes) =
      match read bytes with
      | .ok config => .ok config
      | .error e => .error (.invalidConfig ("Failed to parse config file: " ++ e.cause.messageAt (e.place .file))) := by
  rw [ofFile, readStream_ofBytes]
  cases read bytes with
  | error e => rfl
  | ok config => rfl

/-- Loading a text and loading a file with its bytes gives the same options, or is refused for the same cause. -/
theorem ofFile_utf8 (text : Text) :
    (∀ config, ofFile (.bytes (Text.utf8 text)) = .ok config ↔ ofJson text = .ok config) ∧
      ((∃ config, ofFile (.bytes (Text.utf8 text)) = .ok config ∧ ofJson text = .ok config) ∨
        ∃ (cause : Cause) (inFile inText : Place),
          ofFile (.bytes (Text.utf8 text)) =
            .error (.invalidConfig ("Failed to parse config file: " ++ cause.messageAt inFile)) ∧
          ofJson text = .error (.invalidConfig ("Failed to parse config: " ++ cause.messageAt inText))) := by
  rw [ofFile_bytes, ofJson]
  cases read (Text.utf8 text) with
  | ok config => exact ⟨fun _ => Iff.rfl, .inl ⟨config, rfl, rfl⟩⟩
  | error e =>
    refine ⟨fun config => ?_, .inr ⟨e.cause, e.place .file, e.place .text, rfl, rfl⟩⟩
    constructor <;> intro h <;> contradiction

/-- The message for a list in the place of a truth value. -/
example : ofJson "[[]]".toList = .error (.invalidConfig
    "Failed to parse config: invalid type: sequence, expected a boolean at line 1 column 1") := by
  rfl

example : ofFile (.bytes (Text.utf8 "[[]]".toList)) = .error (.invalidConfig
    "Failed to parse config file: invalid type: sequence, expected a boolean at line 1 column 2") := by
  rfl

end PatternGrammar.Config
