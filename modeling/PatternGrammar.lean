import PatternGrammar.Config.Writer
import PatternGrammar.Inspect
import PatternGrammar.Proofs.Captures
import PatternGrammar.Proofs.Caseless
import PatternGrammar.Proofs.Characters
import PatternGrammar.Proofs.Config.Acceptance
import PatternGrammar.Proofs.Config.Cursor
import PatternGrammar.Proofs.Config.Elements
import PatternGrammar.Proofs.Config.Field
import PatternGrammar.Proofs.Config.Format
import PatternGrammar.Proofs.Config.Integer
import PatternGrammar.Proofs.Config.Json
import PatternGrammar.Proofs.Config.Loading
import PatternGrammar.Proofs.Config.Number
import PatternGrammar.Proofs.Config.Quotation
import PatternGrammar.Proofs.Config.RoundTrip
import PatternGrammar.Proofs.Config.Skipping
import PatternGrammar.Proofs.Extraction
import PatternGrammar.Proofs.Grammar.Alike
import PatternGrammar.Proofs.Grammar.Anchored
import PatternGrammar.Proofs.Grammar.Balance
import PatternGrammar.Proofs.Grammar.Choice
import PatternGrammar.Proofs.Grammar.Deletion
import PatternGrammar.Proofs.Grammar.Guarded
import PatternGrammar.Proofs.Grammar.Laws
import PatternGrammar.Proofs.Grammar.Letters
import PatternGrammar.Proofs.Grammar.LookAhead
import PatternGrammar.Proofs.Grammar.Parentheses
import PatternGrammar.Proofs.Grammar.Row
import PatternGrammar.Proofs.InlineFlags
import PatternGrammar.Proofs.Limits
import PatternGrammar.Proofs.Priority
import PatternGrammar.Proofs.Text.Letters
import PatternGrammar.Proofs.Text.Utf8
import PatternGrammar.Recipe
