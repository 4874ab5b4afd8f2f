import Concord.Text.Blank
import Concord.Text.Digit
import Concord.Text.Quoted
import Concord.Text.Lower
import Concord.Text.Upper
import Concord.Text.Fold
import Concord.Number.Decimal.Printer
import Concord.Number.Decimal.Reader
import Concord.Number.Decimal.Rounding
import Concord.Number.Binary64.Printer
import Concord.Value.Printer
import Concord.Value.Key
import Concord.Plural.Language
import Concord.Agreement.Grammar
import Concord.Intake.Lexeme
import Concord.Catalog.Merge
import Concord.Rendering.Localizer
import Concord.Logger
import Concord.Intake.Locale
import Concord.Proofs.Catalog.History
import Concord.Proofs.Rendering.StaticNouns
import Concord.Proofs.Rendering.Failure
import Concord.Proofs.Rendering.Wrapping
import Concord.Proofs.Rendering.Targets
import Concord.Proofs.Intake.Refusal
import Concord.Proofs.Intake.Acceptance
import Concord.Proofs.Intake.RoundTrip
import Concord.Proofs.Catalog.Ingestion
import Concord.Proofs.Rendering.Neighbourhood
import Concord.Proofs.Rendering.Relocation
import Concord.Proofs.Rendering.Vocabulary
import Concord.Proofs.Text.Folding
import Concord.Proofs.Rendering.LetterCase
import Concord.Proofs.Value.Shape
import Concord.Proofs.Rendering.Interchange
import Concord.Proofs.Plural.NearOne
import Concord.Proofs.Plural.Spelling
import Concord.Proofs.Rendering.Influence
import Concord.Proofs.Rendering.Cutting
import Concord.Proofs.Rendering.Substitution
import Concord.Proofs.Rendering.Joining
import Concord.Proofs.Rendering.NextWord
import Concord.Proofs.Plural.Display
import Concord.Proofs.Plural.Questions
import Concord.Proofs.Plural.LastDigits
import Concord.Proofs.Plural.Slavic
import Concord.Proofs.Agreement.Renaming
import Concord.Proofs.Rendering.Siblings
import Concord.Proofs.Rendering.ZeroPhrase
import Concord.Proofs.Agreement.Script
import Concord.Proofs.Agreement.Capitals
import Concord.Proofs.Rendering.CapitalFlags
import Concord.Proofs.Catalog.Filing
import Concord.Proofs.Agreement.Tables
import Concord.Proofs.Logger.Configuring
import Concord.Proofs.Rendering.MissingLabel
import Concord.Proofs.Catalog.Events
