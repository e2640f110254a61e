import InlineMarkup.Json.Forest
import InlineMarkup.Outline
import InlineMarkup.Settings.Layers
import InlineMarkup.Source
import InlineMarkup.Proofs.RuleList
import InlineMarkup.Proofs.Next
import InlineMarkup.Proofs.Outcome
import InlineMarkup.Proofs.Reading
import InlineMarkup.Proofs.UnderWay
import InlineMarkup.Proofs.Comparison
import InlineMarkup.Proofs.Memory
import InlineMarkup.Proofs.Tokenizing
import InlineMarkup.Proofs.RoundTrip
import InlineMarkup.Proofs.Canonical
import InlineMarkup.Proofs.Offsets
import InlineMarkup.Proofs.Totality
import InlineMarkup.Proofs.Restart
import InlineMarkup.Proofs.Typing
import InlineMarkup.Proofs.Json.RoundTrip
import InlineMarkup.Proofs.Nesting
import InlineMarkup.Proofs.Json.ReadBack
import InlineMarkup.Proofs.Invariant
import InlineMarkup.Proofs.Limit
import InlineMarkup.Proofs.Settings.Acceptance
import InlineMarkup.Proofs.Places
import InlineMarkup.Proofs.Priority
import InlineMarkup.Proofs.Matches
import InlineMarkup.Proofs.Siblings
import InlineMarkup.Proofs.Moments
import InlineMarkup.Proofs.Attempts
import InlineMarkup.Proofs.Verbatim
import InlineMarkup.Proofs.Unclosed
import InlineMarkup.Proofs.Settings.Slices
import InlineMarkup.Proofs.Outline
import InlineMarkup.Proofs.Surroundings
import InlineMarkup.Proofs.Correspondence
import InlineMarkup.Proofs.Interchange
import InlineMarkup.Proofs.Renaming
import InlineMarkup.Proofs.Piecewise
import InlineMarkup.Proofs.LeafTexts
import InlineMarkup.Proofs.Addresses
import InlineMarkup.Proofs.Margins
import InlineMarkup.Proofs.Rejection
import InlineMarkup.Proofs.Settings.Precedence
import InlineMarkup.Proofs.Scopes
import InlineMarkup.Proofs.Records
import InlineMarkup.Proofs.Pattern.UrlPattern
import InlineMarkup.Proofs.Pattern.Anchoring
import InlineMarkup.Proofs.Settings.Layering
