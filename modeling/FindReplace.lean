import FindReplace.Main
import FindReplace.Operator
import FindReplace.Proofs.Calls
import FindReplace.Proofs.Checks
import FindReplace.Proofs.ExactValues
import FindReplace.Proofs.Interchange
import FindReplace.Proofs.Invocation
import FindReplace.Proofs.LiteralPattern
import FindReplace.Proofs.LiteralReplacement
import FindReplace.Proofs.Matches
import FindReplace.Proofs.Occurrences
import FindReplace.Proofs.Passes
import FindReplace.Proofs.RaisedLimits
import FindReplace.Proofs.References
import FindReplace.Proofs.Refusals
import FindReplace.Proofs.SinglePass
import FindReplace.Proofs.TemplateParts
import FindReplace.Proofs.Trace
import FindReplace.Proofs.Encoding
import FindReplace.Proofs.Files
import FindReplace.Proofs.Printing
import FindReplace.Proofs.VerboseSwitch
import FindReplace.Proofs.Delivery
import FindReplace.Proofs.DollarSequences
import FindReplace.Proofs.TemplateReading
import FindReplace.Proofs.Provenance
import FindReplace.Proofs.InPlace
import FindReplace.Proofs.Decoding
import FindReplace.Proofs.UnreadInput
import FindReplace.Proofs.Readers
import FindReplace.Proofs.PatternLimits
import FindReplace.Proofs.Taxonomy
import FindReplace.Proofs.Languages
import FindReplace.Proofs.FirstWay
import FindReplace.Proofs.SignatureGrammar
import FindReplace.Proofs.SignaturePatterns
import FindReplace.Proofs.EffectiveArguments
import FindReplace.Proofs.SelfReplacement
import FindReplace.Proofs.FirstMatch
import FindReplace.Proofs.ExactLimits
import FindReplace.Proofs.TemplateBoundaries
import FindReplace.Proofs.LongestReference
import FindReplace.Proofs.SymbolWords
import FindReplace.Proofs.NamedCharacters
