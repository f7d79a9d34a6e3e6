import PathTemplate.CommandLine.Directory
import PathTemplate.Decimal.Reading
import PathTemplate.Main
import PathTemplate.Proofs.Matching.Crossing
import PathTemplate.Proofs.Matching.Folding
import PathTemplate.Proofs.Route.Contents
import PathTemplate.Proofs.Route.Membership
import PathTemplate.Proofs.Route.Succession
import PathTemplate.Scalar
import PathTemplate.Proofs.Route.FinalSlash
import PathTemplate.Proofs.Route.Respelling
import PathTemplate.Proofs.Template.Faults
import PathTemplate.Proofs.Template.Writing
import PathTemplate.Proofs.Route.Absolute
import PathTemplate.Proofs.Registry
import PathTemplate.Proofs.History
import PathTemplate.Proofs.Route.Outcome
import PathTemplate.Proofs.Route.Confinement
import PathTemplate.Proofs.Route.Descendants
import PathTemplate.Proofs.Route.Structured
import PathTemplate.Proofs.Route.Insulation
import PathTemplate.Proofs.Route.Normalization
import PathTemplate.Proofs.Json
import PathTemplate.Proofs.MatchResult
import PathTemplate.Proofs.Merging
import PathTemplate.Proofs.Route.Dependence
import PathTemplate.Proofs.Text.Escapes
import PathTemplate.Proofs.Matching.Writing
import PathTemplate.Proofs.CommandLine.Interleaving
