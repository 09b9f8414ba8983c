import HtmlNesting.Main
import HtmlNesting.Settings.Store
import HtmlNesting.Arena
import HtmlNesting.Proofs.Discovery
import HtmlNesting.Proofs.DocumentOrder
import HtmlNesting.Proofs.Faultless
import HtmlNesting.Proofs.Validation
import HtmlNesting.Proofs.Alike
import HtmlNesting.Proofs.Surroundings
import HtmlNesting.Proofs.Spacing
import HtmlNesting.Proofs.Wrapping
import HtmlNesting.Proofs.Placement
import HtmlNesting.Proofs.Lookups
import HtmlNesting.Proofs.DeclaredCodes
import HtmlNesting.Proofs.LongestMatch
import HtmlNesting.Proofs.SegmentGrammar
import HtmlNesting.Proofs.Structure
import HtmlNesting.Proofs.MediaContent
import HtmlNesting.Proofs.Exclusions
import HtmlNesting.Proofs.Severities
import HtmlNesting.Proofs.RootsApart
import HtmlNesting.Proofs.Locality
import HtmlNesting.Proofs.Decoding
import HtmlNesting.Proofs.Delegation
import HtmlNesting.Proofs.PathTexts
import HtmlNesting.Proofs.Tallies
import HtmlNesting.Proofs.FileRuns
import HtmlNesting.Proofs.Expansion
import HtmlNesting.Proofs.CommandRuns
import HtmlNesting.Proofs.Catalogs
import HtmlNesting.Proofs.Assignments
import HtmlNesting.Proofs.CapFindings
import HtmlNesting.Proofs.Assigning
import HtmlNesting.Proofs.Evaluations
import HtmlNesting.Proofs.GroupLanguage
import HtmlNesting.Proofs.Repairs
import HtmlNesting.Proofs.Conversions
import HtmlNesting.Proofs.Merging
import HtmlNesting.Proofs.JsonReading
import HtmlNesting.Proofs.SettingsFiles
import HtmlNesting.Proofs.Allowances
import HtmlNesting.Proofs.LookingUp
import HtmlNesting.Proofs.Linking
import HtmlNesting.Proofs.Navigation
import HtmlNesting.Proofs.NearestSettings
import HtmlNesting.Proofs.Gathering
import HtmlNesting.Proofs.WorkerResults
import HtmlNesting.Proofs.Holding
import HtmlNesting.Proofs.HeldCasts
import HtmlNesting.Proofs.SettingInPlace
