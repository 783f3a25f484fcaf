import Transclude.Main
import Transclude.Proofs.BlockCut
import Transclude.Proofs.BlockRenewal
import Transclude.Proofs.EmbeddingRule
import Transclude.Proofs.EmbeddedText
import Transclude.Proofs.FileReplacement
import Transclude.Proofs.FirstFault
import Transclude.Proofs.OpenedFiles
import Transclude.Proofs.Outline
import Transclude.Proofs.ReplaceRun
import Transclude.Proofs.ReportedLine
import Transclude.Proofs.RulePair
import Transclude.Proofs.SettledTree
import Transclude.Proofs.ModeAgreement
import Transclude.Proofs.OpenedTargets
import Transclude.Proofs.Numerals
import Transclude.Proofs.ParameterLanguage
import Transclude.Proofs.WrittenDocument
import Transclude.Proofs.SavedSettings
import Transclude.Proofs.PatternSearch
import Transclude.Proofs.DefaultMarkers
import Transclude.Proofs.RegionPass
import Transclude.Proofs.RegionCut
import Transclude.Proofs.DirectiveLines
import Transclude.Proofs.StreamReading
import Transclude.Proofs.PathSteps
import Transclude.Proofs.RegionAsFile
import Transclude.Proofs.PathPlaces
import Transclude.Proofs.TargetPaths
import Transclude.Proofs.KeptFiles
import Transclude.Proofs.RecordFields
import Transclude.Proofs.TokenLayout
import Transclude.Proofs.QuotedText
import Transclude.Proofs.WrittenTargets
import Transclude.Proofs.IndentSteps
import Transclude.Proofs.IndentScale
import Transclude.Proofs.RepeatedRuns
import Transclude.Proofs.NestedRuns
import Transclude.Proofs.MovedRegion
import Transclude.Proofs.NamedFiles
import Transclude.Proofs.TargetList
import Transclude.Proofs.MarkerLines
