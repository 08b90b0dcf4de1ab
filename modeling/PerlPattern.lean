import PerlPattern.Host.Functions
import PerlPattern.Host.Replace
import PerlPattern.Proofs.Rounds
import PerlPattern.Proofs.SearchLog
import PerlPattern.Proofs.SearchBound
import PerlPattern.Proofs.Splice
import PerlPattern.Proofs.LoopsAgree
import PerlPattern.Proofs.BufferReuse
import PerlPattern.Proofs.EngineSearch
import PerlPattern.Proofs.Rows
import PerlPattern.Proofs.ShortRuns
import PerlPattern.Proofs.LimitedRuns
import PerlPattern.Proofs.DelimitedGrammar
import PerlPattern.Proofs.TemplateReading
import PerlPattern.Proofs.GlobalMatches
import PerlPattern.Proofs.BacktrackPatience
import PerlPattern.Proofs.EngineChoice
import PerlPattern.Proofs.Scans
import PerlPattern.Proofs.LoopSafety
import PerlPattern.Proofs.CaptureAndPosition
import PerlPattern.Proofs.SessionFunctions
import PerlPattern.Proofs.ConstantPatterns
import PerlPattern.Proofs.PatternCheck
import PerlPattern.Proofs.SpentLimit
import PerlPattern.Proofs.MatchAgreement
import PerlPattern.Proofs.TextBoundaries
import PerlPattern.Proofs.TextOutput
import PerlPattern.Proofs.RecordedGroups
import PerlPattern.Proofs.CaptureGroups
import PerlPattern.Proofs.Reservation
import PerlPattern.Proofs.DelimitedFaults
import PerlPattern.Proofs.NullReplacement
import PerlPattern.Proofs.BufferHistory
import PerlPattern.Proofs.GeometricGrowth
import PerlPattern.Proofs.AnchoredPatterns
import PerlPattern.Proofs.NullPatterns
import PerlPattern.Proofs.LengthEstimate
import PerlPattern.Proofs.CodeSets
import PerlPattern.Proofs.SettingsVariables
import PerlPattern.Proofs.GroupNesting
import PerlPattern.Proofs.OffsetsHistory
