import BrowserScript.Main
import BrowserScript.Proofs.Arity
import BrowserScript.Proofs.Concatenation
import BrowserScript.Proofs.ElementHandles
import BrowserScript.Proofs.FailedSteps
import BrowserScript.Proofs.IncludeCycles
import BrowserScript.Proofs.IncludeNesting
import BrowserScript.Proofs.Inlining
import BrowserScript.Proofs.Interruption
import BrowserScript.Proofs.RemoteSessions
import BrowserScript.Proofs.SessionBracketing
import BrowserScript.Proofs.TwinRuns
import BrowserScript.Proofs.KeptPromises
import BrowserScript.Proofs.WrittenWords
import BrowserScript.Proofs.Diagnostics
import BrowserScript.Proofs.IncludedScripts
import BrowserScript.Proofs.Templates
import BrowserScript.Proofs.WordGrammar
import BrowserScript.Proofs.VariableWrites
import BrowserScript.Proofs.ExitStatus
import BrowserScript.Proofs.TrimmedLines
import BrowserScript.Proofs.Spellings
import BrowserScript.Proofs.SplitPositions
import BrowserScript.Proofs.ExactBinding
import BrowserScript.Proofs.OptionPlaces
import BrowserScript.Proofs.PollingRounds
import BrowserScript.Proofs.EqualWaits
import BrowserScript.Proofs.PacedTurns
import BrowserScript.Proofs.DurationSums
import BrowserScript.Proofs.BrowserOptions
import BrowserScript.Proofs.PageHistory
import BrowserScript.Proofs.KeyConstants
import BrowserScript.Proofs.ActionTables
import BrowserScript.Proofs.NameSelectors
import BrowserScript.Proofs.DurationScan
import BrowserScript.Proofs.ByteOffsets
