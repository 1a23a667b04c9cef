import Reckoner.Main
import Reckoner.Proofs.Agreement
import Reckoner.Proofs.Blanks
import Reckoner.Proofs.Breakdowns
import Reckoner.Proofs.Carets
import Reckoner.Proofs.Checks
import Reckoner.Proofs.CorrectRounding
import Reckoner.Proofs.DecimalText
import Reckoner.Proofs.DimPrints
import Reckoner.Proofs.DocumentSettings
import Reckoner.Proofs.EarliestError
import Reckoner.Proofs.EqualTokens
import Reckoner.Proofs.FixedPlaces
import Reckoner.Proofs.Joined
import Reckoner.Proofs.LineResults
import Reckoner.Proofs.LineShape
import Reckoner.Proofs.LoadOutcome
import Reckoner.Proofs.NumeralValues
import Reckoner.Proofs.Numerals
import Reckoner.Proofs.Pieces
import Reckoner.Proofs.Places
import Reckoner.Proofs.Prints
import Reckoner.Proofs.Recorded
import Reckoner.Proofs.Representation
import Reckoner.Proofs.RoundedReread
import Reckoner.Proofs.Rounding
import Reckoner.Proofs.RunningTotals
import Reckoner.Proofs.ScanExact
import Reckoner.Proofs.SessionLoop
import Reckoner.Proofs.SessionSteps
import Reckoner.Proofs.ShortestDigits
import Reckoner.Proofs.ShortestText
import Reckoner.Proofs.ShownTokens
import Reckoner.Proofs.SignOfZero
import Reckoner.Proofs.SingleTerm
import Reckoner.Proofs.Spacing
import Reckoner.Proofs.StackMachine
import Reckoner.Proofs.TermCount
import Reckoner.Proofs.TreeText
import Reckoner.Proofs.TreesAndTokens
import Reckoner.Proofs.ZeroDivisors
