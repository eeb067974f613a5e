import Tabsmith.Log.Template
import Tabsmith.Main
import Tabsmith.Proofs.Acceptance
import Tabsmith.Proofs.Calls
import Tabsmith.Proofs.Calls.Descent
import Tabsmith.Proofs.Candidates
import Tabsmith.Proofs.CommandLine
import Tabsmith.Proofs.FirstArgument
import Tabsmith.Proofs.FunctionNames
import Tabsmith.Proofs.Header
import Tabsmith.Proofs.Hiding
import Tabsmith.Proofs.Installing.Agreement
import Tabsmith.Proofs.Locality
import Tabsmith.Proofs.Log.Opening
import Tabsmith.Proofs.Merge.Paths
import Tabsmith.Proofs.Nulls
import Tabsmith.Proofs.Offering.Agreement
import Tabsmith.Proofs.Parser.Negations
import Tabsmith.Proofs.Parser.SiblingNames
import Tabsmith.Proofs.Placement
import Tabsmith.Proofs.Quoting.Fish.Lines
import Tabsmith.Proofs.Quoting.PowerShell
import Tabsmith.Proofs.Reading
import Tabsmith.Proofs.Scoping.Lines
import Tabsmith.Proofs.ShortFlags
import Tabsmith.Proofs.Specs.Arguments
import Tabsmith.Proofs.Specs.Options
import Tabsmith.Proofs.Specs.Values
import Tabsmith.Proofs.UnknownKeys
import Tabsmith.Proofs.UsualPlace
import Tabsmith.Proofs.Verdict
import Tabsmith.Proofs.Warnings
