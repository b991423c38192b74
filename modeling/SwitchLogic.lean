import SwitchLogic.Symbols
import SwitchLogic.Error
import SwitchLogic.NameSet
import SwitchLogic.Text.Characters
import SwitchLogic.Text.Quoting
import SwitchLogic.Lexing
import SwitchLogic.Formula.Basic
import SwitchLogic.Formula.Text
import SwitchLogic.Formula.Latex
import SwitchLogic.Network.Basic
import SwitchLogic.Formula.Reading
import SwitchLogic.Evaluation
import SwitchLogic.TruthTable
import SwitchLogic.Formula.Expansion
import SwitchLogic.Formula.Generation
import SwitchLogic.Circuit.Basic
import SwitchLogic.Network.Conduction
import SwitchLogic.Circuit.Simulation
import SwitchLogic.Circuit.Statistics
import SwitchLogic.Expression
import SwitchLogic.Random
import SwitchLogic.CommandLine.Request
import SwitchLogic.CommandLine.Arguments
import SwitchLogic.CommandLine.Outcome
import SwitchLogic.Main
import SwitchLogic.Proofs.Conduction
import SwitchLogic.Proofs.Soundness
import SwitchLogic.Proofs.Extension
import SwitchLogic.Proofs.Tabulation
import SwitchLogic.Proofs.ExpandedForm
import SwitchLogic.Proofs.Wiring
import SwitchLogic.Proofs.Verification
import SwitchLogic.Proofs.Equivalence
import SwitchLogic.Proofs.Reading
import SwitchLogic.Proofs.Grammar
import SwitchLogic.Proofs.Recognition
import SwitchLogic.Proofs.Scanner
import SwitchLogic.Proofs.Canonical
import SwitchLogic.Proofs.Cutting
import SwitchLogic.Proofs.RoundTrip
import SwitchLogic.Proofs.NetworkSize
import SwitchLogic.Proofs.CompleteTables
import SwitchLogic.Proofs.Relaxation
import SwitchLogic.Proofs.Spelled
import SwitchLogic.Proofs.Reprinting
import SwitchLogic.Proofs.PlainForm
import SwitchLogic.Proofs.Structure
import SwitchLogic.Proofs.Expressions
import SwitchLogic.Proofs.Typesetting
import SwitchLogic.Proofs.Respelling
import SwitchLogic.Proofs.Pipeline
import SwitchLogic.Proofs.CircuitCommand
import SwitchLogic.Proofs.Rejection
import SwitchLogic.Proofs.Samples
import SwitchLogic.Proofs.Campaign
import SwitchLogic.Proofs.Tiling
import SwitchLogic.Proofs.Spacing
import SwitchLogic.Proofs.Complements
import SwitchLogic.Proofs.FixedPoints
import SwitchLogic.Proofs.Mirroring
import SwitchLogic.Proofs.StackHeight
import SwitchLogic.Proofs.Paths
import SwitchLogic.Proofs.TransistorCounts
import SwitchLogic.Proofs.Columns
import SwitchLogic.Proofs.Idempotence
import SwitchLogic.Proofs.CircuitText
import SwitchLogic.Proofs.SampleBounds
import SwitchLogic.Proofs.Locality
