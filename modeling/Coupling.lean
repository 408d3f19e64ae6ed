import Coupling.Main
import Coupling.Proofs.Emission
import Coupling.Proofs.Layout
import Coupling.Proofs.Sequence
import Coupling.Proofs.Weights
import Coupling.Proofs.Declaration
import Coupling.Proofs.Expansion
import Coupling.Proofs.Header
import Coupling.Proofs.Compilation
import Coupling.Proofs.Extent
import Coupling.Proofs.Levels
import Coupling.Proofs.FirstReading
import Coupling.Proofs.LineProtocol
import Coupling.Proofs.CfRows
import Coupling.Proofs.Requirements
import Coupling.Proofs.Provenance
import Coupling.Proofs.RoundTrip
import Coupling.Proofs.CanonicalForm
import Coupling.Proofs.Appending
import Coupling.Proofs.DefaultRun
import Coupling.Proofs.Codes
import Coupling.Proofs.RowNames
import Coupling.Proofs.Commands
import Coupling.Proofs.FanOut
import Coupling.Proofs.RecordLines
import Coupling.Proofs.Concatenation
import Coupling.Proofs.Placeholders
import Coupling.Proofs.WrittenOut
import Coupling.Proofs.LastRecord
import Coupling.Proofs.FillingIn
import Coupling.Proofs.Tightening
import Coupling.Proofs.Mirrors
import Coupling.Proofs.FieldKeys
import Coupling.Proofs.Threading
import Coupling.Proofs.PeriodLabels
import Coupling.Proofs.LevelNames
import Coupling.Proofs.DirectionKeys
import Coupling.Proofs.StashLabels
