import QuantumKata.ArenaSession
import QuantumKata.Logging.Journal
import QuantumKata.Main
import QuantumKata.Workshop.Run
import QuantumKata.Proofs.Course
import QuantumKata.Proofs.Layout
import QuantumKata.Proofs.Conduct
import QuantumKata.Proofs.Relabel
import QuantumKata.Proofs.Issuing
import QuantumKata.Proofs.Slice
import QuantumKata.Proofs.Attachment
import QuantumKata.Proofs.Elimination
import QuantumKata.Proofs.UnitaryGate
import QuantumKata.Proofs.Linear
import QuantumKata.Proofs.Reversal
import QuantumKata.Proofs.Adjoint
import QuantumKata.Proofs.Branches
import QuantumKata.Proofs.Checking
import QuantumKata.Proofs.EntangledPairs
import QuantumKata.Proofs.EquivalenceCheck
import QuantumKata.Proofs.Isolation
import QuantumKata.Proofs.OffBranch
import QuantumKata.Proofs.Recording
import QuantumKata.Proofs.Watching
import QuantumKata.Proofs.Confinement
import QuantumKata.Proofs.Capability
import QuantumKata.Proofs.Errand
import QuantumKata.Proofs.Registers
import QuantumKata.Proofs.Completion
import QuantumKata.Proofs.Containment
import QuantumKata.Proofs.Rejection
import QuantumKata.Proofs.Normalization
import QuantumKata.Proofs.Grading
import QuantumKata.Proofs.Building
import QuantumKata.Proofs.Neutrality
import QuantumKata.Proofs.GlobalPhase
import QuantumKata.Proofs.Comparison
import QuantumKata.Proofs.Interleaving
import QuantumKata.Proofs.SuiteRuns
import QuantumKata.Proofs.Brackets
import QuantumKata.Proofs.ArenaRuns
import QuantumKata.Proofs.Custody
import QuantumKata.Proofs.Involution
import QuantumKata.Proofs.Availability
import QuantumKata.Proofs.Collecting
import QuantumKata.Proofs.Positions
import QuantumKata.Proofs.Embedding
import QuantumKata.Proofs.Projection
import QuantumKata.Proofs.Atomicity
import QuantumKata.Proofs.GateAdjoint
import QuantumKata.Proofs.CounterexampleSearch
import QuantumKata.Proofs.ExitCodes
import QuantumKata.Proofs.UseAfterRelease
import QuantumKata.Proofs.Rays
import QuantumKata.Proofs.NearUnitary
import QuantumKata.Proofs.Acceptance
import QuantumKata.Proofs.Splitting
import QuantumKata.Proofs.NameResolution
import QuantumKata.Proofs.SinkLines
import QuantumKata.Proofs.BatchAccounts
import QuantumKata.Proofs.TwiceAdjoint
import QuantumKata.Proofs.PreparerRecord
