import Conformance.Session
import Conformance.Proofs.Run
import Conformance.Proofs.Spec
import Conformance.Proofs.Context
import Conformance.Proofs.Parts
import Conformance.Proofs.Levels
import Conformance.Proofs.Verdict
import Conformance.Proofs.Origins
import Conformance.Proofs.Termination
import Conformance.Proofs.Acceptance
import Conformance.Proofs.DocumentOrder
import Conformance.Proofs.Location
import Conformance.Proofs.Limits
import Conformance.Proofs.Height
import Conformance.Proofs.Faults
import Conformance.Proofs.Simulation
import Conformance.Proofs.Relocation
import Conformance.Proofs.Rewording
import Conformance.Proofs.EntryPoints
import Conformance.Proofs.Replacement
import Conformance.Proofs.Rearrangement
import Conformance.Proofs.EagerResolution
import Conformance.Proofs.LoggedResults
import Conformance.Proofs.Counterparts
import Conformance.Proofs.Representation
import Conformance.Proofs.OptionBlocks
import Conformance.Proofs.Layout
import Conformance.Proofs.Occurrences
import Conformance.Proofs.Elision
import Conformance.Proofs.Sharing
import Conformance.Proofs.Quantities
import Conformance.Proofs.EqualityLaws
import Conformance.Proofs.Candidates
import Conformance.Proofs.Undeclared
import Conformance.Proofs.DottedReads
import Conformance.Proofs.ExtendedPaths
import Conformance.Proofs.NumeralReads
import Conformance.Proofs.NestedShapes
import Conformance.Proofs.UnionLines
import Conformance.Proofs.LegibleValues
