import InterfaceWitness.Expansion
import InterfaceWitness.Proofs.Arguments
import InterfaceWitness.Proofs.Attribution
import InterfaceWitness.Proofs.Code.Resolution
import InterfaceWitness.Proofs.Conformance
import InterfaceWitness.Proofs.Contents
import InterfaceWitness.Proofs.DeclarationOrder
import InterfaceWitness.Proofs.FieldNames
import InterfaceWitness.Proofs.Grouping.Declaration
import InterfaceWitness.Proofs.Json.Witness
import InterfaceWitness.Proofs.Meaning.Scoping
import InterfaceWitness.Proofs.Meaning.Transformer
import InterfaceWitness.Proofs.Naming
import InterfaceWitness.Proofs.Occurrence
import InterfaceWitness.Proofs.PathPrinting
import InterfaceWitness.Proofs.Projections
import InterfaceWitness.Proofs.Registry.History
import InterfaceWitness.Proofs.Renaming
import InterfaceWitness.Proofs.RoundTrip
import InterfaceWitness.Proofs.Transform.Agreement
import InterfaceWitness.Proofs.Transform.Blocked
import InterfaceWitness.Proofs.Transform.Growth
import InterfaceWitness.Proofs.Unit
import InterfaceWitness.Proofs.WellFormed
import InterfaceWitness.Registry
