import CountedStrings.Program.Step
import CountedStrings.Proofs.Agreement
import CountedStrings.Proofs.Arguments
import CountedStrings.Proofs.Atomicity
import CountedStrings.Proofs.Blocks
import CountedStrings.Proofs.Configuration
import CountedStrings.Proofs.Constructions
import CountedStrings.Proofs.Display
import CountedStrings.Proofs.EntryPoints
import CountedStrings.Proofs.ForeignStrings
import CountedStrings.Proofs.Independence
import CountedStrings.Proofs.Indices
import CountedStrings.Proofs.Ledger
import CountedStrings.Proofs.Lookup
import CountedStrings.Proofs.Normalisation
import CountedStrings.Proofs.Ownership
import CountedStrings.Proofs.Representation
import CountedStrings.Proofs.Schedules
import CountedStrings.Proofs.Slots
import CountedStrings.Proofs.Subscribers
import CountedStrings.Proofs.Visible
import CountedStrings.Surroundings.Host
import CountedStrings.Surroundings.Log.Package
