import RelayGate.Ledger
import RelayGate.Transaction
import RelayGate.Proofs.Book
import RelayGate.Proofs.MessageEncoding
import RelayGate.Proofs.RegistryChanges
import RelayGate.Proofs.RegistryRuns
import RelayGate.Proofs.Reconfiguration
import RelayGate.Proofs.Approval
import RelayGate.Proofs.Validation
import RelayGate.Proofs.ApprovalCount
import RelayGate.Proofs.CheckOrder
import RelayGate.Proofs.Verdict
import RelayGate.Proofs.Widening
import RelayGate.Proofs.PhaseChecks
import RelayGate.Proofs.ProjectLayer
import RelayGate.Proofs.PhaseOutcomes
import RelayGate.Proofs.AttestationReading
import RelayGate.Proofs.AttestationWriting
import RelayGate.Proofs.AttestationLayout
import RelayGate.Proofs.AttestationLookup
import RelayGate.Proofs.LedgerDelivery
import RelayGate.Proofs.LedgerInvariant
import RelayGate.Proofs.Retry
import RelayGate.Proofs.Independence
import RelayGate.Proofs.StoredRecords
import RelayGate.Proofs.RecordLayout
import RelayGate.Proofs.AccountChecks
import RelayGate.Proofs.Overwriting
import RelayGate.Proofs.RecordAccounts
import RelayGate.Proofs.CallEffects
import RelayGate.Proofs.StoreRuns
import RelayGate.Proofs.StoreBook
import RelayGate.Proofs.Settlement
import RelayGate.Proofs.RecordEffects
import RelayGate.Proofs.RecordInvariant
import RelayGate.Proofs.Authority
import RelayGate.Proofs.EmergencyStop
import RelayGate.Proofs.RecordCreation
import RelayGate.Proofs.StoreLedger
import RelayGate.Proofs.Admission
import RelayGate.Proofs.PhaseRefinement
import RelayGate.Proofs.Balances
import RelayGate.Proofs.Payments
import RelayGate.Proofs.Lamports
import RelayGate.Proofs.AccountLifetimes
