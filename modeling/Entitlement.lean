import Entitlement.Proofs.Consumption.Completeness
import Entitlement.Proofs.Key.RoundTrip
import Entitlement.Evaluation.Registrar
import Entitlement.Store.Disk
import Entitlement.Proofs.License.Issued
import Entitlement.Proofs.Store.Files
import Entitlement.Proofs.Evaluation.Registration
import Entitlement.Proofs.Evaluation.Atomic
import Entitlement.Proofs.Json.Number
import Entitlement.Proofs.Json.Text
import Entitlement.Proofs.Json.Value
import Entitlement.Proofs.Store.Configuration
import Entitlement.Proofs.Evaluation.Record
import Entitlement.Proofs.Evaluation.Window
import Entitlement.Proofs.Evaluation.Granted
import Entitlement.Evaluation.Interleaving
import Entitlement.Proofs.Evaluation.Agreement
import Entitlement.Proofs.Evaluation.Apart
import Entitlement.Proofs.Key.Skipped
import Entitlement.Proofs.Key.Canonical
import Entitlement.Proofs.Consumption.Unattended
import Entitlement.Proofs.Evaluation.Found
import Entitlement.Proofs.Consumption.Revocation
import Entitlement.Proofs.Key.Delimited
import Entitlement.Proofs.Key.Covered
import Entitlement.Proofs.License.Reissued
import Entitlement.Proofs.Consumption.Narrowed
import Entitlement.Proofs.Evaluation.Eligibility
import Entitlement.Proofs.Evaluation.Repeated
import Entitlement.Proofs.Evaluation.Contention
import Entitlement.Proofs.Key.Spelling
import Entitlement.Proofs.Key.Writable
import Entitlement.Proofs.Store.Saved
import Entitlement.Proofs.Consumption.Trusting
import Entitlement.Proofs.Store.Keys
import Entitlement.Proofs.License.Nested
import Entitlement.Proofs.License.Readable
import Entitlement.Proofs.Key.Words
import Entitlement.Proofs.Store.Attempts
