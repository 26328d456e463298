import SdkInternal.Verification.Reassembler.Noninterference
import SdkInternal.Verification.Reassembler.Quotas
import SdkInternal.Verification.Reassembler.Soundness
import SdkInternal.Verification.Reassembler.RoundTrip
import SdkInternal.Verification.Noise.Agreement
import SdkInternal.Verification.Client.Delivery
import SdkInternal.Verification.Client.Exclusion
import SdkInternal.Verification.SharedUnlock.Convergence
import SdkInternal.Verification.SharedUnlock.Agreement
import SdkInternal.Verification.SharedUnlock.PersistedDates
import SdkInternal.Verification.SharedUnlock.Scoping
import SdkInternal.Verification.SharedUnlock.Relays
import SdkInternal.Verification.Stream.Acceptance
import SdkInternal.Verification.Crypto.MacInputs
import SdkInternal.Verification.Stream.AttachmentWriter
import SdkInternal.Verification.Generators.RequiredGroups
import SdkInternal.Verification.AccessConnector.Lease
import SdkInternal.Verification.AccessConnector.Pipeline
import SdkInternal.Verification.AccessConnector.LostSession
import SdkInternal.Verification.Vault.StrictReading
import SdkInternal.Verification.Vault.ListView
import SdkInternal.Verification.KeyRotation.ProvenUserKey
import SdkInternal.Verification.KeyRotation.KeptUnlockMethods
import SdkInternal.Verification.KeyManagement.AllOrNothing
import SdkInternal.Verification.SharedUnlock.DriverCalls
import SdkInternal.Verification.Sync.Freshness
import SdkInternal.Verification.Sync.Downgrade
import SdkInternal.Verification.Fido.Passkeys
import SdkInternal.Verification.Generators.SealedPolicy
import SdkInternal.Verification.Crypto.PersistedKeys
import SdkInternal.Verification.Vault.PasswordHistory
import SdkInternal.Verification.Crypto.Batches
import SdkInternal.Verification.State.BulkUpdates
import SdkInternal.Verification.Importers.CPace
