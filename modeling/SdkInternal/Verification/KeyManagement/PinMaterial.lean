import SdkInternal.Model.KeyManagement.PinLockSystem

/-! # What is stored for a PIN

What is stored belongs to one key of the user, the last PIN that was set and the lock type chosen
with it. After an unlock this key is that of the user. The exception is a PIN under a key of the
first version that names no key, when the client is unlocked with another such key. -/

namespace SdkInternal.KeyManagement

open Crypto Shared PinLockSystem Except
open Stateful hiding mapError_eq_ok_iff

variable {T : CryptoTypes} (crypto : PinCrypto T)

/-- What is encrypted or sealed is read back, and by its own key only. Ids tell keys apart, and
values under a key of the first version may have none. -/
structure PinCrypto.Lawful : Prop where
  decrypt_encrypt : ∀ {key pin random enc random'},
    crypto.encryptText key pin random = .ok (enc, random') → crypto.decryptText key enc = .ok pin
  decrypt_authentic : ∀ {key pin random enc random' other text},
    crypto.encryptText key pin random = .ok (enc, random') →
    crypto.decryptText other enc = .ok text → other = key ∧ text = pin
  encAlgorithm_encrypt : ∀ {key pin random enc random'},
    crypto.encryptText key pin random = .ok (enc, random') →
    ∃ algorithm, crypto.algorithm key = .ok algorithm ∧ crypto.encAlgorithm enc = some algorithm
  encKeyId_encrypt : ∀ {key pin random enc random'},
    crypto.encryptText key pin random = .ok (enc, random') →
    crypto.encKeyId enc = crypto.keyId key ∨
      crypto.algorithm key = .ok .aes256CbcHmac ∧ crypto.encKeyId enc = none
  unseal_seal : ∀ {key pin random envelope random'},
    crypto.sealPin key pin random = .ok (envelope, random') →
    crypto.unsealPin envelope pin = .ok key
  containedKeyId_seal : ∀ {key pin random envelope random'},
    crypto.sealPin key pin random = .ok (envelope, random') →
    crypto.containedKeyId envelope = .ok (crypto.keyId key)
  keyId_injective : ∀ {key other id}, crypto.keyId key = some id → crypto.keyId other = some id →
    key = other
  keyId_of_algorithm : ∀ {key algorithm}, crypto.algorithm key = .ok algorithm →
    ∃ id, crypto.keyId key = some id

/-! ## Stored values -/

def EncryptsPin (key : T.SymmetricKey) (pin : String) (enc : T.EncString) : Prop :=
  ∃ random random', crypto.encryptText key pin random = .ok (enc, random')

def SealsKey (key : T.SymmetricKey) (pin : String) (envelope : T.PinEnvelope) : Prop :=
  ∃ random random', crypto.sealPin key pin random = .ok (envelope, random')

variable (bridge : StateBridge T)

structure NoPin : Prop where
  persistent : bridge.persistentPinEnvelope = none
  ephemeral : bridge.ephemeralPinEnvelope = none
  encrypted : bridge.encryptedPin = none

/-- All that is stored was made from one key and one PIN. -/
structure PinMaterial (key : T.SymmetricKey) (pin : String) (lockType : PinLockType) : Prop where
  encrypted : ∃ enc, bridge.encryptedPin = some enc ∧ EncryptsPin crypto key pin enc
  ephemeral : ∀ envelope ∈ bridge.ephemeralPinEnvelope, SealsKey crypto key pin envelope
  persistent : ∀ envelope ∈ bridge.persistentPinEnvelope, SealsKey crypto key pin envelope
  lockType : bridge.persistentPinEnvelope.isSome ↔ lockType = .beforeFirstUnlock

section

variable {crypto} {bridge : StateBridge T} {store : PinStore T} {key : T.SymmetricKey}
  {userKey : Option T.SymmetricKey} {pin : String} {lockType : PinLockType}

theorem noPin_unsetPin : NoPin (unsetPin store).bridge := ⟨rfl, rfl, rfl⟩

theorem getPinLockType_of_material (h : PinMaterial crypto bridge key pin lockType) :
    getPinLockType bridge = some lockType := by
  obtain ⟨enc, henc, -⟩ := h.encrypted
  have hlock := h.lockType
  unfold getPinLockType
  cases lockType with
  | beforeFirstUnlock => simp [hlock]
  | afterFirstUnlock => simp [hlock, henc]

theorem getPinLockType_of_noPin (h : NoPin bridge) : getPinLockType bridge = none := by
  simp [getPinLockType, h.persistent, h.encrypted]

variable {random random' : T.Random} {envelope : T.PinEnvelope}

theorem seals_of_sealUserKey (h : sealUserKey crypto userKey pin random = .ok (envelope, random')) :
    ∃ key, userKey = some key ∧ SealsKey crypto key pin envelope := by
  cases userKey with
  | none => cases h
  | some key => exact ⟨key, rfl, random, random', run_translateError_eq_ok_iff.mp h⟩

variable {enc : T.EncString}

theorem encrypts_of_encryptPin (h : encryptPin crypto (some key) pin random = .ok (enc, random')) :
    EncryptsPin crypto key pin enc :=
  ⟨random, random', run_translateError_eq_ok_iff.mp h⟩

theorem material_storePin (hbridge : NoPin bridge) (hseals : SealsKey crypto key pin envelope)
    (hencrypts : EncryptsPin crypto key pin enc) :
    PinMaterial crypto (storePin lockType envelope enc bridge) key pin lockType := by
  refine ⟨⟨enc, rfl, hencrypts⟩, ?_, ?_, ?_⟩
  · rintro _ ⟨⟩
    exact hseals
  · intro stored hstored
    cases lockType with
    | beforeFirstUnlock =>
      cases hstored
      exact hseals
    | afterFirstUnlock =>
      simp [storePin, hbridge.persistent] at hstored
  · cases lockType with
    | beforeFirstUnlock => simp [storePin]
    | afterFirstUnlock => simp [storePin, hbridge.persistent]

/-- A PIN that is set belongs to the key of the user, and a failure leaves none. -/
theorem setPin_post :
    (setPin crypto userKey pin lockType).Post store (Continues
      (fun _ after => ∃ key, userKey = some key ∧
        PinMaterial crypto after.bridge key pin lockType)
      fun _ after => NoPin after.bridge) := by
  unfold setPin
  rw [post_modify_bind, post_bind, drawPin, post_zoom]
  refine ⟨?_, fun _ _ => noPin_unsetPin⟩
  intro envelope random henvelope
  obtain ⟨key, rfl, hseals⟩ := seals_of_sealUserKey henvelope
  rw [continues_ok, post_bind, drawPin, post_zoom]
  refine ⟨?_, fun _ _ => noPin_unsetPin⟩
  intro enc random' henc
  exact ⟨key, rfl, material_storePin noPin_unsetPin hseals (encrypts_of_encryptPin henc)⟩

end

/-! ## After an unlock -/

/-- The PIN is under a key of the first version without naming it, and the key of the user is of
the first version too. -/
structure Unnamed (key : T.SymmetricKey) (enc : T.EncString) : Prop where
  pinAlgorithm : crypto.encAlgorithm enc = some .aes256CbcHmac
  pinKeyId : crypto.encKeyId enc = none
  userKeyAlgorithm : crypto.algorithm key = .ok .aes256CbcHmac

/-- A stored PIN that names no key is read with the key of the user. -/
def PinReadable (key : T.SymmetricKey) : Prop :=
  ∀ enc ∈ bridge.encryptedPin, Unnamed crypto key enc →
    ∃ text, crypto.decryptText key enc = .ok text

section Unlock

variable {crypto} {store : PinStore T} {key user : T.SymmetricKey} {pin : String}
  {lockType : PinLockType} {enc : T.EncString}

section

variable (hcrypto : crypto.Lawful)

include hcrypto

theorem eq_or_unnamed_of_upToDate (henc : EncryptsPin crypto key pin enc)
    (h : migrationAction crypto (some user) enc = .ok .upToDate) :
    key = user ∨ Unnamed crypto user enc := by
  obtain ⟨random, random', hencrypted⟩ := henc
  obtain ⟨pinAlgorithm, hkey, halgorithm⟩ := hcrypto.encAlgorithm_encrypt hencrypted
  unfold migrationAction at h
  simp only at h
  split at h
  next userKeyId userAlgorithm hid huser =>
    simp only [ok.injEq, classifyEncryptedPin, halgorithm] at h
    split at h
    next => cases h
    next hsame =>
      split at h
      next pinKeyId hpinId =>
        split at h
        next heq =>
          subst heq
          rcases hcrypto.encKeyId_encrypt hencrypted with hnamed | ⟨-, hnone⟩
          · exact .inl (hcrypto.keyId_injective (hnamed ▸ hpinId) hid)
          · rw [hpinId] at hnone
            cases hnone
        next => cases h
      next hpinId =>
        split at h
        next hv1 =>
          subst hv1
          simp only [true_and, not_not] at hsame
          exact .inr ⟨halgorithm, hpinId, by rw [huser, hsame]⟩
        next => cases h
  next => cases h

theorem upToDate_of_unnamed (h : Unnamed crypto user enc) :
    migrationAction crypto (some user) enc = .ok .upToDate := by
  obtain ⟨id, hid⟩ := hcrypto.keyId_of_algorithm h.userKeyAlgorithm
  simp [migrationAction, hid, h.userKeyAlgorithm, classifyEncryptedPin, h.pinAlgorithm, h.pinKeyId]

theorem eq_pin_of_recoverPin (henc : EncryptsPin crypto key pin enc)
    {userKey : Option T.SymmetricKey} {token : Option (V2UpgradeToken T.EncString)}
    {text : String} (h : recoverPin crypto userKey token enc = .ok text) : text = pin := by
  obtain ⟨random, random', hencrypted⟩ := henc
  unfold recoverPin at h
  split at h
  next => cases h
  next =>
    split at h
    next => exact (hcrypto.decrypt_authentic hencrypted (mapError_eq_ok_iff.mp h)).2
    next => cases h

section

variable (hmaterial : PinMaterial crypto store.bridge key pin lockType)

include hmaterial

/-- The migration enrolls the PIN under the key of the user, or leaves it under a key that counts
as up to date. -/
theorem migratePin_post (henc : EncryptsPin crypto key pin enc) :
    (migratePin crypto (some user) lockType enc).Post store (Continues
      (fun _ after => PinMaterial crypto after.bridge user pin lockType ∨
        (after = store ∧ Unnamed crypto user enc))
      fun _ _ => True) := by
  unfold migratePin
  rw [post_bind, post_ofExcept]
  cases haction : migrationAction crypto (some user) enc with
  | error e => trivial
  | ok action =>
    rw [continues_ok]
    cases action with
    | failed error => trivial
    | upToDate =>
      rcases eq_or_unnamed_of_upToDate hcrypto henc haction with rfl | hunnamed
      · exact .inl hmaterial
      · exact .inr ⟨rfl, hunnamed⟩
    | migrateV1ToV2 =>
      rw [post_get_bind, post_bind, post_ofExcept]
      cases hpin : recoverPin crypto (some user) store.bridge.v2UpgradeToken enc with
      | error e => trivial
      | ok text =>
        obtain rfl := eq_pin_of_recoverPin hcrypto henc hpin
        rw [continues_ok, post_mapError]
        apply setPin_post.mono
        intro result after hafter
        cases result with
        | error e => trivial
        | ok _ =>
          obtain ⟨_, ⟨⟩, hset⟩ := hafter
          exact .inl hset

theorem migration_post :
    (migratePinEnvelopeIfNeeded crypto (some user)).Post store (Continues
      (fun _ after => PinMaterial crypto after.bridge user pin lockType ∨
        (after = store ∧ ∃ enc, store.bridge.encryptedPin = some enc ∧ Unnamed crypto user enc))
      fun _ _ => True) := by
  obtain ⟨enc, hstored, henc⟩ := hmaterial.encrypted
  unfold migratePinEnvelopeIfNeeded
  rw [post_get_bind, getPinLockType_of_material hmaterial]
  rw [post_require_bind_some hstored]
  apply (migratePin_post hcrypto hmaterial henc).mono
  intro result after hafter
  cases result with
  | error e => trivial
  | ok _ =>
    rcases hafter with hset | ⟨hsame, hunnamed⟩
    · exact .inl hset
    · exact .inr ⟨hsame, enc, hstored, hunnamed⟩

end

theorem eq_of_resealPin (henc : EncryptsPin crypto key pin enc) {envelope : T.PinEnvelope}
    {random random' : T.Random}
    (h : resealPin crypto (some user) enc random = .ok (envelope, random')) :
    SealsKey crypto key pin envelope := by
  obtain ⟨_, _, hencrypted⟩ := henc
  simp only [resealPin, run_bind_eq_ok_iff, run_lift_eq_ok_iff, mapError_eq_ok_iff] at h
  obtain ⟨text, _, ⟨htext, rfl⟩, hseal⟩ := h
  obtain ⟨rfl, rfl⟩ := hcrypto.decrypt_authentic hencrypted htext
  obtain ⟨_, ⟨⟩, hseals⟩ := seals_of_sealUserKey hseal
  exact hseals

/-- A new envelope in memory is for the same key and PIN. -/
theorem refreshEnvelope_material (hmaterial : PinMaterial crypto store.bridge key pin lockType) :
    PinMaterial crypto (refreshEnvelope crypto (some user) store).bridge key pin lockType := by
  obtain ⟨enc, hstored, henc⟩ := hmaterial.encrypted
  unfold refreshEnvelope
  rw [hstored]
  dsimp only
  split
  next => exact hmaterial
  next =>
    split
    next => exact hmaterial
    next envelope random hreseal =>
      refine ⟨⟨enc, hstored, henc⟩, ?_, hmaterial.persistent, hmaterial.lockType⟩
      rintro _ ⟨⟩
      exact eq_of_resealPin hcrypto henc hreseal

end

theorem onUnlock_noPin (h : NoPin store.bridge) : onUnlock crypto (some user) store = store := by
  have hmigration : migratePinEnvelopeIfNeeded crypto (some user) store = (.ok (), store) := by
    change (migratePinEnvelopeIfNeeded crypto (some user)).Post store
      fun result after => (result, after) = (.ok (), store)
    unfold migratePinEnvelopeIfNeeded
    rw [post_get_bind, getPinLockType_of_noPin h]
    rfl
  unfold onUnlock
  rw [hmigration]
  simp only [refreshEnvelope, h.encrypted]

/-- After an unlock no PIN is stored, or what is stored belongs to the key of the user, or the PIN
names no key and is left as it is. -/
theorem onUnlock_material (hcrypto : crypto.Lawful)
    (hmaterial : PinMaterial crypto store.bridge key pin lockType) :
    NoPin (onUnlock crypto (some user) store).bridge ∨
      PinMaterial crypto (onUnlock crypto (some user) store).bridge user pin lockType ∨
      (PinMaterial crypto (onUnlock crypto (some user) store).bridge key pin lockType ∧
        ∃ enc, store.bridge.encryptedPin = some enc ∧ Unnamed crypto user enc) := by
  have hpost : (migratePinEnvelopeIfNeeded crypto (some user)).Post store _ :=
    migration_post hcrypto hmaterial
  unfold Post at hpost
  unfold onUnlock
  generalize migratePinEnvelopeIfNeeded crypto (some user) store = outcome at hpost
  obtain ⟨result, after⟩ := outcome
  cases result with
  | error e => exact .inl noPin_unsetPin
  | ok value =>
    rcases hpost with hset | ⟨hsame, hunnamed⟩
    · exact .inr (.inl (refreshEnvelope_material hcrypto hset))
    · refine .inr (.inr ⟨?_, hunnamed⟩)
      change after = store at hsame
      rw [hsame]
      exact refreshEnvelope_material hcrypto hmaterial

/-- A PIN that names no key and is not read with the key of the user stays as it is. -/
theorem onUnlock_unreadable (hcrypto : crypto.Lawful)
    (hmaterial : PinMaterial crypto store.bridge key pin lockType)
    (hstored : store.bridge.encryptedPin = some enc) (hunnamed : Unnamed crypto user enc)
    (hunread : ∀ text, crypto.decryptText user enc ≠ .ok text) :
    onUnlock crypto (some user) store = store := by
  obtain ⟨_, hsame, henc⟩ := hmaterial.encrypted
  obtain rfl := Option.some.inj (hstored.symm.trans hsame)
  have hother : key ≠ user := by
    rintro rfl
    obtain ⟨random, random', hencrypted⟩ := henc
    exact hunread pin (hcrypto.decrypt_encrypt hencrypted)
  have hmigration : migratePinEnvelopeIfNeeded crypto (some user) store = (.ok (), store) := by
    change (migratePinEnvelopeIfNeeded crypto (some user)).Post store
      fun result after => (result, after) = (.ok (), store)
    unfold migratePinEnvelopeIfNeeded
    rw [post_get_bind, getPinLockType_of_material hmaterial]
    rw [post_require_bind_some hstored, migratePin, post_bind,
      post_ofExcept, upToDate_of_unnamed hcrypto hunnamed]
    rfl
  have hforeign : holdsUserKey crypto (some user) store.bridge.ephemeralPinEnvelope = false := by
    cases hephemeral : store.bridge.ephemeralPinEnvelope with
    | none => rfl
    | some envelope =>
      obtain ⟨random, random', hseal⟩ := hmaterial.ephemeral envelope hephemeral
      obtain ⟨id, hid⟩ := hcrypto.keyId_of_algorithm hunnamed.userKeyAlgorithm
      have hcontained := hcrypto.containedKeyId_seal hseal
      have hids : crypto.keyId key ≠ some id := fun hkey =>
        hother (hcrypto.keyId_injective hkey hid)
      simp [holdsUserKey, hcontained, hid, Except.toOption, hids]
  have hreseal : ∃ e, resealPin crypto (some user) enc store.random = .error e := by
    cases hresult : resealPin crypto (some user) enc store.random with
    | error e => exact ⟨e, rfl⟩
    | ok result =>
      obtain ⟨envelope, random⟩ := result
      simp only [resealPin, run_bind_eq_ok_iff, run_lift_eq_ok_iff, mapError_eq_ok_iff] at hresult
      obtain ⟨text, _, ⟨htext, -⟩, -⟩ := hresult
      exact absurd htext (hunread text)
  obtain ⟨e, hfailed⟩ := hreseal
  simp [onUnlock, hmigration, refreshEnvelope, hstored, hforeign, hfailed]

end Unlock

/-! ## Histories -/

structure PinClient (T : CryptoTypes) where
  store : PinStore T
  userKey : Option T.SymmetricKey
  lastSet : Option (String × PinLockType)

/-- An unlock may be with any key and any upgrade token, with the bridge registered or not. -/
inductive PinStep (T : CryptoTypes) where
  | setPin (pin : String) (lockType : PinLockType)
  | unsetPin
  | lock
  | restart
  | unlock (key : T.SymmetricKey) (token : Option (V2UpgradeToken T.EncString)) (registered : Bool)

def PinStore.withToken (store : PinStore T) (token : Option (V2UpgradeToken T.EncString)) :
    PinStore T :=
  { store with bridge := { store.bridge with v2UpgradeToken := token } }

variable (client : PinClient T)

def pinStep : PinStep T → PinClient T
  | .setPin pin lockType =>
    match PinLockSystem.setPin crypto client.userKey pin lockType client.store with
    | (.ok _, store) => { client with store, lastSet := some (pin, lockType) }
    | (.error _, store) => { client with store }
  | .unsetPin => { client with store := PinLockSystem.unsetPin client.store }
  | .lock => { client with userKey := none }
  | .restart =>
    { client with
      userKey := none
      store := { client.store with
        bridge := { client.store.bridge with ephemeralPinEnvelope := none } } }
  | .unlock key token true =>
    { client with
      userKey := some key
      store := onUnlock crypto (some key) (client.store.withToken token) }
  | .unlock key token false =>
    { client with userKey := some key, store := client.store.withToken token }

/-- No PIN is stored, or what is stored belongs to the key of the user, the last PIN and the lock
type chosen with it. -/
def PinMatches : Prop :=
  NoPin client.store.bridge ∨
    ∃ key pin lockType, client.userKey = some key ∧ client.lastSet = some (pin, lockType) ∧
      (∃ enc, client.store.bridge.encryptedPin = some enc ∧
        crypto.decryptText key enc = .ok pin) ∧
      (∀ envelope, client.store.bridge.ephemeralPinEnvelope = some envelope ∨
        client.store.bridge.persistentPinEnvelope = some envelope →
          crypto.unsealPin envelope pin = .ok key) ∧
      getPinLockType client.store.bridge = some lockType

/-- What is stored belongs to the last PIN that was set, under some key. -/
def PinConsistent : Prop :=
  NoPin client.store.bridge ∨
    ∃ key pin lockType, client.lastSet = some (pin, lockType) ∧
      PinMaterial crypto client.store.bridge key pin lockType

section Histories

variable {crypto} {client : PinClient T} {lockType : PinLockType} {key : T.SymmetricKey}
  {store : PinStore T}

theorem PinMaterial.withToken {pin : String} (h : PinMaterial crypto store.bridge key pin lockType)
    (token : Option (V2UpgradeToken T.EncString)) :
    PinMaterial crypto (store.withToken token).bridge key pin lockType :=
  ⟨h.encrypted, h.ephemeral, h.persistent, h.lockType⟩

theorem NoPin.withToken (h : NoPin store.bridge) (token : Option (V2UpgradeToken T.EncString)) :
    NoPin (store.withToken token).bridge :=
  ⟨h.persistent, h.ephemeral, h.encrypted⟩

section

variable (hcrypto : crypto.Lawful)

include hcrypto

theorem pinStep_consistent (h : PinConsistent crypto client) (step : PinStep T) :
    PinConsistent crypto (pinStep crypto client step) := by
  cases step with
  | setPin pin lockType =>
    have hpost : (setPin crypto client.userKey pin lockType).Post client.store _ := setPin_post
    unfold Post at hpost
    simp only [pinStep]
    generalize setPin crypto client.userKey pin lockType client.store = outcome at hpost
    obtain ⟨result, store⟩ := outcome
    cases result with
    | error e => exact .inl hpost
    | ok value =>
      obtain ⟨key, -, hset⟩ := hpost
      exact .inr ⟨key, pin, lockType, rfl, hset⟩
  | unsetPin => exact .inl noPin_unsetPin
  | lock => exact h
  | restart =>
    rcases h with hnone | ⟨key, pin, lockType, hlast, hmaterial⟩
    · exact .inl ⟨hnone.persistent, rfl, hnone.encrypted⟩
    · exact .inr ⟨key, pin, lockType, hlast,
        hmaterial.encrypted, nofun, hmaterial.persistent, hmaterial.lockType⟩
  | unlock key token registered =>
    rcases h with hnone | ⟨owner, pin, lockType, hlast, hmaterial⟩
    · cases registered with
      | true =>
        left
        simp only [pinStep, onUnlock_noPin (hnone.withToken token)]
        exact hnone.withToken token
      | false => exact .inl (hnone.withToken token)
    · cases registered with
      | true =>
        rcases onUnlock_material hcrypto (hmaterial.withToken token) with hnone | hset | ⟨hkept, -⟩
        · exact .inl hnone
        · exact .inr ⟨key, pin, lockType, hlast, hset⟩
        · exact .inr ⟨owner, pin, lockType, hlast, hkept⟩
      | false => exact .inr ⟨owner, pin, lockType, hlast, hmaterial.withToken token⟩

theorem history_consistent (h : PinConsistent crypto client) (steps : List (PinStep T)) :
    PinConsistent crypto (steps.foldl (pinStep crypto) client) := by
  induction steps generalizing client with
  | nil => exact h
  | cons step steps ih => exact ih (pinStep_consistent hcrypto h step)

theorem matches_of_material {pin : String} (huser : client.userKey = some key)
    (hlast : client.lastSet = some (pin, lockType))
    (h : PinMaterial crypto client.store.bridge key pin lockType) : PinMatches crypto client := by
  obtain ⟨enc, hstored, _, _, hencrypted⟩ := h.encrypted
  refine .inr ⟨key, pin, lockType, huser, hlast,
    ⟨enc, hstored, hcrypto.decrypt_encrypt hencrypted⟩, ?_, getPinLockType_of_material h⟩
  rintro envelope (hephemeral | hpersistent)
  · obtain ⟨random, random', hseal⟩ := h.ephemeral envelope hephemeral
    exact hcrypto.unseal_seal hseal
  · obtain ⟨random, random', hseal⟩ := h.persistent envelope hpersistent
    exact hcrypto.unseal_seal hseal

theorem unlock_matches_iff (h : PinConsistent crypto client) (key : T.SymmetricKey)
    (token : Option (V2UpgradeToken T.EncString)) :
    PinMatches crypto (pinStep crypto client (.unlock key token true)) ↔
      PinReadable crypto client.store.bridge key := by
  rcases h with hnone | ⟨owner, pin, lockType, hlast, hmaterial⟩
  · refine ⟨fun _ enc henc => ?_, fun _ => .inl ?_⟩
    · rw [hnone.encrypted] at henc
      cases henc
    · simp only [pinStep, onUnlock_noPin (hnone.withToken token)]
      exact hnone.withToken token
  have htoken := hmaterial.withToken token
  constructor
  · intro hmatches enc henc hunnamed
    by_contra hunread
    push Not at hunread
    have hsame : onUnlock crypto (some key) (client.store.withToken token) =
        client.store.withToken token := onUnlock_unreadable hcrypto htoken henc hunnamed hunread
    rcases hmatches with hnone | ⟨_, text, _, huser, -, ⟨stored, hstored, hread⟩, -, -⟩
    · have hencrypted := hnone.encrypted
      simp only [pinStep, hsame] at hencrypted
      rw [show (client.store.withToken token).bridge.encryptedPin = some enc from henc]
        at hencrypted
      cases hencrypted
    · cases huser
      simp only [pinStep, hsame] at hstored
      obtain rfl := Option.some.inj (Eq.trans (Eq.symm henc) hstored)
      exact hunread text hread
  · intro hreadable
    rcases onUnlock_material hcrypto htoken with hnone | hset | ⟨hkept, enc, henc, hunnamed⟩
    · exact .inl hnone
    · exact matches_of_material hcrypto rfl hlast hset
    · obtain ⟨text, htext⟩ := hreadable enc henc hunnamed
      obtain ⟨stored, hstored, random, random', hencrypted⟩ := hmaterial.encrypted
      obtain rfl := Option.some.inj (Eq.trans (Eq.symm hstored) henc)
      obtain ⟨rfl, -⟩ := hcrypto.decrypt_authentic hencrypted htext
      exact matches_of_material hcrypto rfl hlast hkept

end

end Histories

/-- After every history, an unlock leaves what matches the key of the user exactly if a PIN that
names no key is read with this key. -/
theorem history_pinMatches_iff (hcrypto : crypto.Lawful) (client : PinClient T)
    (hstart : NoPin client.store.bridge) (steps : List (PinStep T)) (key : T.SymmetricKey)
    (token : Option (V2UpgradeToken T.EncString)) :
    PinMatches crypto ((steps ++ [PinStep.unlock key token true]).foldl (pinStep crypto) client) ↔
      PinReadable crypto (steps.foldl (pinStep crypto) client).store.bridge key := by
  rw [List.foldl_append]
  exact unlock_matches_iff hcrypto (history_consistent hcrypto (.inl hstart) steps) key token

/-! ## Two keys of the first version -/

/-- There are three keys, the last one of the second version. Values are their key and text. -/
def pinTypes : CryptoTypes where
  EncString := Fin 3 × String
  SymmetricKey := Fin 3
  PrivateKey := Unit
  SigningKey := Unit
  SharedKey := Unit
  SignedPublicKey := Unit
  SignedSecurityState := Unit
  SecurityState := Unit
  PinEnvelope := Fin 3 × String
  SymmetricKeyEnvelope := Unit
  Random := Unit

def pinAlgorithm (key : Fin 3) : SymmetricKeyAlgorithm :=
  if key = 2 then .xAes256Gcm else .aes256CbcHmac

def pinKeyId (key : Fin 3) : KeyId :=
  Vector.replicate 16 (UInt8.ofNat key)

def pairPinCrypto : PinCrypto pinTypes where
  algorithm := fun key : Fin 3 => .ok (pinAlgorithm key)
  decryptBytes := fun (key : Fin 3) (value : Fin 3 × String) =>
    if value.1 = key then .ok [] else .error .decrypt
  unwrapSymmetricKey := fun (key : Fin 3) (value : Fin 3 × String) =>
    if value.1 = key then .ok (if value.2 = "2" then (2 : Fin 3) else (0 : Fin 3))
    else .error .decrypt
  wrapSymmetricKey := fun (wrappingKey key : Fin 3) =>
    pure (wrappingKey, if key = 2 then "2" else "0")
  isAes256CbcHmacSha256 := fun value : Fin 3 × String => value.1 ≠ 2
  keyId := fun key : Fin 3 => some (pinKeyId key)
  encAlgorithm := fun value : Fin 3 × String => some (pinAlgorithm value.1)
  encKeyId := fun value : Fin 3 × String => if value.1 = 2 then some (pinKeyId 2) else none
  encryptText := fun (key : Fin 3) text => pure (key, text)
  decryptText := fun (key : Fin 3) (value : Fin 3 × String) =>
    if value.1 = key then .ok value.2 else .error .decrypt
  sealPin := fun (key : Fin 3) pin => pure (key, pin)
  unsealPin := fun (envelope : Fin 3 × String) pin =>
    if envelope.2 = pin then .ok envelope.1 else .error .wrongPassword
  containedKeyId := fun envelope : Fin 3 × String => .ok (some (pinKeyId envelope.1))

def oldKey : pinTypes.SymmetricKey := (0 : Fin 3)

theorem pinKeyId_injective : ∀ key other : Fin 3, pinKeyId key = pinKeyId other → key = other := by
  decide

theorem pairPinCrypto_lawful : pairPinCrypto.Lawful where
  decrypt_encrypt := by
    intro key pin random enc random' h
    cases h
    exact if_pos rfl
  decrypt_authentic := by
    intro (key : Fin 3) pin random enc random' (other : Fin 3) text h hread
    cases h
    have hdecrypt : (if key = other then ok pin else error CryptoError.decrypt) =
        ok text := hread
    split at hdecrypt
    next hkey => exact ⟨hkey.symm, (ok.inj hdecrypt).symm⟩
    next => cases hdecrypt
  encAlgorithm_encrypt := by
    intro key pin random enc random' h
    cases h
    exact ⟨pinAlgorithm key, rfl, rfl⟩
  encKeyId_encrypt := by
    intro (key : Fin 3) pin random enc random' h
    cases h
    by_cases hkey : key = 2
    · subst hkey
      exact .inl rfl
    · exact .inr ⟨congrArg ok (if_neg hkey), if_neg hkey⟩
  unseal_seal := by
    intro key pin random envelope random' h
    cases h
    exact if_pos rfl
  containedKeyId_seal := by
    intro key pin random envelope random' h
    cases h
    rfl
  keyId_injective := by
    intro key other id hkey hother
    exact pinKeyId_injective key other (Option.some.inj (hkey.trans hother.symm))
  keyId_of_algorithm := by
    intro key algorithm _
    exact ⟨pinKeyId key, rfl⟩

def freshPinClient : PinClient pinTypes where
  store := ⟨⟨none, none, none, none, none⟩, ()⟩
  userKey := none
  lastSet := none

def enrollPin : List (PinStep pinTypes) :=
  [.unlock (0 : Fin 3) none true, .setPin "1234" .beforeFirstUnlock, .restart]

theorem upgrade_pinMatches :
    (enrollPin.foldl (pinStep pairPinCrypto) freshPinClient).store.bridge.encryptedPin.isSome ∧
    PinMatches pairPinCrypto
      ((enrollPin ++ [PinStep.unlock (2 : Fin 3) (some ⟨((2 : Fin 3), "0"), ((0 : Fin 3), "2")⟩)
        true]).foldl (pinStep pairPinCrypto) freshPinClient) := by
  refine ⟨rfl, (history_pinMatches_iff pairPinCrypto pairPinCrypto_lawful freshPinClient
    ⟨rfl, rfl, rfl⟩ enrollPin (2 : Fin 3)
    (some ⟨((2 : Fin 3), "0"), ((0 : Fin 3), "2")⟩)).mpr ?_⟩
  intro enc _ hunnamed
  cases hunnamed.userKeyAlgorithm

/-- Another key of the first version leaves the PIN and the envelope of the first key. -/
theorem otherV1Key_staysStale :
    ¬PinMatches pairPinCrypto
      ((enrollPin ++ [PinStep.unlock (1 : Fin 3) none true]).foldl (pinStep pairPinCrypto)
        freshPinClient) := by
  rintro (hnone | ⟨key, pin, lockType, huser, -, ⟨enc, hstored, hread⟩, -, -⟩)
  · cases hnone.encrypted
  · cases huser
    cases hstored
    cases hread

end SdkInternal.KeyManagement
