import SdkInternal.Model.KeyManagement.InitializeUserCrypto

/-! # The steps of an unlock

What each step of an unlock changes, and when it fails. -/

namespace SdkInternal.KeyManagement

open Crypto Shared Option WrappedLocalUserDataKey PinLockSystem
open Stateful hiding bind_eq_ok_iff mapError_eq_ok_iff pure_eq_ok_iff

variable {T : CryptoTypes} (crypto : UnlockCrypto T)

/-! ## Installing keys -/

def WrappedAccountCryptographicState.privateKey : WrappedAccountCryptographicState T → T.EncString
  | .v1 privateKey | .v2 privateKey _ _ _ => privateKey

variable (state : WrappedAccountCryptographicState T) (key : T.SymmetricKey)

def StateOpens : Prop :=
  match state with
  | .v1 _ => crypto.algorithm key = .ok .aes256CbcHmac
  | .v2 privateKey signedPublicKey signingKey securityState =>
      crypto.algorithm key = .ok .xAes256Gcm ∧
        (∃ opened, crypto.unwrapPrivateKey key privateKey = .ok opened) ∧
        ∃ signing, crypto.unwrapSigningKey key signingKey = .ok signing ∧
          crypto.verifiesPublicKey signing signedPublicKey = true ∧
          ∃ verified, crypto.verifySecurityState signing securityState = some verified

def PrivateKeyUnreadable : Prop :=
  ∃ privateKey, state = .v1 privateKey ∧
    ∀ opened, crypto.unwrapPrivateKey key privateKey ≠ .ok opened

structure Installed (before after : Client T) : Prop where
  rest : after = before.withKeys after.toClientKeys
  userKey : after.symmetricKeys .user = some key
  privateKey : before.userPrivateKey = none →
    after.userPrivateKey = (crypto.unwrapPrivateKey key state.privateKey).toOption
  onlyUserKey : PrivateKeyUnreadable crypto state key →
    after.toClientKeys = before.toClientKeys.setSymmetricKey .user (some key)
  otherKeys : ¬PrivateKeyUnreadable crypto state key →
    after.userPrivateKey.isSome ∨ after.userSigningKey.isSome

/-- The key is installed with the account, possibly after an upgrade. -/
structure Accepts (token : Option (V2UpgradeToken T.EncString)) (key upgraded : T.SymmetricKey)
    (keys : ClientKeys T) : Prop where
  upgrades : upgradeUserKey crypto token key = .ok upgraded
  noKeys : keys.hasUserKeys = false
  opens : StateOpens crypto state upgraded

section Install

variable {crypto} {state : WrappedAccountCryptographicState T} {key : T.SymmetricKey}
  {client : Client T} {token : Option (V2UpgradeToken T.EncString)} (keys : ClientKeys T)
  (slot : SymmetricKeySlotId)

@[simp] theorem symmetricKeys_set_self (value : Option T.SymmetricKey) :
    (keys.setSymmetricKey slot value).symmetricKeys slot = value := by
  simp [ClientKeys.setSymmetricKey]

theorem symmetricKeys_set_of_ne {slot other : SymmetricKeySlotId} (h : other ≠ slot)
    (value : Option T.SymmetricKey) :
    (keys.setSymmetricKey slot value).symmetricKeys other = keys.symmetricKeys other := by
  simp [ClientKeys.setSymmetricKey, Function.update_of_ne h]

@[simp] theorem setSymmetricKey_twice (first second : Option T.SymmetricKey) :
    (keys.setSymmetricKey slot first).setSymmetricKey slot second =
      keys.setSymmetricKey slot second := by
  simp [ClientKeys.setSymmetricKey]

variable {value : Option T.SymmetricKey} {slot : SymmetricKeySlotId}

theorem setSymmetricKey_eq_self (h : keys.symmetricKeys slot = value) :
    keys.setSymmetricKey slot value = keys := by
  subst h
  simp [ClientKeys.setSymmetricKey]

theorem checkUserKeyType_eq_ok_iff {expected : SymmetricKeyAlgorithm} :
    checkUserKeyType crypto expected key = .ok () ↔ crypto.algorithm key = .ok expected := by
  simp only [checkUserKeyType, bind_eq_ok_iff, mapError_eq_ok_iff, ensure_eq_ok_iff]
  constructor
  · rintro ⟨algorithm, halgorithm, rfl⟩
    exact halgorithm
  · exact fun h => ⟨expected, h, rfl⟩

theorem persist_v1_post {privateKey : T.EncString} :
    (persistReadablePrivateKey crypto key privateKey >>= fun _ =>
        setSymmetricKey .user (some key) :
          Stateful (Client T) AccountCryptographyInitializationError Unit).Post client
      fun result after => result = .ok () ∧ Installed crypto (.v1 privateKey) key client after := by
  rw [post_bind, persistReadablePrivateKey]
  cases hopened : crypto.unwrapPrivateKey key privateKey with
  | ok opened =>
    dsimp only
    refine ⟨rfl, rfl, symmetricKeys_set_self _ _ _, ?_, ?_, fun _ => .inl rfl⟩
    · intro _
      change some opened = (crypto.unwrapPrivateKey key privateKey).toOption
      rw [hopened]
      rfl
    · rintro ⟨_, ⟨⟩, hunread⟩
      exact absurd hopened (hunread opened)
  | error error =>
    refine ⟨rfl, rfl, symmetricKeys_set_self _ _ _, ?_, fun _ => rfl, ?_⟩
    · intro hnone
      change client.userPrivateKey = (crypto.unwrapPrivateKey key privateKey).toOption
      rw [hopened, hnone]
      rfl
    · intro hreadable
      refine absurd ⟨privateKey, rfl, ?_⟩ hreadable
      intro opened h
      rw [hopened] at h
      cases h

theorem setToContext_post :
    (setToContext crypto state key).Post client (Continues
      (fun _ after => StateOpens crypto state key ∧ Installed crypto state key client after)
      fun _ after => ¬StateOpens crypto state key ∧ after = client) := by
  cases state with
  | v1 privateKey =>
    unfold setToContext
    rw [post_ofExcept_bind]
    constructor
    · intro _ hcheck
      apply persist_v1_post.mono
      rintro _ after ⟨rfl, hafter⟩
      exact ⟨checkUserKeyType_eq_ok_iff.mp hcheck, hafter⟩
    · intro error _ hcheck
      exact ⟨fun hopens => hcheck () (checkUserKeyType_eq_ok_iff.mpr hopens), rfl⟩
  | v2 privateKey signedPublicKey signingKey securityState =>
    unfold setToContext
    rw [post_ofExcept_bind]
    refine ⟨fun _ hcheck => ?_, fun _ _ hcheck => ⟨fun hopens => ?_, rfl⟩⟩
    swap
    · exact hcheck () (checkUserKeyType_eq_ok_iff.mpr hopens.1)
    rw [post_ofExcept_bind]
    refine ⟨fun opened hopened => ?_, fun _ _ hclosed => ⟨fun hopens => ?_, rfl⟩⟩
    swap
    · obtain ⟨opened, hopened⟩ := hopens.2.1
      exact hclosed opened (mapError_eq_ok_iff.mpr hopened)
    rw [post_ofExcept_bind]
    refine ⟨fun signing hsigning => ?_, fun _ _ hclosed => ⟨fun hopens => ?_, rfl⟩⟩
    swap
    · obtain ⟨signing, hsigning, -⟩ := hopens.2.2
      exact hclosed signing (mapError_eq_ok_iff.mpr hsigning)
    rw [mapError_eq_ok_iff] at hopened hsigning
    -- the signing key is the one that any successful opening has
    have hopens : StateOpens crypto (.v2 privateKey signedPublicKey signingKey securityState) key ↔
        crypto.verifiesPublicKey signing signedPublicKey = true ∧
          ∃ verified, crypto.verifySecurityState signing securityState = some verified := by
      simp only [StateOpens, checkUserKeyType_eq_ok_iff.mp hcheck, hopened, hsigning,
        Except.ok.injEq, exists_eq_left', exists_eq', true_and]
    rw [hopens, post_ensure_bind]
    refine ⟨fun hpublic => ?_, fun htampered => ⟨fun h => htampered h.1, rfl⟩⟩
    rw [post_require_bind]
    refine ⟨fun verified hverified => ?_, fun hnone => ⟨fun h => ?_, rfl⟩⟩
    · rw [persistPrivateKey, post_modify_bind, persistSigningKey, post_modify_bind, setSymmetricKey,
        post_modify_bind, setSecurityState, post_modify_bind, post_modify]
      refine ⟨⟨hpublic, verified, hverified⟩, rfl,
        symmetricKeys_set_self client.toClientKeys .user (some key), ?_, ?_, fun _ => .inl rfl⟩
      · intro _
        change some opened = (crypto.unwrapPrivateKey key privateKey).toOption
        rw [hopened]
        rfl
      · rintro ⟨_, ⟨⟩, -⟩
    · obtain ⟨verified, hverified⟩ := h.2
      rw [hnone] at hverified
      cases hverified

/-- The key is accepted and installed, or refused without a change. -/
theorem decryptedKey_post :
    (initializeUserCryptoDecryptedKey crypto key state token).Post client (Continues
      (fun _ after => ∃ upgraded, Accepts crypto state token key upgraded client.toClientKeys ∧
        Installed crypto state upgraded client after)
      fun _ after => (∀ upgraded, ¬Accepts crypto state token key upgraded client.toClientKeys) ∧
        after = client) := by
  unfold initializeUserCryptoDecryptedKey
  rw [post_ofExcept_bind]
  refine ⟨fun upgraded hupgrade => ?_, fun _ _ hrefused =>
    ⟨fun upgraded haccepts => hrefused upgraded haccepts.upgrades, rfl⟩⟩
  rw [post_get_bind, post_ensure_bind]
  refine ⟨fun hkeys => ?_, fun hkeys => ⟨fun _ haccepts => hkeys haccepts.noKeys, rfl⟩⟩
  rw [post_mapError]
  apply setToContext_post.mono
  rintro (error | _) after hafter
  · refine ⟨fun other haccepts => ?_, hafter.2⟩
    obtain rfl := Except.ok.inj (hupgrade.symm.trans haccepts.upgrades)
    exact hafter.1 haccepts.opens
  · exact ⟨upgraded, ⟨hupgrade, hkeys, hafter.1⟩, hafter.2⟩

/-- The keys are those from before exactly if the key of the user was the same and no other key was
installed. -/
theorem installed_keys_eq_iff {before after : Client T}
    (hinstalled : Installed crypto state key before after)
    (hprivate : before.userPrivateKey = keys.userPrivateKey)
    (hsigning : before.userSigningKey = keys.userSigningKey)
    (hset : before.toClientKeys.setSymmetricKey .user (some key) =
      keys.setSymmetricKey .user (some key)) (hnoKeys : before.toClientKeys.hasUserKeys = false) :
    after.toClientKeys = keys ↔
      keys.symmetricKeys .user = some key ∧ PrivateKeyUnreadable crypto state key := by
  constructor
  · intro heq
    refine ⟨heq ▸ hinstalled.userKey, ?_⟩
    by_contra hreadable
    have hother := hinstalled.otherKeys hreadable
    rw [heq, ← hprivate, ← hsigning] at hother
    simp only [ClientKeys.hasUserKeys, Bool.or_eq_false_iff] at hnoKeys
    rcases hother with hother | hother
    · simp [hnoKeys.1.2] at hother
    · simp [hnoKeys.2] at hother
  · rintro ⟨huser, hunread⟩
    rw [hinstalled.onlyUserKey hunread, hset, setSymmetricKey_eq_self keys huser]

end Install

/-! ## The methods -/

def pinKey (bridge : StateBridge T) (pin : String) : Option T.SymmetricKey :=
  (getActivePinEnvelope bridge).bind fun envelope =>
    (crypto.unsealPin envelope pin).toOption

def yieldedUserKey (bridge : Option (StateBridge T)) : InitUserCryptoMethod T →
    Option T.SymmetricKey
  | .masterPasswordUnlock userKey | .decryptedKey userKey | .pin userKey | .authRequest userKey
  | .deviceKey userKey | .keyConnector userKey | .keyConnectorUrl (some userKey) =>
      userKey.toOption
  | .keyConnectorUrl none => none
  | .clientManagedState => bridge.bind (·.userKey)
  | .pinEnvelope pin envelope => (crypto.unsealPin envelope pin).toOption
  | .pinState pin => bridge.bind fun bridge => pinKey crypto bridge pin

variable (method : InitUserCryptoMethod T)

/-- The keys into which those of the account are installed. A stored PIN drops the key of the
user. -/
def InitUserCryptoMethod.keysBefore (keys : ClientKeys T) : ClientKeys T :=
  match method with
  | .pinState _ => keys.setSymmetricKey .user none
  | _ => keys

/-- The method yields its key, or fails with the keys as they were. -/
def YieldsKey (client : Client T) :
    Except (Stop EncryptionSettingsError) T.SymmetricKey → Client T → Prop :=
  Continues
    (fun key after => yieldedUserKey crypto client.bridge method = some key ∧
      after = client.withKeys (method.keysBefore client.toClientKeys))
    fun _ after => yieldedUserKey crypto client.bridge method = none ∧ after = client

section Methods

variable {crypto} {client : Client T}

theorem decryptedUserKey_post {method : InitUserCryptoMethod T}
    {userKey : Except CryptoError T.SymmetricKey}
    (hyields : yieldedUserKey crypto client.bridge method = userKey.toOption)
    (hkeys : method.keysBefore client.toClientKeys = client.toClientKeys) :
    (decryptedUserKey userKey).Post client (YieldsKey crypto method client) := by
  cases userKey with
  | ok key =>
    refine ⟨hyields, ?_⟩
    rw [hkeys]
    rfl
  | error error => exact ⟨hyields, rfl⟩

theorem pinUnlock_post {bridge : StateBridge T} {pin : String} :
    (unlock crypto bridge pin).Post client (Continues
      (fun _ after => ∃ key, pinKey crypto bridge pin = some key ∧
        after = client.withKeys (client.toClientKeys.setSymmetricKey .user (some key)))
      fun _ after => pinKey crypto bridge pin = none ∧ after = client) := by
  unfold unlock pinKey
  cases getActivePinEnvelope bridge with
  | none => exact ⟨rfl, rfl⟩
  | some envelope =>
    rw [post_require_bind_some rfl]
    cases hunseal : crypto.unsealPin envelope pin with
    | ok key =>
      refine ⟨key, ?_, rfl⟩
      rw [bind_some, hunseal]
      rfl
    | error error =>
      have hnone : ((some envelope).bind fun envelope =>
          (crypto.unsealPin envelope pin).toOption) = none := by
        rw [bind_some, hunseal]
        rfl
      cases error with
      | wrongPassword | other => exact ⟨hnone, rfl⟩

theorem pinStateUserKey_post {pin : String} :
    (pinStateUserKey crypto pin).Post client (YieldsKey crypto (.pinState pin) client) := by
  unfold pinStateUserKey registeredBridge
  rw [post_bind, post_get_bind, post_require]
  constructor
  · intro bridge hbridge
    have hyields : yieldedUserKey crypto client.bridge (.pinState pin) =
        pinKey crypto bridge pin := by
      rw [hbridge]
      rfl
    rw [continues_ok, post_mapError_bind]
    apply pinUnlock_post.mono
    intro result after hafter
    cases result with
    | error error => exact ⟨hyields.trans hafter.1, hafter.2⟩
    | ok u =>
      obtain ⟨key, hkey, rfl⟩ := hafter
      have hslot : (client.withKeys (client.toClientKeys.setSymmetricKey .user
          (some key))).symmetricKeys .user = some key := symmetricKeys_set_self _ _ _
      exact ⟨hyields.trans hkey, congrArg client.withKeys
        (setSymmetricKey_twice client.toClientKeys .user (some key) none)⟩
  · intro hbridge
    refine ⟨?_, rfl⟩
    rw [hbridge]
    rfl

theorem userKeyFor_post :
    (userKeyFor crypto method).Post client (YieldsKey crypto method client) := by
  cases method with
  | masterPasswordUnlock userKey | decryptedKey userKey | pin userKey | authRequest userKey
  | deviceKey userKey | keyConnector userKey => exact decryptedUserKey_post rfl rfl
  | pinState pin => exact pinStateUserKey_post
  | keyConnectorUrl response =>
    cases response with
    | none => exact ⟨rfl, rfl⟩
    | some userKey => exact decryptedUserKey_post rfl rfl
  | pinEnvelope pin envelope =>
    unfold userKeyFor YieldsKey yieldedUserKey
    dsimp only
    cases crypto.unsealPin envelope pin with
    | ok key | error error => exact ⟨rfl, rfl⟩
  | clientManagedState =>
    unfold userKeyFor registeredBridge YieldsKey yieldedUserKey
    rw [post_bind, post_get_bind, post_require]
    constructor
    · intro bridge hbridge
      rw [continues_ok, post_require, hbridge]
      exact ⟨fun key hkey => ⟨hkey, rfl⟩, fun hnone => ⟨hnone, rfl⟩⟩
    · intro hbridge
      rw [hbridge]
      exact ⟨rfl, rfl⟩

end Methods

/-! ## The key of the local data -/

inductive Migrates (access : RepositoryAccess) (key : T.SymmetricKey) (store : LocalDataStore T) :
    Option (V2UpgradeToken T.EncString) → LocalDataStore T → Prop
  | noToken : Migrates access key store none store
  | kept {token : V2UpgradeToken T.EncString} (available : access.available = true)
      (readable : access.readable = true)
      (unmigrated : ∀ wrapped, store.localUserDataKey = some wrapped →
        crypto.isAes256CbcHmacSha256 wrapped = true →
        ∀ v1Key, token.unwrapV1 crypto.toKeyReader key ≠ .ok v1Key) :
      Migrates access key store (some token) store
  | rewrapped {token : V2UpgradeToken T.EncString} {wrapped rewrapped : T.EncString}
      {v1Key localKey : T.SymmetricKey} {random : T.Random} (available : access.available = true)
      (readable : access.readable = true) (writes : access.write = .written)
      (stored : store.localUserDataKey = some wrapped)
      (isV1 : crypto.isAes256CbcHmacSha256 wrapped = true)
      (opensToken : token.unwrapV1 crypto.toKeyReader key = .ok v1Key)
      (unwraps : crypto.unwrapSymmetricKey v1Key wrapped = .ok localKey)
      (wraps : crypto.wrapSymmetricKey key localKey store.random = .ok (rewrapped, random)) :
      Migrates access key store (some token) ⟨some rewrapped, random⟩

inductive Creates (access : RepositoryAccess) (key : T.SymmetricKey) (store : LocalDataStore T) :
    LocalDataStore T → Prop
  | present (available : access.available = true) (readable : access.readable = true)
      (stored : store.localUserDataKey.isSome = true) : Creates access key store store
  | created {wrapped : T.EncString} {random : T.Random} (available : access.available = true)
      (absent : access.readable = false ∨ store.localUserDataKey = none)
      (writes : access.write = .written)
      (wraps : crypto.wrapSymmetricKey key key store.random = .ok (wrapped, random)) :
      Creates access key store ⟨some wrapped, random⟩

/-- The key of the local data is loaded: the user is known, the repository answers and the stored
key opens with that of the user. -/
def LocalKeyLoads (access : LocalUserDataAccess) (userId : Option UserId)
    (token : Option (V2UpgradeToken T.EncString)) (key : T.SymmetricKey)
    (store : LocalDataStore T) : Prop :=
  userId.isSome = true ∧
    ∃ migrated, Migrates crypto access.migration key store token migrated ∧
      ∃ created, Creates crypto access.creation key migrated created ∧
        access.loading.available = true ∧ access.loading.readable = true ∧
          ∃ wrapped localKey, created.localUserDataKey = some wrapped ∧
            crypto.unwrapSymmetricKey key wrapped = .ok localKey

section LocalKey

variable {crypto} {client : Client T} {access : RepositoryAccess} {key : T.SymmetricKey}
  {store after : LocalDataStore T} {ε : Type} {u : Unit} {error : ε}

theorem acquire_eq_ok_iff :
    access.acquire error store = (.ok u, after) ↔ access.available = true ∧ store = after := by
  unfold RepositoryAccess.acquire
  cases access.available with
  | true => simp [Stateful.pure_eq_ok_iff]
  | false => simp [throw_eq_ok_iff]

theorem repositoryGet_eq_ok_iff {value : Option T.EncString} :
    access.get error store = (.ok value, after) ↔
      access.readable = true ∧ store.localUserDataKey = value ∧ store = after := by
  unfold RepositoryAccess.get
  cases access.readable with
  | true =>
    simp only [if_true, Stateful.bind_eq_ok_iff, get_eq_ok_iff, Stateful.pure_eq_ok_iff,
      and_assoc, exists_and_left, exists_eq_left', true_and]
  | false => simp [throw_eq_ok_iff]

theorem repositorySet_eq_ok_iff {value : T.EncString} :
    access.set error value store = (.ok u, after) ↔
      access.write = .written ∧ { store with localUserDataKey := some value } = after := by
  unfold RepositoryAccess.set
  cases access.write with
  | written => simp [modify_eq_ok_iff]
  | failed stored =>
    cases stored with
    | true => simp [Stateful.bind_eq_ok_iff, throw_eq_ok_iff]
    | false => simp [throw_eq_ok_iff]

theorem draw_eq_ok_iff {ε α : Type} {m : StateT T.Random (Except ε) α} {a : α} :
    draw m store = (.ok a, after) ↔
      ∃ random, m store.random = .ok (a, random) ∧ { store with random } = after :=
  zoom_eq_ok_iff

section Token

variable {token : V2UpgradeToken T.EncString}

theorem migrates_iff_kept (hkept : ∀ wrapped, store.localUserDataKey = some wrapped →
    crypto.isAes256CbcHmacSha256 wrapped = true →
    ∀ v1Key, token.unwrapV1 crypto.toKeyReader key ≠ .ok v1Key) :
    Migrates crypto access key store (some token) after ↔
      access.available = true ∧ access.readable = true ∧ store = after := by
  constructor
  · rintro (_ | ⟨havailable, hreadable, -⟩ | ⟨-, -, -, hstored, hv1, hopens, -, -⟩)
    · exact ⟨havailable, hreadable, rfl⟩
    · exact absurd hopens (hkept _ hstored hv1 _)
  · rintro ⟨havailable, hreadable, rfl⟩
    exact .kept havailable hreadable hkept

theorem migrates_iff_rewrapStoredKey {wrapped : T.EncString}
    (hstored : store.localUserDataKey = some wrapped)
    (hv1 : crypto.isAes256CbcHmacSha256 wrapped = true) :
    Migrates crypto access key store (some token) after ↔
      access.available = true ∧ access.readable = true ∧
        rewrapStoredKey crypto.toWrappingCrypto (some key) access token wrapped store =
          (.ok (), after) := by
  unfold rewrapStoredKey
  rw [map_some]
  cases htoken : token.unwrapV1 crypto.toKeyReader key with
  | error error =>
    rw [migrates_iff_kept (by simp [htoken])]
    simp only [Stateful.pure_eq_ok_iff, true_and]
  | ok v1Key =>
    simp only [Stateful.bind_eq_ok_iff, draw_eq_ok_iff, run_translateError_eq_ok_iff,
      rewrapWithUserKey, run_bind_eq_ok_iff, run_lift_eq_ok_iff,
      mapError_eq_ok_iff, repositorySet_eq_ok_iff]
    constructor
    · rintro (_ | ⟨-, -, hkept⟩ | ⟨havailable, hreadable, hwritten, hstored', -, hopens, hunwrap,
        hwrap⟩)
      · exact absurd htoken (hkept wrapped hstored hv1 v1Key)
      · obtain rfl := some.inj (hstored.symm.trans hstored')
        obtain rfl := Except.ok.inj (htoken.symm.trans hopens)
        exact ⟨havailable, hreadable, _, _, ⟨_, ⟨_, _, ⟨hunwrap, rfl⟩, hwrap⟩, rfl⟩, hwritten, rfl⟩
    · rintro ⟨havailable, hreadable, _, _, ⟨_, ⟨_, _, ⟨hunwrap, rfl⟩, hwrap⟩, rfl⟩, hwritten, rfl⟩
      exact .rewrapped havailable hreadable hwritten hstored hv1 htoken hunwrap hwrap

end Token

variable {token : Option (V2UpgradeToken T.EncString)}

theorem migrate_eq_ok_iff :
    migrateLocalUserDataKeyForUserKeyUpgrade crypto.toWrappingCrypto (some key) token access store =
      (.ok u, after) ↔ Migrates crypto access key store token after := by
  cases token with
  | none =>
    unfold migrateLocalUserDataKeyForUserKeyUpgrade
    rw [Stateful.pure_eq_ok_iff]
    constructor
    · rintro ⟨-, rfl⟩
      exact .noToken
    · rintro ⟨⟩
      exact ⟨rfl, rfl⟩
  | some token =>
    unfold migrateLocalUserDataKeyForUserKeyUpgrade migrateWithToken
    simp only [Stateful.bind_eq_ok_iff, acquire_eq_ok_iff, repositoryGet_eq_ok_iff,
      exists_const, exists_and_left, and_assoc, exists_eq_left']
    cases hvalue : store.localUserDataKey with
    | none =>
      rw [migrates_iff_kept (by simp [hvalue])]
      simp only [Stateful.pure_eq_ok_iff, true_and]
    | some wrapped =>
      dsimp only
      split
      next hv1 => rw [migrates_iff_rewrapStoredKey hvalue hv1]
      next hv1 =>
        rw [migrates_iff_kept (by simp [hvalue, hv1])]
        simp only [Stateful.pure_eq_ok_iff, true_and]

theorem create_eq_ok_iff :
    initializeLocalUserDataKeyIntoState crypto.toWrappingCrypto (some key) access store =
      (.ok u, after) ↔ Creates crypto access key store after := by
  unfold initializeLocalUserDataKeyIntoState
  simp only [Stateful.bind_eq_ok_iff, acquire_eq_ok_iff, get_eq_ok_iff, exists_const,
    and_assoc, exists_and_left, exists_eq_left']
  split
  next hpresent =>
    rw [Stateful.pure_eq_ok_iff]
    rw [Bool.and_eq_true_iff] at hpresent
    constructor
    · rintro ⟨havailable, -, rfl⟩
      exact .present havailable hpresent.1 hpresent.2
    · rintro (⟨havailable, -, -⟩ | ⟨-, habsent, -, -⟩)
      · exact ⟨havailable, rfl, rfl⟩
      · simp [hpresent, isSome_iff_ne_none.mp hpresent.2] at habsent
  next habsent =>
    simp only [Stateful.bind_eq_ok_iff, draw_eq_ok_iff, run_translateError_eq_ok_iff,
      fromContextUserKey, repositorySet_eq_ok_iff]
    constructor
    · rintro ⟨havailable, wrapped, _, ⟨random, hwrap, rfl⟩, hwritten, rfl⟩
      have habsent : access.readable = false ∨ store.localUserDataKey = none := by
        simpa [imp_iff_not_or] using habsent
      exact .created havailable habsent hwritten hwrap
    · rintro (⟨-, hreadable, hstored⟩ | ⟨havailable, -, hwritten, hwrap⟩)
      · exact absurd (Bool.and_eq_true_iff.mpr ⟨hreadable, hstored⟩) habsent
      · exact ⟨havailable, _, _, ⟨_, hwrap, rfl⟩, hwritten, rfl⟩

theorem localDataKeyFor_ok_iff {access : LocalUserDataAccess} {userId : Option UserId} :
    (∃ localKey after, localDataKeyFor crypto.toWrappingCrypto access userId token (some key)
        store = (.ok localKey, after)) ↔ LocalKeyLoads crypto access userId token key store := by
  unfold localDataKeyFor getLocalUserDataKeyFromState unwrap
  simp only [Stateful.bind_eq_ok_iff, require_eq_ok_iff, Stateful.mapError_eq_ok_iff,
    acquire_eq_ok_iff, repositoryGet_eq_ok_iff, ofExcept_eq_ok_iff, mapError_eq_ok_iff,
    migrate_eq_ok_iff, create_eq_ok_iff, exists_const, and_assoc, exists_and_left, exists_eq_left']
  constructor
  · rintro ⟨localKey, _, user, huser, migrated, hmigrated, created, hcreated, havailable, hreadable,
      wrapped, hstored, hunwrap, rfl⟩
    exact ⟨isSome_iff_exists.mpr ⟨user, huser⟩, migrated, hmigrated, _, hcreated, havailable,
      hreadable, wrapped, localKey, hstored, hunwrap⟩
  · rintro ⟨huser, migrated, hmigrated, created, hcreated, havailable, hreadable, wrapped, localKey,
      hstored, hunwrap⟩
    obtain ⟨user, huser⟩ := isSome_iff_exists.mp huser
    exact ⟨localKey, created, user, huser, migrated, hmigrated, created, hcreated, havailable,
      hreadable, wrapped, hstored, hunwrap, rfl⟩

/-- The last step of an unlock fails exactly if the key of the local data does not load, and leaves
the other keys. -/
theorem onUnlockHandler_post {access : LocalUserDataAccess}
    (hkey : client.symmetricKeys .user = some key) :
    (onUnlockHandler crypto access).Post client (Continues
      (fun _ _ => LocalKeyLoads crypto access client.userId client.upgradeToken key
        ⟨client.localUserDataKey, client.random⟩)
      fun _ after => ¬LocalKeyLoads crypto access client.userId client.upgradeToken key
          ⟨client.localUserDataKey, client.random⟩ ∧
        after.toClientKeys = client.toClientKeys) := by
  unfold onUnlockHandler initializeUserLocalDataKey
  rw [post_bind, post_get_bind, post_bind, post_focus, hkey, ← localDataKeyFor_ok_iff]
  unfold Post
  generalize localDataKeyFor crypto.toWrappingCrypto access client.userId client.upgradeToken
    (some key) ⟨client.localUserDataKey, client.random⟩ = run
  obtain ⟨result, after⟩ := run
  cases result with
  | ok localKey => exact ⟨localKey, after, rfl⟩
  | error error =>
    refine ⟨?_, rfl⟩
    rintro ⟨_, _, ⟨⟩⟩

end LocalKey

/-! ## The keys of the organizations -/

def OrgKeysOpen (privateKey : Option T.PrivateKey)
    (orgEncKeys : List (OrganizationId × T.SharedKey)) : Prop :=
  orgEncKeys = [] ∨ ∃ opened, privateKey = some opened ∧
    ∀ entry ∈ orgEncKeys, ∃ key, crypto.decapsulate opened entry.2 = .ok key

section Organizations

variable {crypto} {client : Client T}

theorem setEachOrgKey_post {privateKey : T.PrivateKey}
    (orgEncKeys : List (OrganizationId × T.SharedKey)) :
    (setEachOrgKey crypto privateKey orgEncKeys).Post client (Continues
      (fun _ _ => ∀ entry ∈ orgEncKeys, ∃ key, crypto.decapsulate privateKey entry.2 = .ok key)
      fun _ after =>
        (¬∀ entry ∈ orgEncKeys, ∃ key, crypto.decapsulate privateKey entry.2 = .ok key) ∧
          after.symmetricKeys .user = client.symmetricKeys .user) := by
  induction orgEncKeys generalizing client with
  | nil =>
    intro entry hentry
    cases hentry
  | cons entry rest ih =>
    obtain ⟨orgId, orgEncKey⟩ := entry
    unfold setEachOrgKey
    rw [post_bind, post_ofExcept, List.forall_mem_cons]
    cases hkey : crypto.decapsulate privateKey orgEncKey with
    | error error =>
      refine ⟨?_, rfl⟩
      rintro ⟨⟨_, ⟨⟩⟩, -⟩
    | ok key =>
      change Continues _ _ (.ok key) client
      rw [continues_ok, setSymmetricKey, post_modify_bind]
      apply ih.mono
      rintro (error | _) after hafter
      · refine ⟨fun h => hafter.1 h.2, hafter.2.trans ?_⟩
        exact symmetricKeys_set_of_ne _ (by simp) _
      · exact ⟨⟨key, rfl⟩, hafter⟩

theorem setOrgKeys_post {orgEncKeys : List (OrganizationId × T.SharedKey)} :
    (setOrgKeys crypto orgEncKeys).Post client (Continues
      (fun _ _ => OrgKeysOpen crypto client.userPrivateKey orgEncKeys)
      fun _ after => ¬OrgKeysOpen crypto client.userPrivateKey orgEncKeys ∧
        after.symmetricKeys .user = client.symmetricKeys .user) := by
  unfold setOrgKeys
  split
  next hempty => exact .inl (List.isEmpty_iff.mp hempty)
  next hempty =>
    have hne : orgEncKeys ≠ [] := fun h => hempty (List.isEmpty_iff.mpr h)
    rw [post_get_bind, post_bind, post_require]
    constructor
    · intro privateKey hprivate
      rw [continues_ok, post_modify_bind]
      apply (setEachOrgKey_post orgEncKeys).mono
      rintro (error | _) after hafter
      · refine ⟨?_, hafter.2⟩
        rintro (hnil | ⟨opened, hopened, hopens⟩)
        · exact hne hnil
        · obtain rfl := some.inj (hprivate.symm.trans hopened)
          exact hafter.1 hopens
      · exact .inr ⟨privateKey, hprivate, hafter⟩
    · intro hnone
      refine ⟨?_, rfl⟩
      rintro (hnil | ⟨opened, hopened, -⟩)
      · exact hne hnil
      · rw [hnone] at hopened
        cases hopened

theorem upgradeUserKey_noToken {key : T.SymmetricKey} :
    upgradeUserKey crypto none key = .ok key := by
  unfold upgradeUserKey
  cases crypto.algorithm key with
  | error error => rfl
  | ok algorithm =>
    cases algorithm with
    | aes256CbcHmac | xAes256Gcm | xChaCha20Poly1305 | aes256Gcm => rfl

end Organizations

end SdkInternal.KeyManagement
