import SdkInternal.Verification.KeyManagement.LocalUserDataKey
import SdkInternal.Verification.KeyManagement.PinMaterial
import SdkInternal.Verification.KeyManagement.UnlockSteps

/-! # Unlocks that fail

An unlock that fails before the keys are installed changes none of them, except that a PIN has the
key of an unlocked client dropped. Steps that fail after the keys are installed leave them there. -/

namespace SdkInternal.KeyManagement

open Crypto Shared Option UnlockClient
open Stateful

variable {T : CryptoTypes} (crypto : UnlockCrypto T)

def KeysKeptOnError {ε : Type} (call : Stateful (Client T) ε Unit) (client : Client T) : Prop :=
  call.Post client fun result after =>
    ∀ error, result = .error error → after.toClientKeys = client.toClientKeys

/-- The condition decides whether a call that failed left the keys as they were. -/
def KeptIff {ε : Type} (client : Client T) (condition : Prop) (result : Except ε Unit)
    (after : Client T) : Prop :=
  (∀ error, result = .error error → after.toClientKeys = client.toClientKeys) ↔ condition

section Kept

variable {ε : Type} {client after : Client T} {condition : Prop}

theorem keysKept_iff_of_post {call : Stateful (Client T) ε Unit}
    (h : call.Post client (KeptIff client condition)) : KeysKeptOnError call client ↔ condition :=
  h

theorem keptIff_error {error : ε} :
    KeptIff client condition (.error error) after ↔
      (after.toClientKeys = client.toClientKeys ↔ condition) := by
  simp [KeptIff]

theorem keptIff_ok {u : Unit} :
    KeptIff client condition (.ok u : Except ε Unit) after ↔ condition := by
  simp [KeptIff]

theorem keptIff_require_bind {α : Type} {error : ε} {value : Option α}
    {rest : α → Stateful (Client T) ε Unit} (hnone : value = none → condition)
    (hsome : ∀ a, value = some a → (rest a).Post client (KeptIff client condition)) :
    (require error value >>= rest).Post client (KeptIff client condition) := by
  rw [post_bind, post_require]
  refine ⟨hsome, ?_⟩
  intro h
  exact keptIff_error.mpr (iff_of_true rfl (hnone h))

end Kept

/-! ## Requests -/

def UserIdAccepted (client : Client T) (userId : Option UserId) : Prop :=
  ∀ existing ∈ client.userId, ∀ user ∈ userId, existing = user

/-- A request that yields a key fails only while the keys are as they were: a PIN that drops the key
of the user has it replaced, and once keys are installed, the key of the local data loads. The
exception is an account whose private key cannot be read and that had the same key before. -/
structure RequestCompletes (environment : UnlockEnvironment) (req : InitUserCryptoRequest T)
    (client : Client T) (key : T.SymmetricKey) : Prop where
  droppedKey : ∀ pin, req.method = .pinState pin → (client.symmetricKeys .user).isSome = true →
    ∃ upgraded, Accepts crypto req.accountCryptographicState req.upgradeToken key upgraded
      (req.method.keysBefore client.toClientKeys)
  localData : ∀ upgraded, Accepts crypto req.accountCryptographicState req.upgradeToken key upgraded
      (req.method.keysBefore client.toClientKeys) →
    LocalKeyLoads crypto environment.access (client.userId.or req.userId) client.upgradeToken
        upgraded ⟨client.localUserDataKey, client.random⟩ ∨
      client.symmetricKeys .user = some upgraded ∧
        PrivateKeyUnreadable crypto req.accountCryptographicState upgraded

section Request

variable {crypto} {client : Client T} {environment : UnlockEnvironment}
  {req : InitUserCryptoRequest T} {key upgraded : T.SymmetricKey}

theorem initRequestUserId_post {userId : Option UserId} :
    (initRequestUserId userId).Post client (Continues
      (fun _ after => UserIdAccepted client userId ∧
        after = { client with userId := client.userId.or userId })
      fun _ after => ¬UserIdAccepted client userId ∧ after = client) := by
  cases userId with
  | none =>
    refine ⟨by simp [UserIdAccepted], ?_⟩
    rw [or_none]
    rfl
  | some user =>
    unfold initRequestUserId initUserId
    rw [post_get_bind]
    cases huser : client.userId with
    | none => exact ⟨by simp [UserIdAccepted, huser], rfl⟩
    | some existing =>
      have haccepted : UserIdAccepted client (some user) ↔ existing = user := by
        simp [UserIdAccepted, huser]
      rw [post_ofExcept, ensure, haccepted]
      split
      next heq => exact ⟨heq, by rw [some_or, ← huser]⟩
      next heq => exact ⟨heq, rfl⟩

variable {method : InitUserCryptoMethod T}

theorem keysBefore_eq_iff {keys : ClientKeys T} :
    method.keysBefore keys = keys ↔
      ∀ pin, method = .pinState pin → (keys.symmetricKeys .user).isSome = false := by
  cases method with
  | pinState pin =>
    constructor
    · intro heq _ _
      rw [← heq]
      simp [InitUserCryptoMethod.keysBefore]
    · intro hnone
      exact setSymmetricKey_eq_self keys (by simpa using hnone pin rfl)
  | _ => simp [InitUserCryptoMethod.keysBefore]

theorem setSymmetricKey_keysBefore (method : InitUserCryptoMethod T) (keys : ClientKeys T)
    (value : Option T.SymmetricKey) :
    (method.keysBefore keys).setSymmetricKey .user value = keys.setSymmetricKey .user value := by
  cases method with
  | pinState pin => exact setSymmetricKey_twice _ _ _ _
  | _ => rfl

theorem copyIfNeeded_post (hkey : client.symmetricKeys .user = some key) :
    (copyIfNeeded environment method).Post client fun result after =>
      result = .ok () ∧ after.toClientKeys = client.toClientKeys ∧ after.userId = client.userId ∧
        after.upgradeToken = client.upgradeToken ∧
        after.localUserDataKey = client.localUserDataKey ∧ after.random = client.random := by
  unfold copyIfNeeded
  split
  next =>
    unfold copyUserKeyToState
    rw [post_get_bind, post_require_bind_some hkey, post_modify]
    refine ⟨rfl, rfl, rfl, ?_, rfl, rfl⟩
    unfold Client.upgradeToken
    cases client.bridge with
    | none | some bridge => rfl
  next => exact ⟨rfl, rfl, rfl, rfl, rfl, rfl⟩

/-- A key that is not accepted leaves the keys as they were, unless the PIN dropped one. -/
theorem kept_iff_of_refused
    (hrefused : ∀ upgraded, ¬Accepts crypto req.accountCryptographicState req.upgradeToken key
      upgraded (req.method.keysBefore client.toClientKeys)) :
    req.method.keysBefore client.toClientKeys = client.toClientKeys ↔
      RequestCompletes crypto environment req client key := by
  rw [keysBefore_eq_iff]
  constructor
  · intro hnone
    refine ⟨?_, fun upgraded haccepts => absurd haccepts (hrefused upgraded)⟩
    intro pin hmethod hsome
    rw [hnone pin hmethod] at hsome
    cases hsome
  · intro hcompletes pin hmethod
    rw [← Bool.not_eq_true]
    intro hsome
    obtain ⟨upgraded, haccepts⟩ := hcompletes.droppedKey pin hmethod hsome
    exact hrefused upgraded haccepts

/-- Keys that were installed are those from before only if they are installed again. -/
theorem kept_iff_of_notLoaded {before after : Client T}
    (hbefore : before.toClientKeys = req.method.keysBefore client.toClientKeys)
    (haccepts : Accepts crypto req.accountCryptographicState req.upgradeToken key upgraded
      before.toClientKeys)
    (hinstalled : Installed crypto req.accountCryptographicState upgraded before after)
    (hlocal : ¬LocalKeyLoads crypto environment.access (client.userId.or req.userId)
      client.upgradeToken upgraded ⟨client.localUserDataKey, client.random⟩) :
    after.toClientKeys = client.toClientKeys ↔
      RequestCompletes crypto environment req client key := by
  have hkeys := installed_keys_eq_iff client.toClientKeys hinstalled
    (by rw [hbefore]; cases req.method <;> rfl) (by rw [hbefore]; cases req.method <;> rfl)
    (by rw [hbefore, setSymmetricKey_keysBefore]) haccepts.noKeys
  rw [hkeys]
  rw [hbefore] at haccepts
  constructor
  · intro hsame
    refine ⟨fun _ _ _ => ⟨upgraded, haccepts⟩, ?_⟩
    intro other hother
    obtain rfl := Except.ok.inj (haccepts.upgrades.symm.trans hother.upgrades)
    exact .inr hsame
  · intro hcompletes
    exact (hcompletes.localData upgraded haccepts).resolve_left hlocal

/-- A request leaves the keys alone when it fails exactly if it cannot fail once it changed
them. -/
theorem request_kept_iff :
    KeysKeptOnError (initializeUserCrypto crypto environment req) client ↔
      (UserIdAccepted client req.userId →
        ∀ key, yieldedUserKey crypto client.bridge req.method = some key →
          RequestCompletes crypto environment req client key) := by
  apply keysKept_iff_of_post
  unfold initializeUserCrypto
  rw [post_mapError_bind]
  apply initRequestUserId_post.mono
  rintro (error | _) after ⟨haccepted, rfl⟩
  · rw [continues_error, keptIff_error]
    exact iff_of_true rfl fun h => absurd h haccepted
  rw [continues_ok, post_bind, forall_prop_of_true haccepted]
  apply (userKeyFor_post req.method).mono
  rintro (error | key) after ⟨hyields, rfl⟩
  · rw [continues_error, keptIff_error]
    exact iff_of_true rfl (by simp [hyields])
  simp only [hyields, some.injEq, forall_eq']
  rw [continues_ok, post_mapError_bind]
  apply decryptedKey_post.mono
  rintro (error | _) installed hinstalled
  · obtain ⟨hrefused, rfl⟩ := hinstalled
    rw [continues_error, keptIff_error]
    have hkept : req.method.keysBefore client.toClientKeys = client.toClientKeys ↔
        RequestCompletes crypto environment req client key := kept_iff_of_refused hrefused
    exact hkept
  obtain ⟨upgraded, haccepts, hinstalled⟩ := hinstalled
  rw [continues_ok, post_mapError_bind]
  apply (copyIfNeeded_post hinstalled.userKey).mono
  rintro _ copied ⟨rfl, hcopied, huser, htoken, hstored, hrandom⟩
  rw [continues_ok, post_mapError]
  have hkey : copied.symmetricKeys .user = some upgraded := hcopied ▸ hinstalled.userKey
  apply (onUnlockHandler_post hkey).mono
  rw [huser, htoken, hstored, hrandom, hinstalled.rest]
  rintro (error | _) final hfinal
  · refine keptIff_error.mpr ?_
    rw [hfinal.2, hcopied]
    exact kept_iff_of_notLoaded rfl haccepts hinstalled hfinal.1
  · refine keptIff_ok.mpr ⟨fun _ _ _ => ⟨upgraded, haccepts⟩, ?_⟩
    intro other hother
    obtain rfl := Except.ok.inj (haccepts.upgrades.symm.trans hother.upgrades)
    exact .inl hfinal

end Request

/-! ## Session keys -/

/-- A session key that opens the account also opens the keys of its organizations. -/
def OrganizationsOpen (state : SessionState T) (sessionKey : T.SymmetricKey)
    (keys : ClientKeys T) : Prop :=
  ∀ envelope account key, state.sessionProtectedUserKey = some envelope →
    state.accountCryptoState = some account →
    crypto.unsealWithSessionKey sessionKey envelope = some key →
    Accepts crypto account none key key keys →
    ∃ orgEncKeys, state.organizationKeys = some orgEncKeys ∧
      OrgKeysOpen crypto (crypto.unwrapPrivateKey key account.privateKey).toOption orgEncKeys

section SessionKey

variable {crypto} {client : Client T} {state : SessionState T}
  {sessionKey : T.SymmetricKey} {keys : ClientKeys T}

theorem userPrivateKey_eq_none (h : keys.hasUserKeys = false) : keys.userPrivateKey = none := by
  simp only [ClientKeys.hasUserKeys, Bool.or_eq_false_iff] at h
  simpa using h.1.2

variable {key : T.SymmetricKey}

theorem keys_ne_of_userKey {after : Client T}
    (hlocked : (client.symmetricKeys .user).isSome = false)
    (hkey : after.symmetricKeys .user = some key) : after.toClientKeys ≠ client.toClientKeys := by
  intro heq
  rw [heq] at hkey
  rw [hkey] at hlocked
  cases hlocked

theorem organizationsOpen_iff {envelope : T.SymmetricKeyEnvelope}
    {account : WrappedAccountCryptographicState T}
    (henvelope : state.sessionProtectedUserKey = some envelope)
    (haccount : state.accountCryptoState = some account)
    (hopened : crypto.unsealWithSessionKey sessionKey envelope = some key) :
    OrganizationsOpen crypto state sessionKey keys ↔
      (Accepts crypto account none key key keys → ∃ orgEncKeys,
        state.organizationKeys = some orgEncKeys ∧ OrgKeysOpen crypto
          (crypto.unwrapPrivateKey key account.privateKey).toOption orgEncKeys) := by
  constructor
  · intro h
    exact h envelope account key henvelope haccount hopened
  · intro h _ _ _ henvelope' haccount' hopened'
    obtain rfl := some.inj (henvelope.symm.trans henvelope')
    obtain rfl := some.inj (haccount.symm.trans haccount')
    obtain rfl := some.inj (hopened.symm.trans hopened')
    exact h

/-- An unlock with a session key leaves the keys alone when it fails exactly if the client was
unlocked or the organizations cannot fail. -/
theorem sessionKey_kept_iff :
    KeysKeptOnError (unlock crypto state sessionKey) client ↔
      OrganizationsOpen crypto state sessionKey client.toClientKeys := by
  apply keysKept_iff_of_post
  unfold unlock unlockWithSessionKey
  rw [post_get_bind, post_bind, post_ofExcept]
  by_cases hlocked : (client.symmetricKeys .user).isSome = false
  swap
  · rw [ensure, if_neg hlocked, continues_error, keptIff_error]
    refine iff_of_true rfl ?_
    intro _ _ _ _ _ _ haccepts
    have hnoKeys := haccepts.noKeys
    simp only [ClientKeys.hasUserKeys, Bool.or_eq_false_iff] at hnoKeys
    exact absurd hnoKeys.1.1 hlocked
  rw [ensure, if_pos hlocked, continues_ok]
  apply keptIff_require_bind
  · simp +contextual [OrganizationsOpen]
  intro envelope henvelope
  apply keptIff_require_bind
  · simp +contextual [OrganizationsOpen]
  intro account haccount
  apply keptIff_require_bind
  · intro hnone other _ _ hother _ hopened
    obtain rfl := some.inj (henvelope.symm.trans hother)
    rw [hnone] at hopened
    cases hopened
  intro key hopened
  rw [organizationsOpen_iff henvelope haccount hopened, post_mapError_bind]
  apply decryptedKey_post.mono
  rintro (error | _) installed hinstalled
  · obtain ⟨hrefused, rfl⟩ := hinstalled
    rw [continues_error, keptIff_error]
    exact iff_of_true rfl fun haccepts => absurd haccepts (hrefused key)
  obtain ⟨upgraded, haccepts, hinstalled⟩ := hinstalled
  obtain rfl := Except.ok.inj (upgradeUserKey_noToken.symm.trans haccepts.upgrades)
  have hprivate : installed.userPrivateKey =
      (crypto.unwrapPrivateKey key account.privateKey).toOption :=
    hinstalled.privateKey (userPrivateKey_eq_none haccepts.noKeys)
  rw [continues_ok, forall_prop_of_true haccepts, post_bind, post_require, ← hprivate]
  constructor
  · intro orgEncKeys horganizations
    rw [continues_ok, post_mapError]
    apply setOrgKeys_post.mono
    rintro (error | _) after hafter
    · refine keptIff_error.mpr (iff_of_false ?_ ?_)
      · exact keys_ne_of_userKey hlocked (hafter.2.trans hinstalled.userKey)
      · rintro ⟨other, hother, hopen⟩
        obtain rfl := some.inj (horganizations.symm.trans hother)
        exact hafter.1 hopen
    · exact keptIff_ok.mpr ⟨orgEncKeys, horganizations, hafter⟩
  · intro hnone
    refine keptIff_error.mpr (iff_of_false ?_ ?_)
    · exact keys_ne_of_userKey hlocked hinstalled.userKey
    · rintro ⟨other, hother, -⟩
      rw [hnone] at hother
      cases hother

end SessionKey

/-! ## Both calls -/

inductive UnlockCall (T : CryptoTypes) where
  | request (environment : UnlockEnvironment) (req : InitUserCryptoRequest T)
  | withSessionKey (state : SessionState T) (key : T.SymmetricKey)

def UnlockCall.KeepsKeysOnError (call : UnlockCall T) (client : Client T) : Prop :=
  match call with
  | .request environment req =>
      KeysKeptOnError (initializeUserCrypto crypto environment req) client
  | .withSessionKey state key => KeysKeptOnError (unlock crypto state key) client

/-- The call cannot fail once it has changed a key. -/
def UnlockCall.CompletesOnceChanged (call : UnlockCall T) (client : Client T) : Prop :=
  match call with
  | .request environment req =>
      UserIdAccepted client req.userId →
        ∀ key, yieldedUserKey crypto client.bridge req.method = some key →
          RequestCompletes crypto environment req client key
  | .withSessionKey state key => OrganizationsOpen crypto state key client.toClientKeys

/-- An unlock is all or nothing exactly for the calls that cannot fail once they changed a key. -/
theorem unlock_keepsKeysOnError_iff (call : UnlockCall T) (client : Client T) :
    call.KeepsKeysOnError crypto client ↔ call.CompletesOnceChanged crypto client := by
  cases call with
  | request environment req => exact request_kept_iff
  | withSessionKey state key => exact sessionKey_kept_iff

/-! ## A key that is lost -/

def pairUnlockCrypto : UnlockCrypto pinTypes where
  toPinCrypto := pairPinCrypto
  unwrapPrivateKey := fun _ _ => .ok ()
  unwrapSigningKey := fun _ _ => .ok ()
  verifiesPublicKey := fun _ _ => true
  verifySecurityState := fun _ _ => some ()
  securityVersion := fun _ => 2
  decapsulate := fun _ _ => .ok oldKey
  unsealWithSessionKey := fun _ _ => none

def unlockedClient : Client pinTypes where
  symmetricKeys := fun slot => if slot = .user then some oldKey else none
  userPrivateKey := some ()
  userSigningKey := none
  securityStateVersion := 1
  securityState := none
  userId := some 1
  bridge := some ⟨some oldKey, none, some (oldKey, "1234"), none, none⟩
  localUserDataKey := none
  random := ()

def pinStateCall : UnlockCall pinTypes :=
  .request ⟨false, ⟨workingAccess, workingAccess, workingAccess⟩⟩
    ⟨some 1, .v1 (oldKey, "private key"), .pinState "1234", none⟩

/-- A second unlock with the right PIN fails, and the client has lost the key of the user. -/
theorem secondPinUnlock_losesUserKey :
    ¬pinStateCall.KeepsKeysOnError pairUnlockCrypto unlockedClient := by
  intro hkept
  have hkeys := hkept (.failed .cryptoInitialization) rfl
  have huser := congrFun (congrArg ClientKeys.symmetricKeys hkeys) .user
  cases huser

end SdkInternal.KeyManagement
