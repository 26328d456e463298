import SdkInternal.Model.KeyManagement.LocalUserDataKey
import SdkInternal.Shared.Run

/-! # The key of the local data over many unlocks

What is stored is always the same key, wrapped by some key of the user. It changes when the step
that stores a first key cannot read the repository, and takes the key of the user instead. -/

namespace SdkInternal.KeyManagement

open Crypto Shared WrappedLocalUserDataKey
open Stateful hiding mapError_eq_ok_iff

variable {T : CryptoTypes} (crypto : WrappingCrypto T)

/-! ## Wrapped keys -/

variable (inner : T.SymmetricKey)

def Wraps (wrapped : T.EncString) : Prop :=
  ∃ wrappingKey random random',
    crypto.wrapSymmetricKey wrappingKey inner random = .ok (wrapped, random')

/-- A wrapped key opens as the key that was wrapped. -/
def WrappingAuthentic : Prop :=
  ∀ {inner wrapped}, Wraps crypto inner wrapped →
    ∀ {key opened}, crypto.unwrapSymmetricKey key wrapped = .ok opened → opened = inner

def HoldsKey (store : LocalDataStore T) : Prop :=
  ∃ wrapped, store.localUserDataKey = some wrapped ∧ Wraps crypto inner wrapped

section

variable {crypto} {inner : T.SymmetricKey} {store : LocalDataStore T} {access : RepositoryAccess}
  {userKey : Option T.SymmetricKey}

variable {ε : Type} {error : ε} {wrapped : T.EncString}

theorem post_acquire {post : Except ε Unit → LocalDataStore T → Prop} (hok : post (.ok ()) store)
    (herror : post (.error error) store) :
    (access.acquire error).Post store post := by
  unfold RepositoryAccess.acquire
  split
  next => exact hok
  next => exact herror

theorem post_repositoryGet {post : Except ε (Option T.EncString) → LocalDataStore T → Prop}
    (hok : access.readable = true → post (.ok store.localUserDataKey) store)
    (herror : post (.error error) store) : (access.get error).Post store post := by
  unfold RepositoryAccess.get
  split
  next hreadable => exact hok hreadable
  next => exact herror

theorem repositorySet_holds {value : T.EncString} (hstore : HoldsKey crypto inner store)
    (hvalue : Wraps crypto inner value) :
    (access.set error value).Post store fun _ after => HoldsKey crypto inner after := by
  have hstored : HoldsKey crypto inner { store with localUserDataKey := some value } :=
    ⟨value, rfl, hvalue⟩
  unfold RepositoryAccess.set
  split
  next => exact hstored
  next => exact hstored
  next => exact hstore

variable {random random' : T.Random}

theorem wraps_of_rewrap (hauth : WrappingAuthentic crypto) {rewrapped : T.EncString}
    {v1Key key : T.SymmetricKey} (hwrapped : Wraps crypto inner wrapped)
    (h : rewrapWithUserKey crypto wrapped v1Key key random =
      .ok (rewrapped, random')) : Wraps crypto inner rewrapped := by
  simp only [rewrapWithUserKey, run_bind_eq_ok_iff, run_lift_eq_ok_iff,
    mapError_eq_ok_iff, run_translateError_eq_ok_iff] at h
  obtain ⟨opened, _, ⟨hopened, rfl⟩, hrewrapped⟩ := h
  rw [hauth hwrapped hopened] at hrewrapped
  exact ⟨key, _, _, hrewrapped⟩

theorem rewrapStoredKey_holds (hauth : WrappingAuthentic crypto)
    {token : V2UpgradeToken T.EncString} (hstored : store.localUserDataKey = some wrapped)
    (hwrapped : Wraps crypto inner wrapped) :
    (rewrapStoredKey crypto userKey access token wrapped).Post store
      fun _ after => HoldsKey crypto inner after := by
  have hstore : HoldsKey crypto inner store := ⟨wrapped, hstored, hwrapped⟩
  unfold rewrapStoredKey
  split
  next key v1Key _ =>
    rw [post_bind, draw, post_zoom]
    refine ⟨?_, fun _ _ => hstore⟩
    intro rewrapped random hrewrapped
    have hwraps := wraps_of_rewrap hauth hwrapped (run_translateError_eq_ok_iff.mp hrewrapped)
    exact repositorySet_holds hstore hwraps
  next => exact hstore

variable {token : Option (V2UpgradeToken T.EncString)}

theorem migration_holds (hauth : WrappingAuthentic crypto) (hstore : HoldsKey crypto inner store) :
    (migrateLocalUserDataKeyForUserKeyUpgrade crypto userKey token access).Post store
      fun _ after => HoldsKey crypto inner after := by
  obtain ⟨wrapped, hstored, hwrapped⟩ := id hstore
  cases token with
  | none => exact hstore
  | some token =>
    unfold migrateLocalUserDataKeyForUserKeyUpgrade migrateWithToken
    rw [post_bind]
    refine post_acquire ?_ hstore
    rw [continues_ok, post_bind]
    refine post_repositoryGet (fun _ => ?_) hstore
    rw [hstored, continues_ok]
    dsimp only
    split
    next => exact rewrapStoredKey_holds hauth hstored hwrapped
    next => exact hstore

theorem wraps_of_fromContextUserKey {wrapped : T.EncString} (huser : userKey = some inner)
    (h : fromContextUserKey crypto userKey random =
      .ok (wrapped, random')) : Wraps crypto inner wrapped := by
  subst huser
  exact ⟨inner, random, random', run_translateError_eq_ok_iff.mp h⟩

/-- The step that stores a first key keeps the one there is, if it reads it. -/
theorem creation_holds (hstore : HoldsKey crypto inner store)
    (hsafe : access.readable = true ∨ userKey = some inner) :
    (initializeLocalUserDataKeyIntoState crypto userKey access).Post store
      fun _ after => HoldsKey crypto inner after := by
  obtain ⟨stored, hstored, -⟩ := id hstore
  unfold initializeLocalUserDataKeyIntoState
  rw [post_bind]
  refine post_acquire ?_ hstore
  rw [continues_ok, post_get_bind]
  split
  next => exact hstore
  next hunread =>
    have huser : userKey = some inner := by
      rcases hsafe with hreadable | huser
      · simp [hreadable, hstored] at hunread
      · exact huser
    rw [post_bind, draw, post_zoom]
    refine ⟨?_, fun _ _ => hstore⟩
    intro wrapped random hwrapped
    have hwraps := wraps_of_fromContextUserKey huser (run_translateError_eq_ok_iff.mp hwrapped)
    exact repositorySet_holds hstore hwraps

theorem eq_of_unwrap (hauth : WrappingAuthentic crypto) {key : T.SymmetricKey}
    (hwrapped : Wraps crypto inner wrapped)
    (h : unwrap crypto userKey wrapped = .ok key) : key = inner := by
  unfold unwrap at h
  split at h
  next => cases h
  next => exact hauth hwrapped (mapError_eq_ok_iff.mp h)

theorem localDataKeyFor_holds (hauth : WrappingAuthentic crypto) {access : LocalUserDataAccess}
    {userId : Option UserId} (hstore : HoldsKey crypto inner store)
    (hsafe : access.creation.readable = true ∨ userKey = some inner) :
    (localDataKeyFor crypto access userId token userKey).Post store fun result after =>
      HoldsKey crypto inner after ∧ ∀ key, result = .ok key → key = inner := by
  unfold localDataKeyFor
  rw [post_bind, post_require]
  refine ⟨fun _ _ => ?_, fun _ => ⟨hstore, nofun⟩⟩
  rw [continues_ok, post_mapError_bind]
  apply (migration_holds hauth hstore).mono
  intro result migrated hmigrated
  cases result with
  | error e => exact ⟨hmigrated, nofun⟩
  | ok _ =>
    rw [continues_ok, post_mapError_bind]
    apply (creation_holds hmigrated hsafe).mono
    intro result created hcreated
    cases result with
    | error e => exact ⟨hcreated, nofun⟩
    | ok _ =>
      obtain ⟨wrapped, hstored, hwrapped⟩ := id hcreated
      rw [continues_ok, post_mapError_bind]
      unfold getLocalUserDataKeyFromState
      rw [post_bind]
      refine post_acquire ?_ ⟨hcreated, nofun⟩
      rw [continues_ok, post_bind]
      refine post_repositoryGet (fun _ => ?_) ⟨hcreated, nofun⟩
      rw [hstored, continues_ok, post_require]
      refine ⟨?_, nofun⟩
      rintro _ ⟨⟩
      exact ⟨hcreated, fun key hkey => eq_of_unwrap hauth hwrapped (mapError_eq_ok_iff.mp hkey)⟩

end

/-! ## Many unlocks -/

/-- A client whose keys were just installed, and what happens to its calls to the repository. -/
structure UnlockSession (T : CryptoTypes) where
  client : Client T
  access : LocalUserDataAccess

/-- One unlock takes what the repository has to what it has then, and answers the key that a
success puts into the slot of the local data. -/
def unlockSession (stored : Option T.EncString) (session : UnlockSession T) :
    Option T.SymmetricKey × Option T.EncString :=
  match initializeUserLocalDataKey crypto session.access
      { session.client with localUserDataKey := stored } with
  | (.ok _, client) => (client.symmetricKeys .localUserData, client.localUserDataKey)
  | (.error _, client) => (none, client.localUserDataKey)

/-- The step that stores a first key reads the repository, or the key of the user is the one that
is stored. -/
def CreationReads (session : UnlockSession T) : Prop :=
  session.access.creation.readable = true ∨ session.client.symmetricKeys .user = some inner

section

variable {crypto}

theorem unlockSession_keeps (hauth : WrappingAuthentic crypto) {inner : T.SymmetricKey}
    {wrapped : T.EncString} (hwrapped : Wraps crypto inner wrapped) {session : UnlockSession T}
    (hreads : CreationReads inner session) :
    (∀ key ∈ (unlockSession crypto (some wrapped) session).1, key = inner) ∧
      ∃ kept, (unlockSession crypto (some wrapped) session).2 = some kept ∧
        Wraps crypto inner kept := by
  have hstore : HoldsKey crypto inner ⟨some wrapped, session.client.random⟩ :=
    ⟨wrapped, rfl, hwrapped⟩
  have hpost : (initializeUserLocalDataKey crypto session.access).Post
      { session.client with localUserDataKey := some wrapped } fun result after =>
        (∃ kept, after.localUserDataKey = some kept ∧ Wraps crypto inner kept) ∧
          (result = .ok () → after.symmetricKeys .localUserData = some inner) := by
    unfold initializeUserLocalDataKey
    rw [post_get_bind, post_bind, post_focus]
    apply (localDataKeyFor_holds hauth hstore hreads).mono
    intro result after hafter
    cases result with
    | error e => exact ⟨hafter.1, nofun⟩
    | ok key =>
      obtain rfl := hafter.2 key rfl
      refine ⟨hafter.1, ?_⟩
      intro _
      exact Function.update_self SymmetricKeySlotId.localUserData _ session.client.symmetricKeys
  unfold Post at hpost
  unfold unlockSession
  generalize initializeUserLocalDataKey crypto session.access
    { session.client with localUserDataKey := some wrapped } = outcome at hpost
  obtain ⟨result, client⟩ := outcome
  obtain ⟨hholds, hloaded⟩ := hpost
  cases result with
  | error e => exact ⟨nofun, hholds⟩
  | ok value =>
    refine ⟨?_, hholds⟩
    intro key hkey
    have hslot : client.symmetricKeys .localUserData = some inner := hloaded rfl
    change client.symmetricKeys .localUserData = some key at hkey
    rw [hslot] at hkey
    exact (Option.some.inj hkey).symm

end

/-- Every successful unlock loads the key that was stored, as long as no unlock takes a failed read
for an absent key. -/
theorem unlocks_loadStoredKey (hauth : WrappingAuthentic crypto) (inner : T.SymmetricKey)
    (wrapped : T.EncString) (hwrapped : Wraps crypto inner wrapped)
    (sessions : List (UnlockSession T))
    (hreads : ∀ session ∈ sessions, CreationReads inner session) :
    ∀ loaded ∈ (feed (unlockSession crypto) (some wrapped) sessions).1,
      ∀ key ∈ loaded, key = inner := by
  induction sessions generalizing wrapped with
  | nil => simp
  | cons session sessions ih =>
    obtain ⟨hsession, hrest⟩ := List.forall_mem_cons.mp hreads
    obtain ⟨hloaded, kept, hkept, hwraps⟩ := unlockSession_keeps hauth hwrapped hsession
    rw [feed_cons, hkept]
    exact List.forall_mem_cons.mpr ⟨hloaded, ih kept hwraps hrest⟩

/-! ## A failed read -/

/-- There are two keys, the second one of the second version. A wrapped key is the pair of the
wrapping key and the key. -/
def pairTypes : CryptoTypes where
  EncString := Bool × Bool
  SymmetricKey := Bool
  PrivateKey := Unit
  SigningKey := Unit
  SharedKey := Unit
  SignedPublicKey := Unit
  SignedSecurityState := Unit
  SecurityState := Unit
  PinEnvelope := Unit
  SymmetricKeyEnvelope := Unit
  Random := Unit

def openPair (key : Bool) (wrapped : Bool × Bool) : Except CryptoError Bool :=
  if key = wrapped.1 then .ok wrapped.2 else .error .decrypt

def pairCrypto : WrappingCrypto pairTypes where
  algorithm := fun key : Bool => .ok (if key then .xAes256Gcm else .aes256CbcHmac)
  decryptBytes := fun (key : Bool) (value : Bool × Bool) => (openPair key value).map fun _ => []
  unwrapSymmetricKey := openPair
  wrapSymmetricKey := fun (wrappingKey key : Bool) => pure (wrappingKey, key)
  isAes256CbcHmacSha256 := fun wrapped : Bool × Bool => !wrapped.1

theorem eq_of_wraps {inner : Bool} {wrapped : Bool × Bool} (h : Wraps pairCrypto inner wrapped) :
    inner = wrapped.2 := by
  obtain ⟨wrappingKey, random, random', hwrap⟩ := h
  cases hwrap
  rfl

theorem pairCrypto_authentic : WrappingAuthentic pairCrypto := by
  intro inner wrapped hwraps key opened hopened
  rw [eq_of_wraps hwraps]
  have hread : openPair key wrapped = .ok opened := hopened
  unfold openPair at hread
  split at hread
  next => exact (Except.ok.inj hread).symm
  next => cases hread

def workingAccess : RepositoryAccess where
  available := true
  readable := true
  write := .written

def unreadableAccess : RepositoryAccess := { workingAccess with readable := false }

/-- A client with the key of the user and the upgrade token of both keys. -/
def pairSession (userKey : Bool) (creation : RepositoryAccess) : UnlockSession pairTypes where
  client :=
    { symmetricKeys := fun slot => if slot = .user then some userKey else none
      userPrivateKey := none
      userSigningKey := none
      securityStateVersion := 1
      securityState := none
      userId := some 0
      bridge := some ⟨none, none, none, none, some ⟨(true, false), (false, true)⟩⟩
      localUserDataKey := none
      random := () }
  access := ⟨workingAccess, creation, workingAccess⟩

theorem upgrade_loadsStoredKey :
    (feed (unlockSession pairCrypto) (some (false, false))
        [pairSession false workingAccess, pairSession true workingAccess]).1 =
      [some false, some false] ∧
    ∀ loaded ∈ (feed (unlockSession pairCrypto) (some (false, false))
        [pairSession false workingAccess, pairSession true workingAccess]).1,
      ∀ key ∈ loaded, key = false :=
  ⟨rfl, unlocks_loadStoredKey pairCrypto pairCrypto_authentic false (false, false)
    ⟨false, (), (), rfl⟩ [pairSession false workingAccess, pairSession true workingAccess]
    (by
      intro session hsession
      rcases List.mem_pair.mp hsession with rfl | rfl
      · exact .inl rfl
      · exact .inl rfl)⟩

/-- After the upgrade the step that stores a first key cannot read the repository. It stores the
new key of the user, and this key is loaded from then on. -/
theorem failedRead_replacesKey :
    (feed (unlockSession pairCrypto) none
        [pairSession false workingAccess, pairSession true workingAccess,
          pairSession true unreadableAccess, pairSession true workingAccess]).1 =
      [some false, some false, some true, some true] := by
  rfl

end SdkInternal.KeyManagement
