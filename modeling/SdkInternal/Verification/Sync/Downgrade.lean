import SdkInternal.Model.Sync.CryptoSyncHandler

/-! # No downgrade of the account state

A call that carries a state of the first version and passed its check may still write when another
call has stored one of the second version. Where such a call overlaps no other, what it has left to
write meets a state that is not of the second version. -/

namespace SdkInternal.Sync

open KeyManagement List

variable {T : SyncTypes} (stored : SyncedState T)

def SyncedState.IsV2 : Prop :=
  ∃ privateKey signedPublicKey signingKey securityState, stored.accountCryptographicState =
    some (.v2 privateKey signedPublicKey signingKey securityState)

variable (data : CryptoSyncData T)

def CryptoSyncData.CarriesV1 : Prop :=
  ∃ privateKey, data.accountCryptographicState = some (.v1 privateKey)

structure KeepsVersion (write : BridgeWrite T) : Prop where
  isV2 (hdata : ¬ data.CarriesV1) {stored : SyncedState T} (h : stored.IsV2) : (write stored).IsV2
  notV2 (hdata : data.CarriesV1) {stored : SyncedState T} (h : ¬ stored.IsV2) :
    ¬ (write stored).IsV2

theorem KeepsVersion.of_frame {data : CryptoSyncData T} {write : BridgeWrite T}
    (h : ∀ stored, (write stored).accountCryptographicState = stored.accountCryptographicState) :
    KeepsVersion data write := by
  constructor <;> simp [SyncedState.IsV2, h]

theorem isReplayedState_iff :
    isReplayedState stored data = true ↔ stored.IsV2 ∧ data.CarriesV1 := by
  unfold isReplayedState isV2ToV1Downgrade SyncedState.IsV2 CryptoSyncData.CarriesV1
  cases data.accountCryptographicState with
  | none => simp
  | some incoming =>
    cases stored.accountCryptographicState with
    | none => simp
    | some state => cases incoming <;> cases state <;> simp

theorem keepsVersion_of_mem {upgrades : Bool} {data : CryptoSyncData T} {stored : SyncedState T}
    {write : BridgeWrite T} (h : write ∈ handleCryptoSync upgrades data stored) :
    KeepsVersion data write := by
  unfold handleCryptoSync at h
  split at h
  · simp at h
  · rw [mem_append, mem_append] at h
    rcases h with (h | h) | h
    · -- The unlock options do not touch the account state.
      apply KeepsVersion.of_frame
      unfold handleUserDecryptionOptions at h
      cases hoptions : data.userDecryption with
      | none => simp [hoptions] at h
      | some options =>
        cases hunlock : options.masterPasswordUnlock <;> simp [hoptions, hunlock] at h <;> aesop
    · unfold handleAccountCryptographicState at h
      cases hstate : data.accountCryptographicState with
      | none => simp [hstate] at h
      | some incoming =>
        simp only [hstate, mem_singleton] at h
        cases incoming <;> constructor <;>
          simp [h, hstate, SyncedState.IsV2, CryptoSyncData.CarriesV1]
    · apply KeepsVersion.of_frame
      unfold handleV2Upgrade at h
      split at h <;> aesop

namespace Syncs

def Running (self : Syncs T) (call : ℕ) : Prop :=
  match self.progress call with
  | .notStarted => False
  | .checking => True
  | .writing rest => rest ≠ []

variable (calls : ℕ → OnSync T)

/-- A running call that carries a state of the first version is the only one. -/
def V1Alone (self : Syncs T) : Prop :=
  ∀ call other, (calls call).data.CarriesV1 → self.Running call → self.Running other → other = call

/-- This holds at every point of a schedule. -/
def V1AloneAlong (calls : ℕ → OnSync T) (self : Syncs T) : List ℕ → Prop
  | [] => self.V1Alone calls
  | call :: schedule => self.V1Alone calls ∧ (self.step calls call).V1AloneAlong calls schedule

def Refusing (self : Syncs T) (call : ℕ) : Prop :=
  (calls call).data.CarriesV1 ∧ self.progress call = .checking

/-- What is left to write keeps the version, and a downgrade finds none of the second version. -/
structure Orderly (syncs : Syncs T) : Prop where
  keeps {call : ℕ} {rest : List (BridgeWrite T)} (h : syncs.progress call = .writing rest)
    {write : BridgeWrite T} (hmem : write ∈ rest) : KeepsVersion (calls call).data write
  notV2 {call : ℕ} {rest : List (BridgeWrite T)} (h : syncs.progress call = .writing rest)
    (hv1 : (calls call).data.CarriesV1) (hrest : rest ≠ []) : ¬ syncs.stored.IsV2

variable {calls : ℕ → OnSync T} {self : Syncs T} {call : ℕ}

theorem Orderly.step (hself : self.Orderly calls) (halone : self.V1Alone calls) (call : ℕ) :
    (self.step calls call).Orderly calls := by
  unfold Syncs.step
  cases hcall : self.progress call with
  | notStarted =>
    constructor
    · intro other rest h
      by_cases heq : other = call <;> simp [heq] at h
      exact hself.keeps h
    · intro other rest h
      by_cases heq : other = call <;> simp [heq] at h
      exact hself.notV2 h
  | checking =>
    constructor
    · intro other rest h write hmem
      by_cases heq : other = call <;> simp [heq] at h
      · subst heq h
        exact keepsVersion_of_mem hmem
      · exact hself.keeps h hmem
    · intro other rest h hv1 hrest
      by_cases heq : other = call <;> simp [heq] at h
      · -- A payload that was not refused met no state of the second version.
        subst heq h
        intro hv2
        exact hrest (by simp [handleCryptoSync, (isReplayedState_iff _ _).mpr ⟨hv2, hv1⟩])
      · exact hself.notV2 h hv1 hrest
  | writing rest =>
    cases rest with
    | nil => exact hself
    | cons write rest =>
      constructor
      · intro other left h w hmem
        by_cases heq : other = call <;> simp [heq] at h
        · subst heq h
          exact hself.keeps hcall (mem_cons_of_mem _ hmem)
        · exact hself.keeps h hmem
      · intro other left h hv1 hleft
        by_cases heq : other = call
        · subst heq
          exact (hself.keeps hcall mem_cons_self).notV2 hv1
            (hself.notV2 hcall hv1 (cons_ne_nil _ _))
        · -- The other call would overlap the one that writes.
          simp only [Function.update_of_ne heq] at h
          exact absurd (halone other call hv1 (by simp [Running, h, hleft])
            (by simp [Running, hcall])) (Ne.symm heq)

theorem Orderly.step_isV2 (hself : self.Orderly calls) (h : self.stored.IsV2) (call : ℕ) :
    (self.step calls call).stored.IsV2 := by
  unfold Syncs.step
  cases hcall : self.progress call with
  | notStarted | checking => exact h
  | writing rest =>
    cases rest with
    | nil => exact h
    | cons write rest =>
      refine (hself.keeps hcall mem_cons_self).isV2 ?_ h
      intro hv1
      exact hself.notV2 hcall hv1 (cons_ne_nil _ _) h

theorem step_stored_of_not_writing (h : ∀ rest, self.progress call = .writing rest → rest = []) :
    (self.step calls call).stored = self.stored := by
  unfold Syncs.step
  cases hcall : self.progress call with
  | notStarted | checking => rfl
  | writing rest => simp [h rest hcall]

theorem Orderly.stored_of_refused (hself : self.Orderly calls) (halone : self.V1Alone calls)
    (hv2 : self.stored.IsV2)
    (h : (calls call).data.CarriesV1 ∨ ∃ other, self.Refusing calls other) :
    (self.step calls call).stored = self.stored := by
  apply step_stored_of_not_writing
  intro rest hrest
  by_contra hne
  rcases h with hv1 | ⟨other, hv1, hother⟩
  · exact hself.notV2 hrest hv1 hne hv2
  · have heq : call = other :=
      halone other call hv1 (by simp [Running, hother]) (by simp [Running, hrest, hne])
    simp [← heq, hrest] at hother

theorem Orderly.run (schedule : List ℕ) (hself : self.Orderly calls)
    (halone : self.V1AloneAlong calls schedule) :
    (self.run calls schedule).Orderly calls ∧ (self.run calls schedule).V1Alone calls ∧
      (self.stored.IsV2 → (self.run calls schedule).stored.IsV2) := by
  induction schedule generalizing self with
  | nil => exact ⟨hself, halone, id⟩
  | cons call schedule ih =>
    obtain ⟨horderly, hlast, hv2⟩ := ih (hself.step halone.1 call) halone.2
    exact ⟨horderly, hlast, fun h => hv2 (hself.step_isV2 h call)⟩

theorem v1AloneAlong_append {first second : List ℕ}
    (h : self.V1AloneAlong calls (first ++ second)) :
    self.V1AloneAlong calls first ∧ (self.run calls first).V1AloneAlong calls second := by
  induction first generalizing self with
  | nil =>
    refine ⟨?_, h⟩
    cases second with
    | nil => exact h
    | cons => exact h.1
  | cons call first ih => exact ⟨⟨h.1, (ih h.2).1⟩, (ih h.2).2⟩

/-- Once the stored account state is of the second version it stays so. From then on a call that
carries one of the first version, or that runs while such a call is refused, changes nothing. -/
theorem sync_never_downgrades (calls : ℕ → OnSync T) (stored : SyncedState T)
    (done later : List ℕ) (halone : (ofStored stored).V1AloneAlong calls (done ++ later))
    (hv2 : ((ofStored stored).run calls done).stored.IsV2) :
    let reached := (ofStored stored).run calls (done ++ later)
    reached.stored.IsV2 ∧
      ∀ call, ((calls call).data.CarriesV1 ∨ ∃ other, reached.Refusing calls other) →
        (reached.step calls call).stored = reached.stored := by
  intro reached
  have hstart : (ofStored stored).Orderly calls := by constructor <;> simp [ofStored]
  obtain ⟨hdone, hlater⟩ := v1AloneAlong_append halone
  obtain ⟨horderly, hlast, -⟩ := hstart.run _ halone
  have hreached : reached.stored.IsV2 := by
    simpa only [reached, Syncs.run, foldl_append] using
      ((hstart.run done hdone).1.run later hlater).2.2 hv2
  exact ⟨hreached, fun call => horderly.stored_of_refused hlast hreached⟩

/-! ## Two calls -/

abbrev unitTypes : SyncTypes where
  EncString := ℕ
  SymmetricKey := Unit
  PrivateKey := Unit
  SigningKey := Unit
  SharedKey := Unit
  SignedPublicKey := Unit
  SignedSecurityState := Unit
  SecurityState := Unit
  PinEnvelope := Unit
  SymmetricKeyEnvelope := Unit
  Random := Unit
  Kdf := Unit
  WebAuthnPrfUnlockOption := Unit

/-- The payloads of a server, made before and after the upgrade of the account. -/
def beforeAndAfter : ℕ → OnSync unitTypes
  | 0 => ⟨⟨some ⟨none, none, none, none⟩, some (.v1 0)⟩, false⟩
  | _ => ⟨⟨some ⟨none, none, none, some (.replicate 16 1)⟩, some (.v2 1 () 1 ())⟩, false⟩

def nothingStored : SyncedState unitTypes := ⟨none, none, none, none, none, none⟩

theorem replayed_payload_refused :
    let stored := { nothingStored with accountCryptographicState := some (.v2 1 () 1 ()) }
    let reached := (ofStored stored).run beforeAndAfter [0]
    reached.Refusing beforeAndAfter 0 ∧
      (reached.step beforeAndAfter 0).stored = reached.stored := by
  intro stored reached
  have halone : (ofStored stored).V1AloneAlong beforeAndAfter [0] := by
    constructor
    · intro _ _ _ hrunning
      exact hrunning.elim
    · -- The call that was started is the only one that runs.
      rintro (_ | call) (_ | other) - hcall hother
      · rfl
      · exact hother.elim
      · exact hcall.elim
      · exact hcall.elim
  have hv1 : (beforeAndAfter 0).data.CarriesV1 := ⟨_, rfl⟩
  exact ⟨⟨hv1, rfl⟩,
    (sync_never_downgrades beforeAndAfter stored [] [0] halone ⟨_, _, _, _, rfl⟩).2 0 (.inl hv1)⟩

/-- The old payload is checked before the new one is stored, and is written after it. -/
theorem overlapping_sync_downgrades :
    let stored := fun schedule => ((ofStored nothingStored).run beforeAndAfter schedule).stored
    (stored [0, 0, 1, 1, 1, 1, 1, 1, 1]).accountCryptographicState = some (.v2 1 () 1 ()) ∧
      (stored [0, 0, 1, 1, 1, 1, 1, 1, 1]).userKeyId = some (.replicate 16 1) ∧
      (stored ([0, 0, 1, 1, 1, 1, 1, 1, 1] ++ [0, 0, 0, 0, 0])).accountCryptographicState =
        some (.v1 0) ∧
      (stored ([0, 0, 1, 1, 1, 1, 1, 1, 1] ++ [0, 0, 0, 0, 0])).userKeyId = none :=
  ⟨rfl, rfl, rfl, rfl⟩

end Syncs

end SdkInternal.Sync
