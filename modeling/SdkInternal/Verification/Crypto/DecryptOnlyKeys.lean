import SdkInternal.Model.Crypto.SymmetricKeyEnvelope
import SdkInternal.Verification.Crypto.KeyWrapping

/-! # Keys that may not encrypt

A key that lists its operations without encryption does not encrypt data and does not wrap keys.
Sealing does not look at the operations. -/

namespace SdkInternal.Crypto

open StreamingDecryptor Vector

def SymmetricCryptoKey.DecryptOnly : SymmetricCryptoKey → Prop
  | .xChaCha20Poly1305Key key | .aes256GcmKey key | .xAes256GcmKey key =>
    .encrypt ∉ key.supportedOperations
  | _ => False

namespace KeyStoreContext

variable {κ : Type} [DecidableEq κ] [KeySlotId κ]

section

variable (prims : Primitives) (cose : CosePrimitives)

/-- The key is wrapped in one context and unwrapped in another, with the same key. -/
def RoundTrip (κ : Type) [DecidableEq κ] [KeySlotId κ] (key key' : SymmetricCryptoKey) : Prop :=
  ∃ (self other context : KeyStoreContext κ) (wrappingSlot slot otherSlot : κ)
    (random : EncryptionRandom) (localId : LocalId) (wrapped : EncString),
    self.getSymmetricKey slot = .ok key ∧
      other.getSymmetricKey otherSlot = self.getSymmetricKey wrappingSlot ∧
      self.wrapSymmetricKey prims cose wrappingSlot slot random = .ok wrapped ∧
      other.unwrapSymmetricKey prims cose otherSlot wrapped localId =
        .ok (KeySlotId.newLocal localId, context) ∧
      context.getSymmetricKey (KeySlotId.newLocal localId) = .ok key'

/-- No operation encrypts with the key of the slot. -/
structure NeverEncrypts (headerToVec : SafeHeader → List UInt8)
    (thumbprint : List UInt8 → Vector UInt8 32) (context : KeyStoreContext κ) (slot : κ) :
    Prop where
  data : ∀ data format random, ∃ error,
    context.encryptDataWithSymmetricKey prims cose slot data format random = .error error
  keys : ∀ other random, ∃ error,
    context.wrapSymmetricKey prims cose slot other random = .error error
  envelopes : ∀ other contentNamespace random, ∃ error,
    context.sealSymmetricKey prims cose headerToVec thumbprint other slot contentNamespace random =
      .error error

end

section

variable {prims : Primitives} {cose : CosePrimitives} {self : KeyStoreContext κ} {slot : κ}
  {key : SymmetricCryptoKey} (hkey : self.getSymmetricKey slot = .ok key)

include hkey

theorem encryptData_error (h : ¬ key.CanWrap) (data : List UInt8) (format : ContentFormat)
    (random : EncryptionRandom) : ∃ error,
      self.encryptDataWithSymmetricKey prims cose slot data format random = .error error := by
  unfold encryptDataWithSymmetricKey
  rw [hkey]
  cases key with
  | aes256CbcKey key | aes256GcmKey key => exact ⟨_, rfl⟩
  | aes256CbcHmacKey key => exact absurd trivial h
  | xChaCha20Poly1305Key key | xAes256GcmKey key => exact ⟨_, if_pos h⟩

theorem wrapSymmetricKey_error (h : ¬ key.CanWrap) (other : κ) (random : EncryptionRandom) :
    ∃ error, self.wrapSymmetricKey prims cose slot other random = .error error := by
  unfold wrapSymmetricKey
  rw [hkey]
  cases self.getSymmetricKey other with
  | error error => exact ⟨error, rfl⟩
  | ok other =>
    cases key with
    | aes256CbcKey key | aes256GcmKey key => exact ⟨_, rfl⟩
    | aes256CbcHmacKey key => exact absurd trivial h
    | xChaCha20Poly1305Key key | xAes256GcmKey key => exact encryptData_error hkey h _ _ random

/-- Sealing fails with every key but those of the two kinds for it. -/
theorem neverEncrypts (h : key.DecryptOnly) (hkind : ∀ k, key ≠ .xAes256GcmKey k)
    (headerToVec : SafeHeader → List UInt8) (thumbprint : List UInt8 → Vector UInt8 32) :
    NeverEncrypts prims cose headerToVec thumbprint self slot := by
  have hcannot : ¬ key.CanWrap := by
    cases key with
    | aes256CbcKey key | aes256CbcHmacKey key => exact h.elim
    | aes256GcmKey key => exact id
    | xChaCha20Poly1305Key key | xAes256GcmKey key => exact h
  refine ⟨encryptData_error hkey hcannot, wrapSymmetricKey_error hkey hcannot, ?_⟩
  intro other contentNamespace random
  unfold sealSymmetricKey getCoseKeyView
  rw [hkey]
  cases self.getSymmetricKey other with
  | error error => exact ⟨_, rfl⟩
  | ok other =>
    cases key with
    | aes256CbcKey key | aes256CbcHmacKey key => exact h.elim
    | xAes256GcmKey key => exact absurd rfl (hkind key)
    | aes256GcmKey key | xChaCha20Poly1305Key key => exact ⟨_, rfl⟩

end

variable (prims : LawfulPrimitives) (cose : LawfulCosePrimitives)

theorem RoundTrip.same {key key' : SymmetricCryptoKey}
    (h : RoundTrip prims.toPrimitives cose.toCosePrimitives κ key key') : key.Same key' := by
  obtain ⟨self, other, context, wrappingSlot, slot, otherSlot, random, localId, wrapped, hkey,
    hother, hwrap, hunwrap, hkey'⟩ := h
  simp only [unwrapSymmetricKey, Shared.bind_eq_ok_iff, Shared.pure_eq_ok_iff, Prod.mk.injEq,
    true_and] at hunwrap
  obtain ⟨wrappingKey, hwrapping, unwrapped, hunwrapped, _, hset, rfl⟩ := hunwrap
  -- what was put into the new slot is what is found there
  obtain ⟨_, hstored, hfound⟩ := exists_setSymmetricKey_newLocal other localId unwrapped
  cases hset.symm.trans hstored
  cases hfound.symm.trans hkey'
  rw [hother] at hwrapping
  have hcan : wrappingKey.CanWrap := by
    by_contra hcannot
    obtain ⟨error, herror⟩ := wrapSymmetricKey_error hwrapping hcannot slot random
    rw [herror] at hwrap
    cases hwrap
  obtain ⟨_, same, hwrapped, hsame, hread⟩ :=
    exists_wrapSymmetricKey prims cose self hwrapping hkey hcan random
  cases hwrap.symm.trans hwrapped
  rw [hunwrapped] at hread
  split_ifs at hread
  cases hread
  exact hsame

/-- A key without encryption among its operations never encrypts, however often it was wrapped and
unwrapped, if and only if it is not one of the keys that seal envelopes. -/
theorem decryptOnly_neverEncrypts_iff (headerToVec : SafeHeader → List UInt8)
    (thumbprint : List UInt8 → Vector UInt8 32) {key : SymmetricCryptoKey} (h : key.DecryptOnly) :
    (∀ key', Relation.ReflTransGen
        (RoundTrip prims.toPrimitives cose.toCosePrimitives κ) key key' →
      (∀ operation, operation ∈ key'.operations ↔ operation ∈ key.operations) ∧
      ∀ (context : KeyStoreContext κ) (slot : κ), context.getSymmetricKey slot = .ok key' →
        NeverEncrypts prims.toPrimitives cose.toCosePrimitives headerToVec thumbprint context
          slot) ↔
      ∀ k, key ≠ .xAes256GcmKey k := by
  constructor
  · rintro hnever k rfl
    obtain ⟨self, -, hget⟩ := exists_setSymmetricKey_newLocal (⟨∅, false, ∅⟩ : KeyStoreContext κ)
      ⟨replicate 16 0⟩ (.xAes256GcmKey k)
    obtain ⟨error, herror⟩ := ((hnever _ .refl).2 self _ hget).envelopes _ .sessionKey
      ⟨replicate 16 0, replicate 24 0⟩
    unfold sealSymmetricKey getCoseKeyView at herror
    rw [hget] at herror
    cases herror
  · intro hkind key' htrips
    -- what a round trip keeps of a key carries the induction
    have hkept : (∀ operation, operation ∈ key'.operations ↔ operation ∈ key.operations) ∧
        key'.DecryptOnly ∧ ∀ k, key' ≠ .xAes256GcmKey k := by
      induction htrips with
      | refl => exact ⟨fun _ => .rfl, h, hkind⟩
      | tail _ htrip ih =>
        obtain ⟨hoperations, honly, hkind⟩ := ih
        cases RoundTrip.same prims cose htrip with
        | aes256CbcKey k | aes256CbcHmacKey k => exact honly.elim
        | xAes256GcmKey hsame => exact absurd rfl (hkind _)
        | xChaCha20Poly1305Key hsame | aes256GcmKey hsame =>
          exact ⟨fun operation => (hsame.operations operation).trans (hoperations operation),
            fun hmem => honly ((hsame.operations .encrypt).mp hmem), nofun⟩
    obtain ⟨hoperations, honly, hkind⟩ := hkept
    exact ⟨hoperations, fun context slot hget =>
      neverEncrypts hget honly hkind headerToVec thumbprint⟩

end KeyStoreContext

/-! ## A key that seals -/

def decryptOnlyKey : CoseSymmetricKey := { zeroKey with supportedOperations := [.decrypt] }

theorem decryptOnlyKey_decryptOnly : .encrypt ∉ decryptOnlyKey.supportedOperations := by
  decide

theorem decryptOnlyKey_neverEncrypts :
    KeyStoreContext.NeverEncrypts plainPrimitives.toPrimitives plainCose.toCosePrimitives
      (fun _ => []) (fun _ => replicate 32 0)
      (⟨AList.insert .user (.xChaCha20Poly1305Key decryptOnlyKey) ∅, false, ∅⟩ :
        KeyStoreContext UserSlot) .user :=
  ((KeyStoreContext.decryptOnly_neverEncrypts_iff plainPrimitives plainCose (fun _ => [])
    (fun _ => replicate 32 0)
    (show (SymmetricCryptoKey.xChaCha20Poly1305Key decryptOnlyKey).DecryptOnly from
      decryptOnlyKey_decryptOnly)).mpr nofun _ .refl).2 _ _ rfl

/-- The only key of the context is for decryption, and seals itself. -/
theorem decryptOnlyKey_seals :
    ∃ envelope, (⟨AList.insert .user (.xAes256GcmKey decryptOnlyKey) ∅, false, ∅⟩ :
      KeyStoreContext UserSlot).sealSymmetricKey plainPrimitives.toPrimitives
        plainCose.toCosePrimitives (fun _ => []) (fun _ => replicate 32 0) .user .user
        .sessionKey ⟨replicate 16 0, replicate 24 0⟩ = .ok envelope ∧
      .encrypt ∉ decryptOnlyKey.supportedOperations :=
  ⟨_, rfl, decryptOnlyKey_decryptOnly⟩

end SdkInternal.Crypto
