import SdkInternal.Model.Crypto.Batch
import SdkInternal.Shared.Traversal
import SdkInternal.Verification.Crypto.KeyWrapping

/-! # Lists of items

Neither the chunks nor the threads can be seen in what an operation on a list returns. -/

namespace SdkInternal.Crypto

open Shared List

variable {Slot Key : KeyKind → Type} {Data Output : Type}

theorem flatten_parChunks (size : ℕ) (data : List Data) : (parChunks size data).flatten = data := by
  fun_induction parChunks size data with
  | case1 => rfl
  | case2 item rest ih => rw [flatten_cons, ih, cons_append, take_append_drop]

namespace ItemOperation

variable (op : ItemOperation Slot Key Data Output)
  (store : ∀ kind, Store (Slot kind) (Key kind)) (threads : ℕ)
  (anyError : List (Except CryptoError Output) → CryptoError)

theorem processChunk_eq (chunk : List Data) : op.processChunk (.reading store) chunk =
    chunk.map fun item => ⟨item, .reading store, op.single store item⟩ := by
  induction chunk with
  | nil => rfl
  | cons item rest ih =>
    obtain ⟨localKeys, hafter⟩ := op.readOnly item (.reading store) rfl
    have hcleared : (op.run item (.reading store)).2.clearLocal = .reading store := by
      rw [hafter]
      rfl
    rw [processChunk, hcleared, ih]
    rfl

theorem process_eq (data : List Data) : op.process store threads data =
    data.map fun item => ⟨item, .reading store, op.single store item⟩ := by
  rw [process, funext (op.processChunk_eq store), flatMap_def, ← map_flatten, flatten_parChunks]

theorem processList_eq_ok_iff {data : List Data} {results : List Output} :
    op.processList store threads anyError data = .ok results ↔
      Forall₂ (op.single store · = .ok ·) data results := by
  rw [processList, collect, mapError_eq_ok_iff, process_eq, map_map,
    traverse_eq_ok_iff_forall₂, forall₂_map_left_iff]
  rfl

/-- The results, the failures and the keys that an item can see are those of the items one by
one. -/
theorem lists_eq_singles (data : List Data) :
    (∀ results, op.encryptList store threads anyError data = .ok results ↔
      Forall₂ (op.single store · = .ok ·) data results) ∧
    (∀ results, op.decryptList store threads anyError data = .ok results ↔
      Forall₂ (op.single store · = .ok ·) data results) ∧
    op.decryptListWithFailures store threads data =
      (data.filterMap fun item => (op.single store item).toOption,
        data.filter fun item => !(op.single store item).isOk) ∧
    ∀ entry ∈ op.process store threads data, ∀ kind, entry.context.localKeys kind = ∅ := by
  refine ⟨fun _ => op.processList_eq_ok_iff store threads anyError,
    fun _ => op.processList_eq_ok_iff store threads anyError, ?_, ?_⟩
  · rw [decryptListWithFailures, process_eq, filterMap_map, filter_map, map_map]
    exact congrArg _ (map_id _)
  · rw [process_eq]
    exact forall_mem_map.mpr fun _ _ _ => rfl

end ItemOperation

/-! ## Items with keys of their own -/

namespace FullContext

open Stateful Function

theorem ReadOnly.bind {Next : Type} {m : M Slot Key Output} {f : Output → M Slot Key Next}
    (h : ReadOnly m) (hf : ∀ output, ReadOnly (f output)) : ReadOnly (m >>= f) := by
  intro self hself
  refine post_bind.mpr ((h self hself).mono ?_)
  rintro (e | output) _ ⟨localKeys, rfl⟩
  · exact ⟨localKeys, rfl⟩
  · exact hf output _ hself

variable {PrivateKey SigningKey : Type} {self : FullContext Slot (ContextKey PrivateKey SigningKey)}
  {call : StateT (KeyStoreContext (Slot .symmetric)) (Except CryptoError) Output}

theorem readOnly_onSymmetric
    (h : ∀ context output after, context.readWrite = false → call context = .ok (output, after) →
      ∃ localSymmetricKeys, after = { context with localSymmetricKeys }) :
    ReadOnly (onSymmetric call : M Slot (ContextKey PrivateKey SigningKey) Output) := by
  intro self hself
  refine post_zoom.mpr ⟨?_, fun _ _ => ⟨self.localKeys, rfl⟩⟩
  intro output after hcall
  obtain ⟨localSymmetricKeys, rfl⟩ := h _ _ _ hself hcall
  refine ⟨update self.localKeys .symmetric localSymmetricKeys, ?_⟩
  simp only [withSymmetric, symmetric, update_eq_self]

variable [∀ kind, DecidableEq (Slot kind)] [∀ kind, KeySlotId (Slot kind)]
  {keyId : Slot .symmetric}

/-! The symmetric keys are read and set as in a context that has no others. -/

theorem getKey_symmetric : getKey keyId self = (self.symmetric.getSymmetricKey keyId, self) := by
  have hget : getKey keyId self =
      require (.missingKeyId (KeySlotId.debug keyId)) (self.find ⟨.symmetric, keyId⟩) self := rfl
  rw [hget]
  unfold find KeyStoreContext.getSymmetricKey
  split_ifs with hlocal
  · change require _ (AList.lookup keyId self.symmetric.localSymmetricKeys) self = _
    cases AList.lookup keyId self.symmetric.localSymmetricKeys with
    | none | some key => rfl
  · change require _ (AList.lookup keyId self.symmetric.globalSymmetricKeys) self = _
    cases AList.lookup keyId self.symmetric.globalSymmetricKeys with
    | none | some key => rfl

theorem setKey_symmetric (key : SymmetricCryptoKey) :
    setKey keyId key self =
      match self.symmetric.setSymmetricKey keyId key with
      | .ok context => (.ok (), self.withSymmetric context)
      | .error e => (.error e, self) := by
  have hwrite : self.symmetric.readWrite = self.readWrite := rfl
  simp only [setKey, change, KeyStoreContext.setSymmetricKey, hwrite]
  split_ifs
  · simp only [withSymmetric, symmetric, update_eq_self]
    rfl
  · simp only [withSymmetric, symmetric, update_eq_self]
    rfl
  · rfl

end FullContext

namespace KeyedItem

variable {PrivateKey SigningKey : Type} [DecidableEq (Slot .symmetric)]
  [KeySlotId (Slot .symmetric)] (prims : Primitives) (cose : CosePrimitives)

def decrypting : ItemOperation Slot (ContextKey PrivateKey SigningKey)
    (KeyedItem (Slot .symmetric)) (List UInt8) where
  run := decrypt prims cose
  readOnly item := by
    refine .bind (FullContext.readOnly_onSymmetric ?_) fun key =>
      FullContext.readOnly_onSymmetric ?_
    · intro context slot after _ h
      simp only [KeyStoreContext.unwrapSymmetricKey, bind_eq_ok_iff, pure_eq_ok_iff,
        KeyStoreContext.setSymmetricKey, KeySlotId.isLocal_newLocal, if_true] at h
      obtain ⟨_, -, key, -, _, hset, h⟩ := h
      cases hset
      cases h
      exact ⟨_, rfl⟩
    · intro context output after _ h
      obtain ⟨_, -, h⟩ := bind_eq_ok_iff.mp h
      cases h
      exact ⟨context.localSymmetricKeys, rfl⟩

end KeyedItem

def userKeys : ∀ kind, Store UserSlot (ContextKey Unit Unit kind)
  | .symmetric => userContext.globalSymmetricKeys
  | .privateKey | .signing => ∅

def zeroIv : Iv := Vector.replicate 16 0

def organizationMessage (content : List UInt8) : EncString :=
  let (mac, data) := Aes256CbcHmacSha256.encrypt StreamingDecryptor.plainPrimitives.toPrimitives
    zeroIv content zeroLegacyKey.key
  .aes256CbcHmacSha256 zeroIv mac data

def organizationItem (value : EncString) : KeyedItem UserSlot where
  keyIdentifier := .organization
  key := organizationMessage (replicate 64 0)
  localId := ⟨zeroIv⟩
  value

def decryptingItems :
    ItemOperation (fun _ => UserSlot) (ContextKey Unit Unit) (KeyedItem UserSlot) (List UInt8) :=
  KeyedItem.decrypting StreamingDecryptor.plainPrimitives.toPrimitives plainCose.toCosePrimitives

theorem organizationItems_decrypted :
    decryptingItems.decryptListWithFailures userKeys 2
        [organizationItem (organizationMessage [7]), organizationItem (.unparseable "")] =
      ([[7]], [organizationItem (.unparseable "")]) ∧
    decryptingItems.decryptList userKeys 2 (fun _ => .invalidKey)
        [organizationItem (organizationMessage [7])] = .ok [[7]] := by
  have hread : decryptingItems.single userKeys (organizationItem (organizationMessage [7])) =
      .ok [7] := by
    decide +kernel
  have hfails : decryptingItems.single userKeys (organizationItem (.unparseable "")) =
      .error .unparseableEncString := by
    decide +kernel
  refine ⟨(decryptingItems.lists_eq_singles userKeys 2 (fun _ => .invalidKey) _).2.2.1.trans ?_,
    ((decryptingItems.lists_eq_singles userKeys 2 _ _).2.1 _).mpr (.cons hread .nil)⟩
  simp [hread, hfails, Except.toOption, Except.isOk, Except.toBool]

end SdkInternal.Crypto
