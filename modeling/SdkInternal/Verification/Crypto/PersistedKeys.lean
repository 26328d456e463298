import SdkInternal.Verification.Crypto.KeyWrapping

/-! # Moving keys into the store

The key of a local slot is moved or stays where it is, unless the store may not be changed. -/

namespace SdkInternal.Crypto.FullContext

open Shared Stateful Function KeySlotId

variable {Slot Key : KeyKind → Type} [∀ kind, DecidableEq (Slot kind)]
  [∀ kind, KeySlotId (Slot kind)] {kind : KeyKind} {self : FullContext Slot Key}

/-- A call that fails leaves every slot as it was, and one that returns moves the key. -/
def AllOrNothing (self : FullContext Slot Key) (source target : Slot kind) :
    Except CryptoError Unit → FullContext Slot Key → Prop
  | .error _, after => ∀ slot, after.find slot = self.find slot
  | .ok (), after => ∃ key, self.find ⟨kind, source⟩ = some key ∧
      after.find ⟨kind, target⟩ = some key ∧ after.find ⟨kind, source⟩ = none ∧
      ∀ slot, slot ≠ ⟨kind, source⟩ → slot ≠ ⟨kind, target⟩ → after.find slot = self.find slot

theorem exists_change {keyId : Slot kind} {value : Option (Key kind)}
    {f : Store (Slot kind) (Key kind) → Store (Slot kind) (Key kind)}
    (h : isLocal keyId ∨ self.readWrite) (hself : ∀ keys, (f keys).lookup keyId = value)
    (hother : ∀ keys other, other ≠ keyId → (f keys).lookup other = keys.lookup other) :
    ∃ after, change keyId f self = (.ok (), after) ∧ after.readWrite = self.readWrite ∧
      after.find = update self.find ⟨kind, keyId⟩ value := by
  unfold change
  split_ifs with hlocal hwrite
  case neg => exact absurd h (by simp [hlocal, hwrite])
  all_goals
    refine ⟨_, rfl, rfl, funext fun ⟨kind', other⟩ => ?_⟩
    obtain rfl | hkind := eq_or_ne kind' kind
    · obtain rfl | hid := eq_or_ne other keyId <;> simp [find, *]
    · simp [find, hkind]

variable {source target : Slot kind} {key : Key kind}

/-- The key of a local slot is dropped before the store refuses to take it. -/
theorem post_move_iff (hsource : isLocal source) (htarget : ¬ isLocal target)
    (hkey : self.find ⟨kind, source⟩ = some key) :
    (dropKey source >>= fun _ => setKey target key).Post self (self.AllOrNothing source target) ↔
      self.readWrite := by
  obtain ⟨dropped, hdrop, hwrite, hdropped⟩ := exists_change (.inl hsource)
    (AList.lookup_erase source) (fun _ _ => AList.lookup_erase_ne)
  rw [post_bind, Post, dropKey, hdrop, continues_ok, ← hwrite]
  constructor
  · intro h
    by_contra hreadOnly
    simp only [Post, setKey, change, htarget, hreadOnly, AllOrNothing] at h
    simpa [hdropped, hkey] using h ⟨kind, source⟩
  · intro h
    obtain ⟨after, hset, -, hafter⟩ := exists_change (.inr h)
      (AList.lookup_insert (a := target) (b := key)) (fun _ _ => AList.lookup_insert_ne)
    have hne : (⟨kind, source⟩ : Sigma Slot) ≠ ⟨kind, target⟩ := by
      intro heq
      cases heq
      exact htarget hsource
    rw [Post, setKey, hset]
    refine ⟨key, hkey, ?_, ?_, fun slot hother htarget => ?_⟩
    · rw [hafter, update_self]
    · rw [hafter, update_of_ne hne, hdropped, update_self]
    · rw [hafter, update_of_ne htarget, hdropped, update_of_ne hother]

/-- A key that is there is moved into the store only if the store may be changed. -/
def MayPersist (self : FullContext Slot Key) (source target : Slot kind) : Prop :=
  isLocal source → ¬ isLocal target → self.find ⟨kind, source⟩ ≠ none →
    self.readWrite

theorem allOrNothing_persistKey_iff :
    (persistKey source target).Post self (self.AllOrNothing source target) ↔
      self.MayPersist source target := by
  unfold persistKey getKey
  rw [post_ensure_bind, bind_assoc, post_get_bind, post_require_bind]
  constructor
  · intro h hsource htarget hheld
    obtain ⟨key, hkey⟩ := Option.ne_none_iff_exists'.mp hheld
    exact (post_move_iff hsource htarget hkey).mp ((h.1 ⟨hsource, htarget⟩).1 key hkey)
  · refine fun h => ⟨fun hlocal => ⟨fun key hkey => ?_, fun _ _ => rfl⟩, fun _ _ => rfl⟩
    exact (post_move_iff hlocal.1 hlocal.2 hkey).mpr (h hlocal.1 hlocal.2 (by simp [hkey]))

/-- Each of the three calls moves the key or changes nothing, unless it would move a key that is
there into a store that may not be changed. -/
theorem persist_allOrNothing_iff (self : FullContext Slot Key) :
    (∀ source target : Slot .symmetric,
      (persistSymmetricKey source target).Post self (self.AllOrNothing source target) ↔
        self.MayPersist source target) ∧
    (∀ source target : Slot .privateKey,
      (persistPrivateKey source target).Post self (self.AllOrNothing source target) ↔
        self.MayPersist source target) ∧
    ∀ source target : Slot .signing,
      (persistSigningKey source target).Post self (self.AllOrNothing source target) ↔
        self.MayPersist source target :=
  ⟨fun _ _ => allOrNothing_persistKey_iff, fun _ _ => allOrNothing_persistKey_iff,
    fun _ _ => allOrNothing_persistKey_iff⟩

def readOnlyContext : FullContext (fun _ => UserSlot) fun _ => ℕ where
  globalKeys _ := ∅
  readWrite := false
  localKeys _ := AList.insert (.newLocal ⟨Vector.replicate 16 0⟩) 7 ∅

/-- The store refuses a key that is no longer in its slot. -/
theorem readOnlyContext_losesKey :
    ∃ after, persistSymmetricKey (.newLocal ⟨Vector.replicate 16 0⟩) .user readOnlyContext =
        (.error .readOnlyKeyStore, after) ∧
      readOnlyContext.find ⟨.symmetric, .newLocal ⟨Vector.replicate 16 0⟩⟩ = some 7 ∧
      after.find ⟨.symmetric, .newLocal ⟨Vector.replicate 16 0⟩⟩ = none ∧
      after.find ⟨.symmetric, .user⟩ = none :=
  ⟨_, rfl, rfl, rfl, rfl⟩

end SdkInternal.Crypto.FullContext
