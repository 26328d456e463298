import Mathlib.Data.List.Basic

/-! # Cipher block chaining

Each block is mixed with the ciphertext block before it. The initialisation vector stands
before the first block. -/

namespace SdkInternal.Shared.Cbc

open List

variable {β : Type*} (mix : β → β → β)

def encrypt (f : β → β) : β → List β → List β
  | _, [] => []
  | previous, block :: blocks =>
    f (mix block previous) :: encrypt f (f (mix block previous)) blocks

def decrypt (f : β → β) : β → List β → List β
  | _, [] => []
  | previous, block :: blocks => mix (f block) previous :: decrypt f block blocks

variable (f : β → β) (previous : β) (first second : List β) (blocks : List β)

@[simp] theorem length_encrypt : (encrypt mix f previous blocks).length = blocks.length := by
  induction blocks generalizing previous with
  | nil => rfl
  | cons block blocks ih => simp [encrypt, ih]

@[simp] theorem length_decrypt : (decrypt mix f previous blocks).length = blocks.length := by
  induction blocks generalizing previous with
  | nil => rfl
  | cons block blocks ih => simp [decrypt, ih]

/-! ## Chaining over a cut

The block before a later part is the last ciphertext block of the earlier part. -/

theorem encrypt_append :
    encrypt mix f previous (first ++ second) =
      encrypt mix f previous first ++
        encrypt mix f ((encrypt mix f previous first).getLastD previous) second := by
  induction first generalizing previous with
  | nil => rfl
  | cons block first ih =>
    simp only [cons_append, encrypt, ih, getLastD_cons]

theorem decrypt_append :
    decrypt mix f previous (first ++ second) =
      decrypt mix f previous first ++ decrypt mix f (first.getLastD previous) second := by
  induction first generalizing previous with
  | nil => rfl
  | cons block first ih =>
    simp only [cons_append, decrypt, ih, getLastD_cons]

theorem getLastD_append :
    (first ++ second).getLastD previous = second.getLastD (first.getLastD previous) := by
  induction first generalizing previous with
  | nil => rfl
  | cons block first ih => simp only [cons_append, getLastD_cons, ih]

/-! ## Inversion -/

theorem decrypt_encrypt {f g : β → β} (hmix : ∀ block mask, mix (mix block mask) mask = block)
    (hinverse : ∀ block, g (f block) = block) (previous : β) (blocks : List β) :
    decrypt mix g previous (encrypt mix f previous blocks) = blocks := by
  induction blocks generalizing previous with
  | nil => rfl
  | cons block blocks ih => simp only [encrypt, decrypt, hinverse, hmix, ih]

end SdkInternal.Shared.Cbc
