import SdkInternal.Model.Pam.PasswordPolicy
import SdkInternal.Verification.Generators.PasswordRules

/-! # Passwords for sealed policies -/

namespace SdkInternal.Pam.SealedPasswordPolicy

open Generators Shared PasswordGeneratorRequest

variable {policy : SealedPasswordPolicy}

def includes (policy : SealedPasswordPolicy) : StandardClass → Bool
  | .upper => policy.includeUppercase
  | .lower => policy.includeLowercase
  | .digit => policy.includeDigits
  | .special => policy.includeSymbols

theorem validate_eq_ok_iff :
    policy.validate = .ok () ↔ (∃ k, policy.includes k = true) ∧ 5 ≤ policy.minLength.toNat ∧
      policy.minLength.toNat ≤ policy.maxLength.toNat ∧ policy.maxLength.toNat ≤ 128 := by
  have hclass : policy.hasCharacterClass = true ↔ ∃ k, policy.includes k = true := by
    simp [hasCharacterClass, StandardClass.exists_iff, includes, or_assoc]
  simp only [validate, ← hclass]
  split_ifs <;>
    simp_all [UInt32.le_iff_toNat_le, generatorMinLength, generatorMaxLength, or_assoc]
  omega

theorem enables_toRequest (k : StandardClass) : policy.toRequest.enables k = policy.includes k := by
  cases k <;> rfl

theorem mem_draw_toRequest {k : StandardClass} {c : Char} :
    c ∈ (policy.toRequest.draw k).1 ↔ policy.includes k = true ∧ c ∈ k.chars := by
  rw [mem_draw rfl, enables_toRequest]

theorem toNat_length_toRequest (h : policy.validate = .ok ()) :
    policy.toRequest.length.toNat = policy.maxLength.toNat := by
  obtain ⟨-, hmin, hle, hmax⟩ := validate_eq_ok_iff.mp h
  have hlower : generatorMinLength.toNat = 5 := rfl
  have hupper : generatorMaxLength.toNat = 128 := rfl
  simp only [toRequest, UInt32.toNat_toUInt8, toNat_clamp, hlower, hupper]
  split_ifs <;> omega

theorem validateOptions_toRequest (h : policy.validate = .ok ()) :
    policy.toRequest.HasSet ∧ policy.toRequest.minimumLength ≤ policy.toRequest.length.toNat ∧
      policy.toRequest.validateOptions = .ok policy.toRequest.options := by
  obtain ⟨⟨k, hk⟩, hmin, hle, -⟩ := validate_eq_ok_iff.mp h
  have hset : policy.toRequest.HasSet :=
    hasSet_iff_enables.mpr (.inl ⟨k, (enables_toRequest k).trans hk⟩)
  have hminimum : policy.toRequest.minimumLength ≤ 5 := by
    apply minimumLength_le_five
    intro k
    have hnone : policy.toRequest.minimum k = none := by cases k <;> rfl
    rw [draw_snd, hnone, getMinimum]
    split_ifs <;> simp
  have hlength := toNat_length_toRequest h
  refine ⟨hset, by omega, validateOptions_eq_ok_iff.mpr
    ⟨⟨hset, ?_, by omega, by rintro ⟨⟩⟩, rfl⟩⟩
  rw [UInt8.le_iff_toNat_le]
  change 4 ≤ _
  omega

/-- A policy that is accepted becomes a request that is accepted, and every generator returns a
password of an allowed length, of the enabled classes only and with a character of each. -/
theorem generates_conforming (h : policy.validate = .ok ()) :
    ∃ request options, policy.generatorRequest = .ok request ∧
      request.validateOptions = .ok options ∧
      ∀ (ρ : Type) (source : RandomSource Char ρ) (rng : ρ), ∃ password,
        passwordWithRng source rng options = some password ∧
        policy.minLength.toNat ≤ password.toList.length ∧
        password.toList.length ≤ policy.maxLength.toNat ∧
        (∀ c ∈ password.toList, ∃ k, policy.includes k = true ∧ c ∈ k.chars) ∧
        ∀ k, policy.includes k = true → ∃ c ∈ password.toList, c ∈ k.chars := by
  obtain ⟨hset, hroom, hoptions⟩ := validateOptions_toRequest h
  refine ⟨policy.toRequest, policy.toRequest.options, by rw [generatorRequest, h]; rfl, hoptions,
    ?_⟩
  intro ρ source rng
  obtain ⟨password, hpassword, hmet⟩ :=
    exists_metBy hset hroom source rng
  obtain ⟨-, -, hle, -⟩ := validate_eq_ok_iff.mp h
  have hlength := hmet.length.trans (toNat_length_toRequest h)
  refine ⟨password, hpassword, by omega, by omega, ?_, ?_⟩
  · intro c hc
    rcases hmet.allowed c hc with ⟨k, hmem⟩ | hcustom | hcustom
    · exact ⟨k, mem_draw_toRequest.mp hmem⟩
    · cases hcustom
    · cases hcustom
  · intro k hk
    obtain ⟨c, hc, hmem⟩ := hmet.exists_mem_draw ((enables_toRequest k).trans hk)
    exact ⟨c, hc, (mem_draw_toRequest.mp hmem).2⟩

def lettersAndSymbols : SealedPasswordPolicy := ⟨8, 20, true, true, false, true⟩

theorem lettersAndSymbols_conforming :
    ∃ request options password, lettersAndSymbols.generatorRequest = .ok request ∧
      request.validateOptions = .ok options ∧
      passwordWithRng RandomSource.scripted [2, 7] options = some password ∧
      8 ≤ password.toList.length ∧ ∃ c ∈ password.toList, c ∈ specialChars := by
  obtain ⟨request, options, hrequest, hoptions, hgenerates⟩ :=
    generates_conforming (show lettersAndSymbols.validate = .ok () by decide)
  obtain ⟨password, hpassword, hmin, -, -, heach⟩ := hgenerates _ RandomSource.scripted [2, 7]
  exact ⟨request, options, password, hrequest, hoptions, hpassword, hmin, heach .special rfl⟩

end SdkInternal.Pam.SealedPasswordPolicy
