import SdkInternal.Model.Generators.PasswordRules
import SdkInternal.Shared.Computation
import SdkInternal.Verification.Generators.Password

/-! # Passwords for password rules

The rules of a site require one class out of each of several groups. The request has a
minimum for every standard class, so a group with a standard class is met by every password.
The custom classes of all groups share one minimum. -/

namespace SdkInternal.Generators

open Shared List PasswordGeneratorRequest AccumulatedClasses CharacterClass OrdSet

/-! ## What rules ask for -/

namespace CharacterClass

/-- The characters of a class. Of the special characters only those that the generator knows
are counted. -/
def Contains (c : Char) : CharacterClass → Prop
  | .upper => c ∈ upperChars
  | .lower => c ∈ lowerChars
  | .digit => c ∈ numberChars
  | .special => c ∈ specialChars
  | .asciiPrintable => ' ' ≤ c ∧ c ≤ '~'
  | .unicode => True
  | .custom chars => c ∈ chars

def standardClasses : CharacterClass → List StandardClass
  | .upper => [.upper]
  | .lower => [.lower]
  | .digit => [.digit]
  | .special => [.special]
  | .asciiPrintable | .unicode => [.upper, .lower, .digit, .special]
  | .custom _ => []

def customChars : CharacterClass → List Char
  | .custom chars => chars.filter isAsciiGraphic
  | _ => []

end CharacterClass

def InGroup (group : List CharacterClass) (c : Char) : Prop := ∃ cls ∈ group, cls.Contains c

variable (rules : PasswordRules)

namespace PasswordRules

def classes : List CharacterClass := rules.required.flatten ++ rules.allowed

def standardClasses (rules : PasswordRules) : List StandardClass :=
  rules.classes.flatMap CharacterClass.standardClasses

def customRequired : List Char :=
  rules.required.flatten.flatMap customChars

def LengthAllowed (length : ℕ) : Prop :=
  (∀ min, rules.minLength = some min → min.toNat ≤ length) ∧
    ∀ max, rules.maxLength = some max → length ≤ max.toNat

/-- The password has a character of every required group that has a graphic character, and a
length that is allowed if some length that the generator knows is. -/
structure Conforms (password : String) : Prop where
  required : ∀ group ∈ rules.required, (∃ c, isAsciiGraphic c = true ∧ InGroup group c) →
    ∃ c ∈ password.toList, InGroup group c
  length : (∃ length, 5 ≤ length ∧ length ≤ 128 ∧ rules.LengthAllowed length) →
    rules.LengthAllowed password.toList.length

end PasswordRules

def parsedRules (parseExternal : String → Except String PasswordRules) (text : String) :
    Except String PasswordRules :=
  if (trim text).isEmpty then .ok ⟨none, none, none, [], []⟩ else parseExternal text

variable {rules : PasswordRules}

theorem parsePasswordRules_eq {parseExternal : String → Except String PasswordRules} {text : String}
    (h : parsedRules parseExternal text = .ok rules) :
    parsePasswordRules parseExternal text = translateRules rules := by
  rw [parsedRules] at h
  rw [parsePasswordRules]
  split_ifs at h ⊢ with hblank
  · cases h
    rfl
  · rw [h]

/-! ## Accumulation -/

namespace AccumulatedClasses

variable {self : AccumulatedClasses} {cls : CharacterClass} {classes : List CharacterClass}

def enables (self : AccumulatedClasses) : StandardClass → Bool
  | .upper => self.upper
  | .lower => self.lower
  | .digit => self.digit
  | .special => self.special

variable {k : StandardClass}

theorem enables_apply :
    (self.apply cls).enables k = true ↔ self.enables k = true ∨ k ∈ cls.standardClasses := by
  cases cls <;> cases k <;> simp [apply, enables, standardClasses]

variable {c : Char}

theorem mem_custom_apply : c ∈ (self.apply cls).custom ↔ c ∈ self.custom ∨ c ∈ cls.customChars := by
  cases cls <;> simp [apply, customChars]

theorem enables_foldl :
    (classes.foldl apply self).enables k = true ↔
      self.enables k = true ∨ k ∈ classes.flatMap standardClasses := by
  induction classes generalizing self with
  | nil => simp
  | cons cls classes ih =>
    rw [foldl_cons, ih, enables_apply, flatMap_cons, mem_append, or_assoc]

theorem mem_custom_foldl :
    c ∈ (classes.foldl apply self).custom ↔
      c ∈ self.custom ∨ c ∈ classes.flatMap customChars := by
  induction classes generalizing self with
  | nil => simp
  | cons cls classes ih =>
    rw [foldl_cons, ih, mem_custom_apply, flatMap_cons, mem_append, or_assoc]

theorem enables_accumulated :
    (classes.foldl apply default).enables k = true ↔
      k ∈ classes.flatMap standardClasses := by
  have hdefault : (default : AccumulatedClasses).enables k = false := by
    cases k <;> rfl
  rw [enables_foldl, hdefault]
  simp

theorem mem_custom_accumulated :
    c ∈ (classes.foldl apply default).custom ↔ c ∈ classes.flatMap customChars := by
  have hdefault : c ∉ (default : AccumulatedClasses).custom := not_mem_empty c
  rw [mem_custom_foldl]
  simp [hdefault]

theorem isEmpty_iff :
    self.isEmpty = true ↔ (∀ k, self.enables k = false) ∧ ∀ c, c ∉ self.custom := by
  have hforall : (∀ k, self.enables k = false) ↔
      self.upper = false ∧ self.lower = false ∧ self.digit = false ∧ self.special = false := by
    simpa [enables] using (StandardClass.exists_iff (p := fun k => self.enables k = true)).not
  rw [isEmpty, hforall]
  simp only [Bool.and_eq_true, Bool.not_eq_true', OrdSet.isEmpty_iff, and_assoc]

end AccumulatedClasses

/-! ## Lengths -/

theorem toNat_clamp (value lower upper : UInt32) :
    (clamp value lower upper).toNat =
      if value.toNat < lower.toNat then lower.toNat
      else if upper.toNat < value.toNat then upper.toNat else value.toNat := by
  simp only [clamp, UInt32.lt_iff_toNat_lt]
  split_ifs <;> rfl

variable (minLength maxLength : Option UInt32)

/-- The default length between two bounds, all within what the generator knows. -/
def clampedLength : UInt32 :=
  clamp defaultLength
    (clamp (minLength.getD 0) minimumPasswordLength.toUInt32 maximumPasswordLength.toUInt32)
    (clamp (maxLength.getD maximumPasswordLength.toUInt32) minimumPasswordLength.toUInt32
      maximumPasswordLength.toUInt32)

theorem toNat_clampedLength :
    (5 ≤ (clampedLength minLength maxLength).toNat ∧
        (clampedLength minLength maxLength).toNat ≤ 128) ∧
      ∀ n, 5 ≤ n → n ≤ 128 → (minLength.getD 0).toNat ≤ n → n ≤ (maxLength.getD 128).toNat →
        (minLength.getD 0).toNat ≤ (clampedLength minLength maxLength).toNat ∧
          (clampedLength minLength maxLength).toNat ≤ (maxLength.getD 128).toNat := by
  have hmin : minimumPasswordLength.toUInt32.toNat = 5 := rfl
  have hmax : maximumPasswordLength.toUInt32 = 128 := rfl
  have hmaxNat : (128 : UInt32).toNat = 128 := rfl
  have hdefault : defaultLength.toNat = 16 := rfl
  simp only [clampedLength, toNat_clamp, hmin, hmax, hmaxNat, hdefault]
  refine ⟨?_, ?_⟩
  · split_ifs <;> omega
  · intro n _ _ _ _
    split_ifs <;> omega

variable {length : UInt8}

theorem resolveLength_eq_ok {minLength maxLength : Option UInt32}
    (h : resolveLength minLength maxLength = .ok length) :
    length.toNat = (clampedLength minLength maxLength).toNat := by
  obtain ⟨⟨-, hle⟩, -⟩ := toNat_clampedLength minLength maxLength
  rw [resolveLength] at h
  simp only at h
  rw [← clampedLength] at h
  split_ifs at h
  cases h
  rw [UInt32.toNat_toUInt8]
  omega

theorem lengthAllowed_of_resolveLength
    (h : resolveLength rules.minLength rules.maxLength = .ok length) {n : ℕ} (hmin : 5 ≤ n)
    (hmax : n ≤ 128) (hn : rules.LengthAllowed n) : rules.LengthAllowed length.toNat := by
  have hbounds := (toNat_clampedLength rules.minLength rules.maxLength).2 n hmin hmax
  unfold PasswordRules.LengthAllowed at hn ⊢
  rw [resolveLength_eq_ok h]
  cases hminLength : rules.minLength <;> cases hmaxLength : rules.maxLength <;> simp_all

/-! ## Translation -/

theorem mem_sanitize_charsOf {set : OrdSet Char} {c : Char} :
    c ∈ ((charsOf set).map sanitizeCustomChars).getD [] ↔ c ∈ set ∧ isAsciiGraphic c = true := by
  rw [charsOf]
  split_ifs with hempty
  · have hnot := isEmpty_iff.mp hempty c
    simp [hnot]
  · simp only [Option.map_some, Option.getD_some, mem_sanitizeCustomChars, String.toList_ofList,
      mem_elements]

variable {classes : List CharacterClass}

theorem graphic_of_mem_customChars {c : Char} (h : c ∈ classes.flatMap customChars) :
    isAsciiGraphic c = true := by
  obtain ⟨cls, -, hc⟩ := mem_flatMap.mp h
  cases cls with
  | custom chars => exact (mem_filter.mp hc).2
  | _ => cases hc

namespace PasswordRules

/-- No rule says what is allowed, and nothing that is required can be generated. -/
def Unrestricted : Prop :=
  rules.allowed = [] ∧ rules.required.flatten.flatMap CharacterClass.standardClasses = [] ∧
    rules.customRequired = []

/-- The request says what the rules say. -/
structure Translated (request : PasswordGeneratorRequest) : Prop where
  length : resolveLength rules.minLength rules.maxLength = .ok request.length
  maxConsecutive : request.maxConsecutive.map UInt8.toNat = rules.maxConsecutive.map UInt32.toNat
  enables : ∀ k, request.enables k = true ↔ k ∈ rules.standardClasses ∨ rules.Unrestricted
  mem_draw : ∀ k c, c ∈ (request.draw k).1 ↔ request.enables k = true ∧ c ∈ k.chars
  draw_count : ∀ k, (request.draw k).2 = if request.enables k then 1 else 0
  customRequired : ∀ c, c ∈ request.customRequired ↔ c ∈ rules.customRequired
  customAllowed : ∀ c, c ∈ request.customAllowed ↔
    c ∈ rules.classes.flatMap customChars

end PasswordRules

section Translation

variable {rules : PasswordRules} {request : PasswordGeneratorRequest}

theorem isEmpty_accumulated :
    (classes.foldl AccumulatedClasses.apply default).isEmpty = true ↔
      classes.flatMap standardClasses = [] ∧
        classes.flatMap customChars = [] := by
  simp only [AccumulatedClasses.isEmpty_iff, ← Bool.not_eq_true,
    AccumulatedClasses.enables_accumulated, AccumulatedClasses.mem_custom_accumulated,
    eq_nil_iff_forall_not_mem]

variable {k : StandardClass}

theorem mem_standardClasses :
    k ∈ rules.standardClasses ↔
      k ∈ rules.required.flatten.flatMap CharacterClass.standardClasses ∨
        k ∈ rules.allowed.flatMap CharacterClass.standardClasses := by
  rw [PasswordRules.standardClasses, PasswordRules.classes, flatMap_append, mem_append]

theorem enables_withDefaults :
    (withDefaults (rules.required.flatten.foldl apply default)
        (rules.allowed.foldl apply default)
        (!rules.allowed.isEmpty)).enables k = true ∨
      (rules.required.flatten.foldl apply default).enables k = true ↔
    k ∈ rules.standardClasses ∨ rules.Unrestricted := by
  rw [mem_standardClasses, PasswordRules.Unrestricted, enables_accumulated, withDefaults]
  cases hallowed : rules.allowed with
  | nil =>
    rw [if_neg (by simp)]
    by_cases hempty : (rules.required.flatten.foldl apply default).isEmpty = true
    · have hall : (⟨true, true, true, true, .empty⟩ : AccumulatedClasses).enables k = true := by
        cases k <;> rfl
      rw [if_pos hempty]
      exact iff_of_true (.inl hall) (.inr ⟨rfl, isEmpty_accumulated.mp hempty⟩)
    · rw [if_neg hempty, enables_accumulated, or_self]
      rw [isEmpty_accumulated] at hempty
      simp only [PasswordRules.customRequired, hempty, flatMap_nil, not_mem_nil, and_false,
        or_false]
  | cons cls allowed =>
    rw [if_pos (by simp), enables_accumulated, or_comm]
    simp

theorem mem_custom_withDefaults {c : Char} :
    c ∈ (withDefaults (rules.required.flatten.foldl apply default)
        (rules.allowed.foldl apply default)
        (!rules.allowed.isEmpty)).custom ∨ c ∈ rules.customRequired ↔
      c ∈ rules.classes.flatMap customChars := by
  rw [PasswordRules.classes, flatMap_append, mem_append, PasswordRules.customRequired, withDefaults]
  cases hallowed : rules.allowed with
  | nil =>
    rw [if_neg (by simp)]
    split_ifs
    · have hnone : c ∉ (default : AccumulatedClasses).custom := not_mem_empty c
      simp [hnone]
    · rw [mem_custom_accumulated]
      simp
  | cons cls allowed =>
    rw [if_pos (by simp), mem_custom_accumulated, or_comm]

theorem toNat_toUInt8_of_lt {v : UInt32} (h : v < 256) : v.toUInt8.toNat = v.toNat := by
  exact Nat.mod_eq_of_lt h

theorem getMinimum_required {required enabled : Bool} :
    getMinimum (if required then some 1 else none) enabled =
      if enabled then 1 else 0 := by
  cases required <;> cases enabled <;> rfl

theorem narrowMaxConsecutive_eq_ok {limit : Option UInt32} {narrow : Option UInt8}
    (h : narrowMaxConsecutive limit = .ok narrow) :
    narrow.map UInt8.toNat = limit.map UInt32.toNat := by
  cases limit with
  | none =>
    cases h
    rfl
  | some v =>
    rw [narrowMaxConsecutive] at h
    split_ifs at h with hsmall
    cases h
    rw [Option.map_some, Option.map_some, toNat_toUInt8_of_lt hsmall]

variable {required allowed : AccumulatedClasses} {limit : Option UInt8}

theorem enables_requestOf :
    (requestOf required allowed length limit).enables k = true ↔
      allowed.enables k = true ∨ required.enables k = true := by
  cases k <;> exact Bool.or_eq_true_iff

theorem translated_of_translateRules (h : translateRules rules = .ok request) :
    rules.Translated request := by
  simp only [translateRules, assembleRequest, bind_eq_ok_iff, pure_eq_ok_iff] at h
  obtain ⟨length, hlength, limit, hlimit, rfl⟩ := h
  refine ⟨hlength, narrowMaxConsecutive_eq_ok hlimit, ?_,
    fun k c => mem_draw rfl, ?_, ?_, ?_⟩
  · intro k
    rw [enables_requestOf, enables_withDefaults]
  · intro k
    cases k <;> exact getMinimum_required
  · intro c
    rw [customRequired, requestOf, mem_sanitize_charsOf, mem_custom_accumulated]
    exact and_iff_left_of_imp graphic_of_mem_customChars
  · intro c
    rw [customAllowed, requestOf, mem_sanitize_charsOf,
      mem_extend, mem_elements, mem_custom_accumulated]
    rw [← PasswordRules.customRequired, mem_custom_withDefaults]
    exact and_iff_left_of_imp graphic_of_mem_customChars

end Translation

end SdkInternal.Generators
