import SdkInternal.Model.Generators.PasswordRules

/-! # Sealed password policies

The policy for the passwords of a target system, and the generator's request for it. -/

namespace SdkInternal.Pam

open Generators

def generatorMinLength : UInt32 := 5

def generatorMaxLength : UInt32 := 128

inductive PasswordPolicyError where
  | noCharacterClasses
  | invalidLengthBounds
  deriving DecidableEq

structure SealedPasswordPolicy where
  (minLength maxLength : UInt32)
  (includeUppercase includeLowercase includeDigits includeSymbols : Bool)

namespace SealedPasswordPolicy

variable (self : SealedPasswordPolicy)

def hasCharacterClass : Bool :=
  self.includeUppercase || self.includeLowercase || self.includeDigits || self.includeSymbols

def validate : Except PasswordPolicyError Unit :=
  if !self.hasCharacterClass then .error .noCharacterClasses
  else if !(generatorMinLength ≤ self.minLength && self.minLength ≤ self.maxLength &&
      self.maxLength ≤ generatorMaxLength) then .error .invalidLengthBounds
  else .ok ()

variable (policy : SealedPasswordPolicy)

/-- What `VerifiedJob::generator_request` returns for a policy that is valid. -/
def toRequest : PasswordGeneratorRequest where
  lowercase := policy.includeLowercase
  uppercase := policy.includeUppercase
  numbers := policy.includeDigits
  special := policy.includeSymbols
  length := (clamp policy.maxLength generatorMinLength generatorMaxLength).toUInt8
  avoidAmbiguous := false
  minLowercase := none
  minUppercase := none
  minNumber := none
  minSpecial := none
  customRequiredChars := none
  customAllowedChars := none
  maxConsecutive := none

def generatorRequest :
    Except PasswordPolicyError PasswordGeneratorRequest := do
  policy.validate
  return policy.toRequest

end SealedPasswordPolicy

end SdkInternal.Pam
