import Mathlib.Data.List.DropRight
import SdkInternal.Model.Generators.Password

/-! # Password rules

A site states its rules for passwords in an attribute. The text is parsed by a library, and
the parsed rules are flattened into a request of the password generator. -/

namespace SdkInternal.Generators

open Shared

/-! ## The parsed rules -/

inductive CharacterClass where
  | upper
  | lower
  | digit
  | special
  | asciiPrintable
  | unicode
  | custom (chars : List Char)
  deriving DecidableEq

/-- What the parsing library returns. Of every required group one class is required. -/
structure PasswordRules where
  minLength : Option UInt32
  maxLength : Option UInt32
  maxConsecutive : Option UInt32
  allowed : List CharacterClass
  required : List (List CharacterClass)
  deriving DecidableEq

inductive PasswordRulesError where
  | parse (message : String)
  | invalidLength
  deriving DecidableEq

def defaultLength : UInt32 := 16

def maxEchoedValueLen : ℕ := 64

/-- `char::is_whitespace`. -/
def isWhitespace (c : Char) : Bool :=
  let n := c.toNat
  0x09 ≤ n && n ≤ 0x0D || n == 0x20 || n == 0x85 || n == 0xA0 || n == 0x1680 ||
    0x2000 ≤ n && n ≤ 0x200A || n == 0x2028 || n == 0x2029 || n == 0x202F || n == 0x205F ||
    n == 0x3000

/-- `str::trim`. -/
def trim (s : String) : List Char := (s.toList.dropWhile isWhitespace).rdropWhile isWhitespace

def truncateForError (s : String) : String :=
  let trimmed := trim s
  if trimmed.length ≤ maxEchoedValueLen then String.ofList trimmed
  else String.ofList (trimmed.take maxEchoedValueLen ++ ['…'])

/-! ## Flattening -/

structure AccumulatedClasses where
  upper : Bool
  lower : Bool
  digit : Bool
  special : Bool
  custom : OrdSet Char

namespace AccumulatedClasses

instance : Inhabited AccumulatedClasses := ⟨⟨false, false, false, false, .empty⟩⟩

def isEmpty (self : AccumulatedClasses) : Bool :=
  !self.upper && !self.lower && !self.digit && !self.special && self.custom.isEmpty

def apply (self : AccumulatedClasses) : CharacterClass → AccumulatedClasses
  | .upper => { self with upper := true }
  | .lower => { self with lower := true }
  | .digit => { self with digit := true }
  | .special => { self with special := true }
  | .asciiPrintable | .unicode =>
    { self with upper := true, lower := true, digit := true, special := true }
  | .custom chars => { self with custom := self.custom.extend (chars.filter isAsciiGraphic) }

end AccumulatedClasses

def clamp (value lower upper : UInt32) : UInt32 :=
  if value < lower then lower else if upper < value then upper else value

/-- Both bounds are given and no length lies between them. -/
def exceeds : Option UInt32 → Option UInt32 → Bool
  | some min, some max => decide (max < min)
  | _, _ => false

def resolveLength (minLength maxLength : Option UInt32) : Except PasswordRulesError UInt8 :=
  if exceeds minLength maxLength then .error .invalidLength
  else
    let minU32 := minimumPasswordLength.toUInt32
    let maxU32 := maximumPasswordLength.toUInt32
    let lowerBound := clamp (minLength.getD 0) minU32 maxU32
    let upperBound := clamp (maxLength.getD maxU32) minU32 maxU32
    let clamped := clamp defaultLength lowerBound upperBound
    if clamped < 256 then .ok clamped.toUInt8 else .error .invalidLength

/-- The text of a set of characters, if there are any. -/
def charsOf (set : OrdSet Char) : Option String :=
  if set.isEmpty then none else some (String.ofList set.elements)

variable (required allowed : AccumulatedClasses)

/-- What is allowed if no rule says so: what is required, or all standard classes. -/
def withDefaults (allowedSeen : Bool) : AccumulatedClasses :=
  if allowedSeen then allowed
  else if required.isEmpty then
    { allowed with upper := true, lower := true, digit := true, special := true }
  else required

def narrowMaxConsecutive : Option UInt32 → Except PasswordRulesError (Option UInt8)
  | some v => if v < 256 then .ok (some v.toUInt8) else .error .invalidLength
  | none => .ok none

/-- The request that `assemble_request` builds once all parts are known. -/
def requestOf (length : UInt8) (maxConsecutive : Option UInt8) : PasswordGeneratorRequest where
  lowercase := allowed.lower || required.lower
  uppercase := allowed.upper || required.upper
  numbers := allowed.digit || required.digit
  special := allowed.special || required.special
  length := length
  avoidAmbiguous := false
  minLowercase := if required.lower then some 1 else none
  minUppercase := if required.upper then some 1 else none
  minNumber := if required.digit then some 1 else none
  minSpecial := if required.special then some 1 else none
  customRequiredChars := charsOf required.custom
  customAllowedChars := charsOf (allowed.custom.extend required.custom.elements)
  maxConsecutive := maxConsecutive

def assembleRequest (minLength maxLength maxConsecutive : Option UInt32)
    (required allowed : AccumulatedClasses) (allowedSeen : Bool) :
    Except PasswordRulesError PasswordGeneratorRequest := do
  let allowed := withDefaults required allowed allowedSeen
  let length ← resolveLength minLength maxLength
  let maxConsecutive ← narrowMaxConsecutive maxConsecutive
  return requestOf required allowed length maxConsecutive

def translateRules (rules : PasswordRules) : Except PasswordRulesError PasswordGeneratorRequest :=
  assembleRequest rules.minLength rules.maxLength rules.maxConsecutive
    (rules.required.flatten.foldl AccumulatedClasses.apply default)
    (rules.allowed.foldl AccumulatedClasses.apply default) (!rules.allowed.isEmpty)

/-- The parsing library is a parameter. Its errors are their texts. -/
def parsePasswordRules (parseExternal : String → Except String PasswordRules) (rules : String) :
    Except PasswordRulesError PasswordGeneratorRequest :=
  if (trim rules).isEmpty then assembleRequest none none none default default false
  else
    match parseExternal rules with
    | .error message => .error (.parse (truncateForError message))
    | .ok parsed => translateRules parsed

end SdkInternal.Generators
