import Mathlib.Data.Char
import SdkInternal.Shared.OrdSet
import SdkInternal.Shared.RandomSource

/-! # The password generator

A request is validated into options: for every class of characters the set to draw from and
how many characters to draw. -/

namespace SdkInternal.Generators

open Shared

inductive PasswordError where
  | noCharacterSetEnabled
  | invalidLength
  deriving DecidableEq

structure PasswordGeneratorRequest where
  (lowercase uppercase numbers special : Bool)
  length : UInt8
  avoidAmbiguous : Bool
  (minLowercase minUppercase minNumber minSpecial : Option UInt8)
  (customRequiredChars customAllowedChars : Option String)
  maxConsecutive : Option UInt8
  deriving DecidableEq

def defaultPasswordLength : UInt8 := 16

def minimumPasswordLength : UInt8 := 5

def maximumPasswordLength : UInt8 := 128

instance : Inhabited PasswordGeneratorRequest where
  default := {
    lowercase := true
    uppercase := true
    numbers := true
    special := false
    length := defaultPasswordLength
    avoidAmbiguous := false
    minLowercase := none
    minUppercase := none
    minNumber := none
    minSpecial := none
    customRequiredChars := none
    customAllowedChars := none
    maxConsecutive := none }

/-- `char::is_ascii_graphic`. -/
def isAsciiGraphic (c : Char) : Bool := decide ('!' ≤ c) && decide (c ≤ '~')

/-- The first occurrences of the graphic characters. -/
def sanitizeCustomChars (s : String) : List Char := (s.toList.filter isAsciiGraphic).eraseDups

def charsFrom (first : Char) (count : ℕ) : List Char :=
  (List.range count).map fun offset => Char.ofNat (first.toNat + offset)

def lowerChars : List Char := charsFrom 'a' 26

def upperChars : List Char := charsFrom 'A' 26

def numberChars : List Char := charsFrom '0' 10

def upperCharsAmbiguous : List Char := ['I', 'O']

def lowerCharsAmbiguous : List Char := ['l']

def numberCharsAmbiguous : List Char := ['0', '1']

def specialChars : List Char := ['!', '@', '#', '$', '%', '^', '&', '*']

abbrev CharSet := OrdSet Char

namespace CharSet

variable (self : CharSet) (predicate : Bool) (other : List Char)

def includeIf : CharSet :=
  if predicate then self.extend other else self

def includeAll : CharSet := includeIf self true other

def excludeIf : CharSet :=
  if predicate then self.difference other else self

end CharSet

structure PasswordGeneratorOptions where
  (lower upper number special custom all : CharSet × ℕ)
  length : ℕ
  maxConsecutive : Option ℕ
  deriving DecidableEq

namespace PasswordGeneratorRequest

/-- Zero for a class that is disabled, at least one otherwise. -/
def getMinimum (min : Option UInt8) (enabled : Bool) : ℕ :=
  if enabled then max (min.getD 1).toNat 1 else 0

variable (self : PasswordGeneratorRequest)

def customRequired : List Char :=
  (self.customRequiredChars.map sanitizeCustomChars).getD []

def customAllowed : List Char :=
  (self.customAllowedChars.map sanitizeCustomChars).getD []

def lower : CharSet × ℕ :=
  (CharSet.excludeIf (CharSet.includeIf OrdSet.empty self.lowercase lowerChars)
    self.avoidAmbiguous lowerCharsAmbiguous, getMinimum self.minLowercase self.lowercase)

def upper : CharSet × ℕ :=
  (CharSet.excludeIf (CharSet.includeIf OrdSet.empty self.uppercase upperChars)
    self.avoidAmbiguous upperCharsAmbiguous, getMinimum self.minUppercase self.uppercase)

def number : CharSet × ℕ :=
  (CharSet.excludeIf (CharSet.includeIf OrdSet.empty self.numbers numberChars)
    self.avoidAmbiguous numberCharsAmbiguous, getMinimum self.minNumber self.numbers)

def specials : CharSet × ℕ :=
  (CharSet.includeIf OrdSet.empty self.special specialChars,
    getMinimum self.minSpecial self.special)

def custom : CharSet × ℕ :=
  (CharSet.includeAll OrdSet.empty self.customRequired,
    if self.customRequired.isEmpty then 0 else 1)

def minimumLength : ℕ :=
  self.lower.2 + self.upper.2 + self.number.2 + self.specials.2 + self.custom.2

def all : CharSet :=
  [self.lower.1.elements, self.upper.1.elements, self.number.1.elements,
    self.specials.1.elements, self.custom.1.elements,
    self.customAllowed].foldl CharSet.includeAll OrdSet.empty

def validateOptions : Except PasswordError PasswordGeneratorOptions :=
  if !self.lowercase && !self.uppercase && !self.numbers && !self.special &&
      self.customRequired.isEmpty && self.customAllowed.isEmpty then
    .error .noCharacterSetEnabled
  else if self.length < 4 then .error .invalidLength
  else if self.length.toNat < self.minimumLength then .error .invalidLength
  else
    match self.maxConsecutive with
    | some 0 => .error .invalidLength
    | maxConsecutive => .ok {
        lower := self.lower
        upper := self.upper
        number := self.number
        special := self.specials
        custom := self.custom
        all := (self.all, self.length.toNat - self.minimumLength)
        length := self.length.toNat
        maxConsecutive := maxConsecutive.map UInt8.toNat }

end PasswordGeneratorRequest

/-! ## Generation -/

/-- The loop of `violates_max_consecutive`, with the length of the current run. -/
def violatesFrom (limit : ℕ) : ℕ → List Char → Bool
  | run, a :: b :: rest =>
    if a = b then
      if limit < run + 1 then true else violatesFrom limit (run + 1) (b :: rest)
    else violatesFrom limit 1 (b :: rest)
  | _, _ => false

variable (buf : Array Char)

def violatesMaxConsecutive (limit : ℕ) : Bool :=
  if limit = 0 || buf.size ≤ limit then false else violatesFrom limit 1 buf.toList

/-- The next place whose character can take the place `i`. -/
def repairTarget (i : ℕ) : Option ℕ :=
  (List.range' (i + 1) (buf.size - (i + 1))).find? fun k =>
    buf[k]? != buf[i]? && (k + 1 == buf.size || buf[k + 1]? != buf[i]?)

/-- The loop of `repair_consecutive` for the places from `i` on. -/
def repairLoop (limit : ℕ) : ℕ → ℕ → ℕ → Array Char → Array Char
  | 0, _, _, buf => buf
  | remaining + 1, run, i, buf =>
    if buf[i]? = buf[i - 1]? then
      if limit < run + 1 then
        match repairTarget buf i with
        | some j => repairLoop limit remaining 1 (i + 1) (buf.swapIfInBounds i j)
        | none => buf
      else repairLoop limit remaining (run + 1) (i + 1) buf
    else repairLoop limit remaining 1 (i + 1) buf

def repairConsecutive (limit : ℕ) : Array Char :=
  if limit = 0 || buf.size ≤ limit then buf else repairLoop limit (buf.size - 1) 1 1 buf

def maxReshuffles : ℕ := 16

section Random

variable {ρ : Type} (source : RandomSource Char ρ)

def reshuffle (limit : ℕ) : ℕ → ρ → Array Char → Array Char
  | 0, _, buf => buf
  | tries + 1, rng, buf =>
    if violatesMaxConsecutive buf limit then
      let (buf, rng) := source.shuffle rng buf
      reshuffle limit tries rng buf
    else buf

/-- The sets in the order in which they are drawn from. -/
def PasswordGeneratorOptions.draws (options : PasswordGeneratorOptions) : List (List Char × ℕ) :=
  [options.all, options.upper, options.lower, options.number, options.special,
    options.custom].map fun (set, qty) => (set.elements, qty)

/-- `none` is the panic of a sample from an empty set. -/
def passwordWithRng (rng : ρ) (options : PasswordGeneratorOptions) : Option String := do
  let (drawn, rng) ← source.drawAll rng options.draws
  let (buf, rng) := source.shuffle rng drawn.toArray
  let buf := match options.maxConsecutive with
    | none => buf
    | some limit =>
      let buf := reshuffle source limit maxReshuffles rng buf
      if violatesMaxConsecutive buf limit then repairConsecutive buf limit else buf
  return String.ofList buf.toList

end Random

end SdkInternal.Generators
