import SdkInternal.Shared.Blocks
import SdkInternal.Shared.Cbc

/-! # AES-256-CBC with HMAC-SHA256

The one-shot cipher behind type 2 encrypted strings: the plaintext is padded and encrypted
in CBC mode, and the MAC covers the IV and the ciphertext. The AES block functions and
HMAC-SHA256 are parameters. -/

namespace SdkInternal.Crypto

open Shared

abbrev Block := Vector UInt8 16
abbrev Iv := Vector UInt8 16
abbrev Mac := Vector UInt8 32
abbrev Subkey := Vector UInt8 32

/-- The AES-256 block functions and HMAC-SHA256 over a whole message. -/
structure Primitives where
  encryptBlock : Subkey → Block → Block
  decryptBlock : Subkey → Block → Block
  hmac : Subkey → List UInt8 → Mac

def bytesToArray (n : ℕ) (bytes : List UInt8) : Option (Vector UInt8 n) :=
  if h : bytes.length = n then some ⟨bytes.toArray, List.size_toArray.trans h⟩ else none

/-- Primitives whose block cipher can be inverted. -/
structure LawfulPrimitives extends Primitives where
  decryptBlock_encryptBlock : ∀ key block, decryptBlock key (encryptBlock key block) = block

/-- The encryption and MAC keys, stored as one 64-byte composite key. -/
structure Aes256CbcHmacKey where
  key : Vector UInt8 64
  deriving DecidableEq

namespace Aes256CbcHmacKey

def encKey (self : Aes256CbcHmacKey) : Subkey :=
  ⟨(self.key.toList.take 32).toArray, by simp⟩

def macKey (self : Aes256CbcHmacKey) : Subkey :=
  ⟨(self.key.toList.drop 32).toArray, by simp⟩

end Aes256CbcHmacKey

def splitToSubkeys (key : Vector UInt8 64) : Subkey × Subkey :=
  (⟨(key.toList.take 32).toArray, by simp⟩, ⟨(key.toList.drop 32).toArray, by simp⟩)

/-! ## CBC mode with PKCS7 padding

These are the operations of the `cbc` and `block-padding` crates. -/

def xorBlock (first second : Block) : Block :=
  ⟨(List.zipWith (· ^^^ ·) first.toList second.toList).toArray, by simp⟩

/-- Fills the last, incomplete block with bytes that hold the number of added bytes. -/
def pkcs7Pad (tail : List UInt8) : Block :=
  let count := 16 - tail.length
  ⟨((tail ++ List.replicate count (UInt8.ofNat count)).take 16).toArray, by simp; omega⟩

/-- What the last block holds before its padding. -/
def pkcs7Unpad (block : Block) : Option (List UInt8) :=
  let bytes := block.toList
  let count := bytes.getLastD 0
  if count = 0 ∨ 16 < count.toNat then none
  else
    let start := 16 - count.toNat
    -- the last byte is the count itself and is not compared
    if ((bytes.drop start).take (15 - start)).any (· != count) then none
    else some (bytes.take start)

def unpadBlocks (blocks : List Block) : Option (List UInt8) :=
  match blocks.getLast? with
  | none => none
  | some last => (pkcs7Unpad last).map fun tail => Blocks.join blocks.dropLast ++ tail

def padBlocks (plaintext : List UInt8) : List Block :=
  Blocks.whole 16 plaintext ++ [pkcs7Pad (Blocks.remainder 16 plaintext)]

variable (prims : Primitives) (key : Subkey) (iv : Iv)

def cbcEncrypt (blocks : List Block) : List Block :=
  Cbc.encrypt xorBlock (prims.encryptBlock key) iv blocks

def cbcDecrypt (blocks : List Block) : List Block :=
  Cbc.decrypt xorBlock (prims.decryptBlock key) iv blocks

def encryptPaddedVec (plaintext : List UInt8) : List UInt8 :=
  Blocks.join (cbcEncrypt prims key iv (padBlocks plaintext))

/-- Fails if the data does not end at a block, is empty or has a wrong padding. -/
def decryptPadded (data : List UInt8) : Option (List UInt8) :=
  if Blocks.remainder 16 data = [] then
    unpadBlocks (cbcDecrypt prims key iv (Blocks.whole 16 data))
  else none

/-! ## The cipher -/

inductive SymmetricEncryptionError where
  | formatWrong
  | integrityCheckFailed

def calculateMac (iv data : List UInt8) (macKey : Subkey) : Mac :=
  prims.hmac macKey (iv ++ data)

namespace Aes256CbcHmacSha256

/-- The MAC over the IV and the ciphertext, and the ciphertext. -/
def encrypt (plaintext : List UInt8) (key : Vector UInt8 64) : Mac × List UInt8 :=
  let subkeys := splitToSubkeys key
  let data := encryptPaddedVec prims subkeys.1 iv plaintext
  (calculateMac prims iv.toList data subkeys.2, data)

def decrypt (ciphertext : List UInt8) (mac : Mac) (key : Vector UInt8 64) :
    Except SymmetricEncryptionError (List UInt8) :=
  let subkeys := splitToSubkeys key
  if calculateMac prims iv.toList ciphertext subkeys.2 ≠ mac then .error .integrityCheckFailed
  else
    match decryptPadded prims subkeys.1 iv ciphertext with
    | none => .error .formatWrong
    | some data => .ok data

end Aes256CbcHmacSha256

end SdkInternal.Crypto
