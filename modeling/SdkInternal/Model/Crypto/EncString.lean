import SdkInternal.Model.Crypto.Aes256CbcHmac
import SdkInternal.Model.Crypto.Error
import SdkInternal.Shared.Base64

/-! # Encrypted strings

In the binary form a type byte is followed by the fields of the type. In the text form the
fields are base64 and in another order, and any other text is kept as it is. -/

namespace SdkInternal.Crypto

open Shared

inductive EncString where
  | aes256Cbc (iv : Iv) (data : List UInt8)
  | aes256CbcHmacSha256 (iv : Iv) (mac : Mac) (data : List UInt8)
  | coseEncrypt0 (data : List UInt8)
  | unparseable (raw : String)

def aes256CbcType : UInt8 := 0
def aes256CbcHmacType : UInt8 := 2
def coseEncrypt0Type : UInt8 := 7

variable (buf : List UInt8)

/-- A buffer that passes carries the proof that it is long enough. -/
def checkLength (expected : ℕ) : Except CryptoError (PLift (expected ≤ buf.length)) :=
  if h : buf.length < expected then .error (.encString (.invalidLength expected buf.length))
  else .ok ⟨not_lt.mp h⟩

/-- The bytes of a buffer from `start` on, as an array of `count` bytes. -/
def bytesAt (start count : ℕ) (h : start + count ≤ buf.length) : Vector UInt8 count :=
  ⟨((buf.drop start).take count).toArray, by simp; omega⟩

def fromB64Vec (s : List Char) : Except CryptoError (List UInt8) :=
  match Base64.decode s with
  | none => .error (.encString .invalidBase64)
  | some bytes => .ok bytes

def fromB64 (n : ℕ) (s : List Char) : Except CryptoError (Vector UInt8 n) := do
  let bytes ← fromB64Vec s
  match bytesToArray n bytes with
  | some array => .ok array
  | none => .error (.encString (.invalidLength n bytes.length))

/-- The type and the parts of a text. A text without a header, or with more than one `.`, is
of type 1 if it has three parts and of type 0 otherwise. -/
def splitEncString (s : List Char) : List Char × List (List Char) :=
  match s.splitOn '.' with
  | [header, body] => (header, body.splitOn '|')
  | _ =>
    let parts := s.splitOn '|'
    if parts.length = 3 then (['1'], parts) else (['0'], parts)

namespace EncString

/-! ## Binary form -/

def encType : EncString → Option UInt8
  | .aes256Cbc _ _ => some aes256CbcType
  | .aes256CbcHmacSha256 _ _ _ => some aes256CbcHmacType
  | .coseEncrypt0 _ => some coseEncrypt0Type
  | .unparseable _ => none

def fromBuffer : Except CryptoError EncString :=
  match buf with
  | [] => .error (.encString .noType)
  | encType :: _ =>
    if encType = aes256CbcType then do
      let ⟨h⟩ ← checkLength buf 18
      .ok (.aes256Cbc (bytesAt buf 1 16 (by omega)) (buf.drop 17))
    else if encType = aes256CbcHmacType then do
      let ⟨h⟩ ← checkLength buf 50
      .ok (.aes256CbcHmacSha256 (bytesAt buf 1 16 (by omega)) (bytesAt buf 17 32 (by omega))
        (buf.drop 49))
    else if encType = coseEncrypt0Type then .ok (.coseEncrypt0 (buf.drop 1))
    else .error (.encString (.invalidTypeSymm (toString encType.toNat) 1))

def toBuffer (self : EncString) : Except CryptoError (List UInt8) :=
  match self.encType with
  | none => .error .unparseableEncString
  | some encType =>
    match self with
    | .aes256Cbc iv data => .ok (encType :: (iv.toList ++ data))
    | .aes256CbcHmacSha256 iv mac data => .ok (encType :: (iv.toList ++ mac.toList ++ data))
    | .coseEncrypt0 data => .ok (encType :: data)
    | .unparseable _ => .error .unparseableEncString

/-! ## Text form -/

def parseKnownFormat (s : String) : Option EncString :=
  match splitEncString s.toList with
  | (['0'], [iv, data]) => do
    let iv ← (fromB64 16 iv).toOption
    let data ← (fromB64Vec data).toOption
    return .aes256Cbc iv data
  | (['2'], [iv, data, mac]) => do
    let iv ← (fromB64 16 iv).toOption
    let data ← (fromB64Vec data).toOption
    let mac ← (fromB64 32 mac).toOption
    return .aes256CbcHmacSha256 iv mac data
  | (['7'], [data]) => do
    let data ← (fromB64Vec data).toOption
    return .coseEncrypt0 data
  | _ => none

/-- Never fails: a text of no known format is kept. -/
def fromStr (s : String) : Except CryptoError EncString :=
  .ok ((parseKnownFormat s).getD (.unparseable s))

def parseStrict (s : String) : Except CryptoError EncString :=
  match parseKnownFormat s with
  | none => .error .unparseableEncString
  | some encString => .ok encString

def fmtParts (encType : UInt8) (parts : List (List UInt8)) : String :=
  String.ofList ((toString encType.toNat).toList ++
    '.' :: List.intercalate ['|'] (parts.map Base64.encode))

def toString : EncString → String
  | .aes256Cbc iv data => fmtParts aes256CbcType [iv.toList, data]
  | .aes256CbcHmacSha256 iv mac data => fmtParts aes256CbcHmacType [iv.toList, data, mac.toList]
  | .coseEncrypt0 data => fmtParts coseEncrypt0Type [data]
  | .unparseable raw => raw

/-! ## Decryption -/

/-- `decrypt_with_key` for a `SymmetricCryptoKey::Aes256CbcHmacKey`. -/
def decryptWithKey (prims : Primitives) (self : EncString) (key : Aes256CbcHmacKey) :
    Except CryptoError (List UInt8) :=
  match self with
  | .aes256CbcHmacSha256 iv mac data =>
    match Aes256CbcHmacSha256.decrypt prims iv data mac key.key with
    | .error _ => .error .decrypt
    | .ok plaintext => .ok plaintext
  | .unparseable _ => .error .unparseableEncString
  | .aes256Cbc _ _ => .error .wrongKeyType
  | .coseEncrypt0 _ => .error .wrongKeyType

end EncString

end SdkInternal.Crypto
