import Mathlib.Data.List.Sort
import SdkInternal.Model.Crypto.Error

/-! # COSE messages and keys

The values that the COSE library builds and parses, and the two maps between content formats
and headers. Serialisation to CBOR belongs to the library and is a parameter. -/

namespace SdkInternal.Crypto

/-! ## Padding -/

/-- Every added byte holds the number of added bytes, of which there is at least one. -/
def padBytes (bytes : List UInt8) (minLength : ℕ) : Except CryptoError (List UInt8) :=
  let padCount := max (minLength - bytes.length) 1
  if 255 < padCount then .error .invalidPadding
  else
    let paddedLength := max minLength (bytes.length + 1)
    .ok (bytes ++ List.replicate (paddedLength - bytes.length) (UInt8.ofNat padCount))

/-- Only the last byte is read. -/
def unpadBytes (paddedBytes : List UInt8) : Except CryptoError (List UInt8) :=
  match paddedBytes.getLast? with
  | none => .error .invalidPadding
  | some last =>
    let padLen := last.toNat
    if padLen = 0 ∨ paddedBytes.length < padLen then .error .invalidPadding
    else .ok (paddedBytes.take (paddedBytes.length - padLen))

/-! ## Values of the COSE library -/

/-- Registered algorithms are given by their number. -/
inductive Algorithm where
  | assigned (value : ℤ)
  | privateUse (value : ℤ)
  | text (value : String)
  deriving DecidableEq

def Algorithm.a256Gcm : Algorithm := .assigned 3

def xChaCha20Poly1305Id : ℤ := -70000
def xAes256GcmId : ℤ := -70010

/-- The registered content formats. `other` stands for those that the crate never names. -/
inductive CoapContentFormat where
  | coseEncrypt0
  | coseSign1
  | octetStream
  | cbor
  | coseKey
  | pkcs8
  | other (id : ℕ)
  deriving DecidableEq

inductive ContentType where
  | assigned (format : CoapContentFormat)
  | text (value : String)
  deriving DecidableEq

structure Header where
  alg : Option Algorithm := none
  contentType : Option ContentType := none
  keyId : List UInt8 := []
  iv : List UInt8 := []

/-- A parsed header keeps the bytes it was parsed from. -/
structure ProtectedHeader where
  originalData : Option (List UInt8) := none
  header : Header

structure CoseEncrypt0 where
  protectedHeader : ProtectedHeader
  unprotected : Header
  ciphertext : Option (List UInt8)

inductive Label where
  | int (value : ℤ)
  | text (value : String)
  deriving DecidableEq

/-- The values of a key's parameters. Only byte strings are ever looked at. -/
inductive ParamValue where
  | bytes (value : List UInt8)
  | other

inductive KeyType where
  | symmetric
  | other (value : ℤ)

inductive KeyOperationLabel where
  | assigned (operation : KeyOperation)
  | text (value : String)
  deriving DecidableEq

structure CoseKey where
  kty : KeyType
  keyId : List UInt8 := []
  alg : Option Algorithm := none
  /-- A set, kept in its iteration order. -/
  keyOps : List KeyOperationLabel := []
  params : List (Label × ParamValue) := []

def KeyOperation.toI64 : KeyOperation → ℤ
  | .sign => 1
  | .verify => 2
  | .encrypt => 3
  | .decrypt => 4
  | .wrapKey => 5
  | .unwrapKey => 6
  | .deriveKey => 7
  | .deriveBits => 8
  | .macCreate => 9
  | .macVerify => 10

/-- Texts come after all registered operations. -/
def KeyOperationLabel.rank : KeyOperationLabel → ℤ
  | .assigned operation => operation.toI64
  | .text _ => 11

namespace CoseKey

def symmetricKeyLabel : Label := .int (-1)

def newSymmetricKey (k : List UInt8) : CoseKey :=
  { kty := .symmetric, params := [(symmetricKeyLabel, .bytes k)] }

def addKeyOp (self : CoseKey) (operation : KeyOperation) : CoseKey :=
  if .assigned operation ∈ self.keyOps then self
  else { self with
    keyOps := self.keyOps.orderedInsert (fun a b => a.rank ≤ b.rank) (.assigned operation) }

end CoseKey

/-! ## Content formats -/

inductive ContentFormat where
  | utf8
  | pkcs8PrivateKey
  | spkiPublicKeyDer
  | coseKey
  | coseSign1
  | coseEncrypt0
  | bitwardenLegacyKey
  | octetStream
  | cbor
  deriving DecidableEq

def contentTypePaddedUtf8 : String := "application/x.bitwarden.utf8-padded"
def contentTypeBitwardenLegacyKey : String := "application/x.bitwarden.legacy-key"
def contentTypeSpkiPublicKey : String := "application/x.bitwarden.spki-public-key"

namespace ContentFormat

/-- `From<ContentFormat> for coset::HeaderBuilder`. -/
def toHeader : ContentFormat → Header
  | .utf8 => { contentType := some (.text contentTypePaddedUtf8) }
  | .pkcs8PrivateKey => { contentType := some (.assigned .pkcs8) }
  | .spkiPublicKeyDer => { contentType := some (.text contentTypeSpkiPublicKey) }
  | .coseSign1 => { contentType := some (.assigned .coseSign1) }
  | .coseKey => { contentType := some (.assigned .coseKey) }
  | .coseEncrypt0 => { contentType := some (.assigned .coseEncrypt0) }
  | .bitwardenLegacyKey => { contentType := some (.text contentTypeBitwardenLegacyKey) }
  | .octetStream => { contentType := some (.assigned .octetStream) }
  | .cbor => { contentType := some (.assigned .cbor) }

/-- `TryFrom<&coset::Header> for ContentFormat`. -/
def ofHeader (header : Header) : Except CryptoError ContentFormat :=
  match header.contentType with
  | some (.text format) =>
    if format = contentTypePaddedUtf8 then .ok .utf8
    else if format = contentTypeBitwardenLegacyKey then .ok .bitwardenLegacyKey
    else if format = contentTypeSpkiPublicKey then .ok .spkiPublicKeyDer
    else .error (.encString .coseMissingContentType)
  | some (.assigned .pkcs8) => .ok .pkcs8PrivateKey
  | some (.assigned .coseKey) => .ok .coseKey
  | some (.assigned .octetStream) => .ok .octetStream
  | some (.assigned .cbor) => .ok .cbor
  | _ => .error (.encString .coseMissingContentType)

/-- Only text is padded. -/
def shouldPadContent (format : ContentFormat) : Bool := format == .utf8

end ContentFormat

/-! ## Serialisation -/

/-- The serialisers and parsers of the COSE library. `encStructure` is the associated data of
a message whose protected header has the given bytes, without any external data. -/
structure Coset where
  keyToVec : CoseKey → List UInt8
  keyFromSlice : List UInt8 → Option CoseKey
  headerToVec : Header → List UInt8
  encrypt0ToVec : CoseEncrypt0 → Option (List UInt8)
  encrypt0FromSlice : List UInt8 → Option CoseEncrypt0
  encStructure : List UInt8 → List UInt8

/-- A header that has been parsed is authenticated as it was received. -/
def Coset.aad (coset : Coset) (self : ProtectedHeader) : List UInt8 :=
  coset.encStructure (self.originalData.getD (coset.headerToVec self.header))

end SdkInternal.Crypto
