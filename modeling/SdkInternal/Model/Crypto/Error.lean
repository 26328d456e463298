import Mathlib.Data.Nat.Notation

/-! # Errors of the crypto crate -/

namespace SdkInternal.Crypto

/-- The key operations registered for COSE keys. -/
inductive KeyOperation where
  | sign
  | verify
  | encrypt
  | decrypt
  | wrapKey
  | unwrapKey
  | deriveKey
  | deriveBits
  | macCreate
  | macVerify
  deriving DecidableEq

inductive EncStringParseError where
  | noType
  | invalidTypeSymm (encType : String) (parts : ℕ)
  | invalidBase64
  | invalidLength (expected got : ℕ)
  | invalidCoseEncoding
  | coseMissingAlgorithm
  | coseMissingContentType
  deriving DecidableEq

inductive UnsupportedOperationError where
  | encryptionNotImplementedForKey
  | decryptionNotImplementedForKey
  deriving DecidableEq

inductive CryptoError where
  | decrypt
  | invalidKey
  | keyDecrypt
  | invalidKeyLen
  | missingField (name : String)
  | missingKeyId (keyId : String)
  | keyOperationNotSupported (operation : KeyOperation)
  | readOnlyKeyStore
  | invalidKeyStoreOperation
  | encString (error : EncStringParseError)
  | unparseableEncString
  | operationNotSupported (error : UnsupportedOperationError)
  | wrongKeyType
  | wrongCoseKeyId
  | invalidNonceLength
  | invalidPadding
  | encryptRestrictedView
  | restrictedCipherRequiresOrganization
  deriving DecidableEq

end SdkInternal.Crypto
