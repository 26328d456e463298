import SdkInternal.Model.Crypto.SymmetricKey

/-! # Content encryption with COSE

Encryption to and decryption from COSE Encrypt0 messages. The two ciphers differ only in
their AEAD and in the algorithm that the protected header names. A nonce is drawn by the
caller of a model function. -/

namespace SdkInternal.Crypto

abbrev Nonce := Vector UInt8 24

/-- An AEAD with 24-byte nonces. A decryption fails if the tag is wrong. -/
structure AeadCipher where
  encrypt : Subkey → Nonce → List UInt8 → List UInt8 → List UInt8
  decrypt : Subkey → Nonce → List UInt8 → List UInt8 → Option (List UInt8)

def textPadBlockSize : ℕ := 32

def padContent (plaintext : List UInt8) (format : ContentFormat) :
    Except CryptoError (List UInt8) :=
  if format.shouldPadContent then
    padBytes plaintext (textPadBlockSize * (1 + plaintext.length / textPadBlockSize))
  else .ok plaintext

def unpadContent (decrypted : List UInt8) (format : ContentFormat) :
    Except CryptoError (List UInt8) :=
  if format.shouldPadContent then unpadBytes decrypted else .ok decrypted

def contentHeader (format : ContentFormat) (keyId : KeyId) (algorithm : ℤ) : Header :=
  { format.toHeader with keyId := keyId.toList, alg := some (.privateUse algorithm) }

def sealedMessage (header : Header) (nonce : Nonce) (ciphertext : List UInt8) : CoseEncrypt0 where
  protectedHeader := { header := header }
  unprotected := { iv := nonce.toList }
  ciphertext := some ciphertext

section Messages

variable (coset : Coset) (aead : AeadCipher) (algorithm : ℤ)

def encryptEncrypt0 (plaintext : List UInt8) (key : CoseSymmetricKey) (format : ContentFormat)
    (nonce : Nonce) : Except CryptoError (List UInt8) := do
  let header := contentHeader format key.keyId algorithm
  let plaintext ← padContent plaintext format
  let ciphertext := aead.encrypt key.encKey nonce plaintext (coset.aad { header := header })
  match coset.encrypt0ToVec (sealedMessage header nonce ciphertext) with
  | none => .error (.encString .invalidCoseEncoding)
  | some bytes => .ok bytes

def decryptEncrypt0 (message : List UInt8) (key : CoseSymmetricKey) :
    Except CryptoError (List UInt8 × ContentFormat) :=
  match coset.encrypt0FromSlice message with
  | none => .error (.encString .invalidCoseEncoding)
  | some msg =>
    let header := msg.protectedHeader.header
    match header.alg with
    | none => .error (.encString .coseMissingAlgorithm)
    | some alg =>
      if alg ≠ .privateUse algorithm then .error .wrongKeyType
      else
        match ContentFormat.ofHeader header with
        | .error _ => .error (.encString .coseMissingContentType)
        | .ok format =>
          if key.keyId.toList ≠ header.keyId then .error .wrongCoseKeyId
          else
            match bytesToArray 24 msg.unprotected.iv with
            | none => .error .invalidNonceLength
            | some nonce =>
              match msg.ciphertext with
              | none => .error (.missingField "ciphertext")
              | some data =>
                match aead.decrypt key.encKey nonce data (coset.aad msg.protectedHeader) with
                | none => .error .keyDecrypt
                | some decrypted => do
                  let content ← unpadContent decrypted format
                  .ok (content, format)

end Messages

structure CosePrimitives extends Coset where
  xChaCha20Poly1305 : AeadCipher
  xAes256Gcm : AeadCipher

def AeadCipher.Inverts (aead : AeadCipher) : Prop :=
  ∀ key nonce plaintext associatedData,
    aead.decrypt key nonce (aead.encrypt key nonce plaintext associatedData) associatedData =
      some plaintext

/-- Serialisation loses nothing of the keys and messages that the crate builds, and a parsed
protected header keeps its bytes. -/
structure Coset.Lawful (coset : Coset) : Prop where
  keyFromSlice_keyToVec : ∀ (key : CoseSymmetricKey) (alg : Algorithm),
    alg ∈ [.privateUse xChaCha20Poly1305Id, .privateUse xAes256GcmId, .a256Gcm] →
      coset.keyFromSlice (coset.keyToVec (key.toCoseKey alg)) = some (key.toCoseKey alg)
  encrypt0FromSlice_encrypt0ToVec : ∀ (format : ContentFormat) (keyId : KeyId) (algorithm : ℤ)
    (nonce : Nonce) (ciphertext : List UInt8),
    algorithm ∈ [xChaCha20Poly1305Id, xAes256GcmId] →
      let header := contentHeader format keyId algorithm
      let message := sealedMessage header nonce ciphertext
      ∃ bytes, coset.encrypt0ToVec message = some bytes ∧
        coset.encrypt0FromSlice bytes = some { message with
          protectedHeader := ⟨some (coset.headerToVec header), header⟩ }

structure LawfulCosePrimitives extends CosePrimitives where
  coset_lawful : toCoset.Lawful
  xChaCha20Poly1305_inverts : xChaCha20Poly1305.Inverts
  xAes256Gcm_inverts : xAes256Gcm.Inverts

variable (cose : CosePrimitives)

def encryptXChaCha20Poly1305 (plaintext : List UInt8) (key : XChaCha20Poly1305Key)
    (format : ContentFormat) (nonce : Nonce) : Except CryptoError (List UInt8) :=
  encryptEncrypt0 cose.toCoset cose.xChaCha20Poly1305 xChaCha20Poly1305Id plaintext key format nonce

def decryptXChaCha20Poly1305 (message : List UInt8) (key : XChaCha20Poly1305Key) :
    Except CryptoError (List UInt8 × ContentFormat) :=
  decryptEncrypt0 cose.toCoset cose.xChaCha20Poly1305 xChaCha20Poly1305Id message key

def encryptXAes256Gcm (plaintext : List UInt8) (key : XAes256GcmKey) (format : ContentFormat)
    (nonce : Nonce) : Except CryptoError (List UInt8) :=
  encryptEncrypt0 cose.toCoset cose.xAes256Gcm xAes256GcmId plaintext key format nonce

def decryptXAes256Gcm (message : List UInt8) (key : XAes256GcmKey) :
    Except CryptoError (List UInt8 × ContentFormat) :=
  decryptEncrypt0 cose.toCoset cose.xAes256Gcm xAes256GcmId message key

end SdkInternal.Crypto
