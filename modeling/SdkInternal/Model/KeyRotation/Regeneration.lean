import SdkInternal.Model.Vault.Response

/-! # Regeneration of the key pair of a user

A pair that is missing or inconsistent is replaced. A private key that cannot be decrypted is
replaced only if a personal item shows that the key of the user is valid. -/

namespace SdkInternal.KeyRotation

open Crypto Shared Vault

inductive KeyPairRegenerationError where
  | crypto
  | api

inductive KeysResponse where
  | found (publicKey privateKey : Option String)
  | notFound
  | failed

inductive KeyPairCheckResult where
  | valid
  | needsRegeneration
  | regenerateIfUserKeyIsValid

/-- Reading the key pair of a user with a context of the key store. -/
structure KeyPairContext (EncString SymmetricKey PrivateKey : Type) extends
    DecryptContext EncString SymmetricKey where
  isV1SymmetricKey : SymmetricKey → Bool
  parseStrict : String → Option EncString
  unwrapPrivateKey : SymmetricKey → EncString → Except CryptoError PrivateKey
  /-- `get_public_key`, then `to_der`. -/
  publicKeyDer : PrivateKey → Except CryptoError (List UInt8)

section

variable {EncString SymmetricKey PrivateKey : Type}
  (ctx : KeyPairContext EncString SymmetricKey PrivateKey) (user : KeySlot SymmetricKey)

/-- Whether the derived public key is the one of the server. `none` is an error. -/
def verifyPublicKeyMatches (privateKey : PrivateKey) (serverPublicKey : String) : Option Bool := do
  let derived ← (ctx.publicKeyDer privateKey).toOption
  let server ← Base64.decode serverPublicKey.toList
  return Base64.encode derived = Base64.encode server

variable (getKeys : KeysResponse)

def checkKeyPair : Except KeyPairRegenerationError KeyPairCheckResult :=
  match user with
  | .error _ => .ok .valid
  | .ok userKey =>
    if !ctx.isV1SymmetricKey userKey then .ok .valid
    else
      match getKeys with
      | .notFound => .ok .needsRegeneration
      | .failed => .error .api
      | .found (some publicKey) (some privateKey) =>
        match ctx.parseStrict privateKey with
        | none => .ok .needsRegeneration
        | some encrypted =>
          match ctx.unwrapPrivateKey userKey encrypted with
          | .ok unwrapped =>
            match verifyPublicKeyMatches ctx unwrapped publicKey with
            | some true => .ok .valid
            | some false => .ok .needsRegeneration
            | none => .ok .needsRegeneration
          | .error _ => .ok .regenerateIfUserKeyIsValid
      -- Both keys are missing, or one of them.
      | .found _ _ => .ok .needsRegeneration

variable (ciphers : List (Cipher EncString))

def isUserKeyValid : Bool :=
  match ciphers.find? (·.organizationId.isNone) with
  | none => false
  | some cipher => (cipher.decrypt ctx.toDecryptContext user).isOk

variable (wire : WireFormat EncString)

/-- `getAll` is the answer of the server, `none` if the request failed. -/
def isUserKeyValidFromApi (getAll : Option (Option (List CipherDetailsResponseModel))) : Bool :=
  match getAll with
  | none => false
  | some data =>
    match (data.getD []).find? (·.organizationId.isNone) with
    | none => false
    | some response =>
      match response.tryInto wire with
      | .error _ => false
      | .ok cipher => isUserKeyValid ctx user [cipher]

/-- The decision, where `userKeyValid` is asked only when the private key is undecryptable. -/
def regenerates (userKeyValid : Bool) :
    Except KeyPairRegenerationError Bool := do
  match ← checkKeyPair ctx user getKeys with
  | .valid => return false
  | .needsRegeneration => return true
  | .regenerateIfUserKeyIsValid => return userKeyValid

def shouldRegeneratePublicKeyEncryptionKeyPair (getKeys : KeysResponse)
    (getAll : Option (Option (List CipherDetailsResponseModel))) :
    Except KeyPairRegenerationError Bool :=
  regenerates ctx user getKeys (isUserKeyValidFromApi ctx user wire getAll)

def shouldRegeneratePublicKeyEncryptionKeyPairWithCiphers : Except KeyPairRegenerationError Bool :=
  regenerates ctx user getKeys (isUserKeyValid ctx user ciphers)

end

end SdkInternal.KeyRotation
