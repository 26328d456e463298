import SdkInternal.Model.Vault.Edit

/-! # The vault half of a rotation

The item that the server returned is vetted, and the request is built that replaces its
password. -/

namespace SdkInternal.Pam

open Crypto Shared Vault

inductive RotationCipherError where
  | cipherOrganizationMismatch
  | cipherNotLogin
  | cipherRestricted
  | cipherWithoutItemKey
  | cipherDataPresent
  | crypto (error : CryptoError)

def RotationCipherError.fromChangeLoginPasswordError :
    ChangeLoginPasswordError → RotationCipherError
  | .partialCipher => .cipherRestricted
  | .notLogin => .cipherNotLogin
  | .crypto error => .crypto error

section Rotation

variable {EncString SymmetricKey Random : Type} (ctx : EncryptContext EncString SymmetricKey Random)
  (wire : WireFormat EncString) (keyStore : KeyStore SymmetricKey) (cipher : Cipher EncString)

def itemKey : Except RotationCipherError EncString :=
  match cipher.key with
  | none => .error .cipherWithoutItemKey
  | some key => .ok key

def rotateCipherPassword (organizationId : Uuid) (now : DateTime) (cipher : Cipher EncString)
    (newPassword : String) : StateT Random (Except RotationCipherError) CipherRequestModel := do
  ensure (cipher.organizationId = some organizationId)
    RotationCipherError.cipherOrganizationMismatch
  ensure (cipher.type = .login) RotationCipherError.cipherNotLogin
  ensure (cipher.partialData = none) RotationCipherError.cipherRestricted
  let originalKey ← itemKey cipher
  let rotated ← translateError .fromChangeLoginPasswordError
    (cipher.changeLoginPassword ctx keyStore now newPassword)
  let request ← (rotated.tryIntoRequest wire).mapError RotationCipherError.crypto
  let request := { request with key := some (wire.print originalKey) }
  ensure (request.data = none) RotationCipherError.cipherDataPresent
  return request

def cipherHasPassword (password : String) :
    Except RotationCipherError Bool := do
  let view ← (cipher.decrypt ctx.toDecryptContext
    (keyStore.slot (keyIdentifier cipher.organizationId))).mapError .crypto
  match view.login with
  | none => .error .cipherNotLogin
  | some login => return login.password = some password

end Rotation

end SdkInternal.Pam
