import SdkInternal.Model.Send.Send
import SdkInternal.Model.Vault.Folder
import SdkInternal.Model.Vault.Request

/-! # Re-encryption of the data of a user

When the key of a user is rotated, folders and sends are decrypted and encrypted again. A sealed
item with a key of its own gets this key wrapped again, and every other item is sealed. -/

namespace SdkInternal.KeyRotation

open Crypto Shared Vault Sends

inductive DataReencryptionError where
  | decryption
  | encryption
  | dataConversion
  | cipherKeyRewrap

structure AccountDataRequestModel where
  ciphers : Option (List CipherWithIdRequestModel)
  folders : Option (List FolderWithIdRequestModel)
  sends : Option (List SendWithIdRequestModel)

abbrev ReencryptM (Random : Type) := StateT Random (Except DataReencryptionError)

section

variable {EncString SymmetricKey Random : Type}
  (ctx : SendContext EncString SymmetricKey Random) (currentKey newKey : KeySlot SymmetricKey)

def reencryptFolder (folder : Folder EncString) : ReencryptM Random (Folder EncString) := do
  let view ← (folder.decrypt ctx.toDecryptContext currentKey).mapError
    fun _ => DataReencryptionError.decryption
  translateError (fun _ => .encryption) (view.encryptComposite ctx.toEncryptContext newKey)

variable (cipher : Cipher EncString)

def rewrap : ReencryptM Random (Cipher EncString) :=
  translateError (fun _ => .cipherKeyRewrap)
    (cipher.rewrapCipherKey ctx.toEncryptContext currentKey newKey)

def decryptForBlobUpgrade : ReencryptM Random (CipherView SymmetricKey) :=
  if cipher.key.isSome then do
    let rewrapped ← rewrap ctx currentKey newKey cipher
    (rewrapped.decrypt ctx.toDecryptContext newKey).mapError
      fun _ => DataReencryptionError.decryption
  else do
    let view ← (cipher.decrypt ctx.toDecryptContext currentKey).mapError
      fun _ => DataReencryptionError.decryption
    let loaded ← translateError (fun _ => .encryption) (view.loadCipherKeySlot ctx.toEncryptContext)
    return loaded.2

def reencryptCipher : ReencryptM Random (Cipher EncString) :=
  if cipher.isBlobEncrypted ctx.toDecryptContext && cipher.key.isSome then
    rewrap ctx currentKey newKey cipher
  else do
    let view ← decryptForBlobUpgrade ctx currentKey newKey cipher
    translateError (fun _ => .encryption)
      (EncryptMode.blob.encryptComposite ctx.toEncryptContext newKey view)

def reencryptSend (send : Send EncString) : ReencryptM Random (Send EncString) := do
  let view ← (send.decrypt ctx currentKey).mapError fun _ => DataReencryptionError.decryption
  translateError (fun _ => .encryption) (view.encryptComposite ctx newKey)

def reencryptFolders (folders : List (Folder EncString)) :
    ReencryptM Random (List (Folder EncString)) :=
  traverse (reencryptFolder ctx currentKey newKey) folders

def reencryptCiphers (ciphers : List (Cipher EncString)) :
    ReencryptM Random (List (Cipher EncString)) :=
  traverse (reencryptCipher ctx currentKey newKey) ciphers

def reencryptSends (sends : List (Send EncString)) : ReencryptM Random (List (Send EncString)) :=
  traverse (reencryptSend ctx currentKey newKey) sends

variable (wire : WireFormat EncString) (encryptedByKeyId : Option String)

/-- The request for an item. Whom it is encrypted for is not used in a rotation. -/
def toCipherRequest (cipher : Cipher EncString) :
    Except DataReencryptionError CipherWithIdRequestModel :=
  (EncryptionContext.tryIntoWithId wire { encryptedFor := 0, encryptedByKeyId, cipher }).mapError
    fun _ => .dataConversion

def toCipherRequests (ciphers : List (Cipher EncString)) :
    Except DataReencryptionError (List CipherWithIdRequestModel) :=
  traverse (toCipherRequest wire encryptedByKeyId) ciphers

/-- The result is absent if the conversion of a send panics. `symmetricKeyId` is the id of a
key. -/
def reencryptData (symmetricKeyId : KeySlot SymmetricKey → Option String)
    (folders : List (Folder EncString)) (ciphers : List (Cipher EncString))
    (sends : List (Send EncString)) : ReencryptM Random (Option AccountDataRequestModel) := do
  let reencryptedFolders ← reencryptFolders ctx currentKey newKey folders
  let reencryptedCiphers ← reencryptCiphers ctx currentKey newKey ciphers
  let reencryptedSends ← reencryptSends ctx currentKey newKey sends
  let cipherRequests ← toCipherRequests wire (symmetricKeyId newKey) reencryptedCiphers
  return (reencryptedSends.mapM (Send.toRequest wire)).map fun sendRequests =>
    { folders := some (reencryptedFolders.map (·.toRequest wire))
      ciphers := some cipherRequests
      sends := some sendRequests }

end

end SdkInternal.KeyRotation
