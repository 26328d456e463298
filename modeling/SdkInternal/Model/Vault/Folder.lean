import SdkInternal.Model.Vault.Wire

/-! # Folders -/

namespace SdkInternal.Vault

open Crypto

structure Folder (EncString : Type) where
  id : Option Uuid
  name : EncString
  revisionDate : DateTime

structure FolderView where
  id : Option Uuid
  name : String
  revisionDate : DateTime

structure FolderWithIdRequestModel where
  name : String
  id : Option Uuid

section

variable {EncString SymmetricKey Random : Type}

/-- A name that cannot be read is shown as empty. -/
def Folder.decrypt (ctx : DecryptContext EncString SymmetricKey) (key : KeySlot SymmetricKey)
    (self : Folder EncString) : Except CryptoError FolderView :=
  .ok { id := self.id
        name := (ctx.decryptIn key self.name).toOption.getD ""
        revisionDate := self.revisionDate }

def FolderView.encryptComposite (ctx : EncryptContext EncString SymmetricKey Random)
    (key : KeySlot SymmetricKey) (self : FolderView) :
    StateT Random (Except CryptoError) (Folder EncString) := do
  return { id := self.id, name := ← ctx.encryptIn key self.name, revisionDate := self.revisionDate }

def Folder.toRequest (wire : WireFormat EncString) (self : Folder EncString) :
    FolderWithIdRequestModel where
  name := wire.print self.name
  id := self.id

end

end SdkInternal.Vault
