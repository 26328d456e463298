import SdkInternal.Model.Vault.Wire
import SdkInternal.Shared.Delimited
import Mathlib.Algebra.Order.Ring.Int

/-! # Sends

A send has a secret of its own, which is stored under the key of the user. The key that is derived
from the secret encrypts the contents. -/

namespace SdkInternal.Sends

open Crypto Shared Vault

def sendIterations : ℕ := 100000

def sendKeyLen : ℕ := 16

inductive SendType where
  | text
  | file
  | item

inductive AuthType where
  | email
  | password
  | none

inductive SendEncryptionType where
  | v1

def defaultSendEncryption : SendEncryptionType := .v1

/-! ## Records -/

structure SendFile (Text : Type) where
  id : Option String
  fileName : Text
  (size sizeName : Option String)

structure SendText (Text : Type) where
  text : Option Text
  hidden : Bool

structure SendItemMetadata where
  itemId : Uuid

/-- The contents of an item, sealed under the key of the send. -/
structure SendItem where
  encryptionVersion : SendEncryptionType
  data : String
  metadata : SendItemMetadata

structure SendItemView (SymmetricKey : Type) where
  data : CipherView SymmetricKey

/-- What is stored in the clear, and is the same in a send and in its view. -/
structure SendMetadata where
  id : Option Uuid
  accessId : Option String
  type : SendType
  maxAccessCount : Option UInt32
  accessCount : UInt32
  (disabled hideEmail : Bool)
  (revisionDate deletionDate : DateTime)
  expirationDate : Option DateTime
  authType : AuthType

structure Send (EncString : Type) extends SendMetadata where
  name : EncString
  notes : Option EncString
  key : EncString
  password : Option String
  file : Option (SendFile EncString)
  text : Option (SendText EncString)
  data : Option SendItem
  /-- Addresses, separated by commas. -/
  emails : Option String

structure SendView (SymmetricKey : Type) extends SendMetadata where
  name : String
  (notes key newPassword : Option String)
  hasPassword : Bool
  file : Option (SendFile String)
  text : Option (SendText String)
  data : Option (SendItemView SymmetricKey)
  emails : List String

/-- `char::is_whitespace`. -/
def isWhitespace (c : Char) : Bool :=
  let code := c.toNat
  (9 ≤ code && code ≤ 13) || code == 0x20 || code == 0x85 || code == 0xA0 || code == 0x1680 ||
    (0x2000 ≤ code && code ≤ 0x200A) || code == 0x2028 || code == 0x2029 || code == 0x202F ||
    code == 0x205F || code == 0x3000

def splitEmails (emails : Option String) : List String :=
  (Delimited.parts isWhitespace ',' (emails.getD "").toList).map String.ofList

def joinEmails (emails : List String) : Option String :=
  if emails.isEmpty then none
  else some (String.ofList (Delimited.join ',' (emails.map String.toList)))

/-! ## Contexts -/

/-- A context of the key store, with what sends use of the crypto crate besides. -/
structure SendContext (EncString SymmetricKey Random : Type) extends
    EncryptContext EncString SymmetricKey Random where
  decryptBytes : SymmetricKey → EncString → Except CryptoError (List UInt8)
  encryptBytes : SymmetricKey → List UInt8 → StateT Random (Except CryptoError) EncString
  generateRandomBytes : ℕ → StateT Random (Except CryptoError) (List UInt8)
  /-- The key of a secret, a name and an optional info. -/
  deriveShareableKey : List UInt8 → String → Option String → SymmetricKey
  pbkdf2 : List UInt8 → List UInt8 → ℕ → List UInt8

section

variable {EncString SymmetricKey Random : Type} (ctx : SendContext EncString SymmetricKey Random)

structure SendContext.Lawful : Prop extends ctx.toEncryptContext.Lawful where
  decryptBytes_encryptBytes : ∀ {key bytes random enc random'},
    ctx.encryptBytes key bytes random = .ok (enc, random') → ctx.decryptBytes key enc = .ok bytes

variable (slot : KeySlot SymmetricKey)

def SendContext.decryptBytesIn (value : EncString) :
    Except CryptoError (List UInt8) := do
  ctx.decryptBytes (← slot) value

def SendContext.encryptBytesIn (bytes : List UInt8) :
    StateT Random (Except CryptoError) EncString := do
  ctx.encryptBytes (← slot) bytes

/-- `Send::derive_shareable_key`. -/
def deriveSendKey (key : List UInt8) : Except CryptoError SymmetricKey :=
  if key.length = sendKeyLen then .ok (ctx.deriveShareableKey key "send" (some "send"))
  else .error .invalidKeyLen

end

/-! ## Decryption -/

section

variable {EncString : Type} (dec : EncString → Except CryptoError String)

def SendText.decrypt (self : SendText EncString) : Except CryptoError (SendText String) := do
  return { text := ← traverse dec self.text, hidden := self.hidden }

def SendFile.decrypt (self : SendFile EncString) : Except CryptoError (SendFile String) := do
  return { id := self.id, fileName := ← dec self.fileName
           size := self.size, sizeName := self.sizeName }

end

section Decryption

variable {EncString SymmetricKey Random : Type} (ctx : SendContext EncString SymmetricKey Random)

def SendItem.decrypt (key : KeySlot SymmetricKey) (self : SendItem) :
    Except CryptoError (SendItemView SymmetricKey) := do
  let data ← CipherView.unsealBlobForItemSends ctx.toDecryptContext key self.data
  return { data := { data with id := some self.metadata.itemId } }

/-- What cannot be read of the contents is left out. -/
def Send.decrypt (key : KeySlot SymmetricKey) (self : Send EncString) :
    Except CryptoError (SendView SymmetricKey) := do
  let k ← ctx.decryptBytesIn key self.key
  let sendKey ← deriveSendKey ctx k
  let dec := ctx.decrypt sendKey
  return { self.toSendMetadata with
    name := (dec self.name).toOption.getD ""
    notes := decryptOrNone dec self.notes
    key := some (String.ofList (Base64.encodeUrl k))
    newPassword := none
    hasPassword := self.password.isSome
    file := (traverse (SendFile.decrypt dec) self.file).toOption.join
    text := (traverse (SendText.decrypt dec) self.text).toOption.join
    data := (traverse (SendItem.decrypt ctx (.ok sendKey)) self.data).toOption.join
    emails := splitEmails self.emails }

end Decryption

/-! ## Encryption -/

section

variable {EncString Random : Type} (enc : String → EncryptM Random EncString)

def SendText.encryptComposite (self : SendText String) :
    EncryptM Random (SendText EncString) := do
  return { text := ← traverse enc self.text, hidden := self.hidden }

def SendFile.encryptComposite (self : SendFile String) :
    EncryptM Random (SendFile EncString) := do
  return { id := self.id, fileName := ← enc self.fileName
           size := self.size, sizeName := self.sizeName }

end

section Encryption

variable {EncString SymmetricKey Random : Type} (ctx : SendContext EncString SymmetricKey Random)

def SendItemView.encryptComposite (key : KeySlot SymmetricKey)
    (self : SendItemView SymmetricKey) : EncryptM Random SendItem := do
  let data ← self.data.sealBlobForItemSends ctx.toEncryptContext key
  let itemId ← required self.data.id "id"
  return { encryptionVersion := defaultSendEncryption, data, metadata := { itemId } }

def parseSendKey (key : String) : Except CryptoError (List UInt8) :=
  match Base64.decodeUrl key.toList with
  | none => .error .invalidKey
  | some k => .ok k

/-- The secret of the view. One is generated for a new send that has none. -/
def SendView.secret (self : SendView SymmetricKey) : EncryptM Random (List UInt8) :=
  match self.key, self.id with
  | some key, _ => parseSendKey key
  | none, none => ctx.generateRandomBytes sendKeyLen
  | none, some _ => throw .invalidKey

/-- The stored hash of a password is not in a view, so that without a new password none is
written. -/
def SendView.encryptComposite (key : KeySlot SymmetricKey) (self : SendView SymmetricKey) :
    EncryptM Random (Send EncString) := do
  let k ← self.secret ctx
  let sendKey ← deriveSendKey ctx k
  let enc := ctx.encrypt sendKey
  let name ← enc self.name
  let notes ← traverse enc self.notes
  let encryptedKey ← ctx.encryptBytesIn key k
  let file ← traverse (SendFile.encryptComposite enc) self.file
  let text ← traverse (SendText.encryptComposite enc) self.text
  let data ← traverse (SendItemView.encryptComposite ctx (.ok sendKey)) self.data
  return { self.toSendMetadata with
    name, notes
    key := encryptedKey
    password := self.newPassword.map fun password =>
      String.ofList (Base64.encode (ctx.pbkdf2 password.toUTF8.toList k sendIterations))
    file, text, data
    emails := joinEmails self.emails }

end Encryption

/-! ## Requests -/

/-- `str::parse::<i64>`. -/
def parseI64 (text : String) : Option Int64 :=
  let (negative, digits) := match text.toList with
    | '-' :: digits => (true, digits)
    | '+' :: digits => (false, digits)
    | digits => (false, digits)
  if digits.isEmpty || !digits.all Char.isDigit then none
  else
    let magnitude : ℕ :=
      digits.foldl (fun value digit => 10 * value + (digit.toNat - '0'.toNat)) 0
    let value : ℤ := if negative then -magnitude else magnitude
    if -2 ^ 63 ≤ value ∧ value < 2 ^ 63 then some (Int64.ofInt value) else none

structure SendTextModel where
  text : Option String
  hidden : Option Bool

structure SendFileModel where
  (id fileName size sizeName : Option String)

structure SendDataModel where
  encryptionVersion : Option (ApiEnum SendEncryptionType)
  data : Option String
  itemId : Uuid

structure SendWithIdRequestModel where
  type : Option (ApiEnum SendType)
  authType : Option (ApiEnum AuthType)
  fileLength : Option Int64
  (name notes : Option String)
  key : String
  maxAccessCount : Option Int32
  expirationDate : Option String
  deletionDate : String
  file : Option SendFileModel
  text : Option SendTextModel
  data : Option SendDataModel
  (password emails : Option String)
  disabled : Bool
  hideEmail : Option Bool
  id : Uuid

section Printing

variable {EncString : Type} (wire : WireFormat EncString)

def SendText.toModel (self : SendText EncString) : SendTextModel where
  text := self.text.map wire.print
  hidden := some self.hidden

def SendFile.toModel (self : SendFile EncString) : SendFileModel where
  id := self.id
  fileName := some (wire.print self.fileName)
  size := self.size
  sizeName := self.sizeName

def SendItem.toModel (self : SendItem) : SendDataModel where
  encryptionVersion := some (.known self.encryptionVersion)
  data := some self.data
  itemId := self.metadata.itemId

/-- `From<Send> for SendWithIdRequestModel`, which panics for a send without an id. -/
def Send.toRequest (self : Send EncString) : Option SendWithIdRequestModel :=
  self.id.map fun id =>
    { type := some (.known self.type)
      authType := some (.known self.authType)
      fileLength := self.file.bind fun file => file.size.bind parseI64
      name := some (wire.print self.name)
      notes := self.notes.map wire.print
      key := wire.print self.key
      maxAccessCount := self.maxAccessCount.map UInt32.toInt32
      expirationDate := self.expirationDate.map wire.toRfc3339
      deletionDate := wire.toRfc3339 self.deletionDate
      file := self.file.map (·.toModel wire)
      text := self.text.map (·.toModel wire)
      data := self.data.map (·.toModel)
      password := self.password
      emails := self.emails
      disabled := self.disabled
      hideEmail := some self.hideEmail
      id }

end Printing

end SdkInternal.Sends
