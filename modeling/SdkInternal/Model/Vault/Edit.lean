import SdkInternal.Model.Vault.Request

/-! # Changing an item

A change of the password or of a hidden field is recorded in the history of the item, which keeps
the last few entries. -/

namespace SdkInternal.Vault

open Crypto Shared

/-! ## Keys -/

inductive SymmetricKeySlotId where
  | user
  | organization (id : Uuid)
  deriving DecidableEq

/-- The keys of the store, and the ids of those that have one. -/
structure KeyStore (SymmetricKey : Type) where
  slot : SymmetricKeySlotId → KeySlot SymmetricKey
  keyId : SymmetricKeySlotId → Option String

def keyIdentifier (organizationId : Option Uuid) : SymmetricKeySlotId :=
  match organizationId with
  | some id => .organization id
  | none => .user

/-! ## History -/

def maxPasswordHistoryEntries : ℕ := 5

variable {SymmetricKey : Type}

section History

variable (now : DateTime)

def PasswordHistory.newPassword (oldPassword : String) : PasswordHistory String where
  password := oldPassword
  lastUsedDate := now

def PasswordHistory.newField (fieldName oldValue : String) : PasswordHistory String where
  password := fieldName ++ ": " ++ oldValue
  lastUsedDate := now

/-- The new entries of the history, and the login with its revision date. -/
def Login.detectPasswordChange (self : Login String) (original : Option (Login String)) :
    List (PasswordHistory String) × Login String :=
  match original with
  | none => ([], self)
  | some original =>
    let originalPassword := original.password.getD ""
    let currentPassword := self.password.getD ""
    if originalPassword.isEmpty then
      if currentPassword.isEmpty then ([], self)
      else ([], { self with passwordRevisionDate := some now })
    else if originalPassword = currentPassword then
      ([], { self with passwordRevisionDate := original.passwordRevisionDate })
    else
      ([.newPassword now originalPassword], { self with passwordRevisionDate := some now })

/-- The hidden fields with a name and a value. Of fields with one name the last one counts. -/
def extractHiddenFields (fields : List (Field (Option String))) : Store String String :=
  Store.ofList (fields.filterMap fun field =>
    match field.type, field.name, field.value with
    | .hidden, some name, some value =>
      if name.isEmpty || value.isEmpty then none else some (name, value)
    | _, _, _ => none)

def detectHiddenFieldChanges (fields original : List (Field (Option String))) :
    List (PasswordHistory String) :=
  let currentFields := extractHiddenFields fields
  (extractHiddenFields original).entries.filterMap fun field =>
    if currentFields.lookup field.1 = some field.2 then none
    else some (.newField now field.1 field.2)

def CipherView.updatePasswordHistory (self original : CipherView SymmetricKey) :
    CipherView SymmetricKey :=
  let detected := self.login.map (·.detectPasswordChange now original.login)
  let fieldChanges := (self.fields.map fun fields =>
    detectHiddenFieldChanges now fields (original.fields.getD [])).getD []
  let changes := (((detected.map (·.1)).getD [] ++ fieldChanges).reverse ++
    original.passwordHistory.getD []).take maxPasswordHistoryEntries
  { self with login := detected.map (·.2), passwordHistory := some changes }

end History

/-! ## Changing the password of a login -/

def blobSecurityVersion : ℕ := 2

section Changing

variable {EncString SymmetricKey Random : Type} (ctx : EncryptContext EncString SymmetricKey Random)
  (keyStore : KeyStore SymmetricKey) (organizationId : Option Uuid)

/-- Items of an organization stay in the field-level format. -/
def shouldUseBlobEncryption : Bool :=
  organizationId.isNone && decide (blobSecurityVersion ≤ ctx.securityStateVersion)

def EncryptMode.forOrganization : EncryptMode :=
  if shouldUseBlobEncryption ctx organizationId then .blob else .legacy

inductive ChangeLoginPasswordError where
  | partialCipher
  | notLogin
  | crypto (error : CryptoError)

def CipherView.withPassword (password : String) (self : CipherView SymmetricKey) :
    CipherView SymmetricKey :=
  { self with login := self.login.map fun login => { login with password := some password } }

def Cipher.changeLoginPassword (now : DateTime) (newPassword : String) (self : Cipher EncString) :
    StateT Random (Except ChangeLoginPasswordError) (Cipher EncString) := do
  ensure (self.partialData = none) ChangeLoginPasswordError.partialCipher
  ensure (self.type = .login) ChangeLoginPasswordError.notLogin
  let original ← (self.strictDecrypt ctx.toDecryptContext
    (keyStore.slot (keyIdentifier self.organizationId))).mapError ChangeLoginPasswordError.crypto
  ensure original.login.isSome ChangeLoginPasswordError.notLogin
  let view := (original.withPassword newPassword).updatePasswordHistory now original
  let mode := EncryptMode.forOrganization ctx view.organizationId
  translateError .crypto
    (mode.encryptComposite ctx (keyStore.slot (keyIdentifier view.organizationId)) view)

end Changing

/-! ## Editing an item -/

inductive CipherViewType where
  | login (view : Login String)
  | card (view : Card (Option String))
  | identity (view : Identity (Option String))
  | secureNote (view : SecureNote)
  | sshKey (view : SshKeyView)
  | bankAccount (view : BankAccount (Option String))
  | passport (view : PassportView)
  | driversLicense (view : DriversLicenseView)

def CipherViewType.getCipherType : CipherViewType → CipherType
  | login _ => .login
  | card _ => .card
  | identity _ => .identity
  | secureNote _ => .secureNote
  | sshKey _ => .sshKey
  | bankAccount _ => .bankAccount
  | passport _ => .passport
  | driversLicense _ => .driversLicense

variable (self : CipherView SymmetricKey)

def CipherView.typeData : Option CipherViewType :=
  match self.type with
  | .login => self.login.map .login
  | .secureNote => self.secureNote.map .secureNote
  | .card => self.card.map .card
  | .identity => self.identity.map .identity
  | .sshKey => self.sshKey.map .sshKey
  | .bankAccount => self.bankAccount.map .bankAccount
  | .driversLicense => self.driversLicense.map .driversLicense
  | .passport => self.passport.map .passport

structure CipherEditRequest (SymmetricKey : Type) where
  id : Uuid
  organizationId : Option Uuid
  folderId : Option Uuid
  favorite : Bool
  reprompt : CipherRepromptType
  name : String
  notes : Option String
  fields : List (Field (Option String))
  type : CipherViewType
  revisionDate : DateTime
  archivedDate : Option DateTime
  attachments : List (AttachmentView SymmetricKey)
  key : Option SymmetricKey

/-- `TryFrom<CipherView> for CipherEditRequest`. -/
def CipherView.tryIntoEditRequest : Except MissingFieldError (CipherEditRequest SymmetricKey) :=
  match self.id, self.typeData with
  | none, _ => .error ⟨"id"⟩
  | some _, none => .error ⟨"type_data"⟩
  | some id, some type => .ok
      { id
        organizationId := self.organizationId
        folderId := self.folderId
        favorite := self.favorite
        reprompt := self.reprompt
        key := self.key
        name := self.name
        notes := self.notes
        fields := self.fields.getD []
        type
        attachments := self.attachments.getD []
        revisionDate := self.revisionDate
        archivedDate := self.archivedDate }

def convertRequestToCipherView (now : DateTime) (request : CipherEditRequest SymmetricKey) :
    CipherView SymmetricKey where
  isPartial := false
  id := some request.id
  organizationId := request.organizationId
  folderId := request.folderId
  collectionIds := []
  key := request.key
  name := request.name
  notes := request.notes
  type := request.type.getCipherType
  login := match request.type with | .login view => some view | _ => none
  identity := match request.type with | .identity view => some view | _ => none
  card := match request.type with | .card view => some view | _ => none
  secureNote := match request.type with | .secureNote view => some view | _ => none
  sshKey := match request.type with | .sshKey view => some view | _ => none
  bankAccount := match request.type with | .bankAccount view => some view | _ => none
  driversLicense := match request.type with | .driversLicense view => some view | _ => none
  passport := match request.type with | .passport view => some view | _ => none
  favorite := request.favorite
  reprompt := request.reprompt
  organizationUseTotp := false
  edit := true
  permissions := none
  viewPassword := true
  localData := none
  attachments := some request.attachments
  attachmentDecryptionFailures := none
  fields := some request.fields
  passwordHistory := none
  creationDate := now
  deletedDate := none
  revisionDate := request.revisionDate
  archivedDate := request.archivedDate

inductive EditCipherError where
  | itemNotFound
  | crypto (error : CryptoError)
  | api
  | vaultParse (error : VaultParseError)
  | gatedCipher

/-- The local copies of a client, and the requests that it has sent. -/
structure VaultState (EncString Random : Type) where
  repository : Store Uuid (Cipher EncString)
  sent : List (Uuid × CipherRequestModel)
  random : Random

section Editing

variable {EncString SymmetricKey Random : Type} (ctx : EncryptContext EncString SymmetricKey Random)
  (wire : WireFormat EncString) (keyStore : KeyStore SymmetricKey)

def buildCipherRequest (encryptedFor : Uuid) (now : DateTime)
    (request : CipherEditRequest SymmetricKey) (original : CipherView SymmetricKey) :
    EncryptM Random CipherRequestModel := do
  let view := (convertRequestToCipherView now request).updatePasswordHistory now original
  let mode := EncryptMode.forOrganization ctx request.organizationId
  let cipher ← mode.encryptComposite ctx (keyStore.slot (keyIdentifier view.organizationId)) view
  let cipherRequest ← cipher.tryIntoRequest wire
  return { cipherRequest with
    encryptedFor := some encryptedFor
    encryptedByKeyId := keyStore.keyId (keyIdentifier view.organizationId) }

variable (server : Uuid → CipherRequestModel → Option CipherResponseModel)

/-- The server answers a request, or the call fails. -/
def submitCipherEdit (encryptedFor : Uuid) (now : DateTime)
    (request : CipherEditRequest SymmetricKey) (original : CipherView SymmetricKey)
    (storedCipher : Cipher EncString) (useStrictDecryption : Bool)
    (state : VaultState EncString Random) :
    Except EditCipherError (CipherView SymmetricKey) × VaultState EncString Random :=
  match buildCipherRequest ctx wire keyStore encryptedFor now request original state.random with
  | .error error => (.error (.crypto error), state)
  | .ok (cipherRequest, random) =>
    let state := { state with random, sent := state.sent ++ [(request.id, cipherRequest)] }
    match server request.id cipherRequest with
    | none => (.error .api, state)
    | some response =>
      match response.mergeWithCipher wire (some storedCipher) with
      | .error error => (.error (.vaultParse error), state)
      | .ok cipher =>
        -- A response never replaces a restricted copy by a full one.
        let state :=
          if storedCipher.partialData.isNone || cipher.partialData.isSome then
            { state with repository := state.repository.insert request.id cipher }
          else state
        ((cipher.decryptWith ctx.toDecryptContext
          (keyStore.slot (keyIdentifier cipher.organizationId))
          useStrictDecryption).mapError .crypto, state)

/-- The original is the local copy, which must not be restricted. -/
def editCipher (encryptedFor : Uuid) (now : DateTime) (request : CipherEditRequest SymmetricKey)
    (useStrictDecryption : Bool) (state : VaultState EncString Random) :
    Except EditCipherError (CipherView SymmetricKey) × VaultState EncString Random :=
  match state.repository.lookup request.id with
  | none => (.error .itemNotFound, state)
  | some originalCipher =>
    if originalCipher.partialData.isSome then (.error .gatedCipher, state)
    else
      match originalCipher.decryptWith ctx.toDecryptContext
          (keyStore.slot (keyIdentifier originalCipher.organizationId)) useStrictDecryption with
      | .error error => (.error (.crypto error), state)
      | .ok original =>
        submitCipherEdit ctx wire keyStore server encryptedFor now request original
          originalCipher useStrictDecryption state

end Editing

end SdkInternal.Vault
