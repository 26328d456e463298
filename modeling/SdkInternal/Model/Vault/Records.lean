import Mathlib.Tactic.DeriveTraversable
import SdkInternal.Shared.Traversal

/-! # Records of a vault item

A record is parametrised by its texts, so that one type describes both the encrypted record and
its view. A record all of whose texts are optional is parametrised by the optional text. -/

namespace SdkInternal.Vault

open Shared Functor

abbrev Uuid := ℕ

/-- An instant, in nanoseconds since the epoch. -/
abbrev DateTime := ℤ

abbrev NaiveDate := ℤ

inductive CipherType where
  | login
  | secureNote
  | card
  | identity
  | sshKey
  | bankAccount
  | driversLicense
  | passport
  deriving DecidableEq

inductive CipherRepromptType where
  | none
  | password

structure CipherPermissions where
  (delete restore : Bool)

structure LocalData where
  (lastUsedDate lastLaunched : Option DateTime)

/-! ## Logins -/

inductive UriMatchType where
  | domain
  | host
  | startsWith
  | exact
  | regularExpression
  | never
  deriving DecidableEq

structure LoginUri (Text : Type) where
  uri : Option Text
  matchType : Option UriMatchType
  uriChecksum : Option Text
  deriving Traversable

instance : LawfulFunctor LoginUri where
  map_const := rfl
  id_map := by
    rintro α ⟨uri, matchType, checksum⟩
    show LoginUri.mk (id <$> uri) matchType (id <$> checksum) = _
    rw [id_map, id_map]
  comp_map := by
    rintro α β γ g h ⟨uri, matchType, checksum⟩
    show LoginUri.mk ((h ∘ g) <$> uri) matchType ((h ∘ g) <$> checksum) = _
    rw [comp_map, comp_map]
    rfl

deriving instance LawfulTraversable for LoginUri

structure Fido2Credential (Text : Type) where
  (credentialId keyType keyAlgorithm keyCurve keyValue rpId : Text)
  (userHandle userName : Option Text)
  counter : Text
  (rpName userDisplayName : Option Text)
  discoverable : Text
  creationDate : DateTime
  deriving Traversable

instance : LawfulFunctor Fido2Credential where
  map_const := rfl
  id_map := by
    rintro α ⟨credentialId, keyType, keyAlgorithm, keyCurve, keyValue, rpId, userHandle, userName,
      counter, rpName, displayName, discoverable, creationDate⟩
    show Fido2Credential.mk credentialId keyType keyAlgorithm keyCurve keyValue rpId
      (id <$> userHandle) (id <$> userName) counter (id <$> rpName) (id <$> displayName)
      discoverable creationDate = _
    rw [id_map, id_map, id_map, id_map]
  comp_map := by
    rintro α β γ g h ⟨credentialId, keyType, keyAlgorithm, keyCurve, keyValue, rpId, userHandle,
      userName, counter, rpName, displayName, discoverable, creationDate⟩
    show Fido2Credential.mk (h (g credentialId)) (h (g keyType)) (h (g keyAlgorithm))
      (h (g keyCurve)) (h (g keyValue)) (h (g rpId)) ((h ∘ g) <$> userHandle)
      ((h ∘ g) <$> userName) (h (g counter)) ((h ∘ g) <$> rpName) ((h ∘ g) <$> displayName)
      (h (g discoverable)) creationDate = _
    rw [comp_map, comp_map, comp_map, comp_map]
    rfl

deriving instance LawfulTraversable for Fido2Credential

structure Login (Text : Type) where
  (username password : Option Text)
  passwordRevisionDate : Option DateTime
  uris : Option (List (LoginUri Text))
  totp : Option Text
  (autofillOnPageLoad httpAuthenticationEnabled : Option Bool)
  fido2Credentials : Option (List (Fido2Credential Text))
  deriving Traversable

instance : LawfulFunctor Login where
  map_const := rfl
  id_map := by
    rintro α ⟨username, password, revisionDate, uris, totp, autofill, http, credentials⟩
    show Login.mk (id <$> username) (id <$> password) revisionDate
      (map (map (map id)) uris) (id <$> totp) autofill http
      (map (map (map id)) credentials) = _
    rw [id_map, id_map, id_map, nested_id_map, nested_id_map]
  comp_map := by
    rintro α β γ g h ⟨username, password, revisionDate, uris, totp, autofill, http, credentials⟩
    show Login.mk ((h ∘ g) <$> username) ((h ∘ g) <$> password) revisionDate
      (map (map (map (h ∘ g))) uris) ((h ∘ g) <$> totp) autofill http
      (map (map (map (h ∘ g))) credentials) = _
    rw [comp_map, comp_map, comp_map, nested_comp_map, nested_comp_map]
    rfl

deriving instance LawfulTraversable for Login

/-! ## Records of optional texts -/

structure Card (Text : Type) where
  (cardholderName expMonth expYear code brand number : Text)
  deriving DecidableEq, Traversable, LawfulTraversable

structure Identity (Text : Type) where
  (title firstName middleName lastName address1 address2 address3 city state postalCode
    country company email phone ssn username passportNumber licenseNumber : Text)
  deriving DecidableEq, Traversable, LawfulTraversable

structure BankAccount (Text : Type) where
  (bankName nameOnAccount accountType accountNumber routingNumber branchNumber pin swiftCode
    iban bankContactPhone : Text)
  deriving DecidableEq, Traversable, LawfulTraversable

structure DriversLicense (Text : Type) where
  (firstName middleName lastName dateOfBirth licenseNumber issuingCountry issuingState
    issueDate expirationDate issuingAuthority licenseClass : Text)
  deriving DecidableEq, Traversable, LawfulTraversable

structure DriversLicenseView where
  (firstName middleName lastName : Option String)
  dateOfBirth : Option NaiveDate
  (licenseNumber issuingCountry issuingState : Option String)
  (issueDate expirationDate : Option NaiveDate)
  (issuingAuthority licenseClass : Option String)

structure Passport (Text : Type) where
  (surname givenName dateOfBirth sex birthPlace nationality issuingCountry passportNumber
    passportType nationalIdentificationNumber issuingAuthority issueDate expirationDate : Text)
  deriving DecidableEq, Traversable, LawfulTraversable

structure PassportView where
  (surname givenName : Option String)
  dateOfBirth : Option NaiveDate
  (sex birthPlace nationality issuingCountry passportNumber passportType
    nationalIdentificationNumber issuingAuthority : Option String)
  (issueDate expirationDate : Option NaiveDate)

/-! ## Custom fields, history, notes, SSH keys and attachments -/

inductive FieldType where
  | text
  | hidden
  | boolean
  | linked
  deriving DecidableEq

inductive LoginLinkedIdType where
  | username
  | password
  deriving DecidableEq

inductive CardLinkedIdType where
  | cardholderName
  | expMonth
  | expYear
  | code
  | brand
  | number
  deriving DecidableEq

inductive IdentityLinkedIdType where
  | title
  | middleName
  | address1
  | address2
  | address3
  | city
  | state
  | postalCode
  | country
  | company
  | email
  | phone
  | ssn
  | username
  | passportNumber
  | licenseNumber
  | firstName
  | lastName
  | fullName
  deriving DecidableEq

inductive LinkedIdType where
  | login (id : LoginLinkedIdType)
  | card (id : CardLinkedIdType)
  | identity (id : IdentityLinkedIdType)
  deriving DecidableEq

structure Field (Text : Type) where
  (name value : Text)
  type : FieldType
  linkedId : Option LinkedIdType
  deriving DecidableEq, Traversable, LawfulTraversable

structure PasswordHistory (Text : Type) where
  password : Text
  lastUsedDate : DateTime
  deriving DecidableEq, Traversable, LawfulTraversable

inductive SecureNoteType where
  | generic
  deriving DecidableEq

structure SecureNote where
  type : SecureNoteType
  deriving DecidableEq

structure SshKey (EncString : Type) where
  privateKey : EncString
  (publicKey fingerprint : Option EncString)

structure SshKeyView where
  (privateKey publicKey fingerprint : String)
  deriving DecidableEq

structure Attachment (EncString : Type) where
  (id url size sizeName : Option String)
  (fileName key : Option EncString)

structure AttachmentView (SymmetricKey : Type) where
  (id url size sizeName fileName : Option String)
  key : Option SymmetricKey

end SdkInternal.Vault
