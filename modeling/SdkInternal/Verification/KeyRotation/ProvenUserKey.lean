import Mathlib.Control.Fold
import SdkInternal.Model.KeyRotation.Regeneration
import SdkInternal.Verification.KeyRotation.UnreadableValues

/-! # The key of a user behind a regeneration

Before an undecryptable private key is replaced, one personal item is decrypted into its view. The
item's own key and the contents of a sealed item have to open for that. The values of an item in
the field-level format do not: what cannot be read is left out of the view. -/

namespace SdkInternal.KeyRotation

open Crypto Shared Vault Option Traversable Traversable Cipher

variable {EncString SymmetricKey PrivateKey : Type}

/-! ## Evidence -/

/-- The encrypted values that the records of an item store. -/
inductive StoredValue (cipher : Cipher EncString) : EncString → Prop
  | name {value} (h : cipher.name = some value) : StoredValue cipher value
  | notes {value} (h : cipher.notes = some value) : StoredValue cipher value
  | login {login value} (h : cipher.login = some login)
      (hvalue : value ∈ toList login) : StoredValue cipher value
  | identity {identity value} (h : cipher.identity = some identity)
      (hvalue : some value ∈ toList identity) : StoredValue cipher value
  | card {card value} (h : cipher.card = some card)
      (hvalue : some value ∈ toList card) : StoredValue cipher value
  | sshKey {sshKey value} (h : cipher.sshKey = some sshKey)
      (hvalue : value ∈ sshKey.privateKey ::
        (sshKey.publicKey.toList ++ sshKey.fingerprint.toList)) : StoredValue cipher value
  | bankAccount {account value} (h : cipher.bankAccount = some account)
      (hvalue : some value ∈ toList account) : StoredValue cipher value
  | driversLicense {license value} (h : cipher.driversLicense = some license)
      (hvalue : some value ∈ toList license) : StoredValue cipher value
  | passport {passport value} (h : cipher.passport = some passport)
      (hvalue : some value ∈ toList passport) : StoredValue cipher value
  | field {fields field value} (h : cipher.fields = some fields) (hfield : field ∈ fields)
      (hvalue : some value ∈ toList field) : StoredValue cipher value
  | passwordHistory {history entry} (h : cipher.passwordHistory = some history)
      (hentry : entry ∈ history) : StoredValue cipher entry.password
  | attachment {attachments attachment value} (h : cipher.attachments = some attachments)
      (hattachment : attachment ∈ attachments) (hvalue : attachment.fileName = some value) :
      StoredValue cipher value

section Evidence

variable (ctx : DecryptContext EncString SymmetricKey) (user : KeySlot SymmetricKey)
  (cipher : Cipher EncString)

/-- A value of the item or the key of one of its attachments decrypts with the key of the user. -/
def ValueDecrypts : Prop :=
  (∃ value text, StoredValue cipher value ∧ ctx.decryptIn user value = .ok text) ∨
  ∃ attachments attachment wrapped key, cipher.attachments = some attachments ∧
    attachment ∈ attachments ∧ attachment.key = some wrapped ∧ ctx.unwrapIn user wrapped = .ok key

/-- Something of the item was decrypted with the key of the user. -/
inductive Authenticated : Prop
  | itemKey {wrapped key} (hkey : cipher.key = some wrapped)
      (h : ctx.unwrapIn user wrapped = .ok key)
  | contents {sealedBlob blob} (hkey : cipher.key = none)
      (hsealed : tryParseBlob ctx cipher = some sealedBlob)
      (h : sealedBlob.unseal ctx user = .ok blob)
  | value (hkey : cipher.key = none) (h : ValueDecrypts ctx user cipher)

/-- The view of the item cannot be had without the key of the user, or the key of the user reads
one of its values. -/
def Conclusive : Prop :=
  cipher.key.isSome ∨ cipher.isBlobEncrypted ctx ∨ cipher.partialData.isSome ∨
    ValueDecrypts ctx user cipher

variable {ctx user cipher}

theorem authenticated_of_decrypt {view : CipherView SymmetricKey}
    (hpersonal : cipher.organizationId = none) (h : cipher.decrypt ctx user = .ok view)
    (hconclusive : Conclusive ctx user cipher) : Authenticated ctx user cipher := by
  have hunrestricted := unrestricted_of_decrypt hpersonal h
  simp only [decrypt, decryptWith, hunrestricted, Bool.false_eq_true, if_false] at h
  cases hkey : cipher.key with
  | some wrapped =>
    have hunwraps : ∃ key, ctx.unwrapIn user wrapped = .ok key := by
      cases hblob : tryParseBlob ctx cipher with
      | some sealedBlob =>
        simp only [hblob, decryptBlobCipher, hkey, decryptCipherKey, bind_eq_ok_iff] at h
        obtain ⟨-, ⟨key, hunwrap, -⟩, -⟩ := h
        exact ⟨key, hunwrap⟩
      | none =>
        simp only [hblob, lenientDecryptCipherView, hkey, decryptCipherKey, bind_eq_ok_iff] at h
        obtain ⟨-, ⟨key, hunwrap, -⟩, -⟩ := h
        exact ⟨key, hunwrap⟩
    obtain ⟨key, hunwrap⟩ := hunwraps
    exact .itemKey hkey hunwrap
  | none =>
    cases hblob : tryParseBlob ctx cipher with
    | some sealedBlob =>
      simp only [hblob, decryptBlobCipher, hkey, decryptCipherKey, bind_eq_ok_iff] at h
      obtain ⟨slot, hslot, blob, hopens, -⟩ := h
      cases hslot
      exact .contents hkey hblob hopens
    | none =>
      -- The lenient view needs nothing, so the evidence is the value that decrypts.
      obtain hown | hsealed | hrestricted | hvalue := hconclusive
      · simp [hkey] at hown
      · simp [isBlobEncrypted, hblob] at hsealed
      · simp [hunrestricted] at hrestricted
      · exact .value hkey hvalue

theorem exists_decrypt_of_not_conclusive (h : ¬Conclusive ctx user cipher) :
    ∃ view, cipher.decrypt ctx user = .ok view := by
  simp only [Conclusive, isBlobEncrypted, not_or, Bool.not_eq_true,
    isSome_eq_false_iff, isNone_iff_eq_none] at h
  obtain ⟨hkey, hblob, hunrestricted, -⟩ := h
  simp only [decrypt, decryptWith, hunrestricted, hblob, Bool.false_eq_true,
    if_false, lenientDecryptCipherView, hkey, decryptCipherKey]
  exact ⟨_, rfl⟩

theorem Authenticated.conclusive (h : Authenticated ctx user cipher) :
    Conclusive ctx user cipher := by
  cases h with
  | itemKey hkey _ => exact .inl (by simp [hkey])
  | contents _ hsealed _ => exact .inr (.inl (by simp [isBlobEncrypted, hsealed]))
  | value _ hvalue => exact .inr (.inr (.inr hvalue))

theorem authenticated_of_isOk_iff (hpersonal : cipher.organizationId = none) :
    ((cipher.decrypt ctx user).isOk = true → Authenticated ctx user cipher) ↔
      Conclusive ctx user cipher := by
  constructor
  · intro hsound
    by_contra hconclusive
    obtain ⟨view, hview⟩ := exists_decrypt_of_not_conclusive hconclusive
    have hauthenticated := hsound (by rw [hview]; rfl)
    exact hconclusive hauthenticated.conclusive
  · intro hconclusive hok
    cases hview : cipher.decrypt ctx user with
    | error error => rw [hview] at hok; cases hok
    | ok view => exact authenticated_of_decrypt hpersonal hview hconclusive

end Evidence

/-! ## The decision -/

section

variable (ctx : KeyPairContext EncString SymmetricKey PrivateKey) (user : KeySlot SymmetricKey)

/-- The server returns a pair, and its private key does not unwrap with the key of the user. -/
structure PrivateKeyUndecryptable (userKey : SymmetricKey) (encrypted : EncString)
    (privateKey : String) : Prop where
  isV1 : ctx.isV1SymmetricKey userKey = true
  parses : ctx.parseStrict privateKey = some encrypted
  fails : ∃ error, ctx.unwrapPrivateKey userKey encrypted = .error error

variable (ciphers : List (Cipher EncString))

def providedCipher : Option (Cipher EncString) :=
  ciphers.find? (·.organizationId.isNone)

variable (wire : WireFormat EncString) (getAll : Option (Option (List CipherDetailsResponseModel)))

def fetchedCipher :
    Option (Cipher EncString) := do
  let data ← getAll
  let response ← (data.getD []).find? (·.organizationId.isNone)
  (response.tryInto wire).toOption

variable {ctx user}

theorem regenerates_eq {userKey : SymmetricKey} {encrypted : EncString} {privateKey : String}
    (h : PrivateKeyUndecryptable ctx userKey encrypted privateKey) (publicKey : String)
    (userKeyValid : Bool) :
    regenerates ctx (.ok userKey) (.found (some publicKey) (some privateKey)) userKeyValid =
      .ok userKeyValid := by
  obtain ⟨error, hfails⟩ := h.fails
  simp [regenerates, checkKeyPair, h.isV1, h.parses, hfails, bind, Except.bind, pure, Except.pure]

theorem isUserKeyValid_eq :
    isUserKeyValid ctx user ciphers = (providedCipher ciphers).any fun cipher =>
      (cipher.decrypt ctx.toDecryptContext user).isOk := by
  unfold isUserKeyValid providedCipher
  cases ciphers.find? (·.organizationId.isNone) <;> rfl

variable {cipher : Cipher EncString} {wire : WireFormat EncString}

theorem organizationId_of_tryInto {response : CipherDetailsResponseModel}
    (h : response.tryInto wire = .ok cipher) :
    cipher.organizationId = response.organizationId := by
  simp only [CipherDetailsResponseModel.tryInto, bind_eq_ok_iff, pure_eq_ok_iff] at h
  obtain ⟨payloads, -, permissions, -, records, -, key, -, archivedDate, -, rfl⟩ := h
  rfl

theorem organizationId_of_providedCipher {ciphers : List (Cipher EncString)}
    (h : providedCipher ciphers = some cipher) :
    cipher.organizationId = none := by
  simpa using List.find?_some h

theorem organizationId_of_fetchedCipher {getAll : Option (Option (List CipherDetailsResponseModel))}
    (h : fetchedCipher wire getAll = some cipher) : cipher.organizationId = none := by
  simp only [fetchedCipher, bind_eq_bind, bind_eq_some_iff] at h
  obtain ⟨data, -, response, hfind, hparsed⟩ := h
  cases hresponse : response.tryInto wire with
  | error error => rw [hresponse] at hparsed; cases hparsed
  | ok parsed =>
    rw [hresponse] at hparsed
    cases hparsed
    rw [organizationId_of_tryInto hresponse]
    simpa using List.find?_some hfind

theorem isUserKeyValidFromApi_eq :
    isUserKeyValidFromApi ctx user wire getAll =
      (fetchedCipher wire getAll).any fun cipher =>
        (cipher.decrypt ctx.toDecryptContext user).isOk := by
  cases hfetched : fetchedCipher wire getAll with
  | none =>
    unfold isUserKeyValidFromApi
    cases getAll with
    | none => rfl
    | some data =>
      simp only [fetchedCipher, bind_eq_bind, bind_some] at hfetched ⊢
      split
      next => rfl
      next response hfind =>
        rw [hfind, bind_some] at hfetched
        cases hresponse : response.tryInto wire with
        | error error => rfl
        | ok cipher => rw [hresponse] at hfetched; cases hfetched
  | some cipher =>
    have hpersonal := organizationId_of_fetchedCipher hfetched
    simp only [fetchedCipher, bind_eq_bind, bind_eq_some_iff] at hfetched
    obtain ⟨data, rfl, response, hfind, hparsed⟩ := hfetched
    cases hresponse : response.tryInto wire with
    | error error => rw [hresponse] at hparsed; cases hparsed
    | ok parsed =>
      rw [hresponse] at hparsed
      cases hparsed
      simp only [isUserKeyValidFromApi, hfind, hresponse, isUserKeyValid_eq, providedCipher]
      simp [hpersonal]

theorem backed_iff {checked : Option (Cipher EncString)}
    (hpersonal : ∀ cipher, checked = some cipher → cipher.organizationId = none) :
    ((checked.any fun cipher => (cipher.decrypt ctx.toDecryptContext user).isOk) = true →
      ∃ cipher, checked = some cipher ∧ Authenticated ctx.toDecryptContext user cipher) ↔
    ∀ cipher, checked = some cipher → Conclusive ctx.toDecryptContext user cipher := by
  cases checked with
  | none => simp
  | some cipher => simpa using authenticated_of_isOk_iff (hpersonal cipher rfl)

/-- When the private key of the server cannot be decrypted, each of the two checks decides for a
new pair only with evidence for the key of the user, if and only if the personal item that it
checks is conclusive. -/
theorem shouldRegenerate_backed_iff {userKey : SymmetricKey} {encrypted : EncString}
    {privateKey : String}
    (hundecryptable : PrivateKeyUndecryptable ctx userKey encrypted privateKey)
    (publicKey : String) (wire : WireFormat EncString) (ciphers : List (Cipher EncString))
    (getAll : Option (Option (List CipherDetailsResponseModel))) :
    ((shouldRegeneratePublicKeyEncryptionKeyPairWithCiphers ctx (.ok userKey)
        (.found (some publicKey) (some privateKey)) ciphers = .ok true →
      ∃ cipher, providedCipher ciphers = some cipher ∧
        Authenticated ctx.toDecryptContext (.ok userKey) cipher) ↔
      ∀ cipher, providedCipher ciphers = some cipher →
        Conclusive ctx.toDecryptContext (.ok userKey) cipher) ∧
    ((shouldRegeneratePublicKeyEncryptionKeyPair ctx (.ok userKey) wire
        (.found (some publicKey) (some privateKey)) getAll = .ok true →
      ∃ cipher, fetchedCipher wire getAll = some cipher ∧
        Authenticated ctx.toDecryptContext (.ok userKey) cipher) ↔
      ∀ cipher, fetchedCipher wire getAll = some cipher →
        Conclusive ctx.toDecryptContext (.ok userKey) cipher) := by
  constructor
  · rw [shouldRegeneratePublicKeyEncryptionKeyPairWithCiphers, regenerates_eq hundecryptable,
      isUserKeyValid_eq, Except.ok.injEq]
    exact backed_iff fun cipher => organizationId_of_providedCipher
  · rw [shouldRegeneratePublicKeyEncryptionKeyPair, regenerates_eq hundecryptable,
      isUserKeyValidFromApi_eq, Except.ok.injEq]
    exact backed_iff fun cipher => organizationId_of_fetchedCipher

end

/-! ## A wrong key that passes -/

/-- The key `true` reads every value, the key `false` none. -/
def twoKeysContext : KeyPairContext (Option String) Bool Unit where
  sha256 := plainContext.sha256
  importKey := plainContext.importKey
  parseDate := plainContext.parseDate
  formatDate := plainContext.formatDate
  decrypt key value := if key then plainContext.decrypt () value else .error .decrypt
  unwrapSymmetricKey key _ := if key then .ok true else .error .decrypt
  unsealWithWrappingKey _ _ _ := none
  fromOpaqueString _ := none
  parseRestricted _ := none
  securityStateVersion := 1
  isV1SymmetricKey _ := true
  parseStrict text := some (some text)
  unwrapPrivateKey _ _ := .error .decrypt
  publicKeyDer _ := .ok []

theorem twoKeysContext_undecryptable (key : Bool) :
    PrivateKeyUndecryptable twoKeysContext key (some "private") "private" :=
  ⟨rfl, rfl, .decrypt, rfl⟩

theorem rightKey_backed :
    shouldRegeneratePublicKeyEncryptionKeyPairWithCiphers twoKeysContext (.ok true)
      (.found (some "public") (some "private")) [personalLogin] = .ok true ∧
    ∃ cipher, providedCipher [personalLogin] = some cipher ∧
      Authenticated twoKeysContext.toDecryptContext (.ok true) cipher := by
  refine ⟨rfl, ((shouldRegenerate_backed_iff (twoKeysContext_undecryptable true) "public"
    rotationWire [personalLogin] none).1.mpr ?_) rfl⟩
  rintro cipher hcipher
  cases hcipher
  exact .inr (.inr (.inr (.inl ⟨some "name", "name", .name rfl, rfl⟩)))

/-- The wrong key reads nothing of the item, and the pair is regenerated. -/
theorem wrongKey_regenerates :
    shouldRegeneratePublicKeyEncryptionKeyPairWithCiphers twoKeysContext (.ok false)
      (.found (some "public") (some "private")) [personalLogin] = .ok true ∧
    ¬∃ cipher, providedCipher [personalLogin] = some cipher ∧
      Authenticated twoKeysContext.toDecryptContext (.ok false) cipher := by
  refine ⟨rfl, ?_⟩
  rintro ⟨cipher, hcipher, hevidence⟩
  cases hcipher
  cases hevidence with
  | itemKey _ h => cases h
  | contents _ hsealed _ => cases hsealed
  | value _ h =>
    obtain ⟨value, text, -, hread⟩ | ⟨attachments, attachment, wrapped, key, hattachments, -⟩ := h
    · cases hread
    · cases hattachments

end SdkInternal.KeyRotation
