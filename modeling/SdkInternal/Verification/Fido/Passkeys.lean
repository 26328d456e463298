import Mathlib.Data.Vector.Defs
import SdkInternal.Model.Fido.Authenticator
import SdkInternal.Verification.Vault.RoundTrip

/-! # The first passkey of an item

An item is offered for any of its passkeys, and the first one signs. A passkey that is stored is
written in one spelling, and replaces all passkeys of the item. -/

namespace SdkInternal.Fido

open Vault Shared Option Base64 FidoLibraries
open List hiding Vector

variable {CoseKey SymmetricKey : Type} {libs : FidoLibraries CoseKey} {host : Host SymmetricKey}
  {cipher : CipherView SymmetricKey} {first : Fido2Credential String} {passkey : Passkey CoseKey}
  {creds rest : List (Fido2Credential String)} {s s' : Option (CipherView SymmetricKey)} {u : Unit}

/-- UUIDs and keys are read as they were written, and a UUID does not start with the mark. -/
structure FidoLibraries.Lawful (libs : FidoLibraries CoseKey) : Prop where
  parseUuid_printUuid : ∀ id, libs.parseUuid (libs.printUuid id) = some id
  printUuid_unmarked : ∀ id text, (libs.printUuid id).toList ≠ 'b' :: '6' :: '4' :: '.' :: text
  coseKeyToPkcs8_pkcs8ToCoseKey : ∀ der key, libs.pkcs8ToCoseKey der = some key →
    libs.coseKeyToPkcs8 key = some der

/-! ## Passkeys as texts -/

theorem orError_eq_ok_iff {α : Type} {error : FidoError} {value : Option α} {a : α} :
    orError error value = .ok a ↔ value = some a := by
  cases value with
  | none | some b => simp [orError]

theorem stringToGuidBytes_printUuid (hlibs : libs.Lawful) (id : Vector UInt8 16) :
    libs.stringToGuidBytes (libs.printUuid id) = .ok id.toList := by
  unfold stringToGuidBytes
  split
  next text htext => exact absurd htext (hlibs.printUuid_unmarked id text)
  next => rw [hlibs.parseUuid_printUuid]; rfl

theorem guidBytesToString_eq_ok_iff {bytes : List UInt8} {text : String} :
    libs.guidBytesToString bytes = .ok text ↔
      ∃ id : Vector UInt8 16, bytes = id.toList ∧ libs.printUuid id = text := by
  unfold guidBytesToString
  split
  next h =>
    constructor
    · intro htext
      exact ⟨⟨bytes.toArray, h⟩, rfl, Except.ok.inj htext⟩
    · rintro ⟨id, rfl, rfl⟩
      rfl
  next h =>
    refine iff_of_false nofun ?_
    rintro ⟨id, rfl, -⟩
    exact h id.length_toList

theorem decodeUrl_b64Url (bytes : List UInt8) :
    decodeUrl (b64Url bytes).toList = some bytes := by
  rw [b64Url, String.toList_ofList, decodeUrl_encodeUrl]

theorem tryFromCredentialFullView_eq_ok (h : libs.tryFromCredentialFullView first = .ok passkey) :
    libs.stringToGuidBytes first.credentialId = .ok passkey.credentialId ∧
      passkey.rpId = first.rpId ∧
      (∃ der, decodeUrl first.keyValue.toList = some der ∧
        libs.pkcs8ToCoseKey der = some passkey.key) ∧
      traverse (fun handle : String => orError .decode (decodeUrl handle.toList))
        first.userHandle = .ok passkey.userHandle := by
  simp only [tryFromCredentialFullView, bind_eq_ok_iff, pure_eq_ok_iff, orError_eq_ok_iff] at h
  obtain ⟨_, -, der, hder, _, hhandle, _, hkey, _, hid, rfl⟩ := h
  exact ⟨hid, rfl, ⟨der, hder, hkey⟩, hhandle⟩

theorem fillWithCredential_eq_ok_iff {filled : Fido2Credential String} :
    libs.fillWithCredential first passkey = .ok filled ↔
      ∃ der, libs.coseKeyToPkcs8 passkey.key = some der ∧
        ∃ id : Vector UInt8 16, passkey.credentialId = id.toList ∧
          filled = { first with
            credentialId := libs.printUuid id, keyType := "public-key", keyAlgorithm := "ECDSA"
            keyCurve := "P-256", keyValue := b64Url der, rpId := passkey.rpId
            userHandle := passkey.userHandle.map b64Url
            counter := toString (passkey.counter.getD 0).toNat, discoverable := "true" } := by
  simp only [fillWithCredential, toFullView, bind_eq_ok_iff, pure_eq_ok_iff, orError_eq_ok_iff,
    guidBytesToString_eq_ok_iff, exists_exists_and_eq_and, eq_comm (a := filled)]

/-- The passkey is spelled the way it would be written. -/
def FidoLibraries.Written (libs : FidoLibraries CoseKey) (credential : Fido2Credential String) :
    Prop :=
  (∃ id, credential.credentialId = libs.printUuid id) ∧
    (∃ der, credential.keyValue = b64Url der) ∧
    (∃ handle : Option (List UInt8), credential.userHandle = handle.map b64Url) ∧
    credential.keyType = "public-key" ∧ credential.keyAlgorithm = "ECDSA" ∧
    credential.keyCurve = "P-256" ∧ credential.discoverable = "true"

theorem fillWithCredential_changesCounter_iff (hlibs : libs.Lawful)
    (h : libs.tryFromCredentialFullView first = .ok passkey) (counter : UInt32) :
    libs.fillWithCredential first { passkey with counter := some counter } =
        .ok { first with counter := toString counter.toNat } ↔ libs.Written first := by
  obtain ⟨hid, hsite, ⟨der, hder, hkey⟩, hhandle⟩ := tryFromCredentialFullView_eq_ok h
  rw [fillWithCredential_eq_ok_iff]
  simp only [Fido2Credential.mk.injEq, getD_some, true_and, and_true]
  constructor
  · rintro ⟨der, -, id, -, hwritten, htype, halgorithm, hcurve, hvalue, -, hhandle, hdiscoverable⟩
    exact ⟨⟨id, hwritten⟩, ⟨der, hvalue⟩, ⟨_, hhandle⟩, htype, halgorithm, hcurve, hdiscoverable⟩
  · rintro ⟨⟨id, hwritten⟩, ⟨_, hvalue⟩, ⟨handle, hspelled⟩, htype, halgorithm, hcurve,
      hdiscoverable⟩
    rw [hvalue, decodeUrl_b64Url] at hder
    cases hder
    rw [hwritten, stringToGuidBytes_printUuid hlibs] at hid
    have hread : traverse (fun handle : String =>
        orError .decode (decodeUrl handle.toList)) (handle.map b64Url) = .ok handle := by
      cases handle with
      | none => rfl
      | some bytes =>
        exact map_eq_ok_iff.mpr ⟨bytes, orError_eq_ok_iff.mpr (decodeUrl_b64Url bytes), rfl⟩
    rw [hspelled, hread] at hhandle
    rw [Except.ok.inj hhandle] at hspelled
    exact ⟨der, hlibs.coseKeyToPkcs8_pkcs8ToCoseKey _ _ hkey, id, (Except.ok.inj hid).symm,
      hwritten, htype, halgorithm, hcurve, hvalue, hsite.symm, hspelled, hdiscoverable⟩

/-! ## Stored passkeys -/

def withFido2Credentials (creds : List (Fido2Credential String))
    (cipher : CipherView SymmetricKey) : CipherView SymmetricKey :=
  { cipher with login := cipher.login.map ({ · with fido2Credentials := some creds }) }

theorem isSome_login_of_mem (h : first ∈ getFido2Credentials cipher) : cipher.login.isSome := by
  cases hlogin : cipher.login with
  | none => simp [getFido2Credentials, hlogin] at h
  | some login => rfl

theorem getFido2Credentials_with (creds : List (Fido2Credential String)) (h : cipher.login.isSome) :
    getFido2Credentials (withFido2Credentials creds cipher) = creds := by
  obtain ⟨login, hlogin⟩ := isSome_iff_exists.mp h
  simp [getFido2Credentials, withFido2Credentials, hlogin]

variable {selected : Option (CipherView SymmetricKey)}

theorem run_get_eq_ok_iff :
    (get : FidoM SymmetricKey _) s = .ok (selected, s') ↔ s = selected ∧ s = s' :=
  run_pure_eq_ok_iff

theorem run_set_eq_ok_iff :
    (set selected : FidoM SymmetricKey PUnit) s = .ok (u, s') ↔ selected = s' :=
  run_pure_eq_ok_iff.trans (and_iff_right rfl)

theorem storeCredentials_eq_ok_iff :
    storeCredentials host cipher creds s = .ok (u, s') ↔
      cipher.login.isSome ∧ host.saveCredential (withFido2Credentials creds cipher) = true ∧
        some (withFido2Credentials creds cipher) = s' := by
  simp only [storeCredentials, setNewFido2Credentials, run_bind_eq_ok_iff, run_lift_eq_ok_iff,
    run_set_eq_ok_iff, ensure_eq_ok_iff, bind_eq_ok_iff, pure_eq_ok_iff, orError_eq_ok_iff,
    withFido2Credentials, exists_const, and_assoc, exists_and_left, exists_eq_left',
    exists_exists_and_eq_and]
  cases cipher.login with
  | none | some login => simp

theorem updateCredential_eq_ok_iff (hfirst : getFido2Credentials cipher = first :: rest) :
    updateCredential libs host passkey (some cipher) = .ok (u, s') ↔
      libs.stringToGuidBytes first.credentialId = .ok passkey.credentialId ∧
        ∃ filled, libs.fillWithCredential first passkey = .ok filled ∧
          storeCredentials host cipher [filled] (some cipher) = .ok (u, s') := by
  simp only [updateCredential, getSelectedCredential, run_bind_eq_ok_iff, run_lift_eq_ok_iff,
    run_get_eq_ok_iff, run_pure_eq_ok_iff, orError_eq_ok_iff, ensure_eq_ok_iff, exists_const,
    and_assoc, exists_and_left, exists_eq_left', some.injEq, hfirst, head?_cons]
  constructor
  · rintro ⟨_, hid, rfl, hstored⟩
    exact ⟨hid, hstored⟩
  · rintro ⟨hid, hstored⟩
    exact ⟨_, hid, rfl, hstored⟩

theorem saveCredential_eq_ok_iff {request : NewCredential}
    {new : Fido2Credential String} (hnew : libs.tryFromCredentialFull passkey request = .ok new) :
    saveCredential libs host passkey request (some cipher) = .ok (u, s') ↔
      storeCredentials host cipher [new] (some cipher) = .ok (u, s') := by
  simp only [saveCredential, hnew, run_bind_eq_ok_iff, run_lift_eq_ok_iff, run_get_eq_ok_iff,
    orError_eq_ok_iff, and_assoc, exists_and_left, exists_eq_left', Except.ok.injEq, some.injEq]

/-- A new counter is all that changes if and only if the passkey is the only one and is spelled the
way it would be written. The passkeys of an item are kept if and only if there is no other one. -/
theorem storing_keepsPasskeys_iff (hlibs : libs.Lawful)
    (hsaves : ∀ view, host.saveCredential view = true) :
    (∀ cipher first rest passkey (counter : UInt32), getFido2Credentials cipher = first :: rest →
      libs.tryFromCredentialFullView first = .ok passkey →
      (updateCredential libs host { passkey with counter := some counter } (some cipher) =
        .ok ((), some (withFido2Credentials
          ({ first with counter := toString counter.toNat } :: rest) cipher)) ↔
        rest = [] ∧ libs.Written first)) ∧
    ∀ cipher passkey request new, libs.tryFromCredentialFull passkey request = .ok new →
      ((∀ saved, saveCredential libs host passkey request (some cipher) = .ok ((), some saved) →
        withFido2Credentials [] saved = withFido2Credentials [] cipher ∧
          ∀ credential ∈ getFido2Credentials cipher, credential ∈ getFido2Credentials saved) ↔
        ∀ credential ∈ getFido2Credentials cipher, credential = new) := by
  constructor
  · intro cipher first rest passkey counter hfirst hpasskey
    have hlogin : cipher.login.isSome := isSome_login_of_mem (hfirst ▸ mem_cons_self)
    obtain ⟨hid, -⟩ := tryFromCredentialFullView_eq_ok hpasskey
    rw [← fillWithCredential_changesCounter_iff hlibs hpasskey counter,
      updateCredential_eq_ok_iff hfirst]
    simp only [storeCredentials_eq_ok_iff, some.injEq, hlogin, hsaves, true_and]
    constructor
    · rintro ⟨-, filled, hfilled, hsame⟩
      have hcreds := congrArg getFido2Credentials hsame
      rw [getFido2Credentials_with _ hlogin, getFido2Credentials_with _ hlogin] at hcreds
      obtain ⟨rfl, rfl⟩ := cons.inj hcreds
      exact ⟨rfl, hfilled⟩
    · rintro ⟨rfl, hfilled⟩
      exact ⟨hid, _, hfilled, rfl⟩
  · intro cipher passkey request new hnew
    simp only [saveCredential_eq_ok_iff hnew, storeCredentials_eq_ok_iff, hsaves, true_and,
      some.injEq]
    constructor
    · intro hkept credential hmem
      have hlogin := isSome_login_of_mem hmem
      have hsaved := (hkept _ ⟨hlogin, rfl⟩).2 credential hmem
      rw [getFido2Credentials_with _ hlogin] at hsaved
      exact mem_singleton.mp hsaved
    · rintro hnone _ ⟨hlogin, rfl⟩
      rw [getFido2Credentials_with _ hlogin]
      refine ⟨by simp [withFido2Credentials, Function.comp_def], ?_⟩
      intro credential hmem
      exact mem_singleton.mpr (hnone credential hmem)

/-! ## Assertions -/

section

variable {library : PasskeyLibrary CoseKey SymmetricKey} {request : GetAssertionRequest}
  {result : GetAssertionResult CoseKey SymmetricKey}

/-- The site is the requested one, and the id is in the allow list. -/
def FidoLibraries.Matches (libs : FidoLibraries CoseKey) (request : GetAssertionRequest)
    (credential : Fido2Credential String) : Prop :=
  credential.rpId = request.rpId ∧ ∀ ids ∈ request.allowList, ∃ id ∈ ids,
    libs.stringToGuidBytes credential.credentialId = .ok id

/-- One passkey of the item signed and is reported, and it is a requested one. -/
def UsesRequestedPasskey (libs : FidoLibraries CoseKey) (request : GetAssertionRequest)
    (picked : CipherView SymmetricKey) (result : GetAssertionResult CoseKey SymmetricKey) : Prop :=
  ∃ credential ∈ getFido2Credentials picked, libs.Matches request credential ∧
    libs.tryFromCredentialFullView credential = .ok result.signedWith ∧
    libs.stringToGuidBytes credential.credentialId = .ok result.credentialId

/-- What is assumed of the passkey library: it signs with the passkey of the first item that is
found, and at most stores a counter of this passkey. -/
def PasskeyLibrary.SignsWithFirst (library : PasskeyLibrary CoseKey SymmetricKey) : Prop :=
  ∀ store request s response s', library store request s = .ok (response, s') →
    ∃ item items found,
      store.findCredentials request.allowList request.rpId s = .ok (item :: items, found) ∧
      store.tryIntoPasskey item = .ok response.signedWith ∧
      (s' = found ∨ ∃ counter,
        store.updateCredential { response.signedWith with counter } found = .ok ((), s'))

theorem updateCredential_keepsId (hlibs : libs.Lawful)
    (hfirst : getFido2Credentials cipher = first :: rest)
    (h : updateCredential libs host passkey (some cipher) = .ok (u, s')) :
    ∃ selected kept others, s' = some selected ∧ getFido2Credentials selected = kept :: others ∧
      libs.stringToGuidBytes kept.credentialId = .ok passkey.credentialId := by
  obtain ⟨-, filled, hfilled, hstored⟩ := (updateCredential_eq_ok_iff hfirst).mp h
  obtain ⟨der, -, id, hbytes, rfl⟩ := fillWithCredential_eq_ok_iff.mp hfilled
  obtain ⟨hlogin, -, rfl⟩ := storeCredentials_eq_ok_iff.mp hstored
  refine ⟨_, _, [], rfl, getFido2Credentials_with _ hlogin, ?_⟩
  rw [stringToGuidBytes_printUuid hlibs, ← hbytes]

theorem getAssertion_eq_ok (hlibs : libs.Lawful) (hlibrary : library.SignsWithFirst)
    (h : getAssertion libs host library request s = .ok (result, s')) :
    ∃ ciphers picked first rest,
      host.findCredentials request.allowList request.rpId = some ciphers ∧
      host.pickCredentialForAuthentication (offered ciphers) = some picked ∧
      getFido2Credentials picked = first :: rest ∧
      libs.tryFromCredentialFullView first = .ok result.signedWith ∧
      result.credentialId = result.signedWith.credentialId := by
  simp only [getAssertion, getSelectedCredential, run_bind_eq_ok_iff, run_lift_eq_ok_iff,
    run_get_eq_ok_iff, run_pure_eq_ok_iff, orError_eq_ok_iff, and_assoc, exists_and_left,
    exists_eq_left'] at h
  obtain ⟨response, after, hresponse, _, _, ⟨selected, hselected, kept, hkept, rfl, rfl⟩, _,
    hreported, _, -, rfl, rfl⟩ := h
  obtain ⟨item, items, found, hfound, hpasskey, hafter⟩ := hlibrary _ _ _ _ _ hresponse
  simp only [findCredentials, Bool.false_eq_true, if_false, run_bind_eq_ok_iff, run_lift_eq_ok_iff,
    run_set_eq_ok_iff, run_pure_eq_ok_iff, orError_eq_ok_iff, exists_const, and_assoc,
    exists_and_left, exists_eq_left'] at hfound
  obtain ⟨ciphers, hciphers, _, hpicked, hitem, rfl⟩ := hfound
  cases hitem
  simp only [FidoLibraries.tryFromCipherView, bind_eq_ok_iff, orError_eq_ok_iff] at hpasskey
  obtain ⟨first, hhead, hfirst⟩ := hpasskey
  obtain ⟨rest, hcreds⟩ := head?_eq_some_iff.mp hhead
  refine ⟨ciphers, item, first, rest, hciphers, hpicked, hcreds, hfirst, ?_⟩
  have hid := (tryFromCredentialFullView_eq_ok hfirst).1
  obtain rfl | ⟨counter, hupdated⟩ := hafter
  · cases hselected
    rw [hhead] at hkept
    cases hkept
    exact Except.ok.inj (hreported.symm.trans hid)
  · obtain ⟨_, _, _, rfl, hlast, hid⟩ := updateCredential_keepsId hlibs hcreds hupdated
    cases hselected
    rw [hlast] at hkept
    cases hkept
    exact Except.ok.inj (hreported.symm.trans hid)

/-- A requested passkey is used if and only if the first one of the picked item is requested. -/
theorem getAssertion_usesRequestedPasskey_iff (hlibs : libs.Lawful)
    (hlibrary : library.SignsWithFirst) {ciphers : List (CipherView SymmetricKey)}
    {picked : CipherView SymmetricKey}
    (hciphers : host.findCredentials request.allowList request.rpId = some ciphers)
    (hpicked : host.pickCredentialForAuthentication (offered ciphers) = some picked)
    (h : getAssertion libs host library request s = .ok (result, s')) :
    UsesRequestedPasskey libs request picked result ↔
      ∀ first ∈ (getFido2Credentials picked).head?, libs.Matches request first := by
  obtain ⟨_, _, first, rest, hciphers', hpicked', hfirst, hpasskey, hreported⟩ :=
    getAssertion_eq_ok hlibs hlibrary h
  rw [hciphers] at hciphers'
  cases hciphers'
  rw [hpicked] at hpicked'
  cases hpicked'
  obtain ⟨hid, hsite, -⟩ := tryFromCredentialFullView_eq_ok hpasskey
  simp only [UsesRequestedPasskey, hfirst, head?_cons, mem_def, some.injEq, forall_eq']
  constructor
  · rintro ⟨credential, -, ⟨hrequested, hallowed⟩, hconverted, -⟩
    obtain ⟨hid', hsite', -⟩ := tryFromCredentialFullView_eq_ok hconverted
    rw [← hsite', hsite] at hrequested
    rw [hid', ← hid] at hallowed
    exact ⟨hrequested, hallowed⟩
  · intro hrequested
    exact ⟨first, by simp, hrequested, hpasskey, hreported ▸ hid⟩

end

/-! ## An item with two passkeys -/

def plainLibraries : FidoLibraries (List UInt8) where
  parseUuid text := match text.toList with
    | 'u' :: text => (Base64.decodeUrl text).bind fun bytes =>
      if h : bytes.length = 16 then some ⟨bytes.toArray, h⟩ else none
    | _ => none
  printUuid id := String.ofList ('u' :: Base64.encodeUrl id.toList)
  pkcs8ToCoseKey := some
  coseKeyToPkcs8 := some

theorem plainLibraries_lawful : plainLibraries.Lawful where
  parseUuid_printUuid id := by
    simp [plainLibraries, decodeUrl_encodeUrl, Vector.toList]
  printUuid_unmarked id text := by simp [plainLibraries]
  coseKeyToPkcs8_pkcs8ToCoseKey _ _ h := h.symm

def samplePasskey (rpId counter : String) : Fido2Credential String :=
  ⟨plainLibraries.printUuid (Vector.replicate 16 1), "public-key", "ECDSA", "P-256", b64Url [],
    rpId, some (b64Url []), none, counter, none, none, "true", 0⟩

def itemWith (creds : List (Fido2Credential String)) : CipherView Unit :=
  withFido2Credentials creds (loginWithPasskey "0")

def twoPasskeys : CipherView Unit :=
  itemWith [samplePasskey "other.example" "7", samplePasskey "example.com" "0"]

def hostOf (item : CipherView Unit) : Host Unit :=
  ⟨fun _ _ => some [item], List.head?, fun _ => true⟩

def plainLibrary : PasskeyLibrary (List UInt8) Unit := fun store request => do
  let items ← store.findCredentials request.allowList request.rpId
  let item ← orError .noFido2CredentialsFound items.head?
  let passkey ← store.tryIntoPasskey item
  match passkey.counter with
  | none => pure ()
  | some counter => store.updateCredential { passkey with counter := some (counter + 1) }
  return ⟨passkey, passkey.userHandle⟩

theorem plainLibrary_signsWithFirst : plainLibrary.SignsWithFirst := by
  intro store request s response s' h
  simp only [plainLibrary, run_bind_eq_ok_iff, run_lift_eq_ok_iff, orError_eq_ok_iff,
    head?_eq_some_iff, and_assoc] at h
  obtain ⟨_, found, hfound, item, _, ⟨items, rfl⟩, rfl, passkey, _, hpasskey, rfl, h⟩ := h
  cases hcounter : passkey.counter with
  | none =>
    rw [hcounter] at h
    obtain ⟨rfl, rfl⟩ := run_pure_eq_ok_iff.mp h
    exact ⟨item, items, found, hfound, hpasskey, .inl rfl⟩
  | some counter =>
    simp only [hcounter, run_bind_eq_ok_iff, run_pure_eq_ok_iff] at h
    obtain ⟨_, _, hupdated, rfl, rfl⟩ := h
    exact ⟨item, items, found, hfound, hpasskey, .inr ⟨_, hupdated⟩⟩

theorem onlyPasskey_signs :
    ∃ result after, getAssertion plainLibraries
          (hostOf (itemWith [samplePasskey "example.com" "7"])) plainLibrary
          ⟨"example.com", none⟩ none = .ok (result, after) ∧
      UsesRequestedPasskey plainLibraries ⟨"example.com", none⟩
        (itemWith [samplePasskey "example.com" "7"]) result := by
  obtain ⟨result, after, h⟩ : ∃ result after, getAssertion plainLibraries (hostOf (itemWith
      [samplePasskey "example.com" "7"])) plainLibrary ⟨"example.com", none⟩ none =
      .ok (result, after) := ⟨_, _, rfl⟩
  refine ⟨_, _, h, (getAssertion_usesRequestedPasskey_iff plainLibraries_lawful
    plainLibrary_signsWithFirst rfl rfl h).mpr ?_⟩
  rintro _ ⟨⟩
  exact ⟨rfl, nofun⟩

/-- The item is found for its second passkey, and the first one signs for another site. -/
theorem otherSitesPasskey_signs :
    plainLibrary.SignsWithFirst ∧ (∃ credential ∈ getFido2Credentials twoPasskeys,
      plainLibraries.Matches ⟨"example.com", none⟩ credential) ∧
    ∃ result after, getAssertion plainLibraries (hostOf twoPasskeys) plainLibrary
        ⟨"example.com", none⟩ none = .ok (result, after) ∧
      ¬UsesRequestedPasskey plainLibraries ⟨"example.com", none⟩ twoPasskeys result := by
  refine ⟨plainLibrary_signsWithFirst, ⟨_, mem_cons_of_mem _ mem_cons_self, rfl, nofun⟩, _, _, rfl,
    ?_⟩
  rintro ⟨credential, -, ⟨hsite, -⟩, hconverted, -⟩
  have hother := (tryFromCredentialFullView_eq_ok hconverted).2.1.trans hsite
  revert hother
  decide

theorem onlyPasskey_counted :
    updateCredential plainLibraries (hostOf twoPasskeys)
        ⟨[], List.replicate 16 1, "example.com", some [], some 8⟩
        (some (itemWith [samplePasskey "example.com" "7"])) =
      .ok ((), some (withFido2Credentials [samplePasskey "example.com" "8"]
        (itemWith [samplePasskey "example.com" "7"]))) :=
  ((storing_keepsPasskeys_iff plainLibraries_lawful fun _ => rfl).1 _
    (samplePasskey "example.com" "7") [] ⟨[], replicate 16 1, "example.com", some [], some 7⟩
    8 rfl rfl).mpr ⟨rfl, ⟨_, rfl⟩, ⟨_, rfl⟩, ⟨some [], rfl⟩, rfl, rfl, rfl, rfl⟩

theorem otherPasskey_lost :
    plainLibraries.tryFromCredentialFullView (samplePasskey "other.example" "7") =
        .ok ⟨[], List.replicate 16 1, "other.example", some [], some 7⟩ ∧
      updateCredential plainLibraries (hostOf twoPasskeys)
        ⟨[], List.replicate 16 1, "other.example", some [], some 8⟩ (some twoPasskeys) =
        .ok ((), some (itemWith [samplePasskey "other.example" "8"])) ∧
      samplePasskey "example.com" "0" ∈ getFido2Credentials twoPasskeys ∧
      samplePasskey "example.com" "0" ∉
        getFido2Credentials (itemWith [samplePasskey "other.example" "8"]) := by
  refine ⟨rfl, rfl, mem_cons_of_mem _ mem_cons_self, ?_⟩
  intro hmem
  have hsite := congrArg Fido2Credential.rpId (mem_singleton.mp hmem)
  revert hsite
  decide

end SdkInternal.Fido
