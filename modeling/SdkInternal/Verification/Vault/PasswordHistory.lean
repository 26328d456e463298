import SdkInternal.Model.Vault.Edit
import SdkInternal.Verification.Vault.RoundTrip

/-! # The history of passwords

A password or hidden field that an edit replaces is recorded, as long as no other field of its name
hides it. -/

namespace SdkInternal.Vault

open Shared List

variable {SymmetricKey : Type} (now : DateTime)

def namedSecrets (fields : List (Field (Option String))) : List (String × String) :=
  fields.filterMap fun field =>
    match field.type, field.name, field.value with
    | .hidden, some name, some value =>
      if name.isEmpty || value.isEmpty then none else some (name, value)
    | _, _, _ => none

/-- The last field of a name. -/
def lastNamed (fields : List (String × String)) (name : String) : Option (String × String) :=
  fields.reverse.find? (·.1 = name)

namespace CipherView

variable (self : CipherView SymmetricKey)

def heldPassword : String :=
  (self.login.bind (·.password)).getD ""

def heldFields : List (String × String) :=
  namedSecrets (self.fields.getD [])

/-- One entry for each secret of the original that the edited item does not have. -/
def replacedSecrets (self original : CipherView SymmetricKey) : List (PasswordHistory String) :=
  (if original.heldPassword = "" ∨ original.heldPassword = self.heldPassword then []
    else [.newPassword now original.heldPassword]) ++
  (original.heldFields.filter (· ∉ self.heldFields)).map fun field => .newField now field.1 field.2

/-- The edited item has the parts that the original's secrets are in, and every field that a later
one of its name hides in the original. The last one, if it is kept, is not hidden by a later one. -/
structure Comparable (edited original : CipherView SymmetricKey) : Prop where
  login : original.heldPassword ≠ "" → edited.login.isSome
  fields : original.heldFields ≠ [] → edited.fields.isSome
  originalNames : original.heldFields.Pairwise fun field later =>
    field.1 = later.1 → field ∈ edited.heldFields
  editedNames : ∀ field ∈ edited.heldFields, lastNamed original.heldFields field.1 = some field →
    lastNamed edited.heldFields field.1 = some field

end CipherView

theorem detectPasswordChange_fst (login : Login String) (original : Option (Login String)) :
    (login.detectPasswordChange now original).1 =
      if (original.bind (·.password)).getD "" = "" ∨
        (original.bind (·.password)).getD "" = login.password.getD "" then []
      else [.newPassword now ((original.bind (·.password)).getD "")] := by
  cases original with
  | none => rfl
  | some original =>
    simp only [Login.detectPasswordChange, String.isEmpty_iff, Option.bind_some]
    split_ifs <;> simp_all

theorem mem_of_lastNamed {fields : List (String × String)} {field : String × String}
    (h : lastNamed fields field.1 = some field) : field ∈ fields :=
  mem_reverse.mp (mem_of_find?_eq_some h)

theorem lastNamed_of_pairwise {fields : List (String × String)} {kept : String × String → Prop}
    (h : fields.Pairwise fun field later => field.1 = later.1 → kept field)
    {field : String × String} (hmem : field ∈ fields) (hkept : ¬kept field) :
    lastNamed fields field.1 = some field := by
  obtain ⟨last, hlast⟩ : ∃ last, lastNamed fields field.1 = some last := by
    rw [← Option.isSome_iff_exists, lastNamed, find?_isSome]
    exact ⟨field, mem_reverse.mpr hmem, by simp⟩
  obtain ⟨hname, after, before, hsplit, hafter⟩ := find?_eq_some_iff_append.mp hlast
  have hname : last.1 = field.1 := by simpa using hname
  rw [reverse_eq_iff, reverse_append, reverse_cons, append_assoc, singleton_append] at hsplit
  rw [hsplit] at h hmem
  rw [hlast]
  rcases mem_append.mp hmem with hbefore | hrest
  · exact absurd ((pairwise_append.mp h).2.2 field hbefore last mem_cons_self hname.symm) hkept
  · rcases mem_cons.mp hrest with rfl | hmem
    · rfl
    · simpa using hafter field (mem_reverse.mp hmem)

theorem lookup_extractHiddenFields {fields : List (Field (Option String))}
    {field : String × String} :
    (extractHiddenFields fields).lookup field.1 = some field.2 ↔
      lastNamed (namedSecrets fields) field.1 = some field := by
  rw [extractHiddenFields, Store.lookup_ofList, Option.map_eq_some_iff]
  constructor
  · rintro ⟨last, hlast, hvalue⟩
    have hname : last.1 = field.1 := by simpa using find?_some hlast
    exact hlast.trans (congrArg some (Prod.ext hname hvalue))
  · exact fun hlast => ⟨field, hlast, rfl⟩

theorem detectHiddenFieldChanges_perm {fields original : List (Field (Option String))}
    (horiginal : (namedSecrets original).Pairwise fun field later =>
      field.1 = later.1 → field ∈ namedSecrets fields)
    (hfields : ∀ field ∈ namedSecrets fields, lastNamed (namedSecrets original) field.1 =
      some field → lastNamed (namedSecrets fields) field.1 = some field) :
    (detectHiddenFieldChanges now fields original).Perm
      (((namedSecrets original).filter (· ∉ namedSecrets fields)).map fun field =>
        .newField now field.1 field.2) := by
  have hchanges : detectHiddenFieldChanges now fields original =
      (((extractHiddenFields original).entries.map fun e => (e.1, e.2)).filter fun field =>
        lastNamed (namedSecrets fields) field.1 ≠ some field).map fun field =>
          .newField now field.1 field.2 := by
    rw [detectHiddenFieldChanges, ← filterMap_eq_map, filterMap_filter, filterMap_map]
    simp [← lookup_extractHiddenFields]
  rw [hchanges]
  refine .map _ ((perm_ext_iff_of_nodup ?_ ?_).mpr ?_)
  · refine .filter _ (.of_map Prod.fst ?_)
    rw [map_map]
    exact (extractHiddenFields original).nodupKeys
  · refine (horiginal.filter _).imp_of_mem ?_
    rintro field later hfield - h rfl
    exact of_decide_eq_true (mem_filter.mp hfield).2 (h rfl)
  · intro field
    have hlast : field ∈ (extractHiddenFields original).entries.map (fun e => (e.1, e.2)) ↔
        lastNamed (namedSecrets original) field.1 = some field := by
      rw [← lookup_extractHiddenFields, Store.lookup_eq_some]
      simp [Prod.ext_iff, Sigma.exists]
    simp only [mem_filter, hlast, decide_eq_true_eq]
    constructor
    · rintro ⟨horig, hchanged⟩
      exact ⟨mem_of_lastNamed horig, fun hmem => hchanged (hfields field hmem horig)⟩
    · rintro ⟨hmem, hgone⟩
      exact ⟨lastNamed_of_pairwise horiginal hmem hgone, fun h => hgone (mem_of_lastNamed h)⟩

variable {now} in
/-- The history of the edited item starts with what was replaced, in some order. -/
theorem updatePasswordHistory_records {self original : CipherView SymmetricKey}
    (h : self.Comparable original) :
    ∃ replaced, replaced.Perm (self.replacedSecrets now original) ∧
      (self.updatePasswordHistory now original).passwordHistory =
        some ((replaced ++ original.passwordHistory.getD []).take 5) := by
  refine ⟨_, ?_, rfl⟩
  refine (reverse_perm _).trans (.append (.of_eq ?_) ?_)
  · cases hlogin : self.login with
    | some login => simp [detectPasswordChange_fst, CipherView.heldPassword, hlogin]
    | none =>
      have hnone : original.heldPassword = "" := by
        by_contra hne
        simpa [hlogin] using h.login hne
      simp [hnone]
  · cases hfields : self.fields with
    | some fields =>
      have hheld : self.heldFields = namedSecrets fields := by simp [CipherView.heldFields, hfields]
      have horiginal := h.originalNames
      have hedited := h.editedNames
      rw [hheld] at horiginal hedited ⊢
      exact detectHiddenFieldChanges_perm now horiginal hedited
    | none =>
      have hnone : original.heldFields = [] := by
        by_contra hne
        simpa [hfields] using h.fields hne
      simp [hnone]

def itemWithPins (pins : List String) : CipherView Unit :=
  { loginWithPasskey "0" with
    fields := some (pins.map fun pin => ⟨some "pin", some pin, .hidden, none⟩) }

theorem replacedPin_recorded :
    (itemWithPins ["1", "3"]).replacedSecrets 9 (itemWithPins ["1", "2"]) =
      [.newField 9 "pin" "2"] ∧
    ∃ replaced, replaced.Perm ((itemWithPins ["1", "3"]).replacedSecrets 9
        (itemWithPins ["1", "2"])) ∧
      ((itemWithPins ["1", "3"]).updatePasswordHistory 9
          (itemWithPins ["1", "2"])).passwordHistory =
        some ((replaced ++ (itemWithPins ["1", "2"]).passwordHistory.getD []).take 5) := by
  have hcomparable : (itemWithPins ["1", "3"]).Comparable (itemWithPins ["1", "2"]) :=
    ⟨by decide, by decide, by decide, by decide⟩
  exact ⟨by decide, updatePasswordHistory_records hcomparable⟩

/-- Of two fields with one name only the second is recorded when both are removed. -/
theorem repeatedPin_lost :
    (itemWithPins ["1234", "5678"]).heldFields = [("pin", "1234"), ("pin", "5678")] ∧
    (itemWithPins []).heldFields = [] ∧
    ((itemWithPins []).updatePasswordHistory 9 (itemWithPins ["1234", "5678"])).passwordHistory =
      some [.newField 9 "pin" "5678"] := by
  decide

end SdkInternal.Vault
