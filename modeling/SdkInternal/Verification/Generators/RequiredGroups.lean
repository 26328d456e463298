import SdkInternal.Verification.Generators.PasswordRules

/-! # Required groups

Which required groups every generated password meets, and which accepted rules yield a
password. -/

namespace SdkInternal.Generators

open Shared List PasswordGeneratorRequest Option RandomSource

/-! ## Groups -/

variable {cls : CharacterClass} {c : Char}

theorem contains_of_mem_chars {k : StandardClass} (hk : k ∈ cls.standardClasses)
    (hc : c ∈ k.chars) : cls.Contains c := by
  have hprintable : ∀ k : StandardClass,
      (k.chars.all fun c => decide (' ' ≤ c) && decide (c ≤ '~')) = true := by
    intro k
    cases k <;> decide
  cases cls with
  | asciiPrintable =>
    have hall := all_eq_true.mp (hprintable k) c hc
    simp only [Bool.and_eq_true, decide_eq_true_eq] at hall
    exact hall
  | unicode => trivial
  | custom chars => cases hk
  | upper | lower | digit | special =>
    cases mem_singleton.mp hk
    exact hc

/-- A graphic character of a class is one of its custom characters, or the class turns on a
standard class. -/
theorem customChars_or_standardClasses (hgraphic : isAsciiGraphic c = true) (hc : cls.Contains c) :
    c ∈ cls.customChars ∨ ∃ k, k ∈ cls.standardClasses := by
  cases cls with
  | custom chars => exact .inl (mem_filter.mpr ⟨hc, hgraphic⟩)
  | upper | asciiPrintable | unicode => exact .inr ⟨.upper, mem_cons_self⟩
  | lower => exact .inr ⟨.lower, mem_cons_self⟩
  | digit => exact .inr ⟨.digit, mem_cons_self⟩
  | special => exact .inr ⟨.special, mem_cons_self⟩

namespace PasswordRules

/-- A minimum of the request covers the group: that of a standard class, all of whose
characters are in the group, or that of the custom characters, all of which are. -/
def Covers (rules : PasswordRules) (group : List CharacterClass) : Prop :=
  (∃ k ∈ rules.standardClasses, ∀ c ∈ k.chars, InGroup group c) ∨
    ∀ c ∈ rules.customRequired, InGroup group c

variable {rules : PasswordRules} {request : PasswordGeneratorRequest} {group : List CharacterClass}

theorem mem_flatten_required (hgroup : group ∈ rules.required) (hcls : cls ∈ group) :
    cls ∈ rules.required.flatten :=
  mem_flatten.mpr ⟨group, hgroup, hcls⟩

theorem Covers.standard_or_custom (h : rules.Covers group) (hgroup : group ∈ rules.required)
    (hgraphic : ∃ c, isAsciiGraphic c = true ∧ InGroup group c) :
    (∃ k ∈ rules.standardClasses, ∀ c ∈ k.chars, InGroup group c) ∨
      rules.customRequired ≠ [] ∧ ∀ c ∈ rules.customRequired, InGroup group c := by
  rcases h with h | h
  · exact .inl h
  · obtain ⟨c, hc, cls, hcls, hcontains⟩ := hgraphic
    have hmem := mem_flatten_required hgroup hcls
    rcases customChars_or_standardClasses hc hcontains with hcustom | ⟨k, hk⟩
    · exact .inr ⟨ne_nil_of_mem (mem_flatMap.mpr ⟨cls, hmem, hcustom⟩), h⟩
    · refine .inl ⟨k, ?_, fun d hd => ⟨cls, hcls, contains_of_mem_chars hk hd⟩⟩
      exact mem_flatMap.mpr ⟨cls, mem_append_left _ hmem, hk⟩

section

variable (htranslated : rules.Translated request)

include htranslated

theorem Translated.minimumLength_le : request.minimumLength ≤ 5 := by
  apply minimumLength_le_five
  intro k
  rw [htranslated.draw_count]
  split_ifs <;> omega

theorem Translated.length_ge : 5 ≤ request.length.toNat := by
  rw [resolveLength_eq_ok htranslated.length]
  exact (toNat_clampedLength rules.minLength rules.maxLength).1.1

theorem Translated.maxConsecutive_zero_iff :
    request.maxConsecutive = some 0 ↔ rules.maxConsecutive = some 0 := by
  have heq := htranslated.maxConsecutive
  cases hrequest : request.maxConsecutive with
  | none =>
    rw [hrequest, map_none, eq_comm, map_eq_none_iff] at heq
    simp [heq]
  | some v =>
    cases hrules : rules.maxConsecutive with
    | none => simp [hrequest, hrules] at heq
    | some w =>
      simp only [hrequest, hrules, map_some, some.injEq] at heq
      simp only [some.injEq, ← UInt8.toNat_inj, ← UInt32.toNat_inj, heq]
      rfl

end

theorem mem_inGroup_of_customChars {classes : List CharacterClass}
    (h : c ∈ classes.flatMap CharacterClass.customChars) :
    isAsciiGraphic c = true ∧ InGroup classes c := by
  refine ⟨graphic_of_mem_customChars h, ?_⟩
  obtain ⟨cls, hcls, hc⟩ := mem_flatMap.mp h
  cases cls with
  | custom chars => exact ⟨.custom chars, hcls, (mem_filter.mp hc).1⟩
  | _ => cases hc

theorem exists_graphic_mem_chars (k : StandardClass) : ∃ c ∈ k.chars, isAsciiGraphic c = true := by
  cases k with
  | upper => exact ⟨'A', by decide, by decide⟩
  | lower => exact ⟨'a', by decide, by decide⟩
  | digit => exact ⟨'0', by decide, by decide⟩
  | special => exact ⟨'!', by decide, by decide⟩

section

variable (htranslated : rules.Translated request)

include htranslated

theorem Translated.hasSet_iff :
    request.HasSet ↔
      rules.allowed = [] ∨ ∃ c, isAsciiGraphic c = true ∧ InGroup rules.classes c := by
  rw [hasSet_iff_enables]
  constructor
  · rintro (⟨k, hk⟩ | hcustom | hcustom)
    · rcases (htranslated.enables k).mp hk with hmem | hunrestricted
      · obtain ⟨cls, hcls, hkcls⟩ := mem_flatMap.mp hmem
        obtain ⟨c, hc, hgraphic⟩ := exists_graphic_mem_chars k
        exact .inr ⟨c, hgraphic, cls, hcls, contains_of_mem_chars hkcls hc⟩
      · exact .inl hunrestricted.1
    · obtain ⟨c, hc⟩ := exists_mem_of_ne_nil _ hcustom
      obtain ⟨hgraphic, cls, hcls, hcontains⟩ :=
        mem_inGroup_of_customChars ((htranslated.customRequired c).mp hc)
      exact .inr ⟨c, hgraphic, cls, mem_append_left _ hcls, hcontains⟩
    · obtain ⟨c, hc⟩ := exists_mem_of_ne_nil _ hcustom
      exact .inr ⟨c, mem_inGroup_of_customChars ((htranslated.customAllowed c).mp hc)⟩
  · rintro (hallowed | ⟨c, hgraphic, cls, hcls, hcontains⟩)
    · by_cases hrequired : rules.required.flatten.flatMap CharacterClass.standardClasses = []
      · by_cases hcustom : rules.customRequired = []
        · exact .inl ⟨.upper, (htranslated.enables .upper).mpr
            (.inr ⟨hallowed, hrequired, hcustom⟩)⟩
        · obtain ⟨c, hc⟩ := exists_mem_of_ne_nil _ hcustom
          exact .inr (.inl (ne_nil_of_mem ((htranslated.customRequired c).mpr hc)))
      · obtain ⟨k, hk⟩ := exists_mem_of_ne_nil _ hrequired
        exact .inl ⟨k, (htranslated.enables k).mpr (.inl (mem_standardClasses.mpr
          (.inl hk)))⟩
    · rcases customChars_or_standardClasses hgraphic hcontains with hcustom | ⟨k, hk⟩
      · refine .inr (.inr (ne_nil_of_mem ((htranslated.customAllowed c).mpr ?_)))
        exact mem_flatMap.mpr ⟨cls, hcls, hcustom⟩
      · exact .inl ⟨k, (htranslated.enables k).mpr
          (.inl (mem_flatMap.mpr ⟨cls, hcls, hk⟩))⟩

theorem Translated.exists_mem_customRequired {password : List Char}
    (hmet : request.MetBy password) (h : rules.customRequired ≠ []) :
    ∃ c ∈ password, c ∈ rules.customRequired := by
  obtain ⟨d, hd⟩ := exists_mem_of_ne_nil _ h
  have hne := ne_nil_of_mem ((htranslated.customRequired d).mpr hd)
  obtain ⟨c, hc, hmem⟩ := hmet.custom hne
  exact ⟨c, hc, (htranslated.customRequired c).mp hmem⟩

theorem Translated.exists_mem_group {password : List Char} (hmet : request.MetBy password)
    (hgroup : group ∈ rules.required) (h : rules.Covers group)
    (hgraphic : ∃ c, isAsciiGraphic c = true ∧ InGroup group c) :
    ∃ c ∈ password, InGroup group c := by
  rcases h.standard_or_custom hgroup hgraphic with ⟨k, hk, hsubset⟩ | ⟨hne, hsubset⟩
  · obtain ⟨c, hc, hmem⟩ := hmet.exists_mem_draw ((htranslated.enables k).mpr (.inl hk))
    exact ⟨c, hc, hsubset c ((htranslated.mem_draw k c).mp hmem).2⟩
  · obtain ⟨c, hc, hmem⟩ := htranslated.exists_mem_customRequired hmet hne
    exact ⟨c, hc, hsubset c hmem⟩

/-- If a group is not covered, every draw can avoid it. -/
theorem Translated.exists_avoiding (h : ¬ rules.Covers group) :
    ∀ draw ∈ request.options.draws, 0 < draw.2 → ∃ c ∈ draw.1, ¬ InGroup group c := by
  rw [Covers, not_or] at h
  obtain ⟨hstandard, hcustom⟩ := h
  push Not at hstandard hcustom
  obtain ⟨d, hd, hdgroup⟩ := hcustom
  have hdmem : d ∈ request.custom.1 := by
    rw [mem_custom, htranslated.customRequired]
    exact hd
  intro draw hdraw hcount
  rcases mem_draws_iff.mp hdraw with rfl | ⟨k, rfl⟩ | rfl
  · exact ⟨d, mem_all.mpr
      (.inr (.inl (mem_custom.mp hdmem))), hdgroup⟩
  · have henables : request.enables k = true := by
      by_contra hdisabled
      rw [htranslated.draw_count, if_neg hdisabled] at hcount
      exact absurd hcount (lt_irrefl 0)
    rcases (htranslated.enables k).mp henables with hk | hunrestricted
    · obtain ⟨c, hc, hcgroup⟩ := hstandard k hk
      exact ⟨c, (htranslated.mem_draw k c).mpr ⟨henables, hc⟩, hcgroup⟩
    · rw [hunrestricted.2.2] at hd
      cases hd
  · exact ⟨d, hdmem, hdgroup⟩

end

end PasswordRules

/-! ## Generated passwords -/

section

variable {parseExternal : String → Except String PasswordRules} {text : String}
  {rules : PasswordRules} {request : PasswordGeneratorRequest}
  {options : PasswordGeneratorOptions}

theorem translated_of_parse (hrules : parsedRules parseExternal text = .ok rules)
    (hrequest : parsePasswordRules parseExternal text = .ok request) :
    rules.Translated request := by
  rw [parsePasswordRules_eq hrules] at hrequest
  exact translated_of_translateRules hrequest

/-- Every generator returns a password of an allowed length, with a character of every group
that is covered and with a required custom character if there is one. For a group that is not
covered some generator returns a password without any of its characters. -/
theorem generated_meets_covered (hrules : parsedRules parseExternal text = .ok rules)
    (hrequest : parsePasswordRules parseExternal text = .ok request)
    (hoptions : request.validateOptions = .ok options) :
    (∀ (ρ : Type) (source : RandomSource Char ρ) (rng : ρ), ∃ password,
      passwordWithRng source rng options = some password ∧
      ((∃ length, 5 ≤ length ∧ length ≤ 128 ∧ rules.LengthAllowed length) →
        rules.LengthAllowed password.toList.length) ∧
      (∀ group ∈ rules.required, (∃ c, isAsciiGraphic c = true ∧ InGroup group c) →
        rules.Covers group → ∃ c ∈ password.toList, InGroup group c) ∧
      (rules.customRequired ≠ [] → ∃ c ∈ password.toList, c ∈ rules.customRequired)) ∧
    ∀ group ∈ rules.required, ¬ rules.Covers group → ∃ script password,
      passwordWithRng scripted script options = some password ∧
        ∀ c ∈ password.toList, ¬ InGroup group c := by
  have htranslated := translated_of_parse hrules hrequest
  obtain ⟨⟨hset, -, hminimum, -⟩, rfl⟩ :=
    validateOptions_eq_ok_iff.mp hoptions
  constructor
  · intro ρ source rng
    obtain ⟨password, hpassword, hmet⟩ :=
      exists_metBy hset hminimum source rng
    refine ⟨password, hpassword, ?_, ?_, ?_⟩
    · rintro ⟨length, hmin, hmax, hallowed⟩
      rw [hmet.length]
      exact lengthAllowed_of_resolveLength htranslated.length hmin hmax hallowed
    · intro group hgroup hgraphic hcovers
      exact htranslated.exists_mem_group hmet hgroup hcovers hgraphic
    · intro hcustom
      exact htranslated.exists_mem_customRequired hmet hcustom
  · intro group _ hcovers
    exact exists_passwordWithRng (fun c => ¬ InGroup group c) (htranslated.exists_avoiding hcovers)

def upperAndCustom : PasswordRules where
  minLength := none
  maxLength := some 12
  maxConsecutive := none
  allowed := []
  required := [[.upper], [.custom ['!', '#']]]

def upperAndCustomRequest : PasswordGeneratorRequest where
  lowercase := false
  uppercase := true
  numbers := false
  special := false
  length := 12
  avoidAmbiguous := false
  minLowercase := none
  minUppercase := some 1
  minNumber := none
  minSpecial := none
  customRequiredChars := some "!#"
  customAllowedChars := some "!#"
  maxConsecutive := none

def upperAndCustomText : String := "required: upper; required: [!#]; maxlength: 12"

theorem parsedRules_upperAndCustom :
    parsedRules (fun _ => .ok upperAndCustom) upperAndCustomText = .ok upperAndCustom := by
  decide +kernel

theorem parsePasswordRules_upperAndCustom :
    parsePasswordRules (fun _ => .ok upperAndCustom) upperAndCustomText =
      .ok upperAndCustomRequest := by
  decide +kernel

theorem generated_meets_upperAndCustom :
    ∃ password,
      passwordWithRng scripted [5, 7] upperAndCustomRequest.options = some password ∧
      password.toList.length ≤ 12 ∧ (∃ c ∈ password.toList, c ∈ upperChars) ∧
        ∃ c ∈ password.toList, c ∈ ['!', '#'] := by
  have hoptions : upperAndCustomRequest.validateOptions =
      .ok upperAndCustomRequest.options := by decide +kernel
  obtain ⟨password, hpassword, hlength, hgroups, hcustom⟩ := (generated_meets_covered
    parsedRules_upperAndCustom parsePasswordRules_upperAndCustom hoptions).1 (List ℕ)
    scripted [5, 7]
  obtain ⟨c, hc, cls, hcls, hcontains⟩ := hgroups [.upper] (by decide)
    ⟨'A', by decide, .upper, by decide, show 'A' ∈ upperChars by decide⟩
    (.inl ⟨.upper, by decide, fun c hc => ⟨.upper, by decide, hc⟩⟩)
  cases mem_singleton.mp hcls
  refine ⟨password, hpassword, ?_, ⟨c, hc, hcontains⟩, hcustom (by decide)⟩
  exact (hlength ⟨12, by decide, by decide, nofun, by simp [upperAndCustom]⟩).2 12 rfl

def twoCustomGroups : PasswordRules where
  minLength := none
  maxLength := none
  maxConsecutive := none
  allowed := []
  required := [[.custom ['a', 'b', 'c']], [.custom ['1', '2', '3']]]

/-- The custom characters of both groups are pooled, so that one group can be missed. -/
theorem custom_group_missed :
    (parsePasswordRules (fun _ => .ok twoCustomGroups)
        "required: [abc]; required: [123]").toOption.bind (fun request =>
      request.validateOptions.toOption.bind fun options =>
        passwordWithRng scripted (List.replicate 16 3) options) =
      some "aaaaaaaaaaaaaaaa" ∧
    ¬ twoCustomGroups.Conforms "aaaaaaaaaaaaaaaa" := by
  constructor
  · decide +kernel
  · intro h
    have hlist : "aaaaaaaaaaaaaaaa".toList = replicate 16 'a' := by decide +kernel
    obtain ⟨c, hc, cls, hcls, hcontains⟩ := h.required [.custom ['1', '2', '3']]
      (mem_cons_of_mem _ mem_cons_self)
      ⟨'1', by decide, .custom ['1', '2', '3'], mem_cons_self, mem_cons_self⟩
    rw [hlist] at hc
    cases eq_of_mem_replicate hc
    cases mem_singleton.mp hcls
    exact absurd hcontains (show 'a' ∉ ['1', '2', '3'] by decide)

/-- The request is accepted, and then every generator returns a password, unless the rules
limit runs to zero or name only classes without graphic characters as allowed. -/
theorem validateOptions_of_parse_iff (hrules : parsedRules parseExternal text = .ok rules)
    (hrequest : parsePasswordRules parseExternal text = .ok request) :
    (∃ options, request.validateOptions = .ok options ∧
      ∀ (ρ : Type) (source : RandomSource Char ρ) (rng : ρ), ∃ password,
        passwordWithRng source rng options = some password) ↔
    rules.maxConsecutive ≠ some 0 ∧
      (rules.allowed = [] ∨ ∃ c, isAsciiGraphic c = true ∧ InGroup rules.classes c) := by
  have htranslated := translated_of_parse hrules hrequest
  have hlength := htranslated.length_ge
  rw [← htranslated.hasSet_iff, ne_eq, ← htranslated.maxConsecutive_zero_iff]
  constructor
  · rintro ⟨options, hoptions, -⟩
    obtain ⟨⟨hset, -, -, hmax⟩, -⟩ :=
      validateOptions_eq_ok_iff.mp hoptions
    exact ⟨hmax, hset⟩
  · rintro ⟨hmax, hset⟩
    have hfour : 4 ≤ request.length := by
      exact le_trans (by decide) hlength
    have hroom := htranslated.minimumLength_le.trans hlength
    refine ⟨request.options, validateOptions_eq_ok_iff.mpr
      ⟨⟨hset, hfour, hroom, hmax⟩, rfl⟩, ?_⟩
    intro ρ source rng
    obtain ⟨password, hpassword, -⟩ :=
      exists_metBy hset hroom source rng
    exact ⟨password, hpassword⟩

theorem upperAndCustom_accepted :
    ∃ options, upperAndCustomRequest.validateOptions = .ok options ∧
      ∀ (ρ : Type) (source : RandomSource Char ρ) (rng : ρ), ∃ password,
        passwordWithRng source rng options = some password := by
  exact (validateOptions_of_parse_iff parsedRules_upperAndCustom
    parsePasswordRules_upperAndCustom).mpr ⟨by decide, .inl rfl⟩

/-- The rules `max-consecutive: 0` and `allowed: [ ]`, whose only class has no graphic character,
are parsed into requests that are rejected. -/
theorem accepted_rules_rejected_as_request :
    (parsePasswordRules (fun _ => .ok ⟨none, none, some 0, [], []⟩)
        "max-consecutive: 0").map PasswordGeneratorRequest.validateOptions =
      .ok (.error .invalidLength) ∧
    (parsePasswordRules (fun _ => .ok ⟨none, none, none, [.custom [' ']], []⟩)
        "allowed: [ ]").map PasswordGeneratorRequest.validateOptions =
      .ok (.error .noCharacterSetEnabled) := by
  constructor
  · decide +kernel
  · decide +kernel

end

end SdkInternal.Generators
