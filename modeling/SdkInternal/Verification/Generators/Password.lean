import SdkInternal.Model.Generators.Password

/-! # Generated passwords

A generated password is a rearrangement of the characters that were drawn. What is drawn for
a validated request is never drawn from an empty set. -/

namespace SdkInternal.Generators

open Shared List RandomSource

/-! ## Rearrangement -/

theorem swapIfInBounds_perm (buf : Array Char) (i j : ℕ) :
    (buf.swapIfInBounds i j).toList.Perm buf.toList := by
  unfold Array.swapIfInBounds
  split
  · split
    · exact (Array.swap_perm _ _).toList
    · rfl
  · rfl

theorem repairLoop_perm (limit remaining run i : ℕ) (buf : Array Char) :
    (repairLoop limit remaining run i buf).toList.Perm buf.toList := by
  induction remaining generalizing run i buf with
  | zero => rfl
  | succ remaining ih =>
    rw [repairLoop]
    split
    · split
      · split
        · exact (ih _ _ _).trans (swapIfInBounds_perm _ _ _)
        · rfl
      · exact ih _ _ _
    · exact ih _ _ _

theorem repairConsecutive_perm (buf : Array Char) (limit : ℕ) :
    (repairConsecutive buf limit).toList.Perm buf.toList := by
  rw [repairConsecutive]
  split
  · rfl
  · exact repairLoop_perm _ _ _ _ _

section Random

variable {ρ : Type} (source : RandomSource Char ρ)

theorem reshuffle_perm (limit tries : ℕ) (rng : ρ) (buf : Array Char) :
    (reshuffle source limit tries rng buf).toList.Perm buf.toList := by
  induction tries generalizing rng buf with
  | zero => rfl
  | succ tries ih =>
    rw [reshuffle]
    split
    · exact (ih _ _).trans (source.shuffle_perm rng buf)
    · rfl

/-! ## Generation -/

theorem passwordWithRng_of_drawAll {options : PasswordGeneratorOptions} {rng rng' : ρ}
    {drawn : List Char} (h : source.drawAll rng options.draws = some (drawn, rng')) :
    ∃ password, passwordWithRng source rng options = some password ∧
      password.toList.Perm drawn := by
  have hshuffle := source.shuffle_perm rng' drawn.toArray
  simp only [passwordWithRng, h, Option.bind_eq_bind, Option.bind_some]
  refine ⟨_, rfl, ?_⟩
  rw [String.toList_ofList]
  cases options.maxConsecutive with
  | none => exact hshuffle
  | some limit =>
    have hreshuffle := reshuffle_perm source limit maxReshuffles
      (source.shuffle rng' drawn.toArray).2 (source.shuffle rng' drawn.toArray).1
    simp only
    split
    · exact (repairConsecutive_perm _ _).trans (hreshuffle.trans hshuffle)
    · exact hreshuffle.trans hshuffle

/-- Every generator returns a password, whose characters are those that were drawn. -/
theorem passwordWithRng_spec {options : PasswordGeneratorOptions}
    (h : ∀ draw ∈ options.draws, 0 < draw.2 → draw.1 ≠ []) (rng : ρ) :
    ∃ parts password, passwordWithRng source rng options = some password ∧
      password.toList.Perm parts.flatten ∧ Parts parts options.draws := by
  obtain ⟨parts, rng', hdraw, hparts⟩ := source.drawAll_spec rng h
  obtain ⟨password, hpassword, hperm⟩ := passwordWithRng_of_drawAll source hdraw
  exact ⟨parts, password, hpassword, hperm, hparts⟩

end Random

/-- Some generator draws only characters with a property that all sets have. -/
theorem exists_passwordWithRng (p : Char → Prop) {options : PasswordGeneratorOptions}
    (h : ∀ draw ∈ options.draws, 0 < draw.2 → ∃ c ∈ draw.1, p c) :
    ∃ script password, passwordWithRng scripted script options = some password ∧
      ∀ c ∈ password.toList, p c := by
  obtain ⟨script, drawn, hdraw, hp⟩ := exists_script p h
  obtain ⟨password, hpassword, hperm⟩ :=
    passwordWithRng_of_drawAll scripted hdraw
  exact ⟨script, password, hpassword, fun c hc => hp c (hperm.mem_iff.mp hc)⟩

/-! ## Character sets -/

section

variable {c : Char} {set : CharSet} {predicate : Bool} {other : List Char}

@[simp] theorem CharSet.mem_includeIf :
    c ∈ set.includeIf predicate other ↔ c ∈ set ∨ predicate = true ∧ c ∈ other := by
  cases predicate with
  | true | false => simp [CharSet.includeIf]

@[simp] theorem CharSet.mem_includeAll : c ∈ set.includeAll other ↔ c ∈ set ∨ c ∈ other := by
  simp [CharSet.includeAll]

@[simp] theorem CharSet.mem_excludeIf :
    c ∈ set.excludeIf predicate other ↔ c ∈ set ∧ ¬ (predicate = true ∧ c ∈ other) := by
  cases predicate with
  | true | false => simp [CharSet.excludeIf]

theorem mem_sanitizeCustomChars {s : String} :
    c ∈ sanitizeCustomChars s ↔ c ∈ s.toList ∧ isAsciiGraphic c = true := by
  rw [sanitizeCustomChars, mem_eraseDups, mem_filter]

end

/-! ## Standard classes -/

inductive StandardClass where
  | upper
  | lower
  | digit
  | special
  deriving DecidableEq

theorem StandardClass.exists_iff {p : StandardClass → Prop} :
    (∃ k, p k) ↔ p .upper ∨ p .lower ∨ p .digit ∨ p .special := by
  constructor
  · rintro ⟨k, h⟩
    cases k <;> simp [h]
  · rintro (h | h | h | h) <;> exact ⟨_, h⟩

def StandardClass.chars : StandardClass → List Char
  | .upper => upperChars
  | .lower => lowerChars
  | .digit => numberChars
  | .special => specialChars

namespace PasswordGeneratorRequest

variable (self : PasswordGeneratorRequest)

def enables : StandardClass → Bool
  | .upper => self.uppercase
  | .lower => self.lowercase
  | .digit => self.numbers
  | .special => self.special

def minimum : StandardClass → Option UInt8
  | .upper => self.minUppercase
  | .lower => self.minLowercase
  | .digit => self.minNumber
  | .special => self.minSpecial

def draw : StandardClass → CharSet × ℕ
  | .upper => self.upper
  | .lower => self.lower
  | .digit => self.number
  | .special => self.specials

variable {self : PasswordGeneratorRequest} {k : StandardClass} {c : Char}

theorem draw_snd : (self.draw k).2 = getMinimum (self.minimum k) (self.enables k) := by
  cases k <;> rfl

theorem getMinimum_pos {min : Option UInt8} {enabled : Bool} :
    0 < getMinimum min enabled ↔ enabled = true := by
  cases enabled with
  | true | false => simp [getMinimum]

theorem exists_mem_draw (h : self.enables k = true) : ∃ c, c ∈ (self.draw k).1 := by
  have hupper : 'A' ∈ upperChars ∧ 'A' ∉ upperCharsAmbiguous := by decide
  have hlower : 'a' ∈ lowerChars ∧ 'a' ∉ lowerCharsAmbiguous := by decide
  have hdigit : '2' ∈ numberChars ∧ '2' ∉ numberCharsAmbiguous := by decide
  have hspecial : '!' ∈ specialChars := by decide
  cases k with
  | upper => exact ⟨'A', by simp_all [draw, upper, enables]⟩
  | lower => exact ⟨'a', by simp_all [draw, lower, enables]⟩
  | digit => exact ⟨'2', by simp_all [draw, number, enables]⟩
  | special => exact ⟨'!', by simp_all [draw, specials, enables]⟩

theorem mem_draw (h : self.avoidAmbiguous = false) :
    c ∈ (self.draw k).1 ↔ self.enables k = true ∧ c ∈ k.chars := by
  cases k <;> simp [draw, upper, lower, number, specials, enables, StandardClass.chars, h]

theorem mem_custom : c ∈ self.custom.1 ↔ c ∈ self.customRequired := by
  simp [custom]

theorem custom_pos : 0 < self.custom.2 ↔ self.customRequired ≠ [] := by
  rw [custom]
  cases self.customRequired <;> simp

theorem mem_all :
    c ∈ self.all ↔
      (∃ k, c ∈ (self.draw k).1) ∨ c ∈ self.customRequired ∨ c ∈ self.customAllowed := by
  simp only [all, foldl_cons, foldl_nil, CharSet.mem_includeAll, OrdSet.not_mem_empty,
    OrdSet.mem_elements, StandardClass.exists_iff, draw, mem_custom]
  tauto

/-! ## Validation -/

def HasSet : Prop :=
  self.lowercase = true ∨ self.uppercase = true ∨ self.numbers = true ∨ self.special = true ∨
    self.customRequired ≠ [] ∨ self.customAllowed ≠ []

theorem hasSet_iff_enables :
    self.HasSet ↔ (∃ k, self.enables k = true) ∨ self.customRequired ≠ [] ∨
      self.customAllowed ≠ [] := by
  simp only [HasSet, StandardClass.exists_iff, enables]
  tauto

theorem HasSet.exists_mem_all (h : self.HasSet) : ∃ c, c ∈ self.all := by
  simp only [mem_all]
  rcases hasSet_iff_enables.mp h with ⟨k, hk⟩ | h | h
  · obtain ⟨c, hc⟩ := exists_mem_draw hk
    exact ⟨c, .inl ⟨k, hc⟩⟩
  · obtain ⟨c, hc⟩ := exists_mem_of_ne_nil _ h
    exact ⟨c, .inr (.inl hc)⟩
  · obtain ⟨c, hc⟩ := exists_mem_of_ne_nil _ h
    exact ⟨c, .inr (.inr hc)⟩

def options : PasswordGeneratorOptions :=
  ⟨self.lower, self.upper, self.number, self.specials, self.custom,
    (self.all, self.length.toNat - self.minimumLength), self.length.toNat,
    self.maxConsecutive.map UInt8.toNat⟩

theorem hasSet_iff :
    self.HasSet ↔ ¬ (!self.lowercase && !self.uppercase && !self.numbers && !self.special &&
      self.customRequired.isEmpty && self.customAllowed.isEmpty) = true := by
  simp only [HasSet, Bool.and_eq_true, Bool.not_eq_true', List.isEmpty_iff, not_and_or,
    Bool.not_eq_false, ne_eq, or_assoc]

theorem validateOptions_eq_ok_iff {result : PasswordGeneratorOptions} :
    self.validateOptions = .ok result ↔
      (self.HasSet ∧ 4 ≤ self.length ∧ self.minimumLength ≤ self.length.toNat ∧
        self.maxConsecutive ≠ some 0) ∧ result = self.options := by
  rw [hasSet_iff, validateOptions]
  split_ifs with hset hshort hroom
  · simp [hset]
  · simp [hset, hshort]
  · simp [hset, hroom]
  · have hlength : 4 ≤ self.length := UInt8.not_lt.mp hshort
    simp only [hset, hlength, not_lt.mp hroom, options]
    cases hmax : self.maxConsecutive with
    | none => simp [eq_comm]
    | some limit =>
      by_cases hzero : limit = 0
      · simp [hzero]
      · simp [hzero, eq_comm]

/-- What a request draws from: all sets together, every standard class, the custom set. -/
theorem mem_draws_iff {draw : List Char × ℕ} :
    draw ∈ self.options.draws ↔
      draw = (self.all.elements, self.length.toNat - self.minimumLength) ∨
        (∃ k, draw = ((self.draw k).1.elements, (self.draw k).2)) ∨
          draw = (self.custom.1.elements, self.custom.2) := by
  simp only [PasswordGeneratorOptions.draws, options, map_cons, map_nil, mem_cons, not_mem_nil,
    or_false, StandardClass.exists_iff, PasswordGeneratorRequest.draw, or_assoc]

theorem draws_nonempty (h : self.HasSet) :
    ∀ draw ∈ self.options.draws, 0 < draw.2 → draw.1 ≠ [] := by
  have hne : ∀ {set : CharSet}, (∃ c, c ∈ set) → set.elements ≠ [] := by
    rintro set ⟨c, hc⟩
    exact ne_nil_of_mem hc
  intro draw hdraw hpos
  rcases mem_draws_iff.mp hdraw with rfl | ⟨k, rfl⟩ | rfl
  · exact hne h.exists_mem_all
  · rw [draw_snd, getMinimum_pos] at hpos
    exact hne (exists_mem_draw hpos)
  · obtain ⟨c, hc⟩ := exists_mem_of_ne_nil _ (custom_pos.mp hpos)
    exact hne ⟨c, mem_custom.mpr hc⟩

theorem sum_draws (h : self.minimumLength ≤ self.length.toNat) :
    (self.options.draws.map Prod.snd).sum = self.length.toNat := by
  simp only [PasswordGeneratorOptions.draws, options, map_cons, map_nil, sum_cons, sum_nil]
  rw [minimumLength] at h ⊢
  omega

theorem minimumLength_le_five (h : ∀ k, (self.draw k).2 ≤ 1) : self.minimumLength ≤ 5 := by
  have hcustom : self.custom.2 ≤ 1 := by
    rw [custom]
    split_ifs <;> simp
  have hlower := h .lower
  have hupper := h .upper
  have hdigit := h .digit
  have hspecial := h .special
  simp only [draw] at hlower hupper hdigit hspecial
  rw [minimumLength]
  omega

/-! ## What a request asks for -/

/-- The length, the sets that may be used, the minimum of every class that is enabled, and a
required custom character if there is one. -/
structure MetBy (request : PasswordGeneratorRequest) (password : List Char) : Prop where
  length : password.length = request.length.toNat
  allowed : ∀ c ∈ password,
    (∃ k, c ∈ (request.draw k).1) ∨ c ∈ request.customRequired ∨ c ∈ request.customAllowed
  minimum : ∀ k, request.enables k = true →
    max ((request.minimum k).getD 1).toNat 1 ≤
      password.countP fun c => c ∈ (request.draw k).1.elements
  custom : request.customRequired ≠ [] → ∃ c ∈ password, c ∈ request.customRequired

theorem metBy_of_parts (hroom : self.minimumLength ≤ self.length.toNat) {parts : List (List Char)}
    (hparts : Parts parts self.options.draws) : self.MetBy parts.flatten where
  length := by rw [hparts.length_flatten, sum_draws hroom]
  allowed := by
    intro c hc
    obtain ⟨draw, hdraw, hmem⟩ := hparts.mem_flatten hc
    rcases mem_draws_iff.mp hdraw with rfl | ⟨k, rfl⟩ | rfl
    · exact mem_all.mp hmem
    · exact .inl ⟨k, hmem⟩
    · exact .inr (.inl (mem_custom.mp hmem))
  minimum := by
    intro k hk
    have hcount := hparts.le_countP (mem_draws_iff.mpr (.inr (.inl ⟨k, rfl⟩)))
      (p := fun c => c ∈ (self.draw k).1.elements) (by simp)
    simpa [draw_snd, getMinimum, hk] using hcount
  custom := by
    intro hcustom
    have hcount := hparts.le_countP (mem_draws_iff.mpr (.inr (.inr rfl)))
      (p := fun c => c ∈ self.custom.1.elements) (by simp)
    have hpos := (custom_pos.mpr hcustom).trans_le hcount
    obtain ⟨c, hc, hmem⟩ := countP_pos_iff.mp hpos
    exact ⟨c, hc, mem_custom.mp (of_decide_eq_true hmem)⟩

theorem MetBy.perm {password drawn : List Char} (h : self.MetBy drawn)
    (hperm : password.Perm drawn) : self.MetBy password where
  length := hperm.length_eq.trans h.length
  allowed c hc := h.allowed c (hperm.mem_iff.mp hc)
  minimum k hk := (h.minimum k hk).trans_eq (hperm.countP_eq _).symm
  custom hcustom := (h.custom hcustom).imp fun _ hc => ⟨hperm.mem_iff.mpr hc.1, hc.2⟩

theorem MetBy.exists_mem_draw {password : List Char} (h : self.MetBy password)
    (hk : self.enables k = true) : ∃ c ∈ password, c ∈ (self.draw k).1 := by
  obtain ⟨c, hc, hmem⟩ :=
    countP_pos_iff.mp ((Nat.le_max_right _ 1).trans (h.minimum k hk))
  exact ⟨c, hc, of_decide_eq_true hmem⟩

theorem exists_metBy (hset : self.HasSet) (hroom : self.minimumLength ≤ self.length.toNat)
    {ρ : Type} (source : RandomSource Char ρ) (rng : ρ) :
    ∃ password, passwordWithRng source rng self.options = some password ∧
      self.MetBy password.toList := by
  obtain ⟨parts, password, hpassword, hperm, hparts⟩ :=
    passwordWithRng_spec source (draws_nonempty hset) rng
  exact ⟨password, hpassword, (metBy_of_parts hroom hparts).perm hperm⟩

/-- The minimums of an accepted request leave room, and every generator returns a password that
meets it. -/
theorem generated_meets_request {options : PasswordGeneratorOptions}
    (h : self.validateOptions = .ok options) :
    self.minimumLength ≤ self.length.toNat ∧
      ∀ (ρ : Type) (source : RandomSource Char ρ) (rng : ρ), ∃ password,
        passwordWithRng source rng options = some password ∧ self.MetBy password.toList := by
  obtain ⟨⟨hset, -, hroom, -⟩, rfl⟩ := validateOptions_eq_ok_iff.mp h
  exact ⟨hroom, fun _ => exists_metBy hset hroom⟩

def demandingRequest : PasswordGeneratorRequest :=
  { (default : PasswordGeneratorRequest) with
    minUppercase := some 3
    minNumber := some 2
    customRequiredChars := some "-_é"
    maxConsecutive := some 1 }

theorem demandingRequest_met :
    ∃ password, passwordWithRng scripted [3, 1, 4] demandingRequest.options = some password ∧
      demandingRequest.MetBy password.toList :=
  (generated_meets_request (by decide +kernel)).2 _ _ _

end PasswordGeneratorRequest

end SdkInternal.Generators
