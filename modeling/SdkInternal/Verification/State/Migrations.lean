import SdkInternal.Model.State.Migrations

/-! # Migrations and stored data

Both backends perform the whole list of steps again, not only the steps that are new. SQLite then
empties a store that some step removes and a later step adds. IndexedDB refuses to create a store
that is there already, so that a longer list hardly ever opens. -/

namespace SdkInternal.State

open Shared List Option RepositoryMigrationStep RepositoryMigrations AList

variable {tables after : Tables} {data : RepositoryItemData} {table : Option Table}
  {steps first second : List RepositoryMigrationStep}

/-! ## One store -/

/-- What a step does to the store of `data`, if creating an existing store leaves it as it is. -/
def tableStep (data : RepositoryItemData) (table : Option Table) :
    RepositoryMigrationStep → Option Table
  | .add other => if other = data then some (table.getD ∅) else table
  | .remove other => if other = data then none else table

def tableAfter (data : RepositoryItemData) (table : Option Table)
    (steps : List RepositoryMigrationStep) : Option Table :=
  steps.foldl (tableStep data) table

@[simp] theorem tableAfter_nil : tableAfter data table [] = table := rfl

@[simp] theorem tableAfter_cons (step : RepositoryMigrationStep) :
    tableAfter data table (step :: steps) = tableAfter data (tableStep data table step) steps := rfl

@[simp] theorem tableAfter_append :
    tableAfter data table (first ++ second) =
      tableAfter data (tableAfter data table first) second :=
  foldl_append

/-- The last step on the store adds it. -/
def Leaves (steps : List RepositoryMigrationStep) (data : RepositoryItemData) : Prop :=
  steps.reverse.find? (·.data = data) = some (.add data)

variable {step : RepositoryMigrationStep}

theorem leaves_concat :
    Leaves (steps ++ [step]) data ↔ step = .add data ∨ step.data ≠ data ∧ Leaves steps data := by
  unfold Leaves
  by_cases hstep : step.data = data
  · simp [hstep]
  · have hne : step ≠ .add data := by
      rintro rfl
      exact hstep rfl
    simp [hstep, hne]

theorem Leaves.exists_mem (h : Leaves steps data) : ∃ step ∈ steps, step.data = data :=
  ⟨.add data, mem_reverse.mp (mem_of_find?_eq_some h), rfl⟩

open Classical in
/-- What the steps make of a store: the last step on it decides whether it exists, and it keeps its
items unless some step removes it. -/
theorem tableAfter_eq (data : RepositoryItemData) (table : Option Table)
    (steps : List RepositoryMigrationStep) :
    tableAfter data table steps =
      if Leaves steps data then some (if .remove data ∈ steps then ∅ else table.getD ∅)
      else if .remove data ∈ steps then none else table := by
  induction steps using reverseRecOn with
  | nil => simp [Leaves]
  | append_singleton steps step ih =>
    rw [tableAfter_append, ih]
    simp only [leaves_concat, mem_append, mem_singleton]
    by_cases hstep : step.data = data
    · cases step with
      | add added =>
        obtain rfl : added = data := hstep
        by_cases hleaves : Leaves steps added <;> by_cases hremoved : .remove added ∈ steps <;>
          simp [tableStep, hleaves, hremoved]
      | remove removed =>
        obtain rfl : removed = data := hstep
        simp [tableStep, RepositoryMigrationStep.data]
    · have hne : step ≠ .add data ∧ .remove data ≠ step := by
        constructor <;> rintro rfl <;> exact hstep rfl
      cases step <;> simp_all [tableStep, RepositoryMigrationStep.data]

theorem isSome_tableAfter_iff :
    (tableAfter data table steps).isSome = true ↔
      Leaves steps data ∨ (∀ step ∈ steps, step.data ≠ data) ∧ table.isSome = true := by
  induction steps using reverseRecOn with
  | nil => simp [Leaves]
  | append_singleton steps step ih =>
    rw [leaves_concat]
    by_cases hstep : step.data = data
    · cases step <;> simp_all [tableStep, RepositoryMigrationStep.data]
    · have hne : step ≠ .add data := by
        rintro rfl
        exact hstep rfl
      have hkept : tableStep data (tableAfter data table steps) step =
          tableAfter data table steps := by
        cases step <;> exact if_neg hstep
      simp [hkept, ih, hstep, hne, or_imp, forall_and]

theorem tableAfter_some {contents : Table} (h : .remove data ∉ steps) :
    tableAfter data (some contents) steps = some contents := by
  simp [tableAfter_eq, h]

theorem eq_empty_of_tableAfter_eq_some (h : .remove data ∈ steps) {contents : Table}
    (hafter : tableAfter data table steps = some contents) : contents = ∅ := by
  rw [tableAfter_eq] at hafter
  simp only [h, if_true, ite_none_right_eq_some, some.injEq] at hafter
  exact hafter.2.symm

/-! ## The stores of a list -/

/-- Every step that adds a store finds it absent. -/
def AddsAbsent (tables : Tables) (steps : List RepositoryMigrationStep) : Prop :=
  ∀ before data rest, steps = before ++ .add data :: rest →
    tableAfter data (tables.lookup data) before = none

/-- The stores are those that the list leaves. -/
def OpenedWith (steps : List RepositoryMigrationStep) (tables : Tables) : Prop :=
  ∀ data, (tables.lookup data).isSome = true ↔ Leaves steps data

/-! ## Performing the steps -/

theorem lookup_insert_empty {added : RepositoryItemData} (h : tables.lookup added = none) :
    (tables.insert added ∅).lookup data = tableStep data (tables.lookup data) (.add added) := by
  by_cases hdata : data = added
  · subst hdata
    simp [tableStep, h]
  · rw [tableStep, if_neg (Ne.symm hdata), lookup_insert_ne hdata]

theorem lookup_erase_eq (removed : RepositoryItemData) :
    (tables.erase removed).lookup data =
      tableStep data (tables.lookup data) (.remove removed) := by
  by_cases hdata : data = removed
  · subst hdata
    simp [tableStep]
  · rw [tableStep, if_neg (Ne.symm hdata), lookup_erase_ne hdata]

@[simp] theorem sqliteTable_eq (data : RepositoryItemData) : sqliteTable data = data.foldCase := by
  simp [sqliteTable, validateIdentifier, data.valid]

theorem sqliteStep_eq (tables : Tables) (step : RepositoryMigrationStep) :
    ∃ next, sqliteStep tables step = some next ∧
      ∀ data, next.lookup data = tableStep data (tables.lookup data) step.foldCase := by
  cases step with
  | add added =>
    cases hfound : tables.lookup added.foldCase with
    | none => exact ⟨_, by simp [sqliteStep, hfound], fun data => lookup_insert_empty hfound⟩
    | some contents =>
      refine ⟨tables, by simp [sqliteStep, hfound], ?_⟩
      intro data
      rw [foldCase, tableStep]
      split
      next h => rw [← h, hfound]; rfl
      next => rfl
  | remove removed =>
    exact ⟨_, by simp [sqliteStep], fun data => lookup_erase_eq removed.foldCase⟩

theorem exists_run_sqliteStep (steps : List RepositoryMigrationStep) (tables : Tables) :
    ∃ after, run sqliteStep tables steps = some after ∧
      ∀ data, after.lookup data =
        tableAfter data (tables.lookup data) (steps.map foldCase) := by
  induction steps generalizing tables with
  | nil => exact ⟨tables, rfl, fun data => rfl⟩
  | cons step steps ih =>
    obtain ⟨next, hnext, hlookup⟩ := sqliteStep_eq tables step
    obtain ⟨after, hrun, hafter⟩ := ih next
    refine ⟨after, by rw [run_cons, hnext, bind_some, hrun], ?_⟩
    intro data
    rw [hafter, hlookup, map_cons, tableAfter_cons]

theorem indexedDbStep_eq_some {next : Tables} (h : indexedDbStep tables step = some next)
    (data : RepositoryItemData) : next.lookup data = tableStep data (tables.lookup data) step := by
  cases step with
  | add added =>
    simp only [indexedDbStep] at h
    split at h
    next => cases h
    next habsent =>
      cases h
      exact lookup_insert_empty (by simpa using habsent)
  | remove removed =>
    cases h
    exact lookup_erase_eq removed

theorem lookup_of_run_indexedDbStep (h : run indexedDbStep tables steps = some after)
    (data : RepositoryItemData) :
    after.lookup data = tableAfter data (tables.lookup data) steps := by
  induction steps generalizing tables with
  | nil =>
    cases h
    rfl
  | cons step steps ih =>
    rw [run_cons, bind_eq_some_iff] at h
    obtain ⟨next, hnext, hrest⟩ := h
    rw [ih hrest, indexedDbStep_eq_some hnext, tableAfter_cons]

theorem isSome_run_indexedDbStep_iff :
    (run indexedDbStep tables steps).isSome = true ↔ AddsAbsent tables steps := by
  induction steps generalizing tables with
  | nil =>
    simp only [run_nil, isSome_some, true_iff]
    rintro before data rest h
    simp at h
  | cons step steps ih =>
    rw [run_cons]
    cases hstep : indexedDbStep tables step with
    | none =>
      simp only [bind_none, isSome_none, Bool.false_eq_true, false_iff]
      intro habsent
      cases step with
      | add added =>
        have hnone := habsent [] added steps rfl
        rw [tableAfter_nil] at hnone
        simp [indexedDbStep, hnone] at hstep
      | remove removed => cases hstep
    | some next =>
      rw [bind_some, ih]
      have hlookup := indexedDbStep_eq_some hstep
      constructor
      · rintro habsent before data rest hsplit
        cases before with
        | nil =>
          obtain ⟨rfl, -⟩ := cons.inj hsplit
          simp only [indexedDbStep] at hstep
          split at hstep
          next => cases hstep
          next hnone => simpa using hnone
        | cons head before =>
          obtain ⟨rfl, hsteps⟩ := cons.inj hsplit
          rw [tableAfter_cons, ← hlookup]
          exact habsent before data rest hsteps
      · rintro habsent before data rest rfl
        rw [hlookup]
        exact habsent (step :: before) data rest rfl

/-! ## Opening again -/

variable (opened added : List RepositoryMigrationStep)

/-- Opening with more steps leaves the stores of the whole list, with what no new step removes, and
opening with the same steps changes nothing. -/
structure KeepsData (before after : Tables) : Prop where
  stores : OpenedWith (opened ++ added) after
  items : ∀ data contents, before.lookup data = some contents → .remove data ∉ added →
    after.lookup data = some contents
  unchanged : added = [] → ∀ data, after.lookup data = before.lookup data

/-- No store with items is removed by a step that was performed before it was filled. -/
def NotReadded (tables : Tables) : Prop :=
  ∀ data contents, tables.lookup data = some contents → contents ≠ ∅ →
    .remove data ∉ added → .remove data ∉ opened

/-- There are steps, but no new ones, or they begin by removing every store that is there, and new
steps remove those with items. -/
def Replayable (tables : Tables) : Prop :=
  opened ++ added ≠ [] ∧ (added = [] ∨
    ((∀ data, Leaves opened data → opened.find? (·.data = data) = some (.remove data)) ∧
      ∀ data contents, tables.lookup data = some contents → contents ≠ ∅ →
        .remove data ∈ added))

variable {opened added : List RepositoryMigrationStep}

section

variable (hopened : OpenedWith opened tables)

include hopened

section

variable (h : ∀ data, after.lookup data = tableAfter data (tables.lookup data) (opened ++ added))

include h

theorem openedWith_of_lookup : OpenedWith (opened ++ added) after := by
  intro data
  rw [h, isSome_tableAfter_iff, or_iff_left]
  rintro ⟨hnone, hsome⟩
  obtain ⟨step, hstep, hdata⟩ := ((hopened data).mp hsome).exists_mem
  exact hnone step (mem_append_left added hstep) hdata

/-- Performing all steps keeps the data if and only if the items of every store that no new step
removes survive. -/
theorem keepsData_iff : KeepsData opened added tables after ↔ NotReadded opened added tables := by
  constructor
  · intro hkeeps data contents hcontents hne hnew hold
    have hkept := hkeeps.items data contents hcontents hnew
    rw [h] at hkept
    exact hne (eq_empty_of_tableAfter_eq_some (mem_append_left added hold) hkept)
  · intro hsafe
    have hitems : ∀ data contents, tables.lookup data = some contents → .remove data ∉ added →
        after.lookup data = some contents := by
      intro data contents hcontents hnew
      have hleaves := (hopened data).mp (by rw [hcontents]; rfl)
      rw [h, hcontents, tableAfter_append, tableAfter_eq data (some contents) opened,
        if_pos hleaves, tableAfter_some hnew]
      by_cases hold : .remove data ∈ opened
      · -- Only an empty store is removed and added again.
        have hempty : contents = ∅ := by
          by_contra hne
          exact hsafe data contents hcontents hne hnew hold
        simp [hold, hempty]
      · simp [hold]
    refine ⟨openedWith_of_lookup hopened h, hitems, ?_⟩
    rintro rfl data
    cases hfound : tables.lookup data with
    | some contents => exact hitems data contents hfound (by simp)
    | none =>
      have hstores := openedWith_of_lookup hopened h data
      rw [append_nil, ← hopened data, hfound] at hstores
      simpa using hstores

end

theorem addsAbsent_iff (hvalid : AddsAbsent ∅ (opened ++ added)) :
    AddsAbsent tables (opened ++ added) ↔
      ∀ data, Leaves opened data → opened.find? (·.data = data) = some (.remove data) := by
  constructor
  · intro habsent data hleaves
    obtain ⟨step, hmem, hdata⟩ := hleaves.exists_mem
    cases hfind : opened.find? (·.data = data) with
    | none => exact absurd hdata (by simpa using find?_eq_none.mp hfind step hmem)
    | some found =>
      obtain ⟨hfound, before, rest, hsplit, hbefore⟩ := find?_eq_some_iff_append.mp hfind
      have hname : found.data = data := by simpa using hfound
      cases found with
      | remove removed =>
        obtain rfl : removed = data := hname
        rfl
      | add first =>
        obtain rfl : first = data := hname
        have hnone := habsent before first (rest ++ added) (by simp [hsplit])
        have hsome := isSome_tableAfter_iff.mpr
          (.inr ⟨by simpa using hbefore, (hopened first).mpr hleaves⟩)
        rw [hnone] at hsome
        cases hsome
  · intro hfirst before data rest hsplit
    have hideal := hvalid before data rest hsplit
    cases hfound : tables.lookup data with
    | none => exact hideal
    | some contents =>
      have hleaves := (hopened data).mp (by rw [hfound]; rfl)
      -- The first step on the store is not the one that adds it here, so it comes before.
      have hmem : ∃ step ∈ before, step.data = data := by
        by_contra hnone
        push Not at hnone
        have hfind : (opened ++ added).find? (·.data = data) = some (.remove data) := by
          rw [find?_append, hfirst data hleaves]
          rfl
        rw [hsplit, find?_append, find?_eq_none.mpr (by simpa using hnone),
          find?_cons_of_pos (by simp [RepositoryMigrationStep.data])] at hfind
        cases hfind
      rw [← not_isSome_iff_eq_none, isSome_tableAfter_iff] at hideal ⊢
      rintro (hlast | ⟨hnone, -⟩)
      · exact hideal (.inl hlast)
      · obtain ⟨step, hstep, hdata⟩ := hmem
        exact hnone step hstep hdata

/-- If the steps begin by removing each store, only new steps that remove the stores with items keep
the rest. -/
theorem notReadded_iff_of_removedFirst
    (hfirst : ∀ data, Leaves opened data → opened.find? (·.data = data) = some (.remove data)) :
    NotReadded opened added tables ↔
      ∀ data contents, tables.lookup data = some contents → contents ≠ ∅ →
        .remove data ∈ added := by
  constructor
  · intro hsafe data contents hcontents hne
    by_contra hnew
    have hleaves := (hopened data).mp (by rw [hcontents]; rfl)
    have hold := mem_of_find?_eq_some (hfirst data hleaves)
    exact hsafe data contents hcontents hne hnew hold
  · intro hremoved data contents hcontents hne hnew
    exact absurd (hremoved data contents hcontents hne) hnew

end

/-- The callback opens the longer list and keeps the data if and only if the steps can be performed
again and new steps remove the stores with items. -/
theorem upgrade_keepsData_iff (hvalid : AddsAbsent ∅ (opened ++ added))
    (hopened : OpenedWith opened tables) :
    (∃ after, run indexedDbStep tables (opened ++ added) = some after ∧
        KeepsData opened added tables after) ↔
      (∀ data, Leaves opened data → opened.find? (·.data = data) = some (.remove data)) ∧
        ∀ data contents, tables.lookup data = some contents → contents ≠ ∅ →
          .remove data ∈ added := by
  have hsucceeds : (run indexedDbStep tables (opened ++ added)).isSome = true ↔
      ∀ data, Leaves opened data → opened.find? (·.data = data) = some (.remove data) :=
    isSome_run_indexedDbStep_iff.trans (addsAbsent_iff hopened hvalid)
  constructor
  · rintro ⟨after, hrun, hkeeps⟩
    have hfirst := hsucceeds.mp (by rw [hrun]; rfl)
    have hsafe := (keepsData_iff hopened (lookup_of_run_indexedDbStep hrun)).mp hkeeps
    exact ⟨hfirst, (notReadded_iff_of_removedFirst hopened hfirst).mp hsafe⟩
  · rintro ⟨hfirst, hremoved⟩
    obtain ⟨after, hrun⟩ := isSome_iff_exists.mp (hsucceeds.mpr hfirst)
    have hsafe := (notReadded_iff_of_removedFirst hopened hfirst).mpr hremoved
    exact ⟨after, hrun, (keepsData_iff hopened (lookup_of_run_indexedDbStep hrun)).mpr hsafe⟩

/-- Opening IndexedDB with more steps than it was opened with runs the callback. -/
theorem initializeIndexedDb_eq (h : added ≠ []) (tables : Tables) :
    initializeIndexedDb ⟨opened.length, tables⟩ (.new (opened ++ added)) =
      (run indexedDbStep tables (opened ++ added)).map
        (IndexedDb.mk (opened.length + added.length)) := by
  have hpos : 0 < added.length := length_pos_iff.mpr h
  simp only [initializeIndexedDb, new, length_append]
  rw [if_neg (by omega), if_pos (by omega)]
  cases run indexedDbStep tables (opened ++ added) <;> rfl

/-- A database that was opened with some steps, filled, and opened with more steps keeps its data,
if and only if its stores are not removed and added again, for SQLite, whose stores are named
without regard to case, and if and only if the steps can be performed again, for IndexedDB. -/
theorem migrations_keepData_iff (opened added : List RepositoryMigrationStep) (tables : Tables) :
    (OpenedWith (opened.map foldCase) tables →
      ((∃ after, initializeInternal tables (.new (opened ++ added)) = some after ∧
          KeepsData (opened.map foldCase) (added.map foldCase) tables after) ↔
        NotReadded (opened.map foldCase) (added.map foldCase) tables)) ∧
    (AddsAbsent ∅ (opened ++ added) → OpenedWith opened tables →
      ((∃ after, initializeIndexedDb ⟨opened.length, tables⟩ (.new (opened ++ added)) = some after ∧
          KeepsData opened added tables after.stores) ↔ Replayable opened added tables)) := by
  constructor
  · intro hopened
    obtain ⟨after, hrun, hlookup⟩ := exists_run_sqliteStep (opened ++ added) tables
    have hinit : initializeInternal tables (.new (opened ++ added)) = some after := hrun
    rw [map_append] at hlookup
    simp [hinit, keepsData_iff hopened hlookup]
  · intro hvalid hopened
    by_cases hadded : added = []
    · subst hadded
      rw [append_nil, Replayable, append_nil]
      by_cases hnone : opened = []
      · simp [hnone, initializeIndexedDb, new]
      · have hsame : initializeIndexedDb ⟨opened.length, tables⟩ (.new opened) =
            some ⟨opened.length, tables⟩ := by
          simp [initializeIndexedDb, new, hnone]
        have hkeeps : KeepsData opened [] tables tables :=
          ⟨by simpa using hopened, fun data contents h _ => h, fun _ data => rfl⟩
        exact iff_of_true ⟨_, hsame, hkeeps⟩ ⟨hnone, .inl rfl⟩
    · rw [initializeIndexedDb_eq hadded, Replayable, or_iff_right hadded,
        and_iff_right (by simp [hadded]), ← upgrade_keepsData_iff hvalid hopened]
      simp [map_eq_some_iff]

/-! ## Data that is lost -/

variable (item : RepositoryItemData)

def filledTables : Tables := (∅ : Tables).insert item ((∅ : Table).insert "key" "value")

theorem lookup_filledTables (data : RepositoryItemData) :
    (filledTables item).lookup data =
      if data = item then some ((∅ : Table).insert "key" "value") else none := by
  split
  next h => rw [h, filledTables, lookup_insert]
  next h => rw [filledTables, lookup_insert_ne h, lookup_empty]

theorem filledTables_openedWith {steps : List RepositoryMigrationStep}
    (hsteps : ∀ step ∈ steps, step.data = item) (hleaves : Leaves steps item) :
    OpenedWith steps (filledTables item) := by
  intro data
  rw [lookup_filledTables]
  split
  next h => simp [h, hleaves]
  next h =>
    refine iff_of_false (by simp) fun hother => ?_
    obtain ⟨step, hmem, hdata⟩ := hother.exists_mem
    exact h (hdata.symm.trans (hsteps step hmem))

theorem folderItem_ne : folderItem ≠ cipherItem := by
  simp [folderItem, cipherItem]

theorem folderAdded_valid : AddsAbsent ∅ ([.add cipherItem] ++ [.add folderItem]) := by
  have habsent : ((∅ : Tables).insert cipherItem ∅).lookup folderItem = none := by
    rw [lookup_insert_ne folderItem_ne, lookup_empty]
  rw [insert_empty] at habsent
  rw [← isSome_run_indexedDbStep_iff]
  simp [indexedDbStep, habsent]

theorem cipher_openedWith :
    OpenedWith ([.add cipherItem].map foldCase) (filledTables cipherItem.foldCase) :=
  filledTables_openedWith _ (by simp [foldCase, data]) rfl

/-- SQLite keeps the item when a store is added. -/
theorem folderAdded_keepsItem :
    ∃ after, initializeInternal (filledTables cipherItem.foldCase)
        (.new ([.add cipherItem] ++ [.add folderItem])) = some after ∧
      KeepsData [.add cipherItem.foldCase] [.add folderItem.foldCase]
        (filledTables cipherItem.foldCase) after := by
  apply ((migrations_keepData_iff [.add cipherItem] [.add folderItem] _).1 cipher_openedWith).mpr
  intro data contents _ _ _
  simp [foldCase]

/-- IndexedDB does not open when a store is added, and SQLite empties a store that was removed and
added again when it is opened with the same steps. -/
theorem migrations_loseData :
    (AddsAbsent ∅ ([.add cipherItem] ++ [.add folderItem]) ∧
      OpenedWith [.add cipherItem] (filledTables cipherItem) ∧
      initializeIndexedDb ⟨1, filledTables cipherItem⟩
        (.new ([.add cipherItem] ++ [.add folderItem])) = none) ∧
    (AddsAbsent ∅ [.add cipherItem, .remove cipherItem, .add cipherItem] ∧
      OpenedWith ([.add cipherItem, .remove cipherItem, .add cipherItem].map foldCase)
        (filledTables cipherItem.foldCase) ∧
      ∃ after, initializeInternal (filledTables cipherItem.foldCase)
          (.new [.add cipherItem, .remove cipherItem, .add cipherItem]) = some after ∧
        after.lookup cipherItem.foldCase = some ∅) := by
  refine ⟨⟨folderAdded_valid, filledTables_openedWith _ (by simp [data]) rfl, ?_⟩, ?_,
    filledTables_openedWith _ (by simp [foldCase, data]) rfl, ?_⟩
  · change initializeIndexedDb ⟨[add cipherItem].length, filledTables cipherItem⟩ _ = _
    rw [initializeIndexedDb_eq (by simp)]
    simp [indexedDbStep, lookup_filledTables]
  · rw [← isSome_run_indexedDbStep_iff]
    simp [indexedDbStep]
  · obtain ⟨after, hrun, hlookup⟩ := exists_run_sqliteStep
      [.add cipherItem, .remove cipherItem, .add cipherItem] (filledTables cipherItem.foldCase)
    refine ⟨after, hrun, ?_⟩
    rw [hlookup]
    simp [tableStep, foldCase]

/-! ## The steps of the SDK -/

/-- No step of the SDK removes a store, so that SQLite keeps all data. -/
theorem sdkManagedMigrations_keepData {opened added : List RepositoryMigrationStep}
    (hsteps : opened ++ added = getSdkManagedMigrations.steps)
    (hopened : OpenedWith (opened.map foldCase) tables) :
    ∃ after, initializeInternal tables getSdkManagedMigrations = some after ∧
      KeepsData (opened.map foldCase) (added.map foldCase) tables after := by
  obtain ⟨after, hrun, hlookup⟩ := exists_run_sqliteStep (opened ++ added) tables
  rw [map_append] at hlookup
  have hinit : initializeInternal tables getSdkManagedMigrations = some after := by
    rw [hsteps] at hrun
    exact hrun
  refine ⟨after, hinit, (keepsData_iff hopened hlookup).mpr ?_⟩
  intro data contents _ _ _ hremoved
  have hmem : .remove data ∈ getSdkManagedMigrations.steps.map foldCase := by
    rw [← hsteps, map_append]
    exact mem_append_left _ hremoved
  simp [getSdkManagedMigrations, new, foldCase] at hmem

theorem filledTables_keepData :
    ∃ after, initializeInternal (filledTables cipherItem.foldCase) getSdkManagedMigrations =
        some after ∧
      KeepsData [.add cipherItem.foldCase] ((getSdkManagedMigrations.steps.drop 1).map foldCase)
        (filledTables cipherItem.foldCase) after :=
  sdkManagedMigrations_keepData rfl cipher_openedWith

end SdkInternal.State
