import Penrose.ShoulderKeyStore

/-! The flag of a package. It is held once for each rotation, and the two agree as a mapping that is disabled has
both rotations: a rotation that is saved for the first time is enabled as all of them are. -/

namespace Penrose.ShoulderKey

variable {mapping : Mapping} {mappings : Mappings}

/-! ### Agreement -/

/-- A package has one flag, and both rotations where that is false. -/
def Mapping.Agrees (mapping : Mapping) : Prop :=
  ∀ packageName, ∃ enabled : Bool,
    (∀ rotation info, mapping (packageName, rotation) = some info →
      info.enabled = enabled ∧ (rotation = 0 ∨ rotation = 1)) ∧
    (enabled = false → (mapping (packageName, 0)).isSome ∧ (mapping (packageName, 1)).isSome)

/-- What is in the table is in memory. -/
structure Mappings.Consistent (mappings : Mappings) : Prop where
  memory : mappings.memory.Agrees
  table : mappings.table.Agrees
  known : ∀ k, mappings.memory k = none → mappings.table k = none

namespace Mapping

theorem agrees_empty : Mapping.empty.Agrees := by
  intro packageName
  refine ⟨true, fun rotation info hinfo => ?_, fun h => ?_⟩
  · cases hinfo
  · cases h

/-- A first mapping of a rotation is enabled, and a later one keeps its flag. -/
theorem Agrees.save (h : mapping.Agrees) {packageName : String} {rotation : Int} {left right : Int × Int}
    (hrotation : rotation = 0 ∨ rotation = 1) :
    (mapping.write (packageName, rotation) (fun info => info.setAllCoordinate left right)
      ⟨packageName, true, rotation, left, right⟩).Agrees := by
  intro packageName'
  obtain ⟨enabled, hflags, hboth⟩ := h packageName'
  simp only [write_apply, Prod.mk.injEq]
  by_cases hpackage : packageName' = packageName
  · subst hpackage
    refine ⟨enabled, fun rotation' info hinfo => ?_, fun hdisabled => ?_⟩
    · by_cases hsame : rotation' = rotation
      · subst hsame
        rw [if_pos ⟨rfl, rfl⟩, Option.some.injEq] at hinfo
        cases hold : mapping (packageName', rotation') with
        | none =>
            -- a flag that is false would have the rotation already
            have henabled : enabled = true := by
              by_contra hdisabled
              obtain ⟨h0, h1⟩ := hboth (Bool.eq_false_iff.mpr hdisabled)
              rcases hrotation with rfl | rfl
              · simp [hold] at h0
              · simp [hold] at h1
            rw [hold] at hinfo
            exact ⟨by rw [← hinfo, henabled]; rfl, hrotation⟩
        | some old =>
            rw [hold] at hinfo
            exact ⟨by rw [← hinfo]; exact (hflags _ _ hold).1, hrotation⟩
      · rw [if_neg fun h => hsame h.2] at hinfo
        exact hflags _ _ hinfo
    · obtain ⟨h0, h1⟩ := hboth hdisabled
      refine ⟨?_, ?_⟩
      · split_ifs
        · rfl
        · exact h0
      · split_ifs
        · rfl
        · exact h1
  · simp only [hpackage, false_and, if_false]
    exact ⟨enabled, hflags, hboth⟩

/-- Setting the flag of a package sets it for both rotations. -/
theorem Agrees.setEnabled (h : mapping.Agrees) (packageName : String) (enabled : Bool) :
    ((mapping.write (packageName, 0) (fun info => info.setEnabled enabled)
        ⟨packageName, enabled, 0, (0, 0), (0, 0)⟩).write (packageName, 1) (fun info => info.setEnabled enabled)
      ⟨packageName, enabled, 1, (0, 0), (0, 0)⟩).Agrees := by
  intro packageName'
  obtain ⟨enabled', hflags, hboth⟩ := h packageName'
  have hfresh (old : Option ShoulderKeyInfo) (i : Int) :
      (old.elim (⟨packageName, enabled, i, (0, 0), (0, 0)⟩ : ShoulderKeyInfo)
        fun info => info.setEnabled enabled).enabled = enabled := by
    cases old <;> rfl
  simp only [write_apply, Prod.mk.injEq]
  by_cases hpackage : packageName' = packageName
  · subst hpackage
    refine ⟨enabled, fun rotation info hinfo => ?_, fun _ => ⟨by simp, by simp⟩⟩
    by_cases h1 : rotation = 1
    · rw [if_pos ⟨rfl, h1⟩] at hinfo
      exact ⟨by rw [← Option.some.inj hinfo]; exact hfresh _ _, Or.inr h1⟩
    · rw [if_neg fun h => h1 h.2] at hinfo
      by_cases h0 : rotation = 0
      · rw [if_pos ⟨rfl, h0⟩] at hinfo
        exact ⟨by rw [← Option.some.inj hinfo]; exact hfresh _ _, Or.inl h0⟩
      · rw [if_neg fun h => h0 h.2] at hinfo
        rcases (hflags _ _ hinfo).2 with rfl | rfl
        · exact absurd rfl h0
        · exact absurd rfl h1
  · simp only [hpackage, false_and, if_false]
    exact ⟨enabled', hflags, hboth⟩

end Mapping

namespace Mappings

/-- Where memory has all that the table has, saving makes the table what memory is. -/
theorem Consistent.next_saveAllAppsCoordinate (h : mappings.Consistent) :
    mappings.next .saveAllAppsCoordinate = ⟨mappings.memory, mappings.memory⟩ := by
  have hsaved : (fun k => (mappings.memory k).or (mappings.table k)) = mappings.memory := by
    funext k
    cases hk : mappings.memory k with
    | none => exact h.known k hk
    | some info => rfl
  rw [next, hsaved]

theorem Consistent.next (h : mappings.Consistent) {call : StoreCall} (hrotation : call.HasRotation) :
    (mappings.next call).Consistent := by
  have hknown {k : String × Int} {edit : ShoulderKeyInfo → ShoulderKeyInfo} {fresh : ShoulderKeyInfo}
      {mapping : Mapping} (hmapping : ∀ k, mapping k = none → mappings.table k = none) (k' : String × Int)
      (hnone : mapping.write k edit fresh k' = none) : mappings.table k' = none := by
    rw [Mapping.write_apply] at hnone
    split_ifs at hnone
    exact hmapping k' hnone
  cases call with
  | saveCoordinate packageName rotation left right =>
      exact ⟨h.memory.save hrotation, h.table, hknown h.known⟩
  | setEnabledByPackage packageName enabled =>
      exact ⟨h.memory.setEnabled packageName enabled, h.table, hknown (hknown h.known)⟩
  | saveAllAppsCoordinate =>
      rw [h.next_saveAllAppsCoordinate]
      exact ⟨h.memory, h.memory, fun _ hnone => hnone⟩
  | resetAllAppsCoordinate => exact ⟨Mapping.agrees_empty, Mapping.agrees_empty, fun _ _ => rfl⟩

theorem consistent_foldl (h : mappings.Consistent) {calls : List StoreCall}
    (hrotations : ∀ call ∈ calls, call.HasRotation) : (calls.foldl next mappings).Consistent := by
  induction calls generalizing mappings with
  | nil => exact h
  | cons call calls ih =>
      rw [List.forall_mem_cons] at hrotations
      exact ih (h.next hrotations.1) hrotations.2

end Mappings

/-! ### The flag of a package -/

/-- The `ShoulderKeyUtils` of an empty table after some calls. -/
def stored (keyMappingConfig : List Int) (calls : List StoreCall) : ShoulderKeyUtils :=
  calls.foldl StoreCall.apply (.create ⟨[], keyMappingConfig⟩)

theorem refines_stored (keyMappingConfig : List Int) (calls : List StoreCall) :
    (stored keyMappingConfig calls).Refines (calls.foldl Mappings.next .empty) :=
  (ShoulderKeyUtils.Refines.create keyMappingConfig).foldl calls

theorem consistent_stored {calls : List StoreCall} (hrotations : ∀ call ∈ calls, call.HasRotation) :
    (calls.foldl Mappings.next .empty).Consistent :=
  Mappings.consistent_foldl ⟨Mapping.agrees_empty, Mapping.agrees_empty, fun _ _ => rfl⟩ hrotations

/-- After saving, memory and table are what memory was. -/
theorem refines_saved (keyMappingConfig : List Int) {calls : List StoreCall}
    (hrotations : ∀ call ∈ calls, call.HasRotation) :
    (stored keyMappingConfig calls).saveAllAppsCoordinate.Refines
      ⟨(calls.foldl Mappings.next .empty).memory, (calls.foldl Mappings.next .empty).memory⟩ := by
  rw [← (consistent_stored hrotations).next_saveAllAppsCoordinate]
  exact (refines_stored keyMappingConfig calls).next .saveAllAppsCoordinate

theorem Mapping.Agrees.enabled_eq (h : mapping.Agrees) {packageName : String} {rotation rotation' : Int}
    {info info' : ShoulderKeyInfo} (hinfo : mapping (packageName, rotation) = some info)
    (hinfo' : mapping (packageName, rotation') = some info') : info.enabled = info'.enabled := by
  obtain ⟨enabled, hflags, -⟩ := h packageName
  rw [(hflags _ _ hinfo).1, (hflags _ _ hinfo').1]

namespace ShoulderKeyUtils

variable {utils : ShoulderKeyUtils}

theorem Refines.memory_of_mem (h : utils.Refines mappings) {info : ShoulderKeyInfo} (hinfo : info ∈ utils.mInfoList) :
    mappings.memory (info.packageName, info.rotation) = some info := by
  rw [← h.memory]
  exact (findKey_eq_some h.uniqueInfos).mpr ⟨hinfo, rfl⟩

theorem Refines.table_of_mem (h : utils.Refines mappings) {row : KeyMappingEntry}
    (hrow : row ∈ utils.mDB.keyMapping) : mappings.table (row.packageName, row.rotation) = some row.info := by
  rw [← h.table]
  exact (ShoulderKeyDB.getAppKeyInfo_eq_some h.uniqueRows).mpr ⟨row, hrow, rfl, rfl⟩

/-- The flag that the loop finds is that of each mapping of the package. -/
theorem Refines.enabledByRotations_eq (h : utils.Refines mappings) (hagrees : mappings.memory.Agrees)
    {packageName : String} {rotation : Int} {info : ShoulderKeyInfo}
    (hinfo : mappings.memory (packageName, rotation) = some info) :
    utils.enabledByRotations packageName [0, 1] = info.enabled := by
  obtain ⟨enabled, hflags, -⟩ := hagrees packageName
  have hrotation := (hflags _ _ hinfo).2
  simp only [enabledByRotations, getAppInfo_eq, h.memory]
  cases h0 : mappings.memory (packageName, 0) with
  | some info0 => exact hagrees.enabled_eq h0 hinfo
  | none =>
      obtain rfl : rotation = 1 := by
        rcases hrotation with rfl | rfl
        · rw [h0] at hinfo
          cases hinfo
        · rfl
      rw [hinfo]

theorem getEnabledByPackage_snd (hmode : utils.getKeyMappingGlobalMode.2 = false) (packageName : String) :
    (utils.getEnabledByPackage packageName).2 = utils.enabledByRotations packageName [0, 1] := by
  have hloop (rotations : List Int) : utils.getKeyMappingGlobalMode.1.enabledByRotations packageName rotations =
      utils.enabledByRotations packageName rotations := by
    induction rotations with
    | nil => rfl
    | cons i rotations ih => rw [enabledByRotations, enabledByRotations, ih]; rfl
  simp only [getEnabledByPackage, hmode, Bool.false_eq_true, if_false]
  exact hloop [0, 1]

end ShoulderKeyUtils

open ShoulderKeyUtils in
/-- In memory and in the table there is one mapping for a package and a rotation, all mappings of a package have one
flag, and `getEnabledByPackage` gives that of those in memory; after saving, of those in the table too. -/
theorem enabled_agrees (keyMappingConfig : List Int) (calls : List StoreCall)
    (hrotations : ∀ call ∈ calls, call.HasRotation) :
    let utils := stored keyMappingConfig calls
    let saved := utils.saveAllAppsCoordinate
    (UniqueKeys ShoulderKeyInfo.key utils.mInfoList ∧ UniqueKeys KeyMappingEntry.key utils.mDB.keyMapping) ∧
      (∀ info ∈ utils.mInfoList, ∀ info' ∈ utils.mInfoList,
        info.packageName = info'.packageName → info.enabled = info'.enabled) ∧
      (∀ row ∈ utils.mDB.keyMapping, ∀ row' ∈ utils.mDB.keyMapping,
        row.packageName = row'.packageName → row.info.enabled = row'.info.enabled) ∧
      (utils.getKeyMappingGlobalMode.2 = false → ∀ info ∈ utils.mInfoList,
        (utils.getEnabledByPackage info.packageName).2 = info.enabled) ∧
      (saved.getKeyMappingGlobalMode.2 = false → ∀ row ∈ saved.mDB.keyMapping,
        (saved.getEnabledByPackage row.packageName).2 = row.info.enabled) := by
  intro utils saved
  have hrefines := refines_stored keyMappingConfig calls
  have hsaved := refines_saved keyMappingConfig hrotations
  have hconsistent := consistent_stored hrotations
  refine ⟨⟨hrefines.uniqueInfos, hrefines.uniqueRows⟩, ?_, ?_, ?_, ?_⟩
  · intro info hinfo info' hinfo' hpackage
    have hmemory := hrefines.memory_of_mem hinfo
    rw [hpackage] at hmemory
    exact hconsistent.memory.enabled_eq hmemory (hrefines.memory_of_mem hinfo')
  · intro row hrow row' hrow' hpackage
    have htable := hrefines.table_of_mem hrow
    rw [hpackage] at htable
    exact hconsistent.table.enabled_eq htable (hrefines.table_of_mem hrow')
  · intro hmode info hinfo
    rw [getEnabledByPackage_snd hmode]
    exact hrefines.enabledByRotations_eq hconsistent.memory (hrefines.memory_of_mem hinfo)
  · intro hmode row hrow
    rw [getEnabledByPackage_snd hmode]
    exact hsaved.enabledByRotations_eq hconsistent.memory (hsaved.table_of_mem hrow)

/-- A package is disabled before its second rotation is saved. -/
def disabledBetween : List StoreCall :=
  [.saveCoordinate "app" 0 (100, 200) (300, 400), .saveAllAppsCoordinate, .setEnabledByPackage "app" false,
    .saveCoordinate "app" 1 (200, 100) (400, 300), .saveAllAppsCoordinate]

theorem enabled_agrees_disabledBetween :
    let utils := stored [0] disabledBetween
    ∀ info ∈ utils.mInfoList, (utils.getEnabledByPackage info.packageName).2 = info.enabled :=
  (enabled_agrees [0] disabledBetween (by simp [disabledBetween, StoreCall.HasRotation])).2.2.2.1 (by decide)

/-- A flag that is set after saving is not in the table yet. -/
theorem row_keepsFlag :
    let calls : List StoreCall :=
      [.saveCoordinate "app" 0 (100, 200) (300, 400), .saveAllAppsCoordinate, .setEnabledByPackage "app" false]
    let utils := stored [0] calls
    (∀ call ∈ calls, call.HasRotation) ∧ utils.getKeyMappingGlobalMode.2 = false ∧
      ∃ row ∈ utils.mDB.keyMapping, (utils.getEnabledByPackage row.packageName).2 ≠ row.info.enabled := by
  refine ⟨?_, by decide, ?_⟩
  · simp [StoreCall.HasRotation]
  · decide

end Penrose.ShoulderKey
