import Penrose.GptBounds
import Penrose.GptDisk

/-! The edits between reading a disk and committing it. `gpt_disk_get_pentry` checks only that the name of an entry
begins in the array: the search reads behind an array that ends in a name, and an entry that it returns can end behind
the array. A client that writes into its entries only stays in the arrays exactly if every entry whose name begins in
the array lies there. -/

namespace Penrose.Gpt

open ByteRegions

/-- A lookup, or bytes written into an entry that an earlier lookup returned, by its number among these. -/
inductive EditStep where
  | getPentry (partname : Bytes) (gpt : GptInstance)
  | write (index off : Nat) (data : Bytes)

/-- The name is a C string, and what is written lies in the entry. -/
def EditStep.Proper (pentrySize : Nat) : EditStep → Prop
  | .getPentry partname _ => ∀ x ∈ partname, x ≠ 0
  | .write _ off data => off + data.length ≤ pentrySize

instance (pentrySize : Nat) : (step : EditStep) → Decidable (step.Proper pentrySize)
  | .getPentry partname _ => inferInstanceAs (Decidable (∀ x ∈ partname, x ≠ 0))
  | .write _ off data => inferInstanceAs (Decidable (off + data.length ≤ pentrySize))

/-- The structure that is edited and the entries returned so far, each in the array of its instance. -/
structure EditSession where
  disk : GptDisk
  pentries : List (GptInstance × Nat)

namespace EditSession

/-- One step; an access outside the arrays has no result. -/
def next (session : EditSession) : EditStep → Option EditSession
  | .getPentry partname gpt => do
      match ← gptDiskGetPentry session.disk partname gpt with
      | none => return session
      | some pentry => return { session with pentries := session.pentries ++ [(gpt, pentry)] }
  | .write index off data => do
      match session.pentries[index]? with
      | none => return session
      | some (gpt, pentry) =>
          let arr ← memcpy (← session.disk.pentries gpt) (pentry + off) data
          return { session with disk := session.disk.withPentries gpt arr }

def run (session : EditSession) : List EditStep → Option EditSession
  | [] => some session
  | step :: steps => do (← session.next step).run steps

section Steps

variable {session later : EditSession} {partname data arr : Bytes} {gpt : GptInstance} {pentry index : Nat}

theorem run_cons (step : EditStep) (steps : List EditStep) :
    session.run (step :: steps) = (session.next step).bind fun later => later.run steps := rfl

theorem next_getPentry (hfound : gptDiskGetPentry session.disk partname gpt = some (some pentry)) :
    session.next (.getPentry partname gpt) =
      some { session with pentries := session.pentries ++ [(gpt, pentry)] } := by
  rw [next, hfound]
  rfl

theorem next_write (hgiven : session.pentries[index]? = some (gpt, pentry))
    (harr : session.disk.pentries gpt = some arr) (off : Nat) (data : Bytes) :
    session.next (.write index off data) = (memcpy arr (pentry + off) data).map fun arr =>
      { session with disk := session.disk.withPentries gpt arr } := by
  simp only [next, hgiven, harr, Option.bind_eq_bind, Option.bind_some]
  cases memcpy arr (pentry + off) data <;> rfl

/-- A lookup and a write into the entry that it returned. -/
theorem run_edit (session : EditSession)
    (hfound : gptDiskGetPentry session.disk partname gpt = some (some pentry))
    (harr : session.disk.pentries gpt = some arr) (hindex : index = session.pentries.length) (off : Nat) (data : Bytes)
    (steps : List EditStep) :
    session.run (.getPentry partname gpt :: .write index off data :: steps) =
      (memcpy arr (pentry + off) data).bind fun arr =>
        run ⟨session.disk.withPentries gpt arr, session.pentries ++ [(gpt, pentry)]⟩ steps := by
  have hgiven : (session.pentries ++ [(gpt, pentry)])[index]? = some (gpt, pentry) := by
    rw [hindex]
    exact List.getElem?_concat_length
  rw [run_cons, next_getPentry hfound, Option.bind_some, run_cons,
    @next_write ⟨session.disk, session.pentries ++ [(gpt, pentry)]⟩ _ _ _ _ hgiven harr]
  cases memcpy arr (pentry + off) data <;> rfl

end Steps

end EditSession

/-- Every entry whose name begins in an array of so many bytes lies there, and so do the bytes that the search reads. -/
def EntriesInside (pentrySize arrSize : Nat) : Prop :=
  ∀ k, k * pentrySize + partitionNameOffset < arrSize →
    k * pentrySize + pentrySize ≤ arrSize ∧ k * pentrySize + ptnNameEnd ≤ arrSize

/-- An array of whole entries. -/
theorem entriesInside_of_whole {pentrySize arrSize : Nat} (hsize : ptnEntrySize ≤ pentrySize)
    (hwhole : pentrySize ∣ arrSize) : EntriesInside pentrySize arrSize := by
  intro k hlt
  obtain ⟨n, rfl⟩ := hwhole
  rw [Nat.mul_comm pentrySize] at hlt ⊢
  have hk : k < n := Nat.lt_of_mul_lt_mul_right (show k * pentrySize < n * pentrySize by omega)
  have hnext : (k + 1) * pentrySize ≤ n * pentrySize := Nat.mul_le_mul_right _ hk
  rw [Nat.succ_mul] at hnext
  simp only [ptnEntrySize, ptnNameEnd, partitionNameOffset] at hsize ⊢
  omega

/-! ### Names under writes -/

section Names

variable {name arr data : Bytes} {pentry off : Nat}

theorem name8_congr {arr' : Bytes} {pentryName : Nat}
    (h : ∀ i < 71, arr'[pentryName + i]? = arr[pentryName + i]?) : name8 arr' pentryName = name8 arr pentryName := by
  apply mapM_congr
  intro i hi
  rw [List.mem_range] at hi
  exact h (i * 2) (by omega)

/-- What is written beside the name of an entry does not change whether it is found. -/
theorem isMatch_overwrite (hdata : off + data.length ≤ arr.length)
    (hapart : off + data.length ≤ pentry + partitionNameOffset ∨ pentry + ptnNameEnd ≤ off) :
    IsMatch name (overwrite arr off data) pentry ↔ IsMatch name arr pentry := by
  have hsame : name8 (overwrite arr off data) (pentry + partitionNameOffset) =
      name8 arr (pentry + partitionNameOffset) := by
    apply name8_congr
    intro i hi
    rw [getElem?_overwrite hdata, if_neg]
    simp only [ptnNameEnd] at hapart
    omega
  rw [IsMatch, IsMatch, hsame]

/-- A name of one byte repeated. -/
theorem name8_overwrite_replicate {b : UInt8} (hroom : off + 72 ≤ arr.length) :
    name8 (overwrite arr off (List.replicate 72 b)) off = some (List.replicate 36 b) := by
  have hdata : off + (List.replicate 72 b).length ≤ arr.length := by
    rw [List.length_replicate]
    exact hroom
  rw [name8_eq_some, length_overwrite hdata]
  refine ⟨by omega, ?_⟩
  symm
  rw [List.eq_replicate_iff]
  refine ⟨by rw [List.length_map, List.length_range], fun x hx => ?_⟩
  obtain ⟨i, hi, rfl⟩ := List.mem_map.mp hx
  rw [List.mem_range] at hi
  rw [List.getD_eq_getElem?_getD, getElem?_overwrite hdata, List.length_replicate, if_pos (by omega),
    List.getElem?_replicate, if_pos (by omega)]
  rfl

/-- Some repeated byte is no name that a search for the given one stops at. -/
theorem exists_not_isPtnOrBak (hname : ∀ x ∈ name, x ≠ 0) :
    ∃ b : UInt8, ¬ isPtnOrBak name (List.replicate 36 b) = true := by
  cases name with
  | nil => exact ⟨1, by decide⟩
  | cons head tail =>
      obtain ⟨b, hzero, hhead⟩ : ∃ b : UInt8, b ≠ 0 ∧ b ≠ head := by
        by_cases hone : head = 1
        · exact ⟨2, by decide, by rw [hone]; decide⟩
        · exact ⟨1, by decide, Ne.symm hone⟩
      refine ⟨b, fun hmatch => ?_⟩
      have hstring : cString (List.replicate 36 b) = b :: List.replicate 35 b :=
        List.takeWhile_replicate_eq_filter .. |>.trans (by simp [hzero, List.replicate_succ])
      rw [isPtnOrBak_iff hname, hstring] at hmatch
      rcases hmatch with hmatch | hmatch
      · exact hhead (List.cons.inj hmatch).1
      · exact hhead (List.cons.inj hmatch).1

/-- An entry can be written so that it loses the name; the others keep theirs. -/
theorem exists_renamed {pentrySize i : Nat} (hname : ∀ x ∈ name, x ≠ 0) (hsize : ptnEntrySize ≤ pentrySize)
    (hroom : (i + 1) * pentrySize ≤ arr.length) :
    ∃ b renamed, memcpy arr (i * pentrySize + partitionNameOffset) (List.replicate 72 b) = some renamed ∧
      renamed.length = arr.length ∧ ¬ IsMatch name renamed (i * pentrySize) ∧
      ∀ l ≠ i, (IsMatch name renamed (l * pentrySize) ↔ IsMatch name arr (l * pentrySize)) := by
  obtain ⟨b, hb⟩ := exists_not_isPtnOrBak hname
  rw [Nat.succ_mul] at hroom
  simp only [ptnEntrySize] at hsize
  have hfield : i * pentrySize + partitionNameOffset + 72 ≤ arr.length := by
    simp only [partitionNameOffset]
    omega
  have hdata : i * pentrySize + partitionNameOffset + (List.replicate 72 b).length ≤ arr.length := by
    rw [List.length_replicate]
    exact hfield
  refine ⟨b, _, if_pos hdata, length_overwrite hdata, ?_, fun l hl => ?_⟩
  · rintro ⟨raw, hraw, hmatch⟩
    rw [name8_overwrite_replicate hfield] at hraw
    cases hraw
    exact hb hmatch
  · apply isMatch_overwrite hdata
    rw [List.length_replicate]
    simp only [ptnNameEnd, partitionNameOffset]
    rcases lt_or_gt_of_ne hl with hl | hl
    · have hmul : (l + 1) * pentrySize ≤ i * pentrySize := Nat.mul_le_mul_right _ hl
      rw [Nat.succ_mul] at hmul
      omega
    · have hmul : (i + 1) * pentrySize ≤ l * pentrySize := Nat.mul_le_mul_right _ hl
      rw [Nat.succ_mul] at hmul
      omega

/-- No entry has a name longer than the field. -/
theorem not_isMatch_of_long (hlong : 36 < name.length) : ¬ IsMatch name arr pentry := by
  rintro ⟨raw, hraw, hmatch⟩
  obtain ⟨-, rfl⟩ := name8_eq_some.mp hraw
  simp only [isPtnOrBak, Bool.and_eq_true, List.isPrefixOf_iff_prefix] at hmatch
  have hlen := hmatch.1.length_le
  rw [List.length_map, List.length_range] at hlen
  omega

end Names

/-! ### The steps -/

/-- The four buffers of a session and what is known about the entries it was given. -/
structure EditSession.Inside (session : EditSession) (disk : GptDisk) (h : GptInstance → Bytes) : Prop where
  holds : ∃ a, session.disk.Holds h a
  pentryArrSize : session.disk.pentryArrSize = disk.pentryArrSize
  pentrySize : session.disk.pentrySize = disk.pentrySize
  inside : ∀ gpt pentry, (gpt, pentry) ∈ session.pentries → pentry + disk.pentrySize ≤ disk.pentryArrSize

section Steps

variable {disk : GptDisk} {session : EditSession} {h a : GptInstance → Bytes} {gpt : GptInstance} {partname : Bytes}

theorem GptDisk.pentrySize_withPentries (arr : Bytes) : (disk.withPentries gpt arr).pentrySize = disk.pentrySize := by
  cases gpt <;> rfl

theorem gptDiskGetPentry_eq {pentrySize : Nat} (hdisk : disk.Holds h a) (hstep : disk.pentrySize = pentrySize) :
    gptDiskGetPentry disk partname gpt = gptPentrySeek partname (a gpt) (0 * pentrySize) pentrySize := by
  simp only [gptDiskGetPentry, if_neg (not_not.mpr hdisk.initialized), hdisk.pentries,
    bufferBytes_self (hdisk.size gpt), hstep, Option.bind_eq_bind, Option.bind_some, Nat.zero_mul]

/-- A lookup stays in the array when every name that begins there ends there. -/
theorem gptDiskGetPentry_isSome (hdisk : disk.Holds h a) (hpos : 0 < disk.pentryArrSize → 0 < disk.pentrySize)
    (hinside : EntriesInside disk.pentrySize disk.pentryArrSize) (partname : Bytes) (gpt : GptInstance) :
    ∃ r, gptDiskGetPentry disk partname gpt = some r ∧
      ∀ pentry, r = some pentry → pentry + disk.pentrySize ≤ disk.pentryArrSize := by
  rw [← hdisk.size gpt] at hpos hinside ⊢
  rw [gptDiskGetPentry_eq hdisk rfl]
  obtain ⟨r, hseek⟩ : ∃ r, gptPentrySeek partname (a gpt) (0 * disk.pentrySize) disk.pentrySize = some r := by
    apply Option.ne_none_iff_exists'.mp
    rw [Ne, gptPentrySeek_eq_none_iff hpos]
    rintro ⟨k, -, hlt, hcut, -⟩
    have hend := (hinside k hlt).2
    omega
  refine ⟨r, hseek, ?_⟩
  rintro pentry rfl
  rcases gptPentrySeek_eq_some hseek with ⟨hnone, -⟩ | ⟨k, -, hfound, hmatch, -⟩
  · cases hnone
  · cases hfound
    have hend := hmatch.nameEnd_le
    exact (hinside k (by simp only [ptnNameEnd] at hend; omega)).1

/-- The first entry of a name is found when nothing before it leaves the array. -/
theorem gptDiskGetPentry_first {pentrySize k : Nat} (hdisk : disk.Holds h a) (hstep : disk.pentrySize = pentrySize)
    (hpos : 0 < pentrySize) (hmatch : IsMatch partname (a gpt) (k * pentrySize))
    (hbefore : ∀ l < k, ¬ IsMatch partname (a gpt) (l * pentrySize)) :
    gptDiskGetPentry disk partname gpt = some (some (k * pentrySize)) := by
  have hend := hmatch.nameEnd_le
  rw [gptDiskGetPentry_eq hdisk hstep]
  obtain ⟨r, hseek⟩ : ∃ r, gptPentrySeek partname (a gpt) (0 * pentrySize) pentrySize = some r := by
    apply Option.ne_none_iff_exists'.mp
    rw [Ne, gptPentrySeek_eq_none_iff fun _ => hpos]
    rintro ⟨l, -, -, hcut, hnone⟩
    have hkl : ¬ k < l := fun hlt => hnone k (Nat.zero_le k) hlt hmatch
    have hmul : l * pentrySize ≤ k * pentrySize := Nat.mul_le_mul_right _ (by omega)
    omega
  rcases gptPentrySeek_eq_some hseek with ⟨-, hnone⟩ | ⟨l, -, rfl, hl, hfirst⟩
  · exact absurd hmatch (hnone k (Nat.zero_le k))
  · obtain rfl : l = k := by
      rcases lt_trichotomy l k with hlt | heq | hgt
      · exact absurd hl (hbefore l hlt)
      · exact heq
      · exact absurd hmatch (hfirst k (Nat.zero_le k) hgt)
    exact hseek

theorem EditSession.inside_nil (hdisk : disk.Holds h a) : Inside ⟨disk, []⟩ disk h :=
  ⟨⟨a, hdisk⟩, rfl, rfl, fun _ _ hmem => absurd hmem List.not_mem_nil⟩

theorem EditSession.Inside.next (hsession : session.Inside disk h)
    (hpos : 0 < disk.pentryArrSize → 0 < disk.pentrySize)
    (hinside : EntriesInside disk.pentrySize disk.pentryArrSize) {step : EditStep}
    (hproper : step.Proper disk.pentrySize) : ∃ later, session.next step = some later ∧ later.Inside disk h := by
  obtain ⟨a, hdisk⟩ := hsession.holds
  cases step with
  | getPentry partname gpt =>
      rw [← hsession.pentryArrSize, ← hsession.pentrySize] at hpos hinside
      obtain ⟨r, hlookup, hend⟩ := gptDiskGetPentry_isSome hdisk hpos hinside partname gpt
      rw [hsession.pentryArrSize, hsession.pentrySize] at hend
      simp only [EditSession.next, hlookup, Option.bind_eq_bind, Option.bind_some]
      cases r with
      | none => exact ⟨session, rfl, hsession⟩
      | some pentry =>
          refine ⟨_, rfl, ⟨a, hdisk⟩, hsession.pentryArrSize, hsession.pentrySize, fun gpt' pentry' hmem => ?_⟩
          obtain hold | hnew := List.mem_append.mp hmem
          · exact hsession.inside gpt' pentry' hold
          · cases List.mem_singleton.mp hnew
            exact hend pentry rfl
  | write index off data =>
      cases hgiven : session.pentries[index]? with
      | none => exact ⟨session, by rw [EditSession.next, hgiven]; rfl, hsession⟩
      | some given =>
          obtain ⟨gpt, pentry⟩ := given
          have hend := hsession.inside gpt pentry (List.mem_of_getElem? hgiven)
          have hroom : pentry + off + data.length ≤ (a gpt).length := by
            rw [hdisk.size, hsession.pentryArrSize]
            simp only [EditStep.Proper] at hproper
            omega
          have hcopy : memcpy (a gpt) (pentry + off) data = some (overwrite (a gpt) (pentry + off) data) :=
            if_pos hroom
          rw [EditSession.next_write hgiven (hdisk.pentries gpt), hcopy]
          refine ⟨_, rfl, ⟨_, hdisk.withPentries (length_overwrite hroom)⟩, ?_, ?_, hsession.inside⟩
          · rw [GptDisk.pentryArrSize_withPentries, hsession.pentryArrSize]
          · rw [GptDisk.pentrySize_withPentries, hsession.pentrySize]

theorem EditSession.Inside.run (hsession : session.Inside disk h)
    (hpos : 0 < disk.pentryArrSize → 0 < disk.pentrySize)
    (hinside : EntriesInside disk.pentrySize disk.pentryArrSize) {steps : List EditStep}
    (hproper : ∀ step ∈ steps, step.Proper disk.pentrySize) :
    ∃ later, session.run steps = some later ∧ later.Inside disk h := by
  induction steps generalizing session with
  | nil => exact ⟨session, rfl, hsession⟩
  | cons step steps ih =>
      rw [List.forall_mem_cons] at hproper
      obtain ⟨middle, hnext, hmiddle⟩ := hsession.next hpos hinside hproper.1
      obtain ⟨later, hrun, hlater⟩ := ih hmiddle hproper.2
      refine ⟨later, ?_, hlater⟩
      rw [EditSession.run, hnext]
      exact hrun

/-! ### Leaving the arrays -/

/-- An entry that ends behind the array can be written behind the array, once the entries that are found before it
have other names. -/
theorem EditSession.exists_leaving (session : EditSession) {pentrySize k : Nat} (tries : Nat)
    (hstep : session.disk.pentrySize = pentrySize) (hsession : session.disk.Holds h a) (hname : ∀ x ∈ partname, x ≠ 0)
    (hcut : (a gpt).length < k * pentrySize + pentrySize) (hmatch : IsMatch partname (a gpt) (k * pentrySize))
    (hbefore : ∀ l, l + tries < k → ¬ IsMatch partname (a gpt) (l * pentrySize)) :
    ∃ steps, (∀ step ∈ steps, step.Proper pentrySize) ∧ session.run steps = none := by
  have hsize : ptnEntrySize ≤ pentrySize := by
    have hend := hmatch.nameEnd_le
    simp only [ptnEntrySize, ptnNameEnd, partitionNameOffset] at hend ⊢
    omega
  have hpos : 0 < pentrySize := lt_of_lt_of_le (by decide) hsize
  induction tries generalizing session a with
  | zero =>
      have hfound := gptDiskGetPentry_first hsession hstep hpos hmatch hbefore
      have hcopy : memcpy (a gpt) (k * pentrySize + 0) (List.replicate pentrySize 0) = none :=
        if_neg (by rw [List.length_replicate]; omega)
      refine ⟨[.getPentry partname gpt, .write session.pentries.length 0 (List.replicate pentrySize 0)], ?_, ?_⟩
      · rw [List.forall_mem_cons, List.forall_mem_singleton]
        refine ⟨hname, ?_⟩
        rw [EditStep.Proper, List.length_replicate, Nat.zero_add]
      · rw [run_edit session hfound (hsession.pentries gpt) rfl, hcopy]
        rfl
  | succ tries ih =>
      by_cases hearlier : tries < k ∧ IsMatch partname (a gpt) ((k - (tries + 1)) * pentrySize)
      swap
      · -- the next candidate has another name
        refine ih session hstep hsession hcut hmatch fun l hl hl' => ?_
        by_cases hlast : l + (tries + 1) < k
        · exact hbefore l hlast hl'
        · obtain rfl : l = k - (tries + 1) := by omega
          exact hearlier ⟨by omega, hl'⟩
      obtain ⟨hlt, hearlier⟩ := hearlier
      obtain ⟨i, hi⟩ : ∃ i, i = k - (tries + 1) := ⟨_, rfl⟩
      rw [← hi] at hearlier
      have hfound := gptDiskGetPentry_first hsession hstep hpos hearlier fun l hl => hbefore l (by omega)
      have hnext : (i + 1) * pentrySize ≤ k * pentrySize := Nat.mul_le_mul_right _ (by omega)
      have hend := hmatch.nameEnd_le
      obtain ⟨b, arr, hcopy, hlen, hrenamed, hothers⟩ := exists_renamed (i := i) hname hsize
        (show (i + 1) * pentrySize ≤ (a gpt).length by omega)
      have hlater : Function.update a gpt arr gpt = arr := Function.update_self ..
      obtain ⟨steps, hproper, hleaves⟩ := ih ⟨session.disk.withPentries gpt arr,
        session.pentries ++ [(gpt, i * pentrySize)]⟩ ((GptDisk.pentrySize_withPentries arr).trans hstep)
        (hsession.withPentries hlen) (by rw [hlater, hlen]; exact hcut)
        (by rw [hlater]; exact (hothers k (by omega)).mpr hmatch) (by
          intro l hl
          rw [hlater]
          by_cases hli : l = i
          · rw [hli]
            exact hrenamed
          · rw [hothers l hli]
            exact hbefore l (by omega))
      refine ⟨.getPentry partname gpt :: .write session.pentries.length partitionNameOffset (List.replicate 72 b) ::
        steps, ?_, ?_⟩
      · rw [List.forall_mem_cons, List.forall_mem_cons]
        exact ⟨hname, le_trans (by rw [List.length_replicate]) hsize, hproper⟩
      · rw [run_edit session hfound (hsession.pentries gpt) rfl, hcopy]
        exact hleaves

/-- Every client that stays in its entries stays in the arrays exactly if the entries do. -/
theorem EditSession.run_ne_none_iff (hdisk : disk.Holds h a) (hpos : 0 < disk.pentryArrSize → 0 < disk.pentrySize) :
    (∀ steps, (∀ step ∈ steps, EditStep.Proper disk.pentrySize step) → EditSession.run ⟨disk, []⟩ steps ≠ none) ↔
      EntriesInside disk.pentrySize disk.pentryArrSize := by
  constructor
  · intro hruns k hlt
    by_contra hcut
    rw [← hdisk.size .primaryGpt] at hpos hlt hcut
    by_cases hname : k * disk.pentrySize + ptnNameEnd ≤ (a .primaryGpt).length
    · -- the entry ends behind the array, and it is found under its own name
      obtain ⟨raw, hraw⟩ := name8_isSome_iff.mpr hname
      have hnonzero : ∀ x ∈ cString raw, x ≠ 0 := fun x hx =>
        bne_iff_ne.mp (List.all_eq_true.mp List.all_takeWhile x hx)
      have hmatch : IsMatch (cString raw) (a .primaryGpt) (k * disk.pentrySize) :=
        ⟨raw, hraw, (isPtnOrBak_iff hnonzero).mpr (Or.inl rfl)⟩
      obtain ⟨steps, hproper, hleaves⟩ := exists_leaving ⟨disk, []⟩ k rfl hdisk hnonzero
        (by change _ < k * disk.pentrySize + disk.pentrySize; omega) hmatch (fun l hl => by omega)
      exact hruns steps hproper hleaves
    · -- a name that no entry has makes the search read every name
      have hlong : 36 < (List.replicate 37 (1 : UInt8)).length := by decide
      refine hruns [.getPentry (List.replicate 37 1) .primaryGpt] ?_ ?_
      · rw [List.forall_mem_singleton]
        intro x hx
        rw [List.eq_of_mem_replicate hx]
        decide
      · have hnone : gptDiskGetPentry disk (List.replicate 37 1) .primaryGpt = none := by
          rw [gptDiskGetPentry_eq hdisk rfl, gptPentrySeek_eq_none_iff hpos]
          exact ⟨k, Nat.zero_le k, hlt, by omega, fun l _ _ => not_isMatch_of_long hlong⟩
        rw [run_cons, next, hnone]
        rfl
  · intro hinside steps hproper
    obtain ⟨later, hrun, -⟩ := (inside_nil hdisk).run hpos hinside hproper
    rw [hrun]
    exact Option.some_ne_none later

end Steps

end Penrose.Gpt
