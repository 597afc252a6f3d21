import Penrose.DistinctLists
import Penrose.GptDisk

/-! `prepare_boot_update`: the LUNs of a UFS device that hold boot critical partitions are found through the links
to the backup partitions, collected without repetition, and each is prepared for the stage. -/

namespace Penrose.Gpt

open ByteRegions CallTree

def maxLuns : Nat := 26

/-! ### The calls -/

/-- The calls of `prepare_boot_update`; `prepare_partitions` is one of them. -/
inductive BootCall where
  | stat (path : Bytes)
  | readlink (path : Bytes) (bufSize : Nat)
  | preparePartitions (stage : BootUpdateStage) (devPath : Bytes)

/-- Replies: whether `stat` succeeds, the bytes that `readlink` places into its buffer, and a return value. -/
@[reducible] def BootCall.Reply : BootCall → Type
  | .stat _ => Bool
  | .readlink _ _ => Option Bytes
  | .preparePartitions _ _ => Int

def bootSignature : Signature := ⟨BootCall, BootCall.Reply⟩

abbrev Boot (α : Type) := Program bootSignature α

def boot (c : BootCall) : Boot c.Reply := Program.request (S := bootSignature) c

/-! ### The list of the LUNs -/

/-- `struct update_data`, with C strings as the rows of `lun_list`. -/
structure UpdateData where
  lunList : List Bytes
  numValidEntries : Nat

/-- After `memset`. -/
def UpdateData.zeroed : UpdateData := ⟨List.replicate maxLuns [], 0⟩

/-- `strlcpy(lun_list[row], lunPath, PATH_MAX)`; there is no row from `maxLuns` on. -/
def UpdateData.setLun (dat : UpdateData) (row : Nat) (lunPath : Bytes) : Option UpdateData :=
  if row < dat.lunList.length then some { dat with lunList := dat.lunList.set row (lunPath.take (pathMax - 1)) }
  else none

/-- The loop of `add_lun_to_update_list`, with `rounds` rows left from row `i` on: whether one of them is a prefix
of the path. -/
def listsLun (dat : UpdateData) (lunPath : Bytes) : Nat → Nat → Option Bool
  | 0, _ => some false
  | rounds + 1, i =>
      if dat.numValidEntries < maxLuns - 1 then do
        let lun ← dat.lunList[i]?
        if lun.isPrefixOf lunPath then some true else listsLun dat lunPath rounds (i + 1)
      else some false

def addLunToUpdateList (lunPath : Bytes) (dat : UpdateData) : Boot (Int × UpdateData) := do
  if !(← boot (.stat lunPath)) then
    return (-1, dat)
  if dat.numValidEntries = 0 then
    let dat ← Program.ofOption (dat.setLun 0 lunPath)
    return (0, { dat with numValidEntries := 1 })
  else
    if ← Program.ofOption (listsLun dat lunPath dat.numValidEntries 0) then
      -- LUN already in list..Return
      return (0, dat)
    let dat ← Program.ofOption (dat.setLun dat.numValidEntries lunPath)
    return (0, { dat with numValidEntries := dat.numValidEntries + 1 })

/-! ### `prepare_boot_update` -/

/-- The link to a backup partition, as `snprintf` writes it into `buf`. -/
def bakLink (name : Bytes) : Bytes := cstr bootDevDir ++ cstr "/" ++ name ++ bakPtnNameExt

/-- A round of the loop over the names; `realPath` is the buffer that the rounds share. -/
def addName (name : Bytes) (realPath : Bytes) (data : UpdateData) : Boot (Bytes × UpdateData) := do
  if skipsName true name then
    return (realPath, data)
  if !(← boot (.stat (bakLink name))) then
    return (realPath, data)
  match ← boot (.readlink (bakLink name) (pathMax - 1)) with
  | none => return (List.replicate pathMax 0, data)
  | some target =>
      let realPath ← Program.ofOption (memcpy realPath 0 target)
      if (cString realPath).length < pathTruncateLoc + 1 then
        return (List.replicate pathMax 0, data)
      let realPath := realPath.set pathTruncateLoc 0
      let added ← addLunToUpdateList (cString realPath) data
      return (List.replicate pathMax 0, added.2)

def addNames : List Bytes → Bytes → UpdateData → Boot UpdateData
  | [], _, data => return data
  | name :: names, realPath, data => do
      let next ← addName name realPath data
      addNames names next.1 next.2

/-- The loop over the LUNs, with `rounds` rows left from row `i` on: the value of `is_error` after it. -/
def prepareLuns (stage : BootUpdateStage) (data : UpdateData) : Nat → Nat → Bool → Boot Bool
  | 0, _, isError => return isError
  | rounds + 1, i, isError => do
      let lun ← Program.ofOption data.lunList[i]?
      let rcode ← boot (.preparePartitions stage lun)
      prepareLuns stage data rounds (i + 1) (if rcode != 0 then true else isError)

def prepareBootUpdate (isUfs : Bool) (stage : BootUpdateStage) : Boot Int := do
  if !isUfs then
    boot (.preparePartitions stage (cstr blkDevFile))
  else
    let data ← addNames ptnSwapList (List.replicate pathMax 0) UpdateData.zeroed
    let isError ← prepareLuns stage data data.numValidEntries 0 false
    if isError then
      return -1
    return 0

/-! ### What the links lead to -/

/-- What the file system says: which paths `stat` finds, and the targets of links. -/
structure Links where
  present : Bytes → Bool
  target : Bytes → Option Bytes

namespace Links

/-- The path that `readlink` leaves in `realPath`. -/
def realPath (target : Bytes) : Bytes := cString (target.take (pathMax - 1))

/-- The LUN that the backup partition of a name lies on. -/
def lunOf (links : Links) (name : Bytes) : Option Bytes :=
  if skipsName true name then none
  else if !links.present (bakLink name) then none
  else (links.target (bakLink name)).bind fun target =>
    if (realPath target).length < pathTruncateLoc + 1 then none
    else if links.present ((realPath target).take pathTruncateLoc) then
      some ((realPath target).take pathTruncateLoc)
    else none

/-- The LUNs of some names, each where it is found first. -/
def luns (links : Links) (names : List Bytes) : List Bytes := (names.filterMap links.lunOf).eraseDups

/-- The path is a truncated one that exists, of the target of a link to a backup partition. -/
def IsLun (links : Links) (path : Bytes) : Prop :=
  ∃ name ∈ ptnSwapList, skipsName true name = false ∧ links.present (bakLink name) = true ∧
    ∃ target, links.target (bakLink name) = some target ∧ pathTruncateLoc + 1 ≤ (realPath target).length ∧
      path = (realPath target).take pathTruncateLoc ∧ links.present path = true

theorem lunOf_eq_some_iff (links : Links) (name path : Bytes) : links.lunOf name = some path ↔
    skipsName true name = false ∧ links.present (bakLink name) = true ∧
      ∃ target, links.target (bakLink name) = some target ∧ pathTruncateLoc + 1 ≤ (realPath target).length ∧
        path = (realPath target).take pathTruncateLoc ∧ links.present path = true := by
  rw [lunOf]
  cases hskip : skipsName true name with
  | true => simp
  | false =>
  cases hpresent : links.present (bakLink name) with
  | false => simp
  | true =>
  cases htarget : links.target (bakLink name) with
  | none => simp
  | some target => grind

theorem mem_luns_iff (links : Links) (path : Bytes) : path ∈ links.luns ptnSwapList ↔ links.IsLun path := by
  rw [luns, List.mem_eraseDups, List.mem_filterMap]
  simp only [lunOf_eq_some_iff, IsLun]

theorem nodup_luns (links : Links) (names : List Bytes) : (links.luns names).Nodup :=
  DistinctLists.nodup_eraseDups _

end Links

/-! ### The list holds the LUNs found -/

/-- The first rows of the list are the LUNs, and the others are empty. -/
structure UpdateData.Lists (dat : UpdateData) (luns : List Bytes) : Prop where
  rows : dat.lunList = luns ++ List.replicate (maxLuns - luns.length) []
  count : dat.numValidEntries = luns.length
  paths : ∀ lun ∈ luns, lun.length = pathTruncateLoc

namespace UpdateData.Lists

variable {dat : UpdateData} {luns : List Bytes}

theorem zeroed : UpdateData.zeroed.Lists [] := ⟨rfl, rfl, List.forall_mem_nil _⟩

theorem row (h : dat.Lists luns) {i : Nat} (hi : i < luns.length) : dat.lunList[i]? = some luns[i] := by
  rw [h.rows, List.getElem?_append_left hi, List.getElem?_eq_getElem hi]

/-- Among paths of one length a prefix is the path itself, so the loop decides whether the LUN is listed. -/
theorem listsLun_eq (h : dat.Lists luns) (hroom : luns.length < maxLuns - 1) {lunPath : Bytes}
    (hpath : lunPath.length = pathTruncateLoc) {rounds i : Nat} (hrounds : i + rounds = luns.length) :
    listsLun dat lunPath rounds i = some (decide (lunPath ∈ luns.drop i)) := by
  induction rounds generalizing i with
  | zero =>
      rw [listsLun, List.drop_eq_nil_of_le (by omega)]
      rfl
  | succ rounds ih =>
      have hi : i < luns.length := by omega
      rw [listsLun, if_pos (by rw [h.count]; exact hroom), h.row hi, List.drop_eq_getElem_cons hi]
      have hsame : luns[i].isPrefixOf lunPath = decide (lunPath = luns[i]) := by
        rw [Bool.eq_iff_iff, List.isPrefixOf_iff_prefix, decide_eq_true_eq]
        apply Iff.intro
        · intro hstart
          exact (List.IsPrefix.eq_of_length hstart (by rw [h.paths _ (List.getElem_mem hi), hpath])).symm
        · intro heq
          exact heq ▸ List.prefix_rfl
      simp only [Option.bind_eq_bind, Option.bind_some, hsame, decide_eq_true_eq, ih (by omega : i + 1 + rounds = _),
        List.mem_cons]
      split_ifs with heq
      · simp [heq]
      · simp [heq]

theorem setLun (h : dat.Lists luns) (hroom : luns.length < maxLuns) {lunPath : Bytes}
    (hpath : lunPath.length = pathTruncateLoc) :
    ∃ later, dat.setLun luns.length lunPath = some later ∧ later.numValidEntries = luns.length ∧
      { later with numValidEntries := luns.length + 1 }.Lists (luns ++ [lunPath]) := by
  have hlen : dat.lunList.length = maxLuns := by
    rw [h.rows, List.length_append, List.length_replicate]
    omega
  have htake : lunPath.take (pathMax - 1) = lunPath := by
    apply List.take_of_length_le
    rw [hpath, pathMax, pathTruncateLoc]
    omega
  have hrest : maxLuns - luns.length = maxLuns - (luns ++ [lunPath]).length + 1 := by
    rw [List.length_append, List.length_singleton]
    omega
  refine ⟨{ dat with lunList := dat.lunList.set luns.length lunPath }, ?_, h.count, ?_, ?_, ?_⟩
  · rw [UpdateData.setLun, if_pos (by rw [hlen]; exact hroom), htake]
  · rw [h.rows, List.set_append_right _ _ le_rfl, Nat.sub_self, hrest, List.replicate_succ, List.set_cons_zero,
      List.append_assoc, List.singleton_append]
  · rw [List.length_append, List.length_singleton]
  · intro lun hlun
    obtain hold | hnew := List.mem_append.mp hlun
    · exact h.paths lun hold
    · rw [List.mem_singleton.mp hnew]
      exact hpath

end UpdateData.Lists

/-! ### The buffer -/

theorem cString_append_zeros (buf : Bytes) (count : Nat) : cString (buf ++ List.replicate count 0) = cString buf := by
  have hzeros : (List.replicate count (0 : UInt8)).takeWhile (· != 0) = [] := by
    cases count <;> rfl
  rw [cString, cString, List.takeWhile_append, hzeros, List.append_nil]
  split_ifs with hall
  · exact ((List.takeWhile_prefix _).eq_of_length hall).symm
  · rfl

theorem cString_cons {byte : UInt8} (hbyte : byte ≠ 0) (rest : Bytes) :
    cString (byte :: rest) = byte :: cString rest :=
  List.takeWhile_cons_of_pos (by simpa using hbyte)

/-- A zero within a C string ends it there. -/
theorem cString_set {buf : Bytes} {off : Nat} (hoff : off < (cString buf).length) :
    cString (buf.set off 0) = (cString buf).take off := by
  induction buf generalizing off with
  | nil => exact absurd hoff (Nat.not_lt_zero off)
  | cons byte rest ih =>
      by_cases hbyte : byte = 0
      · rw [hbyte] at hoff
        exact absurd hoff (Nat.not_lt_zero off)
      · rw [cString_cons hbyte] at hoff ⊢
        cases off with
        | zero => rfl
        | succ off =>
            rw [List.set_cons_succ, cString_cons hbyte, List.take_succ_cons, ih (Nat.lt_of_succ_lt_succ hoff)]

/-- A target read into the cleared buffer stands there up to its end. -/
theorem memcpy_cleared {target : Bytes} (hfits : target.length < pathMax) :
    ∃ realPath, memcpy (List.replicate pathMax 0) 0 target = some realPath ∧ cString realPath = cString target := by
  have hroom : 0 + target.length ≤ (List.replicate pathMax (0 : UInt8)).length := by
    rw [List.length_replicate]
    omega
  refine ⟨_, if_pos hroom, ?_⟩
  rw [overwrite, List.take_zero, List.nil_append, List.drop_replicate]
  exact cString_append_zeros _ _

/-- What `add_lun_to_update_list` does once `stat` has answered: it stores inside the list, and what the list holds
after it. -/
theorem addLunToUpdateList_eq {data : UpdateData} {luns : List Bytes} (h : data.Lists luns)
    (hroom : luns.length < maxLuns - 1) {lunPath : Bytes} (hpath : lunPath.length = pathTruncateLoc) :
    ∃ added : Bool → Int × UpdateData,
      addLunToUpdateList lunPath data = (boot (.stat lunPath) >>= fun found => Program.done (added found)) ∧
      ∀ found, (added found).2.Lists (if found = true ∧ lunPath ∉ luns then luns ++ [lunPath] else luns) := by
  have hlists := h.listsLun_eq hroom hpath (Nat.zero_add _)
  obtain ⟨later, hset, hcount, hlater⟩ := h.setLun (by omega) hpath
  rw [addLunToUpdateList, h.count, hlists, hset]
  by_cases hempty : luns = []
  · subst hempty
    rw [List.length_nil] at hset
    refine ⟨fun found => if found then (0, { later with numValidEntries := 1 }) else (-1, data), ?_, ?_⟩
    · congr 1
      funext found
      cases found <;> simp [hset]
    · intro found
      cases found with
      | false => simpa using h
      | true => simpa using hlater
  · have hsome : ¬ luns.length = 0 := by simpa using hempty
    refine ⟨fun found => if found then (if lunPath ∈ luns then (0, data)
      else (0, { later with numValidEntries := luns.length + 1 })) else (-1, data), ?_, ?_⟩
    · congr 1
      funext found
      by_cases hmem : lunPath ∈ luns <;> cases found <;> simp [hsome, hmem, hcount]
    · intro found
      by_cases hmem : lunPath ∈ luns
      · cases found <;> simpa [hmem] using h
      · cases found with
        | false => simpa using h
        | true => simpa [hmem] using hlater

/-! ### Runs -/

section Runs

variable {σ : Type} (links : Links) (prepare : BootUpdateStage → Bytes → σ → Int × σ)

/-- The file system is that of the links, and `prepare_partitions` does what is given. -/
def bootMachine : Machine bootSignature σ where
  answer
    | .stat path, s => (links.present path, s)
    | .readlink path bufSize, s => ((links.target path).map (List.take bufSize), s)
    | .preparePartitions stage devPath, s => prepare stage devPath s

/-- `prepare_partitions` on one LUN after another: whether one of them failed, and the state at the end. -/
def prepareEach (stage : BootUpdateStage) : List Bytes → σ → Bool × σ
  | [], s => (false, s)
  | lun :: luns, s =>
      let prepared := prepare stage lun s
      let rest := prepareEach stage luns prepared.2
      (prepared.1 != 0 || rest.1, rest.2)

variable {data : UpdateData} {s : σ}

theorem run_stat {α : Type} (path : Bytes) (f : Bool → Boot α) :
    (bootMachine links prepare).run (boot (.stat path) >>= f) s =
      (bootMachine links prepare).run (f (links.present path)) s := rfl

theorem run_readlink {α : Type} (path : Bytes) (bufSize : Nat) (f : Option Bytes → Boot α) :
    (bootMachine links prepare).run (boot (.readlink path bufSize) >>= f) s =
      (bootMachine links prepare).run (f ((links.target path).map (List.take bufSize))) s := rfl

theorem run_prepare {α : Type} (stage : BootUpdateStage) (devPath : Bytes) (f : Int → Boot α) :
    (bootMachine links prepare).run (boot (.preparePartitions stage devPath) >>= f) s =
      (bootMachine links prepare).run (f (prepare stage devPath s).1) (prepare stage devPath s).2 := rfl

theorem run_addLunToUpdateList {luns : List Bytes} (h : data.Lists luns) (hroom : luns.length < maxLuns - 1)
    {lunPath : Bytes} (hpath : lunPath.length = pathTruncateLoc) :
    ∃ added : Int × UpdateData,
      (bootMachine links prepare).run (addLunToUpdateList lunPath data) s = some (added, s) ∧
      added.2.Lists (if links.present lunPath = true ∧ lunPath ∉ luns then luns ++ [lunPath] else luns) := by
  obtain ⟨added, heq, hadded⟩ := addLunToUpdateList_eq h hroom hpath
  exact ⟨added (links.present lunPath), by rw [heq, run_stat]; rfl, hadded _⟩

theorem run_addName {found : List Bytes} (h : data.Lists found.eraseDups) (hroom : found.length < maxLuns - 1)
    (name : Bytes) :
    ∃ later, (bootMachine links prepare).run (addName name (List.replicate pathMax 0) data) s =
        some ((List.replicate pathMax 0, later), s) ∧
      later.Lists (found ++ (links.lunOf name).toList).eraseDups := by
  rw [addName, Links.lunOf]
  cases hskip : skipsName true name with
  | true => exact ⟨data, rfl, by simpa using h⟩
  | false =>
  simp only [Bool.false_eq_true, if_false]
  rw [run_stat]
  cases hpresent : links.present (bakLink name) with
  | false => exact ⟨data, rfl, by simpa using h⟩
  | true =>
  simp only [Bool.not_true, Bool.false_eq_true, if_false]
  rw [run_readlink]
  cases htarget : links.target (bakLink name) with
  | none => exact ⟨data, rfl, by simpa using h⟩
  | some target =>
  have hfits : (target.take (pathMax - 1)).length < pathMax := by
    rw [List.length_take, pathMax]
    omega
  obtain ⟨realPath, hcopy, hread⟩ := memcpy_cleared hfits
  simp only [Option.map_some, Option.bind_some, hcopy, Program.ofOption_some, Program.done_bind, hread]
  by_cases hshort : (Links.realPath target).length < pathTruncateLoc + 1
  · rw [if_pos hshort, if_pos (by exact hshort)]
    exact ⟨data, rfl, by simpa using h⟩
  · have hcut : cString (realPath.set pathTruncateLoc 0) = (Links.realPath target).take pathTruncateLoc := by
      rw [cString_set (by rw [hread]; exact not_le.mp fun hle => hshort (Nat.lt_succ_of_le hle)), hread]
      rfl
    have hlen : ((Links.realPath target).take pathTruncateLoc).length = pathTruncateLoc := by
      rw [List.length_take]
      omega
    have hfew : found.eraseDups.length < maxLuns - 1 := (DistinctLists.length_eraseDups_le found).trans_lt hroom
    obtain ⟨added, hrun, hadded⟩ := run_addLunToUpdateList links prepare (s := s) h hfew hlen
    rw [if_neg hshort, if_neg (by exact hshort), hcut, Machine.run_bind, hrun, Option.bind_some]
    refine ⟨added.2, rfl, ?_⟩
    cases hfound : links.present ((Links.realPath target).take pathTruncateLoc) with
    | false =>
        simp only [hfound] at hadded
        simpa using hadded
    | true =>
        simp only [hfound, true_and] at hadded
        rw [if_pos rfl, Option.toList_some, DistinctLists.eraseDups_concat]
        by_cases hmem : (Links.realPath target).take pathTruncateLoc ∈ found
        · rw [if_neg (not_not.mpr (List.mem_eraseDups.mpr hmem))] at hadded
          rw [if_pos hmem]
          exact hadded
        · rw [if_pos fun hold => hmem (List.mem_eraseDups.mp hold)] at hadded
          rw [if_neg hmem]
          exact hadded

theorem run_addNames {found : List Bytes} (h : data.Lists found.eraseDups) {names : List Bytes}
    (hroom : found.length + names.length < maxLuns) :
    ∃ later, (bootMachine links prepare).run (addNames names (List.replicate pathMax 0) data) s = some (later, s) ∧
      later.Lists (found ++ names.filterMap links.lunOf).eraseDups := by
  induction names generalizing found data with
  | nil => exact ⟨data, rfl, by simpa using h⟩
  | cons name names ih =>
      rw [List.length_cons] at hroom
      obtain ⟨next, hnext, hlists⟩ := run_addName links prepare (s := s) h (by omega) name
      have hone : (links.lunOf name).toList.length ≤ 1 := by
        cases links.lunOf name <;> simp
      obtain ⟨later, hrun, hlater⟩ := ih hlists (by
        rw [List.length_append]
        omega)
      refine ⟨later, ?_, ?_⟩
      · rw [addNames, Machine.run_bind, hnext, Option.bind_some]
        exact hrun
      · have hcons : (links.lunOf name).toList ++ names.filterMap links.lunOf =
            (name :: names).filterMap links.lunOf := by
          cases hlun : links.lunOf name <;> simp [hlun]
        rw [List.append_assoc, hcons] at hlater
        exact hlater

theorem run_prepareLuns {luns : List Bytes} (h : data.Lists luns) (stage : BootUpdateStage) {rounds i : Nat}
    (hrounds : i + rounds = luns.length) (isError : Bool) :
    (bootMachine links prepare).run (prepareLuns stage data rounds i isError) s =
      some (isError || (prepareEach prepare stage (luns.drop i) s).1,
        (prepareEach prepare stage (luns.drop i) s).2) := by
  induction rounds generalizing i isError s with
  | zero =>
      rw [prepareLuns, List.drop_eq_nil_of_le (by omega), prepareEach, Bool.or_false]
      rfl
  | succ rounds ih =>
      have hi : i < luns.length := by omega
      rw [prepareLuns, h.row hi, Program.ofOption_some, Program.done_bind, run_prepare, ih (by omega),
        List.drop_eq_getElem_cons hi, prepareEach]
      cases hrcode : (prepare stage luns[i] s).1 != 0 <;> simp

/-- The whole function prepares the LUNs that the links lead to, each once, and stores inside the list only. -/
theorem run_prepareBootUpdate (stage : BootUpdateStage) :
    (bootMachine links prepare).run (prepareBootUpdate true stage) s =
      some (if (prepareEach prepare stage (links.luns ptnSwapList) s).1 then -1 else 0,
        (prepareEach prepare stage (links.luns ptnSwapList) s).2) := by
  have hroom : ([] : List Bytes).length + ptnSwapList.length < maxLuns := by decide
  obtain ⟨data, hnames, hlists⟩ := run_addNames links prepare (s := s) UpdateData.Lists.zeroed hroom
  rw [List.nil_append] at hlists
  rw [prepareBootUpdate]
  simp only [Bool.not_true, Bool.false_eq_true, if_false]
  rw [Machine.run_bind, hnames, Option.bind_some, Machine.run_bind, hlists.count,
    run_prepareLuns links prepare hlists stage (Nat.zero_add _), Option.bind_some, Bool.false_or, List.drop_zero,
    Links.luns]
  cases (prepareEach prepare stage (ptnSwapList.filterMap links.lunOf).eraseDups s).1 <;> rfl

end Runs

/-! ### The calls of `prepare_partitions` -/

/-- A call of `prepare_partitions` and what it returned. -/
structure Prepared where
  stage : BootUpdateStage
  devPath : Bytes
  rcode : Int

/-- The calls are recorded, and what one returns may depend on those before it. -/
def recording (reply : List Prepared → BootUpdateStage → Bytes → Int) (stage : BootUpdateStage) (devPath : Bytes)
    (calls : List Prepared) : Int × List Prepared :=
  (reply calls stage devPath, calls ++ [⟨stage, devPath, reply calls stage devPath⟩])

theorem prepareEach_recording (reply : List Prepared → BootUpdateStage → Bytes → Int) (stage : BootUpdateStage)
    (luns : List Bytes) (calls : List Prepared) :
    ∃ made, prepareEach (recording reply) stage luns calls = (made.any (·.rcode != 0), calls ++ made) ∧
      made.map Prepared.devPath = luns ∧ ∀ call ∈ made, call.stage = stage := by
  induction luns generalizing calls with
  | nil => exact ⟨[], by rw [prepareEach, List.append_nil]; rfl, rfl, List.forall_mem_nil _⟩
  | cons lun luns ih =>
      obtain ⟨made, hmade, hpaths, hstages⟩ := ih (recording reply stage lun calls).2
      refine ⟨⟨stage, lun, reply calls stage lun⟩ :: made, ?_, ?_, ?_⟩
      · rw [prepareEach, hmade, recording, List.any_cons, List.append_assoc, List.singleton_append]
      · rw [List.map_cons, hpaths]
      · exact List.forall_mem_cons.mpr ⟨rfl, hstages⟩

/-- Whatever the links lead to and whatever `prepare_partitions` returns, it is called exactly once for each LUN
path, with the stage of the update; no store leaves the list, and a failure of one LUN is reported in the end. -/
theorem luns_prepared_once (links : Links) (reply : List Prepared → BootUpdateStage → Bytes → Int)
    (stage : BootUpdateStage) :
    ∃ r calls, (bootMachine links (recording reply)).run (prepareBootUpdate true stage) [] = some (r, calls) ∧
      (∀ call ∈ calls, call.stage = stage) ∧ (calls.map Prepared.devPath).Nodup ∧
      (∀ path, path ∈ calls.map Prepared.devPath ↔ links.IsLun path) ∧
      (r = -1 ↔ ∃ call ∈ calls, call.rcode ≠ 0) := by
  obtain ⟨made, hmade, hpaths, hstages⟩ := prepareEach_recording reply stage (links.luns ptnSwapList) []
  refine ⟨_, made, by rw [run_prepareBootUpdate, hmade, List.nil_append], hstages, ?_, ?_, ?_⟩
  · rw [hpaths]
    exact links.nodup_luns _
  · intro path
    rw [hpaths]
    exact links.mem_luns_iff path
  · have hany : made.any (·.rcode != 0) = true ↔ ∃ call ∈ made, call.rcode ≠ 0 := by
      simp only [List.any_eq_true, bne_iff_ne]
    rw [← hany]
    cases made.any (·.rcode != 0) <;> simp

/-- All backup partitions lie on one LUN. -/
theorem luns_prepared_once_sample :
    ∃ r calls, (bootMachine ⟨fun _ => true, fun _ => some (cstr "/dev/block/sda13")⟩
        (recording fun _ _ _ => 1)).run (prepareBootUpdate true .updateMain) [] = some (r, calls) ∧
      calls.map Prepared.devPath = [cstr "/dev/block/sda"] := by
  obtain ⟨r, calls, hrun, -, hnodup, hmem, -⟩ := luns_prepared_once
    ⟨fun _ => true, fun _ => some (cstr "/dev/block/sda13")⟩ (fun _ _ _ => 1) .updateMain
  have hpath : (Links.realPath (cstr "/dev/block/sda13")).take pathTruncateLoc = cstr "/dev/block/sda" := by decide
  have hlong : pathTruncateLoc + 1 ≤ (Links.realPath (cstr "/dev/block/sda13")).length := by decide
  refine ⟨r, calls, hrun, ?_⟩
  apply List.perm_singleton.mp
  apply (List.perm_ext_iff_of_nodup hnodup (List.nodup_singleton _)).mpr
  intro path
  rw [hmem, List.mem_singleton, ← hpath]
  apply Iff.intro
  · intro h
    obtain ⟨name, -, -, -, target, htarget, -, heq, -⟩ := h
    rw [heq, ← Option.some.inj htarget]
  · intro heq
    exact ⟨cstr "abl", by decide, by decide, rfl, _, rfl, hlong, heq, rfl⟩

/-! ### Any replies -/

/-- The calls of `prepare_boot_update` with any replies, but that `readlink` places no more than it is given room
for. -/
def anyReplies : World bootSignature Unit where
  answer
    | .readlink _ bufSize, _, r, _ => ∀ target, r = some target → target.length ≤ bufSize
    | .stat _, _, _, _ => True
    | .preparePartitions _ _, _, _, _ => True
  interrupt _ _ _ := False

section AnyReplies

variable {data : UpdateData} {luns : List Bytes}

/-- The list holds some LUNs, at most so many. -/
def UpdateData.Holds (dat : UpdateData) (count : Nat) : Prop := ∃ luns, dat.Lists luns ∧ luns.length ≤ count

theorem UpdateData.Holds.mono {count count' : Nat} (h : data.Holds count) (hle : count ≤ count') :
    data.Holds count' := by
  obtain ⟨luns, hlists, hlen⟩ := h
  exact ⟨luns, hlists, hlen.trans hle⟩

theorem faultless_boot {α : Type} {Q : α → Unit → Prop} {c : BootCall} {f : c.Reply → Boot α}
    (h : ∀ r, anyReplies.answer c () r () → Faultless anyReplies Q (f r) ()) :
    Faultless anyReplies Q (boot c >>= f) () :=
  faultless_call fun r _ hanswer => h r hanswer

theorem faultless_addLunToUpdateList {count : Nat} (h : data.Holds count) (hroom : count < maxLuns - 1)
    {lunPath : Bytes} (hpath : lunPath.length = pathTruncateLoc) :
    Faultless anyReplies (fun added _ => added.2.Holds (count + 1)) (addLunToUpdateList lunPath data) () := by
  obtain ⟨luns, hlists, hlen⟩ := h
  obtain ⟨added, heq, hadded⟩ := addLunToUpdateList_eq hlists (hlen.trans_lt hroom) hpath
  rw [heq]
  refine faultless_boot fun found _ => faultless_done ⟨_, hadded found, ?_⟩
  split_ifs
  · rw [List.length_append, List.length_singleton]
    omega
  · omega

theorem faultless_addName {count : Nat} (h : data.Holds count) (hroom : count < maxLuns - 1) (name : Bytes) :
    Faultless anyReplies (fun next _ => next.1 = List.replicate pathMax 0 ∧ next.2.Holds (count + 1))
      (addName name (List.replicate pathMax 0) data) () := by
  have hsame : data.Holds (count + 1) := h.mono (Nat.le_succ _)
  rw [addName]
  by_cases hskip : skipsName true name = true
  · rw [if_pos hskip]
    exact faultless_done ⟨rfl, hsame⟩
  rw [if_neg hskip]
  refine faultless_boot fun present _ => ?_
  cases present with
  | false => exact faultless_done ⟨rfl, hsame⟩
  | true =>
  refine faultless_boot fun target htarget => ?_
  cases target with
  | none => exact faultless_done ⟨rfl, hsame⟩
  | some target =>
  have hfits : target.length < pathMax := lt_of_le_of_lt (htarget target rfl) (by decide)
  obtain ⟨realPath, hcopy, hread⟩ := memcpy_cleared hfits
  simp only [hcopy, Program.ofOption_some, Program.done_bind, hread]
  by_cases hshort : (cString target).length < pathTruncateLoc + 1
  · rw [if_pos hshort]
    exact faultless_done ⟨rfl, hsame⟩
  rw [if_neg hshort]
  have hlen : (cString (realPath.set pathTruncateLoc 0)).length = pathTruncateLoc := by
    rw [cString_set (by rw [hread]; omega), hread, List.length_take]
    omega
  refine faultless_bind (faultless_addLunToUpdateList h hroom hlen) fun added _ hadded => ?_
  exact faultless_done ⟨rfl, hadded⟩

theorem faultless_addNames {names : List Bytes} {count : Nat} (h : data.Holds count)
    (hroom : count + names.length < maxLuns) :
    Faultless anyReplies (fun later _ => later.Holds (count + names.length))
      (addNames names (List.replicate pathMax 0) data) () := by
  induction names generalizing data count with
  | nil => exact faultless_done h
  | cons name names ih =>
      rw [List.length_cons] at hroom
      refine faultless_bind (faultless_addName h (by omega) name) fun next _ hnext => ?_
      rw [hnext.1, List.length_cons, ← Nat.add_assoc, Nat.add_right_comm]
      exact ih hnext.2 (by omega)

theorem faultless_prepareLuns (h : data.Lists luns) (stage : BootUpdateStage) {rounds i : Nat}
    (hrounds : i + rounds = luns.length) (isError : Bool) :
    Faultless anyReplies (fun _ _ => True) (prepareLuns stage data rounds i isError) () := by
  induction rounds generalizing i isError with
  | zero => exact faultless_done trivial
  | succ rounds ih =>
      rw [prepareLuns, h.row (by omega), Program.ofOption_some, Program.done_bind]
      exact faultless_boot fun rcode _ => ih (by omega) _

/-- No store of `prepare_boot_update` leaves a buffer, whatever its calls reply. -/
theorem not_faults_prepareBootUpdate (isUfs : Bool) (stage : BootUpdateStage) :
    ¬ Faults anyReplies (prepareBootUpdate isUfs stage) () := by
  refine (?_ : Faultless anyReplies (fun _ _ => True) (prepareBootUpdate isUfs stage) ()).1
  cases isUfs with
  | false => exact faultless_call fun rcode _ _ => faultless_done trivial
  | true =>
      have hzeroed : UpdateData.zeroed.Holds 0 := ⟨[], .zeroed, le_rfl⟩
      have hroom : 0 + ptnSwapList.length < maxLuns := by decide
      refine faultless_bind (faultless_addNames hzeroed hroom) fun data _ hdata => ?_
      obtain ⟨luns, hlists, -⟩ := hdata
      rw [hlists.count]
      refine faultless_bind (faultless_prepareLuns hlists stage (Nat.zero_add _) false) fun isError _ _ => ?_
      cases isError <;> exact faultless_done trivial

end AnyReplies

end Penrose.Gpt
