import Penrose.GptDisk
import Penrose.KeyedLists

/-! `gpt_utils_get_partition_map` groups partitions by the disks that hold them. The disk of a group is what the
`gpt_disk` interface opens for any partition in it, as long as the links of the partitions stay as they are. -/

namespace Penrose.Gpt

open CallTree

/-- An entry of the map. -/
structure PartitionGroup where
  path : String
  partitions : List String
  deriving DecidableEq

/-- The map, whose entries have no order of their own. -/
abbrev PartitionMap := List PartitionGroup

/-- The partitions under a path; there are none under a path that is not a key. -/
def PartitionMap.partitionsOf (partitionMap : PartitionMap) (path : String) : List String :=
  (findKey PartitionGroup.path partitionMap path).elim [] PartitionGroup.partitions

/-- A partition is put behind those of its device, or into a new entry. -/
def PartitionMap.add (partitionMap : PartitionMap) (path ptn : String) : PartitionMap :=
  upsertKey PartitionGroup.path path (fun group => { group with partitions := group.partitions ++ [ptn] }) ⟨path, [ptn]⟩
    partitionMap

/-- The loop over the list, with the buffer that all rounds share. -/
def addPartitions (isUfs : Bool) : List String → CharBuf → PartitionMap → Sys PartitionMap
  | [], _, partitionMap => return partitionMap
  | ptn :: ptnList, devpath, partitionMap => do
      match ← getDevPathFromPartitionName isUfs ptn devpath with
      -- the partition may just not be present
      | none => addPartitions isUfs ptnList devpath partitionMap
      | some devpath => addPartitions isUfs ptnList .cleared (partitionMap.add devpath.text ptn)

/-- `gpt_utils_get_partition_map`: the return value and the map. -/
def gptUtilsGetPartitionMap (isUfs : Bool) (ptnList : List String) (partitionMap : PartitionMap) :
    Sys (Int × PartitionMap) := do
  if ptnList.length < 1 then
    return (-1, partitionMap)
  let partitionMap ← addPartitions isUfs ptnList .cleared partitionMap
  return (0, partitionMap)

/-! ### The links -/

/-- The device that holds a partition, as the links have it: the target up to the letter of the disk. -/
def Files.devPath (files : Files) (isUfs : Bool) (partname : String) : Option String :=
  if isUfs then
    if files.stat (bootDevDir ++ "/" ++ partname) then
      (files.readlink (bootDevDir ++ "/" ++ partname)).map fun realPath =>
        String.ofList ((realPath.toList.take pathTruncateLoc).takeWhile (· != '\x00'))
    else none
  else some blkDevFile

/-- Whatever else changes in the world, the links do not. -/
structure Shows {σ : Type} (W : World sysSignature σ) (files : Files) : Prop where
  stat : ∀ {path s r t}, W.answer (.stat path) s r t → r = files.stat path
  readlink : ∀ {path s r t}, W.answer (.readlink path) s r t → r = files.readlink path

/-- The partitions of each group are on its device. -/
structure PartitionMap.IsSorted (partitionMap : PartitionMap) (files : Files) (isUfs : Bool) : Prop where
  unique : UniqueKeys PartitionGroup.path partitionMap
  ne_nil : ∀ group ∈ partitionMap, group.partitions ≠ []
  devPath_eq : ∀ group ∈ partitionMap, ∀ ptn ∈ group.partitions, files.devPath isUfs ptn = some group.path

section Sorted

variable {σ : Type} {W : World sysSignature σ} {files : Files} {isUfs : Bool} {partitionMap later : PartitionMap}
  {ptnList : List String} {path ptn : String} {s t : σ}

theorem partitionsOf_add (path' : String) :
    (partitionMap.add path ptn).partitionsOf path' =
      partitionMap.partitionsOf path' ++ if path' = path then [ptn] else [] := by
  rw [PartitionMap.partitionsOf, PartitionMap.add, findKey_upsertKey, PartitionMap.partitionsOf]
  · by_cases hpath : path' = path
    · rw [if_pos hpath, if_pos hpath, hpath]
      cases findKey PartitionGroup.path partitionMap path <;> rfl
    · rw [if_neg hpath, if_neg hpath, List.append_nil]
  · exact fun _ hkey => hkey
  · rfl

/-- A group of the map after a partition was added is one from before, or has the partition behind those from before. -/
theorem mem_add {group : PartitionGroup} (hgroup : group ∈ partitionMap.add path ptn) :
    group ∈ partitionMap ∨ group = ⟨path, [ptn]⟩ ∨
      ∃ before ∈ partitionMap, before.path = path ∧ group = ⟨before.path, before.partitions ++ [ptn]⟩ := by
  induction partitionMap with
  | nil => exact Or.inr (Or.inl (List.mem_singleton.mp hgroup))
  | cons head tail ih =>
      rw [PartitionMap.add, upsertKey] at hgroup
      split_ifs at hgroup with hpath
      · obtain rfl | htail := List.mem_cons.mp hgroup
        · exact Or.inr (Or.inr ⟨head, List.mem_cons_self, hpath, rfl⟩)
        · exact Or.inl (List.mem_cons_of_mem _ htail)
      · obtain rfl | htail := List.mem_cons.mp hgroup
        · exact Or.inl List.mem_cons_self
        · obtain hbefore | hfresh | ⟨before, hbefore, hgrown⟩ := ih htail
          · exact Or.inl (List.mem_cons_of_mem _ hbefore)
          · exact Or.inr (Or.inl hfresh)
          · exact Or.inr (Or.inr ⟨before, List.mem_cons_of_mem _ hbefore, hgrown⟩)

theorem isSorted_nil : PartitionMap.IsSorted [] files isUfs :=
  ⟨List.nodup_nil, List.forall_mem_nil _, List.forall_mem_nil _⟩

theorem PartitionMap.IsSorted.add (h : partitionMap.IsSorted files isUfs)
    (hpath : files.devPath isUfs ptn = some path) :
    (partitionMap.add path ptn).IsSorted files isUfs := by
  refine ⟨h.unique.upsertKey (fun _ hkey => hkey) rfl, fun group hgroup => ?_, fun group hgroup other hother => ?_⟩
  · obtain hbefore | rfl | ⟨before, -, -, rfl⟩ := mem_add hgroup
    · exact h.ne_nil group hbefore
    · exact List.cons_ne_nil _ _
    · exact List.append_ne_nil_of_right_ne_nil _ (List.cons_ne_nil _ _)
  · obtain hbefore | rfl | ⟨before, hbefore, hkey, rfl⟩ := mem_add hgroup
    · exact h.devPath_eq group hbefore other hother
    · rw [List.mem_singleton.mp hother]
      exact hpath
    · obtain hold | hnew := List.mem_append.mp hother
      · exact h.devPath_eq before hbefore other hold
      · rw [List.mem_singleton.mp hnew, hkey]
        exact hpath

/-! ### What is found -/

theorem text_blkDevFile (buf : CharBuf) : (buf.place (blkDevFile.toList ++ ['\x00'])).text = blkDevFile := rfl

/-- In a cleared buffer the function leaves what the links say. -/
theorem devPath_of_returns (hshows : Shows W files) {found : Option CharBuf}
    (hrun : Returns W (getDevPathFromPartitionName isUfs ptn .cleared) s found t) :
    found.map CharBuf.text = files.devPath isUfs ptn := by
  rw [getDevPathFromPartitionName] at hrun
  rw [Files.devPath]
  cases isUfs with
  | false =>
      obtain ⟨rfl, -⟩ := returns_done_iff.mp hrun
      exact congrArg some (text_blkDevFile .cleared)
  | true =>
      obtain ⟨exists?, u, hstat, hrun⟩ := returns_call_iff.mp hrun
      rw [if_pos rfl, ← hshows.stat hstat]
      cases exists? with
      | false =>
          obtain ⟨rfl, -⟩ := returns_done_iff.mp hrun
          rfl
      | true =>
          obtain ⟨realPath, v, hreadlink, hrun⟩ := returns_call_iff.mp hrun
          rw [if_pos rfl, ← hshows.readlink hreadlink]
          cases realPath with
          | none =>
              obtain ⟨rfl, -⟩ := returns_done_iff.mp hrun
              rfl
          | some realPath =>
              obtain ⟨rfl, -⟩ := returns_done_iff.mp hrun
              exact congrArg some (CharBuf.text_cleared realPath.toList (by decide))

/-- The buffer is cleared in every round, and each partition goes where its link leads. -/
theorem addPartitions_returns (hshows : Shows W files)
    (hrun : Returns W (addPartitions isUfs ptnList .cleared partitionMap) s later t) :
    (∀ path, later.partitionsOf path =
      partitionMap.partitionsOf path ++ ptnList.filter fun ptn => files.devPath isUfs ptn = some path) ∧
    (partitionMap.IsSorted files isUfs → later.IsSorted files isUfs) := by
  induction ptnList generalizing partitionMap s with
  | nil =>
      obtain ⟨rfl, -⟩ := returns_done_iff.mp hrun
      exact ⟨fun path => (List.append_nil _).symm, fun h => h⟩
  | cons ptn ptnList ih =>
      obtain ⟨found, u, hfound, hrest⟩ := returns_bind_iff.mp hrun
      have hpath := devPath_of_returns hshows hfound
      cases found with
      | none =>
          obtain ⟨hpartitions, hsorted⟩ := ih hrest
          refine ⟨fun path => ?_, hsorted⟩
          rw [hpartitions path, List.filter_cons_of_neg (by simp [← hpath])]
      | some found =>
          obtain ⟨hpartitions, hsorted⟩ := ih hrest
          refine ⟨fun path => ?_, fun h => hsorted (h.add hpath.symm)⟩
          rw [hpartitions path, partitionsOf_add, List.append_assoc]
          by_cases hsame : path = found.text
          · rw [if_pos hsame, List.filter_cons_of_pos (by simp [← hpath, hsame])]
            rfl
          · rw [if_neg hsame, List.filter_cons_of_neg (by simp [← hpath, Ne.symm hsame])]
            rfl

/-- The path that the interface keeps in a fresh structure is that of the device that holds the partition. -/
theorem devPath_of_getDiskInfo (hshows : Shows W files) {crc : ByteRegions.Bytes → UInt32} {dsk disk : GptDisk}
    (hfresh : dsk.devpath = .cleared) (hrun : Returns W (gptDiskGetDiskInfo crc isUfs ptn dsk) s (0, disk) t) :
    files.devPath isUfs ptn = some disk.devpath.text := by
  obtain ⟨hdr, _, -, hrun⟩ := returns_bind_iff.mp hrun
  cases hdr with
  | none => cases (returns_done_iff.mp hrun).1
  | some hdr =>
      obtain ⟨_, -, hrun⟩ := returns_ofOption_bind_iff.mp hrun
      obtain ⟨_, -, hrun⟩ := returns_ofOption_bind_iff.mp hrun
      obtain ⟨hdrBak, _, -, hrun⟩ := returns_bind_iff.mp hrun
      cases hdrBak with
      | none => cases (returns_done_iff.mp hrun).1
      | some hdrBak =>
          obtain ⟨_, -, hrun⟩ := returns_ofOption_bind_iff.mp hrun
          obtain ⟨devpath, _, hdevpath, hrun⟩ := returns_bind_iff.mp hrun
          simp only [hfresh] at hdevpath
          rw [← devPath_of_returns hshows hdevpath]
          cases devpath with
          | none => cases (returns_done_iff.mp hrun).1
          | some devpath =>
              -- nothing after this changes the path
              obtain ⟨opened, _, -, hrun⟩ := returns_bind_iff.mp hrun
              cases opened with
              | false => cases (returns_done_iff.mp hrun).1
              | true =>
                  obtain ⟨pentryArr, _, -, hrun⟩ := returns_bind_iff.mp hrun
                  cases pentryArr with
                  | none => cases (returns_done_iff.mp hrun).1
                  | some pentryArr =>
                      obtain ⟨pentryArrBak, _, -, hrun⟩ := returns_bind_iff.mp hrun
                      cases pentryArrBak with
                      | none => cases (returns_done_iff.mp hrun).1
                      | some pentryArrBak =>
                          obtain ⟨_, -, hrun⟩ := returns_ofOption_bind_iff.mp hrun
                          obtain ⟨_, -, hrun⟩ := returns_ofOption_bind_iff.mp hrun
                          obtain ⟨_, -, hrun⟩ := returns_ofOption_bind_iff.mp hrun
                          obtain ⟨_, -, hrun⟩ := returns_ofOption_bind_iff.mp hrun
                          obtain ⟨_, _, -, hrun⟩ := returns_bind_iff.mp hrun
                          cases (returns_done_iff.mp hrun).1
                          rfl

/-- The partitions of each group are on one disk, which the interface opens for any of them. -/
def PartitionMap.OneDiskEach (partitionMap : PartitionMap) (W : World sysSignature σ) (isUfs : Bool) : Prop :=
  ∀ group ∈ partitionMap, group.partitions ≠ [] ∧ ∀ ptn ∈ group.partitions, ∀ crc dsk disk s t,
    dsk.devpath = .cleared → Returns W (gptDiskGetDiskInfo crc isUfs ptn dsk) s (0, disk) t →
      disk.devpath.text = group.path

theorem PartitionMap.IsSorted.oneDiskEach (h : partitionMap.IsSorted files isUfs) (hshows : Shows W files) :
    partitionMap.OneDiskEach W isUfs := by
  refine fun group hgroup => ⟨h.ne_nil group hgroup, fun ptn hptn crc dsk disk s t hfresh hinfo => ?_⟩
  have hpath := devPath_of_getDiskInfo hshows hfresh hinfo
  rw [h.devPath_eq group hgroup ptn hptn] at hpath
  exact (Option.some.inj hpath).symm

theorem only_getDevPathFromPartitionName (partname : String) (buf : CharBuf) :
    Only Syscall.IsQuery (getDevPathFromPartitionName isUfs partname buf) := by
  cases isUfs with
  | false => trivial
  | true =>
      refine ⟨trivial, fun found => ?_⟩
      cases found with
      | false => trivial
      | true =>
          refine ⟨trivial, fun realPath => ?_⟩
          cases realPath <;> trivial

theorem only_addPartitions (ptnList : List String) (devpath : CharBuf) (partitionMap : PartitionMap) :
    Only Syscall.IsQuery (addPartitions isUfs ptnList devpath partitionMap) := by
  induction ptnList generalizing devpath partitionMap with
  | nil => trivial
  | cons ptn ptnList ih =>
      refine (only_getDevPathFromPartitionName ptn devpath).bind fun found => ?_
      cases found with
      | none => exact ih devpath partitionMap
      | some found => exact ih .cleared (partitionMap.add found.text ptn)

theorem only_gptUtilsGetPartitionMap (ptnList : List String) (partitionMap : PartitionMap) :
    Only Syscall.IsQuery (gptUtilsGetPartitionMap isUfs ptnList partitionMap) := by
  rw [gptUtilsGetPartitionMap]
  split_ifs
  · trivial
  · exact (only_addPartitions ptnList .cleared partitionMap).bind fun _ => trivial

/-- The function only asks the file system; it puts the list into the map as the links have it, behind what the map
had, and if every group of the map was one disk, every group is one disk then. An empty list is an error. -/
theorem getPartitionMap_groups (hshows : Shows W files) (ptnList : List String) (partitionMap : PartitionMap) (s : σ) :
    Only Syscall.IsQuery (gptUtilsGetPartitionMap isUfs ptnList partitionMap) ∧
      ∀ r later t, Returns W (gptUtilsGetPartitionMap isUfs ptnList partitionMap) s (r, later) t →
        r = (if ptnList = [] then -1 else 0) ∧
        (∀ path, later.partitionsOf path =
          partitionMap.partitionsOf path ++ ptnList.filter fun ptn => files.devPath isUfs ptn = some path) ∧
        (partitionMap.IsSorted files isUfs → later.IsSorted files isUfs ∧ later.OneDiskEach W isUfs) := by
  refine ⟨only_gptUtilsGetPartitionMap ptnList partitionMap, fun r later t hrun => ?_⟩
  cases ptnList with
  | nil =>
      cases (returns_done_iff.mp hrun).1
      exact ⟨rfl, fun path => (List.append_nil _).symm, fun h => ⟨h, h.oneDiskEach hshows⟩⟩
  | cons ptn ptnList =>
      obtain ⟨added, u, hadded, hrest⟩ := returns_bind_iff.mp hrun
      cases (returns_done_iff.mp hrest).1
      obtain ⟨hpartitions, hsorted⟩ := addPartitions_returns hshows hadded
      exact ⟨rfl, hpartitions, fun h => ⟨hsorted h, (hsorted h).oneDiskEach hshows⟩⟩

end Sorted

theorem shows_working (g : Geometry) (files : Files) : Shows (working g files).world files :=
  ⟨fun h => (Prod.mk.inj h).1.symm, fun h => (Prod.mk.inj h).1.symm⟩

/-- The link of one partition leads to another disk. -/
def twoDisks : Files where
  stat _ := true
  readlink path := if path = bootDevDir ++ "/abl" then some "/dev/block/sdb12" else some "/dev/block/sda4"
  listDir _ := none

theorem smallGeometry_room : partitionCrcOffset + 4 ≤ 512 := by decide

def smallGeometry : Geometry := ⟨512, 8, smallGeometry_room⟩

theorem getPartitionMap_groups_twoDisks : ∃ later t,
    Returns (working smallGeometry twoDisks).world (gptUtilsGetPartitionMap true ["xbl", "abl", "tz"] [])
      ⟨fun _ => 0, 0⟩ (0, later) t ∧
    later.partitionsOf "/dev/block/sda" = ["xbl", "tz"] ∧ later.partitionsOf "/dev/block/sdb" = ["abl"] ∧
    later.OneDiskEach (working smallGeometry twoDisks).world true := by
  have hrun : ((working smallGeometry twoDisks).run (gptUtilsGetPartitionMap true ["xbl", "abl", "tz"] [])
      ⟨fun _ => 0, 0⟩).map Prod.fst = some (0, [⟨"/dev/block/sda", ["xbl", "tz"]⟩, ⟨"/dev/block/sdb", ["abl"]⟩]) := by
    decide +kernel
  obtain ⟨⟨_, t⟩, hrun, rfl⟩ := Option.map_eq_some_iff.mp hrun
  have hreturns := (Machine.returns_iff_run _).mpr hrun
  have hgroups := (getPartitionMap_groups (shows_working smallGeometry twoDisks) ["xbl", "abl", "tz"] [] _).2 _ _ _
    hreturns
  refine ⟨_, t, hreturns, ?_, ?_, (hgroups.2.2 isSorted_nil).2⟩
  · rw [hgroups.2.1]
    decide +kernel
  · rw [hgroups.2.1]
    decide +kernel

end Penrose.Gpt
