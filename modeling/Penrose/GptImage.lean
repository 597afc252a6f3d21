import Penrose.GptRegions

/-! Disks laid out from their four regions: one block before the primary header, the primary array after
it, then the secondary array and the secondary header. Such a disk has healthy GPTs when its headers say
where the arrays are and carry the right checksums. -/

namespace Penrose.Gpt

open ByteRegions

/-- The contents of the regions and the number of blocks each array may take. -/
structure Image where
  blkSize : Nat
  arrayBlocks : Nat
  header : GptInstance → Bytes
  entries : GptInstance → Bytes
  room : partitionCrcOffset + 4 ≤ blkSize
  length_header : ∀ gpt, (header gpt).length = blkSize
  length_entries : ∀ gpt, (entries gpt).length ≤ arrayBlocks * blkSize

namespace Image

variable (d : Image)

def geometry : Geometry := ⟨d.blkSize, 3 + 2 * d.arrayBlocks, d.room⟩

/-- The first byte of a region. -/
def pos : Region → Nat
  | .header .primaryGpt => d.blkSize
  | .entries .primaryGpt => 2 * d.blkSize
  | .entries .secondaryGpt => 2 * d.blkSize + d.arrayBlocks * d.blkSize
  | .header .secondaryGpt => 2 * d.blkSize + 2 * (d.arrayBlocks * d.blkSize)

def content : Contents
  | .header gpt => d.header gpt
  | .entries gpt => d.entries gpt

/-- The medium with one more region laid out. -/
def lay (m : Nat → UInt8) (r : Region) : Nat → UInt8 := splice m (d.pos r) (d.content r)

def media : Nat → UInt8 :=
  d.lay (d.lay (d.lay (d.lay (fun _ => 0) (.header .primaryGpt)) (.entries .primaryGpt))
    (.entries .secondaryGpt)) (.header .secondaryGpt)

variable {d}

theorem size_geometry : d.geometry.size = 3 * d.blkSize + 2 * (d.arrayBlocks * d.blkSize) := by
  rw [Geometry.size, geometry, Nat.add_mul, Nat.mul_assoc]

theorem headerPos_geometry (gpt : GptInstance) : d.geometry.headerPos gpt = d.pos (.header gpt) := by
  cases gpt with
  | primaryGpt => rfl
  | secondaryGpt =>
      rw [Geometry.headerPos, size_geometry]
      simp only [geometry, pos]
      omega

theorem pos_apart {r r' : Region} (hne : r ≠ r') :
    Apart (d.pos r) (d.content r).length (d.pos r') (d.content r').length := by
  have hheader := d.length_header
  have hentries := d.length_entries
  have h1 := hheader .primaryGpt
  have h2 := hheader .secondaryGpt
  have h3 := hentries .primaryGpt
  have h4 := hentries .secondaryGpt
  rcases r with gpt | gpt <;> rcases r' with gpt' | gpt' <;> cases gpt <;> cases gpt' <;>
    first
    | exact absurd rfl hne
    | simp only [Apart, pos, content]
      omega

theorem slice_lay_self (m : Nat → UInt8) (r : Region) :
    slice (d.lay m r) (d.pos r) (d.content r).length = d.content r :=
  slice_splice_self ..

theorem slice_lay_of_ne {m : Nat → UInt8} {r r' : Region} (hne : r ≠ r') :
    slice (d.lay m r') (d.pos r) (d.content r).length = slice m (d.pos r) (d.content r).length :=
  slice_splice_of_apart (pos_apart hne)

/-- Every region holds what was laid out in it. -/
theorem slice_media (r : Region) : slice d.media (d.pos r) (d.content r).length = d.content r := by
  unfold media
  rcases r with gpt | gpt <;> cases gpt
  · rw [slice_lay_of_ne (by decide), slice_lay_of_ne (by decide), slice_lay_of_ne (by decide), slice_lay_self]
  · exact slice_lay_self ..
  · rw [slice_lay_of_ne (by decide), slice_lay_of_ne (by decide), slice_lay_self]
  · rw [slice_lay_of_ne (by decide), slice_lay_self]

theorem header_media (gpt : GptInstance) : d.geometry.header d.media gpt = d.header gpt := by
  have hslice := slice_media (d := d) (.header gpt)
  rw [content, d.length_header] at hslice
  rw [Geometry.header, headerPos_geometry]
  exact hslice

/-- The headers say where the arrays were laid out. -/
structure Describes (d : Image) : Prop where
  start : ∀ gpt, d.geometry.startOf (d.header gpt) = d.pos (.entries gpt)
  size : ∀ gpt, arraySizeOf (d.header gpt) = (d.entries gpt).length

section Describes

variable (h : d.Describes)

include h

theorem regionPos_media (r : Region) : d.geometry.regionPos d.media r = d.pos r := by
  rcases r with gpt | gpt
  · exact headerPos_geometry gpt
  · rw [Geometry.regionPos, header_media, h.start, Int.toNat_natCast]

theorem regionLen_media (r : Region) : d.geometry.regionLen d.media r = (d.content r).length := by
  rcases r with gpt | gpt
  · exact (d.length_header gpt).symm
  · rw [Geometry.regionLen, header_media, h.size, content]

theorem entries_media (gpt : GptInstance) : d.geometry.entries d.media gpt = d.entries gpt := by
  rw [Geometry.entries, regionPos_media h, regionLen_media h]
  exact slice_media (.entries gpt)

theorem layout_media : d.geometry.Layout d.media where
  start_nonneg := by
    intro gpt
    rw [header_media, h.start]
    exact Int.natCast_nonneg _
  onDevice := by
    intro r
    have h1 := d.length_header .primaryGpt
    have h2 := d.length_header .secondaryGpt
    have h3 := d.length_entries .primaryGpt
    have h4 := d.length_entries .secondaryGpt
    rw [regionPos_media h, regionLen_media h, size_geometry]
    rcases r with gpt | gpt <;> cases gpt <;> simp only [pos, content] <;> omega
  disjoint := by
    intro r r' hne
    rw [regionPos_media h, regionPos_media h, regionLen_media h, regionLen_media h]
    exact pos_apart hne

/-- Valid headers and arrays with equal counts and entry sizes make a healthy disk. -/
theorem healthy_media {crc : Bytes → UInt32} (hvalid : ∀ gpt, ValidGpt crc d.content gpt)
    (hcount : word4 (d.header .primaryGpt) partitionCountOffset =
      word4 (d.header .secondaryGpt) partitionCountOffset)
    (hsize : word4 (d.header .primaryGpt) pentrySizeOffset =
      word4 (d.header .secondaryGpt) pentrySizeOffset) : d.geometry.Healthy crc d.media where
  layout := layout_media h
  valid := by
    intro gpt
    refine Geometry.fullyValid_iff_self.mpr ((hvalid gpt).congr (header_media gpt) ?_)
    rw [Geometry.view_entries (SameFields.refl _)]
    exact entries_media h gpt
  count := by
    rw [header_media, header_media]
    exact hcount
  pentrySize := by
    rw [header_media, header_media]
    exact hsize

end Describes

end Image

/-! ### A small disk -/

/-- A checksum that can be evaluated: the sum of the bytes. -/
def byteSum (buf : Bytes) : UInt32 := buf.foldl (fun sum byte => sum + byte.toUInt32) 0

/-- A header block of 128 bytes with HeaderSize 92. -/
def sampleBlock (headerSum lba count pentrySize arraySum : Nat) : Bytes :=
  gptSignature ++ [0, 0, 0] ++ bytes4 92 ++ bytes4 headerSum ++ List.replicate 52 0 ++ bytes4 lba ++
    bytes4 0 ++ bytes4 count ++ bytes4 pentrySize ++ bytes4 arraySum ++ List.replicate 36 0

theorem length_sampleBlock (headerSum lba count pentrySize arraySum : Nat) :
    (sampleBlock headerSum lba count pentrySize arraySum).length = 128 := by
  simp [sampleBlock]

/-- The first 128 bytes of an entry with a name. -/
def sampleEntry (name : String) : Bytes :=
  List.replicate partitionNameOffset 0 ++ (name.toList.flatMap fun c => [UInt8.ofNat c.toNat, 0]) ++
    List.replicate (72 - 2 * name.length) 0

def sampleEntries : Bytes := sampleEntry "abl" ++ sampleEntry "ablbak"

theorem room_of_128 : partitionCrcOffset + 4 ≤ 128 := by decide

theorem length_sampleHeader (gpt : GptInstance) :
    (match gpt with
      | .primaryGpt => sampleBlock 922 2 2 128 908
      | .secondaryGpt => sampleBlock 924 4 2 128 908).length = 128 := by
  cases gpt <;> exact length_sampleBlock ..

theorem length_sampleEntries (_ : GptInstance) : sampleEntries.length ≤ 2 * 128 := by decide +kernel

/-- Two entries of 128 bytes, named `abl` and `ablbak`. -/
def sampleImage : Image where
  blkSize := 128
  arrayBlocks := 2
  header
    | .primaryGpt => sampleBlock 922 2 2 128 908
    | .secondaryGpt => sampleBlock 924 4 2 128 908
  entries _ := sampleEntries
  room := room_of_128
  length_header := length_sampleHeader
  length_entries := length_sampleEntries

theorem sample_describes : sampleImage.Describes where
  start gpt := by cases gpt <;> decide +kernel
  size gpt := by cases gpt <;> decide +kernel

theorem sample_valid (gpt : GptInstance) : ValidGpt byteSum sampleImage.content gpt where
  fits := by
    refine ⟨?_, ?_⟩
    · cases gpt <;> decide +kernel
    · cases gpt <;> decide +kernel
  signature := by cases gpt <;> decide +kernel
  headerCrc := by cases gpt <;> decide +kernel
  arrayCrc := by cases gpt <;> decide +kernel

theorem sample_healthy : sampleImage.geometry.Healthy byteSum sampleImage.media :=
  Image.healthy_media sample_describes sample_valid (by decide +kernel) (by decide +kernel)

/-! ### A disk whose last entry is cut off -/

/-- Two entries of 200 bytes and the first 64 bytes of a third. -/
def cutEntries : Bytes :=
  sampleEntry "abl" ++ List.replicate 72 0 ++ sampleEntry "ablbak" ++ List.replicate 136 0

theorem length_cutHeader (gpt : GptInstance) :
    (match gpt with
      | .primaryGpt => sampleBlock 1433 2 343597386 200 908
      | .secondaryGpt => sampleBlock 1437 6 343597386 200 908).length = 128 := by
  cases gpt <;> exact length_sampleBlock ..

theorem length_cutEntries (_ : GptInstance) : cutEntries.length ≤ 4 * 128 := by decide +kernel

/-- A disk whose count times entry size is 464 modulo 2^32. -/
def cutImage : Image where
  blkSize := 128
  arrayBlocks := 4
  header
    | .primaryGpt => sampleBlock 1433 2 343597386 200 908
    | .secondaryGpt => sampleBlock 1437 6 343597386 200 908
  entries _ := cutEntries
  room := room_of_128
  length_header := length_cutHeader
  length_entries := length_cutEntries

theorem cut_describes : cutImage.Describes where
  start gpt := by cases gpt <;> decide +kernel
  size gpt := by cases gpt <;> decide +kernel

theorem cut_healthy : cutImage.geometry.Healthy byteSum cutImage.media := by
  refine Image.healthy_media cut_describes ?_ (by decide +kernel) (by decide +kernel)
  intro gpt
  constructor
  · constructor <;> cases gpt <;> decide +kernel
  · cases gpt <;> decide +kernel
  · cases gpt <;> decide +kernel
  · cases gpt <;> decide +kernel

theorem cut_pentrySize :
    word4 (cutImage.geometry.header cutImage.media .primaryGpt) pentrySizeOffset = 200 := by
  rw [Image.header_media]
  decide +kernel

/-- The swap reads past that array. -/
theorem cut_swap : gptBootChainSwap false cutEntries 200 = none := by decide +kernel

end Penrose.Gpt
