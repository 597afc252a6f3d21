import Mathlib.Logic.Function.Basic
import Penrose.GptDevice

/-! The disk as the contents of its four regions. As long as the headers keep the fields that say where
the arrays are, a write to one region is an update of these contents at that region, and whether a GPT
is valid can be read off them. -/

namespace Penrose.Gpt

open ByteRegions

/-- The second header block describes the same covered bytes and the same entry array. -/
structure SameFields (gptHeader gptHeader' : Bytes) : Prop where
  length : gptHeader'.length = gptHeader.length
  headerSize : word4 gptHeader' headerSizeOffset = word4 gptHeader headerSizeOffset
  start : word8 gptHeader' pentriesOffset = word8 gptHeader pentriesOffset
  count : word4 gptHeader' partitionCountOffset = word4 gptHeader partitionCountOffset
  pentrySize : word4 gptHeader' pentrySizeOffset = word4 gptHeader pentrySizeOffset

namespace SameFields

variable {crc : Bytes → UInt32} {a b c : Bytes}

theorem refl (a : Bytes) : SameFields a a := ⟨rfl, rfl, rfl, rfl, rfl⟩

theorem trans (hab : SameFields a b) (hbc : SameFields b c) : SameFields a c :=
  ⟨hbc.length.trans hab.length, hbc.headerSize.trans hab.headerSize, hbc.start.trans hab.start,
    hbc.count.trans hab.count, hbc.pentrySize.trans hab.pentrySize⟩

theorem fits (h : SameFields a b) (ha : HeaderFits a) : HeaderFits b where
  fields := by
    rw [h.length]
    exact ha.fields
  covered := by
    rw [h.length, h.headerSize]
    exact ha.covered

theorem startOf (h : SameFields a b) (g : Geometry) : g.startOf b = g.startOf a := by
  rw [Geometry.startOf, h.start]
  rfl

theorem arraySizeOf (h : SameFields a b) : arraySizeOf b = arraySizeOf a := by
  rw [Gpt.arraySizeOf, h.count, h.pentrySize]
  rfl

theorem overwrite {data : Bytes} {off : Nat} (hlen : off + data.length ≤ a.length)
    (hsize : headerSizeOffset + 4 ≤ off ∨ off + data.length ≤ headerSizeOffset)
    (harray : partitionCrcOffset ≤ off ∨ off + data.length ≤ pentriesOffset) :
    SameFields a (ByteRegions.overwrite a off data) where
  length := length_overwrite hlen
  headerSize := word4_overwrite_of_apart hlen hsize
  start := word8_overwrite_of_apart hlen (harray.imp (le_trans (by decide)) id)
  count := word4_overwrite_of_apart hlen (harray.imp (le_trans (by decide)) fun h => h.trans (by decide))
  pentrySize :=
    word4_overwrite_of_apart hlen (harray.imp (le_trans (by decide)) fun h => h.trans (by decide))

theorem sealed (h : HeaderFits a) : SameFields a (Gpt.sealed crc a) :=
  overwrite (h.le (n := 4) (by decide)) (Or.inl (by decide))
    (Or.inr (show headerCrcOffset + 4 ≤ pentriesOffset by decide))

theorem repaired (h : HeaderFits a) : SameFields a (Gpt.repaired crc a) :=
  (overwrite (h.le (n := 9) (by decide)) (Or.inr (by decide)) (Or.inr (by decide))).trans
    (sealed h.withSignature)

theorem corrupted (h : HeaderFits a) : SameFields a (Gpt.corrupted crc a) :=
  (overwrite (h.le (n := 1) (by decide)) (Or.inr (by decide)) (Or.inr (by decide))).trans
    (sealed h.withoutSignature)

theorem withArrayCrc (h : HeaderFits a) (sum : Nat) : SameFields a (Gpt.withArrayCrc crc a sum) :=
  (overwrite (h.le (n := 4) (by decide)) (Or.inl (by decide)) (Or.inl (by decide))).trans
    (sealed (h.withArrayWord sum))

end SameFields

/-! ### The contents of the four regions -/

abbrev Contents := Region → Bytes

/-- The header block starts with the signature, carries its own CRC and the CRC of the array. -/
structure ValidGpt (crc : Bytes → UInt32) (v : Contents) (gpt : GptInstance) : Prop where
  fits : HeaderFits (v (.header gpt))
  signature : (v (.header gpt)).take 9 = gptSignature
  headerCrc : word4 (v (.header gpt)) headerCrcOffset = headerSum crc (v (.header gpt))
  arrayCrc : word4 (v (.header gpt)) partitionCrcOffset = (crc (v (.entries gpt))).toNat

theorem ValidGpt.headerState {crc : Bytes → UInt32} {v : Contents} {gpt : GptInstance}
    (h : ValidGpt crc v gpt) : headerState crc (v (.header gpt)) = some .gptOk :=
  (headerState_eq_ok h.fits).mpr ⟨h.headerCrc, h.signature⟩

/-- Whether a GPT is valid depends on its own two regions only. -/
theorem ValidGpt.congr {crc : Bytes → UInt32} {v v' : Contents} {gpt : GptInstance}
    (h : ValidGpt crc v gpt) (hheader : v' (.header gpt) = v (.header gpt))
    (hentries : v' (.entries gpt) = v (.entries gpt)) : ValidGpt crc v' gpt := by
  obtain ⟨hfits, hsig, hsum, harray⟩ := h
  constructor
  · rw [hheader]
    exact hfits
  · rw [hheader]
    exact hsig
  · rw [hheader]
    exact hsum
  · rw [hheader, hentries]
    exact harray

/-- A GPT of a valid signature whose header was given the CRC of its array. -/
theorem validGpt_withArrayCrc {crc : Bytes → UInt32} {v : Contents} {gpt : GptInstance} (pentries : Bytes)
    {gptHeader : Bytes} (hfits : HeaderFits gptHeader)
    (hsig : gptHeader.take 9 = gptSignature)
    (hheader : v (.header gpt) = withArrayCrc crc gptHeader (crc pentries).toNat)
    (hentries : v (.entries gpt) = pentries) : ValidGpt crc v gpt := by
  have harray := hfits.withArrayWord (crc pentries).toNat
  constructor
  · rw [hheader]
    exact harray.sealed
  · rw [hheader, take_withArrayCrc hfits, hsig]
  · rw [hheader]
    exact word4_sealed harray
  · rw [hheader, hentries, word4_withArrayCrc hfits (UInt32.toNat_lt _)]

/-- A GPT whose header was repaired, when the header carries the CRC of the array. -/
theorem validGpt_repaired {crc : Bytes → UInt32} {v : Contents} {gpt : GptInstance} {gptHeader : Bytes}
    (hfits : HeaderFits gptHeader)
    (harray : word4 gptHeader partitionCrcOffset = (crc (v (.entries gpt))).toNat)
    (hheader : v (.header gpt) = repaired crc gptHeader) : ValidGpt crc v gpt := by
  have hsame : SameFields gptHeader (repaired crc gptHeader) := SameFields.repaired hfits
  have hok := (headerState_eq_ok (hsame.fits hfits)).mp (headerState_repaired hfits)
  constructor
  · rw [hheader]
    exact hsame.fits hfits
  · rw [hheader]
    exact hok.2
  · rw [hheader]
    exact hok.1
  · rw [hheader, word4_repaired hfits, harray]

namespace Geometry

variable (g : Geometry) (m₀ : Nat → UInt8)

/-- The contents of the regions that the headers of `m₀` describe. -/
def view (m : Nat → UInt8) : Contents := fun r => slice m (g.regionPos m₀ r) (g.regionLen m₀ r)

variable {g m₀} {m m' : Nat → UInt8} {crc : Bytes → UInt32}

@[simp] theorem view_header (gpt : GptInstance) : g.view m₀ m (.header gpt) = g.header m gpt := rfl

/-- Writing a whole region updates the contents there and nowhere else. -/
theorem view_splice (hd : g.Disjoint m₀) {r : Region} {data : Bytes} (hlen : data.length = g.regionLen m₀ r) :
    g.view m₀ (splice m (g.regionPos m₀ r) data) = Function.update (g.view m₀ m) r data := by
  funext r'
  by_cases hr : r' = r
  · subst hr
    rw [Function.update_self]
    exact slice_splice_of_length hlen
  · rw [Function.update_of_ne hr]
    apply slice_splice_of_apart
    rw [hlen]
    exact hd r' r hr

/-- Whatever happens inside a region, the contents of the others stay. -/
theorem view_of_sameOutside (hd : g.Disjoint m₀) {r r' : Region} (hr : r' ≠ r)
    (h : SameOutside m m' (g.regionPos m₀ r) (g.regionLen m₀ r)) : g.view m₀ m' r' = g.view m₀ m r' :=
  h.slice_eq (hd r' r hr)

section SameFields

variable {gpt : GptInstance} (h : SameFields (g.header m₀ gpt) (g.header m gpt))

include h

theorem regionPos_entries : g.regionPos m (.entries gpt) = g.regionPos m₀ (.entries gpt) := by
  simp only [regionPos, h.startOf]

theorem regionLen_entries : g.regionLen m (.entries gpt) = g.regionLen m₀ (.entries gpt) := by
  simp only [regionLen, h.arraySizeOf]

theorem view_entries : g.view m₀ m (.entries gpt) = g.entries m gpt := by
  rw [entries, regionPos_entries h, regionLen_entries h]
  rfl

/-- With the fields unchanged, a GPT is valid on the disk when it is valid in the contents. -/
theorem fullyValid_iff : g.FullyValid m crc gpt ↔ ValidGpt crc (g.view m₀ m) gpt := by
  refine ⟨?_, ?_⟩
  · rintro ⟨hsig, hle, hsum, harray⟩
    refine ⟨⟨by rw [view_header, length_header]; exact g.room, by rw [view_header, length_header]; exact hle⟩,
      hsig, hsum, ?_⟩
    rw [view_entries h]
    exact harray
  · rintro ⟨hfits, hsig, hsum, harray⟩
    refine ⟨hsig, hfits.covered.trans_eq (length_header g m gpt), hsum, ?_⟩
    rw [view_entries h] at harray
    exact harray

end SameFields

theorem fullyValid_iff_self {gpt : GptInstance} :
    g.FullyValid m crc gpt ↔ ValidGpt crc (g.view m m) gpt :=
  fullyValid_iff (SameFields.refl _)

/-- Both GPTs are valid, describe equally many entries of the same size, and no two regions meet. -/
structure Healthy (g : Geometry) (crc : Bytes → UInt32) (m : Nat → UInt8) : Prop where
  layout : g.Layout m
  valid : ∀ gpt, g.FullyValid m crc gpt
  count : word4 (g.header m .primaryGpt) partitionCountOffset =
    word4 (g.header m .secondaryGpt) partitionCountOffset
  pentrySize : word4 (g.header m .primaryGpt) pentrySizeOffset =
    word4 (g.header m .secondaryGpt) pentrySizeOffset

theorem Healthy.validGpt (h : g.Healthy crc m) (gpt : GptInstance) : ValidGpt crc (g.view m m) gpt :=
  fullyValid_iff_self.mp (h.valid gpt)

/-- Both arrays have the same size. -/
theorem Healthy.regionLen_entries (h : g.Healthy crc m) (gpt gpt' : GptInstance) :
    g.regionLen m (.entries gpt) = g.regionLen m (.entries gpt') := by
  have hsize : g.regionLen m (.entries .primaryGpt) = g.regionLen m (.entries .secondaryGpt) := by
    simp only [regionLen, arraySizeOf, h.count, h.pentrySize]
  cases gpt <;> cases gpt' <;> simp only [hsize]

end Geometry

/-! ### Writes to a healthy disk -/

section Healthy

variable {g : Geometry} {crc : Bytes → UInt32} {m₀ : Nat → UInt8} {s : Device}

theorem view_writeHeader (hd : g.Healthy crc m₀) {gpt : GptInstance} {gptHeader : Bytes}
    (hlen : gptHeader.length = g.blkSize) :
    g.view m₀ (s.write (g.headerPos gpt) gptHeader).media =
      Function.update (g.view m₀ s.media) (.header gpt) gptHeader :=
  Geometry.view_splice hd.layout.disjoint (r := .header gpt) hlen

theorem view_writeEntries (hd : g.Healthy crc m₀) {gpt : GptInstance} {gptHeader pentries : Bytes}
    (hfields : SameFields (g.header m₀ gpt) gptHeader)
    (hlen : pentries.length = g.regionLen m₀ (.entries gpt)) :
    g.view m₀ (s.write (g.startOf gptHeader).toNat pentries).media =
      Function.update (g.view m₀ s.media) (.entries gpt) pentries := by
  rw [hfields.startOf]
  exact Geometry.view_splice hd.layout.disjoint (r := .entries gpt) hlen

end Healthy

end Penrose.Gpt
