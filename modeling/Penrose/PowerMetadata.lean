import Mathlib.Data.List.Induction
import Penrose.Numerals
import Penrose.Tokens

/-! The metadata of the hints for video: attributes `name=value` with semicolons between them, which are copied into
buffers of fixed size. -/

namespace Penrose.Power

/-- `METADATA_PARSING_ERR`, `METADATA_PARSING_CONTINUE` and `METADATA_PARSING_DONE`. -/
inductive MetadataParsing where
  | err | continue | done
  deriving DecidableEq

/-- `video_encode_metadata_t` and `video_decode_metadata_t`, which have the same members. -/
structure VideoMetadata where
  hintId : Int
  state : Int
  deriving DecidableEq

/-- The buffers for an attribute and its value, and where the parser is in the text. -/
structure MetadataBuffers where
  attributeBuffer : List Char
  valueBuffer : List Char
  saveptr : List Char

/-- `strlcpy` of at most `bytesToCopy` characters. -/
def strlcpy (text : List Char) (bytesToCopy : Nat) : List Char := text.take bytesToCopy

/-- `parse_metadata`. A text without an equals sign leaves both buffers empty. -/
def parseMetadata (metadata : List Char) (attributeSize valueSize : Nat) (buffers : MetadataBuffers) :
    MetadataParsing × MetadataBuffers :=
  match strtokR ';' metadata with
  | none => (.done, { buffers with saveptr := [] })
  | some (attributeString, saveptr) =>
      if '=' ∈ attributeString then
        let delim := (beforeSeparator '=' attributeString).length
        let name := strlcpy attributeString (min delim (attributeSize - 1))
        let bytesToCopy := min (attributeString.length - name.length - 1) (valueSize - 1)
        (.continue, ⟨name, strlcpy (afterSeparator '=' attributeString) bytesToCopy, saveptr⟩)
      else (.continue, ⟨[], [], saveptr⟩)

def hintIdName : List Char := "hint_id".toList

def stateName : List Char := "state".toList

/-- The body of the loop of the two parsers. -/
def applyMetadata (buffers : MetadataBuffers) (metadata : VideoMetadata) : VideoMetadata :=
  let metadata :=
    if buffers.attributeBuffer = hintIdName then
      if buffers.valueBuffer.length > 0 then { metadata with hintId := atoi buffers.valueBuffer } else metadata
    else metadata
  if buffers.attributeBuffer = stateName then
    if buffers.valueBuffer.length > 0 then { metadata with state := atoi buffers.valueBuffer } else metadata
  else metadata

/-- The loop, in at most `fuel` rounds: how it ended, and the metadata. -/
def metadataLoop : Nat → List Char → MetadataBuffers → VideoMetadata → Option (MetadataParsing × VideoMetadata)
  | 0, _, _, _ => none
  | fuel + 1, text, buffers, metadata =>
      match parseMetadata text 1024 1024 buffers with
      | (.continue, buffers) => metadataLoop fuel buffers.saveptr buffers (applyMetadata buffers metadata)
      | (status, _) => some (status, metadata)

/-- The two parsers: the return value, and the metadata. -/
def parseVideoMetadata (fuel : Nat) (text : List Char) (metadata : VideoMetadata) : Option (Int × VideoMetadata) :=
  (metadataLoop fuel text ⟨[], [], []⟩ metadata).map fun ended => (if ended.1 = .err then -1 else 0, ended.2)

def parseVideoEncodeMetadata : Nat → List Char → VideoMetadata → Option (Int × VideoMetadata) := parseVideoMetadata

def parseVideoDecodeMetadata : Nat → List Char → VideoMetadata → Option (Int × VideoMetadata) := parseVideoMetadata

/-! ### What a text says -/

/-- The name of an attribute and its value, as they are in the text. -/
def nameOf (token : List Char) : List Char := if '=' ∈ token then beforeSeparator '=' token else []

def valueOf (token : List Char) : List Char := afterSeparator '=' token

/-- The number that an attribute sets, if it sets this one. -/
def numberOf (name token : List Char) : Option Int :=
  if nameOf token = name ∧ valueOf token ≠ [] then some (atoi ((valueOf token).take 1023)) else none

/-- The last number that is set under a name, or the one that was there before. -/
def lastNumber (name : List Char) (texts : List (List Char)) (before : Int) : Int :=
  ((texts.filterMap (numberOf name)).getLast?).getD before

/-- A name that fits into its buffer is cut off only if it is longer than any that is asked for. -/
theorem take_eq_iff {name text : List Char} (hname : name.length < 1023) : text.take 1023 = name ↔ text = name := by
  apply Iff.intro
  · intro heq
    have hlength := congrArg List.length heq
    rw [List.length_take] at hlength
    rw [← heq, List.take_of_length_le (by omega)]
  · intro heq
    rw [heq, List.take_of_length_le (by omega)]

/-- A token as it gets into the buffers. -/
theorem parseMetadata_of_token {text token rest : List Char} (htoken : strtokR ';' text = some (token, rest))
    (buffers : MetadataBuffers) :
    parseMetadata text 1024 1024 buffers =
      (.continue, ⟨(nameOf token).take 1023, if '=' ∈ token then (valueOf token).take 1023 else [], rest⟩) := by
  rw [parseMetadata, htoken, nameOf, valueOf]
  by_cases hmem : '=' ∈ token
  · obtain ⟨name, value, heq, hname⟩ := List.eq_append_cons_of_mem hmem
    simp only [if_pos hmem, strlcpy]
    rw [heq, beforeSeparator_append hname, afterSeparator_append hname]
    have hattribute : (name ++ '=' :: value).take (min name.length (1024 - 1)) = name.take 1023 := by
      rw [Nat.min_comm, ← List.take_take, List.take_left]
    have hvalue : value.take (min ((name ++ '=' :: value).length - (name.take 1023).length - 1) (1024 - 1)) =
        value.take 1023 := by
      -- all of the value is in reach, even when the name was cut off
      have hlong : value.length ≤ (name ++ '=' :: value).length - (name.take 1023).length - 1 := by
        rw [List.length_append, List.length_cons, List.length_take]
        omega
      rw [Nat.min_comm, ← List.take_take, List.take_of_length_le hlong]
    rw [hattribute, hvalue]
  · simp only [if_neg hmem, List.take_nil]

theorem applyMetadata_of_token (token rest : List Char) (metadata : VideoMetadata) :
    applyMetadata ⟨(nameOf token).take 1023, if '=' ∈ token then (valueOf token).take 1023 else [], rest⟩ metadata =
      ⟨(numberOf hintIdName token).getD metadata.hintId, (numberOf stateName token).getD metadata.state⟩ := by
  have hhint : (nameOf token).take 1023 = hintIdName ↔ nameOf token = hintIdName := take_eq_iff (by decide)
  have hstate : (nameOf token).take 1023 = stateName ↔ nameOf token = stateName := take_eq_iff (by decide)
  have hvalue : (if '=' ∈ token then (valueOf token).take 1023 else []) = (valueOf token).take 1023 := by
    split_ifs with hmem
    · rfl
    · rw [valueOf, afterSeparator_of_notMem hmem, List.take_nil]
  have hlength : ((valueOf token).take 1023).length > 0 ↔ valueOf token ≠ [] := by
    rw [gt_iff_lt, List.length_pos_iff, Ne, List.take_eq_nil_iff]
    simp
  simp only [applyMetadata, hvalue, hhint, hstate, hlength, numberOf]
  split_ifs <;> simp_all

theorem lastNumber_cons (name token : List Char) (texts : List (List Char)) (before : Int) :
    lastNumber name (token :: texts) before = lastNumber name texts ((numberOf name token).getD before) := by
  rw [lastNumber, lastNumber, List.filterMap_cons]
  cases numberOf name token with
  | none => rfl
  | some number =>
      rw [Option.getD_some, List.getLast?_cons]
      rfl

/-- The loop ends after the last token, and each number is the last that was set. -/
theorem metadataLoop_eq {fuel : Nat} {text : List Char} (hfuel : text.length < fuel) (buffers : MetadataBuffers)
    (metadata : VideoMetadata) :
    metadataLoop fuel text buffers metadata =
      some (.done, ⟨lastNumber hintIdName (tokens ';' text) metadata.hintId,
        lastNumber stateName (tokens ';' text) metadata.state⟩) := by
  induction fuel generalizing text buffers metadata with
  | zero => exact absurd hfuel (Nat.not_lt_zero _)
  | succ fuel ih =>
      rw [metadataLoop]
      cases htoken : strtokR ';' text with
      | none =>
          have hnothing : tokens ';' text = [] := by
            rw [tokens_eq, htoken]
          rw [parseMetadata, htoken, hnothing]
          rfl
      | some next =>
          obtain ⟨token, rest⟩ := next
          have htokens : tokens ';' text = token :: tokens ';' rest := by
            rw [tokens_eq, htoken]
          have hshort := length_lt_of_strtokR htoken
          rw [parseMetadata_of_token htoken]
          simp only
          rw [ih (by omega), applyMetadata_of_token, htokens, lastNumber_cons, lastNumber_cons]

/-! ### Attributes that were written are read back -/

/-- The attributes as a text. -/
def encodeAttributes (attributes : List (List Char × List Char)) : List Char :=
  (attributes.map fun pair => pair.1 ++ '=' :: pair.2).flatMap fun text => text ++ [';']

/-- Names and values that can be told apart in the text. -/
def Writable (attributes : List (List Char × List Char)) : Prop :=
  ∀ pair ∈ attributes, '=' ∉ pair.1 ∧ ';' ∉ pair.1 ∧ ';' ∉ pair.2

/-- The last attribute with the name has the number as its value. -/
def EndsWith (attributes : List (List Char × List Char)) (name : List Char) (number : Int) : Prop :=
  (attributes.filter fun pair => pair.1 = name).getLast? = some (name, decimal number)

theorem tokens_encodeAttributes {attributes : List (List Char × List Char)} (hwritable : Writable attributes) :
    tokens ';' (encodeAttributes attributes) = attributes.map fun pair => pair.1 ++ '=' :: pair.2 := by
  rw [tokens, encodeAttributes, splitOn_flatMap, List.filter_append, List.filter_eq_self.mpr]
  · exact List.append_nil _
  · intro text htext
    obtain ⟨pair, -, heq⟩ := List.mem_map.mp htext
    rw [← heq]
    simp
  · intro text htext
    obtain ⟨pair, hpair, heq⟩ := List.mem_map.mp htext
    obtain ⟨-, hname, hvalue⟩ := hwritable pair hpair
    rw [← heq, List.mem_append, List.mem_cons]
    simp [hname, hvalue]

theorem numberOf_pair (pair : List Char × List Char) (hname : '=' ∉ pair.1) (name : List Char) :
    numberOf name (pair.1 ++ '=' :: pair.2) =
      if pair.1 = name ∧ pair.2 ≠ [] then some (atoi (pair.2.take 1023)) else none := by
  have hmem : '=' ∈ pair.1 ++ '=' :: pair.2 := List.mem_append_right _ List.mem_cons_self
  rw [numberOf, nameOf, valueOf, if_pos hmem, beforeSeparator_append hname, afterSeparator_append hname]

theorem numberOf_decimal {name : List Char} (hname : '=' ∉ name) {number : Int} (hlow : -2 ^ 31 ≤ number)
    (hhigh : number < 2 ^ 31) : numberOf name (name ++ '=' :: decimal number) = some number := by
  have hlength : (decimal number).length ≤ 1023 :=
    Nat.le_trans (length_decimal_le 10 (by decide) (by omega)) (by decide)
  rw [numberOf_pair (name, decimal number) hname, if_pos ⟨rfl, decimal_ne_nil number⟩,
    List.take_of_length_le hlength, atoi_decimal hlow hhigh]

theorem lastNumber_of_endsWith {attributes : List (List Char × List Char)} (hwritable : Writable attributes)
    {name : List Char} {number : Int} (hlow : -2 ^ 31 ≤ number) (hhigh : number < 2 ^ 31)
    (hends : EndsWith attributes name number) (before : Int) :
    lastNumber name (attributes.map fun pair => pair.1 ++ '=' :: pair.2) before = number := by
  induction attributes using List.reverseRecOn with
  | nil => cases hends
  | append_singleton attributes pair ih =>
      have hpair := (hwritable pair (by simp)).1
      rw [EndsWith, List.filter_append] at hends
      rw [lastNumber, List.map_append, List.filterMap_append]
      by_cases hname : pair.1 = name
      · have hlast : pair = (name, decimal number) := by
          rw [List.filter_cons_of_pos (by simpa using hname), List.filter_nil, List.getLast?_concat] at hends
          exact Option.some.inj hends
        rw [hlast] at hpair ⊢
        rw [List.map_singleton, List.filterMap_cons_some (numberOf_decimal hpair hlow hhigh), List.filterMap_nil]
        simp
      · have hnone : numberOf name (pair.1 ++ '=' :: pair.2) = none := by
          rw [numberOf_pair pair hpair, if_neg fun h => hname h.1]
        rw [List.filter_cons_of_neg (by simpa using hname), List.filter_nil, List.append_nil] at hends
        rw [List.map_singleton, List.filterMap_cons_none hnone, List.filterMap_nil, List.append_nil]
        exact ih (fun other hother => hwritable other (List.mem_append_left _ hother)) hends

/-- Both parsers read the numbers of a hint back from its metadata, whatever other attributes and earlier values
there are. -/
theorem parseVideoMetadata_encodeAttributes {attributes : List (List Char × List Char)}
    (hwritable : Writable attributes) {hintId state : Int} (hhint : EndsWith attributes hintIdName hintId)
    (hstate : EndsWith attributes stateName state) (hhintRange : -2 ^ 31 ≤ hintId ∧ hintId < 2 ^ 31)
    (hstateRange : -2 ^ 31 ≤ state ∧ state < 2 ^ 31) {fuel : Nat}
    (hfuel : (encodeAttributes attributes).length < fuel) (before : VideoMetadata) :
    parseVideoEncodeMetadata fuel (encodeAttributes attributes) before = some (0, ⟨hintId, state⟩) ∧
      parseVideoDecodeMetadata fuel (encodeAttributes attributes) before = some (0, ⟨hintId, state⟩) := by
  have hparsed : parseVideoMetadata fuel (encodeAttributes attributes) before = some (0, ⟨hintId, state⟩) := by
    rw [parseVideoMetadata, metadataLoop_eq hfuel, tokens_encodeAttributes hwritable,
      lastNumber_of_endsWith hwritable hhintRange.1 hhintRange.2 hhint,
      lastNumber_of_endsWith hwritable hstateRange.1 hstateRange.2 hstate]
    rfl
  exact ⟨hparsed, hparsed⟩

/-- Metadata with a value that is overridden, and another attribute. -/
def sampleAttributes : List (List Char × List Char) :=
  [("state".toList, "0".toList), ("note".toList, "a=b".toList), ("hint_id".toList, "-7".toList),
    ("state".toList, "1".toList)]

theorem parseVideoMetadata_sampleAttributes :
    parseVideoEncodeMetadata 100 (encodeAttributes sampleAttributes) ⟨3, 4⟩ = some (0, ⟨-7, 1⟩) ∧
      parseVideoDecodeMetadata 100 (encodeAttributes sampleAttributes) ⟨3, 4⟩ = some (0, ⟨-7, 1⟩) := by
  have hwritable : Writable sampleAttributes := by
    rw [Writable]
    decide
  have hhint : EndsWith sampleAttributes hintIdName (-7) := by
    rw [EndsWith]
    decide
  have hstate : EndsWith sampleAttributes stateName 1 := by
    rw [EndsWith]
    decide
  exact parseVideoMetadata_encodeAttributes hwritable hhint hstate (by decide) (by decide) (by decide) ⟨3, 4⟩

end Penrose.Power
