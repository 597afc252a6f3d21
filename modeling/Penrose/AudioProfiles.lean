import Mathlib.Data.List.TakeWhile
import Mathlib.Tactic.SplitIfs
import Penrose.AudioDevice

/-! The profiles that a stream supports, in version 7 of the interface. The HAL is asked for its formats, and then for
the sample rates and the channel masks of each; the first query that fails ends the loop, and its result is reported
with the profiles found so far. A rate that is no number ends the call without a report. -/

namespace Penrose.Audio

/-- The texts that the HAL replies with are lists of characters. -/
abbrev Text := List Char

/-- What is asked of the HAL. -/
inductive ParamQuery where
  | streamSupportedFormats
  | streamSupportedSamplingRates (halFormat : BitVec 32)
  | streamSupportedChannels (halFormat : BitVec 32)

/-- What `AudioParameter::get` returns: its status, and the value if that is ok. -/
structure ParamReply where
  status : Int
  value : Text

/-- `getHalStatusToResult`. -/
def getHalStatusToResult (status : Int) : Result :=
  if status = 0 then .ok
  else if status = -22 then .notSupported
  else .invalidArguments

/-- `AudioProfile`. -/
structure AudioProfile where
  format : Text
  sampleRates : List (BitVec 32)
  channelMasks : List Text
  deriving DecidableEq

/-- The functions for the texts of the HAL. -/
structure HalTexts where
  splitString : Text → List Text
  audioFormatsFromHal : List Text → List Text
  audioFormatToHal : Text → Option (BitVec 32)
  audioChannelMasksFromHal : List Text → List Text

/-- `isspace`. -/
def isSpace (c : Char) : Bool := c = ' ' || (9 ≤ c.toNat && c.toNat ≤ 13)

/-- The digits that a text begins with, as a number. -/
def leadingDigits (text : Text) : Option Int :=
  let digits := text.takeWhile Char.isDigit
  if digits = [] then none else some (digits.foldl (fun value digit => value * 10 + (digit.toNat - 48 : Nat)) 0 : Nat)

/-- `std::stoi`, which throws when there is no number or it is no `int`. -/
def stoi (text : Text) : Option Int := do
  let value ←
    match text.dropWhile isSpace with
    | '-' :: digits => (leadingDigits digits).map fun value => -value
    | '+' :: digits => leadingDigits digits
    | digits => leadingDigits digits
  if -2147483648 ≤ value ∧ value ≤ 2147483647 then some value else none

/-- Both lists of the profile have an element. -/
def AudioProfile.IsUsable (profile : AudioProfile) : Prop :=
  profile.channelMasks.length ≠ 0 ∧ profile.sampleRates.length ≠ 0

instance (profile : AudioProfile) : Decidable profile.IsUsable := inferInstanceAs (Decidable (_ ∧ _))

/-- What the queries for a format end with: a profile, the result of the first that fails, or an exception, which
nothing catches. -/
abbrev Outcome := Option (Except Result AudioProfile)

/-- The queries end with a profile. -/
def Outcome.isProfile (outcome : Outcome) : Bool := outcome.any (·.isOk)

section Profiles

variable (texts : HalTexts)

/-- The queries for a format. -/
def queryProfile (reply : ParamQuery → ParamReply) (format : Text) (halFormat : BitVec 32) : Outcome :=
  let samplingRates := reply (.streamSupportedSamplingRates halFormat)
  let result := getHalStatusToResult samplingRates.status
  if result ≠ .ok then some (.error result)
  else do
    let sampleRates ← (texts.splitString samplingRates.value).mapM fun text => (stoi text).map (BitVec.ofInt 32)
    let channels := reply (.streamSupportedChannels halFormat)
    let result := getHalStatusToResult channels.status
    if result ≠ .ok then some (.error result)
    else some (.ok ⟨format, sampleRates, texts.audioChannelMasksFromHal (texts.splitString channels.value)⟩)

/-- The loop over the formats. `replies` are what the HAL replies for each of them, which need not be the same for
a format that is there twice. -/
def collectProfiles (result : Result) (tempProfiles : List AudioProfile) :
    List (Text × (ParamQuery → ParamReply)) → Option (Result × List AudioProfile)
  | [] => some (result, tempProfiles)
  | (format, reply) :: formats =>
    match texts.audioFormatToHal format with
    | none => collectProfiles result tempProfiles formats
    | some halFormat =>
      match queryProfile texts reply format halFormat with
      | none => none
      | some (.error result) => some (result, tempProfiles)
      | some (.ok profile) =>
        collectProfiles .ok (if profile.IsUsable then tempProfiles ++ [profile] else tempProfiles) formats

/-- `Stream::getSupportedProfiles`: what the callback gets, if it is called. `replies` is what the HAL replies at each
format. -/
def getSupportedProfiles (formatsReply : ParamReply) (replies : Nat → ParamQuery → ParamReply) :
    Option (Result × List AudioProfile) :=
  let result := getHalStatusToResult formatsReply.status
  if result ≠ .ok then some (result, [])
  else do
    let formats := texts.audioFormatsFromHal (texts.splitString formatsReply.value)
    let queried := formats.zipIdx.map fun (format, i) => (format, replies i)
    let (result, tempProfiles) ← collectProfiles texts result [] queried
    if tempProfiles ≠ [] then some (result, tempProfiles) else some (.notSupported, [])

/-! ### What is to be reported -/

/-- What the queries for each format give that can be converted. -/
def outcomes (formats : List (Text × (ParamQuery → ParamReply))) : List Outcome :=
  formats.filterMap fun (format, reply) => (texts.audioFormatToHal format).map (queryProfile texts reply format)

/-- The profiles among them that have rates and masks. -/
def usableProfiles (outcomes : List Outcome) : List AudioProfile :=
  outcomes.filterMap fun outcome => (outcome.bind Except.toOption).filter fun profile => profile.IsUsable

/-- The profiles are reported with an ok, and then they are those expected; anything else is reported without. -/
structure Consistent (reported : Result × List AudioProfile) (expected : List AudioProfile) : Prop where
  ok_iff : reported.1 = .ok ↔ reported.2 ≠ []
  error : reported.1 ≠ .ok → reported.2 = []
  profiles : reported.1 = .ok → reported.2 = expected

/-- The first error, or ok; nothing if an exception comes first. -/
def firstError : List Outcome → Option Result
  | [] => some .ok
  | none :: _ => none
  | some (.error result) :: _ => some result
  | some (.ok _) :: outcomes => firstError outcomes

/-- The profiles before the first query that does not end with one. -/
def profilesBefore (outcomes : List Outcome) : List AudioProfile := usableProfiles (outcomes.takeWhile (·.isProfile))

variable {texts}

theorem usableProfiles_cons (profile : AudioProfile) (results : List Outcome) :
    usableProfiles (some (.ok profile) :: results) =
      if profile.IsUsable then profile :: usableProfiles results else usableProfiles results := by
  by_cases husable : profile.IsUsable <;> simp [usableProfiles, Option.filter_some, Except.toOption, husable]

theorem collectProfiles_eq (tempProfiles : List AudioProfile) (formats : List (Text × (ParamQuery → ParamReply))) :
    collectProfiles texts .ok tempProfiles formats = (firstError (outcomes texts formats)).map fun result =>
      (result, tempProfiles ++ profilesBefore (outcomes texts formats)) := by
  induction formats generalizing tempProfiles with
  | nil => simp [collectProfiles, outcomes, firstError, profilesBefore, usableProfiles]
  | cons queried formats ih =>
      obtain ⟨format, reply⟩ := queried
      cases hformat : texts.audioFormatToHal format with
      | none =>
          have hskip : outcomes texts ((format, reply) :: formats) = outcomes texts formats :=
            List.filterMap_cons_none (by simp [hformat])
          rw [collectProfiles, hformat, hskip]
          exact ih tempProfiles
      | some halFormat =>
          have hcons : outcomes texts ((format, reply) :: formats) =
              queryProfile texts reply format halFormat :: outcomes texts formats :=
            List.filterMap_cons_some (by simp [hformat])
          rw [collectProfiles, hformat, hcons]
          cases hquery : queryProfile texts reply format halFormat with
          | none => simp only [hquery, firstError, Option.map_none]
          | some outcome =>
              cases outcome with
              | error result =>
                  have hstop : profilesBefore (some (.error result) :: outcomes texts formats) = [] := rfl
                  simp only [hquery, firstError, hstop, List.append_nil, Option.map_some]
              | ok profile =>
                  have hgo : profilesBefore (some (.ok profile) :: outcomes texts formats) =
                      usableProfiles (some (.ok profile) :: (outcomes texts formats).takeWhile (·.isProfile)) := rfl
                  simp only [hquery, firstError]
                  rw [ih, hgo, usableProfiles_cons, ← profilesBefore]
                  by_cases husable : profile.IsUsable <;> simp [husable]

theorem queryProfile_error {reply : ParamQuery → ParamReply} {format : Text} {halFormat : BitVec 32} {result : Result}
    (h : queryProfile texts reply format halFormat = some (.error result)) : result ≠ .ok := by
  simp only [queryProfile] at h
  split_ifs at h with hrates hmasks
  · cases h
    exact hrates
  · obtain ⟨sampleRates, -, h⟩ := Option.bind_eq_some_iff.mp h
    cases h
    exact hmasks
  · obtain ⟨sampleRates, -, h⟩ := Option.bind_eq_some_iff.mp h
    cases h

theorem error_ne_ok {formats : List (Text × (ParamQuery → ParamReply))} {result : Result}
    (hmem : some (.error result) ∈ outcomes texts formats) : result ≠ .ok := by
  obtain ⟨⟨format, reply⟩, -, hquery⟩ := List.mem_filterMap.mp hmem
  obtain ⟨halFormat, -, hquery⟩ := Option.map_eq_some_iff.mp hquery
  exact queryProfile_error hquery

section FirstError

variable {results before after : List Outcome}

theorem firstError_append (hbefore : ∀ outcome ∈ before, outcome.isProfile = true) :
    firstError (before ++ results) = firstError results := by
  induction before with
  | nil => rfl
  | cons outcome before ih =>
      rw [List.forall_mem_cons] at hbefore
      obtain ⟨houtcome, hbefore⟩ := hbefore
      rcases outcome with _ | ⟨result | profile⟩
      · cases houtcome
      · cases houtcome
      · exact ih hbefore

theorem profilesBefore_append (hbefore : ∀ outcome ∈ before, outcome.isProfile = true) {outcome : Outcome}
    (hstop : outcome.isProfile = false) : profilesBefore (before ++ outcome :: after) = usableProfiles before := by
  rw [profilesBefore, List.takeWhile_append_of_pos hbefore, List.takeWhile_cons_of_neg (by rw [hstop]; decide),
    List.append_nil]

/-- The queries all end with a profile, or there is a first that does not. -/
theorem isProfile_or_exists (results : List Outcome) :
    (∀ outcome ∈ results, outcome.isProfile = true) ∨ ∃ before outcome after, results = before ++ outcome :: after ∧
      (∀ outcome ∈ before, outcome.isProfile = true) ∧ outcome.isProfile = false := by
  induction results with
  | nil => exact Or.inl (List.forall_mem_nil _)
  | cons head results ih =>
      cases hhead : head.isProfile with
      | false => exact Or.inr ⟨[], head, results, rfl, List.forall_mem_nil _, hhead⟩
      | true =>
          rcases ih with hall | ⟨before, outcome, after, rfl, hbefore, hstop⟩
          · exact Or.inl (List.forall_mem_cons.mpr ⟨hhead, hall⟩)
          · exact Or.inr ⟨head :: before, outcome, after, rfl, List.forall_mem_cons.mpr ⟨hhead, hbefore⟩, hstop⟩

theorem firstError_of_profiles (hall : ∀ outcome ∈ results, outcome.isProfile = true) :
    firstError results = some .ok := by
  rw [← List.append_nil results, firstError_append hall]
  rfl

end FirstError

/-- Profiles that are found are reported with the result of the loop. -/
theorem exists_consistent_iff {result : Result} {found expected : List AudioProfile}
    (hall : result = .ok → found = expected) :
    (∃ reported, (if ¬ found = [] then some (result, found) else some (.notSupported, [])) = some reported ∧
        Consistent reported expected) ↔
      result = .ok ∨ found = [] := by
  by_cases hfound : found = []
  · refine iff_of_true ?_ (Or.inr hfound)
    rw [if_neg (not_not.mpr hfound)]
    exact ⟨_, rfl, by simp, fun _ => rfl, fun h => by cases h⟩
  · rw [if_pos hfound, or_iff_left hfound]
    constructor
    · rintro ⟨reported, hreported, hconsistent⟩
      cases hreported
      exact hconsistent.ok_iff.mpr hfound
    · intro hok
      exact ⟨_, rfl, iff_of_true hok hfound, fun h => absurd hok h, hall⟩

/-- The profiles are reported consistently if and only if the query for the formats fails, or all queries end with a
profile, or the first that does not fails, and no format before it has rates and masks. -/
theorem getSupportedProfiles_consistent_iff (formatsReply : ParamReply) (replies : Nat → ParamQuery → ParamReply) :
    let formats := (texts.audioFormatsFromHal (texts.splitString formatsReply.value)).zipIdx.map
      fun (format, i) => (format, replies i)
    (∃ reported, getSupportedProfiles texts formatsReply replies = some reported ∧
        Consistent reported (usableProfiles (outcomes texts formats))) ↔
      getHalStatusToResult formatsReply.status ≠ .ok ∨
        (∀ outcome ∈ outcomes texts formats, outcome.isProfile = true) ∨
        ∃ before result after, outcomes texts formats = before ++ some (.error result) :: after ∧
          (∀ outcome ∈ before, outcome.isProfile = true) ∧ usableProfiles before = [] := by
  intro formats
  rw [getSupportedProfiles]
  by_cases hformats : getHalStatusToResult formatsReply.status = .ok
  swap
  · refine iff_of_true ?_ (Or.inl hformats)
    rw [if_pos hformats]
    exact ⟨_, rfl, iff_of_false hformats fun h => h rfl, fun _ => rfl, fun h => absurd h hformats⟩
  have hloop := @collectProfiles_eq texts [] formats
  simp only [hformats, ne_eq, not_true_eq_false, if_false, false_or, formats, List.nil_append] at hloop ⊢
  rw [hloop]
  rcases isProfile_or_exists (outcomes texts formats) with hall | ⟨before, outcome, after, hsplit, hbefore, hstop⟩
  · have hfound : profilesBefore (outcomes texts formats) = usableProfiles (outcomes texts formats) := by
      rw [profilesBefore, List.takeWhile_eq_self_iff.mpr hall]
    rw [firstError_of_profiles hall]
    exact iff_of_true ((exists_consistent_iff fun _ => hfound).mpr (Or.inl rfl)) (Or.inl hall)
  have hnot : ¬ ∀ outcome ∈ outcomes texts formats, outcome.isProfile = true := by
    intro hall
    rw [hall outcome (by rw [hsplit]; exact List.mem_append_right _ List.mem_cons_self)] at hstop
    cases hstop
  have hfirst : firstError (outcomes texts formats) = firstError (outcome :: after) := by
    rw [hsplit, firstError_append hbefore]
  rcases outcome with _ | ⟨result | profile⟩
  · -- nothing is reported, and the first outcome without a profile is not a failure
    rw [hfirst]
    refine iff_of_false ?_ ?_
    · rintro ⟨reported, hreported, -⟩
      cases hreported
    · rintro (hall | ⟨before', result, after', hsplit', hbefore', -⟩)
      · exact hnot hall
      · rw [hsplit', firstError_append hbefore'] at hfirst
        cases hfirst
  · have hok : result ≠ .ok := error_ne_ok (by rw [hsplit]; exact List.mem_append_right _ List.mem_cons_self)
    have hfound : profilesBefore (outcomes texts formats) = usableProfiles before := by
      rw [hsplit, profilesBefore_append hbefore hstop]
    rw [hfirst, firstError, Option.map_some, hfound]
    refine (exists_consistent_iff fun h => absurd h hok).trans ?_
    rw [or_iff_right hok, or_iff_right hnot]
    constructor
    · intro hempty
      exact ⟨before, result, after, hsplit, hbefore, hempty⟩
    · rintro ⟨before', result', after', hsplit', hbefore', hempty⟩
      rw [← hfound, hsplit', profilesBefore_append hbefore' rfl]
      exact hempty
  · cases hstop

end Profiles

/-- Texts split at each bar, with two formats that can be converted. -/
def someTexts : HalTexts where
  splitString text := text.splitOn '|'
  audioFormatsFromHal formats := formats
  audioFormatToHal format := if format = ['A'] then some 1 else if format = ['B'] then some 2 else none
  audioChannelMasksFromHal masks := masks

/-- The queries for the first format succeed, and the first one for the second format fails. -/
def secondFails : Nat → ParamQuery → ParamReply
  | 0, _ => ⟨0, ['1']⟩
  | _, _ => ⟨-22, []⟩

theorem secondFails_reported :
    ¬ ∃ reported expected, getSupportedProfiles someTexts ⟨0, ['A', '|', 'B']⟩ secondFails = some reported ∧
      Consistent reported expected := by
  rintro ⟨reported, expected, hreported, hconsistent⟩
  have hrun : getSupportedProfiles someTexts ⟨0, ['A', '|', 'B']⟩ secondFails =
      some (.notSupported, [⟨['A'], [1], [['1']]⟩]) := by decide +kernel
  cases hreported.symm.trans hrun
  cases hconsistent.error (by decide)

end Penrose.Audio
