import Penrose.ShoulderKeyDatabase

/-! Global mode as a register of the database. Its row is made by the first call that reads it, and what is set
before that is lost. -/

namespace Penrose.ShoulderKey

inductive ModeCall where
  | setKeyMappingGlobalMode (enable : Bool)
  | getKeyMappingGlobalMode
  deriving DecidableEq

namespace ModeCall

def apply (db : ShoulderKeyDB) : ModeCall → ShoulderKeyDB
  | .setKeyMappingGlobalMode enable => db.setKeyMappingGlobalMode enable
  | .getKeyMappingGlobalMode => db.getKeyMappingGlobalMode.1

def record (last : Option Bool) : ModeCall → Option Bool
  | .setKeyMappingGlobalMode enable => some enable
  | .getKeyMappingGlobalMode => last

end ModeCall

/-- The argument of the most recent call that sets the mode. -/
def lastSet (calls : List ModeCall) : Option Bool := calls.foldl ModeCall.record none

/-- Every call that reads the mode returns what was set most recently, and false if nothing was. -/
def GetsLastSet (db : ShoulderKeyDB) (calls : List ModeCall) : Prop :=
  ∀ before after, calls = before ++ .getKeyMappingGlobalMode :: after →
    (before.foldl ModeCall.apply db).getKeyMappingGlobalMode.2 = (lastSet before).getD false

/-- What is set before the mode is read for the first time leaves it off. -/
def SetsOffFirst (calls : List ModeCall) : Prop :=
  ∀ before after, calls = before ++ .getKeyMappingGlobalMode :: after → .getKeyMappingGlobalMode ∉ before →
    lastSet before ≠ some true

theorem foldl_record (calls : List ModeCall) (last : Option Bool) :
    calls.foldl ModeCall.record last = (lastSet calls).or last := by
  induction calls using List.reverseRecOn with
  | nil => rfl
  | append_singleton calls call ih =>
      calc (calls ++ [call]).foldl ModeCall.record last
          = call.record (calls.foldl ModeCall.record last) := List.foldl_concat ..
        _ = call.record ((lastSet calls).or last) := by rw [ih]
        _ = (call.record (lastSet calls)).or last := by cases call <;> rfl
        _ = (lastSet (calls ++ [call])).or last := by rw [lastSet, lastSet, List.foldl_concat]

theorem lastSet_append (calls calls' : List ModeCall) :
    lastSet (calls ++ calls') = (lastSet calls').or (lastSet calls) := by
  rw [lastSet, List.foldl_append, ← lastSet, foldl_record]

theorem getD_of_ne_true {last : Option Bool} (h : last ≠ some true) : last.getD false = false := by
  cases last with
  | none => rfl
  | some enable => exact Bool.eq_false_iff.mpr fun htrue => h (congrArg some htrue)

namespace ShoulderKeyDB

variable {db : ShoulderKeyDB} {calls : List ModeCall} {enable : Bool}

def modeInt (enable : Bool) : Int := if enable then 1 else 0

theorem getKeyMappingGlobalMode_of_row (hrow : db.keyMappingConfig = [modeInt enable]) :
    db.getKeyMappingGlobalMode = (db, enable) := by
  rw [getKeyMappingGlobalMode, hrow]
  cases enable <;> rfl

theorem getKeyMappingGlobalMode_of_empty (hempty : db.keyMappingConfig = []) :
    db.getKeyMappingGlobalMode = ({ db with keyMappingConfig := [modeInt false] }, false) := by
  rw [getKeyMappingGlobalMode, hempty]
  rfl

/-- Without a row, setting the mode changes nothing. -/
theorem keyMappingConfig_of_not_mem (hempty : db.keyMappingConfig = [])
    (hcalls : .getKeyMappingGlobalMode ∉ calls) : (calls.foldl ModeCall.apply db).keyMappingConfig = [] := by
  induction calls generalizing db with
  | nil => exact hempty
  | cons call calls ih =>
      obtain ⟨hcall, hrest⟩ := not_or.mp (mt List.mem_cons.mpr hcalls)
      cases call with
      | setKeyMappingGlobalMode enable => exact ih (by simp [ModeCall.apply, setKeyMappingGlobalMode, hempty]) hrest
      | getKeyMappingGlobalMode => exact absurd rfl hcall

/-- With a row, the row is what was set most recently. -/
theorem keyMappingConfig_of_row (hrow : db.keyMappingConfig = [modeInt enable]) :
    (calls.foldl ModeCall.apply db).keyMappingConfig = [modeInt ((lastSet calls).getD enable)] := by
  induction calls using List.reverseRecOn with
  | nil => exact hrow
  | append_singleton calls call ih =>
      rw [List.foldl_append, List.foldl_cons, List.foldl_nil, lastSet_append]
      cases call with
      | setKeyMappingGlobalMode enable' =>
          rw [ModeCall.apply, setKeyMappingGlobalMode, ih]
          rfl
      | getKeyMappingGlobalMode =>
          rw [ModeCall.apply, getKeyMappingGlobalMode_of_row ih, ih]
          rfl

/-- From the first reading on, the mode is what was set since then. -/
theorem getKeyMappingGlobalMode_foldl (hempty : db.keyMappingConfig = []) {before after : List ModeCall}
    (hfirst : .getKeyMappingGlobalMode ∉ before) :
    ((before ++ .getKeyMappingGlobalMode :: after).foldl ModeCall.apply db).getKeyMappingGlobalMode.2 =
      (lastSet after).getD false := by
  have hnone := keyMappingConfig_of_not_mem hempty hfirst
  rw [List.foldl_append, List.foldl_cons, ModeCall.apply, getKeyMappingGlobalMode_of_empty hnone]
  rw [getKeyMappingGlobalMode_of_row (keyMappingConfig_of_row rfl)]

end ShoulderKeyDB

open ShoulderKeyDB in
/-- From an empty table, the mode reads as it was set exactly if what is set before it is read for the first time
leaves it off. -/
theorem getsLastSet_iff (keyMapping : List KeyMappingEntry) (calls : List ModeCall) :
    GetsLastSet ⟨keyMapping, []⟩ calls ↔ SetsOffFirst calls := by
  refine ⟨?_, ?_⟩
  · intro hgets before after hcalls hfirst hlast
    have hmode := hgets before after hcalls
    rw [getKeyMappingGlobalMode_of_empty (keyMappingConfig_of_not_mem rfl hfirst), hlast] at hmode
    cases hmode
  · intro hoff before after hcalls
    by_cases hmem : .getKeyMappingGlobalMode ∈ before
    · obtain ⟨first, since, rfl, hfirst⟩ := List.eq_append_cons_of_mem hmem
      have hlast := hoff first (since ++ .getKeyMappingGlobalMode :: after) (by rw [hcalls]; simp) hfirst
      have hsince : lastSet (.getKeyMappingGlobalMode :: since) = lastSet since := rfl
      rw [getKeyMappingGlobalMode_foldl rfl hfirst, lastSet_append, hsince, Option.getD_or, getD_of_ne_true hlast]
    · rw [getKeyMappingGlobalMode_of_empty (keyMappingConfig_of_not_mem rfl hmem),
        getD_of_ne_true (hoff before after hcalls hmem)]

/-- Global mode is set before it was ever read. -/
theorem setBeforeGet_lost :
    ¬GetsLastSet ⟨[], []⟩ [.setKeyMappingGlobalMode true, .getKeyMappingGlobalMode] := by
  intro hgets
  have hmode := hgets [.setKeyMappingGlobalMode true] [] rfl
  revert hmode
  decide

end Penrose.ShoulderKey
