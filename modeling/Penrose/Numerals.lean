import Mathlib.Algebra.Ring.Int.Defs
import Mathlib.Algebra.Ring.Nat
import Mathlib.Data.List.TakeWhile
import Mathlib.Tactic.SplitIfs

/-! Numbers that are written in a text, as the C library reads them: white space, a sign and digits, up to the first
character that is no digit. A value outside the range of `long` is read as the nearest in it. -/

namespace Penrose

def isSpace (c : Char) : Bool := c.toNat = 32 || (9 ≤ c.toNat && c.toNat ≤ 13)

/-- The value of a digit; letters of either case stand for ten and more. -/
def digitValue (c : Char) : Option Nat :=
  if 48 ≤ c.toNat ∧ c.toNat ≤ 57 then some (c.toNat - 48)
  else if 97 ≤ c.toNat ∧ c.toNat ≤ 122 then some (c.toNat - 87)
  else if 65 ≤ c.toNat ∧ c.toNat ≤ 90 then some (c.toNat - 55)
  else none

/-- The character is a digit in this base. -/
def isDigitOf (base : Nat) (c : Char) : Bool := (digitValue c).any (· < base)

/-- The number that the leading digits of the text make. -/
def readDigits (base : Nat) (text : List Char) : Nat :=
  (text.takeWhile (isDigitOf base)).foldl (fun value c => base * value + (digitValue c).getD 0) 0

/-- A text without the prefix that may stand before hexadecimal digits. -/
def skipHexPrefix : List Char → List Char
  | '0' :: x :: c :: rest => if (x = 'x' || x = 'X') && isDigitOf 16 c then c :: rest else '0' :: x :: c :: rest
  | text => text

/-- The digits after the sign, read in the base. -/
def readUnsigned (base : Nat) (text : List Char) : Nat :=
  readDigits base (if base = 16 then skipHexPrefix text else text)

/-- The nearest `long`. -/
def clampLong (value : Int) : Int := max (-2 ^ 63) (min (2 ^ 63 - 1) value)

/-- `strtol` of a text that has no more than one sign. -/
def strtol (base : Nat) (text : List Char) : Int :=
  match text.dropWhile isSpace with
  | '-' :: rest => clampLong (-readUnsigned base rest)
  | '+' :: rest => clampLong (readUnsigned base rest)
  | rest => clampLong (readUnsigned base rest)

/-- The value as an `int`. -/
def toInt32 (value : Int) : Int := (BitVec.ofInt 32 value).toInt

def atoi (text : List Char) : Int := toInt32 (strtol 10 text)

/-- A number in decimal digits, with a sign if it is negative. -/
def decimal (value : Int) : List Char :=
  if value < 0 then '-' :: Nat.toDigits 10 value.natAbs else Nat.toDigits 10 value.natAbs

/-! ### Decimal numbers are read back -/

theorem toNat_of_isDigit {c : Char} (hdigit : c.isDigit = true) : 48 ≤ c.toNat ∧ c.toNat ≤ 57 := by
  rw [Char.isDigit, Bool.and_eq_true, decide_eq_true_eq, decide_eq_true_eq] at hdigit
  exact ⟨UInt32.le_iff_toNat_le.mp hdigit.1, UInt32.le_iff_toNat_le.mp hdigit.2⟩

theorem digitValue_of_isDigit {c : Char} (hdigit : c.isDigit = true) : digitValue c = some (c.toNat - 48) :=
  if_pos (toNat_of_isDigit hdigit)

theorem isDigitOf_ten {c : Char} (hdigit : c.isDigit = true) : isDigitOf 10 c = true := by
  have hrange := toNat_of_isDigit hdigit
  rw [isDigitOf, digitValue_of_isDigit hdigit, Option.any_some, decide_eq_true_eq]
  omega

theorem readDigits_toDigits (value : Nat) : readDigits 10 (Nat.toDigits 10 value) = value := by
  have hdigits : ∀ c ∈ Nat.toDigits 10 value, c.isDigit = true := fun c hc =>
    Nat.isDigit_of_mem_toDigits (by decide) (by decide) hc
  rw [readDigits, List.takeWhile_eq_self_iff.mpr fun c hc => isDigitOf_ten (hdigits c hc)]
  have hfold : ∀ (text : List Char) (initial : Nat), (∀ c ∈ text, c.isDigit = true) →
      text.foldl (fun value c => 10 * value + (digitValue c).getD 0) initial = Nat.ofDigitChars 10 text initial := by
    intro text
    induction text with
    | nil => exact fun _ _ => rfl
    | cons c rest ih =>
        intro initial hall
        rw [List.foldl_cons, digitValue_of_isDigit (hall c List.mem_cons_self), Option.getD_some,
          ih _ fun d hd => hall d (List.mem_cons_of_mem c hd), Nat.ofDigitChars_cons]
        rfl
  rw [hfold _ 0 hdigits, Nat.ofDigitChars_ten_toDigits]

theorem clampLong_of_mem {value : Int} (hlow : -2 ^ 63 ≤ value) (hhigh : value < 2 ^ 63) : clampLong value = value := by
  rw [clampLong]
  omega

/-- A digit is neither white space nor a sign. -/
theorem strtol_of_isDigit {c : Char} (hdigit : c.isDigit = true) (rest : List Char) :
    strtol 10 (c :: rest) = clampLong (readDigits 10 (c :: rest)) := by
  have hrange := toNat_of_isDigit hdigit
  have hspace : isSpace c = false := by
    rw [isSpace]
    simp only [Bool.or_eq_false_iff, decide_eq_false_iff_not, Bool.and_eq_false_iff]
    omega
  rw [strtol, List.dropWhile_cons_of_neg (by rw [hspace]; decide)]
  split
  next later heq =>
    cases heq
    exact absurd hrange.1 (by decide)
  next later heq =>
    cases heq
    exact absurd hrange.1 (by decide)
  next => rfl

theorem strtol_decimal {value : Int} (hlow : -2 ^ 63 ≤ value) (hhigh : value < 2 ^ 63) :
    strtol 10 (decimal value) = value := by
  rw [decimal]
  split_ifs with hneg
  · have hread : strtol 10 ('-' :: Nat.toDigits 10 value.natAbs) =
        clampLong (-(readDigits 10 (Nat.toDigits 10 value.natAbs))) := rfl
    have hvalue : -(value.natAbs : Int) = value := by omega
    rw [hread, readDigits_toDigits, hvalue, clampLong_of_mem hlow hhigh]
  · cases hdigits : Nat.toDigits 10 value.natAbs with
    | nil => exact absurd hdigits Nat.toDigits_ne_nil
    | cons c rest =>
        have hdigit : c.isDigit = true := by
          apply Nat.isDigit_of_mem_toDigits (b := 10) (n := value.natAbs) (by decide) (by decide)
          rw [hdigits]
          exact List.mem_cons_self
        have hvalue : (value.natAbs : Int) = value := by omega
        rw [strtol_of_isDigit hdigit, ← hdigits, readDigits_toDigits, hvalue, clampLong_of_mem hlow hhigh]

theorem decimal_ne_nil (value : Int) : decimal value ≠ [] := by
  rw [decimal]
  split_ifs
  · exact List.cons_ne_nil _ _
  · exact Nat.toDigits_ne_nil

theorem length_decimal_le {value : Int} (count : Nat) (hcount : 0 < count) (hvalue : value.natAbs < 10 ^ count) :
    (decimal value).length ≤ count + 1 := by
  have hdigits := (Nat.length_toDigits_le_iff (by decide : 1 < 10) hcount).mpr hvalue
  rw [decimal]
  split_ifs
  · rw [List.length_cons]
    omega
  · omega

/-- Every `int` is read back from its decimal digits. -/
theorem atoi_decimal {value : Int} (hlow : -2 ^ 31 ≤ value) (hhigh : value < 2 ^ 31) :
    atoi (decimal value) = value := by
  rw [atoi, strtol_decimal (by omega) (by omega), toInt32, BitVec.toInt_ofInt, Int.bmod_eq_of_le (by omega) (by omega)]

end Penrose
