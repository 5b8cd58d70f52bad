/-!
Whole numbers in decimal. Main statement: a number is read back from its digits.
-/

namespace SingleFlight.Text.Decimal

def digit (value : Nat) : Char := Char.ofNat (48 + value % 10)

def digitValue (c : Char) : Nat := c.toNat - 48

def isDigit (c : Char) : Bool := '0' ≤ c && c ≤ '9'

/-- Writes the digits of a number in front of a text. -/
def digitsOnto (value : Nat) (after : List Char) : List Char :=
  if value < 10 then digit value :: after else digitsOnto (value / 10) (digit value :: after)

/-- The digits of a number, without leading zeros. -/
def digits (value : Nat) : List Char := digitsOnto value []

/-- The last `width` digits of a number. -/
def padded : Nat → Nat → List Char
  | 0, _ => []
  | width + 1, value => padded width (value / 10) ++ [digit value]

/-- At least `width` digits, with zeros in front where the number has fewer. -/
def atLeast (width value : Nat) : List Char :=
  List.replicate (width - (digits value).length) '0' ++ digits value

def integer (value : Int) : List Char :=
  if value < 0 then '-' :: digits value.natAbs else digits value.natAbs

/-- The number that a list of digits spells. -/
def value (chars : List Char) : Nat := chars.foldl (fun total c => total * 10 + digitValue c) 0

/-- Reads a nonempty list of digits. -/
def natural? (chars : List Char) : Option Nat :=
  if !chars.isEmpty && chars.all isDigit then some (value chars) else none

/-- Reads exactly `width` digits from the front of a text. -/
def take? (width : Nat) (chars : List Char) : Option (Nat × List Char) :=
  if (chars.take width).length = width && (chars.take width).all isDigit then
    some (value (chars.take width), chars.drop width)
  else none

def text (value : Int) : String := String.ofList (integer value)

theorem toNat_digit (n : Nat) : (digit n).toNat = 48 + n % 10 := by
  have small : n % 10 < 10 := Nat.mod_lt _ (by decide)
  have all : ∀ d : Fin 10, (Char.ofNat (48 + d.val)).toNat = 48 + d.val := by decide
  exact all ⟨n % 10, small⟩

theorem digitValue_digit (n : Nat) : digitValue (digit n) = n % 10 := by
  rw [digitValue, toNat_digit]; omega

theorem isDigit_digit (n : Nat) : isDigit (digit n) = true := by
  have small : n % 10 < 10 := Nat.mod_lt _ (by decide)
  have all : ∀ d : Fin 10, isDigit (Char.ofNat (48 + d.val)) = true := by decide
  exact all ⟨n % 10, small⟩

theorem digitsOnto_eq (n : Nat) (after : List Char) : digitsOnto n after = digits n ++ after := by
  induction n using Nat.strongRecOn generalizing after with
  | _ n ih =>
    rw [digits, digitsOnto.eq_def n after, digitsOnto.eq_def n []]
    split
    · rfl
    · rw [ih (n / 10) (by omega) _, ih (n / 10) (by omega) [digit n], List.append_assoc]
      rfl

theorem digits_of_lt {n : Nat} (small : n < 10) : digits n = [digit n] := by
  rw [digits, digitsOnto, if_pos small]

theorem digits_of_ge {n : Nat} (large : ¬n < 10) : digits n = digits (n / 10) ++ [digit n] := by
  rw [digits, digitsOnto, if_neg large, digitsOnto_eq]

theorem value_append_digit (chars : List Char) (n : Nat) :
    value (chars ++ [digit n]) = value chars * 10 + n % 10 := by
  simp [value, List.foldl_append, digitValue_digit]

theorem value_digits (n : Nat) : value (digits n) = n := by
  induction n using Nat.strongRecOn with
  | _ n ih =>
    by_cases small : n < 10
    · rw [digits_of_lt small]
      simp only [value, List.foldl_cons, List.foldl_nil, digitValue_digit]
      omega
    · rw [digits_of_ge small, value_append_digit, ih (n / 10) (by omega)]
      omega

theorem all_isDigit_digits (n : Nat) : (digits n).all isDigit = true := by
  induction n using Nat.strongRecOn with
  | _ n ih =>
    by_cases small : n < 10
    · rw [digits_of_lt small]; simp [isDigit_digit]
    · rw [digits_of_ge small, List.all_append, ih (n / 10) (by omega)]
      simp [isDigit_digit]

theorem digits_ne_nil (n : Nat) : digits n ≠ [] := by
  by_cases small : n < 10
  · rw [digits_of_lt small]; simp
  · rw [digits_of_ge small]; simp

theorem natural?_digits (n : Nat) : natural? (digits n) = some n := by
  have full : (digits n).isEmpty = false := by
    cases shape : digits n with
    | nil => exact absurd shape (digits_ne_nil n)
    | cons => rfl
  rw [natural?, full, all_isDigit_digits, value_digits]
  rfl

end SingleFlight.Text.Decimal
