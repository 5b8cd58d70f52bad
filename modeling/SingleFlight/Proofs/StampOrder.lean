import Mathlib.Data.List.Basic
import SingleFlight.Proofs.DateOrder
import SingleFlight.Proofs.Minting
import SingleFlight.Proofs.Rfc3339Text

/-!
Minted run ids in the order of time. Main statements: an id that is minted in the years 0 to 9999 starts with the
stamp of its second, which takes sixteen characters, and the id of an earlier second is the smaller one as a text.
-/

namespace SingleFlight

open Text Time

namespace Text.Decimal

theorem digit_lt_digit {first second : Nat} (less : first % 10 < second % 10) : digit first < digit second := by
  rw [Char.lt_def, UInt32.lt_iff_toNat_lt]
  change (digit first).toNat < (digit second).toNat
  rw [toNat_digit, toNat_digit]
  omega

theorem padded_zero (width : Nat) : padded width 0 = List.replicate width '0' := by
  induction width with
  | zero => rfl
  | succ width ih =>
    rw [padded, Nat.zero_div, ih, List.replicate_succ']
    rfl

/-- A number that fits its places has the same digits however zeros are put in front. -/
theorem atLeast_eq_padded {width value : Nat} (positive : 0 < width) (small : value < 10 ^ width) :
    atLeast width value = padded width value := by
  induction width generalizing value with
  | zero => omega
  | succ width ih =>
    unfold atLeast padded
    by_cases single : value < 10
    · rw [digits_of_lt single, Nat.div_eq_of_lt single, padded_zero]
      rfl
    · have rest : value / 10 < 10 ^ width := by
        rw [Nat.pow_succ] at small
        omega
      have wide : 0 < width := by
        by_contra none
        rw [Nat.eq_zero_of_not_pos none] at rest
        omega
      have places : width + 1 - (digits (value / 10) ++ [digit value]).length = width - (digits (value / 10)).length := by
        simp
      rw [digits_of_ge single, places, ← List.append_assoc, ← ih wide rest, atLeast]

/-- Numbers in the same places are in the order of their digits, and where they are the same, what follows decides. -/
theorem padded_append_lt {width first second : Nat} {firstRest secondRest : List Char} (small : second < 10 ^ width)
    (before : first < second ∨ first = second ∧ firstRest < secondRest) :
    padded width first ++ firstRest < padded width second ++ secondRest := by
  rcases before with less | ⟨rfl, after⟩
  · induction width generalizing first second firstRest secondRest with
    | zero => omega
    | succ width ih =>
      rw [padded, padded, List.append_assoc, List.append_assoc]
      -- The last digit decides only where all digits before it are the same.
      rcases Nat.lt_or_eq_of_le (show first / 10 ≤ second / 10 by omega) with earlier | same
      · apply ih _ earlier
        rw [Nat.pow_succ] at small
        omega
      · rw [same]
        apply List.append_left_lt
        exact List.cons_lt_cons_iff.mpr (.inl (digit_lt_digit (by omega)))
  · exact List.append_left_lt after

end Text.Decimal

/-- Whether a time is in one of the years that have four digits in UTC, zeros in front included. -/
def Time.Timestamp.InFourDigits (time : Timestamp) : Prop := 0 ≤ time.utcForm.date.year ∧ time.utcForm.date.year ≤ 9999

instance (time : Timestamp) : Decidable time.InFourDigits :=
  inferInstanceAs (Decidable (0 ≤ time.utcForm.date.year ∧ time.utcForm.date.year ≤ 9999))

namespace RunId

/-- The stamp of a UTC form, each part in its full width: the date, and behind a letter the time of day. -/
def stamp (utc : UtcForm) : List Char :=
  Decimal.padded 4 utc.date.year.toNat ++ Decimal.padded 2 utc.date.month ++ Decimal.padded 2 utc.date.day ++
    'T' :: (Decimal.padded 2 utc.hour ++ Decimal.padded 2 utc.minute ++ Decimal.padded 2 utc.second ++ ['Z'])

theorem length_stamp (utc : UtcForm) : (stamp utc).length = 16 := by
  simp [stamp]

theorem hyphen_not_mem_stamp (utc : UtcForm) : ∀ c ∈ stamp utc, c ≠ '-' := by
  have digits (width value : Nat) : ∀ c ∈ Decimal.padded width value, c ≠ '-' := by
    intro c inside same
    have digit := List.all_eq_true.mp (Decimal.all_isDigit_padded width value) c inside
    rw [same] at digit
    exact absurd digit (by decide)
  simp only [stamp, List.forall_mem_append, List.forall_mem_cons]
  exact ⟨⟨⟨digits _ _, digits _ _⟩, digits _ _⟩, by decide, ⟨⟨digits _ _, digits _ _⟩, digits _ _⟩, by decide, nofun⟩

theorem stampChars_eq_stamp {time : Timestamp} (years : time.InFourDigits) : stampChars time.utcForm = stamp time.utcForm := by
  obtain ⟨month, day, hour, minute, second⟩ := narrow_utcForm time
  obtain ⟨positive, short⟩ := years
  have year : yearChars time.utcForm.date.year = Decimal.padded 4 time.utcForm.date.year.toNat := by
    have size : time.utcForm.date.year.natAbs = time.utcForm.date.year.toNat := by omega
    rw [yearChars, if_neg (Int.not_lt.mpr positive), size, Decimal.atLeast_eq_padded (by decide) (by omega)]
  unfold stampChars stamp
  rw [year, Decimal.atLeast_eq_padded (by decide) month, Decimal.atLeast_eq_padded (by decide) day,
    Decimal.atLeast_eq_padded (by decide) hour, Decimal.atLeast_eq_padded (by decide) minute,
    Decimal.atLeast_eq_padded (by decide) second]
  rfl

/-- The text of a later second is the greater one, whatever follows the stamps. -/
theorem stamp_append_lt {first second : Timestamp} (firstYears : first.InFourDigits) (secondYears : second.InFourDigits)
    (before : first.seconds < second.seconds) (firstRest secondRest : List Char) :
    stamp first.utcForm ++ firstRest < stamp second.utcForm ++ secondRest := by
  obtain ⟨month, day, hour, minute, sec⟩ := narrow_utcForm second
  have year : second.utcForm.date.year.toNat < 10 ^ 4 := by
    have short := secondYears.2
    omega
  simp only [stamp, List.append_assoc, List.cons_append]
  rcases Timestamp.utcForm_precedes before with dates | ⟨sameDate, times⟩
  · apply Decimal.padded_append_lt year
    rcases dates with years | ⟨sameYear, months⟩
    · have positive := firstYears.1
      exact .inl (by omega)
    · refine .inr ⟨congrArg Int.toNat sameYear, Decimal.padded_append_lt month ?_⟩
      rcases months with less | ⟨sameMonth, days⟩
      · exact .inl less
      · exact .inr ⟨sameMonth, Decimal.padded_append_lt day (.inl days)⟩
  · rw [sameDate]
    refine List.append_left_lt (List.append_left_lt (List.append_left_lt (List.cons_lt_cons_iff.mpr (.inr ⟨rfl, ?_⟩))))
    apply Decimal.padded_append_lt hour
    rcases times with hours | ⟨sameHour, minutes⟩
    · exact .inl hours
    · refine .inr ⟨sameHour, Decimal.padded_append_lt minute ?_⟩
      rcases minutes with less | ⟨sameMinute, seconds⟩
      · exact .inl less
      · exact .inr ⟨sameMinute, Decimal.padded_append_lt sec (.inl seconds)⟩

/-- The text of a minted id, stamp first. -/
theorem text_of_mint_stamp {now : Timestamp} {suffix : UInt16} {runId : RunId} (years : now.InFourDigits)
    (minted : mint? now suffix = some runId) : runId.text.toList = stamp now.utcForm ++ '-' :: hexPadded 4 suffix.toNat := by
  rw [text_of_mint minted, stampChars_eq_stamp years]

/-- Whether an id was minted in a second, of a year of four digits. -/
def MintedIn (runId : RunId) (moment : Int) : Prop :=
  ∃ (now : Timestamp) (suffix : UInt16), now.InFourDigits ∧ now.seconds = moment ∧ mint? now suffix = some runId

theorem MintedIn.text_lt {firstId secondId : RunId} {first second : Int} (firstMinted : firstId.MintedIn first)
    (secondMinted : secondId.MintedIn second) (before : first < second) : firstId.text < secondId.text := by
  obtain ⟨firstNow, firstSuffix, firstYears, rfl, firstIs⟩ := firstMinted
  obtain ⟨secondNow, secondSuffix, secondYears, rfl, secondIs⟩ := secondMinted
  rw [String.lt_iff, text_of_mint_stamp firstYears firstIs, text_of_mint_stamp secondYears secondIs]
  exact stamp_append_lt firstYears secondYears before _ _

/-- Ids in order tell of seconds in order. -/
theorem MintedIn.le_of_text_le {firstId secondId : RunId} {first second : Int} (firstMinted : firstId.MintedIn first)
    (secondMinted : secondId.MintedIn second) (ordered : firstId.text ≤ secondId.text) : first ≤ second := by
  by_contra later
  have greater := secondMinted.text_lt firstMinted (show second < first by omega)
  exact String.not_le.mpr greater ordered

/-- What can be told of an id from the time that it was minted at: it is read again, and up to its hyphen it is
the sixteen characters that stamp the second in UTC. -/
structure Stamped (runId : RunId) (now : Timestamp) : Prop where
  accepted : ofText? runId.text = some runId
  stamp : runId.timestampComponent = String.ofList (stamp now.utcForm)
  places : runId.timestampComponent.length = 16
  second : now.utcForm.Names now.seconds

theorem stamped_of_mint {now : Timestamp} {suffix : UInt16} {runId : RunId} (years : now.InFourDigits)
    (minted : mint? now suffix = some runId) : runId.Stamped now := by
  have component : runId.timestampComponent = String.ofList (stamp now.utcForm) := by
    have clean (c : Char) (inside : c ∈ stamp now.utcForm) : decide (c ≠ '-') = true :=
      decide_eq_true (hyphen_not_mem_stamp now.utcForm c inside)
    have ends : ('-' :: hexPadded 4 suffix.toNat).takeWhile (· ≠ '-') = [] := rfl
    rw [timestampComponent, text_of_mint_stamp years minted, List.takeWhile_append_of_pos clean, ends, List.append_nil]
  constructor
  · exact dif_pos runId.valid
  · exact component
  · rw [component, String.length_ofList, length_stamp]
  · exact now.utcForm_names

/-- An id can be minted at any time in a year of four digits. -/
theorem exists_mint {now : Timestamp} (years : now.InFourDigits) (suffix : UInt16) : ∃ runId, mint? now suffix = some runId := by
  have formed : now.utcForm?.isSome = true := by
    unfold Timestamp.utcForm?
    rw [if_pos ⟨by have positive := years.1; omega, years.2⟩]
    rfl
  exact Option.isSome_iff_exists.mp ((isSome_mint? now suffix).trans formed)

end RunId

end SingleFlight
