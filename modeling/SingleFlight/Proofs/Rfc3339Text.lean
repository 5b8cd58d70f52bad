import Mathlib.Algebra.Ring.Nat
import Mathlib.Data.List.TakeWhile
import SingleFlight.Time.Rfc3339

/-!
A time that has a text form is read back from it: the same display, with the same offset from UTC.
-/

namespace SingleFlight

open Text

namespace Text.Decimal

@[simp]
theorem length_padded (width value : Nat) : (padded width value).length = width := by
  induction width generalizing value with
  | zero => rfl
  | succ width ih => rw [padded, List.length_append, ih]; rfl

theorem all_isDigit_padded (width value : Nat) : (padded width value).all isDigit = true := by
  induction width generalizing value with
  | zero => rfl
  | succ width ih =>
    rw [padded, List.all_append, ih, Bool.true_and]
    simp [isDigit_digit]

theorem value_padded {width value : Nat} (small : value < 10 ^ width) : Decimal.value (padded width value) = value := by
  induction width generalizing value with
  | zero =>
    rw [Nat.pow_zero, Nat.lt_one_iff] at small
    rw [small]
    rfl
  | succ width ih =>
    rw [Nat.pow_succ] at small
    rw [padded, value_append_digit, ih (show value / 10 < 10 ^ width by omega)]
    omega

/-- A number in a given number of places is read off the front of a text. -/
theorem take?_padded {width value : Nat} (small : value < 10 ^ width) (rest : List Char) :
    take? width (padded width value ++ rest) = some (value, rest) := by
  have front : (padded width value ++ rest).take width = padded width value := by
    rw [List.take_append_of_le_length (by rw [length_padded]), List.take_of_length_le (by rw [length_padded])]
  have behind : (padded width value ++ rest).drop width = rest := by
    rw [List.drop_append_of_le_length (by rw [length_padded]), List.drop_of_length_le (by rw [length_padded]),
      List.nil_append]
  rw [take?, front, behind, length_padded, all_isDigit_padded, value_padded small]
  simp

end Text.Decimal

namespace Time

theorem after?_cons (c : Char) (rest : List Char) : after? c (c :: rest) = some rest := if_pos rfl

theorem separator?_cons {c : Char} (ascii : c.toNat < 128) (rest : List Char) : separator? (c :: rest) = some rest :=
  if_pos ascii

/-- The zeros that a fraction is written without are put back when it is read. -/
theorem stripped_zeros {chars : List Char} (whole : chars.length = 9) :
    (((chars.reverse.dropWhile (· = '0')).reverse) ++ List.replicate 9 '0').take 9 = chars := by
  obtain ⟨count, zeros⟩ : ∃ count, chars.reverse.takeWhile (· = '0') = List.replicate count '0' := by
    refine ⟨(chars.reverse.takeWhile (· = '0')).length, List.eq_replicate_of_mem ?_⟩
    intro c found
    simpa using List.mem_takeWhile_imp found
  have parts : chars = (chars.reverse.dropWhile (· = '0')).reverse ++ List.replicate count '0' := by
    have both := congrArg List.reverse (List.takeWhile_append_dropWhile (p := (· = '0')) (l := chars.reverse))
    rw [List.reverse_reverse, List.reverse_append, zeros, List.reverse_replicate] at both
    exact both.symm
  have short : (chars.reverse.dropWhile (· = '0')).reverse.length + count = 9 := by
    have lengths := congrArg List.length parts
    rw [List.length_append, List.length_replicate, whole] at lengths
    exact lengths.symm
  have enough : List.replicate 9 '0' = List.replicate count '0' ++ List.replicate (9 - count) '0' := by
    rw [List.replicate_append_replicate]
    congr 1
    omega
  rw [enough, ← List.append_assoc, ← parts, List.take_append_of_le_length (by rw [whole]),
    List.take_of_length_le (by rw [whole])]

/-- A fraction is read back from its text, which ends before a character that is no digit. -/
theorem fraction?_fraction {nanosecond : Nat} (small : nanosecond < 1000000000) {c : Char}
    (ends : Decimal.isDigit c = false) (mark : c ≠ '.') (rest : List Char) :
    fraction? (fraction nanosecond ++ c :: rest) = some (nanosecond, c :: rest) := by
  unfold fraction
  split
  next zero =>
    subst zero
    rw [List.nil_append, fraction?]
    intro rest same
    cases same
    exact mark rfl
  next nonzero =>
    have places := Decimal.length_padded 9 nanosecond
    have spelled : Decimal.value (Decimal.padded 9 nanosecond) = nanosecond := Decimal.value_padded small
    have all : ∀ d ∈ ((Decimal.padded 9 nanosecond).reverse.dropWhile (· = '0')).reverse, Decimal.isDigit d = true := by
      intro d found
      have inPadded := (List.dropWhile_sublist _).subset (List.mem_reverse.mp found)
      exact List.all_eq_true.mp (Decimal.all_isDigit_padded 9 nanosecond) d (List.mem_reverse.mp inPadded)
    have back := stripped_zeros places
    generalize ((Decimal.padded 9 nanosecond).reverse.dropWhile (· = '0')).reverse = digits at all back ⊢
    have notEmpty : digits ≠ [] := by
      intro same
      subst same
      rw [← back] at spelled
      exact nonzero spelled.symm
    have front : (digits ++ c :: rest).takeWhile Decimal.isDigit = digits := by
      rw [List.takeWhile_append_of_pos all, List.takeWhile_cons_of_neg (by simp [ends]), List.append_nil]
    have behind : (digits ++ c :: rest).dropWhile Decimal.isDigit = c :: rest := by
      rw [List.dropWhile_append_of_pos all, List.dropWhile_cons_of_neg (by simp [ends])]
    rw [List.cons_append, fraction?]
    simp only [front, behind, back, List.isEmpty_eq_false_iff.mpr notEmpty, spelled]
    rfl

/-- What stands for the offset starts with a letter or a sign. -/
theorem zone_cons (offset : Int) : ∃ c rest, zone offset = c :: rest ∧ Decimal.isDigit c = false ∧ c ≠ '.' := by
  unfold zone
  split
  next => exact ⟨'Z', [], rfl, by decide, by decide⟩
  split
  next => exact ⟨'-', _, rfl, by decide, by decide⟩
  next => exact ⟨'+', _, rfl, by decide, by decide⟩

theorem zone?_zone {offset : Int} (within : offset.natAbs < 86400) (whole : offset % 60 = 0) :
    zone? (zone offset) = some (offset, []) := by
  have hours : offset.natAbs / 3600 < 10 ^ 2 := by omega
  have minutes : offset.natAbs / 60 % 60 < 10 ^ 2 := by omega
  have read : (Decimal.take? 2 (Decimal.padded 2 (offset.natAbs / 3600) ++ ':' :: Decimal.padded 2 (offset.natAbs / 60 % 60))) =
      some (offset.natAbs / 3600, ':' :: Decimal.padded 2 (offset.natAbs / 60 % 60)) := Decimal.take?_padded hours _
  have readMinutes : Decimal.take? 2 (Decimal.padded 2 (offset.natAbs / 60 % 60)) = some (offset.natAbs / 60 % 60, []) := by
    have alone := Decimal.take?_padded minutes []
    rwa [List.append_nil] at alone
  unfold zone
  split
  next zero =>
    subst zero
    rfl
  next nonzero =>
    generalize magnitude : offset.natAbs = size at read readMinutes ⊢
    split
    next negative =>
      simp [zone?, read, readMinutes, after?_cons]
      omega
    next positive =>
      simp [zone?, read, readMinutes, after?_cons]
      omega

namespace Timestamp

theorem ofDisplay?_display (time : Timestamp) : ofDisplay? time.display = some time := by
  rw [ofDisplay?, dif_pos time.valid]

/-- A time is read back from its text, if it has one. -/
theorem ofText?_text {time : Timestamp} (printable : time.isPrintable = true) : ofText? time.text = some time := by
  have valid := time.valid
  have sameDisplay := ofDisplay?_display time
  obtain ⟨⟨⟨year, month, day⟩, hour, minute, second, nanosecond, offset⟩, isValid⟩ := time
  simp only [Display.isValid, Date.isValid, Bool.and_eq_true, decide_eq_true_eq] at valid
  simp only [isPrintable, Bool.and_eq_true, decide_eq_true_eq] at printable
  have yearIs : ((year.toNat : Nat) : Int) = year := Int.toNat_of_nonneg printable.1.1
  have monthLength : daysInMonth year month ≤ 31 := by
    unfold daysInMonth
    split
    · split <;> omega
    · split <;> omega
  have yearSmall : year.toNat < 10 ^ 4 := by omega
  have monthSmall : month < 10 ^ 2 := by omega
  have daySmall : day < 10 ^ 2 := by omega
  have hourSmall : hour < 10 ^ 2 := by omega
  have minuteSmall : minute < 10 ^ 2 := by omega
  have secondSmall : second < 10 ^ 2 := by omega
  have nanosecondSmall : nanosecond < 1000000000 := by omega
  have mark : 'T'.toNat < 128 := by decide
  obtain ⟨c, rest, zoneIs, notDigit, notPoint⟩ := zone_cons offset
  have readZone := zone?_zone printable.1.2 printable.2
  rw [ofText?, text, String.toList_ofList, chars, ofChars?]
  simp only [List.append_assoc, List.cons_append]
  rw [zoneIs] at readZone ⊢
  -- One step of the reader for each piece of the text, in the order in which the pieces stand.
  refine Option.bind_eq_some_iff.mpr ⟨_, Decimal.take?_padded yearSmall _, ?_⟩
  refine Option.bind_eq_some_iff.mpr ⟨_, after?_cons '-' _, ?_⟩
  refine Option.bind_eq_some_iff.mpr ⟨_, Decimal.take?_padded monthSmall _, ?_⟩
  refine Option.bind_eq_some_iff.mpr ⟨_, after?_cons '-' _, ?_⟩
  refine Option.bind_eq_some_iff.mpr ⟨_, Decimal.take?_padded daySmall _, ?_⟩
  refine Option.bind_eq_some_iff.mpr ⟨_, separator?_cons mark _, ?_⟩
  refine Option.bind_eq_some_iff.mpr ⟨_, Decimal.take?_padded hourSmall _, ?_⟩
  refine Option.bind_eq_some_iff.mpr ⟨_, after?_cons ':' _, ?_⟩
  refine Option.bind_eq_some_iff.mpr ⟨_, Decimal.take?_padded minuteSmall _, ?_⟩
  refine Option.bind_eq_some_iff.mpr ⟨_, after?_cons ':' _, ?_⟩
  refine Option.bind_eq_some_iff.mpr ⟨_, Decimal.take?_padded secondSmall _, ?_⟩
  refine Option.bind_eq_some_iff.mpr ⟨_, fraction?_fraction nanosecondSmall notDigit notPoint _, ?_⟩
  refine Option.bind_eq_some_iff.mpr ⟨_, readZone, ?_⟩
  simp only [List.isEmpty_nil, if_true, yearIs]
  rw [ofParts?, if_neg (by omega)]
  exact sameDisplay

end Timestamp

end Time

end SingleFlight
