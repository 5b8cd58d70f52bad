import Mathlib.Tactic.Common
import SingleFlight.Proofs.AsciiText
import SingleFlight.Proofs.Days
import SingleFlight.Run.Id

/-!
Minted run ids. Main statements: an id can be minted whenever the clock shows a time in UTC, and two ids can be
the same only if they were minted in the same second, whatever digits chance put at their ends.
-/

namespace SingleFlight

open Text Time

namespace Text

theorem Decimal.length_digits_le {width value : Nat} (positive : 0 < width) (small : value < 10 ^ width) :
    (Decimal.digits value).length ≤ width := by
  induction width generalizing value with
  | zero => omega
  | succ width ih =>
    by_cases single : value < 10
    · rw [Decimal.digits_of_lt single]
      simp
    · rw [Decimal.digits_of_ge single, List.length_append]
      have wide : 0 < width := by
        rcases width with _ | width
        · omega
        · exact Nat.succ_pos width
      have rest := ih wide (show value / 10 < 10 ^ width by rw [Nat.pow_succ] at small; omega)
      simp only [List.length_cons, List.length_nil]
      omega

theorem Decimal.length_atLeast {width value : Nat} (positive : 0 < width) (small : value < 10 ^ width) :
    (Decimal.atLeast width value).length = width := by
  have short := Decimal.length_digits_le positive small
  simp only [Decimal.atLeast, List.length_append, List.length_replicate]
  omega

/-- Digits take the places that are asked for, or more if the number needs them. -/
theorem Decimal.length_atLeast_le {width most value : Nat} (positive : 0 < most) (wide : width ≤ most)
    (small : value < 10 ^ most) : (Decimal.atLeast width value).length ≤ most := by
  have short := Decimal.length_digits_le positive small
  simp only [Decimal.atLeast, List.length_append, List.length_replicate]
  omega

/-- Zeros in front do not change what digits spell. -/
theorem Decimal.value_atLeast (width value : Nat) : Decimal.value (Decimal.atLeast width value) = value := by
  have zeros (count : Nat) (chars : List Char) :
      Decimal.value (List.replicate count '0' ++ chars) = Decimal.value chars := by
    induction count with
    | zero => rfl
    | succ count ih =>
      rw [← ih]
      simp [Decimal.value, List.replicate_succ, Decimal.digitValue]
  rw [Decimal.atLeast, zeros, Decimal.value_digits]

theorem Decimal.atLeast_injective {width first second : Nat}
    (same : Decimal.atLeast width first = Decimal.atLeast width second) : first = second := by
  rw [← Decimal.value_atLeast width first, same, Decimal.value_atLeast]

theorem Decimal.all_isDigit_atLeast (width value : Nat) : (Decimal.atLeast width value).all Decimal.isDigit = true := by
  rw [Decimal.atLeast, List.all_append, Decimal.all_isDigit_digits, Bool.and_true, List.all_eq_true]
  intro c member
  rw [List.eq_of_mem_replicate member]
  decide

end Text

theorem isRunIdChar_iff {c : Char} : isRunIdChar c = true ↔
    ('A' ≤ c ∧ c ≤ 'Z') ∨ ('a' ≤ c ∧ c ≤ 'z') ∨ ('0' ≤ c ∧ c ≤ '9') ∨ c = '-' := by
  rw [isRunIdChar, Bool.or_eq_true, decide_eq_true_eq, isAlphanum_iff, or_assoc, or_assoc]

namespace RunId

/-- The id of a run is written with characters of the ASCII range. -/
theorem ascii (runId : RunId) : ∀ c ∈ runId.text.toList, c.toNat < 128 := by
  have valid := runId.valid
  simp only [isRunId, Bool.and_eq_true] at valid
  intro c found
  have isChar := List.all_eq_true.mp valid.2 c found
  rw [isRunIdChar, Bool.or_eq_true, decide_eq_true_eq] at isChar
  rcases isChar with alphanum | rfl
  · exact (toNat_of_isAlphanum alphanum).2
  · decide

/-- A year is read off its digits: only those of a negative one start with a sign. -/
theorem yearChars_injective {first second : Int} (same : yearChars first = yearChars second) : first = second := by
  have unsigned (width value : Nat) (rest : List Char) (signed : Decimal.atLeast width value = '-' :: rest) : False := by
    have digits := Decimal.all_isDigit_atLeast width value
    rw [signed] at digits
    simp [Decimal.isDigit] at digits
  unfold yearChars at same
  split at same
  next firstNegative =>
    split at same
    next secondNegative =>
      have size := Decimal.atLeast_injective (List.cons_inj_right _ |>.mp same)
      omega
    next => exact (unsigned _ _ _ same.symm).elim
  next firstPositive =>
    split at same
    next => exact (unsigned _ _ _ same).elim
    next secondPositive =>
      have size := Decimal.atLeast_injective same
      omega

/-- A UTC form all of whose parts but the year have at most two digits. -/
structure Narrow (utc : UtcForm) : Prop where
  month : utc.date.month < 10 ^ 2
  day : utc.date.day < 10 ^ 2
  hour : utc.hour < 10 ^ 2
  minute : utc.minute < 10 ^ 2
  second : utc.second < 10 ^ 2

theorem narrow_utcForm (time : Timestamp) : Narrow time.utcForm := by
  obtain ⟨_, month, _, day⟩ := Date.ofDayNumber_bounds (time.seconds / 86400)
  constructor
  · exact Nat.lt_of_le_of_lt month (by decide)
  · exact Nat.lt_of_le_of_lt day (by decide)
  all_goals simp only [Timestamp.utcForm]; omega

theorem stampChars_injective {first second : UtcForm} (firstNarrow : Narrow first) (secondNarrow : Narrow second)
    (same : stampChars first = stampChars second) : first = second := by
  have two {value : Nat} (small : value < 10 ^ 2) : (Decimal.atLeast 2 value).length = 2 :=
    Decimal.length_atLeast (by decide) small
  obtain ⟨⟨firstYear, firstMonth, firstDay⟩, firstHour, firstMinute, firstSecond⟩ := first
  obtain ⟨⟨secondYear, secondMonth, secondDay⟩, secondHour, secondMinute, secondSecond⟩ := second
  obtain ⟨month, day, hour, minute, sec⟩ := firstNarrow
  obtain ⟨month', day', hour', minute', sec'⟩ := secondNarrow
  simp only [stampChars, List.append_assoc, List.cons_append] at same
  obtain ⟨years, same⟩ := List.append_inj' same (by simp [two month, two month', two day, two day', two hour, two hour',
    two minute, two minute', two sec, two sec'])
  obtain ⟨months, same⟩ := List.append_inj same ((two month).trans (two month').symm)
  obtain ⟨days, same⟩ := List.append_inj same ((two day).trans (two day').symm)
  obtain ⟨hours, same⟩ := List.append_inj (List.cons_inj_right _ |>.mp same) ((two hour).trans (two hour').symm)
  obtain ⟨minutes, same⟩ := List.append_inj same ((two minute).trans (two minute').symm)
  obtain ⟨seconds, _⟩ := List.append_inj same ((two sec).trans (two sec').symm)
  rw [yearChars_injective years, Decimal.atLeast_injective months, Decimal.atLeast_injective days,
    Decimal.atLeast_injective hours, Decimal.atLeast_injective minutes, Decimal.atLeast_injective seconds]

theorem utcForm_seconds {first second : Timestamp} (same : first.utcForm = second.utcForm) :
    first.seconds = second.seconds := by
  simp only [Timestamp.utcForm, UtcForm.mk.injEq] at same
  obtain ⟨dates, hours, minutes, seconds⟩ := same
  have days := Date.ofDayNumber_injective dates
  omega

theorem text_of_ofText? {text : String} {runId : RunId} (read : ofText? text = some runId) : runId.text = text := by
  unfold ofText? at read
  split at read
  · exact (congrArg RunId.text (Option.some.inj read)).symm
  · cases read

/-- The text of a minted id is the stamp of the time, followed by four digits. -/
theorem text_of_mint {now : Timestamp} {suffix : UInt16} {runId : RunId} (minted : mint? now suffix = some runId) :
    runId.text.toList = stampChars now.utcForm ++ '-' :: hexPadded 4 suffix.toNat := by
  obtain ⟨utc, formed, read⟩ := Option.bind_eq_some_iff.mp minted
  have formIs : utc = now.utcForm := by
    unfold Timestamp.utcForm? at formed
    split at formed
    · exact (Option.some.inj formed).symm
    · cases formed
  rw [text_of_ofText? read, formIs, mintedText, String.toList_ofList]

theorem seconds_of_mint {first second : Timestamp} {firstSuffix secondSuffix : UInt16} {runId : RunId}
    (firstMinted : mint? first firstSuffix = some runId) (secondMinted : mint? second secondSuffix = some runId) :
    first.seconds = second.seconds := by
  have same := (text_of_mint firstMinted).symm.trans (text_of_mint secondMinted)
  obtain ⟨stamps, _⟩ := List.append_inj' same (by simp)
  exact utcForm_seconds (stampChars_injective (narrow_utcForm first) (narrow_utcForm second) stamps)

theorem isRunIdChar_of_isDigit {c : Char} (digit : Decimal.isDigit c = true) : isRunIdChar c = true := by
  have within : '0' ≤ c ∧ c ≤ '9' := by simpa [Decimal.isDigit] using digit
  exact isRunIdChar_iff.mpr (.inr (.inr (.inl within)))

theorem isRunIdChar_of_hexValue? {c : Char} (is : (hexValue? c).isSome = true) : isRunIdChar c = true := by
  unfold hexValue? at is
  split at is
  next digit => exact isRunIdChar_of_isDigit (by simpa [Decimal.isDigit] using digit)
  split at is
  next low =>
    have upper : c ≤ 'z' := Char.le_trans low.2 (by decide)
    exact isRunIdChar_iff.mpr (.inr (.inl ⟨low.1, upper⟩))
  split at is
  next high =>
    have upper : c ≤ 'Z' := Char.le_trans high.2 (by decide)
    exact isRunIdChar_iff.mpr (.inl ⟨high.1, upper⟩)
  next => cases is

theorem all_isRunIdChar_atLeast (width value : Nat) : ∀ c ∈ Decimal.atLeast width value, isRunIdChar c = true := by
  intro c inside
  exact isRunIdChar_of_isDigit (List.all_eq_true.mp (Decimal.all_isDigit_atLeast width value) c inside)

/-- The text of a year of at most four digits is short, and may stand in an id. -/
theorem yearChars_fits {year : Int} (inYears : -9999 ≤ year ∧ year ≤ 9999) :
    (yearChars year).length ≤ 5 ∧ ∀ c ∈ yearChars year, isRunIdChar c = true := by
  unfold yearChars
  split
  next negative =>
    have short : (Decimal.atLeast 3 year.natAbs).length ≤ 4 := Decimal.length_atLeast_le (by decide) (by decide) (by omega)
    refine ⟨by rw [List.length_cons]; omega, ?_⟩
    intro c inside
    rcases List.mem_cons.mp inside with rfl | digit
    · rfl
    · exact all_isRunIdChar_atLeast _ _ c digit
  next positive =>
    have short : (Decimal.atLeast 4 year.natAbs).length ≤ 4 := Decimal.length_atLeast_le (by decide) (by decide) (by omega)
    exact ⟨by omega, all_isRunIdChar_atLeast _ _⟩

/-- The text of an id is one that an id may have, if the year has at most four digits. -/
theorem isRunId_mintedText {utc : UtcForm} (narrow : Narrow utc) (inYears : -9999 ≤ utc.date.year ∧ utc.date.year ≤ 9999)
    (suffix : UInt16) : isRunId (mintedText utc suffix) = true := by
  have two {value : Nat} (small : value < 10 ^ 2) : (Decimal.atLeast 2 value).length = 2 :=
    Decimal.length_atLeast (by decide) small
  obtain ⟨short, yearChar⟩ := yearChars_fits inYears
  have length : (stampChars utc ++ '-' :: hexPadded 4 suffix.toNat).length = (yearChars utc.date.year).length + 17 := by
    simp [stampChars, length_hexPadded, two narrow.month, two narrow.day, two narrow.hour, two narrow.minute, two narrow.second]
  have hex : ∀ c ∈ hexPadded 4 suffix.toNat, isRunIdChar c = true := fun _ inside =>
    isRunIdChar_of_hexValue? (isSome_hexValue? inside)
  have chars : ∀ c ∈ stampChars utc ++ '-' :: hexPadded 4 suffix.toNat, isRunIdChar c = true := by
    have digits := all_isRunIdChar_atLeast 2
    simp only [stampChars, List.forall_mem_append, List.forall_mem_cons]
    exact ⟨⟨⟨⟨⟨⟨⟨yearChar, digits _⟩, digits _⟩, rfl, digits _⟩, digits _⟩, digits _⟩, rfl, nofun⟩, rfl, hex⟩
  rw [isRunId, mintedText, String.toList_ofList, List.all_eq_true.mpr chars, Bool.and_true, Bool.and_eq_true]
  refine ⟨?_, by rw [length]; simp; omega⟩
  rw [Bool.not_eq_true', List.isEmpty_eq_false_iff, ← List.length_pos_iff, length]
  omega

/-- An id can be minted whenever the time has a UTC form. -/
theorem isSome_mint? (now : Timestamp) (suffix : UInt16) : (mint? now suffix).isSome = now.utcForm?.isSome := by
  unfold mint? Timestamp.utcForm?
  split
  next inYears =>
    have valid := isRunId_mintedText (narrow_utcForm now) inYears suffix
    simp [ofText?, valid]
  next => rfl

end RunId

/-- A time that was taken down in UTC has a UTC form. -/
theorem Time.Timestamp.isSome_utcForm? {time : Timestamp} (utc : time.display.offset = 0) : time.utcForm?.isSome = true := by
  have valid := time.valid
  simp only [Display.isValid, Date.isValid, Bool.and_eq_true, decide_eq_true_eq] at valid
  have months := Date.daysInMonth_le time.display.date.year time.display.date.month
  have days : time.seconds / 86400 = time.display.date.dayNumber := by
    unfold Timestamp.seconds
    omega
  have year : time.utcForm.date.year = time.display.date.year := by
    rw [Timestamp.utcForm, days]
    exact Date.year_ofDayNumber (by omega) (by omega)
  unfold Timestamp.utcForm?
  rw [year, if_pos (by omega)]
  rfl

end SingleFlight

