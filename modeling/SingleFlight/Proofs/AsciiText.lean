import Mathlib.Algebra.Ring.Nat
import Mathlib.Data.List.TakeWhile
import Mathlib.Tactic.Common
import SingleFlight.Text.Ascii

/-!
Hexadecimal digits, and cutting a text at separators. Digits are read as the number that they were written for. Pieces
that hold no separator are what their joined text is cut into, and the pieces of a text are joined to that text again.
-/

namespace SingleFlight.Text

theorem of_ascii (holds : Char → Prop) (all : ∀ code : Fin 128, holds (Char.ofNat code)) {c : Char} (ascii : c.toNat < 128) :
    holds c := by
  rw [← Char.ofNat_toNat c]
  exact all ⟨c.toNat, ascii⟩

theorem isAlphanum_iff {c : Char} :
    c.isAlphanum = true ↔ ('A' ≤ c ∧ c ≤ 'Z') ∨ ('a' ≤ c ∧ c ≤ 'z') ∨ ('0' ≤ c ∧ c ≤ '9') := by
  unfold Char.isAlphanum Char.isAlpha Char.isUpper Char.isLower Char.isDigit
  simp only [Bool.or_eq_true, Bool.and_eq_true, decide_eq_true_eq, ge_iff_le, or_assoc]
  exact Iff.rfl

theorem toNat_of_isAlphanum {c : Char} (is : c.isAlphanum = true) : 48 ≤ c.toNat ∧ c.toNat < 128 := by
  have bounds {first last : Char} (inside : first ≤ c ∧ c ≤ last) : first.toNat ≤ c.toNat ∧ c.toNat ≤ last.toNat := inside
  rcases isAlphanum_iff.mp is with upper | lower | digit
  · exact ⟨Nat.le_trans (by decide) (bounds upper).1, Nat.lt_of_le_of_lt (bounds upper).2 (by decide)⟩
  · exact ⟨Nat.le_trans (by decide) (bounds lower).1, Nat.lt_of_le_of_lt (bounds lower).2 (by decide)⟩
  · exact ⟨Nat.le_trans (by decide) (bounds digit).1, Nat.lt_of_le_of_lt (bounds digit).2 (by decide)⟩

theorem toNat_lt_of_hexValue? {c : Char} (is : (hexValue? c).isSome = true) : c.toNat < 128 := by
  have below {last : Char} (small : last.toNat < 128) (least : c ≤ last) : c.toNat < 128 := Nat.lt_of_le_of_lt least small
  unfold hexValue? at is
  split at is
  next between => exact below (by decide) between.2
  split at is
  next between => exact below (by decide) between.2
  split at is
  next between => exact below (by decide) between.2
  next => cases is

theorem hexValue?_hexDigit (value : Nat) : hexValue? (hexDigit value) = some (value % 16) := by
  have all : ∀ d : Fin 16, hexValue? (Nat.digitChar d.val) = some d.val := by decide
  exact all ⟨value % 16, Nat.mod_lt _ (by decide)⟩

@[simp]
theorem length_hexPadded (width value : Nat) : (hexPadded width value).length = width := by
  induction width generalizing value with
  | zero => rfl
  | succ width ih => simp [hexPadded, ih]

theorem hexNumber?_concat (chars : List Char) (value : Nat) :
    hexNumber? (chars ++ [hexDigit value]) = (hexNumber? chars).map fun front => front * 16 + value % 16 := by
  have last (front : Nat) : [hexDigit value].foldlM (fun value c => (hexValue? c).map (value * 16 + ·)) front =
      some (front * 16 + value % 16) := by
    rw [List.foldlM_cons, hexValue?_hexDigit]
    rfl
  rw [hexNumber?, List.foldlM_append, Option.map_eq_bind]
  exact congrArg (Option.bind (hexNumber? chars)) (funext last)

theorem hexNumber?_hexPadded (width value : Nat) : hexNumber? (hexPadded width value) = some (value % 16 ^ width) := by
  induction width generalizing value with
  | zero => rw [Nat.pow_zero, Nat.mod_one]; rfl
  | succ width ih =>
    rw [hexPadded, hexNumber?_concat, ih, Option.map_some, Nat.pow_succ', Nat.mod_mul, Nat.add_comm, Nat.mul_comm]

theorem isSome_hexValue? {width value : Nat} {c : Char} (inside : c ∈ hexPadded width value) : (hexValue? c).isSome = true := by
  induction width generalizing value with
  | zero => cases inside
  | succ width ih =>
    rw [hexPadded, List.mem_append, List.mem_singleton] at inside
    obtain before | rfl := inside
    · exact ih before
    · rw [hexValue?_hexDigit]
      rfl

section Pieces

variable {α : Type}

theorem splitOnto_done (isSeparator : α → Bool) (piece : List α) (done : List (List α)) (chars : List α) :
    splitOnto isSeparator piece done chars = done.reverse ++ splitOnto isSeparator piece [] chars := by
  induction chars generalizing piece done with
  | nil => simp [splitOnto]
  | cons c rest ih =>
    unfold splitOnto
    split
    · rw [ih [] (piece.reverse :: done), ih [] [piece.reverse]]
      simp
    · exact ih (c :: piece) done

/-- A text is cut at a separator whatever else it is cut at. -/
theorem splitOnto_append (isSeparator : α → Bool) {c : α} (separates : isSeparator c = true)
    (piece first second : List α) :
    splitOnto isSeparator piece [] (first ++ c :: second) =
      splitOnto isSeparator piece [] first ++ split isSeparator second := by
  induction first generalizing piece with
  | nil =>
    have cut : splitOnto isSeparator piece [] (c :: second) = splitOnto isSeparator [] [piece.reverse] second := by
      rw [splitOnto, if_pos separates]
    rw [List.nil_append, cut, splitOnto_done]
    rfl
  | cons d rest ih =>
    rw [List.cons_append, splitOnto, splitOnto]
    split
    · rw [splitOnto_done, ih, splitOnto_done isSeparator [] [piece.reverse] rest, List.append_assoc]
    · exact ih (d :: piece)

theorem split_append (isSeparator : α → Bool) {c : α} (separates : isSeparator c = true) (first second : List α) :
    split isSeparator (first ++ c :: second) = split isSeparator first ++ split isSeparator second :=
  splitOnto_append isSeparator separates [] first second

theorem splitOnto_single (isSeparator : α → Bool) (piece chars : List α)
    (none : chars.all (fun c => !isSeparator c) = true) :
    splitOnto isSeparator piece [] chars = [piece.reverse ++ chars] := by
  induction chars generalizing piece with
  | nil => simp [splitOnto]
  | cons c rest ih =>
    rw [List.all_cons, Bool.and_eq_true, Bool.not_eq_true'] at none
    rw [splitOnto, if_neg (by simp [none.1]), ih (c :: piece) none.2]
    simp

/-- No piece of a text holds a separator. -/
theorem separators_splitOnto (isSeparator : α → Bool) {held chars : List α}
    (clean : ∀ c ∈ held, isSeparator c = false)
    {piece : List α} (found : piece ∈ splitOnto isSeparator held [] chars) :
    ∀ c ∈ piece, isSeparator c = false := by
  induction chars generalizing held with
  | nil =>
    have same : piece = held.reverse := by simpa [splitOnto] using found
    intro c inPiece
    rw [same, List.mem_reverse] at inPiece
    exact clean c inPiece
  | cons c rest ih =>
    rw [splitOnto] at found
    split at found
    next =>
      rw [splitOnto_done] at found
      rcases List.mem_append.mp found with first | later
      · rw [List.reverse_singleton, List.mem_singleton] at first
        intro d inPiece
        rw [first, List.mem_reverse] at inPiece
        exact clean d inPiece
      · exact ih (fun _ never => absurd never List.not_mem_nil) later
    next other =>
      refine ih ?_ found
      intro d inHeld
      rcases List.mem_cons.mp inHeld with same | before
      · rw [same]
        simpa using other
      · exact clean d before

/-- The first piece of a text starts as the text does, unless that is with a separator. -/
theorem splitOnto_head (isSeparator : α → Bool) (held chars : List α) :
    ∃ first more, splitOnto isSeparator held [] chars = (held.reverse ++ first) :: more := by
  induction chars generalizing held with
  | nil => exact ⟨[], [], by simp [splitOnto]⟩
  | cons c rest ih =>
    rw [splitOnto]
    split
    next =>
      rw [splitOnto_done]
      exact ⟨[], splitOnto isSeparator [] [] rest, by simp⟩
    next =>
      obtain ⟨first, more, shape⟩ := ih (c :: held)
      exact ⟨c :: first, more, by rw [shape]; simp⟩

/-- Pieces with a separator between them. -/
def joined (separator : α) (pieces : List (List α)) : List α := (pieces.intersperse [separator]).flatten

theorem joined_cons (separator : α) (first second : List α) (rest : List (List α)) :
    joined separator (first :: second :: rest) = first ++ separator :: joined separator (second :: rest) := by
  simp [joined]

theorem joined_single (separator : α) (piece : List α) : joined separator [piece] = piece := by simp [joined]

theorem mem_joined {separator c : α} {pieces : List (List α)} (found : c ∈ joined separator pieces) :
    c = separator ∨ ∃ piece ∈ pieces, c ∈ piece := by
  induction pieces with
  | nil => cases found
  | cons first rest ih =>
    cases rest with
    | nil =>
      rw [joined_single] at found
      exact .inr ⟨first, List.mem_cons_self, found⟩
    | cons second rest =>
      rw [joined_cons, List.mem_append, List.mem_cons] at found
      obtain inFirst | same | later := found
      · exact .inr ⟨first, List.mem_cons_self, inFirst⟩
      · exact .inl same
      · obtain separates | ⟨piece, among, inPiece⟩ := ih later
        · exact .inl separates
        · exact .inr ⟨piece, List.mem_cons_of_mem _ among, inPiece⟩

theorem mem_joined_of_mem (separator : α) {c : α} {piece : List α} {pieces : List (List α)} (among : piece ∈ pieces)
    (inPiece : c ∈ piece) : c ∈ joined separator pieces := by
  induction pieces with
  | nil => cases among
  | cons first rest ih =>
    cases rest with
    | nil =>
      rw [List.mem_singleton.mp among] at inPiece
      rw [joined_single]
      exact inPiece
    | cons second rest =>
      rw [joined_cons, List.mem_append, List.mem_cons]
      rcases List.mem_cons.mp among with rfl | later
      · exact .inl inPiece
      · exact .inr (.inr (ih later))

theorem split_of_clean (isSeparator : α → Bool) {chars : List α} (clean : ∀ c ∈ chars, isSeparator c = false) :
    split isSeparator chars = [chars] := by
  refine splitOnto_single isSeparator [] chars (List.all_eq_true.mpr fun c inside => ?_)
  rw [clean c inside]
  rfl

/-- Pieces without a separator are what they are cut into once they are joined. -/
theorem split_joined (isSeparator : α → Bool) {separator : α} (separates : isSeparator separator = true)
    {pieces : List (List α)} (filled : pieces ≠ []) (clean : ∀ piece ∈ pieces, ∀ c ∈ piece, isSeparator c = false) :
    split isSeparator (joined separator pieces) = pieces := by
  induction pieces with
  | nil => exact absurd rfl filled
  | cons first rest ih =>
    have single := split_of_clean isSeparator (clean first List.mem_cons_self)
    cases rest with
    | nil => rw [joined_single, single]
    | cons second rest =>
      have later := ih (List.cons_ne_nil _ _) fun piece among => clean piece (List.mem_cons_of_mem _ among)
      rw [joined_cons, split_append isSeparator separates, single, later]
      rfl

/-- The pieces of a text are joined to that text again. -/
theorem joined_splitOnto [DecidableEq α] (separator : α) (held chars : List α) :
    joined separator (splitOnto (· = separator) held [] chars) = held.reverse ++ chars := by
  induction chars generalizing held with
  | nil => simp [splitOnto, joined]
  | cons c rest ih =>
    rw [splitOnto]
    split
    next separates =>
      have same : c = separator := of_decide_eq_true separates
      obtain ⟨first, more, shape⟩ := splitOnto_head (· = separator) [] rest
      have later := ih []
      rw [splitOnto_done, List.reverse_singleton, List.singleton_append]
      rw [shape] at later ⊢
      rw [joined_cons, later, same]
      rfl
    next =>
      rw [ih (c :: held)]
      simp

theorem joined_split [DecidableEq α] (separator : α) (chars : List α) :
    joined separator (split (· = separator) chars) = chars :=
  joined_splitOnto separator [] chars

end Pieces

variable {kind : Char → Bool} {c : Char} {before chars : List Char}

/-- A mark does not stand in a text if what holds of the text does not hold of the mark. -/
theorem clean_of {holds : Char → Prop} (all : ∀ c ∈ chars, holds c) {mark : Char} (other : ¬holds mark) :
    ∀ c ∈ chars, decide (c = mark) = false := by
  intro c inside
  rw [decide_eq_false_iff_not]
  rintro rfl
  exact other (all c inside)

/-- A text is cut at the first character of a kind. -/
theorem cutAt_append (is : kind c = true) (clean : ∀ d ∈ before, kind d = false) (after : List Char) :
    cutAt kind (before ++ c :: after) = (before, some after) := by
  have passed : ∀ d ∈ before, (fun d => !kind d) d = true := fun d inside => by simp [clean d inside]
  rw [cutAt, List.dropWhile_append_of_pos passed, List.takeWhile_append_of_pos passed]
  simp [is]

theorem cutAt_of_clean (clean : ∀ d ∈ chars, kind d = false) : cutAt kind chars = (chars, none) := by
  have passed : ∀ d ∈ chars, (fun d => !kind d) d = true := fun d inside => by simp [clean d inside]
  have dropped : chars.dropWhile (fun d => !kind d) = [] := List.dropWhile_eq_nil_iff.mpr passed
  rw [cutAt, dropped, List.takeWhile_eq_self_iff.mpr passed]

end SingleFlight.Text
