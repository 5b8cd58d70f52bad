import Mathlib.Data.List.Forall2
import SingleFlight.Proofs.AsciiText
import SingleFlight.Proofs.PercentText
import SingleFlight.Web.Domain

/-!
Domain names in ASCII. The form of a name in ASCII holds none but the characters that a host may hold, and such a
name has no other form than itself.
-/

namespace SingleFlight.Web

open Text

theorem bind_some {α β : Type} {first : Option α} {next : α → Option β} {b : β} (found : (first >>= next) = some b) :
    ∃ a, first = some a ∧ next a = some b := Option.bind_eq_some_iff.mp found

/-- All members of a list are read if each of them is. -/
theorem mapM_eq_some_iff {α β : Type} {f : α → Option β} {given : List α} {read : List β} :
    given.mapM f = some read ↔ List.Forall₂ (fun a b => f a = some b) given read := by
  induction given generalizing read with
  | nil =>
    rw [List.mapM_nil, List.forall₂_nil_left_iff]
    exact ⟨fun same => (Option.some.inj same).symm, fun same => by rw [same]; rfl⟩
  | cons a rest ih =>
    rw [List.mapM_cons, List.forall₂_cons_left_iff]
    constructor
    · intro found
      obtain ⟨b, first, found⟩ := bind_some found
      obtain ⟨others, later, same⟩ := bind_some found
      cases same
      exact ⟨b, others, first, ih.mp later, rfl⟩
    · intro found
      obtain ⟨b, others, first, later, rfl⟩ := found
      rw [first, ih.mpr later]
      rfl

theorem mem_of_mapM {α β : Type} {f : α → Option β} {given : List α} {read : List β} (found : given.mapM f = some read)
    {b : β} (among : b ∈ read) : ∃ a ∈ given, f a = some b := by
  have each := mapM_eq_some_iff.mp found
  clear found
  induction each with
  | nil => cases among
  | cons first later ih =>
    rcases List.mem_cons.mp among with rfl | among
    · exact ⟨_, List.mem_cons_self, first⟩
    · obtain ⟨a, isGiven, read⟩ := ih among
      exact ⟨a, List.mem_cons_of_mem _ isGiven, read⟩

theorem map_of_mapM {α β : Type} {f : α → Option β} {g : β → α} {given : List α} {read : List β}
    (back : ∀ a ∈ given, ∀ b, f a = some b → g b = a) (found : given.mapM f = some read) : read.map g = given := by
  have each := mapM_eq_some_iff.mp found
  clear found
  induction each with
  | nil => rfl
  | cons first later ih =>
    rw [List.map_cons, back _ List.mem_cons_self _ first, ih fun a isGiven => back a (List.mem_cons_of_mem _ isGiven)]

namespace Punycode

/-- A character that a number is written with. -/
def IsDigit (c : Char) : Prop := ∃ value, value < 36 ∧ c = digit value

theorem numberDigits_isDigit (bias place value : Nat) : ∀ c ∈ numberDigits bias place value, IsDigit c := by
  have low := threshold_pos place bias
  have high := threshold_le place bias
  intro c inside
  rw [numberDigits] at inside
  split at inside
  next small =>
    rw [List.mem_singleton] at inside
    exact ⟨value, by omega, inside⟩
  next large =>
    rcases List.mem_cons.mp inside with same | later
    · have rest : (value - threshold place bias) % (base - threshold place bias) < base - threshold place bias :=
        Nat.mod_lt _ (by rw [base]; omega)
      exact ⟨_, by rw [base] at rest ⊢; omega, same⟩
    · exact numberDigits_isDigit bias (place + base) _ c later
termination_by value
decreasing_by exact Nat.lt_of_le_of_lt (Nat.div_le_self _ _) (by omega)

/-- Whether nothing but digits has been written. -/
def Writer.WritesDigits (writer : Writer) : Prop := ∀ c ∈ writer.written, IsDigit c

theorem Writer.WritesDigits.pass {writer : Writer} (digits : writer.WritesDigits) (basic code : Nat) (c : Char) :
    (writer.pass basic code c).WritesDigits := by
  unfold Writer.pass
  split
  next => exact digits
  split
  next =>
    intro d inside
    rcases List.mem_append.mp inside with fresh | before
    · exact numberDigits_isDigit writer.bias base writer.step d (List.mem_reverse.mp fresh)
    · exact digits d before
  next => exact digits

theorem Writer.WritesDigits.passAll {writer : Writer} (digits : writer.WritesDigits) (basic code : Nat) (label : List Char) :
    (label.foldl (Writer.pass basic code) writer).WritesDigits := by
  induction label generalizing writer with
  | nil => exact digits
  | cons c rest ih => exact ih (digits.pass basic code c)

theorem Writer.WritesDigits.move {writer : Writer} (digits : writer.WritesDigits) (step : Nat) :
    ({ writer with step := step } : Writer).WritesDigits := digits

theorem Writer.WritesDigits.place {writer : Writer} (digits : writer.WritesDigits) (label : List Char) (basic before : Nat)
    (codes : List Nat) : (Writer.place label basic before writer codes).WritesDigits := by
  induction codes generalizing writer before with
  | nil => exact digits
  | cons code rest ih =>
    have moved := digits.move (writer.step + (code - before) * (writer.placed + 1))
    exact ih ((moved.passAll basic code label).move _) (code + 1)

theorem encode_chars (label : List Char) :
    ∀ c ∈ encode label, c ∈ label ∧ c.toNat < 128 ∨ c = '-' ∨ IsDigit c := by
  intro c inside
  rcases List.mem_append.mp inside with basic | coded
  · split at basic
    next => cases basic
    next =>
      rcases List.mem_append.mp basic with kept | hyphen
      · obtain ⟨inLabel, small⟩ := List.mem_filter.mp kept
        exact .inl ⟨inLabel, of_decide_eq_true small⟩
      · exact .inr (.inl (List.mem_singleton.mp hyphen))
  · have none : (⟨0, firstBias, (label.filter fun c => c.toNat < firstCode).length, []⟩ : Writer).WritesDigits :=
      fun _ never => absurd never List.not_mem_nil
    exact .inr (.inr (none.place label _ firstCode (codesBeyondAscii label) c (List.mem_reverse.mp coded)))

end Punycode

namespace Domain

open Unicode

/-- A character that the name of a host is written with. -/
def isHostChar (c : Char) : Bool := isAscii c && !isForbidden c

variable {name label ascii : List Char}

theorem isHostChar_iff {c : Char} : isHostChar c = true ↔ c.toNat < 128 ∧ isForbidden c = false := by
  simp [isHostChar, isAscii]

theorem isHostChar_of_isDigit {c : Char} (isDigit : Punycode.IsDigit c) : isHostChar c = true := by
  obtain ⟨value, small, rfl⟩ := isDigit
  have all : ∀ value : Fin 36, isHostChar (Punycode.digit value.val) = true := by decide
  exact all ⟨value, small⟩

/-- The form of a label in ASCII is that label itself, unless it is not in ASCII. -/
theorem label?_ascii {read : Label} (found : label? label = some read) :
    if label.all isAscii then read.ascii = label else read.ascii = codedStart ++ Punycode.encode label := by
  unfold label? at found
  dsimp only at found
  split at found
  next coded =>
    obtain ⟨taken, spelled, kept⟩ := bind_some found
    obtain ⟨shown, decoded, rfl⟩ := Option.map_eq_some_iff.mp spelled
    cases (Option.ite_none_right_eq_some.mp kept).2
    have asciiRest : (label.drop codedStart.length).all isAscii = true := by
      unfold decodeLabel? at decoded
      have allowed := (Option.ite_none_left_eq_some.mp decoded).1
      simp only [Bool.or_eq_true, not_or, Bool.not_eq_true', Bool.not_eq_false] at allowed
      exact allowed.1.2
    have whole := List.prefix_iff_eq_append.mp (List.isPrefixOf_iff_prefix.mp coded)
    have asciiAll : label.all isAscii = true := by
      rw [← whole, List.all_append, asciiRest]
      rfl
    rw [if_pos asciiAll]
  split at found
  next plain =>
    cases (Option.ite_none_right_eq_some.mp found).2
    rw [if_pos plain]
  next notPlain =>
    split at found
    next => cases found
    next =>
      cases (Option.ite_none_right_eq_some.mp found).2
      rw [if_neg notPlain]

theorem label?_hostChars {read : Label} (found : label? label = some read)
    (allowed : ∀ c ∈ label, isForbidden c = false) : ∀ c ∈ read.ascii, isHostChar c = true := by
  intro c inside
  have form := label?_ascii found
  split at form
  next plain =>
    rw [form] at inside
    exact isHostChar_iff.mpr ⟨of_decide_eq_true (List.all_eq_true.mp plain c inside), allowed c inside⟩
  next =>
    rw [form] at inside
    rcases List.mem_append.mp inside with start | written
    · have all : codedStart.all isHostChar = true := by decide
      exact List.all_eq_true.mp all c start
    · obtain ⟨inLabel, small⟩ | rfl | isDigit := Punycode.encode_chars label c written
      · exact isHostChar_iff.mpr ⟨small, allowed c inLabel⟩
      · decide
      · exact isHostChar_of_isDigit isDigit

theorem mapped?_hostChar {c : Char} (is : isHostChar c = true) : mapped? c = some [c] := by
  have same : c.toNat < 128 → isForbidden c = false → c.toLower = c := by
    exact of_ascii (fun c => isForbidden c = false → c.toLower = c) (by decide +kernel)
  obtain ⟨small, allowed⟩ := isHostChar_iff.mp is
  rw [mapped?, if_pos small, same small allowed]

/-- What a name goes through on the way to its form in ASCII. -/
theorem toAscii?_some (found : toAscii? name = some ascii) : ∃ mapped labels,
    name.mapM mapped? = some mapped ∧ (∀ c ∈ Unicode.normalize mapped.flatten, isForbidden c = false) ∧
    (split (· = '.') (Unicode.normalize mapped.flatten)).mapM label? = some labels ∧ ascii = joined '.' (labels.map (·.ascii)) := by
  unfold toAscii? at found
  obtain ⟨mapped, read, found⟩ := bind_some found
  obtain ⟨allowed, found⟩ := Option.ite_none_left_eq_some.mp found
  obtain ⟨labels, spelled, found⟩ := bind_some found
  cases (Option.ite_none_right_eq_some.mp found).2
  refine ⟨mapped, labels, read, fun c inside => ?_, spelled, rfl⟩
  rw [Bool.not_eq_true, List.any_eq_false] at allowed
  exact Bool.eq_false_iff.mpr (allowed c inside)

/-- The form of a name in ASCII is written with the characters of host names. -/
theorem toAscii?_hostChars (found : toAscii? name = some ascii) : ∀ c ∈ ascii, isHostChar c = true := by
  obtain ⟨mapped, labels, _, allowed, spelled, rfl⟩ := toAscii?_some found
  intro c inside
  obtain rfl | ⟨piece, among, inPiece⟩ := mem_joined inside
  · decide
  · obtain ⟨label, isLabel, rfl⟩ := List.mem_map.mp among
    obtain ⟨source, fromSource, read⟩ := mem_of_mapM spelled isLabel
    refine label?_hostChars read (fun d inSource => allowed d ?_) c inPiece
    have inWhole := mem_joined_of_mem '.' fromSource inSource
    rwa [joined_split] at inWhole

/-- A name that is written with the characters of host names has no other form in ASCII than itself. -/
theorem toAscii?_of_hostChars (clean : ∀ c ∈ name, isHostChar c = true) (found : toAscii? name = some ascii) : ascii = name := by
  obtain ⟨mapped, labels, read, allowed, spelled, rfl⟩ := toAscii?_some found
  have whole : name.mapM mapped? = some (name.map fun c => [c]) := by
    rw [mapM_eq_some_iff, List.forall₂_map_right_iff, List.forall₂_same]
    exact fun c inside => mapped?_hostChar (clean c inside)
  rw [read] at whole
  cases whole
  -- Text in ASCII is its own normal form, so that no table is looked up.
  have normal : Unicode.normalize (name.map fun c => [c]).flatten = name := by
    have same : (name.map fun c => [c]).flatten = name := by
      rw [← List.flatMap_def, List.flatMap_singleton']
    rw [same, Unicode.normalize, if_pos]
    exact List.all_eq_true.mpr fun c inside => decide_eq_true (isHostChar_iff.mp (clean c inside)).1
  rw [normal] at spelled
  have same : labels.map (·.ascii) = split (· = '.') name := by
    refine map_of_mapM (fun label among read found => ?_) spelled
    have plain : label.all isAscii = true := by
      refine List.all_eq_true.mpr fun c inLabel => decide_eq_true ?_
      have inName := mem_joined_of_mem '.' among inLabel
      rw [joined_split] at inName
      exact (isHostChar_iff.mp (clean c inName)).1
    have form := label?_ascii found
    rwa [if_pos plain] at form
  rw [same, joined_split]

end Domain

end SingleFlight.Web
