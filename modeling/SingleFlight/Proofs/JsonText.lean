import Mathlib.Data.List.TakeWhile
import Mathlib.Tactic.Common
import SingleFlight.Json.Printer
import SingleFlight.Json.Reader
import SingleFlight.Proofs.Minting
import SingleFlight.Proofs.Utf8Text

/-!
A JSON value that is written is read as that value, in either layout. The scanner is followed through the
text and the reader through the tokens; in between stands the list of the tokens that a value is made of.
-/

namespace SingleFlight.Json

open Text

/-- The scanner after a text without malformed bytes. -/
def scan (scanner : Scanner) (chars : List Char) : Option Scanner := (chars.map some).foldlM Scanner.step? scanner

@[simp]
theorem scan_nil (scanner : Scanner) : scan scanner [] = some scanner := rfl

theorem scan_cons (scanner : Scanner) (c : Char) (rest : List Char) :
    scan scanner (c :: rest) = (scanner.step? (some c)).bind fun after => scan after rest := rfl

theorem scan_append (scanner : Scanner) (first second : List Char) :
    scan scanner (first ++ second) = (scan scanner first).bind fun after => scan after second := by
  simp only [scan, List.map_append, List.foldlM_append]
  rfl

theorem Scanner.step?_outside (tokens : List Token) (c : Char) :
    Scanner.step? ⟨tokens, .outside⟩ (some c) = Scanner.outside? tokens c := rfl

theorem Scanner.step?_word (tokens : List Token) (chars : List Char) {c : Char} (word : isWordChar c = true) :
    Scanner.step? ⟨tokens, .word chars⟩ (some c) = some ⟨tokens, .word (c :: chars)⟩ := by
  simp [Scanner.step?, word]

/-- Whether all that a scanner still has to do is to note tokens that are known already. -/
structure Scanner.Settles (scanner : Scanner) (tokens : List Token) : Prop where
  step : ∀ c, isWordChar c = false → scanner.step? (some c) = Scanner.outside? tokens c
  finish : scanner.finish? = some tokens.reverse

theorem Scanner.settles_outside (tokens : List Token) : Scanner.Settles ⟨tokens, .outside⟩ tokens := ⟨fun _ _ => rfl, rfl⟩

theorem Scanner.settles_word {tokens : List Token} {chars : List Char} {value : Json}
    (spelled : literal? chars.reverse = some value) : Scanner.Settles ⟨tokens, .word chars⟩ (.value value :: tokens) where
  step c other := by simp [Scanner.step?, other, spelled]
  finish := by simp [Scanner.finish?, spelled]

/-- Blanks change nothing but that a word is over. -/
theorem Scanner.Settles.space {scanner : Scanner} {tokens : List Token} (settles : scanner.Settles tokens) {c : Char}
    (space : isSpace c = true) (other : isWordChar c = false) : scanner.step? (some c) = some ⟨tokens, .outside⟩ := by
  rw [settles.step c other, Scanner.outside?, if_pos space]

theorem scan_spaces (tokens : List Token) (count : Nat) :
    scan ⟨tokens, .outside⟩ (List.replicate count ' ') = some ⟨tokens, .outside⟩ := by
  induction count with
  | zero => rfl
  | succ count ih =>
    rw [List.replicate_succ, scan_cons, (Scanner.settles_outside tokens).space rfl (by decide)]
    exact ih

/-- Whatever gap a layout leaves, what stands behind it is what counts. -/
theorem Scanner.Settles.gap {scanner : Scanner} {tokens : List Token} (settles : scanner.Settles tokens) (layout : Layout)
    (depth : Nat) {c : Char} (other : isWordChar c = false) (rest : List Char) :
    scan scanner (layout.gap depth ++ c :: rest) =
      (Scanner.outside? tokens c).bind fun after => scan after rest := by
  cases layout with
  | compact => rw [Layout.gap, List.nil_append, scan_cons, settles.step c other]
  | indented =>
    rw [Layout.gap, List.cons_append, scan_cons, settles.space rfl (by decide), Option.bind_some, scan_append,
      scan_spaces, Option.bind_some, scan_cons, (Scanner.settles_outside tokens).step c other]

theorem scan_gap (tokens : List Token) (layout : Layout) (depth : Nat) :
    scan ⟨tokens, .outside⟩ (layout.gap depth) = some ⟨tokens, .outside⟩ := by
  cases layout with
  | compact => rfl
  | indented =>
    rw [Layout.gap, scan_cons, (Scanner.settles_outside tokens).space rfl (by decide), Option.bind_some, scan_spaces]

section Words

theorem not_special_of_isWordChar {c : Char} (word : isWordChar c = true) :
    isSpace c = false ∧ c ≠ '[' ∧ c ≠ ']' ∧ c ≠ '\x7b' ∧ c ≠ '\x7d' ∧ c ≠ ',' ∧ c ≠ ':' ∧ c ≠ '"' := by
  refine ⟨?_, ?_, ?_, ?_, ?_, ?_, ?_, ?_⟩
  · rw [Bool.eq_false_iff]
    intro space
    simp only [isSpace, Bool.or_eq_true, decide_eq_true_eq] at space
    rcases space with ((rfl | rfl) | rfl) | rfl <;> revert word <;> decide
  all_goals
    intro same
    subst same
    revert word
    decide

theorem outside?_of_isWordChar (tokens : List Token) {c : Char} (word : isWordChar c = true) :
    Scanner.outside? tokens c = some ⟨tokens, .word [c]⟩ := by
  obtain ⟨notSpace, a, b, d, e, f, g, h⟩ := not_special_of_isWordChar word
  simp [Scanner.outside?, notSpace, a, b, d, e, f, g, h, word]

theorem scan_wordChars (tokens : List Token) (done chars : List Char) (words : chars.all isWordChar = true) :
    scan ⟨tokens, .word done⟩ chars = some ⟨tokens, .word (chars.reverse ++ done)⟩ := by
  induction chars generalizing done with
  | nil => rfl
  | cons c rest ih =>
    rw [List.all_cons, Bool.and_eq_true] at words
    rw [scan_cons, Scanner.step?_word tokens done words.1, Option.bind_some]
    rw [ih (c :: done) words.2, List.reverse_cons, List.append_assoc]
    rfl

/-- A word that spells a value is scanned as that value. -/
theorem scan_literal (tokens : List Token) {chars : List Char} {value : Json} (nonempty : chars ≠ [])
    (words : chars.all isWordChar = true) (spelled : literal? chars = some value) :
    ∃ scanner, scan ⟨tokens, .outside⟩ chars = some scanner ∧ scanner.Settles (.value value :: tokens) := by
  cases chars with
  | nil => exact absurd rfl nonempty
  | cons c rest =>
    rw [List.all_cons, Bool.and_eq_true] at words
    refine ⟨⟨tokens, .word (rest.reverse ++ [c])⟩, ?_, ?_⟩
    · rw [scan_cons, Scanner.step?_outside, outside?_of_isWordChar tokens words.1, Option.bind_some,
        scan_wordChars tokens [c] rest words.2]
    · apply Scanner.settles_word
      rw [List.reverse_append, List.reverse_reverse]
      exact spelled

theorem isWordChar_of_isDigit {c : Char} (digit : Decimal.isDigit c = true) : isWordChar c = true := by
  have alnum : c.isAlphanum = true := by
    simp only [Decimal.isDigit, Bool.and_eq_true, decide_eq_true_eq] at digit
    simp only [Char.isAlphanum, Char.isDigit, Bool.or_eq_true, Bool.and_eq_true, decide_eq_true_eq]
    exact .inr digit
  simp [isWordChar, alnum]

theorem all_isWordChar_integer (value : Int) : (Decimal.integer value).all isWordChar = true := by
  have digits : (Decimal.digits value.natAbs).all isWordChar = true := by
    rw [List.all_eq_true]
    intro c found
    exact isWordChar_of_isDigit (List.all_eq_true.mp (Decimal.all_isDigit_digits _) c found)
  unfold Decimal.integer
  split
  · rw [List.all_cons, digits]
    rfl
  · exact digits

theorem takeWhile_digits (n : Nat) : (Decimal.digits n).takeWhile Decimal.isDigit = Decimal.digits n := by
  rw [List.takeWhile_eq_self_iff]
  exact List.all_eq_true.mp (Decimal.all_isDigit_digits n)

theorem dropWhile_digits (n : Nat) : (Decimal.digits n).dropWhile Decimal.isDigit = [] := by
  rw [List.dropWhile_eq_nil_iff]
  exact List.all_eq_true.mp (Decimal.all_isDigit_digits n)

/-- Only zero is written with a zero in front. -/
theorem head?_digits {n : Nat} (positive : 0 < n) : (Decimal.digits n).head? ≠ some '0' := by
  induction n using Nat.strongRecOn with
  | _ n ih =>
    by_cases small : n < 10
    · rw [Decimal.digits_of_lt small, List.head?_cons]
      have all : ∀ d : Fin 10, 0 < d.val → some (Decimal.digit d.val) ≠ some '0' := by decide
      exact all ⟨n, small⟩ positive
    · rw [Decimal.digits_of_ge small, List.head?_append]
      have earlier := ih (n / 10) (by omega) (by omega)
      cases head : (Decimal.digits (n / 10)).head? with
      | none => exact absurd (List.head?_eq_none_iff.mp head) (Decimal.digits_ne_nil _)
      | some c =>
        rw [head] at earlier
        exact earlier

theorem unsigned?_digits (negative : Bool) (n : Nat) (nonzero : negative = true → 0 < n) :
    unsigned? negative (Decimal.digits n) = some (.number (if negative then -(n : Int) else n)) := by
  have notEmpty : (Decimal.digits n).isEmpty = false := by
    rw [List.isEmpty_eq_false_iff]
    exact Decimal.digits_ne_nil n
  have noZeroInFront : ¬((Decimal.digits n).head? = some '0' ∧ (Decimal.digits n).length ≠ 1) := by
    intro given
    obtain ⟨zero, long⟩ := given
    rcases Nat.eq_zero_or_pos n with rfl | positive
    · exact long (by rw [Decimal.digits_of_lt (by decide)]; rfl)
    · exact head?_digits positive zero
  have notZero : negative = true → Decimal.digits n ≠ ['0'] := by
    intro signed zero
    exact head?_digits (nonzero signed) (by rw [zero]; rfl)
  simp only [unsigned?, takeWhile_digits, dropWhile_digits, notEmpty, Decimal.value_digits]
  rw [if_neg (by simpa using noZeroInFront)]
  cases negative with
  | false => rfl
  | true => simp [notZero]

theorem literal?_integer (value : Int) : literal? (Decimal.integer value) = some (.number value) := by
  have digitFirst (n : Nat) : ∃ c rest, Decimal.digits n = c :: rest ∧ Decimal.isDigit c = true := by
    cases shape : Decimal.digits n with
    | nil => exact absurd shape (Decimal.digits_ne_nil n)
    | cons c rest =>
      refine ⟨c, rest, rfl, ?_⟩
      have all := Decimal.all_isDigit_digits n
      rw [shape, List.all_cons, Bool.and_eq_true] at all
      exact all.1
  unfold Decimal.integer
  split
  next negative =>
    have read := unsigned?_digits true value.natAbs (fun _ => by omega)
    rw [literal?, if_neg (by simp), if_neg (by simp), if_neg (by simp)]
    rw [if_pos rfl, show -(value.natAbs : Int) = value by omega] at read
    exact read
  next notNegative =>
    have read := unsigned?_digits false value.natAbs (fun signed => nomatch signed)
    rw [if_neg (by decide), show ((value.natAbs : Nat) : Int) = value by omega] at read
    obtain ⟨c, rest, shape, digit⟩ := digitFirst value.natAbs
    rw [shape] at read ⊢
    have notLetter (other : Char) (letter : Decimal.isDigit other = false) : c ≠ other := by
      intro same
      subst same
      rw [digit] at letter
      cases letter
    have a := notLetter 'n' (by decide)
    have b := notLetter 't' (by decide)
    have d := notLetter 'f' (by decide)
    have e := notLetter '-' (by decide)
    rw [literal?, if_neg (by simp [a]), if_neg (by simp [b]), if_neg (by simp [d])]
    · exact read
    · intro rest same
      cases same
      exact e rfl

end Words

section Quotes

/-- What a character between quotation marks is scanned as. -/
def pieceOf (c : Char) : Piece :=
  if c.toNat < 32 ∧ c ≠ '\n' ∧ c ≠ '\r' ∧ c ≠ '\t' ∧ c.toNat ≠ 8 ∧ c.toNat ≠ 12 then .unit c.toNat else .char c

theorem scan_unitDigit (tokens : List Token) (pieces : List Piece) (missing value digit : Nat) (rest : List Char) :
    scan ⟨tokens, .unit pieces (missing + 2) value⟩ (hexDigit digit :: rest) =
      scan ⟨tokens, .unit pieces (missing + 1) (value * 16 + digit % 16)⟩ rest := by
  rw [scan_cons]
  simp [Scanner.step?, hexValue?_hexDigit]

theorem scan_lastUnitDigit (tokens : List Token) (pieces : List Piece) (value digit : Nat) (rest : List Char) :
    scan ⟨tokens, .unit pieces 1 value⟩ (hexDigit digit :: rest) =
      scan ⟨tokens, .quoted (.unit (value * 16 + digit % 16) :: pieces)⟩ rest := by
  rw [scan_cons]
  simp [Scanner.step?, hexValue?_hexDigit]

theorem scan_escapedUnit (tokens : List Token) (pieces : List Piece) {value : Nat} (small : value < 65536) :
    scan ⟨tokens, .quoted pieces⟩ (['\\', 'u'] ++ hexPadded 4 value) =
      some ⟨tokens, .quoted (.unit value :: pieces)⟩ := by
  have digits : hexPadded 4 value =
      [hexDigit (value / 16 / 16 / 16), hexDigit (value / 16 / 16), hexDigit (value / 16), hexDigit value] := rfl
  have opened (rest : List Char) : scan ⟨tokens, .quoted pieces⟩ ('\\' :: 'u' :: rest) =
      scan ⟨tokens, .unit pieces 4 0⟩ rest := rfl
  have spelled : (((0 * 16 + value / 16 / 16 / 16 % 16) * 16 + value / 16 / 16 % 16) * 16 + value / 16 % 16) * 16 +
      value % 16 = value := by omega
  rw [digits, List.cons_append, List.cons_append, List.nil_append, opened, scan_unitDigit, scan_unitDigit,
    scan_unitDigit, scan_lastUnitDigit, spelled]
  rfl

/-- A character is scanned as itself, however it is escaped. -/
theorem scan_escape (tokens : List Token) (pieces : List Piece) (c : Char) :
    scan ⟨tokens, .quoted pieces⟩ (escape c) = some ⟨tokens, .quoted (pieceOf c :: pieces)⟩ := by
  have ofNat_toNat : Char.ofNat c.toNat = c := Char.ofNat_toNat c
  unfold escape
  split
  next is => subst is; rfl
  split
  next is => subst is; rfl
  split
  next is => subst is; rfl
  split
  next is => subst is; rfl
  split
  next is => subst is; rfl
  split
  next is =>
    rw [is] at ofNat_toNat
    rw [← ofNat_toNat]
    rfl
  split
  next is =>
    rw [is] at ofNat_toNat
    rw [← ofNat_toNat]
    rfl
  split
  next notNewline notReturn notTab notBack notFeed low =>
    rw [scan_escapedUnit tokens pieces (by omega), pieceOf, if_pos ⟨low, notNewline, notReturn, notTab, notBack, notFeed⟩]
  next notQuote notSlash _ _ _ _ _ high =>
    rw [pieceOf, if_neg (fun low => high low.1), scan_cons]
    simp [Scanner.step?, Scanner.quoted?, notQuote, notSlash, high]

theorem scan_escapes (tokens : List Token) (pieces : List Piece) (chars : List Char) :
    scan ⟨tokens, .quoted pieces⟩ (chars.flatMap escape) =
      some ⟨tokens, .quoted ((chars.map pieceOf).reverse ++ pieces)⟩ := by
  induction chars generalizing pieces with
  | nil => rfl
  | cons c rest ih =>
    rw [List.flatMap_cons, scan_append, scan_escape, Option.bind_some, ih]
    simp

/-- A unit that is no half of a pair stands for its own character. -/
theorem joinOnto_unit (done : List Char) {value : Nat} (notHigh : isHighUnit value = false)
    (notLow : isLowUnit value = false) (rest : List Piece) :
    joinOnto done (.unit value :: rest) = joinOnto (Char.ofNat value :: done) rest := by
  rcases rest with _ | ⟨_ | _ | _, rest⟩
  · simp [joinOnto, notHigh, notLow]
  · simp [joinOnto, notHigh, notLow]
  · simp [joinOnto, notHigh, notLow]
  · simp [joinOnto]

theorem joinOnto_pieces (done chars : List Char) : joinOnto done (chars.map pieceOf) = some (done.reverse ++ chars) := by
  induction chars generalizing done with
  | nil => simp [joinOnto]
  | cons c rest ih =>
    have step : joinOnto done (pieceOf c :: rest.map pieceOf) = joinOnto (c :: done) (rest.map pieceOf) := by
      unfold pieceOf
      split
      next low =>
        have notHigh : isHighUnit c.toNat = false := by simp only [isHighUnit, Bool.and_eq_false_iff, decide_eq_false_iff_not]; omega
        have notLow : isLowUnit c.toNat = false := by simp only [isLowUnit, Bool.and_eq_false_iff, decide_eq_false_iff_not]; omega
        rw [joinOnto_unit done notHigh notLow, Char.ofNat_toNat]
      next => rfl
    rw [List.map_cons, step, ih, List.reverse_cons, List.append_assoc]
    rfl

/-- A text in quotation marks is scanned as that text. -/
theorem scan_quote (tokens : List Token) (text : String) :
    scan ⟨tokens, .outside⟩ (quote text) = some ⟨.text (some text) :: tokens, .outside⟩ := by
  have opened (rest : List Char) : scan ⟨tokens, .outside⟩ ('"' :: rest) = scan ⟨tokens, .quoted []⟩ rest := rfl
  have closed (pieces : List Piece) :
      scan ⟨tokens, .quoted pieces⟩ ['"'] = some ⟨.text (join pieces.reverse) :: tokens, .outside⟩ := rfl
  rw [quote, opened, scan_append, scan_escapes, Option.bind_some, closed, List.append_nil, List.reverse_reverse, join,
    joinOnto_pieces, List.reverse_nil, List.nil_append, Option.map_some, String.ofList_toList]

end Quotes

mutual

/-- Whether a value can be written as itself. -/
def isPlain : Json → Bool
  | .foreign => false
  | .list items => arePlainItems items
  | .object fields => arePlainFields fields
  | _ => true

def arePlainItems : List Json → Bool
  | [] => true
  | item :: rest => isPlain item && arePlainItems rest

def arePlainFields : List (String × Json) → Bool
  | [] => true
  | (_, value) :: rest => isPlain value && arePlainFields rest

end

mutual

/-- The tokens that a value is made of. -/
def tokensOf : Json → List Token
  | .text value => [.text (some value)]
  | .list [] => [.openList, .closeList]
  | .list (first :: rest) => .openList :: (tokensOf first ++ itemTokens rest ++ [.closeList])
  | .object [] => [.openObject, .closeObject]
  | .object ((key, first) :: rest) =>
    .openObject :: .text (some key) :: .colon :: (tokensOf first ++ fieldTokens rest ++ [.closeObject])
  | value => [.value value]

def itemTokens : List Json → List Token
  | [] => []
  | item :: rest => .comma :: (tokensOf item ++ itemTokens rest)

def fieldTokens : List (String × Json) → List Token
  | [] => []
  | (key, value) :: rest => .comma :: .text (some key) :: .colon :: (tokensOf value ++ fieldTokens rest)

end

/-- Whether scanning a text after certain tokens adds certain others to them. -/
def Scans (chars : List Char) (tokens : List Token) : Prop :=
  ∀ before, ∃ scanner, scan ⟨before, .outside⟩ chars = some scanner ∧ scanner.Settles (tokens.reverse ++ before)

theorem Scans.of_scan {chars : List Char} {tokens : List Token}
    (scanned : ∀ before, scan ⟨before, .outside⟩ chars = some ⟨tokens.reverse ++ before, .outside⟩) :
    Scans chars tokens := fun before => ⟨_, scanned before, Scanner.settles_outside _⟩

/-- One text may follow another if it starts, after a gap, with a character that ends a word. -/
theorem Scans.append {chars : List Char} {tokens : List Token} (scans : Scans chars tokens) (layout : Layout)
    (depth : Nat) {c : Char} (other : isWordChar c = false) {rest : List Char} {more : List Token}
    (follows : Scans (c :: rest) more) : Scans (chars ++ (layout.gap depth ++ c :: rest)) (tokens ++ more) := by
  intro before
  obtain ⟨scanner, scanned, settles⟩ := scans before
  obtain ⟨last, lastScanned, lastSettles⟩ := follows (tokens.reverse ++ before)
  rw [scan_cons, Scanner.step?_outside] at lastScanned
  refine ⟨last, ?_, ?_⟩
  · rw [scan_append, scanned, Option.bind_some, settles.gap layout depth other]
    exact lastScanned
  · rw [List.reverse_append, List.append_assoc]
    exact lastSettles

/-- A text behind a mark and a gap. -/
theorem Scans.mark {c : Char} {token : Token} (marks : ∀ before, Scanner.outside? before c = some ⟨token :: before, .outside⟩)
    (layout : Layout) (depth : Nat) {rest : List Char} {more : List Token} (follows : Scans rest more) :
    Scans (c :: (layout.gap depth ++ rest)) (token :: more) := by
  intro before
  obtain ⟨last, lastScanned, lastSettles⟩ := follows (token :: before)
  refine ⟨last, ?_, ?_⟩
  · rw [scan_cons, Scanner.step?_outside, marks, Option.bind_some, scan_append, scan_gap, Option.bind_some]
    exact lastScanned
  · rw [List.reverse_cons, List.append_assoc]
    exact lastSettles

theorem Scans.closing {c : Char} {token : Token}
    (marks : ∀ before, Scanner.outside? before c = some ⟨token :: before, .outside⟩) : Scans [c] [token] :=
  Scans.of_scan fun before => by rw [scan_cons, Scanner.step?_outside, marks]; rfl

theorem Scans.key (layout : Layout) (key : String) {rest : List Char} {more : List Token} (follows : Scans rest more) :
    Scans (quote key ++ layout.colon ++ rest) (.text (some key) :: .colon :: more) := by
  intro before
  obtain ⟨last, lastScanned, lastSettles⟩ := follows (.colon :: .text (some key) :: before)
  have colon : scan ⟨.text (some key) :: before, .outside⟩ layout.colon =
      some ⟨.colon :: .text (some key) :: before, .outside⟩ := by cases layout <;> rfl
  refine ⟨last, ?_, ?_⟩
  · rw [scan_append, scan_append, scan_quote, Option.bind_some, colon, Option.bind_some]
    exact lastScanned
  · rw [List.reverse_cons, List.reverse_cons, List.append_assoc, List.append_assoc]
    exact lastSettles

mutual

/-- A value is scanned as its tokens, however deep it is nested. -/
theorem scans_render (layout : Layout) (depth : Nat) (value : Json) (plain : isPlain value = true) :
    Scans (render layout depth value) (tokensOf value) := by
  match value with
  | .null =>
    intro before
    rw [render]
    exact scan_literal before (by decide) (by decide) rfl
  | .bool true =>
    intro before
    rw [render]
    exact scan_literal before (by decide) (by decide) rfl
  | .bool false =>
    intro before
    rw [render]
    exact scan_literal before (by decide) (by decide) rfl
  | .number whole =>
    intro before
    rw [render]
    refine scan_literal before ?_ (all_isWordChar_integer whole) (literal?_integer whole)
    unfold Decimal.integer
    split
    · simp
    · exact Decimal.digits_ne_nil _
  | .text content =>
    rw [render, tokensOf]
    exact Scans.of_scan fun before => scan_quote before content
  | .list [] => exact (Scans.closing fun _ => rfl).mark (fun _ => rfl) .compact 0
  | .list (first :: rest) =>
    simp only [isPlain, arePlainItems, Bool.and_eq_true] at plain
    have body := scans_renderItems layout (depth + 1) rest plain.2 (scans_render layout (depth + 1) first plain.1)
    have closed := body.append layout depth (by decide) (Scans.closing (c := ']') fun _ => rfl)
    have opened := closed.mark (c := '[') (fun _ => rfl) layout (depth + 1)
    simpa only [render, tokensOf, List.append_assoc] using opened
  | .object [] => exact (Scans.closing fun _ => rfl).mark (fun _ => rfl) .compact 0
  | .object ((key, first) :: rest) =>
    simp only [isPlain, arePlainFields, Bool.and_eq_true] at plain
    have body := scans_renderFields layout (depth + 1) rest plain.2 (scans_render layout (depth + 1) first plain.1)
    have closed := body.append layout depth (by decide) (Scans.closing (c := '\x7d') fun _ => rfl)
    have opened := (closed.key layout key).mark (c := '\x7b') (fun _ => rfl) layout (depth + 1)
    simpa only [render, tokensOf, List.append_assoc] using opened

theorem scans_renderItems (layout : Layout) (depth : Nat) (items : List Json) (plain : arePlainItems items = true)
    {chars : List Char} {tokens : List Token} (scans : Scans chars tokens) :
    Scans (chars ++ renderItems layout depth items) (tokens ++ itemTokens items) := by
  match items with
  | [] => simpa only [renderItems, itemTokens, List.append_nil] using scans
  | item :: rest =>
    simp only [arePlainItems, Bool.and_eq_true] at plain
    have marked := (scans_render layout depth item plain.1).mark (c := ',') (fun _ => rfl) layout depth
    have more := scans_renderItems layout depth rest plain.2 (scans.append .compact 0 (by decide) marked)
    simpa [renderItems, itemTokens, Layout.gap] using more

theorem scans_renderFields (layout : Layout) (depth : Nat) (fields : List (String × Json))
    (plain : arePlainFields fields = true) {chars : List Char} {tokens : List Token} (scans : Scans chars tokens) :
    Scans (chars ++ renderFields layout depth fields) (tokens ++ fieldTokens fields) := by
  match fields with
  | [] => simpa only [renderFields, fieldTokens, List.append_nil] using scans
  | (key, value) :: rest =>
    simp only [arePlainFields, Bool.and_eq_true] at plain
    have marked := ((scans_render layout depth value plain.1).key layout key).mark (c := ',') (fun _ => rfl) layout depth
    have more := scans_renderFields layout depth rest plain.2 (scans.append .compact 0 (by decide) marked)
    simpa [renderFields, fieldTokens, Layout.gap] using more

end

/-- The reader after certain tokens. -/
def readTokens (reader : Reader) (tokens : List Token) : Option Reader := tokens.foldlM Reader.step? reader

@[simp]
theorem readTokens_nil (reader : Reader) : readTokens reader [] = some reader := rfl

theorem readTokens_cons (reader : Reader) (token : Token) (rest : List Token) :
    readTokens reader (token :: rest) = (reader.step? token).bind fun after => readTokens after rest := rfl

/-- An object is closed with the fields it was given, if all of their names are texts. -/
theorem closeObject_texts (fields : List (String × Json)) :
    Reader.closeObject (fields.map fun field => (some field.1, field.2)).reverse = .object fields := by
  have named : (fields.map fun field => (some field.1, field.2)).mapM
      (fun field : Option String × Json => field.1.map (·, field.2)) = some fields := by
    induction fields with
    | nil => rfl
    | cons field rest ih => simp [List.mapM_cons, ih]
  rw [Reader.closeObject, List.reverse_reverse, named]

mutual

/-- The tokens of a value are read as that value. -/
theorem readTokens_tokensOf (frames : List Frame) (value : Json) (plain : isPlain value = true)
    {stage : Stage} (waits : stage = .item ∨ stage = .itemOrEnd) (rest : List Token) :
    readTokens ⟨frames, stage⟩ (tokensOf value ++ rest) = readTokens ⟨frames, .complete value⟩ rest := by
  match value with
  | .null | .bool _ | .number _ | .text _ => rcases waits with rfl | rfl <;> rfl
  | .list [] => rcases waits with rfl | rfl <;> rfl
  | .list (first :: others) =>
    simp only [isPlain, arePlainItems, Bool.and_eq_true] at plain
    have opened (more : List Token) : readTokens ⟨frames, stage⟩ (.openList :: more) =
        readTokens ⟨.list [] :: frames, .itemOrEnd⟩ more := by rcases waits with rfl | rfl <;> rfl
    rw [tokensOf, List.cons_append, opened, List.append_assoc, List.append_assoc,
      readTokens_tokensOf (.list [] :: frames) first plain.1 (.inr rfl)]
    exact readTokens_itemTokens frames [] first others plain.2 rest
  | .object [] => rcases waits with rfl | rfl <;> rfl
  | .object ((key, first) :: others) =>
    simp only [isPlain, arePlainFields, Bool.and_eq_true] at plain
    have opened (more : List Token) :
        readTokens ⟨frames, stage⟩ (.openObject :: .text (some key) :: .colon :: more) =
          readTokens ⟨.field [] (some key) :: frames, .item⟩ more := by rcases waits with rfl | rfl <;> rfl
    rw [tokensOf, List.cons_append, List.cons_append, List.cons_append, opened, List.append_assoc, List.append_assoc,
      readTokens_tokensOf (.field [] (some key) :: frames) first plain.1 (.inl rfl)]
    exact readTokens_fieldTokens frames [] (key, first) others plain.2 rest

theorem readTokens_itemTokens (frames : List Frame) (done : List Json) (last : Json) (items : List Json)
    (plain : arePlainItems items = true) (rest : List Token) :
    readTokens ⟨.list done.reverse :: frames, .complete last⟩ (itemTokens items ++ ([.closeList] ++ rest)) =
      readTokens ⟨frames, .complete (.list (done ++ last :: items))⟩ rest := by
  match items with
  | [] => simp [itemTokens, readTokens_cons, Reader.step?, Reader.after?]
  | item :: others =>
    simp only [arePlainItems, Bool.and_eq_true] at plain
    have next : readTokens ⟨.list done.reverse :: frames, .complete last⟩
        (itemTokens (item :: others) ++ ([.closeList] ++ rest)) =
        readTokens ⟨.list (done ++ [last]).reverse :: frames, .item⟩
          (tokensOf item ++ (itemTokens others ++ ([.closeList] ++ rest))) := by
      simp [itemTokens, readTokens_cons, Reader.step?, Reader.after?]
    rw [next, readTokens_tokensOf _ item plain.1 (.inl rfl),
      readTokens_itemTokens frames (done ++ [last]) item others plain.2, List.append_assoc]
    rfl

theorem readTokens_fieldTokens (frames : List Frame) (done : List (String × Json)) (last : String × Json)
    (fields : List (String × Json)) (plain : arePlainFields fields = true) (rest : List Token) :
    readTokens ⟨.field (done.map fun field => (some field.1, field.2)).reverse (some last.1) :: frames, .complete last.2⟩
        (fieldTokens fields ++ ([.closeObject] ++ rest)) =
      readTokens ⟨frames, .complete (.object (done ++ last :: fields))⟩ rest := by
  match fields with
  | [] =>
    have closed := closeObject_texts (done ++ [last])
    rw [List.map_append, List.reverse_append] at closed
    simp only [List.map_cons, List.map_nil, List.reverse_cons, List.reverse_nil, List.nil_append, List.cons_append] at closed
    simp [fieldTokens, readTokens_cons, Reader.step?, Reader.after?, closed]
  | (key, value) :: others =>
    simp only [arePlainFields, Bool.and_eq_true] at plain
    have next : readTokens
        ⟨.field (done.map fun field => (some field.1, field.2)).reverse (some last.1) :: frames, .complete last.2⟩
        (fieldTokens ((key, value) :: others) ++ ([.closeObject] ++ rest)) =
        readTokens ⟨.field ((done ++ [last]).map fun field => (some field.1, field.2)).reverse (some key) :: frames, .item⟩
          (tokensOf value ++ (fieldTokens others ++ ([.closeObject] ++ rest))) := by
      simp [fieldTokens, readTokens_cons, Reader.step?, Reader.after?]
    rw [next, readTokens_tokensOf _ value plain.1 (.inl rfl),
      readTokens_fieldTokens frames (done ++ [last]) (key, value) others plain.2, List.append_assoc]
    rfl

end

/-- A value that is written is read as itself, in either layout. -/
theorem ofChars?_render (layout : Layout) (value : Json) (plain : isPlain value = true) :
    ofChars? (render layout 0 value) = some value := by
  obtain ⟨scanner, scanned, settles⟩ := scans_render layout 0 value plain []
  have tokens : tokens? ((render layout 0 value).map some) = some (tokensOf value) := by
    rw [tokens?, show ((render layout 0 value).map some).foldlM Scanner.step? Scanner.start = some scanner from scanned,
      Option.bind_some, settles.finish, List.append_nil, List.reverse_reverse]
  have read := readTokens_tokensOf [] value plain (.inl rfl) []
  rw [List.append_nil] at read
  rw [ofChars?, ofGlyphs?, tokens, Option.bind_some, ofTokens?,
    show (tokensOf value).foldlM Reader.step? Reader.start = some ⟨[], .complete value⟩ from read]
  rfl

theorem ofBytes?_indented (value : Json) (plain : isPlain value = true) :
    ofBytes? (Utf8.ofString (indented value)) = some value := by
  have read := ofChars?_render .indented value plain
  rwa [ofBytes?, Utf8.decode_ofString, indented, String.toList_ofList]

end SingleFlight.Json
