/-!
Blank characters: those with the Unicode property White_Space. Main statement: trimming a trimmed
text changes nothing.
-/

namespace SingleFlight.Text

/-- The property White_Space of Unicode. -/
def isBlank (c : Char) : Bool :=
  (0x9 ≤ c.toNat && c.toNat ≤ 0xD) || c.toNat == 0x20 || c.toNat == 0x85 || c.toNat == 0xA0 || c.toNat == 0x1680 ||
    (0x2000 ≤ c.toNat && c.toNat ≤ 0x200A) || c.toNat == 0x2028 || c.toNat == 0x2029 || c.toNat == 0x202F ||
    c.toNat == 0x205F || c.toNat == 0x3000

/-- Drops what is of a kind from the end of a list. -/
def dropEndWhile {α : Type} (kind : α → Bool) (chars : List α) : List α := (chars.reverse.dropWhile kind).reverse

/-- Drops the characters of a kind from both ends of a list. -/
def trimBoth (kind : Char → Bool) (chars : List Char) : List Char :=
  dropEndWhile kind (chars.dropWhile kind)

def trimChars (chars : List Char) : List Char := trimBoth isBlank chars

/-- A text without its blank characters at either end. -/
def trim (text : String) : String := String.ofList (trimChars text.toList)

/-- A text that holds nothing but blank characters. -/
def isBlankText (text : String) : Bool := text.toList.all isBlank

/-- A text that is present and says something. -/
def filled (text : Option String) : Option String := text.filter (fun t => !isBlankText t)

section Ends

variable {α : Type}

theorem dropWhile_eq_self (kind : α → Bool) (chars : List α)
    (first : ∀ c, chars.head? = some c → kind c = false) : chars.dropWhile kind = chars := by
  cases chars with
  | nil => rfl
  | cons c rest => simp [first c rfl]

theorem head?_dropWhile (kind : α → Bool) (chars : List α) :
    ∀ c, (chars.dropWhile kind).head? = some c → kind c = false := by
  induction chars with
  | nil => intro c h; simp at h
  | cons first rest ih =>
    intro c h
    by_cases blank : kind first
    · rw [List.dropWhile_cons, if_pos blank] at h
      exact ih c h
    · rw [List.dropWhile_cons, if_neg blank] at h
      simp only [List.head?_cons, Option.some.injEq] at h
      subst h
      simpa using blank

theorem getLast?_dropEndWhile (kind : α → Bool) (chars : List α) :
    ∀ c, (dropEndWhile kind chars).getLast? = some c → kind c = false := by
  intro c h
  rw [dropEndWhile, List.getLast?_reverse] at h
  exact head?_dropWhile kind chars.reverse c h

theorem dropEndWhile_eq_self (kind : α → Bool) (chars : List α)
    (last : ∀ c, chars.getLast? = some c → kind c = false) : dropEndWhile kind chars = chars := by
  rw [dropEndWhile, dropWhile_eq_self kind chars.reverse, List.reverse_reverse]
  intro c h
  exact last c (by rw [← h, List.head?_reverse])

/-- What is left after the end is dropped is a beginning of the text. -/
theorem dropEndWhile_isPrefixOf (kind : α → Bool) (chars : List α) :
    ∃ dropped, chars = dropEndWhile kind chars ++ dropped := by
  refine ⟨(chars.reverse.takeWhile kind).reverse, ?_⟩
  rw [dropEndWhile, ← List.reverse_append, List.takeWhile_append_dropWhile, List.reverse_reverse]

end Ends

theorem trimBoth_trimBoth (kind : Char → Bool) (chars : List Char) :
    trimBoth kind (trimBoth kind chars) = trimBoth kind chars := by
  have starts : (trimBoth kind chars).dropWhile kind = trimBoth kind chars := by
    apply dropWhile_eq_self
    intro c h
    obtain ⟨dropped, whole⟩ := dropEndWhile_isPrefixOf kind (chars.dropWhile kind)
    apply head?_dropWhile kind chars c
    rw [whole]
    change (trimBoth kind chars ++ dropped).head? = some c
    rw [List.head?_append, h]
    rfl
  rw [show trimBoth kind (trimBoth kind chars) = dropEndWhile kind ((trimBoth kind chars).dropWhile kind) from rfl,
    starts]
  exact dropEndWhile_eq_self kind _ (getLast?_dropEndWhile kind _)

theorem trim_trim (text : String) : trim (trim text) = trim text := by
  simp [trim, trimChars, trimBoth_trimBoth]

theorem all_dropWhile (kind : Char → Bool) (chars : List Char) : (chars.dropWhile kind).all kind = chars.all kind := by
  induction chars with
  | nil => rfl
  | cons first rest ih => by_cases dropped : kind first <;> simp [dropped, ih]

theorem isBlankText_trim (text : String) : isBlankText (trim text) = isBlankText text := by
  rw [isBlankText, trim, String.toList_ofList, trimChars, trimBoth, dropEndWhile, List.all_reverse, all_dropWhile,
    List.all_reverse, all_dropWhile, isBlankText]

theorem filled_eq_some_iff {given : Option String} {text : String} :
    filled given = some text ↔ given = some text ∧ isBlankText text = false := by
  simp [filled, Option.filter_eq_some_iff]

theorem filled_eq_none_iff {given : Option String} :
    filled given = none ↔ ∀ text, given = some text → isBlankText text = true := by
  simp [filled, Option.filter_eq_none_iff]

theorem isBlankText_of_filled {text : Option String} {found : String} (given : filled text = some found) :
    isBlankText found = false :=
  (filled_eq_some_iff.mp given).2

end SingleFlight.Text
