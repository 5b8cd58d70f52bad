import SingleFlight.Proofs.Utf8Text
import SingleFlight.Text.OsText

/-!
Texts of the operating system that spell a text. What is spelled for a text is read as that text, nothing else
is read as it, and a text of the ASCII range is spelled with one byte for each character, in the order of the
characters.
-/

namespace SingleFlight.Text

open Utf8

variable {text first second : String} {spelled : OsText} {b : Byte}

namespace OsText

@[simp]
theorem text?_ofString (text : String) : text? (ofString text) = some text := by
  rw [text?, ofString, strict?_encode, Option.map_some, String.ofList_toList]

@[simp]
theorem shown_ofString (text : String) : shown (ofString text) = text := by
  rw [shown, lossy, decode_ofString, List.map_map]
  simp [Function.comp_def]

@[simp]
theorem isText_ofString (text : String) : isText (ofString text) = true := by rw [isText, text?_ofString]; rfl

/-- Only what is spelled for a text is read as it. -/
theorem text?_iff : spelled.text? = some text ↔ spelled = ofString text := by
  constructor
  · intro read
    obtain ⟨chars, strict, rfl⟩ := Option.map_eq_some_iff.mp read
    rw [ofString, String.toList_ofList, encode_of_strict? strict]
  · rintro rfl
    exact text?_ofString text

theorem isText_iff : spelled.isText = true ↔ ∃ text, spelled = ofString text := by
  rw [isText, Option.isSome_iff_exists]
  exact exists_congr fun text => text?_iff

/-- What spells a text is what is spelled for the text that is shown. -/
theorem ofString_shown (isText : spelled.isText = true) : ofString spelled.shown = spelled := by
  obtain ⟨text, rfl⟩ := isText_iff.mp isText
  rw [shown_ofString]

end OsText

namespace Utf8

theorem ofString_inj : ofString first = ofString second ↔ first = second := by
  constructor
  · intro same
    have read := congrArg OsText.text? same
    rw [OsText.text?_ofString, OsText.text?_ofString] at read
    exact Option.some.inj read
  · rintro rfl
    rfl

theorem ofString_append (first second : String) :
    ofString (first ++ second) = ofString first ++ ofString second := by
  rw [ofString, String.toList_append, encode_append, ofString, ofString]

theorem ofString_eq_nil : ofString text = [] ↔ text = "" := by
  have empty : ofString "" = [] := rfl
  rw [← empty, ofString_inj]

theorem length_ofString (text : String) : (ofString text).length = text.utf8ByteSize := by
  rw [ofString, length_encode, size_toList]

/-- A byte of the ASCII range stands for itself. -/
theorem mem_of_mem_ofString (ascii : b < 0x80) (inside : b ∈ ofString text) : Char.ofNat b.toNat ∈ text.toList := by
  obtain ⟨before, after, cut⟩ := List.append_of_mem inside
  have read := decode_ofString text
  rw [cut, decode_append ascii] at read
  have among : some (Char.ofNat b.toNat) ∈ text.toList.map some := read ▸ List.mem_append_right _ List.mem_cons_self
  obtain ⟨c, isThere, same⟩ := List.mem_map.mp among
  rwa [← Option.some.inj same]

/-- A text of the ASCII range is spelled with one byte for each character. -/
theorem encode_of_ascii {chars : List Char} (ascii : ∀ c ∈ chars, c.toNat < 128) :
    encode chars = chars.map fun c => UInt8.ofNat c.toNat := by
  induction chars with
  | nil => rfl
  | cons c rest ih =>
    have alone : String.utf8EncodeChar c = [UInt8.ofNat c.toNat] := by
      rw [String.utf8EncodeChar, show c.val.toNat = c.toNat from rfl,
        if_pos (Nat.le_of_lt_succ (ascii c List.mem_cons_self))]
    rw [encode, List.flatMap_cons, alone, ← encode, ih fun d among => ascii d (List.mem_cons_of_mem c among)]
    rfl

theorem map_byte_lt_iff {chars others : List Char} (ascii : ∀ c ∈ chars, c.toNat < 128)
    (otherAscii : ∀ c ∈ others, c.toNat < 128) :
    chars.map (fun c => UInt8.ofNat c.toNat) < others.map (fun c => UInt8.ofNat c.toNat) ↔ chars < others := by
  induction chars generalizing others with
  | nil => cases others <;> simp
  | cons c rest ih =>
    cases others with
    | nil => simp
    | cons d more =>
      have small := ascii c List.mem_cons_self
      have otherSmall := otherAscii d List.mem_cons_self
      have later := ih (fun e among => ascii e (List.mem_cons_of_mem c among)) fun e among =>
        otherAscii e (List.mem_cons_of_mem d among)
      have less : UInt8.ofNat c.toNat < UInt8.ofNat d.toNat ↔ c < d := by
        rw [UInt8.lt_iff_toNat_lt, toNat_byte (by omega), toNat_byte (by omega)]
        rfl
      have same : UInt8.ofNat c.toNat = UInt8.ofNat d.toNat ↔ c = d := by
        rw [byte_eq (by omega), toNat_byte (by omega), Char.toNat_inj]
      rw [List.map_cons, List.map_cons, List.cons_lt_cons_iff, List.cons_lt_cons_iff, less, same, later]

/-- Texts of the ASCII range are in the order of their bytes. -/
theorem ofString_le_iff (ascii : ∀ c ∈ first.toList, c.toNat < 128)
    (otherAscii : ∀ c ∈ second.toList, c.toNat < 128) :
    ofString first ≤ ofString second ↔ first ≤ second := by
  rw [ofString, ofString, encode_of_ascii ascii, encode_of_ascii otherAscii]
  exact not_congr (map_byte_lt_iff otherAscii ascii)

theorem length_ofString_of_ascii (ascii : ∀ c ∈ text.toList, c.toNat < 128) :
    (ofString text).length = text.toList.length := by
  rw [ofString, encode_of_ascii ascii, List.length_map]

end Utf8

end SingleFlight.Text
