import Mathlib.Tactic.Common
import SingleFlight.Text.Utf8

/-!
What is written in UTF-8 is read as it was written. A character takes one to four bytes, and for each
length the first byte alone tells which bytes may come next. What stands on either side of a line feed is read as if
it stood alone, also where it is malformed.
-/

namespace SingleFlight.Text.Utf8

variable {value : Nat} {first second third fourth : Byte} {lead : Lead}

theorem toNat_byte (small : value < 256) : (UInt8.ofNat value).toNat = value := by
  rw [UInt8.toNat_ofNat', Nat.mod_eq_of_lt small]

theorem le_byte {low : Byte} (small : value < 256) : low ≤ UInt8.ofNat value ↔ low.toNat ≤ value := by
  rw [UInt8.le_iff_toNat_le, toNat_byte small]

theorem byte_le {high : Byte} (small : value < 256) : UInt8.ofNat value ≤ high ↔ value ≤ high.toNat := by
  rw [UInt8.le_iff_toNat_le, toNat_byte small]

theorem byte_eq {other : Byte} (small : value < 256) : UInt8.ofNat value = other ↔ value = other.toNat := by
  rw [← UInt8.toNat_inj, toNat_byte small]

/-- The byte after the first one that carries six bits of a character. -/
def tail (value : Nat) : Byte := UInt8.ofNat (value % 64 + 128)

theorem isTail_tail (value : Nat) : isTail (tail value) = true := by
  have small : value % 64 + 128 < 256 := by omega
  simp only [isTail, tail, le_byte small, byte_le small, Bool.and_eq_true, decide_eq_true_eq]
  constructor
  · exact Nat.le_add_left 128 _
  · change value % 64 + 128 ≤ 191
    omega

theorem payload_tail (value : Nat) : payload (tail value) 6 = value % 64 := by
  rw [payload, tail, toNat_byte (by omega)]
  change (value % 64 + 128) % 64 = value % 64
  omega

theorem glyph_one (ascii : value < 128) (rest : List Byte) :
    glyph (UInt8.ofNat value) rest = (some (Char.ofNat value), 0) := by
  have small : UInt8.ofNat value < 0x80 := by
    rw [UInt8.lt_iff_toNat_lt, toNat_byte (by omega)]
    exact ascii
  simp only [glyph, if_pos small, toNat_byte (show value < 256 by omega)]

theorem glyph_two (large : ¬first < 0x80) (found : lead? first = some lead) (follow : lead.follow = 1)
    (least : ¬second < lead.least) (greatest : ¬lead.greatest < second) (rest : List Byte) :
    glyph first (second :: rest) = (some (Char.ofNat (payload first 5 * 64 + payload second 6)), 1) := by
  simp [glyph, large, found, follow, least, greatest]

theorem glyph_three (large : ¬first < 0x80) (found : lead? first = some lead) (follow : lead.follow = 2)
    (least : ¬second < lead.least) (greatest : ¬lead.greatest < second) (isThird : isTail third = true)
    (rest : List Byte) :
    glyph first (second :: third :: rest) =
      (some (Char.ofNat ((payload first 4 * 64 + payload second 6) * 64 + payload third 6)), 2) := by
  simp [glyph, large, found, follow, least, greatest, isThird]

theorem glyph_four (large : ¬first < 0x80) (found : lead? first = some lead) (follow : lead.follow = 3)
    (least : ¬second < lead.least) (greatest : ¬lead.greatest < second) (isThird : isTail third = true)
    (isFourth : isTail fourth = true) (rest : List Byte) :
    glyph first (second :: third :: fourth :: rest) =
      (some (Char.ofNat (((payload first 3 * 64 + payload second 6) * 64 + payload third 6) * 64 +
        payload fourth 6)), 3) := by
  simp [glyph, large, found, follow, least, greatest, isThird, isFourth]

theorem lead?_byte (small : value < 256) :
    lead? (UInt8.ofNat value) =
      if 0xC2 ≤ value ∧ value ≤ 0xDF then some ⟨1, 0x80, 0xBF⟩
      else if value = 0xE0 then some ⟨2, 0xA0, 0xBF⟩
      else if 0xE1 ≤ value ∧ value ≤ 0xEC then some ⟨2, 0x80, 0xBF⟩
      else if value = 0xED then some ⟨2, 0x80, 0x9F⟩
      else if 0xEE ≤ value ∧ value ≤ 0xEF then some ⟨2, 0x80, 0xBF⟩
      else if value = 0xF0 then some ⟨3, 0x90, 0xBF⟩
      else if 0xF1 ≤ value ∧ value ≤ 0xF3 then some ⟨3, 0x80, 0xBF⟩
      else if value = 0xF4 then some ⟨3, 0x80, 0x8F⟩
      else none := by
  simp [lead?, le_byte small, byte_le small, byte_eq small]

theorem not_ascii (small : value < 256) (large : 128 ≤ value) : ¬UInt8.ofNat value < 0x80 := by
  rw [UInt8.not_lt, le_byte small]
  exact large

theorem not_tail_lt {low : Byte} (least : low.toNat ≤ value % 64 + 128) : ¬tail value < low := by
  rw [UInt8.not_lt, tail, le_byte (by omega)]
  exact least

theorem not_lt_tail {high : Byte} (greatest : value % 64 + 128 ≤ high.toNat) : ¬high < tail value := by
  rw [UInt8.not_lt, tail, byte_le (by omega)]
  exact greatest

theorem payload_byte (small : value < 256) (bits : Nat) : payload (UInt8.ofNat value) bits = value % Nat.pow 2 bits := by
  rw [payload, toNat_byte small]

/-- Two bytes are read as the character that was put into them. -/
theorem glyph_pair (least : 0x80 ≤ value) (greatest : value ≤ 0x7FF) (rest : List Byte) :
    glyph (UInt8.ofNat (value / 64 % 32 + 192)) (tail value :: rest) = (some (Char.ofNat value), 1) := by
  have small : value / 64 % 32 + 192 < 256 := by omega
  have found : lead? (UInt8.ofNat (value / 64 % 32 + 192)) = some ⟨1, 0x80, 0xBF⟩ := by
    rw [lead?_byte small, if_pos (by omega)]
  have read := glyph_two (not_ascii small (by omega)) found rfl
    (not_tail_lt (Nat.le_add_left 128 _)) (not_lt_tail (show value % 64 + 128 ≤ 191 by omega)) rest
  rw [payload_byte small, payload_tail] at read
  rw [read, show (value / 64 % 32 + 192) % Nat.pow 2 5 * 64 + value % 64 = value by
    change (value / 64 % 32 + 192) % 32 * 64 + value % 64 = value
    omega]

/-- Three bytes are read as the character that was put into them, which is no half of a pair. -/
theorem glyph_triple (least : 0x800 ≤ value) (greatest : value ≤ 0xFFFF) (whole : value < 0xD800 ∨ 0xDFFF < value)
    (rest : List Byte) :
    glyph (UInt8.ofNat (value / 4096 % 16 + 224)) (tail (value / 64) :: tail value :: rest) =
      (some (Char.ofNat value), 2) := by
  have small : value / 4096 % 16 + 224 < 256 := by omega
  obtain ⟨lead, found, follow, low, high⟩ : ∃ lead, lead? (UInt8.ofNat (value / 4096 % 16 + 224)) = some lead ∧
      lead.follow = 2 ∧ lead.least.toNat ≤ value / 64 % 64 + 128 ∧ value / 64 % 64 + 128 ≤ lead.greatest.toNat := by
    rw [lead?_byte small, if_neg (by omega)]
    split
    next => exact ⟨_, rfl, rfl, by change 160 ≤ _; omega, by change _ ≤ 191; omega⟩
    split
    next => exact ⟨_, rfl, rfl, by change 128 ≤ _; omega, by change _ ≤ 191; omega⟩
    split
    next => exact ⟨_, rfl, rfl, by change 128 ≤ _; omega, by change _ ≤ 159; omega⟩
    rw [if_pos (by omega)]
    exact ⟨_, rfl, rfl, by change 128 ≤ _; omega, by change _ ≤ 191; omega⟩
  have read := glyph_three (not_ascii small (by omega)) found follow (not_tail_lt low) (not_lt_tail high)
    (isTail_tail value) rest
  rw [payload_byte small, payload_tail, payload_tail] at read
  rw [read, show ((value / 4096 % 16 + 224) % Nat.pow 2 4 * 64 + value / 64 % 64) * 64 + value % 64 = value by
    change ((value / 4096 % 16 + 224) % 16 * 64 + value / 64 % 64) * 64 + value % 64 = value
    omega]

/-- Four bytes are read as the character that was put into them. -/
theorem glyph_quadruple (least : 0x10000 ≤ value) (greatest : value ≤ 0x10FFFF) (rest : List Byte) :
    glyph (UInt8.ofNat (value / 262144 % 8 + 240)) (tail (value / 4096) :: tail (value / 64) :: tail value :: rest) =
      (some (Char.ofNat value), 3) := by
  have small : value / 262144 % 8 + 240 < 256 := by omega
  obtain ⟨lead, found, follow, low, high⟩ : ∃ lead, lead? (UInt8.ofNat (value / 262144 % 8 + 240)) = some lead ∧
      lead.follow = 3 ∧ lead.least.toNat ≤ value / 4096 % 64 + 128 ∧ value / 4096 % 64 + 128 ≤ lead.greatest.toNat := by
    rw [lead?_byte small, if_neg (by omega), if_neg (by omega), if_neg (by omega), if_neg (by omega), if_neg (by omega)]
    split
    next => exact ⟨_, rfl, rfl, by change 144 ≤ _; omega, by change _ ≤ 191; omega⟩
    split
    next => exact ⟨_, rfl, rfl, by change 128 ≤ _; omega, by change _ ≤ 191; omega⟩
    rw [if_pos (by omega)]
    exact ⟨_, rfl, rfl, by change 128 ≤ _; omega, by change _ ≤ 143; omega⟩
  have read := glyph_four (not_ascii small (by omega)) found follow (not_tail_lt low) (not_lt_tail high)
    (isTail_tail (value / 64)) (isTail_tail value) rest
  rw [payload_byte small, payload_tail, payload_tail, payload_tail] at read
  rw [read, show (((value / 262144 % 8 + 240) % Nat.pow 2 3 * 64 + value / 4096 % 64) * 64 + value / 64 % 64) * 64 +
      value % 64 = value by
    change (((value / 262144 % 8 + 240) % 8 * 64 + value / 4096 % 64) * 64 + value / 64 % 64) * 64 + value % 64 = value
    omega]

/-- The bytes of a character are read as that character, whatever stands behind them. -/
theorem glyph_encodeChar (c : Char) (rest : List Byte) :
    ∃ first others, String.utf8EncodeChar c = first :: others ∧
      glyph first (others ++ rest) = (some c, others.length) := by
  have whole : c.toNat < 0xD800 ∨ 0xDFFF < c.toNat ∧ c.toNat < 0x110000 := c.valid
  have same : Char.ofNat c.toNat = c := Char.ofNat_toNat c
  rw [String.utf8EncodeChar, show c.val.toNat = c.toNat from rfl]
  split
  next ascii => exact ⟨_, _, rfl, by rw [List.nil_append, glyph_one (by omega), same]; rfl⟩
  split
  next notAscii short => exact ⟨_, _, rfl, (glyph_pair (by omega) short rest).trans (by rw [same]; rfl)⟩
  split
  next notShort middle =>
    exact ⟨_, _, rfl, (glyph_triple (by omega) middle (by omega) rest).trans (by rw [same]; rfl)⟩
  next notMiddle => exact ⟨_, _, rfl, (glyph_quadruple (by omega) (by omega) rest).trans (by rw [same]; rfl)⟩

theorem decode_encodeChar (c : Char) (rest : List Byte) :
    decode (String.utf8EncodeChar c ++ rest) = some c :: decode rest := by
  obtain ⟨first, others, bytes, read⟩ := glyph_encodeChar c rest
  rw [bytes, List.cons_append, decode_cons, read, List.drop_left]

theorem decode_encode (chars : List Char) : decode (encode chars) = chars.map some := by
  induction chars with
  | nil => exact decode_nil
  | cons c rest ih =>
    rw [encode, List.flatMap_cons, decode_encodeChar, List.map_cons]
    exact congrArg (some c :: ·) ih

theorem strict?_encode (chars : List Char) : strict? (encode chars) = some chars := by
  rw [strict?, decode_encode]
  induction chars with
  | nil => rfl
  | cons c rest ih =>
    rw [List.map_cons, List.mapM_cons, ih]
    rfl

theorem decode_ofString (text : String) : decode (ofString text) = text.toList.map some := decode_encode text.toList

section Sizes

theorem foldl_utf8Size (chars : List Char) (total : Nat) :
    chars.foldl (fun total c => total + c.utf8Size) total = total + size chars := by
  induction chars generalizing total with
  | nil => rfl
  | cons c rest ih =>
    rw [size, List.foldl_cons, List.foldl_cons, ih, ih]
    omega

@[simp]
theorem size_nil : size [] = 0 := rfl

@[simp]
theorem size_cons (c : Char) (rest : List Char) : size (c :: rest) = c.utf8Size + size rest := by
  rw [size, List.foldl_cons, foldl_utf8Size, Nat.zero_add]

@[simp]
theorem size_append (first second : List Char) : size (first ++ second) = size first + size second := by
  rw [size, List.foldl_append, foldl_utf8Size]
  rfl

theorem encode_append (first second : List Char) : encode (first ++ second) = encode first ++ encode second :=
  List.flatMap_append

theorem length_encode (chars : List Char) : (encode chars).length = size chars := by
  induction chars with
  | nil => rfl
  | cons c rest ih =>
    rw [encode, List.flatMap_cons, List.length_append, String.length_utf8EncodeChar, size_cons, ← ih, encode]

theorem utf8ByteSize_ofList (chars : List Char) : (String.ofList chars).utf8ByteSize = size chars := by
  induction chars with
  | nil => rfl
  | cons c rest ih =>
    have alone : (String.ofList [c]).utf8ByteSize = c.utf8Size := by
      rw [← String.singleton_eq_ofList, String.utf8ByteSize_singleton]
    rw [← List.singleton_append, String.ofList_append, String.utf8ByteSize_append, ih, alone,
      List.singleton_append, size_cons]

theorem size_toList (text : String) : size text.toList = text.utf8ByteSize := by
  rw [← utf8ByteSize_ofList, String.ofList_toList]

end Sizes

section Cut

/-- No byte of the ASCII range goes on with what another byte started. -/
theorem least_of_lead? (found : lead? first = some lead) : 0x80 ≤ lead.least := by
  unfold lead? at found
  grind

/-- A byte of the ASCII range makes no difference to what is read before it. -/
theorem glyph_append {b : Byte} (ascii : b < 0x80) (first : Byte) (rest after : List Byte) :
    glyph first (rest ++ b :: after) = glyph first rest := by
  have alone : isTail b = false := by
    simp only [isTail, Bool.and_eq_false_iff, decide_eq_false_iff_not, UInt8.not_le]
    exact .inl ascii
  unfold glyph
  split
  next => rfl
  next large =>
    cases found : lead? first with
    | none => rfl
    | some lead =>
      have early : b < lead.least := UInt8.lt_of_lt_of_le ascii (least_of_lead? found)
      match rest with
      | [] => simp [early]
      | [second] => simp [alone]
      | [second, third] => simp [alone]
      | second :: third :: fourth :: more => rfl

theorem glyph_le (first : Byte) (rest : List Byte) : (glyph first rest).2 ≤ rest.length := by
  unfold glyph
  grind

/-- What is read on either side of a byte of the ASCII range is read as if it stood alone. -/
theorem decode_append {b : Byte} (ascii : b < 0x80) (before after : List Byte) :
    decode (before ++ b :: after) = decode before ++ some (Char.ofNat b.toNat) :: decode after := by
  match before with
  | [] => simp [decode_cons, decode_nil, glyph, ascii]
  | first :: rest =>
    rw [List.cons_append, decode_cons, decode_cons, glyph_append ascii,
      List.drop_append_of_le_length (glyph_le first rest), decode_append ascii (rest.drop (glyph first rest).2) after,
      List.cons_append]
termination_by before.length
decreasing_by simp only [List.length_drop, List.length_cons]; omega

/-- The lead bytes, by how they go on. -/
theorem range_of_lead? (found : lead? first = some lead) :
    lead = ⟨1, 0x80, 0xBF⟩ ∧ 0xC2 ≤ first.toNat ∧ first.toNat ≤ 0xDF ∨
    lead = ⟨2, 0xA0, 0xBF⟩ ∧ first.toNat = 0xE0 ∨
    lead = ⟨2, 0x80, 0x9F⟩ ∧ first.toNat = 0xED ∨
    lead = ⟨2, 0x80, 0xBF⟩ ∧ (0xE1 ≤ first.toNat ∧ first.toNat ≤ 0xEC ∨ 0xEE ≤ first.toNat ∧ first.toNat ≤ 0xEF) ∨
    lead = ⟨3, 0x90, 0xBF⟩ ∧ first.toNat = 0xF0 ∨
    lead = ⟨3, 0x80, 0xBF⟩ ∧ 0xF1 ≤ first.toNat ∧ first.toNat ≤ 0xF3 ∨
    lead = ⟨3, 0x80, 0x8F⟩ ∧ first.toNat = 0xF4 := by
  rw [← UInt8.ofNat_toNat (x := first), lead?_byte first.toNat_lt] at found
  split at found
  next range => cases found; exact .inl ⟨rfl, range⟩
  split at found
  next range => cases found; exact .inr (.inl ⟨rfl, range⟩)
  split at found
  next range => cases found; exact .inr (.inr (.inr (.inl ⟨rfl, .inl range⟩)))
  split at found
  next range => cases found; exact .inr (.inr (.inl ⟨rfl, range⟩))
  split at found
  next range => cases found; exact .inr (.inr (.inr (.inl ⟨rfl, .inr range⟩)))
  split at found
  next range => cases found; exact .inr (.inr (.inr (.inr (.inl ⟨rfl, range⟩))))
  split at found
  next range => cases found; exact .inr (.inr (.inr (.inr (.inr (.inl ⟨rfl, range⟩)))))
  split at found
  next range => cases found; exact .inr (.inr (.inr (.inr (.inr (.inr ⟨rfl, range⟩)))))
  next => cases found

/-- What the bytes of a character are, told by the numbers in them: the number of the character, and how many bytes
follow the first. -/
inductive Spells : List Byte → Nat → Nat → Prop where
  | one {first : Byte} {rest : List Byte} (ascii : first.toNat < 0x80) : Spells (first :: rest) first.toNat 0
  | two {first second : Byte} {rest : List Byte} (least : 0xC2 ≤ first.toNat) (greatest : first.toNat ≤ 0xDF)
      (isSecond : 0x80 ≤ second.toNat ∧ second.toNat ≤ 0xBF) :
      Spells (first :: second :: rest) (first.toNat % 32 * 64 + second.toNat % 64) 1
  | three {first second third : Byte} {rest : List Byte} (least : 0xE0 ≤ first.toNat)
      (greatest : first.toNat ≤ 0xEF)
      (isSecond : 0x80 ≤ second.toNat ∧ second.toNat ≤ 0xBF) (isThird : 0x80 ≤ third.toNat ∧ third.toNat ≤ 0xBF)
      (long : first.toNat = 0xE0 → 0xA0 ≤ second.toNat) (whole : first.toNat = 0xED → second.toNat ≤ 0x9F) :
      Spells (first :: second :: third :: rest)
        ((first.toNat % 16 * 64 + second.toNat % 64) * 64 + third.toNat % 64) 2
  | four {first second third fourth : Byte} {rest : List Byte} (least : 0xF0 ≤ first.toNat)
      (greatest : first.toNat ≤ 0xF4)
      (isSecond : 0x80 ≤ second.toNat ∧ second.toNat ≤ 0xBF) (isThird : 0x80 ≤ third.toNat ∧ third.toNat ≤ 0xBF)
      (isFourth : 0x80 ≤ fourth.toNat ∧ fourth.toNat ≤ 0xBF)
      (long : first.toNat = 0xF0 → 0x90 ≤ second.toNat) (small : first.toNat = 0xF4 → second.toNat ≤ 0x8F) :
      Spells (first :: second :: third :: fourth :: rest)
        (((first.toNat % 8 * 64 + second.toNat % 64) * 64 + third.toNat % 64) * 64 + fourth.toNat % 64) 3

theorem tail_range {b : Byte} (isTail : isTail b = true) : 0x80 ≤ b.toNat ∧ b.toNat ≤ 0xBF := by
  simpa [Utf8.isTail, UInt8.le_iff_toNat_le] using isTail

section Led

variable {second third fourth : Byte} {rest : List Byte} (found : lead? first = some lead)
  (within : lead.least.toNat ≤ second.toNat ∧ second.toNat ≤ lead.greatest.toNat)

include found within

theorem spells_two (follow : lead.follow = 1) :
    Spells (first :: second :: rest) (first.toNat % 32 * 64 + second.toNat % 64) 1 := by
  obtain ⟨rfl, least, greatest⟩ | later := range_of_lead? found
  · exact .two least greatest within
  · obtain ⟨rfl, _⟩ | ⟨rfl, _⟩ | ⟨rfl, _⟩ | ⟨rfl, _⟩ | ⟨rfl, _⟩ | ⟨rfl, _⟩ := later <;> cases follow

theorem spells_three (follow : lead.follow = 2) (isThird : isTail third = true) :
    Spells (first :: second :: third :: rest)
      ((first.toNat % 16 * 64 + second.toNat % 64) * 64 + third.toNat % 64) 2 := by
  have isThird := tail_range isThird
  obtain ⟨rfl, _⟩ | ⟨rfl, is⟩ | ⟨rfl, is⟩ | ⟨rfl, is⟩ | ⟨rfl, _⟩ | ⟨rfl, _⟩ | ⟨rfl, _⟩ := range_of_lead? found
  · cases follow
  · have between : 0xA0 ≤ second.toNat ∧ second.toNat ≤ 0xBF := within
    exact .three (by omega) (by omega) (by omega) isThird (by omega) (by omega)
  · have between : 0x80 ≤ second.toNat ∧ second.toNat ≤ 0x9F := within
    exact .three (by omega) (by omega) (by omega) isThird (by omega) (by omega)
  · exact .three (by omega) (by omega) within isThird (by omega) (by omega)
  · cases follow
  · cases follow
  · cases follow

theorem spells_four (one : lead.follow ≠ 1) (two : lead.follow ≠ 2) (isThird : isTail third = true)
    (isFourth : isTail fourth = true) :
    Spells (first :: second :: third :: fourth :: rest)
      (((first.toNat % 8 * 64 + second.toNat % 64) * 64 + third.toNat % 64) * 64 + fourth.toNat % 64) 3 := by
  have isThird := tail_range isThird
  have isFourth := tail_range isFourth
  obtain ⟨rfl, _⟩ | ⟨rfl, _⟩ | ⟨rfl, _⟩ | ⟨rfl, _⟩ | ⟨rfl, is⟩ | ⟨rfl, is⟩ | ⟨rfl, is⟩ := range_of_lead? found
  · exact absurd rfl one
  · exact absurd rfl two
  · exact absurd rfl two
  · exact absurd rfl two
  · have between : 0x90 ≤ second.toNat ∧ second.toNat ≤ 0xBF := within
    exact .four (by omega) (by omega) (by omega) isThird isFourth (by omega) (by omega)
  · exact .four (by omega) (by omega) within isThird isFourth (by omega) (by omega)
  · have between : 0x80 ≤ second.toNat ∧ second.toNat ≤ 0x8F := within
    exact .four (by omega) (by omega) (by omega) isThird isFourth (by omega) (by omega)

end Led

/-- What is read as a character is what spells it. -/
theorem spells_of_glyph {rest : List Byte} {c : Char} (read : (glyph first rest).1 = some c) :
    ∃ number, Spells (first :: rest) number (glyph first rest).2 ∧ c = Char.ofNat number := by
  unfold glyph at read ⊢
  split at read
  next ascii =>
    rw [if_pos ascii]
    exact ⟨first.toNat, .one ascii, (Option.some.inj read).symm⟩
  next large =>
    rw [if_neg large]
    cases found : lead? first with
    | none => simp [found] at read
    | some lead =>
      match rest with
      | [] => simp [found] at read
      | second :: others =>
        rw [found] at read
        dsimp only at read ⊢
        split at read
        next => cases read
        next fits =>
          rw [if_neg fits]
          rw [Bool.or_eq_true, not_or, decide_eq_true_eq, decide_eq_true_eq, UInt8.not_lt, UInt8.not_lt,
            UInt8.le_iff_toNat_le, UInt8.le_iff_toNat_le] at fits
          split at read
          next one =>
            rw [if_pos one]
            exact ⟨_, spells_two found fits one, (Option.some.inj read).symm⟩
          next notOne =>
            rw [if_neg notOne]
            match others with
            | [] => cases read
            | third :: more =>
              dsimp only at read ⊢
              split at read
              next => cases read
              next isThird =>
                rw [if_neg isThird]
                have isThird : isTail third = true := by simpa using isThird
                split at read
                next two =>
                  rw [if_pos two]
                  exact ⟨_, spells_three found fits two isThird, (Option.some.inj read).symm⟩
                next notTwo =>
                  rw [if_neg notTwo]
                  match more with
                  | [] => cases read
                  | fourth :: rest =>
                    dsimp only at read ⊢
                    split at read
                    next => cases read
                    next isFourth =>
                      rw [if_neg isFourth]
                      have isFourth : isTail fourth = true := by simpa using isFourth
                      exact ⟨_, spells_four found fits notOne notTwo isThird isFourth, (Option.some.inj read).symm⟩

theorem toNat_ofNat_of_spells {bytes : List Byte} {number taken : Nat} (spelled : Spells bytes number taken) :
    (Char.ofNat number).toNat = number := by
  have valid : number.isValidChar := by
    cases spelled with
    | one | two | three | four => unfold Nat.isValidChar; omega
  rw [Char.ofNat, dif_pos valid]
  rfl

/-- A line feed is read where the byte of a line feed stands, and nowhere else. -/
theorem feed_of_glyph {rest : List Byte} (spells : (glyph first rest).1 = some '\n') : first = 10 := by
  obtain ⟨number, spelled, isFeed⟩ := spells_of_glyph spells
  have ten : number = 10 := by rw [← toNat_ofNat_of_spells spelled, ← isFeed]; rfl
  generalize (glyph first rest).2 = taken at spelled
  cases spelled with
  | one => exact UInt8.toNat_inj.mp ten
  | two | three | four => omega

/-- What spells a character is what is written for it. -/
theorem encodeChar_of_spells {rest : List Byte} {number taken : Nat}
    (spelled : Spells (first :: rest) number taken) :
    String.utf8EncodeChar (Char.ofNat number) = first :: rest.take taken := by
  have same : (Char.ofNat number).val.toNat = number := toNat_ofNat_of_spells spelled
  rw [String.utf8EncodeChar, same]
  cases spelled with
  | one ascii =>
    rw [if_pos (by omega)]
    simp
  | two least greatest isSecond =>
    rw [if_neg (by omega), if_pos (by omega)]
    simp only [List.take_succ_cons, List.take_zero, List.cons.injEq, and_true]
    exact ⟨(byte_eq (by omega)).mpr (by omega), (byte_eq (by omega)).mpr (by omega)⟩
  | three least greatest isSecond isThird long whole =>
    rw [if_neg (by omega), if_neg (by omega), if_pos (by omega)]
    simp only [List.take_succ_cons, List.take_zero, List.cons.injEq, and_true]
    exact ⟨(byte_eq (by omega)).mpr (by omega), (byte_eq (by omega)).mpr (by omega),
      (byte_eq (by omega)).mpr (by omega)⟩
  | four least greatest isSecond isThird isFourth long small =>
    rw [if_neg (by omega), if_neg (by omega), if_neg (by omega)]
    simp only [List.take_succ_cons, List.take_zero, List.cons.injEq, and_true]
    exact ⟨(byte_eq (by omega)).mpr (by omega), (byte_eq (by omega)).mpr (by omega),
      (byte_eq (by omega)).mpr (by omega), (byte_eq (by omega)).mpr (by omega)⟩

/-- Bytes that are read whole are what is written for the text that was read. -/
theorem encode_of_strict? {bytes : List Byte} {chars : List Char} (read : strict? bytes = some chars) :
    encode chars = bytes := by
  match bytes with
  | [] =>
    rw [strict?, decode_nil] at read
    cases read
    rfl
  | first :: rest =>
    rw [strict?, decode_cons, List.mapM_cons] at read
    cases spelled : (glyph first rest).1 with
    | none =>
      rw [spelled] at read
      cases read
    | some c =>
      rw [spelled] at read
      cases more : strict? (rest.drop (glyph first rest).2) with
      | none =>
        rw [strict?] at more
        rw [more] at read
        cases read
      | some others =>
        have later := encode_of_strict? more
        rw [strict?] at more
        rw [more] at read
        cases read
        obtain ⟨number, isSpelled, rfl⟩ := spells_of_glyph spelled
        rw [encode, List.flatMap_cons, encodeChar_of_spells isSpelled, ← encode, later, List.cons_append,
          List.take_append_drop]
termination_by bytes.length
decreasing_by simp only [List.length_drop, List.length_cons]; omega

theorem lossy_append (before after : List Byte) : lossy (before ++ 10 :: after) = lossy before ++ '\n' :: lossy after := by
  rw [lossy, decode_append (by decide), List.map_append, List.map_cons]
  rfl

theorem feed_notMem_lossy {bytes : List Byte} (clean : 10 ∉ bytes) : '\n' ∉ lossy bytes := by
  match bytes with
  | [] => simp [lossy, decode_nil]
  | first :: rest =>
    rw [List.mem_cons, not_or] at clean
    rw [lossy, decode_cons, List.map_cons, List.mem_cons, not_or]
    constructor
    · intro spells
      cases read : (glyph first rest).1 with
      | none =>
        rw [read] at spells
        cases spells
      | some c =>
        rw [read] at spells
        cases spells
        exact clean.1 (feed_of_glyph read).symm
    · exact feed_notMem_lossy fun inside => clean.2 (List.mem_of_mem_drop inside)
termination_by bytes.length
decreasing_by simp only [List.length_drop, List.length_cons]; omega

end Cut

end SingleFlight.Text.Utf8
