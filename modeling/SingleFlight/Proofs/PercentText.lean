import Mathlib.Tactic.Common
import SingleFlight.Proofs.AsciiText
import SingleFlight.Proofs.Utf8Text
import SingleFlight.Web.Percent

/-!
Percent encoding. What is encoded once holds nothing that is still to be encoded, and an encoded byte is read as that
byte; a byte other than a percent sign is read as it stands.
-/

namespace SingleFlight

open Text

namespace Text

theorem of_byte {holds : Byte → Prop} (all : ∀ value : Fin 256, holds (UInt8.ofNat value)) (b : Byte) : holds b := by
  rw [← UInt8.ofNat_toNat (x := b)]
  exact all ⟨b.toNat, b.toNat_lt⟩

theorem Utf8.encodeChar_ascii {c : Char} (ascii : c.toNat < 128) : String.utf8EncodeChar c = [UInt8.ofNat c.toNat] := by
  rw [String.utf8EncodeChar, if_pos (show c.val.toNat ≤ 127 from Nat.le_of_lt_succ ascii)]
  rfl

theorem Utf8.encode_ascii {chars : List Char} (ascii : ∀ c ∈ chars, c.toNat < 128) :
    Utf8.encode chars = chars.map fun c => UInt8.ofNat c.toNat := by
  induction chars with
  | nil => rfl
  | cons c rest ih =>
    have later := ih fun d inside => ascii d (List.mem_cons_of_mem _ inside)
    rw [Utf8.encode, List.flatMap_cons, encodeChar_ascii (ascii c List.mem_cons_self), List.map_cons]
    exact congrArg (UInt8.ofNat c.toNat :: ·) later

end Text

namespace Web

variable {kind : Char → Bool} {chars : List Char}

/-- A kind of characters that no encoded byte is made of. -/
def SparesCode (kind : Char → Bool) : Prop := ∀ b : Byte, ∀ c ∈ encodeByte b, c.toNat < 128 ∧ kind c = false

theorem isEncodedInUser_sparesCode : SparesCode isEncodedInUser := by
  have all : ∀ b : Byte, ((encodeByte b).all fun c => c.toNat < 128 && !isEncodedInUser c) = true := of_byte (by decide +kernel)
  intro b c inByte
  simpa using List.all_eq_true.mp (all b) c inByte

theorem percentEncode_clean (spares : SparesCode kind) (chars : List Char) :
    ∀ c ∈ percentEncode kind chars, c.toNat < 128 ∧ kind c = false := by
  intro c inside
  obtain ⟨d, _, inCode⟩ := List.mem_flatMap.mp inside
  split at inCode
  next =>
    obtain ⟨b, _, inByte⟩ := List.mem_flatMap.mp inCode
    exact spares b c inByte
  next kept =>
    simp only [Bool.or_eq_true, decide_eq_true_eq, not_or, Nat.not_le, Bool.not_eq_true] at kept
    rw [List.mem_singleton.mp inCode]
    exact kept

theorem percentEncode_of_clean (clean : ∀ c ∈ chars, c.toNat < 128 ∧ kind c = false) : percentEncode kind chars = chars := by
  induction chars with
  | nil => rfl
  | cons c rest ih =>
    have later := ih fun d inside => clean d (List.mem_cons_of_mem _ inside)
    obtain ⟨ascii, kept⟩ := clean c List.mem_cons_self
    have notEncoded : ¬(decide (0x80 ≤ c.toNat) || kind c) = true := by simp [kept, ascii]
    rw [percentEncode, List.flatMap_cons, if_neg notEncoded]
    exact congrArg (c :: ·) later

theorem percentDecodeOnto_eq (done bytes : List Byte) : percentDecodeOnto done bytes = done.reverse ++ percentDecode bytes := by
  match bytes with
  | [] => simp [percentDecode, percentDecodeOnto]
  | [last] => simp [percentDecode, percentDecodeOnto]
  | [first, second] => simp [percentDecode, percentDecodeOnto]
  | b :: first :: second :: rest =>
    rw [percentDecode, percentDecodeOnto, percentDecodeOnto]
    split
    next => rw [percentDecodeOnto_eq (_ :: done) rest, percentDecodeOnto_eq [_] rest]; simp
    next => rw [percentDecodeOnto_eq (_ :: done) (first :: second :: rest), percentDecodeOnto_eq [_] (first :: second :: rest)]; simp
termination_by bytes.length

theorem percentDecode_nil : percentDecode [] = [] := by simp [percentDecode, percentDecodeOnto]

/-- A byte that is no percent sign stands for itself. -/
theorem percentDecode_cons {b : Byte} (plain : b ≠ 37) (rest : List Byte) : percentDecode (b :: rest) = b :: percentDecode rest := by
  match rest with
  | [] => simp [percentDecode, percentDecodeOnto]
  | [_] => simp [percentDecode, percentDecodeOnto]
  | first :: second :: rest =>
    have other : (b == 37) = false := beq_eq_false_iff_ne.mpr plain
    rw [percentDecode, percentDecodeOnto, other, percentDecodeOnto_eq]
    rfl

theorem percentDecode_of_clean {bytes : List Byte} (clean : ∀ b ∈ bytes, b ≠ 37) : percentDecode bytes = bytes := by
  induction bytes with
  | nil => exact percentDecode_nil
  | cons b rest ih =>
    rw [percentDecode_cons (clean b List.mem_cons_self), ih fun d inside => clean d (List.mem_cons_of_mem _ inside)]

theorem hexByte?_hexDigitUpper (value : Nat) : hexByte? (UInt8.ofNat (hexDigitUpper value).toNat) = some (value % 16) := by
  have all : ∀ digit : Fin 16, hexByte? (UInt8.ofNat (Nat.digitChar digit.val).toUpper.toNat) = some digit.val := by decide
  exact all ⟨value % 16, Nat.mod_lt _ (by decide)⟩

/-- An encoded byte is read as that byte. -/
theorem percentDecode_encodeByte (b : Byte) (rest : List Byte) :
    percentDecode ((encodeByte b).map (fun c => UInt8.ofNat c.toNat) ++ rest) = b :: percentDecode rest := by
  have whole : UInt8.ofNat (b.toNat / 16 % 16 * 16 + b.toNat % 16) = b := by
    rw [show b.toNat / 16 % 16 * 16 + b.toNat % 16 = b.toNat by have := b.toNat_lt; omega]
    exact UInt8.ofNat_toNat
  have coded : (encodeByte b).map (fun c => UInt8.ofNat c.toNat) ++ rest =
      37 :: UInt8.ofNat (hexDigitUpper (b.toNat / 16)).toNat :: UInt8.ofNat (hexDigitUpper b.toNat).toNat :: rest := rfl
  rw [coded, percentDecode, percentDecodeOnto, hexByte?_hexDigitUpper, hexByte?_hexDigitUpper]
  change percentDecodeOnto [UInt8.ofNat (b.toNat / 16 % 16 * 16 + b.toNat % 16)] rest = _
  rw [percentDecodeOnto_eq, whole]
  rfl

end Web

end SingleFlight
