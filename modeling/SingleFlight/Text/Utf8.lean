/-!
UTF-8. A byte sequence is read as a list of glyphs: a character, or `none` for a longest malformed
run, so that one reading serves the strict reader (no `none` allowed), the lenient reader (each
`none` becomes U+FFFD) and readers that skip what they do not need. Main statement: what is written
for a text reads back as that text.
-/

namespace SingleFlight.Text

abbrev Byte := UInt8

/-- A character as it was read, or nothing where the bytes spell none. -/
abbrev Glyph := Option Char

namespace Utf8

def encode (chars : List Char) : List Byte := chars.flatMap String.utf8EncodeChar

def ofString (text : String) : List Byte := encode text.toList

/-- The number of bytes that a text takes. -/
def size (chars : List Char) : Nat := chars.foldl (fun total c => total + c.utf8Size) 0

def isTail (b : Byte) : Bool := 0x80 ≤ b && b ≤ 0xBF

/-- How a lead byte goes on: how many bytes follow it, and the least and the greatest second byte. -/
structure Lead where
  follow : Nat
  least : Byte
  greatest : Byte

def lead? (b : Byte) : Option Lead :=
  if 0xC2 ≤ b && b ≤ 0xDF then some ⟨1, 0x80, 0xBF⟩
  else if b == 0xE0 then some ⟨2, 0xA0, 0xBF⟩
  else if 0xE1 ≤ b && b ≤ 0xEC then some ⟨2, 0x80, 0xBF⟩
  else if b == 0xED then some ⟨2, 0x80, 0x9F⟩
  else if 0xEE ≤ b && b ≤ 0xEF then some ⟨2, 0x80, 0xBF⟩
  else if b == 0xF0 then some ⟨3, 0x90, 0xBF⟩
  else if 0xF1 ≤ b && b ≤ 0xF3 then some ⟨3, 0x80, 0xBF⟩
  else if b == 0xF4 then some ⟨3, 0x80, 0x8F⟩
  else none

def payload (b : Byte) (bits : Nat) : Nat := b.toNat % Nat.pow 2 bits

/-- Reads the glyph that starts with a byte, and says how many of the bytes after it belong to it.
A malformed run ends before the first byte that cannot go on with it. -/
def glyph (first : Byte) (rest : List Byte) : Glyph × Nat :=
  if first < 0x80 then (some (Char.ofNat first.toNat), 0)
  else match lead? first, rest with
    | none, _ => (none, 0)
    | some lead, second :: others =>
      if second < lead.least || lead.greatest < second then (none, 0)
      else if lead.follow = 1 then (some (Char.ofNat (payload first 5 * 64 + payload second 6)), 1)
      else match others with
        | third :: more =>
          if !isTail third then (none, 1)
          else if lead.follow = 2 then
            (some (Char.ofNat ((payload first 4 * 64 + payload second 6) * 64 + payload third 6)), 2)
          else match more with
            | fourth :: _ =>
              if !isTail fourth then (none, 2)
              else (some (Char.ofNat (((payload first 3 * 64 + payload second 6) * 64 + payload third 6) * 64 +
                payload fourth 6)), 3)
            | [] => (none, 2)
        | [] => (none, 1)
    | some _, [] => (none, 0)

/-- Reads the rest of a byte sequence after the glyphs already read, which are kept last first. -/
def decodeOnto (done : List Glyph) : List Byte → List Glyph
  | [] => done.reverse
  | first :: rest => decodeOnto ((glyph first rest).1 :: done) (rest.drop (glyph first rest).2)
termination_by bytes => bytes.length
decreasing_by simp only [List.length_drop, List.length_cons]; omega

def decode (bytes : List Byte) : List Glyph := decodeOnto [] bytes

/-- The text that a byte sequence spells, if all of it is well formed. -/
def strict? (bytes : List Byte) : Option (List Char) := (decode bytes).mapM id

/-- The text that a byte sequence spells, with U+FFFD for each malformed run. -/
def lossy (bytes : List Byte) : List Char := (decode bytes).map (·.getD (Char.ofNat 0xFFFD))

/-- Drops characters from the front until the rest takes at most `limit` bytes. -/
def dropTo (limit : Nat) : List Char → Nat → List Char
  | [], _ => []
  | c :: rest, total => if total ≤ limit then c :: rest else dropTo limit rest (total - c.utf8Size)

/-- The longest end of a text that takes at most `limit` bytes. -/
def tailWindow (limit : Nat) (text : String) : String :=
  String.ofList (dropTo limit text.toList (size text.toList))

theorem decodeOnto_eq (done : List Glyph) (bytes : List Byte) :
    decodeOnto done bytes = done.reverse ++ decode bytes := by
  match bytes with
  | [] => simp [decode, decodeOnto]
  | first :: rest =>
    rw [decode, decodeOnto, decodeOnto, decodeOnto_eq (_ :: done), decodeOnto_eq [_]]
    simp
termination_by bytes.length
decreasing_by all_goals simp only [List.length_drop, List.length_cons]; omega

theorem decode_nil : decode [] = [] := by simp [decode, decodeOnto]

theorem decode_cons (first : Byte) (rest : List Byte) :
    decode (first :: rest) = (glyph first rest).1 :: decode (rest.drop (glyph first rest).2) := by
  rw [decode, decodeOnto, decodeOnto_eq]
  simp

end Utf8

end SingleFlight.Text
