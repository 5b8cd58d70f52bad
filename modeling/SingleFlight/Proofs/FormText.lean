import SingleFlight.Proofs.AsciiText
import SingleFlight.Proofs.PercentText
import SingleFlight.Web.Form

/-!
Form coding. Named values are read from a query as they were written, and a query that is written needs no further
encoding. Main statement: `pairs_render`.
-/

namespace SingleFlight.Web.Form

open Text

/-- The characters that form coding writes for names and values. -/
def isFormChar (c : Char) : Bool := c.isAlphanum || ['+', '%', '*', '-', '.', '_'].contains c

theorem encode_formChar (text : String) : ∀ c ∈ encode text, c.toNat < 128 ∧ isFormChar c = true := by
  have all : ∀ b : Byte, ((encodeByte b).all fun c => c.toNat < 128 && isFormChar c) = true := of_byte (by decide +kernel)
  intro c inside
  obtain ⟨b, _, inByte⟩ := List.mem_flatMap.mp inside
  simpa using List.all_eq_true.mp (all b) c inByte

/-- The bytes of written characters, with blanks for plus signs. -/
def bytesOf (chars : List Char) : List Byte :=
  (chars.map fun c => UInt8.ofNat c.toNat).map fun b => if b == 43 then 32 else b

theorem percentDecode_bytesOf (b : Byte) (rest : List Byte) :
    percentDecode (bytesOf (encodeByte b) ++ rest) = b :: percentDecode rest := by
  have all : ∀ b : Byte, bytesOf (encodeByte b) = [b] ∧ b ≠ 37 ∨
      bytesOf (encodeByte b) = (Web.encodeByte b).map fun c => UInt8.ofNat c.toNat := of_byte (by decide +kernel)
  obtain ⟨plain, notPercent⟩ | coded := all b
  · rw [plain]
    exact percentDecode_cons notPercent rest
  · rw [coded]
    exact percentDecode_encodeByte b rest

theorem percentDecode_flatMap (bytes : List Byte) : percentDecode (bytesOf (bytes.flatMap encodeByte)) = bytes := by
  induction bytes with
  | nil => exact percentDecode_nil
  | cons b rest ih =>
    have cut : bytesOf ((b :: rest).flatMap encodeByte) = bytesOf (encodeByte b) ++ bytesOf (rest.flatMap encodeByte) := by
      rw [List.flatMap_cons, bytesOf, List.map_append, List.map_append]
      rfl
    rw [cut, percentDecode_bytesOf, ih]

theorem lossy_ofString (text : String) : Utf8.lossy (Utf8.ofString text) = text.toList := by
  rw [Utf8.lossy, Utf8.decode_ofString, List.map_map]
  exact List.map_id _

/-- A name or a value is read as it was written, whatever characters it has. -/
theorem decode_encode (text : String) : decode (encode text) = text := by
  have bytes := Utf8.encode_ascii fun c inside => (encode_formChar text c inside).1
  have read : percentDecode (bytesOf (encode text)) = Utf8.ofString text := percentDecode_flatMap _
  rw [decode, bytes]
  change String.ofList (Utf8.lossy (percentDecode (bytesOf (encode text)))) = text
  rw [read, lossy_ofString, String.ofList_toList]

theorem pair_renderPair (given : Pair) : pair (renderPair given) = given := by
  have clean : ∀ c ∈ encode given.1, decide (c = '=') = false := clean_of (encode_formChar given.1) (by decide)
  rw [pair, renderPair, cutAt_append (by decide) clean]
  change (decode (encode given.1), decode (encode given.2)) = given
  rw [decode_encode, decode_encode]

/-- The characters of a written query. -/
def isQueryChar (c : Char) : Bool := isFormChar c || c = '=' || c = '&'

theorem renderPair_chars (given : Pair) : ∀ c ∈ renderPair given, c.toNat < 128 ∧ (isFormChar c = true ∨ c = '=') := by
  intro c inside
  rw [renderPair, List.mem_append, List.mem_cons] at inside
  obtain inName | rfl | inValue := inside
  · exact ⟨(encode_formChar given.1 c inName).1, .inl (encode_formChar given.1 c inName).2⟩
  · exact ⟨by decide, .inr rfl⟩
  · exact ⟨(encode_formChar given.2 c inValue).1, .inl (encode_formChar given.2 c inValue).2⟩

theorem render_chars (given : List Pair) : ∀ c ∈ render given, c.toNat < 128 ∧ isQueryChar c = true := by
  intro c inside
  obtain rfl | ⟨piece, among, inPiece⟩ := mem_joined inside
  · decide
  · obtain ⟨pair, _, rfl⟩ := List.mem_map.mp among
    obtain ⟨ascii, kept⟩ := renderPair_chars pair c inPiece
    refine ⟨ascii, ?_⟩
    rw [isQueryChar, Bool.or_eq_true, Bool.or_eq_true, decide_eq_true_eq]
    exact .inl kept

/-- Named values are read from a query as they were written. -/
theorem pairs_render {given : List Pair} (filled : given ≠ []) : pairs (render given) = given := by
  have clean : ∀ piece ∈ given.map renderPair, ∀ c ∈ piece, decide (c = '&') = false := by
    intro piece among
    obtain ⟨pair, _, rfl⟩ := List.mem_map.mp among
    exact clean_of (renderPair_chars pair) (by decide)
  have cut : split (· = '&') (render given) = given.map renderPair :=
    split_joined _ (by decide) (by simpa using filled) clean
  have whole : (given.map renderPair).filter (fun piece => !piece.isEmpty) = given.map renderPair := by
    rw [List.filter_eq_self]
    intro piece among
    obtain ⟨pair, _, rfl⟩ := List.mem_map.mp among
    simp [renderPair]
  rw [pairs, cut, whole, List.map_map]
  exact (List.map_congr_left fun pair _ => pair_renderPair pair).trans (List.map_id given)

end SingleFlight.Web.Form
