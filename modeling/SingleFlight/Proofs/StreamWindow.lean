import SingleFlight.Proofs.Utf8Text
import SingleFlight.Proofs.Verdicts

/-!
The end of an output stream that is kept. A boundary between characters is looked for byte by byte, and one is met
after three bytes at most. Main statement: what is kept of a stream is the longest end of it within the limit, and
that is what every response of the gateway carries.
-/

namespace SingleFlight

open Gateway Text

namespace Text.Utf8

variable {limit position start : Nat} {bytes : List Byte} {chars dropped rest : List Char} {text window : String}

section Window

/-- What is kept fits, and with one more character in front of it it would not. -/
theorem dropTo_spec (limit : Nat) (chars : List Char) : ∃ dropped,
    chars = dropped ++ dropTo limit chars (size chars) ∧ size (dropTo limit chars (size chars)) ≤ limit ∧
      (dropped = [] ∨ ∃ init c, dropped = init ++ [c] ∧ limit < c.utf8Size + size (dropTo limit chars (size chars))) := by
  induction chars with
  | nil => exact ⟨[], rfl, Nat.zero_le limit, .inl rfl⟩
  | cons c rest ih =>
    rw [dropTo]
    split
    next fits => exact ⟨[], rfl, fits, .inl rfl⟩
    next tooLong =>
      rw [size_cons] at tooLong ⊢
      rw [Nat.add_sub_cancel_left]
      obtain ⟨dropped, whole, fits, more⟩ := ih
      refine ⟨c :: dropped, congrArg (c :: ·) whole, fits, .inr ?_⟩
      rcases more with rfl | ⟨init, last, rfl, more⟩
      · rw [List.nil_append] at whole
        exact ⟨[], c, rfl, by rw [← whole]; omega⟩
      · exact ⟨c :: init, last, rfl, more⟩

/-- Every end of a text that fits is an end of what is kept. -/
theorem suffix_dropTo (suffix : rest <:+ chars) (small : size rest ≤ limit) : rest <:+ dropTo limit chars (size chars) := by
  induction chars with
  | nil => exact suffix
  | cons c others ih =>
    rw [dropTo]
    split
    next => exact suffix
    next tooLong =>
      rw [size_cons, Nat.add_sub_cancel_left]
      rcases List.suffix_cons_iff.mp suffix with rfl | shorter
      · exact absurd small tooLong
      · exact ih shorter

/-- The longest end of a text that takes at most a number of bytes. Characters are kept whole, so that up to three
bytes of the number may be left over. -/
structure IsWindow (limit : Nat) (text window : String) : Prop where
  isEnd : ∃ dropped, text = dropped ++ window
  within : window.utf8ByteSize ≤ limit
  longest : ∀ dropped other, text = dropped ++ other → other.utf8ByteSize ≤ limit → ∃ between, window = between ++ other
  whole : text.utf8ByteSize ≤ limit → window = text
  nearly : limit < text.utf8ByteSize → limit ≤ window.utf8ByteSize + 3

theorem isWindow_tailWindow (limit : Nat) (text : String) : IsWindow limit text (tailWindow limit text) := by
  obtain ⟨dropped, whole, fits, more⟩ := dropTo_spec limit text.toList
  rw [← utf8ByteSize_ofList, ← tailWindow] at fits
  have isEnd : text = String.ofList dropped ++ tailWindow limit text := by
    rw [tailWindow, ← String.ofList_append, ← whole, String.ofList_toList]
  have parts := congrArg String.utf8ByteSize isEnd
  rw [String.utf8ByteSize_append, utf8ByteSize_ofList] at parts
  constructor
  case isEnd => exact ⟨_, isEnd⟩
  case within => exact fits
  case longest =>
    rintro front other same small
    have suffix : other.toList <:+ text.toList := ⟨front.toList, by rw [same, String.toList_append]⟩
    have fitsToo : size other.toList ≤ limit := by rwa [size_toList]
    obtain ⟨between, longer⟩ := suffix_dropTo suffix fitsToo
    exact ⟨String.ofList between, by rw [tailWindow, ← longer, String.ofList_append, String.ofList_toList]⟩
  case whole =>
    intro small
    rcases more with rfl | ⟨init, c, rfl, more⟩
    · rw [String.ofList_nil, String.empty_append] at isEnd
      exact isEnd.symm
    · rw [← utf8ByteSize_ofList, ← tailWindow] at more
      rw [size_append, size_cons, size_nil] at parts
      omega
  case nearly =>
    intro large
    rcases more with rfl | ⟨init, c, rfl, more⟩
    · rw [size_nil] at parts
      omega
    · rw [← utf8ByteSize_ofList, ← tailWindow] at more
      have short := Char.utf8Size_le_four c
      omega

theorem tailWindow_tailWindow (limit : Nat) (text : String) :
    tailWindow limit (tailWindow limit text) = tailWindow limit text :=
  (isWindow_tailWindow limit (tailWindow limit text)).whole (isWindow_tailWindow limit text).within

end Window

section Boundaries

/-- Whether a character starts at a position in the bytes of a text, or the text ends there. -/
def isBoundary (bytes : List Byte) (position : Nat) : Bool :=
  match bytes.drop position with
  | [] => position = bytes.length
  | b :: _ => !isTail b

/-- The first boundary that is met when a text is gone through byte by byte from a position on. Past the end of the
text there is none. -/
def boundaryFrom? (bytes : List Byte) (position : Nat) : Option Nat :=
  if bytes.length < position then none
  else if isBoundary bytes position then some position
  else boundaryFrom? bytes (position + 1)
termination_by bytes.length + 1 - position

theorem boundaryFrom?_eq (inside : start ≤ bytes.length) (boundary : isBoundary bytes start = true)
    (none : ∀ between, position ≤ between → between < start → isBoundary bytes between = false) (before : position ≤ start) :
    boundaryFrom? bytes position = some start := by
  fun_induction boundaryFrom? bytes position with
  | case1 position past => omega
  | case2 position _ found =>
    rcases Nat.eq_or_lt_of_le before with same | less
    · rw [same]
    · rw [none position (Nat.le_refl position) less] at found
      cases found
  | case3 position _ notFound ih =>
    rcases Nat.eq_or_lt_of_le before with rfl | less
    · exact absurd boundary notFound
    · exact ih (fun between after => none between (Nat.le_of_succ_le after)) less

/-- The first byte of a character is no byte that goes on with one, and all others are. -/
theorem encodeChar_shape (c : Char) : ∃ first others, String.utf8EncodeChar c = first :: others ∧ isTail first = false ∧
    ∀ b ∈ others, isTail b = true := by
  have notTail {value : Nat} (small : value < 256) (outside : value < 128 ∨ 191 < value) :
      isTail (UInt8.ofNat value) = false := by
    rw [isTail, Bool.and_eq_false_iff, decide_eq_false_iff_not, decide_eq_false_iff_not, le_byte small, byte_le small]
    change ¬128 ≤ value ∨ ¬value ≤ 191
    omega
  have bound : c.val.toNat < 0x110000 := by
    have whole := c.valid
    omega
  rw [String.utf8EncodeChar]
  split
  next => exact ⟨_, _, rfl, notTail (by omega) (.inl (by omega)), List.forall_mem_nil _⟩
  split
  next => exact ⟨_, _, rfl, notTail (by omega) (.inr (by omega)), List.forall_mem_singleton.mpr (isTail_tail _)⟩
  split
  next =>
    exact ⟨_, _, rfl, notTail (by omega) (.inr (by omega)),
      List.forall_mem_cons.mpr ⟨isTail_tail _, List.forall_mem_singleton.mpr (isTail_tail _)⟩⟩
  next =>
    exact ⟨_, _, rfl, notTail (by omega) (.inr (by omega)), List.forall_mem_cons.mpr ⟨isTail_tail _,
      List.forall_mem_cons.mpr ⟨isTail_tail _, List.forall_mem_singleton.mpr (isTail_tail _)⟩⟩⟩

theorem isBoundary_size (first second : List Char) : isBoundary (encode (first ++ second)) (size first) = true := by
  rw [isBoundary, encode_append, ← length_encode, List.drop_left]
  cases second with
  | nil => simp [encode]
  | cons c rest =>
    obtain ⟨lead, others, shape, notTail, _⟩ := encodeChar_shape c
    rw [encode, List.flatMap_cons, shape, List.cons_append]
    simp [notTail]

/-- Inside a character there is no boundary. -/
theorem not_isBoundary_inside (init rest : List Char) (c : Char) (after : size init < position)
    (before : position < size init + c.utf8Size) : isBoundary (encode (init ++ c :: rest)) position = false := by
  obtain ⟨lead, others, shape, _, tails⟩ := encodeChar_shape c
  have count := String.length_utf8EncodeChar c
  rw [shape, List.length_cons] at count
  obtain ⟨skipped, rfl⟩ := Nat.exists_eq_add_of_lt after
  have within : skipped < others.length := by omega
  have bytes : encode (init ++ c :: rest) = encode init ++ lead :: (others ++ encode rest) := by
    rw [encode_append, encode, encode, List.flatMap_cons, shape, List.cons_append, ← encode, ← encode]
  rw [isBoundary, bytes, Nat.add_assoc, ← length_encode, List.drop_length_add_append, List.drop_succ_cons,
    List.drop_append_of_le_length (Nat.le_of_lt within), List.drop_eq_getElem_cons within, List.cons_append]
  exact (congrArg not (tails _ (List.getElem_mem within))).trans rfl

/-- What is kept of a text that is too long starts at the first boundary that leaves few enough bytes. -/
theorem boundaryFrom?_tailWindow (large : limit < text.utf8ByteSize) : ∃ start ≤ text.utf8ByteSize,
    boundaryFrom? (ofString text) (text.utf8ByteSize - limit) = some start ∧
      ofString (tailWindow limit text) = (ofString text).drop start := by
  obtain ⟨dropped, whole, fits, more⟩ := dropTo_spec limit text.toList
  generalize kept : dropTo limit text.toList (size text.toList) = window at whole fits more
  have parts := size_toList text
  rw [whole, size_append] at parts
  have bytes : ofString text = encode (dropped ++ window) := by rw [ofString, whole]
  have length : (ofString text).length = text.utf8ByteSize := by rw [ofString, length_encode, size_toList]
  refine ⟨size dropped, by omega, boundaryFrom?_eq (by omega) (bytes ▸ isBoundary_size dropped window) ?_ (by omega), ?_⟩
  · intro position least less
    rcases more with rfl | ⟨init, c, rfl, more⟩
    · rw [size_nil] at less
      cases less
    · rw [size_append, size_cons, size_nil] at less parts
      rw [bytes, List.append_assoc, List.singleton_append]
      exact not_isBoundary_inside init window c (by omega) (by omega)
  · rw [bytes, encode_append, ← length_encode, List.drop_left, tailWindow, kept, ofString, String.toList_ofList]

end Boundaries

end Text.Utf8

namespace Gateway

variable {ν : Type} {answer : Answer}

/-- What the gateway says on an output stream: what the content of its answer says, unless it has refused the run. Where
nothing comes back that can be read, nothing is said. -/
def saidOn (stream : Response → String) : Except Trouble Answer → String
  | .error _ => ""
  | .ok answer => if answer.status = 423 then "" else (answer.response?.map stream).getD ""

@[simp]
theorem Answer.timed_stdout (response : Response) (elapsed : Milliseconds) : (timed response elapsed).stdout = response.stdout := by
  unfold timed
  split <;> rfl

@[simp]
theorem Answer.timed_stderr (response : Response) (elapsed : Milliseconds) : (timed response elapsed).stderr = response.stderr := by
  unfold timed
  split <;> rfl

namespace Answer

/-- However an answer is read, a stream of the response is what the answer says on it. -/
theorem response_streams (wellFormed : answer.isWellFormed = true) (elapsed : Milliseconds) :
    (answer.response elapsed).stdout = saidOn (·.stdout) (.ok answer) ∧
      (answer.response elapsed).stderr = saidOn (·.stderr) (.ok answer) := by
  rw [saidOn, saidOn]
  rcases response_cases answer elapsed with ⟨low, same⟩ | ⟨_, locked, same⟩ | ⟨_, other, same⟩
  · have notLocked : answer.status ≠ 423 := by omega
    rw [same, success, if_neg notLocked, if_neg notLocked]
    cases answer.response? with
    | none => exact ⟨rfl, rfl⟩
    | some response => exact ⟨timed_stdout response elapsed, timed_stderr response elapsed⟩
  · have isLocked := (httpStatus_eq_locked wellFormed).mp locked
    rw [same, if_pos isLocked, if_pos isLocked]
    exact ⟨rfl, rfl⟩
  · have notLocked : answer.status ≠ 423 := mt (httpStatus_eq_locked wellFormed).mpr other
    rw [same, failed, if_neg notLocked, if_neg notLocked]
    dsimp only
    rw [timed_stdout, timed_stderr]
    cases answer.response? with
    | none => exact ⟨rfl, rfl⟩
    | some response => exact ⟨rfl, rfl⟩

end Answer

theorem Trouble.response_streams (trouble : Trouble) (bound : Option Nat) (elapsed : Milliseconds) :
    (trouble.response bound elapsed).stdout = "" ∧ (trouble.response bound elapsed).stderr = "" := by
  unfold Trouble.response
  split <;> exact ⟨rfl, rfl⟩

theorem Client.execute_streams (client : Client) (network : Network ν) (request : Request) (elapsed : Milliseconds) (state : ν) :
    (client.execute network request elapsed state).1.stdout =
        Utf8.tailWindow streamLimit (saidOn (·.stdout) (client.exchange network request state)) ∧
      (client.execute network request elapsed state).1.stderr =
        Utf8.tailWindow streamLimit (saidOn (·.stderr) (client.exchange network request state)) := by
  rw [client.execute_eq]
  cases exchanged : client.exchange network request state with
  | error trouble =>
    obtain ⟨stdout, stderr⟩ := trouble.response_streams (client.timeouts.bound request.action) elapsed
    exact ⟨congrArg (Utf8.tailWindow streamLimit) stdout, congrArg (Utf8.tailWindow streamLimit) stderr⟩
  | ok answer =>
    obtain ⟨stdout, stderr⟩ := Answer.response_streams (network.fetch_isWellFormed _ _ _ _ exchanged) elapsed
    exact ⟨congrArg (Utf8.tailWindow streamLimit) stdout, congrArg (Utf8.tailWindow streamLimit) stderr⟩

/-- What is said on a stream is an end of what the content of an answer has for it: all of it, or nothing. -/
theorem saidOn_isEnd (stream : Response → String) {exchange : Except Trouble Answer} {spelled : Response}
    (answered : exchange = .ok answer) (read : answer.response? = some spelled) :
    ∃ dropped, stream spelled = dropped ++ saidOn stream exchange := by
  rw [answered, saidOn, read]
  split
  next => exact ⟨stream spelled, String.append_empty.symm⟩
  next => exact ⟨"", String.empty_append.symm⟩

/-- Of every text the longest end within the limit is kept, which the search for a boundary finds before the text ends;
and each stream of every response of the gateway is what is kept so of what the gateway says on it. -/
theorem streams_windowed :
    (∀ text, Utf8.IsWindow 131072 text (Utf8.tailWindow streamLimit text) ∧
      Utf8.tailWindow streamLimit (Utf8.tailWindow streamLimit text) = Utf8.tailWindow streamLimit text ∧
      (131072 < text.utf8ByteSize → 131069 ≤ (Utf8.tailWindow streamLimit text).utf8ByteSize ∧
        ∃ start ≤ text.utf8ByteSize, Utf8.boundaryFrom? (Utf8.ofString text) (text.utf8ByteSize - 131072) = some start ∧
          Utf8.ofString (Utf8.tailWindow streamLimit text) = (Utf8.ofString text).drop start)) ∧
    ∀ (ν : Type) (client : Client) (network : Network ν) (request : Request) (elapsed : Milliseconds) (state : ν),
      let exchange := client.exchange network request state
      let response := (client.execute network request elapsed state).1
      Utf8.IsWindow 131072 (saidOn (·.stdout) exchange) response.stdout ∧
      Utf8.IsWindow 131072 (saidOn (·.stderr) exchange) response.stderr ∧
      ∀ answer spelled, exchange = .ok answer → answer.response? = some spelled →
        (∃ dropped, spelled.stdout = dropped ++ response.stdout) ∧ ∃ dropped, spelled.stderr = dropped ++ response.stderr := by
  refine ⟨fun text => ⟨Utf8.isWindow_tailWindow _ text, Utf8.tailWindow_tailWindow _ text, fun large => ⟨?_, ?_⟩⟩, ?_⟩
  · have nearly : 131072 ≤ (Utf8.tailWindow streamLimit text).utf8ByteSize + 3 :=
      (Utf8.isWindow_tailWindow streamLimit text).nearly large
    omega
  · exact Utf8.boundaryFrom?_tailWindow large
  · intro ν client network request elapsed state exchange response
    obtain ⟨stdout, stderr⟩ := client.execute_streams network request elapsed state
    have stdoutWindow : Utf8.IsWindow 131072 (saidOn (·.stdout) exchange) response.stdout :=
      stdout ▸ Utf8.isWindow_tailWindow streamLimit _
    have stderrWindow : Utf8.IsWindow 131072 (saidOn (·.stderr) exchange) response.stderr :=
      stderr ▸ Utf8.isWindow_tailWindow streamLimit _
    refine ⟨stdoutWindow, stderrWindow, ?_⟩
    intro answer spelled answered read
    have joined {stream : Response → String} {kept : String} (window : Utf8.IsWindow 131072 (saidOn stream exchange) kept) :
        ∃ dropped, stream spelled = dropped ++ kept := by
      obtain ⟨before, whole⟩ := saidOn_isEnd stream answered read
      obtain ⟨between, said⟩ := window.isEnd
      exact ⟨before ++ between, by rw [whole, said, String.append_assoc]⟩
    exact ⟨joined stdoutWindow, joined stderrWindow⟩

end Gateway

end SingleFlight
