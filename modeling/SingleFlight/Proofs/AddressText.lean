import SingleFlight.Proofs.HostText
import SingleFlight.Web.Address

/-!
Texts of addresses. An address is written so that each of its parts is read from the text again: the user name and the
password up to the last at sign, the host up to a colon, the port, and the path and the query behind them. Main
statement: `ofText?_text`.
-/

namespace SingleFlight.Web.Address

open Text

variable {kind : Char → Bool} {c : Char} {before after chars : List Char} {address other : Address} {scheme : Scheme}

/-- A character of ASCII that is dropped nowhere: neither a blank nor one below it. -/
def isVisible (c : Char) : Bool := 0x20 < c.toNat && c.toNat < 128

theorem isVisible_iff : isVisible c = true ↔ 0x20 < c.toNat ∧ c.toNat < 128 := by simp [isVisible]

/-- A character of a user name, a password, a host or a port. -/
def isAuthorityChar (c : Char) : Bool := isVisible c && !endsAuthority c && c ≠ '@'

theorem inside_of_isAuthorityChar (is : isAuthorityChar c = true) : isVisible c = true ∧ endsAuthority c = false := by
  simp only [isAuthorityChar, Bool.and_eq_true, Bool.not_eq_true'] at is
  exact is.1

theorem ne_at_of_isAuthorityChar (is : isAuthorityChar c = true) : decide (c = '@') = false := by
  simp only [isAuthorityChar, Bool.and_eq_true, decide_eq_true_eq] at is
  exact decide_eq_false is.2

section Ends

theorem trimBoth_of_clean (clean : ∀ c ∈ chars, kind c = false) : trimBoth kind chars = chars := by
  rw [trimBoth, dropWhile_eq_self kind chars fun c first => clean c (List.mem_of_head? first)]
  exact dropEndWhile_eq_self kind chars fun c last => clean c (List.mem_of_getLast? last)

theorem trim_of_visible (visible : ∀ c ∈ chars, isVisible c = true) : trim (String.ofList chars) = String.ofList chars := by
  have clean : ∀ c ∈ chars, isBlank c = false := by
    intro c inside
    obtain ⟨above, ascii⟩ := isVisible_iff.mp (visible c inside)
    exact of_ascii (fun c => 0x20 < c.toNat → isBlank c = false) (by decide +kernel) ascii above
  rw [trim, String.toList_ofList, trimChars, trimBoth_of_clean clean]

theorem prepare_of_visible (visible : ∀ c ∈ chars, isVisible c = true) : prepare (String.ofList chars) = chars := by
  have clean (c : Char) (inside : c ∈ chars) : 0x20 < c.toNat := (isVisible_iff.mp (visible c inside)).1
  rw [prepare, String.toList_ofList, trimBoth_of_clean fun c inside => decide_eq_false (Nat.not_le.mpr (clean c inside)),
    List.filter_eq_self]
  intro c inside
  rw [Bool.not_eq_true', Bool.or_eq_false_iff, Bool.or_eq_false_iff, decide_eq_false_iff_not, decide_eq_false_iff_not,
    decide_eq_false_iff_not]
  refine ⟨⟨?_, ?_⟩, ?_⟩ <;>
  · rintro rfl
    exact absurd (clean _ inside) (by decide)

theorem cutAtLast?_append (is : kind c = true) (clean : ∀ d ∈ after, kind d = false) (before : List Char) :
    cutAtLast? kind (before ++ c :: after) = some (before, after) := by
  have reversed : (before ++ c :: after).reverse = after.reverse ++ c :: before.reverse := by simp
  rw [cutAtLast?, reversed, cutAt_append is fun d inside => clean d (List.mem_reverse.mp inside)]
  dsimp only
  rw [List.reverse_reverse, List.reverse_reverse]

theorem cutAtLast?_of_clean (clean : ∀ d ∈ chars, kind d = false) : cutAtLast? kind chars = none := by
  rw [cutAtLast?, cutAt_of_clean fun d inside => clean d (List.mem_reverse.mp inside)]

end Ends

/-- An address as it can be read. -/
structure WellFormed (address : Address) : Prop where
  user : ∀ c ∈ address.user.toList, c.toNat < 128 ∧ isEncodedInUser c = false
  password : ∀ c ∈ address.password.toList, c.toNat < 128 ∧ isEncodedInUser c = false
  host : address.host.WellFormed
  port : address.port ≠ some address.scheme.defaultPort

section Reading

theorem encodeUser_clean (chars : List Char) : ∀ c ∈ (encodeUser chars).toList, c.toNat < 128 ∧ isEncodedInUser c = false := by
  rw [encodeUser, String.toList_ofList]
  exact percentEncode_clean isEncodedInUser_sparesCode chars

theorem port?_ne_default {port : Option UInt16} (found : port? scheme chars = some port) : port ≠ some scheme.defaultPort := by
  unfold port? at found
  split at found
  next =>
    obtain ⟨_, found⟩ := Option.ite_none_left_eq_some.mp found
    split at found
    next =>
      cases found
      nofun
    next given =>
      cases found
      rw [Bool.or_eq_true, not_or] at given
      intro same
      exact given.2 (decide_eq_true (Option.some.inj same))
  next =>
    cases found
    nofun

/-- The user name and the password in front of the last at sign, and what stands behind it. -/
def splitCredentials (chars : List Char) : (String × String) × List Char :=
  match cutAtLast? (· = '@') chars with
  | some (before, after) => (credentials before, after)
  | none => (("", ""), chars)

/-- The host that a text starts with, and its text. -/
def readHost? (chars : List Char) : Option Host :=
  if (hostPart false chars).isEmpty then none else Host.ofChars? (hostPart false chars)

theorem authority?_eq (scheme : Scheme) (chars : List Char) : authority? scheme chars =
    (readHost? (splitCredentials chars).2).bind fun host =>
      (port? scheme ((splitCredentials chars).2.drop (hostPart false (splitCredentials chars).2).length)).bind fun port =>
        some ⟨scheme, (splitCredentials chars).1.1, (splitCredentials chars).1.2, host, port, [""], none⟩ := by
  unfold authority? splitCredentials readHost?
  cases cutAtLast? (· = '@') chars with
  | none => dsimp only; split <;> rfl
  | some parts => dsimp only; split <;> rfl

theorem splitCredentials_clean (chars : List Char) :
    (∀ c ∈ (splitCredentials chars).1.1.toList, c.toNat < 128 ∧ isEncodedInUser c = false) ∧
    (∀ c ∈ (splitCredentials chars).1.2.toList, c.toNat < 128 ∧ isEncodedInUser c = false) := by
  unfold splitCredentials
  split
  next before after _ => exact ⟨encodeUser_clean _, encodeUser_clean _⟩
  next => exact ⟨nofun, nofun⟩

theorem authority?_wellFormed (found : authority? scheme chars = some address) : address.WellFormed := by
  rw [authority?_eq] at found
  obtain ⟨host, isHost, found⟩ := Option.bind_eq_some_iff.mp found
  obtain ⟨port, isPort, found⟩ := Option.bind_eq_some_iff.mp found
  cases found
  obtain ⟨user, password⟩ := splitCredentials_clean chars
  exact ⟨user, password, Host.ofChars?_wellFormed (Option.ite_none_left_eq_some.mp isHost).2, port?_ne_default isPort⟩

theorem WellFormed.withTarget (wellFormed : address.WellFormed) (directory : List String) (chars : List Char) :
    (address.withTarget directory chars).WellFormed := ⟨wellFormed.user, wellFormed.password, wellFormed.host, wellFormed.port⟩

theorem afterSlashes?_wellFormed (found : afterSlashes? scheme chars = some address) : address.WellFormed := by
  unfold afterSlashes? at found
  obtain ⟨read, isRead, found⟩ := bind_some found
  have wellFormed := authority?_wellFormed isRead
  split at found
  next =>
    cases found
    exact wellFormed
  next =>
    cases found
    exact wellFormed.withTarget _ _

/-- What is read as an address is well formed. -/
theorem ofText?_wellFormed {text : String} (found : ofText? text = some address) : address.WellFormed := by
  unfold ofText? read? at found
  split at found
  next => cases found
  next =>
    obtain ⟨scheme, _, found⟩ := bind_some found
    exact afterSlashes?_wellFormed found

end Reading

section Writing

theorem isAuthorityChar_of_user (clean : c.toNat < 128 ∧ isEncodedInUser c = false) : isAuthorityChar c = true :=
  of_ascii (fun c => isEncodedInUser c = false → isAuthorityChar c = true) (by decide +kernel) clean.1 clean.2

theorem isAuthorityChar_of_hostChar (is : Domain.isHostChar c = true) : isAuthorityChar c = true :=
  of_ascii (fun c => Domain.isHostChar c = true → isAuthorityChar c = true) (by decide +kernel) (Domain.isHostChar_iff.mp is).1 is

theorem isAuthorityChar_of_hexValue? (is : (hexValue? c).isSome = true) : isAuthorityChar c = true :=
  of_ascii (fun c => (hexValue? c).isSome = true → isAuthorityChar c = true) (by decide +kernel) (toNat_lt_of_hexValue? is) is

theorem host_chars {host : Host} (wellFormed : host.WellFormed) : ∀ c ∈ host.chars, isAuthorityChar c = true := by
  intro c inside
  cases host with
  | domain name => exact isAuthorityChar_of_hostChar (wellFormed.2.1 c inside)
  | version4 address => exact isAuthorityChar_of_hostChar (Host.version4Chars_hostChars address c inside)
  | version6 groups =>
    change c ∈ '[' :: (Host.version6Chars groups ++ [']']) at inside
    rw [List.mem_cons, List.mem_append, List.mem_singleton] at inside
    obtain rfl | inGroups | rfl := inside
    · decide
    · obtain isHex | rfl := Host.version6Chars_chars groups c inGroups
      · exact isAuthorityChar_of_hexValue? isHex
      · decide
    · decide

theorem port_chars (address : Address) : ∀ c ∈ address.portChars, isAuthorityChar c = true := by
  intro c inside
  unfold portChars at inside
  split at inside
  next =>
    rcases List.mem_cons.mp inside with rfl | inDigits
    · decide
    · exact isAuthorityChar_of_hostChar (Host.isHostChar_of_isDigit (Host.isDigit_mem inDigits))
  next => cases inside

theorem encodeUser_of_clean {text : String} (clean : ∀ c ∈ text.toList, c.toNat < 128 ∧ isEncodedInUser c = false) :
    encodeUser text.toList = text := by
  rw [encodeUser, percentEncode_of_clean clean, String.ofList_toList]

/-- A user name and a password are read as they were written, which holds no colon but the one between them. -/
theorem credentials_chars {user password : String} (cleanUser : ∀ c ∈ user.toList, c.toNat < 128 ∧ isEncodedInUser c = false)
    (cleanPassword : ∀ c ∈ password.toList, c.toNat < 128 ∧ isEncodedInUser c = false) :
    credentials (user.toList ++ (if password.isEmpty then [] else ':' :: password.toList)) = (user, password) := by
  have noColon : ∀ c ∈ user.toList, decide (c = ':') = false := clean_of cleanUser (by decide)
  by_cases empty : password.isEmpty = true
  · rw [if_pos empty, List.append_nil, credentials, cutAt_of_clean noColon]
    dsimp only
    rw [encodeUser_of_clean cleanUser, String.isEmpty_iff.mp empty]
    rfl
  · rw [if_neg empty, credentials, cutAt_append (by decide) noColon]
    dsimp only
    rw [encodeUser_of_clean cleanUser, Option.getD_some, encodeUser_of_clean cleanPassword]

theorem splitCredentials_chars (wellFormed : address.WellFormed) (clean : ∀ c ∈ after, decide (c = '@') = false) :
    splitCredentials (address.credentialChars ++ after) = ((address.user, address.password), after) := by
  unfold splitCredentials credentialChars
  by_cases empty : (address.user.isEmpty && address.password.isEmpty) = true
  · rw [if_pos empty, List.nil_append, cutAtLast?_of_clean clean]
    rw [Bool.and_eq_true, String.isEmpty_iff, String.isEmpty_iff] at empty
    rw [empty.1, empty.2]
  · rw [if_neg empty, List.append_assoc, List.singleton_append, cutAtLast?_append (by decide) clean]
    dsimp only
    rw [credentials_chars wellFormed.user wellFormed.password]

theorem hostPart_end (ends : after = [] ∨ after.head? = some ':') : hostPart false after = [] := by
  cases after with
  | nil => rfl
  | cons c rest =>
    obtain never | first := ends
    · cases never
    · rw [List.head?_cons] at first
      cases first
      rfl

theorem hostPart_plain (clean : ∀ c ∈ chars, Domain.isHostChar c = true) (ends : after = [] ∨ after.head? = some ':') :
    hostPart false (chars ++ after) = chars := by
  induction chars with
  | nil => exact hostPart_end ends
  | cons c rest ih =>
    have is := clean c List.mem_cons_self
    have noColon : ¬(decide (c = ':') && !false) = true := by
      rw [Bool.not_false, Bool.and_true, decide_eq_true_eq]
      rintro rfl
      exact absurd is (by decide)
    have noBracket : c ≠ '[' ∧ c ≠ ']' := by
      constructor <;>
      · rintro rfl
        exact absurd is (by decide)
    rw [List.cons_append, hostPart, if_neg noColon, if_neg noBracket.1, if_neg noBracket.2,
      ih fun d inside => clean d (List.mem_cons_of_mem _ inside)]

theorem hostPart_inBrackets (clean : ∀ c ∈ chars, c ≠ '[' ∧ c ≠ ']') (rest : List Char) :
    hostPart true (chars ++ rest) = chars ++ hostPart true rest := by
  induction chars with
  | nil => rfl
  | cons c more ih =>
    have noBracket := clean c List.mem_cons_self
    rw [List.cons_append, hostPart, if_neg (by simp), if_neg noBracket.1, if_neg noBracket.2,
      ih fun d inside => clean d (List.mem_cons_of_mem _ inside), List.cons_append]

theorem hostPart_bracketed (groups : List UInt16) (ends : after = [] ∨ after.head? = some ':') :
    hostPart false ('[' :: (Host.version6Chars groups ++ [']']) ++ after) = '[' :: (Host.version6Chars groups ++ [']']) := by
  have clean : ∀ c ∈ Host.version6Chars groups, c ≠ '[' ∧ c ≠ ']' := by
    intro c inside
    constructor <;>
    · rintro rfl
      exact absurd (Host.version6Chars_chars groups _ inside) (by decide)
  have opened (rest : List Char) : hostPart false ('[' :: rest) = '[' :: hostPart true rest := rfl
  have closed (rest : List Char) : hostPart true (']' :: rest) = ']' :: hostPart false rest := rfl
  rw [List.cons_append, List.append_assoc, List.singleton_append, opened, hostPart_inBrackets clean, closed, hostPart_end ends]

theorem hostPart_chars {host : Host} (wellFormed : host.WellFormed) (ends : after = [] ∨ after.head? = some ':') :
    hostPart false (host.chars ++ after) = host.chars := by
  cases host with
  | domain name => exact hostPart_plain wellFormed.2.1 ends
  | version4 address => exact hostPart_plain (Host.version4Chars_hostChars address) ends
  | version6 groups => exact hostPart_bracketed groups ends

theorem port?_portChars (notDefault : address.port ≠ some address.scheme.defaultPort) :
    port? address.scheme address.portChars = some address.port := by
  cases given : address.port with
  | none =>
    rw [portChars, given]
    rfl
  | some port =>
    have below := port.toNat_lt
    have proper : ¬(!(Decimal.digits port.toNat).all Decimal.isDigit || decide (65535 < Decimal.value (Decimal.digits port.toNat))) = true := by
      rw [Decimal.all_isDigit_digits, Decimal.value_digits]
      simp only [Bool.not_true, Bool.false_or, decide_eq_true_eq]
      omega
    have kept : ¬((Decimal.digits port.toNat).isEmpty || decide (UInt16.ofNat (Decimal.value (Decimal.digits port.toNat)) = address.scheme.defaultPort)) = true := by
      rw [Decimal.value_digits, UInt16.ofNat_toNat, Bool.or_eq_true, List.isEmpty_iff, decide_eq_true_eq]
      rintro (empty | same)
      · exact Decimal.digits_ne_nil _ empty
      · rw [given, same] at notDefault
        exact notDefault rfl
    rw [portChars, given]
    dsimp only
    rw [port?, if_neg proper, if_neg kept, Decimal.value_digits, UInt16.ofNat_toNat]

/-- What stands between the slashes and the path of an address. -/
def authorityChars (address : Address) : List Char := address.credentialChars ++ (address.host.chars ++ address.portChars)

theorem ne_at_hostPort (wellFormed : address.WellFormed) :
    ∀ c ∈ address.host.chars ++ address.portChars, decide (c = '@') = false := by
  intro c inside
  rcases List.mem_append.mp inside with inHost | inPort
  · exact ne_at_of_isAuthorityChar (host_chars wellFormed.host c inHost)
  · exact ne_at_of_isAuthorityChar (port_chars address c inPort)

theorem portChars_ends (address : Address) : address.portChars = [] ∨ address.portChars.head? = some ':' := by
  unfold portChars
  split
  next => exact .inr rfl
  next => exact .inl rfl

/-- An authority is read as the parts that it was written from, if its host is read at all. -/
theorem authority?_authorityChars (wellFormed : address.WellFormed) :
    authority? address.scheme address.authorityChars =
      (Host.ofChars? address.host.chars).map fun _ => { address with segments := [""], query := none } := by
  have ends := portChars_ends address
  have whole : readHost? (address.host.chars ++ address.portChars) = Host.ofChars? address.host.chars := by
    have filled : ¬address.host.chars.isEmpty = true := by
      rw [List.isEmpty_iff]
      exact Host.chars_ne_nil wellFormed.host
    rw [readHost?, hostPart_chars wellFormed.host ends, if_neg filled]
  rw [authority?_eq, authorityChars, splitCredentials_chars wellFormed (ne_at_hostPort wellFormed)]
  dsimp only
  rw [whole, hostPart_chars wellFormed.host ends, List.drop_left, port?_portChars wellFormed.port]
  cases isHost : Host.ofChars? address.host.chars with
  | none => rfl
  | some host =>
    rw [Host.ofChars?_chars wellFormed.host isHost]
    rfl

theorem credential_chars (wellFormed : address.WellFormed) :
    ∀ c ∈ address.credentialChars, isVisible c = true ∧ endsAuthority c = false := by
  intro c inside
  unfold credentialChars at inside
  split at inside
  next => cases inside
  next =>
    rw [List.mem_append, List.mem_append, List.mem_singleton] at inside
    obtain (inUser | inPassword) | rfl := inside
    · exact inside_of_isAuthorityChar (isAuthorityChar_of_user (wellFormed.user c inUser))
    · split at inPassword
      next => cases inPassword
      next =>
        rcases List.mem_cons.mp inPassword with rfl | inText
        · decide
        · exact inside_of_isAuthorityChar (isAuthorityChar_of_user (wellFormed.password c inText))
    · decide

theorem authority_chars (wellFormed : address.WellFormed) :
    ∀ c ∈ address.authorityChars, isVisible c = true ∧ endsAuthority c = false := by
  intro c inside
  rw [authorityChars, List.mem_append, List.mem_append] at inside
  obtain inCredentials | inHost | inPort := inside
  · exact credential_chars wellFormed c inCredentials
  · exact inside_of_isAuthorityChar (host_chars wellFormed.host c inHost)
  · exact inside_of_isAuthorityChar (port_chars address c inPort)

theorem authority_within (wellFormed : address.WellFormed) :
    ∀ c ∈ address.authorityChars, (fun c => !endsAuthority c) c = true := by
  intro c inside
  dsimp only
  rw [(authority_chars wellFormed c inside).2]
  rfl

theorem takeWhile_authority (wellFormed : address.WellFormed) (rest : List Char) :
    (address.authorityChars ++ '/' :: rest).takeWhile (fun c => !endsAuthority c) = address.authorityChars := by
  rw [List.takeWhile_append_of_pos (authority_within wellFormed), List.takeWhile_cons_of_neg (by decide), List.append_nil]

theorem authorityChars_ne_nil (wellFormed : address.WellFormed) : address.authorityChars ≠ [] := by
  intro empty
  rw [authorityChars, List.append_eq_nil_iff, List.append_eq_nil_iff] at empty
  exact Host.chars_ne_nil wellFormed.host empty.2.1

theorem chars_eq (address : Address) :
    address.chars = address.scheme.name.toList ++ ':' :: '/' :: '/' :: (address.authorityChars ++ address.target) := by
  simp [chars, authorityChars]

theorem chars_visible (wellFormed : address.WellFormed) (visible : ∀ c ∈ address.target, isVisible c = true) :
    ∀ c ∈ address.chars, isVisible c = true := by
  have name : address.scheme.name.toList.all isVisible = true := by
    cases address.scheme <;> decide
  intro c inside
  rw [chars_eq, List.mem_append, List.mem_cons, List.mem_cons, List.mem_cons, List.mem_append] at inside
  obtain inName | rfl | rfl | rfl | inAuthority | inTarget := inside
  · exact List.all_eq_true.mp name c inName
  · decide
  · decide
  · decide
  · exact (authority_chars wellFormed c inAuthority).1
  · exact visible c inTarget

theorem scheme?_name (scheme : Scheme) (rest : List Char) :
    scheme? (scheme.name.toList ++ ':' :: rest) = some (scheme.name, rest) := by
  have letters : scheme.name.toList.all Char.isAlpha = true := by
    cases scheme <;> decide
  rw [scheme?, cutAt_append (by decide) (clean_of (List.all_eq_true.mp letters) (by decide))]
  cases scheme <;> rfl

theorem ofName?_name (scheme : Scheme) : Scheme.ofName? scheme.name = some scheme := by
  cases scheme <;> decide

theorem afterSlashes?_authorityChars (wellFormed : address.WellFormed) (rest : List Char) :
    afterSlashes? address.scheme (address.authorityChars ++ '/' :: rest) = (Host.ofChars? address.host.chars).map fun _ =>
      ({ address with segments := [""], query := none } : Address).withTarget [] rest := by
  rw [afterSlashes?, takeWhile_authority wellFormed, List.dropWhile_append_of_pos (authority_within wellFormed),
    authority?_authorityChars wellFormed]
  cases Host.ofChars? address.host.chars <;> rfl

/-- An address is read from its own text as it was written, if its host is read at all. -/
theorem ofText?_text {rest : List Char} (wellFormed : address.WellFormed) (target : address.target = '/' :: rest)
    (visible : ∀ c ∈ address.target, isVisible c = true) :
    ofText? address.text = (Host.ofChars? address.host.chars).map fun _ =>
      ({ address with segments := [""], query := none } : Address).withTarget [] rest := by
  have slashes : ('/' :: '/' :: (address.authorityChars ++ address.target)).dropWhile isSlash =
      address.authorityChars ++ address.target := by
    obtain ⟨c, more, shape⟩ := List.exists_cons_of_ne_nil (authorityChars_ne_nil wellFormed)
    have noSlash : ¬isSlash c = true := by
      have ends := (authority_chars wellFormed c (by rw [shape]; exact List.mem_cons_self)).2
      rw [endsAuthority, Bool.or_eq_false_iff, Bool.or_eq_false_iff] at ends
      rw [ends.1.1]
      exact Bool.false_ne_true
    rw [List.dropWhile_cons_of_pos (by decide), List.dropWhile_cons_of_pos (by decide), shape, List.cons_append,
      List.dropWhile_cons_of_neg noSlash]
  rw [ofText?, text, prepare_of_visible (chars_visible wellFormed visible), chars_eq, read?, scheme?_name]
  dsimp only
  rw [ofName?_name, Option.bind_eq_bind, Option.bind_some]
  change afterSlashes? address.scheme (('/' :: '/' :: (address.authorityChars ++ address.target)).dropWhile isSlash) = _
  rw [slashes, target, afterSlashes?_authorityChars wellFormed]

end Writing

end SingleFlight.Web.Address
