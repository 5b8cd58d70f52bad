import SingleFlight.Proofs.DomainText
import SingleFlight.Web.Host

/-!
Texts of hosts. A host is written so that it is read as itself: a domain name in its form in ASCII, an address of
version 4 in decimal, and an address of version 6 in hexadecimal groups with a gap for the first longest run of zeros.
Main statements: `ofChars?_wellFormed` and `ofChars?_chars`.
-/

namespace SingleFlight.Web.Host

open Text

variable {name chars front back : List Char} {host other : Host} {groups : List UInt16}

section Version4

/-- A positive number is written without a zero in front. -/
theorem digits_head {n : Nat} (positive : 0 < n) : ∃ c rest, Decimal.digits n = c :: rest ∧ c ≠ '0' := by
  induction n using Nat.strongRecOn with
  | _ n ih =>
    by_cases small : n < 10
    · have all : ∀ d : Fin 10, 0 < d.val → Decimal.digit d.val ≠ '0' := by decide
      exact ⟨_, _, Decimal.digits_of_lt small, all ⟨n, small⟩ positive⟩
    · obtain ⟨c, rest, shape, notZero⟩ := ih (n / 10) (by omega) (by omega)
      rw [Decimal.digits_of_ge small, shape]
      exact ⟨c, rest ++ [Decimal.digit n], rfl, notZero⟩

theorem number?_of_head {c : Char} (notZero : c ≠ '0') (rest : List Char) : number? (c :: rest) = Decimal.natural? (c :: rest) := by
  unfold number?
  split
  next same => cases same
  next same => cases same; exact absurd rfl notZero
  next same => cases same; exact absurd rfl notZero
  next same => cases same; exact absurd rfl notZero
  next => rfl

/-- A number in decimal is read as that number, and never as one in octal. -/
theorem number?_digits (n : Nat) : number? (Decimal.digits n) = some n := by
  cases n with
  | zero => rw [Decimal.digits_of_lt (by decide)]; decide
  | succ n =>
    obtain ⟨c, rest, shape, notZero⟩ := digits_head (Nat.succ_pos n)
    rw [shape, number?_of_head notZero, ← shape, Decimal.natural?_digits]

theorem isDigit_mem {n : Nat} {c : Char} (inside : c ∈ Decimal.digits n) : Decimal.isDigit c = true :=
  List.all_eq_true.mp (Decimal.all_isDigit_digits n) c inside

/-- The bytes of an address, the first one in front. -/
def bytes (address : UInt32) : List Nat :=
  [address.toNat / 16777216, address.toNat / 65536 % 256, address.toNat / 256 % 256, address.toNat % 256]

theorem parts_version4Chars (address : UInt32) : parts (version4Chars address) = (bytes address).map Decimal.digits := by
  have clean : ∀ piece ∈ (bytes address).map Decimal.digits, ∀ c ∈ piece, decide (c = '.') = false := by
    intro piece among
    obtain ⟨n, _, rfl⟩ := List.mem_map.mp among
    exact clean_of (fun _ => isDigit_mem) (by decide)
  have cut : split (· = '.') (version4Chars address) = (bytes address).map Decimal.digits :=
    split_joined _ (by decide) (by simp) clean
  have last : ((bytes address).map Decimal.digits).getLast? ≠ some [] := by
    intro same
    exact Decimal.digits_ne_nil _ (Option.some.inj same)
  rw [parts, cut, if_neg last]

theorem version4?_version4Chars (address : UInt32) : version4? (version4Chars address) = some (.version4 address) := by
  have below := address.toNat_lt
  have read : ((bytes address).map Decimal.digits).mapM number? = some (bytes address) := by
    rw [mapM_eq_some_iff, List.forall₂_map_left_iff, List.forall₂_same]
    exact fun n _ => number?_digits n
  have sum : address.toNat % 256 + address.toNat / 16777216 * 16777216 + address.toNat / 65536 % 256 * 65536 +
      address.toNat / 256 % 256 * 256 = address.toNat := by omega
  have bounded : ¬(3 < 3 ∨ [address.toNat / 16777216, address.toNat / 65536 % 256, address.toNat / 256 % 256].any (255 < ·) = true ∨
      256 ≤ address.toNat % 256) := by
    simp only [List.any_cons, List.any_nil, Bool.or_false, Bool.or_eq_true, decide_eq_true_eq]
    omega
  rw [version4?, parts_version4Chars, read]
  refine (if_neg bounded).trans ?_
  change some (version4 (UInt32.ofNat (address.toNat % 256 + address.toNat / 16777216 * 16777216 +
    address.toNat / 65536 % 256 * 65536 + address.toNat / 256 % 256 * 256))) = some (version4 address)
  rw [sum, UInt32.ofNat_toNat]

theorem endsInNumber_version4Chars (address : UInt32) : endsInNumber (version4Chars address) = true := by
  rw [endsInNumber, parts_version4Chars]
  have last : ((bytes address).map Decimal.digits).getLast? = some (Decimal.digits (address.toNat % 256)) := rfl
  rw [last]
  change (_ || (number? (Decimal.digits (address.toNat % 256))).isSome) = true
  rw [number?_digits, Bool.or_eq_true]
  exact .inr rfl

theorem isHostChar_of_isDigit {c : Char} (digit : Decimal.isDigit c = true) : Domain.isHostChar c = true := by
  have small : c.toNat < 128 := by
    rw [Decimal.isDigit, Bool.and_eq_true, decide_eq_true_eq, decide_eq_true_eq] at digit
    exact Nat.lt_of_le_of_lt digit.2 (by decide)
  exact of_ascii (fun c => Decimal.isDigit c = true → Domain.isHostChar c = true) (by decide +kernel) small digit

theorem version4Chars_hostChars (address : UInt32) : ∀ c ∈ version4Chars address, Domain.isHostChar c = true := by
  intro c inside
  obtain rfl | ⟨piece, among, inPiece⟩ := mem_joined inside
  · decide
  · obtain ⟨n, _, rfl⟩ := List.mem_map.mp among
    exact isHostChar_of_isDigit (isDigit_mem inPiece)

end Version4

section Version6

/-- Zeros in front of a number say nothing. -/
theorem hexNumber?_dropWhile (chars : List Char) : hexNumber? (chars.dropWhile (· = '0')) = hexNumber? chars := by
  induction chars with
  | nil => rfl
  | cons c rest ih =>
    rw [List.dropWhile_cons]
    split
    next zero =>
      rw [of_decide_eq_true zero, ih]
      rfl
    next => rfl

theorem hexNumber?_group (group : UInt16) : hexNumber? ((hexPadded 4 group.toNat).dropWhile (· = '0')) = some group.toNat := by
  rw [hexNumber?_dropWhile, hexNumber?_hexPadded, Nat.mod_eq_of_lt (show group.toNat < 16 ^ 4 from group.toNat_lt)]

/-- A group is written without zeros in front, unless it is zero. -/
theorem groupChars_cases (group : UInt16) :
    groupChars group = (hexPadded 4 group.toNat).dropWhile (· = '0') ∧ groupChars group ≠ [] ∨ groupChars group = ['0'] ∧ group = 0 := by
  have spelled := hexNumber?_group group
  unfold groupChars
  split
  next empty =>
    rw [empty] at spelled
    exact .inr ⟨rfl, UInt16.toNat_inj.mp (Option.some.inj spelled).symm⟩
  next digits notEmpty => exact .inl ⟨rfl, notEmpty⟩

theorem group?_groupChars (group : UInt16) : group? (groupChars group) = some group := by
  obtain ⟨spelled, filled⟩ | ⟨zero, rfl⟩ := groupChars_cases group
  · have short : (groupChars group).length ≤ 4 := by
      rw [spelled]
      exact (List.length_dropWhile_le _ _).trans (length_hexPadded 4 group.toNat).le
    have proper : ¬((groupChars group).isEmpty || decide (4 < (groupChars group).length)) = true := by
      simp [filled, short]
    rw [group?, if_neg proper, spelled, hexNumber?_group, Option.map_some, UInt16.ofNat_toNat]
  · rw [zero]
    decide

theorem groupChars_hex (group : UInt16) : ∀ c ∈ groupChars group, (hexValue? c).isSome = true := by
  intro c inside
  obtain ⟨spelled, _⟩ | ⟨zero, _⟩ := groupChars_cases group
  · rw [spelled] at inside
    exact isSome_hexValue? ((List.dropWhile_sublist _).subset inside)
  · rw [zero, List.mem_singleton] at inside
    rw [inside]
    decide

theorem groupChars_ne_nil (group : UInt16) : groupChars group ≠ [] := by
  obtain ⟨_, filled⟩ | ⟨zero, _⟩ := groupChars_cases group
  · exact filled
  · rw [zero]
    exact List.cons_ne_nil _ _

theorem groupChars_clean {mark : Char} (isMark : hexValue? mark = none) (group : UInt16) :
    ∀ c ∈ groupChars group, decide (c = mark) = false :=
  clean_of (groupChars_hex group) (by rw [isMark]; exact Bool.false_ne_true)

theorem split_groupsChars (filled : groups ≠ []) : split (· = ':') (groupsChars groups) = groups.map groupChars := by
  refine split_joined _ (by decide) (by simpa using filled) ?_
  intro piece among
  obtain ⟨group, _, rfl⟩ := List.mem_map.mp among
  exact groupChars_clean rfl group

theorem mapM_group? (groups : List UInt16) : (groups.map groupChars).mapM group? = some groups := by
  rw [mapM_eq_some_iff, List.forall₂_map_left_iff, List.forall₂_same]
  exact fun group _ => group?_groupChars group

theorem groups?_groupChars (groups : List UInt16) : groups? (groups.map groupChars) = some groups := by
  induction groups with
  | nil => rfl
  | cons group rest ih =>
    cases rest with
    | nil =>
      have noDot : ¬(groupChars group).contains '.' = true := by
        intro inside
        have clean : decide ('.' = '.') = false := groupChars_clean rfl group '.' (List.contains_iff_mem.mp inside)
        cases clean
      rw [List.map_cons, List.map_nil, groups?, if_neg noDot, group?_groupChars]
      rfl
    | cons second rest =>
      rw [List.map_cons] at ih ⊢
      rw [List.map_cons, groups?, group?_groupChars, ih]
      · rfl
      · exact List.cons_ne_nil _ _

theorem groupsChars_eq_nil : groupsChars groups = [] ↔ groups = [] := by
  constructor
  · intro empty
    cases groups with
    | nil => rfl
    | cons group rest =>
      obtain ⟨c, digits, shape⟩ := List.exists_cons_of_ne_nil (groupChars_ne_nil group)
      have inside : c ∈ groupsChars (group :: rest) :=
        mem_joined_of_mem ':' (List.mem_map_of_mem List.mem_cons_self) (by rw [shape]; exact List.mem_cons_self)
      rw [empty] at inside
      cases inside
  · intro empty
    rw [empty]
    rfl

theorem frontGroups?_groupsChars (groups : List UInt16) : frontGroups? (groupsChars groups) = some groups := by
  unfold frontGroups?
  split
  next empty => rw [groupsChars_eq_nil.mp (List.isEmpty_iff.mp empty)]
  next filled =>
    rw [List.isEmpty_iff, groupsChars_eq_nil] at filled
    rw [split_groupsChars filled, mapM_group?]

theorem backGroups?_groupsChars (groups : List UInt16) : backGroups? (groupsChars groups) = some groups := by
  unfold backGroups?
  split
  next empty => rw [groupsChars_eq_nil.mp (List.isEmpty_iff.mp empty)]
  next filled =>
    rw [List.isEmpty_iff, groupsChars_eq_nil] at filled
    rw [split_groupsChars filled, groups?_groupChars]

theorem cutAtGap_cons {c : Char} (other : c ≠ ':') (front rest : List Char) :
    cutAtGap front (c :: rest) = cutAtGap (c :: front) rest := by
  rw [cutAtGap]
  intro more same
  exact absurd same other

theorem cutAtGap_colon {c : Char} (other : c ≠ ':') (front rest : List Char) :
    cutAtGap front (':' :: c :: rest) = cutAtGap (':' :: front) (c :: rest) := by
  rw [cutAtGap]
  intro more _ same
  cases same
  exact other rfl

theorem cutAtGap_clean {piece : List Char} (clean : ∀ c ∈ piece, decide (c = ':') = false) (front rest : List Char) :
    cutAtGap front (piece ++ rest) = cutAtGap (piece.reverse ++ front) rest := by
  induction piece generalizing front with
  | nil => rfl
  | cons c more ih =>
    have other : c ≠ ':' := of_decide_eq_false (clean c List.mem_cons_self)
    rw [List.cons_append, cutAtGap_cons other, ih fun d inside => clean d (List.mem_cons_of_mem _ inside)]
    simp

theorem groupsChars_cons (group : UInt16) (rest : List UInt16) :
    ∃ c more, groupsChars (group :: rest) = c :: more ∧ c ≠ ':' := by
  obtain ⟨c, digits, shape⟩ := List.exists_cons_of_ne_nil (groupChars_ne_nil group)
  have other : decide (c = ':') = false := groupChars_clean rfl group c (by rw [shape]; exact List.mem_cons_self)
  cases rest with
  | nil => exact ⟨c, digits, (joined_single ':' _).trans shape, of_decide_eq_false other⟩
  | cons second rest =>
    refine ⟨c, digits ++ ':' :: groupsChars (second :: rest), ?_, of_decide_eq_false other⟩
    rw [← List.cons_append, ← shape]
    exact joined_cons ':' (groupChars group) (groupChars second) (rest.map groupChars)

/-- Groups hold no pair of colons, and none where they end. -/
theorem cutAtGap_groups (front : List Char) (groups : List UInt16) (rest : List Char) :
    cutAtGap front (groupsChars groups ++ rest) = cutAtGap ((groupsChars groups).reverse ++ front) rest := by
  induction groups generalizing front with
  | nil => rfl
  | cons group more ih =>
    have clean : ∀ c ∈ groupChars group, decide (c = ':') = false := groupChars_clean rfl group
    cases more with
    | nil =>
      have single : groupsChars [group] = groupChars group := joined_single ':' _
      rw [single, cutAtGap_clean clean]
    | cons second more =>
      have cut : groupsChars (group :: second :: more) = groupChars group ++ ':' :: groupsChars (second :: more) :=
        joined_cons ':' _ _ _
      obtain ⟨c, tail, shape, other⟩ := groupsChars_cons second more
      have passed : cutAtGap ((groupChars group).reverse ++ front) (':' :: (groupsChars (second :: more) ++ rest)) =
          cutAtGap (':' :: ((groupChars group).reverse ++ front)) (groupsChars (second :: more) ++ rest) := by
        rw [shape, List.cons_append]
        exact cutAtGap_colon other _ _
      rw [cut, List.append_assoc, List.cons_append, cutAtGap_clean clean, passed, ih]
      simp

/-- A run of zeros in groups, given by its start and its length. -/
def IsRun (groups : List UInt16) (run : Nat × Nat) : Prop :=
  ∃ front back, groups = front ++ List.replicate run.2 0 ++ back ∧ front.length = run.1

theorem zeros_spec (groups : List UInt16) : ∃ back, groups = List.replicate (zeros groups) 0 ++ back := by
  refine ⟨groups.dropWhile (· = 0), ?_⟩
  have allZero : groups.takeWhile (· = 0) = List.replicate (zeros groups) 0 := by
    rw [List.eq_replicate_iff]
    refine ⟨rfl, fun group inside => ?_⟩
    have zero := List.mem_takeWhile_imp inside
    exact of_decide_eq_true zero
  rw [← allZero, List.takeWhile_append_dropWhile]

theorem longestZeros_isRun {before : List UInt16} {best : Nat × Nat} (rest : List UInt16) (isRun : IsRun (before ++ rest) best) :
    IsRun (before ++ rest) (longestZeros before.length best rest) := by
  induction rest generalizing before best with
  | nil => exact isRun
  | cons group rest ih =>
    have whole : before ++ group :: rest = (before ++ [group]) ++ rest := by simp
    have place : before.length + 1 = (before ++ [group]).length := by simp
    rw [longestZeros, whole, place]
    refine ih ?_
    rw [← whole]
    split
    next =>
      obtain ⟨back, shape⟩ := zeros_spec (group :: rest)
      exact ⟨before, back, by rw [List.append_assoc, ← shape], rfl⟩
    next => exact isRun

/-- An address is written with all of its groups, or with a gap for a run of zeros. -/
theorem version6Chars_cases (groups : List UInt16) : version6Chars groups = groupsChars groups ∨
    ∃ front length back, groups = front ++ List.replicate length 0 ++ back ∧ 2 ≤ length ∧
      version6Chars groups = groupsChars front ++ ':' :: ':' :: groupsChars back := by
  have isRun : IsRun ([] ++ groups) (longestZeros [].length (0, 0) groups) := longestZeros_isRun groups ⟨[], groups, rfl, rfl⟩
  rw [List.nil_append, List.length_nil] at isRun
  unfold version6Chars
  generalize longestZeros 0 (0, 0) groups = run at isRun ⊢
  obtain ⟨start, length⟩ := run
  obtain ⟨front, back, shape, place⟩ := isRun
  dsimp only at shape place ⊢
  split
  next => exact .inl rfl
  next long =>
    refine .inr ⟨front, length, back, shape, Nat.not_lt.mp long, ?_⟩
    have starts : groups.take start = front := by
      rw [shape, List.append_assoc, ← place, List.take_left]
    have ends : groups.drop (start + length) = back := by
      rw [shape]
      exact List.drop_left' (by simp [place])
    rw [starts, ends, List.append_assoc]
    rfl

/-- An address is read as it was written. -/
theorem version6?_version6Chars (whole : groups.length = 8) : version6? (version6Chars groups) = some (.version6 groups) := by
  obtain plain | ⟨front, length, back, shape, long, gap⟩ := version6Chars_cases groups
  · have noGap : cutAtGap [] (groupsChars groups) = none := by
      have passed := cutAtGap_groups [] groups []
      rw [List.append_nil] at passed
      rw [passed]
      rfl
    have filled : groups ≠ [] := by
      rintro rfl
      cases whole
    rw [plain, version6?, noGap]
    dsimp only
    rw [split_groupsChars filled, groups?_groupChars]
    exact if_pos whole
  · have cut : cutAtGap [] (groupsChars front ++ ':' :: ':' :: groupsChars back) = some (groupsChars front, groupsChars back) := by
      rw [cutAtGap_groups, List.append_nil, cutAtGap, List.reverse_reverse]
    have sizes := congrArg List.length shape
    rw [whole, List.length_append, List.length_append, List.length_replicate] at sizes
    rw [gap, version6?, cut]
    dsimp only
    rw [frontGroups?_groupsChars, backGroups?_groupsChars]
    refine (if_neg (by omega)).trans ?_
    rw [show 8 - (front.length + back.length) = length by omega, ← shape]

theorem groupsChars_chars (groups : List UInt16) : ∀ c ∈ groupsChars groups, (hexValue? c).isSome = true ∨ c = ':' := by
  intro c inside
  obtain rfl | ⟨piece, among, inPiece⟩ := mem_joined inside
  · exact .inr rfl
  · obtain ⟨group, _, rfl⟩ := List.mem_map.mp among
    exact .inl (groupChars_hex group c inPiece)

theorem version6Chars_chars (groups : List UInt16) : ∀ c ∈ version6Chars groups, (hexValue? c).isSome = true ∨ c = ':' := by
  intro c inside
  obtain plain | ⟨front, length, back, _, _, gap⟩ := version6Chars_cases groups
  · rw [plain] at inside
    exact groupsChars_chars groups c inside
  · rw [gap, List.mem_append, List.mem_cons, List.mem_cons] at inside
    obtain inFront | same | same | inBack := inside
    · exact groupsChars_chars front c inFront
    · exact .inr same
    · exact .inr same
    · exact groupsChars_chars back c inBack

end Version6

section Reading

/-- A host as it can be read: no name is empty or ends in a number, and an address of version 6 has eight groups. -/
def WellFormed : Host → Prop
  | domain name =>
    name.toList ≠ [] ∧ (∀ c ∈ name.toList, Domain.isHostChar c = true) ∧ endsInNumber name.toList = false
  | version4 _ => True
  | version6 groups => groups.length = 8

theorem wellFormed_of_version4? (found : version4? name = some host) : host.WellFormed := by
  unfold version4? at found
  obtain ⟨numbers, _, found⟩ := bind_some found
  obtain ⟨last, _, found⟩ := bind_some found
  cases (Option.ite_none_left_eq_some.mp found).2
  exact trivial

theorem wellFormed_of_version6? (found : version6? chars = some host) : host.WellFormed := by
  unfold version6? at found
  split at found
  next =>
    obtain ⟨front, _, found⟩ := bind_some found
    obtain ⟨back, _, found⟩ := bind_some found
    obtain ⟨short, found⟩ := Option.ite_none_left_eq_some.mp found
    cases found
    change (front ++ List.replicate (8 - (front.length + back.length)) 0 ++ back).length = 8
    rw [List.length_append, List.length_append, List.length_replicate]
    omega
  next =>
    obtain ⟨groups, _, found⟩ := bind_some found
    obtain ⟨whole, found⟩ := Option.ite_none_right_eq_some.mp found
    cases found
    exact whole

/-- What is read as a host is well formed. -/
theorem ofChars?_wellFormed (found : ofChars? chars = some host) : host.WellFormed := by
  unfold ofChars? at found
  split at found
  next =>
    split at found
    next => exact wellFormed_of_version6? found
    next => cases found
  next =>
    obtain ⟨decoded, _, found⟩ := bind_some found
    obtain ⟨name, coded, found⟩ := bind_some found
    obtain ⟨filled, found⟩ := Option.ite_none_left_eq_some.mp found
    split at found
    next => exact wellFormed_of_version4? found
    next notNumber =>
      cases found
      change (String.ofList name).toList ≠ [] ∧ (∀ c ∈ (String.ofList name).toList, Domain.isHostChar c = true) ∧
        endsInNumber (String.ofList name).toList = false
      rw [String.toList_ofList]
      exact ⟨by simpa using filled, Domain.toAscii?_hostChars coded, by simpa using notNumber⟩

/-- A name in ASCII is read as it stands, if it is read at all. -/
theorem ofChars?_of_hostChars (clean : ∀ c ∈ name, Domain.isHostChar c = true) (found : ofChars? name = some host) :
    (if endsInNumber name then version4? name else some (domain (String.ofList name))) = some host := by
  have ascii : ∀ c ∈ name, c.toNat < 128 := fun c inside => (Domain.isHostChar_iff.mp (clean c inside)).1
  have noPercent : ∀ b ∈ Utf8.encode name, b ≠ 37 := by
    have all {c : Char} (small : c.toNat < 128) : Domain.isHostChar c = true → UInt8.ofNat c.toNat ≠ 37 :=
      of_ascii (fun c => Domain.isHostChar c = true → UInt8.ofNat c.toNat ≠ 37) (by decide +kernel) small
    rw [Utf8.encode_ascii ascii]
    intro b inside
    obtain ⟨c, inName, rfl⟩ := List.mem_map.mp inside
    exact all (ascii c inName) (clean c inName)
  have decoded : Utf8.strict? (percentDecode (Utf8.encode name)) = some name := by
    rw [percentDecode_of_clean noPercent, Utf8.strict?_encode]
  unfold ofChars? at found
  split at found
  next rest =>
    have bracket := clean '[' List.mem_cons_self
    exact absurd bracket (by decide)
  next =>
    rw [decoded, Option.bind_eq_bind, Option.bind_some] at found
    obtain ⟨ascii, coded, read⟩ := bind_some found
    rw [Domain.toAscii?_of_hostChars clean coded] at read
    exact (Option.ite_none_left_eq_some.mp read).2

/-- A host is read from its own text as itself, if it is read at all. -/
theorem ofChars?_chars (wellFormed : host.WellFormed) (found : ofChars? host.chars = some other) : other = host := by
  cases host with
  | domain name =>
    obtain ⟨_, clean, notNumber⟩ := wellFormed
    have read := ofChars?_of_hostChars clean found
    rw [notNumber, String.ofList_toList] at read
    exact (Option.some.inj read).symm
  | version4 address =>
    have read := ofChars?_of_hostChars (version4Chars_hostChars address) found
    rw [endsInNumber_version4Chars, if_pos rfl, version4?_version4Chars] at read
    exact (Option.some.inj read).symm
  | version6 groups =>
    have read := version6?_version6Chars wellFormed
    change (if (version6Chars groups ++ [']']).getLast? = some ']' then version6? (version6Chars groups ++ [']']).dropLast else none) =
      some other at found
    rw [if_pos List.getLast?_concat, List.dropLast_concat, read] at found
    exact (Option.some.inj found).symm

theorem chars_ne_nil (wellFormed : host.WellFormed) : host.chars ≠ [] := by
  cases host with
  | domain name => exact wellFormed.1
  | version4 address =>
    intro empty
    change version4Chars address = [] at empty
    have ends := endsInNumber_version4Chars address
    rw [empty] at ends
    exact absurd ends (by decide)
  | version6 groups => exact List.cons_ne_nil _ _

end Reading

end SingleFlight.Web.Host
