import SingleFlight.Proofs.ViewerText

/-!
What the form keeps in which an access address is shown. Main statement: two addresses are shown alike just if they lead
to one session with the same named values, whatever their schemes, paths and fragments are, and however their values are
ordered and spelled.
-/

namespace SingleFlight.Web

open Text

namespace Host

variable {host other : Host}

/-- The host that a text spells in which nothing has to be coded. -/
def spelled? (chars : List Char) : Option Host :=
  match chars with
  | '[' :: rest => version6? rest.dropLast
  | _ => if endsInNumber chars then version4? chars else some (domain (String.ofList chars))

theorem spelled?_of_hostChars {name : List Char} (clean : ∀ c ∈ name, Domain.isHostChar c = true) :
    spelled? name = if endsInNumber name then version4? name else some (domain (String.ofList name)) := by
  unfold spelled?
  split
  next rest => exact absurd (clean '[' List.mem_cons_self) (by decide)
  next => rfl

theorem spelled?_chars (wellFormed : host.WellFormed) : spelled? host.chars = some host := by
  cases host with
  | domain name =>
    obtain ⟨_, clean, notNumber⟩ := wellFormed
    rw [chars, spelled?_of_hostChars clean, notNumber, String.ofList_toList]
    rfl
  | version4 address =>
    rw [chars, spelled?_of_hostChars (version4Chars_hostChars address), endsInNumber_version4Chars, if_pos rfl,
      version4?_version4Chars]
  | version6 groups =>
    rw [chars, spelled?, List.dropLast_concat]
    exact version6?_version6Chars wellFormed

/-- No two hosts are written alike. -/
theorem chars_injective (wellFormed : host.WellFormed) (otherWellFormed : other.WellFormed) (same : host.chars = other.chars) :
    host = other := by
  have read := spelled?_chars wellFormed
  rw [same, spelled?_chars otherWellFormed] at read
  exact (Option.some.inj read).symm

end Host

namespace Address

variable {address other : Address}

/-- No two authorities of one scheme are written alike. -/
theorem authorityChars_injective (wellFormed : address.WellFormed) (otherWellFormed : other.WellFormed)
    (scheme : address.scheme = other.scheme) (same : address.authorityChars = other.authorityChars) :
    address.user = other.user ∧ address.password = other.password ∧ address.host = other.host ∧ address.port = other.port := by
  have split := splitCredentials_chars wellFormed (ne_at_hostPort wellFormed)
  rw [← authorityChars, same, authorityChars, splitCredentials_chars otherWellFormed (ne_at_hostPort otherWellFormed)] at split
  obtain ⟨credentials, rest⟩ := Prod.mk.inj split
  obtain ⟨user, password⟩ := Prod.mk.inj credentials
  have hostChars := hostPart_chars wellFormed.host (portChars_ends address)
  rw [← rest, hostPart_chars otherWellFormed.host (portChars_ends other)] at hostChars
  rw [hostChars, List.append_cancel_left_eq] at rest
  have port := port?_portChars wellFormed.port
  rw [← rest, scheme, port?_portChars otherWellFormed.port] at port
  exact ⟨user.symm, password.symm, Host.chars_injective wellFormed.host otherWellFormed.host hostChars.symm,
    (Option.some.inj port).symm⟩

end Address

namespace Form

theorem isAtMost_antisymm {first second : Pair} (before : isAtMost first second = true) (after : isAtMost second first = true) :
    first = second := by
  rw [isAtMost_iff] at before after
  rcases before with less | ⟨same, atMost⟩
  · rcases after with more | ⟨same, _⟩
    · exact absurd more (String.lt_asymm less)
    · exact absurd (same ▸ less) (String.lt_irrefl _)
  · rcases after with more | ⟨_, atLeast⟩
    · exact absurd (same ▸ more) (String.lt_irrefl _)
    · exact Prod.ext same (String.le_antisymm atMost atLeast)

end Form

namespace Viewer

open Form Address

variable {address other : Address}

/-- The named values that say something of the session, and not of how it is presented. -/
def sessionPairs (address : Address) : List Pair :=
  address.pairs.filter fun pair => pair.1 ≠ "autoconnect" ∧ pair.1 ≠ "resize"

theorem isFixed_eq (pair : Pair) : (!isFixed pair) = decide (pair.1 ≠ "autoconnect" ∧ pair.1 ≠ "resize") := by
  rw [Bool.eq_iff_iff]
  simp only [isFixed, fixedPairs, List.any_cons, List.any_nil, Bool.or_false, Bool.not_eq_true', Bool.or_eq_false_iff,
    beq_eq_false_iff_ne, decide_eq_true_eq, ne_comm]

theorem pairs_eq (address : Address) :
    Viewer.pairs address.pairs = (sessionPairs address).mergeSort isAtMost ++ fixedPairs := by
  rw [Viewer.pairs, sessionPairs, funext isFixed_eq]

/-- Named values are shown alike just if they are the same ones in some order. -/
theorem pairs_eq_iff : Viewer.pairs address.pairs = Viewer.pairs other.pairs ↔ (sessionPairs address).Perm (sessionPairs other) := by
  rw [pairs_eq, pairs_eq, List.append_cancel_right_eq]
  constructor
  · intro same
    exact (List.mergeSort_perm _ isAtMost).symm.trans (same ▸ List.mergeSort_perm _ isAtMost)
  · intro same
    apply List.Perm.eq_of_pairwise (fun first second _ _ => isAtMost_antisymm)
      (List.pairwise_mergeSort isAtMost_trans isAtMost_total _) (List.pairwise_mergeSort isAtMost_trans isAtMost_total _)
    exact (List.mergeSort_perm _ isAtMost).trans (same.trans (List.mergeSort_perm _ isAtMost).symm)

theorem render_injective {given others : List Pair} (filled : given ≠ []) (filledToo : others ≠ [])
    (same : render given = render others) : given = others := by
  rw [← pairs_render filled, same, pairs_render filledToo]

theorem viewer_eq_iff : viewer address = viewer other ↔ address.user = other.user ∧ address.password = other.password ∧
    address.host = other.host ∧ address.port.filter (· ≠ 443) = other.port.filter (· ≠ 443) ∧
    (sessionPairs address).Perm (sessionPairs other) := by
  rw [← pairs_eq_iff]
  constructor
  · intro same
    refine ⟨congrArg (·.user) same, congrArg (·.password) same, congrArg (·.host) same, congrArg (·.port) same, ?_⟩
    rw [← pairs_viewer, same, pairs_viewer]
  · rintro ⟨user, password, host, port, pairs⟩
    have usual : Scheme.https.defaultPort = 443 := rfl
    rw [viewer, viewer, withScheme, withScheme, usual, user, password, host, port, pairs]

/-- No two viewer addresses are written alike. -/
theorem text_viewer_injective (wellFormed : address.WellFormed) (otherWellFormed : other.WellFormed)
    (same : (viewer address).text = (viewer other).text) : viewer address = viewer other := by
  have chars : (viewer address).authorityChars ++ '/' :: viewerTarget address =
      (viewer other).authorityChars ++ '/' :: viewerTarget other := by
    have spelled := String.ofList_inj.mp same
    rw [chars_eq, chars_eq, target_viewer, target_viewer] at spelled
    have tails := List.append_cancel_left spelled
    simpa only [List.cons.injEq, true_and] using tails
  have authority : (viewer address).authorityChars = (viewer other).authorityChars := by
    rw [← takeWhile_authority (viewer_wellFormed wellFormed), chars, takeWhile_authority (viewer_wellFormed otherWellFormed)]
  have query : viewerQuery address = viewerQuery other := by
    rw [authority, List.append_cancel_left_eq, List.cons.injEq, viewerTarget, viewerTarget, List.append_cancel_left_eq,
      List.cons.injEq] at chars
    exact chars.2.2
  obtain ⟨user, password, host, port⟩ :=
    authorityChars_injective (viewer_wellFormed wellFormed) (viewer_wellFormed otherWellFormed) rfl authority
  have pairs := render_injective (pairs_ne_nil _) (pairs_ne_nil _) query
  exact viewer_eq_iff.mpr ⟨user, password, host, port, pairs_eq_iff.mp pairs⟩

theorem noFragment (wellFormed : address.WellFormed) : '#' ∉ (viewer address).text.toList := by
  have name : '#' ∉ Scheme.https.name.toList := by decide
  rw [text, String.toList_ofList, chars_eq, target_viewer, viewerTarget]
  simp only [List.mem_append, List.mem_cons]
  rintro (inName | never | never | never | inAuthority | never | inPath | never | inQuery)
  · exact name inName
  · cases never
  · cases never
  · cases never
  · exact absurd (authority_chars (viewer_wellFormed wellFormed) '#' inAuthority).2 (by decide)
  · cases never
  · exact absurd (viewerPath_clean '#' inPath).2.1 (by decide)
  · cases never
  · exact absurd (viewerQuery_clean address '#' inQuery).2.2.2 (by decide)

/-- The form in which an access address is shown leads to the same session: it is an https address with the user, the host
and the port of the given one, a fixed path and no fragment, and it names the same values in order, and then the fixed
ones. Two addresses are shown alike just if all of these agree. -/
theorem canonicalize_keeps_session {text : String} (read : ofText? (trim text) = some address) :
    (∃ shown : Address, canonicalize text = shown.text ∧ shown.scheme = .https ∧
      shown.user = address.user ∧ shown.password = address.password ∧ shown.host = address.host ∧
      (∀ port, shown.port = some port ↔ address.port = some port ∧ port ≠ address.scheme.defaultPort ∧ port ≠ 443) ∧
      shown.path = "/vnc.html".toList ∧ '#' ∉ (canonicalize text).toList ∧
      (∃ sorted : List Pair, shown.pairs = sorted ++ [("autoconnect", "true"), ("resize", "remote")] ∧
        sorted.Perm (address.pairs.filter fun pair => pair.1 ≠ "autoconnect" ∧ pair.1 ≠ "resize") ∧
        sorted.Pairwise fun first second => first.1 < second.1 ∨ first.1 = second.1 ∧ first.2 ≤ second.2) ∧
      ofText? (canonicalize text) = (Host.ofChars? address.host.chars).map fun _ => shown) ∧
    ∀ otherText other, ofText? (trim otherText) = some other → (canonicalize text = canonicalize otherText ↔
      address.user = other.user ∧ address.password = other.password ∧ address.host = other.host ∧
      address.port.filter (· ≠ 443) = other.port.filter (· ≠ 443) ∧
      (address.pairs.filter fun pair => pair.1 ≠ "autoconnect" ∧ pair.1 ≠ "resize").Perm
        (other.pairs.filter fun pair => pair.1 ≠ "autoconnect" ∧ pair.1 ≠ "resize")) := by
  have shows {text : String} {address : Address} (read : ofText? (trim text) = some address) :
      canonicalize text = (viewer address).text := by
    rw [canonicalize, read]
  have wellFormed := ofText?_wellFormed read
  refine ⟨⟨viewer address, shows read, rfl, rfl, rfl, rfl, ?_, ?_, ?_, ?_, ?_⟩, ?_⟩
  · intro port
    have notDefault (same : address.port = some port) : port ≠ address.scheme.defaultPort := by
      rintro rfl
      exact wellFormed.port same
    change address.port.filter (· ≠ 443) = some port ↔ _
    rw [Option.filter_eq_some_iff, decide_eq_true_eq]
    exact ⟨fun given => ⟨given.1, notDefault given.1, given.2⟩, fun given => ⟨given.1, given.2.2⟩⟩
  · rfl
  · rw [shows read]
    exact noFragment wellFormed
  · refine ⟨(sessionPairs address).mergeSort isAtMost, ?_, List.mergeSort_perm _ isAtMost, ?_⟩
    · rw [pairs_viewer, pairs_eq]
      rfl
    · exact (List.pairwise_mergeSort isAtMost_trans isAtMost_total _).imp (isAtMost_iff _ _).mp
  · rw [shows read, ofText?_text_viewer wellFormed]
  · intro otherText other otherRead
    rw [shows read, shows otherRead]
    constructor
    · exact fun same => viewer_eq_iff.mp (text_viewer_injective wellFormed (ofText?_wellFormed otherRead) same)
    · intro same
      rw [viewer_eq_iff.mpr same]

/-- An address of a session on the loopback host. -/
def loopback (scheme : Scheme) (segments : List String) (query : String) : Address where
  scheme
  user := "me"
  password := ""
  host := .version6 [0, 0, 0, 0, 0, 0, 0, 1]
  port := some 6080
  segments
  query := some query

theorem canonicalize_keeps_session_loopback :
    let first := " http://me@[::1]:6080/lite.html?b=2&a=%31#top"
    let second := "wss://me@[::1]:6080?a=1&resize=scale&b=2"
    ofText? (trim first) = some (loopback .http ["lite.html"] "b=2&a=%31") ∧
    ofText? (trim second) = some (loopback .wss [""] "a=1&resize=scale&b=2") ∧
    canonicalize first = canonicalize second := by
  intro first second
  have read : ofText? (trim first) = some (loopback .http ["lite.html"] "b=2&a=%31") := by decide
  have readToo : ofText? (trim second) = some (loopback .wss [""] "a=1&resize=scale&b=2") := by decide
  have pairs : sessionPairs (loopback .http ["lite.html"] "b=2&a=%31") = [("b", "2"), ("a", "1")] := by decide +kernel
  have pairsToo : sessionPairs (loopback .wss [""] "a=1&resize=scale&b=2") = [("a", "1"), ("b", "2")] := by decide +kernel
  have swapped : (sessionPairs (loopback .http ["lite.html"] "b=2&a=%31")).Perm
      (sessionPairs (loopback .wss [""] "a=1&resize=scale&b=2")) := by
    rw [pairs, pairsToo]
    exact List.Perm.swap _ _ _
  exact ⟨read, readToo, ((canonicalize_keeps_session read).2 second _ readToo).mpr ⟨rfl, rfl, rfl, rfl, swapped⟩⟩

end Viewer

end SingleFlight.Web
