import SingleFlight.Proofs.Agreement
import SingleFlight.Proofs.ArtifactChoice
import SingleFlight.Proofs.Confinement
import SingleFlight.Status.Session

/-!
Which live session is found in a registry. Main statement: the five directories that changed last are looked at, each for
what its own state file says, and the first of them that tells an address settles the answer.
-/

namespace SingleFlight.Status

open Files Files.Tree Text OsText

variable {tree other : Tree} {root directory : Path} {url : String} {looked older others rest : List Subdirectory}

section Telling

/-- Whether a text is the first of several that is given and says something. -/
def IsFirstFilled (texts : List (Option String)) (text : String) : Prop :=
  ∃ before after, texts = before ++ some text :: after ∧ isBlankText text = false ∧
    ∀ passed, some passed ∈ before → isBlankText passed = true

theorem firstFilled_iff {texts : List (Option String)} {text : String} :
    firstFilled texts = some text ↔ IsFirstFilled texts text := by
  simp only [firstFilled, List.findSome?_eq_some_iff, filled_eq_some_iff, filled_eq_none_iff, IsFirstFilled]
  constructor
  · rintro ⟨before, given, after, rfl, ⟨rfl, notBlank⟩, blank⟩
    exact ⟨before, after, rfl, notBlank, fun passed passedIn => blank _ passedIn _ rfl⟩
  · rintro ⟨before, after, rfl, notBlank, blank⟩
    refine ⟨before, _, after, rfl, ⟨rfl, notBlank⟩, ?_⟩
    rintro _ passedIn passed rfl
    exact blank passed passedIn

/-- Whether the state file of a session can be read, says that the session is live, and gives an address; of the addresses
that it gives, the first that says something. -/
def Tells (tree : Tree) (directory : Path) (url : String) : Prop :=
  ∃ content session state, tree.read (directory.join "state.json") = .ok content ∧
    (Json.ofBytes? content).bind SessionState.ofJson? = some session ∧
    session.state = some state ∧ asciiLower (trim state) = "live" ∧
    IsFirstFilled [session.accessUrl, session.url, session.viewerUrl] url

theorem isLive_iff {session : SessionState} : session.isLive = true ↔
    ∃ state, session.state = some state ∧ asciiLower (trim state) = "live" := by
  rw [SessionState.isLive, Option.any_eq_true]
  exact exists_congr fun state => and_congr_right fun _ => decide_eq_true_iff

theorem sessionUrl?_eq_some {session : Subdirectory} : sessionUrl? tree session = some url ↔ Tells tree session.path url := by
  unfold sessionUrl? Tells
  cases read : tree.read (session.path.join sessionFile) with
  | error failure =>
    constructor
    · rintro ⟨⟩
    · rintro ⟨content, _, _, given, _⟩
      rw [show "state.json" = sessionFile from rfl, read] at given
      cases given
  | ok content =>
    dsimp only
    constructor
    · intro told
      split at told
      next => cases told
      next state parsed =>
        split at told
        next isLive =>
          obtain ⟨text, given, live⟩ := isLive_iff.mp isLive
          exact ⟨content, state, text, read, parsed, given, live, firstFilled_iff.mp told⟩
        next => cases told
    · rintro ⟨other, state, text, otherRead, parsed, given, live, first⟩
      obtain rfl : content = other := Except.ok.inj (read.symm.trans otherRead)
      rw [parsed]
      dsimp only
      rw [if_pos (isLive_iff.mpr ⟨text, given, live⟩)]
      exact firstFilled_iff.mpr first

theorem sessionUrl?_eq_none {session : Subdirectory} :
    sessionUrl? tree session = none ↔ ∀ url, ¬Tells tree session.path url := by
  rw [Option.eq_none_iff_forall_ne_some]
  exact forall_congr' fun url => not_congr sessionUrl?_eq_some

/-- A state file that reads the same tells the same. -/
theorem sessionUrl?_congr {session : Subdirectory} (same : ∀ content,
    other.read (session.path.join "state.json") = .ok content ↔ tree.read (session.path.join "state.json") = .ok content) :
    sessionUrl? other session = sessionUrl? tree session := by
  apply Option.ext
  intro url
  rw [sessionUrl?_eq_some, sessionUrl?_eq_some]
  unfold Tells
  simp only [same]

end Telling

section Order

theorem isNewer_iff {first second : Subdirectory} : isNewer first second = true ↔ NotAfter second first := by
  simp [isNewer, NotAfter]

theorem eq_of_notAfter {first second : Subdirectory} (below : NotAfter first second) (above : NotAfter second first) :
    first = second := by
  have path := path_of_notAfter below above
  have modified : first.modified = second.modified := by
    rcases below with less | ⟨same, _⟩
    · rcases above with more | ⟨same, _⟩ <;> omega
    · exact same
  cases first
  cases second
  cases path
  cases modified
  rfl

theorem pairwise_sessions (sessions : List Subdirectory) :
    (sessions.mergeSort isNewer).Pairwise fun first second => NotAfter second first := by
  have transitive (first second third : Subdirectory) (newer : isNewer first second = true) (older : isNewer second third = true) :
      isNewer first third = true :=
    isNewer_iff.mpr ((isNewer_iff.mp older).trans (isNewer_iff.mp newer))
  have total (first second : Subdirectory) : (isNewer first second || isNewer second first) = true := by
    rw [Bool.or_eq_true, isNewer_iff, isNewer_iff]
    exact NotAfter.total second first
  exact (List.pairwise_mergeSort transitive total sessions).imp isNewer_iff.mp

/-- The directories of a registry that are looked at and those that are not: all that there are, the latest first, and the
first five of them are looked at. -/
structure LooksAt (tree : Tree) (root : Path) (looked older : List Subdirectory) : Prop where
  all : (looked ++ older).Perm (tree.subdirectories root)
  falling : (looked ++ older).Pairwise fun first second => NotAfter second first
  count : looked.length = min 5 (tree.subdirectories root).length

theorem looksAt (tree : Tree) (root : Path) :
    LooksAt tree root (((tree.subdirectories root).mergeSort isNewer).take sessionsLookedAt)
      (((tree.subdirectories root).mergeSort isNewer).drop sessionsLookedAt) where
  all := by
    rw [List.take_append_drop]
    exact List.mergeSort_perm _ _
  falling := by
    rw [List.take_append_drop]
    exact pairwise_sessions _
  count := by
    rw [List.length_take, List.length_mergeSort]
    rfl

theorem LooksAt.unique (first : LooksAt tree root looked older) (second : LooksAt tree root others rest) :
    others = looked ∧ rest = older := by
  have whole : others ++ rest = looked ++ older :=
    List.Perm.eq_of_pairwise (fun _ _ _ _ before after => eq_of_notAfter after before) second.falling first.falling
      (second.all.trans first.all.symm)
  exact List.append_inj whole (second.count.trans first.count.symm)

theorem LooksAt.of_perm (looks : LooksAt tree root looked older)
    (same : (other.subdirectories root).Perm (tree.subdirectories root)) : LooksAt other root looked older where
  all := looks.all.trans same.symm
  falling := looks.falling
  count := looks.count.trans (by rw [same.length_eq])

theorem LooksAt.liveSession? (looks : LooksAt tree root looked older) :
    liveSession? tree root = looked.findSome? (sessionUrl? tree) := by
  obtain ⟨same, _⟩ := looks.unique (looksAt tree root)
  rw [← same]
  rfl

/-- Nothing counts but which directories are looked at and what is read of their state files. -/
theorem LooksAt.congr (looks : LooksAt tree root looked older) (otherLooks : LooksAt other root looked rest)
    (same : ∀ session ∈ looked, ∀ content, other.read (session.path.join "state.json") = .ok content ↔
      tree.read (session.path.join "state.json") = .ok content) :
    Status.liveSession? other root = Status.liveSession? tree root := by
  rw [looks.liveSession?, otherLooks.liveSession?]
  clear looks otherLooks
  induction looked with
  | nil => rfl
  | cons first rest ih =>
    rw [List.forall_mem_cons] at same
    rw [List.findSome?_cons, List.findSome?_cons, sessionUrl?_congr same.1, ih same.2]

end Order

/-- Whether two trees differ in nothing but what there is inside directories of a registry that are not looked at, and the
state files of those that are looked at are no links. -/
structure DiffersInside (tree other : Tree) (root : Path) (looked : List Subdirectory) (outer : Location) : Prop where
  located : tree.locate root = .ok outer
  otherLocated : other.locate root = .ok outer
  inside : ∀ location, other.find? location = tree.find? location ∨ ∃ name below, below ≠ [] ∧
    location = below ++ name :: outer ∧ ∀ session ∈ looked, session.path ≠ root.join name
  named : ∀ name modified, tree.HasDirectory root name modified → IsPlain name ∧ IsProper name
  noLinks : ∀ session ∈ looked, ∀ name, session.path = root.join name →
    ∀ target, tree.find? ("state.json" :: name :: outer) ≠ some (.link target)

namespace DiffersInside

variable {outer : Location}

theorem find?_of_short (differs : DiffersInside tree other root looked outer) {location : Location}
    (short : location.length ≤ outer.length + 1) : other.find? location = tree.find? location := by
  rcases differs.inside location with same | ⟨name, below, filled, rfl, _⟩
  · exact same
  · have long := List.length_pos_iff.mpr filled
    rw [List.length_append, List.length_cons] at short
    omega

theorem subdirectories (differs : DiffersInside tree other root looked outer) :
    (other.subdirectories root).Perm (tree.subdirectories root) :=
  subdirectories_perm differs.located differs.otherLocated (differs.find?_of_short (Nat.le_succ _))
    fun _ => differs.find?_of_short (Nat.le_refl _)

/-- The state files of what is looked at read the same. -/
theorem read (differs : DiffersInside tree other root looked outer) (looks : LooksAt tree root looked older)
    {session : Subdirectory} (sessionIn : session ∈ looked) (content : List Byte) :
    other.read (session.path.join "state.json") = .ok content ↔ tree.read (session.path.join "state.json") = .ok content := by
  obtain ⟨name, has, path⟩ := mem_subdirectories.mp (looks.all.mem_iff.mp (List.mem_append_left older sessionIn))
  obtain ⟨plain, proper⟩ := differs.named name _ has
  obtain ⟨entries, listed, entryIn⟩ := has
  obtain ⟨location, node, located, held, isDirectory, rfl⟩ := entries_iff.mp listed
  obtain rfl : outer = location := Except.ok.inj (differs.located.symm.trans located)
  have entry := mem_children.mp entryIn
  have otherHeld : other.find? outer = some node := (differs.find?_of_short (Nat.le_succ _)).trans held
  have otherEntry : other.find? (name :: outer) = some (.directory session.modified) :=
    (differs.find?_of_short (Nat.le_refl _)).trans entry
  have leads := (leadsTo_of_locate located held isDirectory).join plain proper entry rfl
  have otherLeads := (leadsTo_of_locate differs.otherLocated otherHeld isDirectory).join plain proper otherEntry rfl
  have stateFile : other.find? ("state.json" :: name :: outer) = tree.find? ("state.json" :: name :: outer) := by
    rcases differs.inside ("state.json" :: name :: outer) with same | ⟨changed, below, filled, shape, unlooked⟩
    · exact same
    · -- What is inside the directory of another name is not the state file of this one.
      have whole : [Utf8.ofString "state.json"] ++ name :: outer = below ++ changed :: outer := shape
      obtain ⟨_, same⟩ := List.append_inj' whole rfl
      cases same
      exact absurd path (unlooked session sessionIn)
  have noLink := differs.noLinks session sessionIn name path
  have opens (node : Node) : other.open? ((root.join name).join "state.json") = .ok node ↔
      tree.open? ((root.join name).join "state.json") = .ok node := by
    have stateNamed : IsPlain "state.json" := ⟨by decide, by decide, by decide⟩
    rw [leads.open?_join stateNamed (by decide) noLink, otherLeads.open?_join stateNamed (by decide) (by rwa [stateFile]),
      stateFile]
  rw [path]
  exact ⟨read_of_open? fun node => (opens node).mp, read_of_open? fun node => (opens node).mpr⟩

end DiffersInside

/-- In every registry the directories that changed last are looked at, five or as many as there are; among those that
changed at one time, the ones that sort last. The newest of them whose state file tells an address settles the answer, and
what stands in the way of another one does not make room for a further directory. The order in which a system lists the
registry makes no difference, and neither does anything beyond what is read of these state files. -/
theorem live_session_told (tree : Tree) (root : Path) : ∃ looked older, LooksAt tree root looked older ∧
    (∀ others rest, LooksAt tree root others rest → others = looked ∧ rest = older) ∧
    (∀ session, session ∈ looked ++ older ↔
      ∃ name, tree.HasDirectory root name session.modified ∧ session.path = root.join name) ∧
    (∀ url, liveSession? tree root = some url ↔ ∃ before session after, looked = before ++ session :: after ∧
      Tells tree session.path url ∧ ∀ passed ∈ before, ∀ other, ¬Tells tree passed.path other) ∧
    (liveSession? tree root = none ↔ ∀ session ∈ looked, ∀ url, ¬Tells tree session.path url) ∧
    (∀ other, tree.Reordered other → LooksAt other root looked older ∧ liveSession? other root = liveSession? tree root) ∧
    (∀ other rest, LooksAt other root looked rest →
      (∀ session ∈ looked, ∀ content, other.read (session.path.join "state.json") = .ok content ↔
        tree.read (session.path.join "state.json") = .ok content) →
      liveSession? other root = liveSession? tree root) ∧
    ∀ other outer, DiffersInside tree other root looked outer →
      LooksAt other root looked older ∧ liveSession? other root = liveSession? tree root := by
  have looks := looksAt tree root
  refine ⟨_, _, looks, ?_, ?_, ?_, ?_, ?_, ?_, ?_⟩
  · exact fun others rest => looks.unique
  · intro session
    rw [looks.all.mem_iff]
    exact mem_subdirectories
  · intro url
    rw [liveSession?, List.findSome?_eq_some_iff]
    simp only [sessionUrl?_eq_some, sessionUrl?_eq_none]
  · rw [liveSession?, List.findSome?_eq_none_iff]
    simp only [sessionUrl?_eq_none]
  · intro other reordered
    have otherLooks := looks.of_perm reordered.subdirectories
    exact ⟨otherLooks, looks.congr otherLooks fun _ _ _ => ⟨reordered.symm.grows.read, reordered.grows.read⟩⟩
  · exact fun other rest otherLooks same => looks.congr otherLooks same
  · intro other outer differs
    have otherLooks := looks.of_perm differs.subdirectories
    exact ⟨otherLooks, looks.congr otherLooks fun _ sessionIn => differs.read looks sessionIn⟩

/-- A registry of six sessions, of which the newest one has a link for its state file, to that of the oldest one. -/
def sixSessions : Tree where
  nodes := [([], .directory 0), (["work"], .directory 0),
    (["a", "work"], .directory 6), (["b", "work"], .directory 5), (["c", "work"], .directory 4),
    (["d", "work"], .directory 3), (["e", "work"], .directory 2), (["f", "work"], .directory 1),
    (["state.json", "a", "work"], .link "../f/state.json")]
  here := ["work"]
  distinct := by decide

/-- The state file of the oldest session. -/
def oldestState : Location := ["state.json", "f", "work"]

def linkedRegistry (content : List Byte) : Tree := sixSessions.put oldestState (.file content)

def newestFive : List Subdirectory := [⟨.ofText "/work/a", 6⟩, ⟨.ofText "/work/b", 5⟩,
    ⟨.ofText "/work/c", 4⟩, ⟨.ofText "/work/d", 3⟩, ⟨.ofText "/work/e", 2⟩]

def sessionAt (url : String) : List Byte :=
  Utf8.ofString ("\x7b\"state\":\"live\",\"url\":\"" ++ url ++ "\"\x7d")

/-- A registry with the same six directories in it. -/
theorem looksAt_six {tree : Tree} (here : tree.find? [] = some (.directory 0)) (work : tree.find? ["work"] = some (.directory 0))
    (same : tree.children ["work"] = sixSessions.children ["work"]) :
    LooksAt tree (.ofText "/work") newestFive [⟨.ofText "/work/f", 1⟩] := by
  obtain ⟨_, located⟩ := Ledger.leads_work tree here work
  have listed : tree.entries (.ofText "/work") = .ok (sixSessions.children ["work"]) :=
    entries_iff.mpr ⟨["work"], .directory 0, located, work, rfl, same.symm⟩
  have told : tree.subdirectories (.ofText "/work") = newestFive ++ [⟨.ofText "/work/f", 1⟩] := by
    rw [subdirectories, listed]
    rfl
  refine ⟨?_, ?_, ?_⟩
  · rw [told]
  · simp [newestFive, NotAfter]
  · rw [told]
    rfl

/-- The registry with a live session in the third directory. What the newest one says cannot be read, and the second one
says nothing. -/
def plainRegistry (content : List Byte) : Tree :=
  ((linkedRegistry content).put ["state.json", "a", "work"] (.file [])).put ["state.json", "c", "work"]
    (.file (sessionAt "https://c.example"))

theorem differs_plainRegistry (content other : List Byte) :
    DiffersInside (plainRegistry content) (plainRegistry other) (.ofText "/work") newestFive ["work"] where
  located := (Ledger.leads_work (plainRegistry content) rfl rfl).2
  otherLocated := (Ledger.leads_work (plainRegistry other) rfl rfl).2
  inside location := by
    by_cases oldest : location = oldestState
    · exact .inr ⟨"f", ["state.json"], List.cons_ne_nil _ _, oldest, by decide⟩
    · refine .inl ?_
      unfold plainRegistry linkedRegistry
      simp only [find?_put, if_neg oldest]
  named name modified has := by
    obtain ⟨entries, listed, entryIn⟩ := has
    obtain ⟨location, _, located, _, _, rfl⟩ := entries_iff.mp listed
    obtain rfl := Except.ok.inj ((Ledger.leads_work (plainRegistry content) rfl rfl).2.symm.trans located)
    have one : name ∈ (["a", "b", "c", "d", "e", "f"] : List OsText) := List.mem_map_of_mem (f := Prod.fst) entryIn
    simp only [List.mem_cons, List.not_mem_nil, or_false] at one
    rcases one with rfl | rfl | rfl | rfl | rfl | rfl <;> exact ⟨⟨by decide, by decide, by decide⟩, by decide⟩
  noLinks session sessionIn name path target link := by
    rw [plainRegistry, find?_put] at link
    split at link
    next => cases link
    next =>
      rw [find?_put] at link
      split at link
      next => cases link
      next noLink =>
        rw [linkedRegistry, find?_put] at link
        split at link
        next => cases link
        next =>
          have one : name = "a" ∧ target = "../f/state.json" := by simpa [sixSessions] using find?_iff.mp link
          exact noLink (by rw [one.1])

/-- Past a session that cannot be read and one that has no state file, the third one is found; and what the oldest one
says makes no difference. -/
theorem live_session_told_third :
    let first := plainRegistry (sessionAt "https://a.example")
    let second := plainRegistry []
    DiffersInside first second (.ofText "/work") newestFive ["work"] ∧
    liveSession? first (.ofText "/work") = some "https://c.example" ∧
      liveSession? second (.ofText "/work") = some "https://c.example" := by
  intro first second
  have differs : DiffersInside first second (.ofText "/work") newestFive ["work"] := differs_plainRegistry _ _
  have entry {name : OsText} {modified : Int} (named : IsPlain name ∧ IsProper name)
      (held : first.find? [name, "work"] = some (.directory modified))
      (fits : Fits (Path.join (.ofText "/work") name) "state.json") :
      first.locateEntry ((Path.join (.ofText "/work") name).join "state.json") =
        .ok (some ["state.json", name, "work"]) := by
    have leads := (Ledger.leads_work first rfl rfl).1.join named.1 named.2 held rfl
    exact (locateEntry_join ⟨by decide, by decide, by decide⟩ (by decide)).mpr ⟨fits, _, leads, rfl⟩
  have unread : first.read ((Path.join (.ofText "/work") "a").join "state.json") = .ok [] :=
    Ledger.FileStore.read_of_entry (entry ⟨⟨by decide, by decide, by decide⟩, by decide⟩ rfl ⟨by decide, by decide⟩) rfl
  have missing : first.read ((Path.join (.ofText "/work") "b").join "state.json") = .error .missing := by
    have vacant : first.vacancy ((Path.join (.ofText "/work") "b").join "state.json") =
        .ok ["state.json", "b", "work"] :=
      vacancy_iff.mpr ⟨entry ⟨⟨by decide, by decide, by decide⟩, by decide⟩ rfl ⟨by decide, by decide⟩, rfl⟩
    rw [Tree.read, open?_of_vacancy vacant]
    rfl
  have live : first.read ((Path.join (.ofText "/work") "c").join "state.json") =
      .ok (sessionAt "https://c.example") :=
    Ledger.FileStore.read_of_entry (entry ⟨⟨by decide, by decide, by decide⟩, by decide⟩ rfl ⟨by decide, by decide⟩) rfl
  obtain ⟨looked, older, looks, _, _, told, _, _, _, inside⟩ := live_session_told first (.ofText "/work")
  obtain ⟨rfl, rfl⟩ := looks.unique (looksAt_six rfl rfl rfl)
  have found : liveSession? first (.ofText "/work") = some "https://c.example" := by
    refine (told _).mpr ⟨[⟨.ofText "/work/a", 6⟩, ⟨.ofText "/work/b", 5⟩], ⟨.ofText "/work/c", 4⟩, _, rfl, ?_, ?_⟩
    · exact ⟨_, ⟨some "live", none, some "https://c.example", none⟩, "live", live, by decide +kernel, rfl, by decide,
        [none], [none], rfl, by decide, by simp⟩
    · refine List.forall_mem_cons.mpr ⟨?_, List.forall_mem_singleton.mpr ?_⟩
      · rintro other ⟨content, session, _, read, parsed, _⟩
        obtain rfl := Except.ok.inj (unread.symm.trans read)
        have never : (Json.ofBytes? []).bind SessionState.ofJson? = none := by decide +kernel
        rw [never] at parsed
        cases parsed
      · rintro other ⟨content, _, _, read, _⟩
        have never := missing.symm.trans read
        cases never
  exact ⟨differs, found, (inside second _ differs).2.trans found⟩

/-- The state file of the newest session reads as that of the oldest one. -/
theorem read_linkedRegistry (content : List Byte) :
    (linkedRegistry content).read (.ofText "/work/a/state.json") = .ok content := by
  let tree := linkedRegistry content
  have root : tree.find? [] = some (.directory 0) := rfl
  have work : tree.find? ["work"] = some (.directory 0) := rfl
  have newest : tree.find? ["a", "work"] = some (.directory 6) := rfl
  have oldest : tree.find? ["f", "work"] = some (.directory 1) := rfl
  have link : tree.find? ["state.json", "a", "work"] = some (.link "../f/state.json") := rfl
  have held : tree.find? oldestState = some (.file content) := rfl
  have spelled : steps? (.ofText "/work/a/state.json") = .ok ["work", "a", "state.json"] := by decide
  have target : steps "../f/state.json" ++ [] = [dots, Utf8.ofString "f", Utf8.ofString "state.json"] := by decide
  have followed : tree.walk linkLimit ["a", "work"] ["state.json"] =
      tree.walk 39 ["a", "work"] (steps "../f/state.json" ++ []) := walk_link newest rfl (by decide) link
  have located : tree.locate (.ofText "/work/a/state.json") = .ok oldestState := by
    rw [locate_of_steps spelled]
    change tree.walk linkLimit [] ["work", "a", "state.json"] = _
    rw [walk_name root rfl (by decide) (noLink_of work rfl), walk_name work rfl (by decide) (noLink_of newest rfl),
      followed, target, walk_dots newest rfl]
    change tree.walk 39 ["work"] ["f", "state.json"] = _
    rw [walk_name work rfl (by decide) (noLink_of oldest rfl)]
    exact walk_single oldest rfl (by decide) nofun
  change tree.read (.ofText "/work/a/state.json") = _
  rw [Tree.read, open?_iff.mpr ⟨_, located, held⟩]
  rfl

/-- Through a link, an older directory settles the answer: two registries in which the same five directories are looked at,
and which differ in one file of the sixth, are answered differently. -/
theorem older_session_told :
    let first := linkedRegistry (sessionAt "https://a.example")
    let second := linkedRegistry (sessionAt "https://b.example")
    LooksAt first (.ofText "/work") newestFive [⟨.ofText "/work/f", 1⟩] ∧
      LooksAt second (.ofText "/work") newestFive [⟨.ofText "/work/f", 1⟩] ∧
    (∀ location, location ≠ oldestState → second.find? location = first.find? location) ∧
    liveSession? first (.ofText "/work") = some "https://a.example" ∧
      liveSession? second (.ofText "/work") = some "https://b.example" := by
  have looks (content : List Byte) :
      LooksAt (linkedRegistry content) (.ofText "/work") newestFive [⟨.ofText "/work/f", 1⟩] :=
    looksAt_six rfl rfl rfl
  have told {url : String} (said : ((Json.ofBytes? (sessionAt url)).bind SessionState.ofJson?) = some ⟨some "live", none, some url, none⟩)
      (notBlank : isBlankText url = false) :
      liveSession? (linkedRegistry (sessionAt url)) (.ofText "/work") = some url := by
    have first : sessionUrl? (linkedRegistry (sessionAt url)) ⟨.ofText "/work/a", 6⟩ = some url :=
      sessionUrl?_eq_some.mpr ⟨_, _, "live", read_linkedRegistry _, said, rfl, by decide, [none], [none], rfl, notBlank, by simp⟩
    rw [(looks _).liveSession?, newestFive, List.findSome?_cons, first]
  intro first second
  refine ⟨looks _, looks _, ?_, told (by decide +kernel) (by decide),
    told (by decide +kernel) (by decide)⟩
  intro location other
  change (linkedRegistry _).find? location = (linkedRegistry _).find? location
  rw [linkedRegistry, linkedRegistry, find?_put, find?_put, if_neg other, if_neg other]

end SingleFlight.Status
