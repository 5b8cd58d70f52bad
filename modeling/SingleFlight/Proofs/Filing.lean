import Mathlib.Tactic.Common
import SingleFlight.Ledger.FileStore
import SingleFlight.Proofs.RecordText
import SingleFlight.Proofs.Staging

/-!
What an append does to the files. The file of a record comes into being whole, under a name that nothing
stood under, or nothing comes of the append but directories on the way to the ledger.
-/

namespace SingleFlight.Ledger.FileStore

open Files Files.Tree Text

def recordName (runId : RunId) : OsText := (runId.text ++ ".json" : String)

def stagingName (runId : RunId) (nonce : UInt32) : OsText :=
  ("." ++ runId.text ++ "." ++ String.ofList (hexPadded 8 nonce.toNat) ++ ".tmp" : String)

theorem recordPath_eq (root : Path) (runId : RunId) : recordPath root runId = root.join (recordName runId) := rfl

theorem stagingPath_eq (root : Path) (runId : RunId) (nonce : UInt32) :
    stagingPath root runId nonce = root.join (stagingName runId nonce) := rfl

@[simp]
theorem store_append (root : Path) : (store root).append = append root := rfl

@[simp]
theorem store_get (root : Path) (runId : RunId) (tree : Tree) : (store root).get runId tree = (get root runId tree, tree) := rfl

section Names

/-- The characters that the names of the ledger's files are made of. -/
def isNameChar (c : Char) : Bool := isRunIdChar c || c = '.'

theorem ascii_of_isNameChar {c : Char} (isName : isNameChar c = true) : c.toNat < 128 ∧ c ≠ '/' ∧ c ≠ Char.ofNat 0 := by
  simp only [isNameChar, isRunIdChar, Bool.or_eq_true, decide_eq_true_eq] at isName
  rcases isName with (is | is) | is
  · have bounds := toNat_of_isAlphanum is
    refine ⟨bounds.2, ?_, ?_⟩
    · intro slash
      rw [slash] at bounds
      exact absurd bounds.1 (by decide)
    · intro null
      rw [null] at bounds
      exact absurd bounds.1 (by decide)
  · rw [is]
    decide
  · rw [is]
    decide

/-- A name made of these characters is a plain and a proper one, if it is not too short and not too long. -/
theorem named {text : String} {count : Nat} (chars : text.toList.all isNameChar = true)
    (length : text.toList.length = count)
    (long : 2 < count) (short : count ≤ 255) :
    IsPlain (Utf8.ofString text) ∧ IsProper (Utf8.ofString text) ∧ (Utf8.ofString text).length = count := by
  have all := List.all_eq_true.mp chars
  have size : (Utf8.ofString text).length = count := by
    rw [Utf8.length_ofString_of_ascii fun c found => (ascii_of_isNameChar (all c found)).1, length]
  refine ⟨⟨?_, ?_, ?_⟩, ⟨?_, ?_, ?_⟩, size⟩
  · intro empty
    rw [empty] at size
    cases size
    cases long
  · intro slash
    exact (ascii_of_isNameChar (all _ (Utf8.mem_of_mem_ofString (by decide) slash))).2.1 rfl
  · intro null
    exact (ascii_of_isNameChar (all _ (Utf8.mem_of_mem_ofString (by decide) null))).2.2 rfl
  · intro isDot
    rw [isDot] at size
    cases size
    exact absurd long (by decide)
  · intro isDots
    rw [isDots] at size
    cases size
    exact absurd long (by decide)
  · rw [size]
    exact short

variable (runId : RunId) (nonce : UInt32)

theorem runId_chars : runId.text.toList.all isNameChar = true ∧ 0 < runId.text.toList.length ∧
    runId.text.toList.length ≤ 128 := by
  have valid := runId.valid
  simp only [isRunId, Bool.and_eq_true, Bool.not_eq_true', decide_eq_true_eq] at valid
  refine ⟨?_, ?_, valid.1.2⟩
  · rw [List.all_eq_true]
    intro c found
    rw [isNameChar, List.all_eq_true.mp valid.2 c found, Bool.true_or]
  · rw [List.length_pos_iff]
    intro empty
    rw [empty] at valid
    cases valid.1.1

theorem toList_recordText : (runId.text ++ ".json").toList = runId.text.toList ++ ".json".toList :=
  String.toList_append

theorem toList_stagingText :
    ("." ++ runId.text ++ "." ++ String.ofList (hexPadded 8 nonce.toNat) ++ ".tmp").toList =
    '.' :: (runId.text.toList ++ '.' :: (hexPadded 8 nonce.toNat ++ ".tmp".toList)) := by
  simp

theorem recordName_named : IsPlain (recordName runId) ∧ IsProper (recordName runId) ∧
    (recordName runId).length = runId.text.toList.length + 5 := by
  obtain ⟨chars, filled, short⟩ := runId_chars runId
  apply named
  · rw [toList_recordText, List.all_append, chars]
    decide
  · rw [toList_recordText, List.length_append]
    rfl
  · omega
  · omega

theorem all_isNameChar_hexPadded (width value : Nat) : (hexPadded width value).all isNameChar = true := by
  induction width generalizing value with
  | zero => rfl
  | succ width ih =>
    have all : ∀ d : Fin 16, isNameChar (Nat.digitChar d.val) = true := by decide
    rw [hexPadded, List.all_append, ih, Bool.true_and, List.all_cons, List.all_nil, Bool.and_true]
    exact all ⟨value % 16, Nat.mod_lt _ (by decide)⟩

theorem stagingName_named : IsPlain (stagingName runId nonce) ∧ IsProper (stagingName runId nonce) ∧
    (stagingName runId nonce).length = runId.text.toList.length + 14 := by
  obtain ⟨chars, filled, short⟩ := runId_chars runId
  apply named
  · rw [toList_stagingText, List.all_cons, List.all_append, List.all_cons, List.all_append, chars,
    all_isNameChar_hexPadded]
    decide
  · rw [toList_stagingText, List.length_cons, List.length_append, List.length_cons,
    List.length_append, length_hexPadded]
    change runId.text.toList.length + (8 + 4 + 1) + 1 = runId.text.toList.length + 14
    omega
  · omega
  · omega

/-- The name of a record and the staging name are two names, as only one of them starts with a point. -/
theorem recordName_ne_stagingName (other : RunId) : recordName other ≠ stagingName runId nonce := by
  intro same
  have chars := congrArg String.toList (Utf8.ofString_inj.mp same)
  rw [toList_recordText, toList_stagingText] at chars
  have valid := other.valid
  simp only [isRunId, Bool.and_eq_true, Bool.not_eq_true', decide_eq_true_eq] at valid
  cases shape : other.text.toList with
  | nil =>
    rw [shape] at valid
    cases valid.1.1
  | cons c rest =>
    rw [shape] at chars valid
    have point : c = '.' := (List.cons.inj chars).1
    rw [point, List.all_cons] at valid
    cases valid.2

theorem recordName_injective {first second : RunId} (same : recordName first = recordName second) : first = second := by
  have chars := congrArg String.toList (Utf8.ofString_inj.mp same)
  rw [toList_recordText, toList_recordText] at chars
  exact RunId.eq_of_text (String.toList_inj.mp (List.append_cancel_right chars))

/-- Where a staging name fits, the name of the record fits as well. -/
theorem fits_recordName {root : Path} (fits : Fits root (stagingName runId nonce)) : Fits root (recordName runId) := by
  have recordSize := (recordName_named runId).2.2
  have stagingSize := (stagingName_named runId nonce).2.2
  have short := fits.short
  exact ⟨fits.noNull, by omega⟩

end Names

variable {root : Path} {nonce : UInt32} {record : RunRecord} {runId : RunId} {tree opened : Tree} {staging : Location}

section Vacancies

variable {outer : Location} (leads : tree.LeadsTo root outer)

include leads

theorem vacancy_recordPath (fits : Fits root (recordName runId)) (nothing : tree.find? (recordName runId :: outer) = none) :
    tree.vacancy (recordPath root runId) = .ok (recordName runId :: outer) := by
  obtain ⟨plain, proper, _⟩ := recordName_named runId
  rw [vacancy_iff, recordPath_eq, locateEntry_join plain proper]
  exact ⟨⟨fits, outer, leads, rfl⟩, nothing⟩

theorem vacancy_stagingPath (fits : Fits root (stagingName runId nonce))
    (nothing : tree.find? (stagingName runId nonce :: outer) = none) :
    tree.vacancy (stagingPath root runId nonce) = .ok (stagingName runId nonce :: outer) := by
  obtain ⟨plain, proper, _⟩ := stagingName_named runId nonce
  rw [vacancy_iff, stagingPath_eq, locateEntry_join plain proper]
  exact ⟨⟨fits, outer, leads, rfl⟩, nothing⟩

end Vacancies

/-- Where the staging file goes, the record goes next to it. -/
theorem locateEntry_recordPath (entry : opened.locateEntry (stagingPath root runId nonce) = .ok (some staging)) :
    ∃ outer, opened.LeadsTo root outer ∧ staging = stagingName runId nonce :: outer ∧
      opened.locateEntry (recordPath root runId) = .ok (some (recordName runId :: outer)) := by
  obtain ⟨stagingPlain, stagingProper, _⟩ := stagingName_named runId nonce
  obtain ⟨recordPlain, recordProper, _⟩ := recordName_named runId
  rw [stagingPath_eq, locateEntry_join stagingPlain stagingProper] at entry
  obtain ⟨fits, outer, leads, same⟩ := entry
  refine ⟨outer, leads, same, ?_⟩
  rw [recordPath_eq, locateEntry_join recordPlain recordProper]
  exact ⟨fits_recordName runId nonce fits, outer, leads, rfl⟩

section Effects

variable {location : Location} (staged : opened.vacancy (stagingPath root runId nonce) = .ok staging)

include staged

/-- Staging leaves the whole content under the staging name, which is an ordinary file. -/
theorem performAll_staging (content : List Byte) (rest : List Effect) :
    opened.performAll (.createNew (stagingPath root runId nonce) :: .write (stagingPath root runId nonce) content ::
      .sync (stagingPath root runId nonce) :: rest) = (opened.put staging (.file content)).performAll rest := by
  rw [performAll, perform_createNew staged]
  dsimp only
  rw [performAll, perform_write staged]
  dsimp only
  rw [performAll, perform_sync staged]

/-- The record goes next to its staging file, under another name. -/
theorem filed_ne_staging (entry : opened.locateEntry (recordPath root runId) = .ok (some location)) : location ≠ staging := by
  obtain ⟨outer, _, rfl, recordEntry⟩ := locateEntry_recordPath (vacancy_iff.mp staged).1
  rw [recordEntry] at entry
  cases entry
  intro same
  exact recordName_ne_stagingName runId nonce runId (List.cons.inj same).1

/-- A staging file takes no other place. -/
theorem vacancy_staged (content : List Byte) :
    (opened.put staging (.file content)).vacancy (recordPath root runId) = opened.vacancy (recordPath root runId) := by
  obtain ⟨entry, vacant⟩ := vacancy_iff.mp staged
  obtain ⟨outer, _, _, recordEntry⟩ := locateEntry_recordPath entry
  have grown := grows_put vacant (show Node.isLink (.file content) = false from rfl)
  have different := filed_ne_staging staged recordEntry
  unfold vacancy
  rw [grown.follows.locateEntry recordEntry, recordEntry]
  simp [bind, Except.bind, different]

theorem perform_link (vacant : opened.vacancy (recordPath root runId) = .ok location) (content : List Byte) :
    (opened.put staging (.file content)).perform (.link (stagingPath root runId nonce) (recordPath root runId)) =
      .ok ((opened.put staging (.file content)).put location (.file content)) := by
  simp [perform, entry_staged staged, vacancy_staged staged, vacant, bind, Except.bind, pure, Except.pure]

theorem perform_remove (vacant : opened.vacancy (recordPath root runId) = .ok location) (content : List Byte) :
    ((opened.put staging (.file content)).put location (.file content)).perform (.remove (stagingPath root runId nonce)) =
      .ok (opened.put location (.file content)) := by
  have free := (vacancy_iff.mp staged).2
  obtain ⟨entry, nothing⟩ := vacancy_iff.mp vacant
  have different := filed_ne_staging staged entry
  have grown : Grows (opened.put staging (.file content)) ((opened.put staging (.file content)).put location (.file content)) := by
    refine grows_put ?_ rfl
    rw [find?_put, if_neg different]
    exact nothing
  have stillEntry := entry_iff.mpr ⟨grown.follows.locateEntry (locateEntry_staged staged content),
    show _ = some (Node.file content) by rw [find?_put, if_neg different.symm, find?_put, if_pos rfl]⟩
  simp [perform, stillEntry, bind, Except.bind, Node.isDirectory, erase_put_put free different]

end Effects

/-- An append whose staging name is free files the record, if nothing stands under its name, and leaves the
tree as it is if something does. -/
theorem append_eq (made : tree.makeDirectories root = (.ok (), opened)) (printable : record.isPrintable = true)
    (staged : opened.vacancy (stagingPath root record.runId nonce) = .ok staging) :
    append root nonce record tree =
      match opened.vacancy (recordPath root record.runId) with
      | .ok location => (.ok (), opened.put location (.file (payload record)))
      | .error failure => (.error (appendFault record.runId failure), opened) := by
  unfold append
  rw [made]
  dsimp only
  rw [if_pos printable, stageAndLink, performAll_staging staged]
  cases free : opened.vacancy (recordPath root record.runId) with
  | error failure =>
    have linked : (opened.put staging (.file (payload record))).perform
        (.link (stagingPath root record.runId nonce) (recordPath root record.runId)) = .error failure := by
      simp [perform, entry_staged staged, vacancy_staged staged, free, bind, Except.bind]
    have removed := perform_unstage staged (payload record)
    rw [performAll, linked]
    simp only [attempt, removed]
  | ok location =>
    rw [performAll, perform_link staged free]
    simp only [performAll, attempt, perform_remove staged free]

/-- An append of a record that cannot be written down comes to nothing once the directories are there. -/
theorem append_unprintable (nonce : UInt32) (made : tree.makeDirectories root = (.ok (), opened))
    (unprintable : ¬record.isPrintable = true) :
    append root nonce record tree = (.error (.recordUnprintable record.runId), opened) := by
  unfold append
  rw [made]
  dsimp only
  rw [if_neg unprintable]

/-- An append goes by nothing but what the tree is once the directories are there. -/
theorem append_congr {other : Tree} (nonce : UInt32) (record : RunRecord)
    (same : tree.makeDirectories root = other.makeDirectories root) :
    append root nonce record tree = append root nonce record other := by
  unfold append
  rw [same]

/-- What is read as a record is read so in every tree that has grown from the one it was read in. -/
theorem get_of_grows {after : Tree} {found : RunRecord} (grows : Grows tree after)
    (got : get root runId tree = .ok (some found)) : get root runId after = .ok (some found) := by
  unfold get at got ⊢
  cases read : tree.read (recordPath root runId) with
  | error failure =>
    rw [read] at got
    cases failure <;> cases got
  | ok content =>
    rw [read] at got
    rw [grows.read read]
    exact got

theorem read_of_entry {path : Path} {location : Location} {content : List Byte}
    (entry : tree.locateEntry path = .ok (some location)) (held : tree.find? location = some (.file content)) :
    tree.read path = .ok content := by
  have located := locate_of_locateEntry entry (by simp [held])
  unfold Tree.read
  rw [open?_iff.mpr ⟨location, located, held⟩]
  rfl

/-- A record is read back from the file that holds it. -/
theorem get_of_payload {location : Location} (printable : record.isPrintable = true)
    (entry : tree.locateEntry (recordPath root record.runId) = .ok (some location))
    (held : tree.find? location = some (.file (payload record))) : get root record.runId tree = .ok (some record) := by
  unfold get
  rw [read_of_entry entry held]
  dsimp only
  rw [decode?_payload printable]
  dsimp only
  rw [if_pos rfl]

/-- A file that takes a vacant place is found at its path. -/
theorem entry_of_filed {path : Path} {location : Location} (vacant : opened.vacancy path = .ok location) (content : List Byte) :
    (opened.put location (.file content)).locateEntry path = .ok (some location) := by
  obtain ⟨entry, nothing⟩ := vacancy_iff.mp vacant
  exact (grows_put nothing (show Node.isLink (.file content) = false from rfl)).follows.locateEntry entry

theorem get_of_filed {location : Location} (printable : record.isPrintable = true)
    (vacant : opened.vacancy (recordPath root record.runId) = .ok location) :
    get root record.runId (opened.put location (.file (payload record))) = .ok (some record) := by
  apply get_of_payload printable (entry_of_filed vacant (payload record))
  rw [find?_put, if_pos rfl]

/-- A run whose file is not there is not in the ledger. -/
theorem get_of_vacant {location : Location} (vacant : opened.vacancy (recordPath root runId) = .ok location) :
    get root runId opened = .ok none := by
  have missing : opened.read (recordPath root runId) = .error .missing := by
    unfold Tree.read
    rw [open?_of_vacancy vacant]
    rfl
  unfold get
  rw [missing]

/-- A ledger of files takes the record of a run that is new to it exactly if the record can be written down. -/
theorem append_new {location : Location} (made : tree.makeDirectories root = (.ok (), opened))
    (staged : opened.vacancy (stagingPath root record.runId nonce) = .ok staging)
    (vacant : opened.vacancy (recordPath root record.runId) = .ok location) :
    ((append root nonce record tree).1 = .ok () ↔ record.isPrintable = true) ∧
      get root record.runId (append root nonce record tree).2 = .ok (if record.isPrintable then some record else none) := by
  by_cases printable : record.isPrintable = true
  · rw [append_eq made printable staged, vacant, if_pos printable]
    exact ⟨⟨fun _ => printable, fun _ => rfl⟩, get_of_filed printable vacant⟩
  · rw [append_unprintable nonce made printable, if_neg printable]
    refine ⟨⟨nofun, fun is => absurd is printable⟩, get_of_vacant vacant⟩

/-- Whether the name that an append stages its record under is free: where it stands once the directories on
the way to the ledger are there, nothing stood before. -/
def StagingFree (root : Path) (nonce : UInt32) (runId : RunId) (tree : Tree) : Prop :=
  ∀ location, (tree.makeDirectories root).2.locateEntry (stagingPath root runId nonce) = .ok (some location) →
    tree.find? location = none

/-- What can come of an append: the one new file, from which the record is read back, or a fault and nothing
new but directories. -/
inductive Outcome (root : Path) (record : RunRecord) (tree : Tree) : Except Fault Unit × Tree → Prop where
  | filed {opened : Tree} {location : Location} (paved : Paved root tree opened)
    (vacant : opened.vacancy (recordPath root record.runId) = .ok location)
    (readable : get root record.runId (opened.put location (.file (payload record))) = .ok (some record)) :
    Outcome root record tree (.ok (), opened.put location (.file (payload record)))
  | refused {opened : Tree} (paved : Paved root tree opened) (fault : Fault) :
    Outcome root record tree (.error fault, opened)

theorem append_unstaged {failure : Files.Failure} (made : tree.makeDirectories root = (.ok (), opened))
    (printable : record.isPrintable = true)
    (taken : opened.vacancy (stagingPath root record.runId nonce) = .error failure) :
    append root nonce record tree = (.error (appendFault record.runId failure),
      opened.attempt (.remove (stagingPath root record.runId nonce))) := by
  have notCreated : opened.perform (.createNew (stagingPath root record.runId nonce)) = .error failure := by
    simp [perform, taken, bind, Except.bind]
  rw [append, made]
  dsimp only
  rw [if_pos printable, stageAndLink, performAll, notCreated]

/-- A ledger takes no record where its directory leaves no room for names. -/
theorem append_cramped (made : tree.makeDirectories root = (.ok (), opened)) (printable : record.isPrintable = true)
    (noNull : 0 ∉ root.text) (long : longestPath < root.text.length + (record.runId.text.toList.length + 14)) :
    append root nonce record tree = (.error (.fileStore "append" .nameTooLong (some record.runId)), opened) := by
  obtain ⟨plain, _, size⟩ := stagingName_named record.runId nonce
  have spelled : steps? (root.join (stagingName record.runId nonce)) = .error .nameTooLong := by
    apply steps?_nameTooLong
    · rw [join_text root plain, List.mem_append, null_mem_lead]
      exact not_or_intro noNull plain.noNull
    · rw [join_text root plain, List.length_append, size]
      exact Nat.lt_of_lt_of_le long (Nat.add_le_add_right (length_le_lead root) _)
  have failed : opened.locateEntry (stagingPath root record.runId nonce) = .error .nameTooLong := by
    rw [stagingPath_eq, locateEntry_eq, spelled]
    rfl
  have taken : opened.vacancy (stagingPath root record.runId nonce) = .error .nameTooLong := by
    simp [vacancy, failed, bind, Except.bind]
  have unremoved : opened.attempt (.remove (stagingPath root record.runId nonce)) = opened := by
    simp [attempt, perform, entry, failed, bind, Except.bind]
  rw [append_unstaged made printable taken, unremoved]
  rfl

theorem append_outcome (free : StagingFree root nonce record.runId tree) :
    Outcome root record tree (append root nonce record tree) := by
  have paved := makeDirectories_paved tree root
  unfold StagingFree at free
  cases made : tree.makeDirectories root with
  | mk answer opened =>
    rw [made] at paved free
    cases answer with
    | error failure =>
      rw [append, made]
      exact .refused paved _
    | ok =>
      by_cases printable : record.isPrintable = true
      · cases staged : opened.vacancy (stagingPath root record.runId nonce) with
        | ok staging =>
          rw [append_eq made printable staged]
          cases vacant : opened.vacancy (recordPath root record.runId) with
          | ok location => exact .filed paved vacant (get_of_filed printable vacant)
          | error failure => exact .refused paved _
        | error failure =>
          rw [append_unstaged made printable staged, attempt_remove_staging paved free]
          exact .refused paved _
      · rw [append_unprintable nonce made printable]
        exact .refused paved _

/-- Whatever comes of an append, all that was there stays. -/
theorem Outcome.grows {answer : Except Fault Unit} {after : Tree} (outcome : Outcome root record tree (answer, after)) :
    Grows tree after := by
  cases outcome with
  | filed paved vacant => exact paved.grows.trans (grows_put (vacancy_iff.mp vacant).2 rfl)
  | refused paved => exact paved.grows

end SingleFlight.Ledger.FileStore
