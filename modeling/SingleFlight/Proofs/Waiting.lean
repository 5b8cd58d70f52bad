import SingleFlight.Config.Settings
import SingleFlight.Proofs.ArtifactChoice
import SingleFlight.Proofs.Precedence
import SingleFlight.Status.Resolve

/-!
When a run is shown as waiting for a person. Main statement: a marker, a status that means it, or a failure of a class
that only a person can clear, and nothing else; any other status is shown as it was found.
-/

namespace SingleFlight.Status

open Config Dictionary Files Files.Tree Ledger Text

section Words

variable {text : String} {status : ShownStatus}

/-- A text stands for a status if it is, but for blanks around it and the case of its letters, one of the words
for it, and for none that is known if it is no word at all. -/
theorem normalize_eq_iff :
    ShownStatus.normalize text = status ↔ (asciiLower (trim text), status) ∈ ShownStatus.words ∨
    status = .unknown ∧ ∀ word ∈ ShownStatus.words, word.1 ≠ asciiLower (trim text) := by
  have distinct : (ShownStatus.words.map (·.1)).Nodup := by decide
  have read : ShownStatus.normalize text = (lookup (asciiLower (trim text)) ShownStatus.words).getD .unknown := rfl
  rw [read]
  cases found : lookup (asciiLower (trim text)) ShownStatus.words with
  | some other =>
    have among := (lookup_iff distinct).mp found
    constructor
    · rintro rfl
      exact .inl among
    · rintro (also | ⟨_, none⟩)
      · exact Option.some.inj (found.symm.trans ((lookup_iff distinct).mpr also))
      · exact (none _ among rfl).elim
  | none =>
    have missing (word : String × ShownStatus) (among : word ∈ ShownStatus.words) :
        word.1 ≠ asciiLower (trim text) := by
      intro same
      rw [← same, (lookup_iff distinct).mpr among] at found
      cases found
    constructor
    · rintro rfl
      exact .inr ⟨rfl, missing⟩
    · rintro (also | ⟨unknown, _⟩)
      · exact (missing _ also rfl).elim
      · exact unknown.symm

theorem normalize_eq_waiting_iff :
    ShownStatus.normalize text = .waitingForHuman ↔ asciiLower (trim text) = "waiting_for_human" := by
  rw [normalize_eq_iff]
  simp [ShownStatus.words]

theorem normalize_failed_iff : ShownStatus.normalize text = .failure ∨ ShownStatus.normalize text = .timeout ↔
    asciiLower (trim text) ∈ ["failure", "failed", "error", "timeout", "timed_out"] := by
  rw [normalize_eq_iff, normalize_eq_iff]
  simp [ShownStatus.words, or_assoc]

/-- What is shown of a status that is found somewhere, if one is. -/
theorem shown_eq_iff {found : Option Path} {read : Path → Option String} (known : status ≠ .unknown) :
    ((found.bind read).map ShownStatus.normalize).getD .unknown = status ↔
      ∃ directory text, found = some directory ∧ read directory = some text ∧
        ShownStatus.normalize text = status := by
  cases found with
  | none => simp [Ne.symm known]
  | some directory =>
    rw [Option.bind_some]
    cases told : read directory with
    | none => simp [told, Ne.symm known]
    | some text => simp [told]

end Words
section Reclassifying

variable {authClasses : NameSet} {status : ShownStatus} {errorClass : Option String}

theorem reclassify_eq : reclassify authClasses status errorClass =
    if (status = .failure ∨ status = .timeout) ∧ needsPerson authClasses errorClass = true then .waitingForHuman
    else status := by
  simp [reclassify]

theorem reclassify_eq_waiting_iff : reclassify authClasses status errorClass = .waitingForHuman ↔
    status = .waitingForHuman ∨
      (status = .failure ∨ status = .timeout) ∧ needsPerson authClasses errorClass = true := by
  rw [reclassify_eq]
  split
  next moved => exact iff_of_true rfl (.inr moved)
  next kept => exact (or_iff_left kept).symm

theorem reclassify_of_ne_waiting (other : reclassify authClasses status errorClass ≠ .waitingForHuman) :
    reclassify authClasses status errorClass = status := by
  rw [reclassify_eq] at other ⊢
  split
  next moved => exact absurd (if_pos moved) other
  next => rfl

/-- The classes that a family is configured with count in the form in which they are compared. -/
theorem needsPerson_family (settings : FamilySettings) (errorClass : Option String) :
    needsPerson settings.family.authClasses errorClass = true ↔ ∃ text, errorClass = some text ∧
      ∃ known ∈ settings.authClasses.getD defaultAuthClasses, normalClass text = normalClass known := by
  have classes : settings.family.authClasses =
      NameSet.ofList ((settings.authClasses.map fun given => given.map normalClass).getD defaultAuthClasses) := by
    unfold FamilySettings.family
    cases settings.authClasses <;> rfl
  cases errorClass with
  | none => simp [needsPerson]
  | some text =>
    rw [needsPerson, Option.any_some, classes, NameSet.contains_ofList]
    cases settings.authClasses with
    | some given => simp [eq_comm]
    | none =>
      -- The default classes are already written in the form in which classes are compared.
      have same : defaultAuthClasses.map normalClass = defaultAuthClasses := by decide
      have mapped : normalClass text ∈ defaultAuthClasses ↔
          ∃ known ∈ defaultAuthClasses, normalClass known = normalClass text := by
        rw [← List.mem_map, same]
      simpa [eq_comm] using mapped

end Reclassifying

theorem resolveRecord_status (tree : Tree) (family : Family) (record : RunRecord) :
    (resolveRecord tree family record).status =
      match findDirectory? tree record family.proofRoot family.gatewayRoot with
      | some directory => statusOf family (extract tree directory)
      | none => .unknown := by
  unfold resolveRecord
  cases findDirectory? tree record family.proofRoot family.gatewayRoot <;> rfl

theorem normalize_extract_of_marker {tree : Tree} {directory : Path} {content : List Byte} {marker : Findings}
    (held : tree.read (directory.join "waiting_for_human.json") = .ok content)
    (marked : findingsIn? content = some marker) :
    (extract tree directory).status.map ShownStatus.normalize = some .waitingForHuman := by
  have isThere : (Source.waitingMarker.read? tree directory).isSome = true := by
    rw [read?_waitingMarker, findingsAt?, held]
    simp [Except.toOption, marked]
  have waiting : (extract tree directory).status = some "waiting_for_human" := by
    rw [extract_eq_byPrecedence]
    exact if_pos isThere
  rw [waiting]
  decide

/-- A run is shown as waiting for a person exactly where its artifacts have a marker for that, or have a status
that means it, or have the status of a failure of a class that the family is configured with, or that is known
without that. Any other run is shown with the status that its artifacts have, and without artifacts with none.
One word means that a person is waited for, and five that a run failed, in letters of any case and with blanks
around them. -/
theorem waiting_for_human_iff (settings : FamilySettings) (record : RunRecord) (tree : Tree) :
    let found := findDirectory? tree record settings.proofRoot settings.gatewayRoot
    let plain := ((found.bind fun directory => (extract tree directory).status).map ShownStatus.normalize).getD .unknown
    let status := (resolveRecord tree settings.family record).status
    (status = .waitingForHuman ↔ ∃ directory, found = some directory ∧
      ((∃ content marker, tree.read (directory.join "waiting_for_human.json") = .ok content ∧
          findingsIn? content = some marker) ∨
        plain = .waitingForHuman ∨
        (plain = .failure ∨ plain = .timeout) ∧ ∃ errorClass, (extract tree directory).errorClass = some errorClass ∧
          ∃ known ∈ settings.authClasses.getD defaultAuthClasses,
            asciiUpper (trim errorClass) = asciiUpper (trim known))) ∧
    (status ≠ .waitingForHuman → status = plain) ∧
    (plain = .waitingForHuman ↔ ∃ directory text, found = some directory ∧
      (extract tree directory).status = some text ∧
      asciiLower (trim text) = "waiting_for_human") ∧
    (plain = .failure ∨ plain = .timeout ↔ ∃ directory text, found = some directory ∧
      (extract tree directory).status = some text ∧
      asciiLower (trim text) ∈ ["failure", "failed", "error", "timeout", "timed_out"]) := by
  intro found plain status
  have status_eq : status = match found with
      | some directory => statusOf settings.family (extract tree directory)
      | none => .unknown := resolveRecord_status tree settings.family record
  have waitingWord : plain = .waitingForHuman ↔ _ := shown_eq_iff (by decide)
  have failureWord : plain = .failure ↔ _ := shown_eq_iff (by decide)
  have timeoutWord : plain = .timeout ↔ _ := shown_eq_iff (by decide)
  simp only [normalize_eq_waiting_iff] at waitingWord
  have failedWord : plain = .failure ∨ plain = .timeout ↔ ∃ directory text, found = some directory ∧
      (extract tree directory).status = some text ∧
      asciiLower (trim text) ∈ ["failure", "failed", "error", "timeout", "timed_out"] := by
    simp only [failureWord, timeoutWord, ← normalize_failed_iff, and_or_left, exists_or]
  rw [← and_assoc]
  refine ⟨?_, waitingWord, failedWord⟩
  cases located : found with
  | none =>
    have unknown : plain = .unknown := by simp [plain, located]
    rw [located] at status_eq
    rw [status_eq, unknown]
    simp
  | some directory =>
    have same : plain = ((extract tree directory).status.map ShownStatus.normalize).getD .unknown := by
      simp [plain, located]
    rw [located] at status_eq
    replace status_eq : status = reclassify settings.family.authClasses plain (extract tree directory).errorClass := by
      rw [status_eq, same]
      rfl
    rw [status_eq]
    refine ⟨?_, reclassify_of_ne_waiting⟩
    rw [reclassify_eq_waiting_iff, needsPerson_family]
    constructor
    · rintro (waiting | ⟨failed, needed⟩)
      · exact ⟨directory, rfl, .inr (.inl waiting)⟩
      · exact ⟨directory, rfl, .inr (.inr ⟨failed, needed⟩)⟩
    · rintro ⟨_, ⟨⟩, ⟨content, marker, held, marked⟩ | waiting | needed⟩
      · refine .inl ?_
        rw [same, normalize_extract_of_marker held marked]
        rfl
      · exact .inl waiting
      · exact .inr needed

/-- A family whose runs leave their artifacts where their records say. -/
def plainFamily : FamilySettings := ⟨"deployments", ["deploy"], none, none, none, none, none, none⟩

/-- A directory with a marker in it, and with a result that says that all went well. -/
def markedTree : Tree :=
  (Tree.empty.put ["waiting_for_human.json", "work"] (.file (Utf8.ofString "\x7b\x7d"))).put ["result.json", "work"]
    (.file (Utf8.ofString "\x7b\"status\":\"success\"\x7d"))

theorem waiting_for_human_iff_marked :
    let record := { sample with artifactPaths := [.ofText "/work"] }
    findDirectory? markedTree record none none = some (.ofText "/work") ∧
    (∃ content marker, markedTree.read (Path.join (.ofText "/work") "waiting_for_human.json") = .ok content ∧
      findingsIn? content = some marker) ∧
    (resolveRecord markedTree plainFamily.family record).status = .waitingForHuman := by
  intro record
  obtain ⟨leads, _⟩ := leads_work markedTree rfl rfl
  have isDirectory := isDirectory_work markedTree rfl rfl
  have found : findDirectory? markedTree record none none = some (.ofText "/work") :=
    findDirectory?_of_recorded ⟨[], _, [], rfl, nofun, .inl ⟨isDirectory, rfl⟩⟩ none none
  have entry : markedTree.locateEntry (Path.join (.ofText "/work") "waiting_for_human.json") =
      .ok (some ["waiting_for_human.json", "work"]) :=
    (locateEntry_join ⟨by decide, by decide, by decide⟩ (by decide)).mpr ⟨⟨by decide, by decide⟩, _, leads, rfl⟩
  have read := FileStore.read_of_entry entry (show _ = some (Node.file (Utf8.ofString "\x7b\x7d")) from rfl)
  have marked : ∃ content marker, markedTree.read (Path.join (.ofText "/work")
      "waiting_for_human.json") = .ok content ∧
      findingsIn? content = some marker :=
    ⟨_, ⟨none, none, none, none⟩, read, by decide +kernel⟩
  exact ⟨found, marked, (waiting_for_human_iff plainFamily record markedTree).1.mpr ⟨_, found, .inl marked⟩⟩

end SingleFlight.Status
