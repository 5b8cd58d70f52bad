import Mathlib.Data.List.Forall2
import SingleFlight.Config.Format
import SingleFlight.Proofs.DomainText
import SingleFlight.Proofs.RecordText

/-!
What settings say, entry by entry: what a document gives for the entry, be it written as an object or as a list, or
else what the standard settings say. What is read of a value is that value again when it is written down, so that
nothing is lost or added on the way.
-/

namespace SingleFlight

open Text

namespace Dictionary

variable {α β : Type}

theorem map_insertEntry (write : α → β) (name : String) (value : α) (entries : List (String × α)) :
    (insertEntry name value entries).map (fun entry => (entry.1, write entry.2)) =
      insertEntry name (write value) (entries.map fun entry => (entry.1, write entry.2)) := by
  induction entries with
  | nil => rfl
  | cons first rest ih =>
    simp only [insertEntry, List.map_cons]
    split
    · rfl
    · split
      · rfl
      · rw [List.map_cons, ih]

theorem entries_foldl_insert (entries : List (String × α)) (start : Dictionary α) :
    (entries.foldl (fun dictionary entry => dictionary.insert entry.1 entry.2) start).entries =
      entries.foldl (fun held entry => insertEntry entry.1 entry.2 held) start.entries := by
  induction entries generalizing start with
  | nil => rfl
  | cons first rest ih => exact ih (start.insert first.1 first.2)

/-- A dictionary of written values is the written form of the dictionary. -/
theorem map_entries_ofList (write : α → β) (entries : List (String × α)) :
    (ofList entries).entries.map (fun entry => (entry.1, write entry.2)) =
      (ofList (entries.map fun entry => (entry.1, write entry.2))).entries := by
  rw [ofList, ofList, entries_foldl_insert, entries_foldl_insert, List.foldl_map]
  have inserted (held : List (String × α)) :
      (entries.foldl (fun held entry => insertEntry entry.1 entry.2 held) held).map
        (fun entry => (entry.1, write entry.2)) =
        entries.foldl (fun held entry => insertEntry entry.1 (write entry.2) held)
          (held.map fun entry => (entry.1, write entry.2)) := by
    induction entries generalizing held with
    | nil => rfl
    | cons first rest ih => rw [List.foldl_cons, ih, map_insertEntry, List.foldl_cons]
  exact inserted []

end Dictionary

namespace Json

/-- What a record gives for one of its fields, if the record can be read at all. -/
def given? (names : List String) (name : String) (json : Json) : Option Json := (json.fields? names).bind (·.find? name)

/-- The value of a field of an object. -/
def fieldOf? (name : String) : Json → Option Json
  | .object fields => (fields.find? (·.1 == name)).map (·.2)
  | _ => none

/-- The form in which settings keep a value that a document gives. Of the entries of a dictionary the last one
of each name counts, and a name from a fixed set may be given as the only key of an object. -/
def settled : Json → Json
  | .object [(key, .null)] => .text key
  | .object fields => .object (Dictionary.ofList fields).entries
  | json => json

/-- The record that is found says what a document gives for each field, and what the standard one says for each
field that the document does not give. -/
def Follows (names : List String) (document standard found : Json) : Prop :=
  ∀ name ∈ names, found.fieldOf? name = ((document.given? names name).map settled).or (standard.fieldOf? name)

variable {α : Type} {names : List String} {name : String} {json : Json} {fields : Fields} {value found : α}
  {read : Json → Option α} {write : α → Json}

/-- What is read of a value is that value again when it is written down. -/
def Exact (read : Json → Option α) (write : α → Json) : Prop :=
  ∀ json value, read json = some value → write value = json.settled

theorem exact_text : Exact text? .text := by
  intro json value isRead
  cases json with
  | text => cases isRead; rfl
  | _ => cases isRead

theorem within?_some {least greatest found : Int} (isRead : within? least greatest json = some found) :
    json = .number found ∧ least ≤ found ∧ found ≤ greatest := by
  cases json with
  | number value =>
    obtain ⟨inside, same⟩ := Option.ite_none_right_eq_some.mp isRead
    cases same
    exact ⟨rfl, inside⟩
  | _ => cases isRead

theorem exact_word {bits : Nat} {ofNat : Nat → α} {toNat : α → Nat}
    (back : ∀ value, value < 2 ^ bits → toNat (ofNat value) = value) :
    Exact (fun json => (json.word? bits).map ofNat) (fun value => .ofNat (toNat value)) := by
  intro json value isRead
  obtain ⟨word, isWord, rfl⟩ := Option.map_eq_some_iff.mp isRead
  obtain ⟨found, isFound, rfl⟩ := Option.map_eq_some_iff.mp isWord
  obtain ⟨rfl, notNegative, small⟩ := within?_some isFound
  have fits : found.toNat < 2 ^ bits := by
    have cast : ((2 ^ bits : Nat) : Int) = (Nat.pow 2 bits : Int) := rfl
    omega
  show Json.ofNat (toNat (ofNat found.toNat)) = .number found
  rw [back _ fits, Json.ofNat, Int.toNat_of_nonneg notNegative]

theorem exact_path : Exact path? .ofPath := by
  intro json value isRead
  obtain ⟨text, isText, rfl⟩ := Option.map_eq_some_iff.mp isRead
  rw [← exact_text json text isText, ofPath, Path.shown, Path.ofText, OsText.shown_ofString]

/-- The members of a list are kept as they are. -/
theorem exact_texts : Exact texts? .ofTexts := by
  intro json value isRead
  cases json with
  | list items =>
    have same : value.map .text = items := by
      refine Web.map_of_mapM ?_ isRead
      intro item _ text isText
      cases item with
      | text => cases isText; rfl
      | _ => cases isText
    exact congrArg Json.list same
  | _ => cases isRead

theorem exact_nullable (exact : Exact read write) : Exact (nullable? read) (ofOption write) := by
  intro json value isRead
  unfold nullable? at isRead
  split at isRead
  · cases isRead
    rfl
  · obtain ⟨found, isFound, rfl⟩ := Option.map_eq_some_iff.mp isRead
    exact exact _ found isFound

/-- A dictionary is kept with the last entry of each name, where its values are kept as they are. -/
theorem exact_dictionary (back : ∀ json value, read json = some value → write value = json)
    (notNull : read .null = none) :
    Exact (dictionary? read) (ofDictionary write) := by
  intro json value isRead
  obtain ⟨entries, isMap, rfl⟩ := Option.map_eq_some_iff.mp isRead
  cases json with
  | object fields =>
    have same : entries.map (fun entry => (entry.1, write entry.2)) = fields := by
      refine Web.map_of_mapM ?_ isMap
      intro field _ entry isEntry
      obtain ⟨found, isFound, rfl⟩ := Option.map_eq_some_iff.mp isEntry
      exact congrArg (Prod.mk field.1) (back field.2 found isFound)
    unfold settled
    split
    next key isNull =>
      cases isNull
      rw [map?, List.mapM_cons, notNull] at isMap
      cases isMap
    next others isObject =>
      cases isObject
      exact congrArg Json.object ((Dictionary.map_entries_ofList write entries).trans (by rw [same]))
    next notObject => exact absurd rfl (notObject fields)
  | _ => cases isMap

theorem exact_name {ofName? : String → Option α} {toName : α → String}
    (back : ∀ name value, ofName? name = some value → toName value = name) :
    Exact (fun json => json.name?.bind ofName?) (fun value => .text (toName value)) := by
  intro json value isRead
  obtain ⟨name, isName, stands⟩ := Option.bind_eq_some_iff.mp isRead
  unfold name? at isName
  split at isName
  · cases isName
    exact congrArg Json.text (back _ _ stands)
  · cases isName
    exact congrArg Json.text (back _ _ stands)
  · cases isName

theorem Fields.defaulted?_of_missing (missing : fields.find? name = none)
    (stands : fields.defaulted? name value read = some found) : found = value := by
  rw [defaulted?, missing] at stands
  exact (Option.some.inj stands).symm

theorem Fields.defaulted?_of_given {given : Json} (present : fields.find? name = some given)
    (stands : fields.defaulted? name value read = some found) : read given = some found := by
  rw [defaulted?, present] at stands
  exact stands

/-- Two fields of one name, the second of which says what is given for the name, or else what the first one says. -/
def Fields.Settles (fields : Fields) (standard found : String × Json) : Prop :=
  standard.1 = found.1 ∧ found.2 = ((fields.find? found.1).map settled).getD standard.2

theorem Fields.settles (exact : Exact read write) (stands : fields.defaulted? name value read = some found) :
    fields.Settles (name, write value) (name, write found) := by
  refine ⟨rfl, ?_⟩
  cases present : fields.find? name with
  | none =>
    rw [defaulted?_of_missing present stands]
    rfl
  | some given => exact exact given found (defaulted?_of_given present stands)

theorem follows_of {standard found : List (String × Json)} (given : json.fields? names = some fields)
    (each : List.Forall₂ fields.Settles standard found) (named : ∀ name ∈ names, name ∈ found.map (·.1)) :
    Follows names json (.object standard) (.object found) := by
  intro name nameIn
  replace named := named name nameIn
  rw [given?, given, Option.bind_some]
  simp only [fieldOf?]
  induction each with
  | nil => cases named
  | @cons first second _ _ settles _ ih =>
    obtain ⟨sameName, value⟩ := settles
    by_cases same : second.1 = name
    · subst same
      rw [List.find?_cons_of_pos (by simp), List.find?_cons_of_pos (by simp [sameName]), Option.map_some,
        Option.map_some, value]
      cases fields.find? second.1 <;> rfl
    · rw [List.find?_cons_of_neg (by simpa using same), List.find?_cons_of_neg (by simpa [sameName] using same)]
      apply ih
      rw [List.map_cons, List.mem_cons] at named
      exact named.resolve_left (Ne.symm same)

/-- An entry of a section says what is given for it, or else what the standard section says, as does every entry
of a section that is not given at all. -/
theorem fieldOf?_of_section {part : String}
    (follows : ∀ json found, read json = some found → Follows names json (write value) (write found))
    (stands : fields.defaulted? part value read = some found) (nameIn : name ∈ names) :
    (write found).fieldOf? name =
      (((fields.find? part).bind (given? names name)).map settled).or ((write value).fieldOf? name) := by
  cases present : fields.find? part with
  | none =>
    rw [Fields.defaulted?_of_missing present stands]
    rfl
  | some json => exact follows json found (Fields.defaulted?_of_given present stands) name nameIn

end Json

namespace Config

open Json

variable {json : Json}

theorem exact_word32 : Exact word32? ofWord32 := exact_word fun _ small => UInt32.toNat_ofNat_of_lt' small

theorem exact_word64 : Exact word64? ofWord64 := exact_word fun _ small => UInt64.toNat_ofNat_of_lt' small

theorem exact_backend :
    Exact (fun json => json.name?.bind Backend.ofName?) (fun backend => .text backend.name) := by
  apply exact_name
  intro name backend stands
  unfold Backend.ofName? at stands
  split at stands
  next files =>
    cases stands
    exact files.symm
  next =>
    obtain ⟨sqlite, same⟩ := Option.ite_none_right_eq_some.mp stands
    cases same
    exact sqlite.symm

theorem exact_targets : Exact (dictionary? text?) (ofDictionary .text) := by
  refine exact_dictionary ?_ rfl
  intro json value isRead
  cases json with
  | text => cases isRead; rfl
  | _ => cases isRead

theorem exact_allowances : Exact (dictionary? texts?) (ofDictionary .ofTexts) := by
  refine exact_dictionary ?_ rfl
  intro json value isRead
  cases json with
  | list items => exact exact_texts _ value isRead
  | _ => cases isRead

theorem LedgerSettings.follows {settings : LedgerSettings} (read : ofJson? json = some settings) :
    Follows ["backend", "path"] json standard.toJson settings.toJson := by
  simp only [ofJson?, bind, Option.bind_eq_some_iff, pure, Option.some.injEq] at read
  obtain ⟨fields, given, backend, backendStands, path, pathStands, rfl⟩ := read
  refine follows_of given ?_ fun _ => id
  have backendSettles := Fields.settles exact_backend backendStands
  exact .cons backendSettles <| .cons (Fields.settles exact_path pathStands) .nil

theorem LockSettings.follows {settings : LockSettings} (read : ofJson? json = some settings) :
    Follows ["stale_after_secs", "exempt_actions"] json standard.toJson settings.toJson := by
  simp only [ofJson?, bind, Option.bind_eq_some_iff, pure, Option.some.injEq] at read
  obtain ⟨fields, given, stale, staleStands, exempt, exemptStands, rfl⟩ := read
  refine follows_of given ?_ fun _ => id
  exact .cons (Fields.settles exact_word64 staleStands) <| .cons (Fields.settles exact_texts exemptStands) .nil

theorem GatewaySettings.follows {settings : GatewaySettings} (read : ofJson? json = some settings) :
    Follows fieldNames json standard.toJson settings.toJson := by
  simp only [ofJson?, bind, Option.bind_eq_some_iff, pure, Option.some.injEq] at read
  obtain ⟨fields, given, baseUrl, baseUrlStands, token, tokenStands, normal, normalStands, longRunning, longRunningStands,
    actions, actionsStand, health, healthStands, retries, retriesStand, backoff, backoffStands, rfl⟩ := read
  refine follows_of given ?_ fun _ => id
  exact .cons (Fields.settles exact_text baseUrlStands) <|
    .cons (Fields.settles (exact_nullable exact_text) tokenStands) <|
    .cons (Fields.settles exact_word64 normalStands) <| .cons (Fields.settles exact_word64 longRunningStands) <|
    .cons (Fields.settles exact_texts actionsStand) <| .cons (Fields.settles exact_word64 healthStands) <|
    .cons (Fields.settles exact_word32 retriesStand) <| .cons (Fields.settles exact_word64 backoffStands) .nil

theorem CatalogSettings.follows {settings : CatalogSettings} (read : ofJson? json = some settings) :
    Follows ["actions", "projects"] json standard.toJson settings.toJson := by
  simp only [ofJson?, bind, Option.bind_eq_some_iff, pure, Option.some.injEq] at read
  obtain ⟨fields, given, actions, actionsStand, projects, projectsStand, rfl⟩ := read
  refine follows_of given ?_ fun _ => id
  exact .cons (Fields.settles exact_targets actionsStand) <|
    .cons (Fields.settles exact_allowances projectsStand) .nil

theorem FamilySettings.follows {settings : FamilySettings} (read : ofJson? json = some settings) :
    Follows fieldNames json standard.toJson settings.toJson := by
  simp only [ofJson?, bind, Option.bind_eq_some_iff, pure, Option.some.injEq] at read
  obtain ⟨fields, given, name, nameStands, actions, actionsStand, actionPrefix, prefixStands, proof, proofStands,
    gateway, gatewayStands, session, sessionStands, classes, classesStand, snapshot, snapshotStands, rfl⟩ := read
  refine follows_of given ?_ fun _ => id
  exact .cons (Fields.settles exact_text nameStands) <| .cons (Fields.settles exact_texts actionsStand) <|
    .cons (Fields.settles (exact_nullable exact_text) prefixStands) <|
    .cons (Fields.settles (exact_nullable exact_path) proofStands) <|
    .cons (Fields.settles (exact_nullable exact_path) gatewayStands) <|
    .cons (Fields.settles (exact_nullable exact_path) sessionStands) <|
    .cons (Fields.settles (exact_nullable exact_texts) classesStand) <|
    .cons (Fields.settles (exact_nullable exact_path) snapshotStands) .nil

namespace Settings

/-- The sections of settings whose entries are single values, with the entries of each. -/
def sections : List (String × List String) :=
  [("ledger", ["backend", "path"]), ("locks", ["stale_after_secs", "exempt_actions"]),
    ("gateway", GatewaySettings.fieldNames), ("catalog", ["actions", "projects"])]

/-- The section whose only entry is the list of families. -/
def resolver : String × List String := ("resolver", ["families"])

/-- What a document gives for an entry of a section. -/
def givenValue? (document : Json) (part : String × List String) (name : String) : Option Json :=
  (document.given? ((sections ++ [resolver]).map (·.1)) part.1).bind (given? part.2 name)

/-- An entry of a section of settings, in its JSON form. -/
def entryOf? (settings : Settings) (part name : String) : Option Json :=
  (settings.toJson.fieldOf? part).bind (fieldOf? name)

/-- A family that says what an item of a list gives, and for the rest what a family says by default. -/
def FollowsItem (item : Json) (family : FamilySettings) : Prop :=
  Follows FamilySettings.fieldNames item FamilySettings.standard.toJson family.toJson

/-- Settings that say what a document gives, and for the rest what the standard ones say. -/
structure Follow (document : Json) (settings : Settings) : Prop where
  entries : ∀ part ∈ sections, ∀ name ∈ part.2, settings.entryOf? part.1 name =
    ((givenValue? document part name).map settled).or (standard.entryOf? part.1 name)
  families : ∀ json, givenValue? document resolver "families" = some json →
    ∃ items, json = .list items ∧ List.Forall₂ FollowsItem items settings.families
  noFamilies : givenValue? document resolver "families" = none → settings.families = []

theorem families_of_given {items : Json} {families : List FamilySettings}
    (read : familiesOfJson? json = some families)
    (present : json.given? ["families"] "families" = some items) :
    ∃ members, items = .list members ∧ List.Forall₂ FollowsItem members families := by
  simp only [familiesOfJson?, bind, Option.bind_eq_some_iff] at read
  obtain ⟨fields, given, stands⟩ := read
  rw [given?, given, Option.bind_some] at present
  have each := Fields.defaulted?_of_given present stands
  cases items with
  | list members =>
    rw [list?, Web.mapM_eq_some_iff] at each
    exact ⟨members, rfl, each.imp fun _ _ itemRead => FamilySettings.follows itemRead⟩
  | _ => cases each

theorem families_of_missing {families : List FamilySettings} (read : familiesOfJson? json = some families)
    (missing : json.given? ["families"] "families" = none) : families = [] := by
  simp only [familiesOfJson?, bind, Option.bind_eq_some_iff] at read
  obtain ⟨fields, given, stands⟩ := read
  rw [given?, given, Option.bind_some] at missing
  exact Fields.defaulted?_of_missing missing stands

theorem follow {document : Json} {settings : Settings} (read : ofJson? document = some settings) :
    settings.Follow document := by
  simp only [ofJson?, bind, Option.bind_eq_some_iff, pure, Option.some.injEq] at read
  obtain ⟨fields, given, ledger, ledgerStands, locks, locksStand, gateway, gatewayStands, catalog, catalogStands,
    families, familiesStand, rfl⟩ := read
  have within (part : String × List String) (name : String) : givenValue? document part name =
      (fields.find? part.1).bind (given? part.2 name) := by
    have names : (sections ++ [resolver]).map (·.1) = ["ledger", "locks", "gateway", "catalog", "resolver"] := rfl
    rw [givenValue?, given?, names, given, Option.bind_some]
  constructor
  · intro part partIn name nameIn
    rw [within]
    simp only [sections, List.mem_cons, List.not_mem_nil, or_false] at partIn
    rcases partIn with rfl | rfl | rfl | rfl
    · exact fieldOf?_of_section (fun _ _ => LedgerSettings.follows) ledgerStands nameIn
    · exact fieldOf?_of_section (fun _ _ => LockSettings.follows) locksStand nameIn
    · exact fieldOf?_of_section (fun _ _ => GatewaySettings.follows) gatewayStands nameIn
    · exact fieldOf?_of_section (fun _ _ => CatalogSettings.follows) catalogStands nameIn
  · intro items present
    rw [within] at present
    obtain ⟨json, found, isGiven⟩ := Option.bind_eq_some_iff.mp present
    exact families_of_given (Fields.defaulted?_of_given found familiesStand) isGiven
  · intro missing
    rw [within] at missing
    cases found : fields.find? resolver.1 with
    | none => exact Fields.defaulted?_of_missing found familiesStand
    | some json =>
      rw [found, Option.bind_some] at missing
      exact families_of_missing (Fields.defaulted?_of_given found familiesStand) missing

end Settings

end Config

end SingleFlight
