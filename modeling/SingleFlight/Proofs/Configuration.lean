import SingleFlight.Config.Load
import SingleFlight.Proofs.Allowances
import SingleFlight.Proofs.Defaults
import SingleFlight.Proofs.SettingsText
import SingleFlight.Proofs.Walking

/-!
Loading settings: when it succeeds, and what everybody who is given the settings may rely on. The check
finds the first thing that is wrong; here it is read as what it ensures of the settings as a whole.
-/

namespace SingleFlight.Config

open Text

namespace Settings

variable {settings given : Settings} {environment : Environment}

/-- Settings in which nothing is wrong. -/
structure Sound (settings : Settings) : Prop where
  baseUrl : isBlankText settings.gateway.baseUrl = false
  normalTimeout : 0 < settings.gateway.normalTimeoutSeconds.toNat
  staleAfter : 0 < settings.locks.staleAfterSeconds.toNat
  catalogued : ∀ project actions, settings.catalog.projects.find? project = some actions →
    ∀ action ∈ actions, settings.catalog.actions.contains action = true
  named : ∀ family ∈ settings.families, isBlankText family.name = false
  distinct : (settings.families.map (·.name)).Nodup

theorem checkFamilies_iff (seen : List String) (families : List FamilySettings) :
    checkFamilies seen families = .ok () ↔
      (∀ family ∈ families, isBlankText family.name = false) ∧ (families.map (·.name)).Nodup ∧
        ∀ family ∈ families, family.name ∉ seen := by
  induction families generalizing seen with
  | nil => simp [checkFamilies]
  | cons first rest ih =>
    unfold checkFamilies
    split
    next blank => simp [blank]
    next notBlank =>
      split
      next again => simp [List.contains_iff_mem.mp again]
      next new =>
        rw [ih, List.forall_mem_cons, List.forall_mem_cons, List.map_cons, List.nodup_cons]
        simp only [List.contains_iff_mem] at new
        simp only [List.mem_cons, not_or, List.mem_map, not_exists, not_and, Bool.not_eq_true] at notBlank ⊢
        constructor
        · intro sound
          obtain ⟨named, distinct, fresh⟩ := sound
          refine ⟨⟨notBlank, named⟩, ⟨?_, distinct⟩, new, fun family familyIn => (fresh family familyIn).2⟩
          intro family familyIn
          exact (fresh family familyIn).1
        · intro sound
          obtain ⟨⟨_, named⟩, ⟨apart, distinct⟩, _, fresh⟩ := sound
          exact ⟨named, distinct, fun family familyIn => ⟨apart family familyIn, fresh family familyIn⟩⟩

/-- Of two families of one name the second one is found. -/
example : checkFamilies [] [{ FamilySettings.standard with name := "session" },
    { FamilySettings.standard with name := "deploy" }, { FamilySettings.standard with name := "session" }] =
    .error (.repeatedFamily "session") := by decide

theorem catalogued_iff (settings : CatalogSettings) :
    settings.catalog.uncatalogued = [] ↔ ∀ project actions, settings.projects.find? project = some actions →
      ∀ action ∈ actions, settings.actions.contains action = true := by
  rw [Catalog.uncatalogued_eq_nil_iff]
  simp only [CatalogSettings.contains_allowedFor, CatalogSettings.contains_targets]
  constructor
  · intro listed project actions found action actionIn
    exact listed project action ⟨actions, found, actionIn⟩
  · intro listed project action allowed
    obtain ⟨actions, found, actionIn⟩ := allowed
    exact listed project actions found action actionIn

/-- Settings pass the check exactly if nothing is wrong in them. -/
theorem check_iff (settings : Settings) : settings.check = .ok () ↔ settings.Sound := by
  have positive (seconds : UInt64) (notZero : ¬seconds = 0) : 0 < seconds.toNat := by
    apply Nat.pos_of_ne_zero
    intro zero
    exact notZero (UInt64.toNat_inj.mp zero)
  unfold check
  split
  next blank => exact iff_of_false (by simp) (fun sound => by simp [sound.baseUrl] at blank)
  next notBlank =>
    split
    next zero => exact iff_of_false (by simp) (fun sound => by simpa [zero] using sound.normalTimeout)
    next normal =>
      split
      next zero => exact iff_of_false (by simp) (fun sound => by simpa [zero] using sound.staleAfter)
      next stale =>
        split
        next unlisted =>
          refine iff_of_false (by simp) ?_
          intro sound
          rw [(catalogued_iff settings.catalog).mpr sound.catalogued] at unlisted
          cases unlisted
        next listed =>
          rw [checkFamilies_iff]
          constructor
          · intro families
            obtain ⟨named, distinct, _⟩ := families
            exact ⟨by simpa using notBlank, positive _ normal, positive _ stale,
              (catalogued_iff settings.catalog).mp listed, named, distinct⟩
          · intro sound
            exact ⟨sound.named, sound.distinct, fun _ _ => List.not_mem_nil⟩

/-- A variable of the environment that is set to a text of more than blanks. -/
def Tells (environment : Environment) (variableName text : String) : Prop :=
  environment.find? variableName = some ↑text ∧ isBlankText text = false

theorem tells_iff {variableName text : String} :
    Tells environment variableName text ↔
      filled ((environment.find? variableName).bind OsText.text?) = some text := by
  rw [filled_eq_some_iff, Option.bind_eq_some_iff, Tells]
  refine and_congr_left fun _ => ?_
  constructor
  · intro found
    exact ⟨text, found, OsText.text?_ofString text⟩
  · intro found
    obtain ⟨spelled, found, isText⟩ := found
    rw [found, OsText.text?_iff.mp isText]

/-- A setting, before and after a variable of the environment took its place, where that tells of a text. -/
structure Replaced {α : Type} (environment : Environment) (variableName : String) (read : String → α)
    (before after : α) : Prop where
  told : ∀ text, Tells environment variableName text → after = read text
  untold : (∀ text, ¬Tells environment variableName text) → after = before

/-- The value that is put in place of a setting is the only one that the environment can have asked for. -/
theorem replaced_iff {α : Type} {variableName : String} {read : String → α} {before after : α} :
    Replaced environment variableName read before after ↔
      after = ((filled ((environment.find? variableName).bind OsText.text?)).map read).getD before := by
  constructor
  · intro replaced
    cases told : filled ((environment.find? variableName).bind OsText.text?) with
    | some text => exact replaced.told text (tells_iff.mpr told)
    | none =>
      apply replaced.untold
      intro text tells
      rw [tells_iff.mp tells] at told
      cases told
  · rintro rfl
    constructor
    · intro text tells
      rw [tells_iff.mp tells]
      rfl
    · intro untold
      cases told : filled ((environment.find? variableName).bind OsText.text?) with
      | some text => exact absurd (tells_iff.mpr told) (untold text)
      | none => rfl

/-- Settings with three entries that the environment may replace, and nothing else changed. -/
structure Overridden (environment : Environment) (given settings : Settings) : Prop where
  baseUrl : Replaced environment urlVariable id given.gateway.baseUrl settings.gateway.baseUrl
  token : Replaced environment tokenVariable some given.gateway.token settings.gateway.token
  path : Replaced environment ledgerVariable Path.ofText given.ledger.path settings.ledger.path
  rest : settings = { given with
    gateway := { given.gateway with baseUrl := settings.gateway.baseUrl, token := settings.gateway.token }
    ledger := { given.ledger with path := settings.ledger.path } }

theorem overridden_iff : Overridden environment given settings ↔ settings = given.withOverrides environment := by
  have token : (filled ((environment.find? tokenVariable).bind OsText.text?)).or given.gateway.token =
      ((filled ((environment.find? tokenVariable).bind OsText.text?)).map some).getD given.gateway.token := by
    cases filled ((environment.find? tokenVariable).bind OsText.text?) <;> rfl
  constructor
  · intro overridden
    rw [overridden.rest, replaced_iff.mp overridden.baseUrl, replaced_iff.mp overridden.token,
      replaced_iff.mp overridden.path, withOverrides, token, Option.map_id]
    rfl
  · rintro rfl
    constructor
    · rw [replaced_iff, Option.map_id]
      rfl
    · rw [replaced_iff]
      exact token
    · rw [replaced_iff]
      rfl
    · rfl

/-- Where settings come from before the environment has its way: the file that is named, or else the one that the
environment names, or else nowhere. -/
def sourcePath? (environment : Environment) (path : Option Path) : Option Path :=
  path.or ((environment.find? configVariable).map Path.mk)

/-- A document in JSON that is all of a file. -/
def IsDocument (tree : Files.Tree) (path : Path) (document : Json) : Prop :=
  ∃ text : String, tree.read path = .ok ↑text ∧ Json.ofText? text = some document

/-- The settings that a document stands for, or the standard ones where there is none. -/
def Decoded (tree : Files.Tree) (source : Option Path) (given : Settings) : Prop :=
  match source with
  | none => given = standard
  | some path => ∃ document, IsDocument tree path document ∧ ofJson? document = some given

theorem readFile_iff {tree : Files.Tree} {path : Path} :
    readFile tree path = .ok given ↔ Decoded tree (some path) given := by
  constructor
  · intro read
    unfold readFile at read
    split at read
    next => cases read
    next content opened =>
      split at read
      next => cases read
      next chars decoded =>
        split at read
        next found parsed =>
          cases read
          obtain ⟨document, documentRead, stands⟩ := Option.bind_eq_some_iff.mp parsed
          have spelled : OsText.text? content = some (String.ofList chars) :=
            Option.map_eq_some_iff.mpr ⟨chars, decoded, rfl⟩
          rw [OsText.text?_iff.mp spelled] at opened
          exact ⟨document, ⟨_, opened, documentRead⟩, stands⟩
        next => cases read
  · intro given
    obtain ⟨document, ⟨text, opened, parsed⟩, stands⟩ := given
    have decoded : Utf8.strict? (Utf8.ofString text) = some text.toList := Utf8.strict?_encode text.toList
    simp [readFile, opened, decoded, ofText?, parsed, stands]

theorem load_eq (tree : Files.Tree) (environment : Environment) (path : Option Path) :
    load tree environment path =
      (match sourcePath? environment path with
        | some path => readFile tree path
        | none => .ok standard) >>= fun given =>
      (given.withOverrides environment).check >>= fun _ => .ok (given.withOverrides environment) := by
  unfold load sourcePath?
  cases path.or ((environment.find? configVariable).map Path.mk) <;> rfl

/-- Loading succeeds exactly if there is a document that can be decoded, or none is asked for, and nothing is wrong
in what the environment makes of it. -/
theorem load_iff {tree : Files.Tree} {path : Option Path} :
    load tree environment path = .ok settings ↔
      ∃ given, Decoded tree (sourcePath? environment path) given ∧ Overridden environment given settings ∧
        settings.Sound := by
  have source (given : Settings) : (match sourcePath? environment path with
      | some path => readFile tree path
      | none => .ok standard) = .ok given ↔ Decoded tree (sourcePath? environment path) given := by
    cases sourcePath? environment path with
    | some path => exact readFile_iff
    | none => exact ⟨fun same => (Except.ok.inj same).symm, congrArg Except.ok ∘ Eq.symm⟩
  simp only [overridden_iff, ← check_iff, ← source, load_eq]
  constructor
  · intro loaded
    obtain ⟨given, found, rest⟩ := bind_ok loaded
    obtain ⟨nothing, passed, same⟩ := bind_ok rest
    cases same
    exact ⟨given, found, rfl, passed⟩
  · intro loaded
    obtain ⟨given, found, rfl, passed⟩ := loaded
    simp only [found, bind, Except.bind, passed]

/-- What follows from settings in which nothing is wrong for the catalog, the families, the locks and the timeouts. -/
structure Serves (settings : Settings) : Prop where
  /-- Each pair that is listed under the projects resolves to its target, which is never missing. -/
  resolved : ∀ project actions action, settings.catalog.projects.find? project = some actions → action ∈ actions →
    ∃ target, settings.catalog.actions.find? action = some target ∧
      settings.catalog.catalog.resolve project action = .ok ⟨action, if isBlankText target then action else target⟩
  refused : ∀ project action, (∀ actions, settings.catalog.projects.find? project = some actions → action ∉ actions) →
    ∃ fault, settings.catalog.catalog.resolve project action = .error fault ∧ fault.kind = .notAllowlisted
  /-- A name stands for the only family that is configured under it. -/
  family : ∀ family ∈ settings.families, settings.families.filter (·.name == family.name) = [family] ∧
    settings.family? family.name = some family.family
  noFamily : ∀ name, (∀ family ∈ settings.families, family.name ≠ name) → settings.family? name = none
  patient : 1000 ≤ settings.locks.policy.staleAfterMilliseconds
  unbounded : ∀ action, settings.gateway.timeouts.bound action = none ↔
    action ∈ settings.gateway.longRunningActions ∧ settings.gateway.longRunningTimeoutSeconds = 0
  bounded : ∀ action bound, settings.gateway.timeouts.bound action = some bound → 1000 ≤ bound ∧
    bound = (if action ∈ settings.gateway.longRunningActions then settings.gateway.longRunningTimeoutSeconds
      else settings.gateway.normalTimeoutSeconds).toNat * 1000

theorem Sound.resolved (sound : settings.Sound) {project : Project} {actions : List Action} {action : Action}
    (listed : settings.catalog.projects.find? project = some actions) (actionIn : action ∈ actions) :
    ∃ target, settings.catalog.actions.find? action = some target ∧
      settings.catalog.catalog.resolve project action = .ok ⟨action, Catalog.targetOf action target⟩ := by
  obtain ⟨target, found⟩ := Option.isSome_iff_exists.mp (sound.catalogued project actions listed action actionIn)
  refine ⟨target, found, ?_⟩
  rw [Catalog.resolve_eq_ok_iff, CatalogSettings.find?_targets, found]
  exact ⟨rfl, rfl, (CatalogSettings.contains_allowedFor _ project action).mpr ⟨actions, listed, actionIn⟩⟩

theorem refused_of_unlisted (settings : CatalogSettings) {project : Project} {action : Action}
    (unlisted : ∀ actions, settings.projects.find? project = some actions → action ∉ actions) :
    ∃ fault, settings.catalog.resolve project action = .error fault ∧ fault.kind = .notAllowlisted := by
  cases resolved : settings.catalog.resolve project action with
  | error fault => exact ⟨fault, rfl, Catalog.kind_of_resolve resolved⟩
  | ok entry =>
    obtain ⟨_, _, allowed⟩ := Catalog.resolve_eq_ok_iff.mp resolved
    obtain ⟨actions, found, actionIn⟩ := (CatalogSettings.contains_allowedFor settings project action).mp allowed
    exact absurd actionIn (unlisted actions found)

theorem Sound.family (sound : settings.Sound) {family : FamilySettings} (familyIn : family ∈ settings.families) :
    settings.family? family.name = some family.family := by
  have first : settings.families.find? (·.name == family.name) = some family := find?_of_key sound.distinct familyIn
  rw [family?, first]
  rfl

theorem bound_eq (settings : GatewaySettings) (action : Action) : settings.timeouts.bound action =
    if action ∈ settings.longRunningActions then settings.timeouts.longRunning
    else some (settings.normalTimeoutSeconds.toNat * 1000) := by
  simp only [Gateway.TimeoutPolicy.bound, Gateway.TimeoutPolicy.classify, GatewaySettings.timeouts,
    NameSet.contains_ofList]
  by_cases listed : action ∈ settings.longRunningActions <;> simp [listed]

theorem Sound.serves (sound : settings.Sound) : settings.Serves where
  resolved _ _ _ := sound.resolved
  refused _ _ := refused_of_unlisted settings.catalog
  family _ familyIn := ⟨filter_of_key sound.distinct familyIn, sound.family familyIn⟩
  noFamily name unknown := by
    have none : settings.families.find? (·.name == name) = none := by simpa using unknown
    rw [family?, none]
    rfl
  patient := by
    have positive := sound.staleAfter
    simp only [LockSettings.policy]
    omega
  unbounded action := by
    rw [bound_eq]
    by_cases listed : action ∈ settings.gateway.longRunningActions <;> simp [listed, GatewaySettings.timeouts]
  bounded action bound isBound := by
    have normal := sound.normalTimeout
    rw [bound_eq] at isBound
    split at isBound
    next listed =>
      simp only [GatewaySettings.timeouts, Option.ite_none_left_eq_some, Option.some.injEq] at isBound
      obtain ⟨notZero, rfl⟩ := isBound
      have positive : settings.gateway.longRunningTimeoutSeconds.toNat ≠ 0 := fun zero => notZero (UInt64.toNat_inj.mp zero)
      rw [if_pos listed]
      omega
    next unlisted =>
      cases isBound
      rw [if_neg unlisted]
      omega

/-- Whatever files and environment there are: settings are loaded exactly if the document that is asked for can
be decoded and nothing is wrong in what the environment makes of it; they say what the document gives, and the
rest by default; settings whose paths are texts are given by their own document; and settings that were loaded
serve everybody who is given them. -/
theorem load_serves (tree : Files.Tree) (environment : Environment) (path : Option Path) :
    (∀ settings, load tree environment path = .ok settings ↔
      ∃ given, Decoded tree (sourcePath? environment path) given ∧ Overridden environment given settings ∧
        settings.Sound) ∧
    (∀ document given, ofJson? document = some given → given.Follow document) ∧
    (∀ given : Settings, given.isPrintable = true → ofJson? given.toJson = some given) ∧
    ∀ settings, load tree environment path = .ok settings → settings.Serves := by
  refine ⟨fun settings => load_iff, fun document given => follow, fun given => ofJson?_toJson, ?_⟩
  intro settings loaded
  obtain ⟨_, _, _, sound⟩ := load_iff.mp loaded
  exact sound.serves

/-- An environment that gives no address and no token has a say in the path of the ledger alone. -/
theorem withOverrides_of_silent (environment : Environment) (given : Settings) (path : Option String)
    (noUrl : filled ((environment.find? urlVariable).bind OsText.text?) = none)
    (noToken : filled ((environment.find? tokenVariable).bind OsText.text?) = none)
    (said : filled ((environment.find? ledgerVariable).bind OsText.text?) = path) :
    given.withOverrides environment =
      { given with ledger := { given.ledger with path := (path.map Path.ofText).getD given.ledger.path } } := by
  simp only [withOverrides, said, noUrl, noToken]
  rfl

def releaseDocument : Json :=
  .object [("catalog", .object [("actions", .object [("deploy", .text " ")]),
    ("projects", .object [("alpha", .list [.text "deploy"])])])]

def releaseText : String :=
  "\x7b\"catalog\": \x7b\"actions\": \x7b\"deploy\": \" \"\x7d, \"projects\": \x7b\"alpha\": [\"deploy\"]\x7d\x7d\x7d"

def releaseTree : Files.Tree := .put .empty ["c.json", "work"] (.file releaseText)

def releaseEnvironment : Environment := Dictionary.empty.insert ledgerVariable "/srv/runs"

/-- What the document says, with a directory for the ledger. -/
def release (path : Path) : Settings :=
  { standard with
    ledger := ⟨.files, path⟩
    catalog := ⟨.insert .empty "deploy" " ", .insert .empty "alpha" ["deploy"]⟩ }

theorem read_releaseTree : releaseTree.read (.ofText "c.json") = .ok (Utf8.ofString releaseText) := by
  have spelled : Files.Tree.steps? (.ofText "c.json") = .ok ["c.json"] := by decide
  have work : releaseTree.find? ["work"] = some (.directory 0) := rfl
  have held : releaseTree.find? ["c.json", "work"] = some (.file (Utf8.ofString releaseText)) := rfl
  have located : releaseTree.locate (.ofText "c.json") = .ok ["c.json", "work"] :=
    (Files.Tree.locate_of_steps spelled).trans
      (Files.Tree.walk_single work rfl (by decide) (Files.Tree.noLink_of held rfl))
  rw [Files.Tree.read, Files.Tree.open?_iff.mpr ⟨_, located, held⟩]
  rfl

/-- The pair that the document lists is what the catalog resolves, and the environment names the ledger. -/
theorem load_serves_release :
    load releaseTree releaseEnvironment (some (.ofText "c.json")) = .ok (release (.ofText "/srv/runs")) ∧
      (release (.ofText "runs")).entryOf? "catalog" "projects" =
        some (.object [("alpha", .list [.text "deploy"])]) ∧
      (release (.ofText "/srv/runs")).catalog.catalog.resolve "alpha" "deploy" = .ok ⟨"deploy", "deploy"⟩ := by
  obtain ⟨load_iff, follow, _, serves⟩ := load_serves releaseTree releaseEnvironment (some (.ofText "c.json"))
  have parsed : Json.ofText? releaseText = some releaseDocument := rfl
  have decoded : ofJson? releaseDocument = some (release (.ofText "runs")) := rfl
  have overridden : release (.ofText "/srv/runs") = (release (.ofText "runs")).withOverrides releaseEnvironment :=
    (withOverrides_of_silent releaseEnvironment (release (.ofText "runs")) (some "/srv/runs")
      (by decide +kernel) (by decide +kernel) (by decide +kernel)).symm
  have loaded := (load_iff (release (.ofText "/srv/runs"))).mpr ⟨release (.ofText "runs"),
    ⟨releaseDocument, ⟨releaseText, read_releaseTree, parsed⟩, decoded⟩, overridden_iff.mpr overridden,
    (check_iff _).mp rfl⟩
  have follows := follow _ _ decoded
  refine ⟨loaded, follows.entries ("catalog", ["actions", "projects"]) (by decide) "projects" (by decide), ?_⟩
  obtain ⟨target, found, resolved⟩ := (serves _ loaded).resolved "alpha" ["deploy"] "deploy" rfl (by decide)
  cases found
  exact resolved

/-- A directory whose name is not UTF-8. -/
def unspelled : OsText := [0x2F, 0x73, 0xFF]

/-- A variable that is no text is not heeded though it is not blank, and a variable that names no file in place of a
document is not passed over though it is blank. -/
theorem environment_unheeded :
    load .empty (Dictionary.empty.insert ledgerVariable unspelled) none = .ok standard ∧
      isBlankText unspelled.shown = false ∧ standard.ledger.path ≠ ⟨unspelled⟩ ∧ standard.Sound ∧
      load .empty (Dictionary.empty.insert configVariable []) none = .error (.unreadableFile "" .missing) := by
  have sound : standard.Sound := (check_iff standard).mp rfl
  have same : standard = standard.withOverrides (Dictionary.empty.insert ledgerVariable unspelled) :=
    (withOverrides_of_silent (Dictionary.empty.insert ledgerVariable unspelled) standard none (by decide +kernel)
      (by decide +kernel) (by decide +kernel)).symm
  have named : (Dictionary.empty.insert configVariable ([] : OsText)).find? configVariable = some [] := by
    decide +kernel
  have absent : Files.Tree.empty.read ⟨[]⟩ = .error .missing := rfl
  have shown : (Path.mk []).shown = "" := by decide +kernel
  refine ⟨load_iff.mpr ⟨standard, rfl, overridden_iff.mpr same, sound⟩, by decide +kernel, by decide, sound, ?_⟩
  rw [load, named]
  simp only [Option.or, Option.map, readFile, absent, shown]
  rfl

end Settings

end SingleFlight.Config
