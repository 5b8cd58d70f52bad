import SingleFlight.Proofs.Directories
import SingleFlight.Proofs.Rows

/-!
The file of a ledger database. Once a path leads to a database it goes on doing so, and what is asked of the
ledger at the path is answered by the tables; all else that an operation leaves in the tree are directories.
-/

namespace SingleFlight.Ledger.SqlStore

open Files Files.Tree

variable {path outer : Path} {tree opened : Tree} {location : Location} {database : Database} {runId : RunId}
  {record : RunRecord}

/-- What a tree is once the directories that lead to a database are there. -/
inductive Reached (path : Path) (tree : Tree) : Tree → Prop where
  | below {outer : Path} {opened : Tree} (above : outerDirectory? path = some outer)
    (made : tree.makeDirectories outer = (.ok (), opened)) : Reached path tree opened
  | here (top : outerDirectory? path = none) (lasting : isTransient path = false) : Reached path tree tree

/-- Whether a path opens as a database at a location. -/
structure Opens (path : Path) (tree opened : Tree) (location : Location) (database : Database) : Prop where
  reached : Reached path tree opened
  found : openAt path opened = .ok (location, database)

theorem outerDirectory?_iff : outerDirectory? path = some outer ↔ path.parent? = some outer ∧ outer.text.isEmpty = false := by
  rw [outerDirectory?, Option.filter_eq_some_iff]
  simp

theorem Reached.paved (reached : Reached path tree opened) : Paved path tree opened := by
  cases reached with
  | @below outer _ above made =>
    have paved := makeDirectories_paved tree outer
    rw [made] at paved
    exact paved.outwards (outerDirectory?_iff.mp above).1
  | here => exact .start

section Uses

variable {α : Type} (work : Database → Except SqlFailure α × Database)

theorem Reached.use (reached : Reached path tree opened) : use path work tree = useAt path work opened := by
  cases reached with
  | below above made =>
    unfold SqlStore.use
    rw [above]
    dsimp only
    rw [made]
  | here top lasting =>
    unfold SqlStore.use
    rw [top]
    dsimp only
    rw [lasting]
    rfl

/-- Work on a database that opens is done on it, and what has become of it is kept in its place. -/
theorem Opens.use (opens : Opens path tree opened location database) :
    use path work tree = ((work database).1, opened.put location (.database (work database).2)) := by
  rw [opens.reached.use, useAt, opens.found]

end Uses

/-- What becomes of a path that is worked on: it opens as a database, or it never lasts, or it fails
whatever the work. -/
theorem use_cases (path : Path) (tree : Tree) :
    (∃ opened location database, Opens path tree opened location database) ∨
      (∀ {α : Type} (work : Database → Except SqlFailure α × Database), use path work tree = ((work .empty).1, tree)) ∨
      ∃ failure opened, Paved path tree opened ∧
        ∀ {α : Type} (work : Database → Except SqlFailure α × Database), use path work tree = (.error failure, opened) := by
  have byReach (opened : Tree) (reached : Reached path tree opened) :
      (∃ opened location database, Opens path tree opened location database) ∨
        ∃ failure opened, Paved path tree opened ∧
          ∀ {α : Type} (work : Database → Except SqlFailure α × Database),
            SqlStore.use path work tree = (.error failure, opened) := by
    cases found : openAt path opened with
    | error failure =>
      refine .inr ⟨failure, opened, reached.paved, ?_⟩
      intro α work
      rw [reached.use, useAt, found]
    | ok held => exact .inl ⟨opened, held.1, held.2, reached, found⟩
  cases top : outerDirectory? path with
  | none =>
    cases transient : isTransient path with
    | true =>
      refine .inr (.inl ?_)
      intro α work
      rw [SqlStore.use, top]
      dsimp only
      rw [if_pos transient]
    | false => exact (byReach tree (.here top transient)).imp_right .inr
  | some outer =>
    cases made : tree.makeDirectories outer with
    | mk answer opened =>
      cases answer with
      | ok => exact (byReach opened (.below top made)).imp_right .inr
      | error failure =>
        have paved := makeDirectories_paved tree outer
        rw [made] at paved
        refine .inr (.inr ⟨.engine failure.message, opened, paved.outwards (outerDirectory?_iff.mp top).1, ?_⟩)
        intro α work
        rw [SqlStore.use, top]
        dsimp only
        rw [made]

/-- Neither a directory nor a link stands where a database opens. -/
theorem openAt_ok (found : openAt path tree = .ok (location, database)) : tree.locate path = .ok location ∧
    ∀ held, tree.find? location = some held → held.isDirectory = false ∧ held.isLink = false := by
  unfold openAt at found
  split at found
  next => cases found
  next other located =>
    split at found
    next nothing =>
      cases found
      refine ⟨located, ?_⟩
      intro held there
      rw [nothing] at there
      cases there
    next held =>
      cases found
      refine ⟨located, ?_⟩
      intro node there
      rw [held] at there
      cases there
      exact ⟨rfl, rfl⟩
    next held =>
      cases found
      refine ⟨located, ?_⟩
      intro node there
      rw [held] at there
      cases there
      exact ⟨rfl, rfl⟩
    next => cases found
    next => cases found

/-- A database that was put where one opened opens there. -/
theorem Opens.put (opens : Opens path tree opened location database) (after : Database) :
    Opens path (opened.put location (.database after)) (opened.put location (.database after)) location after := by
  obtain ⟨located, noOther⟩ := openAt_ok opens.found
  have follows : Follows opened (opened.put location (.database after)) := follows_put rfl noOther
  refine ⟨?_, ?_⟩
  · cases opens.reached with
    | below above made =>
      have is := isDirectory_of_makeDirectories made (outerDirectory?_iff.mp above).2
      exact .below above (makeDirectories_of_isDirectory (follows.isDirectory is))
    | here top lasting => exact .here top lasting
  · unfold openAt
    rw [follows.locate located]
    dsimp only
    rw [find?_put, if_pos rfl]

/-- Whether a database is kept at a path. -/
def KeptAt (path : Path) (database : Database) (tree : Tree) : Prop :=
  ∃ opened location, Opens path tree opened location database

theorem KeptAt.use {α : Type} (work : Database → Except SqlFailure α × Database) (kept : KeptAt path database tree) :
    (use path work tree).1 = (work database).1 ∧ KeptAt path (work database).2 (use path work tree).2 := by
  obtain ⟨opened, location, opens⟩ := kept
  rw [opens.use work]
  exact ⟨rfl, _, location, opens.put (work database).2⟩

theorem withDatabase_eq {α : Type} (operation : String) (work : Database → Except SqlFailure α × Database) :
    withDatabase operation path work tree =
      ((use path work tree).1.mapError fun failure => .sqlStore operation failure none, (use path work tree).2) := by
  unfold withDatabase
  cases use path work tree with
  | mk answer after => cases answer <;> rfl

theorem append_eq (path : Path) (nonce : UInt32) (record : RunRecord) (tree : Tree) :
    (store path).append nonce record tree =
      ((use path (append record) tree).1.mapError fun failure => .sqlStore "append" failure (some record.runId),
        (use path (append record) tree).2) := by
  rw [store]
  dsimp only
  rw [withDatabase_eq]
  cases (use path (append record) tree).1 <;> rfl

/-- The ledger at the path of a database answers as its tables do. -/
theorem KeptAt.serve (call : LedgerCall) (kept : KeptAt path database tree) :
    ((store path).serve tree call).1 = (tables.serve database call).1 ∧
      KeptAt path (tables.serve database call).2 ((store path).serve tree call).2 := by
  cases call with
  | append nonce record =>
    obtain ⟨answers, stays⟩ := kept.use (append record)
    rw [RunStore.serve, append_eq, answers]
    exact ⟨rfl, stays⟩
  | get runId =>
    obtain ⟨answers, stays⟩ := kept.use (query (find runId))
    have asked : (store path).get runId tree = withDatabase "get" path (query (find runId)) tree := rfl
    rw [RunStore.serve, asked, withDatabase_eq, answers]
    exact ⟨rfl, stays⟩
  | listRecent filter limit =>
    obtain ⟨answers, stays⟩ := kept.use (query (recent filter limit))
    by_cases nothing : limit = 0
    · have asked : (store path).listRecent filter limit tree = (.ok [], tree) := if_pos nothing
      have tabled : tables.listRecent filter limit database = (.ok [], database) := if_pos nothing
      rw [RunStore.serve, RunStore.serve, asked, tabled]
      exact ⟨rfl, kept⟩
    · have asked : (store path).listRecent filter limit tree = withDatabase "list_recent" path (query (recent filter limit)) tree :=
        if_neg nothing
      have tabled : tables.listRecent filter limit database = named "list_recent" none (query (recent filter limit) database) :=
        if_neg nothing
      rw [RunStore.serve, RunStore.serve, asked, tabled, withDatabase_eq, answers]
      exact ⟨rfl, stays⟩

theorem KeptAt.get (kept : KeptAt path database tree) (runId : RunId) :
    ((store path).get runId tree).1 = (tables.get runId database).1 := by
  have answers : LedgerAnswer.got ((store path).get runId tree).1 = .got (tables.get runId database).1 :=
    (kept.serve (.get runId)).1
  exact LedgerAnswer.got.inj answers

theorem KeptAt.serveAll (kept : KeptAt path database tree) (calls : List LedgerCall) :
    ((store path).serveAll tree calls).1 = (tables.serveAll database calls).1 ∧
      KeptAt path (tables.serveAll database calls).2 ((store path).serveAll tree calls).2 := by
  induction calls generalizing database tree with
  | nil => exact ⟨rfl, kept⟩
  | cons call rest ih =>
    obtain ⟨answers, stays⟩ := kept.serve call
    obtain ⟨restAnswers, last⟩ := ih stays
    refine ⟨?_, last⟩
    rw [RunStore.serveAll, RunStore.serveAll, answers, restAnswers]

/-- What can come of an append to the ledger at a path: what comes of it to the tables of the database that is
kept there, or a fault and nothing new but directories. -/
inductive OutcomeAt (path : Path) (record : RunRecord) (tree : Tree) : Except Fault Unit × Tree → Prop where
  | added {opened : Tree} {location : Location} {database after : Database}
    (opens : Opens path tree opened location database) (outcome : Outcome record database (.ok (), after)) :
    OutcomeAt path record tree (.ok (), opened.put location (.database after))
  | refused {opened : Tree} {location : Location} {database after : Database} {failure : SqlFailure} (fault : Fault)
    (opens : Opens path tree opened location database) (outcome : Outcome record database (.error failure, after)) :
    OutcomeAt path record tree (.error fault, opened.put location (.database after))
  | unopened {opened : Tree} (fault : Fault) (paved : Paved path tree opened) :
    OutcomeAt path record tree (.error fault, opened)

theorem appendAt_outcome (path : Path) (nonce : UInt32) (record : RunRecord) (tree : Tree) :
    OutcomeAt path record tree ((store path).append nonce record tree) := by
  rw [append_eq]
  rcases use_cases path tree with opening | transient | failing
  · obtain ⟨opened, location, database, opens⟩ := opening
    have outcome := append_outcome record database
    rw [opens.use]
    cases appended : append record database with
    | mk answer after =>
      rw [appended] at outcome
      cases answer with
      | ok => exact .added opens outcome
      | error failure => exact .refused _ opens outcome
  · have refused : (append record .empty).1 = .error .schemaOutdated := rfl
    rw [transient, refused]
    exact .unopened _ .start
  · obtain ⟨failure, opened, paved, fails⟩ := failing
    rw [fails]
    exact .unopened _ paved

/-- A record can only be read where a database is kept. -/
theorem keptAt_of_get (got : ((store path).get runId tree).1 = .ok (some record)) :
    ∃ database, KeptAt path database tree ∧ Shows runId record database := by
  have asked : (store path).get runId tree = withDatabase "get" path (query (find runId)) tree := rfl
  rw [asked, withDatabase_eq] at got
  rcases use_cases path tree with opening | transient | failing
  · obtain ⟨opened, location, database, opens⟩ := opening
    rw [opens.use] at got
    exact ⟨database, ⟨opened, location, opens⟩, got⟩
  · have refused : (query (find runId) .empty).1 = .error .schemaOutdated := rfl
    rw [transient, refused] at got
    cases got
  · obtain ⟨failure, opened, _, fails⟩ := failing
    rw [fails] at got
    cases got

/-- What a run is read back as at a path, it is read back as ever after. -/
theorem get_ever_after (calls : List LedgerCall) (got : ((store path).get runId tree).1 = .ok (some record)) :
    ((store path).get runId ((store path).serveAll tree calls).2).1 = .ok (some record) := by
  obtain ⟨database, kept, shown⟩ := keptAt_of_get got
  obtain ⟨_, last⟩ := kept.serveAll calls
  have stillShown := shows_serveAll calls shown
  rw [last.get]
  exact stillShown

end SingleFlight.Ledger.SqlStore
