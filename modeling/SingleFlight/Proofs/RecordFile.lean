import SingleFlight.Proofs.Agreement

/-!
The file of a record. Names, texts and paths of a record may hold any text, and its times may have been taken
down at any offset that is written. Main statement: what a ledger of files has written for a record is read back as
that record, and is what would be written for it again.
-/

namespace SingleFlight

open Files Files.Tree Ledger Time

/-- Whether a year has four digits and an offset is one of whole minutes within a day, as in the text form of a time. -/
def Time.Timestamp.IsSpellable (time : Timestamp) : Prop :=
  (0 ≤ time.display.date.year ∧ time.display.date.year ≤ 9999) ∧
    -86400 < time.display.offset ∧ time.display.offset < 86400 ∧ time.display.offset % 60 = 0

instance (time : Timestamp) : Decidable time.IsSpellable :=
  inferInstanceAs (Decidable ((0 ≤ time.display.date.year ∧ time.display.date.year ≤ 9999) ∧
    -86400 < time.display.offset ∧ time.display.offset < 86400 ∧ time.display.offset % 60 = 0))

theorem Time.Timestamp.isPrintable_iff {time : Timestamp} : time.isPrintable = true ↔ time.IsSpellable := by
  have valid := time.valid
  simp only [Display.isValid, Bool.and_eq_true, decide_eq_true_eq] at valid
  simp only [isPrintable, IsSpellable, Bool.and_eq_true, decide_eq_true_eq]
  omega

namespace Ledger.FileStore

variable {root : Path} {nonce : UInt32} {record : RunRecord} {tree : Tree}

/-- An append that succeeds has put the payload of the record into a place that was vacant. -/
theorem append_ok (appended : (append root nonce record tree).1 = .ok ()) :
    ∃ (opened : Tree) (location : Location), opened.vacancy (recordPath root record.runId) = .ok location ∧
      (append root nonce record tree).2 = opened.put location (.file (payload record)) := by
  cases made : tree.makeDirectories root with | mk answer opened => ?_
  cases answer with
  | error failure =>
    rw [append, made] at appended
    cases appended
  | ok =>
    by_cases printable : record.isPrintable = true
    · cases staged : opened.vacancy (stagingPath root record.runId nonce) with
      | error failure =>
        rw [append_unstaged made printable staged] at appended
        cases appended
      | ok staging =>
        rw [append_eq made printable staged] at appended ⊢
        cases vacant : opened.vacancy (recordPath root record.runId) with
        | error failure =>
          rw [vacant] at appended
          cases appended
        | ok location => exact ⟨opened, location, vacant, rfl⟩
    · rw [append_unprintable nonce made printable] at appended
      cases appended

/-- What is written for a record is read back as the record, and written for it again; and it is what an append of
the record that succeeds has left under its name. -/
theorem record_file_round_trip (started : record.startedAt.IsSpellable) (finished : record.finishedAt.IsSpellable)
    (paths : ∀ path ∈ record.artifactPaths, path.isText = true) :
    decode? (payload record) = some record ∧
    (decode? (payload record)).map payload = some (payload record) ∧
    ∀ root nonce tree, (append root nonce record tree).1 = .ok () →
      (append root nonce record tree).2.read (recordPath root record.runId) = .ok (payload record) ∧
      get root record.runId (append root nonce record tree).2 = .ok (some record) := by
  have printable : record.isPrintable = true := by
    rw [RunRecord.isPrintable, RunRecord.isTimed, Timestamp.isPrintable_iff.mpr started,
      Timestamp.isPrintable_iff.mpr finished, List.all_eq_true.mpr paths]
    rfl
  have decoded := decode?_payload printable
  refine ⟨decoded, by rw [decoded, Option.map_some], ?_⟩
  intro root nonce tree appended
  obtain ⟨opened, location, vacant, after⟩ := append_ok appended
  rw [after]
  refine ⟨read_of_entry (entry_of_filed vacant _) ?_, get_of_filed printable vacant⟩
  rw [find?_put, if_pos rfl]

/-- A record at the edges of the format: of the first year, and of the last one, at the offsets farthest from UTC, with
characters that are escaped or take four bytes. -/
def farthest : RunRecord where
  runId := ⟨"00000101T235900Z-ffff", by rfl⟩
  project := "\"quoted\\ \n\u0000\u007f"
  action := "😀"
  startedAt := ⟨⟨⟨0, 1, 1⟩, 0, 0, 0, 1, -86340⟩, by decide⟩
  finishedAt := ⟨⟨⟨9999, 12, 31⟩, 23, 59, 59, 120000000, 86340⟩, by decide⟩
  status := .error
  exitCode := none
  duration := 18446744073709551615
  errorSummary := some "\t\r\x1b"
  artifactPaths := [.ofText "z/é.log", .ofText "", .ofText "a\\b"]

theorem record_file_round_trip_farthest :
    let after := (append (.ofText "/work") 0 farthest Tree.empty).2
    farthest.startedAt.IsSpellable ∧ farthest.finishedAt.IsSpellable ∧
    (∀ path ∈ farthest.artifactPaths, path.isText = true) ∧
    decode? (payload farthest) = some farthest ∧ (decode? (payload farthest)).map payload = some (payload farthest) ∧
    after.read (recordPath (.ofText "/work") farthest.runId) = .ok (payload farthest) ∧
    get (.ofText "/work") farthest.runId after = .ok (some farthest) := by
  have started : farthest.startedAt.IsSpellable := by decide
  have finished : farthest.finishedAt.IsSpellable := by decide
  have paths : ∀ path ∈ farthest.artifactPaths, path.isText = true := by simp [farthest, Path.isText, Path.ofText]
  have appended : (append (.ofText "/work") 0 farthest Tree.empty).1 = .ok () := by
    have printable : farthest.isPrintable = true := by
      rw [RunRecord.isPrintable, List.all_eq_true.mpr paths]
      rfl
    obtain ⟨after, _, answer⟩ := fresh_work.keptIn.append printable 0
    rw [answer]
    rfl
  obtain ⟨decoded, again, filed⟩ := record_file_round_trip started finished paths
  exact ⟨started, finished, paths, decoded, again, filed (.ofText "/work") 0 Tree.empty appended⟩

end Ledger.FileStore

end SingleFlight
