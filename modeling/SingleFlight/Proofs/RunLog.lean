import Mathlib.Data.List.Nodup
import SingleFlight.Flight.Desk
import SingleFlight.Ledger.Store

/-!
The log that a ledger is meant to be: records in the order in which they were appended, at most one for
each run. It is a store in its own right, kept in a list, and the stores are held against it.
-/

namespace SingleFlight.Ledger.RunLog

def holds (runId : RunId) (log : List RunRecord) : Bool := log.any (·.runId = runId)

def find? (runId : RunId) (log : List RunRecord) : Option RunRecord := log.find? (·.runId = runId)

/-- Whether a record is listed before another one: the greater id, which is that of the later run, is first. -/
def comesFirst (first second : RunRecord) : Bool := second.runId.text ≤ first.runId.text

def recent (filter : RunFilter) (limit : Nat) (log : List RunRecord) : List RunRecord :=
  ((log.filter filter.keeps).mergeSort comesFirst).take limit

def append (record : RunRecord) (log : List RunRecord) : Except Fault Unit × List RunRecord :=
  if holds record.runId log then (.error (.recordExists record.runId), log) else (.ok (), log ++ [record])

def store : RunStore (List RunRecord) where
  append _ := append
  get runId log := (.ok (find? runId log), log)
  listRecent filter limit log := (.ok (recent filter limit log), log)

variable {runId : RunId} {record : RunRecord} {log : List RunRecord}

theorem holds_iff : holds runId log = true ↔ runId ∈ log.map (·.runId) := by
  simp [holds]

theorem find?_isSome (runId : RunId) (log : List RunRecord) : (find? runId log).isSome = holds runId log := by
  rw [Bool.eq_iff_iff, find?, holds, List.find?_isSome, List.any_eq_true]

theorem append_of_absent (absent : record.runId ∉ log.map (·.runId)) : append record log = (.ok (), log ++ [record]) := by
  unfold append
  rw [if_neg]
  rw [holds_iff]
  exact absent

/-- Where ids tell records apart, there is one record under the id of each. -/
theorem filter_runId (distinct : (log.map (·.runId)).Nodup)
    (recordIn : record ∈ log) : log.filter (·.runId = record.runId) = [record] := filter_of_key distinct recordIn

theorem find?_of_mem (distinct : (log.map (·.runId)).Nodup) (recordIn : record ∈ log) :
    find? record.runId log = some record := find?_of_key distinct recordIn

section Order

variable {first second third : RunRecord}

theorem comesFirst_trans : ∀ first second third : RunRecord,
    comesFirst first second = true → comesFirst second third = true → comesFirst first third = true := by
  intro first second third before after
  simp only [comesFirst, decide_eq_true_eq] at before after ⊢
  exact String.le_trans after before

theorem comesFirst_total : ∀ first second : RunRecord, (comesFirst first second || comesFirst second first) = true := by
  intro first second
  simp only [comesFirst, Bool.or_eq_true, decide_eq_true_eq]
  exact String.le_total second.runId.text first.runId.text

/-- Records that each come before the other are of one run. -/
theorem runId_eq_of_comesFirst (before : comesFirst first second = true) (after : comesFirst second first = true) :
    first.runId = second.runId := by
  simp only [comesFirst, decide_eq_true_eq] at before after
  exact RunId.eq_of_text (String.le_antisymm after before)

theorem sorted (log : List RunRecord) : (log.mergeSort comesFirst).Pairwise (fun first second => comesFirst first second = true) :=
  List.pairwise_mergeSort comesFirst_trans comesFirst_total log

theorem eq_of_runId (distinct : (log.map (·.runId)).Nodup) (firstIn : first ∈ log) (secondIn : second ∈ log)
    (same : first.runId = second.runId) : first = second := List.inj_on_of_nodup_map distinct firstIn secondIn same

/-- It is all one whether records are put in order before some of them are picked or after. -/
theorem filter_mergeSort (distinct : (log.map (·.runId)).Nodup) (picked : RunRecord → Bool) :
    (log.mergeSort comesFirst).filter picked = (log.filter picked).mergeSort comesFirst := by
  have agree : ∀ first second, first ∈ (log.mergeSort comesFirst).filter picked →
      second ∈ (log.filter picked).mergeSort comesFirst → comesFirst first second = true →
      comesFirst second first = true → first = second := by
    intro first second firstIn secondIn before after
    have firstInLog := List.mem_mergeSort.mp (List.mem_filter.mp firstIn).1
    have secondInLog := (List.mem_filter.mp (List.mem_mergeSort.mp secondIn)).1
    exact eq_of_runId distinct firstInLog secondInLog (runId_eq_of_comesFirst before after)
  apply List.Perm.eq_of_pairwise agree
  · exact (sorted log).filter picked
  · exact sorted (log.filter picked)
  · exact ((List.mergeSort_perm log comesFirst).filter picked).trans (List.mergeSort_perm _ comesFirst).symm

end Order

end SingleFlight.Ledger.RunLog

namespace SingleFlight

/-- A time in the first minute of 2026, by the nanoseconds from its start. -/
def Time.Timestamp.newYear (nanoseconds : Nat) : Time.Timestamp where
  display := ⟨⟨2026, 1, 1⟩, 0, 0, nanoseconds / 1000000000 % 60, nanoseconds % 1000000000, 0⟩
  valid := by
    have date : (⟨2026, 1, 1⟩ : Time.Date).isValid = true := by decide
    have second : nanoseconds / 1000000000 % 60 < 60 := Nat.mod_lt _ (by decide)
    have nanosecond : nanoseconds % 1000000000 < 1000000000 := Nat.mod_lt _ (by decide)
    simp [Time.Display.isValid, date, second, nanosecond]

/-- A coordinator for one project with one action, which keeps its ledger in such a log and takes a lock
away after a second. -/
def Coordinator.ofDeployment : Coordinator (List RunRecord) where
  catalog := (Catalog.empty.withAction "deploy" "").withProject "alpha" ["deploy"]
  policy := ⟨NameSet.ofList [], 1000⟩
  store := Ledger.RunLog.store

end SingleFlight
