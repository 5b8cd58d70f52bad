import Mathlib.Data.List.Induction
import SingleFlight.Proofs.Admission
import SingleFlight.Proofs.Minting

/-!
The lock table and its past. Whichever way the clock went, what the table holds, whom it lets through and whom it
refuses can be read off the calls it has served and the answers it gave. Main statement: after any calls, the holds
of the table are the latest grants that have not come to an end.
-/

namespace SingleFlight

open Time

/-- A call on the lock table. A guard that is dropped lets go of the lock that it was made for. -/
inductive LockCall where
  | acquire (action : Action) (now : Timestamp) (suffix : UInt16)
  | release (action : Action)
  | releaseRun (action : Action) (runId : RunId)
  | dropGuard (action : Action) (guarded : Hold)

/-- The action whose lock a call is about. -/
def LockCall.action : LockCall → Action
  | acquire action _ _ | release action | releaseRun action _ | dropGuard action _ => action

inductive LockAnswer where
  | admission (admission : Admission)
  | released (wasHeld : Bool)
  | done

/-- The calls that were served, each with its answer, the first one first. -/
abbrev LockHistory := List (LockCall × LockAnswer)

namespace LockTable

variable {policy : LockPolicy} {table locks : LockTable} {action : Action} {live : Option Hold} {hold : Hold}

def serve (policy : LockPolicy) (table : LockTable) : LockCall → LockAnswer × LockTable
  | .acquire action now suffix =>
    match acquire policy table action now suffix with
    | (admission, locks) => (.admission admission, locks)
  | .release action => (.done, table.release action)
  | .releaseRun action runId =>
    match table.releaseRun action runId with
    | (wasHeld, locks) => (.released wasHeld, locks)
  | .dropGuard action guarded => (.done, (table.releaseRun action guarded.runId).2)

def serveAll (policy : LockPolicy) (table : LockTable) : List LockCall → LockHistory × LockTable
  | [] => ([], table)
  | call :: rest =>
    match serve policy table call with
    | (answer, after) =>
      match serveAll policy after rest with
      | (history, last) => ((call, answer) :: history, last)

/-- The hold that a grant of the lock has put into the table. A grant to an exempt action puts none there beside a
live one. -/
def entered? (policy : LockPolicy) (action : Action) (live : Option Hold) : LockCall × LockAnswer → Option Hold
  | (.acquire asked _ _, .admission (.granted runId startedAt)) =>
    if asked = action ∧ (policy.isExempt action = true → live = none) then some ⟨runId, startedAt⟩ else none
  | _ => none

/-- Whether a call has ended a grant of an action: the lock was let go, whoever held it or in the name of this run,
or it was taken away as stale for a request that was then broken off. -/
def ends (policy : LockPolicy) (action : Action) (hold : Hold) : LockCall × LockAnswer → Bool
  | (.acquire asked now _, .admission .brokenOff) => asked = action && mayYield policy action hold now
  | (.release asked, _) => asked = action
  | (.releaseRun asked runId, _) => asked = action && hold.runId = runId
  | (.dropGuard asked guarded, _) => asked = action && hold.runId = guarded.runId
  | _ => false

def liveAfter (policy : LockPolicy) (action : Action) (live : Option Hold) (event : LockCall × LockAnswer) : Option Hold :=
  (entered? policy action live event).or (live.filter fun hold => !ends policy action hold event)

/-- The live grant of an action after a history. -/
def liveGrant (policy : LockPolicy) (action : Action) (history : LockHistory) : Option Hold :=
  history.foldl (liveAfter policy action) none

theorem liveGrant_concat (history : LockHistory) (event : LockCall × LockAnswer) :
    liveGrant policy action (history ++ [event]) = liveAfter policy action (liveGrant policy action history) event := by
  simp [liveGrant]

theorem liveAfter_eq_self {event : LockCall × LockAnswer} (entersNone : entered? policy action live event = none)
    (endsNone : ∀ hold, live = some hold → ends policy action hold event = false) : liveAfter policy action live event = live := by
  cases live with
  | none => simp [liveAfter, entersNone]
  | some hold => simp [liveAfter, entersNone, endsNone, Option.filter_some]

/-- A call about another action changes nothing of what is live. -/
theorem liveAfter_of_other {call : LockCall} (answer : LockAnswer) (other : call.action ≠ action) :
    liveAfter policy action live (call, answer) = live := by
  apply liveAfter_eq_self
  · unfold entered?
    split
    next same =>
      cases same
      exact if_neg fun enters => other enters.1
    next => rfl
  · intro hold _
    cases call with
    | acquire asked now suffix =>
      have elsewhere : asked ≠ action := other
      cases answer with
      | admission admission =>
        cases admission with
        | brokenOff => simp [ends, elsewhere]
        | granted | refused => rfl
      | released | done => rfl
    | release asked => exact decide_eq_false other
    | releaseRun asked runId | dropGuard asked guarded =>
      have elsewhere : asked ≠ action := other
      simp [ends, elsewhere]

/-- A history goes up to a call whose grant has put a hold into the table; none of the calls after it has ended that
grant, or put another hold in its place. -/
structure IsLatestGrant (policy : LockPolicy) (action : Action) (hold : Hold) (before : LockHistory)
    (event : LockCall × LockAnswer) (after : LockHistory) : Prop where
  entered : entered? policy action (liveGrant policy action before) event = some hold
  lasts : ∀ later ∈ after, ends policy action hold later = false
  latest : ∀ between later, between ++ [later] <+: after →
    entered? policy action (liveGrant policy action (before ++ event :: between)) later = none

theorem IsLatestGrant.lives {before after : LockHistory} {event : LockCall × LockAnswer}
    (grant : IsLatestGrant policy action hold before event after) :
    liveGrant policy action (before ++ event :: after) = some hold := by
  induction after using List.reverseRecOn with
  | nil => rw [liveGrant_concat, liveAfter, grant.entered, Option.some_or]
  | append_singleton after last ih =>
    have lives := ih ⟨grant.entered, fun later inside => grant.lasts later (List.mem_append_left _ inside),
      fun between later early => grant.latest between later (early.trans (List.prefix_append _ _))⟩
    have unchanged := grant.latest after last (List.prefix_refl _)
    have goesOn := grant.lasts last (List.mem_append_right _ (List.mem_singleton_self _))
    rw [lives] at unchanged
    rw [← List.cons_append, ← List.append_assoc, liveGrant_concat, lives]
    refine liveAfter_eq_self unchanged ?_
    rintro _ ⟨⟩
    exact goesOn

theorem exists_isLatestGrant {history : LockHistory} (lives : liveGrant policy action history = some hold) :
    ∃ before event after, history = before ++ event :: after ∧ IsLatestGrant policy action hold before event after := by
  induction history using List.reverseRecOn with
  | nil => cases lives
  | append_singleton history last ih =>
    rw [liveGrant_concat, liveAfter, Option.or_eq_some_iff] at lives
    rcases lives with enters | ⟨unchanged, stays⟩
    · exact ⟨history, last, [], rfl, enters, nofun, by simp⟩
    · obtain ⟨lived, goesOn⟩ := Option.filter_eq_some_iff.mp stays
      obtain ⟨before, event, after, rfl, grant⟩ := ih lived
      refine ⟨before, event, after ++ [last], by simp, grant.entered, ?_, ?_⟩
      · intro later inside
        rcases List.mem_append.mp inside with early | isLast
        · exact grant.lasts later early
        · rw [List.mem_singleton.mp isLast]
          simpa using goesOn
      · intro between later within
        rcases List.prefix_concat_iff.mp within with isLast | early
        · obtain ⟨rfl, same⟩ := List.append_inj' isLast rfl
          cases same
          exact unchanged
        · exact grant.latest between later early

/-- What is live of an action is the latest grant that has put a hold into the table, unless a call has ended it. -/
theorem liveGrant_eq_some_iff (history : LockHistory) : liveGrant policy action history = some hold ↔
    ∃ before event after, history = before ++ event :: after ∧ IsLatestGrant policy action hold before event after := by
  constructor
  · exact exists_isLatestGrant
  · rintro ⟨before, event, after, rfl, grant⟩
    exact grant.lives

theorem find?_releaseRun_eq_filter (table : LockTable) (asked action : Action) (runId : RunId) :
    (table.releaseRun asked runId).2.find? action =
      (table.find? action).filter fun hold => !(asked = action && hold.runId = runId) := by
  rw [find?_releaseRun]
  by_cases same : asked = action
  · subst same
    cases held : table.find? asked with
    | none => simp
    | some hold => by_cases his : hold.runId = runId <;> simp [isHeldBy, held, his, Option.filter_some]
  · cases held : table.find? action <;> simp [same, Ne.symm same, Option.filter_some]

/-- A grant puts its hold into the table, or leaves the live one of an exempt action there. -/
theorem find?_of_granted {asked : Action} {now : Timestamp} {runId : RunId} (granted : Granted policy table asked now runId locks)
    (suffix : UInt16) (action : Action) : locks.find? action =
      liveAfter policy action (table.find? action) (.acquire asked now suffix, .admission (.granted runId now)) := by
  by_cases own : asked = action
  · subst own
    cases granted with
    | beside hold held exempt same =>
      subst same
      exact (liveAfter_eq_self (by simp [entered?, exempt, held]) fun _ _ => rfl).symm
    | alone free after =>
      have mayEnter (exempt : policy.isExempt asked = true) : table.find? asked = none := by
        rw [Option.eq_none_iff_forall_ne_some]
        intro hold held
        have yields := (mayYield_iff.mp (free hold held)).1
        rw [exempt] at yields
        cases yields
      have enters : entered? policy asked (table.find? asked) (.acquire asked now suffix, .admission (.granted runId now)) =
          some ⟨runId, now⟩ := if_pos ⟨rfl, mayEnter⟩
      rw [after, if_pos rfl, liveAfter, enters, Option.some_or]
  · have other : LockCall.action (.acquire asked now suffix) ≠ action := own
    rw [liveAfter_of_other _ other]
    cases granted with
    | beside _ _ _ same => rw [same]
    | alone _ after => rw [after, if_neg (Ne.symm own)]

/-- A call makes of every live grant what its answer says. -/
theorem find?_serve (policy : LockPolicy) (table : LockTable) (call : LockCall) (action : Action) :
    (serve policy table call).2.find? action =
      liveAfter policy action (table.find? action) (call, (serve policy table call).1) := by
  cases call with
  | acquire asked now suffix =>
    simp only [serve]
    cases answered : acquire policy table asked now suffix with | mk admission locks => ?_
    cases admission with
    | granted runId startedAt =>
      obtain ⟨rfl, _, granted⟩ := acquire_granted answered
      exact find?_of_granted granted suffix action
    | refused holder =>
      obtain ⟨rfl, _⟩ := acquire_refused answered
      exact (liveAfter_eq_self rfl fun _ _ => rfl).symm
    | brokenOff =>
      rw [find?_acquire_brokenOff answered]
      by_cases own : action = asked
      · simp [liveAfter, entered?, ends, own]
      · rw [if_neg own, liveAfter_of_other _ (Ne.symm own)]
  | release asked =>
    rw [serve, release, Dictionary.find?_erase]
    by_cases own : action = asked
    · simp [liveAfter, entered?, ends, own]
    · rw [if_neg own, liveAfter_of_other _ (Ne.symm own)]
  | releaseRun asked runId => exact find?_releaseRun_eq_filter table asked action runId
  | dropGuard asked guarded => exact find?_releaseRun_eq_filter table asked action guarded.runId

/-- What the table holds after some calls is what is live after them. -/
theorem find?_serveAll (policy : LockPolicy) (table : LockTable) (calls : List LockCall) (action : Action) :
    (serveAll policy table calls).2.find? action =
      (serveAll policy table calls).1.foldl (liveAfter policy action) (table.find? action) := by
  induction calls generalizing table with
  | nil => rfl
  | cons call rest ih =>
    simp only [serveAll, List.foldl_cons, ← find?_serve]
    exact ih _

/-- Whether a request of an action is let through beside what is live of it: the action is exempt, or nothing is live,
or what is live is older, in whole milliseconds, than the policy allows. -/
def LetsThrough (policy : LockPolicy) (action : Action) (live : Option Hold) (now : Timestamp) : Prop :=
  policy.isExempt action = true ∨ live = none ∨
    ∃ hold, live = some hold ∧ (policy.staleAfterMilliseconds : Int) < now.millisecondsSince hold.acquiredAt

/-- Whoever is let through gets the lock if the time has a UTC form, from which the id of the run is made. -/
theorem acquire_of_letsThrough {now : Timestamp} (through : LetsThrough policy action (table.find? action) now) (suffix : UInt16) :
    if now.utcForm?.isSome = true then ∃ runId, (acquire policy table action now suffix).1 = .granted runId now
    else (acquire policy table action now suffix).1 = .brokenOff := by
  rw [← RunId.isSome_mint? now suffix]
  cases answered : acquire policy table action now suffix with | mk admission locks => ?_
  cases admission with
  | granted runId startedAt =>
    obtain ⟨rfl, minted, _⟩ := acquire_granted answered
    simp [minted]
  | refused hold =>
    obtain ⟨_, held, notExempt, fresh⟩ := acquire_refused answered
    rcases through with exempt | free | ⟨other, otherHeld, stale⟩
    · rw [notExempt] at exempt
      cases exempt
    · rw [held] at free
      cases free
    · rw [held] at otherHeld
      cases otherHeld
      rw [isStale_iff.mpr stale] at fresh
      cases fresh
  | brokenOff => simp [(acquire_brokenOff answered).1]

/-- Whoever is not let through is told whom to join. -/
theorem acquire_of_not_letsThrough {now : Timestamp} (kept : ¬LetsThrough policy action (table.find? action) now)
    (suffix : UInt16) : ∃ hold, table.find? action = some hold ∧ acquire policy table action now suffix = (.refused hold, table) := by
  simp only [LetsThrough, not_or, Bool.not_eq_true] at kept
  obtain ⟨notExempt, taken, fresh⟩ := kept
  obtain ⟨hold, held⟩ := Option.ne_none_iff_exists'.mp taken
  have notStale : isStale policy hold now = false := by
    rw [← Bool.not_eq_true, isStale_iff]
    exact fun stale => fresh ⟨hold, held, stale⟩
  exact ⟨hold, held, acquire_of_fresh_hold held notExempt notStale⟩

/-- Each of the three answers, told by the hold in the table and the clock. -/
theorem acquire_iff (policy : LockPolicy) (table : LockTable) (action : Action) (now : Timestamp) (suffix : UInt16) :
    ((∃ runId, (acquire policy table action now suffix).1 = .granted runId now) ↔
      LetsThrough policy action (table.find? action) now ∧ now.utcForm?.isSome = true) ∧
    ((acquire policy table action now suffix).1 = .brokenOff ↔
      LetsThrough policy action (table.find? action) now ∧ now.utcForm?.isSome = false) ∧
    (∀ hold, (acquire policy table action now suffix).1 = .refused hold ↔
      ¬LetsThrough policy action (table.find? action) now ∧ table.find? action = some hold) := by
  by_cases through : LetsThrough policy action (table.find? action) now
  · have answer := acquire_of_letsThrough through suffix
    split at answer
    next formed =>
      obtain ⟨runId, granted⟩ := answer
      simp [through, formed, granted]
    next formless => simp [through, formless, answer]
  · obtain ⟨hold, held, refused⟩ := acquire_of_not_letsThrough through suffix
    rw [held] at through ⊢
    simp [through, refused]

/-- What the table answers next, told by the history of its answers so far. -/
structure ToldBy (policy : LockPolicy) (history : LockHistory) (table : LockTable) : Prop where
  /-- What is live of an action: the latest grant that has put a hold into the table, unless a call has ended it. -/
  live : ∀ action hold, liveGrant policy action history = some hold ↔
    ∃ before event after, history = before ++ event :: after ∧ IsLatestGrant policy action hold before event after
  peek : ∀ action, table.find? action = liveGrant policy action history
  held : ∀ action hold, (action, hold) ∈ table.held ↔ liveGrant policy action history = some hold
  sorted : table.held.Pairwise fun first second => first.1 < second.1
  granted : ∀ action now suffix, (∃ runId, (acquire policy table action now suffix).1 = .granted runId now) ↔
    LetsThrough policy action (liveGrant policy action history) now ∧ now.utcForm?.isSome = true
  /-- A time without a UTC form gives no id for a run, and so no answer to a request that is let through. -/
  brokenOff : ∀ action now suffix, (acquire policy table action now suffix).1 = .brokenOff ↔
    LetsThrough policy action (liveGrant policy action history) now ∧ now.utcForm?.isSome = false
  refused : ∀ action now suffix hold, (acquire policy table action now suffix).1 = .refused hold ↔
    ¬LetsThrough policy action (liveGrant policy action history) now ∧ liveGrant policy action history = some hold
  released : ∀ action runId, (table.releaseRun action runId).1 = true ↔
    ∃ hold, liveGrant policy action history = some hold ∧ hold.runId = runId

/-- Whatever calls come, and whatever times they show, the table is told by its history. -/
theorem told_by_history (policy : LockPolicy) (calls : List LockCall) :
    ToldBy policy (serveAll policy empty calls).1 (serveAll policy empty calls).2 := by
  have peek (action : Action) : (serveAll policy empty calls).2.find? action =
      liveGrant policy action (serveAll policy empty calls).1 := find?_serveAll policy empty calls action
  generalize serveAll policy empty calls = served at peek ⊢
  obtain ⟨history, table⟩ := served
  have answers (action : Action) (now : Timestamp) (suffix : UInt16) := acquire_iff policy table action now suffix
  simp only [peek] at answers
  refine ⟨fun _ _ => liveGrant_eq_some_iff history, peek, ?_, table.sorted, fun action now suffix => (answers action now suffix).1,
    fun action now suffix => (answers action now suffix).2.1, fun action now suffix => (answers action now suffix).2.2, ?_⟩
  · intro action hold
    rw [← peek]
    exact Dictionary.mem_entries
  · intro action runId
    rw [← peek, ← isHeldBy_iff]
    unfold releaseRun
    split
    next held => simp [held]
    next notHeld => simp [notHeld]

/-- Nothing is live, and yet nothing is granted an hour behind UTC at the end of the last year. -/
example : (Timestamp.ofDisplay? ⟨⟨9999, 12, 31⟩, 23, 59, 59, 0, -3600⟩).map
    (fun now => (acquire .standard empty "deploy" now 0).1) = some .brokenOff := by
  decide

end LockTable

end SingleFlight
