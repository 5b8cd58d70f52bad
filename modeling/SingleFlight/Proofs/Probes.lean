import SingleFlight.Gateway.Client

/-!
The course of health probes. Main statement: the gateway is asked until it answers well or the attempts run out, with a
growing wait between one probe and the next, and no wait behind the last.
-/

namespace SingleFlight.Gateway

variable {ν : Type}

section Course

variable (ask : ν → Bool × ν)

/-- The state that a number of probes lead to. -/
def afterProbes : Nat → ν → ν
  | 0, state => state
  | count + 1, state => afterProbes count (ask state).2

/-- Whether the probe of a number, counted from one, succeeds if it comes to be made. -/
def succeeds (state : ν) (number : Nat) : Bool := (ask (afterProbes ask (number - 1) state)).1

/-- What is done from the probe of a number on, if a number of probes fail and are not the last. -/
def failing (policy : HealthPolicy) (first count : Nat) : List ProbeStep :=
  (List.range' first count).flatMap fun number => [.asked false, .waited (policy.waitAfter number)]

/-- The probes that fail come first; the next one succeeds or is the last that remains. -/
theorem probeFrom_spec (policy : HealthPolicy) (attempt remaining : Nat) (state : ν) : ∃ failed ≤ remaining,
    (∀ number < failed, succeeds ask state (number + 1) = false) ∧
      (succeeds ask state (failed + 1) = true ∨ failed = remaining) ∧
      policy.probeFrom ask attempt (remaining + 1) state =
        (⟨succeeds ask state (failed + 1), failing policy attempt failed ++ [.asked (succeeds ask state (failed + 1))]⟩,
          afterProbes ask (failed + 1) state) := by
  induction remaining generalizing attempt state with
  | zero =>
    refine ⟨0, Nat.le_refl 0, nofun, .inr rfl, ?_⟩
    unfold HealthPolicy.probeFrom
    simp only [succeeds, afterProbes, Nat.add_one_sub_one]
    cases asked : ask state with
    | mk answered after => cases answered <;> rfl
  | succ remaining ih =>
    rw [HealthPolicy.probeFrom]
    cases asked : ask state with
    | mk answered after =>
      cases answered with
      | true =>
        have first : succeeds ask state 1 = true := congrArg Prod.fst asked
        refine ⟨0, Nat.zero_le _, nofun, .inl first, ?_⟩
        rw [first, afterProbes, asked]
        rfl
      | false =>
        have later (number : Nat) : succeeds ask state (number + 1 + 1) = succeeds ask after (number + 1) := by
          simp only [succeeds, Nat.add_one_sub_one, afterProbes, asked]
        obtain ⟨failed, few, failures, ended, probed⟩ := ih (attempt + 1) after
        refine ⟨failed + 1, Nat.succ_le_succ few, ?_, ?_, ?_⟩
        · intro number less
          cases number with
          | zero => exact congrArg Prod.fst asked
          | succ number => exact (later number).trans (failures number (Nat.lt_of_succ_lt_succ less))
        · rw [later]
          exact ended.imp_right (congrArg (· + 1))
        · have begins : failing policy attempt (failed + 1) =
              .asked false :: .waited (policy.waitAfter attempt) :: failing policy (attempt + 1) failed := by
            rw [failing, List.range'_succ]
            rfl
          have leads : afterProbes ask (failed + 1 + 1) state = afterProbes ask (failed + 1) after :=
            congrArg (afterProbes ask (failed + 1)) (congrArg Prod.snd asked)
          dsimp only
          rw [if_neg (Nat.succ_ne_zero remaining), probed, later, begins, leads]
          rfl

end Course

/-- How probing goes by a policy, where it is given which probes would succeed: how many probes are made, what is
reported, and what is waited between one probe and the next. -/
structure Goes (policy : HealthPolicy) (succeeds : Nat → Bool) (probing : Probing) (count : Nat) : Prop where
  positive : 1 ≤ count
  allowed : count ≤ max policy.retries.toNat 1
  failures : ∀ number, 1 ≤ number → number < count → succeeds number = false
  ended : succeeds count = true ∨ count = max policy.retries.toNat 1
  ok : probing.ok = true ↔ ∃ number, 1 ≤ number ∧ number ≤ max policy.retries.toNat 1 ∧ succeeds number = true
  steps : probing.steps =
    ((List.range' 1 (count - 1)).flatMap fun number =>
      [.asked false, .waited (min (policy.backoff * number) HealthPolicy.longestWait)]) ++ [.asked (succeeds count)]

theorem probe_goes (policy : HealthPolicy) (ask : ν → Bool × ν) (state : ν) : ∃ count,
    Goes policy (succeeds ask state) (policy.probe ask state).1 count ∧
      (policy.probe ask state).2 = afterProbes ask count state := by
  obtain ⟨remaining, attempts⟩ : ∃ remaining, policy.attempts = remaining + 1 :=
    ⟨policy.attempts - 1, by rw [HealthPolicy.attempts]; omega⟩
  obtain ⟨failed, few, failures, ended, probed⟩ := probeFrom_spec ask policy 1 remaining state
  rw [HealthPolicy.probe, attempts, probed]
  rw [HealthPolicy.attempts] at attempts
  have failures (number : Nat) (positive : 1 ≤ number) (less : number < failed + 1) : succeeds ask state number = false := by
    obtain ⟨number, rfl⟩ := Nat.exists_eq_add_of_le' positive
    exact failures number (Nat.lt_of_succ_lt_succ less)
  refine ⟨failed + 1, ⟨by omega, by omega, failures, ended.imp_right (by omega), ?_, rfl⟩, rfl⟩
  constructor
  · exact fun answered => ⟨failed + 1, by omega, by omega, answered⟩
  · rintro ⟨number, positive, atMost, answered⟩
    rcases ended with succeeded | last
    · exact succeeded
    · -- All probes but the last one failed, so that the last one is the one that succeeds.
      rcases Nat.lt_or_ge number (failed + 1) with less | notLess
      · rw [failures number positive less] at answered
        cases answered
      · rwa [show number = failed + 1 by omega] at answered

/-- Whatever comes of the probes, as many are made as it takes for one to succeed, and no more than a policy allows, at
least one; and a client that checks the health of its gateway makes these probes and reports what came of them. -/
theorem health_probed :
    (∀ (policy : HealthPolicy) (succeeds : Nat → Bool), ∃ probing count,
      policy.probe (fun made => (succeeds (made + 1), made + 1)) 0 = (probing, count) ∧ Goes policy succeeds probing count) ∧
    ∀ (ν : Type) (client : Client) (network : Network ν) (elapsed : Milliseconds) (state : ν),
      let ask := client.isHealthy network
      let probing := (client.health.probe ask state).1
      ∃ count, Goes client.health (succeeds ask state) probing count ∧
        client.checkHealth network elapsed state = (⟨probing.ok, elapsed⟩, afterProbes ask count state) := by
  constructor
  · intro policy answers
    let ask (made : Nat) : Bool × Nat := (answers (made + 1), made + 1)
    have counted (count made : Nat) : afterProbes ask count made = made + count := by
      induction count generalizing made with
      | zero => rfl
      | succ count ih => rw [afterProbes, ih, Nat.add_assoc, Nat.add_comm 1]
    obtain ⟨count, goes, after⟩ := probe_goes policy ask 0
    rw [counted, Nat.zero_add] at after
    have same (number : Nat) (positive : 1 ≤ number) : succeeds ask 0 number = answers number := by
      rw [succeeds, counted, Nat.zero_add]
      exact congrArg answers (Nat.sub_add_cancel positive)
    refine ⟨_, count, Prod.ext rfl after, goes.positive, goes.allowed, ?_, ?_, ?_, ?_⟩
    · exact fun number positive less => (same number positive).symm.trans (goes.failures number positive less)
    · rw [← same count goes.positive]
      exact goes.ended
    · rw [goes.ok]
      exact exists_congr fun number => and_congr_right fun positive => by rw [same number positive]
    · rw [← same count goes.positive]
      exact goes.steps
  · intro ν client network elapsed state ask probing
    obtain ⟨count, goes, after⟩ := probe_goes client.health ask state
    exact ⟨count, goes, Prod.ext rfl after⟩

/-- A policy without retries has one probe made, and waits for nothing. -/
example : HealthPolicy.probe ⟨5000, 0, 7⟩ (fun made => (false, made + 1)) 0 = (⟨false, [.asked false]⟩, 1) := rfl

end SingleFlight.Gateway
