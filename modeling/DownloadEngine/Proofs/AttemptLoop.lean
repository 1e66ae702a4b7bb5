import DownloadEngine.Proofs.Backoff
import DownloadEngine.Retry.Loop

/-!
# The attempt loop

The loop makes attempt 1, then attempt 2, and so on, each on the state the one before it left,
and after each does what the attempt's result says. A success ends it with the value. A failure
that no further attempt can mend ends it with that failure, and so does any failure at the
attempt limit; an interruption is such a failure. After a failure another attempt may mend,
below the limit, the loop backs off: a stop signal seen then ends it interrupted, and otherwise
the next attempt follows.

`Settles` states this rule on its own terms, from the attempts' results and the failures worth
another attempt (`TransferFailure.Transient`), with no reference to how the loop or its policy
compute. The loop follows it from attempt one. The first attempt is made whatever the limit, and
the loop goes on past attempt `k` only below the limit, so its last attempt is at most
`max 1 max_attempts`: a limit of zero still allows one attempt.

## Main statements

* `TransferFailure.transient_iff`: the failures worth another attempt are those of a retryable
  kind.
* `Retry.Settles.unique`: the rule allows one answer.
* `Retry.Settles.attempts_le`: the last attempt of a settled loop is within the limit.
* `Retry.attempt_loop_semantics`: the loop follows the rule from attempt one, and stops within
  the limit.
* `Retry.run_eq_runOn`: the loop over scripted results is the loop over a state it ignores.
-/

namespace DownloadEngine

namespace TransferFailure

/-- A failure that another attempt may mend: throttling (HTTP 429), a server error (HTTP 500 to
599), a body shorter than promised, and a transfer-library timeout or broken connection. -/
inductive Transient : TransferFailure → Prop
  | throttled : Transient (.http 429)
  | serverError {code : Nat} : 500 ≤ code → code ≤ 599 → Transient (.http code)
  | shortBody {expected received : Nat} : Transient (.shortBody expected received)
  | timeout : Transient (.library Retry.Kind.timeoutCode)
  | connection {code : Nat} : code ∈ Retry.Kind.connectionCodes → Transient (.library code)

theorem transient_http_iff (code : Nat) :
    Transient (.http code) ↔ code = 429 ∨ (500 ≤ code ∧ code ≤ 599) := by
  constructor
  · rintro (_ | ⟨h₁, h₂⟩)
    · exact .inl rfl
    · exact .inr ⟨h₁, h₂⟩
  · rintro (rfl | ⟨h₁, h₂⟩)
    · exact .throttled
    · exact .serverError h₁ h₂

theorem transient_library_iff (code : Nat) :
    Transient (.library code) ↔ code = Retry.Kind.timeoutCode ∨ code ∈ Retry.Kind.connectionCodes := by
  constructor
  · intro h
    cases h with
    | timeout => exact .inl rfl
    | connection h => exact .inr h
  · rintro (rfl | h)
    · exact .timeout
    · exact .connection h

/-- The failures worth another attempt are exactly those the retry policy does not count as
final: a 4xx status other than 429, a storage failure, a protocol breach, a refused resume and an
interruption are final. -/
theorem transient_iff (e : TransferFailure) : e.Transient ↔ e.kind ≠ .other := by
  cases e with
  | library code =>
    rw [transient_library_iff]
    simp only [kind, Retry.Kind.ofTransferCode]
    split
    · simp [*]
    · split <;> simp [*]
  | http code =>
    rw [transient_http_iff]
    simp only [kind, Retry.Kind.ofHttpStatus]
    split
    · simp only [ne_eq, reduceCtorEq, not_false_eq_true, iff_true]
      omega
    · split
      · simp only [ne_eq, reduceCtorEq, not_false_eq_true, iff_true]
        omega
      · simp only [ne_eq, not_true_eq_false, iff_false]
        omega
  | shortBody expected received => exact ⟨fun _ => by simp [kind], fun _ => .shortBody⟩
  | storage _ | protocol _ | resumeRejected | interrupted _ =>
    exact ⟨fun h => (by cases h), fun h => absurd rfl h⟩

end TransferFailure

namespace Retry

variable {σ α : Type}

/-- The answers of the loop from attempt `k` on state `s`, read off the attempts' results:
attempt `k` runs on `s`, and its result ends the loop or hands the state it left to attempt
`k + 1`. -/
inductive Settles (p : Policy) (stopAt : Nat → Option Signal)
    (step : Nat → σ → σ × Except TransferFailure α) : Nat → σ → σ × Outcome α → Prop
  /-- A success is the answer. -/
  | success {k : Nat} {s s' : σ} {v : α} :
      step k s = (s', .ok v) → Settles p stopAt step k s (s', ⟨.ok v, k⟩)
  /-- A failure no attempt can mend, or any failure at the limit, is the answer. -/
  | final {k : Nat} {s s' : σ} {e : TransferFailure} :
      step k s = (s', .error e) → ¬ e.Transient ∨ p.maxAttempts ≤ k →
      Settles p stopAt step k s (s', ⟨.error e, k⟩)
  /-- A stop signal seen while backing off interrupts the loop. -/
  | stopped {k : Nat} {s s' : σ} {e : TransferFailure} {sig : Signal} :
      step k s = (s', .error e) → e.Transient → k < p.maxAttempts → stopAt k = some sig →
      Settles p stopAt step k s (s', ⟨.error (.interrupted sig), k⟩)
  /-- Otherwise the next attempt runs on the state this one left. -/
  | retry {k : Nat} {s s' : σ} {e : TransferFailure} {r : σ × Outcome α} :
      step k s = (s', .error e) → e.Transient → k < p.maxAttempts → stopAt k = none →
      Settles p stopAt step (k + 1) s' r → Settles p stopAt step k s r

variable {p : Policy} {stopAt : Nat → Option Signal} {step : Nat → σ → σ × Except TransferFailure α}

/-- The rule allows one answer from each attempt and state. -/
theorem Settles.unique {k : Nat} {s : σ} {r r' : σ × Outcome α}
    (h : Settles p stopAt step k s r) (h' : Settles p stopAt step k s r') : r = r' := by
  induction h generalizing r' with
  | success hs =>
    cases h' <;> simp_all
  | final hs hfin =>
    cases h' with
    | success hs' => simp_all
    | final hs' => simp_all
    | stopped hs' ht hlt => simp only [hs, Prod.mk.injEq, Except.error.injEq] at hs'; grind
    | retry hs' ht hlt => simp only [hs, Prod.mk.injEq, Except.error.injEq] at hs'; grind
  | stopped hs ht hlt hsig =>
    cases h' with
    | success hs' => simp_all
    | final hs' hfin => simp only [hs, Prod.mk.injEq, Except.error.injEq] at hs'; grind
    | stopped hs' => simp_all
    | retry hs' _ _ hsig' => simp_all
  | retry hs ht hlt hsig _ ih =>
    cases h' with
    | success hs' => simp_all
    | final hs' hfin => simp only [hs, Prod.mk.injEq, Except.error.injEq] at hs'; grind
    | stopped hs' _ _ hsig' => simp_all
    | retry hs' _ _ _ hnext =>
      obtain ⟨rfl, -⟩ := Prod.mk.inj (hs.symm.trans hs')
      exact ih hnext

/-- A settled loop ends at attempt `k` or later, and past `k` only within the limit. -/
theorem Settles.attempts_le {k : Nat} {s : σ} {r : σ × Outcome α}
    (h : Settles p stopAt step k s r) : k ≤ r.2.attempts ∧ r.2.attempts ≤ max k p.maxAttempts := by
  induction h with
  | success => exact ⟨Nat.le_refl _, Nat.le_max_left _ _⟩
  | final => exact ⟨Nat.le_refl _, Nat.le_max_left _ _⟩
  | stopped => exact ⟨Nat.le_refl _, Nat.le_max_left _ _⟩
  | retry _ _ hlt _ _ ih => omega

/-- With enough attempts left to reach the limit, the loop follows the rule. -/
theorem runOnFrom_settles (p : Policy) (stopAt : Nat → Option Signal)
    (step : Nat → σ → σ × Except TransferFailure α) (attempt : Nat) (s : σ) (fuel : Nat)
    (h : p.maxAttempts ≤ attempt + fuel) :
    Settles p stopAt step attempt s (runOnFrom p stopAt step attempt s fuel) := by
  induction fuel generalizing attempt s with
  | zero =>
    -- out of fuel the attempt is at the limit, so its result is the answer
    cases hs : step attempt s with
    | mk s' r =>
      simp only [runOnFrom, hs]
      cases r with
      | ok v => exact .success hs
      | error e => exact .final hs (.inr (by omega))
  | succ fuel ih =>
    unfold runOnFrom
    split
    · next s' v hs => exact .success hs
    · next s' sig hs => exact .final hs (.inl (fun h => nomatch h))
    · next s' e _ hs =>
      split
      · next hd =>
        -- no retry: the limit is reached, or the failure is final
        rcases (Policy.decide_eq_noRetry_iff p attempt e.kind).1 hd with hm | hk
        · exact .final hs (.inr hm)
        · exact .final hs (.inl fun ht => (e.transient_iff.1 ht) hk)
      · next d hd =>
        obtain ⟨hlt, hk, -⟩ := (Policy.decide_eq_retryAfter_iff p attempt e.kind d).1 hd
        split
        · next sig hsig => exact .stopped hs (e.transient_iff.2 hk) hlt hsig
        · next hsig =>
          exact .retry hs (e.transient_iff.2 hk) hlt hsig (ih (attempt + 1) s' (by omega))

/-- The attempt loop follows its rule: from attempt one it makes attempts `1, 2, ..., k` in turn,
each on the state the one before left, and answers as `Settles` says; its last attempt `k` is at
least one and at most `max 1 max_attempts`. -/
theorem attempt_loop_semantics (p : Policy) (stopAt : Nat → Option Signal)
    (step : Nat → σ → σ × Except TransferFailure α) (s : σ) :
    Settles p stopAt step 1 s (runOn p stopAt step s) ∧
      1 ≤ (runOn p stopAt step s).2.attempts ∧
      (runOn p stopAt step s).2.attempts ≤ max 1 p.maxAttempts := by
  have h := runOnFrom_settles p stopAt step 1 s p.maxAttempts (by omega)
  exact ⟨h, h.attempts_le⟩

/-- A limit of zero still allows the first attempt: a loop whose attempts are all throttled
makes one attempt, one more than its limit. -/
theorem zero_limit_makes_one_attempt :
    (runOn (⟨0, Duration.ofMillis 1, Duration.ofMillis 5⟩ : Policy) (fun _ => none)
      (fun _ (u : Unit) => (u, (.error (.http 503) : Except TransferFailure Unit))) ()).2.attempts =
        1 := by
  decide

theorem runFrom_eq_runOnFrom (p : Policy) (stopAt : Nat → Option Signal)
    (result : Nat → Except TransferFailure α) (attempt fuel : Nat) :
    runFrom p stopAt result attempt fuel =
      (runOnFrom p stopAt (fun k (_ : Unit) => ((), result k)) attempt () fuel).2 := by
  induction fuel generalizing attempt with
  | zero => rfl
  | succ fuel ih =>
    unfold runFrom runOnFrom
    split
    · next v hr => simp [hr]
    · next sig hr => simp [hr]
    · next e hne hr =>
      rw [hr]
      -- the stateful loop's match reduces once the failure is split by its constructor
      cases e
      case interrupted sig => exact absurd rfl (hne sig)
      all_goals
        dsimp only
        split
        · rfl
        · split
          · rfl
          · exact ih (attempt + 1)

/-- The loop over scripted results is the loop over a state that every attempt leaves alone. -/
theorem run_eq_runOn (p : Policy) (stopAt : Nat → Option Signal)
    (result : Nat → Except TransferFailure α) :
    run p stopAt result = (runOn p stopAt (fun k (_ : Unit) => ((), result k)) ()).2 :=
  runFrom_eq_runOnFrom p stopAt result 1 p.maxAttempts

end Retry

end DownloadEngine
