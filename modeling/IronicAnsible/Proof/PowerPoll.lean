import IronicAnsible.Driver.Retry
import IronicAnsible.Proof.Frame

/-!
# Waiting for the node to power off

`_wait_until_powered_off` reads the power state up to `r + 1` times, `r` being
`post_deploy_get_power_state_retries`, sleeping `w` seconds between two readings. Against
any sequence of readings `outs` (states, or exceptions of the power interface), with `k` the
position of the first `POWER_OFF`:

* **P1** when `k ≤ r + 1` it reads exactly `k` times and returns `POWER_OFF`;
* **P2** when there is no `POWER_OFF` among the first `r + 1` readings it reads `r + 1`
  times and raises: the last reading's exception, or `RetryError` for a state;
* **P3** it never returns another state, whatever the readings.

In both runs the sleeps fall between readings, never after the last (`pollEvents`).
-/

namespace IronicAnsible

/-! ## Readings -/

/-- The number of power readings in a trace. -/
def polls : List Event → Nat
  | [] => 0
  | .getPowerState _ :: t => polls t + 1
  | _ :: t => polls t

/-- From `w` on, the `i`-th power reading is `outs i`. -/
def Answers (w : World) (outs : Nat → Except Exc PowerState) : Prop :=
  ∀ t, w.oracle.getPowerState (w.trace ++ t) = outs (polls t)

/-- A world whose `i`-th power reading is `outs i`; every other call succeeds. -/
def Oracle.polling (outs : Nat → Except Exc PowerState) : Oracle :=
  { Oracle.succeeding [] with getPowerState := fun t => outs (polls t) }

section
variable {w : World} {outs : Nat → Except Exc PowerState}

theorem Answers.first (h : Answers w outs) : w.oracle.getPowerState w.trace = outs 0 := by
  simpa [polls] using h []

/-- After a reading and a sleep, the readings still to come are the rest of `outs`. -/
theorem Answers.next (h : Answers w outs) (e : Except Exc PowerState) (ms : Nat) :
    Answers ((w.push (.getPowerState e)).push (.sleep ms)) (fun i => outs (i + 1)) := by
  intro t
  simpa [polls] using h (.getPowerState e :: .sleep ms :: t)

end

/-- The trace of `n` readings of `outs`, `ms` milliseconds apart. -/
def pollEvents (outs : Nat → Except Exc PowerState) (ms : Nat) : Nat → List Event
  | 0 => []
  | 1 => [.getPowerState (outs 0)]
  | n + 2 => .getPowerState (outs 0) :: .sleep ms :: pollEvents (fun i => outs (i + 1)) ms (n + 1)

/-- `w` after `n` readings of `outs`, `ms` milliseconds apart. -/
def World.afterPolls (w : World) (outs : Nat → Except Exc PowerState) (ms n : Nat) : World :=
  { w with trace := w.trace ++ pollEvents outs ms n }

theorem polls_pollEvents (outs : Nat → Except Exc PowerState) (ms : Nat) :
    ∀ n, polls (pollEvents outs ms n) = n
  | 0 => rfl
  | 1 => rfl
  | n + 2 => by simp [pollEvents, polls, polls_pollEvents _ ms (n + 1)]

/-- What the loop raises once the readings are exhausted: the last one's exception, or
`RetryError` after `attempts` attempts. -/
def exhaustedError (last : Except Exc PowerState) (attempts : Nat) : Exc :=
  match last with
  | .ok _ => .retryError attempts
  | .error e => e

/-! ## One attempt -/

theorem attempt_getPowerState (w : World) :
    attempt getPowerState w = .ok (w.oracle.getPowerState w.trace)
      (w.push (.getPowerState (w.oracle.getPowerState w.trace))) := by
  cases h : w.oracle.getPowerState w.trace <;>
    simp only [attempt, tryCatch, tryCatchThe, MonadExceptOf.tryCatch, EStateM.tryCatch,
      Functor.map, EStateM.map, getPowerState, ask, h, EStateM.Backtrackable.restore,
      EStateM.dummyRestore, pure, EStateM.pure]

section
variable (reject : PowerState → Bool) (ms n left : Nat) (w : World)

theorem retryAttempts_zero_run :
    retryAttempts getPowerState reject ms n 0 w =
      match w.oracle.getPowerState w.trace with
      | .ok a => if reject a then .error (.retryError n) (w.push (.getPowerState (.ok a)))
        else .ok a (w.push (.getPowerState (.ok a)))
      | .error e => .error e (w.push (.getPowerState (.error e))) := by
  rw [retryAttempts]
  simp only [bind, EStateM.bind, attempt_getPowerState]
  cases w.oracle.getPowerState w.trace with
  | ok a => cases h : reject a <;> simp only [h] <;> rfl
  | error e => rfl

theorem retryAttempts_succ_run :
    retryAttempts getPowerState reject ms n (left + 1) w =
      match w.oracle.getPowerState w.trace with
      | .ok a => if reject a then
          retryAttempts getPowerState reject ms (n + 1) left
            ((w.push (.getPowerState (.ok a))).push (.sleep ms))
        else .ok a (w.push (.getPowerState (.ok a)))
      | .error e => retryAttempts getPowerState reject ms (n + 1) left
          ((w.push (.getPowerState (.error e))).push (.sleep ms)) := by
  rw [retryAttempts]
  simp only [bind, EStateM.bind, attempt_getPowerState]
  cases w.oracle.getPowerState w.trace with
  | ok a => cases h : reject a <;> simp only [h] <;> rfl
  | error e => rfl

end

/-! ## The whole wait -/

section
variable (ms : Nat)

/-- A reading other than `POWER_OFF` with attempts left: sleep and read again. -/
theorem retryAttempts_of_not_off {n left : Nat} {w : World}
    {outs : Nat → Except Exc PowerState} (hw : Answers w outs) (h0 : outs 0 ≠ .ok .powerOff) :
    retryAttempts getPowerState (· != .powerOff) ms n (left + 1) w =
      retryAttempts getPowerState (· != .powerOff) ms (n + 1) left
        ((w.push (.getPowerState (outs 0))).push (.sleep ms)) := by
  rw [retryAttempts_succ_run, hw.first]
  cases h : outs 0 with
  | ok a =>
    have ha : (a != .powerOff) = true := by simpa [h] using h0
    simp only [ha, ite_true]
  | error e => rfl

/-- **P1.** The `j + 1`-th reading is the first `POWER_OFF`, and the budget allows it. -/
theorem retryAttempts_found : ∀ (j left n : Nat) (w : World)
    (outs : Nat → Except Exc PowerState),
    j ≤ left → (∀ i < j, outs i ≠ .ok .powerOff) → outs j = .ok .powerOff → Answers w outs →
    retryAttempts getPowerState (· != .powerOff) ms n left w =
      .ok .powerOff (w.afterPolls outs ms (j + 1))
  | 0, 0, n, w, outs, _, _, hj, hw => by
    rw [retryAttempts_zero_run, hw.first, hj]
    simp [World.push, World.afterPolls, pollEvents, hj]
  | 0, left + 1, n, w, outs, _, _, hj, hw => by
    rw [retryAttempts_succ_run, hw.first, hj]
    simp [World.push, World.afterPolls, pollEvents, hj]
  | j + 1, left + 1, n, w, outs, hjl, hbefore, hj, hw => by
    rw [retryAttempts_of_not_off ms hw (hbefore 0 (by omega)),
      retryAttempts_found j left (n + 1) _ _ (by omega)
        (fun i hi => hbefore (i + 1) (by omega)) hj (hw.next _ ms)]
    simp [World.push, World.afterPolls, pollEvents]

/-- **P2.** None of the `left + 1` readings allowed is `POWER_OFF`. -/
theorem retryAttempts_exhausted : ∀ (left n : Nat) (w : World)
    (outs : Nat → Except Exc PowerState),
    (∀ i ≤ left, outs i ≠ .ok .powerOff) → Answers w outs →
    retryAttempts getPowerState (· != .powerOff) ms n left w =
      .error (exhaustedError (outs left) (n + left)) (w.afterPolls outs ms (left + 1))
  | 0, n, w, outs, hoff, hw => by
    rw [retryAttempts_zero_run, hw.first]
    cases h : outs 0 with
    | ok a =>
      have ha : (a != .powerOff) = true := by simpa [h] using hoff 0 le_rfl
      simp [ha, World.push, World.afterPolls, pollEvents, exhaustedError, h]
    | error e => simp [World.push, World.afterPolls, pollEvents, exhaustedError, h]
  | left + 1, n, w, outs, hoff, hw => by
    rw [retryAttempts_of_not_off ms hw (hoff 0 (by omega)),
      retryAttempts_exhausted left (n + 1) _ _ (fun i hi => hoff (i + 1) (by omega))
        (hw.next _ ms)]
    simp [World.push, World.afterPolls, pollEvents, Nat.add_right_comm n 1 left, Nat.add_assoc]

end

/-- **P3.** Whatever the attempts do, the loop returns only a result it accepts. -/
theorem retryAttempts_accepted {α : Type} (fn : M α) (reject : α → Bool) (ms : Nat) :
    ∀ (left n : Nat) (w w' : World) (a : α),
    retryAttempts fn reject ms n left w = .ok a w' → reject a = false
  | 0, n, w, w', a, h => by
    rw [retryAttempts] at h
    obtain ⟨r, w₁, -, h⟩ := bind_eq_ok h
    cases r with
    | ok b =>
      cases hb : reject b <;> simp only [hb, Bool.false_eq_true, ite_true, ite_false] at h
      · cases h; exact hb
      · cases h
    | error e => cases h
  | left + 1, n, w, w', a, h => by
    rw [retryAttempts] at h
    obtain ⟨r, w₁, -, h⟩ := bind_eq_ok h
    -- sleeping and trying again returns only what the next attempts accept
    have again : ∀ w₁, (do sleep ms; retryAttempts fn reject ms (n + 1) left : M α) w₁ =
        .ok a w' → reject a = false := fun w₁ h => by
      obtain ⟨_, w₂, -, h⟩ := bind_eq_ok h
      exact retryAttempts_accepted fn reject ms left (n + 1) w₂ w' a h
    cases r with
    | ok b =>
      cases hb : reject b <;> simp only [hb, Bool.false_eq_true, ite_true, ite_false] at h
      · cases h; exact hb
      · exact again w₁ h
    | error e => exact again w₁ h

/-! ## `_wait_until_powered_off` -/

/-- **The wait.** With `r` retries and readings `outs`: a first `POWER_OFF` at position
`k ≤ r + 1` is returned after exactly `k` readings (P1); with none among the first `r + 1`
readings the wait raises after `r + 1` of them (P2); it never returns another state (P3). -/
theorem waitUntilPoweredOff_polls (cfg : Config) (w : World)
    (outs : Nat → Except Exc PowerState) (hw : Answers w outs) :
    (∀ k, 0 < k → k ≤ cfg.postDeployGetPowerStateRetries + 1 → outs (k - 1) = .ok .powerOff →
      (∀ i < k - 1, outs i ≠ .ok .powerOff) →
      waitUntilPoweredOff cfg w =
        .ok .powerOff (w.afterPolls outs (cfg.postDeployGetPowerStateRetryInterval * 1000) k)) ∧
    ((∀ i < cfg.postDeployGetPowerStateRetries + 1, outs i ≠ .ok .powerOff) →
      waitUntilPoweredOff cfg w =
        .error (exhaustedError (outs cfg.postDeployGetPowerStateRetries)
          (cfg.postDeployGetPowerStateRetries + 1))
        (w.afterPolls outs (cfg.postDeployGetPowerStateRetryInterval * 1000)
          (cfg.postDeployGetPowerStateRetries + 1))) ∧
    (∀ s w', waitUntilPoweredOff cfg w = .ok s w' → s = .powerOff) := by
  simp only [waitUntilPoweredOff, retry, Nat.add_sub_cancel]
  refine ⟨fun k hk hkr hoff hbefore => ?_, fun hoff => ?_, fun s w' h => ?_⟩
  · obtain ⟨j, rfl⟩ : ∃ j, k = j + 1 := ⟨k - 1, by omega⟩
    exact retryAttempts_found _ j _ 1 w outs (by omega) hbefore hoff hw
  · rw [retryAttempts_exhausted _ _ 1 w outs (fun i hi => hoff i (by omega)) hw, Nat.add_comm 1]
  · simpa using retryAttempts_accepted getPowerState _ _ _ 1 w w' s h

/-- The readings `POWER_ON`, then `POWER_OFF`. -/
def offSecond (i : Nat) : Except Exc PowerState := if i = 0 then .ok .powerOn else .ok .powerOff

/-- The options at their defaults, the paths empty. -/
def defaultConfig : Config := { playbooksPath := "", configFilePath := "", tempdir := "" }

theorem waitUntilPoweredOff_polls_second :
    waitUntilPoweredOff defaultConfig ⟨Oracle.polling offSecond, default, []⟩ =
      .ok .powerOff ⟨Oracle.polling offSecond, default,
        [.getPowerState (.ok .powerOn), .sleep 5000, .getPowerState (.ok .powerOff)]⟩ :=
  (waitUntilPoweredOff_polls defaultConfig ⟨Oracle.polling offSecond, default, []⟩ offSecond
    (fun _ => rfl)).1 2 (by decide) (by decide) rfl fun i hi => by
      obtain rfl : i = 0 := by omega
      simp [offSecond]

end IronicAnsible
