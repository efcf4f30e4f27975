import IronicAnsible.Driver.Task

/-!
# Polling the power state

`reboot_and_finish_deploy` waits for the node to power itself off by decorating
`get_power_state` with `retrying.retry(stop_max_attempt_number=retries + 1,
retry_on_result=lambda state: state != POWER_OFF, wait_fixed=interval * 1000)`.

`Retrying.call` runs the function, and returns its result unless it is rejected. An
exception counts as rejected: the library's default `retry_on_exception` rejects them all.
After a rejected attempt it stops when the attempt number has reached
`stop_max_attempt_number`, raising the attempt's exception again or, for a rejected result,
`RetryError`; otherwise it sleeps `wait_fixed` milliseconds and tries again. Here the loop
counts the attempts still allowed after the current one.
-/

namespace IronicAnsible

/-- One attempt, `Attempt(fn(*args), ...)`: the result, or the exception it raised. -/
def attempt {α : Type} (fn : M α) : M (Except Exc α) :=
  tryCatch (Except.ok <$> fn) fun e => pure (.error e)

/-- `Retrying.call(fn)` from attempt number `n`, with `left` attempts allowed after it. -/
def retryAttempts {α : Type} (fn : M α) (reject : α → Bool) (waitMs : Nat) :
    Nat → Nat → M α
  | n, 0 => do
    match ← attempt fn with
    | .ok a => if reject a then throw (.retryError n) else pure a
    | .error e => throw e
  | n, left + 1 => do
    let again := do sleep waitMs; retryAttempts fn reject waitMs (n + 1) left
    match ← attempt fn with
    | .ok a => if reject a then again else pure a
    | .error _ => again

/-- `retrying.retry(stop_max_attempt_number, retry_on_result, wait_fixed)(fn)()`. -/
def retry {α : Type} (stopMaxAttemptNumber : Nat) (retryOnResult : α → Bool)
    (waitFixed : Nat) (fn : M α) : M α :=
  retryAttempts fn retryOnResult waitFixed 1 (stopMaxAttemptNumber - 1)

/-- `_wait_until_powered_off(task)` inside `reboot_and_finish_deploy`. -/
def waitUntilPoweredOff (cfg : Config) : M PowerState :=
  retry (cfg.postDeployGetPowerStateRetries + 1) (· != .powerOff)
    (cfg.postDeployGetPowerStateRetryInterval * 1000) getPowerState

end IronicAnsible
