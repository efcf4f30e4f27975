import IronicAnsible.Driver.AnsibleDeploy
import IronicAnsible.Proof.PowerPoll

/-!
# Powering off after a deploy

`reboot_and_finish_deploy` first gets the node powered off — in-band through the shutdown
playbook and power polling, or out-of-band when the node forces it — then moves it from the
provisioning network to the tenant networks, powers it on and processes `done`.

The runs it can make are told by `FinishRun`, an abstract account of the method:

* **P1** the in-band attempt is the shutdown playbook and the polling, nothing else; if it
  fails anywhere its failure is absorbed and followed by exactly one forced `POWER_OFF`;
* **P2** the network steps and `POWER_ON` each start only once the one before returned;
* **P3** `done` is processed only at the end of a run in which everything returned; any
  other run fails the node and raises.

`rebootAndFinishDeploy_finishRun` shows that the code makes only such runs, whatever the
configuration and whatever the collaborators answer.
-/

namespace IronicAnsible

/-- An event of the in-band power-off: the DHCP lookup, the shutdown playbook, a power
reading or a sleep between two. -/
def Event.inBand : Event → Bool
  | .getIpAddresses _ | .execute _ _ _ | .getPowerState _ | .sleep _ => true
  | _ => false

/-! ## The footprint of the in-band power-off -/

section
variable {p : Event → Prop}

theorem Appends.attempt {α : Type} {fn : M α} (hfn : Appends p fn) : Appends p (attempt fn) :=
  .tryCatch (.map _ hfn) fun _ => .pure _

theorem Appends.retryAttempts {α : Type} {fn : M α} (reject : α → Bool) (ms : Nat)
    (hfn : Appends p fn) (hs : p (.sleep ms)) :
    ∀ left n, Appends p (retryAttempts fn reject ms n left)
  | 0, n => by
    rw [IronicAnsible.retryAttempts]
    refine .bind (.attempt hfn) fun r => ?_
    cases r with
    | ok a => exact .ite (.throw _) (.pure _)
    | error e => exact .throw _
  | left + 1, n => by
    rw [IronicAnsible.retryAttempts]
    have again := Appends.bind (.sleep hs) fun _ =>
      Appends.retryAttempts reject ms hfn hs left (n + 1)
    refine .bind (.attempt hfn) fun r => ?_
    cases r with
    | ok a => exact .ite again (.pure _)
    | error e => exact again

end

variable (cfg : Config) (lib : Lib)

theorem getNodeIp_inBand : Appends (·.inBand) (getNodeIp cfg) := by
  unfold getNodeIp getNodeIpDhcp
  refine .ite (.bind .getNode fun _ => .liftExcept _)
    (.bind (.ask fun _ => rfl) fun ips => .bind .getNode fun _ => ?_)
  split
  · exact .throw _
  · exact .pure _
  · exact .throw _

theorem runPlaybook_inBand (name : Value) (extraVars : Dict) (key tags notags : Value) :
    Appends (·.inBand) (runPlaybook cfg lib name extraVars key tags notags) := by
  unfold runPlaybook execute
  refine .bind (.liftExcept _) fun _ => .bind (.liftExcept _) fun _ =>
    .tryCatch (.ask fun _ => rfl) fun e => ?_
  cases e <;> exact .throw _

theorem getPowerState_inBand : Appends (·.inBand) getPowerState := .ask fun _ => rfl

theorem waitUntilPoweredOff_inBand : Appends (·.inBand) (waitUntilPoweredOff cfg) :=
  .retryAttempts _ _ getPowerState_inBand rfl _ _

theorem softPowerOff_inBand : Appends (·.inBand) (AnsibleDeploy.softPowerOff cfg lib) := by
  unfold AnsibleDeploy.softPowerOff
  refine .bind (getNodeIp_inBand cfg) fun _ => .bind .getNode fun _ =>
    .bind (.liftExcept _) fun ⟨_, _, _⟩ => ?_
  exact .bind (.discard (runPlaybook_inBand _ _ _ _ _ _ _)) fun _ =>
    .discard (waitUntilPoweredOff_inBand cfg)

/-! ## What a successful in-band power-off ends with -/

/-- A poll that returns ends the trace with the reading it returns. -/
theorem retryAttempts_ok_last (reject : PowerState → Bool) (ms : Nat) :
    ∀ left n (w : World) (a : PowerState) (w' : World),
    retryAttempts getPowerState reject ms n left w = .ok a w' →
      ∃ seg, w'.trace = w.trace ++ seg ++ [.getPowerState (.ok a)]
  | 0, n, w, a, w', h => by
    rw [retryAttempts_zero_run] at h
    split at h
    · split at h
      · cases h
      · cases h; exact ⟨[], by simp [World.push]⟩
    · cases h
  | left + 1, n, w, a, w', h => by
    rw [retryAttempts_succ_run] at h
    split at h
    next b _ =>
      split at h
      · obtain ⟨seg, hs⟩ := retryAttempts_ok_last reject ms left (n + 1) _ _ _ h
        exact ⟨.getPowerState (.ok b) :: .sleep ms :: seg, by simp [hs, World.push]⟩
      · cases h; exact ⟨[], by simp [World.push]⟩
    next e _ =>
      obtain ⟨seg, hs⟩ := retryAttempts_ok_last reject ms left (n + 1) _ _ _ h
      exact ⟨.getPowerState (.error e) :: .sleep ms :: seg, by simp [hs, World.push]⟩

theorem waitUntilPoweredOff_endsWith :
    EndsWith (waitUntilPoweredOff cfg) (.getPowerState (.ok .powerOff)) := fun w a w' h => by
  unfold waitUntilPoweredOff retry at h
  obtain rfl : a = .powerOff := by
    simpa using retryAttempts_accepted getPowerState _ _ _ _ _ _ _ h
  exact retryAttempts_ok_last _ _ _ _ _ _ _ h

theorem softPowerOff_endsWith :
    EndsWith (AnsibleDeploy.softPowerOff cfg lib) (.getPowerState (.ok .powerOff)) := by
  unfold AnsibleDeploy.softPowerOff
  exact .bind (getNodeIp_inBand cfg).weaken fun _ => .bind .getNode fun _ =>
    .bind (.liftExcept _) fun ⟨_, _, _⟩ =>
      .bind (.discard (runPlaybook_inBand _ _ _ _ _ _ _).weaken) fun _ =>
        .discard (waitUntilPoweredOff_endsWith cfg)

/-! ## The runs of `reboot_and_finish_deploy` -/

/-- How the node got powered off: the events, and how the power-off ended. The index is how
the in-band attempt ended, `none` when the node forces an out-of-band reboot. -/
inductive PowerOffRun : Option (Except Exc Unit) → List Event → Except Exc Unit → Prop
  /-- The shutdown playbook ran and the polling ended on `POWER_OFF`. -/
  | inBand {soft : List Event} : (∀ e ∈ soft, e.inBand) →
      soft.getLast? = some (.getPowerState (.ok .powerOff)) →
      PowerOffRun (some (.ok ())) soft (.ok ())
  /-- The in-band attempt failed: exactly one forced power-off follows. -/
  | absorbed {soft : List Event} {e : Exc} {r : Except Exc Unit} : (∀ ev ∈ soft, ev.inBand) →
      PowerOffRun (some (.error e)) (soft ++ [.act (.nodePowerAction .powerOff) r]) r
  /-- The node forces an out-of-band reboot. -/
  | forced {r : Except Exc Unit} : PowerOffRun none [.act (.nodePowerAction .powerOff) r] r

/-- The network switch and the power-on, each started once the one before returned. -/
inductive NetworkRun : List Event → Except Exc Unit → Prop
  | removeFailed (e : Exc) : NetworkRun [.act .removeProvisioningNetwork (.error e)] (.error e)
  | configureFailed (e : Exc) :
      NetworkRun [.act .removeProvisioningNetwork (.ok ()),
        .act .configureTenantNetworks (.error e)] (.error e)
  | powerOnFailed (e : Exc) :
      NetworkRun [.act .removeProvisioningNetwork (.ok ()), .act .configureTenantNetworks (.ok ()),
        .act (.nodePowerAction .powerOn) (.error e)] (.error e)
  | poweredOn :
      NetworkRun [.act .removeProvisioningNetwork (.ok ()), .act .configureTenantNetworks (.ok ()),
        .act (.nodePowerAction .powerOn) (.ok ())] (.ok ())

/-- An event of failing the node: the `fail` event, a power-off, saving the node. -/
def Event.failing : Event → Bool
  | .processEvent .fail _ | .act (.nodePowerAction .powerOff) _ | .act (.save _) _ => true
  | _ => false

/-- `log_and_raise_deployment_error`: the node failed — the `fail` event, the power-off if
configured, the save — then `InstanceDeployFailure` raised, or what the save raised. -/
def FailRun (fail : List Event) (r : Except Exc Unit) : Prop :=
  (∀ e ∈ fail, e.failing) ∧ ((∃ msg, r = .error (.instanceDeployFailure msg)) ∨
    ∃ n e, r = .error e ∧ fail.getLast? = some (.act (.save n) (.error e)))

/-- The runs of `reboot_and_finish_deploy`, indexed by how the in-band attempt ended. -/
inductive FinishRun (soft : Option (Except Exc Unit)) : List Event → Except Exc Unit → Prop
  /-- Everything returned: `done` is processed, with the outcome of the run. -/
  | done {off net : List Event} {r : Except Exc Unit} : PowerOffRun soft off (.ok ()) →
      NetworkRun net (.ok ()) → FinishRun soft (off ++ net ++ [.processEvent .done r]) r
  /-- The forced power-off failed. -/
  | powerOffFailed {off fail : List Event} {e : Exc} {r : Except Exc Unit} :
      PowerOffRun soft off (.error e) → FailRun fail r → FinishRun soft (off ++ fail) r
  /-- A network step or the power-on failed. -/
  | networkFailed {off net fail : List Event} {e : Exc} {r : Except Exc Unit} :
      PowerOffRun soft off (.ok ()) → NetworkRun net (.error e) → FailRun fail r →
      FinishRun soft (off ++ net ++ fail) r

/-! ## The code makes only these runs -/

section
variable {w : World}

theorem forcedPowerOff_run (w : World) :
    ∃ off r, nodePowerAction .powerOff w = resultOf r { w with trace := w.trace ++ off } ∧
      PowerOffRun none off r :=
  ⟨_, _, act_eq _ w, .forced⟩

theorem softPowerOff_run (w : World) :
    ∃ off r, tryCatch (AnsibleDeploy.softPowerOff cfg lib) (fun _ => nodePowerAction .powerOff) w =
      resultOf r { w with trace := w.trace ++ off } ∧
      PowerOffRun (some (outcome (AnsibleDeploy.softPowerOff cfg lib w))) off r := by
  obtain ⟨soft, hsoft, hw⟩ := softPowerOff_inBand cfg lib w
  cases h : AnsibleDeploy.softPowerOff cfg lib w with
  | ok u w₁ =>
    rw [h, worldAfter_ok] at hw
    obtain ⟨seg, hseg⟩ := softPowerOff_endsWith cfg lib w u w₁ h
    have hlast : soft = seg ++ [.getPowerState (.ok .powerOff)] := by
      have := hw ▸ hseg
      simpa using this
    refine ⟨soft, .ok (), by rw [tryCatch_of_ok h, hw]; rfl, .inBand hsoft (by simp [hlast])⟩
  | error e w₁ =>
    rw [h, worldAfter_error] at hw
    subst hw
    have hrun := PowerOffRun.absorbed (e := e)
      (r := w.oracle.act (w.trace ++ soft) (.nodePowerAction .powerOff)) hsoft
    refine ⟨_, _, ?_, hrun⟩
    rw [tryCatch_of_error h, nodePowerAction, act_eq]
    simp [World.push]

end

/-! ## Failing the node -/

theorem setFailedState_failing (msg : String) :
    Extends (·.failing) (setFailedState cfg msg) := by
  unfold setFailedState saveNode nodePowerAction act
  refine .bind (.tryCatch (.processEvent fun _ => rfl) fun e => ?_) fun _ =>
    .bind (.ite (.tryCatch (Appends.toExtends (.ask fun _ => rfl)) fun _ =>
      Appends.toExtends (.pure _)) (Appends.toExtends (.pure _))) fun _ =>
    .bind (Appends.toExtends .getNode) fun _ => .bind (.setNode _) fun _ =>
    .bind (Appends.toExtends .getNode) fun _ => Appends.toExtends (.ask fun _ => rfl)
  cases e <;> first | exact Appends.toExtends (.pure _) | exact Appends.toExtends (.throw _)

/-- The `fail` event of `set_failed_state` raises nothing: `InvalidState` is dropped. -/
theorem failEvent_not_error {handler : Exc → M Unit} {w w' : World} {e : Exc}
    (h : tryCatch (processEvent .fail) handler w = .error e w')
    (hh : ∀ m w₁, handler (.invalidState m) w₁ = .ok () w₁) : False := by
  cases hp : processEvent .fail w with
  | ok u w₁ => rw [tryCatch_of_ok hp] at h; cases h
  | error e₁ w₁ =>
    obtain ⟨m, rfl⟩ : ∃ m, e₁ = .invalidState m := by
      rw [processEvent_run] at hp
      split at hp <;> cases hp
      exact ⟨_, rfl⟩
    rw [tryCatch_of_error hp, hh] at h
    cases h

/-- `set_failed_state` raises only what saving the node raised, right after the save. -/
theorem setFailedState_raises (msg : String) :
    RaisesAfter (setFailedState cfg msg) fun e ev => ∃ n, ev = .act (.save n) (.error e) := by
  unfold setFailedState saveNode nodePowerAction act
  refine .bind (fun _ _ _ h => (failEvent_not_error h fun _ _ => rfl).elim)
    (.tryCatch (.processEvent fun _ => trivial) fun e => ?_) fun _ => .bind ?_ ?_ fun _ =>
      .bind .getNode (Appends.toExtends .getNode) fun _ => .bind (.setNode _) (.setNode _) fun _ =>
      .bind .getNode (Appends.toExtends .getNode) fun _ => .ask fun _ => ⟨_, rfl⟩
  · cases e <;> first | exact Appends.toExtends (.pure _) | exact Appends.toExtends (.throw _)
  · split
    · exact .tryCatch fun _ => .pure _
    · exact .pure _
  · exact .ite (.tryCatch (Appends.toExtends (.ask fun _ => trivial)) fun _ =>
      Appends.toExtends (.pure _)) (Appends.toExtends (.pure _))

/-- `log_and_raise_deployment_error` fails the node and raises. -/
theorem logAndRaise_run (msg : String) (w : World) :
    ∃ fail r w', (logAndRaiseDeploymentError cfg msg : M Unit) w = resultOf r w' ∧
      w'.trace = w.trace ++ fail ∧ FailRun fail r := by
  have hfp : Extends (·.failing) (logAndRaiseDeploymentError cfg msg : M Unit) :=
    .bind (setFailedState_failing cfg msg) fun _ => Appends.toExtends (.throw _)
  obtain ⟨fail, hfail, -, htrace⟩ := hfp w
  unfold logAndRaiseDeploymentError at htrace ⊢
  cases hs : setFailedState cfg msg w with
  | ok u w₁ =>
    rw [bind_of_ok hs] at htrace ⊢
    exact ⟨fail, .error (.instanceDeployFailure msg), w₁, rfl, htrace, hfail, .inl ⟨msg, rfl⟩⟩
  | error e w₁ =>
    rw [bind_of_error hs] at htrace ⊢
    obtain ⟨seg, _, hseg, n, rfl⟩ := setFailedState_raises cfg msg w e w₁ hs
    refine ⟨fail, .error e, w₁, rfl, htrace, hfail, .inr ⟨n, e, rfl, ?_⟩⟩
    have : fail = seg ++ [.act (.save n) (.error e)] := by
      rw [worldAfter_error] at htrace
      rw [htrace, List.append_assoc] at hseg
      exact List.append_cancel_left hseg
    simp [this]

/-! ## The network steps -/

theorem finishNetworking_run (w : World) :
    ∃ net r, AnsibleDeploy.finishNetworking w = resultOf r { w with trace := w.trace ++ net } ∧
      NetworkRun net r := by
  unfold AnsibleDeploy.finishNetworking nodePowerAction
  simp only [bind, EStateM.bind, act_eq, World.push_oracle, World.push_trace]
  rcases h₁ : w.oracle.act w.trace .removeProvisioningNetwork with e | ⟨⟨⟩⟩
  · refine ⟨_, _, ?_, .removeFailed e⟩; rfl
  rcases h₂ : w.oracle.act (w.trace ++ [.act .removeProvisioningNetwork (.ok ())])
    .configureTenantNetworks with e | ⟨⟨⟩⟩
  · refine ⟨_, _, ?_, .configureFailed e⟩; simp [resultOf, World.push, h₂]
  rcases h₃ : w.oracle.act (w.trace ++ [.act .removeProvisioningNetwork (.ok ()),
    .act .configureTenantNetworks (.ok ())]) (.nodePowerAction .powerOn) with e | ⟨⟨⟩⟩
  · refine ⟨_, _, ?_, .powerOnFailed e⟩; simp [resultOf, World.push, h₂, h₃]
  · refine ⟨_, _, ?_, .poweredOn⟩; simp [resultOf, World.push, h₂, h₃]
/-! ## The whole method -/

theorem FailRun.error {fail : List Event} {r : Except Exc Unit} (h : FailRun fail r) :
    ∃ e, r = .error e := by
  rcases h.2 with ⟨msg, rfl⟩ | ⟨_, e, rfl, _⟩ <;> exact ⟨_, rfl⟩

theorem processEvent_eq (e : ProvEvent) (w : World) :
    ∃ r w', processEvent e w = resultOf r w' ∧ w'.trace = w.trace ++ [.processEvent e r] := by
  rw [processEvent_run]
  split
  · exact ⟨.ok (), _, rfl, rfl⟩
  · exact ⟨.error _, _, rfl, rfl⟩

/-- From a power-off stage that made the run `off`, the method makes a `FinishRun`. -/
theorem finishRun_of_powerOff {soft : Option (Except Exc Unit)} {stage : M Unit}
    {msg : Exc → String} {w : World} {off : List Event} {r : Except Exc Unit}
    (hstage : stage w = resultOf r { w with trace := w.trace ++ off })
    (hoff : PowerOffRun soft off r) :
    let run := (tryCatch (stage >>= fun _ => AnsibleDeploy.finishNetworking)
      (fun e => logAndRaiseDeploymentError cfg (msg e)) >>= fun _ => processEvent .done) w
    ∃ seg, (worldAfter run).trace = w.trace ++ seg ∧ FinishRun soft seg (outcome run) := by
  intro run
  cases r with
  | error e =>
    -- the forced power-off failed: the node is failed
    obtain ⟨fail, r', w', hf, ht, hfail⟩ := logAndRaise_run cfg (msg e)
      { w with trace := w.trace ++ off }
    obtain ⟨e', rfl⟩ := hfail.error
    have : run = .error e' w' := by
      simp only [run, bind_apply, tryCatch_apply, hstage, hf, resultOf]
    exact ⟨off ++ fail, by rw [this, worldAfter_error, ht, List.append_assoc],
      by rw [this]; exact .powerOffFailed hoff hfail⟩
  | ok u =>
    obtain ⟨net, rn, hn, hnet⟩ := finishNetworking_run { w with trace := w.trace ++ off }
    cases rn with
    | error e =>
      -- a network step or the power-on failed: the node is failed
      obtain ⟨fail, r', w', hf, ht, hfail⟩ := logAndRaise_run cfg (msg e)
        { w with trace := w.trace ++ off ++ net }
      obtain ⟨e', rfl⟩ := hfail.error
      have : run = .error e' w' := by
        simp only [run, bind_apply, tryCatch_apply, hstage, hn, hf, resultOf]
      exact ⟨off ++ net ++ fail, by rw [this, worldAfter_error, ht]; simp,
        by rw [this]; exact .networkFailed hoff hnet hfail⟩
    | ok u' =>
      -- everything returned: `done`
      obtain ⟨rd, w', hd, ht⟩ := processEvent_eq .done { w with trace := w.trace ++ off ++ net }
      have : run = resultOf rd w' := by
        simp only [run, bind_apply, tryCatch_apply, hstage, hn, hd, resultOf]
      exact ⟨off ++ net ++ [.processEvent .done rd], by rw [this, worldAfter_resultOf, ht]; simp,
        by rw [this, outcome_resultOf]; exact .done hoff hnet⟩

/-- How the in-band power-off ends from `w`; `none` when the node forces an out-of-band
reboot. -/
def inBandOutcome (cfg : Config) (lib : Lib) (w : World) : Option (Except Exc Unit) :=
  if boolFromString (Dict.get w.node.driverInfo (.str "deploy_forces_oob_reboot") (.bool false))
  then none else some (outcome (AnsibleDeploy.softPowerOff cfg lib w))

/-- **The runs of `reboot_and_finish_deploy`.** Whatever the configuration and whatever the
collaborators answer, the method's events form a `FinishRun`. -/
theorem rebootAndFinishDeploy_finishRun (w : World) :
    ∃ seg, (worldAfter (AnsibleDeploy.rebootAndFinishDeploy cfg lib w)).trace = w.trace ++ seg ∧
      FinishRun (inBandOutcome cfg lib w) seg
        (outcome (AnsibleDeploy.rebootAndFinishDeploy cfg lib w)) := by
  unfold AnsibleDeploy.rebootAndFinishDeploy inBandOutcome
  rw [bind_of_ok (rfl : getNode w = .ok w.node w)]
  dsimp only
  cases boolFromString (Dict.get w.node.driverInfo (.str "deploy_forces_oob_reboot") (.bool false))
  · obtain ⟨off, r, h, hoff⟩ := softPowerOff_run cfg lib w
    exact finishRun_of_powerOff cfg h hoff
  · obtain ⟨off, r, h, hoff⟩ := forcedPowerOff_run w
    exact finishRun_of_powerOff cfg h hoff

/-! ## What the runs guarantee -/

/-- Every event of `seg` satisfying `q` comes after one satisfying `p`. -/
def Precedes (p q : Event → Prop) (seg : List Event) : Prop :=
  ∀ pre e post, seg = pre ++ e :: post → q e → ∃ e' ∈ pre, p e'

namespace Precedes

variable {p q : Event → Prop}

theorem of_forall {a : List Event} (h : ∀ e ∈ a, ¬ q e) : Precedes p q a :=
  fun pre e post ha hq => (h e (by simp [ha]) hq).elim

/-- Once `a` has an event satisfying `p`, or if `b` keeps the order itself, `a ++ b` keeps it. -/
theorem append {a b : List Event} (ha : Precedes p q a) (hb : (∃ e ∈ a, p e) ∨ Precedes p q b) :
    Precedes p q (a ++ b) := by
  intro pre e post h hq
  rcases List.append_eq_append_iff.mp h with ⟨a', rfl, hb'⟩ | ⟨c', rfl, hc'⟩
  · rcases hb with ⟨e', he', hp⟩ | hb
    · exact ⟨e', List.mem_append_left _ he', hp⟩
    · obtain ⟨e', he', hp⟩ := hb a' e post hb' hq
      exact ⟨e', List.mem_append_right _ he', hp⟩
  · cases c' with
    | nil =>
      rcases hb with ⟨e', he', hp⟩ | hb
      · exact ⟨e', by simpa using he', hp⟩
      · obtain ⟨e', he', -⟩ := hb [] e post (by simpa using hc'.symm) hq
        simp at he'
    | cons x c'' =>
      obtain ⟨rfl, -⟩ := List.cons_eq_cons.mp hc'
      exact ha pre e c'' rfl hq

theorem cons {x : Event} {t : List Event} (hx : ¬ q x) (ht : p x ∨ Precedes p q t) :
    Precedes p q (x :: t) :=
  show Precedes p q ([x] ++ t) from (of_forall fun e he => by rw [List.mem_singleton.mp he]; exact hx).append
    (ht.imp_left fun hp => ⟨x, List.mem_singleton_self x, hp⟩)

end Precedes

/-- A call of `a`, whatever it answered. -/
def Event.isCall (a : Action) (e : Event) : Prop := ∃ r, e = .act a r

/-- `done` processed, whatever the state machine answered. -/
def Event.isDone (e : Event) : Prop := ∃ r, e = .processEvent .done r

/-- A forced power-off, a network step or the power-on that raised. -/
def Event.failedStep : Event → Bool
  | .act (.nodePowerAction _) (.error _) | .act .removeProvisioningNetwork (.error _)
  | .act .configureTenantNetworks (.error _) => true
  | _ => false

/-- The node is known to be off: the polling read `POWER_OFF`, or a forced power-off
returned. -/
def Event.poweredOff (e : Event) : Prop :=
  e = .getPowerState (.ok .powerOff) ∨ e = .act (.nodePowerAction .powerOff) (.ok ())

/-- None of the steps whose order the method keeps: no network step, no power-on, no
`done`. -/
def Event.quiet (e : Event) : Prop :=
  ¬ e.isCall .removeProvisioningNetwork ∧ ¬ e.isCall .configureTenantNetworks ∧
    ¬ e.isCall (.nodePowerAction .powerOn) ∧ ¬ e.isDone

theorem Event.quiet_of_inBand {e : Event} (h : e.inBand) : e.quiet := by
  cases e <;> simp_all [Event.inBand, Event.quiet, Event.isCall, Event.isDone]

theorem Event.quiet_of_failing {e : Event} (h : e.failing) : e.quiet := by
  unfold Event.failing at h
  split at h <;> simp_all [Event.quiet, Event.isCall, Event.isDone]

theorem Event.not_failedStep_of_inBand {e : Event} (h : e.inBand) : e.failedStep = false := by
  cases e <;> simp_all [Event.inBand, Event.failedStep]

section
variable {soft : Option (Except Exc Unit)} {off net fail : List Event} {r : Except Exc Unit}

theorem PowerOffRun.quiet (h : PowerOffRun soft off r) : ∀ e ∈ off, e.quiet := by
  cases h with
  | inBand hs _ => exact fun e he => Event.quiet_of_inBand (hs e he)
  | absorbed hs =>
    intro e he
    rcases List.mem_append.mp he with he | he
    · exact Event.quiet_of_inBand (hs e he)
    · rw [List.mem_singleton.mp he]; exact Event.quiet_of_failing rfl
  | forced => intro e he; rw [List.mem_singleton.mp he]; exact Event.quiet_of_failing rfl

/-- A power-off stage that returned leaves the node known to be off. -/
theorem PowerOffRun.poweredOff (h : PowerOffRun soft off (.ok ())) : ∃ e ∈ off, e.poweredOff := by
  cases h with
  | inBand _ hl => exact ⟨_, List.mem_of_getLast?_eq_some hl, .inl rfl⟩
  | absorbed _ => exact ⟨_, List.mem_append_right _ (List.mem_singleton_self _), .inr rfl⟩
  | forced => exact ⟨_, List.mem_singleton_self _, .inr rfl⟩

theorem PowerOffRun.no_failedStep (h : PowerOffRun soft off (.ok ())) :
    ∀ e ∈ off, e.failedStep = false := by
  cases h with
  | inBand hs _ => exact fun e he => Event.not_failedStep_of_inBand (hs e he)
  | absorbed hs =>
    intro e he
    rcases List.mem_append.mp he with he | he
    · exact Event.not_failedStep_of_inBand (hs e he)
    · rw [List.mem_singleton.mp he]; rfl
  | forced => intro e he; rw [List.mem_singleton.mp he]; rfl

theorem FailRun.quiet (h : FailRun fail r) : ∀ e ∈ fail, e.quiet :=
  fun e he => Event.quiet_of_failing (h.1 e he)

/-- The network steps keep their order: each starts only once the one before returned. -/
theorem NetworkRun.precedes (h : NetworkRun net r) :
    Precedes (· = .act .removeProvisioningNetwork (.ok ())) (·.isCall .configureTenantNetworks)
      net ∧
    Precedes (· = .act .removeProvisioningNetwork (.ok ()))
      (·.isCall (.nodePowerAction .powerOn)) net ∧
    Precedes (· = .act .configureTenantNetworks (.ok ())) (·.isCall (.nodePowerAction .powerOn))
      net := by
  cases h with
  | removeFailed e =>
    exact ⟨.of_forall (by simp [Event.isCall]), .of_forall (by simp [Event.isCall]),
      .of_forall (by simp [Event.isCall])⟩
  | configureFailed e =>
    exact ⟨.cons (by simp [Event.isCall]) (.inl rfl), .of_forall (by simp [Event.isCall]),
      .of_forall (by simp [Event.isCall])⟩
  | powerOnFailed e | poweredOn =>
    exact ⟨.cons (by simp [Event.isCall]) (.inl rfl), .cons (by simp [Event.isCall]) (.inl rfl),
      .cons (by simp [Event.isCall]) (.inr (.cons (by simp [Event.isCall]) (.inl rfl)))⟩

theorem NetworkRun.not_done (h : NetworkRun net r) : ∀ e ∈ net, ¬ e.isDone := by
  cases h <;> simp [Event.isDone]

theorem NetworkRun.poweredOn_mem (h : NetworkRun net (.ok ())) :
    .act (.nodePowerAction .powerOn) (.ok ()) ∈ net := by
  cases h; simp

theorem NetworkRun.no_failedStep (h : NetworkRun net (.ok ())) :
    ∀ e ∈ net, e.failedStep = false := by
  cases h; simp [Event.failedStep]

/-- **What every run guarantees.** The network steps start only once the node is known to
be off; each network step and the power-on only once the one before returned; `done` only
once the power-on returned; and a run in which a forced power-off, a network step or the
power-on raised processes no `done` and raises. -/
theorem FinishRun.guarantees {seg : List Event} (h : FinishRun soft seg r) :
    Precedes Event.poweredOff (·.isCall .removeProvisioningNetwork) seg ∧
    Precedes (· = .act .removeProvisioningNetwork (.ok ())) (·.isCall .configureTenantNetworks)
      seg ∧
    Precedes (· = .act .removeProvisioningNetwork (.ok ()))
      (·.isCall (.nodePowerAction .powerOn)) seg ∧
    Precedes (· = .act .configureTenantNetworks (.ok ())) (·.isCall (.nodePowerAction .powerOn))
      seg ∧
    Precedes (· = .act (.nodePowerAction .powerOn) (.ok ())) Event.isDone seg ∧
    ((∃ e ∈ seg, e.failedStep) → (∀ e ∈ seg, ¬ e.isDone) ∧ ∃ ex, r = .error ex) := by
  cases h with
  | done hoff hnet =>
    have hq := hoff.quiet
    obtain ⟨e₀, he₀, hp₀⟩ := hoff.poweredOff
    obtain ⟨h₁, h₂, h₃⟩ := hnet.precedes
    have hd : ∀ a, ¬ (Event.processEvent .done r).isCall a := by simp [Event.isCall]
    refine ⟨((Precedes.of_forall fun e he => (hq e he).1).append (.inl ⟨e₀, he₀, hp₀⟩)).append
        (.inl ⟨e₀, List.mem_append_left _ he₀, hp₀⟩),
      ((Precedes.of_forall fun e he => (hq e he).2.1).append (.inr h₁)).append
        (.inr (.of_forall (by simpa using hd _))),
      ((Precedes.of_forall fun e he => (hq e he).2.2.1).append (.inr h₂)).append
        (.inr (.of_forall (by simpa using hd _))),
      ((Precedes.of_forall fun e he => (hq e he).2.2.1).append (.inr h₃)).append
        (.inr (.of_forall (by simpa using hd _))),
      (Precedes.of_forall fun e he => (List.mem_append.mp he).elim (fun he => (hq e he).2.2.2)
        (hnet.not_done e)).append (.inl ⟨_, List.mem_append_right _ hnet.poweredOn_mem, rfl⟩),
      fun ⟨e, he, hf⟩ => ?_⟩
    -- nothing failed in a run that reached `done`
    simp only [List.mem_append, List.mem_singleton] at he
    rcases he with (he | he) | rfl
    · simp [hoff.no_failedStep e he] at hf
    · simp [hnet.no_failedStep e he] at hf
    · cases hf
  | powerOffFailed hoff hfail =>
    have hq : ∀ e ∈ _, Event.quiet e := fun e he =>
      (List.mem_append.mp he).elim (hoff.quiet e) (hfail.quiet e)
    exact ⟨.of_forall fun e he => (hq e he).1, .of_forall fun e he => (hq e he).2.1,
      .of_forall fun e he => (hq e he).2.2.1, .of_forall fun e he => (hq e he).2.2.1,
      .of_forall fun e he => (hq e he).2.2.2, fun _ => ⟨fun e he => (hq e he).2.2.2, hfail.error⟩⟩
  | @networkFailed off net fail _ _ hoff hnet hfail =>
    have hq := hoff.quiet
    have hf := hfail.quiet
    obtain ⟨e₀, he₀, hp₀⟩ := hoff.poweredOff
    obtain ⟨h₁, h₂, h₃⟩ := hnet.precedes
    have hnd : ∀ e ∈ off ++ net ++ fail, ¬ e.isDone := fun e he => by
      simp only [List.mem_append] at he
      rcases he with (he | he) | he
      · exact (hq e he).2.2.2
      · exact hnet.not_done e he
      · exact (hf e he).2.2.2
    exact ⟨((Precedes.of_forall fun e he => (hq e he).1).append (.inl ⟨e₀, he₀, hp₀⟩)).append
        (.inl ⟨e₀, List.mem_append_left _ he₀, hp₀⟩),
      ((Precedes.of_forall fun e he => (hq e he).2.1).append (.inr h₁)).append
        (.inr (.of_forall fun e he => (hf e he).2.1)),
      ((Precedes.of_forall fun e he => (hq e he).2.2.1).append (.inr h₂)).append
        (.inr (.of_forall fun e he => (hf e he).2.2.1)),
      ((Precedes.of_forall fun e he => (hq e he).2.2.1).append (.inr h₃)).append
        (.inr (.of_forall fun e he => (hf e he).2.2.1)),
      .of_forall hnd, fun _ => ⟨hnd, hfail.error⟩⟩

end

/-- A failed in-band attempt is followed by one forced power-off. -/
theorem FinishRun.absorbed {seg : List Event} {r : Except Exc Unit} {e : Exc}
    (h : FinishRun (some (.error e)) seg r) :
    ∃ inband r' rest, (∀ ev ∈ inband, ev.inBand) ∧
      seg = inband ++ .act (.nodePowerAction .powerOff) r' :: rest := by
  obtain ⟨off, r', rest, hoff, rfl⟩ : ∃ off r' rest, PowerOffRun (some (.error e)) off r' ∧
      seg = off ++ rest := by
    cases h with
    | done hoff _ => exact ⟨_, _, _, hoff, List.append_assoc _ _ _⟩
    | powerOffFailed hoff _ => exact ⟨_, _, _, hoff, rfl⟩
    | networkFailed hoff _ _ => exact ⟨_, _, _, hoff, List.append_assoc _ _ _⟩
  cases hoff with
  | absorbed hs => exact ⟨_, r', rest, hs, by simp⟩

/-- **Powering off after a deploy.** Whatever `deploy_forces_oob_reboot`, the retry budget,
the power readings and the other collaborators' answers: the provisioning network is
removed only once the node is known to be off (the polling read `POWER_OFF`, or a forced
power-off returned); the tenant networks are configured only once the removal returned,
and the node powered on only once both returned; a failed in-band attempt is absorbed and
followed by a forced power-off; `done` is processed only once the power-on returned; and a
run in which a forced power-off, a network step or the power-on raised processes no `done`
and raises. -/
theorem rebootAndFinishDeploy_order (w : World) :
    ∃ seg, (worldAfter (AnsibleDeploy.rebootAndFinishDeploy cfg lib w)).trace = w.trace ++ seg ∧
      FinishRun (inBandOutcome cfg lib w) seg
        (outcome (AnsibleDeploy.rebootAndFinishDeploy cfg lib w)) ∧
      Precedes Event.poweredOff (·.isCall .removeProvisioningNetwork) seg ∧
      Precedes (· = .act .removeProvisioningNetwork (.ok ()))
        (·.isCall .configureTenantNetworks) seg ∧
      Precedes (· = .act .removeProvisioningNetwork (.ok ()))
        (·.isCall (.nodePowerAction .powerOn)) seg ∧
      Precedes (· = .act .configureTenantNetworks (.ok ()))
        (·.isCall (.nodePowerAction .powerOn)) seg ∧
      (∀ e, inBandOutcome cfg lib w = some (.error e) →
        ∃ inband r rest, (∀ ev ∈ inband, ev.inBand) ∧
          seg = inband ++ .act (.nodePowerAction .powerOff) r :: rest) ∧
      Precedes (· = .act (.nodePowerAction .powerOn) (.ok ())) Event.isDone seg ∧
      ((∃ e ∈ seg, e.failedStep) → (∀ e ∈ seg, ¬ e.isDone) ∧
        ∃ ex, outcome (AnsibleDeploy.rebootAndFinishDeploy cfg lib w) = .error ex) := by
  obtain ⟨seg, htrace, hrun⟩ := rebootAndFinishDeploy_finishRun cfg lib w
  obtain ⟨h₁, h₂, h₃, h₄, h₅, h₆⟩ := hrun.guarantees
  exact ⟨seg, htrace, hrun, h₁, h₂, h₃, h₄, fun e he => (he ▸ hrun).absorbed, h₅, h₆⟩

end IronicAnsible
