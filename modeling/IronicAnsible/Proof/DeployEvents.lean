import IronicAnsible.Proof.Shutdown
import IronicAnsible.Proof.StateMachine

/-!
# The provisioning events of a deploy

The conductor drives a deploy through ironic's provisioning state machine. It processes
`deploy` before calling the driver's `deploy`, then acts on what that returns:
`wait` for `DEPLOYWAIT`, `done` for `DEPLOYDONE`, `fail` when it raises. In callback mode
the ramdisk later calls back and `continue_deploy` takes over.

The driver processes events itself as well: `reboot_and_finish_deploy` ends with `done`,
and `set_failed_state` processes `fail`. In DHCP mode `deploy` calls
`reboot_to_instance` and then returns `DEPLOYDONE`, so the conductor processes `done` a
second time, from `active`, where the state machine has no such transition:
**every successful synchronous deploy ends with `InvalidState`**. A synchronous deploy whose
playbook stage fails is failed once: `deploy` processes `fail` itself and returns `None`, and
the conductor adds nothing.
-/

namespace IronicAnsible

variable (cfg : Config) (lib : Lib)

/-- The conductor's handling of the driver's `deploy`, as the deploy interface asks of it:
`wait` when it returns `DEPLOYWAIT`, `done` when it returns `DEPLOYDONE`, `fail` when it
raises, and nothing on any other result. -/
def conductorDeploy : M Unit := do
  match ← attempt (AnsibleDeploy.deploy cfg lib) with
  | .ok (some .deployWait) => processEvent .wait
  | .ok (some .deployDone) => processEvent .done
  | .ok _ => pure ()
  | .error _ => processEvent .fail

/-- A whole deploy: the conductor's part, then `continue_deploy` when the ramdisk calls
back, which it does for a node waiting for it. -/
def deployRun : M Unit := do
  conductorDeploy cfg lib
  if (← getNode).provisionState = .deployWait then AnsibleDeploy.continueDeploy cfg lib

/-! ## One attempt -/

section
variable {α : Type} {x : M α} {a : α} {w w' : World}

theorem attempt_of_ok (h : x w = .ok a w') : attempt x w = .ok (.ok a) w' := by
  simp only [attempt, tryCatch_apply, Functor.map, EStateM.map, h]

theorem attempt_of_error {ex : Exc} (h : x w = .error ex w') : attempt x w = .ok (.error ex) w' := by
  simp only [attempt, tryCatch_apply, Functor.map, EStateM.map, h]
  rfl

end

/-! ## Calls that process no event -/

theorem Event.silent_of_inBand {e : Event} (h : e.inBand) : e.silent := by
  cases e <;> first | rfl | simp [Event.inBand] at h

section
variable {cfg lib}

theorem act_silent (a : Action) : Appends Event.silent (act a) := .ask fun _ => rfl

/-- `_prepare_variables` calls out only for the image size and to write the config drive. -/
theorem prepareVariables_appends {p : Event → Prop} (hact : ∀ a r, p (.act a r))
    (hsize : ∀ source r, p (.downloadSize source r)) : Appends p (prepareVariables cfg lib) := by
  have hcd : ∀ node v, Appends p (configdriveVars cfg node v) := fun node v => by
    cases v
    case str configdrive =>
      exact .bind (.liftExcept _) fun _ => .ite (.pure _)
        (.bind (.ask fun _ => hact _ _) fun _ => .pure _)
    all_goals exact .throw _
  unfold prepareVariables calculateMemoryReq downloadSize
  refine .bind .getNode fun _ => .bind (.liftExcept _) fun _ => .bind ?_ fun _ =>
    .bind (.liftExcept _) fun _ => ?_
  · exact .bind .getNode fun _ => .bind (.liftExcept _) fun _ => .bind (.ask fun _ => hsize _ _)
      fun _ => .pure _
  · dsimp only
    refine .ite (.bind (hcd _ _) fun _ => .bind (.pure _) fun _ => ?_) (.bind (.pure _) fun _ => ?_)
    all_goals exact .bind (.liftExcept _) fun _ => .pure _

theorem runPlaybook_silent (name : Value) (extraVars : Dict) (key tags notags : Value) :
    Appends Event.silent (runPlaybook cfg lib name extraVars key tags notags) :=
  (runPlaybook_inBand cfg lib _ _ _ _ _).mono fun _ => Event.silent_of_inBand

theorem prepareVariables_silent : Appends Event.silent (prepareVariables cfg lib) :=
  prepareVariables_appends (fun _ _ => rfl) fun _ _ => rfl

/-- The DHCP lookup calls out for the addresses only. -/
theorem getNodeIpDhcp_appends {p : Event → Prop} (hp : ∀ r, p (.getIpAddresses r)) :
    Appends p getNodeIpDhcp := by
  unfold getNodeIpDhcp getIpAddresses
  refine .bind (.ask hp) fun ips => .bind .getNode fun _ => ?_
  split <;> first | exact .throw _ | exact .pure _

/-- The DHCP lookup processes no event. -/
theorem getNodeIpDhcp_silent : Appends Event.silent getNodeIpDhcp := getNodeIpDhcp_appends fun _ => rfl

theorem ansibleDeploy_silent (nodeAddress : String) :
    Appends Event.silent (ansibleDeploy cfg lib nodeAddress) := by
  unfold ansibleDeploy
  refine .bind .getNode fun _ => .bind prepareVariables_silent fun _ => ?_
  dsimp only
  refine .ite (.bind (.pure _) fun _ => ?_) (.bind (.liftExcept _) fun _ =>
    .bind (.pure _) fun _ => ?_)
  all_goals exact .bind (.liftExcept _) fun ⟨_, _, _⟩ => .discard (runPlaybook_silent _ _ _ _ _)

end

/-! ## Failing the node, finishing the deploy -/

section
variable {cfg lib} {w : World}

/-- From a state with a `fail` transition, `set_failed_state` processes `fail`, accepted,
and nothing else changes the state. -/
theorem setFailedState_pathRun (msg : String) {s : ProvState}
    (hs : provisionTransition w.node.provisionState .fail = some s) :
    PathRun (setFailedState cfg msg) w := by
  unfold setFailedState saveNode nodePowerAction
  refine .bind (.tryCatch (.processEvent hs) fun _ _ h => ?_) fun _ _ _ => ?_
  · rw [processEvent_run, hs] at h
    cases h
  refine .bind (.of_silent (.ite (.tryCatch (act_silent _) fun _ => .pure _) (.pure _)) _)
    fun _ _ _ => .bind (.of_silent .getNode _) fun _ _ h => ?_
  cases h
  exact .bind (.setNode rfl) fun _ _ _ => .bind (.of_silent .getNode _) fun _ _ _ =>
    .of_silent (act_silent _) _

theorem finishNetworking_silent : Appends Event.silent AnsibleDeploy.finishNetworking :=
  .bind (act_silent _) fun _ => .bind (act_silent _) fun _ => act_silent _

/-- The handler of `reboot_and_finish_deploy` always raises: the method returns only if its
power-off and network steps did. -/
theorem tryCatch_logAndRaise_eq_ok {stage : M Unit} {msg : Exc → String} {w' : World} {u : Unit}
    (h : tryCatch stage (fun e => logAndRaiseDeploymentError cfg (msg e)) w = .ok u w') :
    stage w = .ok u w' := by
  cases hs : stage w with
  | ok => rwa [tryCatch_of_ok hs] at h
  | error e w₁ =>
    rw [tryCatch_of_error hs] at h
    obtain ⟨_, _, _, hf, -, hfail⟩ := logAndRaise_run cfg (msg e) w₁
    obtain ⟨_, rfl⟩ := hfail.error
    rw [hf] at h
    cases h

/-- The power-off and network steps of `reboot_and_finish_deploy`. -/
theorem rebootStage_silent (soft : Bool) : Appends Event.silent (if soft = true then do
      tryCatch (AnsibleDeploy.softPowerOff cfg lib) fun _ => nodePowerAction .powerOff
      AnsibleDeploy.finishNetworking
    else do
      nodePowerAction .powerOff
      AnsibleDeploy.finishNetworking) :=
  .ite (.bind (.tryCatch ((softPowerOff_inBand cfg lib).mono fun _ => Event.silent_of_inBand)
    fun _ => act_silent _) fun _ => finishNetworking_silent)
    (.bind (act_silent _) fun _ => finishNetworking_silent)

/-- From `deploying`, `reboot_and_finish_deploy` processes `done` or `fail`, accepted. -/
theorem rebootAndFinishDeploy_pathRun (hs : w.node.provisionState = .deploying) :
    PathRun (AnsibleDeploy.rebootAndFinishDeploy cfg lib) w := by
  unfold AnsibleDeploy.rebootAndFinishDeploy
  refine .bind (.of_silent .getNode _) fun _ _ h => ?_
  cases h
  dsimp only
  refine .bind (.tryCatch (.of_silent (rebootStage_silent _) _) fun _ _ h => ?_) fun _ _ h => ?_
  · exact .bind (setFailedState_pathRun _ (s := .deployFail)
      (by rw [(rebootStage_silent _).node_of_error h, hs]; rfl)) fun _ _ _ => .of_silent (.throw _) _
  · exact .processEvent (s := .active)
      (by rw [(rebootStage_silent _).node_of_ok (tryCatch_logAndRaise_eq_ok h), hs]; rfl)

theorem rebootToInstance_pathRun (hs : w.node.provisionState = .deploying) :
    PathRun (AnsibleDeploy.rebootToInstance cfg lib) w := by
  unfold AnsibleDeploy.rebootToInstance
  refine .bind (.of_silent (act_silent _) _) fun _ _ h => .bind ?_ fun _ _ _ =>
    .of_silent (act_silent _) _
  exact rebootAndFinishDeploy_pathRun (by rw [(act_silent _).node_of_ok h, hs])

/-- From `deploy wait`, `continue_deploy` processes `resume`, then what
`reboot_to_instance` does, all accepted. -/
theorem continueDeploy_pathRun (hs : w.node.provisionState = .deployWait) :
    PathRun (AnsibleDeploy.continueDeploy cfg lib) w := by
  unfold AnsibleDeploy.continueDeploy
  refine .bind (.of_silent (act_silent _) _) fun _ w₁ h₁ => ?_
  have hs₁ : w₁.node.provisionState = .deployWait := by rw [(act_silent _).node_of_ok h₁, hs]
  refine .bind (.processEvent (s := .deploying) (by rw [hs₁]; rfl)) fun _ w₂ h₂ => ?_
  have hs₂ : w₂.node.provisionState = .deploying := by
    simpa [hs₁, provisionTransition] using (processEvent_eq_ok h₂).1.symm
  refine .bind (.of_silent .getNode _) fun _ _ h => ?_
  cases h
  refine .bind (.of_silent (.liftExcept _) _) fun _ w₃ h₃ => ?_
  refine .bind (.of_silent (ansibleDeploy_silent _) _) fun _ w₄ h₄ => ?_
  exact rebootToInstance_pathRun (by
    rw [(ansibleDeploy_silent _).node_of_ok h₄, (Appends.liftExcept (p := Event.silent) _).node_of_ok h₃, hs₂])

/-- In callback mode `deploy` only reboots the node into the ramdisk. -/
theorem deploy_silent_of_callback (hcb : cfg.useRamdiskCallback = true) :
    Appends Event.silent (AnsibleDeploy.deploy cfg lib) := by
  unfold AnsibleDeploy.deploy
  refine .bind (act_silent _) fun _ => ?_
  simp only [hcb, if_true]
  exact .pure _

/-- In callback mode the conductor's events from `deploying` are accepted whatever
`deploy` did: it processed none. -/
theorem conductorDeploy_pathRun (hcb : cfg.useRamdiskCallback = true)
    (hs : w.node.provisionState = .deploying) : PathRun (conductorDeploy cfg lib) w := by
  have hd := Appends.attempt (@deploy_silent_of_callback _ lib hcb)
  unfold conductorDeploy
  refine .bind (.of_silent hd _) fun _ w₁ h => ?_
  have hs₁ : w₁.node.provisionState = .deploying := by rw [hd.node_of_ok h, hs]
  split
  · exact .processEvent (s := .deployWait) (by rw [hs₁]; rfl)
  · exact .processEvent (s := .active) (by rw [hs₁]; rfl)
  · exact .of_silent (.pure _) _
  · exact .processEvent (s := .deployFail) (by rw [hs₁]; rfl)

theorem deployRun_pathRun (hcb : cfg.useRamdiskCallback = true)
    (hs : w.node.provisionState = .deploying) : PathRun (deployRun cfg lib) w := by
  unfold deployRun
  refine .bind (conductorDeploy_pathRun hcb hs) fun _ _ _ =>
    .bind (.of_silent .getNode _) fun _ _ h => ?_
  cases h
  split
  · exact continueDeploy_pathRun ‹_›
  · exact .of_silent (.pure _) _

end

/-! ## Inputs for the examples -/

/-- The defaults of every option, in callback mode. -/
def callbackConfig : Config :=
  { playbooksPath := "/etc/ironic-staging-drivers/ansible/playbooks", configFilePath := "",
    tempdir := "/tmp" }

/-- The defaults of every option, in DHCP mode. -/
def dhcpConfig : Config := { callbackConfig with useRamdiskCallback := false }

/-- Library functions answering plainly. -/
def plainLib : Lib where
  getDiskLabel _ := .none
  getBootOption _ := "local"
  parseRootDeviceHints _ := .ok []
  unquote s := s
  shlexSplit s := .ok [s]
  jsonDumps v := v.pyRepr
  buildAgentOptions _ := []
  loadYaml _ := .ok .none

/-- A node the conductor has started deploying, with a whole-disk image, forcing an
out-of-band reboot; DHCP gives it one address and every collaborator answers. -/
def deployingWorld : World where
  oracle := Oracle.succeeding ["10.0.0.5"]
  node :=
    { uuid := "node-1", driver := "pxe_ipmitool_ansible",
      driverInfo := [(.str "deploy_forces_oob_reboot", .bool true)],
      driverInternalInfo := [(.str "is_whole_disk_image", .bool true)],
      instanceInfo := [(.str "image_source", .str "glance://image")],
      properties := [], extra := [], provisionState := .deploying, lastError := none }
  trace := []

/-- **A deploy in callback mode follows the state machine.** From `deploying`, whatever the
collaborators answer, the events processed over the conductor's handling of `deploy` and
then `continue_deploy` are all accepted and form a path to the node's final state: `done`
at most once, and nothing after `done` or `fail`. -/
theorem deployRun_callback_path (w : World) (hcb : cfg.useRamdiskCallback = true)
    (hs : w.node.provisionState = .deploying) :
    ∃ seg evs, (worldAfter (deployRun cfg lib w)).trace = w.trace ++ seg ∧
      processed seg = evs.map (·, .ok ()) ∧
      pathEnd .deploying evs = some (worldAfter (deployRun cfg lib w)).node.provisionState ∧
      evs.count .done ≤ 1 ∧
      ∀ pre e post, evs = pre ++ e :: post → (e = .done ∨ e = .fail) → post = [] := by
  obtain ⟨seg, ht, evs, hp, he⟩ := deployRun_pathRun hcb hs
  rw [hs] at he
  exact ⟨seg, evs, ht, hp, he, pathEnd_count_done he,
    fun _ _ _ h hd => pathEnd_ends hd (h ▸ he)⟩

theorem deployRun_callback_path_at_deploying :
    callbackConfig.useRamdiskCallback = true ∧ deployingWorld.node.provisionState = .deploying ∧
    ∃ seg evs, (worldAfter (deployRun callbackConfig plainLib deployingWorld)).trace =
        deployingWorld.trace ++ seg ∧
      processed seg = evs.map (·, .ok ()) ∧
      pathEnd .deploying evs =
        some (worldAfter (deployRun callbackConfig plainLib deployingWorld)).node.provisionState ∧
      evs.count .done ≤ 1 ∧
      ∀ pre e post, evs = pre ++ e :: post → (e = .done ∨ e = .fail) → post = [] :=
  ⟨rfl, rfl, deployRun_callback_path callbackConfig plainLib deployingWorld rfl rfl⟩

/-! ## The synchronous deploy -/

section
variable {cfg lib} {w w' : World} {u : Unit}

/-- `reboot_and_finish_deploy` returns only once `done` was accepted: it is the last event,
and the node is `active`. -/
theorem rebootAndFinishDeploy_eq_ok (h : AnsibleDeploy.rebootAndFinishDeploy cfg lib w = .ok u w') :
    ∃ pre, w'.trace = pre ++ [.processEvent .done (.ok ())] ∧ w'.node.provisionState = .active := by
  unfold AnsibleDeploy.rebootAndFinishDeploy at h
  obtain ⟨_, _, -, h⟩ := bind_eq_ok h
  obtain ⟨_, w₁, -, h⟩ := bind_eq_ok h
  obtain ⟨hs, ht⟩ := processEvent_eq_ok h
  exact ⟨w₁.trace, ht, provisionTransition_done hs⟩

/-- `reboot_to_instance` returns only after `done`, followed by the ramdisk clean-up. -/
theorem rebootToInstance_eq_ok (h : AnsibleDeploy.rebootToInstance cfg lib w = .ok u w') :
    ∃ pre, w'.trace = pre ++ [.processEvent .done (.ok ()), .act .cleanUpRamdisk (.ok ())] ∧
      w'.node.provisionState = .active := by
  unfold AnsibleDeploy.rebootToInstance at h
  obtain ⟨_, _, -, h⟩ := bind_eq_ok h
  obtain ⟨_, w₁, h₁, h⟩ := bind_eq_ok h
  obtain ⟨pre, ht, hs⟩ := rebootAndFinishDeploy_eq_ok h₁
  rw [act_eq] at h
  rcases hr : w₁.oracle.act w₁.trace .cleanUpRamdisk with e | ⟨⟨⟩⟩ <;>
    rw [hr] at h <;> cases h
  exact ⟨pre, by simp [ht], hs⟩

/-- In DHCP mode `deploy` returns `DEPLOYDONE` only after `reboot_to_instance` returned. -/
theorem deploy_eq_deployDone (hcb : cfg.useRamdiskCallback = false)
    (h : AnsibleDeploy.deploy cfg lib w = .ok (some .deployDone) w') :
    ∃ pre, w'.trace = pre ++ [.processEvent .done (.ok ()), .act .cleanUpRamdisk (.ok ())] ∧
      w'.node.provisionState = .active := by
  unfold AnsibleDeploy.deploy at h
  obtain ⟨_, _, -, h⟩ := bind_eq_ok h
  simp only [hcb, Bool.false_eq_true, if_false] at h
  obtain ⟨_, _, -, h⟩ := bind_eq_ok h
  obtain ⟨_, _, -, h⟩ := bind_eq_ok h
  obtain ⟨_, _, -, h⟩ := bind_eq_ok h
  obtain ⟨deployed, _, -, h⟩ := bind_eq_ok h
  cases deployed
  · cases h
  obtain ⟨_, w₁, h₁, h⟩ := bind_eq_ok h
  cases h
  exact rebootToInstance_eq_ok h₁

/-- `set_failed_state`, from a state with a `fail` transition, when it returns: `fail` is the one
event processed, accepted; the power-off was asked for if configured; the message is recorded. -/
theorem setFailedState_eq_ok {msg : String} {s : ProvState} {u : Unit}
    (hs : provisionTransition w.node.provisionState .fail = some s)
    (h : setFailedState cfg msg w = .ok u w') :
    ∃ seg, w'.trace = w.trace ++ seg ∧ processed seg = [(.fail, .ok ())] ∧
      w'.node.provisionState = s ∧ w'.node.lastError = some msg ∧
      (cfg.powerOffAfterDeployFailure = true → ∃ r, .act (.nodePowerAction .powerOff) r ∈ seg) := by
  unfold setFailedState saveNode at h
  rw [bind_of_ok (tryCatch_of_ok (by rw [processEvent_run, hs]))] at h
  obtain ⟨_, w₂, h₂, h⟩ := bind_eq_ok h
  simp only [bind_apply, getNode_apply, setNode_apply, act_eq] at h
  generalize hw₁ : World.push _ (.processEvent .fail (.ok ())) = w₁ at h₂
  -- the power-off, when configured, is asked for and its failure dropped
  obtain ⟨off, rfl, hsil, hoff⟩ : ∃ off, w₂ = { w₁ with trace := w₁.trace ++ off } ∧
      (∀ e ∈ off, e.silent) ∧
      (cfg.powerOffAfterDeployFailure = true → ∃ r, .act (.nodePowerAction .powerOff) r ∈ off) := by
    cases hc : cfg.powerOffAfterDeployFailure <;>
      simp only [hc, Bool.false_eq_true, if_false, if_true] at h₂
    · cases h₂; exact ⟨[], by simp, by simp, by simp⟩
    · rw [tryCatch_apply, nodePowerAction, act_eq] at h₂
      cases hr : w₁.oracle.act w₁.trace (.nodePowerAction .powerOff) <;>
        simp only [hr, resultOf] at h₂ <;> cases h₂ <;>
        exact ⟨_, rfl, by simp [Event.silent, Event.provisioning],
          fun _ => ⟨_, List.mem_singleton_self _⟩⟩
  cases hr : w₁.oracle.act (w₁.trace ++ off) _ <;> rw [hr] at h <;> cases h
  subst hw₁
  refine ⟨[.processEvent .fail (.ok ())] ++
      (off ++ [.act (.save { w.node with provisionState := s, lastError := some msg }) (.ok ())]),
    by simp [World.push], ?_, rfl, rfl, fun hc => (hoff hc).imp fun _ h => by simp [h]⟩
  simp [processed, List.filterMap_append, List.filterMap_eq_nil_iff.mpr hsil, Event.provisioning]

/-- In DHCP mode `deploy` returns `None` only once `_ansible_deploy` raised some `e`, after calls
that process no event, and `set_failed_state` returned with the message naming `e`. -/
theorem deploy_eq_none (hcb : cfg.useRamdiskCallback = false)
    (h : AnsibleDeploy.deploy cfg lib w = .ok none w') :
    ∃ (w₁ : World) (e : Exc),
      (∃ seg, w₁ = { w with trace := w.trace ++ seg } ∧ ∀ x ∈ seg, x.silent) ∧
      setFailedState cfg ("Deploy failed for node " ++ w.node.uuid ++ ": Error: " ++ e.text) w₁ =
        .ok () w' := by
  unfold AnsibleDeploy.deploy at h
  obtain ⟨_, w₀, h₀, h⟩ := bind_eq_ok h
  simp only [hcb, Bool.false_eq_true, if_false] at h
  obtain ⟨_, _, h₁, h⟩ := bind_eq_ok h
  obtain ⟨_, _, h₂, h⟩ := bind_eq_ok h
  obtain ⟨ip, w₂, h₃, h⟩ := bind_eq_ok h
  obtain ⟨deployed, w₃, h₄, h⟩ := bind_eq_ok h
  cases h₁
  cases h₂
  -- `deploy` returned `None`: the playbook stage raised and the handler returned `False`
  cases deployed
  case true => obtain ⟨_, _, -, h⟩ := bind_eq_ok h; cases h
  cases h
  obtain ⟨s₀, hs₀, rfl⟩ := (act_silent _).eq_of_ok h₀
  obtain ⟨s₂, hs₂, hw₂⟩ := getNodeIpDhcp_silent.eq_of_ok h₃
  cases hx : (ansibleDeploy cfg lib ip >>= fun _ => pure true) w₂ with
  | ok a w₄ =>
    obtain ⟨_, _, -, hp⟩ := bind_eq_ok hx
    cases hp
    rw [tryCatch_of_ok hx] at h₄
    cases h₄
  | error e w₄ =>
    rw [tryCatch_of_error hx] at h₄
    obtain ⟨_, _, hf, hp⟩ := bind_eq_ok h₄
    cases hp
    have had : ansibleDeploy cfg lib ip w₂ = .error e w₄ := by
      rcases bind_eq_error hx with h | ⟨_, _, -, h⟩
      exacts [h, nomatch h]
    obtain ⟨s₄, hs₄, hw₄⟩ := ansibleDeploy_silent ip w₂
    rw [had, worldAfter_error] at hw₄
    subst hw₄ hw₂
    refine ⟨_, e, ⟨s₀ ++ s₂ ++ s₄, by simp, fun x hx => ?_⟩, hf⟩
    simp only [List.mem_append] at hx
    rcases hx with (hx | hx) | hx
    exacts [hs₀ x hx, hs₂ x hx, hs₄ x hx]

end

/-- **A synchronous deploy processes `done` twice.** In DHCP mode, whenever `deploy`
returns `DEPLOYDONE`, `done` was already accepted inside it; the conductor then processes
`done` again, from `active`, and the state machine rejects it with `InvalidState`. -/
theorem conductorDeploy_done_twice (w : World) (hcb : cfg.useRamdiskCallback = false)
    (hdone : outcome (AnsibleDeploy.deploy cfg lib w) = .ok (some .deployDone)) :
    ∃ pre m, (worldAfter (conductorDeploy cfg lib w)).trace = pre ++
        [.processEvent .done (.ok ()), .act .cleanUpRamdisk (.ok ()),
          .processEvent .done (.error (.invalidState m))] ∧
      outcome (conductorDeploy cfg lib w) = .error (.invalidState m) := by
  obtain ⟨w', hw'⟩ : ∃ w', AnsibleDeploy.deploy cfg lib w = .ok (some .deployDone) w' := by
    cases h : AnsibleDeploy.deploy cfg lib w <;> rw [h] at hdone <;> cases hdone
    exact ⟨_, rfl⟩
  obtain ⟨pre, ht, hs⟩ := deploy_eq_deployDone hcb hw'
  obtain ⟨m, hm⟩ := processEvent_of_none (e := .done) (w := w') (by rw [hs]; rfl)
  have hrun : conductorDeploy cfg lib w = processEvent .done w' := by
    unfold conductorDeploy
    rw [bind_of_ok (attempt_of_ok hw')]
  refine ⟨pre, m, ?_, ?_⟩ <;> rw [hrun, hm]
  · simp [ht]
  · rfl

theorem conductorDeploy_done_twice_at_dhcp :
    dhcpConfig.useRamdiskCallback = false ∧
    outcome (AnsibleDeploy.deploy dhcpConfig plainLib deployingWorld) = .ok (some .deployDone) ∧
    ∃ pre m, (worldAfter (conductorDeploy dhcpConfig plainLib deployingWorld)).trace = pre ++
        [.processEvent .done (.ok ()), .act .cleanUpRamdisk (.ok ()),
          .processEvent .done (.error (.invalidState m))] ∧
      outcome (conductorDeploy dhcpConfig plainLib deployingWorld) = .error (.invalidState m) :=
  ⟨rfl, rfl, conductorDeploy_done_twice dhcpConfig plainLib deployingWorld rfl rfl⟩

/-- `deployingWorld` where the deploy playbook fails. -/
def failedPlaybookWorld : World :=
  { deployingWorld with
    oracle := { Oracle.succeeding ["10.0.0.5"] with
      execute := fun _ _ => .error (.processExecutionError "ansible-playbook exited with 2") } }

end IronicAnsible
