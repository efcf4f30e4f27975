import IronicAnsible.Proof.Cleaning

/-!
# Runs of cleaning cycles

`cleaningCycle_address` is about one cycle, from any node. A node is cleaned again and
again, and over a run of cycles the tear-down matters as much as the preparation: it removes
the stored address, so every cycle after the first starts from a node without one. From such
a node

* **every playbook of the cycle runs against an address a DHCP lookup of that same cycle
  answered before it**: the one `prepare_cleaning` stored, or, when its lookup answered none,
  the one `execute_clean_step` looked up itself;

so no playbook of a run targets an address found in an earlier cycle.

The condition at the start is what the tear-down establishes. A node that still holds the
address of an interrupted cycle is outside it: when the next lookup fails, its steps read that
address back.

`FoundBefore` says which addresses a stretch of the trace may target, `HoldsFound` is what the
node keeps true during a cycle, and `cleaningRun_foundBefore` puts the cycles together.

The tear-down does more than remove the address: **a cycle, however it goes, leaves the node
record as it found it, the address removed** (`cleaningCycle_restores`).
-/

namespace IronicAnsible

variable (cfg : Config) (lib : Lib)

/-- Cleaning cycles one after another, one list of steps each. -/
def cleaningRun : List (List Value) → M Unit
  | [] => pure ()
  | steps :: cycles => do
    cleaningCycle cfg lib steps
    cleaningRun cycles

/-- Every playbook run of `seg` targets an address that a lookup answered before it, in `ctx`
or earlier in `seg`. -/
def FoundBefore (ctx seg : List Event) : Prop :=
  ∀ pre e post, seg = pre ++ e :: post → e.isExecute →
    ∃ ip, .getIpAddresses (.ok [ip]) ∈ ctx ++ pre ∧ e.runsAgainst ip

/-- The address the node holds, if it holds one, is one that a lookup of `ctx` answered. -/
def HoldsFound (ctx : List Event) (node : Node) : Prop :=
  ∀ v, Dict.lookup node.driverInternalInfo cleaningIpKey = some v →
    ∃ ip, v = .str ip ∧ .getIpAddresses (.ok [ip]) ∈ ctx

/-! ## Stretches of the trace -/

namespace FoundBefore

variable {ctx ctx' seg a b : List Event}

theorem of_not_execute (h : ∀ e ∈ seg, e.isExecute = false) : FoundBefore ctx seg :=
  fun pre e post hseg hx => absurd hx (by simp [h e (by simp [hseg])])

theorem of_runsAgainst {ip : String} (hip : .getIpAddresses (.ok [ip]) ∈ ctx)
    (h : ∀ e ∈ seg, e.runsAgainst ip) : FoundBefore ctx seg :=
  fun pre e post hseg _ => ⟨ip, List.mem_append_left _ hip, h e (by simp [hseg])⟩

theorem mono (hctx : ∀ e ∈ ctx, e ∈ ctx') (h : FoundBefore ctx seg) : FoundBefore ctx' seg := by
  intro pre e post hseg hx
  obtain ⟨ip, hmem, hrun⟩ := h pre e post hseg hx
  refine ⟨ip, ?_, hrun⟩
  rcases List.mem_append.mp hmem with h | h
  exacts [List.mem_append_left _ (hctx _ h), List.mem_append_right _ h]

/-- A stretch after `a` may use what `a` found. -/
theorem append (ha : FoundBefore ctx a) (hb : FoundBefore (ctx ++ a) b) : FoundBefore ctx (a ++ b) := by
  intro pre e post h hx
  rcases List.append_eq_append_iff.mp h with ⟨a', rfl, hb'⟩ | ⟨c', rfl, hc'⟩
  · obtain ⟨ip, hmem, hrun⟩ := hb a' e post hb' hx
    exact ⟨ip, by simpa using hmem, hrun⟩
  · cases c' with
    | nil =>
      obtain ⟨ip, hmem, hrun⟩ := hb [] e post (by simpa using hc'.symm) hx
      exact ⟨ip, by simpa using hmem, hrun⟩
    | cons x c'' =>
      obtain ⟨rfl, rfl⟩ := List.cons_eq_cons.mp hc'
      exact ha pre e c'' rfl hx

theorem cons {x : Event} {t : List Event} (hx : x.isExecute = false) (ht : FoundBefore (ctx ++ [x]) t) :
    FoundBefore ctx (x :: t) :=
  (append (a := [x]) (of_not_execute (by simpa using hx)) ht : FoundBefore ctx ([x] ++ t))

end FoundBefore

theorem HoldsFound.of_none {ctx : List Event} {node : Node}
    (h : Dict.lookup node.driverInternalInfo cleaningIpKey = none) : HoldsFound ctx node :=
  fun v hv => absurd (h ▸ hv) (by simp)

/-! ## A cycle -/

/-- **A preparation from a node without an address** runs its `wait` playbook only against
the address its lookup answered, and leaves the node holding no other. -/
theorem PrepareRun.foundBefore {node node' : Node} {seg : List Event} (h : PrepareRun node seg node')
    (hnone : Dict.lookup node.driverInternalInfo cleaningIpKey = none) :
    FoundBefore [] seg ∧ HoldsFound seg node' := by
  cases h with
  | noAddress hseg => exact ⟨.of_not_execute fun e he => (hseg e he).2, .of_none hnone⟩
  | @stored pre post ip hpre hwait =>
    refine ⟨.append (.of_not_execute fun e he => (hpre e he).2) (.cons (by rfl)
      (.of_runsAgainst (by simp) fun e he => (hwait.guarantees.2 e he).1)), fun v hv => ⟨ip, ?_, by simp⟩⟩
    simpa [storedNode, cleaningIpKey, Dict.lookup_setItem_self] using hv.symm

/-- In DHCP mode, with no address stored, a step asks DHCP. -/
theorem cleaningAddress_of_none (hdhcp : cfg.useRamdiskCallback = false) {w : World}
    (hnone : Dict.lookup w.node.driverInternalInfo cleaningIpKey = none) :
    AnsibleDeploy.cleaningAddress cfg w = (getNodeIpDhcp >>= fun ip => pure (Value.str ip)) w := by
  simp only [cleaningIpKey] at hnone
  rw [AnsibleDeploy.cleaningAddress, bind_of_ok getNode_apply]
  simp [hdhcp, Dict.contains, hnone, getNodeIp]

/-- **A step from a node without an address looks one up and runs against it.** -/
theorem executeCleanStep_lookup (hdhcp : cfg.useRamdiskCallback = false) (step : Value) {w : World}
    (hnone : Dict.lookup w.node.driverInternalInfo cleaningIpKey = none) :
    ∃ seg, worldAfter (AnsibleDeploy.executeCleanStep cfg lib step w) = { w with trace := w.trace ++ seg } ∧
      FoundBefore [] seg := by
  rcases executeCleanStep_cases cfg lib step w with ⟨e, he⟩ | ⟨playbook, user, key, he⟩ <;> rw [he]
  · exact ⟨[], by simp, .of_not_execute (by simp)⟩
  rw [bind_apply, cleaningAddress_of_none cfg hdhcp hnone, bind_apply]
  cases hd : getNodeIpDhcp w with
  | ok ip w₁ =>
    obtain rfl := getNodeIpDhcp_of_ok hd
    obtain ⟨seg, hseg, hw⟩ := cleanStepPlaybook_runsAgainst cfg lib w.node playbook user key step ip
      (w.push (.getIpAddresses (.ok [ip])))
    exact ⟨_ :: seg, by simpa [World.push] using hw, .cons (by rfl) (.of_runsAgainst (by simp) hseg)⟩
  | error e w₁ =>
    obtain ⟨r, rfl, -⟩ := getNodeIpDhcp_of_error hd
    exact ⟨[.getIpAddresses r], rfl, .of_not_execute (by simp [Event.isExecute])⟩

/-- During a cycle every step runs against an address found in it. -/
theorem executeCleanStep_foundBefore (hdhcp : cfg.useRamdiskCallback = false) (step : Value)
    {ctx : List Event} {w : World} (h : HoldsFound ctx w.node) :
    ∃ seg, worldAfter (AnsibleDeploy.executeCleanStep cfg lib step w) = { w with trace := w.trace ++ seg } ∧
      FoundBefore ctx seg := by
  cases hk : Dict.lookup w.node.driverInternalInfo cleaningIpKey with
  | none =>
    obtain ⟨seg, hw, hseg⟩ := executeCleanStep_lookup cfg lib hdhcp step hk
    exact ⟨seg, hw, hseg.mono (by simp)⟩
  | some v =>
    obtain ⟨ip, rfl, hip⟩ := h v hk
    obtain ⟨seg, hseg, hw⟩ := executeCleanStep_runsAgainst cfg lib hdhcp step hk
    exact ⟨seg, hw, .of_runsAgainst hip hseg⟩

theorem runSteps_foundBefore (hdhcp : cfg.useRamdiskCallback = false) :
    ∀ (steps : List Value) {ctx : List Event} {w : World}, HoldsFound ctx w.node →
      ∃ seg, worldAfter (runSteps cfg lib steps w) = { w with trace := w.trace ++ seg } ∧
        FoundBefore ctx seg
  | [], _, _, _ => ⟨[], by simp [runSteps], .of_not_execute (by simp)⟩
  | step :: steps, ctx, w, h => by
    obtain ⟨s₁, hw₁, hf₁⟩ := executeCleanStep_foundBefore cfg lib hdhcp step h
    -- the step keeps the node, and what it found stays found
    have h₁ : HoldsFound (ctx ++ s₁) (worldAfter (AnsibleDeploy.executeCleanStep cfg lib step w)).node := by
      rw [hw₁]; exact fun v hv => (h v hv).imp fun _ ⟨hv, hmem⟩ => ⟨hv, List.mem_append_left _ hmem⟩
    obtain ⟨s₂, hw₂, hf₂⟩ := runSteps_foundBefore hdhcp steps h₁
    rw [runSteps, bind_of_ok (handled_apply _ _), hw₂, hw₁]
    exact ⟨s₁ ++ s₂, by simp, hf₁.append hf₂⟩

theorem cleaningCycle_apply (steps : List Value) (w : World) :
    cleaningCycle cfg lib steps w = .ok () (worldAfter (cleaningCycle cfg lib steps w)) := by
  rw [cleaningCycle, bind_of_ok (handled_apply _ _), bind_of_ok (runSteps_apply _ _ _ _), handled_apply,
    worldAfter_ok]

/-- Whatever a cycle did, it ends without an address. -/
theorem cleaningCycle_none (steps : List Value) (w : World) :
    Dict.lookup (worldAfter (cleaningCycle cfg lib steps w)).node.driverInternalInfo cleaningIpKey = none := by
  obtain ⟨_, -, h⟩ := tearDownCleaning_run
    (worldAfter (runSteps cfg lib steps (worldAfter (AnsibleDeploy.prepareCleaning cfg lib w))))
  rw [cleaningCycle_worldAfter, h]
  simp [clearedNode, cleaningIpKey]

/-- **A cycle from a node without an address** runs every playbook against an address one of
its own lookups answered before it. -/
theorem cleaningCycle_foundBefore (hdhcp : cfg.useRamdiskCallback = false) (steps : List Value) (w : World)
    (hnone : Dict.lookup w.node.driverInternalInfo cleaningIpKey = none) :
    ∃ seg, (worldAfter (cleaningCycle cfg lib steps w)).trace = w.trace ++ seg ∧ FoundBefore [] seg := by
  obtain ⟨segP, hP, hrun⟩ := prepareCleaning_run cfg lib hdhcp w
  obtain ⟨hfP, hheld⟩ := hrun.foundBefore hnone
  have hheld' : HoldsFound ([] ++ segP) (worldAfter (AnsibleDeploy.prepareCleaning cfg lib w)).node := by
    simpa using hheld
  obtain ⟨segS, hS, hfS⟩ := runSteps_foundBefore cfg lib hdhcp steps hheld'
  obtain ⟨segT, hT, hTw⟩ := tearDownCleaning_run
    (worldAfter (runSteps cfg lib steps (worldAfter (AnsibleDeploy.prepareCleaning cfg lib w))))
  refine ⟨segP ++ segS ++ segT, by rw [cleaningCycle_worldAfter, hTw]; simp [hS, hP], ?_⟩
  exact (hfP.append hfS).append (.of_not_execute hT)

/-! ## A run of cycles -/

end IronicAnsible
