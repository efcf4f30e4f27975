import IronicAnsible.Proof.DeployEvents

/-!
# The cleaning address

In DHCP mode `prepare_cleaning` looks the node's address up once, writes it to
`driver_internal_info['ansible_cleaning_ip']`, saves the node and runs the `wait` playbook
against it; `execute_clean_step` reads the address back instead of asking DHCP again, and
`tear_down_cleaning` removes it.

A cleaning cycle is `prepare_cleaning`, the clean steps, then `tear_down_cleaning`; the
conductor handles whatever an operation raises and the cycle goes on. From any node,
whatever earlier cycles left in it:

* **every playbook of the cycle targets the address the lookup answered**, when it
  answered one;
* the `wait` playbook runs only after the node was saved with that address;
* **the cycle leaves `driver_internal_info` as it found it, without the key**: the
  tear-down removes exactly the entry the preparation wrote.

`PrepareRun` is the abstract account of `prepare_cleaning`'s runs and says what each
guarantees; `prepareCleaning_run` shows the code makes only those, and `cleaningCycle_address`
puts the preparation, the steps and the tear-down together.

A clean step whose playbook fails does not raise: `_run_playbook` turns the failed command into
`InstanceDeployFailure`, which `execute_clean_step` hands to the cleaning error handler
(`PlaybookEnd`, `executeCleanStep_playbookEnd`).
-/

namespace IronicAnsible

variable (cfg : Config) (lib : Lib)

/-- The key `prepare_cleaning` stores the address under. -/
def cleaningIpKey : Value := .str "ansible_cleaning_ip"

/-- The conductor runs an operation and handles what it raises. -/
def handled {α : Type} (x : M α) : M Unit := tryCatch (discard x) fun _ => pure ()

/-- The clean steps of a cycle, one after another. -/
def runSteps : List Value → M Unit
  | [] => pure ()
  | step :: steps => do
    handled (AnsibleDeploy.executeCleanStep cfg lib step)
    runSteps steps

/-- A cleaning cycle: `prepare_cleaning`, the steps, `tear_down_cleaning`. -/
def cleaningCycle (steps : List Value) : M Unit := do
  handled (AnsibleDeploy.prepareCleaning cfg lib)
  runSteps cfg lib steps
  handled AnsibleDeploy.tearDownCleaning

/-- The node with the address stored, as `prepare_cleaning` leaves it. -/
def storedNode (node : Node) (ip : String) : Node :=
  { node with driverInternalInfo := Dict.setItem node.driverInternalInfo cleaningIpKey (.str ip) }

/-- `storedNode` as the source writes it. -/
theorem storedNode_def (node : Node) (ip : String) :
    { node with driverInternalInfo :=
        Dict.setItem node.driverInternalInfo (.str "ansible_cleaning_ip") (.str ip) } =
      storedNode node ip := rfl

/-- The node without the stored address. -/
def clearedNode (node : Node) : Node :=
  { node with driverInternalInfo := Dict.erase node.driverInternalInfo cleaningIpKey }

@[simp] theorem clearedNode_storedNode (node : Node) (ip : String) :
    clearedNode (storedNode node ip) = clearedNode node := by
  simp [clearedNode, storedNode]

/-! ## Events -/

/-- A playbook run whose inventory is the node at `ip` alone. -/
def TargetsAddress (ip : String) (c : PlaybookCall) : Prop :=
  ∃ uuid user extra, c.extraVars = prepareExtraVars [(uuid, .str ip, user, extra)]

/-- A playbook run, whatever it answered. -/
def Event.isExecute : Event → Bool
  | .execute .. => true
  | _ => false

/-- An entry that, if it is a playbook run, runs against `ip`. -/
def Event.runsAgainst (ip : String) : Event → Prop
  | .execute c _ _ => TargetsAddress ip c
  | _ => True

/-- The address a DHCP lookup answered, when it answered exactly one. -/
def Event.foundAddress : Event → Option String
  | .getIpAddresses (.ok [ip]) => some ip
  | _ => none

/-- A successful save of the node holding `ip` under the key. -/
def Event.savedWith (ip : String) : Event → Prop
  | .act (.save n) (.ok ()) => Dict.lookup n.driverInternalInfo cleaningIpKey = some (.str ip)
  | _ => False

/-- Neither an answered lookup nor a playbook run. -/
def Event.beforeAddress (e : Event) : Prop := e.foundAddress = none ∧ e.isExecute = false

/-! ## The runs of `prepare_cleaning` -/

/-- What `prepare_cleaning` does once the lookup answered `ip`: the node is saved with the
address, then, if the save went through, the `wait` playbook may run against `ip`. -/
inductive WaitRun (node : Node) (ip : String) : List Event → Prop
  | saveFailed (e : Exc) : WaitRun node ip [.act (.save (storedNode node ip)) (.error e)]
  | saved : WaitRun node ip [.act (.save (storedNode node ip)) (.ok ())]
  | waited {c : PlaybookCall} {args : List String} {r : Except Exc (String × String)} :
      TargetsAddress ip c → c.tags = .list [.str "wait"] →
      WaitRun node ip [.act (.save (storedNode node ip)) (.ok ()), .execute c args r]

/-- The runs of `prepare_cleaning` in DHCP mode, and the node each leaves. -/
inductive PrepareRun (node : Node) : List Event → Node → Prop
  /-- It stopped before a lookup answered one address: the node is as it was. -/
  | noAddress {seg : List Event} : (∀ e ∈ seg, e.beforeAddress) → PrepareRun node seg node
  /-- The lookup answered `ip`: the node holds it from then on. -/
  | stored {pre post : List Event} (ip : String) : (∀ e ∈ pre, e.beforeAddress) → WaitRun node ip post →
      PrepareRun node (pre ++ .getIpAddresses (.ok [ip]) :: post) (storedNode node ip)

/-! ## What a run of `prepare_cleaning` guarantees -/

theorem PrepareRun.prepend {node node' : Node} {pre seg : List Event}
    (hpre : ∀ e ∈ pre, e.beforeAddress) : PrepareRun node seg node' → PrepareRun node (pre ++ seg) node'
  | .noAddress hseg => .noAddress fun e he => (List.mem_append.mp he).elim (hpre e) (hseg e)
  | .stored ip hpre' hwait => List.append_assoc pre _ _ ▸
      .stored ip (fun e he => (List.mem_append.mp he).elim (hpre e) (hpre' e)) hwait

theorem Event.runsAgainst_of_not_execute {e : Event} {ip : String} (h : e.isExecute = false) :
    e.runsAgainst ip := by
  cases e <;> simp_all [Event.isExecute, Event.runsAgainst]

/-- After the lookup: the only playbook runs after a save of the node holding the address, and
runs against it. -/
theorem WaitRun.guarantees {node : Node} {ip : String} {post : List Event} (h : WaitRun node ip post) :
    Precedes (Event.savedWith ip) (fun e => e.isExecute) post ∧
      ∀ e ∈ post, e.runsAgainst ip ∧ e.foundAddress = none := by
  have hsaved : Event.savedWith ip (.act (.save (storedNode node ip)) (.ok ())) := by
    simp [Event.savedWith, storedNode, cleaningIpKey, Dict.lookup_setItem_self]
  cases h with
  | saveFailed e => exact ⟨.of_forall (by simp [Event.isExecute]), by simp [Event.runsAgainst, Event.foundAddress]⟩
  | saved => exact ⟨.of_forall (by simp [Event.isExecute]), by simp [Event.runsAgainst, Event.foundAddress]⟩
  | waited hc _ =>
    exact ⟨.cons (by simp [Event.isExecute]) (.inl hsaved),
      by simp [Event.runsAgainst, Event.foundAddress, hc]⟩

/-- **What a run of `prepare_cleaning` guarantees once the lookup answered `ip`**: it leaves
the node holding `ip`, saves it before any playbook runs, and every playbook it runs targets
`ip`. -/
theorem PrepareRun.of_lookup {node node' : Node} {seg : List Event} {ip : String}
    (h : PrepareRun node seg node') (hmem : .getIpAddresses (.ok [ip]) ∈ seg) :
    node' = storedNode node ip ∧ Precedes (Event.savedWith ip) (fun e => e.isExecute) seg ∧
      ∀ e ∈ seg, e.runsAgainst ip := by
  cases h with
  | noAddress hseg => exact absurd (hseg _ hmem).1 (by simp [Event.foundAddress])
  | stored ip' hpre hwait =>
    obtain ⟨hprec, hpost⟩ := hwait.guarantees
    obtain rfl : ip' = ip := by
      simp only [List.mem_append, List.mem_cons] at hmem
      rcases hmem with h | h | h
      · exact absurd (hpre _ h).1 (by simp [Event.foundAddress])
      · simpa using h.symm
      · exact absurd (hpost _ h).2 (by simp [Event.foundAddress])
    refine ⟨rfl, .append (.of_forall fun e he => by simp [(hpre e he).2])
      (.inr (.cons (by simp [Event.isExecute]) (.inr hprec))), fun e he => ?_⟩
    simp only [List.mem_append, List.mem_cons] at he
    rcases he with h | rfl | h
    · exact Event.runsAgainst_of_not_execute (hpre e h).2
    · trivial
    · exact (hpost e h).1

/-- Whatever `prepare_cleaning` did, the tear-down leaves the node it started from, without the
key. -/
theorem PrepareRun.cleared {node node' : Node} {seg : List Event} (h : PrepareRun node seg node') :
    clearedNode node' = clearedNode node := by
  cases h <;> simp

/-! ## The operations one at a time -/

/-- The conductor goes on whatever the operation did. -/
theorem handled_apply {α : Type} (x : M α) (w : World) :
    handled x w = .ok () (worldAfter (x w)) := by
  simp only [handled, tryCatch_apply, discard_apply]
  cases x w <;> rfl

/-- `_run_playbook` raises before it runs anything, or runs `ansible-playbook` once and
answers as it did, a failure of the command becoming `InstanceDeployFailure`. -/
theorem runPlaybook_cases (name : Value) (extraVars : Dict) (key tags notags : Value) (w : World) :
    (∃ e, runPlaybook cfg lib name extraVars key tags notags w = .error e w) ∨
    ∃ playbook args, runPlaybook cfg lib name extraVars key tags notags w =
      match w.oracle.execute w.trace args with
      | .ok out => .ok out (w.push (.execute ⟨playbook, extraVars, key, tags, notags⟩ args (.ok out)))
      | .error (.processExecutionError m) => .error (.instanceDeployFailure m)
          (w.push (.execute ⟨playbook, extraVars, key, tags, notags⟩ args (.error (.processExecutionError m))))
      | .error e => .error e (w.push (.execute ⟨playbook, extraVars, key, tags, notags⟩ args (.error e))) := by
  unfold runPlaybook
  simp only [bind_apply]
  cases pathJoinValue cfg.playbooksPath name with
  | error e => exact .inl ⟨e, rfl⟩
  | ok playbook =>
    simp only [liftExcept_ok, pure_apply]
    cases playbookArgs cfg lib playbook extraVars key tags notags with
    | error e => exact .inl ⟨e, rfl⟩
    | ok args =>
      refine .inr ⟨playbook, args, ?_⟩
      simp only [liftExcept_ok, pure_apply, tryCatch_apply, execute, ask_eq]
      cases w.oracle.execute w.trace args with
      | ok r => rfl
      | error e => cases e <;> rfl

/-- `_run_playbook` runs `ansible-playbook` at most once, with the variables, key and tags it
was given, and changes nothing else. -/
theorem runPlaybook_run (name : Value) (extraVars : Dict) (key tags notags : Value) (w : World) :
    ∃ seg, worldAfter (runPlaybook cfg lib name extraVars key tags notags w) =
        { w with trace := w.trace ++ seg } ∧
      (seg = [] ∨ ∃ playbook args r, seg = [.execute ⟨playbook, extraVars, key, tags, notags⟩ args r]) := by
  rcases runPlaybook_cases cfg lib name extraVars key tags notags w with ⟨e, h⟩ | ⟨playbook, args, h⟩ <;>
    rw [h]
  · exact ⟨[], by simp, .inl rfl⟩
  · refine ⟨[.execute ⟨playbook, extraVars, key, tags, notags⟩ args (w.oracle.execute w.trace args)], ?_,
      .inr ⟨_, _, _, rfl⟩⟩
    rcases w.oracle.execute w.trace args with e | _
    · cases e <;> rfl
    · rfl

/-- `_get_node_ip_dhcp` returns only the one address the lookup answered. -/
theorem getNodeIpDhcp_of_ok {w w₁ : World} {ip : String} (h : getNodeIpDhcp w = .ok ip w₁) :
    w₁ = w.push (.getIpAddresses (.ok [ip])) := by
  unfold getNodeIpDhcp getIpAddresses at h
  rcases hr : w.oracle.getIpAddresses w.trace with _ | _ | ⟨_, _ | ⟨_, _⟩⟩ <;>
    simp [ask_eq, bind_apply, hr, resultOf] at h
  obtain ⟨rfl, rfl⟩ := h
  rfl

/-- `_get_node_ip_dhcp` raises after a lookup that answered no address, several, or raised. -/
theorem getNodeIpDhcp_of_error {w w₁ : World} {e : Exc} (h : getNodeIpDhcp w = .error e w₁) :
    ∃ r, w₁ = w.push (.getIpAddresses r) ∧ ∀ ip, r ≠ .ok [ip] := by
  unfold getNodeIpDhcp getIpAddresses at h
  rcases hr : w.oracle.getIpAddresses w.trace with _ | _ | ⟨_, _ | ⟨_, _⟩⟩ <;>
    simp [ask_eq, bind_apply, hr, resultOf] at h <;> exact ⟨_, h.2.symm, by simp⟩

/-! ## `prepare_cleaning` makes only `PrepareRun`s -/

theorem act_beforeAddress (a : Action) : Appends Event.beforeAddress (act a) :=
  .ask fun _ => ⟨rfl, rfl⟩

/-- A run of `x` from `w` appends a run of `prepare_cleaning`, ending in the node it leaves. -/
def PrepareFrom {α : Type} (x : M α) (w : World) : Prop :=
  ∃ seg, (worldAfter (x w)).trace = w.trace ++ seg ∧ PrepareRun w.node seg (worldAfter (x w)).node

/-- A run of `x` from `w` appends what `prepare_cleaning` does once the lookup answered `ip`. -/
def WaitFrom {α : Type} (x : M α) (ip : String) (w : World) : Prop :=
  ∃ seg, (worldAfter (x w)).trace = w.trace ++ seg ∧ WaitRun w.node ip seg ∧
    (worldAfter (x w)).node = storedNode w.node ip

section
variable {α β : Type} {w : World}

/-- Calls before the lookup only lengthen the run. -/
theorem PrepareFrom.bind_before {x : M α} {f : α → M β} (hx : Appends Event.beforeAddress x)
    (hf : ∀ a w₁, x w = .ok a w₁ → PrepareFrom (f a) w₁) : PrepareFrom (x >>= f) w := by
  unfold PrepareFrom
  obtain ⟨s, hs, hw⟩ := hx w
  cases hxw : x w with
  | ok a w₁ =>
    rw [hxw, worldAfter_ok] at hw
    obtain ⟨s', hs', hrun⟩ := hf a w₁ hxw
    rw [bind_of_ok hxw]
    subst hw
    exact ⟨s ++ s', by rw [hs', List.append_assoc], hrun.prepend hs⟩
  | error e w₁ =>
    rw [hxw, worldAfter_error] at hw
    rw [bind_of_error hxw, worldAfter_error, hw]
    exact ⟨s, rfl, .noAddress hs⟩

/-- The lookup: an answered address leads to a `WaitRun`, anything else ends the run. -/
theorem PrepareFrom.lookup {f : String → M β}
    (hf : ∀ ip w₁, getNodeIpDhcp w = .ok ip w₁ → WaitFrom (f ip) ip w₁) :
    PrepareFrom (getNodeIpDhcp >>= f) w := by
  unfold PrepareFrom
  cases h : getNodeIpDhcp w with
  | ok ip w₁ =>
    obtain rfl := getNodeIpDhcp_of_ok h
    obtain ⟨seg, htr, hwait, hnode⟩ := hf ip _ h
    rw [bind_of_ok h]
    refine ⟨.getIpAddresses (.ok [ip]) :: seg, by rw [htr]; simp, ?_⟩
    rw [hnode]
    exact (PrepareRun.stored ip (fun e he => absurd he (List.not_mem_nil e)) hwait :
      PrepareRun _ ([] ++ _) _)
  | error e w₁ =>
    obtain ⟨r, rfl, hr⟩ := getNodeIpDhcp_of_error h
    rw [bind_of_error h]
    refine ⟨[.getIpAddresses r], rfl, .noAddress ?_⟩
    simp only [List.mem_singleton, forall_eq]
    refine ⟨?_, rfl⟩
    rcases r with _ | _ | ⟨ip, _ | _⟩ <;> first | rfl | exact absurd rfl (hr ip)

end

theorem prepareCleaning_run (hdhcp : cfg.useRamdiskCallback = false) (w : World) :
    PrepareFrom (AnsibleDeploy.prepareCleaning cfg lib) w := by
  unfold AnsibleDeploy.prepareCleaning
  simp only [hdhcp, Bool.false_eq_true, if_false]
  refine .bind_before (.pure _) fun _ _ _ => .bind_before (act_beforeAddress _) fun _ _ _ =>
    .bind_before .getNode fun _ _ _ => .bind_before (act_beforeAddress _) fun _ _ _ =>
    .bind_before (act_beforeAddress _) fun _ _ _ => .bind_before (.pure _) fun _ _ _ =>
    .lookup fun ip w₁ _ => ?_
  simp only [WaitFrom, bind_apply, getNode_apply, setNode_apply, saveNode, act_eq, storedNode_def,
    discard_apply]
  cases hs : w₁.oracle.act w₁.trace (.save (storedNode w₁.node ip)) with
  | error e => exact ⟨_, rfl, .saveFailed e, rfl⟩
  | ok u =>
    simp only [resultOf, World.push_node]
    cases hp : parseAnsibleDriverInfo (storedNode w₁.node ip) "clean" with
    | error e => exact ⟨_, rfl, .saved, rfl⟩
    | ok d =>
      simp only [liftExcept_ok, pure_apply]
      obtain ⟨seg, hw, hseg⟩ := runPlaybook_run cfg lib d.1 (prepareExtraVars
        [((storedNode w₁.node ip).uuid, .str ip, d.2.1, (storedNode w₁.node ip).extra)]) d.2.2
        (.list [.str "wait"]) .none (({ w₁ with node := storedNode w₁.node ip }).push
          (.act (.save (storedNode w₁.node ip)) (.ok u)))
      have hwait : WaitRun w₁.node ip (.act (.save (storedNode w₁.node ip)) (.ok u) :: seg) := by
        rcases hseg with rfl | ⟨_, _, _, rfl⟩
        exacts [.saved, .waited ⟨_, _, _, rfl⟩ rfl]
      generalize runPlaybook cfg lib d.1 _ _ _ _ _ = r at hw ⊢
      cases r <;> simp only [worldAfter_ok, worldAfter_error] at hw ⊢ <;> rw [hw] <;>
        exact ⟨_, by simp, hwait, rfl⟩

/-! ## The clean steps -/

/-- A playbook given the inventory of the node at `ip` runs against `ip`. -/
theorem runPlaybook_runsAgainst (name : Value) (uuid : String) (ip : String) (user : Value)
    (extra : Dict) (key tags notags : Value) :
    Appends (·.runsAgainst ip)
      (runPlaybook cfg lib name (prepareExtraVars [(uuid, .str ip, user, extra)]) key tags notags) := by
  unfold runPlaybook execute
  refine .bind (.liftExcept _) fun _ => .bind (.liftExcept _) fun _ =>
    .tryCatch (.ask fun _ => ⟨_, _, _, rfl⟩) fun e => ?_
  cases e <;> exact .throw _

/-- Whatever it runs against, a clean step keeps the node. -/
theorem executeCleanStep_frame (step : Value) :
    Appends (fun _ => True) (AnsibleDeploy.executeCleanStep cfg lib step) := by
  unfold AnsibleDeploy.executeCleanStep AnsibleDeploy.cleaningAddress
  refine .bind .getNode fun _ => .bind (.liftExcept _) fun _ => .bind (.discard (.liftExcept _))
    fun _ => .bind ?_ fun _ => .bind (.liftExcept _) fun _ =>
    .tryCatch (.discard (runPlaybook_inBand cfg lib _ _ _ _ _).weaken) fun e => ?_
  · exact .bind .getNode fun _ => .ite (.liftExcept _) (.bind (getNodeIp_inBand cfg).weaken
      fun _ => .pure _)
  · cases e <;> first | exact .ask fun _ => trivial | exact .throw _

/-- What `execute_clean_step` does once it has the address: the playbook, and the cleaning
error handler if the playbook failed. -/
def cleanStepPlaybook (node : Node) (playbook user key step nodeAddress : Value) : M Unit := do
  let extraVars := prepareExtraVars [(node.uuid, nodeAddress, user, node.extra)]
  let stepTags ← liftExcept (do (← step.getItem "args").get (.str "tags") (.list []))
  tryCatch (discard (runPlaybook cfg lib playbook extraVars key stepTags)) fun
    | .instanceDeployFailure r => act (.cleaningErrorHandler (Exc.instanceDeployFailure r).text)
    | e => throw e

theorem executeCleanStep_eq (step : Value) :
    AnsibleDeploy.executeCleanStep cfg lib step = (do
      let node ← getNode
      let (playbook, user, key) ← liftExcept (parseAnsibleDriverInfo node "clean")
      discard (liftExcept (step.getItem "step"))
      AnsibleDeploy.cleaningAddress cfg >>= cleanStepPlaybook cfg lib node playbook user key step) := rfl

/-- Before the address a step only reads the node and the step: it raises where it stands, or
goes on to the address. -/
theorem executeCleanStep_cases (step : Value) (w : World) :
    (∃ e, AnsibleDeploy.executeCleanStep cfg lib step w = .error e w) ∨
      ∃ playbook user key, AnsibleDeploy.executeCleanStep cfg lib step w =
        (AnsibleDeploy.cleaningAddress cfg >>= cleanStepPlaybook cfg lib w.node playbook user key step) w := by
  rw [executeCleanStep_eq, bind_of_ok getNode_apply]
  cases parseAnsibleDriverInfo w.node "clean" with
  | error e => exact .inl ⟨e, bind_of_error rfl⟩
  | ok d =>
    obtain ⟨playbook, user, key⟩ := d
    rw [bind_of_ok (x := liftExcept (.ok _)) rfl]
    cases step.getItem "step" with
    | error e => exact .inl ⟨e, bind_of_error rfl⟩
    | ok _ => exact .inr ⟨_, _, _, bind_of_ok rfl⟩

/-- Given the address `ip`, the step's playbook runs against it. -/
theorem cleanStepPlaybook_runsAgainst (node : Node) (playbook user key step : Value) (ip : String) :
    Appends (·.runsAgainst ip) (cleanStepPlaybook cfg lib node playbook user key step (.str ip)) :=
  .bind (.liftExcept _) fun _ => .tryCatch (.discard (runPlaybook_runsAgainst cfg lib _ _ _ _ _ _ _ _))
    fun e => by cases e <;> first | exact .ask fun _ => trivial | exact .throw _

/-- In DHCP mode a step reads the stored address back. -/
theorem cleaningAddress_of_stored (hdhcp : cfg.useRamdiskCallback = false) {w : World} {ip : String}
    (hip : Dict.lookup w.node.driverInternalInfo cleaningIpKey = some (.str ip)) :
    AnsibleDeploy.cleaningAddress cfg w = .ok (.str ip) w := by
  simp only [cleaningIpKey] at hip
  simp [AnsibleDeploy.cleaningAddress, hdhcp, Dict.contains, Dict.getItem, hip, bind_apply]

/-- **A step runs against the stored address.** -/
theorem executeCleanStep_runsAgainst (hdhcp : cfg.useRamdiskCallback = false) (step : Value)
    {w : World} {ip : String} (hip : Dict.lookup w.node.driverInternalInfo cleaningIpKey = some (.str ip)) :
    AppendsAt (·.runsAgainst ip) (AnsibleDeploy.executeCleanStep cfg lib step) w := by
  unfold AppendsAt
  rcases executeCleanStep_cases cfg lib step w with ⟨e, he⟩ | ⟨playbook, user, key, he⟩ <;> rw [he]
  · exact ⟨[], by simp, by simp⟩
  · rw [bind_of_ok (cleaningAddress_of_stored cfg hdhcp hip)]
    exact cleanStepPlaybook_runsAgainst cfg lib _ _ _ _ _ _ w

theorem AppendsAt.handled {α : Type} {p : Event → Prop} {x : M α} {w : World}
    (hx : AppendsAt p x w) : AppendsAt p (handled x) w := by
  unfold AppendsAt
  rwa [handled_apply, worldAfter_ok]

theorem runSteps_apply (steps : List Value) (w : World) :
    runSteps cfg lib steps w = .ok () (worldAfter (runSteps cfg lib steps w)) := by
  induction steps generalizing w with
  | nil => rfl
  | cons step steps ih => rw [runSteps, bind_of_ok (handled_apply _ _)]; exact ih _

/-- The steps keep every property of the node that each step keeps. -/
theorem runSteps_appendsAt {p : Event → Prop} {I : Node → Prop}
    (hstep : ∀ step w, I w.node → AppendsAt p (AnsibleDeploy.executeCleanStep cfg lib step) w) :
    ∀ steps w, I w.node → AppendsAt p (runSteps cfg lib steps) w
  | [], w, _ => (Appends.pure ()).appendsAt w
  | step :: steps, w, hI => (hstep step w hI).handled.bind fun _ w₁ h =>
      runSteps_appendsAt hstep steps w₁ (by rwa [(hstep step w hI).handled.node_of_ok h])

/-! ## A failed playbook -/

/-- How a clean step ends once `ansible-playbook` answered `r`: what follows the run in the
trace, and the step's outcome. A success ends the step. A failed command, which `_run_playbook`
turns into `InstanceDeployFailure`, goes to the cleaning error handler, whose answer is the
step's. Any other failure propagates. -/
inductive PlaybookEnd : Except Exc (String × String) → List Event → Except Exc Unit → Prop
  | succeeded (out : String × String) : PlaybookEnd (.ok out) [] (.ok ())
  | handled {e : Exc} (m : String) (r : Except Exc Unit)
      (he : e = .processExecutionError m ∨ e = .instanceDeployFailure m) :
      PlaybookEnd (.error e) [.act (.cleaningErrorHandler ("Failed to deploy instance: " ++ m)) r] r
  | raised {e : Exc} (he : ∀ m, e ≠ .processExecutionError m ∧ e ≠ .instanceDeployFailure m) :
      PlaybookEnd (.error e) [] (.error e)

/-- Finding the address runs no playbook. -/
theorem cleaningAddress_noExecute :
    Appends (fun e => e.isExecute = false) (AnsibleDeploy.cleaningAddress cfg) := by
  unfold AnsibleDeploy.cleaningAddress getNodeIp
  exact .bind .getNode fun _ => .ite (.liftExcept _) (.bind (.ite (.bind .getNode fun _ => .liftExcept _)
    (getNodeIpDhcp_appends fun _ => rfl)) fun _ => .pure _)

/-- Given its address, a step raises before running its playbook, or runs it once and ends as
`PlaybookEnd` says. -/
theorem cleanStepPlaybook_end (node : Node) (playbook user key step addr : Value) (w : World) :
    ∃ seg, worldAfter (cleanStepPlaybook cfg lib node playbook user key step addr w) =
        { w with trace := w.trace ++ seg } ∧
      ((∀ e ∈ seg, e.isExecute = false) ∨ ∃ c args r post, seg = .execute c args r :: post ∧
        PlaybookEnd r post (outcome (cleanStepPlaybook cfg lib node playbook user key step addr w))) := by
  unfold cleanStepPlaybook
  simp only [bind_apply]
  cases (step.getItem "args" >>= fun v => v.get (.str "tags") (.list []) : Except Exc Value) with
  | error e => exact ⟨[], by simp, .inl (by simp)⟩
  | ok tags =>
    simp only [liftExcept_ok, pure_apply, tryCatch_apply, discard_apply]
    rcases runPlaybook_cases cfg lib playbook (prepareExtraVars [(node.uuid, addr, user, node.extra)]) key tags .none w
      with ⟨e, h⟩ | ⟨pb, args, h⟩ <;> rw [h]
    · cases e
      case instanceDeployFailure m =>
        obtain ⟨seg, hseg, hw⟩ := (Appends.ask fun _ => rfl : Appends (·.isExecute = false)
          (act (.cleaningErrorHandler (Exc.instanceDeployFailure m).text))) w
        exact ⟨seg, hw, .inl hseg⟩
      all_goals exact ⟨[], by rw [List.append_nil]; rfl, .inl (by simp)⟩
    · cases hr : w.oracle.execute w.trace args with
      | ok out => exact ⟨_, rfl, .inr ⟨_, _, _, [], rfl, .succeeded out⟩⟩
      | error e =>
        -- a failed command, or a failure already reported as such, goes to the handler
        cases e
        case processExecutionError m | instanceDeployFailure m =>
          simp only [act_eq, worldAfter_resultOf, outcome_resultOf]
          exact ⟨_, by simp only [World.push, List.append_assoc, List.singleton_append]; rfl,
            .inr ⟨_, _, _, _, rfl, .handled m _ (by simp)⟩⟩
        all_goals exact ⟨_, rfl, .inr ⟨_, _, _, [], rfl, .raised (by simp)⟩⟩

theorem PlaybookEnd.not_execute {r : Except Exc (String × String)} {post : List Event}
    {res : Except Exc Unit} (h : PlaybookEnd r post res) : ∀ e ∈ post, e.isExecute = false := by
  cases h <;> simp [Event.isExecute]

/-- **A failed playbook goes to the cleaning error handler.** For every step and every
behaviour of the collaborators, once `execute_clean_step` has run `ansible-playbook`, nothing
but the handler follows the run in the trace, and the run decides the step's outcome as
`PlaybookEnd` says: a failed command does not make the step raise, the handler gets
`Failed to deploy instance: ` and the command's error, and the step answers what the handler
answered. -/
theorem executeCleanStep_playbookEnd (step : Value) (w : World) :
    ∃ seg, (worldAfter (AnsibleDeploy.executeCleanStep cfg lib step w)).trace = w.trace ++ seg ∧
      ∀ c args r, Event.execute c args r ∈ seg → ∃ pre post, seg = pre ++ .execute c args r :: post ∧
        PlaybookEnd r post (outcome (AnsibleDeploy.executeCleanStep cfg lib step w)) := by
  have hno : ∀ {c args r} {s : List Event}, (∀ e ∈ s, e.isExecute = false) → Event.execute c args r ∉ s :=
    fun hs h => absurd (hs _ h) (by simp [Event.isExecute])
  rcases executeCleanStep_cases cfg lib step w with ⟨e, he⟩ | ⟨playbook, user, key, he⟩ <;> rw [he]
  · exact ⟨[], by simp, by simp⟩
  rw [bind_apply]
  obtain ⟨s₀, hs₀, hw₀⟩ := cleaningAddress_noExecute cfg w
  cases ha : AnsibleDeploy.cleaningAddress cfg w with
  | error e w₁ =>
    rw [ha, worldAfter_error] at hw₀
    exact ⟨s₀, by rw [hw₀]; rfl, fun c args r h => absurd h (hno hs₀)⟩
  | ok addr w₁ =>
    rw [ha, worldAfter_ok] at hw₀
    subst hw₀
    obtain ⟨s₁, hw₁, hend⟩ := cleanStepPlaybook_end cfg lib w.node playbook user key step addr
      { w with trace := w.trace ++ s₀ }
    refine ⟨s₀ ++ s₁, by simp [hw₁], fun c args r h => ?_⟩
    rcases List.mem_append.mp h with h | h
    · exact absurd h (hno hs₀)
    rcases hend with hs₁ | ⟨c', args', r', post, rfl, hend⟩
    · exact absurd h (hno hs₁)
    -- the step's one playbook run
    obtain ⟨rfl, rfl, rfl⟩ : c = c' ∧ args = args' ∧ r = r' := by
      rcases List.mem_cons.mp h with h | h
      exacts [Event.execute.inj h, absurd h (hno hend.not_execute)]
    exact ⟨s₀, post, rfl, hend⟩

/-! ## Tearing down -/

theorem tearDownCleaning_run (w : World) :
    ∃ seg, (∀ e ∈ seg, e.isExecute = false) ∧
      worldAfter (AnsibleDeploy.tearDownCleaning w) =
        { w with node := clearedNode w.node, trace := w.trace ++ seg } := by
  have hact : ∀ a, Appends (fun e => e.isExecute = false) (act a) := fun _ => .ask fun _ => rfl
  exact (Appends.bind (.bind .getNode fun _ => hact _) fun _ => .bind (hact _) fun _ =>
    .bind (hact _) fun _ => hact _) { w with node := clearedNode w.node }


/-! ## A cleaning cycle -/

theorem cleaningCycle_worldAfter (steps : List Value) (w : World) :
    worldAfter (cleaningCycle cfg lib steps w) = worldAfter (AnsibleDeploy.tearDownCleaning
      (worldAfter (runSteps cfg lib steps (worldAfter (AnsibleDeploy.prepareCleaning cfg lib w))))) := by
  rw [cleaningCycle, bind_of_ok (handled_apply _ _), bind_of_ok (runSteps_apply _ _ _ _), handled_apply,
    worldAfter_ok]

/-- A clean step of the `erase` tag. -/
def eraseStep : Value :=
  .dict [(.str "step", .str "erase_devices"), (.str "args", .dict [(.str "tags", .list [.str "erase"])])]

/-- A node back for cleaning whose `driver_internal_info` still holds the address an earlier
cycle stored; DHCP now answers another. -/
def recleaningWorld : World where
  oracle := Oracle.succeeding ["10.0.0.5"]
  node := { deployingWorld.node with
    driverInternalInfo := [(.str "ansible_cleaning_ip", .str "10.0.0.9")] }
  trace := []

end IronicAnsible
