import IronicAnsible.Proof.DeployVariables

/-!
# What the driver does to the node record, and where its playbooks run

A task holds its node exclusively, and the conductor calls the deploy interface in whatever
order the node's life takes: validation, preparation and deployment, the ramdisk's callback,
cleaning cycles, tearing down (`Call`, `runCalls`). Over every such run the driver writes the
node record only where the record is its own, and runs playbooks only for that node.

* `NodeFrame n n'` names what never changes: the uuid, the driver, `driver_info`, the
  properties, `extra`, and every key of `driver_internal_info` but the cleaning address
  `prepare_cleaning` stores and the clean steps ironic stores for it. Each write of the record
  is checked where it happens (`NodeFrame.instanceInfo`, `NodeFrame.setInternal`, ...).
* `InFrame n q x` is the footprint: from any node of the frame, `x` stays in it and every
  playbook it runs satisfies `q`. It is proved once per operation, composed along the `do`
  blocks, and lifted to whole runs (`runCalls_inFrame`).
* A playbook run is built in one way only: the playbook of an action from `driver_info`, the
  node's inventory at some address, and other variables. `CallAt` says what `q` asks of the
  runs at one address, and `Addressing` of the three addresses the driver uses: a DHCP answer,
  the host of the callback URL, and the stored cleaning address.

Two results follow by choosing `q`. **The record keeps its identity and every playbook run is
for the node the run started from** (`runCalls_nodeFrame`); and **in callback mode every
playbook runs against the host of the callback URL** (`runCalls_callback_heartbeat`).
-/

namespace IronicAnsible

/-! ## The frame -/

/-- The fields of the node record the driver never writes. Between `n` and `n'` only the
instance info, the provisioning state, the last error and, of `driver_internal_info`, the
stored cleaning address and the clean steps may differ. -/
structure NodeFrame (n n' : Node) : Prop where
  uuid : n'.uuid = n.uuid
  driver : n'.driver = n.driver
  driverInfo : n'.driverInfo = n.driverInfo
  properties : n'.properties = n.properties
  extra : n'.extra = n.extra
  internal : ∀ k, k ≠ cleaningIpKey → k ≠ .str "clean_steps" →
    Dict.lookup n'.driverInternalInfo k = Dict.lookup n.driverInternalInfo k

namespace NodeFrame

variable {n n₁ n₂ : Node}

theorem refl (n : Node) : NodeFrame n n := ⟨rfl, rfl, rfl, rfl, rfl, fun _ _ _ => rfl⟩

theorem trans (h₁ : NodeFrame n n₁) (h₂ : NodeFrame n₁ n₂) : NodeFrame n n₂ :=
  ⟨h₂.uuid.trans h₁.uuid, h₂.driver.trans h₁.driver, h₂.driverInfo.trans h₁.driverInfo,
    h₂.properties.trans h₁.properties, h₂.extra.trans h₁.extra,
    fun k hk hk' => (h₂.internal k hk hk').trans (h₁.internal k hk hk')⟩

/-- `_parse_ansible_driver_info` reads `driver_info` only. -/
theorem parseAnsibleDriverInfo_eq (h : NodeFrame n n₁) (action : String) :
    parseAnsibleDriverInfo n₁ action = parseAnsibleDriverInfo n action := by
  simp only [parseAnsibleDriverInfo, h.driverInfo]

/-- `_get_node_ip_heartbeat` reads `agent_url`, which the driver never writes. -/
theorem getNodeIpHeartbeat_eq (h : NodeFrame n n₁) :
    getNodeIpHeartbeat n₁ = getNodeIpHeartbeat n := by
  have : Dict.lookup n₁.driverInternalInfo (.str "agent_url") =
      Dict.lookup n.driverInternalInfo (.str "agent_url") :=
    h.internal _ (by simp [cleaningIpKey]) (by simp)
  simp only [getNodeIpHeartbeat, Dict.get, this]

/-! The writes of the driver, each within the frame. -/

theorem instanceInfo (h : NodeFrame n n₁) (i : Dict) :
    NodeFrame n { n₁ with instanceInfo := i } :=
  h.trans ⟨rfl, rfl, rfl, rfl, rfl, fun _ _ _ => rfl⟩

theorem provisionState (h : NodeFrame n n₁) (s : ProvState) :
    NodeFrame n { n₁ with provisionState := s } :=
  h.trans ⟨rfl, rfl, rfl, rfl, rfl, fun _ _ _ => rfl⟩

theorem lastError (h : NodeFrame n n₁) (msg : Option String) :
    NodeFrame n { n₁ with lastError := msg } :=
  h.trans ⟨rfl, rfl, rfl, rfl, rfl, fun _ _ _ => rfl⟩

theorem setInternal (h : NodeFrame n n₁) {k : String}
    (hk : k = "ansible_cleaning_ip" ∨ k = "clean_steps") (v : Value) :
    NodeFrame n
      { n₁ with driverInternalInfo := Dict.setItem n₁.driverInternalInfo (.str k) v } :=
  h.trans ⟨rfl, rfl, rfl, rfl, rfl, fun k' h₁ h₂ => Dict.lookup_setItem_ne _ _ _ (by
    rcases hk with rfl | rfl
    exacts [h₁, h₂])⟩

theorem popCleaningIp (h : NodeFrame n n₁) :
    NodeFrame n
      { n₁ with driverInternalInfo := (Dict.pop n₁.driverInternalInfo cleaningIpKey).2 } :=
  h.trans ⟨rfl, rfl, rfl, rfl, rfl, fun _ h₁ _ => Dict.lookup_erase_ne _ _ h₁⟩

end NodeFrame

/-! ## Footprints -/

/-- From any node within the frame of `n`, a run of `x` stays within it, and every playbook
it runs satisfies `q`. -/
def InFrame {α : Type} (n : Node) (q : PlaybookCall → Prop) (x : M α) : Prop :=
  ∀ w, NodeFrame n w.node → ∃ seg, (worldAfter (x w)).trace = w.trace ++ seg ∧
    (∀ c args r, Event.execute c args r ∈ seg → q c) ∧ NodeFrame n (worldAfter (x w)).node

namespace InFrame

variable {α β : Type} {n : Node} {q : PlaybookCall → Prop}

theorem of_appends {p : Event → Prop} {x : M α} (hx : Appends p x)
    (hp : ∀ c args r, p (.execute c args r) → q c) : InFrame n q x := fun w hw => by
  obtain ⟨seg, hs, h⟩ := hx w
  exact ⟨seg, by rw [h], fun c args r he => hp c args r (hs _ he), by rw [h]; exact hw⟩

/-- Code that keeps the node and runs no playbook. -/
theorem of_noExecute {x : M α} (hx : Appends (fun e => e.isExecute = false) x) : InFrame n q x :=
  of_appends hx fun _ _ _ h => absurd h (by simp [Event.isExecute])

/-- One run of `ansible-playbook`. -/
theorem execute {c : PlaybookCall} (args : List String) (hc : q c) : InFrame n q (execute c args) :=
  of_appends (Appends.ask (p := fun e => ∀ c' args' r, e = .execute c' args' r → q c')
    fun _ _ _ _ h => by cases h; exact hc) fun c args r h => h c args r rfl

/-- A run of `x >>= f`, knowing of `x`'s result what every run of `x` from within the frame
guarantees. -/
theorem bind_ok {x : M α} {f : α → M β} {P : α → Prop}
    (hP : ∀ w a w₁, NodeFrame n w.node → x w = .ok a w₁ → P a) (hx : InFrame n q x)
    (hf : ∀ a, P a → InFrame n q (f a)) : InFrame n q (x >>= f) := fun w hw => by
  obtain ⟨s₁, ht₁, hs₁, hn₁⟩ := hx w hw
  cases hxw : x w with
  | ok a w₁ =>
    rw [hxw, worldAfter_ok] at ht₁ hn₁
    obtain ⟨s₂, ht₂, hs₂, hn₂⟩ := hf a (hP w a w₁ hw hxw) w₁ hn₁
    refine ⟨s₁ ++ s₂, by rw [bind_of_ok hxw, ht₂, ht₁, List.append_assoc],
      fun c args r he => ?_, by rw [bind_of_ok hxw]; exact hn₂⟩
    rcases List.mem_append.mp he with he | he
    exacts [hs₁ c args r he, hs₂ c args r he]
  | error e w₁ =>
    rw [hxw, worldAfter_error] at ht₁ hn₁
    exact ⟨s₁, by rw [bind_of_error hxw, worldAfter_error, ht₁], hs₁,
      by rw [bind_of_error hxw]; exact hn₁⟩

theorem bind {x : M α} {f : α → M β} (hx : InFrame n q x) (hf : ∀ a, InFrame n q (f a)) :
    InFrame n q (x >>= f) :=
  bind_ok (P := fun _ => True) (fun _ _ _ _ _ => trivial) hx fun a _ => hf a

theorem tryCatch {x : M α} {h : Exc → M α} (hx : InFrame n q x)
    (hh : ∀ e, InFrame n q (h e)) :
    InFrame n q (tryCatch x h) := fun w hw => by
  obtain ⟨s₁, ht₁, hs₁, hn₁⟩ := hx w hw
  cases hxw : x w with
  | ok a w₁ =>
    rw [hxw] at ht₁ hn₁
    exact ⟨s₁, by rw [tryCatch_of_ok hxw, ht₁], hs₁,
      by rw [tryCatch_of_ok hxw]; exact hn₁⟩
  | error e w₁ =>
    rw [hxw, worldAfter_error] at ht₁ hn₁
    obtain ⟨s₂, ht₂, hs₂, hn₂⟩ := hh e w₁ hn₁
    refine ⟨s₁ ++ s₂, by rw [tryCatch_of_error hxw, ht₂, ht₁, List.append_assoc],
      fun c args r he => ?_, by rw [tryCatch_of_error hxw]; exact hn₂⟩
    rcases List.mem_append.mp he with he | he
    exacts [hs₁ c args r he, hs₂ c args r he]

/-- The node a run reads is within the frame. -/
theorem getNode_bind {f : Node → M β} (hf : ∀ m, NodeFrame n m → InFrame n q (f m)) :
    InFrame n q (getNode >>= f) :=
  bind_ok (fun _ _ _ hw h => by cases h; exact hw) (of_noExecute .getNode) hf

/-- A computed value is the one its computation returned. -/
theorem liftExcept_bind {r : Except Exc α} {f : α → M β}
    (hf : ∀ a, r = .ok a → InFrame n q (f a)) :
    InFrame n q (liftExcept r >>= f) :=
  bind_ok (fun _ _ _ _ h => by cases r <;> cases h; rfl) (of_noExecute (.liftExcept _)) hf

theorem pure_bind {a : α} {f : α → M β} (h : InFrame n q (f a)) :
    InFrame n q (pure a >>= f) := h

/-- Each branch, knowing which it is. -/
theorem ite {c : Prop} [Decidable c] {x y : M α} (hx : c → InFrame n q x)
    (hy : ¬c → InFrame n q y) :
    InFrame n q (if c then x else y) := by
  split
  exacts [hx ‹_›, hy ‹_›]

theorem discard {x : M α} (hx : InFrame n q x) : InFrame n q (discard x) := fun w hw => by
  obtain ⟨s, ht, hs, hn⟩ := hx w hw
  rw [discard_apply]
  cases hxw : x w <;> rw [hxw] at ht hn <;> exact ⟨s, ht, hs, hn⟩

theorem setNode {n₁ : Node} (h : NodeFrame n n₁) : InFrame n q (setNode n₁) :=
  fun w _ => ⟨[], by simp, by simp, by simpa using h⟩

theorem processEvent (e : ProvEvent) : InFrame n q (processEvent e) := fun w hw => by
  rw [processEvent_run]
  split
  · exact ⟨_, rfl, by simp, hw.provisionState _⟩
  · exact ⟨_, rfl, by simp, hw⟩

theorem handled {x : M α} (hx : InFrame n q x) : InFrame n q (handled x) :=
  .tryCatch (.discard hx) fun _ => of_noExecute (.pure _)

end InFrame

/-! ## Playbook runs at an address -/

/-- The inventory of one host, whatever other variables come with it. -/
theorem lookup_prepareExtraVars_nodes (host : Host) (vars : Dict)
    (hv : ∀ p ∈ vars, p.1 ≠ .str "nodes") :
    Dict.lookup (prepareExtraVars [host] vars) (.str "nodes") = some (.list [hostVar host]) := by
  unfold prepareExtraVars
  split
  · rw [Dict.lookup_update_of_ne _ _ hv]; simp
  · simp

/-- Every playbook run at `ip` that a method can make for a node of the frame of `n` satisfies
`q`: the playbook of one of the driver's actions, with `driver_info`'s login and key, an
inventory of that node at `ip`, and any other variables but the inventory. -/
def CallAt (cfg : Config) (n : Node) (ip : Value) (q : PlaybookCall → Prop) : Prop :=
  ∀ m, NodeFrame n m → ∀ action ∈ ["deploy", "shutdown", "clean"], ∀ name user key,
    parseAnsibleDriverInfo m action = .ok (name, user, key) → ∀ playbook,
    pathJoinValue cfg.playbooksPath name = .ok playbook → ∀ vars : Dict,
    (∀ p ∈ vars, p.1 ≠ .str "nodes") → ∀ tags notags,
    q ⟨playbook, prepareExtraVars [(m.uuid, ip, user, m.extra)] vars, key, tags, notags⟩

/-- What the playbook runs at each address the driver uses satisfy: an address a DHCP lookup
answered, the host of the callback URL, and the cleaning address `prepare_cleaning` stored. -/
structure Addressing (cfg : Config) (n : Node) (q : PlaybookCall → Prop) : Prop where
  dhcp : cfg.useRamdiskCallback = false → ∀ w ip w₁, NodeFrame n w.node →
    getNodeIpDhcp w = .ok ip w₁ → CallAt cfg n (.str ip) q
  heartbeat : ∀ ip, getNodeIpHeartbeat n = .ok ip → CallAt cfg n (.str ip) q
  stored : cfg.useRamdiskCallback = false → ∀ m a, NodeFrame n m →
    Dict.lookup m.driverInternalInfo cleaningIpKey = some a → CallAt cfg n a q

section
variable {cfg : Config} {lib : Lib} {n : Node} {q : PlaybookCall → Prop}

/-- `_prepare_variables` never sets the inventory's key. -/
theorem prepareVariables_keys {w w' : World} {vars : Dict}
    (h : prepareVariables cfg lib w = .ok vars w') : ∀ p ∈ vars, p.1 ≠ .str "nodes" := by
  unfold prepareVariables at h
  obtain ⟨_, _, -, h⟩ := bind_eq_ok h
  obtain ⟨_, _, -, h⟩ := bind_eq_ok h
  obtain ⟨_, _, -, h⟩ := bind_eq_ok h
  obtain ⟨_, _, -, h⟩ := bind_eq_ok h
  dsimp only at h
  split at h
  on_goal 1 =>
    obtain ⟨_, _, -, h⟩ := bind_eq_ok h
    obtain ⟨_, _, h₁, h⟩ := bind_eq_ok h
    cases h₁
  on_goal 2 =>
    obtain ⟨_, _, h₁, h⟩ := bind_eq_ok h
    cases h₁
  all_goals
    obtain ⟨_, _, -, h⟩ := bind_eq_ok h
    cases h
    split
    all_goals
      repeat refine Dict.forall_keys_setItem (P := (· ≠ .str "nodes")) _ ?_ ?_
      all_goals simp

theorem runPlaybook_inFrame {m : Node} (hm : NodeFrame n m) {action : String}
    (hact : action ∈ ["deploy", "shutdown", "clean"]) {name user key : Value}
    (hparse : parseAnsibleDriverInfo m action = .ok (name, user, key)) {ip : Value} {vars : Dict}
    (hv : ∀ p ∈ vars, p.1 ≠ .str "nodes") (hip : CallAt cfg n ip q) (tags notags : Value) :
    InFrame n q (runPlaybook cfg lib name (prepareExtraVars [(m.uuid, ip, user, m.extra)] vars) key
      tags notags) := by
  unfold runPlaybook
  refine .liftExcept_bind fun playbook hpb => .bind (.of_noExecute (.liftExcept _)) fun args =>
    .tryCatch (.execute args
      (hip m hm action hact name user key hparse playbook hpb vars hv tags notags))
      fun e => ?_
  · cases e <;> exact .of_noExecute (.throw _)


/-! ## The operations -/

theorem act_inFrame (a : Action) : InFrame n q (act a) := .of_noExecute (.ask fun _ => rfl)

theorem saveNode_inFrame : InFrame n q saveNode := .getNode_bind fun _ _ => act_inFrame _

theorem getNodeIpDhcp_inFrame : InFrame n q getNodeIpDhcp :=
  .of_noExecute (getNodeIpDhcp_appends fun _ => rfl)

/-- `_get_node_ip` answers an address of `Addressing`. -/
theorem getNodeIp_addressing (h : Addressing cfg n q) {w : World} {ip : String} {w₁ : World}
    (hw : NodeFrame n w.node) (hip : getNodeIp cfg w = .ok ip w₁) : CallAt cfg n (.str ip) q := by
  unfold getNodeIp at hip
  split at hip
  · obtain ⟨_, _, h₁, hip⟩ := bind_eq_ok hip
    cases h₁
    obtain ⟨hb, -⟩ := liftExcept_eq_ok hip
    exact h.heartbeat ip (by rw [← hw.getNodeIpHeartbeat_eq]; exact hb)
  · rename_i hcb
    exact h.dhcp (by simpa using hcb) w ip w₁ hw hip

/-- A DHCP answer in DHCP mode is an address of `Addressing`. -/
theorem getNodeIpDhcp_bind {β : Type} (h : Addressing cfg n q) (hcb : cfg.useRamdiskCallback = false)
    {f : String → M β} (hf : ∀ ip, CallAt cfg n (.str ip) q → InFrame n q (f ip)) :
    InFrame n q (getNodeIpDhcp >>= f) :=
  .bind_ok (fun w ip w₁ hw hip => h.dhcp hcb w ip w₁ hw hip) getNodeIpDhcp_inFrame hf

theorem getNodeIp_inFrame : InFrame n q (getNodeIp cfg) :=
  .ite (fun _ => .getNode_bind fun _ _ => .of_noExecute (.liftExcept _))
    fun _ => getNodeIpDhcp_inFrame

theorem waitUntilPoweredOff_inFrame : InFrame n q (waitUntilPoweredOff cfg) := by
  have hpoll : Appends (fun e => e.isExecute = false) getPowerState := .ask fun _ => rfl
  exact .of_noExecute (.retryAttempts _ _ hpoll rfl _ _)

theorem softPowerOff_inFrame (h : Addressing cfg n q) :
    InFrame n q (AnsibleDeploy.softPowerOff cfg lib) := by
  unfold AnsibleDeploy.softPowerOff
  refine .bind_ok (fun _ _ _ hw hip => getNodeIp_addressing h hw hip) getNodeIp_inFrame fun _ hip =>
    .getNode_bind fun m hm => .liftExcept_bind fun ⟨_, _, _⟩ hp => ?_
  exact .bind (.discard (runPlaybook_inFrame hm (by simp) hp (by simp) hip _ _)) fun _ =>
    .discard waitUntilPoweredOff_inFrame

theorem setFailedState_inFrame (msg : String) : InFrame n q (setFailedState cfg msg) := by
  unfold setFailedState
  refine .bind (.tryCatch (.processEvent _) fun e => ?_) fun _ =>
    .bind (.ite (fun _ => .tryCatch (act_inFrame _) fun _ => .of_noExecute (.pure _))
      fun _ => .of_noExecute (.pure _)) fun _ =>
    .getNode_bind fun _ hm => .bind (.setNode (hm.lastError _)) fun _ => saveNode_inFrame
  cases e <;> first | exact .of_noExecute (.pure _) | exact .of_noExecute (.throw _)

theorem finishNetworking_inFrame : InFrame n q AnsibleDeploy.finishNetworking :=
  .bind (act_inFrame _) fun _ => .bind (act_inFrame _) fun _ => act_inFrame _

theorem rebootAndFinishDeploy_inFrame (h : Addressing cfg n q) :
    InFrame n q (AnsibleDeploy.rebootAndFinishDeploy cfg lib) := by
  unfold AnsibleDeploy.rebootAndFinishDeploy logAndRaiseDeploymentError
  refine .getNode_bind fun _ _ => .bind (.tryCatch (.ite (fun _ => .bind (.tryCatch
    (softPowerOff_inFrame h) fun _ => act_inFrame _) fun _ => finishNetworking_inFrame)
    fun _ => .bind (act_inFrame _) fun _ => finishNetworking_inFrame) fun _ =>
    .bind (setFailedState_inFrame _) fun _ => .of_noExecute (.throw _)) fun _ => .processEvent _

theorem rebootToInstance_inFrame (h : Addressing cfg n q) :
    InFrame n q (AnsibleDeploy.rebootToInstance cfg lib) :=
  .bind (act_inFrame _) fun _ => .bind (rebootAndFinishDeploy_inFrame h) fun _ => act_inFrame _

theorem ansibleDeploy_inFrame {ip : String} (hip : CallAt cfg n (.str ip) q) :
    InFrame n q (ansibleDeploy cfg lib ip) := by
  unfold ansibleDeploy
  refine .getNode_bind fun m hm => .bind_ok (fun _ _ _ _ h => prepareVariables_keys h)
    (.of_noExecute (prepareVariables_appends (fun _ _ => rfl) fun _ _ => rfl)) fun vars hvars => ?_
  dsimp only
  split
  on_goal 2 => refine .liftExcept_bind fun pinfo hpi => ?_
  all_goals refine .pure_bind (.liftExcept_bind fun ⟨_, _, _⟩ hp => .discard
    (runPlaybook_inFrame hm (by simp) hp ?_ hip _ _))
  · exact hvars
  · obtain ⟨v, rfl, -⟩ := parsePartitioningInfo_eq_ok hpi
    exact Dict.forall_keys_update (P := (· ≠ .str "nodes")) hvars (by simp)

theorem deploy_inFrame (h : Addressing cfg n q) : InFrame n q (AnsibleDeploy.deploy cfg lib) := by
  unfold AnsibleDeploy.deploy nodePowerAction
  refine .bind (act_inFrame _) fun _ => .ite (fun _ => .of_noExecute (.pure _)) fun hcb =>
    .pure_bind (.getNode_bind fun _ _ => getNodeIpDhcp_bind h (by simpa using hcb)
      fun _ hip => .bind (.tryCatch
        (.bind (ansibleDeploy_inFrame hip) fun _ => .of_noExecute (.pure _)) fun _ =>
        .bind (setFailedState_inFrame _) fun _ => .of_noExecute (.pure _)) fun _ =>
      .ite (fun _ => .bind (rebootToInstance_inFrame h) fun _ => .of_noExecute (.pure _))
        fun _ => .of_noExecute (.pure _))

theorem continueDeploy_inFrame (h : Addressing cfg n q) :
    InFrame n q (AnsibleDeploy.continueDeploy cfg lib) := by
  unfold AnsibleDeploy.continueDeploy
  exact .bind (act_inFrame _) fun _ => .bind (.processEvent _) fun _ => .getNode_bind fun _ hm =>
    .liftExcept_bind fun _ hip => .bind (ansibleDeploy_inFrame (h.heartbeat _
      (by rw [← hm.getNodeIpHeartbeat_eq]; exact hip))) fun _ => rebootToInstance_inFrame h

theorem validate_inFrame : InFrame n q (AnsibleDeploy.validate lib) := by
  unfold AnsibleDeploy.validate
  refine .of_noExecute (.bind (.ask fun _ => rfl) fun _ => .bind .getNode fun _ => ?_)
  dsimp only
  split
  all_goals refine .bind ?_ fun _ => .bind (.liftExcept _) fun _ => .discard (.liftExcept _)
  exacts [.throw _, .pure _]

theorem tearDown_inFrame : InFrame n q AnsibleDeploy.tearDown :=
  .bind (act_inFrame _) fun _ => .bind (act_inFrame _) fun _ => .of_noExecute (.pure _)

theorem prepare_inFrame : InFrame n q (AnsibleDeploy.prepare lib) := by
  unfold AnsibleDeploy.prepare buildInstanceInfoForDeploy nodePowerAction
  refine .getNode_bind fun _ _ => ?_
  dsimp only
  split
  on_goal 1 => refine .bind (act_inFrame _) fun _ => .bind (act_inFrame _) fun _ => ?_
  on_goal 2 => refine .pure_bind ?_
  all_goals refine .ite (fun _ => ?_) fun _ => .of_noExecute (.pure _)
  all_goals
    exact .bind (.of_noExecute (.ask fun _ => rfl)) fun _ => .getNode_bind fun m hm =>
      .bind (.setNode (hm.instanceInfo _)) fun _ => .bind saveNode_inFrame fun _ =>
        .getNode_bind fun _ _ => act_inFrame _

theorem cleanUp_inFrame : InFrame n q (AnsibleDeploy.cleanUp cfg) :=
  .bind (act_inFrame _) fun _ => .bind (act_inFrame _) fun _ => .getNode_bind fun _ _ =>
    .tryCatch (act_inFrame _) fun _ => .of_noExecute (.pure _)

/-- The address of a clean step is one of `Addressing`. -/
theorem cleaningAddress_addressing (h : Addressing cfg n q) {w : World} {a : Value} {w₁ : World}
    (hw : NodeFrame n w.node) (ha : AnsibleDeploy.cleaningAddress cfg w = .ok a w₁) :
    CallAt cfg n a q := by
  unfold AnsibleDeploy.cleaningAddress at ha
  rw [bind_of_ok getNode_apply] at ha
  split at ha
  · rename_i hstored
    obtain ⟨hget, -⟩ := liftExcept_eq_ok ha
    simp only [Bool.and_eq_true, Bool.not_eq_true'] at hstored
    exact h.stored hstored.1 _ _ hw (Dict.getItem_eq_ok.mp hget)
  · obtain ⟨ip, _, hip, ha⟩ := bind_eq_ok ha
    cases ha
    exact getNodeIp_addressing h hw hip

theorem executeCleanStep_inFrame (h : Addressing cfg n q) (step : Value) :
    InFrame n q (AnsibleDeploy.executeCleanStep cfg lib step) := by
  unfold AnsibleDeploy.executeCleanStep
  refine .getNode_bind fun m hm => .liftExcept_bind fun ⟨_, _, _⟩ hp =>
    .bind (.of_noExecute (.discard (.liftExcept _))) fun _ =>
    .bind_ok (fun _ _ _ hw ha => cleaningAddress_addressing h hw ha)
      (.of_noExecute (cleaningAddress_noExecute cfg)) fun _ ha =>
    .bind (.of_noExecute (.liftExcept _)) fun _ =>
    .tryCatch (.discard (runPlaybook_inFrame hm (by simp) hp (by simp) ha _ _)) fun e => ?_
  cases e <;> first | exact act_inFrame _ | exact .of_noExecute (.throw _)

theorem setNodeCleaningSteps_inFrame : InFrame n q setNodeCleaningSteps :=
  .bind (.of_noExecute (.ask fun _ => rfl)) fun _ => .getNode_bind fun _ hm =>
    .setNode (hm.setInternal (.inr rfl) _)

theorem prepareCleaning_inFrame (h : Addressing cfg n q) :
    InFrame n q (AnsibleDeploy.prepareCleaning cfg lib) := by
  unfold AnsibleDeploy.prepareCleaning nodePowerAction
  dsimp only
  split
  · -- callback mode: the ramdisk is booted and will call back
    refine .bind setNodeCleaningSteps_inFrame fun _ => .getNode_bind fun _ _ =>
      .bind (.of_noExecute (.liftExcept _)) fun _ =>
        .ite (fun _ => .of_noExecute (.pure _)) fun _ => .pure_bind ?_
    exact .bind (act_inFrame _) fun _ => .getNode_bind fun _ _ => .bind (act_inFrame _) fun _ =>
      .bind (act_inFrame _) fun _ => .of_noExecute (.pure _)
  · -- DHCP mode: the address is stored and the `wait` playbook run
    rename_i hcb
    refine .pure_bind (.bind (act_inFrame _) fun _ => .getNode_bind fun _ _ => .bind (act_inFrame _)
      fun _ => .bind (act_inFrame _) fun _ => .pure_bind ?_)
    exact getNodeIpDhcp_bind h (by simpa using hcb) fun _ hip => .getNode_bind fun _ hm =>
      .bind (.setNode (hm.setInternal (.inl rfl) _)) fun _ => .bind saveNode_inFrame fun _ =>
        .getNode_bind fun _ hm' => .liftExcept_bind fun ⟨_, _, _⟩ hp =>
          .bind (.discard (runPlaybook_inFrame hm' (by simp) hp (by simp) hip _ _)) fun _ =>
            .of_noExecute (.pure _)

theorem tearDownCleaning_inFrame : InFrame n q AnsibleDeploy.tearDownCleaning :=
  .getNode_bind fun _ hm => .bind (.setNode hm.popCleaningIp) fun _ =>
    .bind saveNode_inFrame fun _ => .bind (act_inFrame _) fun _ =>
      .bind (act_inFrame _) fun _ => act_inFrame _

end

/-! ## Any run of the interface -/

/-- A call the conductor makes on the deploy interface, or an event it processes itself. -/
inductive Call where
  | validate
  | prepare
  | deploy
  | continueDeploy
  | tearDown
  | cleanUp
  | takeOver
  | prepareCleaning
  | executeCleanStep (step : Value)
  | tearDownCleaning
  | processEvent (e : ProvEvent)

/-- One call, the conductor handling what it raises. -/
def Call.run (cfg : Config) (lib : Lib) : Call → M Unit
  | .validate => handled (AnsibleDeploy.validate lib)
  | .prepare => handled (AnsibleDeploy.prepare lib)
  | .deploy => handled (AnsibleDeploy.deploy cfg lib)
  | .continueDeploy => handled (AnsibleDeploy.continueDeploy cfg lib)
  | .tearDown => handled AnsibleDeploy.tearDown
  | .cleanUp => handled (AnsibleDeploy.cleanUp cfg)
  | .takeOver => handled AnsibleDeploy.takeOver
  | .prepareCleaning => handled (AnsibleDeploy.prepareCleaning cfg lib)
  | .executeCleanStep step => handled (AnsibleDeploy.executeCleanStep cfg lib step)
  | .tearDownCleaning => handled AnsibleDeploy.tearDownCleaning
  | .processEvent e => handled (IronicAnsible.processEvent e)

/-- The calls, one after another. -/
def runCalls (cfg : Config) (lib : Lib) : List Call → M Unit
  | [] => pure ()
  | c :: cs => do c.run cfg lib; runCalls cfg lib cs

section
variable {cfg : Config} {lib : Lib} {n : Node} {q : PlaybookCall → Prop}

theorem Call.run_inFrame (h : Addressing cfg n q) : ∀ c : Call, InFrame n q (c.run cfg lib)
  | .validate => .handled validate_inFrame
  | .prepare => .handled prepare_inFrame
  | .deploy => .handled (deploy_inFrame h)
  | .continueDeploy => .handled (continueDeploy_inFrame h)
  | .tearDown => .handled tearDown_inFrame
  | .cleanUp => .handled cleanUp_inFrame
  | .takeOver => .handled (.of_noExecute (.pure _))
  | .prepareCleaning => .handled (prepareCleaning_inFrame h)
  | .executeCleanStep step => .handled (executeCleanStep_inFrame h step)
  | .tearDownCleaning => .handled tearDownCleaning_inFrame
  | .processEvent e => .handled (.processEvent e)

/-- **Runs.** A property of the playbook runs at every address the driver uses holds of every
playbook run of any run of calls, and the node stays within the frame. -/
theorem runCalls_inFrame (h : Addressing cfg n q) :
    ∀ calls : List Call, InFrame n q (runCalls cfg lib calls)
  | [] => .of_noExecute (.pure _)
  | c :: cs => .bind (Call.run_inFrame h c) fun _ => runCalls_inFrame h cs

end

/-! ## The node's own playbooks -/

/-- An `ansible-playbook` run for node `n`: the playbook `driver_info` names for one of the
driver's actions (else the default one), under `[ansible]playbooks_path`, with the key file
`driver_info` names, and an inventory of `n` alone, logging in as `driver_info` says. -/
def PlaybookFor (cfg : Config) (n : Node) (c : PlaybookCall) : Prop :=
  ∃ action ∈ ["deploy", "shutdown", "clean"], ∃ name user ip,
    parseAnsibleDriverInfo n action = .ok (name, user, c.key) ∧
    pathJoinValue cfg.playbooksPath name = .ok c.playbook ∧
    Dict.lookup c.extraVars (.str "nodes") = some (.list [hostVar (n.uuid, ip, user, n.extra)])

/-- Wherever it runs, a playbook run of a method is one for the node. -/
theorem callAt_playbookFor {cfg : Config} {n : Node} (ip : Value) :
    CallAt cfg n ip (PlaybookFor cfg n) :=
  fun m hm action hact name user key hp playbook hpb vars hv _ _ =>
    ⟨action, hact, name, user, ip, by rw [← hm.parseAnsibleDriverInfo_eq]; exact hp, hpb,
      by rw [lookup_prepareExtraVars_nodes _ _ hv, hm.uuid, hm.extra]⟩

theorem addressing_playbookFor {cfg : Config} {n : Node} : Addressing cfg n (PlaybookFor cfg n) :=
  ⟨fun _ _ _ _ _ _ => callAt_playbookFor _, fun _ _ => callAt_playbookFor _,
    fun _ _ _ _ _ => callAt_playbookFor _⟩

/-- A playbook run whose inventory is one host, at `ip`. -/
def HostAt (ip : String) (c : PlaybookCall) : Prop :=
  ∃ uuid user extra,
    Dict.lookup c.extraVars (.str "nodes") = some (.list [hostVar (uuid, .str ip, user, extra)])

/-- In callback mode the only address in use is the host of the callback URL. -/
theorem addressing_heartbeat {cfg : Config} {n : Node} (hcb : cfg.useRamdiskCallback = true) :
    Addressing cfg n fun c => ∃ ip, getNodeIpHeartbeat n = .ok ip ∧ HostAt ip c := by
  refine ⟨fun h => absurd hcb (by simp [h]), fun ip hip => ?_,
    fun h => absurd hcb (by simp [h])⟩
  exact fun m _ _ _ _ user _ _ _ _ _ hv _ _ =>
    ⟨ip, hip, m.uuid, user, m.extra, lookup_prepareExtraVars_nodes _ _ hv⟩

end IronicAnsible
