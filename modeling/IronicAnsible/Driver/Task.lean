import IronicAnsible.Python.Value

/-!
# A task: the node, the state machine and the world outside the driver

Every method of the driver runs inside an ironic *task*, which holds the node record and
reaches the rest of the system through collaborators: power control, the network and boot
interfaces, the DHCP provider, `utils.execute` running `ansible-playbook`, the image
service, the database behind `node.save()`. None of them belongs to this repository, and
the driver has to be right whatever they do.

So the world is explicit. An `Oracle` answers every collaborator call, and its answer may
depend on everything that happened before: the trace of calls and their outcomes. Driver
code is a state transformer over `World` in `EStateM`, whose state survives an exception
as Python's objects do, and every statement about the driver is a statement over all
oracles.

Two things are not left to the oracle, because ironic fixes what they do: the in-memory
node record, which the driver reads and writes, and `task.process_event`, which moves the
node through the provisioning state machine or raises `InvalidState`.
-/

namespace IronicAnsible

/-- The power states of `ironic.common.states` a node can report or be asked for. -/
inductive PowerState where
  | powerOn
  | powerOff
  | reboot
  | error
  | noState
deriving Repr, DecidableEq

/-- The provisioning states the driver names, and any other. -/
inductive ProvState where
  | deploying
  | deployWait
  | deployDone
  | deployFail
  | active
  | adopting
  | deleted
  | cleanWait
  | other (name : String)
deriving Repr, DecidableEq, Inhabited

/-- The events the deploy path processes. -/
inductive ProvEvent where
  | wait
  | resume
  | done
  | fail
deriving Repr, DecidableEq

/-- The deploy part of ironic's provisioning state machine: `deploying -wait-> deploy wait
-resume-> deploying -done-> active`, and `fail` from either of the first two to `deploy
failed`. These states accept no other of the four events; the transitions out of the
other states are not modelled, as the driver processes no event there. -/
def provisionTransition : ProvState → ProvEvent → Option ProvState
  | .deploying, .wait => some .deployWait
  | .deployWait, .resume => some .deploying
  | .deploying, .done => some .active
  | .deploying, .fail => some .deployFail
  | .deployWait, .fail => some .deployFail
  | _, _ => none

/-- The options the driver reads from `CONF`, with their defaults. -/
structure Config where
  /-- `[ansible]ansible_extra_args`. -/
  ansibleExtraArgs : Option String := none
  /-- `[ansible]verbosity`, between 0 and 4 when set. -/
  verbosity : Option Nat := none
  /-- `[ansible]ansible_playbook_script`. -/
  ansiblePlaybookScript : String := "ansible-playbook"
  /-- `[ansible]playbooks_path`. -/
  playbooksPath : String
  /-- `[ansible]config_file_path`; empty for the system default. -/
  configFilePath : String
  /-- `[ansible]post_deploy_get_power_state_retries`. -/
  postDeployGetPowerStateRetries : Nat := 6
  /-- `[ansible]post_deploy_get_power_state_retry_interval`, in seconds. -/
  postDeployGetPowerStateRetryInterval : Nat := 5
  /-- `[ansible]extra_memory`, in MiB. -/
  extraMemory : Int := 10
  /-- `[ansible]use_ramdisk_callback`. -/
  useRamdiskCallback : Bool := true
  /-- `[DEFAULT]debug`. -/
  debug : Bool := false
  /-- `[DEFAULT]tempdir`. -/
  tempdir : String
  /-- `[deploy]erase_devices_priority`. -/
  eraseDevicesPriority : Option Int := none
  /-- `[deploy]erase_devices_metadata_priority`. -/
  eraseDevicesMetadataPriority : Option Int := none
  /-- `[deploy]power_off_after_deploy_failure`, read by `set_failed_state`. -/
  powerOffAfterDeployFailure : Bool := true

/-- The fields of the node record the driver reads or writes. -/
structure Node where
  uuid : String
  driver : String
  driverInfo : Dict
  driverInternalInfo : Dict
  instanceInfo : Dict
  properties : Dict
  extra : Dict
  provisionState : ProvState
  lastError : Option String
deriving Inhabited

/-- Functions of ironic, ironic-lib and the Python library that the driver calls and
whose result depends on their arguments only. The driver must be right for any of them. -/
structure Lib where
  /-- `deploy_utils.get_disk_label(node)`. -/
  getDiskLabel : Node → Value
  /-- `deploy_utils.get_boot_option(node)`. -/
  getBootOption : Node → String
  /-- `ironic_lib.utils.parse_root_device_hints`, failing with its `ValueError` text. -/
  parseRootDeviceHints : Value → Except String Dict
  /-- `urllib.parse.unquote`. -/
  unquote : String → String
  /-- `shlex.split`. -/
  shlexSplit : String → Except Exc (List String)
  /-- `json.dumps`. -/
  jsonDumps : Value → String
  /-- `deploy_utils.build_agent_options(node)`. -/
  buildAgentOptions : Node → Dict
  /-- `yaml.safe_load` of the file at a path, failing with the text of what it raised. -/
  loadYaml : String → Except String Value

/-- The arguments of one `_run_playbook` call, once its command line is built. -/
structure PlaybookCall where
  playbook : String
  extraVars : Dict
  key : Value
  tags : Value
  notags : Value

/-- A call to a collaborator that returns nothing or raises. -/
inductive Action where
  | nodePowerAction (state : PowerState)
  | nodeSetBootDevice (device : String) (persistent : Bool)
  | addProvisioningNetwork
  | removeProvisioningNetwork
  | configureTenantNetworks
  | unconfigureTenantNetworks
  | addCleaningNetwork
  | removeCleaningNetwork
  | prepareRamdisk (options : Dict)
  | cleanUpRamdisk
  | cleanDhcp
  | bootValidate
  | upgradeLock (purpose : String)
  | save (node : Node)
  | writeFile (path contents : String)
  | unlink (path : String)
  | cleaningErrorHandler (msg : String)

/-- One entry of the trace: a collaborator call and its outcome. -/
inductive Event where
  | act (a : Action) (r : Except Exc Unit)
  | getPowerState (r : Except Exc PowerState)
  | getIpAddresses (r : Except Exc (List String))
  /-- `utils.execute(*args)` for the playbook run `call`. -/
  | execute (call : PlaybookCall) (args : List String) (r : Except Exc (String × String))
  | downloadSize (source : Value) (r : Except Exc Int)
  | buildInstanceInfo (r : Except Exc Dict)
  | setNodeCleaningSteps (r : Except Exc Value)
  | processEvent (e : ProvEvent) (r : Except Exc Unit)
  | sleep (ms : Nat)

/-- How the world outside the driver answers each call, given everything before it. -/
structure Oracle where
  act : List Event → Action → Except Exc Unit
  getPowerState : List Event → Except Exc PowerState
  getIpAddresses : List Event → Except Exc (List String)
  execute : List Event → List String → Except Exc (String × String)
  downloadSize : List Event → Value → Except Exc Int
  buildInstanceInfo : List Event → Except Exc Dict
  /-- `manager_utils.set_node_cleaning_steps`: the steps it stores on the node. -/
  setNodeCleaningSteps : List Event → Except Exc Value

/-- A world in which every collaborator succeeds: the node reports itself off, DHCP knows
`addresses`, images are empty and ironic has no clean steps for the node. -/
def Oracle.succeeding (addresses : List String) : Oracle where
  act _ _ := .ok ()
  getPowerState _ := .ok .powerOff
  getIpAddresses _ := .ok addresses
  execute _ _ := .ok ("", "")
  downloadSize _ _ := .ok 0
  buildInstanceInfo _ := .ok []
  setNodeCleaningSteps _ := .ok (.list [])

/-- The state a task runs in. -/
structure World where
  oracle : Oracle
  node : Node
  trace : List Event

/-- Driver code: Python statements over the task, raising `Exc`. -/
abbrev M := EStateM Exc World

/-- The world after a run, whatever its outcome. -/
def worldAfter {α : Type} : EStateM.Result Exc World α → World
  | .ok _ w => w
  | .error _ w => w

/-- The outcome of a run, forgetting the world. -/
def outcome {α : Type} : EStateM.Result Exc World α → Except Exc α
  | .ok a _ => .ok a
  | .error e _ => .error e

namespace World

/-- Record an entry at the end of the trace. -/
def push (w : World) (e : Event) : World := { w with trace := w.trace ++ [e] }

@[simp] theorem push_trace (w : World) (e : Event) : (w.push e).trace = w.trace ++ [e] := rfl
@[simp] theorem push_node (w : World) (e : Event) : (w.push e).node = w.node := rfl
@[simp] theorem push_oracle (w : World) (e : Event) : (w.push e).oracle = w.oracle := rfl

end World

/-! ## Collaborator calls -/

/-- Ask the oracle, record the call with its outcome, then return or raise that outcome. -/
def ask {α : Type} (answer : Oracle → List Event → Except Exc α)
    (entry : Except Exc α → Event) : M α := fun w =>
  match answer w.oracle w.trace with
  | .ok a => .ok a (w.push (entry (.ok a)))
  | .error e => .error e (w.push (entry (.error e)))

/-- A call that returns nothing. -/
def act (a : Action) : M Unit := ask (fun o t => o.act t a) (.act a)

/-- `manager_utils.node_power_action(task, state)`. -/
def nodePowerAction (state : PowerState) : M Unit := act (.nodePowerAction state)

/-- `task.driver.power.get_power_state(task)`. -/
def getPowerState : M PowerState := ask (fun o => o.getPowerState) .getPowerState

/-- `DHCPFactory().provider.get_ip_addresses(task)`. -/
def getIpAddresses : M (List String) := ask (fun o => o.getIpAddresses) .getIpAddresses

/-- `utils.execute(*args)` for the playbook run `call`. -/
def execute (call : PlaybookCall) (args : List String) : M (String × String) :=
  ask (fun o t => o.execute t args) (.execute call args)

/-- `images.download_size(task.context, image_source)`. -/
def downloadSize (source : Value) : M Int :=
  ask (fun o t => o.downloadSize t source) (.downloadSize source)

/-- `deploy_utils.build_instance_info_for_deploy(task)`. -/
def buildInstanceInfoForDeploy : M Dict := ask (fun o => o.buildInstanceInfo) .buildInstanceInfo

/-- `time.sleep`, in milliseconds. -/
def sleep (ms : Nat) : M Unit := fun w => .ok () (w.push (.sleep ms))

/-- The node record of the task. -/
def getNode : M Node := fun w => .ok w.node w

/-- Replace the node record of the task. -/
def setNode (n : Node) : M Unit := fun w => .ok () { w with node := n }

/-- `node.save()`. -/
def saveNode : M Unit := do act (.save (← getNode))

/-- `task.process_event(event)`: take the transition, or raise `InvalidState`. -/
def processEvent (e : ProvEvent) : M Unit := fun w =>
  match provisionTransition w.node.provisionState e with
  | some s => .ok () ({ w with node := { w.node with provisionState := s } }.push
      (.processEvent e (.ok ())))
  | none => .error (.invalidState "no transition for this event from the node's state")
      (w.push (.processEvent e (.error (.invalidState
        "no transition for this event from the node's state"))))

/-- `manager_utils.set_node_cleaning_steps(task)`, which stores the steps it computes in
`driver_internal_info['clean_steps']`. -/
def setNodeCleaningSteps : M Unit := do
  let steps ← ask (fun o => o.setNodeCleaningSteps) .setNodeCleaningSteps
  let n ← getNode
  setNode { n with
    driverInternalInfo := Dict.setItem n.driverInternalInfo (.str "clean_steps") steps }

/-- Raise the exception of a failed pure computation. -/
def liftExcept {α : Type} : Except Exc α → M α
  | .ok a => pure a
  | .error e => throw e

/-! ## ironic's helpers -/

/-- `deploy_utils.check_for_missing_params(info, error_msg)`. -/
def checkForMissingParams (info : List (String × Value)) (errorMsg : String) : Except Exc Unit :=
  let missing := (info.filter fun p => !p.2.truthy).map fun p => Value.str p.1
  if missing.isEmpty then .ok ()
  else .error (.missingParameterValue (errorMsg ++ ". Missing are: " ++ (Value.list missing).pyRepr))

/-- `deploy_utils.set_failed_state(task, msg)`: the `fail` event (an `InvalidState` is
logged and dropped), a power-off whose failure is logged and dropped, and the error saved
on the node. Collecting the ramdisk's logs, which the driver never needs, is left out. -/
def setFailedState (cfg : Config) (msg : String) : M Unit := do
  tryCatch (processEvent .fail) fun
    | .invalidState _ => pure ()
    | e => throw e
  (if cfg.powerOffAfterDeployFailure then tryCatch (nodePowerAction .powerOff) fun _ => pure ()
    else pure () : M Unit)
  let n ← getNode
  setNode { n with lastError := some msg }
  saveNode

/-- `agent_base_vendor.log_and_raise_deployment_error(task, msg)`. -/
def logAndRaiseDeploymentError {α : Type} (cfg : Config) (msg : String) : M α := do
  setFailedState cfg msg
  throw (.instanceDeployFailure msg)

/-! ## What one call does -/

theorem ask_run {α : Type} (answer : Oracle → List Event → Except Exc α)
    (entry : Except Exc α → Event) (w : World) :
    ask answer entry w = match answer w.oracle w.trace with
      | .ok a => .ok a (w.push (entry (.ok a)))
      | .error e => .error e (w.push (entry (.error e))) := rfl

theorem processEvent_run (e : ProvEvent) (w : World) :
    processEvent e w = match provisionTransition w.node.provisionState e with
      | some s => .ok () ({ w with node := { w.node with provisionState := s } }.push
          (.processEvent e (.ok ())))
      | none => .error (.invalidState "no transition for this event from the node's state")
          (w.push (.processEvent e (.error (.invalidState
            "no transition for this event from the node's state")))) := rfl

end IronicAnsible
