import IronicAnsible.Driver.Variables
import IronicAnsible.Driver.CleanSteps
import IronicAnsible.Driver.Retry

/-!
# The `AnsibleDeploy` interface

The methods the conductor calls on the deploy interface. Deploying reboots the node into
the ramdisk and either waits for its callback (`continue_deploy` resumes from there) or, in
DHCP mode, runs the deploy playbook at once. Either way `reboot_to_instance` ends it: the
node is switched to boot from disk, powered off — in-band through the shutdown playbook
unless the node forces an out-of-band reboot, out-of-band when the in-band path fails —
moved from the provisioning to the tenant network, powered on, and the `done` event is
processed.

Cleaning boots the ramdisk the same way; in DHCP mode `prepare_cleaning` stores the node's
address in `driver_internal_info['ansible_cleaning_ip']` for the steps that follow, and
`tear_down_cleaning` removes it.

`require_exclusive_lock` is taken to hold: the conductor calls `deploy` and `tear_down`
with the exclusive lock, and checking it changes nothing else.
-/

namespace IronicAnsible.AnsibleDeploy

variable (cfg : Config) (lib : Lib)

/-- `validate(task)`. -/
def validate : M Unit := do
  act .bootValidate
  let node ← getNode
  let iwdi := Dict.get node.driverInternalInfo (.str "is_whole_disk_image")
  if !iwdi.truthy && lib.getBootOption node == "netboot" then
    throw (.invalidParameterValue ("Node " ++ node.uuid ++ " is configured to use the " ++
      node.driver ++ " driver which does not support netboot."))
  liftExcept (checkForMissingParams
    [("instance_info.image_source", Dict.get node.instanceInfo (.str "image_source"))]
    ("Node " ++ node.uuid ++ " failed to validate deploy image info. Some parameters were missing"))
  discard (liftExcept (parseRootDeviceHints lib node))

/-! ## Finishing a deploy -/

/-- The in-band half of `reboot_and_finish_deploy`: the shutdown playbook, then polling
until the node reports itself off. -/
def softPowerOff : M Unit := do
  let nodeAddress ← getNodeIp cfg
  let node ← getNode
  let (playbook, user, key) ← liftExcept (parseAnsibleDriverInfo node "shutdown")
  let extraVars := prepareExtraVars [(node.uuid, .str nodeAddress, user, node.extra)]
  discard (runPlaybook cfg lib playbook extraVars key)
  discard (waitUntilPoweredOff cfg)

/-- What `reboot_and_finish_deploy` does once the node is off: leave the provisioning
network, join the tenant networks, power on. -/
def finishNetworking : M Unit := do
  act .removeProvisioningNetwork
  act .configureTenantNetworks
  nodePowerAction .powerOn

/-- `reboot_and_finish_deploy(task)`. A failure of the in-band power-off is logged and
replaced by an out-of-band one: the deploy playbook flushed the disks, so cutting the power
is safe. Any other failure fails the deployment. -/
def rebootAndFinishDeploy : M Unit := do
  let node ← getNode
  let oobPowerOff :=
    boolFromString (Dict.get node.driverInfo (.str "deploy_forces_oob_reboot") (.bool false))
  tryCatch (do
      if !oobPowerOff then
        tryCatch (softPowerOff cfg lib) fun _ => nodePowerAction .powerOff
      else
        nodePowerAction .powerOff
      finishNetworking)
    fun e => logAndRaiseDeploymentError cfg
      ("Error rebooting node " ++ node.uuid ++ " after deploy. Error: " ++ e.text)
  processEvent .done

/-- `reboot_to_instance(task)`. -/
def rebootToInstance : M Unit := do
  act (.nodeSetBootDevice "disk" true)
  rebootAndFinishDeploy cfg lib
  act .cleanUpRamdisk

/-! ## Deploying -/

/-- `deploy(task)`: `DEPLOYWAIT` in callback mode; in DHCP mode the whole deploy, then
`DEPLOYDONE`, or `None` once a failed deploy playbook has failed the node. -/
def deploy : M (Option ProvState) := do
  nodePowerAction .reboot
  if cfg.useRamdiskCallback then return some .deployWait
  let node ← getNode
  let ipAddr ← getNodeIpDhcp
  let deployed ← tryCatch (do ansibleDeploy cfg lib ipAddr; pure true) fun e => do
    setFailedState cfg ("Deploy failed for node " ++ node.uuid ++ ": Error: " ++ e.text)
    pure false
  if deployed then
    rebootToInstance cfg lib
    return some .deployDone
  else return none

/-- `continue_deploy(task)`, called from heartbeat processing in callback mode. -/
def continueDeploy : M Unit := do
  act (.upgradeLock "deploy")
  processEvent .resume
  let nodeAddress ← liftExcept (getNodeIpHeartbeat (← getNode))
  ansibleDeploy cfg lib nodeAddress
  rebootToInstance cfg lib

/-- `tear_down(task)`. -/
def tearDown : M ProvState := do
  nodePowerAction .powerOff
  act .unconfigureTenantNetworks
  pure .deleted

/-- `prepare(task)`. -/
def prepare : M Unit := do
  let node ← getNode
  if node.provisionState = .deploying then
    nodePowerAction .powerOff
    act .addProvisioningNetwork
  if node.provisionState ≠ .active ∧ node.provisionState ≠ .adopting then
    let instanceInfo ← buildInstanceInfoForDeploy
    setNode { (← getNode) with instanceInfo := instanceInfo }
    saveNode
    act (.prepareRamdisk (lib.buildAgentOptions (← getNode)))

/-- `clean_up(task)`; failing to remove the config drive file is not an error. -/
def cleanUp : M Unit := do
  act .cleanUpRamdisk
  act .cleanDhcp
  let node ← getNode
  tryCatch (act (.unlink (getConfigdrivePath cfg node.uuid))) fun _ => pure ()

/-- `take_over(task)` only logs that the driver cannot take a node over. -/
def takeOver : M Unit := pure ()

/-! ## Cleaning -/

/-- A priority option as the value the override map holds. -/
def priorityValue : Option Int → Value
  | some n => .int n
  | none => .none

/-- `get_clean_steps(task)`: the `deploy` steps of the file, the erase priorities of
`[deploy]` overriding the declared ones. -/
def getCleanSteps (node : Node) : Except Exc (List CleanStep) :=
  IronicAnsible.getCleanSteps cfg lib node (some "deploy")
    [(.str "erase_devices", priorityValue cfg.eraseDevicesPriority),
      (.str "erase_devices_metadata", priorityValue cfg.eraseDevicesMetadataPriority)]

/-- The address a clean step runs against: the one `prepare_cleaning` stored in DHCP mode,
else a fresh lookup. -/
def cleaningAddress : M Value := do
  let node ← getNode
  if !cfg.useRamdiskCallback && Dict.contains node.driverInternalInfo (.str "ansible_cleaning_ip")
  then liftExcept (Dict.getItem node.driverInternalInfo (.str "ansible_cleaning_ip"))
  else do pure (.str (← getNodeIp cfg))

/-- `execute_clean_step(task, step)`. A failed playbook goes to the cleaning error handler;
what happens next is the conductor's business. -/
def executeCleanStep (step : Value) : M Unit := do
  let node ← getNode
  let (playbook, user, key) ← liftExcept (parseAnsibleDriverInfo node "clean")
  discard (liftExcept (step.getItem "step"))
  let nodeAddress ← cleaningAddress cfg
  let extraVars := prepareExtraVars [(node.uuid, nodeAddress, user, node.extra)]
  let stepTags ← liftExcept (do (← step.getItem "args").get (.str "tags") (.list []))
  tryCatch (discard (runPlaybook cfg lib playbook extraVars key stepTags)) fun
    | .instanceDeployFailure r => act (.cleaningErrorHandler (Exc.instanceDeployFailure r).text)
    | e => throw e

/-- `prepare_cleaning(task)`: `None` when callback mode has no steps to run, `CLEANWAIT`
in callback mode, otherwise `None` once the ramdisk answered the `wait` playbook. -/
def prepareCleaning : M (Option ProvState) := do
  let useCallback := cfg.useRamdiskCallback
  if useCallback then
    setNodeCleaningSteps
    let steps ← liftExcept (Dict.getItem (← getNode).driverInternalInfo (.str "clean_steps"))
    if !steps.truthy then return none
  act .addCleaningNetwork
  act (.prepareRamdisk (lib.buildAgentOptions (← getNode)))
  nodePowerAction .reboot
  if useCallback then return some .cleanWait
  let ipAddr ← getNodeIpDhcp
  let node ← getNode
  setNode { node with
    driverInternalInfo :=
      Dict.setItem node.driverInternalInfo (.str "ansible_cleaning_ip") (.str ipAddr) }
  saveNode
  let node ← getNode
  let (playbook, user, key) ← liftExcept (parseAnsibleDriverInfo node "clean")
  let extraVars := prepareExtraVars [(node.uuid, .str ipAddr, user, node.extra)]
  discard (runPlaybook cfg lib playbook extraVars key (.list [.str "wait"]))
  return none

/-- `tear_down_cleaning(task)`. -/
def tearDownCleaning : M Unit := do
  let node ← getNode
  setNode { node with
    driverInternalInfo := (Dict.pop node.driverInternalInfo (.str "ansible_cleaning_ip")).2 }
  saveNode
  nodePowerAction .powerOff
  act .cleanUpRamdisk
  act .removeCleaningNetwork

end IronicAnsible.AnsibleDeploy
