import IronicAnsible.Driver.Task
import IronicAnsible.Python.Builtins
import IronicAnsible.Python.UrlParse

/-!
# Reaching the node and running a playbook

The module-level helpers of `deploy.py` that every operation shares: which playbook, user
and key to use (`_parse_ansible_driver_info`), where the node is on the network
(`_get_node_ip_dhcp`, `_get_node_ip_heartbeat`, `_get_node_ip`), the inventory passed to
Ansible (`_prepare_extra_vars`) and the command line that runs it (`_run_playbook`).
-/

namespace IronicAnsible

/-- `DEFAULT_PLAYBOOKS`. -/
def defaultPlaybooks : Dict :=
  [(.str "deploy", .str "deploy.yaml"), (.str "shutdown", .str "shutdown.yaml"),
    (.str "clean", .str "clean.yaml")]

/-- `DEFAULT_CLEAN_STEPS`. -/
def defaultCleanSteps : String := "clean_steps.yaml"

/-- `INVENTORY_FILE`. -/
def inventoryFile (cfg : Config) : String := pathJoin cfg.playbooksPath "inventory"

/-- `_parse_ansible_driver_info(node, action)`: the playbook, the login user and the key. -/
def parseAnsibleDriverInfo (node : Node) (action : String := "deploy") :
    Except Exc (Value × Value × Value) :=
  let user := Dict.get node.driverInfo (.str "ansible_deploy_username") (.str "ansible")
  let key := Dict.get node.driverInfo (.str "ansible_deploy_key_file")
  let playbook := Dict.get node.driverInfo (.str ("ansible_" ++ action ++ "_playbook"))
    (Dict.get defaultPlaybooks (.str action))
  if playbook.truthy then .ok (playbook, user, key) else .error (.playbookNotFound action)

/-- `_get_configdrive_path(basename)`. -/
def getConfigdrivePath (cfg : Config) (basename : String) : String :=
  pathJoin cfg.tempdir (basename ++ ".cndrive")

/-- `_get_node_ip_dhcp(task)`: the one address the DHCP provider knows for the node. -/
def getNodeIpDhcp : M String := do
  let ipAddrs ← getIpAddresses
  let node ← getNode
  match ipAddrs with
  | [] => throw (.failedToGetIPAddressOnPort
      ("Failed to get IP address for any port on node " ++ node.uuid ++ "."))
  | [ip] => pure ip
  | _ => throw (.instanceDeployFailure
      "Ansible driver does not support multiple IP addresses during deploy or cleaning")

/-- `_get_node_ip_heartbeat(task)`: the network location of the recorded callback URL,
cut at its first `:`. A URL that is not a string is not parsed: a falsy one yields bytes,
which `split(':')` refuses, and any other has no `decode`. -/
def getNodeIpHeartbeat (node : Node) : Except Exc String :=
  match Dict.get node.driverInternalInfo (.str "agent_url") (.str "") with
  | .str url => do
      let parts ← UrlParse.urlsplit url
      pure (String.mk (parts.netloc.toList.takeWhile (· != ':')))
  | v => if v.truthy then .error (v.noAttribute "decode")
      else .error (.typeError "a bytes-like object is required, not 'str'")

/-- `_get_node_ip(task)`: the callback URL in callback mode, DHCP otherwise. -/
def getNodeIp (cfg : Config) : M String :=
  if cfg.useRamdiskCallback then do liftExcept (getNodeIpHeartbeat (← getNode))
  else getNodeIpDhcp

/-- One host of the inventory: uuid, address, login user and the node's `extra`. -/
abbrev Host := String × Value × Value × Dict

/-- The inventory entry of a host, `dict(name=..., ip=..., user=..., extra=...)`. -/
def hostVar : Host → Value
  | (uuid, ip, user, extra) =>
    .dict [(.str "name", .str uuid), (.str "ip", ip), (.str "user", user),
      (.str "extra", .dict extra)]

/-- `_prepare_extra_vars(host_list, variables)`, with `vars` for `variables` (a keyword of
Lean) and `[]` for an absent one. -/
def prepareExtraVars (hostList : List Host) (vars : Dict := []) : Dict :=
  let extraVars : Dict := [(.str "nodes", .list (hostList.map hostVar))]
  if (Value.dict vars).truthy then Dict.update extraVars vars else extraVars

/-- The command line `_run_playbook` builds for a playbook at path `playbook`. -/
def playbookArgs (cfg : Config) (lib : Lib) (playbook : String) (extraVars : Dict)
    (key tags notags : Value) : Except Exc (List String) := do
  let args := [cfg.ansiblePlaybookScript, playbook, "-i", inventoryFile cfg,
    "-e", lib.jsonDumps (.dict [(.str "ironic", .dict extraVars)])]
  let args := if cfg.configFilePath.isEmpty then args
    else ["env", "ANSIBLE_CONFIG=" ++ cfg.configFilePath] ++ args
  let args ← if tags.truthy then do pure (args ++ ["--tags=" ++ (← strJoin "," tags)])
    else pure args
  let args ← if notags.truthy then do pure (args ++ ["--skip-tags=" ++ (← strJoin "," notags)])
    else pure args
  let args := if key.truthy then args ++ ["--private-key=" ++ key.pyStr] else args
  let verbosity := match cfg.verbosity with
    | none => if cfg.debug then 4 else 0
    | some v => v
  let args := if verbosity = 0 then args
    else args ++ ["-" ++ String.mk (List.replicate verbosity 'v')]
  match cfg.ansibleExtraArgs with
  | some extra => if extra.isEmpty then pure args else do pure (args ++ (← lib.shlexSplit extra))
  | none => pure args

/-- `_run_playbook(name, extra_vars, key, tags, notags)`. A failed `ansible-playbook`
becomes `InstanceDeployFailure`; anything else `utils.execute` raises passes through. -/
def runPlaybook (cfg : Config) (lib : Lib) (name : Value) (extraVars : Dict) (key : Value)
    (tags notags : Value := .none) : M (String × String) := do
  let playbook ← liftExcept (pathJoinValue cfg.playbooksPath name)
  let args ← liftExcept (playbookArgs cfg lib playbook extraVars key tags notags)
  tryCatch (execute ⟨playbook, extraVars, key, tags, notags⟩ args) fun
    | .processExecutionError msg => throw (.instanceDeployFailure msg)
    | e => throw e

end IronicAnsible
