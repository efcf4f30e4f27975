import IronicAnsible.Driver.Playbook

/-!
# The variables of a deploy

What `_ansible_deploy` hands to the deploy playbook under `ironic`: the inventory of one
host, and the variables `_prepare_variables` and `_parse_partitioning_info` assemble from
the node's `instance_info` and `properties` — the image and the memory it needs, the config
drive, the root device hints and, for a partition image, the partition layout.
-/

namespace IronicAnsible

/-- `units.Mi`. -/
def mebibyte : Int := 1048576

/-- `_calculate_memory_req(task)`: the image size in whole MiB plus the configured margin. -/
def calculateMemoryReq (cfg : Config) : M Int := do
  let node ← getNode
  let imageSource ← liftExcept (Dict.getItem node.instanceInfo (.str "image_source"))
  let imageSize ← downloadSize imageSource
  pure (Int.fdiv imageSize mebibyte + cfg.extraMemory)

/-! ## The partition layout -/

/-- The 1 MiB `bios_grub` partition grub needs on a GPT disk. -/
def biosPartition : Value :=
  .dict [(.str "name", .str "bios"), (.str "size", .int 1), (.str "unit", .str "MiB"),
    (.str "flags", .dict [(.str "bios_grub", .str "yes")])]

/-- The ephemeral partition. -/
def ephemeralPartition (size format : Value) : Value :=
  .dict [(.str "name", .str "ephemeral"), (.str "size", size), (.str "unit", .str "MiB"),
    (.str "format", format)]

/-- The swap partition. -/
def swapPartition (size : Value) : Value :=
  .dict [(.str "name", .str "swap"), (.str "size", size), (.str "unit", .str "MiB"),
    (.str "format", .str "linux-swap")]

/-- The 64 MiB partition pre-created for the config drive. -/
def configdrivePartition : Value :=
  .dict [(.str "name", .str "configdrive"), (.str "size", .int 64), (.str "unit", .str "MiB"),
    (.str "format", .str "fat32")]

/-- The root partition, flagged bootable on an MS-DOS label. -/
def rootPartition (size label : Value) : Value :=
  .dict ([(.str "name", .str "root"), (.str "size", size), (.str "unit", .str "MiB")] ++
    if Value.pyEq label (.str "msdos") then [(.str "flags", .dict [(.str "boot", .str "yes")])]
    else [])

/-- The ephemeral part of `_parse_partitioning_info`: its entries of `partition_info` and
its partition, or nothing when `ephemeral_mb` is falsy. -/
def ephemeralInfo (info : Dict) (ephemeralMb : Value) : Except Exc (Dict × List Value) :=
  if ephemeralMb.truthy then do
    let format ← Dict.getItem info (.str "ephemeral_format")
    let preserve ← Dict.getItem info (.str "preserve_ephemeral")
    pure ([(.str "ephemeral_format", format),
        (.str "preserve_ephemeral", .str (if preserve.truthy then "yes" else "no"))],
      [ephemeralPartition ephemeralMb format])
  else pure ([], [])

/-- `_parse_partitioning_info(node)`. The root partition comes last, so that cloud-init can
grow it on first boot. -/
def parsePartitioningInfo (lib : Lib) (node : Node) : Except Exc Dict := do
  let info := node.instanceInfo
  let label := if (lib.getDiskLabel node).truthy then lib.getDiskLabel node else .str "msdos"
  let ephemeralMb ← Dict.getItem info (.str "ephemeral_mb")
  let (ephemeral, ephemeralParts) ← ephemeralInfo info ephemeralMb
  let swapMb ← Dict.getItem info (.str "swap_mb")
  let rootMb ← Dict.getItem info (.str "root_mb")
  let partitions :=
    (if Value.pyEq label (.str "gpt") then [biosPartition] else []) ++ ephemeralParts ++
    (if swapMb.truthy then [swapPartition swapMb] else []) ++
    (if (Dict.get info (.str "configdrive")).truthy then [configdrivePartition] else []) ++
    [rootPartition rootMb label]
  pure [(.str "partition_info",
    .dict ([(.str "label", label)] ++ ephemeral ++ [(.str "partitions", .list partitions)]))]

/-! ## Root device hints -/

/-- The loop of `_parse_root_device_hints` over the parsed hints: `== n` becomes the integer
`n`, `s== t` the unquoted `t`, another string an advanced hint, anything else itself. -/
def translateHints (lib : Lib) : Dict → Dict → Dict → Except Exc (Dict × Dict)
  | [], hints, advanced => .ok (hints, advanced)
  | (hint, .str s) :: rest, hints, advanced =>
    if startswith s "== " then do
      let n ← pyIntOrRaise (sliceFrom s 3)
      translateHints lib rest (Dict.setItem hints hint (.int n)) advanced
    else if startswith s "s== " then
      translateHints lib rest (Dict.setItem hints hint (.str (lib.unquote (sliceFrom s 4)))) advanced
    else translateHints lib rest hints (Dict.setItem advanced hint (.str s))
  | (hint, v) :: rest, hints, advanced => translateHints lib rest (Dict.setItem hints hint v) advanced

/-- `_parse_root_device_hints(node)`. -/
def parseRootDeviceHints (lib : Lib) (node : Node) : Except Exc Dict := do
  let rootDevice := Dict.get node.properties (.str "root_device")
  if !rootDevice.truthy then return []
  let parsedHints ← match lib.parseRootDeviceHints rootDevice with
    | .ok h => pure h
    | .error e => throw (.invalidParameterValue ("Failed to validate the root device hints " ++
        "for node " ++ node.uuid ++ ". Error: " ++ e))
  let (rootDeviceHints, advanced) ← translateHints lib parsedHints [] []
  if (Value.dict advanced).truthy then
    throw (.invalidParameterValue ("Ansible-deploy does not support advanced root device " ++
      "hints based on oslo.utils operators. Present advanced hints for node " ++ node.uuid ++
      " are " ++ (Value.dict advanced).pyRepr ++ "."))
  pure rootDeviceHints

/-! ## The variables -/

/-- The loop of `_prepare_variables` copying every `image_<k>` of `instance_info` to `k`. -/
def imageVars : Dict → Dict → Except Exc Dict
  | [], image => .ok image
  | (.str k, v) :: rest, image =>
    imageVars rest (if startswith k "image_" then Dict.setItem image (.str (sliceFrom k 6)) v else image)
  | (k, _) :: _, _ => .error (k.noAttribute "startswith")

/-- A checksum without an `<algo>:` prefix comes from Glance, which reports MD5. -/
def normalizeChecksum (image : Dict) : Except Exc Dict := do
  let checksum := Dict.get image (.str "checksum")
  if checksum.truthy then
    if ← checksum.contains (.str ":") then pure image
    else pure (Dict.setItem image (.str "checksum") (.str ("md5:" ++ checksum.pyStr)))
  else pure image

/-- The config drive: an HTTP(S) URL is passed on, anything else is written to a file. -/
def configdriveVars (cfg : Config) (node : Node) : Value → M Value
  | .str configdrive => do
    let parts ← liftExcept (UrlParse.urlsplit configdrive)
    if parts.scheme = "http" ∨ parts.scheme = "https" then
      pure (.dict [(.str "type", .str "url"), (.str "location", .str configdrive)])
    else
      let location := getConfigdrivePath cfg node.uuid
      act (.writeFile location configdrive)
      pure (.dict [(.str "type", .str "file"), (.str "location", .str location)])
  | v => throw (v.noAttribute "decode")

/-- `_prepare_variables(task)`. -/
def prepareVariables (cfg : Config) (lib : Lib) : M Dict := do
  let node ← getNode
  let iInfo := node.instanceInfo
  let image ← liftExcept (imageVars iInfo [])
  let memReq ← calculateMemoryReq cfg
  let image ← liftExcept (normalizeChecksum (Dict.setItem image (.str "mem_req") (.int memReq)))
  let vars : Dict := [(.str "image", .dict image)]
  let configdrive := Dict.get iInfo (.str "configdrive")
  let vars ← if configdrive.truthy then do
      pure (Dict.setItem vars (.str "configdrive") (← configdriveVars cfg node configdrive))
    else pure vars
  let rootDeviceHints ← liftExcept (parseRootDeviceHints lib node)
  pure (if (Value.dict rootDeviceHints).truthy then
    Dict.setItem vars (.str "root_device_hints") (.dict rootDeviceHints) else vars)

/-- `AnsibleDeploy._ansible_deploy(task, node_address)`. -/
def ansibleDeploy (cfg : Config) (lib : Lib) (nodeAddress : String) : M Unit := do
  let notags : Value := .list (if cfg.useRamdiskCallback then [.str "wait"] else [])
  let node ← getNode
  let vars ← prepareVariables cfg lib
  let vars ← if (Dict.get node.driverInternalInfo (.str "is_whole_disk_image")).truthy then
      pure vars
    else do pure (Dict.update vars (← liftExcept (parsePartitioningInfo lib node)))
  let (playbook, user, key) ← liftExcept (parseAnsibleDriverInfo node)
  let extraVars := prepareExtraVars [(node.uuid, .str nodeAddress, user, node.extra)] vars
  discard (runPlaybook cfg lib playbook extraVars key .none notags)

end IronicAnsible
