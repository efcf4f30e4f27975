import Mathlib.Data.String.Basic
import IronicAnsible.Proof.Cleaning

/-!
# The variables of a deploy

`_ansible_deploy` hands the deploy playbook one tree of variables under `ironic`:
the inventory of the node, the image and the memory the ramdisk needs to hold it, the config
drive, the root device hints and, for a partition image, the partition layout. Each part
comes from a different function, and they meet in two `dict.update`s.

`DeployVars` describes the tree part by part. **Every playbook run of a deploy gets such a
tree** (`ansibleDeploy_vars`): the five top-level keys and no other, the inventory never
overwritten, every `image_<k>` under `k`, the config drive, the hints and the partition
layout exactly when the node asks for them. One detail differs from a first reading of the
code: a checksum without `:` gains `md5:` only when it is non-empty; an empty one is passed
on as it is (`ansibleDeploy_empty_checksum`).
-/

namespace IronicAnsible

/-! ## The image -/

/-- The loop of `_prepare_variables` leaves every `image_<k>` of `instance_info` under `k`,
over what was there. -/
theorem lookup_imageVars {iInfo acc image : Dict} (hd : Dict.DistinctKeys iInfo)
    (h : imageVars iInfo acc = .ok image) (k : String) :
    Dict.lookup image (.str k) =
      (Dict.lookup iInfo (.str ("image_" ++ k))).or (Dict.lookup acc (.str k)) := by
  induction iInfo generalizing acc with
  | nil => cases h; rfl
  | cons p rest ih =>
    obtain ⟨key, v⟩ := p
    obtain ⟨hfresh, hd'⟩ := List.pairwise_cons.mp hd
    cases key
    case str key =>
      have hrest : ∀ q ∈ rest, q.1 ≠ .str key := fun q hq he => by
        simpa [he] using hfresh q hq
      by_cases hs : startswith key "image_"
      · obtain ⟨t, rfl⟩ := startswith_iff.mp hs
        rw [imageVars, if_pos hs, show (6 : Nat) = "image_".length from rfl, sliceFrom_append] at h
        rw [ih hd' h]
        by_cases hk : k = t
        · subst hk
          simp [Dict.lookup_eq_none hrest, Dict.lookup_setItem_self]
        · have hne : "image_" ++ t ≠ "image_" ++ k := fun he => hk (append_left_cancel he).symm
          simp [Dict.lookup_setItem_ne _ _ _ (Value.str.inj.mt hk), hne]
      · rw [imageVars, if_neg hs] at h
        rw [ih hd' h]
        have hne : key ≠ "image_" ++ k := fun he => hs (he ▸ startswith_iff.mpr ⟨k, rfl⟩)
        simp [hne]
    all_goals cases h

/-- The checksum the deploy passes on, in the claim's words, corrected: a non-empty one without
`:` is taken for Glance's MD5 and gains `md5:`; an empty one, or one naming its algorithm,
passes unchanged, and so does any falsy value. -/
def passedChecksum : Value → Value
  | .str s => if s ≠ "" ∧ ':' ∉ s.toList then .str ("md5:" ++ s) else .str s
  | v => v

theorem passedChecksum_of_not_truthy {c : Value} (h : c.truthy = false) : passedChecksum c = c := by
  cases c <;> simp_all [passedChecksum, Value.truthy, String.isEmpty_iff]

/-- Normalising the checksum touches no other key. -/
theorem lookup_normalizeChecksum {image image' : Dict} (h : normalizeChecksum image = .ok image')
    (hck : ∀ c, Dict.lookup image (.str "checksum") = some c → c.truthy → ∃ s, c = .str s)
    (k : String) :
    Dict.lookup image' (.str k) = if k = "checksum"
      then (Dict.lookup image (.str "checksum")).map passedChecksum else Dict.lookup image (.str k) := by
  unfold normalizeChecksum at h
  cases hc : Dict.lookup image (.str "checksum") with
  | none =>
    simp only [Dict.get, hc, Option.getD_none, Value.truthy] at h
    cases h
    split_ifs with hk <;> simp [hk, hc]
  | some c =>
    simp only [Dict.get, hc, Option.getD_some] at h
    cases ht : c.truthy
    · simp only [ht] at h
      cases h
      split_ifs with hk <;> simp [hk, hc, passedChecksum_of_not_truthy ht]
    · obtain ⟨s, rfl⟩ := hck _ hc ht
      simp only [ht, if_true, Value.contains_str_char (show ":".toList = [':'] from rfl)] at h
      have hs : s ≠ "" := by rintro rfl; exact absurd ht (by decide)
      by_cases hcol : ':' ∈ s.data
      · simp [hcol] at h
        cases h
        split_ifs with hk <;> simp [hk, hc, passedChecksum, hcol]
      · simp [hcol] at h
        cases h
        split_ifs with hk
        · subst hk
          simp [Dict.lookup_setItem_self, passedChecksum, hs, hcol, Value.pyStr]
        · simp [Dict.lookup_setItem_ne _ _ _ (Value.str.inj.mt hk)]

/-- **The `image` variable, as the claim describes it** (with the checksum corrected): every
`image_<k>` of `instance_info` under `k`, but for the memory the ramdisk needs and the
checksum. -/
structure ImageVars (cfg : Config) (iInfo : Dict) (size : Int) (image : Dict) : Prop where
  /-- Every other `image_<k>` is copied. -/
  copied : ∀ k, k ≠ "mem_req" → k ≠ "checksum" →
    Dict.lookup image (.str k) = Dict.lookup iInfo (.str ("image_" ++ k))
  /-- The image size in whole MiB, rounded down, plus `extra_memory`. -/
  memReq : Dict.lookup image (.str "mem_req") = some (.int (size.fdiv mebibyte + cfg.extraMemory))
  /-- The checksum, `md5:`-prefixed when it names no algorithm. -/
  checksum : Dict.lookup image (.str "checksum") =
    (Dict.lookup iInfo (.str "image_checksum")).map passedChecksum

/-- The three steps of `_prepare_variables` that build `image` meet the description. -/
theorem imageVars_spec {cfg : Config} {iInfo image₀ image : Dict} {size : Int}
    (hd : Dict.DistinctKeys iInfo)
    (hck : ∀ c, Dict.lookup iInfo (.str "image_checksum") = some c → c.truthy → ∃ s, c = .str s)
    (h₀ : imageVars iInfo [] = .ok image₀)
    (h : normalizeChecksum (Dict.setItem image₀ (.str "mem_req")
      (.int (size.fdiv mebibyte + cfg.extraMemory))) = .ok image) :
    ImageVars cfg iInfo size image := by
  have h₁ : ∀ k, Dict.lookup (Dict.setItem image₀ (.str "mem_req")
      (.int (size.fdiv mebibyte + cfg.extraMemory))) (.str k) = if k = "mem_req"
      then some (.int (size.fdiv mebibyte + cfg.extraMemory))
      else Dict.lookup iInfo (.str ("image_" ++ k)) := fun k => by
    split_ifs with hk
    · rw [hk, Dict.lookup_setItem_self]
    · rw [Dict.lookup_setItem_ne _ _ _ (Value.str.inj.mt hk), lookup_imageVars hd h₀]
      simp
  have hn := lookup_normalizeChecksum h fun c hc => hck c (by simpa [h₁] using hc)
  refine ⟨fun k hm hc => ?_, ?_, ?_⟩ <;> simp [hn, h₁, *]

/-! ## The memory and the config drive -/

section
variable {cfg : Config} {w w' : World}

theorem liftExcept_eq_ok {α : Type} {r : Except Exc α} {a : α} (h : liftExcept r w = .ok a w') :
    r = .ok a ∧ w' = w := by
  cases r <;> cases h
  exact ⟨rfl, rfl⟩

/-- `_calculate_memory_req` asks for the image's size once; the memory is that size in whole
MiB, rounded down, plus `extra_memory`. -/
theorem calculateMemoryReq_eq_ok {memReq : Int} (h : calculateMemoryReq cfg w = .ok memReq w') :
    ∃ size, w.oracle.downloadSize w.trace (Dict.get w.node.instanceInfo (.str "image_source")) =
        .ok size ∧ memReq = size.fdiv mebibyte + cfg.extraMemory ∧
      w' = w.push (.downloadSize (Dict.get w.node.instanceInfo (.str "image_source")) (.ok size)) := by
  unfold calculateMemoryReq downloadSize at h
  obtain ⟨_, _, h₁, h⟩ := bind_eq_ok h
  cases h₁
  obtain ⟨src, w₂, h₂, h⟩ := bind_eq_ok h
  obtain ⟨hsrc, hw₂⟩ := liftExcept_eq_ok h₂
  subst w₂
  have hget : Dict.get w.node.instanceInfo (.str "image_source") = src := by
    simp only [Dict.getItem] at hsrc
    split at hsrc <;> simp_all [Dict.get]
  obtain ⟨size, _, h₃, h⟩ := bind_eq_ok h
  rw [ask_eq] at h₃
  cases hr : w.oracle.downloadSize w.trace src <;> rw [hr] at h₃ <;> cases h₃
  cases h
  rw [hget]
  exact ⟨size, hr, rfl, rfl⟩

/-- The config drive entry, in the claim's words: an HTTP(S) URL is passed as a URL, anything
else as the file it is written to. -/
def configdriveVar (cfg : Config) (uuid s scheme : String) : Value :=
  if scheme = "http" ∨ scheme = "https" then
    .dict [(.str "type", .str "url"), (.str "location", .str s)]
  else .dict [(.str "type", .str "file"), (.str "location", .str (getConfigdrivePath cfg uuid))]

theorem configdriveVars_eq_ok {node : Node} {cd v : Value} (h : configdriveVars cfg node cd w = .ok v w') :
    ∃ s parts, cd = .str s ∧ UrlParse.urlsplit s = .ok parts ∧
      v = configdriveVar cfg node.uuid s parts.scheme := by
  cases cd
  case str s =>
    unfold configdriveVars at h
    obtain ⟨parts, w₁, h₁, h⟩ := bind_eq_ok h
    obtain ⟨hparts, -⟩ := liftExcept_eq_ok h₁
    refine ⟨s, parts, rfl, hparts, ?_⟩
    unfold configdriveVar
    split at h
    · cases h
      rw [if_pos ‹_›]
    · obtain ⟨_, _, -, h⟩ := bind_eq_ok h
      cases h
      rw [if_neg ‹_›]
  all_goals cases h

end

/-! ## `_prepare_variables` -/

/-- An entry of a mapping, when there is one. -/
def optEntry (k : String) : Option Value → Dict
  | some v => [(.str k, v)]
  | none => []

/-- **The `configdrive` variable, as the claim describes it**: there exactly when
`instance_info` has a non-empty config drive, a URL when its scheme is HTTP(S), else the file
it is written to. -/
def ConfigdriveEntry (cfg : Config) (node : Node) (entry : Option Value) : Prop :=
  entry.isSome = (Dict.get node.instanceInfo (.str "configdrive")).truthy ∧
    ∀ v, entry = some v → ∃ s parts, Dict.get node.instanceInfo (.str "configdrive") = .str s ∧
      UrlParse.urlsplit s = .ok parts ∧ v = configdriveVar cfg node.uuid s parts.scheme

/-- The `root_device_hints` variable: the translated hints, when there are any. -/
def HintsEntry (lib : Lib) (node : Node) (entry : Option Value) : Prop :=
  ∃ hints, parseRootDeviceHints lib node = .ok hints ∧
    entry = if hints.isEmpty then none else some (.dict hints)

theorem prepareVariables_eq_ok {lib : Lib} {vars : Dict}
    (hd : Dict.DistinctKeys w.node.instanceInfo)
    (hck : ∀ c, Dict.lookup w.node.instanceInfo (.str "image_checksum") = some c → c.truthy →
      ∃ s, c = .str s)
    (h : prepareVariables cfg lib w = .ok vars w') :
    ∃ size image cd hints,
      w.oracle.downloadSize w.trace (Dict.get w.node.instanceInfo (.str "image_source")) = .ok size ∧
      ImageVars cfg w.node.instanceInfo size image ∧ ConfigdriveEntry cfg w.node cd ∧
      HintsEntry lib w.node hints ∧
      vars = [(.str "image", .dict image)] ++ optEntry "configdrive" cd ++
        optEntry "root_device_hints" hints := by
  unfold prepareVariables at h
  obtain ⟨_, _, h₁, h⟩ := bind_eq_ok h
  cases h₁
  dsimp only at h
  obtain ⟨image₀, w₂, h₂, h⟩ := bind_eq_ok h
  obtain ⟨himg, hw₂⟩ := liftExcept_eq_ok h₂
  subst w₂
  obtain ⟨memReq, w₃, h₃, h⟩ := bind_eq_ok h
  obtain ⟨size, hsize, rfl, -⟩ := calculateMemoryReq_eq_ok h₃
  obtain ⟨image, w₄, h₄, h⟩ := bind_eq_ok h
  obtain ⟨hnorm, hw₄⟩ := liftExcept_eq_ok h₄
  subst w₄
  have hI := imageVars_spec hd hck himg hnorm
  split at h
  · rename_i hcd
    obtain ⟨v, w₅, h₅, h⟩ := bind_eq_ok h
    obtain ⟨_, _, h₆, h⟩ := bind_eq_ok h
    cases h₆
    obtain ⟨hints, w₇, h₇, h⟩ := bind_eq_ok h
    obtain ⟨hh, -⟩ := liftExcept_eq_ok h₇
    cases h
    refine ⟨size, image, some v, _, hsize, hI, ⟨by simp [hcd], fun v' hv' => ?_⟩, ⟨hints, hh, rfl⟩, ?_⟩
    · cases hv'
      exact configdriveVars_eq_ok h₅
    · cases hints <;> simp [Value.truthy, optEntry, Dict.setItem]
  · rename_i hcd
    obtain ⟨_, _, h₆, h⟩ := bind_eq_ok h
    cases h₆
    obtain ⟨hints, w₇, h₇, h⟩ := bind_eq_ok h
    obtain ⟨hh, -⟩ := liftExcept_eq_ok h₇
    cases h
    refine ⟨size, image, none, _, hsize, hI, ⟨by simpa using hcd, by simp⟩, ⟨hints, hh, rfl⟩, ?_⟩
    cases hints <;> simp [Value.truthy, optEntry, Dict.setItem]

/-! ## The partition layout -/

/-- **The `partition_info` variable, as the claim describes it**: the disk label ironic gives,
`msdos` when it gives none, and the partitions, the 1 MiB `bios_grub` partition first exactly
on a GPT label and the root partition last. -/
def PartitionLayout (lib : Lib) (node : Node) (v : Value) : Prop :=
  ∃ info label parts rootMb, v = .dict info ∧
    label = (if (lib.getDiskLabel node).truthy then lib.getDiskLabel node else .str "msdos") ∧
    Dict.lookup info (.str "label") = some label ∧
    Dict.lookup info (.str "partitions") = some (.list parts) ∧
    (parts.head? = some biosPartition ↔ label = .str "gpt") ∧
    Dict.lookup node.instanceInfo (.str "root_mb") = some rootMb ∧
    parts.getLast? = some (rootPartition rootMb label)

/-- The ephemeral part: its format and whether to keep it, and its partition. -/
theorem ephemeralInfo_eq_ok {info : Dict} {mb : Value} {e : Dict} {parts : List Value}
    (h : ephemeralInfo info mb = .ok (e, parts)) :
    (∀ q ∈ e, q.1 = .str "ephemeral_format" ∨ q.1 = .str "preserve_ephemeral") ∧
      ∀ p ∈ parts, ∃ size format, p = ephemeralPartition size format := by
  unfold ephemeralInfo at h
  split at h
  · simp only [bind, Except.bind] at h
    split at h
    · cases h
    · split at h
      · cases h
      · cases h
        simp
  · cases h
    simp

theorem biosPartition_ne_of_mem {ephemeral : List Value} {swapMb cd rootMb label : Value}
    (he : ∀ p ∈ ephemeral, ∃ size format, p = ephemeralPartition size format) :
    biosPartition ∉ ephemeral ++ (if swapMb.truthy then [swapPartition swapMb] else []) ++
      (if cd.truthy then [configdrivePartition] else []) ++ [rootPartition rootMb label] := by
  intro hmem
  simp only [List.mem_append, List.mem_ite_nil_right, List.mem_singleton] at hmem
  rcases hmem with ((hmem | ⟨-, hmem⟩) | ⟨-, hmem⟩) | hmem
  · obtain ⟨_, _, hp⟩ := he _ hmem
    simp [biosPartition, ephemeralPartition] at hp
  all_goals simp [biosPartition, swapPartition, configdrivePartition, rootPartition] at hmem

theorem lookup_partitions (label : Value) {e : Dict}
    (he : ∀ q ∈ e, q.1 = .str "ephemeral_format" ∨ q.1 = .str "preserve_ephemeral") (parts : List Value) :
    Dict.lookup ([(.str "label", label)] ++ e ++ [(.str "partitions", .list parts)]) (.str "partitions") =
      some (.list parts) := by
  rw [Dict.lookup_append, Dict.lookup_append, Dict.lookup_eq_none (d := e)
    fun q hq h => by rcases he q hq with h' | h' <;> rw [h'] at h <;> exact absurd h (by decide)]
  simp

theorem parsePartitioningInfo_eq_ok {lib : Lib} {node : Node} {pinfo : Dict}
    (h : parsePartitioningInfo lib node = .ok pinfo) :
    ∃ v, pinfo = [(.str "partition_info", v)] ∧ PartitionLayout lib node v := by
  unfold parsePartitioningInfo at h
  simp only [bind, Except.bind] at h
  split at h
  · cases h
  split at h
  · cases h
  rename_i eph heph
  obtain ⟨hkeys, hparts⟩ := ephemeralInfo_eq_ok heph
  split at h
  · cases h
  split at h
  · cases h
  rename_i rootMb hroot
  cases h
  refine ⟨_, rfl, ?_⟩
  unfold PartitionLayout
  have hlookup := lookup_partitions (if (lib.getDiskLabel node).truthy then lib.getDiskLabel node
    else .str "msdos") hkeys
  refine ⟨_, _, _, rootMb, rfl, rfl, by simp, hlookup _, ?_, Dict.getItem_eq_ok.mp hroot, by simp⟩
  generalize (if (lib.getDiskLabel node).truthy then lib.getDiskLabel node else .str "msdos") = label
  by_cases hg : label = .str "gpt"
  · subst hg
    simp
  · rw [if_neg (by simpa using hg), List.nil_append]
    exact ⟨fun h => absurd (List.mem_of_mem_head? h) (biosPartition_ne_of_mem hparts), fun h => absurd h hg⟩

/-! ## The whole tree -/

/-- **The variables of a deploy, as the claim describes them** (with the checksum corrected):
the tree `_ansible_deploy` hands the deploy playbook for node `node` at address `a`, when the
image is `size` bytes. -/
structure DeployVars (cfg : Config) (lib : Lib) (node : Node) (a : String) (size : Int)
    (vars : Dict) : Prop where
  /-- The inventory, the image, and as the node asks the config drive, the root device hints
  and the partition layout: nothing else. -/
  keys : ∀ p ∈ vars, p.1 ∈ [Value.str "nodes", .str "image", .str "configdrive",
    .str "root_device_hints", .str "partition_info"]
  /-- One host, the node at `a`, logging in as `ansible_deploy_username`, `ansible` by
  default; the other variables never overwrite it. -/
  nodes : Dict.lookup vars (.str "nodes") = some (.list [hostVar (node.uuid, .str a,
    Dict.get node.driverInfo (.str "ansible_deploy_username") (.str "ansible"), node.extra)])
  image : ∃ image, Dict.lookup vars (.str "image") = some (.dict image) ∧
    ImageVars cfg node.instanceInfo size image
  configdrive : ConfigdriveEntry cfg node (Dict.lookup vars (.str "configdrive"))
  rootDeviceHints : HintsEntry lib node (Dict.lookup vars (.str "root_device_hints"))
  /-- The partition layout, exactly for a partition image. -/
  partitionInfo : (Dict.lookup vars (.str "partition_info")).isSome =
      !(Dict.get node.driverInternalInfo (.str "is_whole_disk_image")).truthy ∧
    ∀ v, Dict.lookup vars (.str "partition_info") = some v → PartitionLayout lib node v

@[simp] theorem lookup_optEntry (k : String) (o : Option Value) (k' : String) :
    Dict.lookup (optEntry k o) (.str k') = if k = k' then o else none := by
  cases o <;> by_cases h : k = k' <;> simp [optEntry, h]

theorem mem_optEntry {k : String} {o : Option Value} {p : Value × Value} (h : p ∈ optEntry k o) :
    p.1 = .str k := by
  cases o <;> simp_all [optEntry]

theorem key_of_mem_vars {image : Dict} {cd hints : Option Value} {q : Value × Value}
    (hq : q ∈ [(.str "image", .dict image)] ++ optEntry "configdrive" cd ++
      optEntry "root_device_hints" hints) :
    q.1 = .str "image" ∨ q.1 = .str "configdrive" ∨ q.1 = .str "root_device_hints" := by
  simp only [List.singleton_append, List.cons_append, List.mem_cons, List.mem_append,
    List.not_mem_nil, false_or] at hq
  rcases hq with rfl | hq | hq
  · simp
  all_goals simp [mem_optEntry hq]

/-- The inventory and the parts `_ansible_deploy` assembled make a tree as described. -/
theorem deployVars_of_parts {cfg : Config} {lib : Lib} {node : Node} {a : String} {size : Int}
    {image : Dict} {cd hints : Option Value} (part : Option Value)
    (hI : ImageVars cfg node.instanceInfo size image) (hcd : ConfigdriveEntry cfg node cd)
    (hh : HintsEntry lib node hints)
    (hp : part.isSome = !(Dict.get node.driverInternalInfo (.str "is_whole_disk_image")).truthy ∧
      ∀ v, part = some v → PartitionLayout lib node v) :
    DeployVars cfg lib node a size (prepareExtraVars [(node.uuid, .str a,
      Dict.get node.driverInfo (.str "ansible_deploy_username") (.str "ansible"), node.extra)]
      ([(.str "image", .dict image)] ++ optEntry "configdrive" cd ++
        optEntry "root_device_hints" hints ++ optEntry "partition_info" part)) := by
  have hfresh : Dict.DistinctKeys ([(.str "image", .dict image)] ++ optEntry "configdrive" cd ++
      optEntry "root_device_hints" hints ++ optEntry "partition_info" part) := by
    cases cd <;> cases hints <;> cases part <;> simp [optEntry, Dict.DistinctKeys]
  have hkeys : ∀ q ∈ [(.str "image", .dict image)] ++ optEntry "configdrive" cd ++
      optEntry "root_device_hints" hints ++ optEntry "partition_info" part,
      q.1 ∈ [Value.str "image", .str "configdrive", .str "root_device_hints", .str "partition_info"] := by
    intro q hq
    rcases List.mem_append.mp hq with hq | hq
    · rcases key_of_mem_vars hq with h | h | h <;> simp [h]
    · simp [mem_optEntry hq]
  rw [prepareExtraVars, if_pos (by simp [Value.truthy]), Dict.update_of_fresh hfresh]
  · refine ⟨fun p hp => ?_, by simp, ⟨image, by simp, hI⟩, by simpa [Dict.lookup_append] using hcd,
      by simpa [Dict.lookup_append] using hh, by simpa [Dict.lookup_append] using hp⟩
    rcases List.mem_cons.mp hp with rfl | hp
    · simp
    · exact List.mem_cons_of_mem _ (hkeys p hp)
  · intro p hp q hq
    rw [List.mem_singleton.mp hp]
    have := hkeys q hq
    simp only [List.mem_cons, List.not_mem_nil, or_false] at this
    rcases this with h | h | h | h <;> simp [h]

/-- The login `_parse_ansible_driver_info` returns. -/
theorem parseAnsibleDriverInfo_user {node : Node} {action : String} {d : Value × Value × Value}
    (h : parseAnsibleDriverInfo node action = .ok d) :
    d.2.1 = Dict.get node.driverInfo (.str "ansible_deploy_username") (.str "ansible") := by
  unfold parseAnsibleDriverInfo at h
  dsimp only at h
  split at h <;> cases h
  rfl

/-- The end of `_ansible_deploy`: the deploy playbook runs at most once, given the inventory of
the node at `a` over `vars`. -/
theorem deployPlaybook_run (cfg : Config) (lib : Lib) (node : Node) (a : String) (vars : Dict)
    (notags : Value) (w : World) :
    ∃ seg, (worldAfter ((liftExcept (parseAnsibleDriverInfo node) >>= fun d =>
        discard (runPlaybook cfg lib d.1 (prepareExtraVars [(node.uuid, .str a, d.2.1, node.extra)] vars)
          d.2.2 .none notags)) w)).trace = w.trace ++ seg ∧
      ∀ c args r, Event.execute c args r ∈ seg → c.extraVars = prepareExtraVars [(node.uuid, .str a,
        Dict.get node.driverInfo (.str "ansible_deploy_username") (.str "ansible"), node.extra)] vars := by
  cases hp : parseAnsibleDriverInfo node with
  | error e => exact ⟨[], by simp [bind_apply], by simp⟩
  | ok d =>
    obtain ⟨seg, hw, hseg⟩ := runPlaybook_run cfg lib d.1
      (prepareExtraVars [(node.uuid, .str a, d.2.1, node.extra)] vars) d.2.2 .none notags w
    refine ⟨seg, ?_, fun c args r hc => ?_⟩
    · simp only [liftExcept_ok, bind_apply, pure_apply, discard_apply]
      generalize runPlaybook cfg lib _ _ _ _ _ _ = r at hw ⊢
      cases r <;> simp only [worldAfter_ok, worldAfter_error] at hw ⊢ <;> rw [hw]
    · rcases hseg with rfl | ⟨_, _, _, rfl⟩
      · cases hc
      · rw [List.mem_singleton] at hc
        cases hc
        rw [parseAnsibleDriverInfo_user hp]

/-- **The variables of a deploy.** For every node whose `instance_info` is a mapping with a
string checksum when it has a truthy one, and whatever the collaborators answer, every
`ansible-playbook` run of `_ansible_deploy` gets the tree `DeployVars` describes, the image
size being what `download_size` answered. -/
theorem ansibleDeploy_vars (cfg : Config) (lib : Lib) (a : String) (w : World)
    (hd : Dict.DistinctKeys w.node.instanceInfo)
    (hck : ∀ c, Dict.lookup w.node.instanceInfo (.str "image_checksum") = some c → c.truthy →
      ∃ s, c = .str s) :
    ∃ seg, (worldAfter (ansibleDeploy cfg lib a w)).trace = w.trace ++ seg ∧
      ∀ c args r, Event.execute c args r ∈ seg →
        ∃ size, w.oracle.downloadSize w.trace (Dict.get w.node.instanceInfo (.str "image_source")) =
          .ok size ∧ DeployVars cfg lib w.node a size c.extraVars := by
  have hV : Appends (fun e => e.isExecute = false) (prepareVariables cfg lib) :=
    prepareVariables_appends (fun _ _ => rfl) fun _ _ => rfl
  unfold ansibleDeploy
  simp only [bind_apply, getNode_apply]
  cases hpv : prepareVariables cfg lib w with
  | error e w₁ =>
    obtain ⟨seg, hs, hw⟩ := hV w
    rw [hpv, worldAfter_error] at hw
    refine ⟨seg, by simp [hw], fun c args r hc => absurd (hs _ hc) (by simp [Event.isExecute])⟩
  | ok vars w₁ =>
    obtain ⟨segV, hsV, rfl⟩ := hV.eq_of_ok hpv
    obtain ⟨size, image, cd, hints, hsize, hI, hcd, hh, rfl⟩ := prepareVariables_eq_ok hd hck hpv
    simp only
    have hnoexec : ∀ c args r, Event.execute c args r ∉ segV := fun c args r hc =>
      absurd (hsV _ hc) (by simp [Event.isExecute])
    split
    · rename_i hwd
      rw [bind_of_ok (x := pure _) rfl]
      obtain ⟨seg, hseg, hex⟩ := deployPlaybook_run cfg lib w.node a _ _ ⟨w.oracle, w.node, w.trace ++ segV⟩
      refine ⟨segV ++ seg, by rw [hseg, List.append_assoc], fun c args r hc => ?_⟩
      rcases List.mem_append.mp hc with hc | hc
      · exact absurd hc (hnoexec c args r)
      · have := deployVars_of_parts (a := a) none hI hcd hh ⟨by simp [hwd], by simp⟩
        rw [show optEntry "partition_info" none = [] from rfl, List.append_nil] at this
        exact ⟨size, hsize, hex c args r hc ▸ this⟩
    · rename_i hwd
      cases hpp : parsePartitioningInfo lib w.node with
      | error e => exact ⟨segV, by simp [hpp, bind_apply], fun c args r hc => absurd hc (hnoexec c args r)⟩
      | ok pinfo =>
        obtain ⟨v, rfl, hlay⟩ := parsePartitioningInfo_eq_ok hpp
        rw [bind_of_ok (x := liftExcept (.ok _)) rfl, bind_of_ok (x := pure _) rfl]
        obtain ⟨seg, hseg, hex⟩ := deployPlaybook_run cfg lib w.node a _ _ ⟨w.oracle, w.node, w.trace ++ segV⟩
        refine ⟨segV ++ seg, by rw [hseg, List.append_assoc], fun c args r hc => ?_⟩
        rcases List.mem_append.mp hc with hc | hc
        · exact absurd hc (hnoexec c args r)
        · have := deployVars_of_parts (a := a) (some v) hI hcd hh
            ⟨by simpa using hwd, fun v' hv' => by cases hv'; exact hlay⟩
          rw [show optEntry "partition_info" (some v) = [(.str "partition_info", v)] from rfl,
            ← Dict.update_of_fresh (by simp [Dict.DistinctKeys]) fun p hp q hq => by
              rcases key_of_mem_vars hp with h | h | h <;> simp [List.mem_singleton.mp hq, h]] at this
          exact ⟨size, hsize, hex c args r hc ▸ this⟩

/-- A node whose image Glance reported without a checksum: `image_checksum` is empty. -/
def emptyChecksumWorld : World where
  oracle := Oracle.succeeding ["10.0.0.5"]
  node := { deployingWorld.node with
    instanceInfo := [(.str "image_source", .str "glance://image"), (.str "image_checksum", .str "")] }
  trace := []

theorem ansibleDeploy_vars_at_empty_checksum :
    Dict.DistinctKeys emptyChecksumWorld.node.instanceInfo ∧
    (∀ c, Dict.lookup emptyChecksumWorld.node.instanceInfo (.str "image_checksum") = some c →
      c.truthy → ∃ s, c = .str s) ∧
    ∃ seg, (worldAfter (ansibleDeploy dhcpConfig plainLib "10.0.0.5" emptyChecksumWorld)).trace =
        emptyChecksumWorld.trace ++ seg ∧
      ∀ c args r, Event.execute c args r ∈ seg →
        ∃ size, emptyChecksumWorld.oracle.downloadSize emptyChecksumWorld.trace
            (Dict.get emptyChecksumWorld.node.instanceInfo (.str "image_source")) = .ok size ∧
          DeployVars dhcpConfig plainLib emptyChecksumWorld.node "10.0.0.5" size c.extraVars :=
  ⟨by unfold Dict.DistinctKeys; decide, fun c hc _ => ⟨"", (Option.some.inj hc).symm⟩,
    ansibleDeploy_vars dhcpConfig plainLib "10.0.0.5" emptyChecksumWorld
      (by unfold Dict.DistinctKeys; decide) fun c hc _ => ⟨"", (Option.some.inj hc).symm⟩⟩

/-- A checksum without `:` does not always gain `md5:`: an empty one is passed on as it is. -/
theorem ansibleDeploy_empty_checksum :
    ∃ c args r, Event.execute c args r ∈
        (worldAfter (ansibleDeploy dhcpConfig plainLib "10.0.0.5" emptyChecksumWorld)).trace ∧
      Dict.lookup c.extraVars (.str "image") =
        some (.dict [(.str "source", .str "glance://image"), (.str "checksum", .str ""),
          (.str "mem_req", .int 10)]) :=
  ⟨_, _, _, List.mem_of_getLast?_eq_some rfl, rfl⟩

end IronicAnsible
