import IronicAnsible.Driver.AnsibleDeploy
import IronicAnsible.Proof.Frame

/-!
# Root device hints

`_parse_root_device_hints` turns the hints ironic-lib parsed into what the deploy playbook
understands: `== <n>` becomes the integer `n`, `s== <t>` the percent-decoded `t`, a value
that is not a string stays as it is, and any other operator is refused with
`InvalidParameterValue` naming the offending hints.

When every `==` operand is an integer literal this is exactly what happens
(`parseRootDeviceHints_of_integer_operands`). But the parser also accepts `==` on a hint
of string type such as `model`, and for `model: "== abc"` the loop's `int('abc')` raises a
`ValueError` that nothing converts (`parseRootDeviceHints_valueError`); `validate`, whose
comment promises the proper exceptions, lets it through. The hints are the last of
`validate`'s checks (`validate_ok_iff`).
-/

namespace IronicAnsible.RootDeviceHints

/-- A hint the loop refuses: a string with neither equality operator. -/
def isAdvanced : Value → Bool
  | .str s => !startswith s "== " && !startswith s "s== "
  | _ => false

/-- What the loop makes of a hint it keeps. -/
def translated (lib : Lib) : Value → Value
  | .str s => if startswith s "== " then .int ((pyInt (sliceFrom s 3)).getD 0)
    else .str (lib.unquote (sliceFrom s 4))
  | v => v

/-- An `==` hint has an integer literal for operand. -/
def integerOperand : Value → Bool
  | .str s => !startswith s "== " || (pyInt (sliceFrom s 3)).isSome
  | _ => true

/-- The keys of `acc` are none of the keys of `hints`. -/
def Fresh (acc hints : Dict) : Prop := ∀ a ∈ acc, ∀ b ∈ hints, Value.pyEq a.1 b.1 = false

theorem Fresh.tail {acc rest : Dict} {e : Value × Value} (h : Fresh acc (e :: rest)) :
    Fresh acc rest := fun a ha b hb => h a ha b (List.mem_cons_of_mem _ hb)

theorem Fresh.head {acc rest : Dict} {k v : Value} (h : Fresh acc ((k, v) :: rest)) :
    ∀ e ∈ acc, Value.pyEq e.1 k = false := fun e he => h e he _ (List.mem_cons_self _ _)

theorem Fresh.snoc {acc rest : Dict} {k v : Value} (w : Value) (h : Fresh acc ((k, v) :: rest))
    (hd : Dict.DistinctKeys ((k, v) :: rest)) : Fresh (acc ++ [(k, w)]) rest := by
  intro a ha b hb
  rcases List.mem_append.mp ha with ha | ha
  · exact h.tail a ha b hb
  · rw [List.mem_singleton.mp ha]; exact (List.pairwise_cons.mp hd).1 b hb

/-- The loop keeps the accepted hints in order, translated, and collects the refused ones
apart. -/
theorem translateHints_eq (lib : Lib) : ∀ (hints acc adv : Dict),
    Dict.DistinctKeys hints → Fresh acc hints → Fresh adv hints →
    (∀ kv ∈ hints, integerOperand kv.2) →
    translateHints lib hints acc adv =
      .ok (acc ++ (hints.filter (!isAdvanced ·.2)).map (fun kv => (kv.1, translated lib kv.2)),
        adv ++ hints.filter (isAdvanced ·.2))
  | [], acc, adv, _, _, _, _ => by simp [translateHints]
  | (hint, v) :: rest, acc, adv, hd, hacc, hadv, hops => by
    have hd' : Dict.DistinctKeys rest := (List.pairwise_cons.mp hd).2
    have hrest : ∀ kv ∈ rest, integerOperand kv.2 := fun kv hkv =>
      hops kv (List.mem_cons_of_mem _ hkv)
    -- an accepted hint goes to `acc`, a refused one to `adv`
    have keep : ∀ w, translateHints lib rest (Dict.setItem acc hint w) adv =
        .ok (acc ++ (hint, w) :: (rest.filter (!isAdvanced ·.2)).map
          (fun kv => (kv.1, translated lib kv.2)), adv ++ rest.filter (isAdvanced ·.2)) := by
      intro w
      rw [Dict.setItem_of_fresh _ hacc.head,
        translateHints_eq lib rest _ _ hd' (hacc.snoc w hd) hadv.tail hrest]
      simp
    have refuse : translateHints lib rest acc (Dict.setItem adv hint v) =
        .ok (acc ++ (rest.filter (!isAdvanced ·.2)).map (fun kv => (kv.1, translated lib kv.2)),
          adv ++ (hint, v) :: rest.filter (isAdvanced ·.2)) := by
      rw [Dict.setItem_of_fresh _ hadv.head,
        translateHints_eq lib rest _ _ hd' hacc.tail (hadv.snoc v hd) hrest]
      simp
    cases v
    case str s =>
      have hop : integerOperand (.str s) := hops _ (List.mem_cons_self _ _)
      by_cases h1 : startswith s "== " = true
      · obtain ⟨n, hn⟩ := Option.isSome_iff_exists.mp (by simpa [integerOperand, h1] using hop)
        have hint' : pyIntOrRaise (sliceFrom s 3) = .ok n := by simp [pyIntOrRaise, hn]
        simp only [translateHints, h1, ite_true, hint', bind, Except.bind, keep]
        simp [isAdvanced, translated, h1, hn]
      · by_cases h2 : startswith s "s== " = true
        · simp only [translateHints, h1, h2, ite_true, Bool.false_eq_true, ite_false, keep]
          simp [isAdvanced, translated, h1, h2]
        · simp only [translateHints, h1, h2, Bool.false_eq_true, ite_false, refuse]
          simp [isAdvanced, h1, h2]
    all_goals simp only [translateHints, keep]; simp [isAdvanced, translated]

/-- A node whose `root_device` property is `rootDevice`, and a whole-disk image to deploy. -/
def hintNode (rootDevice : Value) : Node :=
  { uuid := "node-1", driver := "ansible", driverInfo := [],
    driverInternalInfo := [(.str "is_whole_disk_image", .bool true)],
    instanceInfo := [(.str "image_source", .str "glance://image")],
    properties := [(.str "root_device", rootDevice)], extra := [],
    provisionState := .other "manageable", lastError := none }

/-- A library whose hint parser returns `hints`, for a node booting from local disk. The
other functions are not called on the way through `validate`. -/
def hintLib (hints : Dict) : Lib where
  getDiskLabel _ := .none
  getBootOption _ := "local"
  parseRootDeviceHints _ := .ok hints
  unquote s := s
  shlexSplit s := .ok [s]
  jsonDumps v := v.pyRepr
  buildAgentOptions _ := []
  loadYaml _ := .ok .none

/-- **Root device hints with integer operands.** The function refuses exactly the hints
with another operator, with `InvalidParameterValue`; otherwise it returns the same hint
names with their values translated. -/
theorem parseRootDeviceHints_of_integer_operands (lib : Lib) (node : Node) (hints : Dict)
    (hroot : (Dict.get node.properties (.str "root_device")).truthy)
    (hparse : lib.parseRootDeviceHints (Dict.get node.properties (.str "root_device")) = .ok hints)
    (hkeys : Dict.DistinctKeys hints) (hint : ∀ kv ∈ hints, integerOperand kv.2) :
    (hints.any (isAdvanced ·.2) →
      ∃ msg, parseRootDeviceHints lib node = .error (.invalidParameterValue msg)) ∧
    (hints.any (isAdvanced ·.2) = false →
      parseRootDeviceHints lib node = .ok (hints.map fun kv => (kv.1, translated lib kv.2))) := by
  have hloop := translateHints_eq lib hints [] [] hkeys (by simp [Fresh]) (by simp [Fresh]) hint
  simp only [List.nil_append] at hloop
  have hroot' : (!(Dict.get node.properties (.str "root_device")).truthy) = false := by
    simp [hroot]
  constructor
  · intro hadv
    have hne : (Value.dict (hints.filter (isAdvanced ·.2))).truthy = true := by
      simpa [Value.truthy, List.isEmpty_eq_false_iff_exists_mem, List.any_eq_true] using hadv
    simp only [parseRootDeviceHints, hroot', hparse, Bool.false_eq_true, ite_false, pure_bind,
      hloop]
    exact ⟨_, by simp only [bind, Except.bind, hne, ite_true]; rfl⟩
  · intro hadv
    have hall : ∀ kv ∈ hints, (!isAdvanced kv.2) = true := by
      simpa [List.any_eq_false] using hadv
    have hnil : hints.filter (isAdvanced ·.2) = [] := by
      simpa [List.filter_eq_nil_iff] using hall
    simp only [parseRootDeviceHints, hroot', hparse, Bool.false_eq_true, ite_false, pure_bind,
      hloop, hnil, List.filter_eq_self.mpr hall]
    rfl

theorem parseRootDeviceHints_of_integer_operands_at_size :
    parseRootDeviceHints (hintLib [(.str "size", .str "== 10"), (.str "model", .str "s== abc")])
        (hintNode (.dict [(.str "size", .int 10)])) =
      .ok [(.str "size", .int 10), (.str "model", .str "abc")] :=
  (parseRootDeviceHints_of_integer_operands _ (hintNode (.dict [(.str "size", .int 10)]))
    [(.str "size", .str "== 10"), (.str "model", .str "s== abc")] rfl rfl
    (by unfold Dict.DistinctKeys; decide) (by decide)).2 rfl

/-! ## A `==` hint on a string -/

/-- An `==` hint whose operand is not an integer literal stops the loop with the `ValueError`
of `int()`, wherever it stands. -/
theorem translateHints_valueError (lib : Lib) : ∀ (hints acc adv : Dict),
    (∃ kv ∈ hints, integerOperand kv.2 = false) →
    ∃ msg, translateHints lib hints acc adv = .error (.valueError msg)
  | [], _, _, ⟨_, h, _⟩ => absurd h (List.not_mem_nil _)
  | (hint, v) :: rest, acc, adv, ⟨kv, hkv, hbad⟩ => by
    -- a first hint that does not raise leaves the offending one in `rest`
    have hrest : integerOperand v → ∃ kv ∈ rest, integerOperand kv.2 = false := fun hv => by
      rcases List.mem_cons.mp hkv with rfl | h
      · simp [hbad] at hv
      · exact ⟨kv, h, hbad⟩
    cases v
    case str s =>
      by_cases h1 : startswith s "== " = true
      · cases hn : pyInt (sliceFrom s 3) with
        | none => exact ⟨_, by simp only [translateHints, h1, ite_true, pyIntOrRaise, hn]; rfl⟩
        | some n =>
          simp only [translateHints, h1, ite_true, pyIntOrRaise, hn, bind, Except.bind]
          exact translateHints_valueError lib rest _ _ (hrest (by simp [integerOperand, hn]))
      · have hv : integerOperand (.str s) := by simp [integerOperand, h1]
        by_cases h2 : startswith s "s== " = true
        · simp only [translateHints, h1, h2, ite_true, Bool.false_eq_true, ite_false]
          exact translateHints_valueError lib rest _ _ (hrest hv)
        · simp only [translateHints, h1, h2, Bool.false_eq_true, ite_false]
          exact translateHints_valueError lib rest _ _ (hrest hv)
    all_goals
      simp only [translateHints]
      exact translateHints_valueError lib rest _ _ (hrest rfl)

/-- The hint `model: "== abc"`. -/
def modelHints : Dict := [(.str "model", .str "== abc")]

/-- ironic-lib accepts `model: "== abc"` as it is, `==` being an operator it knows for every
hint; `_parse_root_device_hints` and `validate` then raise the `ValueError` of
`int('abc')`. -/
theorem validate_model_hint_valueError :
    parseRootDeviceHints (hintLib modelHints) (hintNode (.dict modelHints)) =
      .error (.valueError "invalid literal for int() with base 10: 'abc'") ∧
    outcome (AnsibleDeploy.validate (hintLib modelHints)
        ⟨Oracle.succeeding [], hintNode (.dict modelHints), []⟩) =
      .error (.valueError "invalid literal for int() with base 10: 'abc'") := ⟨rfl, rfl⟩

/-! ## What `validate` accepts -/

/-- **What `validate` accepts**: a node whose boot interface validates, that is not a partition
image booting from the network, that names an image source, and whose root device hints
translate. The checks run in this order, and the first that fails is what `validate` raises. -/
theorem validate_ok_iff {lib : Lib} (w : World) :
    outcome (AnsibleDeploy.validate lib w) = .ok () ↔
      w.oracle.act w.trace .bootValidate = .ok () ∧
      ((Dict.get w.node.driverInternalInfo (.str "is_whole_disk_image")).truthy ∨
        lib.getBootOption w.node ≠ "netboot") ∧
      (Dict.get w.node.instanceInfo (.str "image_source")).truthy ∧
      ∃ hints, parseRootDeviceHints lib w.node = .ok hints := by
  unfold AnsibleDeploy.validate
  rw [bind_apply, act_eq]
  cases hb : w.oracle.act w.trace .bootValidate with
  | error e => simp [resultOf]
  | ok u =>
    simp only [resultOf, true_and, checkForMissingParams]
    rw [bind_of_ok getNode_apply, World.push_node]
    split
    · rename_i hnb
      simp only [bind_apply, throw_apply, outcome_error]
      refine ⟨fun h => (by cases h), ?_⟩
      rintro ⟨hwd | hnb', -⟩ <;> simp_all
    · rename_i hnb
      have hnb' : (Dict.get w.node.driverInternalInfo (.str "is_whole_disk_image")).truthy ∨
          lib.getBootOption w.node ≠ "netboot" := by
        by_contra h
        exact hnb (by simpa [not_or] using h)
      cases hs : (Dict.get w.node.instanceInfo (.str "image_source")).truthy <;>
        cases hh : parseRootDeviceHints lib w.node <;>
        simp [hs, hnb', hh, bind_apply, discard_apply]

/-- A node without an image source is refused with the field named as ironic names it. -/
theorem validate_missingImageSource {lib : Lib} {w : World} (hb : w.oracle.act w.trace .bootValidate = .ok ())
    (hnb : (Dict.get w.node.driverInternalInfo (.str "is_whole_disk_image")).truthy ∨
      lib.getBootOption w.node ≠ "netboot")
    (hs : (Dict.get w.node.instanceInfo (.str "image_source")).truthy = false) :
    outcome (AnsibleDeploy.validate lib w) = .error (.missingParameterValue ("Node " ++ w.node.uuid ++
      " failed to validate deploy image info. Some parameters were missing" ++
      ". Missing are: ['instance_info.image_source']")) := by
  unfold AnsibleDeploy.validate
  rw [bind_apply, act_eq, hb]
  simp only [resultOf, checkForMissingParams]
  rw [bind_of_ok getNode_apply, World.push_node]
  have hnb' : ¬((!(Dict.get w.node.driverInternalInfo (.str "is_whole_disk_image")).truthy &&
      lib.getBootOption w.node == "netboot") = true) := by
    rcases hnb with h | h <;> simp [h]
  have hrepr : (Value.list [.str "instance_info.image_source"]).pyRepr =
    "['instance_info.image_source']" := rfl
  simp [hnb', hs, bind_apply, hrepr, String.append_assoc]

end IronicAnsible.RootDeviceHints
