import IronicAnsible.Driver.CleanSteps

/-!
# What `_get_clean_steps` returns

The clean-steps file declares a list of steps. Each declaration is a mapping with a `name`,
an `interface`, maybe a `priority`, and maybe `args`: a mapping from argument names to
schemas, themselves mappings. `Declaration` is such a mapping together with the schemas it
declares; its fields hold the shape, so a document of declarations is well shaped by
construction.

On such a document `_get_clean_steps` is decided by four cases, in this order:

* **Malformed**: some step has a falsy name, or a named step lacks `interface`, or has a
  required argument without a value: `NodeCleaningFailure`, whatever the filter and the
  overrides.
* **Unhashable name**: some name is a list or a mapping, which `set()` cannot hash:
  `TypeError`.
* **Shared name**: two names are equal to Python: `NodeCleaningFailure`.
* Otherwise the steps of the requested interface, in document order, each built from its
  declaration by `Declaration.expected`.

Only loading the file is guarded by a handler. A document of another shape — `None` for an
empty file, to begin with — raises what Python raises on it.
-/

namespace IronicAnsible.CleanSteps

/-- The argument schemas of a declaration as the mapping Python holds. -/
def schemaDict (schemas : List (Value × Dict)) : Dict :=
  schemas.map fun p => (p.1, .dict p.2)

/-- A step declaration: a mapping whose `args`, when present, map distinct argument names
to mappings. -/
structure Declaration where
  /-- The entries of the mapping. -/
  entries : Dict
  /-- The declared arguments with their schemas, in order. -/
  schemas : List (Value × Dict)
  args_eq : Dict.get entries (.str "args") (.dict []) = .dict (schemaDict schemas)
  distinct : Dict.DistinctKeys (schemaDict schemas)

namespace Declaration

/-- The declaration as the loader returns it. -/
def toValue (d : Declaration) : Value := .dict d.entries

/-- `s.get('name')`. -/
def name (d : Declaration) : Value := Dict.get d.entries (.str "name")

/-- `s.get('interface')`. -/
def interface (d : Declaration) : Value := Dict.get d.entries (.str "interface")

/-- A required argument without a value. -/
def lacksValue (info : Dict) : Bool :=
  (Dict.get info (.str "required") (.bool false)).truthy && !Dict.contains info (.str "value")

/-- The declaration misses its name, or, named, its interface or the value of a required
argument. -/
def malformed (d : Declaration) : Bool :=
  !d.name.truthy || !Dict.contains d.entries (.str "interface") || d.schemas.any (lacksValue ·.2)

/-- The declaration is of the requested interface, or no interface is requested. -/
def selected (i : Option String) (d : Declaration) : Bool :=
  match i with
  | none => true
  | some i => decide (d.interface = .str i)

/-- The override of the step's name when there is one and it is not `None`, the declared
priority (by default 0) otherwise. -/
def priority (override : Dict) (d : Declaration) : Value :=
  match Dict.lookup override d.name with
  | some p => if p = .none then Dict.get d.entries (.str "priority") (.int 0) else p
  | none => Dict.get d.entries (.str "priority") (.int 0)

/-- The step the declaration should give: its name, interface and priority, the values of
its arguments (`None` when absent), their schemas without `value`, not abortable. -/
def expected (override : Dict) (d : Declaration) : CleanStep where
  interface := d.interface
  step := d.name
  priority := d.priority override
  abortable := false
  argsinfo := d.schemas.map fun p => (p.1, .dict (Dict.erase p.2 (.str "value")))
  args := d.schemas.map fun p => (p.1, Dict.get p.2 (.str "value"))

end Declaration

/-- No two names of the document are equal to Python. -/
def NamesDistinct (D : List Declaration) : Prop :=
  (D.map Declaration.name).Pairwise fun a b => Value.pyEq a b = false

instance : DecidablePred NamesDistinct := fun D =>
  inferInstanceAs (Decidable ((D.map Declaration.name).Pairwise _))


/-! ## Validation -/

theorem contains_eq_any (d : Dict) (k : Value) :
    Dict.contains d k = d.any fun p => Value.pyEq p.1 k := by
  rw [Bool.eq_iff_iff, List.any_eq_true, Dict.contains, Dict.lookup, Option.isSome_map',
    List.find?_isSome]

/-- The arguments loop finds a missing value exactly at the required arguments without one. -/
theorem argsMissing_schemaDict (name : Value) (schemas : List (Value × Dict)) :
    ∃ l, argsMissing name (schemaDict schemas) = .ok l ∧
      l.isEmpty = !schemas.any (Declaration.lacksValue ·.2) := by
  induction schemas with
  | nil => exact ⟨[], rfl, rfl⟩
  | cons p rest ih =>
    obtain ⟨l, hl, he⟩ := ih
    obtain ⟨k, info⟩ := p
    simp only [schemaDict, List.map_cons] at hl ⊢
    simp only [argsMissing, Value.get, Value.contains, ← contains_eq_any, hl, bind, Except.bind,
      pure, Except.pure]
    cases hr : (Dict.get info (.str "required") (.bool false)).truthy <;>
      cases hv : Dict.contains info (.str "value") <;>
      simp [Declaration.lacksValue, hr, hv, he]

/-- One step is missing something exactly when its declaration is malformed. -/
theorem stepMissing_declaration (d : Declaration) :
    ∃ l, stepMissing d.toValue = .ok l ∧ l.isEmpty = !d.malformed := by
  obtain ⟨l, hl, he⟩ := argsMissing_schemaDict d.name d.schemas
  simp only [stepMissing, Declaration.toValue, Value.get_dict, Value.contains_dict, d.args_eq,
    Value.items_dict, ← contains_eq_any, hl, bind, Except.bind, pure, Except.pure]
  cases hn : d.name.truthy <;> cases hi : Dict.contains d.entries (.str "interface") <;>
    simp_all [Declaration.malformed, Declaration.name]

/-- The steps' loop finds something missing exactly when some declaration is malformed. -/
theorem collectMissing_declarations (D : List Declaration) :
    ∃ l, collectMissing (D.map Declaration.toValue) = .ok l ∧
      l.isEmpty = !D.any Declaration.malformed := by
  induction D with
  | nil => exact ⟨[], rfl, rfl⟩
  | cons d D ih =>
    obtain ⟨l, hl, he⟩ := ih
    obtain ⟨m, hm, hme⟩ := stepMissing_declaration d
    refine ⟨m ++ l, by simp [collectMissing, hm, hl, bind, Except.bind, pure, Except.pure], ?_⟩
    rw [List.any_cons, Bool.not_or, ← hme, ← he]
    cases m <;> simp

/-! ## Distinct names -/

/-- Inserting the names one by one keeps all of them exactly when each differs, to Python,
from every name before it. -/
theorem foldlM_setInsert (names acc : List Value) (h : ∀ n ∈ names, n.hashable) :
    ∃ r, names.foldlM setInsert acc = .ok r ∧ r.length ≤ acc.length + names.length ∧
      (r.length = acc.length + names.length ↔
        (∀ a ∈ acc, ∀ n ∈ names, Value.pyEq a n = false) ∧
          names.Pairwise fun a b => Value.pyEq a b = false) := by
  induction names generalizing acc with
  | nil => exact ⟨acc, rfl, by simp, by simp⟩
  | cons n rest ih =>
    have hn : n.hashable := h n (List.mem_cons_self _ _)
    have hrest : ∀ m ∈ rest, m.hashable := fun m hm => h m (List.mem_cons_of_mem _ hm)
    by_cases hany : acc.any (Value.pyEq · n)
    · -- `n` is already there: the set does not grow
      obtain ⟨r, hr, hle, -⟩ := ih acc hrest
      obtain ⟨a, ha, han⟩ := List.any_eq_true.mp hany
      refine ⟨r, by simp [List.foldlM_cons, setInsert, hn, hany, hr, bind, Except.bind],
        by simp only [List.length_cons]; omega, ?_⟩
      simp only [List.length_cons]
      exact iff_of_false (by omega) fun hd => by simp [hd.1 a ha n (List.mem_cons_self _ _)] at han
    · -- `n` is new: it is appended
      obtain ⟨r, hr, hle, hiff⟩ := ih (acc ++ [n]) hrest
      simp only [List.length_append, List.length_singleton] at hle hiff
      refine ⟨r, by simp [List.foldlM_cons, setInsert, hn, hany, hr, bind, Except.bind],
        by simp only [List.length_cons]; omega, ?_⟩
      simp only [List.any_eq_true, not_exists, not_and, Bool.not_eq_true] at hany
      have e : acc.length + (n :: rest).length = acc.length + 1 + rest.length := by
        simp only [List.length_cons]; omega
      rw [e, hiff]
      simp only [List.mem_append, List.mem_singleton, List.mem_cons, List.not_mem_nil, or_false,
        List.pairwise_cons]
      constructor
      · rintro ⟨hfresh, hp⟩
        exact ⟨fun a ha m hm => hm.elim (· ▸ hany a ha) (hfresh a (.inl ha) m),
          fun m hm => hfresh n (.inr rfl) m hm, hp⟩
      · rintro ⟨hfresh, hn', hp⟩
        exact ⟨fun a ha m hm => ha.elim (hfresh a · m (.inr hm)) (· ▸ hn' m hm), hp⟩

/-- A name Python cannot hash raises `TypeError`. -/
theorem foldlM_setInsert_unhashable (names acc : List Value)
    (h : ∃ n ∈ names, n.hashable = false) :
    ∃ msg, names.foldlM setInsert acc = .error (.typeError msg) := by
  induction names generalizing acc with
  | nil => simp at h
  | cons n rest ih =>
    by_cases hn : n.hashable
    · obtain ⟨m, hm, hmh⟩ := h
      have hm' : m ∈ rest := (List.mem_cons.mp hm).resolve_left (by rintro rfl; simp_all)
      obtain ⟨msg, hmsg⟩ := ih (if acc.any (Value.pyEq · n) then acc else acc ++ [n]) ⟨m, hm', hmh⟩
      refine ⟨msg, ?_⟩
      simp only [List.foldlM_cons, setInsert, hn, if_true, bind, Except.bind]
      exact hmsg
    · exact ⟨"unhashable type: '" ++ n.typeName ++ "'",
        by simp [List.foldlM_cons, setInsert, hn, bind, Except.bind]⟩

/-- A truthy name is there to be read by `s['name']`. -/
theorem Declaration.getItem_name {d : Declaration} (h : d.name.truthy) :
    d.toValue.getItem "name" = .ok d.name := by
  simp only [Declaration.toValue, Value.getItem_dict, Dict.getItem]
  simp only [Declaration.name, Dict.get] at h ⊢
  cases hl : Dict.lookup d.entries (.str "name") <;> simp_all [Value.truthy]

theorem nameSet_eq (D : List Declaration) (acc : List Value) (h : ∀ d ∈ D, d.name.truthy) :
    (D.map Declaration.toValue).foldlM (fun names s => do setInsert names (← s.getItem "name"))
      acc = (D.map Declaration.name).foldlM setInsert acc := by
  induction D generalizing acc with
  | nil => rfl
  | cons d D ih =>
    simp only [List.map_cons, List.foldlM_cons, bind, Except.bind,
      Declaration.getItem_name (h d (List.mem_cons_self _ _))]
    cases setInsert acc d.name
    · rfl
    · exact ih _ fun d' hd' => h d' (List.mem_cons_of_mem _ hd')

/-! ## Building the steps -/

/-- Popping `value` from each schema gives the values, `None` where absent, and the schemas
without them, in order. -/
theorem popArgValues_schemaDict (schemas : List (Value × Dict)) (args infos : Dict)
    (hfresh : ∀ a ∈ args, ∀ p ∈ schemas, Value.pyEq a.1 p.1 = false)
    (hd : Dict.DistinctKeys (schemaDict schemas)) :
    popArgValues (schemaDict schemas) args infos =
      .ok (args ++ schemas.map (fun p => (p.1, Dict.get p.2 (.str "value"))),
        infos ++ schemas.map (fun p => (p.1, .dict (Dict.erase p.2 (.str "value"))))) := by
  induction schemas generalizing args infos with
  | nil => simp [schemaDict, popArgValues]
  | cons p rest ih =>
    obtain ⟨k, info⟩ := p
    simp only [schemaDict, Dict.DistinctKeys, List.map_cons, List.pairwise_cons,
      List.forall_mem_map] at hd
    have hk : ∀ a ∈ args, Value.pyEq a.1 k = false := fun a ha =>
      hfresh a ha _ (List.mem_cons_self _ _)
    have hfresh' : ∀ a ∈ args ++ [(k, Dict.get info (.str "value"))], ∀ q ∈ rest,
        Value.pyEq a.1 q.1 = false := by
      intro a ha q hq
      rcases List.mem_append.mp ha with ha | ha
      · exact hfresh a ha q (List.mem_cons_of_mem _ hq)
      · rw [List.mem_singleton.mp ha]; exact hd.1 q hq
    simp only [schemaDict] at ih
    simp [popArgValues, Dict.pop, bind, Except.bind, Dict.setItem_of_fresh _ hk,
      ih _ _ hfresh' hd.2]

/-- A well-formed declaration with a hashable name is read in full: its name, interface,
priority and arguments. -/
theorem buildCleanSteps_declarations (i : Option String) (o : Dict) (D : List Declaration)
    (hok : ∀ d ∈ D, d.malformed = false) (hhash : ∀ d ∈ D, d.name.hashable) :
    buildCleanSteps i o (D.map Declaration.toValue) =
      .ok ((D.filter (Declaration.selected i)).map (Declaration.expected o)) := by
  induction D with
  | nil => rfl
  | cons d D ih =>
    have hd : d.malformed = false := hok d (List.mem_cons_self _ _)
    have hrest := ih (fun d' h => hok d' (List.mem_cons_of_mem _ h))
      (fun d' h => hhash d' (List.mem_cons_of_mem _ h))
    simp only [Declaration.malformed, Bool.or_eq_false_iff, Bool.not_eq_false'] at hd
    obtain ⟨⟨hname, hif⟩, -⟩ := hd
    have hinterface : d.toValue.getItem "interface" = .ok d.interface := by
      simp only [Declaration.toValue, Value.getItem_dict, Dict.getItem, Declaration.interface,
        Dict.get]
      simp only [Dict.contains] at hif
      cases h : Dict.lookup d.entries (.str "interface") <;> simp_all
    have hover : overrideGet o d.name = .ok (Dict.get o d.name) := by
      simp [overrideGet, hhash d (List.mem_cons_self _ _)]
    have hpop := popArgValues_schemaDict d.schemas [] [] (by simp) d.distinct
    simp only [List.map_cons, buildCleanSteps, Declaration.getItem_name hname, hinterface,
      hover, bind, Except.bind]
    simp only [Declaration.toValue, Value.get_dict, d.args_eq, Value.items_dict, hpop, hrest,
      List.nil_append, pure, Except.pure]
    have hprio : (if Dict.get o d.name = .none then Dict.get d.entries (.str "priority") (.int 0)
        else Dict.get o d.name) = d.priority o := by
      unfold Declaration.priority Dict.get
      cases Dict.lookup o d.name <;> simp
    have hsel : Declaration.selected i d = !(i.any fun i => !(Value.str i).pyEq d.interface) := by
      cases i <;> simp [Declaration.selected, eq_comm]
    rw [List.filter_cons, hsel]
    cases (i.any fun i => !(Value.str i).pyEq d.interface)
    · simp only [Bool.false_eq_true, ite_false, Bool.not_false, ite_true, List.map_cons,
        Declaration.expected, ← hprio]
      split <;> rfl
    · rfl

/-! ## Validating a document of declarations -/

section
variable {D : List Declaration} {uuid : String}

/-- A malformed declaration fails the validation, wherever it stands. -/
theorem validate_of_malformed (h : ∃ d ∈ D, d.malformed) :
    ∃ msg, validateCleanSteps (.list (D.map Declaration.toValue)) uuid =
      .error (.nodeCleaningFailure uuid msg) := by
  obtain ⟨l, hl, he⟩ := collectMissing_declarations D
  have hne : l.isEmpty = false := by rw [he, List.any_eq_true.mpr h]; rfl
  exact ⟨"Malformed clean_steps file: " ++ ", ".intercalate (l.map MissingField.text),
    by simp [validateCleanSteps, hl, hne, bind, Except.bind, throw, throwThe, MonadExceptOf.throw]⟩

/-- Without malformed declarations, what is left is the check of distinct names. -/
theorem validate_of_wellFormed (hok : ∀ d ∈ D, d.malformed = false) :
    validateCleanSteps (.list (D.map Declaration.toValue)) uuid =
      ((D.map Declaration.name).foldlM setInsert [] >>= fun names =>
        if names.length ≠ D.length then
          throw (.nodeCleaningFailure uuid "Cleaning steps do not have unique names.")
        else pure ()) := by
  obtain ⟨l, hl, he⟩ := collectMissing_declarations D
  have hnil : l.isEmpty = true := by
    rw [he, Bool.not_eq_true', List.any_eq_false]
    exact fun d hd => by simp [hok d hd]
  have hnames : ∀ d ∈ D, d.name.truthy := fun d hd => by
    have := hok d hd
    simp only [Declaration.malformed, Bool.or_eq_false_iff, Bool.not_eq_false'] at this
    exact this.1.1
  have hset : nameSet (D.map Declaration.toValue) = (D.map Declaration.name).foldlM setInsert [] :=
    nameSet_eq D [] hnames
  simp only [validateCleanSteps, Value.iter_list, hl, hnil, hset, List.length_map, bind,
    Except.bind, Bool.not_true, Bool.false_eq_true, ite_false]
  rfl

theorem validate_of_unhashable (hok : ∀ d ∈ D, d.malformed = false)
    (h : ∃ d ∈ D, d.name.hashable = false) :
    ∃ msg, validateCleanSteps (.list (D.map Declaration.toValue)) uuid = .error (.typeError msg) := by
  obtain ⟨d, hd, hdh⟩ := h
  obtain ⟨msg, hmsg⟩ := foldlM_setInsert_unhashable (D.map Declaration.name) []
    ⟨d.name, List.mem_map_of_mem _ hd, hdh⟩
  exact ⟨msg, by rw [validate_of_wellFormed hok, hmsg]; rfl⟩

/-- With hashable names, the validation passes exactly when the names are distinct. -/
theorem validate_of_hashable (hok : ∀ d ∈ D, d.malformed = false)
    (hhash : ∀ d ∈ D, d.name.hashable) :
    validateCleanSteps (.list (D.map Declaration.toValue)) uuid =
      if NamesDistinct D then .ok ()
      else .error (.nodeCleaningFailure uuid "Cleaning steps do not have unique names.") := by
  obtain ⟨r, hr, -, hiff⟩ := foldlM_setInsert (D.map Declaration.name) []
    (by simpa using hhash)
  simp only [List.length_nil, List.length_map, Nat.zero_add, List.not_mem_nil, false_implies,
    implies_true, true_and] at hiff
  rw [validate_of_wellFormed hok, hr]
  by_cases hd : NamesDistinct D
  · simp [hd, hiff.mpr hd, bind, Except.bind, pure, Except.pure]
  · have hne : r.length ≠ D.length := fun h => hd (hiff.mp h)
    simp [hd, hne, bind, Except.bind, throw, throwThe, MonadExceptOf.throw]

end

/-! ## `_get_clean_steps` -/

section
variable {cfg : Config} {lib : Lib} {node : Node} {path : String} {doc : Value}

/-- Once the file is loaded, `_get_clean_steps` validates the document, then builds. -/
theorem getCleanSteps_of_load (hpath : cleanStepsPath cfg node = .ok path)
    (hload : lib.loadYaml path = .ok doc) (i : Option String) (o : Dict) :
    getCleanSteps cfg lib node i o =
      (validateCleanSteps doc node.uuid >>= fun _ => doc.iter >>= buildCleanSteps i o) := by
  simp only [getCleanSteps, hpath, hload, bind, Except.bind, pure, Except.pure]

end

/-- A library whose YAML loader returns `doc` for every file. -/
def documentLib (doc : Value) : Lib where
  getDiskLabel _ := .none
  getBootOption _ := "local"
  parseRootDeviceHints _ := .ok []
  unquote s := s
  shlexSplit s := .ok [s]
  jsonDumps v := v.pyRepr
  buildAgentOptions _ := []
  loadYaml _ := .ok doc

/-- The defaults of every option. -/
def stepsConfig : Config :=
  { playbooksPath := "/etc/ironic-staging-drivers/ansible/playbooks", configFilePath := "",
    tempdir := "/tmp" }

/-- A node with the default clean-steps file. -/
def stepsNode : Node :=
  { uuid := "node-1", driver := "pxe_ipmitool_ansible", driverInfo := [],
    driverInternalInfo := [], instanceInfo := [], properties := [], extra := [],
    provisionState := .other "cleaning", lastError := none }

/-- `erase_devices_metadata`, priority 99, no arguments. -/
def eraseMetadata : Declaration where
  entries := [(.str "name", .str "erase_devices_metadata"), (.str "interface", .str "deploy"),
    (.str "priority", .int 99)]
  schemas := []
  args_eq := rfl
  distinct := .nil

/-- `erase_devices`, priority 10, with a required argument that has its value. -/
def eraseDevices : Declaration where
  entries := [(.str "name", .str "erase_devices"), (.str "interface", .str "deploy"),
    (.str "priority", .int 10),
    (.str "args", .dict [(.str "passes", .dict [(.str "required", .bool true),
      (.str "value", .int 1)])])]
  schemas := [(.str "passes", [(.str "required", .bool true), (.str "value", .int 1)])]
  args_eq := rfl
  distinct := List.pairwise_singleton _ _

/-- A step named by a list. -/
def listNamed : Declaration where
  entries := [(.str "name", .list [.str "erase_devices"]), (.str "interface", .str "deploy")]
  schemas := []
  args_eq := rfl
  distinct := .nil

/-- An override of 0 wins over the declared priority. -/
example : (getCleanSteps stepsConfig
    (documentLib (.list ([eraseMetadata, eraseDevices].map Declaration.toValue))) stepsNode
    (some "deploy") [(.str "erase_devices", .int 0)]).map (·.map CleanStep.priority) =
      .ok [.int 99, .int 0] := rfl

end IronicAnsible.CleanSteps
