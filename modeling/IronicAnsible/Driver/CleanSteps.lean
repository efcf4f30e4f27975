import IronicAnsible.Driver.Playbook

/-!
# The clean steps file

`_get_clean_steps` reads the node's clean-steps YAML file, checks it with
`_validate_clean_steps`, and turns every declaration of the requested interface into the
step dictionary the conductor schedules: the declared priority unless an override is
given, the declared arguments split into their values (`args`) and the rest of their
schema (`argsinfo`).

The document is whatever the YAML loader returned; nothing checks its shape. Each Python
operation below therefore raises what Python raises on the wrong shape, and only the
loading itself is turned into `NodeCleaningFailure`.
-/

namespace IronicAnsible

/-- An entry of the `missing` list of `_validate_clean_steps`. -/
structure MissingField where
  /-- The step's name, or `'undefined'` for a step without one. -/
  name : Value
  field : String

/-- `'name %(name)s, field %(field)s' % i`. -/
def MissingField.text (m : MissingField) : String :=
  "name " ++ m.name.pyStr ++ ", field " ++ m.field

/-- The arguments of a named step that are required and have no value. -/
def argsMissing (name : Value) : Dict → Except Exc (List MissingField)
  | [] => .ok []
  | (argName, arg) :: rest => do
    let required ← arg.get (.str "required") (.bool false)
    let lacksValue ← if required.truthy then do pure !(← arg.contains (.str "value"))
      else pure false
    let here := if lacksValue then [⟨name, argName.pyStr ++ ".value"⟩] else []
    pure (here ++ (← argsMissing name rest))

/-- What one step of the document is missing. -/
def stepMissing (step : Value) : Except Exc (List MissingField) := do
  let name ← step.get (.str "name")
  if !name.truthy then return [⟨.str "undefined", "name"⟩]
  let hasInterface ← step.contains (.str "interface")
  let args ← step.get (.str "args") (.dict [])
  let argItems ← args.items
  pure ((if hasInterface then [] else [⟨name, "interface"⟩]) ++ (← argsMissing name argItems))

/-- The loop of `_validate_clean_steps`: what the steps are missing, in order. -/
def collectMissing : List Value → Except Exc (List MissingField)
  | [] => .ok []
  | step :: rest => do pure ((← stepMissing step) ++ (← collectMissing rest))

/-- Add a name to the set of names, as `set()` hashes it. -/
def setInsert (names : List Value) (name : Value) : Except Exc (List Value) :=
  if name.hashable then .ok (if names.any (Value.pyEq · name) then names else names ++ [name])
  else .error (.typeError ("unhashable type: '" ++ name.typeName ++ "'"))

/-- `set(s['name'] for s in steps)`. -/
def nameSet (steps : List Value) : Except Exc (List Value) :=
  steps.foldlM (fun names s => do setInsert names (← s.getItem "name")) []

/-- `_validate_clean_steps(steps, node_uuid)`: every missing field of every step, then
distinct names. -/
def validateCleanSteps (steps : Value) (nodeUuid : String) : Except Exc Unit := do
  let items ← steps.iter
  let missing ← collectMissing items
  if !missing.isEmpty then
    throw (.nodeCleaningFailure nodeUuid
      ("Malformed clean_steps file: " ++ ", ".intercalate (missing.map MissingField.text)))
  if (← nameSet items).length ≠ items.length then
    throw (.nodeCleaningFailure nodeUuid "Cleaning steps do not have unique names.")

/-- A step as `_get_clean_steps` returns it. -/
structure CleanStep where
  interface : Value
  step : Value
  priority : Value
  abortable : Bool
  argsinfo : Dict
  args : Dict

/-- The step as the Python dictionary the conductor receives. -/
def CleanStep.toValue (s : CleanStep) : Value :=
  .dict [(.str "interface", s.interface), (.str "step", s.step), (.str "priority", s.priority),
    (.str "abortable", .bool s.abortable), (.str "argsinfo", .dict s.argsinfo),
    (.str "args", .dict s.args)]

/-- `for arg, arg_info in argsinfo.items(): args[arg] = arg_info.pop('value', None)`: the
values, and the schema left behind. -/
def popArgValues : Dict → Dict → Dict → Except Exc (Dict × Dict)
  | [], args, infos => .ok (args, infos)
  | (arg, argInfo) :: rest, args, infos => do
    let (value, argInfo) ← argInfo.pop (.str "value")
    popArgValues rest (Dict.setItem args arg value) (infos ++ [(arg, argInfo)])

/-- `override.get(name)`, which hashes `name`. -/
def overrideGet (override : Dict) (name : Value) : Except Exc Value :=
  if name.hashable then .ok (Dict.get override name)
  else .error (.typeError ("unhashable type: '" ++ name.typeName ++ "'"))

/-- The loop of `_get_clean_steps` over the validated document. -/
def buildCleanSteps (interface : Option String) (override : Dict) :
    List Value → Except Exc (List CleanStep)
  | [] => .ok []
  | params :: rest => do
    let name ← params.getItem "name"
    let cleanIf ← params.getItem "interface"
    if interface.any (fun i => !Value.pyEq (.str i) cleanIf) then
      buildCleanSteps interface override rest
    else
      let newPriority ← overrideGet override name
      let priority ← if newPriority = .none then params.get (.str "priority") (.int 0)
        else pure newPriority
      let argsinfo ← params.get (.str "args") (.dict [])
      let (args, argsinfo) ← popArgValues (← argsinfo.items) [] []
      pure (⟨cleanIf, name, priority, false, argsinfo, args⟩ ::
        (← buildCleanSteps interface override rest))

/-- The path of the node's clean-steps file. -/
def cleanStepsPath (cfg : Config) (node : Node) : Except Exc String :=
  pathJoinValue cfg.playbooksPath
    (Dict.get node.driverInfo (.str "ansible_clean_steps_config") (.str defaultCleanSteps))

/-- `_get_clean_steps(node, interface, override_priorities)`, with `[]` for an absent
override. -/
def getCleanSteps (cfg : Config) (lib : Lib) (node : Node) (interface : Option String := none)
    (overridePriorities : Dict := []) : Except Exc (List CleanStep) := do
  let path ← cleanStepsPath cfg node
  let internalSteps ← match lib.loadYaml path with
    | .ok doc => pure doc
    | .error e => throw (.nodeCleaningFailure node.uuid
        ("Failed to load clean steps from file " ++ path ++ ": " ++ e))
  validateCleanSteps internalSteps node.uuid
  buildCleanSteps interface overridePriorities (← internalSteps.iter)

end IronicAnsible
