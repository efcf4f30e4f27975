import Mathlib.Data.List.Infix

/-!
# Python values as the driver sees them

The driver reads JSON from the node record (`instance_info`, `driver_info`,
`driver_internal_info`, `properties`, `extra`) and YAML from the clean-steps file. Both
arrive as Python objects of six shapes: `None`, a boolean, an integer, a string, a list and a
mapping. `Value` is that universe, and this file gives it the Python operations the driver
applies to it — truthiness, `==`, `str`, `repr`, iteration, `in`, `d.get`, `d[k]`,
`d[k] = v`, `d.pop` — each raising what Python raises when the value has the wrong shape.

A mapping is its list of entries in insertion order. A lookup takes the first entry whose
key is `==` to the one asked for, so on a list without repeated keys (every mapping Python
builds) it is Python's lookup.

YAML can also produce floats, timestamps and binary strings; they are not modelled.
-/

namespace IronicAnsible

/-- A JSON or YAML value, as Python holds it. -/
inductive Value where
  | none
  | bool (b : Bool)
  | int (n : Int)
  | str (s : String)
  | list (vs : List Value)
  | dict (kvs : List (Value × Value))
deriving Repr, Inhabited

/-- A Python `dict`: its entries in insertion order. -/
abbrev Dict := List (Value × Value)

/-- An exception raised inside the driver, by Python itself or by ironic. -/
inductive Exc where
  | typeError (msg : String)
  | attributeError (msg : String)
  | keyError (key : Value)
  | valueError (msg : String)
  | invalidParameterValue (msg : String)
  | missingParameterValue (msg : String)
  | nodeCleaningFailure (node reason : String)
  | instanceDeployFailure (reason : String)
  | failedToGetIPAddressOnPort (msg : String)
  | playbookNotFound (action : String)
  | invalidState (msg : String)
  | retryError (attempts : Nat)
  | processExecutionError (msg : String)
  /-- Whatever else a collaborator outside the driver raises. -/
  | other (msg : String)
deriving Repr, Inhabited

namespace Value

/-- The name Python prints for the type of a value. -/
def typeName : Value → String
  | none => "NoneType"
  | bool _ => "bool"
  | int _ => "int"
  | str _ => "str"
  | list _ => "list"
  | dict _ => "dict"

/-- Python truthiness: `None`, `False`, `0` and empty strings and containers are false. -/
def truthy : Value → Bool
  | none => false
  | bool b => b
  | int n => n != 0
  | str s => !s.isEmpty
  | list vs => !vs.isEmpty
  | dict kvs => !kvs.isEmpty

/-- Python can hash everything here but a list or a mapping. -/
def hashable : Value → Bool
  | list _ | dict _ => false
  | _ => true

mutual
/-- Structural equality. -/
def beq : Value → Value → Bool
  | none, none => true
  | bool a, bool b => a == b
  | int a, int b => a == b
  | str a, str b => a == b
  | list as, list bs => beqList as bs
  | dict as, dict bs => beqDict as bs
  | _, _ => false

/-- Structural equality of two lists of values. -/
def beqList : List Value → List Value → Bool
  | [], [] => true
  | a :: as, b :: bs => beq a b && beqList as bs
  | _, _ => false

/-- Structural equality of two lists of entries. -/
def beqDict : List (Value × Value) → List (Value × Value) → Bool
  | [], [] => true
  | (k, v) :: as, (k', v') :: bs => beq k k' && beq v v' && beqDict as bs
  | _, _ => false
end

mutual
theorem beq_iff_eq : ∀ a b : Value, beq a b = true ↔ a = b
  | none, b | bool _, b | int _, b | str _, b => by cases b <;> simp [beq]
  | list as, b => by cases b <;> simp [beq, beqList_iff_eq as]
  | dict as, b => by cases b <;> simp [beq, beqDict_iff_eq as]

theorem beqList_iff_eq : ∀ as bs : List Value, beqList as bs = true ↔ as = bs
  | [], bs => by cases bs <;> simp [beqList]
  | a :: as, bs => by cases bs <;> simp [beqList, beq_iff_eq a, beqList_iff_eq as]

theorem beqDict_iff_eq : ∀ as bs : List (Value × Value), beqDict as bs = true ↔ as = bs
  | [], bs => by cases bs <;> simp [beqDict]
  | (k, v) :: as, bs => by
    rcases bs with _ | ⟨⟨k', v'⟩, bs⟩ <;>
      simp [beqDict, beq_iff_eq k, beq_iff_eq v, beqDict_iff_eq as, and_assoc]
end

instance : DecidableEq Value := fun a b => decidable_of_iff (beq a b) (beq_iff_eq a b)

/-- Python `==`. To Python a boolean is an integer (`True == 1`); otherwise values of
different shapes differ. The driver only ever compares a value with a scalar. -/
def pyEq (a b : Value) : Bool :=
  match a, b with
  | bool x, int n => n == (x.toNat : Int)
  | int n, bool x => n == (x.toNat : Int)
  | _, _ => decide (a = b)

@[simp] theorem pyEq_str_right {v : Value} {k : String} : pyEq v (str k) = decide (v = str k) := by
  cases v <;> rfl

@[simp] theorem pyEq_str_left {v : Value} {k : String} : pyEq (str k) v = decide (str k = v) := by
  cases v <;> rfl

theorem pyEq_self (v : Value) : pyEq v v = true := by
  cases v <;> simp [pyEq]

mutual
/-- Python `repr`. Strings are quoted with `'`; Python's choice of quote and its escapes
are not reproduced. -/
def pyRepr : Value → String
  | none => "None"
  | bool true => "True"
  | bool false => "False"
  | int n => toString n
  | str s => "'" ++ s ++ "'"
  | list vs => "[" ++ reprList vs ++ "]"
  | dict kvs => "\x7b" ++ reprDict kvs ++ "\x7d"

/-- The items of a list, as `repr` separates them. -/
def reprList : List Value → String
  | [] => ""
  | [v] => pyRepr v
  | v :: w :: vs => pyRepr v ++ ", " ++ reprList (w :: vs)

/-- The entries of a mapping, as `repr` separates them. -/
def reprDict : List (Value × Value) → String
  | [] => ""
  | [(k, v)] => pyRepr k ++ ": " ++ pyRepr v
  | (k, v) :: e :: kvs => pyRepr k ++ ": " ++ pyRepr v ++ ", " ++ reprDict (e :: kvs)
end

/-- Python `str`: a string is itself, anything else its `repr`. -/
def pyStr : Value → String
  | str s => s
  | v => pyRepr v

/-- The `AttributeError` of asking a value that is not a mapping for a mapping method. -/
def noAttribute (v : Value) (attr : String) : Exc :=
  .attributeError ("'" ++ v.typeName ++ "' object has no attribute '" ++ attr ++ "'")

/-- What a `for` loop visits: a list's items, a mapping's keys, a string's characters. -/
def iter : Value → Except Exc (List Value)
  | list vs => .ok vs
  | dict kvs => .ok (kvs.map Prod.fst)
  | str s => .ok (s.toList.map fun c => str (String.singleton c))
  | v => .error (.typeError ("'" ++ v.typeName ++ "' object is not iterable"))

/-- `x in v`: a key of a mapping, an item of a list, a substring of a string. -/
def contains (v x : Value) : Except Exc Bool :=
  match v, x with
  | dict kvs, x => .ok (kvs.any fun p => pyEq p.1 x)
  | list vs, x => .ok (vs.any fun y => pyEq y x)
  | str s, str t => .ok (decide (t.toList <:+: s.toList))
  | str _, x => .error (.typeError
      ("'in <string>' requires string as left operand, not " ++ x.typeName))
  | v, _ => .error (.typeError ("argument of type '" ++ v.typeName ++ "' is not iterable"))

end Value

namespace Dict

/-- The value of the first entry whose key is `k`. -/
def lookup (d : Dict) (k : Value) : Option Value :=
  (List.find? (fun p => Value.pyEq p.1 k) d).map Prod.snd

/-- `d.get(k, default)`. -/
def get (d : Dict) (k : Value) (default : Value := .none) : Value :=
  (lookup d k).getD default

/-- `k in d`. -/
def contains (d : Dict) (k : Value) : Bool :=
  (lookup d k).isSome

/-- `d[k]`, raising `KeyError` on a missing key. -/
def getItem (d : Dict) (k : Value) : Except Exc Value :=
  match lookup d k with
  | some v => .ok v
  | none => .error (.keyError k)

/-- `d[k] = v`: the entry of `k` keeps its place; a new key goes last. -/
def setItem : Dict → Value → Value → Dict
  | [], k, v => [(k, v)]
  | (k', v') :: d, k, v => if Value.pyEq k' k then (k', v) :: d else (k', v') :: setItem d k v

/-- `d` without the entry of `k`. -/
def erase (d : Dict) (k : Value) : Dict :=
  List.filter (fun p => !Value.pyEq p.1 k) d

/-- `d.pop(k, default)`: the value that was there, and what is left. -/
def pop (d : Dict) (k : Value) (default : Value := .none) : Value × Dict :=
  (get d k default, erase d k)

/-- `d.update(e)`. -/
def update (d e : Dict) : Dict :=
  List.foldl (fun acc p => setItem acc p.1 p.2) d e

/-- No two keys Python considers equal: the keys of a `dict`. -/
def DistinctKeys (d : Dict) : Prop := d.Pairwise fun a b => Value.pyEq a.1 b.1 = false

/-- Setting a key the mapping does not hold appends it. -/
theorem setItem_of_fresh {d : Dict} {k : Value} (v : Value)
    (h : ∀ e ∈ d, Value.pyEq e.1 k = false) : setItem d k v = d ++ [(k, v)] := by
  induction d with
  | nil => rfl
  | cons e d ih =>
    obtain ⟨k', v'⟩ := e
    simp only [List.mem_cons, forall_eq_or_imp] at h
    simp [setItem, h.1, ih h.2]

@[simp] theorem lookup_nil (k : Value) : lookup [] k = none := rfl

theorem lookup_cons (k' v' : Value) (d : Dict) (k : Value) :
    lookup ((k', v') :: d) k = if Value.pyEq k' k then some v' else lookup d k := by
  simp only [lookup, List.find?_cons]
  split <;> simp_all

@[simp] theorem lookup_cons_str (k' v' : Value) (d : Dict) (k : String) :
    lookup ((k', v') :: d) (.str k) = if k' = .str k then some v' else lookup d (.str k) := by
  simp [lookup_cons]

theorem lookup_setItem_self (d : Dict) (k : String) (v : Value) :
    lookup (setItem d (.str k) v) (.str k) = some v := by
  induction d with
  | nil => simp [setItem]
  | cons e d ih => obtain ⟨k', v'⟩ := e; by_cases h : k' = .str k <;> simp_all [setItem]

theorem lookup_setItem_ne (d : Dict) (k : String) (v : Value) {k' : Value}
    (h : k' ≠ .str k) : lookup (setItem d (.str k) v) k' = lookup d k' := by
  induction d with
  | nil => simp [setItem, lookup_cons, Value.pyEq_str_left, Ne.symm h]
  | cons e d ih =>
    obtain ⟨k'', v''⟩ := e
    by_cases hk : k'' = .str k
    · subst hk; simp [setItem, lookup_cons, Ne.symm h]
    · simp [setItem, hk, lookup_cons, ih]

@[simp] theorem lookup_erase_self (d : Dict) (k : String) : lookup (erase d (.str k)) (.str k) = none := by
  induction d with
  | nil => rfl
  | cons e d ih => obtain ⟨k', v'⟩ := e; by_cases h : k' = .str k <;> simp_all [erase]

theorem lookup_erase_ne (d : Dict) (k : String) {k' : Value} (h : k' ≠ .str k) :
    lookup (erase d (.str k)) k' = lookup d k' := by
  induction d with
  | nil => rfl
  | cons e d ih =>
    obtain ⟨k'', v''⟩ := e
    by_cases hk : k'' = .str k
    · subst hk; simp_all [erase, lookup_cons, Ne.symm h]
    · simp_all [erase, lookup_cons]

theorem lookup_eq_none {d : Dict} {k : String} (h : ∀ p ∈ d, p.1 ≠ .str k) :
    lookup d (.str k) = none := by
  induction d with
  | nil => rfl
  | cons p d ih =>
    obtain ⟨k', v'⟩ := p
    simp only [List.mem_cons, forall_eq_or_imp] at h
    simp [h.1, ih h.2]

theorem getItem_eq_ok {d : Dict} {k v : Value} : getItem d k = .ok v ↔ lookup d k = some v := by
  unfold getItem
  split <;> simp_all

theorem lookup_append (d e : Dict) (k : Value) : lookup (d ++ e) k = (lookup d k).or (lookup e k) := by
  induction d with
  | nil => rfl
  | cons p d ih =>
    obtain ⟨k', v'⟩ := p
    simp only [List.cons_append, lookup_cons, ih]
    split <;> rfl

/-- Updating with entries whose keys are new, and distinct, appends them. -/
theorem update_of_fresh {d e : Dict} (he : DistinctKeys e)
    (hf : ∀ p ∈ d, ∀ q ∈ e, Value.pyEq p.1 q.1 = false) : update d e = d ++ e := by
  induction e generalizing d with
  | nil => simp [update]
  | cons q e ih =>
    obtain ⟨hq, he⟩ := List.pairwise_cons.mp he
    rw [update, List.foldl_cons, setItem_of_fresh _ fun p hp => hf p hp q (List.mem_cons_self q e)]
    refine (ih he fun p hp r hr => ?_).trans (List.append_assoc _ _ _)
    rcases List.mem_append.mp hp with hp | hp
    · exact hf p hp r (List.mem_cons_of_mem q hr)
    · rw [List.mem_singleton.mp hp]
      exact hq r hr

/-- Erasing a key forgets what was set under it. -/
@[simp] theorem erase_setItem_self (d : Dict) (k v : Value) : erase (setItem d k v) k = erase d k := by
  induction d with
  | nil => simp [setItem, erase, Value.pyEq_self]
  | cons e d ih =>
    obtain ⟨k', v'⟩ := e
    cases h : Value.pyEq k' k <;> simp_all [setItem, erase]

/-- The keys of `d[k] = v` are those of `d` and `k`. -/
theorem forall_keys_setItem {P : Value → Prop} {d : Dict} {k : Value} (v : Value)
    (hd : ∀ p ∈ d, P p.1) (hk : P k) : ∀ p ∈ setItem d k v, P p.1 := by
  induction d with
  | nil => simpa [setItem] using hk
  | cons q d ih =>
    simp only [List.mem_cons, forall_eq_or_imp] at hd
    unfold setItem
    split <;> simp only [List.mem_cons, forall_eq_or_imp]
    · exact ⟨hd.1, hd.2⟩
    · exact ⟨hd.1, ih hd.2⟩

/-- The keys of `d.update(e)` are those of `d` and `e`. -/
theorem forall_keys_update {P : Value → Prop} {d e : Dict} (hd : ∀ p ∈ d, P p.1)
    (he : ∀ p ∈ e, P p.1) : ∀ p ∈ update d e, P p.1 := by
  induction e generalizing d with
  | nil => exact hd
  | cons q e ih =>
    simp only [List.mem_cons, forall_eq_or_imp] at he
    exact ih (forall_keys_setItem _ hd he.1) he.2

/-- Setting another key leaves the entry of `k'`. -/
theorem lookup_setItem_of_ne (d : Dict) {k : Value} (v : Value) {k' : String} (h : k ≠ .str k') :
    lookup (setItem d k v) (.str k') = lookup d (.str k') := by
  induction d with
  | nil => simp [setItem, h]
  | cons q d ih =>
    obtain ⟨k'', v''⟩ := q
    unfold setItem
    split
    · rename_i hk
      have : k'' ≠ .str k' := by rintro rfl; exact h (by simpa [eq_comm] using hk)
      simp [this]
    · simp [ih]

/-- An update whose keys are not `k'` leaves the entry of `k'`. -/
theorem lookup_update_of_ne (d e : Dict) {k' : String} (he : ∀ p ∈ e, p.1 ≠ .str k') :
    lookup (update d e) (.str k') = lookup d (.str k') := by
  induction e generalizing d with
  | nil => rfl
  | cons q e ih =>
    simp only [List.mem_cons, forall_eq_or_imp] at he
    exact (ih _ he.2).trans (lookup_setItem_of_ne d _ he.1)

end Dict

namespace Value

/-- `v.get(k, default)`. -/
def get (v : Value) (k : Value) (default : Value := .none) : Except Exc Value :=
  match v with
  | dict kvs => .ok (Dict.get kvs k default)
  | v => .error (v.noAttribute "get")

/-- `v.items()`. -/
def items : Value → Except Exc Dict
  | dict kvs => .ok kvs
  | v => .error (v.noAttribute "items")

/-- `v.pop(k, default)`: what was there, and the mapping without it. -/
def pop (v : Value) (k : Value) (default : Value := .none) : Except Exc (Value × Value) :=
  match v with
  | dict kvs => .ok ((Dict.pop kvs k default).1, dict (Dict.pop kvs k default).2)
  | v => .error (v.noAttribute "pop")

/-- `v[k]` for a string key, the only subscript the driver takes of a value. -/
def getItem (v : Value) (k : String) : Except Exc Value :=
  match v with
  | dict kvs => Dict.getItem kvs (str k)
  | list _ => .error (.typeError "list indices must be integers or slices, not str")
  | str _ => .error (.typeError "string indices must be integers")
  | v => .error (.typeError ("'" ++ v.typeName ++ "' object is not subscriptable"))

@[simp] theorem get_dict (kvs : Dict) (k d : Value) : get (dict kvs) k d = .ok (Dict.get kvs k d) :=
  rfl

@[simp] theorem items_dict (kvs : Dict) : items (dict kvs) = .ok kvs := rfl

@[simp] theorem pop_dict (kvs : Dict) (k d : Value) :
    pop (dict kvs) k d = .ok ((Dict.pop kvs k d).1, dict (Dict.pop kvs k d).2) := rfl

@[simp] theorem getItem_dict (kvs : Dict) (k : String) :
    getItem (dict kvs) k = Dict.getItem kvs (str k) := rfl

@[simp] theorem contains_dict (kvs : Dict) (x : Value) :
    contains (dict kvs) x = .ok (kvs.any fun p => pyEq p.1 x) := rfl

@[simp] theorem iter_list (vs : List Value) : iter (list vs) = .ok vs := rfl

/-- `c in s` for a one-character string `c`: a character of `s`. -/
theorem contains_str_char {s t : String} {c : Char} (ht : t.toList = [c]) :
    contains (str s) (str t) = .ok (decide (c ∈ s.toList)) := by
  simp only [contains, ht, Except.ok.injEq, decide_eq_decide]
  constructor
  · exact fun h => h.subset (List.mem_singleton_self c)
  · intro h
    obtain ⟨pre, post, hs⟩ := List.append_of_mem h
    exact ⟨pre, post, by simpa using hs.symm⟩

end Value

/-- The text of an exception, `six.text_type(e)`. -/
def Exc.text : Exc → String
  | .typeError m | .attributeError m | .valueError m | .invalidParameterValue m
  | .missingParameterValue m | .failedToGetIPAddressOnPort m | .invalidState m
  | .processExecutionError m | .other m => m
  | .keyError k => k.pyRepr
  | .nodeCleaningFailure node reason => "Failed to clean node " ++ node ++ ": " ++ reason
  | .instanceDeployFailure reason => "Failed to deploy instance: " ++ reason
  | .playbookNotFound action => "Failed to set ansible playbook for action " ++ action
  | .retryError n => "RetryError[Attempts: " ++ toString n ++ "]"

end IronicAnsible
