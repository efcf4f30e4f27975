import IronicAnsible.Driver.Task

/-!
# Running driver code

The equations that run driver code one step at a time — a `bind`, a `try`, a collaborator
call — and the footprint of a computation (`Appends`): it leaves the node record and the
outside world alone and only appends events of a given kind to the trace. The footprint
is proved once per helper and composed along the `do` blocks of the operations.
-/

namespace IronicAnsible

@[simp] theorem worldAfter_ok {α : Type} (a : α) (w : World) :
    worldAfter (.ok a w : EStateM.Result Exc World α) = w := rfl

@[simp] theorem worldAfter_error {α : Type} (e : Exc) (w : World) :
    worldAfter (.error e w : EStateM.Result Exc World α) = w := rfl

@[simp] theorem outcome_ok {α : Type} (a : α) (w : World) :
    outcome (.ok a w : EStateM.Result Exc World α) = .ok a := rfl

@[simp] theorem outcome_error {α : Type} (e : Exc) (w : World) :
    outcome (.error e w : EStateM.Result Exc World α) = .error e := rfl

/-- The result of a run that ended with outcome `r` in world `w`. -/
def resultOf {α : Type} : Except Exc α → World → EStateM.Result Exc World α
  | .ok a, w => .ok a w
  | .error e, w => .error e w

@[simp] theorem outcome_resultOf {α : Type} (r : Except Exc α) (w : World) :
    outcome (resultOf r w) = r := by cases r <;> rfl

@[simp] theorem worldAfter_resultOf {α : Type} (r : Except Exc α) (w : World) :
    worldAfter (resultOf r w) = w := by cases r <;> rfl

/-! ## One step -/

section
variable {α β : Type} {x : M α} {f : α → M β} {handler : Exc → M α} {w w₁ : World} {a : α}
  {e : Exc}

@[simp] theorem pure_apply : (pure a : M α) w = .ok a w := rfl

@[simp] theorem throw_apply : (throw e : M α) w = .error e w := rfl

@[simp] theorem liftExcept_ok : liftExcept (.ok a : Except Exc α) = pure a := rfl

@[simp] theorem liftExcept_error : liftExcept (.error e : Except Exc α) = throw e := rfl

@[simp] theorem getNode_apply : getNode w = .ok w.node w := rfl

@[simp] theorem setNode_apply (n : Node) : setNode n w = .ok () { w with node := n } := rfl

theorem bind_apply : (x >>= f) w = match x w with
    | .ok a w₁ => f a w₁
    | .error e w₁ => .error e w₁ := by
  simp only [bind, EStateM.bind]
  cases x w <;> rfl

theorem tryCatch_apply : tryCatch x handler w = match x w with
    | .ok a w₁ => .ok a w₁
    | .error e w₁ => handler e w₁ := by
  simp only [tryCatch, tryCatchThe, MonadExceptOf.tryCatch, EStateM.tryCatch]
  cases x w <;> rfl

theorem discard_apply : discard x w = match x w with
    | .ok _ w₁ => .ok PUnit.unit w₁
    | .error e w₁ => .error e w₁ := by
  simp only [Functor.discard, Functor.mapConst, Function.comp, Functor.map, EStateM.map]
  cases x w <;> rfl

theorem bind_of_ok (hx : x w = .ok a w₁) : (x >>= f) w = f a w₁ := by
  simp only [bind, EStateM.bind, hx]

theorem bind_of_error (hx : x w = .error e w₁) : (x >>= f) w = .error e w₁ := by
  simp only [bind, EStateM.bind, hx]

theorem tryCatch_of_ok (hx : x w = .ok a w₁) : tryCatch x handler w = .ok a w₁ := by
  simp only [tryCatch, tryCatchThe, MonadExceptOf.tryCatch, EStateM.tryCatch, hx]

theorem tryCatch_of_error (hx : x w = .error e w₁) : tryCatch x handler w = handler e w₁ := by
  simp only [tryCatch, tryCatchThe, MonadExceptOf.tryCatch, EStateM.tryCatch, hx]; rfl

/-- A run that returns went through both halves of its `bind`. -/
theorem bind_eq_ok {b : β} {w' : World} (h : (x >>= f) w = .ok b w') :
    ∃ a w₁, x w = .ok a w₁ ∧ f a w₁ = .ok b w' := by
  simp only [bind, EStateM.bind] at h
  split at h
  · exact ⟨_, _, ‹_›, h⟩
  · cases h

/-- A run that raises raised in the first half of its `bind`, or in the second. -/
theorem bind_eq_error {b : Exc} {w' : World} (h : (x >>= f) w = .error b w') :
    x w = .error b w' ∨ ∃ a w₁, x w = .ok a w₁ ∧ f a w₁ = .error b w' := by
  simp only [bind, EStateM.bind] at h
  split at h
  · exact .inr ⟨_, _, ‹_›, h⟩
  · cases h; exact .inl ‹_›

theorem discard_eq_ok {w' : World} {u : PUnit} (h : discard x w = .ok u w') :
    ∃ a, x w = .ok a w' := by
  rw [discard_apply] at h
  split at h
  · cases h; exact ⟨_, ‹_›⟩
  · cases h

end

/-- A collaborator call: the oracle's answer, recorded. -/
theorem ask_eq {α : Type} (answer : Oracle → List Event → Except Exc α)
    (entry : Except Exc α → Event) (w : World) :
    ask answer entry w =
      resultOf (answer w.oracle w.trace) (w.push (entry (answer w.oracle w.trace))) := by
  rw [ask_run]; cases answer w.oracle w.trace <;> rfl

theorem act_eq (a : Action) (w : World) :
    act a w = resultOf (w.oracle.act w.trace a) (w.push (.act a (w.oracle.act w.trace a))) :=
  ask_eq _ _ w

/-! ## Footprints -/

/-- A run of `x` keeps the node and the oracle, and appends only events satisfying `p`. -/
def Appends {α : Type} (p : Event → Prop) (x : M α) : Prop :=
  ∀ w, ∃ seg, (∀ e ∈ seg, p e) ∧ worldAfter (x w) = { w with trace := w.trace ++ seg }

/-- `Appends` from one world: what a run from `w` keeps and appends. -/
def AppendsAt {α : Type} (p : Event → Prop) (x : M α) (w : World) : Prop :=
  ∃ seg, (∀ e ∈ seg, p e) ∧ worldAfter (x w) = { w with trace := w.trace ++ seg }

namespace AppendsAt

variable {α β : Type} {p : Event → Prop} {w : World}

/-- Each half of a `bind` appends from the world it starts in. -/
theorem bind {x : M α} {f : α → M β} (hx : AppendsAt p x w)
    (hf : ∀ a w₁, x w = .ok a w₁ → AppendsAt p (f a) w₁) : AppendsAt p (x >>= f) w := by
  obtain ⟨s₁, hs₁, hw₁⟩ := hx
  cases hxw : x w with
  | ok a w₁ =>
    obtain ⟨s₂, hs₂, hw₂⟩ := hf a w₁ hxw
    simp only [hxw, worldAfter_ok] at hw₁
    refine ⟨s₁ ++ s₂, fun e he => ?_, by rw [bind_of_ok hxw, hw₂, hw₁]; simp⟩
    rcases List.mem_append.mp he with he | he
    · exact hs₁ e he
    · exact hs₂ e he
  | error e w₁ =>
    simp only [hxw, worldAfter_error] at hw₁
    exact ⟨s₁, hs₁, by rw [bind_of_error hxw, worldAfter_error, hw₁]⟩

theorem tryCatch {x : M α} {h : Exc → M α} (hx : AppendsAt p x w)
    (hh : ∀ e w₁, x w = .error e w₁ → AppendsAt p (h e) w₁) : AppendsAt p (tryCatch x h) w := by
  obtain ⟨s₁, hs₁, hw₁⟩ := hx
  cases hxw : x w with
  | ok a w₁ =>
    simp only [hxw, worldAfter_ok] at hw₁
    exact ⟨s₁, hs₁, by rw [tryCatch_of_ok hxw, worldAfter_ok, hw₁]⟩
  | error e w₁ =>
    obtain ⟨s₂, hs₂, hw₂⟩ := hh e w₁ hxw
    simp only [hxw, worldAfter_error] at hw₁
    refine ⟨s₁ ++ s₂, fun e he => ?_, by rw [tryCatch_of_error hxw, hw₂, hw₁]; simp⟩
    rcases List.mem_append.mp he with he | he
    · exact hs₁ e he
    · exact hs₂ e he

theorem node_of_ok {x : M α} {a : α} {w₁ : World} (hx : AppendsAt p x w) (h : x w = .ok a w₁) :
    w₁.node = w.node := by
  obtain ⟨_, -, hw⟩ := hx
  rw [h, worldAfter_ok] at hw
  rw [hw]

theorem mono {q : Event → Prop} {x : M α} (hx : AppendsAt p x w) (hpq : ∀ e, p e → q e) :
    AppendsAt q x w := by
  obtain ⟨s, hs, hw⟩ := hx
  exact ⟨s, fun e he => hpq e (hs e he), hw⟩

end AppendsAt

/-- `Appends` read from one world. -/
theorem Appends.appendsAt {α : Type} {p : Event → Prop} {x : M α} (hx : Appends p x) (w : World) :
    AppendsAt p x w := hx w

namespace Appends

variable {α β : Type} {p : Event → Prop}

theorem pure (a : α) : Appends p (pure a) := fun w => ⟨[], by simp, by simp⟩

theorem throw (e : Exc) : Appends p (throw e : M α) := fun w => ⟨[], by simp, by simp⟩

theorem getNode : Appends p getNode := fun w => ⟨[], by simp, by simp⟩

theorem liftExcept (r : Except Exc α) : Appends p (liftExcept r) := by
  cases r
  · exact throw _
  · exact pure _

theorem ask {answer : Oracle → List Event → Except Exc α} {entry : Except Exc α → Event}
    (hp : ∀ r, p (entry r)) : Appends p (ask answer entry) := fun w => by
  refine ⟨[entry (answer w.oracle w.trace)], by simpa using hp _, ?_⟩
  rw [ask_run]
  split <;> simp_all [World.push]

theorem sleep {ms : Nat} (hp : p (.sleep ms)) : Appends p (sleep ms) :=
  fun w => ⟨[.sleep ms], by simpa using hp, rfl⟩

theorem bind {x : M α} {f : α → M β} (hx : Appends p x) (hf : ∀ a, Appends p (f a)) :
    Appends p (x >>= f) := fun w => AppendsAt.bind (hx w) fun a w₁ _ => hf a w₁

theorem tryCatch {x : M α} {h : Exc → M α} (hx : Appends p x) (hh : ∀ e, Appends p (h e)) :
    Appends p (tryCatch x h) := fun w => AppendsAt.tryCatch (hx w) fun e w₁ _ => hh e w₁

theorem map {x : M α} (g : α → β) (hx : Appends p x) : Appends p (g <$> x) := fun w => by
  obtain ⟨s, hs, hw⟩ := hx w
  refine ⟨s, hs, ?_⟩
  cases hxw : x w <;> simp only [hxw, worldAfter_ok, worldAfter_error] at hw <;>
    simp only [Functor.map, EStateM.map, hxw, worldAfter_ok, worldAfter_error, hw]

theorem discard {x : M α} (hx : Appends p x) : Appends p (discard x) := map _ hx

theorem ite {c : Prop} [Decidable c] {x y : M α} (hx : Appends p x) (hy : Appends p y) :
    Appends p (if c then x else y) := by
  split
  · exact hx
  · exact hy

theorem mono {q : Event → Prop} {x : M α} (hx : Appends p x) (hpq : ∀ e, p e → q e) :
    Appends q x := fun w => by
  obtain ⟨s, hs, hw⟩ := hx w
  exact ⟨s, fun e he => hpq e (hs e he), hw⟩

/-- Forget what the appended events are. -/
theorem weaken {x : M α} (hx : Appends p x) : Appends (fun _ => True) x :=
  hx.mono fun _ _ => trivial

/-- The node after a run is the node before it. -/
theorem node_after {x : M α} (hx : Appends p x) (w : World) : (worldAfter (x w)).node = w.node := by
  obtain ⟨s, -, hw⟩ := hx w
  rw [hw]

/-- A run that returned appended its events and changed nothing else. -/
theorem eq_of_ok {x : M α} (hx : Appends p x) {w w₁ : World} {a : α} (h : x w = .ok a w₁) :
    ∃ seg, (∀ e ∈ seg, p e) ∧ w₁ = { w with trace := w.trace ++ seg } := by
  obtain ⟨seg, hs, hw⟩ := hx w
  rw [h, worldAfter_ok] at hw
  exact ⟨seg, hs, hw⟩

theorem node_of_ok {x : M α} (hx : Appends p x) {w w₁ : World} {a : α} (h : x w = .ok a w₁) :
    w₁.node = w.node := by
  simpa [h] using hx.node_after w

theorem node_of_error {x : M α} (hx : Appends p x) {w w₁ : World} {e : Exc}
    (h : x w = .error e w₁) : w₁.node = w.node := by
  simpa [h] using hx.node_after w

end Appends

/-- A run of `x` keeps the oracle and appends only events satisfying `p`; unlike `Appends`
it may change the node. -/
def Extends {α : Type} (p : Event → Prop) (x : M α) : Prop :=
  ∀ w, ∃ seg, (∀ e ∈ seg, p e) ∧ (worldAfter (x w)).oracle = w.oracle ∧
    (worldAfter (x w)).trace = w.trace ++ seg

theorem Appends.toExtends {α : Type} {p : Event → Prop} {x : M α} (hx : Appends p x) :
    Extends p x := fun w => by
  obtain ⟨s, hs, hw⟩ := hx w
  exact ⟨s, hs, by rw [hw], by rw [hw]⟩

namespace Extends

variable {α β : Type} {p : Event → Prop}

theorem setNode (n : Node) : Extends p (setNode n) := fun _ => ⟨[], by simp, rfl, by simp⟩

theorem processEvent {e : ProvEvent} (hp : ∀ r, p (.processEvent e r)) :
    Extends p (processEvent e) := fun w => by
  rw [processEvent_run]
  split <;> exact ⟨_, by simpa using hp _, rfl, rfl⟩

theorem bind {x : M α} {f : α → M β} (hx : Extends p x) (hf : ∀ a, Extends p (f a)) :
    Extends p (x >>= f) := fun w => by
  obtain ⟨s₁, hs₁, ho₁, ht₁⟩ := hx w
  cases hxw : x w with
  | ok a w₁ =>
    obtain ⟨s₂, hs₂, ho₂, ht₂⟩ := hf a w₁
    rw [hxw, worldAfter_ok] at ho₁ ht₁
    refine ⟨s₁ ++ s₂, fun e he => ?_, by rw [bind_of_ok hxw, ho₂, ho₁],
      by rw [bind_of_ok hxw, ht₂, ht₁, List.append_assoc]⟩
    rcases List.mem_append.mp he with he | he
    · exact hs₁ e he
    · exact hs₂ e he
  | error e w₁ =>
    rw [hxw, worldAfter_error] at ho₁ ht₁
    exact ⟨s₁, hs₁, by rw [bind_of_error hxw, worldAfter_error, ho₁],
      by rw [bind_of_error hxw, worldAfter_error, ht₁]⟩

theorem tryCatch {x : M α} {h : Exc → M α} (hx : Extends p x) (hh : ∀ e, Extends p (h e)) :
    Extends p (tryCatch x h) := fun w => by
  obtain ⟨s₁, hs₁, ho₁, ht₁⟩ := hx w
  cases hxw : x w with
  | ok a w₁ =>
    rw [hxw, worldAfter_ok] at ho₁ ht₁
    exact ⟨s₁, hs₁, by rw [tryCatch_of_ok hxw, worldAfter_ok, ho₁],
      by rw [tryCatch_of_ok hxw, worldAfter_ok, ht₁]⟩
  | error e w₁ =>
    obtain ⟨s₂, hs₂, ho₂, ht₂⟩ := hh e w₁
    rw [hxw, worldAfter_error] at ho₁ ht₁
    refine ⟨s₁ ++ s₂, fun e he => ?_, by rw [tryCatch_of_error hxw, ho₂, ho₁],
      by rw [tryCatch_of_error hxw, ht₂, ht₁, List.append_assoc]⟩
    rcases List.mem_append.mp he with he | he
    · exact hs₁ e he
    · exact hs₂ e he

theorem ite {c : Prop} [Decidable c] {x y : M α} (hx : Extends p x) (hy : Extends p y) :
    Extends p (if c then x else y) := by
  split
  · exact hx
  · exact hy

theorem mono {q : Event → Prop} {x : M α} (hx : Extends p x) (hpq : ∀ e, p e → q e) :
    Extends q x := fun w => by
  obtain ⟨s, hs, ho, ht⟩ := hx w
  exact ⟨s, fun e he => hpq e (hs e he), ho, ht⟩

end Extends

/-- A run of `x` that returns has appended a segment ending with `last`. -/
def EndsWith {α : Type} (x : M α) (last : Event) : Prop :=
  ∀ w a w', x w = .ok a w' → ∃ seg, w'.trace = w.trace ++ seg ++ [last]

namespace EndsWith

variable {α β : Type} {last : Event}

theorem bind {x : M α} {f : α → M β} (hx : Appends (fun _ => True) x)
    (hf : ∀ a, EndsWith (f a) last) :
    EndsWith (x >>= f) last := fun w b w' h => by
  obtain ⟨a, w₁, h₁, h₂⟩ := bind_eq_ok h
  obtain ⟨s₁, -, hw₁⟩ := hx w
  obtain ⟨s₂, hs₂⟩ := hf a w₁ b w' h₂
  rw [h₁, worldAfter_ok] at hw₁
  exact ⟨s₁ ++ s₂, by rw [hs₂, hw₁]; simp⟩

theorem discard {x : M α} (hx : EndsWith x last) : EndsWith (discard x) last := fun w _ w' h => by
  obtain ⟨a, ha⟩ := discard_eq_ok h
  exact hx w a w' ha

end EndsWith

/-- A run of `x` that raises `e` has appended a segment ending with an event `ev` such that
`P e ev`; with `P` false, `x` never raises. -/
def RaisesAfter {α : Type} (x : M α) (P : Exc → Event → Prop) : Prop :=
  ∀ w e w', x w = .error e w' → ∃ seg ev, w'.trace = w.trace ++ seg ++ [ev] ∧ P e ev

namespace RaisesAfter

variable {α β : Type} {P : Exc → Event → Prop}

theorem pure (a : α) : RaisesAfter (pure a) P := fun _ _ _ h => by cases h

theorem getNode : RaisesAfter getNode P := fun _ _ _ h => by cases h

theorem setNode (n : Node) : RaisesAfter (setNode n) P := fun _ _ _ h => by cases h

theorem ask {answer : Oracle → List Event → Except Exc α} {entry : Except Exc α → Event}
    (hp : ∀ e, P e (entry (.error e))) : RaisesAfter (ask answer entry) P := fun w e w' h => by
  rw [ask_eq] at h
  revert h
  cases answer w.oracle w.trace <;> intro h <;> cases h
  exact ⟨[], _, by simp [World.push], hp e⟩

theorem bind {x : M α} {f : α → M β} (hx : RaisesAfter x P) (hx' : Extends (fun _ => True) x)
    (hf : ∀ a, RaisesAfter (f a) P) : RaisesAfter (x >>= f) P := fun w e w' h => by
  rcases bind_eq_error h with h | ⟨a, w₁, h₁, h₂⟩
  · exact hx w e w' h
  · obtain ⟨s₁, -, -, ht₁⟩ := hx' w
    rw [h₁, worldAfter_ok] at ht₁
    obtain ⟨seg, ev, hs, hp⟩ := hf a w₁ e w' h₂
    exact ⟨s₁ ++ seg, ev, by rw [hs, ht₁]; simp, hp⟩

/-- A `try` whose handler never raises never raises. -/
theorem tryCatch {x : M α} {h : Exc → M α} (hh : ∀ e, RaisesAfter (h e) fun _ _ => False) :
    RaisesAfter (tryCatch x h) P := fun w e w' hr => by
  cases hxw : x w with
  | ok => rw [tryCatch_of_ok hxw] at hr; cases hr
  | error e₁ w₁ =>
    rw [tryCatch_of_error hxw] at hr
    obtain ⟨_, _, _, hf⟩ := hh e₁ w₁ e w' hr
    exact hf.elim

end RaisesAfter

end IronicAnsible
