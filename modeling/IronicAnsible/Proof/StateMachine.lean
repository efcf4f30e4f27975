import IronicAnsible.Proof.Frame

/-!
# Paths of the provisioning state machine

The abstract side of a deploy: ironic's provisioning state machine, and the sequences of
events it accepts (`pathEnd`). Along every path `done` comes at most once, and nothing
follows `done` or `fail`.

The code side: the events a trace records as processed (`processed`), and the footprint
`PathRun` of a run that processes only accepted events, which lead from the node's state
before the run to its state after. `PathRun` composes along `bind` and `try`, each step
knowing the state the steps before it left, and connects the driver's runs to the paths.
-/

namespace IronicAnsible

/-! ## Paths of the state machine -/

/-- Where the state machine goes from `s` on the events `evs`; `none` as soon as one of them
has no transition. -/
def pathEnd : ProvState → List ProvEvent → Option ProvState
  | s, [] => some s
  | s, e :: rest => (provisionTransition s e).bind (pathEnd · rest)

@[simp] theorem pathEnd_nil (s : ProvState) : pathEnd s [] = some s := rfl

@[simp] theorem pathEnd_cons (s : ProvState) (e : ProvEvent) (rest : List ProvEvent) :
    pathEnd s (e :: rest) = (provisionTransition s e).bind (pathEnd · rest) := rfl

theorem pathEnd_append (s : ProvState) (a b : List ProvEvent) :
    pathEnd s (a ++ b) = (pathEnd s a).bind (pathEnd · b) := by
  induction a generalizing s with
  | nil => rfl
  | cons e a ih => cases h : provisionTransition s e <;> simp [h, ih]

/-- `done` and `fail` lead to states nothing leaves. -/
theorem provisionTransition_after_end {s t : ProvState} {e : ProvEvent} (he : e = .done ∨ e = .fail)
    (h : provisionTransition s e = some t) (e' : ProvEvent) : provisionTransition t e' = none := by
  rcases he with rfl | rfl <;> cases s <;> cases h <;> cases e' <;> rfl

/-- `done` only ever leads to `active`. -/
theorem provisionTransition_done {s s' : ProvState} (h : provisionTransition s .done = some s') :
    s' = .active := by
  cases s <;> cases h
  rfl

/-- **No event after `done` or `fail`.** -/
theorem pathEnd_ends {s s' : ProvState} {pre post : List ProvEvent} {e : ProvEvent}
    (he : e = .done ∨ e = .fail) (h : pathEnd s (pre ++ e :: post) = some s') : post = [] := by
  rw [pathEnd_append] at h
  obtain ⟨t, -, ht⟩ := Option.bind_eq_some.mp h
  obtain ⟨t', htr, hpost⟩ := Option.bind_eq_some.mp ht
  cases post with
  | nil => rfl
  | cons e' _ => simp [provisionTransition_after_end he htr e'] at hpost

/-- **`done` at most once.** -/
theorem pathEnd_count_done {s s' : ProvState} {evs : List ProvEvent} (h : pathEnd s evs = some s') :
    evs.count .done ≤ 1 := by
  induction evs generalizing s with
  | nil => simp
  | cons e rest ih =>
    by_cases he : e = .done
    · subst he
      have : rest = [] := @pathEnd_ends _ _ [] _ _ (.inl rfl) h
      simp [this]
    · obtain ⟨t, -, ht⟩ := Option.bind_eq_some.mp h
      simpa [List.count_cons, he] using ih ht

/-! ## The events of a trace -/

/-- The provisioning event an entry records, with the state machine's answer. -/
def Event.provisioning : Event → Option (ProvEvent × Except Exc Unit)
  | .processEvent e r => some (e, r)
  | _ => none

/-- The provisioning events processed in a trace, with the answers. -/
def processed (t : List Event) : List (ProvEvent × Except Exc Unit) :=
  t.filterMap Event.provisioning

/-- An entry that is not a provisioning event. -/
def Event.silent (e : Event) : Prop := e.provisioning = none

/-- The events processed in `seg` were all accepted, and they lead from `s` to `s'`. -/
def IsPath (s : ProvState) (seg : List Event) (s' : ProvState) : Prop :=
  ∃ evs, processed seg = evs.map (·, .ok ()) ∧ pathEnd s evs = some s'

namespace IsPath

variable {s t u : ProvState} {a b : List Event}

theorem append (ha : IsPath s a t) (hb : IsPath t b u) : IsPath s (a ++ b) u := by
  obtain ⟨ea, hpa, hea⟩ := ha
  obtain ⟨eb, hpb, heb⟩ := hb
  exact ⟨ea ++ eb, by simp [processed, List.filterMap_append] at *; simp [hpa, hpb],
    by simp [pathEnd_append, hea, heb]⟩

theorem of_silent (h : ∀ e ∈ a, e.silent) : IsPath s a s :=
  ⟨[], List.filterMap_eq_nil_iff.mpr h, rfl⟩

theorem single {e : ProvEvent} (h : provisionTransition s e = some t) :
    IsPath s [.processEvent e (.ok ())] t :=
  ⟨[e], rfl, by simp [h]⟩

end IsPath

/-! ## Processing one event -/

section
variable {e : ProvEvent} {w w' : World} {u : Unit}

/-- An accepted event is a transition of the state machine, recorded in the trace. -/
theorem processEvent_eq_ok (h : processEvent e w = .ok u w') :
    provisionTransition w.node.provisionState e = some w'.node.provisionState ∧
      w'.trace = w.trace ++ [.processEvent e (.ok ())] := by
  rw [processEvent_run] at h
  split at h <;> cases h
  exact ⟨‹_›, rfl⟩

/-- From a state without a transition on `e`, the event is rejected and recorded so. -/
theorem processEvent_of_none (h : provisionTransition w.node.provisionState e = none) :
    ∃ m, processEvent e w = .error (.invalidState m)
      (w.push (.processEvent e (.error (.invalidState m)))) := by
  rw [processEvent_run, h]
  exact ⟨_, rfl⟩

end

/-! ## Runs along a path -/

/-- The run of `x` from `w` processes only accepted events, and they lead from the node's
state before the run to its state after. -/
def PathRun {α : Type} (x : M α) (w : World) : Prop :=
  ∃ seg, (worldAfter (x w)).trace = w.trace ++ seg ∧
    IsPath w.node.provisionState seg (worldAfter (x w)).node.provisionState

namespace PathRun

variable {α β : Type} {x : M α} {f : α → M β} {w : World}

theorem of_silent (hx : Appends Event.silent x) (w : World) : PathRun x w := by
  obtain ⟨seg, hs, hw⟩ := hx w
  exact ⟨seg, by rw [hw], by rw [hw]; exact .of_silent hs⟩

theorem bind (hx : PathRun x w) (hf : ∀ a w₁, x w = .ok a w₁ → PathRun (f a) w₁) :
    PathRun (x >>= f) w := by
  obtain ⟨s₁, ht₁, hp₁⟩ := hx
  unfold PathRun
  cases hxw : x w with
  | ok a w₁ =>
    obtain ⟨s₂, ht₂, hp₂⟩ := hf a w₁ hxw
    rw [hxw, worldAfter_ok] at ht₁ hp₁
    rw [bind_of_ok hxw]
    exact ⟨s₁ ++ s₂, by rw [ht₂, ht₁, List.append_assoc], hp₁.append hp₂⟩
  | error e w₁ =>
    rw [hxw] at ht₁ hp₁
    rw [bind_of_error hxw]
    exact ⟨s₁, ht₁, hp₁⟩

theorem tryCatch {h : Exc → M α} (hx : PathRun x w)
    (hh : ∀ e w₁, x w = .error e w₁ → PathRun (h e) w₁) : PathRun (tryCatch x h) w := by
  obtain ⟨s₁, ht₁, hp₁⟩ := hx
  unfold PathRun
  cases hxw : x w with
  | ok a w₁ =>
    rw [hxw] at ht₁ hp₁
    rw [tryCatch_of_ok hxw]
    exact ⟨s₁, ht₁, hp₁⟩
  | error e w₁ =>
    obtain ⟨s₂, ht₂, hp₂⟩ := hh e w₁ hxw
    rw [hxw, worldAfter_error] at ht₁ hp₁
    rw [tryCatch_of_error hxw]
    exact ⟨s₁ ++ s₂, by rw [ht₂, ht₁, List.append_assoc], hp₁.append hp₂⟩

theorem processEvent {e : ProvEvent} {s : ProvState}
    (h : provisionTransition w.node.provisionState e = some s) :
    PathRun (processEvent e) w := by
  refine ⟨[.processEvent e (.ok ())], ?_, ?_⟩ <;> rw [processEvent_run, h]
  · rfl
  · exact .single h

theorem setNode {n : Node} (h : n.provisionState = w.node.provisionState) :
    PathRun (setNode n) w :=
  ⟨[], by simp, by rw [← h]; exact .of_silent (by simp)⟩

end PathRun

end IronicAnsible
