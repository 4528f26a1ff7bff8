import Mathlib.Data.List.Infix
import Mathlib.Data.Prod.Basic

/-!
# Runs of a deterministic machine

A machine is a step function `step : σ → ε → σ`; a run is the fold of its events. A guard
`ok : σ → ε → Prop` restricts which event may be taken in which state, and `Guarded` says that every
step of a run meets it. The rules below turn a fact about one step into a fact about every run:
`run_inv` for an invariant, `run_rel` for an invariant and a reflexive, transitive relation between
the ends of the run, and `forall_reached_iff_guarded` for the converse, when a step off the guard
breaks what the invariant gives at once.
-/

namespace Tipy.Lib

section Runs

variable {σ ε : Type*} (step : σ → ε → σ) (ok : σ → ε → Prop)

/-- The state a list of events leads to. -/
def run (s : σ) (es : List ε) : σ := es.foldl step s

/-- Every step of the run meets the guard in the state it is taken from. -/
def Guarded : σ → List ε → Prop
  | _, [] => True
  | s, e :: es => ok s e ∧ Guarded (step s e) es

instance decidableGuarded [∀ s e, Decidable (ok s e)] :
    ∀ (s : σ) (es : List ε), Decidable (Guarded step ok s es)
  | _, [] => .isTrue trivial
  | s, e :: es =>
    have := decidableGuarded (step s e) es
    inferInstanceAs (Decidable (ok s e ∧ Guarded step ok (step s e) es))

@[simp] theorem run_nil (s : σ) : run step s [] = s := rfl

@[simp] theorem run_cons (s : σ) (e : ε) (es : List ε) :
    run step s (e :: es) = run step (step s e) es := rfl

theorem run_append (s : σ) (es es' : List ε) :
    run step s (es ++ es') = run step (run step s es) es' :=
  List.foldl_append ..

/-- What the steps of a run put out, each in the state it is taken from. -/
def outputs {ω : Type*} (out : σ → ε → List ω) : σ → List ε → List ω
  | _, [] => []
  | s, e :: es => out s e ++ outputs out (step s e) es

theorem outputs_append {ω : Type*} (out : σ → ε → List ω) (s : σ) (es es' : List ε) :
    outputs step out s (es ++ es') = outputs step out s es ++
        outputs step out (run step s es) es' := by
  induction es generalizing s with
  | nil => rfl
  | cons e es ih => simp only [List.cons_append, outputs, ih, run_cons, List.append_assoc]

@[simp] theorem guarded_nil (s : σ) : Guarded step ok s [] := trivial

@[simp] theorem guarded_cons (s : σ) (e : ε) (es : List ε) :
    Guarded step ok s (e :: es) ↔ ok s e ∧ Guarded step ok (step s e) es := Iff.rfl

theorem guarded_append (s : σ) (es es' : List ε) :
    Guarded step ok s (es ++ es') ↔
      Guarded step ok s es ∧ Guarded step ok (run step s es) es' := by
  induction es generalizing s with
  | nil => simp
  | cons e es ih => simp [ih, and_assoc]

variable {step ok}

/-- A guarded run stays guarded when it is cut short. -/
theorem Guarded.of_prefix {s : σ} {es es' : List ε} (h : Guarded step ok s es') (hp : es <+: es') :
    Guarded step ok s es := by
  obtain ⟨t, rfl⟩ := hp
  exact ((guarded_append step ok s es t).1 h).1

theorem Guarded.and {ok' : σ → ε → Prop} {s : σ} {es : List ε} (h : Guarded step ok s es)
    (h' : Guarded step ok' s es) : Guarded step (fun s e => ok s e ∧ ok' s e) s es := by
  induction es generalizing s with
  | nil => trivial
  | cons e es ih => exact ⟨⟨h.1, h'.1⟩, ih h.2 h'.2⟩

theorem guarded_of_forall_mem {P : ε → Prop} {es : List ε} (h : ∀ e ∈ es, P e) (s : σ) :
    Guarded step (fun _ e => P e) s es := by
  induction es generalizing s with
  | nil => trivial
  | cons e es ih =>
    exact ⟨h e List.mem_cons_self, ih (fun e he => h e (List.mem_cons_of_mem _ he)) _⟩

/-- A run is guarded when an invariant that its events keep gives the guard. -/
theorem guarded_of_inv {P : ε → Prop} {I : σ → Prop}
    (hstep : ∀ s e, I s → P e → ok s e ∧ I (step s e)) {s : σ} {es : List ε} (hs : I s)
    (h : ∀ e ∈ es, P e) : Guarded step ok s es := by
  induction es generalizing s with
  | nil => trivial
  | cons e es ih =>
    obtain ⟨hok, hnext⟩ := hstep s e hs (h e List.mem_cons_self)
    exact ⟨hok, ih hnext fun e he => h e (List.mem_cons_of_mem _ he)⟩

/-- **Invariant rule.** What every guarded step preserves holds at the end of every guarded run. -/
theorem run_inv {I : σ → Prop} (hstep : ∀ s e, I s → ok s e → I (step s e)) {s : σ}
    {es : List ε} (hs : I s) (h : Guarded step ok s es) : I (run step s es) := by
  induction es generalizing s with
  | nil => exact hs
  | cons e es ih => exact ih (hstep s e hs h.1) h.2

/-- **Relational rule.** A reflexive, transitive relation that every guarded step from the invariant
satisfies relates the two ends of every guarded run. -/
theorem run_rel {I : σ → Prop} {R : σ → σ → Prop} (hrefl : ∀ s, R s s)
    (htrans : ∀ {a b c}, R a b → R b c → R a c)
    (hstep : ∀ s e, I s → ok s e → I (step s e) ∧ R s (step s e)) {s : σ} {es : List ε}
    (hs : I s) (h : Guarded step ok s es) : R s (run step s es) := by
  induction es generalizing s with
  | nil => exact hrefl s
  | cons e es ih =>
    obtain ⟨hinv, hrel⟩ := hstep s e hs h.1
    exact htrans hrel (ih hinv h.2)

/-- The unguarded form of `run_inv`. -/
theorem run_inv' {I : σ → Prop} (hstep : ∀ s e, I s → I (step s e)) {s : σ} (hs : I s)
    (es : List ε) : I (run step s es) := by
  induction es generalizing s with
  | nil => exact hs
  | cons e es ih => exact ih (hstep s e hs)

/-- **Simulation rule.** A relation between two machines that every event keeps is kept by every
run. -/
theorem run_sim {σ' : Type*} {step' : σ' → ε → σ'} {R : σ → σ' → Prop}
    (hstep : ∀ s s' e, R s s' → R (step s e) (step' s' e)) {s : σ} {s' : σ'} (h : R s s')
    (es : List ε) : R (run step s es) (run step' s' es) := by
  induction es generalizing s s' with
  | nil => exact h
  | cons e es ih => exact ih (hstep s s' e h)

/-- **History rule.** What holds of a state and a history, and of the state after a step and the
history with something added, holds of the end of a run and some history. -/
theorem run_history {τ : Type*} {I : σ → List τ → Prop}
    (hstep : ∀ s t e, I s t → ok s e → ∃ t', I (step s e) (t ++ t')) {s : σ}
    {t : List τ} (hs : I s t) {es : List ε} (h : Guarded step ok s es) : ∃ t', I
    (run step s es) (t ++ t') := by
  induction es generalizing s t with
  | nil => exact ⟨[], by rwa [List.append_nil]⟩
  | cons e es ih =>
    obtain ⟨t₁, h₁⟩ := hstep s t e hs h.1
    obtain ⟨t₂, h₂⟩ := ih h₁ h.2
    exact ⟨t₁ ++ t₂, by rwa [← List.append_assoc]⟩

/-- When guarded steps keep an invariant that gives `post`, and a step off the guard breaks `post`
at once, the runs with `post` in every state reached are exactly the guarded ones. Here `D` is the
domain the events are drawn from. -/
theorem forall_reached_iff_guarded {D : σ → ε → Prop} {I post : σ → Prop}
    (hpost : ∀ s, I s → post s)
    (hstep : ∀ s e, I s → D s e → ok s e → I (step s e))
    (hbreak : ∀ s e, I s → D s e → post (step s e) → ok s e) {s : σ} (hs : I s)
    {es : List ε} (hdom : Guarded step D s es) :
    (∀ pre, pre <+: es → post (run step s pre)) ↔ Guarded step ok s es := by
  constructor
  · intro h
    induction es generalizing s with
    | nil => trivial
    | cons e es ih =>
      have hok : ok s e := hbreak s e hs hdom.1 (h [e] (by simp))
      refine ⟨hok, ih (hstep s e hs hdom.1 hok) hdom.2 fun pre hp => ?_⟩
      simpa using h (e :: pre) (List.cons_prefix_cons.2 ⟨rfl, hp⟩)
  · intro h pre hp
    induction es generalizing s pre with
    | nil =>
      rw [List.prefix_nil.1 hp]
      exact hpost s hs
    | cons e es ih =>
      cases pre with
      | nil => exact hpost s hs
      | cons e' pre =>
        obtain ⟨rfl, htail⟩ := List.cons_prefix_cons.1 hp
        exact ih (hstep s e' hs hdom.1 h.1) hdom.2 h.2 pre htail

end Runs

end Tipy.Lib
