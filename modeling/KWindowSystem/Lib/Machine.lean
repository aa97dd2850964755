import Mathlib.Data.List.Basic

/-!
# Machine — runs of deterministic components that emit outputs

A component is a step function `σ → ε → σ × List ω`: it answers an event with its next state and
the outputs it emits, in order.  `run` folds it over an event sequence, `Along` guards a run by a
condition on each step, and `replay` folds an observer over the outputs.  The rules that the
developments over it use are `run_invariant`, `run_emits`, `run_refines` and `run_replay`, which turn
what one step preserves into what every run preserves, their converses `always_iff_guarded` and
`replay_iff_along`, `run_project`, which runs an independent part of the state on its own,
`run_unwind`, which leaves out the events that do not matter to an observer, `run_told`, which relates the
state to what an observer makes of the outputs, and `run_beside`, which runs an auxiliary variable beside the
state.
-/

namespace Machine

variable {σ ε ω α : Type*}

/-- The final state of a run over `es`, with everything emitted on the way. -/
def run (step : σ → ε → σ × List ω) : σ → List ε → σ × List ω
  | s, [] => (s, [])
  | s, e :: es =>
      let now := step s e
      let rest := run step now.1 es
      (rest.1, now.2 ++ rest.2)

/-- Every step of the run over `es` meets `ok` in the state it is taken from. -/
def Along (step : σ → ε → σ × List ω) (ok : σ → ε → Prop) : σ → List ε → Prop
  | _, [] => True
  | s, e :: es => ok s e ∧ Along step ok (step s e).1 es

instance decidableAlong (step : σ → ε → σ × List ω) (ok : σ → ε → Prop) [∀ s e, Decidable (ok s e)] :
    ∀ (s : σ) (es : List ε), Decidable (Along step ok s es)
  | _, [] => isTrue trivial
  | s, e :: es =>
      have := decidableAlong step ok (step s e).1 es
      inferInstanceAs (Decidable (ok s e ∧ Along step ok (step s e).1 es))

/-- Fold an observer over the outputs; `none` once an output does not fit its view. -/
def replay (view : α → ω → Option α) : α → List ω → Option α
  | a, [] => some a
  | a, o :: os => (view a o).bind fun a' => replay view a' os

section Run

variable {step : σ → ε → σ × List ω}

@[simp] theorem run_nil (s : σ) : run step s [] = (s, []) := rfl

theorem run_cons (s : σ) (e : ε) (es : List ε) :
    run step s (e :: es) =
      ((run step (step s e).1 es).1, (step s e).2 ++ (run step (step s e).1 es).2) := rfl

theorem run_append (s : σ) (es fs : List ε) :
    run step s (es ++ fs) =
      ((run step (run step s es).1 fs).1,
        (run step s es).2 ++ (run step (run step s es).1 fs).2) := by
  induction es generalizing s with
  | nil => simp
  | cons e es ih => simp [run_cons, ih, List.append_assoc]

theorem along_append (ok : σ → ε → Prop) (s : σ) (es fs : List ε) :
    Along step ok s (es ++ fs) ↔ Along step ok s es ∧ Along step ok (run step s es).1 fs := by
  induction es generalizing s with
  | nil => simp [Along]
  | cons e es ih => simp [Along, run_cons, ih, and_assoc]

-- A guard that does not look at the state.
theorem along_of_forall {ok : ε → Prop} (s : σ) {es : List ε} (h : ∀ e ∈ es, ok e) :
    Along step (fun _ e => ok e) s es := by
  induction es generalizing s with
  | nil => trivial
  | cons e es ih =>
      rw [List.forall_mem_cons] at h
      exact ⟨h.1, ih _ h.2⟩

@[simp] theorem along_true (s : σ) (es : List ε) : Along step (fun _ _ => True) s es :=
  along_of_forall s fun _ _ => trivial

-- A run that is not guarded has a first step that is not.
theorem exists_first_of_not_along {ok : σ → ε → Prop} {s : σ} {es : List ε} (h : ¬Along step ok s es) :
    ∃ pre e post, es = pre ++ e :: post ∧ Along step ok s pre ∧ ¬ok (run step s pre).1 e := by
  induction es generalizing s with
  | nil => exact absurd trivial h
  | cons e es ih =>
      by_cases he : ok s e
      · rcases ih (fun hrest => h ⟨he, hrest⟩) with ⟨pre, e', post, heq, hpre, hfirst⟩
        exact ⟨e :: pre, e', post, congrArg _ heq, ⟨he, hpre⟩, hfirst⟩
      · exact ⟨[], e, es, rfl, trivial, he⟩

-- The guard, said of every way to split the run.
theorem along_iff_split {ok : σ → ε → Prop} {s : σ} {es : List ε} :
    Along step ok s es ↔ ∀ pre e post, es = pre ++ e :: post → ok (run step s pre).1 e := by
  apply Iff.intro
  · intro h pre e post heq
    rw [heq, along_append] at h
    exact h.2.1
  · intro hall
    by_contra hnot
    rcases exists_first_of_not_along hnot with ⟨pre, e, post, heq, _, hfirst⟩
    exact hfirst (hall pre e post heq)

-- An invariant that every guarded step preserves holds after every guarded run.
theorem run_invariant (Inv : σ → Prop) {ok : σ → ε → Prop}
    (hstep : ∀ s e, Inv s → ok s e → Inv (step s e).1)
    {s : σ} {es : List ε} (hs : Inv s) (hok : Along step ok s es) :
    Inv (run step s es).1 := by
  induction es generalizing s with
  | nil => exact hs
  | cons e es ih => exact ih (hstep s e hs hok.1) hok.2

-- Two guards that agree in all states of an invariant guard the same runs.
theorem along_congr (Inv : σ → Prop) {ok ok' : σ → ε → Prop} (hinv : ∀ s e, Inv s → Inv (step s e).1)
    (h : ∀ s e, Inv s → (ok s e ↔ ok' s e)) {s : σ} (es : List ε) (hs : Inv s) :
    Along step ok s es ↔ Along step ok' s es := by
  induction es generalizing s with
  | nil => rfl
  | cons e es ih => exact and_congr (h s e hs) (ih (hinv s e hs))

-- What holds of the outputs of every guarded step holds of everything a guarded run emits.
theorem run_emits (Inv : σ → Prop) {ok : σ → ε → Prop} {allowed : ω → Prop}
    (hstep : ∀ s e, Inv s → ok s e → Inv (step s e).1 ∧ ∀ o ∈ (step s e).2, allowed o)
    {s : σ} {es : List ε} (hs : Inv s) (hok : Along step ok s es) :
    ∀ o ∈ (run step s es).2, allowed o := by
  induction es generalizing s with
  | nil => simp
  | cons e es ih =>
      obtain ⟨hinv, hout⟩ := hstep s e hs hok.1
      intro o ho
      rw [run_cons, List.mem_append] at ho
      exact ho.elim (hout o) (ih hinv hok.2 o)

-- A property that rests on an invariant, which guarded steps keep while every other step breaks the
-- property, holds all along a run over the events of a domain exactly if every step is guarded.
theorem always_iff_guarded_on (dom : ε → Prop) (Inv P : σ → Prop) (ok : σ → ε → Prop)
    (hP : ∀ s, Inv s → P s) (hkeep : ∀ s e, dom e → Inv s → ok s e → Inv (step s e).1)
    (hbreak : ∀ s e, dom e → Inv s → P (step s e).1 → ok s e) {s : σ} {es : List ε}
    (hes : ∀ e ∈ es, dom e) (hs : Inv s) :
    (∀ n, P (run step s (es.take n)).1) ↔ Along step ok s es := by
  induction es generalizing s with
  | nil => simp [Along, hP s hs]
  | cons e es ih =>
      rw [List.forall_mem_cons] at hes
      have hsplit : (∀ n, P (run step s ((e :: es).take n)).1) ↔
          ∀ n, P (run step (step s e).1 (es.take n)).1 := by
        apply Iff.intro
        · intro hall n
          exact hall (n + 1)
        · intro hall n
          cases n with
          | zero => exact hP s hs
          | succ n => exact hall n
      rw [hsplit, Along]
      apply Iff.intro
      · intro hall
        have hok := hbreak s e hes.1 hs (hall 0)
        exact ⟨hok, (ih hes.2 (hkeep s e hes.1 hs hok)).mp hall⟩
      · intro hok
        exact (ih hes.2 (hkeep s e hes.1 hs hok.1)).mpr hok.2

theorem always_iff_guarded (Inv P : σ → Prop) (ok : σ → ε → Prop) (hP : ∀ s, Inv s → P s)
    (hkeep : ∀ s e, Inv s → ok s e → Inv (step s e).1)
    (hbreak : ∀ s e, Inv s → P (step s e).1 → ok s e) {s : σ} (es : List ε) (hs : Inv s) :
    (∀ n, P (run step s (es.take n)).1) ↔ Along step ok s es :=
  always_iff_guarded_on (fun _ => True) Inv P ok hP (fun s e _ => hkeep s e) (fun s e _ => hbreak s e)
    (fun _ _ => trivial) hs

-- A property that a step keeps exactly under a condition holds all along a run exactly if every step
-- meets the condition.
theorem always_iff_along (Inv P : σ → Prop) (ok : σ → ε → Prop)
    (hinv : ∀ s e, Inv s → Inv (step s e).1)
    (hstep : ∀ s e, Inv s → P s → (P (step s e).1 ↔ ok s e))
    {s : σ} (es : List ε) (hs : Inv s) (h : P s) :
    (∀ n, P (run step s (es.take n)).1) ↔ Along step ok s es :=
  always_iff_guarded (fun s => Inv s ∧ P s) P ok (fun _ hs => hs.2)
    (fun s e hs hok => ⟨hinv s e hs.1, (hstep s e hs.1 hs.2).mpr hok⟩)
    (fun s e hs hP => (hstep s e hs.1 hs.2).mp hP) es ⟨hs, h⟩

-- A run follows an abstract one that every step is related to.
theorem run_refines {τ : Type*} (R : σ → τ → Prop) (next : τ → ε → τ)
    (hstep : ∀ s t e, R s t → R (step s e).1 (next t e))
    {s : σ} {t : τ} (es : List ε) (h : R s t) : R (run step s es).1 (es.foldl next t) := by
  induction es generalizing s t with
  | nil => exact h
  | cons e es ih => exact ih (hstep s t e h)

-- A run stays related to what an observer makes of its outputs.
theorem run_told {τ : Type*} (R : σ → τ → Prop) (tell : τ → ω → τ)
    (hstep : ∀ s t e, R s t → R (step s e).1 ((step s e).2.foldl tell t))
    {s : σ} {t : τ} (es : List ε) (h : R s t) :
    R (run step s es).1 ((run step s es).2.foldl tell t) := by
  induction es generalizing s t with
  | nil => exact h
  | cons e es ih =>
      rw [run_cons, List.foldl_append]
      exact ih (hstep s t e h)

-- A part of the state that only some of the events touch, and only their outputs report on, runs on
-- its own over those events.
theorem run_project {τ ω' : Type*} (step : σ → ε → σ × List ω) (part : τ → ε → τ × List ω')
    (proj : σ → τ) (mine : ε → Bool) (seen : ω → Option ω')
    (hmine : ∀ s e, mine e = true → proj (step s e).1 = (part (proj s) e).1 ∧
      (step s e).2.filterMap seen = (part (proj s) e).2)
    (hother : ∀ s e, mine e = false → proj (step s e).1 = proj s ∧ (step s e).2.filterMap seen = [])
    (s : σ) (es : List ε) :
    proj (run step s es).1 = (run part (proj s) (es.filter mine)).1 ∧
      (run step s es).2.filterMap seen = (run part (proj s) (es.filter mine)).2 := by
  induction es generalizing s with
  | nil => exact ⟨rfl, rfl⟩
  | cons e es ih =>
      have hrest := ih (step s e).1
      rw [run_cons, List.filterMap_append]
      cases he : mine e with
      | true =>
          have hnow := hmine s e he
          rw [List.filter_cons_of_pos he, run_cons, ← hnow.1, ← hnow.2]
          exact ⟨hrest.1, congrArg _ hrest.2⟩
      | false =>
          have hnow := hother s e he
          rw [List.filter_cons_of_neg (by simp [he]), ← hnow.1, hnow.2, List.nil_append]
          exact hrest

-- An observer that does not tell two states apart, by its view and by what it sees of the answer to an event that
-- matters to it, does not tell a run from the run over the events that matter.
theorem run_unwind {τ : Type*} (step : σ → ε → σ × List ω) (view : σ → τ) (mine : ε → Bool) (seen : ω → Bool)
    (dom : ε → Prop)
    (hmine : ∀ s t e, dom e → mine e = true → view s = view t →
      view (step s e).1 = view (step t e).1 ∧ (step s e).2.filter seen = (step t e).2.filter seen)
    (hother : ∀ s e, dom e → mine e = false → view (step s e).1 = view s ∧ (step s e).2.filter seen = [])
    {s t : σ} {es : List ε} (hes : ∀ e ∈ es, dom e) (h : view s = view t) :
    view (run step s es).1 = view (run step t (es.filter mine)).1 ∧
      (run step s es).2.filter seen = (run step t (es.filter mine)).2.filter seen := by
  induction es generalizing s t with
  | nil => exact ⟨h, rfl⟩
  | cons e es ih =>
      rw [List.forall_mem_cons] at hes
      rw [run_cons, List.filter_append]
      cases he : mine e with
      | true =>
          have hnow := hmine s t e hes.1 he h
          have hrest := ih hes.2 hnow.1
          rw [List.filter_cons_of_pos he, run_cons, List.filter_append]
          exact ⟨hrest.1, congrArg₂ _ hnow.2 hrest.2⟩
      | false =>
          have hnow := hother s e hes.1 he
          rw [List.filter_cons_of_neg (by simp [he]), hnow.2, List.nil_append]
          exact ih hes.2 (hnow.1.trans h)

/-- A component that emits nothing. -/
def silent (next : σ → ε → σ) : σ → ε → σ × List Empty := fun s e => (next s e, [])

theorem run_silent (next : σ → ε → σ) (s : σ) (es : List ε) :
    (run (silent next) s es).1 = es.foldl next s := by
  induction es generalizing s with
  | nil => rfl
  | cons e es ih => exact ih (next s e)

/-- The component with an auxiliary variable beside it, which only the events change. -/
def beside {τ : Type*} (step : σ → ε → σ × List ω) (next : τ → ε → τ) : σ × τ → ε → (σ × τ) × List ω :=
  fun s e => (((step s.1 e).1, next s.2 e), (step s.1 e).2)

theorem run_beside {τ : Type*} (next : τ → ε → τ) (s : σ) (t : τ) (es : List ε) :
    (run (beside step next) (s, t) es).1 = ((run step s es).1, es.foldl next t) := by
  induction es generalizing s t with
  | nil => rfl
  | cons e es ih => exact ih (step s e).1 (next t e)

theorem along_beside {τ : Type*} (next : τ → ε → τ) (ok : σ → ε → Prop) (s : σ) (t : τ) (es : List ε) :
    Along (beside step next) (fun s e => ok s.1 e) (s, t) es ↔ Along step ok s es := by
  induction es generalizing s t with
  | nil => rfl
  | cons e es ih => exact and_congr_right fun _ => ih (step s e).1 (next t e)

end Run

section Replay

variable {view : α → ω → Option α}

@[simp] theorem replay_nil (a : α) : replay view a [] = some a := rfl

@[simp] theorem replay_cons (a : α) (o : ω) (os : List ω) :
    replay view a (o :: os) = (view a o).bind fun a' => replay view a' os := rfl

theorem replay_append (a : α) (os ps : List ω) :
    replay view a (os ++ ps) = (replay view a os).bind fun a' => replay view a' ps := by
  induction os generalizing a with
  | nil => simp
  | cons o os ih =>
      rw [List.cons_append, replay_cons, replay_cons, Option.bind_assoc]
      exact congrArg _ (funext fun a' => ih a')

-- An observer whose view follows the abstraction `abs` of the state across every guarded step
-- follows it across every guarded run: no output of the run is unexpected.
theorem run_replay {step : σ → ε → σ × List ω} (Inv : σ → Prop) {ok : σ → ε → Prop} (abs : σ → α)
    (hstep : ∀ s e, Inv s → ok s e →
      Inv (step s e).1 ∧ replay view (abs s) (step s e).2 = some (abs (step s e).1))
    {s : σ} {es : List ε} (hs : Inv s) (hok : Along step ok s es) :
    replay view (abs s) (run step s es).2 = some (abs (run step s es).1) := by
  induction es generalizing s with
  | nil => rfl
  | cons e es ih =>
      obtain ⟨hinv, hrep⟩ := hstep s e hs hok.1
      rw [run_cons, replay_append, hrep]
      exact ih hinv hok.2

-- Folding a total observer is a replay that accepts everything.
theorem replay_some (f : α → ω → α) (a : α) (os : List ω) :
    replay (fun a o => some (f a o)) a os = some (os.foldl f a) := by
  induction os generalizing a with
  | nil => rfl
  | cons o os ih => exact ih (f a o)

-- An observer that follows the abstraction across a step exactly under a condition follows it all along
-- a run exactly if every step meets the condition.
theorem replay_iff_along {step : σ → ε → σ × List ω} (Inv : σ → Prop) {ok : σ → ε → Prop} (abs : σ → α)
    (hinv : ∀ s e, Inv s → Inv (step s e).1)
    (hstep : ∀ s e, Inv s → (replay view (abs s) (step s e).2 = some (abs (step s e).1) ↔ ok s e))
    {s : σ} (es : List ε) (hs : Inv s) :
    (∀ n, replay view (abs s) (run step s (es.take n)).2 = some (abs (run step s (es.take n)).1)) ↔
      Along step ok s es := by
  induction es generalizing s with
  | nil => simp [Along]
  | cons e es ih =>
      have hone := hstep s e hs
      have hrest := ih (hinv s e hs)
      rw [Along]
      apply Iff.intro
      · intro hall
        have hfirst : replay view (abs s) (step s e).2 = some (abs (step s e).1) := by
          have h := hall 1
          rw [List.take_succ_cons, List.take_zero, run_cons, run_nil, List.append_nil] at h
          exact h
        apply And.intro (hone.mp hfirst)
        apply hrest.mp
        intro n
        have h := hall (n + 1)
        rw [List.take_succ_cons, run_cons, replay_append, hfirst] at h
        exact h
      · intro hok n
        cases n with
        | zero => rfl
        | succ n =>
            rw [List.take_succ_cons, run_cons, replay_append, hone.mpr hok.1]
            exact hrest.mpr hok.2 n

end Replay

end Machine
