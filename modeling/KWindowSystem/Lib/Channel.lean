import KWindowSystem.Lib.Machine
import Mathlib.Logic.Function.Basic

/-!
# Channel — several senders heard by one listener

A stream carries what the senders say, each tagged with its sender, and events of the listener's own in between.
`heardFrom` is what one sender says in it.  Where each sender says the images of some values, the stream is the
image of a stream of those values (`exists_preimage`), so that a listener which decodes its input is one that
hears the values themselves.  `passing` lets a component leave the events alone that are not for it, and `pipe`
puts one component behind another.
-/

namespace Channel

open Machine

variable {ι α β κ σ τ ε ω ψ : Type*}

section Streams

variable [DecidableEq ι]

/-- What the sender `i` says in a stream. -/
def heardFrom (i : ι) (stream : List (ι × α ⊕ κ)) : List α :=
  stream.filterMap fun
    | .inl o => if o.1 = i then some o.2 else none
    | .inr _ => none

@[simp] theorem heardFrom_nil (i : ι) : heardFrom i ([] : List (ι × α ⊕ κ)) = [] := rfl

theorem heardFrom_said (i j : ι) (a : α) (stream : List (ι × α ⊕ κ)) :
    heardFrom i (.inl (j, a) :: stream) = if j = i then a :: heardFrom i stream else heardFrom i stream := by
  unfold heardFrom
  rw [List.filterMap_cons]
  dsimp only
  split <;> simp_all

@[simp] theorem heardFrom_event (i : ι) (k : κ) (stream : List (ι × α ⊕ κ)) :
    heardFrom i (.inr k :: stream) = heardFrom i stream := rfl

-- By induction on the stream: the sender of its first element has said the image of its first value.
theorem exists_preimage (f : α → β) {sends : ι → List α} {stream : List (ι × β ⊕ κ)}
    (h : ∀ i, heardFrom i stream = (sends i).map f) :
    ∃ order : List (ι × α ⊕ κ), order.map (Sum.map (Prod.map id f) id) = stream ∧
      ∀ i, heardFrom i order = sends i := by
  induction stream generalizing sends with
  | nil => exact ⟨[], rfl, fun i => (List.map_eq_nil_iff.mp (h i).symm).symm⟩
  | cons o stream ih =>
      cases o with
      | inr k =>
          obtain ⟨order, hmap, hsends⟩ := ih h
          exact ⟨.inr k :: order, congrArg _ hmap, hsends⟩
      | inl o =>
          obtain ⟨j, b⟩ := o
          have hj := h j
          rw [heardFrom_said, if_pos rfl] at hj
          obtain ⟨a, as, hsaid, ha, has⟩ := List.map_eq_cons_iff.mp hj.symm
          have hlater : ∀ i, heardFrom i stream = (Function.update sends j as i).map f := by
            intro i
            by_cases hi : j = i
            · subst hi
              rw [Function.update_self, has]
            · rw [Function.update_of_ne (Ne.symm hi), ← h i, heardFrom_said, if_neg hi]
          obtain ⟨order, hmap, hsends⟩ := ih hlater
          refine ⟨.inl (j, a) :: order, ?_, fun i => ?_⟩
          · rw [List.map_cons, hmap, ← ha]
            rfl
          · rw [heardFrom_said, hsends i]
            by_cases hi : j = i
            · subst hi
              rw [if_pos rfl, Function.update_self, hsaid]
            · rw [if_neg hi, Function.update_of_ne (Ne.symm hi)]

end Streams

/-! ## Components in a row -/

/-- The component leaves the events alone that are not for it. -/
def passing (step : σ → ε → σ × List ω) (s : σ) : ε ⊕ κ → σ × List (ω ⊕ κ)
  | .inl e => ((step s e).1, (step s e).2.map .inl)
  | .inr k => (s, [.inr k])

theorem run_passing (step : σ → ε → σ × List ω) (s : σ) (es : List (ε ⊕ κ)) :
    (run (passing step) s es).1 = (run step s (es.filterMap Sum.getLeft?)).1 ∧
      (run (passing step) s es).2.filterMap Sum.getLeft? = (run step s (es.filterMap Sum.getLeft?)).2 ∧
      (run (passing step) s es).2.filterMap Sum.getRight? = es.filterMap Sum.getRight? := by
  induction es generalizing s with
  | nil => exact ⟨rfl, rfl, rfl⟩
  | cons e es ih =>
      cases e with
      | inl e =>
          obtain ⟨hstate, hout, hrest⟩ := ih (step s e).1
          have hlefts : ((step s e).2.map Sum.inl).filterMap (Sum.getLeft? (β := κ)) = (step s e).2 := by
            rw [List.filterMap_map]
            exact List.filterMap_some
          have hrights : ((step s e).2.map Sum.inl).filterMap (Sum.getRight? (β := κ)) = [] := by
            rw [List.filterMap_map]
            exact List.filterMap_eq_nil_iff.mpr fun _ _ => rfl
          refine ⟨hstate, ?_, ?_⟩
          · show ((step s e).2.map Sum.inl ++ (run (passing step) (step s e).1 es).2).filterMap _ = _
            rw [List.filterMap_append, hlefts, hout]
            rfl
          · show ((step s e).2.map Sum.inl ++ (run (passing step) (step s e).1 es).2).filterMap _ = _
            rw [List.filterMap_append, hrights, hrest]
            rfl
      | inr k =>
          obtain ⟨hstate, hout, hrest⟩ := ih s
          exact ⟨hstate, hout, congrArg (k :: ·) hrest⟩

/-- The second component answers what the first one emits, at once. -/
def pipe (first : σ → ε → σ × List ω) (second : τ → ω → τ × List ψ) (s : σ × τ) (e : ε) :
    (σ × τ) × List ψ :=
  let now := first s.1 e
  let rest := run second s.2 now.2
  ((now.1, rest.1), rest.2)

theorem run_pipe (first : σ → ε → σ × List ω) (second : τ → ω → τ × List ψ) (s : σ × τ) (es : List ε) :
    run (pipe first second) s es =
      (((run first s.1 es).1, (run second s.2 (run first s.1 es).2).1),
        (run second s.2 (run first s.1 es).2).2) := by
  induction es generalizing s with
  | nil => rfl
  | cons e es ih =>
      rw [run_cons, ih, run_cons, run_append]
      rfl

-- A component that decodes its input, on the images of values.
theorem run_map (step : σ → β → σ × List ω) (f : α → β) (s : σ) (as : List α) :
    run step s (as.map f) = run (fun s a => step s (f a)) s as := by
  induction as generalizing s with
  | nil => rfl
  | cons a as ih =>
      rw [List.map_cons, run_cons, run_cons, ih]

end Channel
