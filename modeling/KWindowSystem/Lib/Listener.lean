import KWindowSystem.Lib.Machine

/-!
# Listener — values that are announced when they change

A component has some values that can be asked for, and emits outputs that announce values.  A listener
starts from the values and takes over what is announced.  If nothing but the truth is announced, it has
the values of the component all along a run exactly if every step announces what it changes
(`follows_iff_complete`).
-/

open Machine

namespace Listener

variable {κ : Type*} {Value : κ → Type*} {σ ε ω : Type*}
  (tells : ω → (k : κ) → Option (Value k))

def listen (view : (k : κ) → Value k) (o : ω) : (k : κ) → Value k := fun k => (tells o k).getD (view k)

/-- What is announced are values that the component has afterwards. -/
def Truthful (now : (k : κ) → Value k) (os : List ω) : Prop :=
  ∀ o ∈ os, ∀ k v, tells o k = some v → v = now k

/-- Every value that is not the old one any more is announced. -/
def Complete (old now : (k : κ) → Value k) (os : List ω) : Prop :=
  ∀ k, now k ≠ old k → ∃ o ∈ os, tells o k = some (now k)

variable {tells}

-- Of a value that has been announced, the listener has the truth; it keeps the others.
theorem foldl_listen {now : (k : κ) → Value k} {os : List ω} (h : Truthful tells now os)
    (view : (k : κ) → Value k) (k : κ) :
    (∃ o ∈ os, tells o k = some (now k)) ∧ os.foldl (listen tells) view k = now k ∨
      (∀ o ∈ os, tells o k = none) ∧ os.foldl (listen tells) view k = view k := by
  induction os generalizing view with
  | nil => exact .inr ⟨(fun _ h => nomatch h), rfl⟩
  | cons o os ih =>
      have hrest := ih (fun o' ho' => h o' (List.mem_cons_of_mem o ho')) (listen tells view o)
      rw [List.foldl_cons]
      rcases hrest with ⟨⟨o', ho', htells⟩, hview⟩ | ⟨hnone, hview⟩
      · exact .inl ⟨⟨o', List.mem_cons_of_mem o ho', htells⟩, hview⟩
      · rw [hview]
        cases ho : tells o k with
        | none =>
            right
            apply And.intro
            · intro o' ho'
              rcases List.mem_cons.mp ho' with heq | hmem
              · exact heq ▸ ho
              · exact hnone o' hmem
            · show (tells o k).getD (view k) = view k
              rw [ho]
              rfl
        | some v =>
            have hv : v = now k := h o List.mem_cons_self k v ho
            left
            apply And.intro
            · exact ⟨o, List.mem_cons_self, hv ▸ ho⟩
            · show (tells o k).getD (view k) = now k
              rw [ho]
              exact hv

theorem foldl_listen_iff {old now : (k : κ) → Value k} {os : List ω} (h : Truthful tells now os) :
    os.foldl (listen tells) old = now ↔ Complete tells old now os := by
  apply Iff.intro
  · intro hview k hchanged
    rcases foldl_listen h old k with ⟨htells, _⟩ | ⟨_, hold⟩
    · exact htells
    · rw [hview] at hold
      exact absurd hold hchanged
  · intro hcomplete
    funext k
    rcases foldl_listen h old k with ⟨_, hnow⟩ | ⟨hnone, hold⟩
    · exact hnow
    · rw [hold]
      -- An unannounced value has not changed.
      have hsame : ¬now k ≠ old k := by
        intro hchanged
        rcases hcomplete k hchanged with ⟨o, ho, htells⟩
        rw [hnone o ho] at htells
        cases htells
      exact (not_ne_iff.mp hsame).symm

section Run

variable (step : σ → ε → σ × List ω) (get : σ → (k : κ) → Value k)

variable (tells) in
def StepComplete (s : σ) (e : ε) : Prop := Complete tells (get s) (get (step s e).1) (step s e).2

-- A truthful component is followed all along a run exactly if each of its steps is complete.
theorem follows_iff_complete (Inv : σ → Prop) (hinv : ∀ s e, Inv s → Inv (step s e).1)
    (htruthful : ∀ s e, Inv s → Truthful tells (get (step s e).1) (step s e).2) {s : σ} (es : List ε)
    (hs : Inv s) :
    (∀ n, (run step s (es.take n)).2.foldl (listen tells) (get s) = get (run step s (es.take n)).1) ↔
      Along step (StepComplete tells step get) s es := by
  have hstep : ∀ s e, Inv s → (replay (fun view o => some (listen tells view o)) (get s) (step s e).2 =
      some (get (step s e).1) ↔ StepComplete tells step get s e) := by
    intro s e hs
    rw [replay_some, Option.some.injEq]
    exact foldl_listen_iff (htruthful s e hs)
  have h := replay_iff_along Inv get hinv hstep es hs
  simp only [replay_some, Option.some.injEq] at h
  exact h

end Run

end Listener
