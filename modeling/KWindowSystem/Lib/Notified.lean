import KWindowSystem.Lib.Machine

/-!
# Notified — a copy that is kept by change notifications

A store changes and says under which names it did; a copy of it handles the notifications one at a time
and in order, each against the store as it is by then.  What is kept under a name is current or its
notification is still pending (`run_current`), so that with nothing pending everything is current.  In a
`Notifier` the names may depend on the store, and a part of the copy on several names (`Tracks`).
-/

open Machine

namespace Notified

variable {σ ε κ ω : Type*}

structure System (σ ε κ ω : Type*) where
  change : σ → ε → σ × List ω
  /-- The names that a change is notified under. -/
  names : ε → List κ
  handle : σ → κ → σ × List ω

/-- The store and its copy, with the notifications that are not handled yet. -/
structure State (σ κ : Type*) where
  state : σ
  pending : List κ := []

inductive Event (ε : Type*) where
  | change (e : ε)
  /-- The oldest notification is handled. -/
  | handle

def System.step (sys : System σ ε κ ω) (s : State σ κ) : Event ε → State σ κ × List ω
  | .change e =>
      let now := sys.change s.state e
      (⟨now.1, s.pending ++ sys.names e⟩, now.2)
  | .handle =>
      match s.pending with
      | [] => (s, [])
      | k :: rest =>
          let now := sys.handle s.state k
          (⟨now.1, rest⟩, now.2)

/-- What is asked of changes and handlers: a change leaves current what it is not notified under, and a
handler makes its own name current and leaves alone what is current and not pending. -/
structure Keeps (sys : System σ ε κ ω) (Inv : σ → Prop) (Current : κ → σ → Prop)
    (ok : State σ κ → Event ε → Prop) : Prop where
  inv_change : ∀ s e, Inv s.state → ok s (.change e) → Inv (sys.change s.state e).1
  current_change : ∀ s e k, Inv s.state → ok s (.change e) → k ∉ sys.names e →
    Current k s.state → Current k (sys.change s.state e).1
  inv_handle : ∀ s k rest, Inv s.state → s.pending = k :: rest → ok s .handle →
    Inv (sys.handle s.state k).1
  current_handle : ∀ s k rest j, Inv s.state → s.pending = k :: rest → ok s .handle → j ∉ rest →
    (j = k ∨ Current j s.state) → Current j (sys.handle s.state k).1

section Run

variable {sys : System σ ε κ ω} {Inv : σ → Prop} {Current : κ → σ → Prop}
  {ok : State σ κ → Event ε → Prop}

theorem Keeps.step (h : Keeps sys Inv Current ok) {s : State σ κ} {e : Event ε}
    (hs : Inv s.state ∧ ∀ k, k ∈ s.pending ∨ Current k s.state) (hok : ok s e) :
    Inv (sys.step s e).1.state ∧
      ∀ k, k ∈ (sys.step s e).1.pending ∨ Current k (sys.step s e).1.state := by
  cases e with
  | change e =>
      refine ⟨h.inv_change s e hs.1 hok, fun k => ?_⟩
      show k ∈ s.pending ++ sys.names e ∨ _
      rw [List.mem_append]
      by_cases hk : k ∈ sys.names e
      · exact .inl (.inr hk)
      · rcases hs.2 k with hpending | hcurrent
        · exact .inl (.inl hpending)
        · exact .inr (h.current_change s e k hs.1 hok hk hcurrent)
  | handle =>
      cases hpending : s.pending with
      | nil =>
          have hstep : (sys.step s .handle).1 = s := by
            unfold System.step
            rw [hpending]
          rw [hstep]
          exact hs
      | cons k rest =>
          have hstep : (sys.step s .handle).1 = ⟨(sys.handle s.state k).1, rest⟩ := by
            unfold System.step
            rw [hpending]
          rw [hstep]
          refine ⟨h.inv_handle s k rest hs.1 hpending hok, fun j => ?_⟩
          by_cases hj : j ∈ rest
          · exact .inl hj
          · right
            apply h.current_handle s k rest j hs.1 hpending hok hj
            rcases hs.2 j with hmem | hcurrent
            · rw [hpending] at hmem
              exact .inl ((List.mem_cons.mp hmem).resolve_right hj)
            · exact .inr hcurrent

-- Every name is pending or current all along.
theorem Keeps.run_current (h : Keeps sys Inv Current ok) {s : State σ κ} {es : List (Event ε)}
    (hs : Inv s.state ∧ ∀ k, k ∈ s.pending ∨ Current k s.state) (hok : Along sys.step ok s es) :
    Inv (run sys.step s es).1.state ∧
      ∀ k, k ∈ (run sys.step s es).1.pending ∨ Current k (run sys.step s es).1.state :=
  run_invariant (fun s : State σ κ => Inv s.state ∧ ∀ k, k ∈ s.pending ∨ Current k s.state)
    (fun _ _ hs hok => h.step hs hok) hs hok

-- Everything is current when all notifications are handled.
theorem Keeps.run_settled (h : Keeps sys Inv Current ok) {s : State σ κ} {es : List (Event ε)}
    (hs : Inv s.state ∧ ∀ k, k ∈ s.pending ∨ Current k s.state) (hok : Along sys.step ok s es)
    (hpending : (run sys.step s es).1.pending = []) (k : κ) : Current k (run sys.step s es).1.state := by
  have hcurrent := (h.run_current hs hok).2 k
  rw [hpending] at hcurrent
  exact hcurrent.resolve_left (fun hmem => nomatch hmem)

end Run

/-! ## Parts that depend on several names -/

/-- A store whose changes say under which names they are notified. -/
structure Notifier (σ ε κ ω : Type*) where
  change : σ → ε → (σ × List ω) × List κ
  handle : σ → κ → σ × List ω

def Notifier.step (sys : Notifier σ ε κ ω) (s : State σ κ) : Event ε → State σ κ × List ω
  | .change e =>
      let now := sys.change s.state e
      (⟨now.1.1, s.pending ++ now.2⟩, now.1.2)
  | .handle =>
      match s.pending with
      | [] => (s, [])
      | k :: rest =>
          let now := sys.handle s.state k
          (⟨now.1, rest⟩, now.2)

variable {τ : Type*}

/-- The changes of a run meet a condition in the store that they find. -/
def Changes (ok : σ → ε → Prop) (s : State σ κ) : Event ε → Prop
  | .change e => ok s.state e
  | .handle => True

instance (ok : σ → ε → Prop) [∀ s e, Decidable (ok s e)] (s : State σ κ) :
    (e : Event ε) → Decidable (Changes ok s e)
  | .change e => inferInstanceAs (Decidable (ok s.state e))
  | .handle => isTrue trivial

/-- What is asked where the copy consists of parts: a change that meets the condition of a part leaves it current
if it depends on none of its names, and a handler makes current what depends on its name. -/
structure Tracks (sys : Notifier σ ε κ ω) (Inv : σ → Prop) (depends : τ → κ → Prop)
    (Current : τ → σ → Prop) (ok : τ → σ → ε → Prop) : Prop where
  inv_change : ∀ s e, Inv s → Inv (sys.change s e).1.1
  current_change : ∀ s e t, Inv s → ok t s e → (∀ k ∈ (sys.change s e).2, ¬depends t k) → Current t s →
    Current t (sys.change s e).1.1
  inv_handle : ∀ s k, Inv s → Inv (sys.handle s k).1
  current_handle : ∀ s k t, Inv s → (depends t k ∨ Current t s) → Current t (sys.handle s k).1

section Parts

variable {sys : Notifier σ ε κ ω} {Inv : σ → Prop} {depends : τ → κ → Prop} {Current : τ → σ → Prop}
  {ok : τ → σ → ε → Prop}

/-- The part is current, or a notification about it is pending. -/
def Due (Inv : σ → Prop) (depends : τ → κ → Prop) (Current : τ → σ → Prop) (t : τ) (s : State σ κ) : Prop :=
  Inv s.state ∧ ((∃ k ∈ s.pending, depends t k) ∨ Current t s.state)

theorem Tracks.step (h : Tracks sys Inv depends Current ok) {t : τ} {s : State σ κ} {e : Event ε}
    (hs : Due Inv depends Current t s) (hok : Changes (ok t) s e) :
    Due Inv depends Current t (sys.step s e).1 := by
  cases e with
  | change e =>
      refine ⟨h.inv_change s.state e hs.1, ?_⟩
      show (∃ k ∈ s.pending ++ (sys.change s.state e).2, depends t k) ∨ _
      by_cases hnamed : ∃ k ∈ (sys.change s.state e).2, depends t k
      · rcases hnamed with ⟨k, hk, hdepends⟩
        exact .inl ⟨k, List.mem_append_right _ hk, hdepends⟩
      · rcases hs.2 with ⟨k, hk, hdepends⟩ | hcurrent
        · exact .inl ⟨k, List.mem_append_left _ hk, hdepends⟩
        · exact .inr (h.current_change s.state e t hs.1 hok (fun k hk hd => hnamed ⟨k, hk, hd⟩) hcurrent)
  | handle =>
      cases hpending : s.pending with
      | nil =>
          have hstep : (sys.step s .handle).1 = s := by
            unfold Notifier.step
            rw [hpending]
          rw [hstep]
          exact hs
      | cons k rest =>
          have hstep : (sys.step s .handle).1 = ⟨(sys.handle s.state k).1, rest⟩ := by
            unfold Notifier.step
            rw [hpending]
          rw [hstep]
          refine ⟨h.inv_handle s.state k hs.1, ?_⟩
          rcases hs.2 with ⟨j, hj, hdepends⟩ | hcurrent
          · rw [hpending] at hj
            rcases List.mem_cons.mp hj with rfl | hj
            · exact .inr (h.current_handle s.state j t hs.1 (.inl hdepends))
            · exact .inl ⟨j, hj, hdepends⟩
          · exact .inr (h.current_handle s.state k t hs.1 (.inr hcurrent))

-- A part is current when all notifications are handled.
theorem Tracks.run_settled (h : Tracks sys Inv depends Current ok) {t : τ} {s : State σ κ} {es : List (Event ε)}
    (hs : Due Inv depends Current t s) (hok : Along sys.step (Changes (ok t)) s es)
    (hpending : (run sys.step s es).1.pending = []) :
    Inv (run sys.step s es).1.state ∧ Current t (run sys.step s es).1.state := by
  have hrun := run_invariant (Due Inv depends Current t) (fun _ _ hs hok => h.step hs hok) hs hok
  have hcurrent := hrun.2
  rw [hpending] at hcurrent
  exact ⟨hrun.1, hcurrent.resolve_left fun hmem => nomatch hmem⟩

end Parts

end Notified
