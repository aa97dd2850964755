import KWindowSystem.Lib.Machine
import Mathlib.Logic.Function.Basic

/-!
# Replicas — many copies that are kept by change notifications

A store with any number of parties, each of which has a copy of it and handles its own notifications, one at
a time and in order, against the store as it is by then.  A change may be made by one of the parties and
may touch its copy; parties come at any time with a copy of their own.  A part of a copy is current or
there is a notification about it that the party has still to handle (`Follows.run_settled`), whatever the
order of the steps.
-/

open Machine

namespace Replicas

variable {ι σ χ κ ε α ω : Type*} [DecidableEq ι]

structure System (ι σ χ κ ε α ω : Type*) where
  /-- The store and the copies after a change, what it puts out, and the names that all parties hear of. -/
  change : σ → (ι → χ) → ε → ((σ × (ι → χ)) × List ω) × List κ
  handle : σ → χ → κ → χ
  /-- The party that comes, and the copy that it makes. -/
  seat : α → ι
  construct : σ → α → χ

/-- The store and the copies, with the notifications that are not handled yet. -/
structure State (ι σ χ κ : Type*) where
  store : σ
  copies : ι → χ
  pending : ι → List κ

inductive Event (ι ε α : Type*) where
  | change (e : ε)
  /-- A party handles its oldest notification. -/
  | handle (i : ι)
  | join (a : α)

def System.step (sys : System ι σ χ κ ε α ω) (s : State ι σ χ κ) : Event ι ε α → State ι σ χ κ × List ω
  | .change e =>
      let now := sys.change s.store s.copies e
      (⟨now.1.1.1, now.1.1.2, fun i => s.pending i ++ now.2⟩, now.1.2)
  | .handle i =>
      match s.pending i with
      | [] => (s, [])
      | k :: rest =>
          ({ s with
              copies := Function.update s.copies i (sys.handle s.store (s.copies i) k)
              pending := Function.update s.pending i rest }, [])
  | .join a =>
      ({ s with
          copies := Function.update s.copies (sys.seat a) (sys.construct s.store a)
          pending := Function.update s.pending (sys.seat a) [] }, [])

variable {τ : Type*}

/-- What is asked of a system: a change leaves a part of a copy current that depends on none of its names, a
handler makes current what depends on its name, and a copy is current when it is made. -/
structure Follows (sys : System ι σ χ κ ε α ω) (Inv : σ → (ι → χ) → Prop) (depends : τ → κ → Prop)
    (Current : τ → σ → χ → Prop) : Prop where
  inv_change : ∀ s c e, Inv s c → Inv (sys.change s c e).1.1.1 (sys.change s c e).1.1.2
  inv_handle : ∀ s c i k, Inv s c → Inv s (Function.update c i (sys.handle s (c i) k))
  inv_join : ∀ s c a, Inv s c → Inv s (Function.update c (sys.seat a) (sys.construct s a))
  current_change : ∀ s c e i t, Inv s c → (∀ k ∈ (sys.change s c e).2, ¬depends t k) →
    Current t s (c i) → Current t (sys.change s c e).1.1.1 ((sys.change s c e).1.1.2 i)
  current_handle : ∀ s c i k t, Inv s c → (depends t k ∨ Current t s (c i)) →
    Current t s (sys.handle s (c i) k)
  current_join : ∀ s c a t, Inv s c → Current t s (sys.construct s a)

section Run

variable {sys : System ι σ χ κ ε α ω} {Inv : σ → (ι → χ) → Prop} {depends : τ → κ → Prop}
  {Current : τ → σ → χ → Prop}

/-- Each part of each copy is current, or a notification about it is pending. -/
structure Kept (Inv : σ → (ι → χ) → Prop) (depends : τ → κ → Prop) (Current : τ → σ → χ → Prop)
    (s : State ι σ χ κ) : Prop where
  inv : Inv s.store s.copies
  due : ∀ i t, (∃ k ∈ s.pending i, depends t k) ∨ Current t s.store (s.copies i)

theorem Follows.step (h : Follows sys Inv depends Current) {s : State ι σ χ κ} (e : Event ι ε α)
    (hs : Kept Inv depends Current s) : Kept Inv depends Current (sys.step s e).1 := by
  cases e with
  | change e =>
      refine ⟨h.inv_change s.store s.copies e hs.inv, fun i t => ?_⟩
      show (∃ k ∈ s.pending i ++ (sys.change s.store s.copies e).2, depends t k) ∨ _
      by_cases hnamed : ∃ k ∈ (sys.change s.store s.copies e).2, depends t k
      · rcases hnamed with ⟨k, hk, hdepends⟩
        exact .inl ⟨k, List.mem_append_right _ hk, hdepends⟩
      · rcases hs.due i t with ⟨k, hk, hdepends⟩ | hcurrent
        · exact .inl ⟨k, List.mem_append_left _ hk, hdepends⟩
        · have hspared : ∀ k ∈ (sys.change s.store s.copies e).2, ¬depends t k :=
            fun k hk hd => hnamed ⟨k, hk, hd⟩
          exact .inr (h.current_change s.store s.copies e i t hs.inv hspared hcurrent)
  | handle i =>
      cases hpending : s.pending i with
      | nil =>
          have hstep : (sys.step s (.handle i)).1 = s := by
            simp only [System.step, hpending]
          rw [hstep]
          exact hs
      | cons k rest =>
          have hstep : (sys.step s (.handle i)).1 =
              { s with
                copies := Function.update s.copies i (sys.handle s.store (s.copies i) k)
                pending := Function.update s.pending i rest } := by
            simp only [System.step, hpending]
          rw [hstep]
          refine ⟨h.inv_handle s.store s.copies i k hs.inv, fun j t => ?_⟩
          dsimp only
          by_cases hj : j = i
          · subst hj
            rw [Function.update_self, Function.update_self]
            rcases hs.due j t with ⟨k', hk', hdepends⟩ | hcurrent
            · rw [hpending] at hk'
              rcases List.mem_cons.mp hk' with rfl | hk'
              · exact .inr (h.current_handle s.store s.copies j k' t hs.inv (.inl hdepends))
              · exact .inl ⟨k', hk', hdepends⟩
            · exact .inr (h.current_handle s.store s.copies j k t hs.inv (.inr hcurrent))
          · rw [Function.update_of_ne hj, Function.update_of_ne hj]
            exact hs.due j t
  | join a =>
      refine ⟨h.inv_join s.store s.copies a hs.inv, fun j t => ?_⟩
      show (∃ k ∈ Function.update s.pending (sys.seat a) [] j, depends t k) ∨
        Current t s.store (Function.update s.copies (sys.seat a) (sys.construct s.store a) j)
      by_cases hj : j = sys.seat a
      · subst hj
        rw [Function.update_self, Function.update_self]
        exact .inr (h.current_join s.store s.copies a t hs.inv)
      · rw [Function.update_of_ne hj, Function.update_of_ne hj]
        exact hs.due j t

theorem Follows.run_kept (h : Follows sys Inv depends Current) {s : State ι σ χ κ}
    (hs : Kept Inv depends Current s) (es : List (Event ι ε α)) :
    Kept Inv depends Current (run sys.step s es).1 :=
  run_invariant (Kept Inv depends Current) (fun _ e hs _ => h.step e hs) hs (along_true s es)

-- Every part of a copy is current when its party has handled all notifications.
theorem Follows.run_settled (h : Follows sys Inv depends Current) {s : State ι σ χ κ}
    (hs : Kept Inv depends Current s) (es : List (Event ι ε α)) {i : ι}
    (hpending : (run sys.step s es).1.pending i = []) (t : τ) :
    Current t (run sys.step s es).1.store ((run sys.step s es).1.copies i) := by
  have hdue := (h.run_kept hs es).due i t
  rw [hpending] at hdue
  exact hdue.resolve_left fun ⟨_, hk, _⟩ => nomatch hk

end Run

end Replicas
