import KWindowSystem.Lib.Machine
import Mathlib.Logic.Function.Basic

/-!
# History — a store as what was written to it

A store keeps under each key a value of the key's own type, and a history is a list of writes.  A machine
whose every step changes what its state stores by the writes that it puts out holds after a run what the
first state held, with the whole history written to it (`run_after`).
-/

open Machine

namespace History

variable {κ : Type*} [DecidableEq κ] {V : κ → Type*}

/-- The store after some writes, the oldest first. -/
def after (writes : List ((k : κ) × V k)) (store : (k : κ) → V k) : (k : κ) → V k :=
  writes.foldl (fun store w => Function.update store w.1 w.2) store

theorem after_append (writes writes' : List ((k : κ) × V k)) (store : (k : κ) → V k) :
    after (writes ++ writes') store = after writes' (after writes store) := List.foldl_append

-- What nobody writes stays.
theorem after_of_notMem {writes : List ((k : κ) × V k)} {k : κ} (h : k ∉ writes.map (·.1))
    (store : (k : κ) → V k) : after writes store k = store k := by
  induction writes generalizing store with
  | nil => rfl
  | cons w writes ih =>
      rw [List.map_cons, List.mem_cons, not_or] at h
      show after writes (Function.update store w.1 w.2) k = store k
      rw [ih h.2, Function.update_of_ne h.1]

-- The last write to a key counts.
theorem after_last (writes : List ((k : κ) × V k)) (k : κ) (v : V k) {later : List ((k : κ) × V k)}
    (h : k ∉ later.map (·.1)) (store : (k : κ) → V k) :
    after (writes ++ ⟨k, v⟩ :: later) store k = v := by
  rw [after_append]
  show after later (Function.update (after writes store) k v) k = v
  rw [after_of_notMem h, Function.update_self]

-- Writes to a part of the keys, seen in that part.
theorem after_map {κ' : Type*} [DecidableEq κ'] {f : κ' → κ} (hf : Function.Injective f)
    (writes : List ((k : κ') × V (f k))) (store : (k : κ) → V k) (k : κ') :
    after (writes.map fun w => (⟨f w.1, w.2⟩ : (k : κ) × V k)) store (f k) =
      after (V := fun k => V (f k)) writes (fun k => store (f k)) k := by
  induction writes generalizing store with
  | nil => rfl
  | cons w writes ih =>
      rw [List.map_cons]
      show after (writes.map _) (Function.update store (f w.1) w.2) (f k) =
        after writes (Function.update (fun k => store (f k)) w.1 w.2) k
      rw [ih]
      congr 1
      funext j
      by_cases hj : j = w.1
      · subst hj
        rw [Function.update_self, Function.update_self]
      · rw [Function.update_of_ne hj, Function.update_of_ne (hf.ne hj)]

theorem run_after {σ ε : Type*} {step : σ → ε → σ × List ((k : κ) × V k)} (Inv : σ → Prop)
    (stored : σ → (k : κ) → V k)
    (hstep : ∀ s e, Inv s → Inv (step s e).1 ∧ stored (step s e).1 = after (step s e).2 (stored s))
    {s : σ} (hs : Inv s) (es : List ε) :
    stored (run step s es).1 = after (run step s es).2 (stored s) := by
  let view := fun (store : (k : κ) → V k) (w : (k : κ) × V k) => some (Function.update store w.1 w.2)
  have hview : ∀ store writes, replay view store writes = some (after writes store) := replay_some _
  have hguarded : ∀ s e, Inv s → True →
      Inv (step s e).1 ∧ replay view (stored s) (step s e).2 = some (stored (step s e).1) := by
    intro s e hs _
    rw [hview, (hstep s e hs).2]
    exact ⟨(hstep s e hs).1, rfl⟩
  have hrun := run_replay Inv stored hguarded hs (along_true s es)
  rw [hview] at hrun
  exact (Option.some.inj hrun).symm

end History
