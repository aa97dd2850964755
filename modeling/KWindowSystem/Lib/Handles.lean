import Mathlib.Data.List.GetD

/-!
# Handles — who points where

A table of handles, each of which points to an object or, once it is gone, to none.  The number of
handles that point to an object is what a reference count is to be; the lemmas say what opening, closing
and redirecting a handle do to it.
-/

namespace Handles

variable {ι : Type*}

/-- Handles in the order of their creation. -/
abbrev Table (ι : Type*) := List (Option ι)

def target (t : Table ι) (h : Nat) : Option ι := t.getD h none

theorem lt_of_target {t : Table ι} {h : Nat} {i : ι} (ht : target t h = some i) : h < t.length := by
  apply Nat.lt_of_not_le
  intro hle
  unfold target at ht
  rw [List.getD_eq_default _ _ hle] at ht
  nomatch ht

theorem getElem_of_target {t : Table ι} {h : Nat} {i : ι} (hlt : h < t.length)
    (ht : target t h = some i) : t[h] = some i := by
  rw [← ht, target, List.getD_eq_getElem _ _ hlt]

variable [DecidableEq ι]

/-- The number of handles that point to an object. -/
def holders (t : Table ι) (i : ι) : Nat := t.count (some i)

theorem holders_pos {t : Table ι} {h : Nat} {i : ι} (ht : target t h = some i) : 0 < holders t i := by
  apply List.count_pos_iff.mpr
  rw [← getElem_of_target (lt_of_target ht) ht]
  exact List.getElem_mem _

@[simp] theorem holders_nil (i : ι) : holders ([] : Table ι) i = 0 := rfl

-- One more handle.
theorem holders_open (t : Table ι) (i j : ι) :
    holders (t ++ [some j]) i = holders t i + if i = j then 1 else 0 := by
  unfold holders
  rw [List.count_append, List.count_singleton]
  by_cases hij : i = j
  · simp [hij]
  · simp [hij, Ne.symm hij]

-- A handle is gone.
theorem holders_close {t : Table ι} {h : Nat} {j : ι} (ht : target t h = some j) (i : ι) :
    holders (t.set h none) i + (if i = j then 1 else 0) = holders t i := by
  have hpos := holders_pos ht
  unfold holders at *
  rw [List.count_set (lt_of_target ht), getElem_of_target (lt_of_target ht) ht]
  by_cases hij : i = j
  · subst hij
    simp
    omega
  · simp [hij, Ne.symm hij]

-- A handle points elsewhere.
theorem holders_redirect {t : Table ι} {h : Nat} {j : ι} (ht : target t h = some j) (i k : ι) :
    holders (t.set h (some k)) i + (if i = j then 1 else 0) = holders t i + if i = k then 1 else 0 := by
  have hclose := holders_close ht i
  unfold holders at *
  rw [List.count_set (lt_of_target ht)] at hclose ⊢
  by_cases hik : i = k
  · subst hik
    simp at hclose ⊢
    omega
  · simp [hik, Ne.symm hik] at hclose ⊢
    omega

end Handles
