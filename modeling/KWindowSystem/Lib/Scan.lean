import Mathlib.Data.List.Basic
import Mathlib.Data.List.Induction
import Mathlib.Order.Basic

/-!
# Scan — one pass that keeps a candidate

`scan` goes through a list and takes an element for its candidate when that passes a test against the
one before.  Whatever the test is, the result is one of the elements and above or below all of its
predecessors in every order that the test respects, and each element that was not taken has failed against
some candidate (`scan_passed`).  Where the test is an order itself the candidates are the records of the
list, and the result is its last record (`scan_latest`).
-/

namespace Scan

variable {α : Type*}

section Candidates

variable (takes : α → α → Prop) [DecidableRel takes]

def scan (a : α) (l : List α) : α := l.foldl (fun result b => if takes result b then b else result) a

variable {takes}

theorem scan_mem (a : α) (l : List α) : scan takes a l ∈ a :: l := by
  unfold scan
  induction l generalizing a with
  | nil => exact List.mem_cons_self
  | cons b l ih =>
      rw [List.foldl_cons]
      split
      · exact List.mem_cons_of_mem _ (ih b)
      · rcases List.mem_cons.mp (ih a) with h | h
        · rw [h]
          exact List.mem_cons_self
        · exact List.mem_cons_of_mem _ (List.mem_cons_of_mem _ h)

theorem scan_invariant {q : α → Prop} {a : α} (ha : q a) (hq : ∀ a b, q a → takes a b → q b) (l : List α) :
    q (scan takes a l) := by
  unfold scan
  induction l generalizing a with
  | nil => exact ha
  | cons b l ih =>
      rw [List.foldl_cons]
      apply ih
      split
      · rename_i h
        exact hq a b ha h
      · exact ha

theorem scan_eq {a : α} {l : List α} (h : ∀ x ∈ l, ¬takes a x) : scan takes a l = a := by
  unfold scan
  induction l with
  | nil => rfl
  | cons b l ih =>
      rw [List.foldl_cons, if_neg (h b List.mem_cons_self)]
      exact ih fun x hx => h x (List.mem_cons_of_mem _ hx)

section Order

variable {le : α → α → Prop} (hrefl : ∀ a, le a a) (htrans : ∀ a b c, le a b → le b c → le a c)
  (htakes : ∀ a b, takes a b → le a b)
include hrefl htrans htakes

theorem scan_le (a : α) (l : List α) : le a (scan takes a l) :=
  scan_invariant (hrefl a) (fun _ _ hle h => htrans _ _ _ hle (htakes _ _ h)) l

-- An element is taken when it is its turn, or fails.
theorem scan_passed (a : α) (l : List α) :
    ∀ x ∈ l, le x (scan takes a l) ∨ ∃ b, le b (scan takes a l) ∧ ¬takes b x := by
  induction l generalizing a with
  | nil => exact fun x hx => absurd hx List.not_mem_nil
  | cons b l ih =>
      intro x hx
      have hstep : scan takes a (b :: l) = scan takes (if takes a b then b else a) l := rfl
      rw [hstep]
      rcases List.mem_cons.mp hx with hx | hx
      · rw [hx]
        split
        · exact Or.inl (scan_le hrefl htrans htakes b l)
        · rename_i h
          exact Or.inr ⟨a, scan_le hrefl htrans htakes a l, h⟩
      · exact ih _ x hx

end Order

end Candidates

/-! ## Records -/

section Records

variable (le : α → α → Prop)

/-- An element that is not below any record before it. -/
def IsRecord (l : List α) (n : Nat) : Prop :=
  ∃ x, l[n]? = some x ∧ ∀ m (_ : m < n) y, l[m]? = some y → IsRecord l m → le y x
termination_by n

/-- `x` is the last record. -/
def Latest (l : List α) (x : α) : Prop :=
  ∃ n, l[n]? = some x ∧ IsRecord le l n ∧ ∀ m, IsRecord le l m → m ≤ n

variable {le}

theorem IsRecord.lt_length {l : List α} {n : Nat} (h : IsRecord le l n) : n < l.length := by
  rw [IsRecord] at h
  rcases h with ⟨x, hx, _⟩
  exact (List.getElem?_eq_some_iff.mp hx).1

-- What comes behind does not matter.
theorem isRecord_append {l : List α} (l' : List α) {n : Nat} (hn : n < l.length) :
    IsRecord le (l ++ l') n ↔ IsRecord le l n := by
  induction n using Nat.strongRecOn with
  | ind n ih =>
      rw [IsRecord, IsRecord, List.getElem?_append_left hn]
      apply exists_congr
      intro x
      apply and_congr_right
      intro _
      apply forall_congr'
      intro m
      apply forall_congr'
      intro hm
      rw [List.getElem?_append_left (Nat.lt_trans hm hn), ih m hm (Nat.lt_trans hm hn)]

-- The last record is above all the others.
theorem Latest.above (hrefl : ∀ a, le a a) {l : List α} {x : α} (h : Latest le l x) {m : Nat} {y : α}
    (hm : l[m]? = some y) (hrecord : IsRecord le l m) : le y x := by
  rcases h with ⟨n, hn, hlast, hlatest⟩
  rcases Nat.lt_or_eq_of_le (hlatest m hrecord) with hlt | heq
  · rw [IsRecord] at hlast
    rcases hlast with ⟨x', hx', habove⟩
    rw [Option.some.inj (hn.symm.trans hx')]
    exact habove m hlt y hm hrecord
  · rw [heq, hn] at hm
    rw [Option.some.inj hm]
    exact hrefl y

variable [DecidableRel le] (hrefl : ∀ a, le a a) (htrans : ∀ a b c, le a b → le b c → le a c)
include hrefl htrans

-- One more element is the last record if it is above the one before.
theorem latest_concat {l : List α} {x : α} (h : Latest le l x) (y : α) :
    Latest le (l ++ [y]) (if le x y then y else x) := by
  have hend : (l ++ [y])[l.length]? = some y := by
    rw [List.getElem?_append_right (Nat.le_refl _), Nat.sub_self]
    rfl
  have hold : ∀ {m}, IsRecord le (l ++ [y]) m → m < l.length ∨ m = l.length := by
    intro m hm
    have hlt := hm.lt_length
    rw [List.length_append, List.length_singleton] at hlt
    omega
  split
  · rename_i hxy
    refine ⟨l.length, hend, ?_, fun m hm => (hold hm).elim Nat.le_of_lt Nat.le_of_eq⟩
    rw [IsRecord]
    refine ⟨y, hend, ?_⟩
    intro m hm z hz hrecord
    rw [List.getElem?_append_left hm] at hz
    exact htrans _ _ _ (h.above hrefl hz ((isRecord_append [y] hm).mp hrecord)) hxy
  · rename_i hxy
    rcases h with ⟨n, hn, hrecord, hlatest⟩
    have hlt := hrecord.lt_length
    refine ⟨n, (List.getElem?_append_left hlt).trans hn, (isRecord_append [y] hlt).mpr hrecord, ?_⟩
    intro m hm
    rcases hold hm with hm' | hm'
    · exact hlatest m ((isRecord_append [y] hm').mp hm)
    · -- The new element fails against `x`.
      rw [hm', IsRecord] at hm
      rcases hm with ⟨z, hz, habove⟩
      rw [hend] at hz
      have hx := habove n hlt x ((List.getElem?_append_left hlt).trans hn)
        ((isRecord_append [y] hlt).mpr hrecord)
      rw [← Option.some.inj hz] at hx
      exact absurd hx hxy

theorem scan_latest (a : α) (l : List α) : Latest le (a :: l) (scan le a l) := by
  induction l using List.reverseRecOn with
  | nil =>
      refine ⟨0, rfl, ?_, fun m hm => Nat.le_of_lt_succ hm.lt_length⟩
      rw [IsRecord]
      exact ⟨a, rfl, fun m hm => absurd hm (Nat.not_lt_zero m)⟩
  | append_singleton l b ih =>
      have hstep : scan le a (l ++ [b]) = if le (scan le a l) b then b else scan le a l := by
        unfold scan
        rw [List.foldl_append]
        rfl
      rw [hstep, ← List.cons_append]
      exact latest_concat hrefl htrans ih b

-- What is kept from below upwards holds of the result if it holds of any record.
theorem scan_iff_record {q : α → Prop} (hq : ∀ a b, le a b → q a → q b) (a : α) (l : List α) :
    q (scan le a l) ↔ ∃ n x, IsRecord le (a :: l) n ∧ (a :: l)[n]? = some x ∧ q x := by
  have hlatest := scan_latest hrefl htrans a l
  apply Iff.intro
  · intro h
    rcases hlatest with ⟨n, hn, hrecord, _⟩
    exact ⟨n, _, hrecord, hn, h⟩
  · rintro ⟨n, x, hrecord, hn, hx⟩
    exact hq x _ (hlatest.above hrefl hn hrecord) hx

end Records

end Scan
