import Mathlib.Data.List.Induction
import Mathlib.Data.List.Nodup

/-!
# Merge — fields folded over a sequence of partial updates

An update that has nothing to say about a field carries its unset value.  `keepFirst` and `takeLast`
merge such a field, `addNew` a list without duplicates; `firstSet`, `lastSet` and `List.eraseDups` are
what a whole sequence leaves.
-/

namespace Merge

variable {α δ : Type*}

section Fields

variable [DecidableEq α] (unset : α)

def keepFirst (a b : α) : α := if b ≠ unset ∧ a = unset then b else a

def takeLast (a b : α) : α := if b ≠ unset then b else a

/-- The first value of the sequence that is set. -/
def firstSet (as : List α) : α := (as.find? (· ≠ unset)).getD unset

/-- The last value of the sequence that is set. -/
def lastSet (as : List α) : α := firstSet unset as.reverse

theorem firstSet_cons (a : α) (as : List α) :
    firstSet unset (a :: as) = if a ≠ unset then a else firstSet unset as := by
  unfold firstSet
  by_cases ha : a = unset
  · rw [if_neg (not_not.mpr ha), List.find?_cons_of_neg (by simpa using ha)]
  · rw [if_pos ha, List.find?_cons_of_pos (by simpa using ha)]
    rfl

theorem firstSet_eq_unset_iff (as : List α) : firstSet unset as = unset ↔ ∀ a ∈ as, a = unset := by
  induction as with
  | nil => simp [firstSet]
  | cons a as ih =>
      rw [firstSet_cons, List.forall_mem_cons]
      by_cases ha : a = unset
      · rw [if_neg (not_not.mpr ha), ih]
        exact (and_iff_right ha).symm
      · rw [if_pos ha]
        exact iff_of_false ha fun hall => ha hall.1

theorem firstSet_concat (as : List α) (b : α) :
    firstSet unset (as ++ [b]) = keepFirst unset (firstSet unset as) b := by
  induction as with
  | nil =>
      rw [List.nil_append, firstSet_cons]
      simp [firstSet, keepFirst]
  | cons a as ih =>
      rw [List.cons_append, firstSet_cons, firstSet_cons, ih]
      by_cases ha : a = unset
      · rw [if_neg (not_not.mpr ha), if_neg (not_not.mpr ha)]
      · rw [if_pos ha, if_pos ha]
        exact (if_neg fun h => ha h.2).symm

theorem lastSet_concat (as : List α) (b : α) :
    lastSet unset (as ++ [b]) = takeLast unset (lastSet unset as) b := by
  unfold lastSet
  rw [List.reverse_append, List.reverse_singleton, List.singleton_append, firstSet_cons]
  rfl

theorem foldl_keepFirst (as : List α) : as.foldl (keepFirst unset) unset = firstSet unset as := by
  induction as using List.reverseRecOn with
  | nil => rfl
  | append_singleton as b ih => rw [List.foldl_concat, ih, firstSet_concat]

theorem foldl_takeLast (as : List α) : as.foldl (takeLast unset) unset = lastSet unset as := by
  induction as using List.reverseRecOn with
  | nil => rfl
  | append_singleton as b ih => rw [List.foldl_concat, ih, lastSet_concat]

end Fields

/-! ## Lists without duplicates -/

section Lists

variable [DecidableEq α]

def addNew (as : List α) (a : α) : List α := if a ∈ as then as else as ++ [a]

theorem eraseDups_concat (as : List α) (b : α) : (as ++ [b]).eraseDups = addNew as.eraseDups b := by
  rw [List.eraseDups_append, addNew]
  by_cases hb : b ∈ as
  · rw [if_pos (List.mem_eraseDups.mpr hb)]
    simp [List.removeAll, hb]
  · rw [if_neg (fun h => hb (List.mem_eraseDups.mp h))]
    simp [List.removeAll, hb, List.eraseDups_cons]

theorem nodup_eraseDups (as : List α) : as.eraseDups.Nodup := by
  induction as using List.reverseRecOn with
  | nil => exact List.nodup_nil
  | append_singleton as b ih =>
      rw [eraseDups_concat, addNew]
      split
      · exact ih
      · rename_i hb
        rw [← List.concat_eq_append]
        exact List.Nodup.concat hb ih

theorem foldl_addNew (as : List α) : as.foldl addNew [] = as.eraseDups := by
  induction as using List.reverseRecOn with
  | nil => rfl
  | append_singleton as b ih => rw [List.foldl_concat, ih, eraseDups_concat]

end Lists

/-! ## Records -/

-- A field that an update merges on its own.
theorem field_foldl {update : δ → δ → δ} (field : δ → α) (merge : α → α → α)
    (h : ∀ d e, field (update d e) = merge (field d) (field e)) (d : δ) (es : List δ) :
    field (es.foldl update d) = (es.map field).foldl merge (field d) := by
  induction es generalizing d with
  | nil => rfl
  | cons e es ih => rw [List.foldl_cons, ih, h, List.map_cons, List.foldl_cons]

end Merge
