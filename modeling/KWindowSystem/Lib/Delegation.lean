import Mathlib.Data.List.Basic

/-!
# Delegation — a chain in which each member passes on what it does not take

A request enters a chain at its head.  The first member that takes it handles it, by itself and the state of the
world around; what no member takes reaches the end of the chain.  `deliver_cases` says that of every delivery,
and that nothing else in the chain changes.
-/

namespace Delegation

variable {α σ ρ : Type*}

/-- What the members of a chain do with one request, and what happens to it at the end. -/
structure Rule (α σ ρ : Type*) where
  takes : α → Bool
  handle : α → σ → ρ × α × σ
  last : σ → ρ × σ

def deliver (r : Rule α σ ρ) : List α → σ → ρ × List α × σ
  | [], s => ((r.last s).1, [], (r.last s).2)
  | a :: as, s =>
      if r.takes a then ((r.handle a s).1, (r.handle a s).2.1 :: as, (r.handle a s).2.2)
      else ((deliver r as s).1, a :: (deliver r as s).2.1, (deliver r as s).2.2)

variable (r : Rule α σ ρ)

theorem length_deliver (as : List α) (s : σ) : (deliver r as s).2.1.length = as.length := by
  induction as with
  | nil => rfl
  | cons a as ih =>
      unfold deliver
      split
      · rfl
      · exact congrArg (· + 1) ih

theorem deliver_of_none {as : List α} (h : ∀ a ∈ as, r.takes a = false) (s : σ) :
    deliver r as s = ((r.last s).1, as, (r.last s).2) := by
  induction as with
  | nil => rfl
  | cons a as ih =>
      rw [List.forall_mem_cons] at h
      rw [deliver, h.1, if_neg Bool.false_ne_true, ih h.2]

theorem deliver_of_first {inner : List α} (h : ∀ a ∈ inner, r.takes a = false) {a : α}
    (ha : r.takes a = true) (outer : List α) (s : σ) :
    deliver r (inner ++ a :: outer) s =
      ((r.handle a s).1, inner ++ (r.handle a s).2.1 :: outer, (r.handle a s).2.2) := by
  induction inner with
  | nil =>
      rw [List.nil_append, deliver, if_pos ha]
      rfl
  | cons b inner ih =>
      rw [List.forall_mem_cons] at h
      rw [List.cons_append, deliver, h.1, if_neg Bool.false_ne_true, ih h.2]
      rfl

/-- Either no member takes the request, or the first one that does is the only one to change. -/
theorem deliver_cases (as : List α) (s : σ) :
    ((∀ a ∈ as, r.takes a = false) ∧ deliver r as s = ((r.last s).1, as, (r.last s).2)) ∨
      ∃ inner a outer, as = inner ++ a :: outer ∧ (∀ b ∈ inner, r.takes b = false) ∧ r.takes a = true ∧
        deliver r as s =
          ((r.handle a s).1, inner ++ (r.handle a s).2.1 :: outer, (r.handle a s).2.2) := by
  by_cases h : ∀ a ∈ as, r.takes a = false
  · exact .inl ⟨h, deliver_of_none r h s⟩
  · have hfind : (as.find? r.takes).isSome := by
      rw [List.find?_isSome]
      by_contra hnone
      exact h fun a ha => Bool.eq_false_iff.mpr fun htakes => hnone ⟨a, ha, htakes⟩
    obtain ⟨a, ha⟩ := Option.isSome_iff_exists.mp hfind
    obtain ⟨htakes, inner, outer, heq, hinner⟩ := List.find?_eq_some_iff_append.mp ha
    have hfalse : ∀ b ∈ inner, r.takes b = false := by
      intro b hb
      have hnot := hinner b hb
      rwa [Bool.not_eq_true'] at hnot
    refine .inr ⟨inner, a, outer, heq, hfalse, htakes, ?_⟩
    rw [heq]
    exact deliver_of_first r hfalse htakes outer s

end Delegation
