import Mathlib.Data.List.Pairwise

/-!
# FlagTable — flags translated by a table of masks

A table pairs masks of one word with masks of another.  `translate?` takes a set of flags across, and fails if
one of them has no mask on the other side; `translate` takes whatever it finds.  Where the masks on the far side
are disjoint and those on the near side single bits, going across and back leaves exactly the flags of the table
(`translate_translate?`).
-/

namespace FlagTable

variable {ι : Type*} {v w : Nat}

def Apart (a b : BitVec w) : Prop := a &&& b = 0

instance (a b : BitVec w) : Decidable (Apart a b) := inferInstanceAs (Decidable (_ = _))

theorem Apart.symm {a b : BitVec w} (h : Apart a b) : Apart b a := (BitVec.and_comm b a).trans h

theorem apart_iff {a b : BitVec w} : Apart a b ↔ ∀ i, a.getLsbD i = true → b.getLsbD i = false := by
  unfold Apart
  constructor
  · intro h i hi
    have hbit := congrArg (BitVec.getLsbD · i) h
    simpa [hi] using hbit
  · intro h
    apply BitVec.eq_of_getLsbD_eq
    intro i _
    cases ha : a.getLsbD i with
    | false => simp [ha]
    | true => simp [h i ha]

/-- Taking the bits of another mask away leaves nothing in common with it. -/
theorem apart_and_not (a b : BitVec w) : Apart (a &&& ~~~b) b := by
  rw [apart_iff]
  intro i hi
  rw [BitVec.getLsbD_and, BitVec.getLsbD_not, Bool.and_eq_true, Bool.and_eq_true, Bool.not_eq_true'] at hi
  exact hi.2.2

/-- A mask from which another one is cleared if they overlap. -/
theorem apart_clear (a b : BitVec w) : Apart (if a &&& b ≠ 0 then a &&& ~~~b else a) b := by
  split
  · exact apart_and_not a b
  · rename_i h
    exact not_not.mp h

theorem Apart.and_left {a b : BitVec w} (h : Apart a b) (c : BitVec w) : Apart (a &&& c) b := by
  rw [apart_iff] at h ⊢
  intro i hi
  rw [BitVec.getLsbD_and, Bool.and_eq_true] at hi
  exact h i hi.1

theorem Apart.or_left {a b c : BitVec w} (ha : Apart a c) (hb : Apart b c) :
    Apart (a ||| b) c := by
  rw [apart_iff] at ha hb ⊢
  intro i hi
  rw [BitVec.getLsbD_or, Bool.or_eq_true] at hi
  exact hi.elim (ha i) (hb i)

theorem Apart.of_or_right {a b c : BitVec w} (h : Apart a (b ||| c)) :
    Apart a b ∧ Apart a c := by
  rw [apart_iff] at h
  rw [apart_iff, apart_iff]
  have hor : ∀ i, a.getLsbD i = true → b.getLsbD i = false ∧ c.getLsbD i = false := by
    intro i hi
    have hbit := h i hi
    rwa [BitVec.getLsbD_or, Bool.or_eq_false_iff] at hbit
  exact ⟨fun i hi => (hor i hi).1, fun i hi => (hor i hi).2⟩

/-! ## Tables -/

section Table

variable (near : ι → BitVec v) (far : ι → BitVec w)

/-- All the masks together. -/
def union : List ι → BitVec w
  | [] => 0
  | a :: l => far a ||| union l

def translate? (l : List ι) (m : BitVec v) : Option (BitVec w) :=
  l.foldlM (fun x a =>
    if m &&& near a ≠ 0 then if far a ≠ 0 then some (x ||| far a) else none else some x) 0

def translate (l : List ι) (m : BitVec v) : BitVec w :=
  l.foldl (fun x a => if m &&& near a ≠ 0 then x ||| far a else x) 0

/-- The entries whose near mask has a flag of `m`. -/
def hits (l : List ι) (m : BitVec v) : List ι := l.filter fun a => decide (m &&& near a ≠ 0)

theorem translate_eq (l : List ι) (m : BitVec v) : translate near far l m = union far (hits near l m) := by
  have hfold : ∀ x, l.foldl (fun x a => if m &&& near a ≠ 0 then x ||| far a else x) x =
      x ||| union far (hits near l m) := by
    induction l with
    | nil => exact fun x => (BitVec.or_zero).symm
    | cons a l ih =>
        intro x
        unfold hits
        rw [List.foldl_cons, ih, List.filter_cons]
        by_cases h : m &&& near a ≠ 0
        · rw [if_pos h, if_pos (decide_eq_true h), BitVec.or_assoc]
          rfl
        · rw [if_neg h, if_neg (by simpa using h)]
          rfl
  exact (hfold 0).trans BitVec.zero_or

theorem translate?_eq_some {l : List ι} {m : BitVec v} {x : BitVec w}
    (h : translate? near far l m = some x) :
    (∀ a ∈ hits near l m, far a ≠ 0) ∧ x = union far (hits near l m) := by
  have hfold : ∀ y x, l.foldlM (fun x a =>
      if m &&& near a ≠ 0 then if far a ≠ 0 then some (x ||| far a) else none else some x) y = some x →
      (∀ a ∈ hits near l m, far a ≠ 0) ∧ x = y ||| union far (hits near l m) := by
    clear h x
    induction l with
    | nil =>
        intro y x h
        cases h
        exact ⟨fun a ha => absurd ha List.not_mem_nil, (BitVec.or_zero).symm⟩
    | cons a l ih =>
        intro y x h
        rw [List.foldlM_cons] at h
        unfold hits
        rw [List.filter_cons]
        by_cases hnear : m &&& near a ≠ 0
        · rw [if_pos hnear] at h
          rw [if_pos (decide_eq_true hnear)]
          by_cases hfar : far a ≠ 0
          · rw [if_pos hfar] at h
            obtain ⟨hrest, hx⟩ := ih _ _ h
            exact ⟨List.forall_mem_cons.mpr ⟨hfar, hrest⟩, hx.trans (BitVec.or_assoc _ _ _)⟩
          · rw [if_neg hfar] at h
            cases h
        · rw [if_neg hnear] at h
          rw [if_neg (by simpa using hnear)]
          exact ih _ _ h
  obtain ⟨hfar, hx⟩ := hfold 0 x h
  exact ⟨hfar, hx.trans (BitVec.zero_or)⟩

theorem getLsbD_union {l : List ι} {i : Nat} :
    (union far l).getLsbD i = true ↔ ∃ a ∈ l, (far a).getLsbD i = true := by
  induction l with
  | nil => simp [union]
  | cons a l ih =>
      unfold union
      rw [BitVec.getLsbD_or, Bool.or_eq_true, ih]
      simp

-- What no mask of the table has, no translation has.
theorem apart_translate {l : List ι} {c : BitVec w} (h : ∀ a ∈ l, Apart (far a) c) (m : BitVec v) :
    Apart (translate near far l m) c := by
  rw [translate_eq, apart_iff]
  intro i hi
  obtain ⟨a, ha, hbit⟩ := (getLsbD_union far).mp hi
  exact apart_iff.mp (h a (List.mem_filter.mp ha).1) i hbit

variable {near far}

-- What went across meets the far masks of the entries that were hit, and no other.
theorem mem_hits_back {l : List ι} (hdisjoint : l.Pairwise fun a b => Apart (far a) (far b)) {m : BitVec v}
    (hfar : ∀ a ∈ hits near l m, far a ≠ 0) {a : ι} (ha : a ∈ l) :
    union far (hits near l m) &&& far a ≠ 0 ↔ m &&& near a ≠ 0 := by
  constructor
  · intro h
    by_contra hnot
    apply h
    apply Apart.symm
    rw [apart_iff]
    intro i hi
    by_contra hbit
    rw [Bool.not_eq_false, getLsbD_union] at hbit
    obtain ⟨b, hb, hbi⟩ := hbit
    rw [hits, List.mem_filter] at hb
    have hne : a ≠ b := by
      rintro rfl
      exact of_decide_eq_true hb.2 hnot
    have hsymm : Std.Symm fun a b => Apart (far a) (far b) := ⟨fun _ _ h => h.symm⟩
    have hdis := hdisjoint.forall ha hb.1 hne
    rw [apart_iff] at hdis
    exact Bool.false_ne_true ((hdis i hi).symm.trans hbi)
  · intro h hzero
    have hmem : a ∈ hits near l m := List.mem_filter.mpr ⟨ha, decide_eq_true h⟩
    apply hfar a hmem
    have hdis : Apart (union far (hits near l m)) (far a) := hzero
    rw [apart_iff] at hdis
    apply BitVec.eq_of_getLsbD_eq
    intro i _
    show _ = (0#w).getLsbD i
    rw [BitVec.getLsbD_zero]
    by_contra hbit
    rw [Bool.not_eq_false] at hbit
    have hunion := (getLsbD_union far).mpr ⟨a, hmem, hbit⟩
    exact Bool.false_ne_true ((hdis i hunion).symm.trans hbit)

theorem union_hits (l : List ι) (hbit : ∀ a ∈ l, ∀ m, m &&& near a = 0 ∨ m &&& near a = near a)
    (m : BitVec v) : union near (hits near l m) = m &&& union near l := by
  induction l with
  | nil => exact (BitVec.and_zero).symm
  | cons a l ih =>
      rw [List.forall_mem_cons] at hbit
      have hrest := ih hbit.2
      have hsplit : m &&& union near (a :: l) = m &&& near a ||| m &&& union near l := by
        ext i
        simp [union, Bool.and_or_distrib_left]
      unfold hits at hrest ⊢
      rw [hsplit, List.filter_cons]
      by_cases h : m &&& near a = 0
      · rw [if_neg (by simpa using h), h, hrest]
        exact BitVec.zero_or.symm
      · rw [if_pos (by simpa using h), (hbit.1 m).resolve_left h]
        exact congrArg _ hrest

/-- Across and back: the flags of the table come home, and no others. -/
theorem translate_translate? {l : List ι} (hdisjoint : l.Pairwise fun a b => Apart (far a) (far b))
    (hbit : ∀ a ∈ l, ∀ m, m &&& near a = 0 ∨ m &&& near a = near a) {m : BitVec v} {x : BitVec w}
    (h : translate? near far l m = some x) : translate far near l x = m &&& union near l := by
  obtain ⟨hfar, rfl⟩ := translate?_eq_some near far h
  have hhits : hits far l (union far (hits near l m)) = hits near l m := by
    apply List.filter_congr
    intro a ha
    exact decide_eq_decide.mpr (mem_hits_back hdisjoint hfar ha)
  rw [translate_eq, hhits, union_hits l hbit]

end Table

end FlagTable
