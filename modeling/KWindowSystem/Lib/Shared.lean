import Mathlib.Data.List.AList
import Mathlib.Logic.Function.Basic

/-!
# Shared — objects that exist as long as something points to them

Objects of a type `α`, and pointers to them in the places of `κ`.  Pointers are assigned and reset;
an object is gone as soon as no place points to it, and nothing else removes it.  `assign_cases` says
what an assignment does to the objects: none of them changes, or the one is lost that the place was
the last to point to.
-/

/-- Objects by their numbers, with the pointers to them. -/
structure Shared (κ α : Type) [DecidableEq κ] where
  pointers : AList fun _ : κ => Nat
  objects : Nat → Option α
  /-- The number of the next object. -/
  made : Nat
  live : ∀ i, (objects i).isSome ↔ ∃ k, pointers.lookup k = some i
  numbered : ∀ i, (objects i).isSome → i < made

namespace Shared

variable {κ α : Type} [DecidableEq κ]

/-! ## Pointers -/

/-- Some place points to the object. -/
def Reached (p : AList fun _ : κ => Nat) (i : Nat) : Prop := ∃ k, p.lookup k = some i

instance decidableReached (p : AList fun _ : κ => Nat) (i : Nat) : Decidable (Reached p i) :=
  decidable_of_iff (∃ e ∈ p.entries, e.2 = i) (by
    constructor
    · rintro ⟨e, he, rfl⟩
      exact ⟨e.1, AList.mem_lookup_iff.mpr he⟩
    · rintro ⟨k, hk⟩
      exact ⟨⟨k, i⟩, AList.mem_lookup_iff.mp hk, rfl⟩)

/-- A place is made to point to an object, or to none. -/
def put (p : AList fun _ : κ => Nat) (k : κ) : Option Nat → AList fun _ : κ => Nat
  | some i => p.insert k i
  | none => p.erase k

theorem lookup_put (p : AList fun _ : κ => Nat) (k : κ) (v : Option Nat) (l : κ) :
    (put p k v).lookup l = if l = k then v else p.lookup l := by
  by_cases hl : l = k
  · subst hl
    cases v <;> simp [put]
  · cases v <;> simp [put, hl]

theorem reached_put (p : AList fun _ : κ => Nat) (k : κ) (v : Option Nat) (i : Nat) :
    Reached (put p k v) i ↔ v = some i ∨ ∃ l, l ≠ k ∧ p.lookup l = some i := by
  simp only [Reached, lookup_put]
  constructor
  · rintro ⟨l, hl⟩
    by_cases h : l = k
    · exact .inl (by simpa [h] using hl)
    · exact .inr ⟨l, h, by simpa [h] using hl⟩
  · rintro (hv | ⟨l, h, hl⟩)
    · exact ⟨k, by simpa using hv⟩
    · exact ⟨l, by simpa [h] using hl⟩

-- Only the object that the place pointed to can lose its last pointer.
theorem reached_put_of_ne {p : AList fun _ : κ => Nat} {k : κ} {v : Option Nat} {i : Nat}
    (h : Reached p i) (hi : p.lookup k ≠ some i) : Reached (put p k v) i := by
  rcases h with ⟨l, hl⟩
  exact (reached_put p k v i).mpr (.inr ⟨l, fun hlk => hi (hlk ▸ hl), hl⟩)

/-! ## Operations -/

/-- The pointers with the objects that they reach. -/
def settle (pointers : AList fun _ : κ => Nat) (objects : Nat → Option α) (made : Nat)
    (hlive : ∀ k i, pointers.lookup k = some i → (objects i).isSome)
    (hnumbered : ∀ i, (objects i).isSome → i < made) : Shared κ α where
  pointers := pointers
  objects i := if Reached pointers i then objects i else none
  made := made
  live i := by
    by_cases h : Reached pointers i
    · rw [if_pos h]
      exact ⟨fun _ => h, fun ⟨k, hk⟩ => hlive k i hk⟩
    · rw [if_neg h]
      exact ⟨fun hnone => by simp at hnone, fun hk => absurd hk h⟩
  numbered i hi := by
    by_cases h : Reached pointers i
    · exact hnumbered i (by simpa [h] using hi)
    · simp [h] at hi

def empty : Shared κ α where
  pointers := ∅
  objects _ := none
  made := 0
  live i := by simp
  numbered i hi := by simp at hi

/-- The number of the object that a place points to. -/
def target (s : Shared κ α) (k : κ) : Option Nat := s.pointers.lookup k

/-- The object that a place points to. -/
def get (s : Shared κ α) (k : κ) : Option α := (s.target k).bind s.objects

theorem live_of_target (s : Shared κ α) {k : κ} {i : Nat} (h : s.target k = some i) : (s.objects i).isSome :=
  (s.live i).mpr ⟨k, h⟩

theorem get_of_target (s : Shared κ α) {k : κ} {i : Nat} (h : s.target k = some i) : s.get k = s.objects i := by
  rw [get, h, Option.bind_some]

-- A pointer that is not null points to an object.
theorem isSome_get (s : Shared κ α) (k : κ) : (s.get k).isSome = (s.target k).isSome := by
  cases h : s.target k with
  | none => simp [get, h]
  | some i => rw [s.get_of_target h, s.live_of_target h]; rfl

/-- A new object, to which the place points. -/
def make (s : Shared κ α) (k : κ) (a : α) : Shared κ α :=
  settle (put s.pointers k (some s.made)) (Function.update s.objects s.made (some a)) (s.made + 1)
    (by
      intro l i hl
      rw [lookup_put] at hl
      by_cases h : i = s.made
      · simp [h]
      · rw [Function.update_of_ne h]
        by_cases hlk : l = k
        · simp [hlk, Ne.symm h] at hl
        · rw [if_neg hlk] at hl
          exact s.live_of_target hl)
    (by
      intro i hi
      by_cases h : i = s.made
      · omega
      · have := s.numbered i (by simpa [Function.update_of_ne h] using hi)
        omega)

/-- A place is made to point where another one does, or nowhere. -/
def assign (s : Shared κ α) (k : κ) (source : Option κ) : Shared κ α :=
  settle (put s.pointers k (source.bind s.target)) s.objects s.made
    (by
      intro l i hl
      rw [lookup_put] at hl
      by_cases h : l = k
      · rw [if_pos h] at hl
        obtain ⟨l', _, hl'⟩ := Option.bind_eq_some_iff.mp hl
        exact s.live_of_target hl'
      · rw [if_neg h] at hl
        exact s.live_of_target hl)
    s.numbered

/-- The object of a place is changed. -/
def modify (s : Shared κ α) (k : κ) (f : α → α) : Shared κ α where
  pointers := s.pointers
  objects i := if s.target k = some i then (s.objects i).map f else s.objects i
  made := s.made
  live i := by rw [← s.live i]; split <;> simp
  numbered i hi := s.numbered i (by split at hi <;> simpa using hi)

/-- The object that is lost when a place of the first state is changed as in the second. -/
def lost (s s' : Shared κ α) (k : κ) : Option α :=
  (s.target k).bind fun i => if Reached s'.pointers i then none else s.objects i

/-! ## What they do -/

@[simp] theorem target_empty (k : κ) : (empty : Shared κ α).target k = none := AList.lookup_empty k

theorem target_make (s : Shared κ α) (k : κ) (a : α) (l : κ) :
    (s.make k a).target l = if l = k then some s.made else s.target l := lookup_put _ k _ l

theorem target_assign (s : Shared κ α) (k : κ) (source : Option κ) (l : κ) :
    (s.assign k source).target l = if l = k then source.bind s.target else s.target l := lookup_put _ k _ l

@[simp] theorem target_modify (s : Shared κ α) (k : κ) (f : α → α) (l : κ) :
    (s.modify k f).target l = s.target l := rfl

@[simp] theorem made_assign (s : Shared κ α) (k : κ) (source : Option κ) : (s.assign k source).made = s.made := rfl

@[simp] theorem made_modify (s : Shared κ α) (k : κ) (f : α → α) : (s.modify k f).made = s.made := rfl

theorem reached_of_objects (s : Shared κ α) {i : Nat} {a : α} (h : s.objects i = some a) :
    Reached s.pointers i := (s.live i).mp (by rw [h]; rfl)

-- Nothing points to an object that is still to be made.
theorem objects_made (s : Shared κ α) : s.objects s.made = none := by
  by_contra h
  have := s.numbered s.made (Option.isSome_iff_ne_none.mpr h)
  omega

-- A null pointer is set to a new object, and no object is lost.
theorem objects_make (s : Shared κ α) {k : κ} (hk : s.target k = none) (a : α) :
    (s.make k a).objects = Function.update s.objects s.made (some a) := by
  funext i
  change (if Reached _ i then _ else _) = _
  by_cases h : i = s.made
  · rw [h, if_pos ((reached_put _ _ _ _).mpr (.inl rfl))]
  · rw [Function.update_of_ne h]
    cases hi : s.objects i with
    | none => simp
    | some b =>
        have hreached := s.reached_of_objects hi
        exact if_pos (reached_put_of_ne hreached (by rw [show s.pointers.lookup k = none from hk]; simp))

-- An assignment leaves all objects as they are, or takes away the one object that nothing else
-- pointed to.
theorem assign_cases (s : Shared κ α) (k : κ) (source : Option κ) :
    ((s.assign k source).objects = s.objects ∧ lost s (s.assign k source) k = none) ∨
    ∃ i a, s.target k = some i ∧ s.objects i = some a ∧ lost s (s.assign k source) k = some a ∧
      (s.assign k source).objects = Function.update s.objects i none := by
  have hreached (j : Nat) (hj : s.target k ≠ some j) :
      (s.assign k source).objects j = s.objects j := by
    change (if Reached _ j then _ else _) = _
    cases h : s.objects j with
    | none => simp
    | some a => exact if_pos (reached_put_of_ne (s.reached_of_objects h) hj)
  cases hk : s.target k with
  | none =>
      left
      exact ⟨funext fun j => hreached j (by simp [hk]), by rw [lost, hk]; rfl⟩
  | some i =>
      by_cases h : Reached (put s.pointers k (source.bind s.target)) i
      · left
        have hlost : lost s (s.assign k source) k = none := by
          rw [lost, hk, Option.bind_some]
          exact if_pos h
        refine ⟨funext fun j => ?_, hlost⟩
        by_cases hj : j = i
        · subst hj
          exact if_pos h
        · exact hreached j (by simp [hk, Ne.symm hj])
      · right
        rcases Option.isSome_iff_exists.mp (s.live_of_target hk) with ⟨a, ha⟩
        have hlost : lost s (s.assign k source) k = some a := by
          rw [lost, hk, Option.bind_some, ← ha]
          exact if_neg h
        refine ⟨i, a, rfl, ha, hlost, funext fun j => ?_⟩
        by_cases hj : j = i
        · subst hj
          rw [Function.update_self]
          exact if_neg h
        · rw [Function.update_of_ne hj]
          exact hreached j (by simp [hk, Ne.symm hj])

theorem objects_modify (s : Shared κ α) {k : κ} {i : Nat} {a : α} (hk : s.target k = some i)
    (ha : s.objects i = some a) (f : α → α) :
    (s.modify k f).objects = Function.update s.objects i (some (f a)) := by
  funext j
  change (if s.target k = some j then _ else _) = _
  by_cases h : j = i
  · subst h
    rw [if_pos hk, ha, Function.update_self, Option.map_some]
  · rw [if_neg (by rw [hk]; simp [Ne.symm h]), Function.update_of_ne h]

-- What a place still points to is the object that was there.
theorem get_assign (s : Shared κ α) (k : κ) (source : Option κ) {l : κ} (hl : l ≠ k) :
    (s.assign k source).get l = s.get l := by
  have htarget : (s.assign k source).target l = s.target l := by rw [target_assign, if_neg hl]
  rw [get, get, htarget]
  cases h : s.target l with
  | none => rfl
  | some i =>
      have hreached : Reached (s.assign k source).pointers i := ⟨l, by rw [← h]; exact htarget⟩
      exact if_pos hreached

theorem get_make (s : Shared κ α) {k : κ} (hk : s.target k = none) (a : α) (l : κ) :
    (s.make k a).get l = if l = k then some a else s.get l := by
  rw [get, target_make, objects_make s hk]
  by_cases hl : l = k
  · simp [hl]
  · rw [if_neg hl, if_neg hl, get]
    cases h : s.target l with
    | none => rfl
    | some i =>
        have := s.numbered i (s.live_of_target h)
        rw [Option.bind_some, Option.bind_some, Function.update_of_ne (by omega)]

theorem get_modify (s : Shared κ α) (k : κ) (f : α → α) (l : κ) :
    (s.modify k f).get l = if s.target l = s.target k then (s.get l).map f else s.get l := by
  rw [get, get, target_modify]
  cases h : s.target l with
  | none => simp
  | some i =>
      rw [Option.bind_some, Option.bind_some]
      change (if s.target k = some i then _ else _) = _
      by_cases hk : s.target k = some i
      · simp [hk]
      · rw [if_neg hk, if_neg (Ne.symm hk)]

end Shared
