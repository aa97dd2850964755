import Mathlib.Logic.Function.Basic

/-!
# Registry — what a server keeps for the objects of its client

Each owner has a list of names, and the server keeps something under each of them.  `Owned` says that
the server keeps exactly what its owners want it to, that no two of them share a name, and that the next
name is free.  It survives when an owner takes new names (`claim`), gives its names up (`free`) or
changes in a way that the server does not see (`change`).
-/

namespace Registry

variable {ι α β : Type} {names : α → List Nat} {content : α → Nat → Option β}

structure Owned (names : α → List Nat) (content : α → Nat → Option β) (owner : ι → Option α)
    (resources : Nat → Option β) (next : Nat) : Prop where
  held : ∀ {i a x}, owner i = some a → x ∈ names a → resources x = content a x
  covered : ∀ {x r}, resources x = some r → ∃ i a, owner i = some a ∧ x ∈ names a
  apart : ∀ {i j a b x}, owner i = some a → owner j = some b → x ∈ names a → x ∈ names b → i = j
  used : ∀ {i a x}, owner i = some a → x ∈ names a → 0 < x ∧ x < next
  positive : 0 < next

variable {owner : ι → Option α} {resources : Nat → Option β} {next : Nat}

-- What the server keeps under a name, said of all names at once.
theorem Owned.resources_iff (h : Owned names content owner resources next) {x : Nat} {r : β} :
    resources x = some r ↔ ∃ i a, owner i = some a ∧ x ∈ names a ∧ content a x = some r := by
  constructor
  · intro hx
    rcases h.covered hx with ⟨i, a, ha, hmem⟩
    exact ⟨i, a, ha, hmem, (h.held ha hmem).symm.trans hx⟩
  · rintro ⟨i, a, ha, hmem, hr⟩
    exact (h.held ha hmem).trans hr

-- Names that were not given out yet are free.
theorem Owned.fresh (h : Owned names content owner resources next) {x : Nat} (hx : next ≤ x) :
    resources x = none := by
  cases hr : resources x with
  | none => rfl
  | some r =>
      rcases h.covered hr with ⟨i, a, ha, hmem⟩
      have := h.used ha hmem
      omega

theorem owned_empty (names : α → List Nat) (content : α → Nat → Option β) :
    Owned names content (fun _ : ι => none) (fun _ => none) 1 :=
  ⟨fun h => by simp at h, fun h => by simp at h, fun h => by simp at h, fun h => by simp at h, by omega⟩

variable [DecidableEq ι]

/-- An owner gives up its names and is gone. -/
theorem Owned.free (h : Owned names content owner resources next) {i : ι} {a : α} (ha : owner i = some a) :
    Owned names content (Function.update owner i none) (fun x => if x ∈ names a then none else resources x) next := by
  have hother {j : ι} {b : α} (hb : Function.update owner i none j = some b) : j ≠ i ∧ owner j = some b := by
    by_cases hj : j = i
    · subst hj
      simp at hb
    · exact ⟨hj, by simpa [hj] using hb⟩
  refine ⟨fun hb hx => ?_, fun {x r} hr => ?_, fun hb hc => h.apart (hother hb).2 (hother hc).2,
    fun hb => h.used (hother hb).2, h.positive⟩
  · rw [if_neg fun hmem => (hother hb).1 (h.apart (hother hb).2 ha hx hmem)]
    exact h.held (hother hb).2 hx
  · by_cases hmem : x ∈ names a
    · simp [hmem] at hr
    · rw [if_neg hmem] at hr
      rcases h.covered hr with ⟨j, b, hb, hx⟩
      have hj : j ≠ i := by
        rintro rfl
        exact hmem (Option.some.inj (hb.symm.trans ha) ▸ hx)
      exact ⟨j, b, by rw [Function.update_of_ne hj, hb], hx⟩

/-- An owner without names is gone. -/
theorem Owned.forget (h : Owned names content owner resources next) {i : ι}
    (hi : ∀ a, owner i = some a → names a = []) :
    Owned names content (Function.update owner i none) resources next := by
  cases ha : owner i with
  | none => rwa [← ha, Function.update_eq_self]
  | some a =>
      have hfree := h.free ha
      simpa [hi a ha] using hfree

/-- An owner without names takes new ones. -/
theorem Owned.claim (h : Owned names content owner resources next) {i : ι} {a : α} {next' : Nat}
    (hi : ∀ b, owner i = some b → names b = []) (hnext : next ≤ next')
    (ha : ∀ x ∈ names a, next ≤ x ∧ x < next') :
    Owned names content (Function.update owner i (some a))
      (fun x => if x ∈ names a then content a x else resources x) next' := by
  have hcases {j : ι} {b : α} {x : Nat} (hb : Function.update owner i (some a) j = some b) (hx : x ∈ names b) :
      (j = i ∧ b = a) ∨ (j ≠ i ∧ owner j = some b ∧ x < next) := by
    by_cases hj : j = i
    · subst hj
      left
      simpa [eq_comm] using hb
    · rw [Function.update_of_ne hj] at hb
      exact .inr ⟨hj, hb, (h.used hb hx).2⟩
  refine ⟨fun {j b x} hb hx => ?_, fun {x r} hr => ?_, fun {j k b c x} hb hc hx hy => ?_, fun {j b x} hb hx => ?_,
    Nat.lt_of_lt_of_le h.positive hnext⟩
  · rcases hcases hb hx with ⟨rfl, rfl⟩ | ⟨_, hb', hlt⟩
    · exact if_pos hx
    · have hmem : x ∉ names a := fun hmem => by have := ha x hmem; omega
      rw [if_neg hmem]
      exact h.held hb' hx
  · by_cases hmem : x ∈ names a
    · exact ⟨i, a, by simp, hmem⟩
    · rw [if_neg hmem] at hr
      rcases h.covered hr with ⟨j, b, hb, hx⟩
      have hj : j ≠ i := by
        rintro rfl
        simp [hi b hb] at hx
      exact ⟨j, b, by rw [Function.update_of_ne hj, hb], hx⟩
  · rcases hcases hb hx with ⟨rfl, rfl⟩ | ⟨_, hb', hlt⟩ <;> rcases hcases hc hy with ⟨rfl, rfl⟩ | ⟨_, hc', hlt'⟩
    · rfl
    · have := ha x hx
      omega
    · have := ha x hy
      omega
    · exact h.apart hb' hc' hx hy
  · rcases hcases hb hx with ⟨rfl, rfl⟩ | ⟨_, hb', hlt⟩
    · have := ha x hx
      have := h.positive
      omega
    · have := (h.used hb' hx).1
      omega

/-- An owner changes, but not its names nor what it wants under them. -/
theorem Owned.change (h : Owned names content owner resources next) {i : ι} {a : Option α} {b : α}
    (ha : owner i = a) (hnames : names b = (a.map names).getD [])
    (hcontent : ∀ a' ∈ a, ∀ x ∈ names b, content b x = content a' x) :
    Owned names content (Function.update owner i (some b)) resources next := by
  have hcases {j : ι} {c : α} {x : Nat} (hc : Function.update owner i (some b) j = some c) (hx : x ∈ names c) :
      ∃ c', owner j = some c' ∧ x ∈ names c' ∧ content c x = content c' x := by
    by_cases hj : j = i
    · subst hj
      obtain rfl : b = c := by simpa using hc
      cases a with
      | none => simp [hnames] at hx
      | some a' => exact ⟨a', ha, by simpa [hnames] using hx, hcontent a' rfl x hx⟩
    · exact ⟨c, by simpa [hj] using hc, hx, rfl⟩
  refine ⟨fun hc hx => ?_, fun {x r} hr => ?_, fun hc hd hx hy => ?_, fun hc hx => ?_, h.positive⟩
  · rcases hcases hc hx with ⟨c', hc', hx', heq⟩
    rw [heq]
    exact h.held hc' hx'
  · rcases h.covered hr with ⟨j, c, hc, hx⟩
    by_cases hj : j = i
    · subst hj
      refine ⟨j, b, by simp, ?_⟩
      rw [hnames, ← ha, hc]
      exact hx
    · exact ⟨j, c, by rw [Function.update_of_ne hj, hc], hx⟩
  · rcases hcases hc hx with ⟨c', hc', hx', _⟩
    rcases hcases hd hy with ⟨d', hd', hy', _⟩
    exact h.apart hc' hd' hx' hy'
  · rcases hcases hc hx with ⟨c', hc', hx', _⟩
    exact h.used hc' hx'

end Registry
