import Mathlib.Data.List.Basic

/-!
# ObjectPool — objects that somebody else owns, and a handle to one of them

Objects are made one after the other and live until they are deleted; `current` is the one that the
handle refers to, if any.  `replace` is the only way to move the handle that deletes what it referred
to before, and a pool that is only used through it is `Tidy`: at most one object is alive, the one of
the handle.  The handle may outlast its object, which is then no longer there to be deleted.
-/

structure ObjectPool (α : Type*) where
  /-- The number of the next object. -/
  made : Nat := 0
  alive : List (Nat × α) := []
  current : Option (Nat × α) := none

namespace ObjectPool

variable {α : Type*}

/-- A new object, which the handle does not refer to yet. -/
def new (p : ObjectPool α) (content : α) : ObjectPool α :=
  { p with made := p.made + 1, alive := p.alive ++ [(p.made, content)] }

def delete (p : ObjectPool α) (object : Nat × α) : ObjectPool α :=
  { p with alive := p.alive.filter fun o => o.1 ≠ object.1 }

/-- The handle is moved, and the object that it referred to is deleted. -/
def replace (p : ObjectPool α) (value : Option (Nat × α)) : ObjectPool α :=
  { (match p.current with
      | some old => p.delete old
      | none => p) with current := value }

/-- The owner deletes all objects. -/
def deleteAll (p : ObjectPool α) : ObjectPool α := { p with alive := [] }

/-- The handle's object is all there is. -/
structure Tidy (p : ObjectPool α) : Prop where
  alive : p.alive = p.current.toList
  numbered : ∀ object ∈ p.alive, object.1 < p.made

theorem tidy_empty : ({} : ObjectPool α).Tidy := ⟨rfl, by simp⟩

@[simp] theorem current_new (p : ObjectPool α) (content : α) : (p.new content).current = p.current := rfl

@[simp] theorem current_replace (p : ObjectPool α) (value : Option (Nat × α)) :
    (p.replace value).current = value := rfl

@[simp] theorem current_deleteAll (p : ObjectPool α) : p.deleteAll.current = p.current := rfl

@[simp] theorem made_replace (p : ObjectPool α) (value : Option (Nat × α)) :
    (p.replace value).made = p.made := by
  unfold replace
  cases p.current <;> rfl

theorem Tidy.alive_replace_none {p : ObjectPool α} (hp : p.Tidy) : (p.replace none).alive = [] := by
  have halive := hp.alive
  unfold replace
  cases hc : p.current with
  | none =>
      rw [hc] at halive
      exact halive
  | some old =>
      rw [hc] at halive
      show p.alive.filter _ = []
      rw [halive]
      simp

-- The new object has a number of its own, so that deleting the old one leaves it alone.
theorem Tidy.alive_replace_new {p : ObjectPool α} (hp : p.Tidy) (content : α) :
    ((p.new content).replace (some (p.made, content))).alive = [(p.made, content)] := by
  have halive := hp.alive
  unfold replace
  rw [current_new]
  cases hc : p.current with
  | none =>
      rw [hc] at halive
      show p.alive ++ _ = _
      rw [halive]
      rfl
  | some old =>
      have hold : old.1 < p.made := by
        apply hp.numbered
        rw [halive, hc]
        exact List.mem_singleton.mpr rfl
      rw [hc] at halive
      show (p.alive ++ [(p.made, content)]).filter _ = _
      rw [halive]
      have hne : p.made ≠ old.1 := by omega
      simp [hne]

theorem Tidy.replace_none {p : ObjectPool α} (hp : p.Tidy) : (p.replace none).Tidy := by
  refine ⟨hp.alive_replace_none, ?_⟩
  rw [hp.alive_replace_none]
  simp

theorem Tidy.replace_new {p : ObjectPool α} (hp : p.Tidy) (content : α) :
    ((p.new content).replace (some (p.made, content))).Tidy := by
  refine ⟨hp.alive_replace_new content, ?_⟩
  rw [hp.alive_replace_new content, made_replace]
  intro object hobject
  rw [List.mem_singleton.mp hobject]
  exact Nat.lt_succ_self p.made

theorem Tidy.deleteAll {p : ObjectPool α} (hp : p.Tidy) (h : p.current = none) : p.deleteAll.Tidy := by
  have halive := hp.alive
  rw [h] at halive
  exact ⟨by rw [current_deleteAll, h]; rfl, fun _ ho => nomatch ho⟩

theorem Tidy.length_alive {p : ObjectPool α} (hp : p.Tidy) : p.alive.length ≤ 1 := by
  rw [hp.alive]
  cases p.current <;> simp

end ObjectPool
