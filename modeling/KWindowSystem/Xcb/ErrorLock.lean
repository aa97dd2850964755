import KWindowSystem.Xcb.ErrorRouting

/-!
# The lock of the X error handlers

`s_lock` is not recursive, and the wrapper holds it while it calls the function an object found installed.  From
the second object on that function is the wrapper.
-/

open Machine

namespace KWindowSystem

namespace KXErrorHandler

variable {D F W : Type} (fn : ErrorFunctions D F W) {base : F} {s : ErrorState D F W}
  {chain : List (Entry D F)}

-- Creating and destroying an object calls no handler.
theorem construct_mutex (h : s.sLock = false) (handler : Option F) (dpy : D) (nextRequest : UInt64) :
    construct true handler dpy nextRequest s = construct false handler dpy nextRequest s := by
  cases s
  cases h
  rfl

theorem destruct_mutex (h : s.sLock = false) : destruct true s = destruct false s := by
  obtain ⟨sLock, handlers, pos, installed, world⟩ := s
  cases h
  cases pos with
  | zero => rfl
  | succ pos =>
      cases hslot : handlers[pos]?.join with
      | none => simp [destruct, lockGuard, handlerAt, hslot, Except.map]
      | some self => simp [destruct, lockGuard, handlerAt, hslot, Except.map, xSetErrorHandler]

/-- An operation is harmless if it delivers no error past a second object: at most one is alive, or the
innermost one takes the error. -/
def Meets (s : ErrorState D F W) : Op D F → Prop
  | .error dpy e => s.pos ≤ 1 ∨ ∃ self, handlerAt s (s.pos - 1) = some self ∧ self.Takes dpy e
  | _ => True

theorem meets_error {x : Entry D F} (h : Represents base s (x :: chain)) (dpy : D) (e : XErrorEvent D) :
    Meets s (.error dpy e) ↔ chain = [] ∨ x.Takes dpy e := by
  unfold Meets
  rw [h.pos, List.length_cons, Nat.add_sub_cancel, h.slots.handlerAt]
  apply or_congr
  · rw [← List.length_eq_zero_iff]
    omega
  · constructor
    · rintro ⟨self, hself, htakes⟩
      cases hself
      exact htakes
    · exact fun htakes => ⟨_, rfl, htakes⟩

/-- The result of a run is a chain, or the object to destroy was missing. -/
def Alive (base : F) (r : Except ErrorFault (ErrorState D F W)) : Prop := ∃ c, Follows base r c

theorem alive_ne_relock {r : Except ErrorFault (ErrorState D F W)} (h : Alive base r) :
    r ≠ .error .relock := by
  obtain ⟨c, hc⟩ := h
  cases c with
  | none =>
      rw [show r = .error .noHandler from hc]
      exact fun h => by cases h
  | some c =>
      obtain ⟨s, rfl, -, -⟩ := hc
      exact fun h => by cases h

variable [DecidableEq D]

/-- What the innermost object does not take, a second one is called for with the lock held. -/
theorem deliver_mutex {x : Entry D F} (h : Represents base s (x :: chain)) (dpy : D) (e : XErrorEvent D) :
    deliver fn true dpy e s =
      if chain = [] ∨ x.Takes dpy e then deliver fn false dpy e s else .error .relock := by
  obtain ⟨sLock, handlers, pos, installed, world⟩ := s
  obtain ⟨hfree, hpos, hslots, hinstalled⟩ := h
  cases hfree
  cases hpos
  cases hinstalled
  by_cases hx : x.Takes dpy e
  · have hslot : handlers[chain.length]? = some (some (x.object (top base chain))) := hslots.1
    have hobject : (x.object (top base chain)).Takes dpy e := hx
    rw [if_pos (.inr hx)]
    simp [deliver, call, handlerWrapper, lockGuard, handle, handlerAt, hslot, hobject, Except.map]
  · cases chain with
    | nil =>
        -- The outermost object calls a function that does not know of the lock.
        have hslot : handlers[0]? = some (some (x.object (.function base))) := hslots.1
        have hobject : ¬(x.object (.function base)).Takes dpy e := hx
        have hold : (x.object (.function base)).oldHandler = .function base := rfl
        rw [if_pos (.inl rfl)]
        simp [deliver, call, handlerWrapper, lockGuard, handle, handlerAt, hslot, hobject, hold, Except.map]
    | cons y outer =>
        have hslot : handlers[outer.length + 1]? = some (some (x.object .handlerWrapper)) := hslots.1
        have hobject : ¬(x.object .handlerWrapper).Takes dpy e := hx
        have hold : (x.object .handlerWrapper).oldHandler = (.handlerWrapper : XErrorHandler F) := rfl
        have hneither : ¬(y :: outer = [] ∨ x.Takes dpy e) := not_or.mpr ⟨List.cons_ne_nil _ _, hx⟩
        rw [if_neg hneither]
        simp [deliver, call, handlerWrapper, lockGuard, handle, handlerAt, hslot, hobject, hold, Except.map]

/-- An operation from a state with the lock free: a harmless one does with the mutex what it does without,
any other one ends in the deadlock. -/
theorem step_mutex (h : Represents base s chain) (op : Op D F) :
    (Meets s op ∧ step fn true s op = step fn false s op) ∨
      (¬Meets s op ∧ step fn true s op = .error .relock) := by
  cases op with
  | construct handler dpy nextRequest =>
      exact .inl ⟨trivial,
        congrArg (Except.map Prod.snd) (construct_mutex h.unlocked handler dpy nextRequest)⟩
  | destruct => exact .inl ⟨trivial, congrArg (Except.map Prod.snd) (destruct_mutex h.unlocked)⟩
  | error dpy e =>
      cases chain with
      | nil =>
          left
          have hpos : s.pos ≤ 1 := h.pos ▸ Nat.zero_le 1
          apply And.intro (.inl hpos)
          unfold step deliver
          rw [h.installed]
          rfl
      | cons x outer =>
          have hdeliver := deliver_mutex fn h dpy e
          rw [meets_error h]
          by_cases hmeets : outer = [] ∨ x.Takes dpy e
          · rw [if_pos hmeets] at hdeliver
            exact .inl ⟨hmeets, congrArg (Except.map Prod.snd) hdeliver⟩
          · rw [if_neg hmeets] at hdeliver
            exact .inr ⟨hmeets, congrArg (Except.map Prod.snd) hdeliver⟩

theorem next_mutex {r : Except ErrorFault (ErrorState D F W)} (h : Alive base r) (op : Op D F) :
    ((∀ s, r = .ok s → Meets s op) ∧ next fn true r op = next fn false r op) ∨
      (¬(∀ s, r = .ok s → Meets s op) ∧ next fn true r op = .error .relock) := by
  obtain ⟨c, hc⟩ := h
  cases c with
  | none =>
      rw [show r = .error .noHandler from hc]
      exact .inl ⟨(fun s hs => by cases hs), rfl⟩
  | some c =>
      obtain ⟨s, rfl, -, hs⟩ := hc
      rcases step_mutex fn hs op with ⟨hmeets, heq⟩ | ⟨hnot, heq⟩
      · exact .inl ⟨(fun t ht => by cases ht; exact hmeets), heq⟩
      · exact .inr ⟨fun hall => hnot (hall s rfl), heq⟩

theorem next_alive {r : Except ErrorFault (ErrorState D F W)} (h : Alive base r) (op : Op D F) :
    Alive base (next fn false r op) := by
  obtain ⟨c, hc⟩ := h
  exact ⟨_, next_follows fn hc op⟩

/-- No step of a run tries to lock the mutex a second time exactly if each error finds at most one object
alive, or is taken by the innermost one. -/
theorem never_relocks_iff (base : F) (world : W) (ops : List (Op D F)) :
    (∀ n, run fn true (initial base world) (ops.take n) ≠ .error .relock) ↔
      Along (silent (next fn true)) (fun r op => ∀ s, r = .ok s → Meets s op)
        (.ok (initial base world)) ops := by
  have hinitial : Alive (D := D) base (.ok (initial base world)) :=
    ⟨some ([], world), _, rfl, rfl, initial_represents world⟩
  apply Iff.trans _ (always_iff_guarded (Alive base) (fun r => r ≠ .error .relock) _
    (fun _ => alive_ne_relock) _ _ ops hinitial)
  · simp only [run_silent]
    rfl
  · intro r op hr hok
    rcases next_mutex fn hr op with ⟨-, heq⟩ | ⟨hnot, -⟩
    · show Alive base (next fn true r op)
      rw [heq]
      exact next_alive fn hr op
    · exact absurd hok hnot
  · intro r op hr hne
    rcases next_mutex fn hr op with ⟨hok, -⟩ | ⟨-, heq⟩
    · exact hok
    · exact absurd heq hne

-- Two objects on one display, and an error for a request from between them.
theorem nested_relock :
    run noting true (initial () []) [.construct none 0 10, .construct none 0 20,
      .error 0 ⟨0, 0, 15, 3, 4, 0, 0⟩] = .error .relock := by
  decide

end KXErrorHandler

end KWindowSystem
