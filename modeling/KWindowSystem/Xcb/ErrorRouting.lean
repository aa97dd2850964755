import KWindowSystem.Xcb.ErrorHandler

/-!
# Where an X error goes

The objects as a chain of entries, innermost first, each with all the errors that it has accepted.  The
statics represent such a chain, every operation on them is one on the chain, and without the mutex no operation
fails but the destruction of an object that is not there.
-/

open Delegation

namespace KWindowSystem

namespace KXErrorHandler

variable {D F W : Type} (fn : ErrorFunctions D F W) (base : F)

/-- An object that is alive, with the errors accepted for it from the first to the last. -/
structure Entry (D F : Type) where
  handler : Option F
  firstRequest : UInt64
  display : D
  accepted : List (XErrorEvent D)
deriving DecidableEq, Repr

namespace Entry

/-- The object, which was created where `old` was installed. -/
def object (x : Entry D F) (old : XErrorHandler F) : KXErrorHandler D F :=
  ⟨none, x.handler, old, ⟨x.firstRequest, x.display, !x.accepted.isEmpty, x.accepted.head?⟩⟩

def Takes (x : Entry D F) (dpy : D) (e : XErrorEvent D) : Prop :=
  dpy = x.display ∧ 0 ≤ NET.timestampCompare e.serial x.firstRequest

instance [DecidableEq D] (x : Entry D F) (dpy : D) (e : XErrorEvent D) : Decidable (x.Takes dpy e) :=
  inferInstanceAs (Decidable (_ ∧ _))

/-- Without a function of its own an object takes every error for one. -/
def verdict (x : Entry D F) (dpy : D) (e : XErrorEvent D) (world : W) : Bool × W :=
  match x.handler with
  | some f => let (ret, world) := fn.handler2 f dpy e world; (decide (ret ≠ 0), world)
  | none => (true, world)

def accept (x : Entry D F) (error : Bool) (e : XErrorEvent D) : Entry D F :=
  if error then { x with accepted := x.accepted ++ [e] } else x

theorem verdict_object (x : Entry D F) (old : XErrorHandler F) (dpy : D) (e : XErrorEvent D) (world : W) :
    (x.object old).verdict fn dpy e world = x.verdict fn dpy e world := by
  unfold KXErrorHandler.verdict verdict object
  cases x.handler <;> rfl

-- The first accepted error stays the one that is remembered.
theorem remember_object (x : Entry D F) (old : XErrorHandler F) (error : Bool) (e : XErrorEvent D) :
    (x.object old).remember error e = (x.accept error e).object old := by
  cases error with
  | false => rfl
  | true =>
      cases h : x.accepted with
      | nil => simp [remember, object, accept, h]
      | cons first later => simp [remember, object, accept, h]

end Entry

/-- What Xlib calls while these objects are alive. -/
def top : List (Entry D F) → XErrorHandler F
  | [] => .function base
  | _ :: _ => .handlerWrapper

theorem top_congr {chain chain' : List (Entry D F)} (h : chain.length = chain'.length) :
    top base chain = top base chain' := by
  cases chain <;> cases chain' <;> first | rfl | cases h

/-- The slots below `pos` hold the objects, the outermost one first. -/
def Slots (handlers : List (Option (KXErrorHandler D F))) : List (Entry D F) → Prop
  | [] => True
  | x :: outer => handlers[outer.length]? = some (some (x.object (top base outer))) ∧ Slots handlers outer

structure Represents (s : ErrorState D F W) (chain : List (Entry D F)) : Prop where
  unlocked : s.sLock = false
  pos : s.pos = chain.length
  slots : Slots base s.handlers chain
  installed : s.installed = top base chain

/-- What the objects do with an error. -/
def rule [DecidableEq D] (dpy : D) (e : XErrorEvent D) : Rule (Entry D F) W Int32 where
  takes x := decide (x.Takes dpy e)
  handle x world := (0, x.accept (x.verdict fn dpy e world).1 e, (x.verdict fn dpy e world).2)
  last world := fn.handler2 base dpy e world

/-! ## Slots -/

section Slots

variable {base} {handlers : List (Option (KXErrorHandler D F))} {chain : List (Entry D F)}

theorem Slots.length_le (h : Slots base handlers chain) : chain.length ≤ handlers.length := by
  cases chain with
  | nil => exact Nat.zero_le _
  | cons x outer => exact (List.getElem?_eq_some_iff.mp h.1).1

-- Slots from `pos` on are free.
theorem Slots.set {i : Nat} (h : Slots base handlers chain) (hi : chain.length ≤ i)
    (slot : Option (KXErrorHandler D F)) : Slots base (handlers.set i slot) chain := by
  induction chain with
  | nil => trivial
  | cons x outer ih =>
      have hlt : outer.length < i := hi
      constructor
      · rw [List.getElem?_set_ne (Nat.ne_of_gt hlt)]
        exact h.1
      · exact ih h.2 (Nat.le_of_lt hlt)

theorem Slots.append (h : Slots base handlers chain) (more : List (Option (KXErrorHandler D F))) :
    Slots base (handlers ++ more) chain := by
  induction chain with
  | nil => trivial
  | cons x outer ih =>
      constructor
      · rw [List.getElem?_append_left (List.getElem?_eq_some_iff.mp h.1).1]
        exact h.1
      · exact ih h.2

theorem Slots.handlerAt {s : ErrorState D F W} {x : Entry D F} {outer : List (Entry D F)}
    (h : Slots base s.handlers (x :: outer)) :
    handlerAt s outer.length = some (x.object (top base outer)) := by
  unfold KXErrorHandler.handlerAt
  rw [h.1]
  rfl

end Slots

/-! ## Creation and destruction -/

section Lifetime

variable {base} {s : ErrorState D F W} {chain : List (Entry D F)}

theorem initial_represents (world : W) : Represents (D := D) base (initial base world) [] :=
  ⟨rfl, rfl, trivial, rfl⟩

theorem construct_represents (h : Represents base s chain) (handler : Option F) (dpy : D)
    (nextRequest : UInt64) :
    ∃ s', construct false handler dpy nextRequest s = .ok ((), s') ∧ s'.world = s.world ∧
      Represents base s' (⟨handler, nextRequest, dpy, []⟩ :: chain) := by
  let handlers := if s.handlers.length = s.pos then s.handlers ++ List.replicate 16 none else s.handlers
  have hgrown : Slots base handlers chain ∧ chain.length < handlers.length := by
    have hle := h.slots.length_le
    have hpos := h.pos
    simp only [handlers]
    split
    · apply And.intro (h.slots.append _)
      rw [List.length_append, List.length_replicate]
      omega
    · apply And.intro h.slots
      omega
  refine ⟨_, rfl, rfl, h.unlocked, congrArg (· + 1) h.pos, ⟨?_, ?_⟩, rfl⟩
  · show (handlers.set s.pos _)[chain.length]? = _
    rw [h.pos, List.getElem?_set_self hgrown.2]
    show some (some (KXErrorHandler.mk none handler s.installed _)) = _
    rw [h.installed]
    rfl
  · exact hgrown.1.set (Nat.le_of_eq h.pos.symm) _

theorem destruct_represents {x : Entry D F} {outer : List (Entry D F)}
    (h : Represents base s (x :: outer)) :
    ∃ s', destruct false s = .ok ((), s') ∧ s'.world = s.world ∧ Represents base s' outer := by
  have hpos : s.pos = outer.length + 1 := h.pos
  have hdestruct : destruct false s =
      .ok ((), { s with
        installed := top base outer
        pos := outer.length
        handlers := s.handlers.set outer.length none }) := by
    simp only [destruct, lockGuard, hpos, h.slots.handlerAt, xSetErrorHandler]
    rfl
  exact ⟨_, hdestruct, rfl, h.unlocked, rfl, h.slots.2.set (Nat.le_refl _) _, rfl⟩

theorem destruct_none (h : Represents base s []) : destruct false s = .error .noHandler := by
  have hpos : s.pos = 0 := h.pos
  simp only [destruct, lockGuard, hpos, if_true]

end Lifetime

/-! ## Delivery -/

variable [DecidableEq D]

-- By induction on the chain: the wrapper handles the error in the last slot or calls what the object there
-- found installed, with one object less.
theorem call_top (chain : List (Entry D F)) (dpy : D) (e : XErrorEvent D) (s : ErrorState D F W)
    (hpos : s.pos = chain.length) (hslots : Slots base s.handlers chain) :
    ∃ handlers,
      call fn (handlerWrapper fn false chain.length) (top base chain) dpy e s =
        .ok ((Delegation.deliver (rule fn base dpy e) chain s.world).1,
          { s with
            handlers
            world := (Delegation.deliver (rule fn base dpy e) chain s.world).2.2 }) ∧
      Slots base handlers (Delegation.deliver (rule fn base dpy e) chain s.world).2.1 ∧
      ∀ i, chain.length ≤ i → handlers[i]? = s.handlers[i]? := by
  induction chain generalizing s with
  | nil => exact ⟨s.handlers, rfl, trivial, fun _ _ => rfl⟩
  | cons x outer ih =>
      let inner : ErrorState D F W := { s with pos := outer.length }
      have hinner : { s with pos := s.pos - 1 } = inner := by
        rw [hpos]
        rfl
      have hat : handlerAt inner outer.length = some (x.object (top base outer)) := hslots.handlerAt
      have hwrapper : call fn (handlerWrapper fn false (x :: outer).length) (top base (x :: outer)) dpy e s =
          (handle fn (handlerWrapper fn false outer.length) outer.length dpy e inner).map fun r =>
            (r.1, { r.2 with pos := r.2.pos + 1 }) := by
        show (handle fn _ (s.pos - 1) dpy e { s with pos := s.pos - 1 }).map _ = _
        rw [hinner, hpos]
        rfl
      have hrestored : ∀ handlers world,
          ({ inner with handlers, world, pos := outer.length + 1 } : ErrorState D F W) =
            { s with handlers, world } := by
        intro handlers world
        show ({ s with handlers, world, pos := outer.length + 1 } : ErrorState D F W) = _
        rw [← show s.pos = outer.length + 1 from hpos]
      rw [hwrapper]
      unfold handle Delegation.deliver
      rw [hat]
      dsimp only
      by_cases htakes : x.Takes dpy e
      · have hrule : (rule fn base dpy e).takes x = true := decide_eq_true htakes
        have hobject : (x.object (top base outer)).Takes dpy e := htakes
        rw [if_pos hobject, if_pos hrule, Entry.verdict_object, Entry.remember_object]
        refine ⟨_, congrArg (fun t => Except.ok ((0 : Int32), t)) (hrestored _ _), ?_, ?_⟩
        · constructor
          · rw [List.getElem?_set_self (show outer.length < s.handlers.length from hslots.length_le)]
            rfl
          · exact hslots.2.set (Nat.le_refl _) _
        · intro i hi
          exact List.getElem?_set_ne (Nat.ne_of_lt hi)
      · have hrule : ¬(rule fn base dpy e).takes x = true := fun h => htakes (of_decide_eq_true h)
        have hobject : ¬(x.object (top base outer)).Takes dpy e := htakes
        obtain ⟨handlers, hcall, hnew, hframe⟩ := ih inner rfl hslots.2
        have hold : (x.object (top base outer)).oldHandler = top base outer := rfl
        rw [if_neg hobject, if_neg hrule, hold, hcall]
        refine ⟨handlers, congrArg (fun t => Except.ok (_, t)) (hrestored _ _), ⟨?_, hnew⟩, ?_⟩
        · rw [top_congr base (length_deliver _ outer _), length_deliver, hframe _ (Nat.le_refl _)]
          exact hslots.1
        · intro i hi
          exact hframe i (Nat.le_of_succ_le hi)

variable {base} {s : ErrorState D F W} {chain : List (Entry D F)}

theorem deliver_represents (h : Represents base s chain) (dpy : D) (e : XErrorEvent D) :
    ∃ s', deliver fn false dpy e s =
        .ok ((Delegation.deliver (rule fn base dpy e) chain s.world).1, s') ∧
      s'.pos = s.pos ∧ s'.installed = s.installed ∧
      s'.world = (Delegation.deliver (rule fn base dpy e) chain s.world).2.2 ∧
      Represents base s' (Delegation.deliver (rule fn base dpy e) chain s.world).2.1 := by
  obtain ⟨handlers, hcall, hslots, -⟩ := call_top fn base chain dpy e s h.pos h.slots
  have hlength := length_deliver (rule fn base dpy e) chain s.world
  let s' : ErrorState D F W :=
    { s with handlers, world := (Delegation.deliver (rule fn base dpy e) chain s.world).2.2 }
  refine ⟨s', ?_, rfl, rfl, rfl, h.unlocked, ?_, hslots, ?_⟩
  · unfold deliver
    rw [h.installed, h.pos]
    exact hcall
  · rw [hlength]
    exact h.pos
  · rw [top_congr base hlength]
    exact h.installed

/-! ## Runs -/

/-- An operation on the chain and the state of the program; there is no object to destroy in an empty one. -/
def chainStep (base : F) (c : List (Entry D F) × W) : Op D F → Option (List (Entry D F) × W)
  | .construct handler dpy nextRequest => some (⟨handler, nextRequest, dpy, []⟩ :: c.1, c.2)
  | .destruct =>
      match c.1 with
      | [] => none
      | _ :: outer => some (outer, c.2)
  | .error dpy e => some (Delegation.deliver (rule fn base dpy e) c.1 c.2).2

def chainNext (base : F) (c : Option (List (Entry D F) × W)) (op : Op D F) :
    Option (List (Entry D F) × W) :=
  c.bind fun c => chainStep fn base c op

/-- The objects that are alive after a run, with what each of them has accepted. -/
def history (base : F) (world : W) (ops : List (Op D F)) : Option (List (Entry D F) × W) :=
  ops.foldl (chainNext fn base) (some ([], world))

/-- A result that is a chain, or the one fault there is without the mutex. -/
def Follows (base : F) (r : Except ErrorFault (ErrorState D F W)) :
    Option (List (Entry D F) × W) → Prop
  | none => r = .error .noHandler
  | some c => ∃ s, r = .ok s ∧ s.world = c.2 ∧ Represents base s c.1

theorem step_follows (h : Represents base s chain) (op : Op D F) :
    Follows base (step fn false s op) (chainStep fn base (chain, s.world) op) := by
  cases op with
  | construct handler dpy nextRequest =>
      obtain ⟨s', hs', hworld, hchain⟩ := construct_represents h handler dpy nextRequest
      exact ⟨s', congrArg (Except.map Prod.snd) hs', hworld, hchain⟩
  | destruct =>
      cases chain with
      | nil => exact congrArg (Except.map Prod.snd) (destruct_none h)
      | cons x outer =>
          obtain ⟨s', hs', hworld, hchain⟩ := destruct_represents h
          exact ⟨s', congrArg (Except.map Prod.snd) hs', hworld, hchain⟩
  | error dpy e =>
      obtain ⟨s', hs', -, -, hworld, hchain⟩ := deliver_represents fn h dpy e
      exact ⟨s', congrArg (Except.map Prod.snd) hs', hworld, hchain⟩

theorem next_follows {r : Except ErrorFault (ErrorState D F W)} {c : Option (List (Entry D F) × W)}
    (h : Follows base r c) (op : Op D F) : Follows base (next fn false r op) (chainNext fn base c op) := by
  cases c with
  | none =>
      have hr : r = .error .noHandler := h
      rw [hr]
      rfl
  | some c =>
      obtain ⟨s, rfl, hworld, hchain⟩ := h
      have hstep := step_follows fn hchain op
      rw [hworld] at hstep
      exact hstep

theorem run_follows (base : F) (world : W) (ops : List (Op D F)) :
    Follows base (run fn false (initial base world) ops) (history fn base world ops) := by
  unfold run
  rw [← Machine.run_silent]
  apply Machine.run_refines (Follows base) (chainNext fn base) (fun _ _ op h => next_follows fn h op)
  exact ⟨_, rfl, rfl, initial_represents world⟩

/-- Wherever a run has led, an error goes to the innermost object that it is for, and to the handler from
before the first object if it is for none.  Nothing else changes, and each object shows the first error it has
accepted. -/
theorem error_routed (base : F) (world : W) (ops : List (Op D F)) (s : ErrorState D F W)
    (hrun : run fn false (initial base world) ops = .ok s) :
    ∃ chain, history fn base world ops = some (chain, s.world) ∧ Represents base s chain ∧
      ∀ dpy e, ∃ ret s', deliver fn false dpy e s = .ok (ret, s') ∧
        s'.pos = s.pos ∧ s'.installed = s.installed ∧
        ((∃ inner x outer, chain = inner ++ x :: outer ∧ (∀ y ∈ inner, ¬y.Takes dpy e) ∧
            x.Takes dpy e ∧ ret = 0 ∧ s'.world = (x.verdict fn dpy e s.world).2 ∧
            Represents base s' (inner ++ x.accept (x.verdict fn dpy e s.world).1 e :: outer)) ∨
          ((∀ y ∈ chain, ¬y.Takes dpy e) ∧ (ret, s'.world) = fn.handler2 base dpy e s.world ∧
            Represents base s' chain)) := by
  have hfollows := run_follows fn base world ops
  rw [hrun] at hfollows
  cases hhistory : history fn base world ops with
  | none =>
      rw [hhistory] at hfollows
      cases hfollows
  | some c =>
      rw [hhistory] at hfollows
      obtain ⟨t, ht, hworld, hchain⟩ := hfollows
      cases ht
      refine ⟨c.1, by rw [hworld], hchain, fun dpy e => ?_⟩
      obtain ⟨s', hs', hpos, hinstalled, hworld', hchain'⟩ := deliver_represents fn hchain dpy e
      refine ⟨_, s', hs', hpos, hinstalled, ?_⟩
      rcases deliver_cases (rule fn base dpy e) c.1 s.world with
        ⟨hnone, heq⟩ | ⟨inner, x, outer, hsplit, hinner, hx, heq⟩
      · right
        rw [heq] at hworld' hchain' ⊢
        exact ⟨fun y hy => of_decide_eq_false (hnone y hy), Prod.ext rfl hworld', hchain'⟩
      · left
        rw [heq] at hworld' hchain' ⊢
        exact ⟨inner, x, outer, hsplit, fun y hy => of_decide_eq_false (hinner y hy), of_decide_eq_true hx,
          rfl, hworld', hchain'⟩

/-- A program whose one function notes the serials of the errors it is called for. -/
def noting : ErrorFunctions Nat Unit (List UInt64) where
  handler1 _ _ _ _ world := (true, world)
  handler2 _ _ e world := (1, e.serial :: world)

-- Two displays, and an error on the one of the outer object.
def twoDisplays : List (Op Nat Unit) :=
  [.construct none 0 10, .construct (some ()) 1 20, .error 0 ⟨0, 0, 12, 3, 4, 0, 0⟩]

theorem error_routed_outer :
    ∃ s chain, run noting false (initial () []) twoDisplays = .ok s ∧
      history noting () [] twoDisplays = some (chain, s.world) ∧ Represents () s chain := by
  obtain ⟨chain, hhistory, hchain, -⟩ := error_routed noting () [] twoDisplays _ rfl
  exact ⟨_, chain, rfl, hhistory, hchain⟩

end KXErrorHandler

end KWindowSystem
