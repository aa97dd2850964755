import KWindowSystem.Selection.Owner
import Mathlib.Data.Finset.Basic

/-!
# The helper windows of a selection owner

A `KSelectionOwner` from its construction to its destructor, with calls of `release`.  Every claim that
gets as far creates a helper window; a ledger of these windows follows what the owner asks for and the
destructions that it reads about.
-/

open Machine

namespace KWindowSystem

namespace KSelectionOwner

/-- An event, or a call of `release`. -/
inductive Act where
  | event (e : Event)
  | release
deriving DecidableEq, Repr

def Act.isClaim : Act → Bool
  | .event (.claim ..) => true
  | _ => false

/-- `~KSelectionOwner`. -/
def destroy (d : KSelectionOwner) : List Output :=
  let released := d.release
  released.2 ++
    if released.1.window ≠ 0 then [.request (.destroyWindow released.1.window)] else []

/-! ## The ledger -/

/-- The owner reads about a destroyed window, or puts something out. -/
inductive Notice where
  | seen (window : XcbWindow)
  | output (o : Output)
deriving DecidableEq, Repr

/-- The helper windows that exist; `none` once a window is to be destroyed that does not. -/
def ledger (alive : Finset XcbWindow) : Notice → Option (Finset XcbWindow)
  | .seen w => some (alive.erase w)
  | .output (.request (.createWindow w)) => if w ∈ alive then none else some (insert w alive)
  | .output (.request (.destroyWindow w)) => if w ∈ alive then some (alive.erase w) else none
  | .output _ => some alive

def emitted (notices : List Notice) : List Signal :=
  notices.filterMap fun n => match n with
    | .output (.signal s) => some s
    | _ => none

/-- The window is the helper window, destroyed by somebody else before its timestamp has come. -/
def tooEarly (d : KSelectionOwner) (window : XcbWindow) : Bool :=
  d.state = .waitingForTimestamp && window = d.window

/-- An owner, with the windows that it has seen destroyed. -/
structure Lifetime where
  owner : KSelectionOwner
  destroyed : Finset XcbWindow := ∅

namespace Lifetime

variable (atoms : SelectionAtoms)

/-- An id that is given to a new window is not that of a destroyed one any more. -/
def step (s : Lifetime) (a : Act) : Lifetime × List Notice :=
  match a with
  | .release =>
      let now := s.owner.release
      ({ s with owner := now.1 }, now.2.map .output)
  | .event (.destroyNotify window) =>
      let now := s.owner.step atoms (.destroyNotify window)
      ({ owner := now.1, destroyed := insert window s.destroyed }, .seen window :: now.2.map .output)
  | .event (.claim force forceKill prevOwner window) =>
      let now := s.owner.step atoms (.claim force forceKill prevOwner window)
      ({ owner := now.1, destroyed := s.destroyed.erase window }, now.2.map .output)
  | .event e =>
      let now := s.owner.step atoms e
      ({ s with owner := now.1 }, now.2.map .output)

/-- A claim is made in the idle state, and the id that is generated is not one in use; a property change
has a server time, and is not reported of a helper window after its destruction. -/
def Ok (s : Lifetime) : Act → Prop
  | .event (.claim _ _ prevOwner window) => s.owner.state = .idle ∧ window ≠ 0 ∧ window ≠ prevOwner
  | .event (.propertyNotify window time _) =>
      time ≠ currentTime ∧ (window = s.owner.window → window ∉ s.destroyed)
  | _ => True

/-- The helper window stays until its timestamp has come. -/
def kept (s : Lifetime) : Act → Bool
  | .event (.destroyNotify window) => !s.owner.tooEarly window
  | _ => true

end Lifetime

/-- The owner does not go on with the id of a helper window that it has lost the selection with. -/
def NothingLost (d : KSelectionOwner) : Prop :=
  d.timestamp ≠ currentTime ∨ d.window = 0 ∨ d.state = .waitingForTimestamp

/-! ## What the owner has -/

/-- The helper windows that exist, by the state of the owner, and whether it is doomed: it waits for the
timestamp of a window that was destroyed. -/
inductive Holds (d : KSelectionOwner) (destroyed : Finset XcbWindow) : Bool → Finset XcbWindow → Prop where
  | waiting (hstate : d.state = .waitingForTimestamp) (htimer : d.timer = false)
      (htime : d.timestamp = currentTime) (hwindow : d.window ≠ 0) (hprev : d.window ≠ d.prevOwner) :
      Holds d destroyed false {d.window}
  | doomed (hstate : d.state = .waitingForTimestamp) (htimer : d.timer = false)
      (htime : d.timestamp = currentTime) (hwindow : d.window ≠ 0) (hdestroyed : d.window ∈ destroyed) :
      Holds d destroyed true ∅
  | owned (hstate : d.state ≠ .waitingForTimestamp) (htimer : d.state = .idle → d.timer = false)
      (htime : d.timestamp ≠ currentTime) (hwindow : d.window ≠ 0) (hprev : d.window ≠ d.prevOwner) :
      Holds d destroyed false {d.window}
  | nothing (hstate : d.state ≠ .waitingForTimestamp) (htimer : d.state = .idle → d.timer = false)
      (htime : d.timestamp = currentTime) : Holds d destroyed false ∅

section Steps

variable (atoms : SelectionAtoms) {d : KSelectionOwner} {destroyed alive : Finset XcbWindow} {doomed : Bool}

/-- What a step is to do with the ledger. -/
def Balanced (alive destroyed : Finset XcbWindow) (doomed : Bool) (after : KSelectionOwner × List Output) :
    Prop :=
  ∃ alive', replay ledger alive (after.2.map .output) = some alive' ∧
    Holds after.1 destroyed doomed alive'

theorem Holds.silent (h : Holds d destroyed doomed alive) : Balanced alive destroyed doomed (d, []) :=
  ⟨alive, rfl, h⟩

theorem release_balanced (h : Holds d destroyed doomed alive) : Balanced alive destroyed doomed d.release := by
  unfold release
  split
  · exact h.silent
  · rename_i howned
    cases h with
    | waiting _ _ htime => exact absurd htime howned
    | doomed _ _ htime => exact absurd htime howned
    | nothing _ _ htime => exact absurd htime howned
    | owned hstate htimer htime =>
        refine ⟨∅, ?_, .nothing hstate htimer rfl⟩
        simp [ledger]

-- In the idle state nothing is left after a release.
theorem release_idle (h : Holds d destroyed doomed alive) (hidle : d.state = .idle) :
    replay ledger alive (d.release.2.map .output) = some ∅ ∧ d.release.1.state = .idle ∧
      d.release.1.timer = false ∧ d.release.1.timestamp = currentTime := by
  unfold release
  cases h with
  | waiting hstate => rw [hidle] at hstate; cases hstate
  | doomed hstate => rw [hidle] at hstate; cases hstate
  | nothing _ htimer htime =>
      rw [if_pos htime]
      exact ⟨rfl, hidle, htimer hidle, htime⟩
  | owned _ htimer htime =>
      rw [if_neg htime]
      exact ⟨by simp [ledger], hidle, htimer hidle, rfl⟩

theorem Holds.mono (h : Holds d destroyed doomed alive) {destroyed' : Finset XcbWindow}
    (hsub : destroyed ⊆ destroyed') : Holds d destroyed' doomed alive := by
  cases h with
  | waiting hstate htimer htime hwindow hprev => exact .waiting hstate htimer htime hwindow hprev
  | doomed hstate htimer htime hwindow hdestroyed =>
      exact .doomed hstate htimer htime hwindow (hsub hdestroyed)
  | owned hstate htimer htime hwindow hprev => exact .owned hstate htimer htime hwindow hprev
  | nothing hstate htimer htime => exact .nothing hstate htimer htime

theorem claim_balanced (h : Holds d destroyed doomed alive) (hidle : d.state = .idle) (force forceKill : Bool)
    {prevOwner window : XcbWindow} (hwindow : window ≠ 0) (hprev : window ≠ prevOwner) :
    Balanced alive (destroyed.erase window) doomed (claim d force forceKill prevOwner window) := by
  -- The ownership of the claim before is given up first.
  have hreleased : (if d.timestamp ≠ currentTime then release d else (d, [])) = d.release := by
    unfold release
    split <;> simp_all
  have hnothing := release_idle h hidle
  have hsafe : doomed = false := by
    cases h with
    | doomed hstate => rw [hidle] at hstate; cases hstate
    | _ => rfl
  rw [hsafe]
  unfold claim
  dsimp only
  rw [hreleased]
  generalize d.release = released at hnothing
  rcases released with ⟨d', out⟩
  dsimp only at hnothing ⊢
  split
  · refine ⟨∅, ?_, .nothing ?_ (fun _ => hnothing.2.2.1) hnothing.2.2.2⟩
    · rw [List.map_append, replay_append, hnothing.1]
      rfl
    · show d'.state ≠ _
      rw [hnothing.2.1]
      decide
  · refine ⟨{window}, ?_, .waiting rfl hnothing.2.2.1 hnothing.2.2.2 hwindow hprev⟩
    rw [List.map_append, List.map_append, replay_append, replay_append, hnothing.1]
    split <;> rfl

theorem selectionClear_balanced (h : Holds d destroyed doomed alive) (selection : XcbAtom) :
    Balanced alive destroyed doomed (selectionClear d selection) := by
  unfold selectionClear
  split
  · exact h.silent
  · rename_i hours
    rw [not_or] at hours
    cases h with
    | waiting _ _ htime => exact absurd htime hours.1
    | doomed _ _ htime => exact absurd htime hours.1
    | nothing _ _ htime => exact absurd htime hours.1
    | owned hstate htimer htime =>
        refine ⟨∅, ?_, .nothing hstate htimer rfl⟩
        simp [ledger]

theorem Holds.noPrevOwner (h : Holds d destroyed doomed alive) :
    Holds { d with prevOwner := 0 } destroyed doomed alive := by
  cases h with
  | waiting hstate htimer htime hwindow hprev =>
      exact .waiting (d := { d with prevOwner := 0 }) hstate htimer htime hwindow hwindow
  | doomed hstate htimer htime hwindow hdestroyed =>
      exact .doomed (d := { d with prevOwner := 0 }) hstate htimer htime hwindow hdestroyed
  | owned hstate htimer htime hwindow hprev =>
      exact .owned (d := { d with prevOwner := 0 }) hstate htimer htime hwindow hwindow
  | nothing hstate htimer htime =>
      exact .nothing (d := { d with prevOwner := 0 }) hstate htimer htime

-- Being done with waiting changes nothing about the windows.
theorem Holds.idle (h : Holds d destroyed doomed alive) (hstate : d.state ≠ .waitingForTimestamp) :
    Holds { d with state := .idle, timer := false } destroyed doomed alive := by
  cases h with
  | waiting hwaiting => exact absurd hwaiting hstate
  | doomed hwaiting => exact absurd hwaiting hstate
  | owned _ _ htime hwindow hprev =>
      exact .owned (d := { d with state := .idle, timer := false }) (fun h => nomatch h) (fun _ => rfl)
        htime hwindow hprev
  | nothing _ _ htime =>
      exact .nothing (d := { d with state := .idle, timer := false }) (fun h => nomatch h) (fun _ => rfl) htime

theorem tooEarly_eq_false {d : KSelectionOwner} {w : XcbWindow}
    (h : d.state ≠ .waitingForTimestamp ∨ w ≠ d.window) : d.tooEarly w = false := by
  unfold tooEarly
  cases h with
  | inl hstate => rw [decide_eq_false hstate, Bool.false_and]
  | inr hw => rw [decide_eq_false hw, Bool.and_false]

theorem ownDestroyed_balanced (h : Holds d destroyed doomed alive) (w : XcbWindow) :
    Balanced (alive.erase w) (insert w destroyed) (doomed || d.tooEarly w) (ownDestroyed d w) := by
  have hsub : destroyed ⊆ insert w destroyed := Finset.subset_insert w destroyed
  unfold ownDestroyed
  cases h with
  | waiting hstate htimer htime hwindow hprev =>
      rw [if_pos (.inl htime)]
      by_cases hw : w = d.window
      · have hearly : d.tooEarly w = true := by simp [tooEarly, hstate, hw]
        rw [hearly, hw, Finset.erase_singleton]
        exact (Holds.doomed hstate htimer htime hwindow (Finset.mem_insert_self _ _)).silent
      · rw [tooEarly_eq_false (.inr hw), Finset.erase_eq_of_notMem (by simpa using hw)]
        exact (Holds.waiting hstate htimer htime hwindow hprev).silent
  | doomed hstate htimer htime hwindow hdestroyed =>
      rw [if_pos (.inl htime)]
      exact (Holds.doomed hstate htimer htime hwindow (hsub hdestroyed)).silent
  | owned hstate htimer htime hwindow hprev =>
      rw [tooEarly_eq_false (.inl hstate)]
      by_cases hw : w = d.window
      · rw [if_neg (by simpa using ⟨htime, hw⟩), hw, Finset.erase_singleton]
        exact ⟨∅, rfl, .nothing hstate htimer rfl⟩
      · rw [if_pos (.inr hw), Finset.erase_eq_of_notMem (by simpa using hw)]
        exact (Holds.owned hstate htimer htime hwindow hprev).silent
  | nothing hstate htimer htime =>
      rw [if_pos (.inl htime), tooEarly_eq_false (.inl hstate)]
      exact (Holds.nothing hstate htimer htime).silent

theorem destroyNotify_balanced (h : Holds d destroyed doomed alive) (w : XcbWindow) :
    Balanced (alive.erase w) (insert w destroyed) (doomed || d.tooEarly w) (destroyNotify atoms d w) := by
  unfold destroyNotify
  split
  · rename_i hprev
    split
    · rename_i hwait
      -- The previous owner is gone, so that the claim has succeeded.
      have hstate : d.state ≠ .waitingForTimestamp := by
        rw [hwait]
        decide
      have hsame : alive.erase w = alive := by
        apply Finset.erase_eq_of_notMem
        cases h with
        | waiting _ _ _ _ hne => simpa [hprev] using Ne.symm hne
        | owned _ _ _ _ hne => simpa [hprev] using Ne.symm hne
        | doomed => simp
        | nothing => simp
      rw [hsame, tooEarly_eq_false (.inl hstate), Bool.or_false]
      exact ⟨alive, rfl, (h.idle hstate).mono (Finset.subset_insert w destroyed)⟩
    · exact ownDestroyed_balanced h.noPrevOwner w
  · exact ownDestroyed_balanced h w

theorem propertyNotify_balanced (h : Holds d destroyed doomed alive) {w : XcbWindow} {time : UInt32}
    (htime : time ≠ currentTime) (hdestroyed : w = d.window → w ∉ destroyed) (newOwner : XcbWindow) :
    Balanced alive destroyed doomed (propertyNotify atoms d w time newOwner) := by
  unfold propertyNotify
  split
  · rename_i hmine
    cases h with
    | doomed _ _ _ _ hgone => exact absurd (hmine.1 ▸ hgone) (hdestroyed hmine.1)
    | owned hstate => exact absurd hmine.2 hstate
    | nothing hstate => exact absurd hmine.2 hstate
    | waiting hstate htimer _ hwindow hprev =>
        unfold gotTimestamp
        dsimp only
        split
        · refine ⟨∅, ?_, .nothing (fun h => nomatch h) (fun _ => htimer) rfl⟩
          simp [ledger]
        · split
          · refine ⟨{d.window}, rfl, ?_⟩
            exact .owned (fun h => nomatch h) (fun hidle => nomatch hidle) htime hwindow hprev
          · refine ⟨{d.window}, rfl, ?_⟩
            exact .owned (fun h => nomatch h) (fun _ => htimer) htime hwindow hprev
  · exact h.silent

theorem timerEvent_balanced (h : Holds d destroyed doomed alive) :
    Balanced alive destroyed doomed (timerEvent atoms d) := by
  unfold timerEvent
  split
  · rename_i hruns
    have hstate : d.state ≠ .waitingForTimestamp := by
      cases h with
      | waiting _ htimer => rw [htimer] at hruns; cases hruns
      | doomed _ htimer => rw [htimer] at hruns; cases hruns
      | owned hstate => exact hstate
      | nothing hstate => exact hstate
    unfold timeout
    dsimp only
    split
    · exact ⟨alive, rfl, h.idle hstate⟩
    · exact ⟨alive, rfl, h.idle hstate⟩
  · exact h.silent

-- One step, from its notices too.
theorem Lifetime.step_holds {s : Lifetime} (h : Holds s.owner s.destroyed doomed alive) {a : Act}
    (hok : s.Ok a) :
    ∃ alive', replay ledger alive (s.step atoms a).2 = some alive' ∧
      Holds (s.step atoms a).1.owner (s.step atoms a).1.destroyed (doomed || !s.kept a) alive' := by
  have hkept : ∀ {after : KSelectionOwner × List Output}, Balanced alive s.destroyed doomed after →
      ∃ alive', replay ledger alive (after.2.map .output) = some alive' ∧
        Holds after.1 s.destroyed (doomed || !true) alive' := by
    intro after hafter
    rw [Bool.not_true, Bool.or_false]
    exact hafter
  cases a with
  | release => exact hkept (release_balanced h)
  | event e =>
      cases e with
      | claim force forceKill prevOwner window =>
          show Balanced alive (s.destroyed.erase window) (doomed || !true) _
          rw [Bool.not_true, Bool.or_false]
          exact claim_balanced h hok.1 force forceKill hok.2.1 hok.2.2
      | setData extra1 extra2 =>
          apply hkept
          refine ⟨alive, rfl, ?_⟩
          cases h with
          | waiting hstate htimer htime hwindow hprev => exact .waiting hstate htimer htime hwindow hprev
          | doomed hstate htimer htime hwindow hdestroyed =>
              exact .doomed hstate htimer htime hwindow hdestroyed
          | owned hstate htimer htime hwindow hprev => exact .owned hstate htimer htime hwindow hprev
          | nothing hstate htimer htime => exact .nothing hstate htimer htime
      | selectionClear selection owner => exact hkept (selectionClear_balanced h selection)
      | destroyNotify w =>
          show Balanced (alive.erase w) (insert w s.destroyed) (doomed || !!s.owner.tooEarly w) _
          rw [Bool.not_not]
          exact destroyNotify_balanced atoms h w
      | propertyNotify w time newOwner => exact hkept (propertyNotify_balanced atoms h hok.1 hok.2 newOwner)
      | timer => exact hkept (timerEvent_balanced atoms h)

end Steps

/-! ## Release -/

section Runs

variable (atoms : SelectionAtoms)

-- An owner is doomed by the first step that takes its window away too early, and stays so.
theorem Lifetime.run_holds {s : Lifetime} {doomed : Bool} {alive : Finset XcbWindow}
    (h : Holds s.owner s.destroyed doomed alive) {acts : List Act}
    (hok : Along (Lifetime.step atoms) Lifetime.Ok s acts) :
    ∃ alive' doomed', replay ledger alive (run (Lifetime.step atoms) s acts).2 = some alive' ∧
      Holds (run (Lifetime.step atoms) s acts).1.owner (run (Lifetime.step atoms) s acts).1.destroyed
        doomed' alive' ∧
      (doomed' = false ↔ doomed = false ∧ Along (Lifetime.step atoms) (fun s a => s.kept a = true) s acts) := by
  induction acts generalizing s doomed alive with
  | nil => exact ⟨alive, doomed, rfl, h, by simp [Along]⟩
  | cons a acts ih =>
      rcases Lifetime.step_holds atoms h hok.1 with ⟨alive', hreplay, hnext⟩
      rcases ih hnext hok.2 with ⟨alive'', doomed'', hrest, hlast, hiff⟩
      refine ⟨alive'', doomed'', ?_, hlast, ?_⟩
      · rw [run_cons, replay_append, hreplay]
        exact hrest
      · rw [hiff, Bool.or_eq_false_iff, Bool.not_eq_false', and_assoc]
        rfl

theorem holds_start (selection : XcbAtom) (root : XcbWindow) :
    Holds { selection, root } ∅ false ∅ :=
  .nothing (fun h => nomatch h) (fun _ => rfl) rfl

/-- Idle without an ownership. -/
def Released (d : KSelectionOwner) : Prop :=
  d.state = .idle ∧ d.timer = false ∧ d.timestamp = currentTime

-- Nothing but a claim does anything then.
theorem Released.step {s : Lifetime} (h : Released s.owner) {a : Act} (ha : a.isClaim = false) :
    Released (s.step atoms a).1.owner ∧ emitted (s.step atoms a).2 = [] ∧
      replay ledger ∅ (s.step atoms a).2 = some ∅ := by
  rcases s with ⟨d, destroyed⟩
  rcases h with ⟨hstate, htimer, htime⟩
  dsimp only at hstate htimer htime
  cases a with
  | release =>
      have hrelease : d.release = (d, []) := if_pos htime
      unfold Lifetime.step
      dsimp only
      rw [hrelease]
      exact ⟨⟨hstate, htimer, htime⟩, rfl, rfl⟩
  | event e =>
      cases e with
      | claim force forceKill prevOwner window => cases ha
      | setData extra1 extra2 => exact ⟨⟨hstate, htimer, htime⟩, rfl, rfl⟩
      | selectionClear selection owner =>
          have hclear : d.step atoms (.selectionClear selection owner) = (d, []) := if_pos (.inl htime)
          unfold Lifetime.step
          dsimp only
          rw [hclear]
          exact ⟨⟨hstate, htimer, htime⟩, rfl, rfl⟩
      | destroyNotify w =>
          have hwait : d.state ≠ .waitingForPreviousOwner := by
            rw [hstate]
            decide
          unfold Lifetime.step KSelectionOwner.step destroyNotify
          dsimp only
          split
          · rw [ownDestroyed, if_pos (.inl htime)]
            exact ⟨⟨hstate, htimer, htime⟩, rfl, rfl⟩
          · rw [ownDestroyed, if_pos (.inl htime)]
            exact ⟨⟨hstate, htimer, htime⟩, rfl, rfl⟩
      | propertyNotify w time newOwner =>
          have hquiet : d.step atoms (.propertyNotify w time newOwner) = (d, []) := by
            apply if_neg
            rw [hstate]
            exact fun hboth => nomatch hboth.2
          unfold Lifetime.step
          dsimp only
          rw [hquiet]
          exact ⟨⟨hstate, htimer, htime⟩, rfl, rfl⟩
      | timer =>
          have hquiet : d.step atoms .timer = (d, []) := if_neg (by rw [htimer]; decide)
          unfold Lifetime.step
          dsimp only
          rw [hquiet]
          exact ⟨⟨hstate, htimer, htime⟩, rfl, rfl⟩

theorem emitted_append (ns ms : List Notice) : emitted (ns ++ ms) = emitted ns ++ emitted ms :=
  List.filterMap_append

theorem Released.run {s : Lifetime} (h : Released s.owner) {acts : List Act}
    (hacts : ∀ a ∈ acts, a.isClaim = false) :
    Released (run (Lifetime.step atoms) s acts).1.owner ∧
      emitted (run (Lifetime.step atoms) s acts).2 = [] ∧
      replay ledger ∅ (run (Lifetime.step atoms) s acts).2 = some ∅ := by
  induction acts generalizing s with
  | nil => exact ⟨h, rfl, rfl⟩
  | cons a acts ih =>
      rw [List.forall_mem_cons] at hacts
      have hstep := h.step atoms hacts.1
      have hrest := ih hstep.1 hacts.2
      rw [run_cons, emitted_append, hstep.2.1, replay_append, hstep.2.2]
      exact hrest

-- While the owner waits for the timestamp it has nothing to release.
theorem release_waiting {d : KSelectionOwner} {destroyed alive : Finset XcbWindow} {doomed : Bool}
    (h : Holds d destroyed doomed alive) (hstate : d.state = .waitingForTimestamp) : d.release = (d, []) := by
  apply if_pos
  cases h with
  | waiting _ _ htime => exact htime
  | doomed _ _ htime => exact htime
  | owned hother => exact absurd hstate hother
  | nothing _ _ htime => exact htime

/-- After a release in the idle state nothing is signalled until the next claim, which finds the owner idle
with no timer and no helper window.  A release while the owner waits for the timestamp does nothing. -/
theorem release_cancels (selection : XcbAtom) (root : XcbWindow) {pre seg : List Act}
    (hok : Along (Lifetime.step atoms) Lifetime.Ok { owner := { selection, root } } pre)
    (hseg : ∀ a ∈ seg, a.isClaim = false) :
    let start : Lifetime := { owner := { selection, root } }
    let s := (run (Lifetime.step atoms) start pre).1
    let after := run (Lifetime.step atoms) s (.release :: seg)
    (s.owner.state = .idle →
      emitted after.2 = [] ∧ after.1.owner.state = .idle ∧ after.1.owner.timer = false ∧
        replay ledger ∅ (run (Lifetime.step atoms) start (pre ++ .release :: seg)).2 = some ∅) ∧
      (s.owner.state = .waitingForTimestamp → s.step atoms .release = (s, [])) := by
  intro start s after
  rcases Lifetime.run_holds atoms (holds_start selection root) hok with
    ⟨alive, doomed, hreplay, hholds, -⟩
  apply And.intro
  · intro hidle
    have hrelease := release_idle hholds hidle
    have hreleased : Released (s.step atoms .release).1.owner := hrelease.2
    have hrest := hreleased.run atoms hseg
    have hsilent : emitted (s.step atoms .release).2 = [] := by
      show emitted (s.owner.release.2.map .output) = []
      unfold release
      split <;> rfl
    refine ⟨?_, hrest.1.1, hrest.1.2.1, ?_⟩
    · show emitted (run (Lifetime.step atoms) s (.release :: seg)).2 = []
      rw [run_cons, emitted_append, hsilent]
      exact hrest.2.1
    · rw [run_append, replay_append, hreplay, Option.bind_some, run_cons, replay_append]
      rw [show replay ledger alive (s.step atoms .release).2 = some ∅ from hrelease.1]
      exact hrest.2.2
  · intro hwait
    show (({ s with owner := s.owner.release.1 }, s.owner.release.2.map .output) :
      Lifetime × List Notice) = (s, [])
    rw [release_waiting hholds hwait]
    rfl

/-- An owned selection is released, and the owner hears of its destroyed window. -/
theorem released_owner :
    let s := (run (Lifetime.step ⟨1, 2, 3, 4⟩) { owner := { selection := 300, root := 1 } }
      [.event (.claim true true 0 7), .event (.propertyNotify 7 100 7)]).1
    emitted (run (Lifetime.step ⟨1, 2, 3, 4⟩) s [.release, .event (.destroyNotify 7)]).2 = [] :=
  ((@release_cancels ⟨1, 2, 3, 4⟩ 300 1
    [.event (.claim true true 0 7), .event (.propertyNotify 7 100 7)] [.event (.destroyNotify 7)]
    ⟨⟨rfl, by decide, by decide⟩, ⟨by decide, fun _ => by decide⟩, trivial⟩ (by decide)).1 rfl).1

/-- The selection is claimed, although it was released before the timestamp came. -/
theorem released_too_early :
    emitted (run (Lifetime.step ⟨1, 2, 3, 4⟩) { owner := { selection := 300, root := 1 } }
      [.event (.claim true true 0 7), .release, .event (.propertyNotify 7 100 7)]).2 =
      [.claimedOwnership] := by
  decide

/-! ## Destroying every window once -/

-- What the destructor does to the ledger.
theorem destroy_iff {d : KSelectionOwner} {destroyed alive : Finset XcbWindow} {doomed : Bool}
    (h : Holds d destroyed doomed alive) :
    replay ledger alive (d.destroy.map .output) = some ∅ ↔ doomed = false ∧ NothingLost d := by
  have hrelease : d.timestamp = currentTime → d.release = (d, []) := fun htime => if_pos htime
  unfold destroy NothingLost
  cases h with
  | waiting hstate _ htime hwindow =>
      dsimp only
      rw [hrelease htime, if_pos hwindow]
      simp [ledger, hstate]
  | doomed _ _ htime hwindow =>
      dsimp only
      rw [hrelease htime, if_pos hwindow]
      simp [ledger]
  | owned _ _ htime =>
      unfold release
      rw [if_neg htime]
      simp [ledger, htime]
  | nothing hstate _ htime =>
      dsimp only
      rw [hrelease htime]
      by_cases hwindow : d.window = 0
      · simp [hwindow]
      · simp [hwindow, htime, hstate, ledger]

/-- Every helper window is destroyed once, and by then none is left, exactly if none is destroyed before its
timestamp has come and the destructor does not find the id of one that was lost with the selection. -/
theorem windows_destroyed_once_iff (selection : XcbAtom) (root : XcbWindow) {acts : List Act}
    (hok : Along (Lifetime.step atoms) Lifetime.Ok { owner := { selection, root } } acts) :
    let start : Lifetime := { owner := { selection, root } }
    let lived := run (Lifetime.step atoms) start acts
    replay ledger ∅ (lived.2 ++ lived.1.owner.destroy.map .output) = some ∅ ↔
      Along (Lifetime.step atoms) (fun s a => s.kept a = true) start acts ∧ NothingLost lived.1.owner := by
  intro start lived
  rcases Lifetime.run_holds atoms (holds_start selection root) hok with
    ⟨alive, doomed, hreplay, hholds, hkept⟩
  rw [replay_append, hreplay, Option.bind_some, destroy_iff hholds, hkept]
  simp [start, lived]

/-- A claimed selection is released before the destructor runs. -/
theorem released_destroyed_once :
    let lived := run (Lifetime.step ⟨1, 2, 3, 4⟩) { owner := { selection := 300, root := 1 } }
      [.event (.claim true true 0 7), .event (.propertyNotify 7 100 7), .release]
    replay ledger ∅ (lived.2 ++ lived.1.owner.destroy.map .output) = some ∅ :=
  (@windows_destroyed_once_iff ⟨1, 2, 3, 4⟩ 300 1
    [.event (.claim true true 0 7), .event (.propertyNotify 7 100 7), .release]
    ⟨⟨rfl, by decide, by decide⟩, ⟨by decide, fun _ => by decide⟩, trivial, trivial⟩).mpr
    ⟨⟨rfl, rfl, rfl, trivial⟩, .inr (.inl rfl)⟩

/-- The selection is lost to another owner, and the destructor destroys the window a second time. -/
theorem lost_destroyed_twice :
    let lived := run (Lifetime.step ⟨1, 2, 3, 4⟩) { owner := { selection := 300, root := 1 } }
      [.event (.claim true true 0 7), .event (.propertyNotify 7 100 7), .event (.selectionClear 300 7)]
    replay ledger ∅ (lived.2 ++ lived.1.owner.destroy.map .output) = none := by
  decide

end Runs

end KSelectionOwner

end KWindowSystem
