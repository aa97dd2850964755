import KWindowSystem.Selection.Lifetime

/-!
# Calls from signal handlers

A slot may call the owner back while the call that emitted the signal has not returned.  `Nested` keeps
what the interrupted calls have still to do; a move is a call, from outside or from a slot, or the return
of the slot that runs.  The calls check what the owner asserts, and the run lemma is that no assertion
fails as long as `claim` is only called in the idle state.
-/

open Machine

namespace KWindowSystem

namespace KSelectionOwner

variable (atoms : SelectionAtoms)

/-! ## Assertions -/

/-- `gotTimestamp` with its assertion. -/
def checkedGotTimestamp (d : KSelectionOwner) (newOwner : XcbWindow) : Option (KSelectionOwner × List Output) :=
  if d.state = .waitingForTimestamp then some (gotTimestamp atoms d newOwner) else none

def checkedTimeout (d : KSelectionOwner) : Option (KSelectionOwner × List Output) :=
  if d.state = .waitingForPreviousOwner then some (timeout atoms d) else none

def checkedClaim (d : KSelectionOwner) (force forceKill : Bool) (prevOwner window : XcbWindow) :
    Option (KSelectionOwner × List Output) :=
  if d.state = .idle then some (claim d force forceKill prevOwner window) else none

/-- What a call does up to its end, or nothing once an assertion fails. -/
def call (d : KSelectionOwner) : Act → Option (KSelectionOwner × List Output)
  | .release => some (release d)
  | .event (.claim force forceKill prevOwner window) => checkedClaim d force forceKill prevOwner window
  | .event (.propertyNotify window time newOwner) =>
      if window = d.window ∧ d.state = .waitingForTimestamp then
        checkedGotTimestamp atoms { d with timestamp := time } newOwner
      else some (d, [])
  | .event .timer =>
      if d.timer then checkedTimeout atoms { d with timer := false } else some (d, [])
  | .event e => some (step atoms d e)

def Output.isSignal : Output → Bool
  | .signal _ => true
  | .request _ => false

def Output.request? : Output → Option Request
  | .signal _ => none
  | .request r => some r

/-- The requests before the signal of a call, and the signal with the requests after it. -/
def atSignal : List Output → List Request × Option (Signal × List Request)
  | [] => ([], none)
  | .request r :: os => (r :: (atSignal os).1, (atSignal os).2)
  | .signal s :: os => ([], some (s, os.filterMap Output.request?))

/-! ## Moves -/

/-- The owner, and for each call that waits for the slots of its signal what it has still to request. -/
structure Nested where
  owner : KSelectionOwner
  calls : List (List Request) := []

inductive Move where
  | call (a : Act)
  | ret
deriving DecidableEq, Repr

/-- An assertion fails, or something is put out. -/
inductive Effect where
  | assertionFailed
  | output (o : Output)
deriving DecidableEq, Repr

namespace Nested

/-- The state of the owner does not change any more once a call has emitted its signal. -/
def step (s : Nested) : Move → Nested × List Effect
  | .call a =>
      match call atoms s.owner a with
      | none => (s, [.assertionFailed])
      | some (owner, out) =>
          match atSignal out with
          | (now, none) => ({ s with owner }, now.map fun r => .output (.request r))
          | (now, some (signal, later)) =>
              ({ owner, calls := later :: s.calls },
                (now.map fun r => .output (.request r)) ++ [.output (.signal signal)])
  | .ret =>
      match s.calls with
      | [] => (s, [])
      | later :: calls => ({ s with calls }, later.map fun r => .output (.request r))

/-- `claim` is only called in the idle state. -/
def ClaimsIdle (s : Nested) : Move → Prop
  | .call (.event (.claim ..)) => s.owner.state = .idle
  | _ => True

end Nested

/-! ## The timer and the state -/

def TimerAgrees (d : KSelectionOwner) : Prop := d.timer = true ↔ d.state = .waitingForPreviousOwner

section Calls

variable {atoms} {d : KSelectionOwner}

theorem timerAgrees_off {s : State} (htimer : d.timer = false) (hstate : d.state = s)
    (hs : s ≠ .waitingForPreviousOwner) : TimerAgrees d := by
  unfold TimerAgrees
  rw [htimer, hstate]
  exact iff_of_false (by decide) hs

theorem gotTimestamp_agrees (h : d.timer = false) (newOwner : XcbWindow) :
    TimerAgrees (gotTimestamp atoms d newOwner).1 := by
  unfold gotTimestamp claimSucceeded
  dsimp only
  split
  · exact timerAgrees_off h rfl (show State.idle ≠ _ by decide)
  · split
    · exact iff_of_true rfl rfl
    · exact timerAgrees_off h rfl (show State.idle ≠ _ by decide)

theorem timeout_agrees (h : d.timer = false) : TimerAgrees (timeout atoms d).1 := by
  unfold timeout claimSucceeded
  dsimp only
  split
  · exact timerAgrees_off h rfl (show State.idle ≠ _ by decide)
  · exact timerAgrees_off h rfl (show State.idle ≠ _ by decide)

-- A release touches neither.
theorem release_keeps (d : KSelectionOwner) : d.release.1.timer = d.timer ∧ d.release.1.state = d.state := by
  unfold release
  split <;> exact ⟨rfl, rfl⟩

theorem claim_agrees (h : TimerAgrees d) (hstate : d.state = .idle) (force forceKill : Bool)
    (prevOwner window : XcbWindow) : TimerAgrees (claim d force forceKill prevOwner window).1 := by
  have htimer : d.timer = false := by
    rw [← Bool.not_eq_true]
    intro htimer
    rw [h.mp htimer] at hstate
    cases hstate
  have hreleased : (if d.timestamp ≠ currentTime then d.release else (d, [])).1.timer = false ∧
      (if d.timestamp ≠ currentTime then d.release else (d, [])).1.state = .idle := by
    split
    · exact ⟨(release_keeps d).1.trans htimer, (release_keeps d).2.trans hstate⟩
    · exact ⟨htimer, hstate⟩
  unfold claim
  dsimp only
  split
  · exact timerAgrees_off hreleased.1 hreleased.2 (by decide)
  · exact timerAgrees_off hreleased.1 rfl (show State.waitingForTimestamp ≠ _ by decide)

theorem selectionClear_agrees (h : TimerAgrees d) (selection : XcbAtom) :
    TimerAgrees (selectionClear d selection).1 := by
  unfold selectionClear
  split <;> exact h

theorem ownDestroyed_agrees (h : TimerAgrees d) (window : XcbWindow) : TimerAgrees (ownDestroyed d window).1 := by
  unfold ownDestroyed
  split <;> exact h

theorem destroyNotify_agrees (h : TimerAgrees d) (window : XcbWindow) :
    TimerAgrees (destroyNotify atoms d window).1 := by
  unfold destroyNotify claimSucceeded
  split
  · split
    · exact timerAgrees_off rfl rfl (show State.idle ≠ _ by decide)
    · have hforgets : TimerAgrees { d with prevOwner := 0 } := h
      exact ownDestroyed_agrees hforgets window
  · exact ownDestroyed_agrees h window

/-- A call that meets the invariant, and claims in the idle state, passes its assertions and keeps it. -/
theorem call_agrees (h : TimerAgrees d) (a : Act)
    (hclaim : ∀ force forceKill prevOwner window, a = .event (.claim force forceKill prevOwner window) →
      d.state = .idle) :
    ∃ now, call atoms d a = some now ∧ TimerAgrees now.1 := by
  cases a with
  | release =>
      refine ⟨d.release, rfl, ?_⟩
      unfold TimerAgrees
      rw [(release_keeps d).1, (release_keeps d).2]
      exact h
  | event e =>
      cases e with
      | claim force forceKill prevOwner window =>
          have hidle := hclaim force forceKill prevOwner window rfl
          exact ⟨_, if_pos hidle, claim_agrees h hidle force forceKill prevOwner window⟩
      | setData extra1 extra2 => exact ⟨_, rfl, h⟩
      | selectionClear selection owner => exact ⟨_, rfl, selectionClear_agrees h selection⟩
      | destroyNotify window => exact ⟨_, rfl, destroyNotify_agrees h window⟩
      | propertyNotify window time newOwner =>
          by_cases hmine : window = d.window ∧ d.state = .waitingForTimestamp
          · have htimer : d.timer = false := by
              rw [← Bool.not_eq_true]
              intro htimer
              cases (h.mp htimer).symm.trans hmine.2
            have htimed : ({ d with timestamp := time } : KSelectionOwner).timer = false := htimer
            exact ⟨_, (if_pos hmine).trans (if_pos hmine.2), gotTimestamp_agrees htimed newOwner⟩
          · exact ⟨_, if_neg hmine, h⟩
      | timer =>
          by_cases htimer : d.timer = true
          · exact ⟨_, (if_pos htimer).trans (if_pos (h.mp htimer)), timeout_agrees rfl⟩
          · exact ⟨_, if_neg htimer, h⟩

-- A call that passes its assertions is the step of its event.
theorem call_event_eq (h : TimerAgrees d) (e : Event)
    (hclaim : ∀ force forceKill prevOwner window, e = .claim force forceKill prevOwner window → d.state = .idle) :
    call atoms d (.event e) = some (step atoms d e) := by
  cases e with
  | claim force forceKill prevOwner window => exact if_pos (hclaim force forceKill prevOwner window rfl)
  | propertyNotify window time newOwner =>
      show (if _ then _ else _) = some (propertyNotify atoms d window time newOwner)
      unfold propertyNotify
      by_cases hmine : window = d.window ∧ d.state = .waitingForTimestamp
      · rw [if_pos hmine, if_pos hmine]
        exact if_pos hmine.2
      · rw [if_neg hmine, if_neg hmine]
  | timer =>
      show (if _ then _ else _) = some (timerEvent atoms d)
      unfold timerEvent
      by_cases htimer : d.timer = true
      · rw [if_pos htimer, if_pos htimer]
        exact if_pos (h.mp htimer)
      · rw [if_neg htimer, if_neg htimer]
  | _ => rfl

-- No call emits two signals.
theorem step_signals_le (d : KSelectionOwner) (e : Event) : (step atoms d e).2.countP Output.isSignal ≤ 1 := by
  have hreleased : ∀ d : KSelectionOwner, d.release.2.countP Output.isSignal = 0 := by
    intro d
    unfold release
    split <;> rfl
  have hown : ∀ (d : KSelectionOwner) window, (ownDestroyed d window).2.countP Output.isSignal ≤ 1 := by
    intro d window
    unfold ownDestroyed
    split
    · exact Nat.zero_le 1
    · exact Nat.le_refl 1
  cases e with
  | claim force forceKill prevOwner window =>
      show (claim d force forceKill prevOwner window).2.countP Output.isSignal ≤ 1
      have hfirst : (if d.timestamp ≠ currentTime then d.release else (d, [])).2.countP Output.isSignal = 0 := by
        split
        · exact hreleased d
        · rfl
      unfold claim
      dsimp only
      split
      · rw [List.countP_append, hfirst]
        exact Nat.le_refl 1
      · rw [List.countP_append, List.countP_append, hfirst]
        split <;> exact Nat.zero_le 1
  | setData => exact Nat.zero_le 1
  | selectionClear selection =>
      show (selectionClear d selection).2.countP Output.isSignal ≤ 1
      unfold selectionClear
      split
      · exact Nat.zero_le 1
      · exact Nat.le_refl 1
  | destroyNotify window =>
      show (destroyNotify atoms d window).2.countP Output.isSignal ≤ 1
      unfold destroyNotify claimSucceeded
      split
      · split
        · exact Nat.le_refl 1
        · exact hown _ window
      · exact hown _ window
  | propertyNotify window time newOwner =>
      show (propertyNotify atoms d window time newOwner).2.countP Output.isSignal ≤ 1
      unfold propertyNotify gotTimestamp claimSucceeded
      dsimp only
      split
      · split
        · exact Nat.le_refl 1
        · split
          · exact Nat.zero_le 1
          · exact Nat.le_refl 1
      · exact Nat.zero_le 1
  | timer =>
      show (timerEvent atoms d).2.countP Output.isSignal ≤ 1
      unfold timerEvent timeout claimSucceeded
      dsimp only
      split
      · split <;> exact Nat.le_refl 1
      · exact Nat.zero_le 1

end Calls

/-! ## Calls that nothing interrupts -/

theorem requests_of_silent {out : List Output} (h : out.countP Output.isSignal = 0) :
    (out.filterMap Output.request?).map .request = out := by
  induction out with
  | nil => rfl
  | cons o os ih =>
      cases o with
      | signal s =>
          rw [List.countP_cons_of_pos rfl] at h
          cases h
      | request r =>
          rw [List.countP_cons_of_neg Bool.false_ne_true] at h
          exact congrArg (Output.request r :: ·) (ih h)

/-- A call that was taken apart at its signal. -/
def joined : List Request × Option (Signal × List Request) → List Output
  | (now, none) => now.map .request
  | (now, some (signal, later)) => now.map .request ++ .signal signal :: later.map .request

theorem joined_atSignal {out : List Output} (h : out.countP Output.isSignal ≤ 1) : joined (atSignal out) = out := by
  induction out with
  | nil => rfl
  | cons o os ih =>
      cases o with
      | signal s =>
          rw [List.countP_cons_of_pos rfl] at h
          show .signal s :: (os.filterMap Output.request?).map .request = .signal s :: os
          rw [requests_of_silent (by omega)]
      | request r =>
          rw [List.countP_cons_of_neg Bool.false_ne_true] at h
          have hcons : ∀ split : List Request × Option (Signal × List Request),
              joined (r :: split.1, split.2) = .request r :: joined split := by
            rintro ⟨now, _ | ⟨signal, later⟩⟩ <;> rfl
          show joined (r :: (atSignal os).1, (atSignal os).2) = .request r :: os
          rw [hcons, ih h]

-- The return of the slots finishes the call.
theorem call_ret (atoms : SelectionAtoms) {d : KSelectionOwner} {a : Act} {now : KSelectionOwner × List Output}
    (hcall : call atoms d a = some now) (hsignals : now.2.countP Output.isSignal ≤ 1) :
    run (Nested.step atoms) { owner := d } [.call a, .ret] = ({ owner := now.1 }, now.2.map .output) := by
  have hjoined := joined_atSignal hsignals
  rw [run_cons, run_cons, run_nil]
  unfold Nested.step
  dsimp only
  rw [hcall]
  dsimp only
  generalize atSignal now.2 = split at hjoined ⊢
  rw [← hjoined]
  rcases split with ⟨requests, _ | ⟨signal, later⟩⟩
  · simp [joined, Function.comp_def]
  · simp [joined, Function.comp_def]

/-- Without calls from slots the moves are the steps of the events. -/
theorem run_flat (atoms : SelectionAtoms) {d : KSelectionOwner} (h : TimerAgrees d) {es : List Event}
    (hes : Along (step atoms) (fun d e => ∀ force forceKill prevOwner window,
      e = .claim force forceKill prevOwner window → d.state = .idle) d es) :
    run (Nested.step atoms) { owner := d } (es.flatMap fun e => [.call (.event e), .ret]) =
      ({ owner := (run (step atoms) d es).1 }, (run (step atoms) d es).2.map .output) := by
  induction es generalizing d with
  | nil => rfl
  | cons e es ih =>
      have hcall : call atoms d (.event e) = some (step atoms d e) := call_event_eq h e hes.1
      have hone := call_ret atoms hcall (step_signals_le d e)
      have hnext : TimerAgrees (step atoms d e).1 := by
        have hclaim : ∀ force forceKill prevOwner window,
            Act.event e = .event (.claim force forceKill prevOwner window) → d.state = .idle := by
          intro force forceKill prevOwner window heq
          exact hes.1 force forceKill prevOwner window (Act.event.inj heq)
        have hkeep : ∃ now, call atoms d (.event e) = some now ∧ TimerAgrees now.1 :=
          call_agrees h (.event e) hclaim
        rcases hkeep with ⟨now, hnow, hagrees⟩
        cases hcall.symm.trans hnow
        exact hagrees
      rw [List.flatMap_cons, run_append, hone, run_cons]
      dsimp only
      rw [ih hnext hes.2, List.map_append]

/-! ## Runs -/

section Runs

variable {atoms} {s : Nested}

theorem nested_agrees (h : TimerAgrees s.owner) {m : Move} (hm : s.ClaimsIdle m) :
    TimerAgrees (s.step atoms m).1.owner ∧ ∀ o ∈ (s.step atoms m).2, o ≠ .assertionFailed := by
  cases m with
  | ret =>
      unfold Nested.step
      dsimp only
      split
      · exact ⟨h, fun _ ho => nomatch ho⟩
      · refine ⟨h, ?_⟩
        rintro _ ho rfl
        simp at ho
  | call a =>
      have hclaim : ∀ force forceKill prevOwner window, a = .event (.claim force forceKill prevOwner window) →
          s.owner.state = .idle := by
        rintro force forceKill prevOwner window rfl
        exact hm
      rcases call_agrees h a hclaim with ⟨now, hcall, hnow⟩
      unfold Nested.step
      dsimp only
      rw [hcall]
      dsimp only
      split
      · refine ⟨hnow, ?_⟩
        rintro _ ho rfl
        simp at ho
      · refine ⟨hnow, ?_⟩
        rintro _ ho rfl
        simp at ho

/-- In every state of a run, inside a slot or not, the timer runs exactly while the owner waits for the
previous one, and no assertion fails, as long as `claim` is only called in the idle state. -/
theorem timer_agrees_run (atoms : SelectionAtoms) (selection : XcbAtom) (root : XcbWindow) (ms : List Move)
    (h : Along (Nested.step atoms) Nested.ClaimsIdle { owner := { selection, root } } ms) :
    (∀ n, TimerAgrees (run (Nested.step atoms) { owner := { selection, root } } (ms.take n)).1.owner) ∧
      .assertionFailed ∉ (run (Nested.step atoms) { owner := { selection, root } } ms).2 := by
  have hinit : TimerAgrees { selection, root } := timerAgrees_off rfl rfl (show State.idle ≠ _ by decide)
  constructor
  · intro n
    have hpre : Along (Nested.step atoms) Nested.ClaimsIdle { owner := { selection, root } } (ms.take n) := by
      rw [← List.take_append_drop n ms, along_append] at h
      exact h.1
    exact run_invariant (fun s : Nested => TimerAgrees s.owner) (fun _ _ hs hm => (nested_agrees hs hm).1) hinit hpre
  · intro hfailed
    exact run_emits (fun s : Nested => TimerAgrees s.owner) (fun _ _ hs hm => nested_agrees hs hm) hinit h _ hfailed rfl

-- A claim that has to wait for the previous owner, made again from the slot that learns of its success.
theorem timer_agrees_reclaimed :
    let ms : List Move := [.call (.event (.claim true true 7 1)), .call (.event (.propertyNotify 1 5 1)),
      .call (.event .timer), .call (.event (.claim true false 0 2)), .ret]
    let s : Nested := { owner := { selection := 100, root := 2 } }
    (∀ n, TimerAgrees (run (Nested.step ⟨1, 2, 3, 4⟩) s (ms.take n)).1.owner) ∧
      .assertionFailed ∉ (run (Nested.step ⟨1, 2, 3, 4⟩) s ms).2 :=
  timer_agrees_run ⟨1, 2, 3, 4⟩ 100 2 [.call (.event (.claim true true 7 1)),
    .call (.event (.propertyNotify 1 5 1)), .call (.event .timer), .call (.event (.claim true false 0 2)), .ret]
    ⟨rfl, trivial, trivial, rfl, trivial, trivial⟩

end Runs

end KSelectionOwner

end KWindowSystem
