import KWindowSystem.Selection.Owner

/-!
# The signals of a claim

What `KSelectionOwner` signals between one claim and the next.  While it waits for the previous owner it
has the selection already, and takes the loss of it for the loss of an ownership that it has signalled.
-/

open Machine

namespace KWindowSystem

namespace KSelectionOwner

/-- The owner in a run, and whether the selection was lost or the helper window destroyed since the
last claim. -/
structure Claiming where
  owner : KSelectionOwner
  ended : Bool := false

def signals (out : List Output) : List Signal :=
  out.filterMap fun o => match o with
    | .signal s => some s
    | .request _ => none

/-- The event is the end of the current claim. -/
def Ends (d : KSelectionOwner) : Event → Bool
  | .selectionClear selection owner => selection = d.selection ∧ owner = d.window
  | .destroyNotify window => window = d.window
  | _ => false

def Event.isClaim : Event → Bool
  | .claim .. => true
  | _ => false

section Claims

variable (atoms : SelectionAtoms)

def Claiming.step (s : Claiming) (e : Event) : Claiming × List Output :=
  let now := s.owner.step atoms e
  ({ owner := now.1, ended := !e.isClaim && (s.ended || Ends s.owner e) }, now.2)

/-- A claim is made in the idle state, neither the selection nor the helper window is lost while the
owner waits for the previous one, and the server does not report a window as the owner that it has
destroyed or taken the selection from. -/
def Claiming.Ok (s : Claiming) : Event → Prop
  | .claim .. => s.owner.state = .idle
  | .selectionClear selection _ =>
      s.owner.state = .waitingForPreviousOwner → selection ≠ s.owner.selection
  | .destroyNotify window => s.owner.state = .waitingForPreviousOwner → window ≠ s.owner.window
  | .propertyNotify window _ newOwner =>
      s.owner.state = .waitingForTimestamp → window = s.owner.window → newOwner = s.owner.window →
        s.ended = false
  | _ => True

/-- What the current claim may have signalled, by the state that it is in. -/
def Follows (s : Claiming) (sent : List Signal) : Prop :=
  match s.owner.state with
  | .waitingForTimestamp => sent = [] ∧ s.owner.timestamp = currentTime ∧ s.owner.timer = false
  | .waitingForPreviousOwner => sent = [] ∧ s.owner.forceKill = true ∧ s.ended = false
  | .idle =>
      s.owner.timer = false ∧
        (sent = [.claimedOwnership] ∨
          s.owner.timestamp = currentTime ∧
            (sent = [.failedToClaimOwnership] ∨ sent = [.claimedOwnership, .lostOwnership]))

-- A clear or a destroyed window that ends an ownership, if there is one.
theorem lost_follows {d : KSelectionOwner} {ended ended' : Bool} {sent : List Signal}
    (h : Follows ⟨d, ended⟩ sent) (hidle : d.state = .idle) (htime : d.timestamp ≠ currentTime) :
    Follows ⟨{ d with timestamp := currentTime }, ended'⟩ (sent ++ [.lostOwnership]) := by
  unfold Follows at h ⊢
  dsimp only at h ⊢
  rw [hidle] at h ⊢
  have hclaimed := h.2.resolve_right fun hdone => htime hdone.1
  rw [hclaimed]
  exact ⟨h.1, .inr ⟨rfl, .inr rfl⟩⟩

theorem Follows.ended {d : KSelectionOwner} {ended ended' : Bool} {sent : List Signal}
    (h : Follows ⟨d, ended⟩ sent) (hstate : d.state ≠ .waitingForPreviousOwner) :
    Follows ⟨d, ended'⟩ sent := by
  unfold Follows at h ⊢
  dsimp only at h ⊢
  cases hs : d.state with
  | waitingForPreviousOwner => exact absurd hs hstate
  | waitingForTimestamp => rw [hs] at h; exact h
  | idle => rw [hs] at h; exact h

-- Without the previous owner the rest of the state matters.
theorem Follows.noPrevOwner {d : KSelectionOwner} {ended : Bool} {sent : List Signal}
    (h : Follows ⟨d, ended⟩ sent) : Follows ⟨{ d with prevOwner := 0 }, ended⟩ sent := h

-- The selection is owned in the idle state only.
theorem Follows.idle_of_owned {d : KSelectionOwner} {ended : Bool} {sent : List Signal}
    (h : Follows ⟨d, ended⟩ sent) (hstate : d.state ≠ .waitingForPreviousOwner)
    (htime : d.timestamp ≠ currentTime) : d.state = .idle := by
  unfold Follows at h
  dsimp only at h
  cases hs : d.state with
  | idle => rfl
  | waitingForPreviousOwner => exact absurd hs hstate
  | waitingForTimestamp => rw [hs] at h; exact absurd h.2.1 htime

theorem Follows.silent {s : Claiming} {sent : List Signal} (h : Follows s sent) :
    Follows s (sent ++ signals []) := by
  rw [show signals [] = [] from rfl, List.append_nil]
  exact h

theorem ownDestroyed_follows {d : KSelectionOwner} {ended ended' : Bool} {sent : List Signal}
    (h : Follows ⟨d, ended⟩ sent) (window : XcbWindow)
    (hstate : d.state ≠ .waitingForPreviousOwner) :
    Follows ⟨(ownDestroyed d window).1, ended'⟩ (sent ++ signals (ownDestroyed d window).2) := by
  unfold ownDestroyed
  split
  · exact (h.ended hstate).silent
  · rename_i hlost
    rw [not_or] at hlost
    exact lost_follows h (h.idle_of_owned hstate hlost.1) hlost.1

theorem notClaimed_ownDestroyed (d : KSelectionOwner) (window : XcbWindow) :
    .claimedOwnership ∉ signals (ownDestroyed d window).2 := by
  unfold ownDestroyed
  split <;> simp [signals]

theorem gotTimestamp_follows {d : KSelectionOwner} (htimer : d.timer = false) (newOwner : XcbWindow)
    {ended : Bool} (hended : newOwner = d.window → ended = false) :
    Follows ⟨(gotTimestamp atoms d newOwner).1, ended⟩
        (signals (gotTimestamp atoms d newOwner).2) ∧
      (ended = true → .claimedOwnership ∉ signals (gotTimestamp atoms d newOwner).2) := by
  unfold gotTimestamp
  dsimp only
  by_cases hfailed : newOwner ≠ d.window
  · rw [if_pos hfailed]
    exact ⟨⟨htimer, .inr ⟨rfl, .inl rfl⟩⟩, fun _ => by simp [signals]⟩
  · rw [if_neg hfailed]
    have hfalse := hended (not_not.mp hfailed)
    by_cases hwait : d.prevOwner ≠ 0 ∧ d.forceKill = true
    · rw [if_pos hwait]
      exact ⟨⟨rfl, hwait.2, hfalse⟩, fun _ => by simp [signals]⟩
    · rw [if_neg hwait]
      exact ⟨⟨htimer, .inl rfl⟩, fun htrue => by rw [hfalse] at htrue; cases htrue⟩

theorem selectionClear_follows {d : KSelectionOwner} {ended : Bool} {sent : List Signal}
    (h : Follows ⟨d, ended⟩ sent) {selection : XcbAtom} {owner : XcbWindow}
    (hok : Claiming.Ok ⟨d, ended⟩ (.selectionClear selection owner)) :
    Follows ⟨(selectionClear d selection).1, ended || Ends d (.selectionClear selection owner)⟩
        (sent ++ signals (selectionClear d selection).2) ∧
      .claimedOwnership ∉ signals (selectionClear d selection).2 := by
  unfold selectionClear
  by_cases hignored : d.timestamp = currentTime ∨ selection ≠ d.selection
  · rw [if_pos hignored]
    refine ⟨Follows.silent ?_, fun hin => nomatch hin⟩
    by_cases hwait : d.state = .waitingForPreviousOwner
    · -- Another selection is cleared.
      have hother : Ends d (.selectionClear selection owner) = false :=
        decide_eq_false fun hboth => hok hwait hboth.1
      rw [hother, Bool.or_false]
      exact h
    · exact h.ended hwait
  · rw [if_neg hignored]
    rw [not_or, not_not] at hignored
    have hwait : d.state ≠ .waitingForPreviousOwner := fun hwait => hok hwait hignored.2
    exact ⟨lost_follows h (h.idle_of_owned hwait hignored.1) hignored.1, by simp [signals]⟩

theorem destroyNotify_follows {d : KSelectionOwner} {ended : Bool} {sent : List Signal}
    (h : Follows ⟨d, ended⟩ sent) {window : XcbWindow}
    (hok : Claiming.Ok ⟨d, ended⟩ (.destroyNotify window)) :
    Follows ⟨(destroyNotify atoms d window).1, ended || Ends d (.destroyNotify window)⟩
        (sent ++ signals (destroyNotify atoms d window).2) ∧
      (ended = true ∨ Ends d (.destroyNotify window) = true →
        .claimedOwnership ∉ signals (destroyNotify atoms d window).2) := by
  unfold destroyNotify
  by_cases hwait : d.state = .waitingForPreviousOwner
  · have hother : window ≠ d.window := hok hwait
    have hends : Ends d (.destroyNotify window) = false := decide_eq_false hother
    rw [hends, Bool.or_false]
    by_cases hprev : window = d.prevOwner
    · rw [if_pos hprev, if_pos hwait]
      unfold Follows at h
      dsimp only at h
      rw [hwait] at h
      rw [h.1, h.2.2]
      exact ⟨⟨rfl, .inl rfl⟩, fun hended => hended.elim (fun h => nomatch h) fun h => nomatch h⟩
    · rw [if_neg hprev]
      unfold ownDestroyed
      rw [if_pos (.inr hother)]
      exact ⟨h.silent, fun _ hin => nomatch hin⟩
  · by_cases hprev : window = d.prevOwner
    · rw [if_pos hprev, if_neg hwait]
      exact ⟨ownDestroyed_follows h.noPrevOwner window hwait, fun _ => notClaimed_ownDestroyed _ window⟩
    · rw [if_neg hprev]
      exact ⟨ownDestroyed_follows h window hwait, fun _ => notClaimed_ownDestroyed d window⟩

theorem propertyNotify_follows {d : KSelectionOwner} {ended : Bool} {sent : List Signal}
    (h : Follows ⟨d, ended⟩ sent) {window : XcbWindow} {time : UInt32} {newOwner : XcbWindow}
    (hok : Claiming.Ok ⟨d, ended⟩ (.propertyNotify window time newOwner)) :
    Follows ⟨(propertyNotify atoms d window time newOwner).1, ended⟩
        (sent ++ signals (propertyNotify atoms d window time newOwner).2) ∧
      (ended = true → .claimedOwnership ∉ signals (propertyNotify atoms d window time newOwner).2) := by
  unfold propertyNotify
  by_cases hmine : window = d.window ∧ d.state = .waitingForTimestamp
  · rw [if_pos hmine]
    unfold Follows at h
    dsimp only at h
    rw [hmine.2] at h
    rw [h.1, List.nil_append]
    exact gotTimestamp_follows atoms (d := { d with timestamp := time }) h.2.2 newOwner
      fun howner => hok hmine.2 hmine.1 howner
  · rw [if_neg hmine]
    exact ⟨h.silent, fun _ hin => nomatch hin⟩

theorem timerEvent_follows {d : KSelectionOwner} {ended : Bool} {sent : List Signal}
    (h : Follows ⟨d, ended⟩ sent) :
    Follows ⟨(timerEvent atoms d).1, ended⟩ (sent ++ signals (timerEvent atoms d).2) ∧
      (ended = true → .claimedOwnership ∉ signals (timerEvent atoms d).2) := by
  unfold timerEvent
  by_cases htimer : d.timer = true
  · rw [if_pos htimer]
    unfold Follows at h
    dsimp only at h
    cases hs : d.state with
    | idle => rw [hs] at h; rw [h.1] at htimer; cases htimer
    | waitingForTimestamp => rw [hs] at h; rw [h.2.2] at htimer; cases htimer
    | waitingForPreviousOwner =>
        rw [hs] at h
        unfold timeout
        dsimp only
        rw [if_pos h.2.1, h.1, h.2.2]
        exact ⟨⟨rfl, .inl rfl⟩, fun hended => nomatch hended⟩
  · rw [if_neg htimer]
    exact ⟨h.silent, fun _ hin => nomatch hin⟩

-- One event that is not a claim, and no claim is signalled after its end.
theorem step_follows {s : Claiming} {sent : List Signal} (h : Follows s sent) {e : Event}
    (hok : s.Ok e) (hclaim : e.isClaim = false) :
    Follows (s.step atoms e).1 (sent ++ signals (s.step atoms e).2) ∧
      (s.ended = true ∨ Ends s.owner e = true →
        .claimedOwnership ∉ signals (s.step atoms e).2) := by
  rcases s with ⟨d, ended⟩
  unfold Claiming.step
  dsimp only
  rw [hclaim, Bool.not_false, Bool.true_and]
  cases e with
  | claim force forceKill prevOwner window => cases hclaim
  | setData extra1 extra2 =>
      show Follows ⟨{ d with extra1, extra2 }, ended || false⟩ (sent ++ signals []) ∧ _
      rw [Bool.or_false]
      exact ⟨Follows.silent h, fun _ hin => nomatch hin⟩
  | selectionClear selection owner => exact (selectionClear_follows h hok).imp_right fun hnot _ => hnot
  | destroyNotify window => exact destroyNotify_follows atoms h hok
  | propertyNotify window time newOwner =>
      have hnext := propertyNotify_follows atoms h hok
      rw [show Ends d (.propertyNotify window time newOwner) = false from rfl, Bool.or_false]
      exact hnext.imp_right fun hnot hended => hnot (hended.resolve_right (by decide))
  | timer =>
      have hnext := timerEvent_follows atoms h
      rw [show Ends d .timer = false from rfl, Bool.or_false]
      exact hnext.imp_right fun hnot hended => hnot (hended.resolve_right (by decide))

-- Many events without a claim.
theorem run_follows {s : Claiming} {sent : List Signal} (h : Follows s sent) {es : List Event}
    (hok : Along (Claiming.step atoms) Claiming.Ok s es) (hclaims : ∀ e ∈ es, e.isClaim = false) :
    Follows (run (Claiming.step atoms) s es).1
        (sent ++ signals (run (Claiming.step atoms) s es).2) ∧
      (s.ended = true → .claimedOwnership ∉ signals (run (Claiming.step atoms) s es).2) := by
  induction es generalizing s sent with
  | nil =>
      rw [run_nil, show signals [] = [] from rfl, List.append_nil]
      exact ⟨h, fun _ hin => nomatch hin⟩
  | cons e es ih =>
      rw [List.forall_mem_cons] at hclaims
      have hstep := step_follows atoms h hok.1 hclaims.1
      have hrest := ih hstep.1 hok.2 hclaims.2
      have hsignals : ∀ out out' : List Output, signals (out ++ out') = signals out ++ signals out' :=
        fun out out' => List.filterMap_append
      rw [run_cons, hsignals, ← List.append_assoc]
      apply And.intro hrest.1
      intro hended hin
      cases List.mem_append.mp hin with
      | inl hnow => exact hstep.2 (.inl hended) hnow
      | inr hlater =>
          apply hrest.2 _ hlater
          show (!e.isClaim && (s.ended || Ends s.owner e)) = true
          rw [hclaims.1, hended]
          rfl

-- A claim releases the previous ownership, without a signal.
theorem released_eq (d : KSelectionOwner) :
    ∃ d' out, (if d.timestamp ≠ currentTime then release d else (d, [])) = (d', out) ∧
      d'.state = d.state ∧ d'.timer = d.timer ∧ d'.timestamp = currentTime ∧ signals out = [] := by
  split
  · rename_i howned
    unfold release
    rw [if_neg howned]
    exact ⟨_, _, rfl, rfl, rfl, rfl, rfl⟩
  · rename_i hnone
    exact ⟨_, _, rfl, rfl, rfl, not_not.mp hnone, rfl⟩

-- Whatever was before, a claim starts anew.
theorem claim_follows {s : Claiming} (hidle : s.owner.state = .idle) (htimer : s.owner.timer = false)
    (force forceKill : Bool) (prevOwner window : XcbWindow) :
    Follows (s.step atoms (.claim force forceKill prevOwner window)).1
      (signals (s.step atoms (.claim force forceKill prevOwner window)).2) := by
  show Follows ⟨(claim s.owner force forceKill prevOwner window).1, false⟩
    (signals (claim s.owner force forceKill prevOwner window).2)
  rcases released_eq s.owner with ⟨d, out, hclaim, hstate, hd, htime, hsilent⟩
  rw [hidle] at hstate
  rw [htimer] at hd
  have hsignals : ∀ out' : List Output, signals (out ++ out') = signals out' := by
    intro out'
    show List.filterMap _ (out ++ out') = _
    rw [List.filterMap_append]
    exact congrArg (· ++ signals out') hsilent
  unfold claim
  dsimp only
  rw [hclaim]
  split
  · rw [hsignals]
    unfold Follows
    dsimp only
    rw [hstate]
    exact ⟨hd, .inr ⟨htime, .inl rfl⟩⟩
  · rw [List.append_assoc, hsignals]
    refine ⟨?_, htime, hd⟩
    split <;> rfl

/-- The timer runs only while the owner waits for the previous one. -/
def TimerWaits (d : KSelectionOwner) : Prop :=
  d.state ≠ .waitingForPreviousOwner → d.timer = false

theorem ownDestroyed_timer {d : KSelectionOwner} (h : TimerWaits d) (window : XcbWindow) :
    TimerWaits (ownDestroyed d window).1 := by
  unfold ownDestroyed
  split <;> exact h

theorem timer_step {s : Claiming} (h : TimerWaits s.owner) {e : Event} (hok : s.Ok e) :
    TimerWaits (s.step atoms e).1.owner := by
  rcases s with ⟨d, ended⟩
  cases e with
  | setData extra1 extra2 => exact h
  | claim force forceKill prevOwner window =>
      have htimer : d.timer = false := h (by rw [show d.state = .idle from hok]; decide)
      show TimerWaits (claim d force forceKill prevOwner window).1
      rcases released_eq d with ⟨d', out, hclaim, -, hd, -⟩
      unfold claim
      dsimp only
      rw [hclaim]
      split <;> exact fun _ => hd.trans htimer
  | selectionClear selection owner =>
      show TimerWaits (selectionClear d selection).1
      unfold selectionClear
      split <;> exact h
  | destroyNotify window =>
      show TimerWaits (destroyNotify atoms d window).1
      unfold destroyNotify
      split
      · split
        · exact fun _ => rfl
        · exact ownDestroyed_timer (d := { d with prevOwner := 0 }) h window
      · exact ownDestroyed_timer h window
  | propertyNotify window time newOwner =>
      show TimerWaits (propertyNotify atoms d window time newOwner).1
      unfold propertyNotify
      split
      · rename_i hmine
        have htimer : d.timer = false := h (by rw [hmine.2]; decide)
        unfold gotTimestamp
        dsimp only
        split
        · exact fun _ => htimer
        · split
          · exact fun hstate => absurd rfl hstate
          · exact fun _ => htimer
      · exact h
  | timer =>
      show TimerWaits (timerEvent atoms d).1
      unfold timerEvent timeout
      dsimp only
      split
      · split <;> exact fun _ => rfl
      · exact h

/-- Between one claim and the next the owner signals a failed claim, or a claimed and then perhaps a
lost ownership, and no claimed one once the claim has ended. -/
theorem signals_of_claim (selection : XcbAtom) (root : XcbWindow) {pre seg : List Event} {c : Event}
    (hok : Along (Claiming.step atoms) Claiming.Ok { owner := { selection, root } }
      (pre ++ c :: seg))
    (hc : c.isClaim = true) (hseg : ∀ e ∈ seg, e.isClaim = false) :
    let s := (run (Claiming.step atoms) { owner := { selection, root } } pre).1
    let sent := signals (run (Claiming.step atoms) s (c :: seg)).2
    (sent <+: [.failedToClaimOwnership] ∨ sent <+: [.claimedOwnership, .lostOwnership]) ∧
      ∀ a e b, seg = a ++ e :: b →
        let now := (run (Claiming.step atoms) s (c :: a)).1
        Ends now.owner e = true →
          .claimedOwnership ∉ signals (run (Claiming.step atoms) now (e :: b)).2 := by
  rw [along_append] at hok
  have htimer := run_invariant (fun s : Claiming => TimerWaits s.owner)
    (fun s e h hstep => timer_step atoms h hstep) (fun _ => rfl) hok.1
  dsimp only
  generalize (run (Claiming.step atoms) { owner := { selection, root } } pre).1 = s at hok htimer ⊢
  have hokc := hok.2
  cases c with
  | claim force forceKill prevOwner window =>
      have hidle : s.owner.state = .idle := hokc.1
      have hstart := claim_follows atoms hidle (htimer (by rw [hidle]; decide)) force
        forceKill prevOwner window
      have hseg' := run_follows atoms hstart hokc.2 hseg
      have hsignals : ∀ out out' : List Output, signals (out ++ out') = signals out ++ signals out' :=
        fun out out' => List.filterMap_append
      apply And.intro
      · rw [run_cons, hsignals]
        have hsent := hseg'.1
        generalize signals _ ++ signals _ = sent at hsent ⊢
        unfold Follows at hsent
        split at hsent
        · rw [hsent.1]
          exact .inl List.nil_prefix
        · rw [hsent.1]
          exact .inl List.nil_prefix
        · rcases hsent.2 with hclaimed | ⟨-, hfailed | hlost⟩
          · rw [hclaimed]
            exact .inr ⟨[.lostOwnership], rfl⟩
          · rw [hfailed]
            exact .inl (List.prefix_refl _)
          · rw [hlost]
            exact .inr (List.prefix_refl _)
      · intro a e b hsplit hends
        rw [hsplit] at hokc hseg
        have hokc' := (along_append _ _ _ _).mp hokc.2
        have hnow := run_follows atoms hstart hokc'.1 fun x hx => hseg x (List.mem_append_left _ hx)
        rw [run_cons] at hends ⊢
        have he := hseg e (List.mem_append_right _ List.mem_cons_self)
        have hstep := step_follows atoms hnow.1 hokc'.2.1 he
        have hrest := run_follows atoms hstep.1 hokc'.2.2 fun x hx =>
          hseg x (List.mem_append_right _ (List.mem_cons_of_mem _ hx))
        rw [run_cons, hsignals]
        intro hin
        cases List.mem_append.mp hin with
        | inl hfirst => exact hstep.2 (.inr hends) hfirst
        | inr hlater =>
            apply hrest.2 _ hlater
            show (!e.isClaim && (_ || Ends _ e)) = true
            rw [he, hends, Bool.or_true]
            rfl
  | _ => cases hc

/-- An ownership that is claimed with force and lost again. -/
def claimAndLose : List Event :=
  [.propertyNotify 7 100 7, .destroyNotify 5, .selectionClear 300 7]

theorem claimAndLose_signals :
    let s : Claiming := { owner := { selection := 300, root := 1 } }
    let sent := signals (run (Claiming.step ⟨1, 2, 3, 4⟩) s (.claim true true 5 7 :: claimAndLose)).2
    sent <+: [.failedToClaimOwnership] ∨ sent <+: [.claimedOwnership, .lostOwnership] :=
  (@signals_of_claim ⟨1, 2, 3, 4⟩ 300 1 [] claimAndLose (.claim true true 5 7)
    ⟨rfl, fun _ _ _ => rfl, fun _ => by decide, (fun h => nomatch h), trivial⟩ rfl (by decide)).1

/-- The selection is lost while the owner waits for the previous one to go. -/
theorem lost_before_claimed :
    signals (run (Claiming.step ⟨1, 2, 3, 4⟩) { owner := { selection := 300, root := 1 } }
      [.claim true true 5 7, .propertyNotify 7 100 7, .selectionClear 300 7, .timer]).2 =
      [.lostOwnership, .claimedOwnership] := by
  decide

end Claims

end KSelectionOwner

end KWindowSystem
