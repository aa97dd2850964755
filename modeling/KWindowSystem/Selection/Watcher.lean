import KWindowSystem.Lib.Machine
import KWindowSystem.NetWM.Atoms
import Mathlib.Data.Finset.Basic

/-!
# KSelectionWatcher

A `KSelectionWatcher` beside the X server and the clients that own the selection in turn.  Every request
of `owner` is a step of its own, so that the other clients get in between; the events that the watcher
selected for wait for it in the order in which the server sent them.
-/

open Machine

namespace KWindowSystem

structure KSelectionWatcher where
  selection : XcbAtom
  selectionOwner : XcbWindow := 0
deriving DecidableEq, Repr

namespace KSelectionWatcher

inductive Signal where
  | newOwner (owner : XcbWindow)
  | lostOwner
deriving DecidableEq, Repr

/-- The events that `filterEvent` looks at, with the fields that it reads. -/
inductive Event where
  | clientMessage (type data1 : UInt32)
  | destroyNotify (window : XcbWindow)
deriving DecidableEq, Repr

/-- `owner`, from the replies of the server: the owner at first, whether the events of its window could
not be selected, and the owner after that. -/
def owner (d : KSelectionWatcher) (currentOwner : XcbWindow) (err : Bool) (newOwner : XcbWindow) :
    XcbWindow × KSelectionWatcher × List Signal :=
  if currentOwner = 0 then (0, d, [])
  else if currentOwner = d.selectionOwner then (d.selectionOwner, d, [])
  else if err = false ∧ currentOwner = newOwner then
    (currentOwner, { d with selectionOwner := currentOwner }, [.newOwner currentOwner])
  else (0, { d with selectionOwner := 0 }, [])

/-- Whether `filterEvent` calls `owner`, and whether it is because the owner was destroyed. -/
def asks (managerAtom : XcbAtom) (d : KSelectionWatcher) : Event → Option Bool
  | .clientMessage type data1 => if type ≠ managerAtom ∨ data1 ≠ d.selection then none else some false
  | .destroyNotify window =>
      if d.selectionOwner = 0 ∨ window ≠ d.selectionOwner then none else some true

/-- What `filterEvent` does before it calls `owner`. -/
def forget (d : KSelectionWatcher) (destroyed : Bool) : KSelectionWatcher :=
  if destroyed then { d with selectionOwner := 0 } else d

/-- What `filterEvent` does after it. -/
def returned (destroyed : Bool) (result : XcbWindow × KSelectionWatcher × List Signal) :
    KSelectionWatcher × List Signal :=
  (result.2.1, result.2.2 ++ if destroyed ∧ result.1 = 0 then [.lostOwner] else [])

/-- `filterEvent`, with the replies for the call of `owner`. -/
def filterEvent (managerAtom : XcbAtom) (d : KSelectionWatcher) (event : Event) (currentOwner : XcbWindow)
    (err : Bool) (newOwner : XcbWindow) : KSelectionWatcher × List Signal :=
  match d.asks managerAtom event with
  | none => (d, [])
  | some destroyed => returned destroyed ((d.forget destroyed).owner currentOwner err newOwner)

/-! ## The watcher among other clients -/

/-- The next request of the call of `owner` that the watcher is in.  `destroyed` is set when the call is
made for the destruction of the owner. -/
inductive Phase where
  | idle
  | query (destroyed : Bool)
  | select (destroyed : Bool) (currentOwner : XcbWindow)
  | verify (destroyed : Bool) (currentOwner : XcbWindow) (err : Bool)
deriving DecidableEq, Repr

structure Session where
  watcher : KSelectionWatcher
  phase : Phase
  /-- The last signal. -/
  told : Option Signal := none
  /-- The owner of the selection, as the server has it. -/
  current : XcbWindow
  alive : Finset XcbWindow
  /-- The windows whose structure events the watcher selected. -/
  selected : Finset XcbWindow
  /-- The claims that are still to be announced by a `MANAGER` message. -/
  owed : List XcbWindow
  queue : List Event
deriving DecidableEq

inductive Act where
  /-- A client makes its window, if need be, and claims the selection for it. -/
  | claim (window : XcbWindow)
  /-- The client announces that. -/
  | announce (window : XcbWindow)
  /-- Any other client message to the root window. -/
  | send (type data1 : UInt32)
  | destroy (window : XcbWindow)
  /-- `owner` is called from outside. -/
  | callOwner
  /-- The watcher goes on: with the next request of `owner`, or with the next event. -/
  | watch
deriving DecidableEq, Repr

namespace Session

variable (managerAtom : XcbAtom)

/-- The call of `owner` is over. -/
def finish (s : Session) (destroyed : Bool) (result : XcbWindow × KSelectionWatcher × List Signal) :
    Session × List Signal :=
  let after := returned destroyed result
  ({ s with watcher := after.1, phase := .idle, told := after.2.getLast?.or s.told }, after.2)

/-- The watcher goes on. -/
def watch (s : Session) : Session × List Signal :=
  match s.phase with
  | .idle => match s.queue with
    | [] => (s, [])
    | event :: queue => match s.watcher.asks managerAtom event with
      | none => ({ s with queue }, [])
      | some destroyed =>
          ({ s with queue, watcher := s.watcher.forget destroyed, phase := .query destroyed }, [])
  | .query destroyed =>
      -- No other request is made then, so that the other replies do not matter.
      if s.current = 0 ∨ s.current = s.watcher.selectionOwner then
        s.finish destroyed (s.watcher.owner s.current false 0)
      else ({ s with phase := .select destroyed s.current }, [])
  | .select destroyed currentOwner =>
      if currentOwner ∈ s.alive then
        ({ s with phase := .verify destroyed currentOwner false, selected := insert currentOwner s.selected }, [])
      else ({ s with phase := .verify destroyed currentOwner true }, [])
  | .verify destroyed currentOwner err =>
      s.finish destroyed (s.watcher.owner currentOwner err s.current)

def step (s : Session) : Act → Session × List Signal
  | .claim window =>
      if window = 0 then (s, [])
      else ({ s with current := window, alive := insert window s.alive, owed := window :: s.owed }, [])
  | .announce window =>
      if window ∈ s.owed then
        ({ s with owed := s.owed.erase window
                  queue := s.queue ++ [.clientMessage managerAtom s.watcher.selection] }, [])
      else (s, [])
  | .send type data1 => ({ s with queue := s.queue ++ [.clientMessage type data1] }, [])
  | .destroy window =>
      ({ s with current := if s.current = window then 0 else s.current
                alive := s.alive.erase window
                selected := s.selected.erase window
                queue := if window ∈ s.selected then s.queue ++ [.destroyNotify window] else s.queue }, [])
  | .callOwner => if s.phase = .idle then ({ s with phase := .query false }, []) else (s, [])
  | .watch => s.watch managerAtom

/-- The watcher is made, and calls `owner` at once.  The connection may have events waiting, and may have
selected windows, by then. -/
def start (selection : XcbAtom) (current : XcbWindow) (others selected : Finset XcbWindow)
    (owed : List XcbWindow) (queue : List Event) : Session where
  watcher := { selection }
  phase := .query false
  current := current
  alive := (insert current others).erase 0
  selected := selected ∩ (insert current others).erase 0
  owed := owed
  queue := queue

/-- All that was to be sent has been sent and processed. -/
def Settled (s : Session) : Prop := s.phase = .idle ∧ s.queue = [] ∧ s.owed = []

instance (s : Session) : Decidable s.Settled := by
  unfold Settled
  infer_instance

/-- What the last signal is to be. -/
def Agrees (current : XcbWindow) (last : Option Signal) : Prop :=
  if current = 0 then last = none ∨ last = some .lostOwner else last = some (.newOwner current)

/-- A claim is not announced yet, or its announcement waits in the queue. -/
def Announced (s : Session) : Prop :=
  s.owed ≠ [] ∨ .clientMessage managerAtom s.watcher.selection ∈ s.queue

/-- The watcher is to read that the owner it knows was destroyed. -/
def Bereaved (s : Session) : Prop :=
  s.watcher.selectionOwner ≠ 0 ∧ .destroyNotify s.watcher.selectionOwner ∈ s.queue

def Quiet (s : Session) : Prop := s.told = none ∨ s.told = some .lostOwner

instance (s : Session) : Decidable (s.Announced managerAtom) := by
  unfold Announced
  infer_instance

instance (s : Session) : Decidable s.Bereaved := by
  unfold Bereaved
  infer_instance

instance (s : Session) : Decidable s.Quiet := by
  unfold Quiet
  infer_instance

instance (current : XcbWindow) (last : Option Signal) : Decidable (Agrees current last) := by
  unfold Agrees
  infer_instance

/-- A call of `owner` that `lostOwner` does not follow finds no owner, or another one than at first, only
where the listeners know of none or where there is something left to make the watcher look again. -/
def Heard (s : Session) (a : Act) : Prop :=
  match a, s.phase with
  | .watch, .query false => s.current = 0 → s.Quiet ∨ s.Announced managerAtom ∨ s.Bereaved
  | .watch, .verify false currentOwner err =>
      err = true ∨ currentOwner ≠ s.current → s.Quiet ∨ s.Announced managerAtom
  | _, _ => True

instance (s : Session) (a : Act) : Decidable (s.Heard managerAtom a) := by
  unfold Heard
  split <;> infer_instance

/-! ## What the watcher knows -/

/-- The destruction of the window reaches the watcher, or is on its way. -/
def Hears (s : Session) (window : XcbWindow) : Prop :=
  window ∈ s.selected ∨ .destroyNotify window ∈ s.queue

/-- The watcher is in the picture. -/
def InTouch (s : Session) : Prop :=
  if s.current = 0 then s.Quiet else s.watcher.selectionOwner = s.current

/-- How far a call of `owner` has come. -/
def Reached (s : Session) : Phase → Prop
  | .idle => s.InTouch ∨ s.Announced managerAtom ∨ s.Bereaved
  | .query destroyed => destroyed = true → s.watcher.selectionOwner = 0
  | .select destroyed currentOwner =>
      (destroyed = true → s.watcher.selectionOwner = 0) ∧ currentOwner ≠ 0 ∧
        currentOwner ≠ s.watcher.selectionOwner ∧
        (s.current ≠ 0 → s.current ≠ currentOwner → s.Announced managerAtom)
  | .verify destroyed currentOwner err =>
      (destroyed = true → s.watcher.selectionOwner = 0) ∧ currentOwner ≠ 0 ∧
        currentOwner ≠ s.watcher.selectionOwner ∧
        (s.current ≠ 0 → err = true ∨ s.current ≠ currentOwner → s.Announced managerAtom) ∧
        (err = false → s.Hears currentOwner)

structure Consistent (s : Session) : Prop where
  none_dead : 0 ∉ s.alive
  current_alive : s.current ≠ 0 → s.current ∈ s.alive
  selected_alive : s.selected ⊆ s.alive
  recorded : s.watcher.selectionOwner ≠ 0 →
    s.told = some (.newOwner s.watcher.selectionOwner) ∧ s.Hears s.watcher.selectionOwner
  reached : s.Reached managerAtom s.phase

section Steps

variable {managerAtom} {s s' : Session}

/-- What the other clients can do to the watcher. -/
structure Disturbs (managerAtom : XcbAtom) (s s' : Session) : Prop where
  watcher : s'.watcher = s.watcher
  phase : s'.phase = s.phase
  told : s'.told = s.told
  queue : s.queue ⊆ s'.queue
  hears : ∀ w, s.Hears w → s'.Hears w
  announced : s.Announced managerAtom → s'.Announced managerAtom
  current : s'.current = s.current ∨ s'.Announced managerAtom ∨
    s'.current = 0 ∧ s.current ≠ 0 ∧ (s.Hears s.current → .destroyNotify s.current ∈ s'.queue)

theorem Disturbs.of_queue (managerAtom : XcbAtom) (s : Session) (e : Event) :
    Disturbs managerAtom s { s with queue := s.queue ++ [e] } where
  watcher := rfl
  phase := rfl
  told := rfl
  queue := List.subset_append_left _ _
  hears := fun _ h => h.imp_right fun h => List.mem_append_left _ h
  announced := fun h => h.imp_right fun h => List.mem_append_left _ h
  current := .inl rfl

theorem Disturbs.reached (h : Disturbs managerAtom s s') (hs : s.Consistent managerAtom) :
    s'.Reached managerAtom s'.phase := by
  have hr := hs.reached
  have hcurrent := h.current
  rw [h.phase]
  -- Another owner than before has an announcement to come.
  have hother : ∀ c, (s.current ≠ 0 → s.current ≠ c → s.Announced managerAtom) →
      s'.current ≠ 0 → s'.current ≠ c → s'.Announced managerAtom := by
    intro c hann h0 hc
    rcases hcurrent with heq | hann' | hgone
    · exact h.announced (hann (heq ▸ h0) (heq ▸ hc))
    · exact hann'
    · exact absurd hgone.1 h0
  cases hp : s.phase with
  | idle =>
      rw [hp] at hr
      rcases hr with htouch | hann | hlost
      · rcases hcurrent with heq | hann' | hgone
        · apply Or.inl
          unfold InTouch Quiet at htouch ⊢
          rw [heq, h.told, h.watcher]
          exact htouch
        · exact .inr (.inl hann')
        · rw [InTouch, if_neg hgone.2.1] at htouch
          refine .inr (.inr ⟨?_, ?_⟩)
          · rw [h.watcher, htouch]
            exact hgone.2.1
          · have hhears := (hs.recorded (by rw [htouch]; exact hgone.2.1)).2
            rw [h.watcher, htouch]
            rw [htouch] at hhears
            exact hgone.2.2 hhears
      · exact .inr (.inl (h.announced hann))
      · refine .inr (.inr ?_)
        unfold Bereaved
        rw [h.watcher]
        exact ⟨hlost.1, h.queue hlost.2⟩
  | query destroyed =>
      rw [hp] at hr
      show _ → _
      rw [h.watcher]
      exact hr
  | select destroyed c =>
      rw [hp] at hr
      show _ ∧ _
      rw [h.watcher]
      exact ⟨hr.1, hr.2.1, hr.2.2.1, hother c hr.2.2.2⟩
  | verify destroyed c err =>
      rw [hp] at hr
      rcases hr with ⟨hdestroyed, hc, hne, hann, hhears⟩
      show _ ∧ _
      rw [h.watcher]
      refine ⟨hdestroyed, hc, hne, ?_, fun herr => h.hears c (hhears herr)⟩
      intro h0 hwhy
      cases hwhy with
      | inl herr =>
          rcases hcurrent with heq | hann' | hgone
          · exact h.announced (hann (heq ▸ h0) (.inl herr))
          · exact hann'
          · exact absurd hgone.1 h0
      | inr hne' => exact hother c (fun h0 hne => hann h0 (.inr hne)) h0 hne'

theorem Consistent.disturbed (hs : s.Consistent managerAtom) (h : Disturbs managerAtom s s')
    (hnone : 0 ∉ s'.alive) (hcurrent : s'.current ≠ 0 → s'.current ∈ s'.alive) (hselected : s'.selected ⊆ s'.alive) :
    s'.Consistent managerAtom where
  none_dead := hnone
  current_alive := hcurrent
  selected_alive := hselected
  recorded := by
    rw [h.watcher, h.told]
    intro hne
    exact ⟨(hs.recorded hne).1, h.hears _ (hs.recorded hne).2⟩
  reached := h.reached hs

theorem claim_consistent (hs : s.Consistent managerAtom) (window : XcbWindow) :
    (s.step managerAtom (.claim window)).1.Consistent managerAtom := by
  unfold step
  dsimp only
  split
  · exact hs
  · rename_i hne
    have hann : ({ s with current := window, alive := insert window s.alive, owed := window :: s.owed } :
        Session).Announced managerAtom := .inl (List.cons_ne_nil _ _)
    refine hs.disturbed ⟨rfl, rfl, rfl, List.Subset.refl _, fun _ h => h, fun _ => hann,
      .inr (.inl hann)⟩ ?_ ?_ ?_
    · intro h0
      exact (Finset.mem_insert.mp h0).elim (fun h => hne h.symm) hs.none_dead
    · intro _
      exact Finset.mem_insert_self _ _
    · exact hs.selected_alive.trans (Finset.subset_insert _ _)

theorem announce_consistent (hs : s.Consistent managerAtom) (window : XcbWindow) :
    (s.step managerAtom (.announce window)).1.Consistent managerAtom := by
  unfold step
  dsimp only
  split
  · have hqueue : s.queue ⊆ s.queue ++ [.clientMessage managerAtom s.watcher.selection] :=
      List.subset_append_left _ _
    refine hs.disturbed ⟨rfl, rfl, rfl, hqueue, fun _ h => h.imp_right fun h => hqueue h, ?_, .inl rfl⟩
      hs.none_dead hs.current_alive hs.selected_alive
    intro _
    exact .inr (List.mem_append_right _ (List.mem_singleton_self _))
  · exact hs

theorem send_consistent (hs : s.Consistent managerAtom) (type data1 : UInt32) :
    (s.step managerAtom (.send type data1)).1.Consistent managerAtom :=
  hs.disturbed (.of_queue managerAtom s (.clientMessage type data1)) hs.none_dead hs.current_alive
    hs.selected_alive

theorem destroy_consistent (hs : s.Consistent managerAtom) (window : XcbWindow) :
    (s.step managerAtom (.destroy window)).1.Consistent managerAtom := by
  unfold step
  dsimp only
  -- Of a selected window the watcher is told.
  have hqueue : s.queue ⊆ if window ∈ s.selected then s.queue ++ [Event.destroyNotify window] else s.queue := by
    split
    · exact List.subset_append_left _ _
    · exact List.Subset.refl _
  have hsent : s.Hears window →
      Event.destroyNotify window ∈
        if window ∈ s.selected then s.queue ++ [Event.destroyNotify window] else s.queue := by
    intro h
    cases h with
    | inl hin =>
        rw [if_pos hin]
        exact List.mem_append_right _ (List.mem_singleton_self _)
    | inr hin => exact hqueue hin
  refine hs.disturbed ⟨rfl, rfl, rfl, hqueue, ?_, fun h => h.imp_right fun h => hqueue h, ?_⟩
    (fun h => hs.none_dead (Finset.mem_of_mem_erase h)) ?_ (Finset.erase_subset_erase _ hs.selected_alive)
  · intro w hw
    by_cases heq : w = window
    · rw [heq] at hw ⊢
      exact .inr (hsent hw)
    · exact hw.imp (fun h => Finset.mem_erase_of_ne_of_mem heq h) fun h => hqueue h
  · by_cases heq : s.current = window
    · by_cases h0 : s.current = 0
      · exact .inl (by dsimp only; rw [if_pos heq, h0])
      · refine .inr (.inr ⟨if_pos heq, h0, ?_⟩)
        rw [heq]
        exact hsent
    · exact .inl (if_neg heq)
  · dsimp only
    split
    · intro h
      exact absurd rfl h
    · rename_i hne
      intro h0
      exact Finset.mem_erase_of_ne_of_mem hne (hs.current_alive h0)

-- An event that is not for the watcher changes nothing but the queue.
theorem asks_none {d : KSelectionWatcher} {event : Event} (h : d.asks managerAtom event = none) :
    event ≠ .clientMessage managerAtom d.selection ∧
      (d.selectionOwner ≠ 0 → event ≠ .destroyNotify d.selectionOwner) := by
  cases event with
  | clientMessage type data1 =>
      refine ⟨?_, fun _ => Event.noConfusion⟩
      intro heq
      injection heq with htype hdata
      rw [asks, htype, hdata, if_neg (by simp)] at h
      cases h
  | destroyNotify window =>
      refine ⟨Event.noConfusion, ?_⟩
      intro h0 heq
      injection heq with hwindow
      rw [asks, hwindow, if_neg (by simp [h0])] at h
      cases h

theorem asks_destroyed {d : KSelectionWatcher} {event : Event} (h : d.asks managerAtom event = some true) :
    d.selectionOwner ≠ 0 ∧ event = .destroyNotify d.selectionOwner := by
  cases event with
  | clientMessage type data1 =>
      rw [asks] at h
      split at h
      · cases h
      · injection h with h
        cases h
  | destroyNotify window =>
      rw [asks] at h
      split at h
      · cases h
      · rename_i hours
        rw [not_or, not_not] at hours
        exact ⟨hours.1, congrArg _ hours.2⟩

theorem asks_announced {d : KSelectionWatcher} {event : Event} (h : d.asks managerAtom event = some false) :
    event = .clientMessage managerAtom d.selection := by
  cases event with
  | clientMessage type data1 =>
      rw [asks] at h
      split at h
      · cases h
      · rename_i hours
        rw [not_or, not_not, not_not] at hours
        rw [hours.1, hours.2]
  | destroyNotify window =>
      rw [asks] at h
      split at h
      · cases h
      · injection h with h
        cases h

theorem Announced.tail {event : Event} {queue : List Event} (hq : s.queue = event :: queue)
    (hne : event ≠ .clientMessage managerAtom s.watcher.selection) (h : s.Announced managerAtom) :
    ({ s with queue } : Session).Announced managerAtom := by
  refine h.imp_right fun h => ?_
  rw [hq, List.mem_cons] at h
  exact h.resolve_left (fun heq => hne heq.symm)

theorem Hears.tail {event : Event} {queue : List Event} {w : XcbWindow} (hq : s.queue = event :: queue)
    (hne : event ≠ .destroyNotify w) (h : s.Hears w) : ({ s with queue } : Session).Hears w := by
  refine h.imp_right fun h => ?_
  rw [hq, List.mem_cons] at h
  exact h.resolve_left (fun heq => hne heq.symm)

theorem watch_idle (hs : s.Consistent managerAtom) (hp : s.phase = .idle) :
    (s.watch managerAtom).1.Consistent managerAtom := by
  have hr := hs.reached
  rw [hp] at hr
  unfold watch
  rw [hp]
  dsimp only
  split
  · exact hs
  · rename_i event queue hq
    split
    · rename_i hasks
      have hnot := asks_none hasks
      refine ⟨hs.none_dead, hs.current_alive, hs.selected_alive, ?_, ?_⟩
      · intro h0
        exact ⟨(hs.recorded h0).1, (hs.recorded h0).2.tail hq (hnot.2 h0)⟩
      · refine hr.imp_right (Or.imp (Announced.tail hq hnot.1) fun hlost => ⟨hlost.1, ?_⟩)
        have hmem := hlost.2
        rw [hq, List.mem_cons] at hmem
        exact hmem.resolve_left (fun heq => hnot.2 hlost.1 heq.symm)
    · rename_i destroyed hasks
      cases destroyed with
      | true =>
          refine ⟨hs.none_dead, hs.current_alive, hs.selected_alive, ?_, fun _ => rfl⟩
          intro h0
          exact absurd rfl h0
      | false =>
          refine ⟨hs.none_dead, hs.current_alive, hs.selected_alive, ?_, fun h => nomatch h⟩
          intro h0
          have hne : event ≠ .destroyNotify s.watcher.selectionOwner := by
            rw [asks_announced hasks]
            exact Event.noConfusion
          exact ⟨(hs.recorded h0).1, (hs.recorded h0).2.tail hq hne⟩

/-- The state after a call of `owner` that records and signals nothing. -/
theorem Consistent.returned (hs : s.Consistent managerAtom) {told : Option Signal}
    (htold : s.watcher.selectionOwner ≠ 0 → told = s.told)
    (h : ({ s with phase := .idle, told } : Session).Reached managerAtom .idle) :
    ({ s with phase := .idle, told } : Session).Consistent managerAtom where
  none_dead := hs.none_dead
  current_alive := hs.current_alive
  selected_alive := hs.selected_alive
  recorded := fun h0 => ⟨(htold h0).trans (hs.recorded h0).1, (hs.recorded h0).2⟩
  reached := h

theorem watch_query (hs : s.Consistent managerAtom) {destroyed : Bool} (hp : s.phase = .query destroyed)
    (hheard : s.Heard managerAtom .watch) : (s.watch managerAtom).1.Consistent managerAtom := by
  have hr := hs.reached
  rw [hp] at hr
  unfold watch
  rw [hp]
  dsimp only
  split
  · by_cases h0 : s.current = 0
    · -- There is no owner.
      rw [KSelectionWatcher.owner, if_pos h0]
      cases destroyed with
      | true =>
          refine hs.returned (fun hne => absurd (hr rfl) hne) (.inl ?_)
          rw [InTouch, if_pos h0]
          exact .inr rfl
      | false =>
          unfold Heard at hheard
          rw [hp] at hheard
          refine hs.returned (fun _ => rfl) ((hheard h0).imp_left fun hquiet => ?_)
          rw [InTouch, if_pos h0]
          exact hquiet
    · -- It is the recorded one.
      rename_i hsame
      have hsame := hsame.resolve_left h0
      rw [KSelectionWatcher.owner, if_neg h0, if_pos hsame]
      cases destroyed with
      | true => exact absurd (hsame.trans (hr rfl)) h0
      | false =>
          refine hs.returned (fun _ => rfl) (.inl ?_)
          rw [InTouch, if_neg h0]
          exact hsame.symm
  · rename_i hnew
    rw [not_or] at hnew
    exact ⟨hs.none_dead, hs.current_alive, hs.selected_alive, hs.recorded,
      hr, hnew.1, hnew.2, fun _ hne => absurd rfl hne⟩

theorem watch_select (hs : s.Consistent managerAtom) {destroyed : Bool} {c : XcbWindow}
    (hp : s.phase = .select destroyed c) : (s.watch managerAtom).1.Consistent managerAtom := by
  have hr := hs.reached
  rw [hp] at hr
  rcases hr with ⟨hdestroyed, h0, hne, hann⟩
  unfold watch
  rw [hp]
  dsimp only
  split
  · rename_i halive
    refine ⟨hs.none_dead, hs.current_alive, ?_, ?_, hdestroyed, h0, hne, ?_, ?_⟩
    · intro w hw
      rcases Finset.mem_insert.mp hw with heq | hw
      · rw [heq]
        exact halive
      · exact hs.selected_alive hw
    · intro hrec
      exact ⟨(hs.recorded hrec).1, (hs.recorded hrec).2.imp_left Finset.mem_insert_of_mem⟩
    · intro hcur hwhy
      exact hann hcur (hwhy.resolve_left Bool.noConfusion)
    · intro _
      exact .inl (Finset.mem_insert_self _ _)
  · rename_i hdead
    -- A window that is gone owns nothing.
    refine ⟨hs.none_dead, hs.current_alive, hs.selected_alive, hs.recorded, hdestroyed, h0, hne, ?_,
      fun h => nomatch h⟩
    intro hcur _
    apply hann hcur
    intro heq
    exact hdead (heq ▸ hs.current_alive hcur)

theorem watch_verify (hs : s.Consistent managerAtom) {destroyed : Bool} {c : XcbWindow} {err : Bool}
    (hp : s.phase = .verify destroyed c err) (hheard : s.Heard managerAtom .watch) :
    (s.watch managerAtom).1.Consistent managerAtom := by
  have hr := hs.reached
  rw [hp] at hr
  rcases hr with ⟨_, h0, hne, hann, hhears⟩
  unfold watch
  rw [hp]
  dsimp only
  rw [KSelectionWatcher.owner, if_neg h0, if_neg hne]
  by_cases hok : err = false ∧ c = s.current
  · rw [if_pos hok]
    have htold : (finish s destroyed (c, { s.watcher with selectionOwner := c }, [.newOwner c])).1.told =
        some (.newOwner c) := by
      simp [finish, KSelectionWatcher.returned, h0]
    refine ⟨hs.none_dead, hs.current_alive, hs.selected_alive, fun _ => ⟨htold, hhears hok.1⟩, .inl ?_⟩
    show if s.current = 0 then _ else c = s.current
    rw [if_neg (by rw [← hok.2]; exact h0)]
    exact hok.2
  · rw [if_neg hok]
    refine ⟨hs.none_dead, hs.current_alive, hs.selected_alive, fun hrec => absurd rfl hrec, ?_⟩
    have hwhy : err = true ∨ c ≠ s.current := by
      rw [not_and_or] at hok
      simpa using hok
    show (if s.current = 0 then Quiet _ else _) ∨ s.Announced managerAtom ∨ _
    by_cases hcur : s.current = 0
    · rw [if_pos hcur]
      cases destroyed with
      | true => exact .inl (.inr rfl)
      | false =>
          unfold Heard at hheard
          rw [hp] at hheard
          exact (hheard hwhy).imp_right .inl
    · exact .inr (.inl (hann hcur (hwhy.imp_right Ne.symm)))

theorem step_consistent (hs : s.Consistent managerAtom) {a : Act} (hheard : s.Heard managerAtom a) :
    (s.step managerAtom a).1.Consistent managerAtom := by
  cases a with
  | claim window => exact claim_consistent hs window
  | announce window => exact announce_consistent hs window
  | send type data1 => exact send_consistent hs type data1
  | destroy window => exact destroy_consistent hs window
  | callOwner =>
      unfold step
      dsimp only
      split
      · exact ⟨hs.none_dead, hs.current_alive, hs.selected_alive, hs.recorded, fun h => nomatch h⟩
      · exact hs
  | watch =>
      show (s.watch managerAtom).1.Consistent managerAtom
      cases hp : s.phase with
      | idle => exact watch_idle hs hp
      | query destroyed => exact watch_query hs hp hheard
      | select destroyed c => exact watch_select hs hp
      | verify destroyed c err => exact watch_verify hs hp hheard

theorem Consistent.agrees (hs : s.Consistent managerAtom) (h : s.Settled) : Agrees s.current s.told := by
  rcases h with ⟨hphase, hqueue, howed⟩
  have hr := hs.reached
  rw [hphase] at hr
  have htouch : s.InTouch := by
    rcases hr with htouch | hann | hlost
    · exact htouch
    · rw [Announced, howed, hqueue] at hann
      simp at hann
    · rw [Bereaved, hqueue] at hlost
      simp at hlost
  unfold InTouch at htouch
  unfold Agrees
  split
  · rename_i h0
    rw [if_pos h0] at htouch
    exact htouch
  · rename_i h0
    rw [if_neg h0] at htouch
    rw [← htouch] at h0 ⊢
    exact (hs.recorded h0).1

/-- The listeners believe in an owner that nobody will tell the watcher about. -/
structure Deaf (managerAtom : XcbAtom) (s : Session) : Prop where
  phase : s.phase = .idle
  current : s.current = 0
  told : ¬s.Quiet
  announced : ¬s.Announced managerAtom
  bereaved : ¬s.Bereaved

theorem deaf_of_unheard (hs : s.Consistent managerAtom) {a : Act} (h : ¬s.Heard managerAtom a) :
    a = .watch ∧ Deaf managerAtom (s.watch managerAtom).1 := by
  have hr := hs.reached
  unfold Heard at h
  split at h
  · rename_i hp
    rw [Classical.not_imp, not_or, not_or] at h
    rcases h with ⟨h0, hloud, hann, hlost⟩
    refine ⟨rfl, ?_⟩
    unfold watch
    rw [hp]
    dsimp only
    rw [if_pos (.inl h0), KSelectionWatcher.owner, if_pos h0]
    exact ⟨rfl, h0, hloud, hann, hlost⟩
  · rename_i c err hp
    rw [Classical.not_imp, not_or] at h
    rcases h with ⟨hwhy, hloud, hann⟩
    rw [hp] at hr
    rcases hr with ⟨_, h0, hne, hcome, _⟩
    refine ⟨rfl, ?_⟩
    unfold watch
    rw [hp]
    dsimp only
    have hfail : ¬(err = false ∧ c = s.current) := by
      rw [not_and_or]
      simpa using hwhy
    rw [KSelectionWatcher.owner, if_neg h0, if_neg hne, if_neg hfail]
    refine ⟨rfl, ?_, hloud, hann, fun hlost => hlost.1 rfl⟩
    show s.current = 0
    by_contra hcur
    exact hann (hcome hcur (hwhy.imp_right Ne.symm))
  · exact absurd trivial h

theorem Deaf.watch {event : Event} {queue : List Event} (h : Deaf managerAtom s) (hq : s.queue = event :: queue) :
    s.watch managerAtom = ({ s with queue }, []) ∧ Deaf managerAtom { s with queue } := by
  have hmem : event ∈ s.queue := by
    rw [hq]
    exact List.mem_cons_self
  have hasks : s.watcher.asks managerAtom event = none := by
    cases hasks : s.watcher.asks managerAtom event with
    | none => rfl
    | some destroyed =>
        cases destroyed with
        | true => exact absurd ⟨(asks_destroyed hasks).1, (asks_destroyed hasks).2 ▸ hmem⟩ h.bereaved
        | false => exact absurd (.inr (asks_announced hasks ▸ hmem)) h.announced
  constructor
  · unfold Session.watch
    rw [h.phase, hq]
    dsimp only
    rw [hasks]
  · refine ⟨h.phase, h.current, h.told, fun hann => h.announced ?_, fun hlost => h.bereaved ⟨hlost.1, ?_⟩⟩
    · exact hann.imp_right fun hin => by rw [hq]; exact List.mem_cons_of_mem _ hin
    · rw [hq]
      exact List.mem_cons_of_mem _ hlost.2

-- The rest of the queue does not help.
theorem Deaf.settles (h : Deaf managerAtom s) :
    ∃ k, let r := run (step managerAtom) s (List.replicate k .watch)
      r.1.Settled ∧ r.1.current = 0 ∧ ¬r.1.Quiet := by
  generalize hq : s.queue = queue
  induction queue generalizing s with
  | nil =>
      have howed : s.owed = [] := by
        by_contra hne
        exact h.announced (.inl hne)
      exact ⟨0, ⟨h.phase, hq, howed⟩, h.current, h.told⟩
  | cons event queue ih =>
      have hstep := h.watch hq
      rcases ih hstep.2 rfl with ⟨k, hk⟩
      refine ⟨k + 1, ?_⟩
      have hnext : s.step managerAtom .watch = ({ s with queue }, []) := hstep.1
      rw [List.replicate_succ, run_cons, hnext]
      exact hk

end Steps

/-! ## Runs -/

-- The last signal is the last one of the outputs.
theorem step_told (s : Session) (a : Act) :
    (s.step managerAtom a).1.told = (s.step managerAtom a).2.getLast?.or s.told := by
  cases a with
  | claim window => unfold step; dsimp only; split <;> rfl
  | announce window => unfold step; dsimp only; split <;> rfl
  | send type data1 => rfl
  | destroy window => rfl
  | callOwner => unfold step; dsimp only; split <;> rfl
  | watch =>
      show (s.watch managerAtom).1.told = (s.watch managerAtom).2.getLast?.or s.told
      unfold watch
      split
      · split
        · rfl
        · split <;> rfl
      · split <;> rfl
      · split <;> rfl
      · rfl

theorem run_told (s : Session) (acts : List Act) :
    (run (step managerAtom) s acts).1.told = (run (step managerAtom) s acts).2.getLast?.or s.told := by
  induction acts generalizing s with
  | nil => rfl
  | cons a acts ih =>
      rw [run_cons, List.getLast?_append, ih, step_told, Option.or_assoc]

theorem start_consistent (selection : XcbAtom) (current : XcbWindow) (others selected : Finset XcbWindow)
    (owed : List XcbWindow) (queue : List Event) :
    (start selection current others selected owed queue).Consistent managerAtom where
  none_dead := Finset.notMem_erase 0 _
  current_alive := fun h0 => Finset.mem_erase_of_ne_of_mem h0 (Finset.mem_insert_self _ _)
  selected_alive := Finset.inter_subset_right
  recorded := fun h0 => absurd rfl h0
  reached := fun h => nomatch h

-- A call of `owner` that nobody gets in the way of does what `filterEvent` does.
theorem watch_undisturbed (s : Session) {event : Event} {queue : List Event} (hphase : s.phase = .idle)
    (hqueue : s.queue = event :: queue) :
    let after := s.watcher.filterEvent managerAtom event s.current (s.current ∉ s.alive) s.current
    ∃ k, let r := run (step managerAtom) s (List.replicate k .watch)
      r.1.phase = .idle ∧ r.1.queue = queue ∧ r.1.watcher = after.1 ∧ r.2 = after.2 := by
  unfold filterEvent
  cases hasks : s.watcher.asks managerAtom event with
  | none =>
      have hpop : s.step managerAtom .watch = ({ s with queue }, []) := by
        show s.watch managerAtom = _
        unfold watch
        rw [hphase, hqueue]
        dsimp only
        rw [hasks]
      refine ⟨1, ?_⟩
      rw [List.replicate_one, run_cons, run_nil, hpop]
      exact ⟨hphase, rfl, rfl, rfl⟩
  | some destroyed =>
      let d := s.watcher.forget destroyed
      have hpop : s.step managerAtom .watch =
          ({ s with queue, watcher := d, phase := .query destroyed }, []) := by
        show s.watch managerAtom = _
        unfold watch
        rw [hphase, hqueue]
        dsimp only
        rw [hasks]
      by_cases hend : s.current = 0 ∨ s.current = d.selectionOwner
      · refine ⟨2, ?_⟩
        have hquery : step managerAtom { s with queue, watcher := d, phase := .query destroyed } .watch =
            finish { s with queue, watcher := d, phase := .query destroyed } destroyed
              (d.owner s.current false 0) :=
          if_pos hend
        have hsame : d.owner s.current false 0 = d.owner s.current (s.current ∉ s.alive) s.current := by
          unfold KSelectionWatcher.owner
          split
          · rfl
          · rename_i h0
            rw [if_pos (hend.resolve_left h0), if_pos (hend.resolve_left h0)]
        rw [List.replicate_succ, List.replicate_one, run_cons, hpop, run_cons, run_nil, hquery, hsame]
        exact ⟨rfl, rfl, rfl, List.append_nil _⟩
      · refine ⟨4, ?_⟩
        have hquery : step managerAtom { s with queue, watcher := d, phase := .query destroyed } .watch =
            ({ s with queue, watcher := d, phase := .select destroyed s.current }, []) := if_neg hend
        let selected := if s.current ∈ s.alive then insert s.current s.selected else s.selected
        have hselect :
            step managerAtom { s with queue, watcher := d, phase := .select destroyed s.current } .watch =
            ({ s with
              queue, watcher := d, selected
              phase := .verify destroyed s.current (s.current ∉ s.alive) }, []) := by
          rw [step]
          unfold watch
          dsimp only
          split
          · rename_i halive
            simp [selected, halive]
          · rename_i hdead
            simp [selected, hdead]
        rw [List.replicate_succ, List.replicate_succ, List.replicate_succ, List.replicate_one, run_cons, hpop,
          run_cons, hquery, run_cons, hselect, run_cons, run_nil]
        exact ⟨rfl, rfl, rfl, List.append_nil _⟩

/-- All along a run in which every loss of the owner is heard of the watcher agrees with the server
whenever things have settled.  After any other run there is a point from which the watcher, left alone,
settles on an owner that is gone. -/
theorem watcher_agrees (selection : XcbAtom) (current : XcbWindow) (others selected : Finset XcbWindow)
    (owed : List XcbWindow) (queue : List Event) (acts : List Act) :
    let s := start selection current others selected owed queue
    (Along (step managerAtom) (Heard managerAtom) s acts → ∀ n,
      let r := run (step managerAtom) s (acts.take n)
      r.1.Settled → Agrees r.1.current r.2.getLast?) ∧
    (¬Along (step managerAtom) (Heard managerAtom) s acts → ∃ n k,
      let r := run (step managerAtom) s (acts.take n ++ List.replicate k .watch)
      r.1.Settled ∧ ¬Agrees r.1.current r.2.getLast?) := by
  intro s
  have hs : s.Consistent managerAtom := start_consistent managerAtom selection current others selected owed queue
  have hkeeps : ∀ {acts : List Act}, Along (step managerAtom) (Heard managerAtom) s acts →
      (run (step managerAtom) s acts).1.Consistent managerAtom :=
    fun hok => run_invariant (Consistent managerAtom) (fun _ _ hs hok => step_consistent hs hok) hs hok
  have hlast : ∀ acts : List Act,
      (run (step managerAtom) s acts).2.getLast? = (run (step managerAtom) s acts).1.told := by
    intro acts
    rw [run_told]
    exact Option.or_none.symm
  constructor
  · intro hok n r hsettled
    rw [hlast]
    rw [← List.take_append_drop n acts, along_append] at hok
    exact (hkeeps hok.1).agrees hsettled
  · intro hnot
    rcases exists_first_of_not_along hnot with ⟨pre, a, post, heq, hpre, hfirst⟩
    rcases deaf_of_unheard (hkeeps hpre) hfirst with ⟨ha, hdeaf⟩
    rcases hdeaf.settles with ⟨k, hsettled, h0, hloud⟩
    refine ⟨(pre ++ [a]).length, k, ?_⟩
    have htake : acts.take (pre ++ [a]).length = pre ++ [a] := by
      rw [heq, List.append_cons pre a post, List.take_left]
    have hrun : (run (step managerAtom) s (acts.take (pre ++ [a]).length ++ List.replicate k .watch)).1 =
        (run (step managerAtom) ((run (step managerAtom) s pre).1.watch managerAtom).1
          (List.replicate k .watch)).1 := by
      rw [htake, ha, run_append, run_append]
      rfl
    dsimp only
    rw [hlast, hrun]
    refine ⟨hsettled, ?_⟩
    rw [Agrees, if_pos h0]
    exact hloud

-- 7 takes the selection from 5, and is destroyed while the watcher turns to it.
theorem lost_owner_unheard :
    let s := start 400 5 ∅ ∅ [5] []
    let r := run (step 300) s [.watch, .watch, .watch, .announce 5, .claim 7, .announce 7, .watch, .watch, .watch,
      .destroy 7, .watch, .watch, .watch, .destroy 5, .watch, .watch]
    r.1.Settled ∧ r.2 = [.newOwner 5] ∧ r.1.current = 0 ∧ ¬Agrees r.1.current r.2.getLast? := by
  decide

end Session

end KSelectionWatcher

end KWindowSystem
