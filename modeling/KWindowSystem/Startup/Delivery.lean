import KWindowSystem.Lib.Channel
import KWindowSystem.Messages.Reassembly
import KWindowSystem.Startup.Sending

/-!
# From the senders to the tracker

A client broadcasts each message from a new window, `KXMessages` puts the fragments together and hands each text to
the tracker.  Whatever the order in which the fragments of several clients and the tracker's own events arrive, the
tracker does what it would do if the calls of the clients reached it whole.
-/

open Channel Machine Qt

namespace KWindowSystem

/-! ## Calls -/

/-- A call that broadcasts its message. -/
structure StartupBroadcast where
  screen : Int32
  call : StartupSend
  text : QString
  message : call.message screen = some text
  clean : call.Clean
  noNul : 0 ∉ toUtf8 text

namespace Tracker

variable (cfg : TrackerConfig) (s : Tracker)

/-- What `KXMessages` hands on, and the events of the tracker's own. -/
def hear : (WId × QString) ⊕ TrackerEvent → Tracker × List Signal
  | .inl o => s.gotMessage cfg o.2
  | .inr e => s.step cfg e

/-- Calls that reach the tracker whole. -/
def answer : StartupBroadcast ⊕ TrackerEvent → Tracker × List Signal
  | .inl b => s.receive cfg b.screen b.call
  | .inr e => s.step cfg e

end Tracker

/-- A stream of calls, each with its client and its window. -/
abbrev CallStream (ι : Type*) := List (ι × WId × StartupBroadcast ⊕ TrackerEvent)

namespace CallStream

variable {ι : Type*}

/-- The calls as `KXMessages` emits them. -/
def emitted (order : CallStream ι) : List ((WId × QString) ⊕ TrackerEvent) :=
  order.map (Sum.map (fun o => (o.2.1, o.2.2.text)) id)

/-- The calls as the tracker is to see them. -/
def calls (order : CallStream ι) : List (StartupBroadcast ⊕ TrackerEvent) :=
  order.map (Sum.map (fun o => o.2.2) id)

-- The tracker cannot tell a message from the call it was made for.
theorem run_hear (cfg : TrackerConfig) (s : Tracker) (order : CallStream ι) :
    run (Tracker.hear cfg) s order.emitted = run (Tracker.answer cfg) s order.calls := by
  unfold emitted calls
  rw [run_map, run_map]
  congr 1
  funext s o
  cases o with
  | inl o => exact Tracker.gotMessage_message cfg s o.2.2.screen o.2.2.clean o.2.2.message
  | inr e => rfl

end CallStream

variable {ι : Type*} {a : MessageAtoms}

/-! ## The tracker behind its `KXMessages` -/

def startupListener (a : MessageAtoms) (cfg : TrackerConfig) :
    SortedMap WId QByteArray × Tracker → ClientMessage ⊕ TrackerEvent →
      (SortedMap WId QByteArray × Tracker) × List Signal :=
  pipe (passing (nativeEventFilter a)) (Tracker.hear cfg)

theorem rights_emitted (order : CallStream ι) :
    order.emitted.filterMap Sum.getRight? = order.filterMap Sum.getRight? := by
  unfold CallStream.emitted
  rw [List.filterMap_map]
  congr 1
  funext o
  cases o <;> rfl

/-- The tracker behind the listener, and what it has announced. -/
def startupOutcome (a : MessageAtoms) (cfg : TrackerConfig) (stream : List (ClientMessage ⊕ TrackerEvent)) :
    Tracker × List Signal :=
  let r := run (startupListener a cfg) (.empty, {}) stream
  (r.1.2, r.2)

-- The listener, as far as it has come, on the calls.
theorem startupOutcome_eq (cfg : TrackerConfig) {order : CallStream ι}
    {stream : List (ClientMessage ⊕ TrackerEvent)}
    (horder : order.emitted = (run (passing (nativeEventFilter a)) .empty stream).2) :
    startupOutcome a cfg stream = run (Tracker.answer cfg) {} order.calls ∧
      order.filterMap Sum.getRight? = stream.filterMap Sum.getRight? := by
  unfold startupOutcome startupListener
  rw [run_pipe, ← CallStream.run_hear, ← rights_emitted, horder]
  exact ⟨rfl, (run_passing (nativeEventFilter a) .empty stream).2.2⟩

-- What has been emitted at a time is the image of a first part of the calls.
theorem exists_take {order : CallStream ι} {stream : List (ClientMessage ⊕ TrackerEvent)}
    (horder : order.emitted = (run (passing (nativeEventFilter a)) .empty stream).2) (n : Nat) :
    ∃ k, CallStream.emitted (order.take k) =
      (run (passing (nativeEventFilter a)) .empty (stream.take n)).2 := by
  have hfirst : (run (passing (nativeEventFilter a)) .empty (stream.take n)).2 <+: order.emitted := by
    rw [horder]
    conv_rhs => rw [← List.take_append_drop n stream, run_append]
    exact List.prefix_append _ _
  refine ⟨(run (passing (nativeEventFilter a)) .empty (stream.take n)).2.length, ?_⟩
  rw [CallStream.emitted, List.map_take]
  exact (List.prefix_iff_eq_take.mp hfirst).symm

variable [DecidableEq ι] {owner : WId → ι}

/-! ## The messages of one client -/

/-- A client sends the texts one after the other, each from the window that is given with it. -/
def Broadcasts (a : MessageAtoms) : List (WId × QString) → List ClientMessage → Prop
  | [], es => es = []
  | m :: ms, es => ∃ now later, SendsAll a m.1 [m.2] now ∧ Broadcasts a ms later ∧ es = now ++ later

/-- The receiver's part for the windows of one client. -/
def gatherOwned (a : MessageAtoms) (incoming : WId → Option QByteArray) (e : ClientMessage) :
    (WId → Option QByteArray) × List (WId × QString) :=
  (Function.update incoming e.window (gatherStep a (incoming e.window) e).1,
    (gatherStep a (incoming e.window) e).2.map (Prod.mk e.window))

/-- What is gathered for the windows of the client `c`. -/
def ownedBy (owner : WId → ι) (c : ι) (m : SortedMap WId QByteArray) (w : WId) : Option QByteArray :=
  if owner w = c then m.find? w else none

/-- What is emitted for them. -/
def emittedBy (owner : WId → ι) (c : ι) (out : List (WId × QString)) : List (WId × QString) :=
  out.filterMap fun o => if owner o.1 = c then some o else none

-- One step of the filter is one step for the window of the event.
theorem nativeEventFilter_eq (m : SortedMap WId QByteArray) (e : ClientMessage) (w : WId) :
    (nativeEventFilter a m e).1.find? w =
        (if w = e.window then (gatherStep a (m.find? e.window) e).1 else m.find? w) ∧
      (nativeEventFilter a m e).2 = (gatherStep a (m.find? e.window) e).2.map (Prod.mk e.window) := by
  unfold nativeEventFilter gatherStep
  split
  · cases e.gather a (m.find? e.window) with
    | none =>
        refine ⟨?_, rfl⟩
        split <;> simp_all
    | some bytes =>
        dsimp only
        split <;> constructor <;> simp
        split <;> rfl
  · refine ⟨?_, rfl⟩
    split <;> simp_all

theorem run_gatherOwned (owner : WId → ι) (a : MessageAtoms) (c : ι) (m : SortedMap WId QByteArray) (es : List ClientMessage) :
    ownedBy owner c (run (nativeEventFilter a) m es).1 =
        (run (gatherOwned a) (ownedBy owner c m) (es.filter fun e => owner e.window = c)).1 ∧
      emittedBy owner c (run (nativeEventFilter a) m es).2 =
        (run (gatherOwned a) (ownedBy owner c m) (es.filter fun e => owner e.window = c)).2 := by
  apply run_project (nativeEventFilter a) (gatherOwned a) (ownedBy owner c)
    (fun e => decide (owner e.window = c)) (fun o : WId × QString => if owner o.1 = c then some o else none)
  · intro m e he
    have hc : owner e.window = c := of_decide_eq_true he
    have hm : ownedBy owner c m e.window = m.find? e.window := if_pos hc
    constructor
    · funext w
      rw [ownedBy, (nativeEventFilter_eq m e w).1, gatherOwned, hm]
      dsimp only
      rw [Function.update_apply]
      by_cases hw : w = e.window
      · rw [if_pos hw, if_pos hw, hw, if_pos hc]
      · rw [if_neg hw, if_neg hw]
        rfl
    · rw [(nativeEventFilter_eq m e e.window).2, gatherOwned, hm, List.filterMap_map, ← List.filterMap_eq_map]
      exact List.filterMap_congr fun _ _ => if_pos hc
  · intro m e he
    have hc : ¬owner e.window = c := of_decide_eq_false he
    constructor
    · funext w
      rw [ownedBy, (nativeEventFilter_eq m e w).1]
      by_cases hw : w = e.window
      · rw [hw, if_neg hc, ownedBy, if_neg hc]
      · rw [if_neg hw]
        rfl
    · rw [(nativeEventFilter_eq m e e.window).2, List.filterMap_map]
      exact List.filterMap_eq_nil_iff.mpr fun _ _ => if_neg hc

-- The fragments of one message, when nothing of it has been heard before.
theorem run_gatherOwned_window {w : WId} (incoming : WId → Option QByteArray) {es : List ClientMessage}
    (h : ∀ e ∈ es, e.window = w) :
    run (gatherOwned a) incoming es =
      (Function.update incoming w (run (gatherStep a) (incoming w) es).1,
        (run (gatherStep a) (incoming w) es).2.map (Prod.mk w)) := by
  induction es generalizing incoming with
  | nil => rw [run_nil, run_nil, Function.update_eq_self, List.map_nil]
  | cons e es ih =>
      rw [List.forall_mem_cons] at h
      rw [run_cons, ih _ h.2, run_cons, gatherOwned, h.1]
      dsimp only
      rw [Function.update_self, Function.update_idem, List.map_append]

-- All that one client sent, heard from the start.
theorem broadcasts_gathered {ms : List (WId × QString)} {es : List ClientMessage}
    (hms : ∀ m ∈ ms, 0 ∉ toUtf8 m.2 ∧ m.2.head? ≠ some byteOrderMark) (h : Broadcasts a ms es) :
    run (gatherOwned a) (fun _ => none) es = (fun _ => none, ms) := by
  induction ms generalizing es with
  | nil =>
      rw [show es = [] from h]
      rfl
  | cons m ms ih =>
      obtain ⟨now, later, hnow, hlater, rfl⟩ := h
      rw [List.forall_mem_cons] at hms
      have hfit : ∀ t ∈ [m.2], (toUtf8 t).length < 2 ^ 32 ∧ 0 ∉ toUtf8 t := by
        intro t ht
        have hlength := length_of_sendsAll hnow t ht
        rw [List.mem_singleton] at ht
        exact ⟨by omega, ht ▸ hms.1.1⟩
      have hfirst : run (gatherOwned a) (fun _ => none) now = (fun _ => none, [m]) := by
        rw [run_gatherOwned_window _ (window_of_sendsAll hnow), sendsAll_gathered hfit hnow, List.map_singleton,
          fromUtf8_toUtf8.mpr hms.1.2]
        exact Prod.ext (Function.update_eq_self m.1 _) rfl
      rw [run_append, hfirst, ih hms.2 hlater]
      rfl

/-! ## The messages of all clients -/

/-- The fragments of each client arrive in the order in which it sends them. -/
def Arrives (owner : WId → ι) (a : MessageAtoms) (sends : ι → List (WId × StartupBroadcast))
    (stream : List (ClientMessage ⊕ TrackerEvent)) : Prop :=
  ∀ c, Broadcasts a ((sends c).map (Prod.map id StartupBroadcast.text))
    ((stream.filterMap Sum.getLeft?).filter fun e => owner e.window = c)

theorem heardFrom_emitted (c : ι) (out : List ((WId × QString) ⊕ TrackerEvent)) :
    heardFrom c (out.map (Sum.map (fun o => (owner o.1, o)) id)) =
      emittedBy owner c (out.filterMap Sum.getLeft?) := by
  unfold heardFrom emittedBy
  rw [List.filterMap_map, List.filterMap_filterMap]
  congr 1
  funext o
  cases o <;> rfl

-- What `KXMessages` makes of the fragments: nothing stays behind, and each client is heard in its own order.
theorem exists_order {sends : ι → List (WId × StartupBroadcast)} {stream : List (ClientMessage ⊕ TrackerEvent)}
    (h : Arrives owner a sends stream) :
    (∀ w, (run (passing (nativeEventFilter a)) .empty stream).1.find? w = none) ∧
      ∃ order : CallStream ι, order.emitted = (run (passing (nativeEventFilter a)) .empty stream).2 ∧
        (∀ c, heardFrom c order = sends c) ∧ ∀ c m, .inl (c, m) ∈ order → owner m.1 = c := by
  have hpassing := run_passing (κ := TrackerEvent) (nativeEventFilter a) .empty stream
  have hgather : ∀ c, ownedBy owner c (run (passing (nativeEventFilter a)) .empty stream).1 = (fun _ => none) ∧
      emittedBy owner c ((run (passing (nativeEventFilter a)) .empty stream).2.filterMap Sum.getLeft?) =
        (sends c).map (Prod.map id StartupBroadcast.text) := by
    intro c
    have hall := run_gatherOwned owner a c .empty (stream.filterMap Sum.getLeft?)
    have hempty : ownedBy owner c .empty = fun _ => none := by
      funext w
      exact ite_self none
    have htexts : ∀ m ∈ (sends c).map (Prod.map id StartupBroadcast.text),
        0 ∉ toUtf8 m.2 ∧ m.2.head? ≠ some byteOrderMark := by
      intro m hm
      obtain ⟨b, _, rfl⟩ := List.mem_map.mp hm
      exact ⟨b.2.noNul, StartupSend.head_of_message b.2.message⟩
    rw [hempty, broadcasts_gathered htexts (h c)] at hall
    rw [hpassing.1, hpassing.2.1]
    exact hall
  constructor
  · intro w
    have howned := congrFun (hgather (owner w)).1 w
    rwa [ownedBy, if_pos rfl] at howned
  · obtain ⟨order, horder, hsends⟩ := exists_preimage (Prod.map id StartupBroadcast.text)
      fun c => (heardFrom_emitted c (run (passing (nativeEventFilter a)) .empty stream).2).trans (hgather c).2
    refine ⟨order, ?_, hsends, ?_⟩
    rotate_left
    · intro c m hm
      have himage := horder ▸ List.mem_map_of_mem (f := Sum.map (Prod.map id (Prod.map id StartupBroadcast.text)) id) hm
      obtain ⟨o, _, ho⟩ := List.mem_map.mp himage
      cases o with
      | inr e => cases ho
      | inl o =>
          obtain ⟨howner, hwindow⟩ := Prod.mk.inj (Sum.inl.inj ho)
          rw [hwindow] at howner
          exact howner
    -- The tags are dropped again.
    have hdrop := congrArg (List.map (Sum.map Prod.snd id)) horder
    rw [List.map_map, List.map_map] at hdrop
    refine Eq.trans ?_ (hdrop.trans ?_)
    · unfold CallStream.emitted
      congr 1
      funext o
      cases o <;> rfl
    · conv_rhs => rw [← List.map_id (run (passing (nativeEventFilter a)) .empty stream).2]
      congr 1
      funext o
      cases o <;> rfl

/-- The calls in an order that keeps each client's, among the tracker's own events as they came.  At any time the
tracker is where some of the calls, the first ones, would have brought it, and in the end all of them. -/
structure Delivered (a : MessageAtoms) (cfg : TrackerConfig) (sends : ι → List (WId × StartupBroadcast))
    (stream : List (ClientMessage ⊕ TrackerEvent)) (order : CallStream ι) : Prop where
  calls : ∀ c, heardFrom c order = sends c
  events : order.filterMap Sum.getRight? = stream.filterMap Sum.getRight?
  now : ∀ n, ∃ k, startupOutcome a cfg (stream.take n) =
      run (Tracker.answer cfg) {} (CallStream.calls (order.take k)) ∧
    (order.take k).filterMap Sum.getRight? = (stream.take n).filterMap Sum.getRight?
  done : startupOutcome a cfg stream = run (Tracker.answer cfg) {} order.calls
  idle : ∀ w, (run (startupListener a cfg) (.empty, {}) stream).1.1.find? w = none

/-- For any clients, however their fragments arrive among the tracker's own events, the tracker does what it would do
if the calls reached it whole. -/
theorem startups_delivered (owner : WId → ι) (a : MessageAtoms) (cfg : TrackerConfig)
    (sends : ι → List (WId × StartupBroadcast)) (stream : List (ClientMessage ⊕ TrackerEvent))
    (h : Arrives owner a sends stream) : ∃ order : CallStream ι, Delivered a cfg sends stream order := by
  obtain ⟨hnothing, order, horder, hsends, -⟩ := exists_order h
  have hrun := startupOutcome_eq cfg horder
  refine ⟨order, hsends, hrun.2, fun n => ?_, hrun.1, fun w => ?_⟩
  · obtain ⟨k, hk⟩ := exists_take horder n
    exact ⟨k, startupOutcome_eq cfg hk⟩
  · unfold startupListener
    rw [run_pipe]
    exact hnothing w

/-- The end of a startup, short enough for one fragment. -/
def finishBroadcast : StartupBroadcast where
  screen := 0
  call := .finish ⟨toUtf8 "a".toList⟩
  text := "remove:  ID=\"a\" ".toList
  message := rfl
  clean := ⟨⟨by decide, by decide⟩, by decide⟩
  noNul := by decide

theorem startups_delivered_finish :
    ∃ order : CallStream WId, Delivered ⟨1, 2, by decide⟩ {}
      (fun c => if c = 7 then [(7, finishBroadcast)] else [])
      [.inr .startupsCleanup,
        .inl { window := 7, type := 1, data8 := fragmentData (toUtf8 finishBroadcast.text) 0 }] order :=
  startups_delivered id _ _ _ _ fun c => by
    by_cases hc : c = 7
    · subst hc
      exact ⟨_, [], ⟨1, _, [], rfl, rfl, (List.append_nil _).symm⟩, rfl, rfl⟩
    · rw [if_neg hc]
      exact List.filter_eq_nil_iff.mpr fun e he => by
        rw [List.mem_singleton.mp he]
        simpa using Ne.symm hc

end KWindowSystem
