import KWindowSystem.Startup.TrackerInvariant

/-!
# Startups apart from each other

A message names the startup that it is about, and a window its own.  What the tracker records of a startup and announces
of it does not depend on the messages about the others.  Only where the code searches, for a process or a window class,
do all startups count.
-/

open Machine Qt

namespace KWindowSystem

namespace Tracker

variable {cfg : TrackerConfig} {s t : Tracker} {id i : KStartupInfoId}

/-- What is recorded of one startup, and the timeout. -/
def view (id : KStartupInfoId) (s : Tracker) : UInt32 × Option Data × Option Data × Option Data :=
  (s.timeout, s.startups.find? id, s.silentStartups.find? id, s.uninitedStartups.find? id)

/-- The startup that a signal is about. -/
def about : Signal → KStartupInfoId
  | .gotNewStartup id _ => id
  | .gotStartupChange id _ => id
  | .gotRemoveStartup id _ => id

/-- The id in a message. -/
def messageId (msg : QString) : Option KStartupInfoId :=
  let msg := trimmed msg
  if startsWith msg "new:" then some (.ofText (msg.drop 4))
  else if startsWith msg "change:" then some (.ofText (msg.drop 7))
  else if startsWith msg "remove:" then some (.ofText (msg.drop 7))
  else none

/-- The events that matter to the startup `id`. -/
def concerns (id : KStartupInfoId) : TrackerEvent → Bool
  | .gotMessage msg => messageId msg = some id
  | .windowAdded _ => false
  | .checkStartup _ => false
  | .startupsCleanup => true
  | .startupsCleanupNoAge => true
  | .setTimeout _ => true

/-- The event does not make the tracker search: a removal without an id is by its process, and a window without one by
its process or its class. -/
def ById : TrackerEvent → Prop
  | .gotMessage msg => ∀ i, messageId msg = some i → i.isNull = true →
      startsWith (trimmed msg) "remove:" = true →
      (KStartupInfoData.ofText ((trimmed msg).drop 7)).pids.list = []
  | .windowAdded w => (windowStartupId w).isSome
  | .checkStartup w => (windowStartupId w).isSome
  | _ => True

/-- Only the records of `id` change, and only it is announced. -/
structure Touches (id : KStartupInfoId) (s : Tracker) (r : Tracker × List Signal) : Prop where
  others : ∀ i, i ≠ id → view i r.1 = view i s
  signals : ∀ o ∈ r.2, about o = id

/-- Two answers that agree on `id`. -/
def Agree (id : KStartupInfoId) (r r' : Tracker × List Signal) : Prop :=
  view id r.1 = view id r'.1 ∧ r.2 = r'.2

theorem view_eq_mk {timeout : UInt32} {a b c : Option Data} : view id s = (timeout, a, b, c) ↔
    s.timeout = timeout ∧ s.startups.find? id = a ∧ s.silentStartups.find? id = b ∧
      s.uninitedStartups.find? id = c := by
  unfold view
  rw [Prod.mk.injEq, Prod.mk.injEq, Prod.mk.injEq]

theorem view_eq_iff : view id s = view id t ↔ s.timeout = t.timeout ∧ s.startups.find? id = t.startups.find? id ∧
    s.silentStartups.find? id = t.silentStartups.find? id ∧
    s.uninitedStartups.find? id = t.uninitedStartups.find? id := view_eq_mk

/-! ## One operation -/

theorem Touches.refl (id : KStartupInfoId) (s : Tracker) : Touches id s (s, []) :=
  ⟨fun _ _ => rfl, List.forall_mem_nil _⟩

theorem newStartupInfoInternal_touches (cfg : TrackerConfig) (s : Tracker) (id : KStartupInfoId) (data : Data)
    (update : Bool) : Touches id s (newStartupInfoInternal cfg s id data update) := by
  have henters := newStartupInfoInternal_enters cfg s id data update
  generalize newStartupInfoInternal cfg s id data update = r at henters
  cases henters <;>
  · constructor
    · intro i hi
      simp [view, hi]
    · simp [about]

theorem newStartupInfoInternal_agree (h : view id s = view id t) (data : Data) (update : Bool) :
    Agree id (newStartupInfoInternal cfg s id data update) (newStartupInfoInternal cfg t id data update) := by
  obtain ⟨htimeout, hs, hss, hu⟩ := view_eq_iff.mp h
  unfold newStartupInfoInternal Agree
  rw [hs, hss, hu]
  split
  · exact ⟨h, rfl⟩
  · cases t.startups.find? id with
    | some old =>
        dsimp only
        split <;> simp [view, hss, hu, htimeout]
    | none =>
        cases t.silentStartups.find? id with
        | some old =>
            dsimp only
            split <;> simp [view, hs, hu, htimeout]
        | none =>
            cases t.uninitedStartups.find? id with
            | some old =>
                dsimp only
                split <;> simp [view, hs, hss, htimeout]
            | none =>
                dsimp only
                split
                · simp [view, hs, hss, htimeout]
                · split <;> simp [view, hs, hss, hu, htimeout]

theorem removeAllStartupInfoInternal_touches (s : Tracker) (id : KStartupInfoId) :
    Touches id s (removeAllStartupInfoInternal s id) := by
  unfold removeAllStartupInfoInternal
  split
  · constructor
    · intro i hi
      simp [view, hi]
    · simp [about]
  · split <;>
    · constructor
      · intro i hi
        simp [view, hi]
      · simp

theorem removeAllStartupInfoInternal_agree (h : view id s = view id t) :
    Agree id (removeAllStartupInfoInternal s id) (removeAllStartupInfoInternal t id) := by
  obtain ⟨htimeout, hs, hss, hu⟩ := view_eq_iff.mp h
  unfold removeAllStartupInfoInternal Agree SortedMap.contains
  rw [hs, hss]
  split
  · simp [view, hss, hu, htimeout]
  · split <;> simp [view, hs, hss, hu, htimeout]

theorem Touches.trans {s' : Tracker} {r : Tracker × List Signal} (h : Touches id s (s', [])) (h' : Touches id s' r) :
    Touches id s r :=
  ⟨fun i hi => (h'.others i hi).trans (h.others i hi), h'.signals⟩

-- A record that loses pids goes when none is left.
theorem touches_emptied {s' : Tracker} (h : ∀ i, i ≠ id → view i s' = view i s) (p : Prop) [Decidable p] :
    Touches id s (if p then removeAllStartupInfoInternal s' id else (s', [])) := by
  have hkeep : Touches id s (s', []) := ⟨h, List.forall_mem_nil _⟩
  split
  · exact hkeep.trans (removeAllStartupInfoInternal_touches s' id)
  · exact hkeep

theorem agree_emptied (h : view id s = view id t) (p : Prop) [Decidable p] :
    Agree id (if p then removeAllStartupInfoInternal s id else (s, []))
      (if p then removeAllStartupInfoInternal t id else (t, [])) := by
  split
  · exact removeAllStartupInfoInternal_agree h
  · exact ⟨h, rfl⟩

theorem removeStartupPids_touches (s : Tracker) (id : KStartupInfoId) (data : KStartupInfoData) :
    Touches id s (removeStartupPids s id data) := by
  unfold removeStartupPids
  split
  · exact touches_emptied (fun i hi => by simp [view, hi]) _
  · split
    · exact touches_emptied (fun i hi => by simp [view, hi]) _
    · split
      · exact touches_emptied (fun i hi => by simp [view, hi]) _
      · exact .refl id s

theorem removeStartupPids_agree (h : view id s = view id t) (data : KStartupInfoData) :
    Agree id (removeStartupPids s id data) (removeStartupPids t id data) := by
  obtain ⟨htimeout, hs, hss, hu⟩ := view_eq_iff.mp h
  unfold removeStartupPids
  rw [hs, hss, hu]
  cases t.startups.find? id with
  | some old => exact agree_emptied (view_eq_iff.mpr (by simp [hss, hu, htimeout])) _
  | none =>
      cases t.silentStartups.find? id with
      | some old => exact agree_emptied (view_eq_iff.mpr (by simp [hs, hu, htimeout])) _
      | none =>
          cases t.uninitedStartups.find? id with
          | some old => exact agree_emptied (view_eq_iff.mpr (by simp [hs, hss, htimeout])) _
          | none => exact ⟨h, rfl⟩

/-! ## One message -/

theorem gotStartupInfo_eq (cfg : TrackerConfig) (s : Tracker) (txt : QString) (update : Bool) :
    gotStartupInfo cfg s txt update =
      newStartupInfoInternal cfg s (.ofText txt) { toKStartupInfoData := .ofText txt } update := by
  unfold gotStartupInfo
  dsimp only
  split
  · rename_i hnull
    rw [newStartupInfoInternal, if_pos hnull]
  · rfl

-- What a message does to the startup that it names.
theorem gotMessage_cases {msg : QString} (hid : ById (.gotMessage msg)) :
    (messageId msg = none ∧ ∀ cfg s, gotMessage cfg s msg = (s, [])) ∨
    (∃ id data update, messageId msg = some id ∧
      ∀ cfg s, gotMessage cfg s msg = newStartupInfoInternal cfg s id data update) ∨
    (∃ id data, messageId msg = some id ∧ ∀ cfg s, gotMessage cfg s msg = removeStartupPids s id data) ∨
    ∃ id, messageId msg = some id ∧ ∀ cfg s, gotMessage cfg s msg = removeAllStartupInfoInternal s id := by
  unfold ById at hid
  unfold gotMessage messageId at *
  dsimp only at *
  split
  · exact .inr (.inl ⟨_, _, _, rfl, fun cfg s => gotStartupInfo_eq cfg s _ _⟩)
  · rename_i hnew
    rw [if_neg hnew] at hid
    split
    · exact .inr (.inl ⟨_, _, _, rfl, fun cfg s => gotStartupInfo_eq cfg s _ _⟩)
    · rename_i hchange
      rw [if_neg hchange] at hid
      split
      · rename_i hremove
        have hpids := hid _ (if_pos hremove)
        unfold gotRemoveStartupInfo
        dsimp only
        by_cases hnone : (KStartupInfoData.ofText ((trimmed msg).drop 7)).pids.list = []
        · exact .inr (.inr (.inr ⟨_, rfl, fun cfg s => if_neg (not_not.mpr hnone)⟩))
        · have hnull : ¬(KStartupInfoId.ofText ((trimmed msg).drop 7)).isNull = true := fun hnull =>
            hnone (hpids hnull hremove)
          exact .inr (.inr (.inl ⟨_, _, rfl, fun cfg s => by rw [if_pos hnone, if_neg hnull]⟩))
      · exact .inl ⟨rfl, fun cfg s => rfl⟩

/-! ## One event -/

-- A window that has a startup id does not change what is recorded.
theorem checkStartupInternal_byId {w : StartupWindow} (h : (windowStartupId w).isSome) (s : Tracker) :
    (checkStartupInternal s w).2 = (s, []) ∧ (checkStartupInternal s w).1 ≠ .cantDetect := by
  unfold checkStartupInternal
  obtain ⟨id, hid⟩ := Option.isSome_iff_exists.mp h
  rw [hid]
  dsimp only
  split
  · exact ⟨rfl, StartupMatch.noConfusion⟩
  · split
    · exact ⟨rfl, StartupMatch.noConfusion⟩
    · split <;> exact ⟨rfl, StartupMatch.noConfusion⟩

theorem windowAdded_byId {w : StartupWindow} (h : (windowStartupId w).isSome) (s : Tracker) :
    windowAdded cfg s w = (s, []) := by
  have hcheck := checkStartupInternal_byId h s
  unfold windowAdded
  split
  · rename_i heq
    rw [heq] at hcheck
    exact absurd rfl hcheck.2
  · rename_i heq
    rw [heq] at hcheck
    exact hcheck.1

/-- What is announced of one startup. -/
def announcements (id : KStartupInfoId) (out : List Signal) : List Signal := out.filter (about · = id)

theorem announcements_of_ne {out : List Signal} (h : ∀ o ∈ out, about o = i) (hne : i ≠ id) :
    announcements id out = [] :=
  List.filter_eq_nil_iff.mpr fun o ho => by simpa [h o ho] using hne

theorem Touches.unconcerned {r : Tracker × List Signal} (h : Touches i s r) (hne : i ≠ id) :
    view id r.1 = view id s ∧ announcements id r.2 = [] :=
  ⟨h.others id hne.symm, announcements_of_ne h.signals hne⟩

-- The other events leave the startup alone.
theorem step_unconcerned (cfg : TrackerConfig) (s : Tracker) (e : TrackerEvent) (hid : ById e) (he : concerns id e = false) :
    view id (step cfg s e).1 = view id s ∧ announcements id (step cfg s e).2 = [] := by
  cases e with
  | gotMessage msg =>
      have hne : ∀ i, messageId msg = some i → i ≠ id := fun i hi hii =>
        of_decide_eq_false he (hii ▸ hi)
      show view id (gotMessage cfg s msg).1 = _ ∧ announcements id (gotMessage cfg s msg).2 = []
      rcases gotMessage_cases hid with ⟨_, h⟩ | ⟨i, data, update, hi, h⟩ | ⟨i, data, hi, h⟩ | ⟨i, hi, h⟩
      · rw [h]
        exact ⟨rfl, rfl⟩
      · rw [h]
        exact (newStartupInfoInternal_touches cfg s i data update).unconcerned (hne i hi)
      · rw [h]
        exact (removeStartupPids_touches s i data).unconcerned (hne i hi)
      · rw [h]
        exact (removeAllStartupInfoInternal_touches s i).unconcerned (hne i hi)
  | windowAdded w =>
      have hstep : step cfg s (.windowAdded w) = (s, []) := by
        show (if cfg.disableKWinModule then (s, []) else windowAdded cfg s w) = _
        rw [windowAdded_byId hid, ite_self]
      rw [hstep]
      exact ⟨rfl, rfl⟩
  | checkStartup w =>
      show view id (checkStartupInternal s w).2.1 = _ ∧ announcements id (checkStartupInternal s w).2.2 = []
      rw [(checkStartupInternal_byId hid s).1]
      exact ⟨rfl, rfl⟩
  | startupsCleanup => cases he
  | startupsCleanupNoAge => cases he
  | setTimeout secs => cases he

theorem Agree.announcements {r r' : Tracker × List Signal} (h : Agree id r r') :
    view id r.1 = view id r'.1 ∧ Tracker.announcements id r.2 = Tracker.announcements id r'.2 :=
  ⟨h.1, congrArg _ h.2⟩

-- A sweep announces a startup exactly if it takes its record.
theorem announcements_swept (p : Data → Bool) (m : SortedMap KStartupInfoId Data) :
    announcements id ((m.entries.filter fun e => p e.2).map fun e =>
        .gotRemoveStartup e.1 e.2.toKStartupInfoData) =
      (((m.find? id).filter p).map fun d => .gotRemoveStartup id d.toKStartupInfoData).toList := by
  have hswap : ((m.entries.filter fun e => p e.2).filter fun e => e.1 = id) =
      ((m.find? id).toList.map (Prod.mk id)).filter fun e => p e.2 := by
    rw [List.filter_filter, ← SortedMap.filter_key, List.filter_filter]
    congr 1
    funext e
    exact Bool.and_comm _ _
  unfold announcements
  rw [List.filter_map]
  show List.map _ ((m.entries.filter fun e => p e.2).filter fun e => e.1 = id) = _
  rw [hswap]
  cases m.find? id with
  | none => rfl
  | some d => cases hd : p d <;> simp [hd, Option.filter_some]

theorem startupsCleanupInternal_agree (h : view id s = view id t) (age : Bool) :
    view id (startupsCleanupInternal cfg s age).1 = view id (startupsCleanupInternal cfg t age).1 ∧
      announcements id (startupsCleanupInternal cfg s age).2 =
        announcements id (startupsCleanupInternal cfg t age).2 := by
  obtain ⟨htimeout, hs, hss, hu⟩ := view_eq_iff.mp h
  have hexpired : expired cfg s = expired cfg t := by
    funext d
    unfold expired timeoutOf
    rw [htimeout]
  unfold startupsCleanupInternal
  constructor
  · simp [view, checkCleanup, hs, hss, hu, htimeout, hexpired]
  · dsimp only
    rw [announcements_swept fun d => expired cfg s (aged age d),
      announcements_swept fun d => expired cfg t (aged age d), hs, hexpired]

theorem startupsCleanup_eq_none (cfg : TrackerConfig) (s : Tracker) (h : s.startups.find? id = none ∧ s.silentStartups.find? id = none ∧
    s.uninitedStartups.find? id = none) (age : Bool) :
    view id (startupsCleanupInternal cfg s age).1 = view id s ∧
      announcements id (startupsCleanupInternal cfg s age).2 = [] := by
  unfold startupsCleanupInternal
  constructor
  · simp [view, checkCleanup, h]
  · dsimp only
    rw [announcements_swept fun d => expired cfg s (aged age d), h.1]
    rfl

-- For a startup, a tick is a sweep, also when there is nothing to sweep.
theorem startupsCleanup_internal (cfg : TrackerConfig) (s : Tracker) (id : KStartupInfoId) :
    view id (startupsCleanup cfg s).1 = view id (startupsCleanupInternal cfg s true).1 ∧
      announcements id (startupsCleanup cfg s).2 = announcements id (startupsCleanupInternal cfg s true).2 := by
  unfold startupsCleanup
  split
  · rename_i hempty
    have hnone := startupsCleanup_eq_none cfg s
      ⟨SortedMap.isEmpty_iff.mp hempty.1 id, SortedMap.isEmpty_iff.mp hempty.2.1 id,
        SortedMap.isEmpty_iff.mp hempty.2.2 id⟩ true
    rw [hnone.1, hnone.2]
    exact ⟨rfl, rfl⟩
  · exact ⟨rfl, rfl⟩

-- Trackers that agree on a startup answer what concerns it alike.
theorem step_agree {e : TrackerEvent} (hid : ById e) (he : concerns id e = true) (h : view id s = view id t) :
    view id (step cfg s e).1 = view id (step cfg t e).1 ∧
      announcements id (step cfg s e).2 = announcements id (step cfg t e).2 := by
  cases e with
  | gotMessage msg =>
      have hmsg : messageId msg = some id := of_decide_eq_true he
      show view id (gotMessage cfg s msg).1 = view id (gotMessage cfg t msg).1 ∧
        announcements id (gotMessage cfg s msg).2 = announcements id (gotMessage cfg t msg).2
      rcases gotMessage_cases hid with ⟨_, heq⟩ | ⟨i, data, update, hi, heq⟩ | ⟨i, data, hi, heq⟩ | ⟨i, hi, heq⟩
      · rw [heq, heq]
        exact ⟨h, rfl⟩
      · cases hmsg.symm.trans hi
        rw [heq, heq]
        exact (newStartupInfoInternal_agree h data update).announcements
      · cases hmsg.symm.trans hi
        rw [heq, heq]
        exact (removeStartupPids_agree h data).announcements
      · cases hmsg.symm.trans hi
        rw [heq, heq]
        exact (removeAllStartupInfoInternal_agree h).announcements
  | windowAdded w => cases he
  | checkStartup w => cases he
  | startupsCleanup =>
      have hs := startupsCleanup_internal cfg s id
      have ht := startupsCleanup_internal cfg t id
      show view id (startupsCleanup cfg s).1 = view id (startupsCleanup cfg t).1 ∧
        announcements id (startupsCleanup cfg s).2 = announcements id (startupsCleanup cfg t).2
      rw [hs.1, hs.2, ht.1, ht.2]
      exact startupsCleanupInternal_agree h true
  | startupsCleanupNoAge => exact startupsCleanupInternal_agree h false
  | setTimeout secs =>
      refine ⟨?_, rfl⟩
      have hview := view_eq_iff.mp h
      exact view_eq_iff.mpr ⟨rfl, hview.2⟩

-- The run lemma.
theorem run_concerns {es : List TrackerEvent} (hid : ∀ e ∈ es, ById e) (h : view id s = view id t) :
    view id (run (step cfg) s es).1 = view id (run (step cfg) t (es.filter (concerns id))).1 ∧
      announcements id (run (step cfg) s es).2 =
        announcements id (run (step cfg) t (es.filter (concerns id))).2 :=
  run_unwind (step cfg) (view id) (concerns id) (about · = id) ById
    (fun _ _ _ hid he h => step_agree hid he h) (fun s e hid he => step_unconcerned cfg s e hid he) hid h

/-- The tracker keeps and announces of each startup what it would if there were no messages about the others, in every
run without searches. -/
theorem startups_isolated (cfg : TrackerConfig) (es : List TrackerEvent) (h : ∀ e ∈ es, ById e)
    (id : KStartupInfoId) :
    view id (run (step cfg) {} es).1 = view id (run (step cfg) {} (es.filter (concerns id))).1 ∧
      announcements id (run (step cfg) {} es).2 =
        announcements id (run (step cfg) {} (es.filter (concerns id))).2 :=
  run_concerns h rfl

theorem byId_of_keyword {msg : QString} (h : startsWith (trimmed msg) "remove:" = false) :
    ById (.gotMessage msg) := fun _ _ _ hremove => absurd (h.symm.trans hremove) (by decide)

/-- Two startups and a tick. -/
def twoStartups : List TrackerEvent :=
  [.gotMessage "new: ID=a BIN=x".toList, .gotMessage "new: ID=b".toList, .startupsCleanup]

theorem startups_isolated_two :
    announcements ⟨toUtf8 "a".toList⟩ (run (step {}) {} twoStartups).2 =
      announcements ⟨toUtf8 "a".toList⟩
        (run (step {}) {} (twoStartups.filter (concerns ⟨toUtf8 "a".toList⟩))).2 :=
  (startups_isolated {} twoStartups (by
    unfold twoStartups
    rw [List.forall_mem_cons, List.forall_mem_cons, List.forall_mem_singleton]
    exact ⟨byId_of_keyword (by decide), byId_of_keyword (by decide), trivial⟩) _).2

end Tracker

end KWindowSystem
