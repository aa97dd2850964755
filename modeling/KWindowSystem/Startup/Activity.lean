import KWindowSystem.Startup.Expiry

/-!
# Expiry counted from the last activity

A record is removed by the tick that its timeout names, counted from the last message that entered its
startup.  `sinceActivity` counts these ticks beside the tracker; the ages of the records agree with it
except where a `new:` message promotes a record that has aged in `uninited_startups`, for the age is
not reset there.
-/

open Machine Qt

namespace KWindowSystem

/-- The timeout stays as it is. -/
def TrackerEvent.keepsTimeout (e : TrackerEvent) : Prop := ∀ secs, e ≠ .setTimeout secs

namespace Tracker

variable {cfg : TrackerConfig} {s : Tracker} {id : KStartupInfoId} {d : Data}

/-- The ticks since the last `new:` or `change:` message of each startup. -/
def sinceActivity (clock : KStartupInfoId → Nat) : TrackerEvent → KStartupInfoId → Nat
  | .gotMessage msg => match startupMessage msg with
    | some (txt, _) => fun id => if id = .ofText txt then 0 else clock id
    | none => clock
  | .startupsCleanup => fun id => clock id + 1
  | _ => clock

theorem sinceActivity_enter {clock : KStartupInfoId → Nat} {msg txt : QString} {update : Bool}
    (hmsg : startupMessage msg = some (txt, update)) :
    sinceActivity clock (.gotMessage msg) = fun id => if id = .ofText txt then 0 else clock id := by
  simp only [sinceActivity, hmsg]

theorem sinceActivity_forget {clock : KStartupInfoId → Nat} {msg : QString} (hmsg : startupMessage msg = none) :
    sinceActivity clock (.gotMessage msg) = clock := by
  simp only [sinceActivity, hmsg]

/-- The timeout of a record, without overflow. -/
def limit (timeout : UInt32) (d : Data) : Nat :=
  if d.silent = .yes then 20 * timeout.toNat else timeout.toNat

/-- The record is in `startups` or in `silent_startups`. -/
def Shown (s : Tracker) (id : KStartupInfoId) (d : Data) : Prop :=
  s.startups.find? id = some d ∨ s.silentStartups.find? id = some d

def Gone (s : Tracker) (id : KStartupInfoId) : Prop :=
  s.startups.find? id = none ∧ s.silentStartups.find? id = none

/-- Whatever number of ticks follows, a record is gone exactly if the ticks since its last activity have
reached the number that its timeout names, at least one. -/
def OnTime (cfg : TrackerConfig) (s : Tracker) (clock : KStartupInfoId → Nat) : Prop :=
  ∀ id d, Shown s id d → ∀ k, Gone (run (step cfg) s (List.replicate k .startupsCleanup)).1 id ↔
    max 1 (limit s.timeout d) ≤ clock id + k

/-- The record is in `uninited_startups`, has aged there, and with this data its timeout is more than one
tick. -/
def AgedUninited (timeout : UInt32) (s : Tracker) (id : KStartupInfoId) (data : KStartupInfoData) : Prop :=
  ∃ old, s.uninitedStartups.find? id = some old ∧ old.age ≠ 0 ∧ 1 < limit timeout (old.update data)

/-- A `new:` message promotes a record that has aged. -/
def PromotesAged (s : Tracker) : TrackerEvent → Prop
  | .gotMessage msg => ∃ txt, startupMessage msg = some (txt, false) ∧
      AgedUninited s.timeout s (.ofText txt) (.ofText txt)
  | _ => False

/-! ## Ticks -/

theorem toNat_timeoutOf (henv : cfg.timeoutEnv = none) (htimeout : 20 * s.timeout.toNat < 2 ^ 32) (d : Data) :
    (timeoutOf cfg s d).toNat = limit s.timeout d := by
  unfold timeoutOf limit
  rw [henv]
  dsimp only
  split
  · rw [UInt32.toNat_mul]
    show s.timeout.toNat * 20 % 2 ^ 32 = 20 * s.timeout.toNat
    omega
  · rfl

theorem expired_tick_iff (henv : cfg.timeoutEnv = none) (htimeout : 20 * s.timeout.toNat < 2 ^ 32)
    (hage : d.age.toNat + 1 < 2 ^ 32) :
    expired cfg s (aged true d) = true ↔ limit s.timeout d ≤ d.age.toNat + 1 := by
  have hnext : (d.age + 1).toNat = d.age.toNat + 1 := by
    rw [UInt32.toNat_add]
    exact Nat.mod_eq_of_lt hage
  unfold expired
  rw [decide_eq_true_iff, UInt32.le_iff_toNat_le, toNat_timeoutOf henv htimeout]
  show limit s.timeout d ≤ (d.age + 1).toNat ↔ _
  rw [hnext]

theorem Shown.age (h : Timed 0 s) (hd : Shown s id d) : d.age.toNat + 1 < 2 ^ 32 := by
  rcases hd with hd | hd
  · exact (h.startups id d hd).2
  · exact (h.silentStartups id d hd).2

-- A tick takes the record, or it ages it where it is.
theorem tick_shown (h : Inv cfg s) (hd : Shown s id d) :
    let s' := (step cfg s .startupsCleanup).1
    (expired cfg s (aged true d) = true → Gone s' id) ∧
      (expired cfg s (aged true d) = false → Shown s' id (aged true d)) := by
  have hsome : ¬NoStartups s := by
    rcases hd with hd | hd
    · exact not_noStartups_of_find (.inl hd)
    · exact not_noStartups_of_find (.inr (.inl hd))
  have hstep : step cfg s .startupsCleanup = startupsCleanupInternal cfg s true := if_neg hsome
  have hfind : ∀ m : SortedMap KStartupInfoId Data, (checkCleanup cfg s true m).find? id =
      (m.find? id).bind fun d => if expired cfg s (aged true d) then none else some (aged true d) :=
    fun m => SortedMap.find?_filterMapValues _ m id
  intro s'
  have hs : s'.startups.find? id = _ := (congrArg (fun r => r.1.startups.find? id) hstep).trans (hfind s.startups)
  have hss : s'.silentStartups.find? id = _ :=
    (congrArg (fun r => r.1.silentStartups.find? id) hstep).trans (hfind s.silentStartups)
  unfold Gone Shown
  rw [hs, hss]
  rcases hd with hd | hd
  · have hslot := (hd ▸ h id).of_startups
    rw [hd, hslot.2.1]
    constructor
    · intro hexpired
      simp [hexpired]
    · intro hfresh
      simp [hfresh]
  · have hslot := (hd ▸ h id).of_silent
    rw [hd, hslot.2.2.2.1]
    constructor
    · intro hexpired
      simp [hexpired]
    · intro hfresh
      simp [hfresh]

theorem tick_gone (h : Gone s id) : Gone (step cfg s .startupsCleanup).1 id := by
  have hthin : ∀ {grown : UInt32} {m m' : SortedMap KStartupInfoId Data}, Thins grown m m' → m.find? id = none →
      m'.find? id = none := by
    intro grown m m' hm hnone
    cases hd' : m'.find? id with
    | none => rfl
    | some d' =>
        rcases hm id d' hd' with ⟨d, hd, _⟩
        rw [hnone] at hd
        cases hd
  rcases quiet_cases cfg s (e := .startupsCleanup) rfl with hremoves | hstop | htick
  · cases hremoves.2
  · rw [hstop.2.2]
    exact h
  · rw [htick.2.2]
    have hremoves := startupsCleanupInternal_removes cfg s true
    exact ⟨hthin hremoves.startups h.1, hthin hremoves.silentStartups h.2⟩

theorem gone_ticks (h : Gone s id) (k : Nat) :
    Gone (run (step cfg) s (List.replicate k .startupsCleanup)).1 id := by
  induction k generalizing s with
  | zero => exact h
  | succ k ih => exact ih (tick_gone h)

theorem shown_not_gone (hd : Shown s id d) : ¬Gone s id := by
  intro hgone
  rcases hd with hd | hd
  · cases hgone.1.symm.trans hd
  · cases hgone.2.symm.trans hd

-- The age of a record tells how many ticks it has left.
theorem gone_ticks_iff (henv : cfg.timeoutEnv = none) (htimeout : 20 * s.timeout.toNat < 2 ^ 32)
    (h : Inv cfg s) (ht : Timed 0 s) (hd : Shown s id d) (k : Nat) :
    Gone (run (step cfg) s (List.replicate k .startupsCleanup)).1 id ↔
      1 ≤ k ∧ limit s.timeout d ≤ d.age.toNat + k := by
  induction k generalizing s d with
  | zero => exact iff_of_false (shown_not_gone hd) (fun h => absurd h.1 (by decide))
  | succ k ih =>
      have htick := tick_shown h hd
      have hage := hd.age ht
      have hexpired := expired_tick_iff henv htimeout hage
      have htime : (step cfg s .startupsCleanup).1.timeout = s.timeout := by
        rcases quiet_cases cfg s (e := .startupsCleanup) rfl with hremoves | hstop | hrun
        · cases hremoves.2
        · rw [hstop.2.2]
        · rw [hrun.2.2]
          rfl
      rw [List.replicate_succ, run_cons]
      dsimp only
      cases hold : expired cfg s (aged true d) with
      | true =>
          have hlimit := hexpired.mp hold
          refine iff_of_true (gone_ticks (htick.1 hold) k) ?_
          omega
      | false =>
          have hlimit := mt hexpired.mpr (by rw [hold]; decide)
          have hnext : (aged true d).age.toNat = d.age.toNat + 1 := by
            show (d.age + 1).toNat = _
            rw [UInt32.toNat_add]
            exact Nat.mod_eq_of_lt hage
          have hrest := ih (htime.symm ▸ htimeout) (step_follows h _).inv (step_timed ht _) (htick.2 hold)
          rw [hrest, htime, hnext]
          show 1 ≤ k ∧ limit s.timeout d ≤ _ ↔ _
          omega

/-! ## Records and their clocks -/

/-- The record has ticks left, and its age is what the clock says, unless its timeout is the next tick. -/
def Fresh (timeout : UInt32) (clock : Nat) (d : Data) : Prop :=
  clock < max 1 (limit timeout d) ∧ (limit timeout d ≤ 1 ∨ d.age.toNat = clock)

structure Clocked (cfg : TrackerConfig) (timeout : UInt32) (s : Tracker × (KStartupInfoId → Nat)) : Prop where
  inv : Inv cfg s.1
  timed : Timed 0 s.1
  fixed : s.1.timeout = timeout
  fresh : ∀ id d, Shown s.1 id d → Fresh timeout (s.2 id) d

theorem Fresh.iff_gone {timeout : UInt32} {clock : Nat} (h : Fresh timeout clock d) (k : Nat) :
    1 ≤ k ∧ limit timeout d ≤ d.age.toNat + k ↔ max 1 (limit timeout d) ≤ clock + k := by
  have hleft := h.1
  rcases h.2 with hshort | hage
  · omega
  · omega

theorem Clocked.onTime {timeout : UInt32} {s : Tracker × (KStartupInfoId → Nat)}
    (henv : cfg.timeoutEnv = none) (htimeout : 20 * timeout.toNat < 2 ^ 32) (h : Clocked cfg timeout s) :
    OnTime cfg s.1 s.2 := by
  intro id d hd k
  rw [gone_ticks_iff henv (h.fixed.symm ▸ htimeout) h.inv h.timed hd, h.fixed]
  exact (h.fresh id d hd).iff_gone k

-- A record that was entered just now.
theorem fresh_new {timeout : UInt32} (hage : d.age = 0) : Fresh timeout 0 d := by
  refine ⟨by omega, .inr ?_⟩
  rw [hage]
  rfl

theorem Fresh.congr {timeout : UInt32} {clock : Nat} {d' : Data} (h : Fresh timeout clock d)
    (hsilent : d'.silent = d.silent) (hage : d'.age = d.age) : Fresh timeout clock d' := by
  unfold Fresh limit at *
  rw [hsilent, hage]
  exact h

theorem Removes.fresh {r : Tracker × List Signal} (hr : Removes 0 s r) {timeout : UInt32}
    {clock : KStartupInfoId → Nat} (h : ∀ id d, Shown s id d → Fresh timeout (clock id) d) :
    ∀ id d, Shown r.1 id d → Fresh timeout (clock id) d := by
  intro id d' hd'
  rcases hd' with hd' | hd'
  · rcases hr.startups id d' hd' with ⟨d, hd, hsilent, hage⟩
    exact (h id d (.inl hd)).congr hsilent (hage.trans (UInt32.add_zero _))
  · rcases hr.silentStartups id d' hd' with ⟨d, hd, hsilent, hage⟩
    exact (h id d (.inr hd)).congr hsilent (hage.trans (UInt32.add_zero _))

theorem enters_fresh {timeout : UInt32} {clock : KStartupInfoId → Nat} (h : Inv cfg s)
    (hfresh : ∀ id d, Shown s id d → Fresh timeout (clock id) d) {data : KStartupInfoData} {update : Bool}
    {r : Tracker × List Signal} (henters : Enters cfg s id { toKStartupInfoData := data } update r)
    (hyoung : update = false → ¬AgedUninited timeout s id data) :
    ∀ j d, Shown r.1 j d → Fresh timeout (if j = id then 0 else clock j) d := by
  -- Only the record of the message is new.
  have hone : ∀ s' : Tracker, (∀ j, j ≠ id → s'.startups.find? j = s.startups.find? j ∧
      s'.silentStartups.find? j = s.silentStartups.find? j) → (∀ d, Shown s' id d → Fresh timeout 0 d) →
      ∀ j d, Shown s' j d → Fresh timeout (if j = id then 0 else clock j) d := by
    intro s' hframe hnew j d hd
    by_cases hj : j = id
    · rw [if_pos hj]
      exact hnew d (hj ▸ hd)
    · rw [if_neg hj]
      unfold Shown at hd
      rw [(hframe j hj).1, (hframe j hj).2] at hd
      exact hfresh j d hd
  have hold : ∀ {d new : Data} {m : SortedMap KStartupInfoId Data}, new.age = 0 → (m.insert id new).find? id = some d →
      Fresh timeout 0 d := by
    intro d new m hage hd
    rw [SortedMap.find?_insert, if_pos rfl] at hd
    cases hd
    exact fresh_new hage
  cases henters with
  | null hnull =>
      apply hone s
      · intro j hj
        exact ⟨rfl, rfl⟩
      · intro d hd
        have hslot : id.isNull = false := by
          rcases hd with hd | hd
          · exact (hd ▸ h id).of_startups.1
          · exact (hd ▸ h id).of_silent.1
        rw [hnull] at hslot
        cases hslot
  | silence hfind hnew =>
      apply hone
      · intro j hj
        exact ⟨by simp [hj], by simp [hj]⟩
      · intro d hd
        rcases hd with hd | hd
        · simp at hd
        · exact hold (congrArg Data.age hnew) hd
  | change hfind hnew =>
      have hslot := (hfind ▸ h id).of_startups
      apply hone
      · intro j hj
        exact ⟨by simp [hj], rfl⟩
      · intro d hd
        rcases hd with hd | hd
        · exact hold (congrArg Data.age hnew) hd
        · cases hslot.2.1.symm.trans hd
  | unsilence hfind hnew =>
      apply hone
      · intro j hj
        exact ⟨by simp [hj], by simp [hj]⟩
      · intro d hd
        rcases hd with hd | hd
        · exact hold (congrArg Data.age hnew) hd
        · simp at hd
  | keepSilent hnone hfind hnew =>
      apply hone
      · intro j hj
        exact ⟨rfl, by simp [hj]⟩
      · intro d hd
        rcases hd with hd | hd
        · cases hnone.symm.trans hd
        · exact hold (congrArg Data.age hnew) hd
  | @promote old new hfind hnew hupdate =>
      have hslot := (hfind ▸ h id).of_uninited
      apply hone
      · intro j hj
        exact ⟨by simp [hj], rfl⟩
      · intro d hd
        rcases hd with hd | hd
        · -- The age is the one the record had in `uninited_startups`.
          rw [SortedMap.find?_insert, if_pos rfl] at hd
          cases hd
          refine ⟨by omega, ?_⟩
          by_contra hnot
          rw [not_or, not_le] at hnot
          apply hyoung hupdate
          refine ⟨old, hfind, ?_, hnew ▸ hnot.1⟩
          intro hzero
          apply hnot.2
          rw [hnew]
          exact congrArg UInt32.toNat hzero
        · cases hslot.2.2.symm.trans hd
  | keepUninited hfind =>
      have hslot := (hfind ▸ h id).of_uninited
      apply hone
      · intro j hj
        exact ⟨rfl, rfl⟩
      · intro d hd
        rcases hd with hd | hd
        · cases hslot.2.1.symm.trans hd
        · cases hslot.2.2.symm.trans hd
  | uninited hnull hstartups hsilent =>
      apply hone
      · intro j hj
        exact ⟨rfl, rfl⟩
      · intro d hd
        rcases hd with hd | hd
        · cases hstartups.symm.trans hd
        · cases hsilent.symm.trans hd
  | announced hnull hstartups hsilent =>
      apply hone
      · intro j hj
        exact ⟨by simp [hj], rfl⟩
      · intro d hd
        rcases hd with hd | hd
        · exact hold rfl hd
        · cases hsilent.symm.trans hd
  | silenced hnull hstartups =>
      apply hone
      · intro j hj
        exact ⟨rfl, by simp [hj]⟩
      · intro d hd
        rcases hd with hd | hd
        · cases hstartups.symm.trans hd
        · exact hold rfl hd

theorem enters_timeout {data : Data} {update : Bool} {r : Tracker × List Signal}
    (h : Enters cfg s id data update r) : r.1.timeout = s.timeout := by
  cases h <;> rfl

-- What a tick leaves has one tick less.
theorem tick_fresh {timeout : UInt32} {clock : KStartupInfoId → Nat} (henv : cfg.timeoutEnv = none)
    (htimeout : 20 * timeout.toNat < 2 ^ 32) (h : Clocked cfg timeout (s, clock)) :
    ∀ id d', Shown (startupsCleanupInternal cfg s true).1 id d' → Fresh timeout (clock id + 1) d' := by
  have hmap : ∀ {m : SortedMap KStartupInfoId Data} {id d d'}, Within 0 m → m.find? id = some d →
      (checkCleanup cfg s true m).find? id = some d' → d'.silent = d.silent → d'.age = d.age + 1 →
      Fresh timeout (clock id) d → Fresh timeout (clock id + 1) d' := by
    intro m id d d' hm hd hd' hsilent hage hfresh
    have hwithin := checkCleanup_within hm hd'
    have hlimit : limit timeout d' = limit timeout d := by
      unfold limit
      rw [hsilent]
    have hnext : d'.age.toNat = d.age.toNat + 1 := by
      rw [hage, UInt32.toNat_add]
      exact Nat.mod_eq_of_lt (hm id d hd).2
    rw [toNat_timeoutOf henv (h.fixed.symm ▸ htimeout), h.fixed] at hwithin
    have hgone := hfresh.iff_gone 1
    have hleft := hfresh.2
    unfold Fresh
    omega
  have hremoves := startupsCleanupInternal_removes cfg s true
  intro id d' hd'
  rcases hd' with hd' | hd'
  · rcases hremoves.startups id d' hd' with ⟨d, hd, hsilent, hage⟩
    exact hmap h.timed.startups hd hd' hsilent hage (h.fresh id d (.inl hd))
  · rcases hremoves.silentStartups id d' hd' with ⟨d, hd, hsilent, hage⟩
    exact hmap h.timed.silentStartups hd hd' hsilent hage (h.fresh id d (.inr hd))

theorem step_clocked {timeout : UInt32} {clock : KStartupInfoId → Nat} {e : TrackerEvent}
    (henv : cfg.timeoutEnv = none) (htimeout : 20 * timeout.toNat < 2 ^ 32) (he : e.keepsTimeout)
    (h : Clocked cfg timeout (s, clock)) (hok : ¬PromotesAged s e) :
    Clocked cfg timeout (beside (step cfg) sinceActivity (s, clock) e).1 := by
  have hinv : Inv cfg (step cfg s e).1 := (step_follows h.inv e).inv
  have htimed : Timed 0 (step cfg s e).1 := step_timed h.timed e
  have hsteps := step_steps cfg s e
  suffices hrest : (step cfg s e).1.timeout = timeout ∧
      ∀ id d, Shown (step cfg s e).1 id d → Fresh timeout (sinceActivity clock e id) d from
    ⟨hinv, htimed, hrest.1, hrest.2⟩
  clear hinv htimed
  generalize step cfg s e = r at hsteps ⊢
  cases hsteps with
  | @enter msg txt update _ hmsg henters =>
      have hyoung : update = false → ¬AgedUninited timeout s (.ofText txt) (.ofText txt) := by
        rintro rfl haged
        exact hok ⟨txt, hmsg, h.fixed.symm ▸ haged⟩
      rw [sinceActivity_enter hmsg]
      exact ⟨(enters_timeout henters).trans h.fixed, enters_fresh h.inv h.fresh henters hyoung⟩
  | @forget msg _ hmsg hremoves =>
      rw [sinceActivity_forget hmsg]
      exact ⟨hremoves.timeout.trans h.fixed, hremoves.fresh h.fresh⟩
  | look hmsg htick hremoves =>
      have hclock : sinceActivity clock e = clock := by
        cases e with
        | gotMessage msg => exact absurd rfl (hmsg msg)
        | startupsCleanup => exact absurd rfl htick
        | _ => rfl
      rw [hclock]
      exact ⟨hremoves.timeout.trans h.fixed, hremoves.fresh h.fresh⟩
  | stop hempty =>
      refine ⟨h.fixed, fun id d hd => ?_⟩
      have hnone : ¬Shown s id d := by
        intro hd
        rcases hd with hd | hd
        · exact not_noStartups_of_find (.inl hd) hempty
        · exact not_noStartups_of_find (.inr (.inl hd)) hempty
      exact absurd hd hnone
  | tick => exact ⟨h.fixed, tick_fresh henv htimeout h⟩
  | retime secs => exact absurd rfl (he secs)

-- A promoted record keeps its age.
theorem promoted_shown (h : Inv cfg s) {msg txt : QString} (hmsg : startupMessage msg = some (txt, false))
    {old : Data} (hold : s.uninitedStartups.find? (.ofText txt) = some old) :
    Shown (step cfg s (.gotMessage msg)).1 (.ofText txt) (old.update (.ofText txt)) := by
  have hslot := (hold ▸ h (.ofText txt)).of_uninited
  have hsteps := step_steps cfg s (.gotMessage msg)
  generalize step cfg s (.gotMessage msg) = r at hsteps
  cases hsteps with
  | enter hmsg' henters =>
      cases hmsg.symm.trans hmsg'
      cases henters with
      | null hnull => cases hslot.1.symm.trans hnull
      | silence hfind => cases hslot.2.1.symm.trans hfind
      | change hfind => cases hslot.2.1.symm.trans hfind
      | unsilence hfind => cases hslot.2.2.symm.trans hfind
      | keepSilent _ hfind => cases hslot.2.2.symm.trans hfind
      | promote hfind hnew =>
          cases hold.symm.trans hfind
          left
          show SortedMap.find? (SortedMap.insert _ _ _) _ = _
          rw [SortedMap.find?_insert, if_pos rfl, hnew]
      | keepUninited _ _ hupdate => cases hupdate
      | uninited _ _ _ hnone => cases hold.symm.trans hnone
      | announced _ _ _ hnone => cases hold.symm.trans hnone
      | silenced _ _ _ hnone => cases hold.symm.trans hnone
  | forget hmsg' => cases hmsg.symm.trans hmsg'
  | look hnot => exact absurd rfl (hnot msg)

-- It is then gone before its time.
theorem promotesAged_late {timeout : UInt32} {clock : KStartupInfoId → Nat} {e : TrackerEvent}
    (henv : cfg.timeoutEnv = none) (htimeout : 20 * timeout.toNat < 2 ^ 32) (he : e.keepsTimeout)
    (h : Clocked cfg timeout (s, clock)) (hon : OnTime cfg (step cfg s e).1 (sinceActivity clock e)) :
    ¬PromotesAged s e := by
  intro hp
  cases e with
  | gotMessage msg =>
      rcases hp with ⟨txt, hmsg, old, hold, hage, hlimit⟩
      rw [h.fixed] at hlimit
      have hd := promoted_shown h.inv hmsg hold
      have hinv : Inv cfg (step cfg s (.gotMessage msg)).1 := (step_follows h.inv _).inv
      have htimed : Timed 0 (step cfg s (.gotMessage msg)).1 := step_timed h.timed _
      have hfixed : (step cfg s (.gotMessage msg)).1.timeout = timeout := by
        have hsteps := step_steps cfg s (.gotMessage msg)
        generalize step cfg s (.gotMessage msg) = r at hsteps
        cases hsteps with
        | enter _ henters => exact (enters_timeout henters).trans h.fixed
        | forget _ hremoves => exact hremoves.timeout.trans h.fixed
        | look _ _ hremoves => exact hremoves.timeout.trans h.fixed
      have hclock : sinceActivity clock (.gotMessage msg) (.ofText txt) = 0 := by
        rw [sinceActivity_enter hmsg]
        exact if_pos rfl
      have hcount := hon _ _ hd (limit timeout (old.update (.ofText txt)) - 1)
      rw [gone_ticks_iff henv (hfixed.symm ▸ htimeout) hinv htimed hd, hfixed, hclock] at hcount
      have hgrown : (old.update (.ofText txt)).age.toNat ≠ 0 := fun hzero => hage (UInt32.toNat_inj.mp hzero)
      omega
  | _ => exact hp

theorem clocked_init (cfg : TrackerConfig) (timeout : UInt32) :
    Clocked cfg timeout ({ timeout := timeout }, fun _ => 0) where
  inv := fun _ => .absent
  timed := ⟨fun hsome => absurd ⟨rfl, rfl, rfl⟩ hsome, timed_init.startups, timed_init.silentStartups,
    timed_init.uninitedStartups⟩
  fixed := rfl
  fresh := fun _ _ hd => hd.elim (fun hd => nomatch hd) (fun hd => nomatch hd)

/-- In every state of a run the records are to go at the tick that their timeout names, counted from the
last message for them, exactly if no message of the run promotes a record that has aged. -/
theorem onTime_iff (cfg : TrackerConfig) (timeout : UInt32) (htimeout : 20 * timeout.toNat < 2 ^ 32)
    (es : List TrackerEvent) (hes : ∀ e ∈ es, e.keepsTimeout) :
    let cfg := { cfg with timeoutEnv := none }
    (∀ n, OnTime cfg (run (step cfg) { timeout := timeout } (es.take n)).1
      ((es.take n).foldl sinceActivity fun _ => 0)) ↔
      Along (step cfg) (fun s e => ¬PromotesAged s e) { timeout := timeout } es := by
  intro cfg
  have hkeep : ∀ (s : Tracker × (KStartupInfoId → Nat)) e, e.keepsTimeout → Clocked cfg timeout s →
      ¬PromotesAged s.1 e → Clocked cfg timeout (beside (step cfg) sinceActivity s e).1 :=
    fun _ _ he hs hok => step_clocked rfl htimeout he hs hok
  have hguarded := always_iff_guarded_on TrackerEvent.keepsTimeout (Clocked cfg timeout)
    (fun s => OnTime cfg s.1 s.2) (fun s e => ¬PromotesAged s.1 e) (fun _ hs => hs.onTime rfl htimeout) hkeep
    (fun _ _ he hs hon => promotesAged_late rfl htimeout he hs hon) hes (clocked_init cfg timeout)
  rw [along_beside sinceActivity (fun s e => ¬PromotesAged s e)] at hguarded
  rw [← hguarded]
  apply forall_congr'
  intro n
  rw [run_beside]

-- A startup that is announced at once is there after the first tick, when its time has not come.
theorem onTime_announced :
    (run (step {}) { timeout := 2 } [.gotMessage "new: ID=a".toList, .startupsCleanup]).1.startups.contains
        ⟨[0x61]⟩ = true ∧
      OnTime {} (run (step {}) { timeout := 2 } [.gotMessage "new: ID=a".toList, .startupsCleanup]).1
        ([.gotMessage "new: ID=a".toList, .startupsCleanup].foldl sinceActivity fun _ => 0) := by
  refine ⟨by decide +kernel, ?_⟩
  apply (onTime_iff {} 2 (by decide) [.gotMessage "new: ID=a".toList, .startupsCleanup] (by
    simp [TrackerEvent.keepsTimeout])).mpr _ 2
  refine ⟨?_, fun h => h, trivial⟩
  rintro ⟨txt, _, old, hold, _⟩
  cases hold

-- A startup that had changed two ticks before it was announced is gone at the first tick, not at the third.
theorem aged_promoted :
    let es : List TrackerEvent := [.gotMessage "change: ID=a".toList, .startupsCleanup, .startupsCleanup,
      .gotMessage "new: ID=a".toList]
    (run (step {}) { timeout := 3 } es).1.startups.contains ⟨[0x61]⟩ = true ∧
      (run (step {}) { timeout := 3 } (es ++ [.startupsCleanup])).1.startups.contains ⟨[0x61]⟩ = false ∧
      es.foldl sinceActivity (fun _ => 0) ⟨[0x61]⟩ = 0 ∧ max 1 (limit 3 {}) = 3 := by
  decide +kernel

end Tracker

end KWindowSystem
