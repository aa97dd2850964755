import KWindowSystem.Startup.Announcements

/-!
# Expiry of startups

The cleanup timer runs as long as there is a record, and no record outlives its timeout: ages count the
ticks, and none wraps around, for a record of the largest age is expired whatever the timeout is.  A
silenced startup has twenty times the timeout, in arithmetic that does wrap around.
-/

open Machine Qt

namespace KWindowSystem

/-- Neither a message nor a change of the timeout. -/
def TrackerEvent.quiet : TrackerEvent → Bool
  | .gotMessage _ => false
  | .setTimeout _ => false
  | _ => true

def TrackerEvent.isTick : TrackerEvent → Bool
  | .startupsCleanup => true
  | _ => false

namespace Tracker

variable {cfg : TrackerConfig} {s : Tracker} {id : KStartupInfoId} {low : Nat}

/-- The ages of the records of a map are at least `low`, and can grow. -/
def Within (low : Nat) (m : SortedMap KStartupInfoId Data) : Prop :=
  ∀ id d, m.find? id = some d → low ≤ d.age.toNat ∧ d.age.toNat + 1 < 2 ^ 32

/-- The timer is there for every record, and every record has seen `low` ticks. -/
structure Timed (low : Nat) (s : Tracker) : Prop where
  active : ¬NoStartups s → s.cleanupActive = true
  startups : Within low s.startups
  silentStartups : Within low s.silentStartups
  uninitedStartups : Within low s.uninitedStartups

theorem Within.mono {low' : Nat} {m : SortedMap KStartupInfoId Data} (h : Within low m) (hle : low' ≤ low) :
    Within low' m := fun id d hd => ⟨hle.trans (h id d hd).1, (h id d hd).2⟩

theorem Within.insert {m : SortedMap KStartupInfoId Data} (h : Within low m) {d : Data}
    (hlow : low ≤ d.age.toNat) (hgrow : d.age.toNat + 1 < 2 ^ 32) (id : KStartupInfoId) :
    Within low (m.insert id d) := by
  intro j d' hj
  rw [SortedMap.find?_insert] at hj
  split at hj
  · cases hj
    exact ⟨hlow, hgrow⟩
  · exact h j d' hj

theorem Within.thins {m m' : SortedMap KStartupInfoId Data} (h : Within low m) (hthins : Thins 0 m m') :
    Within low m' := by
  intro id d' hd'
  rcases hthins id d' hd' with ⟨d, hd, _, hage⟩
  rw [hage, UInt32.add_zero]
  exact h id d hd

theorem not_noStartups_of_find {d : Data}
    (h : s.startups.find? id = some d ∨ s.silentStartups.find? id = some d ∨
      s.uninitedStartups.find? id = some d) : ¬NoStartups s := by
  intro hno
  have hnone : ∀ {m : SortedMap KStartupInfoId Data}, m.isEmpty = true → m.find? id ≠ some d := by
    intro m hm hd
    rw [SortedMap.isEmpty_iff.mp hm id] at hd
    cases hd
  rcases h with h | h | h
  · exact hnone hno.1 h
  · exact hnone hno.2.1 h
  · exact hnone hno.2.2 h

theorem Thins.isEmpty {grown : UInt32} {m m' : SortedMap KStartupInfoId Data} (h : Thins grown m m')
    (hm : m.isEmpty = true) : m'.isEmpty = true := by
  rw [SortedMap.isEmpty_iff] at hm ⊢
  intro id
  cases hd' : m'.find? id with
  | none => rfl
  | some d' =>
      rcases h id d' hd' with ⟨d, hd, _⟩
      rw [hm id] at hd
      cases hd

theorem Removes.noStartups {grown : UInt32} {r : Tracker × List Signal} (h : Removes grown s r)
    (hs : NoStartups s) : NoStartups r.1 :=
  ⟨h.startups.isEmpty hs.1, h.silentStartups.isEmpty hs.2.1, h.uninitedStartups.isEmpty hs.2.2⟩

theorem Removes.timed {r : Tracker × List Signal} (h : Removes 0 s r) (hs : Timed low s) : Timed low r.1 where
  active := fun hsome => h.active.trans (hs.active fun hno => hsome (h.noStartups hno))
  startups := hs.startups.thins h.startups
  silentStartups := hs.silentStartups.thins h.silentStartups
  uninitedStartups := hs.uninitedStartups.thins h.uninitedStartups

/-! ## A tick -/

/-- The longest that a record stays, in ticks. -/
def lifetime (timeout : UInt32) : Nat := max timeout.toNat (timeout * 20).toNat

theorem timeoutOf_le (henv : cfg.timeoutEnv = none) (s : Tracker) (d : Data) :
    (timeoutOf cfg s d).toNat ≤ lifetime s.timeout := by
  unfold timeoutOf lifetime
  rw [henv]
  dsimp only
  split
  · exact le_max_right _ _
  · exact le_max_left _ _

-- What a tick leaves has grown older, and is not expired.
theorem checkCleanup_within {m : SortedMap KStartupInfoId Data} (h : Within low m) {d' : Data}
    (hd' : (checkCleanup cfg s true m).find? id = some d') :
    low + 1 ≤ d'.age.toNat ∧ d'.age.toNat < (timeoutOf cfg s d').toNat := by
  unfold checkCleanup at hd'
  rw [SortedMap.find?_filterMapValues, Option.bind_eq_some_iff] at hd'
  rcases hd' with ⟨d, hd, hkeep⟩
  split at hkeep
  · cases hkeep
  · rename_i hfresh
    cases hkeep
    have hlow := h id d hd
    have hage : (aged true d).age.toNat = d.age.toNat + 1 := by
      show (d.age + 1).toNat = _
      rw [UInt32.toNat_add]
      exact Nat.mod_eq_of_lt hlow.2
    constructor
    · omega
    · rw [expired, decide_eq_true_eq, UInt32.not_le] at hfresh
      exact UInt32.lt_iff_toNat_lt.mp hfresh

theorem tick_timed (cfg : TrackerConfig) (hs : Timed low s) (hsome : ¬NoStartups s) :
    Timed (low + 1) (startupsCleanupInternal cfg s true).1 := by
  have hmap : ∀ {m}, Within low m → Within (low + 1) (checkCleanup cfg s true m) := by
    intro m hm id d' hd'
    have hd := checkCleanup_within hm hd'
    have hlt := (timeoutOf cfg s d').toNat_lt
    exact ⟨hd.1, by omega⟩
  exact ⟨fun _ => hs.active hsome, hmap hs.startups, hmap hs.silentStartups, hmap hs.uninitedStartups⟩

theorem tick_noStartups (henv : cfg.timeoutEnv = none) (hs : Timed low s)
    (hlow : lifetime s.timeout ≤ low + 1) : NoStartups (startupsCleanupInternal cfg s true).1 := by
  have hmap : ∀ {m}, Within low m → (checkCleanup cfg s true m).isEmpty = true := by
    intro m hm
    rw [SortedMap.isEmpty_iff]
    intro id
    cases hd' : (checkCleanup cfg s true m).find? id with
    | none => rfl
    | some d' =>
        have hd := checkCleanup_within hm hd'
        have hle := timeoutOf_le henv s d'
        omega
  exact ⟨hmap hs.startups, hmap hs.silentStartups, hmap hs.uninitedStartups⟩

/-! ## The timer -/

theorem enters_timed (hs : Timed 0 s) {data : Data} (hage : data.age = 0) {update : Bool}
    {r : Tracker × List Signal} (henters : Enters cfg s id data update r) : Timed 0 r.1 := by
  have hnew : ∀ {m}, Within 0 m → ∀ {d : Data}, d.age = 0 → Within 0 (m.insert id d) := by
    intro m hm d hd
    apply hm.insert (Nat.zero_le _)
    rw [hd]
    decide
  have herase : ∀ {m}, Within 0 m → Within 0 (m.erase id) := fun hm => hm.thins (Thins.erase _ id)
  cases henters with
  | null => exact hs
  | silence hfind hd =>
      exact ⟨fun _ => hs.active (not_noStartups_of_find (.inl hfind)), herase hs.startups,
        hnew hs.silentStartups (congrArg Data.age hd), hs.uninitedStartups⟩
  | change hfind hd =>
      exact ⟨fun _ => hs.active (not_noStartups_of_find (.inl hfind)), hnew hs.startups (congrArg Data.age hd),
        hs.silentStartups, hs.uninitedStartups⟩
  | unsilence hfind hd =>
      exact ⟨fun _ => hs.active (not_noStartups_of_find (.inr (.inl hfind))),
        hnew hs.startups (congrArg Data.age hd), herase hs.silentStartups, hs.uninitedStartups⟩
  | keepSilent _ hfind hd =>
      exact ⟨fun _ => hs.active (not_noStartups_of_find (.inr (.inl hfind))), hs.startups,
        hnew hs.silentStartups (congrArg Data.age hd), hs.uninitedStartups⟩
  | @promote old new hfind hd =>
      -- A record that waited for its `new:` message keeps its age.
      have hold := hs.uninitedStartups id old hfind
      have hkeeps : new.age = old.age := by rw [hd]; rfl
      rw [← hkeeps] at hold
      exact ⟨fun _ => hs.active (not_noStartups_of_find (.inr (.inr hfind))), hs.startups.insert hold.1 hold.2 id,
        hs.silentStartups, herase hs.uninitedStartups⟩
  | @keepUninited old new hfind hd =>
      have hold := hs.uninitedStartups id old hfind
      have hkeeps : new.age = old.age := by rw [hd]; rfl
      rw [← hkeeps] at hold
      exact ⟨fun _ => hs.active (not_noStartups_of_find (.inr (.inr hfind))), hs.startups, hs.silentStartups,
        hs.uninitedStartups.insert hold.1 hold.2 id⟩
  | uninited => exact ⟨fun _ => rfl, hs.startups, hs.silentStartups, hnew hs.uninitedStartups hage⟩
  | announced => exact ⟨fun _ => rfl, hnew hs.startups hage, hs.silentStartups, hs.uninitedStartups⟩
  | silenced => exact ⟨fun _ => rfl, hs.startups, hnew hs.silentStartups hage, hs.uninitedStartups⟩

theorem step_timed (hs : Timed 0 s) (e : TrackerEvent) : Timed 0 (step cfg s e).1 := by
  have hsteps := step_steps cfg s e
  generalize step cfg s e = r at hsteps
  cases hsteps with
  | enter _ henters => exact enters_timed hs rfl henters
  | forget _ hremoves => exact hremoves.timed hs
  | look _ _ hremoves => exact hremoves.timed hs
  | stop hempty =>
      exact ⟨fun hsome => absurd hempty hsome, hs.startups, hs.silentStartups, hs.uninitedStartups⟩
  | tick hsome =>
      have hnext := tick_timed cfg hs hsome
      exact ⟨hnext.active, hnext.startups.mono (Nat.zero_le _), hnext.silentStartups.mono (Nat.zero_le _),
        hnext.uninitedStartups.mono (Nat.zero_le _)⟩
  | retime => exact ⟨hs.active, hs.startups, hs.silentStartups, hs.uninitedStartups⟩

theorem timed_init : Timed 0 {} where
  active := fun hsome => absurd ⟨rfl, rfl, rfl⟩ hsome
  startups := fun _ _ hd => nomatch hd
  silentStartups := fun _ _ hd => nomatch hd
  uninitedStartups := fun _ _ hd => nomatch hd

/-! ## Runs -/

/-- No record, and no timer. -/
def Stopped (s : Tracker) : Prop := NoStartups s ∧ s.cleanupActive = false

-- Without messages a step takes records away, or it is a tick.
theorem quiet_cases (cfg : TrackerConfig) (s : Tracker) {e : TrackerEvent} (he : e.quiet = true) :
    Removes 0 s (step cfg s e) ∧ e.isTick = false ∨
    e.isTick = true ∧ NoStartups s ∧ (step cfg s e).1 = { s with cleanupActive := false } ∨
    e.isTick = true ∧ ¬NoStartups s ∧ step cfg s e = startupsCleanupInternal cfg s true := by
  have hsteps := step_steps cfg s e
  generalize step cfg s e = r at hsteps
  cases hsteps with
  | enter => cases he
  | forget => cases he
  | retime => cases he
  | stop hempty => exact .inr (.inl ⟨rfl, hempty, rfl⟩)
  | tick hsome => exact .inr (.inr ⟨rfl, hsome, rfl⟩)
  | look _ htick hremoves =>
      refine .inl ⟨hremoves, ?_⟩
      cases e with
      | startupsCleanup => exact absurd rfl htick
      | _ => rfl

-- What is stopped stays so.
theorem stopped_run (hs : Stopped s) {es : List TrackerEvent} (hquiet : ∀ e ∈ es, e.quiet = true) :
    Stopped (run (step cfg) s es).1 := by
  induction es generalizing s with
  | nil => exact hs
  | cons e es ih =>
      rw [List.forall_mem_cons] at hquiet
      apply ih _ hquiet.2
      rcases quiet_cases cfg s hquiet.1 with hremoves | hstop | htick
      · exact ⟨hremoves.1.noStartups hs.1, hremoves.1.active.trans hs.2⟩
      · rw [hstop.2.2]
        exact ⟨hs.1, rfl⟩
      · exact absurd hs.1 htick.2.1

-- Once there is no record, the next tick stops the timer.
theorem noStartups_run (hs : NoStartups s) {es : List TrackerEvent} (hquiet : ∀ e ∈ es, e.quiet = true)
    (hticks : 1 ≤ es.countP TrackerEvent.isTick) : Stopped (run (step cfg) s es).1 := by
  induction es generalizing s with
  | nil => cases hticks
  | cons e es ih =>
      rw [List.forall_mem_cons] at hquiet
      rw [List.countP_cons] at hticks
      rcases quiet_cases cfg s hquiet.1 with hremoves | hstop | htick
      · rw [if_neg (by rw [hremoves.2]; decide)] at hticks
        exact ih (hremoves.1.noStartups hs) hquiet.2 hticks
      · apply stopped_run _ hquiet.2
        rw [hstop.2.2]
        exact ⟨hs, rfl⟩
      · exact absurd hs htick.2.1

-- The records that are left have seen all ticks, so that there is none when the ticks exceed the lifetime.
theorem timed_run (henv : cfg.timeoutEnv = none) (hs : Timed low s) {es : List TrackerEvent}
    (hquiet : ∀ e ∈ es, e.quiet = true) (hticks : 2 ≤ es.countP TrackerEvent.isTick)
    (hlife : lifetime s.timeout + 1 ≤ low + es.countP TrackerEvent.isTick) :
    Stopped (run (step cfg) s es).1 := by
  induction es generalizing s low with
  | nil => cases hticks
  | cons e es ih =>
      rw [List.forall_mem_cons] at hquiet
      rw [List.countP_cons] at hticks hlife
      rcases quiet_cases cfg s hquiet.1 with hremoves | hstop | htick
      · rw [if_neg (by rw [hremoves.2]; decide)] at hticks hlife
        refine ih (hremoves.1.timed hs) hquiet.2 hticks ?_
        rw [hremoves.1.timeout]
        exact hlife
      · apply stopped_run _ hquiet.2
        rw [hstop.2.2]
        exact ⟨hstop.2.1, rfl⟩
      · rw [if_pos htick.1] at hticks hlife
        rw [run_cons, htick.2.2]
        by_cases hold : lifetime s.timeout ≤ low + 1
        · apply noStartups_run (tick_noStartups henv hs hold) hquiet.2
          omega
        · refine ih (tick_timed cfg hs htick.2.1) hquiet.2 ?_ ?_
          · omega
          · show lifetime s.timeout + 1 ≤ _
            omega

/-- The number of ticks after which the timer has stopped. -/
def ticksToStop (timeout : UInt32) : Nat := max 1 (lifetime timeout) + 1

/-- In every reachable state the timer is active while there is a record, and without messages the records
are gone and the timer is stopped after a number of ticks that the timeout determines, whatever windows
appear in the meantime. -/
theorem startups_expire (cfg : TrackerConfig) (es : List TrackerEvent) :
    let cfg := { cfg with timeoutEnv := none }
    let s := (run (step cfg) {} es).1
    (¬NoStartups s → s.cleanupActive = true) ∧
      ∀ later : List TrackerEvent, (∀ e ∈ later, e.quiet = true) →
        ticksToStop s.timeout ≤ later.countP TrackerEvent.isTick → Stopped (run (step cfg) s later).1 := by
  intro cfg s
  have hs : Timed 0 s :=
    run_invariant (Timed 0) (fun _ e hs _ => step_timed hs e) timed_init (along_true _ es)
  refine ⟨hs.active, ?_⟩
  intro later hquiet hticks
  unfold ticksToStop at hticks
  apply timed_run rfl hs hquiet
  · omega
  · omega

/-! ## Silenced startups -/

/-- With this timeout a sweep takes the record away, whichever map it is in. -/
def Sweeps (cfg : TrackerConfig) (timeout : UInt32) (age : Bool) (d : Data) : Prop :=
  ∀ (s : Tracker) (id : KStartupInfoId), s.timeout = timeout →
    (s.startups.find? id = some d → (startupsCleanupInternal cfg s age).1.startups.find? id = none) ∧
    (s.silentStartups.find? id = some d →
      (startupsCleanupInternal cfg s age).1.silentStartups.find? id = none) ∧
    (s.uninitedStartups.find? id = some d →
      (startupsCleanupInternal cfg s age).1.uninitedStartups.find? id = none)

theorem checkCleanup_eq_none_iff {m : SortedMap KStartupInfoId Data} {d : Data} (age : Bool)
    (hd : m.find? id = some d) :
    (checkCleanup cfg s age m).find? id = none ↔ expired cfg s (aged age d) = true := by
  unfold checkCleanup
  rw [SortedMap.find?_filterMapValues, hd, Option.bind_some]
  split
  · rename_i hexpired
    exact iff_of_true rfl hexpired
  · rename_i hfresh
    exact iff_of_false (fun h => nomatch h) hfresh

theorem sweeps_iff {timeout : UInt32} {age : Bool} {d : Data} :
    Sweeps cfg timeout age d ↔ expired cfg { timeout := timeout } (aged age d) = true := by
  apply Iff.intro
  · intro h
    let s : Tracker := { timeout := timeout, startups := SortedMap.empty.insert ⟨[]⟩ d }
    have hd : s.startups.find? ⟨[]⟩ = some d := by
      rw [SortedMap.find?_insert, if_pos rfl]
    have hnone : (checkCleanup cfg s age s.startups).find? ⟨[]⟩ = none := (h s ⟨[]⟩ rfl).1 hd
    exact (checkCleanup_eq_none_iff age hd).mp hnone
  · rintro h s id rfl
    exact ⟨fun hd => (checkCleanup_eq_none_iff age hd).mpr h, fun hd => (checkCleanup_eq_none_iff age hd).mpr h,
      fun hd => (checkCleanup_eq_none_iff age hd).mpr h⟩

theorem expired_iff (timeout : UInt32) (d : Data) :
    expired { cfg with timeoutEnv := none } { timeout := timeout } d = true ↔
      (if d.silent = .yes then timeout * 20 else timeout) ≤ d.age := by
  unfold expired timeoutOf
  exact decide_eq_true_iff

/-- A silenced startup outlives every other of its age exactly if twenty times the timeout, in 32-bit
arithmetic, is not less than the timeout. -/
theorem silenced_outlive_iff (cfg : TrackerConfig) (timeout : UInt32) :
    let cfg := { cfg with timeoutEnv := none }
    (∀ (age : Bool) (d d' : Data), d.silent = .yes → d'.silent ≠ .yes → d'.age = d.age →
      Sweeps cfg timeout age d → Sweeps cfg timeout age d') ↔ timeout ≤ timeout * 20 := by
  intro cfg
  apply Iff.intro
  · intro h
    -- Two records as old as a silenced one can be.
    have hswept : Sweeps cfg timeout false { silent := .yes, age := timeout * 20 } :=
      sweeps_iff.mpr ((expired_iff timeout _).mpr (UInt32.le_refl _))
    have hother := h false { silent := .yes, age := timeout * 20 } { silent := .no, age := timeout * 20 } rfl
      (show TriState.no ≠ .yes by decide) rfl hswept
    exact (expired_iff timeout _).mp (sweeps_iff.mp hother)
  · intro hle age d d' hd hd' hage hswept
    have hlimit := (expired_iff timeout _).mp (sweeps_iff.mp hswept)
    apply sweeps_iff.mpr
    apply (expired_iff timeout _).mpr
    have hsilent : ∀ d : Data, (aged age d).silent = d.silent := by
      intro d
      cases age <;> rfl
    have haged : (aged age d').age = (aged age d).age := by
      cases age with
      | true => exact congrArg (· + 1) hage
      | false => exact hage
    rw [hsilent, if_pos hd] at hlimit
    rw [hsilent, if_neg hd', haged]
    exact UInt32.le_trans hle hlimit

-- Half the range: twenty times it is zero.
theorem silenced_swept_first :
    Sweeps {} 0x80000000 true { silent := .yes } ∧ ¬Sweeps {} 0x80000000 true { silent := .no } := by
  rw [sweeps_iff, sweeps_iff]
  decide

end Tracker

end KWindowSystem
