import KWindowSystem.Startup.TrackerInvariant

/-!
# What the startup tracker announces

First what a step can do: it enters the startup of a message, or it only takes records away, or it ages
them.  From that, when a change is announced of a startup that the listeners know, and when a silenced
startup is announced.
-/

open Machine Qt

namespace KWindowSystem

namespace Tracker

variable {cfg : TrackerConfig} {s : Tracker} {id : KStartupInfoId}

/-! ## What a step does -/

/-- The startup of a message that enters one, and whether it only updates it. -/
def startupMessage (msg : QString) : Option (QString × Bool) :=
  let msg := trimmed msg
  if startsWith msg "new:" then some (msg.drop 4, false)
  else if startsWith msg "change:" then some (msg.drop 7, true)
  else none

/-- The second map has no other records than the first, and all are older by `grown`. -/
def Thins (grown : UInt32) (m m' : SortedMap KStartupInfoId Data) : Prop :=
  ∀ id d', m'.find? id = some d' →
    ∃ d, m.find? id = some d ∧ d'.silent = d.silent ∧ d'.age = d.age + grown

/-- Records are taken away at most, and nothing is announced but that. -/
structure Removes (grown : UInt32) (s : Tracker) (r : Tracker × List Signal) : Prop where
  startups : Thins grown s.startups r.1.startups
  silentStartups : Thins grown s.silentStartups r.1.silentStartups
  uninitedStartups : Thins grown s.uninitedStartups r.1.uninitedStartups
  timeout : r.1.timeout = s.timeout
  active : r.1.cleanupActive = s.cleanupActive
  removals : ∀ o ∈ r.2, ∃ id data, o = .gotRemoveStartup id data

/-- There is no record. -/
def NoStartups (s : Tracker) : Prop :=
  s.startups.isEmpty = true ∧ s.silentStartups.isEmpty = true ∧ s.uninitedStartups.isEmpty = true

inductive Steps (cfg : TrackerConfig) (s : Tracker) : TrackerEvent → Tracker × List Signal → Prop where
  | enter {msg txt : QString} {update : Bool} {r : Tracker × List Signal}
      (hmsg : startupMessage msg = some (txt, update))
      (h : Enters cfg s (.ofText txt) { toKStartupInfoData := .ofText txt } update r) :
      Steps cfg s (.gotMessage msg) r
  | forget {msg : QString} {r : Tracker × List Signal} (hmsg : startupMessage msg = none)
      (h : Removes 0 s r) : Steps cfg s (.gotMessage msg) r
  | look {e : TrackerEvent} {r : Tracker × List Signal} (hmsg : ∀ msg, e ≠ .gotMessage msg)
      (htick : e ≠ .startupsCleanup) (h : Removes 0 s r) : Steps cfg s e r
  | stop (hempty : NoStartups s) : Steps cfg s .startupsCleanup ({ s with cleanupActive := false }, [])
  | tick (hsome : ¬NoStartups s) (h : Removes 1 s (startupsCleanupInternal cfg s true)) :
      Steps cfg s .startupsCleanup (startupsCleanupInternal cfg s true)
  | retime (secs : UInt32) : Steps cfg s (.setTimeout secs) ({ s with timeout := secs }, [])

theorem Thins.refl (m : SortedMap KStartupInfoId Data) : Thins 0 m m :=
  fun _ d hd => ⟨d, hd, rfl, (UInt32.add_zero _).symm⟩

theorem Thins.trans {grown : UInt32} {m m' m'' : SortedMap KStartupInfoId Data} (h : Thins 0 m m')
    (h' : Thins grown m' m'') : Thins grown m m'' := by
  intro id d'' hd''
  rcases h' id d'' hd'' with ⟨d', hd', hsilent', hage'⟩
  rcases h id d' hd' with ⟨d, hd, hsilent, hage⟩
  exact ⟨d, hd, hsilent'.trans hsilent, by rw [hage', hage, UInt32.add_zero]⟩

theorem Thins.erase (m : SortedMap KStartupInfoId Data) (id : KStartupInfoId) : Thins 0 m (m.erase id) := by
  intro j d hd
  rw [SortedMap.find?_erase] at hd
  split at hd
  · cases hd
  · exact Thins.refl m j d hd

theorem Thins.insert {m : SortedMap KStartupInfoId Data} {d d' : Data} (hd : m.find? id = some d)
    (hsilent : d'.silent = d.silent) (hage : d'.age = d.age) : Thins 0 m (m.insert id d') := by
  intro j d'' hj
  rw [SortedMap.find?_insert] at hj
  split at hj
  · rename_i heq
    cases hj
    rw [heq]
    exact ⟨d, hd, hsilent, by rw [hage, UInt32.add_zero]⟩
  · exact Thins.refl m j d'' hj

theorem Thins.filterMapValues {grown : UInt32} (m : SortedMap KStartupInfoId Data)
    {f : KStartupInfoId → Data → Option Data}
    (hf : ∀ id d d', f id d = some d' → d'.silent = d.silent ∧ d'.age = d.age + grown) :
    Thins grown m (m.filterMapValues f) := by
  intro id d' hd'
  rw [SortedMap.find?_filterMapValues, Option.bind_eq_some_iff] at hd'
  rcases hd' with ⟨d, hd, hf'⟩
  exact ⟨d, hd, hf id d d' hf'⟩

theorem Removes.refl (s : Tracker) : Removes 0 s (s, []) :=
  ⟨Thins.refl _, Thins.refl _, Thins.refl _, rfl, rfl, fun _ h => nomatch h⟩

theorem Removes.trans {s' : Tracker} {r : Tracker × List Signal} (h : Removes 0 s (s', []))
    (hr : Removes 0 s' r) : Removes 0 s r :=
  ⟨h.startups.trans hr.startups, h.silentStartups.trans hr.silentStartups,
    h.uninitedStartups.trans hr.uninitedStartups, hr.timeout.trans h.timeout, hr.active.trans h.active,
    hr.removals⟩

theorem removes_erase (s : Tracker) (id : KStartupInfoId) (data : KStartupInfoData) :
    Removes 0 s ({ s with startups := s.startups.erase id }, [.gotRemoveStartup id data]) :=
  ⟨Thins.erase _ _, Thins.refl _, Thins.refl _, rfl, rfl, fun _ ho => ⟨id, data, List.mem_singleton.mp ho⟩⟩

theorem removeAllStartupInfoInternal_removes (s : Tracker) (id : KStartupInfoId) :
    Removes 0 s (removeAllStartupInfoInternal s id) := by
  unfold removeAllStartupInfoInternal
  split
  · exact removes_erase s id _
  · split
    · exact ⟨Thins.refl _, Thins.erase _ _, Thins.refl _, rfl, rfl, fun _ h => nomatch h⟩
    · exact ⟨Thins.refl _, Thins.refl _, Thins.erase _ _, rfl, rfl, fun _ h => nomatch h⟩

theorem removeStartupPids_removes (s : Tracker) (id : KStartupInfoId) (data : KStartupInfoData) :
    Removes 0 s (removeStartupPids s id data) := by
  have hthen : ∀ (s' : Tracker) (new : Data), Removes 0 s (s', []) →
      Removes 0 s (if new.pids.list = [] then removeAllStartupInfoInternal s' id else (s', [])) := by
    intro s' new hs'
    split
    · exact hs'.trans (removeAllStartupInfoInternal_removes s' id)
    · exact hs'
  unfold removeStartupPids
  split
  · rename_i old hfind
    apply hthen
    exact ⟨Thins.insert hfind rfl rfl, Thins.refl _, Thins.refl _, rfl, rfl, fun _ h => nomatch h⟩
  · split
    · rename_i old hfind
      apply hthen
      exact ⟨Thins.refl _, Thins.insert hfind rfl rfl, Thins.refl _, rfl, rfl, fun _ h => nomatch h⟩
    · split
      · rename_i old hfind
        apply hthen
        exact ⟨Thins.refl _, Thins.refl _, Thins.insert hfind rfl rfl, rfl, rfl, fun _ h => nomatch h⟩
      · exact .refl s

theorem gotRemoveStartupInfo_removes (s : Tracker) (msg : QString) :
    Removes 0 s (gotRemoveStartupInfo s msg) := by
  unfold gotRemoveStartupInfo removeStartupPidsByHost
  dsimp only
  split
  · split
    · split
      · exact .refl s
      · split
        · exact removeStartupPids_removes s _ _
        · exact .refl s
    · exact removeStartupPids_removes s _ _
  · exact removeAllStartupInfoInternal_removes s _

theorem cleanAllNoncompliant_removes (s : Tracker) : Removes 0 s (cleanAllNoncompliant s) := by
  refine ⟨Thins.filterMapValues _ ?_, Thins.refl _, Thins.refl _, rfl, rfl, ?_⟩
  · intro id d d' hd'
    split at hd'
    · cases hd'
    · cases hd'
      exact ⟨rfl, (UInt32.add_zero _).symm⟩
  · intro o ho
    rcases List.mem_map.mp ho with ⟨e, _, rfl⟩
    exact ⟨_, _, rfl⟩

theorem findAndRemove_removes (s : Tracker) (found : KStartupInfoId × Data → Bool)
    {otherwise : StartupMatch × Tracker × List Signal} (ho : Removes 0 s otherwise.2) :
    Removes 0 s (findAndRemove s found otherwise).2 := by
  unfold findAndRemove
  split
  · exact removes_erase s _ _
  · exact ho

theorem checkStartupInternal_removes (s : Tracker) (w : StartupWindow) :
    Removes 0 s (checkStartupInternal s w).2 := by
  unfold checkStartupInternal
  split
  · exact .refl s
  · split
    · split
      · exact .refl s
      · split <;> exact .refl s
    · dsimp only
      split
      · exact findAndRemove_removes s _ (findAndRemove_removes s _ (.refl s))
      · exact findAndRemove_removes s _ (.refl s)

theorem windowAdded_removes (cfg : TrackerConfig) (s : Tracker) (w : StartupWindow) :
    Removes 0 s (windowAdded cfg s w) := by
  have hcheck := checkStartupInternal_removes s w
  have hnone := checkStartupInternal_cantDetect (s := s) (w := w)
  unfold windowAdded
  cases hr : checkStartupInternal s w with
  | mk ret r =>
      rw [hr] at hcheck hnone
      cases ret with
      | cantDetect =>
          have hr : r = (s, []) := hnone rfl
          rw [hr]
          show Removes 0 s (if cfg.cleanOnCantDetect then _ else _)
          split
          · exact cleanAllNoncompliant_removes s
          · exact .refl s
      | noMatch => exact hcheck
      | «match» id data => exact hcheck

theorem startupsCleanupInternal_removes (cfg : TrackerConfig) (s : Tracker) (age : Bool) :
    Removes (if age then 1 else 0) s (startupsCleanupInternal cfg s age) := by
  have hthin : ∀ m, Thins (if age then 1 else 0) m (checkCleanup cfg s age m) := by
    intro m
    refine Thins.filterMapValues m ?_
    intro id d d' hd'
    split at hd'
    · cases hd'
    · cases hd'
      cases age with
      | true => exact ⟨rfl, rfl⟩
      | false => exact ⟨rfl, (UInt32.add_zero _).symm⟩
  refine ⟨hthin _, hthin _, hthin _, rfl, rfl, ?_⟩
  intro o ho
  rcases List.mem_map.mp ho with ⟨e, _, rfl⟩
  exact ⟨_, _, rfl⟩

theorem gotStartupInfo_enters (cfg : TrackerConfig) (s : Tracker) (txt : QString) (update : Bool) :
    Enters cfg s (.ofText txt) { toKStartupInfoData := .ofText txt } update
      (gotStartupInfo cfg s txt update) := by
  unfold gotStartupInfo
  dsimp only
  split
  · rename_i hnull
    exact .null hnull
  · exact newStartupInfoInternal_enters cfg s _ _ update

theorem step_steps (cfg : TrackerConfig) (s : Tracker) (e : TrackerEvent) : Steps cfg s e (step cfg s e) := by
  cases e with
  | gotMessage msg =>
      show Steps cfg s _ (gotMessage cfg s msg)
      unfold gotMessage
      dsimp only
      split
      · rename_i hnew
        exact .enter (if_pos hnew) (gotStartupInfo_enters cfg s _ _)
      · rename_i hnew
        split
        · rename_i hchange
          exact .enter ((if_neg hnew).trans (if_pos hchange)) (gotStartupInfo_enters cfg s _ _)
        · rename_i hchange
          have hnone : startupMessage msg = none := (if_neg hnew).trans (if_neg hchange)
          split
          · exact .forget hnone (gotRemoveStartupInfo_removes s _)
          · exact .forget hnone (.refl s)
  | windowAdded w =>
      refine .look (fun _ => TrackerEvent.noConfusion) TrackerEvent.noConfusion ?_
      show Removes 0 s (if cfg.disableKWinModule then _ else _)
      split
      · exact .refl s
      · exact windowAdded_removes cfg s w
  | checkStartup w =>
      exact .look (fun _ => TrackerEvent.noConfusion) TrackerEvent.noConfusion
        (checkStartupInternal_removes s w)
  | startupsCleanup =>
      show Steps cfg s _ (startupsCleanup cfg s)
      unfold startupsCleanup
      split
      · rename_i hempty
        exact .stop hempty
      · rename_i hsome
        exact .tick hsome (startupsCleanupInternal_removes cfg s true)
  | startupsCleanupNoAge =>
      exact .look (fun _ => TrackerEvent.noConfusion) TrackerEvent.noConfusion
        (startupsCleanupInternal_removes cfg s false)
  | setTimeout secs => exact .retime secs

/-! ## Changes -/

/-- The event changes a silenced startup, and leaves it silenced. -/
def ChangesSilenced (s : Tracker) : TrackerEvent → Prop
  | .gotMessage msg => match startupMessage msg with
    | some (txt, _) =>
        s.silentStartups.contains (.ofText txt) = true ∧ (KStartupInfoData.ofText txt).silent ≠ .no
    | none => False
  | _ => False

-- The silence of a record that was silenced.
theorem update_silent_iff {old : Data} (hold : old.silent = .yes) (data : KStartupInfoData) :
    ({ old.update data with age := 0 } : Data).silent = .yes ↔ data.silent ≠ .no := by
  show (if data.silent ≠ .unknown then data.silent else old.silent) = .yes ↔ _
  rw [hold]
  cases data.silent <;> decide

theorem contains_of_find {m : SortedMap KStartupInfoId Data} {d : Data} (h : m.find? id = some d) :
    m.contains id = true := SortedMap.contains_iff.mpr ⟨d, h⟩

theorem not_contains_of_find {m : SortedMap KStartupInfoId Data} (h : m.find? id = none) :
    ¬m.contains id = true := by
  rw [SortedMap.contains_iff, h]
  rintro ⟨d, hd⟩
  cases hd

theorem Removes.no_change {grown : UInt32} {r : Tracker × List Signal} (h : Removes grown s r)
    (id : KStartupInfoId) (data : KStartupInfoData) : Signal.gotStartupChange id data ∉ r.2 := by
  intro hin
  rcases h.removals _ hin with ⟨_, _, ho⟩
  cases ho

/-- Whatever is announced as changed is what `startups` has. -/
def ChangesHeld (r : Tracker × List Signal) : Prop :=
  ∀ id data, .gotStartupChange id data ∈ r.2 →
    ∃ d, r.1.startups.find? id = some d ∧ d.toKStartupInfoData = data

theorem changesHeld_of_not_mem {r : Tracker × List Signal} (h : ∀ id data, .gotStartupChange id data ∉ r.2) :
    ChangesHeld r := fun id data hin => absurd hin (h id data)

theorem enters_changesHeld_iff (h : Inv cfg s) {data : Data} {update : Bool} {r : Tracker × List Signal}
    (henters : Enters cfg s id data update r) :
    ChangesHeld r ↔ ¬(s.silentStartups.contains id = true ∧ data.silent ≠ .no) := by
  have hvisible : s.silentStartups.find? id = none →
      ¬(s.silentStartups.contains id = true ∧ data.silent ≠ .no) :=
    fun hnone hboth => not_contains_of_find hnone hboth.1
  cases henters with
  | null hnull =>
      refine iff_of_true (changesHeld_of_not_mem (fun _ _ => List.not_mem_nil)) (hvisible ?_)
      cases hfind : s.silentStartups.find? id with
      | none => rfl
      | some d =>
          have hslot := (hfind ▸ h id).of_silent.1
          rw [hnull] at hslot
          cases hslot
  | silence hfind =>
      refine iff_of_true (changesHeld_of_not_mem ?_) (hvisible (hfind ▸ h id).of_startups.2.1)
      simp
  | @change _ new hfind =>
      refine iff_of_true ?_ (hvisible (hfind ▸ h id).of_startups.2.1)
      intro j data' hin
      cases List.mem_singleton.mp hin
      exact ⟨new, by simp, rfl⟩
  | @unsilence old _ hfind hnew hsilent =>
      refine iff_of_true (changesHeld_of_not_mem (by simp)) ?_
      intro hboth
      apply hsilent
      rw [hnew]
      exact (update_silent_iff (hfind ▸ h id).of_silent.2.1 _).mpr hboth.2
  | keepSilent hnone hfind hnew hsilent =>
      refine iff_of_false ?_ ?_
      · intro hall
        rcases hall id _ (List.mem_singleton_self _) with ⟨d, hd, _⟩
        dsimp only at hd
        rw [hnone] at hd
        cases hd
      · rw [not_not]
        refine ⟨contains_of_find hfind, ?_⟩
        rw [hnew] at hsilent
        exact (update_silent_iff (hfind ▸ h id).of_silent.2.1 _).mp hsilent
  | promote hfind =>
      exact iff_of_true (changesHeld_of_not_mem (by simp)) (hvisible (hfind ▸ h id).of_uninited.2.2)
  | keepUninited hfind =>
      exact iff_of_true (changesHeld_of_not_mem (by simp)) (hvisible (hfind ▸ h id).of_uninited.2.2)
  | uninited _ _ hsilent => exact iff_of_true (changesHeld_of_not_mem (by simp)) (hvisible hsilent)
  | announced _ _ hsilent => exact iff_of_true (changesHeld_of_not_mem (by simp)) (hvisible hsilent)
  | silenced _ _ hsilent => exact iff_of_true (changesHeld_of_not_mem (by simp)) (hvisible hsilent)

theorem step_changesHeld_iff (h : Inv cfg s) (e : TrackerEvent) :
    ChangesHeld (step cfg s e) ↔ ¬ChangesSilenced s e := by
  have hsteps := step_steps cfg s e
  generalize step cfg s e = r at hsteps
  cases hsteps with
  | @enter msg txt update _ hmsg henters =>
      unfold ChangesSilenced
      dsimp only
      rw [hmsg]
      exact enters_changesHeld_iff h henters
  | forget hmsg hremoves =>
      unfold ChangesSilenced
      dsimp only
      rw [hmsg]
      exact iff_of_true (changesHeld_of_not_mem hremoves.no_change) id
  | look hmsg _ hremoves =>
      refine iff_of_true (changesHeld_of_not_mem hremoves.no_change) ?_
      cases e with
      | gotMessage msg => exact absurd rfl (hmsg msg)
      | _ => exact id
  | stop => exact iff_of_true (changesHeld_of_not_mem (fun _ _ => List.not_mem_nil)) id
  | tick _ hremoves => exact iff_of_true (changesHeld_of_not_mem hremoves.no_change) id
  | retime => exact iff_of_true (changesHeld_of_not_mem (fun _ _ => List.not_mem_nil)) id

/-- Every change is announced of a startup that is announced at that moment, with the data stored for it,
exactly in the runs in which no silenced startup is changed without being resumed. -/
theorem changes_announced_iff (cfg : TrackerConfig) (es : List TrackerEvent) :
    (∀ pre e post, es = pre ++ e :: post →
      let before := run (step cfg) {} pre
      let now := step cfg before.1 e
      ∀ id data, .gotStartupChange id data ∈ now.2 →
        (∃ ids, replay announced ∅ (before.2 ++ now.2) = some ids ∧ id ∈ ids) ∧
          ∃ d, now.1.startups.find? id = some d ∧ d.toKStartupInfoData = data) ↔
      Along (step cfg) (fun s e => ¬ChangesSilenced s e) {} es := by
  rw [along_iff_split]
  apply forall₃_congr
  intro pre e post
  apply imp_congr Iff.rfl
  have hinv := inv_run cfg pre
  dsimp only
  rw [← step_changesHeld_iff hinv e]
  apply Iff.intro
  · intro hall id data hin
    exact (hall id data hin).2
  · intro hheld id data hin
    rcases hheld id data hin with ⟨d, hd, hdata⟩
    refine ⟨⟨_, ?_, mem_keySet_of_find hd⟩, d, hd, hdata⟩
    have hpre : replay announced ∅ (run (step cfg) {} pre).2 = some (run (step cfg) {} pre).1.startups.keySet :=
      run_replay (Inv cfg) (fun s => s.startups.keySet)
        (fun _ e hs _ => ⟨(step_follows hs e).inv, (step_follows hs e).view⟩) (inv_init cfg) (along_true _ pre)
    rw [replay_append, hpre]
    exact (step_follows hinv e).view

-- A silenced startup that was never announced, and a new name for it.
theorem silenced_change_announced :
    let r := run (step {}) {} [.gotMessage "new: ID=a SILENT=1".toList, .gotMessage "change: ID=a NAME=b".toList]
    r.1.startups.contains ⟨[0x61]⟩ = false ∧
      r.2 = [.gotStartupChange ⟨[0x61]⟩ { name := ['b'], silent := .yes }] := by
  decide +kernel

/-! ## Silenced startups -/

/-- The event promotes a startup that is known only from `change:` messages, and is silenced then. -/
def PromotesSilenced (s : Tracker) : TrackerEvent → Prop
  | .gotMessage msg => match startupMessage msg with
    | some (txt, false) => match s.uninitedStartups.find? (.ofText txt) with
      | some old => (old.update (.ofText txt)).silent = .yes
      | none => False
    | _ => False
  | _ => False

/-- No record of the map is silenced. -/
def Audible (m : SortedMap KStartupInfoId Data) : Prop := ∀ id d, m.find? id = some d → d.silent ≠ .yes

/-- What is announced as new is not silenced. -/
def Announces (o : Signal) : Prop := ∀ id data, o = .gotNewStartup id data → data.silent ≠ .yes

theorem Audible.insert {m : SortedMap KStartupInfoId Data} (h : Audible m) {d : Data} (hd : d.silent ≠ .yes)
    (id : KStartupInfoId) : Audible (m.insert id d) := by
  intro j d' hj
  rw [SortedMap.find?_insert] at hj
  split at hj
  · cases hj
    exact hd
  · exact h j d' hj

theorem Audible.erase {m : SortedMap KStartupInfoId Data} (h : Audible m) (id : KStartupInfoId) :
    Audible (m.erase id) := by
  intro j d hj
  rw [SortedMap.find?_erase] at hj
  split at hj
  · cases hj
  · exact h j d hj

theorem Removes.audible {grown : UInt32} {r : Tracker × List Signal} (h : Removes grown s r)
    (hs : Audible s.startups) : Audible r.1.startups ∧ ∀ o ∈ r.2, Announces o := by
  constructor
  · intro id d' hd'
    rcases h.startups id d' hd' with ⟨d, hd, hsilent, _⟩
    rw [hsilent]
    exact hs id d hd
  · intro o ho id data heq
    rcases h.removals o ho with ⟨_, _, hremove⟩
    rw [heq] at hremove
    cases hremove

theorem announces_new {d : Data} (hd : d.silent ≠ .yes) :
    ∀ o ∈ [Signal.gotNewStartup id d.toKStartupInfoData], Announces o := by
  intro o ho id data heq
  rw [List.mem_singleton.mp ho] at heq
  cases heq
  exact hd

theorem announces_of_not_new {out : List Signal} (h : ∀ id data, .gotNewStartup id data ∉ out) :
    ∀ o ∈ out, Announces o := by
  intro o ho id data heq
  exact absurd (heq ▸ ho) (h id data)

theorem enters_audible (hs : Audible s.startups) (hflag : cfg.announceSilenceChanges = false) {data : Data}
    {update : Bool} {r : Tracker × List Signal} (henters : Enters cfg s id data update r)
    (hok : ∀ old, s.uninitedStartups.find? id = some old → update = false →
      (old.update data.toKStartupInfoData).silent ≠ .yes) :
    Audible r.1.startups ∧ ∀ o ∈ r.2, Announces o := by
  cases henters with
  | null => exact ⟨hs, fun _ ho => nomatch ho⟩
  | silence => exact ⟨hs.erase id, announces_of_not_new (by simp)⟩
  | change _ _ hkeep =>
      exact ⟨hs.insert (fun hsilent => hkeep ⟨hsilent, hflag⟩) id, announces_of_not_new (by simp)⟩
  | unsilence _ _ hsilent => exact ⟨hs.insert hsilent id, announces_new hsilent⟩
  | keepSilent => exact ⟨hs, announces_of_not_new (by simp)⟩
  | promote hfind hnew hupdate =>
      have hsilent := hok _ hfind hupdate
      rw [← hnew] at hsilent
      exact ⟨hs.insert hsilent id, announces_new hsilent⟩
  | keepUninited => exact ⟨hs, fun _ ho => nomatch ho⟩
  | uninited => exact ⟨hs, fun _ ho => nomatch ho⟩
  | announced _ _ _ _ _ hannounce =>
      have hsilent := hannounce.resolve_right (fun hon => nomatch hflag.symm.trans hon)
      exact ⟨hs.insert hsilent id, announces_new hsilent⟩
  | silenced => exact ⟨hs, fun _ ho => nomatch ho⟩

theorem step_audible (hs : Audible s.startups) (hflag : cfg.announceSilenceChanges = false) {e : TrackerEvent}
    (hok : ¬PromotesSilenced s e) :
    Audible (step cfg s e).1.startups ∧ ∀ o ∈ (step cfg s e).2, Announces o := by
  have hsteps := step_steps cfg s e
  generalize step cfg s e = r at hsteps
  cases hsteps with
  | enter hmsg henters =>
      apply enters_audible hs hflag henters
      intro old hfind hupdate hsilent
      apply hok
      unfold PromotesSilenced
      dsimp only
      rw [hmsg, hupdate]
      dsimp only
      rw [hfind]
      exact hsilent
  | forget _ hremoves => exact hremoves.audible hs
  | look _ _ hremoves => exact hremoves.audible hs
  | stop => exact ⟨hs, fun _ ho => nomatch ho⟩
  | tick _ hremoves => exact hremoves.audible hs
  | retime => exact ⟨hs, fun _ ho => nomatch ho⟩

theorem step_promotes (h : Inv cfg s) {e : TrackerEvent} (hp : PromotesSilenced s e) :
    ¬Audible (step cfg s e).1.startups := by
  have hsteps := step_steps cfg s e
  generalize step cfg s e = r at hsteps
  unfold PromotesSilenced at hp
  split at hp
  · rename_i msg
    split at hp
    · rename_i txt hmsg
      split at hp
      · rename_i old hfind
        have hslot := (hfind ▸ h (.ofText txt)).of_uninited
        cases hsteps with
        | forget hnone => rw [hnone] at hmsg; cases hmsg
        | look hother => exact absurd rfl (hother msg)
        | enter hmsg' henters =>
            rw [hmsg] at hmsg'
            cases hmsg'
            cases henters with
            | null hnull => rw [hslot.1] at hnull; cases hnull
            | silence hin => rw [hslot.2.1] at hin; cases hin
            | change hin => rw [hslot.2.1] at hin; cases hin
            | unsilence hin => rw [hslot.2.2] at hin; cases hin
            | keepSilent _ hin => rw [hslot.2.2] at hin; cases hin
            | keepUninited _ _ hupdate => cases hupdate
            | uninited _ _ _ hin => rw [hfind] at hin; cases hin
            | announced _ _ _ hin => rw [hfind] at hin; cases hin
            | silenced _ _ _ hin => rw [hfind] at hin; cases hin
            | @promote _ new hin hnew =>
                rw [hfind] at hin
                cases hin
                intro haudible
                apply haudible (.ofText txt) new (by simp)
                rw [hnew]
                exact hp
      · exact hp.elim
    · exact hp.elim
  · exact hp.elim

/-- Without `AnnounceSilenceChanges` no startup is ever stored in `startups`, or announced as new, while it
is silenced, exactly in the runs in which no startup known only from `change:` messages is promoted then. -/
theorem silenced_unannounced_iff (cfg : TrackerConfig) (es : List TrackerEvent) :
    let cfg := { cfg with announceSilenceChanges := false }
    ((∀ n, ∀ entry ∈ (run (step cfg) {} (es.take n)).1.startups.entries, entry.2.silent ≠ .yes) ∧
      ∀ id data, .gotNewStartup id data ∈ (run (step cfg) {} es).2 → data.silent ≠ .yes) ↔
    Along (step cfg) (fun s e => ¬PromotesSilenced s e) {} es := by
  intro cfg
  have hflag : cfg.announceSilenceChanges = false := rfl
  have hempty : Audible ({} : Tracker).startups := fun _ _ hd => nomatch hd
  have hstored : (∀ n, Audible (run (step cfg) {} (es.take n)).1.startups) ↔
      Along (step cfg) (fun s e => ¬PromotesSilenced s e) {} es := by
    refine always_iff_guarded (fun s => Inv cfg s ∧ Audible s.startups) (fun s => Audible s.startups) _
      (fun _ hs => hs.2) ?_ ?_ es ⟨inv_init cfg, hempty⟩
    · intro s e hs hok
      exact ⟨(step_follows hs.1 e).inv, (step_audible hs.2 hflag hok).1⟩
    · intro s e hs haudible hp
      exact step_promotes hs.1 hp haudible
  have hentries : ∀ m : SortedMap KStartupInfoId Data,
      (∀ entry ∈ m.entries, entry.2.silent ≠ .yes) ↔ Audible m := by
    intro m
    apply Iff.intro
    · intro hall id d hd
      exact hall (id, d) (SortedMap.mem_entries_iff.mpr hd)
    · intro haudible entry he
      exact haudible entry.1 entry.2 (SortedMap.mem_entries_iff.mp he)
  rw [← hstored]
  apply Iff.intro
  · intro hall n
    exact (hentries _).mp (hall.1 n)
  · intro hall
    refine ⟨fun n => (hentries _).mpr (hall n), ?_⟩
    have hemits : ∀ o ∈ (run (step cfg) {} es).2, Announces o :=
      run_emits (fun s => Audible s.startups) (fun _ _ hs hok => step_audible hs hflag hok) hempty
        (hstored.mp hall)
    intro id data hin
    exact hemits _ hin id data rfl

-- Silenced before it is announced.
theorem silenced_promoted :
    let r := run (step {}) {} [.gotMessage "change: ID=a SILENT=1".toList, .gotMessage "new: ID=a NAME=b".toList]
    (r.1.startups.find? ⟨[0x61]⟩).map (fun d => d.silent) = some .yes ∧
      r.2 = [.gotNewStartup ⟨[0x61]⟩ { name := ['b'], silent := .yes }] := by
  decide +kernel

end Tracker

end KWindowSystem
