import KWindowSystem.Startup.TrackerInvariant

/-!
# Removal of a startup by its process

A `remove:` message names a startup by its id, or by the host and the first pid of its list.  The code
searches all three maps for an id, but only `startups` for a process.
-/

open Machine Qt

namespace KWindowSystem

theorem Pids.mem_foldl_remove {pids : List Int32} {ps : Pids} {pid : Int32} :
    pid ∈ (pids.foldl Pids.remove ps).list ↔ pid ∈ ps.list ∧ pid ∉ pids := by
  induction pids generalizing ps with
  | nil => simp
  | cons p pids ih =>
      rw [List.foldl_cons, ih]
      simp only [Pids.remove, List.mem_filter, List.mem_cons, decide_eq_true_eq]
      tauto

namespace Tracker

variable {cfg : TrackerConfig} {s : Tracker} {id : KStartupInfoId}

/-- The record is in one of the three maps. -/
def Holds (s : Tracker) (id : KStartupInfoId) (d : Data) : Prop :=
  s.startups.find? id = some d ∨ s.silentStartups.find? id = some d ∨ s.uninitedStartups.find? id = some d

/-- The record carries the pid and the host name. -/
def Carries (pid : Int32) (hostname : QByteArray) (d : Data) : Prop :=
  d.hostname = hostname ∧ d.pids.contains pid = true

instance (pid : Int32) (hostname : QByteArray) (d : Data) : Decidable (Carries pid hostname d) :=
  inferInstanceAs (Decidable (_ ∧ _))

structure RemoveMessage (msg : QString) (id : KStartupInfoId) (data : KStartupInfoData) : Prop where
  keyword : startsWith (trimmed msg) "remove:" = true
  ofId : KStartupInfoId.ofText ((trimmed msg).drop 7) = id
  ofData : KStartupInfoData.ofText ((trimmed msg).drop 7) = data

theorem Holds.not_null (h : Inv cfg s) {d : Data} (hd : Holds s id d) : id.isNull = false := by
  rcases hd with hd | hd | hd
  · exact (hd ▸ h id).of_startups.1
  · exact (hd ▸ h id).of_silent.1
  · exact (hd ▸ h id).of_uninited.1

theorem startsWith_remove {msg : QString} (h : startsWith msg "remove:" = true) :
    startsWith msg "new:" = false ∧ startsWith msg "change:" = false := by
  unfold startsWith at *
  rw [List.isPrefixOf_iff_prefix] at h
  rcases h with ⟨rest, rfl⟩
  exact ⟨rfl, rfl⟩

theorem gotMessage_remove {data : KStartupInfoData} {msg : QString} (h : RemoveMessage msg id data)
    (hpids : data.pids.list ≠ []) :
    gotMessage cfg s msg =
      if id.isNull then removeStartupPidsByHost s data else removeStartupPids s id data := by
  have hother := startsWith_remove h.keyword
  unfold gotMessage
  dsimp only
  rw [if_neg (by rw [hother.1]; decide), if_neg (by rw [hother.2]; decide), if_pos h.keyword]
  unfold gotRemoveStartupInfo
  dsimp only
  rw [h.ofId, h.ofData, if_pos hpids]

-- The record loses the pid at least.
theorem removeStartupPids_loses (h : Inv cfg s) {d : Data} (hd : Holds s id d) {data : KStartupInfoData}
    {pid : Int32} (hold : pid ∈ d.pids.list) (hpid : pid ∈ data.pids.list) :
    ¬Holds (removeStartupPids s id data).1 id d := by
  have hnew : d.removePids data.pids.list ≠ d := by
    intro heq
    have hmem : pid ∈ (d.removePids data.pids.list).pids.list := heq.symm ▸ hold
    exact (Pids.mem_foldl_remove.mp hmem).2 hpid
  unfold removeStartupPids removeAllStartupInfoInternal Holds
  rcases hd with hd | hd | hd
  · have hslot := (hd ▸ h id).of_startups
    rw [hd]
    dsimp only
    split <;> simp [hslot.2.1, hslot.2.2, hnew]
  · have hslot := (hd ▸ h id).of_silent
    rw [hslot.2.2.2.1, hd]
    dsimp only
    split <;> simp [SortedMap.contains, hslot.2.2.2.1, hslot.2.2.2.2, hnew]
  · have hslot := (hd ▸ h id).of_uninited
    rw [hslot.2.1, hslot.2.2, hd]
    dsimp only
    split <;> simp [SortedMap.contains, hslot.2.1, hslot.2.2, hnew]

-- The search finds the only record of the process, if it is among the announced ones.
theorem removeStartupPidsByHost_eq {d : Data} {data : KStartupInfoData} {pid : Int32} {pids : List Int32}
    (hpids : data.pids.list = pid :: pids) (hcarries : Carries pid data.hostname d)
    (honly : ∀ id' d', Holds s id' d' → Carries pid data.hostname d' → id' = id)
    (hd : s.startups.find? id = some d) : removeStartupPidsByHost s data = removeStartupPids s id data := by
  unfold removeStartupPidsByHost
  rw [hpids]
  dsimp only
  cases hfind : s.startups.entries.find? fun e => e.2.hostname = data.hostname ∧ e.2.pids.contains pid with
  | none =>
      have hnone := List.find?_eq_none.mp hfind (id, d) (SortedMap.mem_entries_iff.mpr hd)
      exact absurd (decide_eq_true (And.intro hcarries.1 hcarries.2)) hnone
  | some e =>
      have he := SortedMap.mem_entries_iff.mp (List.mem_of_find?_eq_some hfind)
      have hfound := List.find?_some hfind
      have hmatch : Carries pid data.hostname e.2 := of_decide_eq_true hfound
      dsimp only
      rw [honly e.1 e.2 (.inl he) hmatch]

theorem removeStartupPidsByHost_missed {data : KStartupInfoData} {pid : Int32} {pids : List Int32}
    (hpids : data.pids.list = pid :: pids)
    (honly : ∀ id' d', Holds s id' d' → Carries pid data.hostname d' → id' = id)
    (hnone : s.startups.find? id = none) : removeStartupPidsByHost s data = (s, []) := by
  unfold removeStartupPidsByHost
  rw [hpids]
  dsimp only
  cases hfind : s.startups.entries.find? fun e => e.2.hostname = data.hostname ∧ e.2.pids.contains pid with
  | none => rfl
  | some e =>
      have he := SortedMap.mem_entries_iff.mp (List.mem_of_find?_eq_some hfind)
      have hfound := List.find?_some hfind
      have hmatch : Carries pid data.hostname e.2 := of_decide_eq_true hfound
      rw [honly e.1 e.2 (.inl he) hmatch, hnone] at he
      cases he

/-- Where one record carries the process that a `remove:` message names, the message does the same as
with the record's id exactly if the record is in `startups`. -/
theorem removal_by_process_iff (cfg : TrackerConfig) (es : List TrackerEvent) {id nullId : KStartupInfoId}
    {d : Data} {data : KStartupInfoData} {pid : Int32} {pids : List Int32} {msg msg' : QString}
    (hd : Holds (run (step cfg) {} es).1 id d) (hcarries : Carries pid data.hostname d)
    (honly : ∀ id' d', Holds (run (step cfg) {} es).1 id' d' → Carries pid data.hostname d' → id' = id)
    (hpids : data.pids.list = pid :: pids) (hnull : nullId.isNull = true)
    (hmsg : RemoveMessage msg nullId data) (hmsg' : RemoveMessage msg' id data) :
    let s := (run (step cfg) {} es).1
    gotMessage cfg s msg = gotMessage cfg s msg' ↔ s.startups.contains id = true := by
  intro s
  have hinv : Inv cfg s := inv_run cfg es
  have hsome : data.pids.list ≠ [] := by
    rw [hpids]
    exact List.cons_ne_nil pid pids
  have hid : id.isNull = false := hd.not_null hinv
  have hold : pid ∈ d.pids.list := List.contains_iff_mem.mp hcarries.2
  have hpid : pid ∈ data.pids.list := by
    rw [hpids]
    exact List.mem_cons_self
  rw [gotMessage_remove hmsg hsome, gotMessage_remove hmsg' hsome, if_pos hnull,
    if_neg (by rw [hid]; decide), SortedMap.contains_iff]
  cases hfind : s.startups.find? id with
  | some d' =>
      have hd' : d' = d := by
        have hslot := (hfind ▸ hinv id).of_startups
        rcases hd with hd | hd | hd
        · exact Option.some_inj.mp (hfind.symm.trans hd)
        · exact absurd (hslot.2.1.symm.trans hd) (Option.some_ne_none d).symm
        · exact absurd (hslot.2.2.symm.trans hd) (Option.some_ne_none d).symm
      rw [hd'] at hfind
      exact iff_of_true (removeStartupPidsByHost_eq hpids hcarries honly hfind) ⟨d', rfl⟩
  | none =>
      refine iff_of_false ?_ (fun h => nomatch h.choose_spec)
      rw [removeStartupPidsByHost_missed hpids honly hfind]
      intro heq
      have hloses := removeStartupPids_loses hinv hd hold hpid
      rw [← heq] at hloses
      exact hloses hd

/-- One announced startup `a` with the process 1 on the host `h`. -/
def announcedOnce : List TrackerEvent := [.gotMessage "new: ID=a HOSTNAME=h PID=1".toList]

theorem removal_by_process_announced :
    let s := (run (step {}) {} announcedOnce).1
    gotMessage {} s "remove: HOSTNAME=h PID=1".toList = gotMessage {} s "remove: ID=a HOSTNAME=h PID=1".toList ↔
      s.startups.contains ⟨[0x61]⟩ = true := by
  let d : Data := { hostname := [0x68], pids := Pids.none.add 1 }
  have hstartups : (run (step {}) {} announcedOnce).1.startups.entries = [(⟨[0x61]⟩, d)] := by decide +kernel
  have hsilent : (run (step {}) {} announcedOnce).1.silentStartups.entries = [] := by decide +kernel
  have huninited : (run (step {}) {} announcedOnce).1.uninitedStartups.entries = [] := by decide +kernel
  have hd : Holds (run (step {}) {} announcedOnce).1 ⟨[0x61]⟩ d := by
    apply Or.inl
    rw [← SortedMap.mem_entries_iff, hstartups]
    exact List.mem_cons_self
  have honly : ∀ id' d', Holds (run (step {}) {} announcedOnce).1 id' d' →
      Carries 1 d.toKStartupInfoData.hostname d' → id' = ⟨[0x61]⟩ := by
    intro id' d' hd' _
    unfold Holds at hd'
    rw [← SortedMap.mem_entries_iff, ← SortedMap.mem_entries_iff, ← SortedMap.mem_entries_iff, hstartups,
      hsilent, huninited] at hd'
    rcases hd' with hd' | hd' | hd'
    · exact congrArg Prod.fst (List.mem_singleton.mp hd')
    · cases hd'
    · cases hd'
  have hcarries : Carries 1 d.toKStartupInfoData.hostname d := by decide
  have hpids : d.toKStartupInfoData.pids.list = [1] := rfl
  have hnull : KStartupInfoId.isNull ⟨[]⟩ = true := rfl
  have hmsg : RemoveMessage "remove: HOSTNAME=h PID=1".toList ⟨[]⟩ d.toKStartupInfoData :=
    ⟨by decide +kernel, by decide +kernel, by decide +kernel⟩
  have hmsg' : RemoveMessage "remove: ID=a HOSTNAME=h PID=1".toList ⟨[0x61]⟩ d.toKStartupInfoData :=
    ⟨by decide +kernel, by decide +kernel, by decide +kernel⟩
  exact removal_by_process_iff {} announcedOnce hd hcarries honly hpids hnull hmsg hmsg'

-- The same startup, of which only a change is known yet.
theorem removal_by_process_missed :
    let s := (run (step {}) {} [.gotMessage "change: ID=a HOSTNAME=h PID=1".toList]).1
    s.startups.entries = [] ∧ s.silentStartups.entries = [] ∧
      s.uninitedStartups.entries = [(⟨[0x61]⟩, { hostname := [0x68], pids := Pids.none.add 1 })] ∧
      (gotMessage {} s "remove: HOSTNAME=h PID=1".toList).1.uninitedStartups.entries =
        s.uninitedStartups.entries ∧
      (gotMessage {} s "remove: ID=a HOSTNAME=h PID=1".toList).1.uninitedStartups.entries = [] := by
  decide +kernel

end Tracker

end KWindowSystem
