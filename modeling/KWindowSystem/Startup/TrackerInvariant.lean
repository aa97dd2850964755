import KWindowSystem.Startup.Tracker

/-!
# What holds in every run of the startup tracker

`Slot` says what the three maps may hold for one id: nothing, or one record in one of them.
`Follows` is what each operation is shown to do: it keeps the slots, and a listener that counts the
announced ids follows the `startups` map through the signals.  Runs then follow by the rules of
`Machine`.
-/

open Machine

namespace KWindowSystem

namespace Tracker

variable {cfg : TrackerConfig} {s : Tracker} {id : KStartupInfoId}

/-- What `startups`, `silent_startups` and `uninited_startups` hold for one id. -/
inductive Slot (cfg : TrackerConfig) (id : KStartupInfoId) :
    Option Data → Option Data → Option Data → Prop where
  | absent : Slot cfg id none none none
  | announced {d : Data} (hnull : id.isNull = false) : Slot cfg id (some d) none none
  | silenced {d : Data} (hnull : id.isNull = false) (hsilent : d.silent = .yes)
      (hflag : cfg.announceSilenceChanges = false) : Slot cfg id none (some d) none
  | uninited {d : Data} (hnull : id.isNull = false) : Slot cfg id none none (some d)

def Inv (cfg : TrackerConfig) (s : Tracker) : Prop :=
  ∀ id, Slot cfg id (s.startups.find? id) (s.silentStartups.find? id) (s.uninitedStartups.find? id)

/-- A listener's view: `none` once an id is announced twice or removed without being announced. -/
def announced (ids : Finset KStartupInfoId) : Signal → Option (Finset KStartupInfoId)
  | .gotNewStartup id _ => if id ∈ ids then none else some (insert id ids)
  | .gotStartupChange _ _ => some ids
  | .gotRemoveStartup id _ => if id ∈ ids then some (ids.erase id) else none

structure Follows (cfg : TrackerConfig) (s : Tracker) (r : Tracker × List Signal) : Prop where
  inv : Inv cfg r.1
  view : replay announced s.startups.keySet r.2 = some r.1.startups.keySet

/-! ## Slots -/

theorem Slot.of_startups {d : Data} {b c : Option Data} (h : Slot cfg id (some d) b c) :
    id.isNull = false ∧ b = none ∧ c = none := by
  cases h with
  | announced hnull => exact ⟨hnull, rfl, rfl⟩

theorem Slot.of_silent {d : Data} {a c : Option Data} (h : Slot cfg id a (some d) c) :
    id.isNull = false ∧ d.silent = .yes ∧ cfg.announceSilenceChanges = false ∧ a = none ∧ c = none := by
  cases h with
  | silenced hnull hsilent hflag => exact ⟨hnull, hsilent, hflag, rfl, rfl⟩

theorem Slot.of_uninited {d : Data} {a b : Option Data} (h : Slot cfg id a b (some d)) :
    id.isNull = false ∧ a = none ∧ b = none := by
  cases h with
  | uninited hnull => exact ⟨hnull, rfl, rfl⟩

-- A sweep of the three maps that keeps the silence of what it leaves keeps every slot.
theorem Slot.bind {a b c : Option Data} {f g k : Data → Option Data} (h : Slot cfg id a b c)
    (hsilent : ∀ d d', g d = some d' → d'.silent = d.silent) :
    Slot cfg id (a.bind f) (b.bind g) (c.bind k) := by
  cases h with
  | absent => exact .absent
  | @announced d hnull =>
      show Slot cfg id (f d) none none
      cases f d with
      | none => exact .absent
      | some d' => exact .announced hnull
  | @silenced d hnull hs hflag =>
      show Slot cfg id none (g d) none
      cases hg : g d with
      | none => exact .absent
      | some d' => exact .silenced hnull ((hsilent d d' hg).trans hs) hflag
  | @uninited d hnull =>
      show Slot cfg id none none (k d)
      cases k d with
      | none => exact .absent
      | some d' => exact .uninited hnull

-- An operation on one id has only the slot of that id to look at.
theorem Inv.set {s' : Tracker} (h : Inv cfg s) (id : KStartupInfoId)
    (hframe : ∀ j, j ≠ id → s'.startups.find? j = s.startups.find? j ∧
      s'.silentStartups.find? j = s.silentStartups.find? j ∧
      s'.uninitedStartups.find? j = s.uninitedStartups.find? j)
    (hslot : Slot cfg id (s'.startups.find? id) (s'.silentStartups.find? id)
      (s'.uninitedStartups.find? id)) : Inv cfg s' := by
  intro j
  by_cases hj : j = id
  · rw [hj]
    exact hslot
  · rw [(hframe j hj).1, (hframe j hj).2.1, (hframe j hj).2.2]
    exact h j

theorem mem_keySet_of_find {m : SortedMap KStartupInfoId Data} {d : Data} (h : m.find? id = some d) :
    id ∈ m.keySet :=
  SortedMap.mem_keySet.mpr (SortedMap.contains_iff.mpr ⟨d, h⟩)

theorem notMem_keySet_of_find {m : SortedMap KStartupInfoId Data} (h : m.find? id = none) :
    id ∉ m.keySet := by
  rw [SortedMap.mem_keySet, SortedMap.contains_iff]
  simp [h]

theorem Follows.refl (h : Inv cfg s) : Follows cfg s (s, []) := ⟨h, rfl⟩

-- A silent change of the records goes before any other operation.
theorem Follows.trans {s' : Tracker} {r : Tracker × List Signal} (h : Follows cfg s (s', []))
    (hr : Follows cfg s' r) : Follows cfg s r := by
  have hkeys : s.startups.keySet = s'.startups.keySet := Option.some_inj.mp h.view
  exact ⟨hr.inv, hkeys ▸ hr.view⟩

/-! ## New and changed startups -/

section New

variable {d new : Data}

theorem follows_silence (h : Inv cfg s) (hs : s.startups.find? id = some d)
    (hsilent : new.silent = .yes) (hflag : cfg.announceSilenceChanges = false) :
    Follows cfg s
      ({ s with silentStartups := s.silentStartups.insert id new, startups := s.startups.erase id },
        [.gotRemoveStartup id new.toKStartupInfoData]) := by
  have hslot := (hs ▸ h id).of_startups
  constructor
  · apply h.set id
    · intro j hj
      simp [hj]
    · simp only [SortedMap.find?_erase, SortedMap.find?_insert, if_pos, hslot.2.2]
      exact .silenced hslot.1 hsilent hflag
  · simp [announced, mem_keySet_of_find hs]

theorem follows_change (h : Inv cfg s) (hs : s.startups.find? id = some d) :
    Follows cfg s
      ({ s with startups := s.startups.insert id new },
        [.gotStartupChange id new.toKStartupInfoData]) := by
  have hslot := (hs ▸ h id).of_startups
  constructor
  · apply h.set id
    · intro j hj
      simp [hj]
    · simp only [SortedMap.find?_insert, if_pos, hslot.2.1, hslot.2.2]
      exact .announced hslot.1
  · simp [announced, Finset.insert_eq_self.mpr (mem_keySet_of_find hs)]

theorem follows_unsilence (h : Inv cfg s) (hs : s.silentStartups.find? id = some d) :
    Follows cfg s
      ({ s with startups := s.startups.insert id new, silentStartups := s.silentStartups.erase id },
        [.gotNewStartup id new.toKStartupInfoData]) := by
  have hslot := (hs ▸ h id).of_silent
  constructor
  · apply h.set id
    · intro j hj
      simp [hj]
    · simp only [SortedMap.find?_erase, SortedMap.find?_insert, if_pos, hslot.2.2.2.2]
      exact .announced hslot.1
  · simp [announced, notMem_keySet_of_find hslot.2.2.2.1]

theorem follows_keepSilent (h : Inv cfg s) (hs : s.silentStartups.find? id = some d)
    (hsilent : new.silent = .yes) {out : List Signal}
    (hout : out = [] ∨ out = [.gotStartupChange id new.toKStartupInfoData]) :
    Follows cfg s ({ s with silentStartups := s.silentStartups.insert id new }, out) := by
  have hslot := (hs ▸ h id).of_silent
  constructor
  · apply h.set id
    · intro j hj
      simp [hj]
    · simp only [SortedMap.find?_insert, if_pos, hslot.2.2.2.1, hslot.2.2.2.2]
      exact .silenced hslot.1 hsilent hslot.2.2.1
  · cases hout with
    | inl ho => rw [ho]; rfl
    | inr ho => rw [ho]; rfl

theorem follows_promote (h : Inv cfg s) (hs : s.uninitedStartups.find? id = some d) :
    Follows cfg s
      ({ s with
        startups := s.startups.insert id new, uninitedStartups := s.uninitedStartups.erase id },
        [.gotNewStartup id new.toKStartupInfoData]) := by
  have hslot := (hs ▸ h id).of_uninited
  constructor
  · apply h.set id
    · intro j hj
      simp [hj]
    · simp only [SortedMap.find?_erase, SortedMap.find?_insert, if_pos, hslot.2.2]
      exact .announced hslot.1
  · simp [announced, notMem_keySet_of_find hslot.2.1]

theorem follows_keepUninited (h : Inv cfg s) (hs : s.uninitedStartups.find? id = some d) :
    Follows cfg s ({ s with uninitedStartups := s.uninitedStartups.insert id new }, []) := by
  have hslot := (hs ▸ h id).of_uninited
  constructor
  · apply h.set id
    · intro j hj
      simp [hj]
    · simp only [SortedMap.find?_insert, if_pos, hslot.2.1, hslot.2.2]
      exact .uninited hslot.1
  · rfl

end New

/-- What `new_startup_info_internal` does, by the map in which the id is found. -/
inductive Enters (cfg : TrackerConfig) (s : Tracker) (id : KStartupInfoId) (data : Data) (update : Bool) :
    Tracker × List Signal → Prop where
  | null (hnull : id.isNull = true) : Enters cfg s id data update (s, [])
  | silence {old new : Data} (hfind : s.startups.find? id = some old)
      (hnew : new = { old.update data.toKStartupInfoData with age := 0 }) (hsilent : new.silent = .yes)
      (hflag : cfg.announceSilenceChanges = false) :
      Enters cfg s id data update
        ({ s with silentStartups := s.silentStartups.insert id new, startups := s.startups.erase id },
          [.gotRemoveStartup id new.toKStartupInfoData])
  | change {old new : Data} (hfind : s.startups.find? id = some old)
      (hnew : new = { old.update data.toKStartupInfoData with age := 0 })
      (hkeep : ¬(new.silent = .yes ∧ cfg.announceSilenceChanges = false)) :
      Enters cfg s id data update
        ({ s with startups := s.startups.insert id new }, [.gotStartupChange id new.toKStartupInfoData])
  | unsilence {old new : Data} (hfind : s.silentStartups.find? id = some old)
      (hnew : new = { old.update data.toKStartupInfoData with age := 0 }) (hsilent : new.silent ≠ .yes) :
      Enters cfg s id data update
        ({ s with startups := s.startups.insert id new, silentStartups := s.silentStartups.erase id },
          [.gotNewStartup id new.toKStartupInfoData])
  | keepSilent {old new : Data} (hnone : s.startups.find? id = none)
      (hfind : s.silentStartups.find? id = some old)
      (hnew : new = { old.update data.toKStartupInfoData with age := 0 }) (hsilent : new.silent = .yes) :
      Enters cfg s id data update
        ({ s with silentStartups := s.silentStartups.insert id new },
          [.gotStartupChange id new.toKStartupInfoData])
  | promote {old new : Data} (hfind : s.uninitedStartups.find? id = some old)
      (hnew : new = old.update data.toKStartupInfoData) (hupdate : update = false) :
      Enters cfg s id data update
        ({ s with
          startups := s.startups.insert id new, uninitedStartups := s.uninitedStartups.erase id },
          [.gotNewStartup id new.toKStartupInfoData])
  | keepUninited {old new : Data} (hfind : s.uninitedStartups.find? id = some old)
      (hnew : new = old.update data.toKStartupInfoData) (hupdate : update = true) :
      Enters cfg s id data update ({ s with uninitedStartups := s.uninitedStartups.insert id new }, [])
  | uninited (hnull : id.isNull = false) (hstartups : s.startups.find? id = none)
      (hsilent : s.silentStartups.find? id = none) (huninited : s.uninitedStartups.find? id = none)
      (hupdate : update = true) :
      Enters cfg s id data update
        ({ s with uninitedStartups := s.uninitedStartups.insert id data, cleanupActive := true }, [])
  | announced (hnull : id.isNull = false) (hstartups : s.startups.find? id = none)
      (hsilent : s.silentStartups.find? id = none) (huninited : s.uninitedStartups.find? id = none)
      (hupdate : update = false) (hannounce : data.silent ≠ .yes ∨ cfg.announceSilenceChanges = true) :
      Enters cfg s id data update
        ({ s with startups := s.startups.insert id data, cleanupActive := true },
          [.gotNewStartup id data.toKStartupInfoData])
  | silenced (hnull : id.isNull = false) (hstartups : s.startups.find? id = none)
      (hsilent : s.silentStartups.find? id = none) (huninited : s.uninitedStartups.find? id = none)
      (hupdate : update = false) (hquiet : data.silent = .yes) (hflag : cfg.announceSilenceChanges = false) :
      Enters cfg s id data update
        ({ s with silentStartups := s.silentStartups.insert id data, cleanupActive := true }, [])

theorem newStartupInfoInternal_enters (cfg : TrackerConfig) (s : Tracker) (id : KStartupInfoId) (data : Data)
    (update : Bool) : Enters cfg s id data update (newStartupInfoInternal cfg s id data update) := by
  unfold newStartupInfoInternal
  by_cases hnull : id.isNull = true
  · rw [if_pos hnull]
    exact .null hnull
  rw [if_neg hnull]
  rw [Bool.not_eq_true] at hnull
  cases hs : s.startups.find? id with
  | some old =>
      dsimp only
      split
      · rename_i hnew
        exact .silence hs rfl hnew.1 hnew.2
      · rename_i hkeep
        exact .change hs rfl hkeep
  | none =>
      dsimp only
      cases hss : s.silentStartups.find? id with
      | some old =>
          dsimp only
          split
          · rename_i hnew
            exact .unsilence hss rfl hnew
          · rename_i hnew
            exact .keepSilent hs hss rfl (not_not.mp hnew)
      | none =>
          dsimp only
          cases hu : s.uninitedStartups.find? id with
          | some old =>
              dsimp only
              split
              · rename_i hupdate
                exact .promote hu rfl hupdate
              · rename_i hupdate
                exact .keepUninited hu rfl (Bool.not_eq_false _ ▸ hupdate)
          | none =>
              dsimp only
              -- The id is new to all three maps.
              split
              · rename_i hupdate
                exact .uninited hnull hs hss hu hupdate
              · rename_i hupdate
                rw [Bool.not_eq_true] at hupdate
                split
                · rename_i hannounce
                  exact .announced hnull hs hss hu hupdate hannounce
                · rename_i hquiet
                  rw [not_or, not_not, Bool.not_eq_true] at hquiet
                  exact .silenced hnull hs hss hu hupdate hquiet.1 hquiet.2

theorem newStartupInfoInternal_follows (h : Inv cfg s) (data : Data) (update : Bool) :
    Follows cfg s (newStartupInfoInternal cfg s id data update) := by
  have henters := newStartupInfoInternal_enters cfg s id data update
  generalize newStartupInfoInternal cfg s id data update = r at henters
  cases henters with
  | null => exact .refl h
  | silence hfind hnew hsilent hflag => exact follows_silence h hfind hsilent hflag
  | change hfind => exact follows_change h hfind
  | unsilence hfind => exact follows_unsilence h hfind
  | keepSilent _ hfind _ hsilent => exact follows_keepSilent h hfind hsilent (.inr rfl)
  | promote hfind => exact follows_promote h hfind
  | keepUninited hfind => exact follows_keepUninited h hfind
  | uninited hnull hs hss hu =>
      constructor
      · apply h.set id
        · intro j hj
          simp [hj]
        · simp only [SortedMap.find?_insert, if_pos, hs, hss]
          exact .uninited hnull
      · rfl
  | announced hnull hs hss hu =>
      constructor
      · apply h.set id
        · intro j hj
          simp [hj]
        · simp only [SortedMap.find?_insert, if_pos, hss, hu]
          exact .announced hnull
      · simp [announced, notMem_keySet_of_find hs]
  | silenced hnull hs hss hu _ hquiet hflag =>
      constructor
      · apply h.set id
        · intro j hj
          simp [hj]
        · simp only [SortedMap.find?_insert, if_pos, hs, hu]
          exact .silenced hnull hquiet hflag
      · rfl

/-! ## Removed startups -/

theorem removeAllStartupInfoInternal_follows (h : Inv cfg s) :
    Follows cfg s (removeAllStartupInfoInternal s id) := by
  unfold removeAllStartupInfoInternal
  cases hs : s.startups.find? id with
  | some d =>
      dsimp only
      have hslot := (hs ▸ h id).of_startups
      constructor
      · apply h.set id
        · intro j hj
          simp [hj]
        · simp only [SortedMap.find?_erase, if_pos, hslot.2.1, hslot.2.2]
          exact .absent
      · simp [announced, mem_keySet_of_find hs]
  | none =>
      dsimp only
      split
      · rename_i hsilent
        cases SortedMap.contains_iff.mp hsilent with
        | intro d hss =>
            have hslot := (hss ▸ h id).of_silent
            constructor
            · apply h.set id
              · intro j hj
                simp [hj]
              · simp only [SortedMap.find?_erase, if_pos, hs, hslot.2.2.2.2]
                exact .absent
            · rfl
      · rename_i hsilent
        have hss : s.silentStartups.find? id = none := by
          simpa [SortedMap.contains] using hsilent
        constructor
        · apply h.set id
          · intro j hj
            simp [hj]
          · simp only [SortedMap.find?_erase, if_pos, hs, hss]
            exact .absent
        · rfl

theorem removeStartupPids_follows (h : Inv cfg s) (data : KStartupInfoData) :
    Follows cfg s (removeStartupPids s id data) := by
  -- The pids go first, then the record if none is left.
  have hthen : ∀ s' : Tracker, ∀ new : Data, Follows cfg s (s', []) →
      Follows cfg s (if new.pids.list = [] then removeAllStartupInfoInternal s' id else (s', [])) := by
    intro s' new hs'
    split
    · exact hs'.trans (removeAllStartupInfoInternal_follows hs'.inv)
    · exact hs'
  unfold removeStartupPids
  cases hs : s.startups.find? id with
  | some old =>
      have hslot := (hs ▸ h id).of_startups
      apply hthen
      constructor
      · apply h.set id
        · intro j hj
          simp [hj]
        · simp only [SortedMap.find?_insert, if_pos, hslot.2.1, hslot.2.2]
          exact .announced hslot.1
      · simp [Finset.insert_eq_self.mpr (mem_keySet_of_find hs)]
  | none =>
      dsimp only
      cases hss : s.silentStartups.find? id with
      | some old =>
          apply hthen
          exact follows_keepSilent h hss (hss ▸ h id).of_silent.2.1 (.inl rfl)
      | none =>
          dsimp only
          cases hu : s.uninitedStartups.find? id with
          | some old =>
              apply hthen
              exact follows_keepUninited h hu
          | none => exact .refl h

theorem gotMessage_follows (h : Inv cfg s) (msg : Qt.QString) : Follows cfg s (gotMessage cfg s msg) := by
  have hnew : ∀ txt update, Follows cfg s (gotStartupInfo cfg s txt update) := by
    intro txt update
    unfold gotStartupInfo
    dsimp only
    split
    · exact .refl h
    · exact newStartupInfoInternal_follows h _ update
  have hremove : ∀ txt, Follows cfg s (gotRemoveStartupInfo s txt) := by
    intro txt
    unfold gotRemoveStartupInfo removeStartupPidsByHost
    dsimp only
    split
    · split
      · split
        · exact .refl h
        · split
          · exact removeStartupPids_follows h _
          · exact .refl h
      · exact removeStartupPids_follows h _
    · exact removeAllStartupInfoInternal_follows h
  unfold gotMessage
  dsimp only
  split
  · exact hnew _ _
  · split
    · exact hnew _ _
    · split
      · exact hremove _
      · exact .refl h

/-! ## Sweeps -/

theorem replay_removals (ids : Finset KStartupInfoId) (es : List (KStartupInfoId × Data))
    (hnodup : (es.map Prod.fst).Nodup) (hmem : ∀ e ∈ es, e.1 ∈ ids) :
    replay announced ids (es.map fun e => .gotRemoveStartup e.1 e.2.toKStartupInfoData) =
      some (ids \ (es.map Prod.fst).toFinset) := by
  induction es generalizing ids with
  | nil => simp
  | cons e es ih =>
      rw [List.map_cons, List.nodup_cons] at hnodup
      have hrest : ∀ d ∈ es, d.1 ∈ ids.erase e.1 := by
        intro d hd
        apply Finset.mem_erase.mpr
        refine ⟨fun he => hnodup.1 ?_, hmem d (List.mem_cons_of_mem _ hd)⟩
        exact he ▸ List.mem_map_of_mem hd
      rw [List.map_cons, replay_cons, announced, if_pos (hmem e (by simp)), Option.bind_some,
        ih _ hnodup.2 hrest, List.map_cons, List.toFinset_cons]
      congr 1
      ext j
      simp only [Finset.mem_sdiff, Finset.mem_erase, Finset.mem_insert]
      tauto

-- A sweep over the maps that announces what it drops from `startups`, in key order.
theorem sweep_follows (h : Inv cfg s) (s' : Tracker) {f g k : KStartupInfoId → Data → Option Data}
    (hsilent : ∀ id d d', g id d = some d' → d'.silent = d.silent)
    (hs : s'.startups = s.startups.filterMapValues f)
    (hss : s'.silentStartups = s.silentStartups.filterMapValues g)
    (hu : s'.uninitedStartups = s.uninitedStartups.filterMapValues k) :
    Follows cfg s (s', (s.startups.entries.filter fun e => (f e.1 e.2).isNone).map fun e =>
      .gotRemoveStartup e.1 e.2.toKStartupInfoData) := by
  constructor
  · intro id
    show Slot cfg id (s'.startups.find? id) (s'.silentStartups.find? id)
      (s'.uninitedStartups.find? id)
    rw [hs, hss, hu, SortedMap.find?_filterMapValues, SortedMap.find?_filterMapValues,
      SortedMap.find?_filterMapValues]
    exact (h id).bind (hsilent id)
  · rw [replay_removals]
    · rw [hs, SortedMap.keySet_filterMapValues]
    · exact s.startups.nodup_keys.sublist (List.filter_sublist.map _)
    · intro e he
      exact mem_keySet_of_find (SortedMap.mem_entries_iff.mp (List.mem_filter.mp he).1)

theorem filterMapValues_some (m : SortedMap KStartupInfoId Data) :
    m.filterMapValues (fun _ d => some d) = m := by
  obtain ⟨es, hs⟩ := m
  simp [SortedMap.filterMapValues]

theorem startupsCleanupInternal_follows (h : Inv cfg s) (age : Bool) :
    Follows cfg s (startupsCleanupInternal cfg s age) := by
  let f (_ : KStartupInfoId) (d : Data) : Option Data :=
    if expired cfg s (aged age d) then none else some (aged age d)
  have hnone : ∀ e : KStartupInfoId × Data, (f e.1 e.2).isNone = expired cfg s (aged age e.2) := by
    intro e
    show (if expired cfg s (aged age e.2) then none else some (aged age e.2)).isNone = _
    cases expired cfg s (aged age e.2) <;> rfl
  have hsilent : ∀ id d d', f id d = some d' → d'.silent = d.silent := by
    intro id d d' hf
    have hd' : d' = aged age d := by
      by_cases he : expired cfg s (aged age d) = true <;> simp [f, he] at hf
      exact hf.symm
    rw [hd']
    cases age <;> rfl
  have hsweep := sweep_follows h (startupsCleanupInternal cfg s age).1 (f := f) (k := f) hsilent rfl
    rfl rfl
  simp only [hnone] at hsweep
  exact hsweep

theorem cleanAllNoncompliant_follows (h : Inv cfg s) : Follows cfg s (cleanAllNoncompliant s) := by
  let f (_ : KStartupInfoId) (d : Data) : Option Data :=
    if decide (d.wmclass = Qt.toUtf8 ['0']) = true then none else some d
  have hnone : ∀ e : KStartupInfoId × Data, (f e.1 e.2).isNone = decide (e.2.wmclass = Qt.toUtf8 ['0']) := by
    intro e
    by_cases he : e.2.wmclass = Qt.toUtf8 ['0'] <;> simp [f, he]
  have hsweep := sweep_follows h (cleanAllNoncompliant s).1 (f := f) (g := fun _ d => some d)
    (k := fun _ d => some d) (fun _ _ _ hd => Option.some_inj.mp hd ▸ rfl) rfl (filterMapValues_some _).symm
    (filterMapValues_some _).symm
  simp only [hnone] at hsweep
  exact hsweep

/-! ## Windows -/

theorem findAndRemove_follows (h : Inv cfg s) (found : KStartupInfoId × Data → Bool)
    {otherwise : StartupMatch × Tracker × List Signal} (ho : Follows cfg s otherwise.2) :
    Follows cfg s (findAndRemove s found otherwise).2 := by
  unfold findAndRemove
  split
  · rename_i e he
    have hfind : s.startups.find? e.1 = some e.2 :=
      SortedMap.mem_entries_iff.mp (List.mem_of_find?_eq_some he)
    have hremove : removeStartupInfoInternal s e = removeAllStartupInfoInternal s e.1 := by
      simp [removeStartupInfoInternal, removeAllStartupInfoInternal, hfind]
    show Follows cfg s (removeStartupInfoInternal s e)
    rw [hremove]
    exact removeAllStartupInfoInternal_follows h
  · exact ho

theorem checkStartupInternal_follows (h : Inv cfg s) (w : StartupWindow) :
    Follows cfg s (checkStartupInternal s w).2 := by
  unfold checkStartupInternal
  split
  · exact .refl h
  · split
    · split
      · exact .refl h
      · split <;> exact .refl h
    · dsimp only
      split
      · exact findAndRemove_follows h _ (findAndRemove_follows h _ (.refl h))
      · exact findAndRemove_follows h _ (.refl h)

-- Only a match takes anything away.
theorem checkStartupInternal_cantDetect {w : StartupWindow}
    (hw : (checkStartupInternal s w).1 = .cantDetect) : (checkStartupInternal s w).2 = (s, []) := by
  have hfind : ∀ {found : KStartupInfoId × Data → Bool} {otherwise : StartupMatch × Tracker × List Signal},
      (findAndRemove s found otherwise).1 = .cantDetect →
        findAndRemove s found otherwise = otherwise := by
    intro found otherwise
    unfold findAndRemove
    split
    · intro h
      cases h
    · exact fun _ => rfl
  unfold checkStartupInternal at hw ⊢
  split
  · rfl
  · rename_i hempty
    rw [if_neg hempty] at hw
    split
    · split
      · rfl
      · split <;> rfl
    · rename_i hid
      rw [hid] at hw
      dsimp only at hw ⊢
      split
      · rename_i hpid
        rw [if_pos hpid] at hw
        have hinner := hfind hw
        rw [hinner] at hw ⊢
        rw [hfind hw]
      · rename_i hpid
        rw [if_neg hpid] at hw
        rw [hfind hw]

theorem windowAdded_follows (h : Inv cfg s) (w : StartupWindow) :
    Follows cfg s (windowAdded cfg s w) := by
  have hcheck := checkStartupInternal_follows h w
  have hnone := checkStartupInternal_cantDetect (s := s) (w := w)
  unfold windowAdded
  cases hr : checkStartupInternal s w with
  | mk ret r =>
      rw [hr] at hcheck hnone
      cases ret with
      | cantDetect =>
          have hr : r = (s, []) := hnone rfl
          rw [hr]
          show Follows cfg s (if cfg.cleanOnCantDetect then _ else _)
          split
          · exact cleanAllNoncompliant_follows h
          · exact .refl h
      | noMatch => exact hcheck
      | «match» id data => exact hcheck

/-! ## Runs -/

theorem step_follows (h : Inv cfg s) (e : TrackerEvent) : Follows cfg s (step cfg s e) := by
  cases e with
  | gotMessage msg => exact gotMessage_follows h msg
  | windowAdded w =>
      show Follows cfg s (if cfg.disableKWinModule then _ else _)
      split
      · exact .refl h
      · exact windowAdded_follows h w
  | checkStartup w => exact checkStartupInternal_follows h w
  | startupsCleanup =>
      show Follows cfg s (if _ then _ else _)
      split
      · exact ⟨h, rfl⟩
      · exact startupsCleanupInternal_follows h true
  | startupsCleanupNoAge => exact startupsCleanupInternal_follows h false
  | setTimeout secs => exact ⟨h, rfl⟩

theorem inv_init (cfg : TrackerConfig) : Inv cfg {} := fun _ => .absent

theorem inv_run (cfg : TrackerConfig) (es : List TrackerEvent) : Inv cfg (run (step cfg) {} es).1 :=
  run_invariant (Inv cfg) (fun _ e hs _ => (step_follows hs e).inv) (inv_init cfg)
    (along_true _ es)

/-- In every reachable state the three maps share no key, no key is a null id, every record of
`silent_startups` is silenced, and that map is empty when silence changes are announced. -/
theorem startups_disjoint (cfg : TrackerConfig) (es : List TrackerEvent) :
    let s := (run (step cfg) {} es).1
    Disjoint s.startups.keySet s.silentStartups.keySet ∧
    Disjoint s.startups.keySet s.uninitedStartups.keySet ∧
    Disjoint s.silentStartups.keySet s.uninitedStartups.keySet ∧
    (∀ id ∈ s.startups.keySet ∪ s.silentStartups.keySet ∪ s.uninitedStartups.keySet,
      id.isNull = false) ∧
    (∀ e ∈ s.silentStartups.entries, e.2.silent = .yes) ∧
    (cfg.announceSilenceChanges = true → s.silentStartups.isEmpty = true) := by
  intro s
  have hinv : Inv cfg s := inv_run cfg es
  have hmem : ∀ {m : SortedMap KStartupInfoId Data} {id}, id ∈ m.keySet → ∃ d, m.find? id = some d :=
    fun h => SortedMap.contains_iff.mp (SortedMap.mem_keySet.mp h)
  refine ⟨?_, ?_, ?_, ?_, ?_, ?_⟩
  · apply Finset.disjoint_left.mpr
    intro id hid
    cases hmem hid with
    | intro d hd => exact notMem_keySet_of_find (hd ▸ hinv id).of_startups.2.1
  · apply Finset.disjoint_left.mpr
    intro id hid
    cases hmem hid with
    | intro d hd => exact notMem_keySet_of_find (hd ▸ hinv id).of_startups.2.2
  · apply Finset.disjoint_left.mpr
    intro id hid
    cases hmem hid with
    | intro d hd => exact notMem_keySet_of_find (hd ▸ hinv id).of_silent.2.2.2.2
  · intro id hid
    rw [Finset.mem_union, Finset.mem_union] at hid
    rcases hid with (hid | hid) | hid
    · cases hmem hid with
      | intro d hd => exact (hd ▸ hinv id).of_startups.1
    · cases hmem hid with
      | intro d hd => exact (hd ▸ hinv id).of_silent.1
    · cases hmem hid with
      | intro d hd => exact (hd ▸ hinv id).of_uninited.1
  · intro e he
    have hd := SortedMap.mem_entries_iff.mp he
    exact (hd ▸ hinv e.1).of_silent.2.1
  · intro hflag
    apply SortedMap.isEmpty_iff.mpr
    intro id
    cases hd : s.silentStartups.find? id with
    | none => rfl
    | some d =>
        have hoff := (hd ▸ hinv id).of_silent.2.2.1
        rw [hflag] at hoff
        cases hoff

/-- A listener is told of exactly the ids in `startups`: after every run its view is the key set, no
id was announced while it was announced, and none was removed while it was not. -/
theorem announced_follows_startups (cfg : TrackerConfig) (es : List TrackerEvent) :
    replay announced ∅ (run (step cfg) {} es).2 = some (run (step cfg) {} es).1.startups.keySet :=
  run_replay (Inv cfg) (fun s => s.startups.keySet)
    (fun _ e hs _ => ⟨(step_follows hs e).inv, (step_follows hs e).view⟩) (inv_init cfg)
    (along_true _ es)

end Tracker

end KWindowSystem
