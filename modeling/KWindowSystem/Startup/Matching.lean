import KWindowSystem.Startup.TrackerInvariant

/-!
# Windows matched to startups

`Checks` says once what `check_startup_internal` does, by the strategy that decides.  From it, which
record a match takes away, and when a match is no match: `find_wclass` compares the class of a record
that names neither a class nor a binary with a window that has no class, and finds them equal.
-/

open Machine Qt

namespace KWindowSystem

namespace Tracker

variable {s : Tracker} {w : StartupWindow}

/-- A search of `startups` in key order ends at the record. -/
def Finds (s : Tracker) (found : KStartupInfoId × Data → Bool) (e : KStartupInfoId × Data) : Prop :=
  s.startups.entries.find? found = some e

/-- The search by process is made, and what it looks for. -/
def fitsPid (w : StartupWindow) (e : KStartupInfoId × Data) : Bool :=
  0 < w.pid && w.clientMachine ≠ [] && matchesPid w.pid w.clientMachine e

def fitsClass (w : StartupWindow) (e : KStartupInfoId × Data) : Bool :=
  matchesClass w.windowClassName w.windowClassClass e

/-- What `check_startup_internal` does. -/
inductive Checks (s : Tracker) (w : StartupWindow) : StartupMatch × Tracker × List Signal → Prop where
  | empty (hempty : s.startups.isEmpty = true) : Checks s w (.noMatch, s, [])
  | ignored {id : QByteArray} (hid : windowStartupId w = some id) : Checks s w (.noMatch, s, [])
  | byId {id : QByteArray} {data : Data} (hid : windowStartupId w = some id)
      (hfind : s.startups.find? ⟨id⟩ = some data) :
      Checks s w (.match ⟨id⟩ data.toKStartupInfoData, s, [])
  | byPid {e : KStartupInfoId × Data} (hid : windowStartupId w = none) (hfind : Finds s (fitsPid w) e) :
      Checks s w (.match e.1 e.2.toKStartupInfoData, removeStartupInfoInternal s e)
  | byClass {e : KStartupInfoId × Data} (hid : windowStartupId w = none)
      (hpid : ∀ e ∈ s.startups.entries, fitsPid w e = false) (hfind : Finds s (fitsClass w) e) :
      Checks s w (.match e.1 e.2.toKStartupInfoData, removeStartupInfoInternal s e)
  | unmatched {ret : StartupMatch} (hret : ret = .noMatch ∨ ret = .cantDetect)
      (hclass : ∀ e ∈ s.startups.entries, fitsClass w e = false) : Checks s w (ret, s, [])

theorem checkStartupInternal_checks (s : Tracker) (w : StartupWindow) :
    Checks s w (checkStartupInternal s w) := by
  unfold checkStartupInternal
  split
  · rename_i hempty
    exact .empty hempty
  · split
    · rename_i id hid
      split
      · exact .ignored hid
      · split
        · rename_i data hfind
          exact .byId hid hfind
        · exact .ignored hid
    · rename_i hid
      dsimp only
      -- The search by class, for a window that no process fits.
      have hbyClass : (∀ e ∈ s.startups.entries, fitsPid w e = false) → ∀ ret,
          ret = StartupMatch.noMatch ∨ ret = .cantDetect →
          Checks s w (findAndRemove s (matchesClass w.windowClassName w.windowClassClass) (ret, s, [])) := by
        intro hpid ret hret
        unfold findAndRemove
        split
        · rename_i e hfind
          exact .byClass hid hpid hfind
        · rename_i hnone
          refine .unmatched hret fun e he => ?_
          rw [← Bool.not_eq_true]
          exact List.find?_eq_none.mp hnone e he
      have hret : (if w.windowType = .other then StartupMatch.noMatch
          else if w.transientForOther then .noMatch else .cantDetect) = .noMatch ∨
          (if w.windowType = .other then StartupMatch.noMatch
          else if w.transientForOther then .noMatch else .cantDetect) = .cantDetect := by
        split
        · exact .inl rfl
        · split
          · exact .inl rfl
          · exact .inr rfl
      split
      · rename_i hsearch
        have hfits : fitsPid w = matchesPid w.pid w.clientMachine := by
          funext e
          unfold fitsPid
          rw [decide_eq_true hsearch.1, decide_eq_true hsearch.2]
          rfl
        rw [findAndRemove]
        split
        · rename_i e hfind
          rw [← hfits] at hfind
          exact .byPid hid hfind
        · rename_i hnone
          rw [← hfits] at hnone
          refine hbyClass (fun e he => ?_) _ hret
          rw [← Bool.not_eq_true]
          exact List.find?_eq_none.mp hnone e he
      · rename_i hsearch
        refine hbyClass (fun e he => ?_) _ hret
        unfold fitsPid
        rw [Bool.and_eq_false_iff, Bool.and_eq_false_iff, decide_eq_false_iff_not, decide_eq_false_iff_not]
        tauto

/-! ## What a match is -/

/-- The record carries the startup id of the window, its process, or a class or a binary of its name. -/
def Fits (w : StartupWindow) (e : KStartupInfoId × Data) : Prop :=
  windowStartupId w = some e.1.id ∨ fitsPid w e = true ∨ (e.2.findWMClass ≠ [] ∧ fitsClass w e = true)

instance (w : StartupWindow) (e : KStartupInfoId × Data) : Decidable (Fits w e) :=
  inferInstanceAs (Decidable (_ ∨ _ ∨ _))

/-- A match has a record to match, and takes away the one it returns unless it was found by its id;
nothing else changes the maps. -/
structure MatchesRight (s : Tracker) (w : StartupWindow) (r : StartupMatch × Tracker × List Signal) : Prop where
  fits : ∀ id data, r.1 = .match id data → ∃ e ∈ s.startups.entries, Fits w e
  takes : ∀ id data, r.1 = .match id data → windowStartupId w = none →
    ∃ d, s.startups.find? id = some d ∧ d.toKStartupInfoData = data ∧
      r.2.1 = { s with startups := s.startups.erase id }
  keeps : r.1 = .noMatch ∨ r.1 = .cantDetect ∨ windowStartupId w ≠ none → r.2.1 = s

/-- No record fits a window without a startup id, but the window lacks a class name or a class, and some
record has neither a class nor a binary. -/
def MistakesNameless (s : Tracker) (w : StartupWindow) : Prop :=
  windowStartupId w = none ∧ (w.windowClassName = [] ∨ w.windowClassClass = []) ∧
    (∃ e ∈ s.startups.entries, e.2.findWMClass = []) ∧ ¬∃ e ∈ s.startups.entries, Fits w e

theorem nil_eq_toLower_iff {bytes : QByteArray} : [] = toLower bytes ↔ bytes = [] :=
  eq_comm.trans List.map_eq_nil_iff

theorem fitsClass_nameless {e : KStartupInfoId × Data} (he : e.2.findWMClass = []) :
    fitsClass w e = true ↔ w.windowClassName = [] ∨ w.windowClassClass = [] := by
  unfold fitsClass matchesClass
  rw [he, Bool.or_eq_true, decide_eq_true_iff, decide_eq_true_iff]
  exact or_congr nil_eq_toLower_iff nil_eq_toLower_iff

theorem matchesRight_unmatched {ret : StartupMatch} (hret : ret = .noMatch ∨ ret = .cantDetect) :
    MatchesRight s w (ret, s, []) where
  fits := fun id data h => by
    rw [show ret = .match id data from h] at hret
    rcases hret with hret | hret <;> cases hret
  takes := fun id data h => by
    rw [show ret = .match id data from h] at hret
    rcases hret with hret | hret <;> cases hret
  keeps := fun _ => rfl

-- A record that a search ends at is the one that is returned and taken away.
theorem matchesRight_found {found : KStartupInfoId × Data → Bool} {e : KStartupInfoId × Data}
    (hid : windowStartupId w = none) (hfind : Finds s found e) (hfits : ∃ e ∈ s.startups.entries, Fits w e) :
    MatchesRight s w (.match e.1 e.2.toKStartupInfoData, removeStartupInfoInternal s e) where
  fits := fun _ _ _ => hfits
  takes := fun id data h _ => by
    cases h
    exact ⟨e.2, SortedMap.mem_entries_iff.mp (List.mem_of_find?_eq_some hfind), rfl, rfl⟩
  keeps := fun h => by
    rcases h with h | h | h
    · cases h
    · cases h
    · exact absurd hid h

/-- A match is right exactly if the window is not one that only a record without a name is mistaken
for. -/
theorem matchesRight_iff (s : Tracker) (w : StartupWindow) :
    MatchesRight s w (checkStartupInternal s w) ↔ ¬MistakesNameless s w := by
  have hchecks := checkStartupInternal_checks s w
  generalize checkStartupInternal s w = r at hchecks
  apply Iff.intro
  · rintro hright ⟨hnone, hwindow, ⟨e, he, hnameless⟩, hunfit⟩
    cases hchecks with
    | empty hempty =>
        have hentry := SortedMap.isEmpty_iff.mp hempty e.1
        rw [SortedMap.mem_entries_iff.mp he] at hentry
        cases hentry
    | ignored hid => cases hnone.symm.trans hid
    | byId hid => cases hnone.symm.trans hid
    | byPid => exact hunfit (hright.fits _ _ rfl)
    | byClass => exact hunfit (hright.fits _ _ rfl)
    | unmatched hret hclass =>
        have hfits := (fitsClass_nameless (w := w) hnameless).mpr hwindow
        rw [hclass e he] at hfits
        cases hfits
  · intro hnot
    cases hchecks with
    | empty => exact matchesRight_unmatched (.inl rfl)
    | ignored => exact matchesRight_unmatched (.inl rfl)
    | @byId id data hid hfind =>
        constructor
        · intro _ _ _
          exact ⟨(⟨id⟩, data), SortedMap.mem_entries_iff.mpr hfind, .inl hid⟩
        · intro _ _ _ hnone
          cases hnone.symm.trans hid
        · exact fun _ => rfl
    | @byPid e hid hfind =>
        exact matchesRight_found hid hfind
          ⟨e, List.mem_of_find?_eq_some hfind, .inr (.inl (List.find?_some hfind))⟩
    | @byClass e hid hpid hfind =>
        have hmem : e ∈ s.startups.entries := List.mem_of_find?_eq_some hfind
        have hclass : fitsClass w e = true := List.find?_some hfind
        apply matchesRight_found hid hfind
        by_contra hunfit
        have hnameless : e.2.findWMClass = [] := by
          by_contra hne
          exact hunfit ⟨e, hmem, .inr (.inr ⟨hne, hclass⟩)⟩
        exact hnot ⟨hid, (fitsClass_nameless hnameless).mp hclass, ⟨e, hmem, hnameless⟩, hunfit⟩
    | unmatched hret => exact matchesRight_unmatched hret

-- A startup announced by its name only, and a window without any property.
theorem nameless_matched :
    let s := (run (step {}) {} [.gotMessage "new: ID=a NAME=b".toList]).1
    (checkStartupInternal s {}).1 = .match ⟨[0x61]⟩ { name := ['b'] } ∧
      (checkStartupInternal s {}).2.1.startups.entries = [] ∧ ¬∃ e ∈ s.startups.entries, Fits {} e := by
  decide +kernel

end Tracker

end KWindowSystem
