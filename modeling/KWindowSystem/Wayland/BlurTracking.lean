import KWindowSystem.Wayland.WindowEffects

/-!
# Blurred windows are watched

Whether every window with a background effect or a blur is watched, so that no effect outlives the
surface it was made for.  `disable` drops the watchers before it lets `installBlur` make an effect that
takes the region off, and this effect is what may be left behind.
-/

namespace KWindowSystem

namespace WindowEffects

/-! ## One window -/

/-- What there is about one window. -/
structure Tracking where
  data : Option WindowData
  watcher : Bool
  surfaceWatcher : Option Nat
  blurred : Bool
  contrasted : Bool
  slid : Bool
  blur : Option WlSurface
  effect : Option BackgroundEffect

def tracking (s : WindowEffects) (window : QWindow) : Tracking where
  data := s.windows window
  watcher := s.windowDestroyedWatchers window
  surfaceWatcher := s.surfaceDestroyedWatchers window
  blurred := s.blurRegions.contains window
  contrasted := s.backgroundContrastRegions.contains window
  slid := s.slideMap.contains window
  blur := s.blurs window
  effect := s.backgroundEffects window

def Tracking.surface (t : Tracking) : Option WlSurface :=
  (t.data.bind (·.platform)).bind (·.surface)

/-- A window is watched while an effect is wanted for it, by all the means there are, and has its blur
and its background effect only while it is watched, the latter for its surface. -/
structure Tracking.Sound (t : Tracking) : Prop where
  wanted : (t.blurred || t.contrasted || t.slid) = true → t.watcher = true
  exists_of_watcher : t.watcher = true → ∃ d, t.data = some d ∧ d.filtered = true
  unwatched : t.watcher = false →
    t.surfaceWatcher = none ∧ ∀ d, t.data = some d → d.filtered = false
  surfaces : t.watcher = true → ∀ d p, t.data = some d → d.platform = some p →
    t.surfaceWatcher = some p.id
  blurs : t.blur ≠ none → t.blurred = true
  effects : ∀ e, t.effect = some e → t.watcher = true ∧ t.surface = some e.surface

/-- All windows are as they should be. -/
def Sound (s : WindowEffects) : Prop := ∀ window, (s.tracking window).Sound

/-- No other window is touched. -/
def Only (window : QWindow) (s s' : WindowEffects) : Prop :=
  ∀ w, w ≠ window → s'.tracking w = s.tracking w

theorem Sound.only {s s' : WindowEffects} (hs : s.Sound) (window : QWindow) (h : Only window s s')
    (hwindow : (s'.tracking window).Sound) : s'.Sound := by
  intro w
  by_cases hw : w = window
  · rw [hw]
    exact hwindow
  · rw [h w hw]
    exact hs w

theorem contains_insert {ν : Type} (m : SortedMap QWindow ν) (k : QWindow) (v : ν) (j : QWindow) :
    (m.insert k v).contains j = (decide (j = k) || m.contains j) := by
  unfold SortedMap.contains
  rw [SortedMap.find?_insert]
  by_cases h : j = k <;> simp [h]

theorem contains_erase {ν : Type} (m : SortedMap QWindow ν) (k j : QWindow) :
    (m.erase k).contains j = (!decide (j = k) && m.contains j) := by
  unfold SortedMap.contains
  rw [SortedMap.find?_erase]
  by_cases h : j = k <;> simp [h]

theorem surfaceForWindow_eq (s : WindowEffects) (window : QWindow) :
    s.surfaceForWindow window = (s.tracking window).surface := rfl

/-! ## What the functions do to the window -/

theorem trackWindow_only (s : WindowEffects) (window : QWindow) :
    Only window s (s.trackWindow window) := by
  intro w hw
  unfold trackWindow watchSurface watchWindow
  split <;> split <;> (try split) <;> simp [tracking, setWindow, hw]

theorem tracking_trackWindow (s : WindowEffects) (window : QWindow) :
    (s.trackWindow window).tracking window =
      { s.tracking window with
        data := if s.windowDestroyedWatchers window then s.windows window
          else (s.windows window).map fun data => { data with filtered := true }
        watcher := true
        surfaceWatcher := (s.surfaceDestroyedWatchers window).or ((s.platform window).map (·.id)) } := by
  have hplatform : (s.watchWindow window).platform window = s.platform window := by
    unfold watchWindow platform
    split
    · rfl
    · simp only [setWindow, Function.update_self]
      cases s.windows window <;> rfl
  have hwatch : (s.watchWindow window).tracking window =
      { s.tracking window with
        data := if s.windowDestroyedWatchers window then s.windows window
          else (s.windows window).map fun data => { data with filtered := true }
        watcher := true } := by
    unfold watchWindow
    split
    · rename_i h
      simp [tracking, h]
    · simp [tracking, setWindow]
  have hsurface : ∀ s : WindowEffects, (s.watchSurface window).tracking window =
      { s.tracking window with
        surfaceWatcher :=
          (s.surfaceDestroyedWatchers window).or ((s.platform window).map (·.id)) } := by
    intro s
    unfold watchSurface
    split
    · rename_i h
      rcases Option.isSome_iff_exists.mp h with ⟨id, hid⟩
      simp [tracking, hid]
    · rename_i h
      rw [Option.not_isSome_iff_eq_none] at h
      cases hp : s.platform window with
      | some p => simp [tracking, h]
      | none => simp [tracking, h]
  have hkept : (s.watchWindow window).surfaceDestroyedWatchers = s.surfaceDestroyedWatchers := by
    unfold watchWindow
    split <;> rfl
  unfold trackWindow
  rw [hsurface, hwatch, hplatform, hkept]

-- A window that exists is watched by all means.
theorem Sound.trackWindow {s : WindowEffects} (hs : s.Sound) {window : QWindow}
    (halive : (s.windows window).isSome = true) : (s.trackWindow window).Sound := by
  apply hs.only window (trackWindow_only s window)
  have h := hs window
  rcases Option.isSome_iff_exists.mp halive with ⟨data, hdata⟩
  rw [tracking_trackWindow]
  have hplatform : s.platform window = data.platform := by
    unfold platform
    rw [hdata]
    rfl
  cases hwatched : s.windowDestroyedWatchers window with
  | true =>
      exact
        { wanted := fun _ => rfl
          exists_of_watcher := fun _ => by
            rw [if_pos rfl]
            exact h.exists_of_watcher hwatched
          unwatched := fun hno => nomatch hno
          surfaces := fun _ d p hd hp => by
            rw [if_pos rfl] at hd
            have hid : s.surfaceDestroyedWatchers window = some p.id := h.surfaces hwatched d p hd hp
            show Option.or _ _ = _
            rw [hid]
            rfl
          blurs := h.blurs
          effects := fun e he => by
            have heffect := h.effects e he
            exact ⟨rfl, heffect.2⟩ }
  | false =>
      have hnone : s.surfaceDestroyedWatchers window = none := (h.unwatched hwatched).1
      exact
        { wanted := fun _ => rfl
          exists_of_watcher := fun _ => by
            rw [hdata]
            exact ⟨_, rfl, rfl⟩
          unwatched := fun hno => nomatch hno
          surfaces := fun _ d p hd hp => by
            rw [hdata] at hd
            rw [← Option.some.inj hd] at hp
            show Option.or _ _ = _
            rw [hnone, hplatform, hp]
            rfl
          blurs := h.blurs
          effects := fun e he => by
            have heffect : s.windowDestroyedWatchers window = true := (h.effects e he).1
            rw [hwatched] at heffect
            exact nomatch heffect }

theorem releaseWindow_only (s : WindowEffects) (window : QWindow) :
    Only window s (s.releaseWindow window) := by
  intro w hw
  unfold releaseWindow
  split
  · rfl
  · simp [tracking, setWindow, hw]

theorem tracking_releaseWindow {s : WindowEffects} {window : QWindow}
    (h : s.wanted window = false) :
    (s.releaseWindow window).tracking window =
      { s.tracking window with
        data := (s.windows window).map fun data => { data with filtered := false }
        watcher := false
        surfaceWatcher := none } := by
  unfold releaseWindow
  rw [if_neg (by simp [h])]
  simp [tracking, setWindow]

-- A window may be released once no background effect is left.
theorem Sound.releaseWindow {s : WindowEffects} (hs : s.Sound) {window : QWindow}
    (h : s.wanted window = true ∨ s.backgroundEffects window = none) :
    (s.releaseWindow window).Sound := by
  cases hwanted : s.wanted window with
  | true =>
      unfold WindowEffects.releaseWindow
      rw [if_pos hwanted]
      exact hs
  | false =>
      have hnone := h.resolve_left (by simp [hwanted])
      apply hs.only window (releaseWindow_only s window)
      rw [tracking_releaseWindow hwanted]
      exact
        { wanted := fun hw => by
            have hw : s.wanted window = true := hw
            rw [hwanted] at hw
            exact nomatch hw
          exists_of_watcher := fun hw => nomatch hw
          unwatched := fun _ => by
            refine ⟨rfl, ?_⟩
            intro d hd
            rcases Option.map_eq_some_iff.mp hd with ⟨data, -, hdata⟩
            rw [← hdata]
          surfaces := fun hw => nomatch hw
          blurs := (hs window).blurs
          effects := fun e he => by
            have he : s.backgroundEffects window = some e := he
            rw [hnone] at he
            exact nomatch he }

theorem resetBlur_only (s : WindowEffects) (window : QWindow) (blur : Option WlSurface) :
    Only window s (s.resetBlur window blur) := by
  intro w hw
  simp [tracking, resetBlur, hw]

theorem tracking_resetBlur (s : WindowEffects) (window : QWindow) (blur : Option WlSurface) :
    (s.resetBlur window blur).tracking window =
      { s.tracking window with blur := blur, effect := none } := by
  simp [tracking, resetBlur]

theorem Sound.resetBlur {s : WindowEffects} (hs : s.Sound) (window : QWindow)
    {blur : Option WlSurface} (h : blur ≠ none → s.blurRegions.contains window = true) :
    (s.resetBlur window blur).Sound := by
  apply hs.only window (resetBlur_only s window blur)
  rw [tracking_resetBlur]
  have hwindow := hs window
  exact
    { wanted := hwindow.wanted
      exists_of_watcher := hwindow.exists_of_watcher
      unwatched := hwindow.unwatched
      surfaces := hwindow.surfaces
      blurs := h
      effects := fun e he => nomatch he }

-- A window whose region is forgotten may keep its watchers, but not its blur.
theorem Sound.forgetBlur {s : WindowEffects} (hs : s.Sound) (window : QWindow) :
    ({ s with blurRegions := s.blurRegions.erase window }.resetBlur window none).Sound := by
  have hwindow := hs window
  apply hs.only window
  · intro w hw
    simp [tracking, WindowEffects.resetBlur, hw, contains_erase]
  · rw [tracking_resetBlur]
    exact
      { wanted := fun h => hwindow.wanted (by
          simp only [tracking, contains_erase] at h ⊢
          revert h
          cases s.blurRegions.contains window <;> simp)
        exists_of_watcher := hwindow.exists_of_watcher
        unwatched := hwindow.unwatched
        surfaces := hwindow.surfaces
        blurs := fun h => absurd rfl h
        effects := fun e he => nomatch he }

/-! ## Installing -/

/-- A region is only set on an effect of the window's own surface. -/
def Request.Live : Request → Prop
  | .setBlurRegion effect surface _ => effect.surface = surface
  | _ => True

/-- Sound states and live requests, as they come out of every function. -/
def Good (after : WindowEffects × List Request) : Prop :=
  after.1.Sound ∧ ∀ request ∈ after.2, request.Live

/-- Installing changes nothing but the objects that are installed. -/
structure Installed (s s' : WindowEffects) : Prop where
  windows : s'.windows = s.windows
  windowDestroyedWatchers : s'.windowDestroyedWatchers = s.windowDestroyedWatchers
  blurRegions : s'.blurRegions = s.blurRegions
  backgroundEffectManager : s'.backgroundEffectManager = s.backgroundEffectManager
  supportsBlur : s'.supportsBlur = s.supportsBlur

/-- An effect would be made, or one is there to be changed. -/
def makesEffect (s : WindowEffects) (window : QWindow) : Bool :=
  (s.surfaceForWindow window).isSome && s.backgroundEffectManager && s.supportsBlur

theorem installBlur_installed (s : WindowEffects) (window : QWindow) (enable : Bool)
    (region : QRegion) : Installed s (s.installBlur window enable region).1 := by
  unfold installBlur
  split
  · exact ⟨rfl, rfl, rfl, rfl, rfl⟩
  · split
    · dsimp only
      split <;> exact ⟨rfl, rfl, rfl, rfl, rfl⟩
    · split
      · split
        · split <;> exact ⟨rfl, rfl, rfl, rfl, rfl⟩
        · exact ⟨rfl, rfl, rfl, rfl, rfl⟩
      · exact ⟨rfl, rfl, rfl, rfl, rfl⟩

theorem installBlur_sound {s : WindowEffects} (hs : s.Sound) (window : QWindow) (enable : Bool)
    (region : QRegion) (henable : enable = true → s.blurRegions.contains window = true)
    (hmakes : s.makesEffect window = true → s.windowDestroyedWatchers window = true) :
    Good (s.installBlur window enable region) := by
  have hwindow := hs window
  -- The objects of the old protocol go before one of the new one is made.
  have hunblurred : WindowEffects.Sound { s with blurs := Function.update s.blurs window none } := by
    apply hs.only window
    · intro w hw
      simp [tracking, hw]
    · exact
        { wanted := hwindow.wanted
          exists_of_watcher := hwindow.exists_of_watcher
          unwatched := hwindow.unwatched
          surfaces := hwindow.surfaces
          blurs := fun h => absurd (by simp [tracking]) h
          effects := hwindow.effects }
  unfold installBlur
  cases hsurface : s.surfaceForWindow window with
  | none => exact ⟨hs, by simp⟩
  | some surface =>
      cases hmanager : s.backgroundEffectManager with
      | true =>
          cases hsupports : s.supportsBlur with
          | true =>
              have hwatched := hmakes (by simp [makesEffect, hsurface, hmanager, hsupports])
              have heffect : ((s.backgroundEffects window).getD ⟨surface⟩).surface = surface := by
                cases he : s.backgroundEffects window with
                | none => rfl
                | some e =>
                    have hlive := (hwindow.effects e he).2
                    rw [← surfaceForWindow_eq, hsurface] at hlive
                    exact (Option.some.inj hlive).symm
              simp only [if_true]
              refine ⟨?_, ?_⟩
              · apply hunblurred.only window
                · intro w hw
                  simp [tracking, hw]
                · have hold := hunblurred window
                  exact
                    { wanted := hold.wanted
                      exists_of_watcher := hold.exists_of_watcher
                      unwatched := hold.unwatched
                      surfaces := hold.surfaces
                      blurs := hold.blurs
                      effects := fun e he => by
                        refine ⟨hwatched, ?_⟩
                        have he : e = (s.backgroundEffects window).getD ⟨surface⟩ := by
                          simpa [tracking] using he.symm
                        rw [he, heffect]
                        exact hsurface }
              · intro request hrequest
                rcases List.mem_append.mp hrequest with hmade | hset
                · split at hmade
                  · exact nomatch hmade
                  · rw [List.mem_singleton.mp hmade]
                    trivial
                · rw [List.mem_singleton.mp hset]
                  exact heffect
          | false =>
              simp only [if_true]
              exact ⟨hunblurred, by simp⟩
      | false =>
          simp only [Bool.false_eq_true, if_false]
          split
          · split
            · split
              · exact ⟨hs, by simp⟩
              · exact ⟨hs.resetBlur window fun _ => henable ‹_›, by simp [Request.Live]⟩
            · exact ⟨hs.resetBlur window fun h => absurd rfl h, by simp [Request.Live]⟩
          · exact ⟨hs, by simp⟩

theorem mem_blurRegions {s : WindowEffects} {entry : QWindow × QRegion}
    (h : entry ∈ s.blurRegions.entries) : s.blurRegions.contains entry.1 = true :=
  SortedMap.contains_iff.mpr ⟨entry.2, SortedMap.mem_entries_iff.mp h⟩

-- Every blurred window gets its blur again.
theorem installAll_sound {s : WindowEffects} (hs : s.Sound) (enable : WindowEffects → Bool) :
    let after := installAll (fun s window region => s.installBlur window (enable s) region)
      s.blurRegions.entries s
    after.1.Sound ∧ ∀ request ∈ after.2, request.Live := by
  dsimp only
  unfold installAll
  have hstep : ∀ (s' : WindowEffects) (entry : QWindow × QRegion),
      (s'.Sound ∧ s'.blurRegions = s.blurRegions) →
      s.blurRegions.contains entry.1 = true →
      ((s'.installBlur entry.1 (enable s') entry.2).1.Sound ∧
        (s'.installBlur entry.1 (enable s') entry.2).1.blurRegions = s.blurRegions) ∧
      ∀ request ∈ (s'.installBlur entry.1 (enable s') entry.2).2, request.Live := by
    intro s' entry hs' hentry
    rw [← hs'.2] at hentry
    have hspec := installBlur_sound hs'.1 entry.1 (enable s') entry.2 (fun _ => hentry)
      (fun _ => (hs'.1 entry.1).wanted (by simp [tracking, hentry]))
    refine ⟨⟨hspec.1, ?_⟩, hspec.2⟩
    rw [(installBlur_installed s' entry.1 (enable s') entry.2).blurRegions]
    exact hs'.2
  have halong : Machine.Along (fun (s : WindowEffects) (entry : QWindow × QRegion) =>
      s.installBlur entry.1 (enable s) entry.2) (fun _ entry => s.blurRegions.contains entry.1 = true)
      s s.blurRegions.entries :=
    Machine.along_of_forall s fun _ => mem_blurRegions
  apply And.intro
  · exact (Machine.run_invariant (fun s' : WindowEffects => s'.Sound ∧ s'.blurRegions = s.blurRegions)
      (fun s' entry h he => (hstep s' entry h he).1) ⟨hs, rfl⟩ halong).1
  · exact Machine.run_emits (fun s' : WindowEffects => s'.Sound ∧ s'.blurRegions = s.blurRegions)
      hstep ⟨hs, rfl⟩ halong

-- The contrast is not part of what is said about a window.
theorem installContrast_tracking (s : WindowEffects) (window : QWindow) (enable : Bool)
    (data : BackgroundContrastData) :
    (s.installContrast window enable data).1.tracking = s.tracking ∧
      ∀ request ∈ (s.installContrast window enable data).2, request.Live := by
  unfold installContrast
  split
  · split
    · exact ⟨rfl, by simp⟩
    · split
      · split
        · exact ⟨rfl, by simp⟩
        · exact ⟨rfl, by simp [Request.Live]⟩
      · exact ⟨rfl, by simp [Request.Live]⟩
  · exact ⟨rfl, by simp⟩

theorem installSlide_tracking (s : WindowEffects) (window : QWindow) (data : SlideData) :
    (s.installSlide window data).1.tracking = s.tracking ∧
      ∀ request ∈ (s.installSlide window data).2, request.Live := by
  unfold installSlide
  split
  · split
    · exact ⟨rfl, by simp⟩
    · split <;> exact ⟨rfl, by simp [Request.Live]⟩
  · exact ⟨rfl, by simp⟩

theorem Sound.congr {s s' : WindowEffects} (hs : s.Sound) (h : s'.tracking = s.tracking) : s'.Sound := by
  intro window
  rw [h]
  exact hs window

theorem Sound.installContrast {s : WindowEffects} (hs : s.Sound) (window : QWindow) (enable : Bool)
    (data : BackgroundContrastData) : Good (s.installContrast window enable data) := by
  have h := installContrast_tracking s window enable data
  exact ⟨hs.congr h.1, h.2⟩

theorem Sound.installSlide {s : WindowEffects} (hs : s.Sound) (window : QWindow) (data : SlideData) :
    Good (s.installSlide window data) := by
  have h := installSlide_tracking s window data
  exact ⟨hs.congr h.1, h.2⟩

-- A handler that goes over a map and leaves what is said about the windows alone.
theorem installAll_tracking {ν : Type} (install : WindowEffects → QWindow → ν → WindowEffects × List Request)
    (h : ∀ s window v, (install s window v).1.tracking = s.tracking ∧
      ∀ request ∈ (install s window v).2, request.Live)
    (entries : List (QWindow × ν)) (s : WindowEffects) :
    (installAll install entries s).1.tracking = s.tracking ∧
      ∀ request ∈ (installAll install entries s).2, request.Live := by
  have halong : Machine.Along (fun (s : WindowEffects) (entry : QWindow × ν) =>
      install s entry.1 entry.2) (fun _ _ => True) s entries := Machine.along_true s entries
  have hstep : ∀ (s' : WindowEffects) (entry : QWindow × ν), s'.tracking = s.tracking → True →
      (install s' entry.1 entry.2).1.tracking = s.tracking ∧
        ∀ request ∈ (install s' entry.1 entry.2).2, request.Live := by
    intro s' entry hs' _
    have hspec := h s' entry.1 entry.2
    exact ⟨hspec.1.trans hs', hspec.2⟩
  apply And.intro
  · exact Machine.run_invariant (fun s' : WindowEffects => s'.tracking = s.tracking)
      (fun s' entry hs' he => (hstep s' entry hs' he).1) rfl halong
  · exact Machine.run_emits (fun s' : WindowEffects => s'.tracking = s.tracking) hstep rfl halong

-- So does a manager whose handler it is.
theorem Sound.installAll {s : WindowEffects} (hs : s.Sound) {ν : Type}
    (install : WindowEffects → QWindow → ν → WindowEffects × List Request)
    (h : ∀ s window v, (install s window v).1.tracking = s.tracking ∧
      ∀ request ∈ (install s window v).2, request.Live)
    (entries : List (QWindow × ν)) : Good (WindowEffects.installAll install entries s) :=
  have hall := installAll_tracking install h entries s
  ⟨hs.congr hall.1, hall.2⟩

/-! ## What Qt does -/

-- The data of a window change, but not what its platform window and surface are to its watchers.
theorem Sound.setWindow {s : WindowEffects} (hs : s.Sound) (window : QWindow)
    (f : WindowData → WindowData) (hfiltered : ∀ d, (f d).filtered = d.filtered)
    (hplatform : ∀ d p, s.windows window = some d → (f d).platform = some p →
      ∃ q, d.platform = some q ∧ q.id = p.id)
    (hsurface : s.backgroundEffects window ≠ none → ∀ d, s.windows window = some d →
      (f d).platform.bind (·.surface) = d.platform.bind (·.surface)) :
    (s.setWindow window f).Sound := by
  have h := hs window
  apply hs.only window
  · intro w hw
    simp [tracking, WindowEffects.setWindow, hw]
  · have heq : (s.setWindow window f).tracking window =
        { s.tracking window with data := (s.windows window).map f } := by
      simp [tracking, WindowEffects.setWindow]
    rw [heq]
    exact
      { wanted := h.wanted
        exists_of_watcher := fun hw => by
          rcases h.exists_of_watcher hw with ⟨d, hd, hdf⟩
          refine ⟨f d, ?_, ?_⟩
          · show (s.windows window).map f = _
            rw [show s.windows window = some d from hd]
            rfl
          · rw [hfiltered, hdf]
        unwatched := fun hw => by
          refine ⟨(h.unwatched hw).1, ?_⟩
          intro d hd
          rcases Option.map_eq_some_iff.mp hd with ⟨d', hd', heq⟩
          rw [← heq, hfiltered]
          exact (h.unwatched hw).2 d' hd'
        surfaces := fun hw d p hd hp => by
          rcases Option.map_eq_some_iff.mp hd with ⟨d', hd', heq⟩
          rw [← heq] at hp
          rcases hplatform d' p hd' hp with ⟨q, hq, hid⟩
          rw [← hid]
          exact h.surfaces hw d' q hd' hq
        blurs := h.blurs
        effects := fun e he => by
          have heffect := h.effects e he
          refine ⟨heffect.1, ?_⟩
          rcases h.exists_of_watcher heffect.1 with ⟨d, hd, -⟩
          have hd : s.windows window = some d := hd
          have hsame := hsurface (by simp [show s.backgroundEffects window = some e from he]) d hd
          have hlive := heffect.2
          show ((((s.windows window).map f).bind (·.platform)).bind (·.surface)) = _
          unfold Tracking.surface at hlive
          rw [show (s.tracking window).data = some d from hd] at hlive
          rw [hd]
          exact hsame.trans hlive }

-- A window that is not watched has no background effect.
theorem Sound.noEffect {s : WindowEffects} (hs : s.Sound) {window : QWindow}
    (h : s.windowDestroyedWatchers window = false ∨ s.surfaceForWindow window = none) :
    s.backgroundEffects window = none := by
  cases heffect : s.backgroundEffects window with
  | none => rfl
  | some e =>
      have hlive := (hs window).effects e heffect
      rcases h with h | h
      · rw [show (s.tracking window).watcher = s.windowDestroyedWatchers window from rfl, h] at hlive
        exact nomatch hlive.1
      · rw [← surfaceForWindow_eq, h] at hlive
        exact nomatch hlive.2

theorem data_of_platform {s : WindowEffects} {window : QWindow} {p : QWaylandWindow}
    (h : s.platform window = some p) : ∃ d, s.windows window = some d ∧ d.platform = some p := by
  unfold platform at h
  exact Option.bind_eq_some_iff.mp h

-- The surface of a window goes, and its background effect with it.
theorem dropSurface_sound {s : WindowEffects} (hs : s.Sound) (window : QWindow) :
    (s.dropSurface window).Sound ∧ (s.dropSurface window).backgroundEffects window = none := by
  unfold dropSurface
  split
  · rename_i id surface hplatform
    rcases data_of_platform hplatform with ⟨d, hd, hdp⟩
    have hid : ∀ d' p, s.windows window = some d' → some (⟨id, none⟩ : QWaylandWindow) = some p →
        ∃ q, d'.platform = some q ∧ q.id = p.id := by
      intro d' p hd' hp
      rw [hd] at hd'
      refine ⟨⟨id, some surface⟩, ?_, ?_⟩
      · rw [← Option.some.inj hd']
        exact hdp
      · rw [← Option.some.inj hp]
    dsimp only
    split
    · rename_i hwatched
      have hreset : (s.surfaceDestroyed window).Sound :=
        (hs.resetBlur window fun h => absurd rfl h).congr rfl
      refine ⟨?_, ?_⟩
      · apply hreset.setWindow window (fun data => { data with platform := some ⟨id, none⟩ })
          (fun _ => rfl) hid
        intro h
        exact absurd (by simp [surfaceDestroyed, resetContrast, resetBlur]) h
      · simp [surfaceDestroyed, resetContrast, resetBlur]
    · rename_i hunwatched
      have hno : s.windowDestroyedWatchers window = false := by
        cases hw : s.windowDestroyedWatchers window with
        | false => rfl
        | true => exact absurd ((hs window).surfaces hw d _ hd hdp) hunwatched
      have hnone := hs.noEffect (.inl hno)
      refine ⟨?_, hnone⟩
      apply hs.setWindow window (fun data => { data with platform := some ⟨id, none⟩ })
        (fun _ => rfl) hid
      intro h
      exact absurd hnone h
  · rename_i hno
    refine ⟨hs, hs.noEffect (.inr ?_)⟩
    unfold surfaceForWindow
    cases hp : s.platform window with
    | none => rfl
    | some p =>
        cases hsurface : p.surface with
        | none => exact hsurface
        | some surface => exact absurd (hp.trans (congrArg some (by rw [← hsurface]))) (hno p.id surface)

theorem dropPlatform_sound {s : WindowEffects} (hs : s.Sound) (window : QWindow) :
    (s.dropPlatform window).Sound ∧ (s.dropPlatform window).backgroundEffects window = none := by
  have hdrop := dropSurface_sound hs window
  refine ⟨?_, hdrop.2⟩
  exact hdrop.1.setWindow window _ (fun _ => rfl) (fun _ _ _ h => nomatch h)
    (fun h => absurd hdrop.2 h)

theorem tracking_createPlatform (s : WindowEffects) (window : QWindow) (p : QWaylandWindow)
    {d : WindowData} (hd : s.windows window = some d) (n : Nat) :
    let created := { s.setWindow window fun data => { data with platform := some p } with fresh := n }
    (if created.filtered window then created.surfaceCreatedEvent window else created).tracking window =
      { s.tracking window with
        data := some { d with platform := some p }
        surfaceWatcher := if d.filtered then some p.id else s.surfaceDestroyedWatchers window } := by
  dsimp only
  have hfiltered : filtered { s.setWindow window fun data => { data with platform := some p } with fresh := n }
      window = d.filtered := by
    simp [filtered, setWindow, hd]
  have hplatform : platform { s.setWindow window fun data => { data with platform := some p } with fresh := n }
      window = some p := by
    simp [platform, setWindow, hd]
  rw [hfiltered]
  cases h : d.filtered with
  | true =>
      rw [if_pos rfl]
      unfold surfaceCreatedEvent
      rw [hplatform]
      simp [tracking, setWindow, hd, h]
  | false =>
      rw [if_neg (by simp)]
      simp [tracking, setWindow, hd, h]

theorem createPlatform_only (s : WindowEffects) (window : QWindow) (p : QWaylandWindow) (n : Nat) :
    let created := { s.setWindow window fun data => { data with platform := some p } with fresh := n }
    Only window s
      (if created.filtered window then created.surfaceCreatedEvent window else created) := by
  intro created w hw
  have hcreated : created.tracking w = s.tracking w := by
    simp [created, tracking, setWindow, hw]
  split
  · rw [← hcreated]
    unfold surfaceCreatedEvent
    split
    · simp [tracking, hw]
    · rfl
  · exact hcreated

theorem createPlatform_sound {s : WindowEffects} (hs : s.Sound) (window : QWindow) (withSurface : Bool) :
    (s.step (.createPlatform window withSurface)).1.Sound := by
  unfold step
  dsimp only
  split
  · rename_i h
    rw [Bool.and_eq_true, Option.isNone_iff_eq_none] at h
    rcases Option.isSome_iff_exists.mp h.1 with ⟨d, hd⟩
    have hwindow := hs window
    have hnone : s.backgroundEffects window = none :=
      hs.noEffect (.inr (by unfold surfaceForWindow; rw [h.2]; rfl))
    have heq := tracking_createPlatform s window
      ⟨s.fresh, if withSurface then some (s.fresh + 1) else none⟩ hd (s.fresh + 2)
    apply hs.only window (createPlatform_only s window _ _)
    · refine Eq.mpr (congrArg Tracking.Sound heq) ?_
      have hfiltered : s.windowDestroyedWatchers window = d.filtered := by
        cases hw : s.windowDestroyedWatchers window with
        | true =>
            rcases hwindow.exists_of_watcher hw with ⟨d', hd', hdf⟩
            rw [show d = d' from Option.some.inj (hd.symm.trans hd'), hdf]
        | false => exact ((hwindow.unwatched hw).2 d hd).symm
      exact
        { wanted := hwindow.wanted
          exists_of_watcher := fun hw => ⟨_, rfl, by
            show d.filtered = true
            rw [← hfiltered]
            exact hw⟩
          unwatched := fun hw => by
            have hno : d.filtered = false := hfiltered.symm.trans hw
            refine ⟨?_, ?_⟩
            · show (if d.filtered then _ else _) = none
              rw [if_neg (by simp [hno])]
              exact (hwindow.unwatched hw).1
            · intro d' hd'
              rw [← Option.some.inj hd']
              exact hno
          surfaces := fun hw d' p hd' hp => by
            have hyes : d.filtered = true := hfiltered.symm.trans hw
            show (if d.filtered then _ else _) = _
            rw [if_pos hyes]
            rw [← Option.some.inj hd'] at hp
            rw [← Option.some.inj hp]
          blurs := hwindow.blurs
          effects := fun e he => by
            have he : s.backgroundEffects window = some e := he
            rw [hnone] at he
            exact nomatch he }
  · exact hs

theorem destroyWindow_sound {s : WindowEffects} (hs : s.Sound) (window : QWindow) :
    (s.step (.destroyWindow window)).1.Sound := by
  unfold step
  dsimp only
  have hdrop := dropPlatform_sound hs window
  generalize s.dropPlatform window = s' at hdrop
  have hwindow := hdrop.1 window
  split
  · apply hdrop.1.only window
    · intro w hw
      simp [tracking, windowDestroyed, resetContrast, resetBlur, hw, contains_erase]
    · exact
        { wanted := fun h => by
            simp [tracking, windowDestroyed, resetContrast, resetBlur, contains_erase] at h
          exists_of_watcher := fun h => by
            simp [tracking, windowDestroyed, resetContrast, resetBlur] at h
          unwatched := fun _ => by
            simp [tracking, windowDestroyed, resetContrast, resetBlur]
          surfaces := fun h => by
            simp [tracking, windowDestroyed, resetContrast, resetBlur] at h
          blurs := fun h => by
            simp [tracking, windowDestroyed, resetContrast, resetBlur] at h
          effects := fun e h => by
            simp [tracking, windowDestroyed, resetContrast, resetBlur] at h }
  · rename_i hno
    rw [Bool.not_eq_true] at hno
    have hno : s'.windowDestroyedWatchers window = false := hno
    apply hdrop.1.only window
    · intro w hw
      simp [tracking, hw]
    · have hdata : tracking { s' with windows := Function.update s'.windows window none } window =
          { s'.tracking window with data := none } := by
        simp [tracking]
      rw [hdata]
      exact
        { wanted := hwindow.wanted
          exists_of_watcher := fun h => by
            have h : s'.windowDestroyedWatchers window = true := h
            rw [hno] at h
            exact nomatch h
          unwatched := fun h => ⟨(hwindow.unwatched h).1, fun d hd => nomatch hd⟩
          surfaces := fun _ _ _ hd => nomatch hd
          blurs := hwindow.blurs
          effects := fun e he => by
            have he : s'.backgroundEffects window = some e := he
            rw [hdrop.2] at he
            exact nomatch he }

/-! ## The calls -/

-- What is wanted for a window changes.
theorem Sound.want {s s' : WindowEffects} (hs : s.Sound) (window : QWindow) (b c d : Bool)
    (h : Only window s s')
    (heq : s'.tracking window =
      { s.tracking window with blurred := b, contrasted := c, slid := d })
    (hwanted : (b || c || d) = true → s.windowDestroyedWatchers window = true)
    (hblur : s.blurs window ≠ none → b = true) : s'.Sound := by
  have hwindow := hs window
  apply hs.only window h
  rw [heq]
  exact
    { wanted := hwanted
      exists_of_watcher := hwindow.exists_of_watcher
      unwatched := hwindow.unwatched
      surfaces := hwindow.surfaces
      blurs := hblur
      effects := hwindow.effects }

theorem watched_trackWindow (s : WindowEffects) (window : QWindow) :
    (s.trackWindow window).windowDestroyedWatchers window = true := by
  have h := congrArg Tracking.watcher (tracking_trackWindow s window)
  exact h

-- Forgetting an effect takes nothing away that another one needs.
theorem watched_of_wanted {s : WindowEffects} (hs : s.Sound) {window : QWindow} {b c d : Bool}
    (hb : b = true → s.blurRegions.contains window = true)
    (hc : c = true → s.backgroundContrastRegions.contains window = true)
    (hd : d = true → s.slideMap.contains window = true) (h : (b || c || d) = true) :
    s.windowDestroyedWatchers window = true := by
  apply (hs window).wanted
  simp only [tracking, Bool.or_eq_true] at h ⊢
  rcases h with (h | h) | h
  · exact .inl (.inl (hb h))
  · exact .inl (.inr (hc h))
  · exact .inr (hd h)

theorem enableBlurBehind_true_sound {s : WindowEffects} (hs : s.Sound) {window : QWindow}
    (halive : (s.windows window).isSome = true) (region : QRegion) :
    Good (s.enableBlurBehind window true region) := by
  have htrack := hs.trackWindow halive
  have hwatched := watched_trackWindow s window
  unfold enableBlurBehind
  rw [if_pos rfl]
  dsimp only
  generalize s.trackWindow window = t at htrack hwatched
  split
  · exact ⟨htrack, by simp⟩
  · have hcontains : (t.blurRegions.insert window region).contains window = true := by
      rw [contains_insert]
      simp
    have hinsert : WindowEffects.Sound { t with blurRegions := t.blurRegions.insert window region } := by
      apply htrack.want window true (t.backgroundContrastRegions.contains window)
        (t.slideMap.contains window)
      · intro w hw
        simp [tracking, contains_insert, hw]
      · simp only [tracking, hcontains]
      · exact fun _ => hwatched
      · exact fun _ => rfl
    exact installBlur_sound hinsert window true region (fun _ => hcontains) fun _ => hwatched

/-- The last effect of a window is dropped, and with it the watchers, when there will be a background
effect. -/
def Forgets (s : WindowEffects) : Event → Prop
  | .enableBlurBehind window enable _ =>
      enable = false ∧ s.blurRegions.contains window = true ∧
        s.backgroundContrastRegions.contains window = false ∧ s.slideMap.contains window = false ∧
        s.makesEffect window = true
  | .enableBackgroundContrast window enable _ =>
      enable = false ∧ s.backgroundContrastRegions.contains window = true ∧
        s.blurRegions.contains window = false ∧ s.slideMap.contains window = false ∧
        s.backgroundEffects window ≠ none
  | .slideWindow window data =>
      data.location = .noEdge ∧ s.slideMap.contains window = true ∧
        s.blurRegions.contains window = false ∧ s.backgroundContrastRegions.contains window = false ∧
        s.backgroundEffects window ≠ none
  | _ => False

instance (s : WindowEffects) (e : Event) : Decidable (s.Forgets e) := by
  cases e <;> unfold Forgets <;> infer_instance

theorem makesEffect_releaseWindow (s : WindowEffects) (window : QWindow) :
    (s.releaseWindow window).makesEffect window = s.makesEffect window := by
  unfold releaseWindow
  split
  · rfl
  · unfold makesEffect surfaceForWindow platform setWindow
    dsimp only
    rw [Function.update_self]
    cases s.windows window <;> rfl

/-- The state in which `installBlur` takes the region off. -/
def forgotten (s : WindowEffects) (window : QWindow) : WindowEffects :=
  ({ s with blurRegions := s.blurRegions.erase window }.resetBlur window none).releaseWindow window

theorem forgotten_sound {s : WindowEffects} (hs : s.Sound) (window : QWindow) :
    (s.forgotten window).Sound :=
  (hs.forgetBlur window).releaseWindow (.inr (by simp [resetBlur]))

-- Which of the two it is: the window stays watched for another effect, or it is not watched any more.
theorem watched_forgotten {s : WindowEffects} (hs : s.Sound) {window : QWindow}
    (h : s.blurRegions.contains window = true) :
    (s.forgotten window).windowDestroyedWatchers window =
      (s.backgroundContrastRegions.contains window || s.slideMap.contains window) := by
  have hwatched : s.windowDestroyedWatchers window = true :=
    (hs window).wanted (by simp [tracking, h])
  unfold forgotten releaseWindow wanted
  simp only [resetBlur, contains_erase, decide_true, Bool.not_true, Bool.false_and, Bool.false_or]
  split
  · rename_i hwanted
    rw [hwanted]
    exact hwatched
  · rename_i hunwanted
    rw [Bool.not_eq_true] at hunwanted
    simp [hunwanted]

theorem makesEffect_forgotten (s : WindowEffects) (window : QWindow) :
    (s.forgotten window).makesEffect window = s.makesEffect window := by
  unfold forgotten
  rw [makesEffect_releaseWindow]
  rfl

theorem enableBlurBehind_false_sound {s : WindowEffects} (hs : s.Sound) {window : QWindow}
    (region : QRegion) (hok : ¬s.Forgets (.enableBlurBehind window false region)) :
    Good (s.enableBlurBehind window false region) := by
  unfold enableBlurBehind
  rw [if_neg (by simp)]
  split
  · rename_i hcontains
    apply installBlur_sound (forgotten_sound hs window) window false region
    · intro h
      exact nomatch h
    · intro hmakes
      rw [watched_forgotten hs hcontains]
      rw [makesEffect_forgotten] at hmakes
      by_contra hno
      rw [Bool.not_eq_true, Bool.or_eq_false_iff] at hno
      exact hok ⟨rfl, hcontains, hno.1, hno.2, hmakes⟩
  · exact ⟨hs, by simp⟩

-- A window is released of an effect that is not the blur.
theorem Sound.release {s : WindowEffects} (hs : s.Sound) (window : QWindow)
    (h : s.blurRegions.contains window = false → s.wanted window = false →
      s.backgroundEffects window = none) :
    (s.releaseWindow window).Sound := by
  apply hs.releaseWindow
  cases hwanted : s.wanted window with
  | true => exact .inl rfl
  | false =>
      right
      apply h _ hwanted
      unfold wanted at hwanted
      rw [Bool.or_eq_false_iff, Bool.or_eq_false_iff] at hwanted
      exact hwanted.1.1

theorem enableBackgroundContrast_sound {s : WindowEffects} (hs : s.Sound) {window : QWindow}
    (halive : (s.windows window).isSome = true) (enable : Bool) (data : BackgroundContrastData)
    (hok : ¬s.Forgets (.enableBackgroundContrast window enable data)) :
    Good (s.enableBackgroundContrast window enable data) := by
  unfold enableBackgroundContrast
  cases enable with
  | true =>
      have htrack := hs.trackWindow halive
      have hwatched := watched_trackWindow s window
      rw [if_pos rfl]
      dsimp only
      generalize s.trackWindow window = t at htrack hwatched
      split
      · exact ⟨htrack, by simp⟩
      · have hinsert : WindowEffects.Sound
            { t with backgroundContrastRegions := t.backgroundContrastRegions.insert window data } := by
          apply htrack.want window (t.blurRegions.contains window) true (t.slideMap.contains window)
          · intro w hw
            simp [tracking, contains_insert, hw]
          · simp [tracking, contains_insert]
          · exact fun _ => hwatched
          · exact (htrack window).blurs
        exact hinsert.installContrast window true data
  | false =>
      rw [if_neg (by simp)]
      split
      · rename_i hcontains
        have herase : WindowEffects.Sound
            { s with backgroundContrastRegions := s.backgroundContrastRegions.erase window } := by
          apply hs.want window (s.blurRegions.contains window) false (s.slideMap.contains window)
          · intro w hw
            simp [tracking, contains_erase, hw]
          · simp [tracking, contains_erase]
          · exact watched_of_wanted hs id (fun h => nomatch h) id
          · exact (hs window).blurs
        have hreset : (WindowEffects.resetContrast
            { s with backgroundContrastRegions := s.backgroundContrastRegions.erase window }
            window none).Sound := herase.congr rfl
        have hrelease := hreset.release window (by
          intro hblur hwanted
          by_contra heffect
          apply hok
          refine ⟨rfl, hcontains, hblur, ?_, heffect⟩
          unfold wanted at hwanted
          rw [Bool.or_eq_false_iff] at hwanted
          exact hwanted.2)
        exact hrelease.installContrast window false data
      · exact ⟨hs, by simp⟩

theorem slideWindow_sound {s : WindowEffects} (hs : s.Sound) {window : QWindow}
    (halive : (s.windows window).isSome = true) (data : SlideData)
    (hok : ¬s.Forgets (.slideWindow window data)) :
    Good (s.slideWindow window data) := by
  unfold slideWindow
  split
  · have htrack := hs.trackWindow halive
    have hwatched := watched_trackWindow s window
    dsimp only
    generalize s.trackWindow window = t at htrack hwatched
    split
    · exact ⟨htrack, by simp⟩
    · have hinsert : WindowEffects.Sound { t with slideMap := t.slideMap.insert window data } := by
        apply htrack.want window (t.blurRegions.contains window)
          (t.backgroundContrastRegions.contains window) true
        · intro w hw
          simp [tracking, contains_insert, hw]
        · simp [tracking, contains_insert]
        · exact fun _ => hwatched
        · exact (htrack window).blurs
      exact hinsert.installSlide window data
  · rename_i hedge
    rw [not_not] at hedge
    split
    · rename_i hcontains
      have herase : WindowEffects.Sound { s with slideMap := s.slideMap.erase window } := by
        apply hs.want window (s.blurRegions.contains window)
          (s.backgroundContrastRegions.contains window) false
        · intro w hw
          simp [tracking, contains_erase, hw]
        · simp [tracking, contains_erase]
        · exact watched_of_wanted hs id id fun h => nomatch h
        · exact (hs window).blurs
      have hrelease := herase.release window (by
        intro hblur hwanted
        by_contra heffect
        apply hok
        refine ⟨hedge, hcontains, hblur, ?_, heffect⟩
        unfold wanted at hwanted
        rw [Bool.or_eq_false_iff, Bool.or_eq_false_iff] at hwanted
        exact hwanted.1.2)
      exact hrelease.installSlide window data
    · exact ⟨hs, by simp⟩

theorem reinstall_good {ν : Type} {s : WindowEffects} (hs : s.Sound) {entries : SortedMap QWindow ν}
    {window : QWindow} {install : ν → WindowEffects × List Request}
    (h : entries.contains window = true → ∀ v, Good (install v)) :
    Good (s.reinstall entries window install) := by
  unfold reinstall
  split
  · rename_i v hv
    exact h (SortedMap.contains_iff.mpr ⟨v, hv⟩) v
  · exact ⟨hs, by simp⟩

theorem exposeEvent_sound {s : WindowEffects} (hs : s.Sound) (window : QWindow) :
    Good (s.exposeEvent window) := by
  have hblur : Good (s.reinstall s.blurRegions window (s.installBlur window true)) := by
    apply reinstall_good hs
    intro hcontains region
    exact installBlur_sound hs window true region (fun _ => hcontains) fun _ =>
      (hs window).wanted (by simp [tracking, hcontains])
  unfold exposeEvent
  generalize s.reinstall s.blurRegions window (s.installBlur window true) = blurred at hblur
  have hcontrast : Good (blurred.1.reinstall blurred.1.backgroundContrastRegions window
      (blurred.1.installContrast window true)) :=
    reinstall_good hblur.1 fun _ data => hblur.1.installContrast window true data
  dsimp only
  generalize blurred.1.reinstall blurred.1.backgroundContrastRegions window
    (blurred.1.installContrast window true) = contrasted at hcontrast
  have hslide : Good (contrasted.1.reinstall contrasted.1.slideMap window
      (contrasted.1.installSlide window)) :=
    reinstall_good hcontrast.1 fun _ data => hcontrast.1.installSlide window data
  refine ⟨hslide.1, ?_⟩
  intro request hrequest
  rw [List.mem_append, List.mem_append] at hrequest
  rcases hrequest with (h | h) | h
  · exact hblur.2 request h
  · exact hcontrast.2 request h
  · exact hslide.2 request h

/-! ## Runs -/

theorem createWindow_sound {s : WindowEffects} (hs : s.Sound) {window : QWindow}
    (h : s.windows window = none) :
    WindowEffects.Sound { s with windows := Function.update s.windows window (some {}) } := by
  have hwindow := hs window
  have hunwatched : s.windowDestroyedWatchers window = false := by
    cases hw : s.windowDestroyedWatchers window with
    | false => rfl
    | true =>
        rcases hwindow.exists_of_watcher hw with ⟨d, hd, -⟩
        exact nomatch h.symm.trans hd
  have hno : ∀ {P : Prop}, s.windowDestroyedWatchers window = true → P := by
    intro P hw
    rw [hunwatched] at hw
    exact nomatch hw
  apply hs.only window
  · intro w hw
    simp [tracking, hw]
  · have heq : tracking { s with windows := Function.update s.windows window (some {}) } window =
        { s.tracking window with data := some {} } := by
      simp [tracking]
    rw [heq]
    exact
      { wanted := hwindow.wanted
        exists_of_watcher := fun hw => hno hw
        unwatched := fun hw => by
          refine ⟨(hwindow.unwatched hw).1, ?_⟩
          intro d hd
          rw [← Option.some.inj hd]
        surfaces := fun hw => hno hw
        blurs := hwindow.blurs
        effects := fun e he => hno (hwindow.effects e he).1 }

theorem createSurface_sound {s : WindowEffects} (hs : s.Sound) (window : QWindow) :
    (s.step (.createSurface window)).1.Sound := by
  unfold step
  dsimp only
  split
  · rename_i id hplatform
    rcases data_of_platform hplatform with ⟨d, hd, hdp⟩
    have hnone : s.backgroundEffects window = none :=
      hs.noEffect (.inr (by unfold surfaceForWindow; rw [hplatform]; rfl))
    have hset : (s.setWindow window fun data =>
        { data with platform := some ⟨id, some s.fresh⟩ }).Sound := by
      apply hs.setWindow window (fun data => { data with platform := some ⟨id, some s.fresh⟩ })
        (fun _ => rfl)
      · intro d' p hd' hp
        rw [hd] at hd'
        refine ⟨⟨id, none⟩, ?_, ?_⟩
        · rw [← Option.some.inj hd']
          exact hdp
        · rw [← Option.some.inj hp]
      · intro h
        exact absurd hnone h
    exact hset.congr rfl
  · exact hs

theorem Sound.good {s : WindowEffects} (hs : s.Sound) : Good (s, []) := ⟨hs, by simp⟩

-- Every step but one that forgets a window keeps what is known about all of them.
theorem step_good {s : WindowEffects} (hs : s.Sound) (e : Event) (hok : ¬s.Forgets e) :
    Good (s.step e) := by
  cases e with
  | createWindow window =>
      unfold step
      dsimp only
      split
      · exact hs.good
      · rename_i h
        rw [Option.not_isSome_iff_eq_none] at h
        exact (createWindow_sound hs h).good
  | createPlatform window withSurface =>
      refine ⟨createPlatform_sound hs window withSurface, ?_⟩
      unfold step
      dsimp only
      split <;> simp
  | createSurface window =>
      refine ⟨createSurface_sound hs window, ?_⟩
      unfold step
      dsimp only
      split <;> simp
  | destroySurface window => exact (dropSurface_sound hs window).1.good
  | destroyPlatform window => exact (dropPlatform_sound hs window).1.good
  | expose window exposed =>
      have hset : (s.setWindow window fun data => { data with exposed }).Sound :=
        hs.setWindow window _ (fun _ => rfl) (fun d p _ hp => ⟨p, hp, rfl⟩) fun _ _ _ => rfl
      unfold step
      dsimp only
      split
      · exact exposeEvent_sound hset window
      · exact hset.good
  | destroyWindow window => exact (destroyWindow_sound hs window).good
  | enableBlurBehind window enable region =>
      unfold step
      dsimp only
      split
      · rename_i halive
        cases enable with
        | true => exact enableBlurBehind_true_sound hs halive region
        | false => exact enableBlurBehind_false_sound hs region hok
      · exact hs.good
  | enableBackgroundContrast window enable data =>
      unfold step
      dsimp only
      split
      · exact enableBackgroundContrast_sound hs (by assumption) enable data hok
      · exact hs.good
  | slideWindow window data =>
      unfold step
      dsimp only
      split
      · exact slideWindow_sound hs (by assumption) data hok
      · exact hs.good
  | blurManager active =>
      unfold step
      dsimp only
      split
      · exact hs.good
      · have hactive : WindowEffects.Sound { s with blurManager := active } := hs.congr rfl
        unfold blurActiveChanged
        split
        · exact hactive.good
        · exact installAll_sound hactive fun s => s.blurManager
  | contrastManager active =>
      unfold step
      dsimp only
      split
      · exact hs.good
      · have hactive : WindowEffects.Sound { s with contrastManager := active } := hs.congr rfl
        apply hactive.installAll
        intro s window data
        split
        · exact installContrast_tracking s window true data
        · exact installContrast_tracking s window false _
  | slideManager active =>
      unfold step
      dsimp only
      split
      · exact hs.good
      · have hactive : WindowEffects.Sound { s with slideManager := active } := hs.congr rfl
        apply hactive.installAll
        intro s window data
        split
        · exact installSlide_tracking s window data
        · exact installSlide_tracking s window _
  | backgroundEffectManager active =>
      unfold step
      dsimp only
      split
      · exact hs.good
      · apply Sound.good
        split
        · exact hs.congr rfl
        · intro window
          have hwindow := hs window
          exact
            { wanted := hwindow.wanted
              exists_of_watcher := hwindow.exists_of_watcher
              unwatched := hwindow.unwatched
              surfaces := hwindow.surfaces
              blurs := hwindow.blurs
              effects := fun e he => nomatch he }
  | capabilities flags =>
      have hflags : WindowEffects.Sound
          { s with supportsBlur := flags &&& capabilityBlur ≠ 0 } := hs.congr rfl
      exact installAll_sound hflags fun s => s.supportsBlur

/-- Every window that has a background effect or a blur is watched. -/
def Tracked (s : WindowEffects) : Prop :=
  ∀ window, s.backgroundEffects window ≠ none ∨ s.blurs window ≠ none →
    s.windowDestroyedWatchers window = true

theorem Sound.tracked {s : WindowEffects} (hs : s.Sound) : s.Tracked := by
  intro window h
  have hwindow := hs window
  rcases h with h | h
  · rcases Option.ne_none_iff_exists'.mp h with ⟨e, he⟩
    exact (hwindow.effects e he).1
  · apply hwindow.wanted
    rw [hwindow.blurs h]
    rfl

-- The region is taken off through an effect, which stays.
theorem effect_installBlur {s : WindowEffects} {window : QWindow} (h : s.makesEffect window = true)
    (enable : Bool) (region : QRegion) :
    (s.installBlur window enable region).1.backgroundEffects window ≠ none := by
  unfold makesEffect at h
  rw [Bool.and_eq_true, Bool.and_eq_true] at h
  rcases Option.isSome_iff_exists.mp h.1.1 with ⟨surface, hsurface⟩
  unfold installBlur
  rw [hsurface]
  simp [h.1.2, h.2]

theorem Sound.alive {s : WindowEffects} (hs : s.Sound) {window : QWindow}
    (h : s.windowDestroyedWatchers window = true) : (s.windows window).isSome = true := by
  rcases (hs window).exists_of_watcher h with ⟨d, hd, -⟩
  rw [show s.windows window = some d from hd]
  rfl

theorem not_tracked_of_release {s t : WindowEffects} {window : QWindow}
    (hwanted : s.wanted window = false) (heffect : s.backgroundEffects window ≠ none)
    (h : t.tracking = (s.releaseWindow window).tracking) : ¬t.Tracked := by
  intro htracked
  have heq : t.tracking window = (s.releaseWindow window).tracking window := congrFun h window
  rw [tracking_releaseWindow hwanted] at heq
  have hwatched : t.windowDestroyedWatchers window = false := congrArg Tracking.watcher heq
  have hkept : t.backgroundEffects window = s.backgroundEffects window := congrArg Tracking.effect heq
  rw [htracked window (.inl (by rw [hkept]; exact heffect))] at hwatched
  exact nomatch hwatched

theorem not_tracked_of_forgets {s : WindowEffects} (hs : s.Sound) {e : Event} (h : s.Forgets e) :
    ¬(s.step e).1.Tracked := by
  cases e with
  | enableBlurBehind window enable region =>
      rcases h with ⟨rfl, hblurred, hcontrasted, hslid, hmakes⟩
      have halive := hs.alive ((hs window).wanted (by simp [tracking, hblurred]))
      have hstep : s.step (.enableBlurBehind window false region) =
          (s.forgotten window).installBlur window false region := by
        unfold step enableBlurBehind
        dsimp only
        rw [if_pos halive, if_neg (by simp), if_pos hblurred]
        rfl
      rw [hstep]
      intro htracked
      have hwatched := htracked window (.inl (effect_installBlur
        ((makesEffect_forgotten s window).trans hmakes) false region))
      rw [(installBlur_installed (s.forgotten window) window false region).windowDestroyedWatchers,
        watched_forgotten hs hblurred, hcontrasted, hslid] at hwatched
      exact nomatch hwatched
  | enableBackgroundContrast window enable data =>
      rcases h with ⟨rfl, hcontrasted, hblurred, hslid, heffect⟩
      have halive := hs.alive ((hs window).wanted (by simp [tracking, hcontrasted]))
      have hstep : s.step (.enableBackgroundContrast window false data) =
          ((WindowEffects.resetContrast
            { s with backgroundContrastRegions := s.backgroundContrastRegions.erase window }
            window none).releaseWindow window).installContrast window false data := by
        unfold step enableBackgroundContrast
        dsimp only
        rw [if_pos halive, if_neg (by simp), if_pos hcontrasted]
      rw [hstep]
      apply not_tracked_of_release _ _ (installContrast_tracking _ window false data).1
      · simp [wanted, resetContrast, contains_erase, hblurred, hslid]
      · exact heffect
  | slideWindow window data =>
      rcases h with ⟨hedge, hslid, hblurred, hcontrasted, heffect⟩
      have halive := hs.alive ((hs window).wanted (by simp [tracking, hslid]))
      have hstep : s.step (.slideWindow window data) =
          (WindowEffects.releaseWindow { s with slideMap := s.slideMap.erase window }
            window).installSlide window data := by
        unfold step WindowEffects.slideWindow
        dsimp only
        rw [if_pos halive, if_neg (not_not.mpr hedge), if_pos hslid]
      rw [hstep]
      apply not_tracked_of_release _ _ (installSlide_tracking _ window data).1
      · simp [wanted, contains_erase, hblurred, hcontrasted]
      · exact heffect
  | _ => exact h.elim

/-- Before anything has happened. -/
def start (compositor : Bool) : WindowEffects := { compositor }

theorem sound_start (compositor : Bool) : (start compositor).Sound := by
  intro window
  exact
    { wanted := fun h => nomatch h
      exists_of_watcher := fun h => nomatch h
      unwatched := fun _ => ⟨rfl, fun _ h => nomatch h⟩
      surfaces := fun h => nomatch h
      blurs := fun h => absurd rfl h
      effects := fun _ h => nomatch h }

/-- All windows with a background effect or a blur are watched at every moment, and every region is set
on an effect of the window's surface, exactly as long as no step forgets a window. -/
theorem blur_attached_iff (compositor : Bool) (es : List Event) :
    ((∀ n, (Machine.run step (start compositor) (es.take n)).1.Tracked) ∧
        ∀ request ∈ (Machine.run step (start compositor) es).2, request.Live) ↔
      Machine.Along step (fun s e => ¬s.Forgets e) (start compositor) es := by
  have halways : (∀ n, (Machine.run step (start compositor) (es.take n)).1.Tracked) ↔
      Machine.Along step (fun s e => ¬s.Forgets e) (start compositor) es :=
    Machine.always_iff_guarded Sound Tracked (fun s e => ¬s.Forgets e)
      (fun _ hs => hs.tracked) (fun _ e hs hok => (step_good hs e hok).1)
      (fun _ _ hs htracked hforgets => not_tracked_of_forgets hs hforgets htracked)
      es (sound_start compositor)
  apply Iff.intro
  · intro h
    exact halways.mp h.1
  · intro h
    exact ⟨halways.mpr h,
      Machine.run_emits Sound (fun _ e hs hok => step_good hs e hok) (sound_start compositor) h⟩

/-- A window is shown, blurred and not blurred again; then it is hidden, shown and blurred once more. -/
def forgottenRun : List Event :=
  [.backgroundEffectManager true, .capabilities 1, .createWindow 7, .createPlatform 7 true,
    .enableBlurBehind 7 true [], .enableBlurBehind 7 false [], .destroySurface 7, .createSurface 7,
    .enableBlurBehind 7 true []]

/-- The window is not watched after it is not blurred any more, and in the end the region is set on the
effect of the surface that is gone. -/
theorem forgotten_effect :
    ¬(Machine.run step (start true) (forgottenRun.take 6)).1.Tracked ∧
      ∃ request ∈ (Machine.run step (start true) forgottenRun).2, ¬request.Live := by
  refine ⟨?_, ?_⟩
  · intro h
    exact absurd (h 7 (.inl (by decide))) (by decide)
  · refine ⟨.setBlurRegion ⟨1⟩ 2 (some [wholeWindow]), ?_, ?_⟩
    · exact List.mem_of_getElem? (i := 4) rfl
    · show ¬(1 : Nat) = 2
      decide

end WindowEffects

end KWindowSystem
