import KWindowSystem.Wayland.BlurTracking
import KWindowSystem.Wayland.EffectObjects

/-!
# The objects belong to the maps

The window records with their objects take every step that `WindowEffects` takes: whatever is done, each
map has for a window what its record has, and the surface of the object where it has an object.
-/

namespace KWindowSystem

namespace WindowEffects

def globals (s : WindowEffects) : Globals where
  compositor := s.compositor
  blurManager := s.blurManager
  contrastManager := s.contrastManager
  slideManager := s.slideManager
  backgroundEffectManager := s.backgroundEffectManager
  supportsBlur := s.supportsBlur

/-- The maps have for the window what its record has. -/
structure Agrees (s : WindowEffects) (window : QWindow) (v : WindowRecord) : Prop where
  data : s.windows window = v.data
  windowDestroyedWatcher : s.windowDestroyedWatchers window = v.windowDestroyedWatcher
  surfaceDestroyedWatcher : s.surfaceDestroyedWatchers window = v.surfaceDestroyedWatcher
  blurRegion : s.blurRegions.find? window = v.blurRegion
  backgroundContrastRegion : s.backgroundContrastRegions.find? window = v.backgroundContrastRegion
  slide : s.slideMap.find? window = v.slide
  blurs : s.blurs window = v.blurs.current.map (·.2.surface)
  contrasts : s.contrasts window = v.contrasts.current.map (·.2.surface)
  backgroundEffect : s.backgroundEffects window = v.backgroundEffect.map (·.toBackgroundEffect)

/-- The state changes for one window, for which there is now what the record has. -/
structure Becomes (s : WindowEffects) (window : QWindow) (s' : WindowEffects) (v' : WindowRecord) :
    Prop where
  here : s'.Agrees window v'
  others : ∀ w v, w ≠ window → s.Agrees w v → s'.Agrees w v
  globals : s'.globals = s.globals
  fresh : s'.fresh = s.fresh

section

variable {s s' s'' : WindowEffects} {window : QWindow} {v v' v'' : WindowRecord}

theorem Agrees.becomes (h : s.Agrees window v) : s.Becomes window s v :=
  ⟨h, fun _ _ _ hw => hw, rfl, rfl⟩

theorem Becomes.trans (h : s.Becomes window s' v') (h' : s'.Becomes window s'' v'') :
    s.Becomes window s'' v'' :=
  ⟨h'.here, fun w v hne hw => h'.others w v hne (h.others w v hne hw), h'.globals.trans h.globals,
    h'.fresh.trans h.fresh⟩

theorem Agrees.platform (h : s.Agrees window v) : s.platform window = v.platform :=
  congrArg (fun data => data.bind (·.platform)) h.data

theorem Agrees.surface (h : s.Agrees window v) : s.surfaceForWindow window = v.surface :=
  congrArg (fun platform => platform.bind (·.surface)) h.platform

theorem Agrees.filtered (h : s.Agrees window v) : s.filtered window = v.filtered :=
  congrArg (fun data => (data.map (·.filtered)).getD false) h.data

theorem Agrees.wanted (h : s.Agrees window v) : s.wanted window = v.wanted := by
  unfold WindowEffects.wanted WindowRecord.wanted SortedMap.contains
  rw [h.blurRegion, h.backgroundContrastRegion, h.slide]

theorem Agrees.setWindow (h : s.Agrees window v) (f : WindowData → WindowData) :
    s.Becomes window (s.setWindow window f) (v.setData f) where
  here :=
    { h with
      data := by
        show Function.update _ _ _ _ = _
        rw [Function.update_self, h.data]
        rfl }
  others := fun _ _ hne hw =>
    { hw with
      data := by
        show Function.update _ _ _ _ = _
        rw [Function.update_of_ne hne]
        exact hw.data }
  globals := rfl
  fresh := rfl

/-! ## Tracking -/

theorem Agrees.watchWindow (h : s.Agrees window v) :
    s.Becomes window (s.watchWindow window) v.watchWindow := by
  unfold WindowEffects.watchWindow WindowRecord.watchWindow
  rw [h.windowDestroyedWatcher]
  split
  · exact h.becomes
  · have hset := h.setWindow fun data => { data with filtered := true }
    exact
      { here :=
          { hset.here with
            windowDestroyedWatcher := Function.update_self _ _ _ }
        others := fun _ _ hne hw =>
          { hset.others _ _ hne hw with
            windowDestroyedWatcher := (Function.update_of_ne hne _ _).trans hw.windowDestroyedWatcher }
        globals := rfl
        fresh := rfl }

theorem Agrees.setSurfaceWatcher (h : s.Agrees window v) (id : Option Nat) :
    s.Becomes window
      { s with surfaceDestroyedWatchers := Function.update s.surfaceDestroyedWatchers window id }
      { v with surfaceDestroyedWatcher := id } where
  here := { h with surfaceDestroyedWatcher := Function.update_self _ _ _ }
  others := fun _ _ hne hw =>
    { hw with
      surfaceDestroyedWatcher := (Function.update_of_ne hne _ _).trans hw.surfaceDestroyedWatcher }
  globals := rfl
  fresh := rfl

theorem Agrees.watchSurface (h : s.Agrees window v) :
    s.Becomes window (s.watchSurface window) v.watchSurface := by
  unfold WindowEffects.watchSurface WindowRecord.watchSurface
  rw [h.surfaceDestroyedWatcher, h.platform]
  split
  · exact h.becomes
  · cases v.platform with
    | some waylandWindow => exact h.setSurfaceWatcher (some waylandWindow.id)
    | none => exact h.becomes

theorem Agrees.trackWindow (h : s.Agrees window v) :
    s.Becomes window (s.trackWindow window) v.trackWindow :=
  have hwatch := h.watchWindow
  hwatch.trans hwatch.here.watchSurface

theorem Agrees.releaseWindow (h : s.Agrees window v) :
    s.Becomes window (s.releaseWindow window) v.releaseWindow := by
  unfold WindowEffects.releaseWindow WindowRecord.releaseWindow
  rw [h.wanted]
  split
  · exact h.becomes
  · have hset := h.setWindow fun data => { data with filtered := false }
    have hwatcher := hset.trans (hset.here.setSurfaceWatcher none)
    exact
      { here :=
          { hwatcher.here with
            windowDestroyedWatcher := Function.update_self _ _ _ }
        others := fun _ _ hne hw =>
          { hwatcher.others _ _ hne hw with
            windowDestroyedWatcher := (Function.update_of_ne hne _ _).trans hw.windowDestroyedWatcher }
        globals := rfl
        fresh := rfl }

theorem Agrees.resetBlur (h : s.Agrees window v) (blur : Option (Nat × EffectObject QRegion)) :
    s.Becomes window (s.resetBlur window (blur.map (·.2.surface))) (v.resetBlur blur) where
  here :=
    { h with
      blurs := Function.update_self _ _ _
      backgroundEffect := Function.update_self _ _ _ }
  others := fun _ _ hne hw =>
    { hw with
      blurs := (Function.update_of_ne hne _ _).trans hw.blurs
      backgroundEffect := (Function.update_of_ne hne _ _).trans hw.backgroundEffect }
  globals := rfl
  fresh := rfl

theorem Agrees.resetContrast (h : s.Agrees window v)
    (contrast : Option (Nat × EffectObject BackgroundContrastData)) :
    s.Becomes window (s.resetContrast window (contrast.map (·.2.surface))) (v.resetContrast contrast) where
  here := { h with contrasts := Function.update_self _ _ _ }
  others := fun _ _ hne hw =>
    { hw with contrasts := (Function.update_of_ne hne _ _).trans hw.contrasts }
  globals := rfl
  fresh := rfl

theorem Agrees.surfaceDestroyed (h : s.Agrees window v) :
    s.Becomes window (s.surfaceDestroyed window) v.surfaceDestroyed :=
  have hreset := h.resetBlur none
  hreset.trans (hreset.here.resetContrast none)

theorem find?_erase_self {ν : Type} (m : SortedMap QWindow ν) (window : QWindow) :
    (m.erase window).find? window = none := by
  rw [SortedMap.find?_erase, if_pos rfl]

theorem find?_erase_other {ν : Type} {m : SortedMap QWindow ν} {window w : QWindow} (hne : w ≠ window)
    {value : Option ν} (h : m.find? w = value) : (m.erase window).find? w = value := by
  rw [SortedMap.find?_erase, if_neg hne]
  exact h

theorem find?_insert_self {ν : Type} (m : SortedMap QWindow ν) (window : QWindow) (value : ν) :
    (m.insert window value).find? window = some value := by
  rw [SortedMap.find?_insert, if_pos rfl]

theorem find?_insert_other {ν : Type} {m : SortedMap QWindow ν} {window w : QWindow} (hne : w ≠ window)
    (entry : ν) {value : Option ν} (h : m.find? w = value) :
    (m.insert window entry).find? w = value := by
  rw [SortedMap.find?_insert, if_neg hne]
  exact h

theorem Agrees.windowDestroyed (h : s.Agrees window v) :
    s.Becomes window (s.windowDestroyed window) v.windowDestroyed := by
  have hreset := h.surfaceDestroyed
  have hwatcher := hreset.trans (hreset.here.setSurfaceWatcher none)
  exact
    { here :=
        { hwatcher.here with
          blurRegion := find?_erase_self _ _
          backgroundContrastRegion := find?_erase_self _ _
          slide := find?_erase_self _ _
          windowDestroyedWatcher := Function.update_self _ _ _ }
      others := fun _ _ hne hw =>
        { hwatcher.others _ _ hne hw with
          blurRegion := find?_erase_other hne hw.blurRegion
          backgroundContrastRegion := find?_erase_other hne hw.backgroundContrastRegion
          slide := find?_erase_other hne hw.slide
          windowDestroyedWatcher := (Function.update_of_ne hne _ _).trans hw.windowDestroyedWatcher }
      globals := rfl
      fresh := rfl }

/-! ## Installing -/

theorem Agrees.setBlurs (h : s.Agrees window v) (blurs : EffectObjects QRegion)
    {blur : Option WlSurface} (hblur : blur = blurs.current.map (·.2.surface)) :
    s.Becomes window { s with blurs := Function.update s.blurs window blur } { v with blurs } where
  here := { h with blurs := (Function.update_self _ _ _).trans hblur }
  others := fun _ _ hne hw => { hw with blurs := (Function.update_of_ne hne _ _).trans hw.blurs }
  globals := rfl
  fresh := rfl

theorem Agrees.setEffect (h : s.Agrees window v) (surface : WlSurface) (wlRegion : Option QRegion) :
    s.Becomes window
      { s with
        backgroundEffects := Function.update s.backgroundEffects window
          (some ((s.backgroundEffects window).getD ⟨surface⟩)) }
      (v.setBlurRegion surface wlRegion) where
  here :=
    { h with
      backgroundEffect := by
        show Function.update _ _ _ _ = _
        rw [Function.update_self, h.backgroundEffect]
        unfold WindowRecord.setBlurRegion
        cases v.backgroundEffect <;> rfl }
  others := fun _ _ hne hw =>
    { hw with backgroundEffect := (Function.update_of_ne hne _ _).trans hw.backgroundEffect }
  globals := rfl
  fresh := rfl

theorem Agrees.installBlur (h : s.Agrees window v) (enable : Bool) (region : QRegion) :
    s.Becomes window (s.installBlur window enable region).1 (v.installBlur s.globals enable region) := by
  unfold WindowEffects.installBlur WindowRecord.installBlur
  rw [h.surface]
  cases v.surface with
  | none => exact h.becomes
  | some surface =>
      unfold WindowEffects.globals Globals.createRegion WindowEffects.createRegion
      dsimp only
      split
      · have hblurs := h.setBlurs (v.blurs.replace none) rfl
        split
        · exact hblurs.trans (hblurs.here.setEffect surface _)
        · exact hblurs
      · split
        · split
          · split
            · rename_i hnone
              split at hnone
              · exact nomatch hnone
              · rename_i hcompositor
                rw [if_neg hcompositor]
                exact h.becomes
            · rename_i wlRegion hsome
              rw [hsome]
              have hnew : s.Becomes window s { v with blurs := v.blurs.new ⟨surface, wlRegion⟩ } :=
                { h.becomes with here := { h with blurs := h.blurs } }
              exact hnew.trans (hnew.here.resetBlur (some (v.blurs.made, ⟨surface, wlRegion⟩)))
          · exact h.resetBlur none
        · exact h.becomes

theorem Agrees.installContrast (h : s.Agrees window v) (enable : Bool) (data : BackgroundContrastData) :
    s.Becomes window (s.installContrast window enable data).1
      (v.installContrast s.globals enable data) := by
  unfold WindowEffects.installContrast WindowRecord.installContrast
  rw [h.surface]
  unfold WindowEffects.globals Globals.createRegion WindowEffects.createRegion
  dsimp only
  split
  · cases v.surface with
    | none => exact h.becomes
    | some surface =>
        dsimp only
        split
        · cases s.compositor with
          | false => exact h.becomes
          | true =>
              have hnew : s.Becomes window s { v with contrasts := v.contrasts.new ⟨surface, data⟩ } :=
                { h.becomes with here := { h with contrasts := h.contrasts } }
              exact hnew.trans (hnew.here.resetContrast (some (v.contrasts.made, ⟨surface, data⟩)))
        · exact h.resetContrast none
  · exact h.becomes

theorem Agrees.installSlide (h : s.Agrees window v) (data : SlideData) :
    s.Becomes window (s.installSlide window data).1 (v.installSlide s.globals data) := by
  unfold WindowEffects.installSlide WindowRecord.installSlide
  rw [h.surface]
  unfold WindowEffects.globals
  dsimp only
  split
  · cases v.surface with
    | none => exact h.becomes
    | some surface =>
        dsimp only
        split
        · exact { h.becomes with here := { h with slide := h.slide } }
        · exact h.becomes
  · exact h.becomes

/-! ## The calls -/

theorem Agrees.setBlurRegion (h : s.Agrees window v) (region : QRegion) :
    s.Becomes window { s with blurRegions := s.blurRegions.insert window region }
      { v with blurRegion := some region } where
  here := { h with blurRegion := find?_insert_self _ _ _ }
  others := fun _ _ hne hw => { hw with blurRegion := find?_insert_other hne _ hw.blurRegion }
  globals := rfl
  fresh := rfl

theorem contains_eq_isSome {ν : Type} (m : SortedMap QWindow ν) (window : QWindow) :
    m.contains window = (m.find? window).isSome := rfl

theorem Agrees.enableBlurBehind (h : s.Agrees window v) (enable : Bool) (region : QRegion) :
    s.Becomes window (s.enableBlurBehind window enable region).1
      (v.enableBlurBehind s.globals enable region) := by
  unfold WindowEffects.enableBlurBehind WindowRecord.enableBlurBehind
  have htrack := h.trackWindow
  dsimp only
  rw [htrack.here.blurRegion, contains_eq_isSome, h.blurRegion]
  split
  · split
    · exact htrack
    · have hset := htrack.trans (htrack.here.setBlurRegion region)
      rw [← hset.globals]
      exact hset.trans (hset.here.installBlur true region)
  · split
    · have herase : s.Becomes window { s with blurRegions := s.blurRegions.erase window }
          { v with blurRegion := none } :=
        { here := { h with blurRegion := find?_erase_self _ _ }
          others := fun _ _ hne hw => { hw with blurRegion := find?_erase_other hne hw.blurRegion }
          globals := rfl
          fresh := rfl }
      have hreset := herase.trans (herase.here.resetBlur none)
      have hrelease := hreset.trans hreset.here.releaseWindow
      rw [← hrelease.globals]
      exact hrelease.trans (hrelease.here.installBlur false region)
    · exact h.becomes

theorem Agrees.enableBackgroundContrast (h : s.Agrees window v) (enable : Bool)
    (data : BackgroundContrastData) :
    s.Becomes window (s.enableBackgroundContrast window enable data).1
      (v.enableBackgroundContrast s.globals enable data) := by
  unfold WindowEffects.enableBackgroundContrast WindowRecord.enableBackgroundContrast
  have htrack := h.trackWindow
  dsimp only
  rw [htrack.here.backgroundContrastRegion, contains_eq_isSome, h.backgroundContrastRegion]
  split
  · split
    · exact htrack
    · have hset : s.Becomes window
          { s.trackWindow window with backgroundContrastRegions :=
              (s.trackWindow window).backgroundContrastRegions.insert window data }
          { v.trackWindow with backgroundContrastRegion := some data } :=
        htrack.trans
          { here := { htrack.here with backgroundContrastRegion := find?_insert_self _ _ _ }
            others := fun _ _ hne hw =>
              { hw with backgroundContrastRegion := find?_insert_other hne _ hw.backgroundContrastRegion }
            globals := rfl
            fresh := rfl }
      rw [← hset.globals]
      exact hset.trans (hset.here.installContrast true data)
  · split
    · have herase : s.Becomes window
          { s with backgroundContrastRegions := s.backgroundContrastRegions.erase window }
          { v with backgroundContrastRegion := none } :=
        { here := { h with backgroundContrastRegion := find?_erase_self _ _ }
          others := fun _ _ hne hw =>
            { hw with backgroundContrastRegion := find?_erase_other hne hw.backgroundContrastRegion }
          globals := rfl
          fresh := rfl }
      have hreset := herase.trans (herase.here.resetContrast none)
      have hrelease := hreset.trans hreset.here.releaseWindow
      rw [← hrelease.globals]
      exact hrelease.trans (hrelease.here.installContrast false data)
    · exact h.becomes

theorem Agrees.slideWindow (h : s.Agrees window v) (data : SlideData) :
    s.Becomes window (s.slideWindow window data).1 (v.slideWindow s.globals data) := by
  unfold WindowEffects.slideWindow WindowRecord.slideWindow
  have htrack := h.trackWindow
  dsimp only
  rw [htrack.here.slide, contains_eq_isSome, h.slide]
  split
  · split
    · exact htrack
    · have hset : s.Becomes window
          { s.trackWindow window with slideMap := (s.trackWindow window).slideMap.insert window data }
          { v.trackWindow with slide := some data } :=
        htrack.trans
          { here := { htrack.here with slide := find?_insert_self _ _ _ }
            others := fun _ _ hne hw => { hw with slide := find?_insert_other hne _ hw.slide }
            globals := rfl
            fresh := rfl }
      rw [← hset.globals]
      exact hset.trans (hset.here.installSlide data)
  · split
    · have herase : s.Becomes window { s with slideMap := s.slideMap.erase window }
          { v with slide := none } :=
        { here := { h with slide := find?_erase_self _ _ }
          others := fun _ _ hne hw => { hw with slide := find?_erase_other hne hw.slide }
          globals := rfl
          fresh := rfl }
      have hrelease := herase.trans herase.here.releaseWindow
      rw [← hrelease.globals]
      exact hrelease.trans (hrelease.here.installSlide data)
    · exact h.becomes

/-! ## Events -/

theorem Agrees.reinstall (h : s.Agrees window v) {ν : Type} {entries : SortedMap QWindow ν}
    {entry : Option ν} (hentry : entries.find? window = entry)
    {install : ν → WindowEffects × List Request} {f : ν → WindowRecord}
    (hinstall : ∀ value, s.Becomes window (install value).1 (f value)) :
    s.Becomes window (s.reinstall entries window install).1 (v.forEntry entry f) := by
  unfold WindowEffects.reinstall WindowRecord.forEntry
  rw [hentry]
  cases entry with
  | none => exact h.becomes
  | some value => exact hinstall value

theorem Agrees.exposeEvent (h : s.Agrees window v) :
    s.Becomes window (s.exposeEvent window).1 (v.exposeEvent s.globals) := by
  have hblur := h.reinstall h.blurRegion (h.installBlur true)
  have hcontrast := hblur.here.reinstall hblur.here.backgroundContrastRegion
    (hblur.here.installContrast true)
  rw [hblur.globals] at hcontrast
  have hslide := hcontrast.here.reinstall hcontrast.here.slide hcontrast.here.installSlide
  rw [hcontrast.globals, hblur.globals] at hslide
  exact hblur.trans (hcontrast.trans hslide)

theorem Agrees.surfaceCreatedEvent (h : s.Agrees window v) :
    s.Becomes window (s.surfaceCreatedEvent window) v.surfaceCreatedEvent := by
  unfold WindowEffects.surfaceCreatedEvent WindowRecord.surfaceCreatedEvent
  rw [h.platform]
  cases v.platform with
  | some waylandWindow => exact h.setSurfaceWatcher (some waylandWindow.id)
  | none => exact h.becomes

theorem Agrees.dropSurface (h : s.Agrees window v) :
    s.Becomes window (s.dropSurface window) v.dropSurface := by
  unfold WindowEffects.dropSurface WindowRecord.dropSurface
  rw [h.platform]
  cases v.platform with
  | none => exact h.becomes
  | some waylandWindow =>
      cases waylandWindow with
      | mk id surface =>
          cases surface with
          | none => exact h.becomes
          | some surface =>
              have hset := h.setWindow fun data => { data with platform := some ⟨id, none⟩ }
              dsimp only
              rw [hset.here.surfaceDestroyedWatcher]
              split
              · exact hset.trans hset.here.surfaceDestroyed
              · exact hset

theorem Agrees.dropPlatform (h : s.Agrees window v) :
    s.Becomes window (s.dropPlatform window) v.dropPlatform :=
  have hdrop := h.dropSurface
  hdrop.trans (hdrop.here.setWindow fun data => { data with platform := none })

-- What no map has an entry for is not seen.
theorem Becomes.congr (h : s.Becomes window s' v')
    (hv : v'' = { v' with slides := v''.slides, shown := v''.shown }) : s.Becomes window s' v'' := by
  rw [hv]
  exact { h with here := { h.here with data := h.here.data } }

theorem Agrees.setData (h : s.Agrees window v) (data : Option WindowData) :
    s.Becomes window { s with windows := Function.update s.windows window data } { v with data } where
  here := { h with data := Function.update_self _ _ _ }
  others := fun _ _ hne hw => { hw with data := (Function.update_of_ne hne _ _).trans hw.data }
  globals := rfl
  fresh := rfl

theorem Agrees.destroyWindow (h : s.Agrees window v) :
    s.Becomes window (s.step (.destroyWindow window)).1 v.destroyWindow := by
  unfold step WindowRecord.destroyWindow
  have hdrop := h.dropPlatform
  have hgone := hdrop.trans (hdrop.here.setData none)
  dsimp only
  rw [hdrop.here.windowDestroyedWatcher]
  split
  · have hslot := hgone.trans hgone.here.windowDestroyed
    exact { hslot with here := { hslot.here with data := hslot.here.data } }
  · exact { hgone with here := { hgone.here with data := hgone.here.data } }

theorem Agrees.expose (h : s.Agrees window v) (exposed : Bool) :
    s.Becomes window (s.step (.expose window exposed)).1 (v.expose s.globals exposed) := by
  have hset : s.Becomes window (s.setWindow window fun data => { data with exposed })
      (v.setExposed exposed) := (h.setWindow _).congr rfl
  unfold step WindowRecord.expose
  dsimp only
  rw [hset.here.filtered]
  split
  · have hevent := hset.here.exposeEvent
    rw [hset.globals] at hevent
    exact hset.trans hevent
  · exact hset

/-! ## All windows -/

-- Every entry is visited once, and a visit only concerns its own window.
theorem agrees_installAll {ν : Type} {g : Globals}
    {install : WindowEffects → QWindow → ν → WindowEffects × List Request}
    {f : WindowRecord → ν → WindowRecord}
    (hinstall : ∀ (s : WindowEffects) window v value, s.globals = g → s.Agrees window v →
      s.Becomes window (install s window value).1 (f v value))
    {entries : List (QWindow × ν)} (hsorted : entries.Pairwise fun a b => a.1 < b.1) {s : WindowEffects}
    (hg : s.globals = g) {records : QWindow → WindowRecord} (h : ∀ w, s.Agrees w (records w)) :
    (installAll install entries s).1.globals = g ∧ (installAll install entries s).1.fresh = s.fresh ∧
      ∀ w, (installAll install entries s).1.Agrees w
        ((records w).forEntry ((entries.find? fun e => e.1 = w).map Prod.snd) (f (records w))) := by
  induction entries generalizing s records with
  | nil => exact ⟨hg, rfl, h⟩
  | cons entry entries ih =>
      rw [List.pairwise_cons] at hsorted
      have hone := hinstall s entry.1 (records entry.1) entry.2 hg (h entry.1)
      have hstep : ∀ w, (install s entry.1 entry.2).1.Agrees w
          (Function.update records entry.1 (f (records entry.1) entry.2) w) := by
        intro w
        by_cases hw : w = entry.1
        · rw [hw, Function.update_self]
          exact hone.here
        · rw [Function.update_of_ne hw]
          exact hone.others w _ hw (h w)
      have hrest := ih hsorted.2 (hone.globals.trans hg) hstep
      refine ⟨hrest.1, hrest.2.1.trans hone.fresh, ?_⟩
      intro w
      have hw' := hrest.2.2 w
      by_cases hw : w = entry.1
      · rw [hw] at hw' ⊢
        have hlater : entries.find? (fun e => e.1 = entry.1) = none := by
          rw [List.find?_eq_none]
          intro e he heq
          have hlt := hsorted.1 e he
          rw [of_decide_eq_true heq] at hlt
          exact Nat.lt_irrefl _ hlt
        rw [hlater, Function.update_self] at hw'
        rw [List.find?_cons_of_pos (by simp)]
        exact hw'
      · rw [Function.update_of_ne hw] at hw'
        rw [List.find?_cons_of_neg (by simpa using fun heq : entry.1 = w => hw heq.symm)]
        exact hw'

end

/-- The scene has the globals and the number of the state, and a record that agrees for every window. -/
structure Scene.Follows (t : Scene) (s : WindowEffects) : Prop where
  globals : s.globals = t.globals
  fresh : s.fresh = t.fresh
  windows : ∀ window, s.Agrees window (t.windows window)

section

variable {s s' : WindowEffects} {t : Scene}

theorem Scene.Follows.update (h : t.Follows s) (window : QWindow) {f : WindowRecord → WindowRecord}
    (hf : s.Becomes window s' (f (t.windows window))) : (t.update window f).Follows s' where
  globals := hf.globals.trans h.globals
  fresh := hf.fresh.trans h.fresh
  windows := fun w => by
    unfold Scene.update
    dsimp only
    by_cases hw : w = window
    · rw [hw, Function.update_self]
      exact hf.here
    · rw [Function.update_of_ne hw]
      exact hf.others w _ hw (h.windows w)

theorem Scene.Follows.installAll (h : t.Follows s) {ν : Type}
    {install : WindowEffects → QWindow → ν → WindowEffects × List Request}
    {f : WindowRecord → Globals → ν → WindowRecord} {entry : WindowRecord → Option ν}
    (entries : SortedMap QWindow ν) (hentry : ∀ w, entries.find? w = entry (t.windows w))
    (hinstall : ∀ (s : WindowEffects) window v value, s.globals = t.globals → s.Agrees window v →
      s.Becomes window (install s window value).1 (f v t.globals value)) :
    (t.broadcast t.globals fun v g => v.forEntry (entry v) (f v g)).Follows
      (WindowEffects.installAll install entries.entries s).1 := by
  have hall := agrees_installAll (f := fun v => f v t.globals) hinstall entries.sorted h.globals h.windows
  refine ⟨hall.1, hall.2.1.trans h.fresh, ?_⟩
  intro w
  have hw := hall.2.2 w
  show (WindowEffects.installAll install entries.entries s).1.Agrees w
    ((t.windows w).forEntry (entry (t.windows w)) (f (t.windows w) t.globals))
  rw [← hentry w]
  exact hw

theorem Scene.Follows.blurActiveChanged (h : t.Follows s) :
    (t.broadcast t.globals WindowRecord.blurActiveChanged).Follows s.blurActiveChanged.1 := by
  have hmanagers : s.backgroundEffectManager = t.globals.backgroundEffectManager :=
    congrArg Globals.backgroundEffectManager h.globals
  unfold WindowEffects.blurActiveChanged
  rw [hmanagers]
  by_cases hmanager : t.globals.backgroundEffectManager = true
  · rw [if_pos hmanager]
    have heq : t.broadcast t.globals WindowRecord.blurActiveChanged = t := by
      unfold Scene.broadcast
      congr 1
      funext w
      exact if_pos hmanager
    rw [heq]
    exact h
  · rw [if_neg hmanager]
    have heq : t.broadcast t.globals WindowRecord.blurActiveChanged =
        t.broadcast t.globals fun v g => v.forEntry v.blurRegion (v.installBlur g g.blurManager) := by
      unfold Scene.broadcast
      congr 1
      funext w
      exact if_neg hmanager
    rw [heq]
    apply h.installAll (f := fun v g region => v.installBlur g g.blurManager region)
    · exact fun w => (h.windows w).blurRegion
    · intro s window v region hs hv
      rw [show s.blurManager = t.globals.blurManager from congrArg Globals.blurManager hs, ← hs]
      exact hv.installBlur _ region

theorem Scene.Follows.contrastActiveChanged (h : t.Follows s) :
    (t.broadcast t.globals WindowRecord.contrastActiveChanged).Follows s.contrastActiveChanged.1 := by
  apply h.installAll (f := fun v g data => if g.contrastManager then v.installContrast g true data
    else v.installContrast g false { region := [] })
  · exact fun w => (h.windows w).backgroundContrastRegion
  · intro s window v data hs hv
    rw [show s.contrastManager = t.globals.contrastManager from congrArg Globals.contrastManager hs, ← hs]
    split
    · exact hv.installContrast true data
    · exact hv.installContrast false _

theorem Scene.Follows.slideActiveChanged (h : t.Follows s) :
    (t.broadcast t.globals WindowRecord.slideActiveChanged).Follows s.slideActiveChanged.1 := by
  apply h.installAll (f := fun v g data => if g.slideManager then v.installSlide g data
    else v.installSlide g ⟨.noEdge, 0⟩)
  · exact fun w => (h.windows w).slide
  · intro s window v data hs hv
    rw [show s.slideManager = t.globals.slideManager from congrArg Globals.slideManager hs, ← hs]
    split
    · exact hv.installSlide data
    · exact hv.installSlide _

theorem Scene.Follows.capabilitiesChanged (h : t.Follows s) :
    (t.broadcast t.globals WindowRecord.capabilitiesChanged).Follows
      (WindowEffects.installAll (fun s window region => s.installBlur window s.supportsBlur region)
        s.blurRegions.entries s).1 := by
  apply h.installAll (f := fun v g region => v.installBlur g g.supportsBlur region)
  · exact fun w => (h.windows w).blurRegion
  · intro s window v region hs hv
    rw [show s.supportsBlur = t.globals.supportsBlur from congrArg Globals.supportsBlur hs, ← hs]
    exact hv.installBlur _ region

-- Only the globals change, of which the maps do not know.
theorem Scene.Follows.setGlobals (h : t.Follows s) {g : Globals} (hg : s'.globals = g)
    (hfresh : s'.fresh = s.fresh) (hagrees : ∀ w v, s.Agrees w v → s'.Agrees w v) :
    Scene.Follows { t with globals := g } s' :=
  ⟨hg, hfresh.trans h.fresh, fun w => hagrees w _ (h.windows w)⟩

-- A new number is only for the next window or surface.
theorem Scene.Follows.setFresh (h : t.Follows s) (n : Nat) :
    Scene.Follows { t with fresh := n } { s with fresh := n } where
  globals := h.globals
  fresh := rfl
  windows := fun w => { h.windows w with data := (h.windows w).data }

theorem Agrees.createPlatform {window : QWindow} {v : WindowRecord} (h : s.Agrees window v) (n : Nat)
    (withSurface : Bool) :
    s.Becomes window
      (if (s.setWindow window fun data =>
          { data with platform := some ⟨n, if withSurface then some (n + 1) else none⟩ }).filtered window
        then (s.setWindow window fun data =>
          { data with platform := some ⟨n, if withSurface then some (n + 1) else none⟩ }).surfaceCreatedEvent
            window
        else s.setWindow window fun data =>
          { data with platform := some ⟨n, if withSurface then some (n + 1) else none⟩ })
      (v.createPlatform n withSurface) := by
  unfold WindowRecord.createPlatform
  generalize (⟨n, if withSurface then some (n + 1) else none⟩ : QWaylandWindow) = waylandWindow
  have hset := h.setWindow fun data => { data with platform := some waylandWindow }
  have hshown : s.Becomes window (s.setWindow window fun data => { data with platform := some waylandWindow })
      { v.setData fun data => { data with platform := some waylandWindow } with shown := false } :=
    hset.congr rfl
  dsimp only
  generalize { v.setData fun data => { data with platform := some waylandWindow } with shown := false } = v₁
    at hshown
  rw [hshown.here.filtered]
  split
  · exact hshown.trans hshown.here.surfaceCreatedEvent
  · exact hshown

/-- Every step of the effects is one of the scene. -/
theorem Scene.Follows.step (h : t.Follows s) (e : Event) : (t.next e).Follows (s.step e).1 := by
  cases e with
  | createWindow window =>
      unfold WindowEffects.step Scene.next
      dsimp only
      rw [(h.windows window).data]
      split
      · exact h
      · apply h.update window
        apply ((h.windows window).setData (some {})).congr
        rfl
  | destroySurface window => exact h.update window (h.windows window).dropSurface
  | destroyPlatform window => exact h.update window (h.windows window).dropPlatform
  | expose window exposed =>
      have hexpose := (h.windows window).expose exposed
      rw [h.globals] at hexpose
      exact h.update window (f := (·.expose t.globals exposed)) hexpose
  | destroyWindow window => exact h.update window (h.windows window).destroyWindow
  | enableBlurBehind window enable region =>
      unfold WindowEffects.step Scene.next
      dsimp only
      rw [(h.windows window).data]
      split
      · apply h.update window
        have hcall := (h.windows window).enableBlurBehind enable region
        rw [h.globals] at hcall
        exact hcall
      · exact h
  | enableBackgroundContrast window enable data =>
      unfold WindowEffects.step Scene.next
      dsimp only
      rw [(h.windows window).data]
      split
      · apply h.update window
        have hcall := (h.windows window).enableBackgroundContrast enable data
        rw [h.globals] at hcall
        exact hcall
      · exact h
  | slideWindow window data =>
      unfold WindowEffects.step Scene.next
      dsimp only
      rw [(h.windows window).data]
      split
      · apply h.update window
        have hcall := (h.windows window).slideWindow data
        rw [h.globals] at hcall
        exact hcall
      · exact h
  | createPlatform window withSurface =>
      unfold WindowEffects.step Scene.next
      dsimp only
      rw [(h.windows window).data, (h.windows window).platform]
      split
      · have hfresh := h.setFresh (t.fresh + 2)
        have hcreate := (hfresh.windows window).createPlatform t.fresh withSurface
        rw [h.fresh]
        exact hfresh.update window (f := (·.createPlatform t.fresh withSurface)) hcreate
      · exact h
  | createSurface window =>
      unfold WindowEffects.step Scene.next
      dsimp only
      rw [(h.windows window).platform]
      cases (t.windows window).platform with
      | none => exact h
      | some waylandWindow =>
          cases waylandWindow with
          | mk id surface =>
              cases surface with
              | some surface => exact h
              | none =>
                  have hfresh := h.setFresh (t.fresh + 1)
                  have hset := (hfresh.windows window).setWindow fun data =>
                    { data with platform := some ⟨id, some t.fresh⟩ }
                  dsimp only
                  rw [h.fresh]
                  exact hfresh.update window (f := (·.createSurface id t.fresh)) (hset.congr rfl)
  | blurManager active =>
      unfold WindowEffects.step Scene.next
      dsimp only
      rw [show s.blurManager = t.globals.blurManager from congrArg Globals.blurManager h.globals]
      split
      · exact h
      · apply Scene.Follows.blurActiveChanged
          (t := { t with globals := { t.globals with blurManager := active } })
        apply h.setGlobals
        · rw [← h.globals]
          rfl
        · rfl
        · exact fun w v hw => { hw with data := hw.data }
  | contrastManager active =>
      unfold WindowEffects.step Scene.next
      dsimp only
      rw [show s.contrastManager = t.globals.contrastManager from
        congrArg Globals.contrastManager h.globals]
      split
      · exact h
      · apply Scene.Follows.contrastActiveChanged
          (t := { t with globals := { t.globals with contrastManager := active } })
        apply h.setGlobals
        · rw [← h.globals]
          rfl
        · rfl
        · exact fun w v hw => { hw with data := hw.data }
  | slideManager active =>
      unfold WindowEffects.step Scene.next
      dsimp only
      rw [show s.slideManager = t.globals.slideManager from congrArg Globals.slideManager h.globals]
      split
      · exact h
      · apply Scene.Follows.slideActiveChanged
          (t := { t with globals := { t.globals with slideManager := active } })
        apply h.setGlobals
        · rw [← h.globals]
          rfl
        · rfl
        · exact fun w v hw => { hw with data := hw.data }
  | backgroundEffectManager active =>
      unfold WindowEffects.step Scene.next
      dsimp only
      rw [show s.backgroundEffectManager = t.globals.backgroundEffectManager from
        congrArg Globals.backgroundEffectManager h.globals]
      split
      · exact h
      · cases active with
        | true =>
            refine ⟨?_, h.fresh, fun w => { h.windows w with data := (h.windows w).data }⟩
            show _ = { t.globals with backgroundEffectManager := true }
            rw [← h.globals]
            rfl
        | false =>
            refine ⟨?_, h.fresh, fun w => { h.windows w with backgroundEffect := rfl }⟩
            show _ = { t.globals with backgroundEffectManager := false }
            rw [← h.globals]
            rfl
  | capabilities flags =>
      apply Scene.Follows.capabilitiesChanged
        (t := { t with globals := { t.globals with supportsBlur := flags &&& capabilityBlur ≠ 0 } })
      apply h.setGlobals
      · rw [← h.globals]
        rfl
      · rfl
      · exact fun w v hw => { hw with data := hw.data }

/-- All along every run the objects are those of the maps. -/
theorem follows_run (compositor : Bool) (es : List Event) :
    (Scene.after compositor es).Follows (Machine.run step (start compositor) es).1 := by
  apply Machine.run_refines (fun s t => Scene.Follows t s) Scene.next
  · exact fun s t e h => h.step e
  · exact ⟨rfl, rfl, fun w => ⟨rfl, rfl, rfl, rfl, rfl, rfl, rfl, rfl, rfl⟩⟩

end

end WindowEffects

end KWindowSystem
