import KWindowSystem.Wayland.EffectObjects

/-!
# How long the protocol objects live

A `Blur` or `Contrast` goes when another takes its place, when the effect is switched off, and with its
surface or its window, because a window is watched as long as an effect is wanted for it.  Nothing
like that is done for a `Slide`.
-/

open Qt

namespace KWindowSystem

namespace WindowEffects

/-! ## What the functions leave alone -/

namespace WindowRecord

theorem installBlur_eq (v : WindowRecord) (g : Globals) (enable : Bool) (region : QRegion) :
    v.installBlur g enable region =
      { v with
        blurs := (v.installBlur g enable region).blurs
        backgroundEffect := (v.installBlur g enable region).backgroundEffect } := by
  unfold installBlur
  split
  · rfl
  · split
    · dsimp only
      split <;> rfl
    · split
      · split
        · split <;> rfl
        · rfl
      · rfl

theorem installContrast_eq (v : WindowRecord) (g : Globals) (enable : Bool)
    (data : BackgroundContrastData) :
    v.installContrast g enable data =
      { v with contrasts := (v.installContrast g enable data).contrasts } := by
  unfold installContrast
  split
  · split
    · rfl
    · split
      · split <;> rfl
      · rfl
  · rfl

theorem installSlide_eq (v : WindowRecord) (g : Globals) (data : SlideData) :
    v.installSlide g data = { v with slides := (v.installSlide g data).slides } := by
  unfold installSlide
  split
  · split
    · rfl
    · split <;> rfl
  · rfl

theorem surface_of_platform {v : WindowRecord} {p : Option QWaylandWindow} (h : v.platform = p) :
    v.surface = p.bind (·.surface) :=
  congrArg (fun p => p.bind (·.surface)) h

theorem surface_of_no_data {v : WindowRecord} (h : v.data = none) : v.surface = none :=
  congrArg (fun data => (data.bind (·.platform)).bind (·.surface)) h

theorem platform_setData {v : WindowRecord} {f : WindowData → WindowData}
    (h : ∀ data, (f data).platform = data.platform) : (v.setData f).platform = v.platform := by
  unfold platform setData
  cases hdata : v.data with
  | none => rfl
  | some data => exact h data

theorem trackWindow_eq (v : WindowRecord) :
    v.trackWindow =
      { v with
        data := if v.windowDestroyedWatcher then v.data
          else v.data.map fun data => { data with filtered := true }
        windowDestroyedWatcher := true
        surfaceDestroyedWatcher := v.surfaceDestroyedWatcher.or (v.platform.map (·.id)) } := by
  have hwatch : v.watchWindow =
      { v with
        data := if v.windowDestroyedWatcher then v.data
          else v.data.map fun data => { data with filtered := true }
        windowDestroyedWatcher := true } := by
    unfold watchWindow
    split
    · rename_i h
      rw [← h]
    · rfl
  have hplatform : v.watchWindow.platform = v.platform := by
    unfold watchWindow
    split
    · rfl
    · exact platform_setData fun _ => rfl
  have hkept : v.watchWindow.surfaceDestroyedWatcher = v.surfaceDestroyedWatcher := by rw [hwatch]
  unfold trackWindow watchSurface
  rw [hplatform, hkept]
  cases hsurface : v.surfaceDestroyedWatcher with
  | some id =>
      rw [if_pos (show (some id).isSome = true from rfl), hwatch, hsurface]
      rfl
  | none =>
      rw [if_neg (show ¬(none : Option Nat).isSome = true from Bool.false_ne_true), hwatch, hsurface]
      cases v.platform with
      | some waylandWindow => rfl
      | none => rfl

@[simp] theorem surface_setExposed (v : WindowRecord) (exposed : Bool) :
    (v.setExposed exposed).surface = v.surface :=
  surface_of_platform (platform_setData fun _ => rfl)

@[simp] theorem filtered_setExposed (v : WindowRecord) (exposed : Bool) :
    (v.setExposed exposed).filtered = v.filtered := by
  unfold filtered setExposed setData
  cases v.data <;> rfl

@[simp] theorem surface_trackWindow (v : WindowRecord) : v.trackWindow.surface = v.surface := by
  rw [trackWindow_eq]
  unfold surface platform
  dsimp only
  split
  · rfl
  · cases v.data <;> rfl

theorem releaseWindow_of_wanted {v : WindowRecord} (h : v.wanted = true) : v.releaseWindow = v :=
  if_pos h

theorem releaseWindow_of_unwanted {v : WindowRecord} (h : v.wanted = false) :
    v.releaseWindow =
      { v with
        data := v.data.map fun data => { data with filtered := false }
        windowDestroyedWatcher := false
        surfaceDestroyedWatcher := none } :=
  if_neg (by simp [h])

@[simp] theorem surface_releaseWindow (v : WindowRecord) : v.releaseWindow.surface = v.surface := by
  unfold releaseWindow
  split
  · rfl
  · unfold surface platform setData
    dsimp only
    cases v.data <;> rfl

theorem createPlatform_eq (v : WindowRecord) (fresh : Nat) (withSurface : Bool) :
    v.createPlatform fresh withSurface =
      { v with
        data := (v.createPlatform fresh withSurface).data
        surfaceDestroyedWatcher := (v.createPlatform fresh withSurface).surfaceDestroyedWatcher
        shown := false } := by
  unfold createPlatform surfaceCreatedEvent
  generalize (⟨fresh, if withSurface then some (fresh + 1) else none⟩ : QWaylandWindow) = waylandWindow
  dsimp only
  split
  · split <;> rfl
  · rfl

end WindowRecord

/-! ## Watched windows and their objects -/

/-- A window is watched by all means there are while an effect is wanted for it. -/
structure Watch (wanted watcher : Bool) (surfaceWatcher : Option Nat) (data : Option WindowData) :
    Prop where
  wanted : wanted = true → watcher = true
  exists_of_watcher : watcher = true → data.isSome = true
  filtered : ∀ d, data = some d → d.filtered = watcher
  unwatched : watcher = false → surfaceWatcher = none
  surfaces : watcher = true → ∀ d p, data = some d → d.platform = some p → surfaceWatcher = some p.id

/-- A kind of objects that a map has an entry for: one object at most, while the effect is requested, and
for the surface of the window. -/
structure Clean {α : Type} (objects : EffectObjects α) (requested : Bool)
    (surface : Option WlSurface) : Prop where
  tidy : objects.Tidy
  requested : objects.current ≠ none → requested = true
  live : ∀ object ∈ objects.alive, surface = some object.2.surface

/-- What is known about a window at every moment. -/
structure WindowRecord.Kept (v : WindowRecord) : Prop where
  watched : Watch v.wanted v.windowDestroyedWatcher v.surfaceDestroyedWatcher v.data
  blurs : Clean v.blurs v.blurRegion.isSome v.surface
  contrasts : Clean v.contrasts v.backgroundContrastRegion.isSome v.surface

section Clean

variable {α : Type} {objects : EffectObjects α} {requested : Bool} {surface : Option WlSurface}

theorem Clean.replace_none (h : Clean objects requested surface) (requested' : Bool)
    (surface' : Option WlSurface) : Clean (objects.replace none) requested' surface' where
  tidy := h.tidy.replace_none
  requested := fun hc => absurd rfl hc
  live := by
    rw [h.tidy.alive_replace_none]
    simp

theorem Clean.replace_new (h : Clean objects requested surface) {σ : WlSurface}
    (hrequested : requested = true) (hsurface : surface = some σ) (sent : α) :
    Clean ((objects.new ⟨σ, sent⟩).replace (some (objects.made, ⟨σ, sent⟩))) requested surface where
  tidy := h.tidy.replace_new _
  requested := fun _ => hrequested
  live := by
    rw [h.tidy.alive_replace_new]
    intro object hobject
    rw [List.mem_singleton.mp hobject]
    exact hsurface

-- Without an entry there is no object, whatever else changes.
theorem Clean.idle (h : Clean objects requested surface) (hc : objects.current = none)
    (requested' : Bool) (surface' : Option WlSurface) : Clean objects requested' surface' where
  tidy := h.tidy
  requested := fun hne => absurd hc hne
  live := by
    rw [h.tidy.alive, hc]
    exact fun _ hobject => nomatch hobject

-- There is no object without a surface, so that the next one is not burdened.
theorem Clean.of_no_surface (h : Clean objects requested none) (surface' : Option WlSurface) :
    Clean objects requested surface' where
  tidy := h.tidy
  requested := h.requested
  live := fun object hobject => nomatch h.live object hobject

theorem Clean.deleteAll (h : Clean objects requested surface) (hc : objects.current = none)
    (requested' : Bool) (surface' : Option WlSurface) :
    Clean objects.deleteAll requested' surface' where
  tidy := h.tidy.deleteAll hc
  requested := fun hne => absurd hc hne
  live := fun _ hobject => nomatch hobject

theorem Clean.request (h : Clean objects requested surface) : Clean objects true surface :=
  ⟨h.tidy, fun _ => rfl, h.live⟩

end Clean

section Watch

variable {wanted watcher : Bool} {surfaceWatcher : Option Nat} {data : Option WindowData}

theorem Watch.mono (h : Watch wanted watcher surfaceWatcher data) {wanted' : Bool}
    (hmono : wanted' = true → wanted = true) : Watch wanted' watcher surfaceWatcher data :=
  { h with wanted := fun hw => h.wanted (hmono hw) }

theorem Watch.of_watcher (h : Watch wanted true surfaceWatcher data) (wanted' : Bool) :
    Watch wanted' true surfaceWatcher data :=
  { h with wanted := fun _ => rfl }

theorem Watch.setData (h : Watch wanted watcher surfaceWatcher data) {f : WindowData → WindowData}
    (hfiltered : ∀ d, (f d).filtered = d.filtered)
    (hplatform : ∀ d p, data = some d → (f d).platform = some p →
      ∃ q, d.platform = some q ∧ q.id = p.id) :
    Watch wanted watcher surfaceWatcher (data.map f) where
  wanted := h.wanted
  exists_of_watcher := fun hw => by
    rw [Option.isSome_map]
    exact h.exists_of_watcher hw
  filtered := fun d hd => by
    rcases Option.map_eq_some_iff.mp hd with ⟨d', hd', heq⟩
    rw [← heq, hfiltered, h.filtered d' hd']
  unwatched := h.unwatched
  surfaces := fun hw d p hd hp => by
    rcases Option.map_eq_some_iff.mp hd with ⟨d', hd', heq⟩
    rw [← heq] at hp
    rcases hplatform d' p hd' hp with ⟨q, hq, hid⟩
    rw [h.surfaces hw d' q hd' hq, hid]

end Watch

namespace WindowRecord

theorem data_of_platform {v : WindowRecord} {p : QWaylandWindow} (h : v.platform = some p) :
    ∃ d, v.data = some d ∧ d.platform = some p :=
  Option.bind_eq_some_iff.mp h

theorem Kept.unwanted {v : WindowRecord} (h : v.Kept) (hw : v.windowDestroyedWatcher = false) :
    v.wanted = false := by
  cases hwanted : v.wanted with
  | false => rfl
  | true =>
      rw [h.watched.wanted hwanted] at hw
      exact nomatch hw

-- What no map wants has no objects.
theorem Kept.idle {v : WindowRecord} (h : v.Kept) (hw : v.windowDestroyedWatcher = false) :
    v.blurs.current = none ∧ v.contrasts.current = none := by
  have hwanted := h.unwanted hw
  unfold wanted at hwanted
  rw [Bool.or_eq_false_iff, Bool.or_eq_false_iff] at hwanted
  apply And.intro
  · by_contra hc
    exact absurd (h.blurs.requested hc) (by simp [hwanted.1.1])
  · by_contra hc
    exact absurd (h.contrasts.requested hc) (by simp [hwanted.1.2])

/-! ## What the functions do to a window -/

theorem Kept.trackWindow {v : WindowRecord} (h : v.Kept) (hdata : v.data.isSome = true) :
    v.trackWindow.Kept := by
  have hsurface := v.surface_trackWindow
  rw [trackWindow_eq] at hsurface ⊢
  have hwatch := h.watched
  refine ⟨?_, ?_, ?_⟩
  · cases hw : v.windowDestroyedWatcher with
    | true =>
        rw [hw] at hwatch
        refine { hwatch.of_watcher _ with surfaces := ?_, unwatched := fun hno => nomatch hno }
        intro _ d p hd hp
        rw [hwatch.surfaces rfl d p hd hp]
        rfl
    | false =>
        refine ⟨fun _ => rfl, ?_, ?_, (fun hno => nomatch hno), ?_⟩
        · intro _
          exact Option.isSome_map.trans hdata
        · intro d hd
          rcases Option.map_eq_some_iff.mp hd with ⟨d', -, heq⟩
          rw [← heq]
        · intro _ d p hd hp
          rcases Option.map_eq_some_iff.mp hd with ⟨d', hd', heq⟩
          rw [← heq] at hp
          have hplatform : v.platform = some p := by
            unfold WindowRecord.platform
            rw [hd']
            exact hp
          rw [hwatch.unwatched hw, hplatform]
          rfl
  · rw [hsurface]
    exact h.blurs
  · rw [hsurface]
    exact h.contrasts

theorem Kept.releaseWindow {v : WindowRecord} (h : v.Kept) : v.releaseWindow.Kept := by
  cases hw : v.wanted with
  | true =>
      rw [releaseWindow_of_wanted hw]
      exact h
  | false =>
      have hsurface := v.surface_releaseWindow
      rw [releaseWindow_of_unwanted hw] at hsurface ⊢
      refine ⟨?_, ?_, ?_⟩
      · refine ⟨?_, (fun hno => nomatch hno), ?_, fun _ => rfl, (fun hno => nomatch hno)⟩
        · intro hwanted
          exact absurd (hw.symm.trans hwanted) Bool.false_ne_true
        · intro d hd
          rcases Option.map_eq_some_iff.mp hd with ⟨d', -, heq⟩
          rw [← heq]
      · rw [hsurface]
        exact h.blurs
      · rw [hsurface]
        exact h.contrasts

theorem Kept.resetBlur {v : WindowRecord} (h : v.Kept) : (v.resetBlur none).Kept :=
  ⟨h.watched, h.blurs.replace_none _ _, h.contrasts⟩

theorem Kept.resetContrast {v : WindowRecord} (h : v.Kept) : (v.resetContrast none).Kept :=
  ⟨h.watched, h.blurs, h.contrasts.replace_none _ _⟩

theorem Kept.installBlur {v : WindowRecord} (h : v.Kept) (g : Globals) {enable : Bool} (region : QRegion)
    (henable : enable = true → v.blurRegion.isSome = true) : (v.installBlur g enable region).Kept := by
  unfold WindowRecord.installBlur
  split
  · exact h
  · rename_i surface hsurface
    split
    · have hreset : { v with blurs := v.blurs.replace none }.Kept :=
        ⟨h.watched, h.blurs.replace_none _ _, h.contrasts⟩
      dsimp only
      split
      · exact ⟨hreset.watched, hreset.blurs, hreset.contrasts⟩
      · exact hreset
    · split
      · split
        · split
          · exact h
          · exact ⟨h.watched, h.blurs.replace_new (henable (by assumption)) hsurface _, h.contrasts⟩
        · exact h.resetBlur
      · exact h

theorem Kept.installContrast {v : WindowRecord} (h : v.Kept) (g : Globals) {enable : Bool}
    (data : BackgroundContrastData)
    (henable : enable = true → v.backgroundContrastRegion.isSome = true) :
    (v.installContrast g enable data).Kept := by
  unfold WindowRecord.installContrast
  split
  · split
    · exact h
    · rename_i surface hsurface
      split
      · split
        · exact h
        · exact ⟨h.watched, h.blurs, h.contrasts.replace_new (henable (by assumption)) hsurface _⟩
      · exact h.resetContrast
  · exact h

theorem Kept.installSlide {v : WindowRecord} (h : v.Kept) (g : Globals) (data : SlideData) :
    (v.installSlide g data).Kept := by
  rw [installSlide_eq]
  exact ⟨h.watched, h.blurs, h.contrasts⟩

-- Once it is tracked, anything may be wanted for the window.
theorem Kept.watch_trackWindow {v : WindowRecord} (h : v.Kept) (hdata : v.data.isSome = true)
    (wanted' : Bool) :
    Watch wanted' v.trackWindow.windowDestroyedWatcher v.trackWindow.surfaceDestroyedWatcher
      v.trackWindow.data := by
  have hwatch := (h.trackWindow hdata).watched
  have hw : v.trackWindow.windowDestroyedWatcher = true := by rw [trackWindow_eq]
  rw [hw] at hwatch ⊢
  exact hwatch.of_watcher _

theorem Kept.requestBlur {v : WindowRecord} (h : v.Kept) (hdata : v.data.isSome = true)
    (region : QRegion) : { v.trackWindow with blurRegion := some region }.Kept :=
  have htracked := h.trackWindow hdata
  ⟨h.watch_trackWindow hdata _, htracked.blurs.request, htracked.contrasts⟩

theorem Kept.forgetBlur {v : WindowRecord} (h : v.Kept) :
    ({ v with blurRegion := none }.resetBlur none).releaseWindow.Kept := by
  apply Kept.releaseWindow
  refine ⟨h.watched.mono ?_, h.blurs.replace_none _ _, h.contrasts⟩
  intro hw
  simp only [wanted, WindowRecord.resetBlur, Option.isSome_none, Bool.false_or, Bool.or_eq_true] at hw ⊢
  tauto

theorem Kept.enableBlurBehind {v : WindowRecord} (h : v.Kept) (hdata : v.data.isSome = true)
    (g : Globals) (enable : Bool) (region : QRegion) : (v.enableBlurBehind g enable region).Kept := by
  unfold WindowRecord.enableBlurBehind
  split
  · dsimp only
    split
    · exact h.trackWindow hdata
    · exact (h.requestBlur hdata region).installBlur g region fun _ => rfl
  · split
    · exact h.forgetBlur.installBlur g region fun hno => absurd hno Bool.false_ne_true
    · exact h

theorem Kept.enableBackgroundContrast {v : WindowRecord} (h : v.Kept) (hdata : v.data.isSome = true)
    (g : Globals) (enable : Bool) (data : BackgroundContrastData) :
    (v.enableBackgroundContrast g enable data).Kept := by
  unfold WindowRecord.enableBackgroundContrast
  split
  · have htracked := h.trackWindow hdata
    dsimp only
    split
    · exact htracked
    · refine Kept.installContrast ?_ g data fun _ => rfl
      exact ⟨h.watch_trackWindow hdata _, htracked.blurs, htracked.contrasts.request⟩
  · split
    · refine Kept.installContrast ?_ g data fun hno => absurd hno Bool.false_ne_true
      apply Kept.releaseWindow
      refine ⟨h.watched.mono ?_, h.blurs, h.contrasts.replace_none _ _⟩
      intro hw
      simp only [wanted, WindowRecord.resetContrast, Option.isSome_none, Bool.or_false, Bool.or_eq_true]
        at hw ⊢
      tauto
    · exact h

theorem Kept.slideWindow {v : WindowRecord} (h : v.Kept) (hdata : v.data.isSome = true) (g : Globals)
    (data : SlideData) : (v.slideWindow g data).Kept := by
  unfold WindowRecord.slideWindow
  split
  · have htracked := h.trackWindow hdata
    dsimp only
    split
    · exact htracked
    · apply Kept.installSlide
      exact ⟨h.watch_trackWindow hdata _, htracked.blurs, htracked.contrasts⟩
  · split
    · apply Kept.installSlide
      apply Kept.releaseWindow
      refine ⟨h.watched.mono ?_, h.blurs, h.contrasts⟩
      intro hw
      simp only [wanted, Option.isSome_none, Bool.or_false, Bool.or_eq_true] at hw ⊢
      tauto
    · exact h

/-! ## What the events do to a window -/

theorem Kept.forEntry {v : WindowRecord} (h : v.Kept) {ν : Type} {entry : Option ν}
    {f : ν → WindowRecord} (hf : entry.isSome = true → ∀ value, (f value).Kept) :
    (v.forEntry entry f).Kept := by
  unfold WindowRecord.forEntry
  split
  · exact hf rfl _
  · exact h

theorem Kept.exposeEvent {v : WindowRecord} (h : v.Kept) (g : Globals) : (v.exposeEvent g).Kept := by
  have hblur : (v.forEntry v.blurRegion (v.installBlur g true)).Kept :=
    h.forEntry fun hentry region => h.installBlur g region fun _ => hentry
  unfold WindowRecord.exposeEvent
  generalize v.forEntry v.blurRegion (v.installBlur g true) = v₁ at hblur
  have hcontrast : (v₁.forEntry v₁.backgroundContrastRegion (v₁.installContrast g true)).Kept :=
    hblur.forEntry fun hentry data => hblur.installContrast g data fun _ => hentry
  dsimp only
  generalize v₁.forEntry v₁.backgroundContrastRegion (v₁.installContrast g true) = v₂ at hcontrast
  exact hcontrast.forEntry fun _ data => hcontrast.installSlide g data

theorem Kept.setExposed {v : WindowRecord} (h : v.Kept) (exposed : Bool) : (v.setExposed exposed).Kept := by
  refine ⟨?_, ?_, ?_⟩
  · apply h.watched.setData
    · exact fun _ => rfl
    · exact fun d p _ hp => ⟨p, hp, rfl⟩
  · rw [surface_setExposed]
    exact h.blurs
  · rw [surface_setExposed]
    exact h.contrasts

theorem Kept.expose {v : WindowRecord} (h : v.Kept) (g : Globals) (exposed : Bool) :
    (v.expose g exposed).Kept := by
  have hset := h.setExposed exposed
  unfold WindowRecord.expose
  dsimp only
  split
  · exact hset.exposeEvent g
  · exact hset

-- A surface only goes after the objects that were made for it.
theorem Kept.dropSurface {v : WindowRecord} (h : v.Kept) :
    v.dropSurface.Kept ∧ v.dropSurface.surface = none := by
  unfold WindowRecord.dropSurface
  split
  · rename_i id σ hplatform
    rcases data_of_platform hplatform with ⟨d, hd, hdp⟩
    have hwatch : Watch v.wanted v.windowDestroyedWatcher v.surfaceDestroyedWatcher
        (v.data.map fun data => { data with platform := some ⟨id, none⟩ }) := by
      apply h.watched.setData
      · exact fun _ => rfl
      · intro d' p hd' hp
        refine ⟨⟨id, some σ⟩, ?_, ?_⟩
        · rw [hd] at hd'
          rw [← Option.some.inj hd']
          exact hdp
        · rw [← Option.some.inj hp]
    have hsurface : (v.setData fun data => { data with platform := some ⟨id, none⟩ }).surface = none := by
      unfold surface platform WindowRecord.setData
      rw [hd]
      rfl
    dsimp only
    split
    · exact ⟨⟨hwatch, h.blurs.replace_none _ _, h.contrasts.replace_none _ _⟩, hsurface⟩
    · rename_i hid
      have hw : v.windowDestroyedWatcher = false := by
        rw [← Bool.not_eq_true]
        intro hw
        exact hid (h.watched.surfaces hw d _ hd hdp)
      have hidle := h.idle hw
      exact ⟨⟨hwatch, h.blurs.idle hidle.1 _ _, h.contrasts.idle hidle.2 _ _⟩, hsurface⟩
  · rename_i hno
    refine ⟨h, ?_⟩
    unfold surface
    cases hplatform : v.platform with
    | none => rfl
    | some p =>
        cases p with
        | mk id σ =>
            cases σ with
            | none => rfl
            | some σ => exact absurd hplatform (hno id σ)

theorem Kept.dropPlatform {v : WindowRecord} (h : v.Kept) :
    v.dropPlatform.Kept ∧ v.dropPlatform.surface = none := by
  have hdrop := h.dropSurface
  have hsurface : v.dropPlatform.surface = none := by
    unfold surface platform WindowRecord.dropPlatform WindowRecord.setData
    cases v.dropSurface.data <;> rfl
  have hblurs := hdrop.1.blurs
  have hcontrasts := hdrop.1.contrasts
  rw [hdrop.2] at hblurs hcontrasts
  refine ⟨⟨?_, ?_, ?_⟩, hsurface⟩
  · exact hdrop.1.watched.setData (fun _ => rfl) fun _ _ _ hp => nomatch hp
  · rw [hsurface]
    exact hblurs
  · rw [hsurface]
    exact hcontrasts

theorem Kept.createWindow {v : WindowRecord} (h : v.Kept) (hdata : v.data = none) :
    v.createWindow.Kept := by
  have hw : v.windowDestroyedWatcher = false := by
    rw [← Bool.not_eq_true]
    intro hw
    have hsome := h.watched.exists_of_watcher hw
    rw [hdata] at hsome
    exact nomatch hsome
  have hidle := h.idle hw
  refine ⟨⟨h.watched.wanted, fun _ => rfl, ?_, h.watched.unwatched, ?_⟩, h.blurs.idle hidle.1 _ _,
    h.contrasts.idle hidle.2 _ _⟩
  · intro d hd
    rw [← Option.some.inj hd]
    exact hw.symm
  · intro _ d p hd hp
    rw [← Option.some.inj hd] at hp
    exact nomatch hp

theorem Kept.createPlatform {v : WindowRecord} (h : v.Kept) (hplatform : v.platform = none)
    (fresh : Nat) (withSurface : Bool) : (v.createPlatform fresh withSurface).Kept := by
  have hblurs := h.blurs
  have hcontrasts := h.contrasts
  rw [surface_of_platform hplatform] at hblurs hcontrasts
  unfold WindowRecord.createPlatform
  generalize (⟨fresh, if withSurface then some (fresh + 1) else none⟩ : QWaylandWindow) = waylandWindow
  cases hdata : v.data with
  | none =>
      have heq : v.setData (fun data => { data with platform := some waylandWindow }) = v := by
        unfold WindowRecord.setData
        rw [hdata]
        show { v with data := none } = v
        rw [← hdata]
      have hfiltered : { v with shown := false }.filtered = false := by
        unfold filtered
        rw [hdata]
        rfl
      dsimp only
      rw [heq, if_neg (by rw [hfiltered]; exact Bool.false_ne_true)]
      exact ⟨h.watched, h.blurs, h.contrasts⟩
  | some d =>
      have hset : v.setData (fun data => { data with platform := some waylandWindow }) =
          { v with data := some { d with platform := some waylandWindow } } := by
        unfold WindowRecord.setData
        rw [hdata]
        rfl
      have hfiltered := h.watched.filtered d hdata
      dsimp only
      rw [hset]
      have hwatch : ∀ surfaceWatcher, (v.windowDestroyedWatcher = false → surfaceWatcher = none) →
          (v.windowDestroyedWatcher = true → surfaceWatcher = some waylandWindow.id) →
          Watch v.wanted v.windowDestroyedWatcher surfaceWatcher
            (some { d with platform := some waylandWindow }) := by
        intro surfaceWatcher hunwatched hwatched
        refine ⟨h.watched.wanted, fun _ => rfl, ?_, hunwatched, ?_⟩
        · intro d' hd'
          rw [← Option.some.inj hd']
          exact hfiltered
        · intro hw d' p hd' hp
          rw [← Option.some.inj hd'] at hp
          rw [hwatched hw, Option.some.inj hp]
      split
      · rename_i hf
        have hw : v.windowDestroyedWatcher = true := hfiltered.symm.trans hf
        exact ⟨hwatch _ (fun hno => absurd (hw.symm.trans hno) (by decide)) fun _ => rfl,
          hblurs.of_no_surface _, hcontrasts.of_no_surface _⟩
      · rename_i hf
        have hw : v.windowDestroyedWatcher ≠ true := fun hw => hf (hfiltered.trans hw)
        exact ⟨hwatch _ h.watched.unwatched fun hyes => absurd hyes hw,
          hblurs.of_no_surface _, hcontrasts.of_no_surface _⟩

theorem Kept.createSurface {v : WindowRecord} (h : v.Kept) {id : Nat}
    (hplatform : v.platform = some ⟨id, none⟩) (σ : WlSurface) : (v.createSurface id σ).Kept := by
  have hsurface : v.surface = none := surface_of_platform hplatform
  have hblurs := h.blurs
  have hcontrasts := h.contrasts
  rw [hsurface] at hblurs hcontrasts
  rcases data_of_platform hplatform with ⟨d, hd, hdp⟩
  refine ⟨?_, hblurs.of_no_surface _, hcontrasts.of_no_surface _⟩
  apply h.watched.setData
  · exact fun _ => rfl
  · intro d' p hd' hp
    refine ⟨⟨id, none⟩, ?_, ?_⟩
    · rw [hd] at hd'
      rw [← Option.some.inj hd']
      exact hdp
    · rw [← Option.some.inj hp]

theorem Kept.destroyWindow {v : WindowRecord} (h : v.Kept) : v.destroyWindow.Kept := by
  have hdrop := h.dropPlatform.1
  unfold WindowRecord.destroyWindow
  generalize v.dropPlatform = v₁ at hdrop
  have hgone : Watch false false none none :=
    ⟨(fun hno => nomatch hno), (fun hno => nomatch hno), (fun _ hd => nomatch hd), fun _ => rfl,
      (fun hno => nomatch hno)⟩
  dsimp only
  cases hw : v₁.windowDestroyedWatcher with
  | true =>
      rw [if_pos rfl]
      exact ⟨hgone, (hdrop.blurs.replace_none false none).deleteAll rfl _ _,
        (hdrop.contrasts.replace_none false none).deleteAll rfl _ _⟩
  | false =>
      rw [if_neg Bool.false_ne_true]
      have hidle := hdrop.idle hw
      refine ⟨?_, hdrop.blurs.deleteAll hidle.1 _ _, hdrop.contrasts.deleteAll hidle.2 _ _⟩
      show Watch v₁.wanted false v₁.surfaceDestroyedWatcher none
      rw [hdrop.unwanted hw, hdrop.watched.unwatched hw]
      exact hgone

theorem Kept.blurActiveChanged {v : WindowRecord} (h : v.Kept) (g : Globals) :
    (v.blurActiveChanged g).Kept := by
  unfold WindowRecord.blurActiveChanged
  split
  · exact h
  · exact h.forEntry fun hentry region => h.installBlur g region fun _ => hentry

theorem Kept.contrastActiveChanged {v : WindowRecord} (h : v.Kept) (g : Globals) :
    (v.contrastActiveChanged g).Kept := by
  apply h.forEntry
  intro hentry data
  split
  · exact h.installContrast g data fun _ => hentry
  · exact h.installContrast g _ fun _ => hentry

theorem Kept.slideActiveChanged {v : WindowRecord} (h : v.Kept) (g : Globals) :
    (v.slideActiveChanged g).Kept := by
  apply h.forEntry
  intro _ data
  split
  · exact h.installSlide g data
  · exact h.installSlide g _

theorem Kept.backgroundEffectActiveChanged {v : WindowRecord} (h : v.Kept) (g : Globals) :
    (v.backgroundEffectActiveChanged g).Kept := by
  unfold WindowRecord.backgroundEffectActiveChanged
  split
  · exact h
  · exact ⟨h.watched, h.blurs, h.contrasts⟩

theorem Kept.capabilitiesChanged {v : WindowRecord} (h : v.Kept) (g : Globals) :
    (v.capabilitiesChanged g).Kept :=
  h.forEntry fun hentry region => h.installBlur g region fun _ => hentry

end WindowRecord

/-! ## Runs -/

namespace Scene

theorem forall_update {P : WindowRecord → Prop} {t : Scene} (h : ∀ window, P (t.windows window))
    (window : QWindow) {f : WindowRecord → WindowRecord} (hf : P (f (t.windows window))) :
    ∀ w, P ((t.update window f).windows w) := by
  intro w
  unfold update
  by_cases hw : w = window
  · rw [hw]
    dsimp only
    rw [Function.update_self]
    exact hf
  · dsimp only
    rw [Function.update_of_ne hw]
    exact h w

def Kept (t : Scene) : Prop := ∀ window, (t.windows window).Kept

theorem kept_start (compositor : Bool) : (start compositor).Kept := by
  intro window
  have hclean : ∀ {α : Type}, Clean ({} : EffectObjects α) false none :=
    ⟨ObjectPool.tidy_empty, fun h => absurd rfl h, fun _ h => nomatch h⟩
  exact ⟨⟨(fun hno => nomatch hno), (fun hno => nomatch hno), (fun _ hd => nomatch hd), fun _ => rfl,
    (fun hno => nomatch hno)⟩, hclean, hclean⟩

theorem Kept.next {t : Scene} (h : t.Kept) (e : Event) : (t.next e).Kept := by
  have htakes := t.takes_next e
  generalize t.next e = t' at htakes ⊢
  cases htakes with
  | refused => exact h
  | @createWindow window hdata => exact forall_update h window ((h window).createWindow hdata)
  | @createPlatform window withSurface hplatform =>
      exact forall_update (f := (·.createPlatform t.fresh withSurface)) h window
        ((h window).createPlatform hplatform t.fresh withSurface)
  | @createSurface window id hplatform =>
      exact forall_update (f := (·.createSurface id t.fresh)) h window
        ((h window).createSurface hplatform t.fresh)
  | destroySurface window => exact forall_update h window (h window).dropSurface.1
  | destroyPlatform window => exact forall_update h window (h window).dropPlatform.1
  | expose window exposed => exact forall_update h window ((h window).expose t.globals exposed)
  | destroyWindow window => exact forall_update h window (h window).destroyWindow
  | @enableBlurBehind window enable region hdata =>
      exact forall_update h window ((h window).enableBlurBehind hdata t.globals enable region)
  | @enableBackgroundContrast window enable data hdata =>
      exact forall_update h window ((h window).enableBackgroundContrast hdata t.globals enable data)
  | @slideWindow window data hdata =>
      exact forall_update h window ((h window).slideWindow hdata t.globals data)
  | blurManager => exact fun window => (h window).blurActiveChanged _
  | contrastManager => exact fun window => (h window).contrastActiveChanged _
  | slideManager => exact fun window => (h window).slideActiveChanged _
  | backgroundEffectManager => exact fun window => (h window).backgroundEffectActiveChanged _
  | capabilities => exact fun window => (h window).capabilitiesChanged _

/-- All along every run the windows with effects are watched, and their `Blur` and `Contrast` are alone and
for the window's surface. -/
theorem kept_after (compositor : Bool) (es : List Event) : (after compositor es).Kept := by
  have hrun : (Machine.run (Machine.silent next) (start compositor) es).1.Kept :=
    Machine.run_invariant Kept (fun _ e ht _ => Kept.next ht e) (kept_start compositor)
      (Machine.along_true _ es)
  rw [Machine.run_silent] at hrun
  exact hrun

end Scene

/-! ## Duplicates -/

/-- One object at most, and for the surface of the window. -/
structure Single {α : Type} (objects : EffectObjects α) (surface : Option WlSurface) : Prop where
  most : objects.alive.length ≤ 1
  live : ∀ object ∈ objects.alive, surface = some object.2.surface

section Single

variable {α : Type} {objects : EffectObjects α} {surface : Option WlSurface}

theorem Clean.single {requested : Bool} (h : Clean objects requested surface) : Single objects surface :=
  ⟨h.tidy.length_alive, h.live⟩

theorem Single.of_empty (h : objects.alive = []) (surface : Option WlSurface) :
    Single objects surface := by
  apply Single.mk
  · rw [h]
    exact Nat.zero_le 1
  · rw [h]
    exact fun _ hobject => nomatch hobject

theorem Single.of_no_surface (h : Single objects none) (surface : Option WlSurface) :
    Single objects surface :=
  ⟨h.most, fun object hobject => nomatch h.live object hobject⟩

theorem single_none_iff : Single objects none ↔ objects.alive = [] := by
  apply Iff.intro
  · intro h
    rw [List.eq_nil_iff_forall_not_mem]
    exact fun object hobject => nomatch h.live object hobject
  · intro h
    exact .of_empty h none

theorem single_new_iff {σ : WlSurface} (sent : α) :
    Single (objects.new ⟨σ, sent⟩) (some σ) ↔ objects.alive = [] := by
  unfold ObjectPool.new
  apply Iff.intro
  · intro h
    have hlength := h.most
    rw [List.length_append, List.length_singleton] at hlength
    exact List.length_eq_zero_iff.mp (by omega)
  · intro h
    rw [h]
    refine ⟨Nat.le_refl 1, ?_⟩
    intro object hobject
    rw [List.mem_singleton.mp hobject]

end Single

namespace WindowRecord

/-- One object of each kind at most, and none for a surface that is gone. -/
structure Unduplicated (v : WindowRecord) : Prop where
  blurs : Single v.blurs v.surface
  contrasts : Single v.contrasts v.surface
  slides : Single v.slides v.surface

/-- The `Slide` objects, what is requested and the surface are the same. -/
structure SameSlides (v v' : WindowRecord) : Prop where
  slides : v'.slides = v.slides
  slide : v'.slide = v.slide
  surface : v'.surface = v.surface

theorem SameSlides.refl (v : WindowRecord) : SameSlides v v := ⟨rfl, rfl, rfl⟩

theorem SameSlides.trans {v₁ v₂ v₃ : WindowRecord} (h₁ : SameSlides v₁ v₂) (h₂ : SameSlides v₂ v₃) :
    SameSlides v₁ v₃ :=
  ⟨h₂.slides.trans h₁.slides, h₂.slide.trans h₁.slide, h₂.surface.trans h₁.surface⟩

theorem sameSlides_trackWindow (v : WindowRecord) : SameSlides v v.trackWindow :=
  ⟨by rw [trackWindow_eq], by rw [trackWindow_eq], v.surface_trackWindow⟩

theorem sameSlides_releaseWindow (v : WindowRecord) : SameSlides v v.releaseWindow := by
  refine ⟨?_, ?_, v.surface_releaseWindow⟩
  · unfold releaseWindow
    split <;> rfl
  · unfold releaseWindow
    split <;> rfl

theorem sameSlides_installBlur (v : WindowRecord) (g : Globals) (enable : Bool) (region : QRegion) :
    SameSlides v (v.installBlur g enable region) := by
  rw [installBlur_eq]
  exact ⟨rfl, rfl, rfl⟩

theorem sameSlides_installContrast (v : WindowRecord) (g : Globals) (enable : Bool)
    (data : BackgroundContrastData) : SameSlides v (v.installContrast g enable data) := by
  rw [installContrast_eq]
  exact ⟨rfl, rfl, rfl⟩

theorem sameSlides_forEntry (v : WindowRecord) {ν : Type} (entry : Option ν) {f : ν → WindowRecord}
    (h : ∀ value, SameSlides v (f value)) : SameSlides v (v.forEntry entry f) := by
  unfold forEntry
  split
  · exact h _
  · exact SameSlides.refl v

theorem sameSlides_enableBlurBehind (v : WindowRecord) (g : Globals) (enable : Bool) (region : QRegion) :
    SameSlides v (v.enableBlurBehind g enable region) := by
  unfold enableBlurBehind
  split
  · have htrack := v.sameSlides_trackWindow
    dsimp only
    split
    · exact htrack
    · have hset : SameSlides v { v.trackWindow with blurRegion := some region } :=
        ⟨htrack.slides, htrack.slide, htrack.surface⟩
      exact hset.trans (sameSlides_installBlur _ g true region)
  · split
    · have hreset : SameSlides v ({ v with blurRegion := none }.resetBlur none) := ⟨rfl, rfl, rfl⟩
      exact (hreset.trans (sameSlides_releaseWindow _)).trans (sameSlides_installBlur _ g false region)
    · exact SameSlides.refl v

theorem sameSlides_enableBackgroundContrast (v : WindowRecord) (g : Globals) (enable : Bool)
    (data : BackgroundContrastData) : SameSlides v (v.enableBackgroundContrast g enable data) := by
  unfold enableBackgroundContrast
  split
  · have htrack := v.sameSlides_trackWindow
    dsimp only
    split
    · exact htrack
    · have hset : SameSlides v { v.trackWindow with backgroundContrastRegion := some data } :=
        ⟨htrack.slides, htrack.slide, htrack.surface⟩
      exact hset.trans (sameSlides_installContrast _ g true data)
  · split
    · have hreset : SameSlides v ({ v with backgroundContrastRegion := none }.resetContrast none) :=
        ⟨rfl, rfl, rfl⟩
      exact (hreset.trans (sameSlides_releaseWindow _)).trans (sameSlides_installContrast _ g false data)
    · exact SameSlides.refl v

/-- The window has one `Slide` at most, and for its surface. -/
def SingleSlide (v : WindowRecord) : Prop := Single v.slides v.surface

theorem SameSlides.singleSlide {v v' : WindowRecord} (h : SameSlides v v') (hs : v.SingleSlide) :
    v'.SingleSlide := by
  unfold SingleSlide
  rw [h.slides, h.surface]
  exact hs

theorem Kept.unduplicated_iff {v : WindowRecord} (h : v.Kept) : v.Unduplicated ↔ v.SingleSlide :=
  ⟨fun hu => hu.slides, fun hs => ⟨h.blurs.single, h.contrasts.single, hs⟩⟩

/-- `installSlide` makes a `Slide`. -/
structure MakesSlide (v : WindowRecord) (g : Globals) (data : SlideData) : Prop where
  manager : g.slideManager = true
  surface : v.surface ≠ none
  location : data.location ≠ .noEdge

theorem SameSlides.makesSlide {v v' : WindowRecord} (h : SameSlides v v') (g : Globals)
    (data : SlideData) : v'.MakesSlide g data ↔ v.MakesSlide g data := by
  apply Iff.intro
  · intro hm
    exact ⟨hm.manager, h.surface ▸ hm.surface, hm.location⟩
  · intro hm
    exact ⟨hm.manager, h.surface.symm ▸ hm.surface, hm.location⟩

theorem installSlide_of_not_makes {v : WindowRecord} {g : Globals} {data : SlideData}
    (h : ¬v.MakesSlide g data) : v.installSlide g data = v := by
  unfold installSlide
  split
  · rename_i hmanager
    split
    · rfl
    · rename_i σ hsurface
      rw [if_neg]
      intro hlocation
      exact h ⟨hmanager, by rw [hsurface]; exact Option.some_ne_none σ, hlocation⟩
  · rfl

theorem installSlide_of_makes {v : WindowRecord} {g : Globals} {data : SlideData}
    (h : v.MakesSlide g data) :
    ∃ σ, v.surface = some σ ∧ v.installSlide g data = { v with slides := v.slides.new ⟨σ, data⟩ } := by
  rcases Option.ne_none_iff_exists'.mp h.surface with ⟨σ, hsurface⟩
  refine ⟨σ, hsurface, ?_⟩
  unfold installSlide
  rw [if_pos h.manager, hsurface]
  exact if_pos h.location

-- The one step that makes a `Slide` must find none.
theorem singleSlide_installSlide_iff {v : WindowRecord} (hs : v.SingleSlide) (g : Globals)
    (data : SlideData) :
    (v.installSlide g data).SingleSlide ↔ ¬(v.slides.alive ≠ [] ∧ v.MakesSlide g data) := by
  by_cases hm : v.MakesSlide g data
  · rcases installSlide_of_makes hm with ⟨σ, hsurface, heq⟩
    have hnew : (v.installSlide g data).SingleSlide ↔ v.slides.alive = [] := by
      rw [heq]
      show Single _ v.surface ↔ _
      rw [hsurface]
      exact single_new_iff data
    rw [hnew]
    simp [hm]
  · rw [installSlide_of_not_makes hm]
    simp [hm, hs]

theorem sameSlides_setExposed (v : WindowRecord) (exposed : Bool) : SameSlides v (v.setExposed exposed) :=
  ⟨rfl, rfl, v.surface_setExposed exposed⟩

-- A window for which an effect is wanted gets the expose event.
theorem Kept.filtered_of_wanted {v : WindowRecord} (h : v.Kept) (hwanted : v.wanted = true)
    (hsurface : v.surface ≠ none) : v.filtered = true := by
  unfold filtered
  cases hdata : v.data with
  | none => exact absurd (surface_of_no_data hdata) hsurface
  | some d => exact (h.watched.filtered d hdata).trans (h.watched.wanted hwanted)

theorem singleSlide_expose_iff {v : WindowRecord} (h : v.Kept) (hs : v.SingleSlide) (g : Globals)
    (exposed : Bool) :
    (v.expose g exposed).SingleSlide ↔
      ¬(exposed = true ∧ v.slides.alive ≠ [] ∧ ∃ data, v.slide = some data ∧ v.MakesSlide g data) := by
  have hset := v.sameSlides_setExposed exposed
  unfold expose
  dsimp only
  rw [filtered_setExposed]
  generalize v.setExposed exposed = v₁ at hset
  cases exposed with
  | false =>
      rw [Bool.and_false, if_neg Bool.false_ne_true]
      exact iff_of_true (hset.singleSlide hs) fun hno => nomatch hno.1
  | true =>
      rw [Bool.and_true]
      unfold exposeEvent
      have hblur := v₁.sameSlides_forEntry v₁.blurRegion (v₁.sameSlides_installBlur g true)
      generalize v₁.forEntry v₁.blurRegion (v₁.installBlur g true) = v₂ at hblur
      have hcontrast := v₂.sameSlides_forEntry v₂.backgroundContrastRegion
        (v₂.sameSlides_installContrast g true)
      dsimp only
      generalize v₂.forEntry v₂.backgroundContrastRegion (v₂.installContrast g true) = v₃ at hcontrast
      have hall := (hset.trans hblur).trans hcontrast
      rw [hall.slide]
      cases hslide : v.slide with
      | none =>
          have hsingle : (if v.filtered = true then v₃.forEntry none (v₃.installSlide g)
              else v₁).SingleSlide := by
            split
            · exact hall.singleSlide hs
            · exact hset.singleSlide hs
          simp [hsingle]
      | some data =>
          by_cases hf : v.filtered = true
          · rw [if_pos hf]
            show (v₃.installSlide g data).SingleSlide ↔ _
            rw [singleSlide_installSlide_iff (hall.singleSlide hs), hall.slides, hall.makesSlide]
            simp
          · rw [if_neg hf]
            have hno : ¬v.MakesSlide g data := fun hm =>
              hf (h.filtered_of_wanted (by simp [wanted, hslide]) hm.surface)
            simp [hno, hset.singleSlide hs]

theorem singleSlide_slideWindow_iff {v : WindowRecord} (hs : v.SingleSlide) (g : Globals)
    (data : SlideData) :
    (v.slideWindow g data).SingleSlide ↔
      ¬(v.slides.alive ≠ [] ∧ v.slide ≠ some data ∧ v.MakesSlide g data) := by
  unfold slideWindow
  have htrack := v.sameSlides_trackWindow
  split
  · dsimp only
    rw [htrack.slide]
    split
    · rename_i hsame
      simp [htrack.singleSlide hs, hsame]
    · rename_i hdiff
      have hset : SameSlides { v with slide := some data } { v.trackWindow with slide := some data } :=
        ⟨htrack.slides, rfl, htrack.surface⟩
      have hmakes : { v with slide := some data }.MakesSlide g data ↔ v.MakesSlide g data :=
        ⟨fun hm => ⟨hm.manager, hm.surface, hm.location⟩, fun hm => ⟨hm.manager, hm.surface, hm.location⟩⟩
      rw [singleSlide_installSlide_iff (hset.singleSlide hs), hset.slides, hset.makesSlide, hmakes]
      simp [hdiff]
  · rename_i hedge
    have hno : ∀ v' : WindowRecord, ¬v'.MakesSlide g data := fun _ hm => hedge hm.location
    split
    · have hrelease := sameSlides_releaseWindow { v with slide := none }
      rw [installSlide_of_not_makes (hno _)]
      simp [hno v, hrelease.singleSlide hs]
    · simp [hno v, hs]

theorem singleSlide_slideActiveChanged_iff {v : WindowRecord} (hs : v.SingleSlide) (g : Globals) :
    (v.slideActiveChanged g).SingleSlide ↔
      ¬(v.slides.alive ≠ [] ∧ ∃ data, v.slide = some data ∧ v.MakesSlide g data) := by
  unfold slideActiveChanged forEntry
  cases hslide : v.slide with
  | none => simp [hs]
  | some data =>
      cases hmanager : g.slideManager with
      | true =>
          show (v.installSlide g data).SingleSlide ↔ _
          rw [singleSlide_installSlide_iff hs]
          simp
      | false =>
          have hno : ∀ data, ¬v.MakesSlide g data := fun _ hm =>
            absurd (hmanager.symm.trans hm.manager) Bool.false_ne_true
          show (v.installSlide g ⟨.noEdge, 0⟩).SingleSlide ↔ _
          rw [installSlide_of_not_makes (hno _)]
          simp [hs, hno data]

theorem singleSlide_dropSurface_iff {v : WindowRecord} (h : v.Kept) :
    v.dropSurface.SingleSlide ↔ v.slides.alive = [] := by
  have hslides : v.dropSurface.slides = v.slides := by
    unfold dropSurface
    split
    · dsimp only
      split <;> rfl
    · rfl
  unfold SingleSlide
  rw [h.dropSurface.2, hslides]
  exact single_none_iff

theorem singleSlide_dropPlatform_iff {v : WindowRecord} (h : v.Kept) :
    v.dropPlatform.SingleSlide ↔ v.slides.alive = [] := by
  rw [← singleSlide_dropSurface_iff h]
  unfold SingleSlide
  rw [h.dropPlatform.2, h.dropSurface.2]
  rfl

-- The children go with the window.
theorem singleSlide_destroyWindow (v : WindowRecord) : v.destroyWindow.SingleSlide :=
  .of_empty rfl _

theorem SingleSlide.createWindow {v : WindowRecord} (hs : v.SingleSlide) (hdata : v.data = none) :
    v.createWindow.SingleSlide := by
  unfold SingleSlide at hs
  rw [surface_of_no_data hdata] at hs
  exact hs.of_no_surface _

theorem SingleSlide.createPlatform {v : WindowRecord} (hs : v.SingleSlide) (hplatform : v.platform = none)
    (fresh : Nat) (withSurface : Bool) : (v.createPlatform fresh withSurface).SingleSlide := by
  unfold SingleSlide at hs ⊢
  have hslides : (v.createPlatform fresh withSurface).slides = v.slides := by
    rw [createPlatform_eq]
  rw [surface_of_platform hplatform] at hs
  rw [hslides]
  exact hs.of_no_surface _

theorem SingleSlide.createSurface {v : WindowRecord} (hs : v.SingleSlide) {id : Nat}
    (hplatform : v.platform = some ⟨id, none⟩) (σ : WlSurface) : (v.createSurface id σ).SingleSlide := by
  unfold SingleSlide at hs
  have hsurface : v.surface = none := surface_of_platform hplatform
  rw [hsurface] at hs
  exact hs.of_no_surface _

theorem sameSlides_blurActiveChanged (v : WindowRecord) (g : Globals) :
    SameSlides v (v.blurActiveChanged g) := by
  unfold blurActiveChanged
  split
  · exact SameSlides.refl v
  · exact v.sameSlides_forEntry _ (v.sameSlides_installBlur g _)

theorem sameSlides_contrastActiveChanged (v : WindowRecord) (g : Globals) :
    SameSlides v (v.contrastActiveChanged g) := by
  apply v.sameSlides_forEntry
  intro data
  split
  · exact v.sameSlides_installContrast g true data
  · exact v.sameSlides_installContrast g false _

theorem sameSlides_backgroundEffectActiveChanged (v : WindowRecord) (g : Globals) :
    SameSlides v (v.backgroundEffectActiveChanged g) := by
  unfold backgroundEffectActiveChanged
  split
  · exact SameSlides.refl v
  · exact ⟨rfl, rfl, rfl⟩

end WindowRecord

namespace Scene

def Unduplicated (t : Scene) : Prop := ∀ window, (t.windows window).Unduplicated

/-- A `Slide` is made for a window that still has one, or the surface of a window with a `Slide` goes. -/
def Leaks (t : Scene) : Event → Prop
  | .slideWindow window data =>
      (t.windows window).slides.alive ≠ [] ∧ (t.windows window).slide ≠ some data ∧
        (t.windows window).MakesSlide t.globals data
  | .expose window exposed =>
      exposed = true ∧ (t.windows window).slides.alive ≠ [] ∧
        ∃ data, (t.windows window).slide = some data ∧ (t.windows window).MakesSlide t.globals data
  | .slideManager active =>
      active ≠ t.globals.slideManager ∧ ∃ window, (t.windows window).slides.alive ≠ [] ∧
        ∃ data, (t.windows window).slide = some data ∧
          (t.windows window).MakesSlide { t.globals with slideManager := active } data
  | .destroySurface window => (t.windows window).slides.alive ≠ []
  | .destroyPlatform window => (t.windows window).slides.alive ≠ []
  | _ => False

def SingleSlides (t : Scene) : Prop := ∀ window, (t.windows window).SingleSlide

theorem singleSlides_update_iff {t : Scene} (hs : t.SingleSlides) (window : QWindow)
    (f : WindowRecord → WindowRecord) :
    (t.update window f).SingleSlides ↔ (f (t.windows window)).SingleSlide := by
  apply Iff.intro
  · intro h
    have hwindow := h window
    unfold update at hwindow
    dsimp only at hwindow
    rw [Function.update_self] at hwindow
    exact hwindow
  · exact forall_update hs window

-- An event that the client does not take makes no `Slide`.
theorem Refuses.not_leaks {t : Scene} {e : Event} (h : t.Refuses e) : ¬t.Leaks e := by
  cases e with
  | slideWindow window data =>
      intro hleak
      exact hleak.2.2.surface (WindowRecord.surface_of_no_data h)
  | slideManager active => exact fun hleak => hleak.1 h
  | expose | destroySurface | destroyPlatform => exact h.elim
  | _ => exact not_false

-- What one step does to the `Slide` objects of all windows.
theorem singleSlides_next_iff {t : Scene} (h : t.Kept) (hs : t.SingleSlides) (e : Event) :
    (t.next e).SingleSlides ↔ ¬t.Leaks e := by
  have hkeep : ∀ {t' : Scene}, t'.SingleSlides → (t'.SingleSlides ↔ ¬False) := fun ht' =>
    iff_of_true ht' not_false
  have htakes := t.takes_next e
  generalize t.next e = t' at htakes ⊢
  cases htakes with
  | refused hrefuses => exact iff_of_true hs hrefuses.not_leaks
  | @createWindow window hdata => exact hkeep (forall_update hs window ((hs window).createWindow hdata))
  | @createPlatform window withSurface hplatform =>
      exact hkeep (forall_update (f := (·.createPlatform t.fresh withSurface)) hs window
        ((hs window).createPlatform hplatform t.fresh withSurface))
  | @createSurface window id hplatform =>
      exact hkeep (forall_update (f := (·.createSurface id t.fresh)) hs window
        ((hs window).createSurface hplatform t.fresh))
  | destroySurface window =>
      rw [singleSlides_update_iff hs, WindowRecord.singleSlide_dropSurface_iff (h window)]
      exact not_not.symm
  | destroyPlatform window =>
      rw [singleSlides_update_iff hs, WindowRecord.singleSlide_dropPlatform_iff (h window)]
      exact not_not.symm
  | expose window exposed =>
      rw [singleSlides_update_iff hs]
      exact WindowRecord.singleSlide_expose_iff (h window) (hs window) t.globals exposed
  | destroyWindow window =>
      exact hkeep (forall_update hs window (WindowRecord.singleSlide_destroyWindow _))
  | @enableBlurBehind window enable region =>
      exact hkeep (forall_update hs window
        ((WindowRecord.sameSlides_enableBlurBehind _ _ _ _).singleSlide (hs window)))
  | @enableBackgroundContrast window enable data =>
      exact hkeep (forall_update hs window
        ((WindowRecord.sameSlides_enableBackgroundContrast _ _ _ _).singleSlide (hs window)))
  | @slideWindow window data =>
      rw [singleSlides_update_iff hs]
      exact WindowRecord.singleSlide_slideWindow_iff (hs window) t.globals data
  | blurManager =>
      exact hkeep fun window => (WindowRecord.sameSlides_blurActiveChanged _ _).singleSlide (hs window)
  | contrastManager =>
      exact hkeep fun window =>
        (WindowRecord.sameSlides_contrastActiveChanged _ _).singleSlide (hs window)
  | @slideManager active hchanged =>
      have hall : ∀ window, ((t.broadcast { t.globals with slideManager := active }
            WindowRecord.slideActiveChanged).windows window).SingleSlide ↔
          ¬((t.windows window).slides.alive ≠ [] ∧ ∃ data, (t.windows window).slide = some data ∧
            (t.windows window).MakesSlide { t.globals with slideManager := active } data) :=
        fun window => WindowRecord.singleSlide_slideActiveChanged_iff (hs window) _
      apply Iff.intro
      · intro hafter hleak
        rcases hleak.2 with ⟨window, hwindow⟩
        exact (hall window).mp (hafter window) hwindow
      · intro hno window
        exact (hall window).mpr fun hwindow => hno ⟨hchanged, window, hwindow⟩
  | backgroundEffectManager =>
      exact hkeep fun window =>
        (WindowRecord.sameSlides_backgroundEffectActiveChanged _ _).singleSlide (hs window)
  | capabilities =>
      exact hkeep fun window =>
        (WindowRecord.sameSlides_forEntry _ _
          (WindowRecord.sameSlides_installBlur _ _ _)).singleSlide (hs window)

theorem singleSlides_start (compositor : Bool) : (start compositor).SingleSlides := fun _ =>
  .of_empty rfl _

/-- At every moment each window has one `Blur`, one `Contrast` and one `Slide` at most, and none for a
surface that is gone, exactly as long as no step leaks a `Slide`. -/
theorem no_duplicates_iff (compositor : Bool) (es : List Event) :
    (∀ n, (after compositor (es.take n)).Unduplicated) ↔
      Machine.Along (Machine.silent next) (fun t e => ¬t.Leaks e) (start compositor) es := by
  have hiff : ∀ n, (after compositor (es.take n)).Unduplicated ↔
      (Machine.run (Machine.silent next) (start compositor) (es.take n)).1.SingleSlides := by
    intro n
    rw [Machine.run_silent]
    exact forall_congr' fun window => (kept_after compositor (es.take n) window).unduplicated_iff
  rw [forall_congr' hiff]
  exact Machine.always_iff_along Kept SingleSlides (fun t e => ¬t.Leaks e)
    (fun _ e h => Kept.next h e) (fun _ e h hs => singleSlides_next_iff h hs e) es
    (kept_start compositor) (singleSlides_start compositor)

/-- A slide is requested for a window that has a surface, and the window is exposed. -/
def slidAndExposed : List Event :=
  [.slideManager true, .createWindow 7, .createPlatform 7 true, .slideWindow 7 ⟨.leftEdge, 0⟩,
    .expose 7 true]

/-- Both the request and the event make a `Slide`, and nothing deletes the first one. -/
theorem slide_made_twice : ¬(after true slidAndExposed).Unduplicated := by
  intro h
  have hmost := (h 7).slides.most
  exact absurd hmost (by decide)

end Scene

end WindowEffects

end KWindowSystem
