import KWindowSystem.Wayland.ObjectLifetime

/-!
# Blur is installed where it is requested

Either global can provide blur: the background effect manager while it is there and has the capability,
the blur manager otherwise.  Whether every shown window for which blur is requested has the object of
one of them, with the region that was requested, through all changes of the globals.
-/

namespace KWindowSystem

namespace WindowEffects

/-- What blurs behind a window: a `Blur`, or the background effect. -/
inductive BlurObject where
  | blur (object : EffectObject QRegion)
  | effect (object : RegionEffect)
deriving DecidableEq, Repr

namespace BlurObject

def surface : BlurObject → WlSurface
  | blur object => object.surface
  | effect object => object.surface

/-- The blur region that the object carries, if any. -/
def region : BlurObject → Option QRegion
  | blur object => some object.sent
  | effect object => object.region

/-- The object carries the region that was requested.  An empty region stands for the whole window, which
only a `Blur` knows by itself. -/
def Carries : BlurObject → QRegion → Prop
  | blur object, requested => object.sent = requested
  | effect object, requested =>
      object.region = some (if requested = [] then [wholeWindow] else requested)

end BlurObject

namespace WindowRecord

/-- All objects of the window that blur. -/
def blurObjects (v : WindowRecord) : List BlurObject :=
  v.blurs.alive.map (fun object => .blur object.2) ++ v.backgroundEffect.toList.map .effect

/-- Blur is requested for a window that was shown with its surface. -/
structure Required (v : WindowRecord) (surface : WlSurface) (region : QRegion) : Prop where
  region : v.blurRegion = some region
  surface : v.surface = some surface
  shown : v.shown = true

/-- Blur is installed exactly when it should be. -/
structure Installed (v : WindowRecord) (g : Globals) : Prop where
  required : ∀ surface region, v.Required surface region → g.isEffectAvailable .blurBehind = true →
    ∃ object, v.blurObjects = [object] ∧ object.surface = surface ∧ object.Carries region
  unrequested : v.blurRegion = none → ∀ object ∈ v.blurObjects, object.region = none

/-- The map has a background effect for the window that was made for another surface. -/
def Stale (v : WindowRecord) : Prop :=
  ∃ surface effect, v.surface = some surface ∧ v.backgroundEffect = some effect ∧ effect.surface ≠ surface

/-- Blur is required, and no `Blur` provides it. -/
def Lacks (v : WindowRecord) : Prop :=
  ∃ surface region, v.Required surface region ∧ ∀ object ∈ v.blurs.alive, object.2.sent ≠ region

end WindowRecord

/-- The background effect manager can blur. -/
def Globals.offersEffect (g : Globals) : Bool := g.backgroundEffectManager && g.supportsBlur

namespace WindowRecord

section Installed

variable {v v' : WindowRecord} {g : Globals} {surface : WlSurface} {region : QRegion}

theorem installed_of_requested (hregion : v.blurRegion = some region) (hsurface : v.surface = some surface) :
    v.Installed g ↔ (v.shown = true → g.isEffectAvailable .blurBehind = true →
      ∃ object, v.blurObjects = [object] ∧ object.surface = surface ∧ object.Carries region) := by
  apply Iff.intro
  · intro h hshown
    exact h.required surface region ⟨hregion, hsurface, hshown⟩
  · intro h
    refine ⟨?_, (fun hno => nomatch hregion.symm.trans hno)⟩
    intro surface' region' hrequired
    have hs := Option.some.inj (hsurface.symm.trans hrequired.surface)
    have hr := Option.some.inj (hregion.symm.trans hrequired.region)
    rw [← hs, ← hr]
    exact h hrequired.shown

theorem installed_of_unrequested (hregion : v.blurRegion = none) :
    v.Installed g ↔ ∀ object ∈ v.blurObjects, object.region = none := by
  apply Iff.intro
  · intro h
    exact h.unrequested hregion
  · intro h
    exact ⟨(fun _ _ hrequired => nomatch hregion.symm.trans hrequired.region), fun _ => h⟩

theorem installed_of_not_required
    (hrequired : ∀ surface region, v.Required surface region → g.isEffectAvailable .blurBehind = false)
    (hunrequested : v.blurRegion = none → ∀ object ∈ v.blurObjects, object.region = none) :
    v.Installed g := by
  refine ⟨?_, hunrequested⟩
  intro surface region hreq havailable
  rw [hrequired surface region hreq] at havailable
  exact nomatch havailable

-- The globals only matter where blur is available.
theorem Installed.congr (h : v.Installed g) {g' : Globals}
    (hg : g'.isEffectAvailable .blurBehind = g.isEffectAvailable .blurBehind) : v.Installed g' := by
  refine ⟨?_, h.unrequested⟩
  intro surface region hrequired havailable
  exact h.required surface region hrequired (hg ▸ havailable)

/-- Nothing that matters for blur is different. -/
structure SameBlur (v v' : WindowRecord) : Prop where
  blurRegion : v'.blurRegion = v.blurRegion
  surface : v'.surface = v.surface
  shown : v'.shown = v.shown
  blurs : v'.blurs = v.blurs
  backgroundEffect : v'.backgroundEffect = v.backgroundEffect

theorem SameBlur.refl (v : WindowRecord) : SameBlur v v := ⟨rfl, rfl, rfl, rfl, rfl⟩

theorem SameBlur.trans {v₁ v₂ v₃ : WindowRecord} (h₁ : SameBlur v₁ v₂) (h₂ : SameBlur v₂ v₃) :
    SameBlur v₁ v₃ :=
  ⟨h₂.blurRegion.trans h₁.blurRegion, h₂.surface.trans h₁.surface, h₂.shown.trans h₁.shown,
    h₂.blurs.trans h₁.blurs, h₂.backgroundEffect.trans h₁.backgroundEffect⟩

theorem SameBlur.blurObjects (h : SameBlur v v') : v'.blurObjects = v.blurObjects := by
  unfold WindowRecord.blurObjects
  rw [h.blurs, h.backgroundEffect]

theorem SameBlur.installed (h : SameBlur v v') (hinstalled : v.Installed g) : v'.Installed g := by
  apply Installed.mk
  · intro surface region hrequired
    rw [h.blurObjects]
    exact hinstalled.required surface region
      ⟨h.blurRegion ▸ hrequired.region, h.surface ▸ hrequired.surface, h.shown ▸ hrequired.shown⟩
  · rw [h.blurRegion, h.blurObjects]
    exact hinstalled.unrequested

end Installed

/-! ## Installing -/

theorem Installed.surfaceless {v : WindowRecord} {g : Globals} (hsurface : v.surface = none)
    (hunrequested : v.blurRegion = none → ∀ object ∈ v.blurObjects, object.region = none) :
    v.Installed g := by
  refine installed_of_not_required ?_ hunrequested
  intro surface region hrequired
  exact nomatch hsurface.symm.trans hrequired.surface

theorem Installed.unshown {v : WindowRecord} {g : Globals} (hshown : v.shown = false)
    (hunrequested : v.blurRegion = none → ∀ object ∈ v.blurObjects, object.region = none) :
    v.Installed g := by
  refine installed_of_not_required ?_ hunrequested
  intro surface region hrequired
  exact absurd (hshown.symm.trans hrequired.shown) Bool.false_ne_true

-- What blur is available from.
theorem available_eq (g : Globals) :
    g.isEffectAvailable .blurBehind = if g.backgroundEffectManager then g.supportsBlur else g.blurManager :=
  rfl

theorem not_stale_of_no_surface {v : WindowRecord} (h : v.surface = none) : ¬v.Stale := by
  intro hstale
  rcases hstale with ⟨surface, effect, hsurface, -, -⟩
  exact nomatch h.symm.trans hsurface

theorem blurObjects_of_empty {v : WindowRecord} (h : v.blurs.alive = []) :
    v.blurObjects = v.backgroundEffect.toList.map .effect := by
  unfold blurObjects
  rw [h]
  rfl

section InstallBlur

variable {v : WindowRecord} {g : Globals} {surface : WlSurface}

theorem installBlur_of_offered (hsurface : v.surface = some surface)
    (hmanager : g.backgroundEffectManager = true) (hsupports : g.supportsBlur = true) (enable : Bool)
    (region : QRegion) :
    v.installBlur g enable region =
      setBlurRegion { v with blurs := v.blurs.replace none } surface
        (if enable then g.createRegion (if region = [] then [wholeWindow] else region) else none) := by
  unfold installBlur
  rw [hsurface, hmanager, hsupports]
  rfl

theorem installBlur_of_blurManager (hsurface : v.surface = some surface)
    (hmanager : g.backgroundEffectManager = false) (hblur : g.blurManager = true)
    (hg : g.compositor = true) (region : QRegion) :
    v.installBlur g true region =
      { v with blurs := v.blurs.new ⟨surface, region⟩ }.resetBlur
        (some (v.blurs.made, ⟨surface, region⟩)) := by
  unfold installBlur Globals.createRegion
  rw [hsurface, hmanager, hblur, hg]
  rfl

theorem installBlur_false_of_blurManager (hsurface : v.surface = some surface)
    (hmanager : g.backgroundEffectManager = false) (hblur : g.blurManager = true) (region : QRegion) :
    v.installBlur g false region = v.resetBlur none := by
  unfold installBlur
  rw [hsurface, hmanager, hblur]
  rfl

theorem installBlur_of_no_manager (hmanager : g.backgroundEffectManager = false)
    (hblur : g.blurManager = false) (enable : Bool) (region : QRegion) :
    v.installBlur g enable region = v := by
  unfold installBlur
  rw [hmanager, hblur]
  split <;> rfl

-- The window has the one effect, which is for its surface unless it was made for another one.
theorem installed_setBlurRegion_iff (h : v.Kept) {region : QRegion} (hregion : v.blurRegion = some region)
    (hsurface : v.surface = some surface) (havailable : g.isEffectAvailable .blurBehind = true) :
    (setBlurRegion { v with blurs := v.blurs.replace none } surface
        (some (if region = [] then [wholeWindow] else region))).Installed g ↔
      ¬(v.shown = true ∧ v.Stale) := by
  have hobjects : (setBlurRegion { v with blurs := v.blurs.replace none } surface
      (some (if region = [] then [wholeWindow] else region))).blurObjects =
        [.effect { v.backgroundEffect.getD { surface } with
          region := some (if region = [] then [wholeWindow] else region) }] :=
    blurObjects_of_empty h.blurs.tidy.alive_replace_none
  have hstale : v.Stale ↔ (v.backgroundEffect.getD { surface }).surface ≠ surface := by
    apply Iff.intro
    · intro hstale
      rcases hstale with ⟨surface', effect, hsurface', heffect, hne⟩
      rw [heffect, Option.some.inj (hsurface.symm.trans hsurface')]
      exact hne
    · intro hne
      cases heffect : v.backgroundEffect with
      | none =>
          rw [heffect] at hne
          exact absurd rfl hne
      | some effect =>
          rw [heffect] at hne
          exact ⟨surface, effect, hsurface, heffect, hne⟩
  refine Iff.trans (installed_of_requested hregion hsurface) ?_
  rw [hobjects, hstale]
  apply Iff.intro
  · intro hinstalled hbad
    rcases hinstalled hbad.1 havailable with ⟨object, heq, hlive, -⟩
    rw [← List.singleton_injective heq] at hlive
    exact hbad.2 hlive
  · intro hgood hshown _
    refine ⟨_, rfl, ?_, rfl⟩
    by_contra hne
    exact hgood ⟨hshown, hne⟩

end InstallBlur

-- Installing always helps, but for an effect that is left from another surface.
theorem installed_installBlur_iff {v : WindowRecord} (h : v.Kept) {g : Globals} (hg : g.compositor = true)
    {region : QRegion} (hregion : v.blurRegion = some region) :
    (v.installBlur g true region).Installed g ↔
      ¬(g.offersEffect = true ∧ v.shown = true ∧ v.Stale) := by
  have hkept : (v.installBlur g true region).blurRegion = some region := by
    rw [installBlur_eq]
    exact hregion
  have hrequested : ∀ {P : Prop}, (v.installBlur g true region).blurRegion = none → P :=
    fun hno => nomatch hkept.symm.trans hno
  cases hsurface : v.surface with
  | none =>
      apply iff_of_true
      · refine .surfaceless ?_ hrequested
        rw [installBlur_eq]
        exact hsurface
      · exact fun hno => not_stale_of_no_surface hsurface hno.2.2
  | some surface =>
      unfold Globals.offersEffect
      cases hmanager : g.backgroundEffectManager with
      | true =>
          cases hsupports : g.supportsBlur with
          | true =>
              rw [installBlur_of_offered hsurface hmanager hsupports, if_pos rfl,
                show g.createRegion _ = some _ from if_pos hg]
              refine Iff.trans (installed_setBlurRegion_iff h hregion hsurface ?_) (not_congr ?_)
              · rw [available_eq, hmanager, hsupports]
                rfl
              · simp
          | false =>
              apply iff_of_true
              · refine installed_of_not_required ?_ hrequested
                intro _ _ _
                rw [available_eq, hmanager, hsupports]
                rfl
              · exact fun hno => nomatch hno.1
      | false =>
          apply iff_of_true _ fun hno => nomatch hno.1
          cases hblur : g.blurManager with
          | true =>
              rw [installBlur_of_blurManager hsurface hmanager hblur hg]
              refine Iff.mpr (installed_of_requested hregion hsurface) ?_
              intro _ _
              refine ⟨.blur ⟨surface, region⟩, ?_, rfl, rfl⟩
              unfold blurObjects resetBlur
              dsimp only
              rw [h.blurs.tidy.alive_replace_new]
              rfl
          | false =>
              refine installed_of_not_required ?_ hrequested
              intro _ _ _
              rw [available_eq, hmanager, hblur]
              rfl

-- Taking the region off leaves no object with a region, if there was no `Blur` before.
theorem unrequested_installBlur {v : WindowRecord} (hblurs : v.blurs.Tidy) (halive : v.blurs.alive = [])
    (heffect : v.backgroundEffect = none) (g : Globals) (region : QRegion) :
    ∀ object ∈ (v.installBlur g false region).blurObjects, object.region = none := by
  have hnone : v.blurObjects = [] := by
    rw [blurObjects_of_empty halive, heffect]
    rfl
  have hsame : ∀ object ∈ v.blurObjects, object.region = none := by
    rw [hnone]
    exact fun _ hobject => nomatch hobject
  unfold installBlur
  split
  · exact hsame
  · split
    · dsimp only
      split
      · rw [blurObjects_of_empty]
        · intro object hobject
          rw [List.mem_singleton.mp hobject]
          rfl
        · exact hblurs.alive_replace_none
      · rw [blurObjects_of_empty]
        · dsimp only
          rw [heffect]
          exact fun _ hobject => nomatch hobject
        · exact hblurs.alive_replace_none
    · split
      · split
        · rename_i hno
          exact nomatch hno
        · rw [blurObjects_of_empty]
          · exact fun _ hobject => nomatch hobject
          · exact hblurs.alive_replace_none
      · exact hsame

/-! ## The calls and events -/

theorem SameBlur.stale {v v' : WindowRecord} (h : SameBlur v v') : v'.Stale ↔ v.Stale := by
  unfold Stale
  rw [h.surface, h.backgroundEffect]

theorem sameBlur_trackWindow (v : WindowRecord) : SameBlur v v.trackWindow := by
  refine ⟨?_, v.surface_trackWindow, ?_, ?_, ?_⟩ <;> rw [trackWindow_eq]

theorem sameBlur_releaseWindow (v : WindowRecord) : SameBlur v v.releaseWindow := by
  refine ⟨?_, v.surface_releaseWindow, ?_, ?_, ?_⟩ <;>
    (unfold releaseWindow; split <;> rfl)

theorem sameBlur_installContrast (v : WindowRecord) (g : Globals) (enable : Bool)
    (data : BackgroundContrastData) : SameBlur v (v.installContrast g enable data) := by
  rw [installContrast_eq]
  exact ⟨rfl, rfl, rfl, rfl, rfl⟩

theorem sameBlur_installSlide (v : WindowRecord) (g : Globals) (data : SlideData) :
    SameBlur v (v.installSlide g data) := by
  rw [installSlide_eq]
  exact ⟨rfl, rfl, rfl, rfl, rfl⟩

theorem sameBlur_forEntry (v : WindowRecord) {ν : Type} (entry : Option ν) {f : ν → WindowRecord}
    (h : ∀ value, SameBlur v (f value)) : SameBlur v (v.forEntry entry f) := by
  unfold forEntry
  split
  · exact h _
  · exact SameBlur.refl v

theorem sameBlur_enableBackgroundContrast (v : WindowRecord) (g : Globals) (enable : Bool)
    (data : BackgroundContrastData) : SameBlur v (v.enableBackgroundContrast g enable data) := by
  unfold enableBackgroundContrast
  split
  · have htrack := v.sameBlur_trackWindow
    dsimp only
    split
    · exact htrack
    · have hset : SameBlur v { v.trackWindow with backgroundContrastRegion := some data } :=
        htrack.trans ⟨rfl, rfl, rfl, rfl, rfl⟩
      exact hset.trans (sameBlur_installContrast _ g true data)
  · split
    · have hreset : SameBlur v ({ v with backgroundContrastRegion := none }.resetContrast none) :=
        ⟨rfl, rfl, rfl, rfl, rfl⟩
      exact (hreset.trans (sameBlur_releaseWindow _)).trans (sameBlur_installContrast _ g false data)
    · exact SameBlur.refl v

theorem sameBlur_slideWindow (v : WindowRecord) (g : Globals) (data : SlideData) :
    SameBlur v (v.slideWindow g data) := by
  unfold slideWindow
  split
  · have htrack := v.sameBlur_trackWindow
    dsimp only
    split
    · exact htrack
    · have hset : SameBlur v { v.trackWindow with slide := some data } :=
        htrack.trans ⟨rfl, rfl, rfl, rfl, rfl⟩
      exact hset.trans (sameBlur_installSlide _ g data)
  · split
    · have hreset : SameBlur v { v with slide := none } := ⟨rfl, rfl, rfl, rfl, rfl⟩
      exact (hreset.trans (sameBlur_releaseWindow _)).trans (sameBlur_installSlide _ g data)
    · exact SameBlur.refl v

theorem sameBlur_contrastActiveChanged (v : WindowRecord) (g : Globals) :
    SameBlur v (v.contrastActiveChanged g) := by
  apply v.sameBlur_forEntry
  intro data
  split
  · exact v.sameBlur_installContrast g true data
  · exact v.sameBlur_installContrast g false _

theorem sameBlur_slideActiveChanged (v : WindowRecord) (g : Globals) :
    SameBlur v (v.slideActiveChanged g) := by
  apply v.sameBlur_forEntry
  intro data
  split
  · exact v.sameBlur_installSlide g data
  · exact v.sameBlur_installSlide g _

theorem installed_enableBlurBehind_iff {v : WindowRecord} (h : v.Kept) (hdata : v.data.isSome = true)
    {g : Globals} (hg : g.compositor = true) (hi : v.Installed g) (enable : Bool) (region : QRegion) :
    (v.enableBlurBehind g enable region).Installed g ↔
      ¬(enable = true ∧ v.blurRegion ≠ some region ∧ g.offersEffect = true ∧ v.shown = true ∧ v.Stale) := by
  have htrack := v.sameBlur_trackWindow
  unfold enableBlurBehind
  cases enable with
  | true =>
      rw [if_pos rfl]
      dsimp only
      rw [htrack.blurRegion]
      by_cases hsame : v.blurRegion = some region
      · rw [if_pos hsame]
        exact iff_of_true (htrack.installed hi) fun hno => hno.2.1 hsame
      · rw [if_neg hsame]
        refine Iff.trans (installed_installBlur_iff (h.requestBlur hdata region) hg rfl) (not_congr ?_)
        have hstale : { v.trackWindow with blurRegion := some region }.Stale ↔ v.Stale := htrack.stale
        rw [hstale]
        show _ ∧ v.trackWindow.shown = true ∧ _ ↔ _
        rw [htrack.shown]
        simp [hsame]
  | false =>
      rw [if_neg Bool.false_ne_true]
      apply iff_of_true _ fun hno => nomatch hno.1
      split
      · have hrelease := sameBlur_releaseWindow ({ v with blurRegion := none }.resetBlur none)
        generalize ({ v with blurRegion := none }.resetBlur none).releaseWindow = v' at hrelease
        have hnone : (v'.installBlur g false region).blurRegion = none := by
          rw [installBlur_eq]
          exact hrelease.blurRegion
        apply (installed_of_unrequested hnone).mpr
        apply unrequested_installBlur
        · rw [hrelease.blurs]
          exact h.blurs.tidy.replace_none
        · rw [hrelease.blurs]
          exact h.blurs.tidy.alive_replace_none
        · exact hrelease.backgroundEffect
      · exact hi

theorem Installed.createPlatform {v : WindowRecord} {g : Globals} (hi : v.Installed g) (fresh : Nat)
    (withSurface : Bool) : (v.createPlatform fresh withSurface).Installed g := by
  rw [createPlatform_eq]
  exact .unshown rfl hi.unrequested

-- What the surface takes with it does not matter for a window without one.
theorem Installed.dropSurface {v : WindowRecord} (h : v.Kept) {g : Globals} (hi : v.Installed g) :
    v.dropSurface.Installed g := by
  refine .surfaceless h.dropSurface.2 ?_
  unfold WindowRecord.dropSurface
  split
  · dsimp only
    split
    · intro _
      rw [blurObjects_of_empty]
      · exact fun _ hobject => nomatch hobject
      · exact h.blurs.tidy.alive_replace_none
    · exact hi.unrequested
  · exact hi.unrequested

theorem Installed.dropPlatform {v : WindowRecord} (h : v.Kept) {g : Globals} (hi : v.Installed g) :
    v.dropPlatform.Installed g :=
  .surfaceless h.dropPlatform.2 (hi.dropSurface h).unrequested

theorem Installed.destroyWindow {v : WindowRecord} (h : v.Kept) {g : Globals} (hi : v.Installed g) :
    v.destroyWindow.Installed g := by
  have hdrop := hi.dropPlatform h
  have hkept := h.dropPlatform.1
  unfold WindowRecord.destroyWindow
  generalize v.dropPlatform = v' at hdrop hkept
  dsimp only
  split
  · refine .surfaceless rfl fun _ => ?_
    rw [blurObjects_of_empty rfl]
    exact fun _ hobject => nomatch hobject
  · rename_i hw
    refine .surfaceless rfl fun hregion => ?_
    rw [blurObjects_of_empty rfl]
    intro object hobject
    apply hdrop.unrequested hregion
    unfold blurObjects
    exact List.mem_append_right _ hobject

-- The rest of the expose event is about the other effects.
theorem sameBlur_exposeEvent (v : WindowRecord) (g : Globals) :
    SameBlur (v.forEntry v.blurRegion (v.installBlur g true)) (v.exposeEvent g) := by
  unfold exposeEvent
  generalize v.forEntry v.blurRegion (v.installBlur g true) = v₁
  exact (v₁.sameBlur_forEntry _ (v₁.sameBlur_installContrast g true)).trans
    (sameBlur_forEntry _ _ (sameBlur_installSlide _ g))

theorem SameBlur.symm {v v' : WindowRecord} (h : SameBlur v v') : SameBlur v' v :=
  ⟨h.blurRegion.symm, h.surface.symm, h.shown.symm, h.blurs.symm, h.backgroundEffect.symm⟩

theorem SameBlur.installed_iff {v v' : WindowRecord} (h : SameBlur v v') (g : Globals) :
    v'.Installed g ↔ v.Installed g :=
  ⟨h.symm.installed, h.installed⟩

theorem installed_expose_iff {v : WindowRecord} (h : v.Kept) {g : Globals} (hg : g.compositor = true)
    (hi : v.Installed g) (exposed : Bool) :
    (v.expose g exposed).Installed g ↔
      ¬(exposed = true ∧ v.blurRegion ≠ none ∧ g.offersEffect = true ∧ v.Stale) := by
  have hsurface := v.surface_setExposed exposed
  unfold expose
  dsimp only
  rw [filtered_setExposed]
  cases exposed with
  | false =>
      rw [Bool.and_false, if_neg Bool.false_ne_true]
      have hsame : SameBlur v (v.setExposed false) := ⟨rfl, hsurface, rfl, rfl, rfl⟩
      exact iff_of_true (hsame.installed hi) fun hno => absurd hno.1 Bool.false_ne_true
  | true =>
      have hstale : (v.setExposed true).Stale ↔ v.Stale := by
        unfold Stale
        rw [hsurface]
        rfl
      rw [Bool.and_true]
      cases hregion : v.blurRegion with
      | none =>
          have hrest : (v.setExposed true).Installed g :=
            Iff.mpr (installed_of_unrequested hregion) (hi.unrequested hregion)
          apply iff_of_true _ fun hno => hno.2.1 rfl
          split
          · apply (sameBlur_exposeEvent _ g).installed
            rw [show (v.setExposed true).blurRegion = none from hregion]
            exact hrest
          · exact hrest
      | some region =>
          have hinstall := installed_installBlur_iff (h.setExposed true) hg hregion
          have hshown : (v.setExposed true).shown = true := rfl
          rw [hstale, hshown] at hinstall
          split
          · rw [(sameBlur_exposeEvent _ g).installed_iff,
              show (v.setExposed true).blurRegion = some region from hregion]
            refine Iff.trans hinstall (not_congr ?_)
            simp
          · rename_i hf
            have hnone : v.surface = none := by
              by_contra hs
              exact hf (h.filtered_of_wanted (by simp [wanted, hregion]) hs)
            apply iff_of_true
            · exact .surfaceless (hsurface.trans hnone) fun hno =>
                absurd (hregion.symm.trans hno) (Option.some_ne_none region)
            · exact fun hno => not_stale_of_no_surface hnone hno.2.2.2

-- With the blur manager everything is installed that the background effects do not provide.
theorem Installed.blurActiveChanged {v : WindowRecord} (h : v.Kept) {g g' : Globals}
    (hg : g'.compositor = true) (hmanagers : g'.backgroundEffectManager = g.backgroundEffectManager)
    (hsupports : g'.supportsBlur = g.supportsBlur) (hi : v.Installed g) :
    (v.blurActiveChanged g').Installed g' := by
  unfold WindowRecord.blurActiveChanged forEntry
  cases hmanager : g'.backgroundEffectManager with
  | true =>
      rw [if_pos rfl]
      apply hi.congr
      rw [available_eq, available_eq, ← hmanagers, hmanager, hsupports]
      rfl
  | false =>
      rw [if_neg Bool.false_ne_true]
      split
      · rename_i region hregion
        cases hactive : g'.blurManager with
        | true =>
            apply (installed_installBlur_iff h hg hregion).mpr
            intro hno
            unfold Globals.offersEffect at hno
            rw [hmanager] at hno
            exact nomatch hno.1
        | false =>
            rw [installBlur_of_no_manager hmanager hactive]
            apply installed_of_not_required
            · intro _ _ _
              rw [available_eq, hmanager, hactive]
              rfl
            · intro hno
              exact nomatch hregion.symm.trans hno
      · rename_i hregion
        exact (installed_of_unrequested hregion).mpr (hi.unrequested hregion)

/-- A change of the capabilities takes the blur from the window: the effect that is there to show it belongs
to another surface, or the `Blur` goes although the blur manager still provides it. -/
def LosesCapability (v : WindowRecord) (g : Globals) : Prop :=
  (g.backgroundEffectManager = true ∧ g.supportsBlur = true ∧ v.blurRegion ≠ none ∧ v.shown = true ∧
      v.Stale) ∨
    (g.backgroundEffectManager = false ∧ g.supportsBlur = false ∧ g.blurManager = true ∧
      ∃ surface region, v.Required surface region)

theorem installed_capabilitiesChanged_iff {v : WindowRecord} (h : v.Kept) {g g' : Globals}
    (hg : g'.compositor = true) (hi : v.Installed g) :
    (v.capabilitiesChanged g').Installed g' ↔ ¬v.LosesCapability g' := by
  unfold capabilitiesChanged forEntry LosesCapability
  cases hregion : v.blurRegion with
  | none =>
      apply iff_of_true ((installed_of_unrequested hregion).mpr (hi.unrequested hregion))
      rintro (hno | ⟨-, -, -, surface, region, hrequired⟩)
      · exact hno.2.2.1 rfl
      · exact nomatch hregion.symm.trans hrequired.region
  | some region =>
      dsimp only
      cases hsupports : g'.supportsBlur with
      | true =>
          refine Iff.trans (installed_installBlur_iff h hg hregion) (not_congr ?_)
          unfold Globals.offersEffect
          rw [hsupports]
          simp
      | false =>
          have hkept : (v.installBlur g' false region).blurRegion = some region := by
            rw [installBlur_eq]
            exact hregion
          have hrequested : ∀ {P : Prop}, (v.installBlur g' false region).blurRegion = none → P :=
            fun hno => nomatch hkept.symm.trans hno
          cases hmanager : g'.backgroundEffectManager with
          | true =>
              apply iff_of_true
              · refine installed_of_not_required ?_ hrequested
                intro _ _ _
                rw [available_eq, hmanager, hsupports]
                rfl
              · rintro (hno | hno)
                · exact nomatch hno.2.1
                · exact nomatch hno.1
          | false =>
              cases hblur : g'.blurManager with
              | false =>
                  apply iff_of_true
                  · refine installed_of_not_required ?_ hrequested
                    intro _ _ _
                    rw [available_eq, hmanager, hblur]
                    rfl
                  · rintro (hno | hno)
                    · exact nomatch hno.1
                    · exact nomatch hno.2.2.1
              | true =>
                  have havailable : g'.isEffectAvailable .blurBehind = true := by
                    rw [available_eq, hmanager, hblur]
                    rfl
                  cases hsurface : v.surface with
                  | none =>
                      apply iff_of_true
                      · refine .surfaceless ?_ hrequested
                        rw [installBlur_eq]
                        exact hsurface
                      · rintro (hno | ⟨-, -, -, surface, region, hrequired⟩)
                        · exact nomatch hno.1
                        · exact nomatch hsurface.symm.trans hrequired.surface
                  | some surface =>
                      have hempty : (v.resetBlur none).blurObjects = [] :=
                        blurObjects_of_empty h.blurs.tidy.alive_replace_none
                      rw [installBlur_false_of_blurManager hsurface hmanager hblur]
                      refine Iff.trans (installed_of_requested hregion hsurface) ?_
                      rw [hempty]
                      apply Iff.intro
                      · rintro hgone (hno | ⟨-, -, -, surface', region', hrequired⟩)
                        · exact nomatch hno.1
                        · rcases hgone hrequired.shown havailable with ⟨object, hobject, -, -⟩
                          exact nomatch hobject
                      · intro hno hshown _
                        exact absurd (.inr ⟨rfl, rfl, rfl, surface, region, hregion, hsurface, hshown⟩) hno

-- Without background effects it is for the blur object to be there.
theorem installed_without_effect_iff {v : WindowRecord} (h : v.Kept) (heffect : v.backgroundEffect = none)
    (g : Globals) :
    v.Installed g ↔ ¬(g.isEffectAvailable .blurBehind = true ∧ v.Lacks) := by
  have hobjects : v.blurObjects = v.blurs.alive.map fun object => .blur object.2 := by
    unfold blurObjects
    rw [heffect]
    exact List.append_nil _
  cases hregion : v.blurRegion with
  | none =>
      have hnone : v.blurs.alive = [] := by
        rw [h.blurs.tidy.alive]
        by_contra hne
        have hrequested := h.blurs.requested fun hc => hne (by rw [hc]; rfl)
        rw [hregion] at hrequested
        exact nomatch hrequested
      apply iff_of_true
      · apply (installed_of_unrequested hregion).mpr
        rw [hobjects, hnone]
        exact fun _ hobject => nomatch hobject
      · rintro ⟨-, surface, region, hrequired, -⟩
        exact nomatch hregion.symm.trans hrequired.region
  | some region =>
      cases hsurface : v.surface with
      | none =>
          apply iff_of_true
          · exact .surfaceless hsurface fun hno => nomatch hregion.symm.trans hno
          · rintro ⟨-, surface, region, hrequired, -⟩
            exact nomatch hsurface.symm.trans hrequired.surface
      | some surface =>
          rw [installed_of_requested hregion hsurface]
          apply Iff.intro
          · rintro hinstalled ⟨havailable, surface', region', hrequired, hlacks⟩
            rcases hinstalled hrequired.shown havailable with ⟨object, hobject, -, hcarries⟩
            rw [hobjects, List.map_eq_singleton_iff] at hobject
            rcases hobject with ⟨blur, halive, hblur⟩
            rw [← hblur] at hcarries
            apply hlacks blur (by rw [halive]; exact List.mem_singleton.mpr rfl)
            rw [← Option.some.inj (hregion.symm.trans hrequired.region)]
            exact hcarries
          · intro hno hshown havailable
            have hexists : ∃ object ∈ v.blurs.alive, object.2.sent = region := by
              by_contra hall
              push Not at hall
              exact hno ⟨havailable, surface, region, ⟨hregion, hsurface, hshown⟩, hall⟩
            rcases hexists with ⟨blur, hblur, hsent⟩
            have hlive := h.blurs.live blur hblur
            rw [hobjects]
            rw [h.blurs.tidy.alive] at hblur ⊢
            cases hc : v.blurs.current with
            | none =>
                rw [hc] at hblur
                exact nomatch hblur
            | some current =>
                rw [hc] at hblur
                rw [List.mem_singleton.mp hblur] at hlive hsent
                exact ⟨.blur current.2, rfl, (Option.some.inj (hsurface.symm.trans hlive)).symm, hsent⟩

theorem installed_backgroundEffectActiveChanged_iff {v : WindowRecord} (h : v.Kept) {g g' : Globals}
    (hg : g.backgroundEffectManager = false → v.backgroundEffect = none)
    (hchanged : g'.backgroundEffectManager ≠ g.backgroundEffectManager) :
    (v.backgroundEffectActiveChanged g').Installed g' ↔
      ¬(g'.isEffectAvailable .blurBehind = true ∧ v.Lacks) := by
  unfold backgroundEffectActiveChanged
  cases hmanager : g'.backgroundEffectManager with
  | true =>
      rw [if_pos rfl]
      apply installed_without_effect_iff h
      apply hg
      rw [hmanager] at hchanged
      exact Bool.eq_false_iff.mpr hchanged.symm
  | false =>
      rw [if_neg Bool.false_ne_true]
      have hkept : { v with backgroundEffect := none }.Kept := ⟨h.watched, h.blurs, h.contrasts⟩
      have hlacks : { v with backgroundEffect := none }.Lacks ↔ v.Lacks := by
        apply Iff.intro
        · rintro ⟨surface, region, hr, hno⟩
          exact ⟨surface, region, ⟨hr.region, hr.surface, hr.shown⟩, hno⟩
        · rintro ⟨surface, region, hr, hno⟩
          exact ⟨surface, region, ⟨hr.region, hr.surface, hr.shown⟩, hno⟩
      rw [← hlacks]
      exact installed_without_effect_iff hkept rfl g'

/-! ## No background effects without their manager -/

/-- Background effects are only there while their manager is. -/
def Provided (v : WindowRecord) (g : Globals) : Prop :=
  g.backgroundEffectManager = false → v.backgroundEffect = none

theorem SameBlur.provided {v v' : WindowRecord} (h : SameBlur v v') {g : Globals} (hv : v.Provided g) :
    v'.Provided g :=
  fun hmanager => h.backgroundEffect.trans (hv hmanager)

theorem Provided.installBlur {v : WindowRecord} {g : Globals} (hv : v.Provided g) (enable : Bool)
    (region : QRegion) : (v.installBlur g enable region).Provided g := by
  intro hmanager
  unfold WindowRecord.installBlur
  rw [hmanager]
  split
  · exact hv hmanager
  · rw [if_neg Bool.false_ne_true]
    split
    · split
      · split
        · exact hv hmanager
        · rfl
      · rfl
    · exact hv hmanager

theorem Provided.forEntry {v : WindowRecord} {g : Globals} (hv : v.Provided g) {ν : Type}
    (entry : Option ν) {f : ν → WindowRecord} (hf : ∀ value, (f value).Provided g) :
    (v.forEntry entry f).Provided g := by
  unfold WindowRecord.forEntry
  split
  · exact hf _
  · exact hv

theorem Provided.createPlatform {v : WindowRecord} {g : Globals} (hv : v.Provided g) (fresh : Nat)
    (withSurface : Bool) : (v.createPlatform fresh withSurface).Provided g := by
  rw [createPlatform_eq]
  exact hv

theorem Provided.dropPlatform {v : WindowRecord} {g : Globals} (hv : v.Provided g) :
    v.dropPlatform.Provided g := by
  intro hmanager
  show v.dropSurface.backgroundEffect = none
  unfold dropSurface
  split
  · dsimp only
    split
    · rfl
    · exact hv hmanager
  · exact hv hmanager

theorem Provided.destroyWindow {v : WindowRecord} {g : Globals} (hv : v.Provided g) :
    v.destroyWindow.Provided g := by
  have hdrop := hv.dropPlatform
  unfold WindowRecord.destroyWindow
  intro hmanager
  dsimp only
  split
  · rfl
  · exact hdrop hmanager

theorem Provided.enableBlurBehind {v : WindowRecord} {g : Globals} (hv : v.Provided g) (enable : Bool)
    (region : QRegion) : (v.enableBlurBehind g enable region).Provided g := by
  have htrack := v.sameBlur_trackWindow.provided hv
  unfold WindowRecord.enableBlurBehind
  split
  · dsimp only
    split
    · exact htrack
    · exact Provided.installBlur (v := { v.trackWindow with blurRegion := some region }) htrack true region
  · split
    · apply Provided.installBlur
      apply (sameBlur_releaseWindow _).provided
      exact fun _ => rfl
    · exact hv

theorem Provided.expose {v : WindowRecord} {g : Globals} (hv : v.Provided g) (exposed : Bool) :
    (v.expose g exposed).Provided g := by
  have hset : (v.setExposed exposed).Provided g := hv
  unfold WindowRecord.expose
  dsimp only
  split
  · apply (sameBlur_exposeEvent _ g).provided
    exact hset.forEntry _ fun region => hset.installBlur true region
  · exact hset

end WindowRecord

/-! ## Runs -/

namespace Scene

/-- What is known at every moment, as long as regions can be created. -/
structure Ready (t : Scene) : Prop where
  kept : t.Kept
  compositor : t.globals.compositor = true
  provided : ∀ window, (t.windows window).Provided t.globals

theorem ready_start : (start true).Ready :=
  ⟨kept_start true, rfl, fun _ _ => rfl⟩

theorem provided_next {t : Scene} (h : ∀ window, (t.windows window).Provided t.globals) (e : Event) :
    ∀ window, ((t.next e).windows window).Provided (t.next e).globals := by
  have hupdate := fun window f => forall_update (P := fun v => v.Provided t.globals) (f := f) h window
  have htakes := t.takes_next e
  generalize t.next e = t' at htakes ⊢
  cases htakes with
  | refused => exact h
  | @createWindow window => exact hupdate window _ (h window)
  | @createPlatform window withSurface =>
      exact hupdate window (·.createPlatform t.fresh withSurface) ((h window).createPlatform _ _)
  | @createSurface window id => exact hupdate window (·.createSurface id t.fresh) (h window)
  | destroySurface window => exact hupdate window _ (h window).dropPlatform
  | destroyPlatform window => exact hupdate window _ (h window).dropPlatform
  | expose window exposed => exact hupdate window _ ((h window).expose exposed)
  | destroyWindow window => exact hupdate window _ (h window).destroyWindow
  | @enableBlurBehind window enable region =>
      exact hupdate window _ ((h window).enableBlurBehind enable region)
  | @enableBackgroundContrast window =>
      exact hupdate window _
        ((WindowRecord.sameBlur_enableBackgroundContrast _ _ _ _).provided (h window))
  | @slideWindow window =>
      exact hupdate window _ ((WindowRecord.sameBlur_slideWindow _ _ _).provided (h window))
  | @blurManager active =>
      intro window
      have hv : (t.windows window).Provided { t.globals with blurManager := active } := h window
      show ((t.windows window).blurActiveChanged _).Provided _
      unfold WindowRecord.blurActiveChanged
      split
      · exact hv
      · exact hv.forEntry _ fun region => hv.installBlur _ region
  | contrastManager =>
      exact fun window =>
        (WindowRecord.sameBlur_contrastActiveChanged _ _).provided (g := t.globals) (h window)
  | slideManager =>
      exact fun window =>
        (WindowRecord.sameBlur_slideActiveChanged _ _).provided (g := t.globals) (h window)
  | @backgroundEffectManager active =>
      intro window hmanager
      show ((t.windows window).backgroundEffectActiveChanged _).backgroundEffect = none
      unfold WindowRecord.backgroundEffectActiveChanged
      rw [if_neg (by rw [show active = false from hmanager]; exact Bool.false_ne_true)]
  | capabilities flags =>
      intro window
      have hv : (t.windows window).Provided
          { t.globals with supportsBlur := flags &&& capabilityBlur ≠ 0 } := h window
      exact hv.forEntry _ fun region => hv.installBlur _ region

theorem compositor_next (t : Scene) (e : Event) :
    (t.next e).globals.compositor = t.globals.compositor := by
  have htakes := t.takes_next e
  generalize t.next e = t' at htakes ⊢
  cases htakes <;> rfl

theorem Ready.next {t : Scene} (h : t.Ready) (e : Event) : (t.next e).Ready :=
  ⟨Kept.next h.kept e, (compositor_next t e).trans h.compositor, provided_next h.provided e⟩

/-- Blur is installed for all windows exactly when it should be. -/
def Installed (t : Scene) : Prop := ∀ window, (t.windows window).Installed t.globals

/-- A window loses its blur, or does not get it: a region would be set on the effect of another surface,
nothing takes over when the background effect manager comes or goes, or its capabilities take away
what the blur manager provides. -/
def Loses (t : Scene) : Event → Prop
  | .enableBlurBehind window enable region =>
      enable = true ∧ (t.windows window).blurRegion ≠ some region ∧ t.globals.offersEffect = true ∧
        (t.windows window).shown = true ∧ (t.windows window).Stale
  | .expose window exposed =>
      exposed = true ∧ (t.windows window).blurRegion ≠ none ∧ t.globals.offersEffect = true ∧
        (t.windows window).Stale
  | .backgroundEffectManager active =>
      active ≠ t.globals.backgroundEffectManager ∧
        Globals.isEffectAvailable { t.globals with backgroundEffectManager := active } .blurBehind = true ∧
        ∃ window, (t.windows window).Lacks
  | .capabilities flags =>
      ∃ window, (t.windows window).LosesCapability
        { t.globals with supportsBlur := flags &&& capabilityBlur ≠ 0 }
  | _ => False

theorem installed_update_iff {t : Scene} (hi : t.Installed) (window : QWindow)
    (f : WindowRecord → WindowRecord) :
    (t.update window f).Installed ↔ (f (t.windows window)).Installed t.globals := by
  apply Iff.intro
  · intro h
    have hwindow := h window
    unfold update at hwindow
    dsimp only at hwindow
    rw [Function.update_self] at hwindow
    exact hwindow
  · exact forall_update (P := fun v => v.Installed t.globals) hi window

-- An event that the client does not take leaves the effects alone.
theorem Refuses.not_loses {t : Scene} {e : Event} (h : t.Refuses e) : ¬t.Loses e := by
  cases e with
  | enableBlurBehind window enable region =>
      intro hloses
      exact WindowRecord.not_stale_of_no_surface (WindowRecord.surface_of_no_data h) hloses.2.2.2.2
  | backgroundEffectManager active => exact fun hloses => hloses.1 h
  | expose | capabilities => exact h.elim
  | _ => exact not_false

-- What one step does to the blur of all windows.
theorem installed_next_iff {t : Scene} (h : t.Ready) (hi : t.Installed) (e : Event) :
    (t.next e).Installed ↔ ¬t.Loses e := by
  have hkeep : ∀ {t' : Scene}, t'.Installed → (t'.Installed ↔ ¬False) := fun ht' =>
    iff_of_true ht' not_false
  have hupdate := fun window f => forall_update (P := fun v => v.Installed t.globals) (f := f) hi window
  have htakes := t.takes_next e
  generalize t.next e = t' at htakes ⊢
  cases htakes with
  | refused hrefuses => exact iff_of_true hi hrefuses.not_loses
  | @createWindow window =>
      apply hkeep
      apply hupdate window
      exact .surfaceless rfl (hi window).unrequested
  | @createPlatform window withSurface =>
      exact hkeep (hupdate window (·.createPlatform t.fresh withSurface) ((hi window).createPlatform _ _))
  | @createSurface window id =>
      apply hkeep
      apply hupdate window (·.createSurface id t.fresh)
      exact .unshown rfl (hi window).unrequested
  | destroySurface window =>
      exact hkeep (hupdate window _ ((hi window).dropSurface (h.kept window)))
  | destroyPlatform window =>
      exact hkeep (hupdate window _ ((hi window).dropPlatform (h.kept window)))
  | expose window exposed =>
      rw [installed_update_iff hi]
      exact WindowRecord.installed_expose_iff (h.kept window) h.compositor (hi window) exposed
  | destroyWindow window =>
      exact hkeep (hupdate window _ ((hi window).destroyWindow (h.kept window)))
  | @enableBlurBehind window enable region hdata =>
      rw [installed_update_iff hi]
      exact WindowRecord.installed_enableBlurBehind_iff (h.kept window) hdata h.compositor (hi window)
        enable region
  | @enableBackgroundContrast window =>
      exact hkeep (hupdate window _
        ((WindowRecord.sameBlur_enableBackgroundContrast _ _ _ _).installed (hi window)))
  | @slideWindow window =>
      exact hkeep (hupdate window _ ((WindowRecord.sameBlur_slideWindow _ _ _).installed (hi window)))
  | blurManager =>
      exact hkeep fun window =>
        WindowRecord.Installed.blurActiveChanged (g := t.globals) (h.kept window) h.compositor rfl rfl
          (hi window)
  | contrastManager =>
      exact hkeep fun window =>
        ((WindowRecord.sameBlur_contrastActiveChanged _ _).installed (hi window)).congr rfl
  | slideManager =>
      exact hkeep fun window =>
        ((WindowRecord.sameBlur_slideActiveChanged _ _).installed (hi window)).congr rfl
  | @backgroundEffectManager active hchanged =>
      have hall : ∀ window, ((t.windows window).backgroundEffectActiveChanged
            { t.globals with backgroundEffectManager := active }).Installed
              { t.globals with backgroundEffectManager := active } ↔
          ¬(Globals.isEffectAvailable { t.globals with backgroundEffectManager := active } .blurBehind =
              true ∧ (t.windows window).Lacks) :=
        fun window => WindowRecord.installed_backgroundEffectActiveChanged_iff (h.kept window)
          (h.provided window) hchanged
      apply Iff.intro
      · intro hafter hloses
        rcases hloses.2.2 with ⟨window, hlacks⟩
        exact (hall window).mp (hafter window) ⟨hloses.2.1, hlacks⟩
      · intro hno window
        exact (hall window).mpr fun hlacks => hno ⟨hchanged, hlacks.1, window, hlacks.2⟩
  | capabilities flags =>
      have hall : ∀ window, ((t.windows window).capabilitiesChanged
            { t.globals with supportsBlur := flags &&& capabilityBlur ≠ 0 }).Installed
              { t.globals with supportsBlur := flags &&& capabilityBlur ≠ 0 } ↔
          ¬(t.windows window).LosesCapability
            { t.globals with supportsBlur := flags &&& capabilityBlur ≠ 0 } :=
        fun window => WindowRecord.installed_capabilitiesChanged_iff (h.kept window) h.compositor (hi window)
      apply Iff.intro
      · intro hafter hloses
        rcases hloses with ⟨window, hwindow⟩
        exact (hall window).mp (hafter window) hwindow
      · intro hno window
        exact (hall window).mpr fun hwindow => hno ⟨window, hwindow⟩

theorem installed_start : (start true).Installed := fun _ =>
  .surfaceless rfl fun _ _ hobject => nomatch hobject

/-- While regions can be created, every shown window for which blur is requested has exactly one object, which
carries the region, whenever blur is available, and no other window has an object with a region,
exactly as long as no step loses the blur of a window. -/
theorem blur_installed_iff (es : List Event) :
    (∀ n, (after true (es.take n)).Installed) ↔
      Machine.Along (Machine.silent next) (fun t e => ¬t.Loses e) (start true) es := by
  have hrun : ∀ n, (after true (es.take n)).Installed ↔
      (Machine.run (Machine.silent next) (start true) (es.take n)).1.Installed := by
    intro n
    rw [Machine.run_silent]
    rfl
  rw [forall_congr' hrun]
  exact Machine.always_iff_along Ready Installed (fun t e => ¬t.Loses e) (fun _ e h => h.next e)
    (fun _ e h hi => installed_next_iff h hi e) es ready_start installed_start

/-- A window is blurred through the background effect manager, which goes away while the blur manager is
there. -/
def managerGone : List Event :=
  [.blurManager true, .backgroundEffectManager true, .capabilities 1, .createWindow 7,
    .createPlatform 7 true, .expose 7 true, .enableBlurBehind 7 true [], .backgroundEffectManager false]

/-- The blur manager is not asked for a blur. -/
theorem blur_lost : ¬(after true managerGone).Installed := by
  intro h
  rcases (h 7).required 1 [] ⟨by decide, by decide, by decide⟩ (by decide) with ⟨object, hobject, -, -⟩
  have hnone : ((after true managerGone).windows 7).blurObjects = [] := by decide
  exact nomatch hnone.symm.trans hobject

end Scene

end WindowEffects

end KWindowSystem
