import KWindowSystem.Lib.Listener
import KWindowSystem.NetWM.RootConvergence

/-!
# The signals about desktops

`nativeEventFilter` for the properties of the root window.  The current desktop and the number of desktops
come from the viewport and the geometry while these are mapped to desktops, but each signal belongs to one
or two properties: a change of another one, which turns the mapping on or off or moves the viewport to a
part with another number, goes by without a signal.
-/

open Machine Qt

namespace KWindowSystem

open NET NETRootInfo

namespace KX11Extras

/-! ## The getters -/

/-- The screens, and the division of a point by the pixel ratio of the application. -/
structure Screens where
  geometry : DisplayGeometry
  divided : NETPoint → Int × Int

namespace Screens

variable (screens : Screens) (p : NETRootInfo)

/-- The geometry is larger than the screens. -/
def large : Bool :=
  p.desktopGeometry.width.toInt > screens.geometry.rect.width ||
    p.desktopGeometry.height.toInt > screens.geometry.rect.height

/-- The part of the geometry that the viewport is in. -/
def viewportDesktop : Int32 :=
  let viewport := screens.divided (p.desktopViewport p.getCurrentDesktop)
  Int32.ofInt (viewportToDesktop screens.geometry p viewport.1 viewport.2)

/-- The number of parts of the geometry. -/
def viewportCount : Int32 :=
  let s := p.desktopGeometry
  Int32.ofInt ((s.width.toInt.tdiv screens.geometry.rect.width * s.height.toInt).tdiv
    screens.geometry.rect.height)

def currentDesktop : Int32 :=
  if mapViewport screens.geometry p then screens.viewportDesktop p else p.getCurrentDesktop

def numberOfDesktops : Int32 :=
  if mapViewport screens.geometry p then screens.viewportCount p else p.getNumberOfDesktops

end Screens

/-- What a signal tells the new value of. -/
inductive Getter where
  | currentDesktop | numberOfDesktops | activeWindow | showingDesktop
deriving DecidableEq, Repr

namespace Getter

def Value : Getter → Type
  | .currentDesktop | .numberOfDesktops => Int32
  | .activeWindow => XcbWindow
  | .showingDesktop => Bool

def get (screens : Screens) (p : NETRootInfo) : (g : Getter) → g.Value
  | .currentDesktop => screens.currentDesktop p
  | .numberOfDesktops => screens.numberOfDesktops p
  | .activeWindow => p.active
  | .showingDesktop => p.showingDesktop

end Getter

/-! ## The event filter -/

/-- What comes out of a root event. -/
inductive DesktopSignal where
  /-- A virtual function of `NETRootInfo` is called. -/
  | call (call : RootSignal)
  | currentDesktopChanged (desktop : Int32)
  | activeWindowChanged (window : XcbWindow)
  | desktopNamesChanged
  | numberOfDesktopsChanged (num : Int32)
  | workAreaChanged
  | stackingOrderChanged
  | showingDesktopChanged (showing : Bool)
deriving DecidableEq, Repr

def DesktopSignal.tells : DesktopSignal → (g : Getter) → Option g.Value
  | .currentDesktopChanged desktop, .currentDesktop => some desktop
  | .numberOfDesktopsChanged num, .numberOfDesktops => some num
  | .activeWindowChanged window, .activeWindow => some window
  | .showingDesktopChanged showing, .showingDesktop => some showing
  | _, _ => none

/-- The part of `NETEventFilter` that root events are about. -/
structure RootFilter where
  rootInfo : NETRootInfo
  stackingOrder : List XcbWindow

namespace RootFilter

/-- `updateStackingOrder`. -/
def stackingOrderOf (p : NETRootInfo) : List XcbWindow := (p.stacking.getD []).take p.stackingCount

def emit (condition : Bool) (signal : DesktopSignal) : List DesktopSignal :=
  if condition then [signal] else []

variable (atoms : Atoms) (screens : Screens)

/-- `nativeEventFilter` for the change of a property of the root window. -/
def propertyNotify (display : Display) (filter : RootFilter) (atom : XcbAtom) :
    RootFilter × List DesktopSignal :=
  let old := filter.rootInfo
  let oldCurrentDesktop := screens.currentDesktop old
  let oldActiveWindow := old.active
  let oldNumberOfDesktops := screens.numberOfDesktops old
  let oldShowingDesktop := old.showingDesktop
  let handled := old.event atoms display (.propertyNotify atom)
  let now := handled.1.1
  let props := handled.2.properties
  let props2 := handled.2.properties2
  let mapped := mapViewport screens.geometry now
  ({ rootInfo := now
     stackingOrder :=
       if props.has Property.clientListStacking then stackingOrderOf now else filter.stackingOrder },
    handled.1.2.map .call ++
      emit (props.has Property.currentDesktop && screens.currentDesktop now != oldCurrentDesktop)
        (.currentDesktopChanged (screens.currentDesktop now)) ++
      emit (props.has Property.desktopViewport && mapped &&
          screens.currentDesktop now != oldCurrentDesktop)
        (.currentDesktopChanged (screens.currentDesktop now)) ++
      emit (props.has Property.activeWindow && now.active != oldActiveWindow)
        (.activeWindowChanged now.active) ++
      emit (props.has Property.desktopNames) .desktopNamesChanged ++
      emit (props.has Property.numberOfDesktops && screens.numberOfDesktops now != oldNumberOfDesktops)
        (.numberOfDesktopsChanged (screens.numberOfDesktops now)) ++
      emit (props.has Property.desktopGeometry && mapped &&
          screens.numberOfDesktops now != oldNumberOfDesktops)
        (.numberOfDesktopsChanged (screens.numberOfDesktops now)) ++
      emit (props.has Property.workArea) .workAreaChanged ++
      emit (props.has Property.clientListStacking) .stackingOrderChanged ++
      emit (props2.has Property2.showingDesktop && now.showingDesktop != oldShowingDesktop)
        (.showingDesktopChanged now.showingDesktop))

end RootFilter

/-- The X server with the filter. -/
structure RootSession where
  display : Display
  filter : RootFilter

namespace RootSession

variable (atoms : Atoms) (root : XcbWindow) (rootSize : NETSize) (screens : Screens)

/-- A property of the root window is written, and the filter handles one notification after the other. -/
def system : Notified.System RootSession Change XcbAtom DesktopSignal where
  change s c := ({ s with display := c.apply root s.display }, [])
  names c := [c.atom]
  handle s atom :=
    let handled := s.filter.propertyNotify atoms screens s.display atom
    ({ s with filter := handled.1 }, handled.2)

/-- What `init` creates and activates, when notifications may be waiting already. -/
def start (display : Display) (waiting : List XcbAtom) : Notified.State RootSession XcbAtom :=
  let rootInfo := Following.fresh atoms root rootSize display
  ⟨⟨display, { rootInfo, stackingOrder := RootFilter.stackingOrderOf rootInfo }⟩, waiting⟩

def get (s : Notified.State RootSession XcbAtom) (g : Getter) : g.Value := g.get screens s.state.filter.rootInfo

/-! ## When every change is told -/

/-- `_NET_SUPPORTED` lists the viewport. -/
def listsViewport (display : Display) : Bool :=
  (getArrayReply (display.answer ⟨root, atoms.atom .netSupported, .atom, maxPropSize⟩) .atom).contains
    (atoms.atom .netDesktopViewport)

/-- The desktop geometry on the root window. -/
def geometryOn (display : Display) : NETSize :=
  match getArrayReply (display.answer ⟨root, atoms.atom .netDesktopGeometry, .cardinal, 2⟩) .cardinal with
  | [width, height] => ⟨width.toInt32, height.toInt32⟩
  | _ => rootSize

/-- Neither number depends on whether the viewport is mapped. -/
def Alike (p : NETRootInfo) : Prop :=
  screens.viewportCount p = p.getNumberOfDesktops ∧ screens.viewportDesktop p = p.getCurrentDesktop

/-- Handling the notification turns the mapping on or off only if the numbers stay the same, and with a
new geometry the viewport stays in the part with the same number. -/
def Told (display : Display) (p : NETRootInfo) (atom : XcbAtom) : Prop :=
  (atom = atoms.atom .netSupported → p.getNumberOfDesktops ≤ 1 → screens.large p = true →
    listsViewport atoms root display ≠ p.properties.has Property.desktopViewport → Alike screens p) ∧
  (atom = atoms.atom .netNumberOfDesktops → p.properties.has Property.desktopViewport = true →
    screens.large p = true →
    ¬(p.getNumberOfDesktops ≤ 1 ↔ Following.desktopCount atoms root display ≤ 1) →
    screens.viewportDesktop p = p.getCurrentDesktop) ∧
  (atom = atoms.atom .netDesktopGeometry → p.properties.has Property.desktopViewport = true →
    p.getNumberOfDesktops ≤ 1 →
    let q := { p with geometry := geometryOn atoms root rootSize display }
    match screens.large p, screens.large q with
    | true, true => screens.viewportDesktop q = screens.viewportDesktop p
    | true, false => Alike screens p
    | false, true => screens.viewportDesktop q = p.getCurrentDesktop
    | false, false => True)

def ToldNext (s : Notified.State RootSession XcbAtom) : Notified.Event Change → Prop
  | .change _ => True
  | .handle => ∀ atom ∈ s.pending.head?,
      Told atoms root rootSize screens s.state.display s.state.filter.rootInfo atom

/-! ## What a notification changes -/

section Notify

variable {p : NETRootInfo} (hp : p.identity = (Following.unread root rootSize).identity) (display : Display)
  (atom : XcbAtom)

theorem has_updateSupportedProperties (p : NETRootInfo) (atom : XcbAtom) :
    (updateSupportedProperties atoms p atom).properties.has Property.desktopViewport =
      (p.properties.has Property.desktopViewport || decide (atoms.atom .netDesktopViewport = atom)) := by
  have hchain : ∀ e ∈ supportedChain, e.1 ≠ .netDesktopViewport → (match e.2 with
      | .property q => (mask q).has Property.desktopViewport
      | _ => false) = false := by
    decide +kernel
  unfold updateSupportedProperties
  by_cases hatom : atom = atoms.atom .netDesktopViewport
  · have hlookup : lookupAtom atoms.atom supportedChain atom = some (.property .desktopViewport) := by
      rw [hatom, lookupAtom_value atoms.injective]
      decide +kernel
    rw [hlookup, decide_eq_true hatom.symm]
    show (p.properties ||| mask Property.desktopViewport).has Property.desktopViewport = _
    rw [Flags.has_or]
    rfl
  · rw [decide_eq_false (Ne.symm hatom), Bool.or_false]
    cases hlookup : lookupAtom atoms.atom supportedChain atom with
    | none => rfl
    | some x =>
        rcases mem_of_lookupAtom hlookup with ⟨name, hmem, hname⟩
        have hother := hchain (name, x) hmem fun h => hatom (hname.trans (congrArg atoms.atom h))
        cases x with
        | property q =>
            show (p.properties ||| mask q).has Property.desktopViewport = _
            rw [Flags.has_or]
            exact (congrArg _ hother).trans (Bool.or_false _)
        | _ => rfl

theorem has_foldl (list : List XcbAtom) (p : NETRootInfo) :
    (list.foldl (updateSupportedProperties atoms) p).properties.has Property.desktopViewport =
      (p.properties.has Property.desktopViewport || list.contains (atoms.atom .netDesktopViewport)) := by
  induction list generalizing p with
  | nil => exact (Bool.or_false _).symm
  | cons atom list ih =>
      rw [List.foldl_cons, ih, has_updateSupportedProperties, List.contains_cons, Bool.or_assoc]
      rfl

include hp

theorem asked (b : Branch) (hb : b.wanted windowsProperties windowsProperties2 = true) :
    b.asked p = true := by
  have hproperties : p.clientProperties = windowsProperties := congrArg Identity.clientProperties hp
  have hproperties2 : p.clientProperties2 = windowsProperties2 := congrArg Identity.clientProperties2 hp
  unfold Branch.asked
  rw [hproperties, hproperties2]
  exact hb

theorem supported_notify : (p.notify atoms display atom).properties.has Property.desktopViewport =
    if atom = atoms.atom .netSupported then listsViewport atoms root display
    else p.properties.has Property.desktopViewport := by
  have h := owned_notify atoms display (b := .supported) (fun h => nomatch h) (fun h => nomatch h) p atom
  have hproperties := congrArg SupportedFlags.properties h
  have hroot : p.root = root := congrArg Identity.root hp
  replace hproperties : (p.notify atoms display atom).properties = _ := hproperties
  rw [hproperties]
  by_cases hatom : atom = atoms.atom .netSupported
  · rw [if_pos ⟨hatom, asked root rootSize hp .supported (by decide)⟩, if_pos hatom, hroot]
    show (List.foldl (updateSupportedProperties atoms) _ _).properties.has Property.desktopViewport = _
    rw [has_foldl, Flags.has_zero, Bool.false_or]
    rfl
  · rw [if_neg fun h => hatom h.1, if_neg hatom]
    rfl

theorem number_notify : (p.notify atoms display atom).numberOfDesktops =
    if atom = atoms.atom .netNumberOfDesktops then Following.desktopCount atoms root display
    else p.numberOfDesktops := by
  have h := owned_notify atoms display (b := .numberOfDesktops) (fun h => nomatch h) (fun h => nomatch h)
    p atom
  have hroot : p.root = root := congrArg Identity.root hp
  rw [asked root rootSize hp .numberOfDesktops (by decide), hroot] at h
  simp only [and_true] at h
  exact h

theorem geometry_notify : (p.notify atoms display atom).geometry =
    if atom = atoms.atom .netDesktopGeometry then geometryOn atoms root rootSize display
    else p.geometry := by
  have h := owned_notify atoms display (b := .desktopGeometry) (fun h => nomatch h) (fun h => nomatch h)
    p atom
  have hroot : p.root = root := congrArg Identity.root hp
  have hsize : p.rootSize = rootSize := congrArg Identity.rootSize hp
  rw [asked root rootSize hp .desktopGeometry (by decide), hroot] at h
  simp only [and_true] at h
  rw [← hsize]
  exact h

omit hp in
-- What is read from other properties stays.
theorem frame_notify {b : Branch} (hwork : b ≠ .workArea) (hname : b ≠ .wmName)
    (hatom : atom ≠ atoms.atom b.name) : b.owned (p.notify atoms display atom) = b.owned p := by
  rw [owned_notify atoms display hwork hname, if_neg fun h => hatom h.1]

end Notify

/-! ## What is told -/

section Tells

variable (display : Display) (filter : RootFilter) (atom : XcbAtom)

theorem mem_emit {condition : Bool} {signal o : DesktopSignal} :
    o ∈ RootFilter.emit condition signal ↔ condition = true ∧ o = signal := by
  unfold RootFilter.emit
  split
  · rename_i h
    rw [List.mem_singleton]
    exact (and_iff_right h).symm
  · rename_i h
    exact ⟨(fun hmem => nomatch hmem), fun hboth => absurd hboth.1 h⟩

/-- The properties that a getter has a signal for. -/
def Reported (now : NETRootInfo) : Getter → Prop
  | .currentDesktop => atom = atoms.atom .netCurrentDesktop ∨
      atom = atoms.atom .netDesktopViewport ∧ mapViewport screens.geometry now = true
  | .numberOfDesktops => atom = atoms.atom .netNumberOfDesktops ∨
      atom = atoms.atom .netDesktopGeometry ∧ mapViewport screens.geometry now = true
  | .activeWindow => atom = atoms.atom .netActiveWindow
  | .showingDesktop => atom = atoms.atom .netShowingDesktop

theorem event_has (b : Branch) (p : NETRootInfo) :
    b.wanted (p.event atoms display (.propertyNotify atom)).2.properties
      (p.event atoms display (.propertyNotify atom)).2.properties2 = true ↔ atom = atoms.atom b.name := by
  show b.wanted (notified atoms atom).properties (notified atoms atom).properties2 = true ↔ _
  rw [wanted_notified, decide_eq_true_iff]

theorem reported_iff {g : Getter} (hchanged : g.get screens (filter.rootInfo.notify atoms display atom) ≠
      g.get screens filter.rootInfo) :
    (∃ o ∈ (filter.propertyNotify atoms screens display atom).2,
        o.tells g = some (g.get screens (filter.rootInfo.notify atoms display atom))) ↔
      Reported atoms screens atom (filter.rootInfo.notify atoms display atom) g := by
  have hevent : (filter.rootInfo.event atoms display (.propertyNotify atom)).1.1 =
      filter.rootInfo.notify atoms display atom := rfl
  have hhas := fun b => event_has atoms display atom b filter.rootInfo
  unfold RootFilter.propertyNotify
  simp only [List.mem_append, mem_emit, or_and_right, exists_or, hevent]
  cases g with
  | currentDesktop =>
      have hcurrent := hhas .currentDesktop
      have hviewport := hhas .desktopViewport
      simp only [Branch.wanted, Branch.name] at hcurrent hviewport
      replace hchanged : screens.currentDesktop (filter.rootInfo.notify atoms display atom) ≠
          screens.currentDesktop filter.rootInfo := hchanged
      simp [DesktopSignal.tells, Getter.get, Reported, hcurrent, hviewport, hchanged]
  | numberOfDesktops =>
      have hnumber := hhas .numberOfDesktops
      have hgeometry := hhas .desktopGeometry
      simp only [Branch.wanted, Branch.name] at hnumber hgeometry
      replace hchanged : screens.numberOfDesktops (filter.rootInfo.notify atoms display atom) ≠
          screens.numberOfDesktops filter.rootInfo := hchanged
      simp [DesktopSignal.tells, Getter.get, Reported, hnumber, hgeometry, hchanged]
  | activeWindow =>
      have hactive := hhas .activeWindow
      simp only [Branch.wanted, Branch.name] at hactive
      replace hchanged : (filter.rootInfo.notify atoms display atom).active ≠
          filter.rootInfo.active := hchanged
      simp [DesktopSignal.tells, Getter.get, Reported, hactive, hchanged]
  | showingDesktop =>
      have hshowing := hhas .showingDesktop
      simp only [Branch.wanted, Branch.name] at hshowing
      replace hchanged : (filter.rootInfo.notify atoms display atom).showingDesktop ≠
          filter.rootInfo.showingDesktop := hchanged
      simp [DesktopSignal.tells, Getter.get, Reported, hshowing, hchanged]

theorem truthful : Listener.Truthful DesktopSignal.tells
    (fun g => g.get screens (filter.propertyNotify atoms screens display atom).1.rootInfo)
    (filter.propertyNotify atoms screens display atom).2 := by
  intro o ho g v htells
  unfold RootFilter.propertyNotify at ho
  simp only [List.mem_append, mem_emit, or_assoc] at ho
  rcases ho with hcall | h | h | h | h | h | h | h | h | h
  · rcases List.mem_map.mp hcall with ⟨_, _, rfl⟩
    cases g <;> cases htells
  all_goals
    rw [h.2] at htells
    cases g <;> cases htells <;> rfl

theorem complete_iff : Listener.Complete DesktopSignal.tells (fun g => g.get screens filter.rootInfo)
      (fun g => g.get screens (filter.rootInfo.notify atoms display atom))
      (filter.propertyNotify atoms screens display atom).2 ↔
    ∀ g : Getter, g.get screens (filter.rootInfo.notify atoms display atom) ≠
      g.get screens filter.rootInfo →
        Reported atoms screens atom (filter.rootInfo.notify atoms display atom) g := by
  apply forall_congr'
  intro g
  apply imp_congr_right
  intro hchanged
  exact reported_iff atoms screens display filter atom hchanged

end Tells

/-! ## When it is told -/

section Told

theorem mapViewport_eq (p : NETRootInfo) : mapViewport screens.geometry p =
    (p.properties.has Property.desktopViewport && decide (p.getNumberOfDesktops ≤ 1) &&
      screens.large p) := rfl

theorem large_congr {p q : NETRootInfo} (h : q.desktopGeometry = p.desktopGeometry) :
    screens.large q = screens.large p := by
  unfold Screens.large
  rw [h]

theorem viewportCount_congr {p q : NETRootInfo} (h : q.desktopGeometry = p.desktopGeometry) :
    screens.viewportCount q = screens.viewportCount p := by
  unfold Screens.viewportCount
  rw [h]

theorem viewportDesktop_congr {p q : NETRootInfo} (h : q.desktopGeometry = p.desktopGeometry)
    (hviewport : q.viewport = p.viewport) (hcurrent : q.currentDesktop = p.currentDesktop) :
    screens.viewportDesktop q = screens.viewportDesktop p := by
  unfold Screens.viewportDesktop viewportToDesktop NETRootInfo.desktopViewport getCurrentDesktop
  rw [h, hviewport, hcurrent]

theorem desktopGeometry_congr {p q : NETRootInfo} (h : q.geometry = p.geometry)
    (hsize : q.rootSize = p.rootSize) : q.desktopGeometry = p.desktopGeometry := by
  unfold NETRootInfo.desktopGeometry
  rw [h, hsize]

theorem getNumberOfDesktops_congr {p q : NETRootInfo} (h : q.numberOfDesktops = p.numberOfDesktops) :
    q.getNumberOfDesktops = p.getNumberOfDesktops := by
  unfold getNumberOfDesktops
  rw [h]

theorem getCurrentDesktop_congr {p q : NETRootInfo} (h : q.currentDesktop = p.currentDesktop) :
    q.getCurrentDesktop = p.getCurrentDesktop := by
  unfold getCurrentDesktop
  rw [h]

-- No desktops count as one.
theorem getNumberOfDesktops_le_one (p : NETRootInfo) :
    p.getNumberOfDesktops ≤ 1 ↔ p.numberOfDesktops ≤ 1 := by
  unfold getNumberOfDesktops
  split
  · rename_i h
    rw [h]
    decide
  · rfl

variable {p : NETRootInfo} (hp : p.identity = (Following.unread root rootSize).identity) (display : Display)
  (atom : XcbAtom)

theorem rootSize_notify : (p.notify atoms display atom).rootSize = p.rootSize :=
  congrArg Identity.rootSize (identity_notify atoms display p atom)

-- The window that is active and the desktop that is shown come from one property each.
theorem reported_two : (∀ g : Getter, g.get screens (p.notify atoms display atom) ≠ g.get screens p →
      Reported atoms screens atom (p.notify atoms display atom) g) ↔
    (screens.currentDesktop (p.notify atoms display atom) ≠ screens.currentDesktop p →
      Reported atoms screens atom (p.notify atoms display atom) .currentDesktop) ∧
    (screens.numberOfDesktops (p.notify atoms display atom) ≠ screens.numberOfDesktops p →
      Reported atoms screens atom (p.notify atoms display atom) .numberOfDesktops) := by
  apply Iff.intro
  · intro h
    exact ⟨h .currentDesktop, h .numberOfDesktops⟩
  · intro h g hchanged
    cases g with
    | currentDesktop => exact h.1 hchanged
    | numberOfDesktops => exact h.2 hchanged
    | activeWindow =>
        by_cases hatom : atom = atoms.atom .netActiveWindow
        · exact hatom
        · exact absurd (frame_notify atoms display atom (b := .activeWindow) (fun h => nomatch h)
            (fun h => nomatch h) hatom) hchanged
    | showingDesktop =>
        by_cases hatom : atom = atoms.atom .netShowingDesktop
        · exact hatom
        · exact absurd (frame_notify atoms display atom (b := .showingDesktop) (fun h => nomatch h)
            (fun h => nomatch h) hatom) hchanged

include hp

/-- What the getters of desktops are computed from, after the notification. -/
structure Reread (p q : NETRootInfo) (atom : XcbAtom) (display : Display) : Prop where
  supported : q.properties.has Property.desktopViewport =
    if atom = atoms.atom .netSupported then listsViewport atoms root display
    else p.properties.has Property.desktopViewport
  number : q.numberOfDesktops =
    if atom = atoms.atom .netNumberOfDesktops then Following.desktopCount atoms root display
    else p.numberOfDesktops
  geometry : q.geometry =
    if atom = atoms.atom .netDesktopGeometry then geometryOn atoms root rootSize display
    else p.geometry
  viewport : atom ≠ atoms.atom .netDesktopViewport → q.viewport = p.viewport
  current : atom ≠ atoms.atom .netCurrentDesktop → q.currentDesktop = p.currentDesktop
  size : q.rootSize = p.rootSize

theorem reread_notify : Reread atoms root rootSize p (p.notify atoms display atom) atom display where
  supported := supported_notify atoms root rootSize hp display atom
  number := number_notify atoms root rootSize hp display atom
  geometry := geometry_notify atoms root rootSize hp display atom
  viewport := frame_notify atoms display atom (b := .desktopViewport) (fun h => nomatch h) (fun h => nomatch h)
  current := frame_notify atoms display atom (b := .currentDesktop) (fun h => nomatch h) (fun h => nomatch h)
  size := rootSize_notify atoms display atom

theorem told_supported (hatom : atom = atoms.atom .netSupported) :
    (∀ g : Getter, g.get screens (p.notify atoms display atom) ≠ g.get screens p →
      Reported atoms screens atom (p.notify atoms display atom) g) ↔
    Told atoms root rootSize screens display p atom := by
  have h := reread_notify atoms root rootSize hp display atom
  rw [reported_two]
  generalize p.notify atoms display atom = q at *
  subst hatom
  rcases h with ⟨hsupported, hnumber, hgeometry, hviewport, hcurrent, hsize⟩
  simp only [ne_eq, Atoms.atom_inj, reduceCtorEq, if_true, if_false, not_false_eq_true, true_imp_iff]
    at hsupported hnumber hgeometry hviewport hcurrent
  have hsame := desktopGeometry_congr hgeometry hsize
  unfold Told Reported Alike Screens.currentDesktop Screens.numberOfDesktops
  rw [mapViewport_eq, mapViewport_eq, hsupported, getNumberOfDesktops_congr hnumber,
    large_congr screens hsame, viewportCount_congr screens hsame,
    viewportDesktop_congr screens hsame hviewport hcurrent, getCurrentDesktop_congr hcurrent]
  simp only [Atoms.atom_inj, reduceCtorEq, false_and, or_self, imp_false, not_not, false_imp_iff,
    and_true, true_imp_iff]
  by_cases hone : p.getNumberOfDesktops ≤ 1
  · cases screens.large p <;> cases listsViewport atoms root display <;>
      cases p.properties.has Property.desktopViewport <;> simp [hone, and_comm, eq_comm]
  · simp [hone]

theorem told_number (hatom : atom = atoms.atom .netNumberOfDesktops) :
    (∀ g : Getter, g.get screens (p.notify atoms display atom) ≠ g.get screens p →
      Reported atoms screens atom (p.notify atoms display atom) g) ↔
    Told atoms root rootSize screens display p atom := by
  have h := reread_notify atoms root rootSize hp display atom
  rw [reported_two]
  generalize p.notify atoms display atom = q at *
  subst hatom
  rcases h with ⟨hsupported, hnumber, hgeometry, hviewport, hcurrent, hsize⟩
  simp only [ne_eq, Atoms.atom_inj, reduceCtorEq, if_true, if_false, not_false_eq_true, true_imp_iff]
    at hsupported hnumber hgeometry hviewport hcurrent
  have hsame := desktopGeometry_congr hgeometry hsize
  have hone := getNumberOfDesktops_le_one q
  rw [hnumber] at hone
  unfold Told Reported Screens.currentDesktop
  rw [mapViewport_eq, mapViewport_eq, hsupported, large_congr screens hsame,
    viewportDesktop_congr screens hsame hviewport hcurrent, getCurrentDesktop_congr hcurrent]
  simp only [Atoms.atom_inj, reduceCtorEq, false_and, or_self, imp_false, not_not, false_imp_iff,
    and_true, true_imp_iff, true_or, implies_true, true_and, hone]
  by_cases hold : p.getNumberOfDesktops ≤ 1 <;> by_cases hnow : Following.desktopCount atoms root display ≤ 1
  all_goals
    cases screens.large p <;> cases p.properties.has Property.desktopViewport <;>
      simp [hold, hnow, eq_comm]

theorem told_geometry (hatom : atom = atoms.atom .netDesktopGeometry) :
    (∀ g : Getter, g.get screens (p.notify atoms display atom) ≠ g.get screens p →
      Reported atoms screens atom (p.notify atoms display atom) g) ↔
    Told atoms root rootSize screens display p atom := by
  have h := reread_notify atoms root rootSize hp display atom
  rw [reported_two]
  generalize p.notify atoms display atom = q at *
  subst hatom
  rcases h with ⟨hsupported, hnumber, hgeometry, hviewport, hcurrent, hsize⟩
  simp only [ne_eq, Atoms.atom_inj, reduceCtorEq, if_true, if_false, not_false_eq_true, true_imp_iff]
    at hsupported hnumber hgeometry hviewport hcurrent
  have hsame : q.desktopGeometry =
      NETRootInfo.desktopGeometry { p with geometry := geometryOn atoms root rootSize display } :=
    desktopGeometry_congr hgeometry hsize
  unfold Told Reported Alike Screens.currentDesktop Screens.numberOfDesktops
  rw [mapViewport_eq, mapViewport_eq, hsupported, getNumberOfDesktops_congr hnumber,
    large_congr screens hsame, viewportCount_congr screens hsame,
    viewportDesktop_congr screens hsame hviewport hcurrent, getCurrentDesktop_congr hcurrent]
  simp only [Atoms.atom_inj, reduceCtorEq, false_and, or_self, imp_false, not_not, false_imp_iff,
    true_imp_iff, true_and, false_or]
  generalize screens.large { p with geometry := geometryOn atoms root rootSize display } = now
  by_cases hone : p.getNumberOfDesktops ≤ 1
  · cases screens.large p <;> cases now <;> cases p.properties.has Property.desktopViewport <;>
      simp [hone, and_comm, eq_comm]
  · simp [hone]

theorem told_other (hsupported : atom ≠ atoms.atom .netSupported)
    (hnumber : atom ≠ atoms.atom .netNumberOfDesktops) (hgeometry : atom ≠ atoms.atom .netDesktopGeometry) :
    ∀ g : Getter, g.get screens (p.notify atoms display atom) ≠ g.get screens p →
      Reported atoms screens atom (p.notify atoms display atom) g := by
  have h := reread_notify atoms root rootSize hp display atom
  rw [reported_two]
  generalize p.notify atoms display atom = q at *
  have hhas := h.supported
  have hcount := h.number
  have hgeometry' := h.geometry
  rw [if_neg hsupported] at hhas
  rw [if_neg hnumber] at hcount
  rw [if_neg hgeometry] at hgeometry'
  have hsame := desktopGeometry_congr hgeometry' h.size
  have hmapped : mapViewport screens.geometry q = mapViewport screens.geometry p := by
    rw [mapViewport_eq, mapViewport_eq, hhas, getNumberOfDesktops_congr hcount, large_congr screens hsame]
  apply And.intro
  · intro hchanged
    by_cases hcurrent : atom = atoms.atom .netCurrentDesktop
    · exact .inl hcurrent
    · have hdesktop := getCurrentDesktop_congr (h.current hcurrent)
      unfold Screens.currentDesktop at hchanged
      rw [hmapped, hdesktop] at hchanged
      by_cases hviewport : atom = atoms.atom .netDesktopViewport
      · -- Without the mapping the viewport does not count.
        right
        apply And.intro hviewport
        rw [hmapped]
        by_cases hmap : mapViewport screens.geometry p = true
        · exact hmap
        · rw [if_neg hmap, if_neg hmap] at hchanged
          exact absurd rfl hchanged
      · rw [viewportDesktop_congr screens hsame (h.viewport hviewport) (h.current hcurrent)] at hchanged
        exact absurd rfl hchanged
  · intro hchanged
    unfold Screens.numberOfDesktops at hchanged
    rw [hmapped, viewportCount_congr screens hsame, getNumberOfDesktops_congr hcount] at hchanged
    exact absurd rfl hchanged

theorem told_iff :
    (∀ g : Getter, g.get screens (p.notify atoms display atom) ≠ g.get screens p →
      Reported atoms screens atom (p.notify atoms display atom) g) ↔
    Told atoms root rootSize screens display p atom := by
  by_cases hsupported : atom = atoms.atom .netSupported
  · exact told_supported atoms root rootSize screens hp display atom hsupported
  · by_cases hnumber : atom = atoms.atom .netNumberOfDesktops
    · exact told_number atoms root rootSize screens hp display atom hnumber
    · by_cases hgeometry : atom = atoms.atom .netDesktopGeometry
      · exact told_geometry atoms root rootSize screens hp display atom hgeometry
      · apply iff_of_true (told_other atoms root rootSize screens hp display atom hsupported hnumber hgeometry)
        unfold Told
        exact ⟨fun h => absurd h hsupported, fun h => absurd h hnumber, fun h => absurd h hgeometry⟩

end Told

/-! ## Whole runs -/

section Run

/-- The filter is the one that was created. -/
def Invariant (s : Notified.State RootSession XcbAtom) : Prop :=
  s.state.filter.rootInfo.identity = (Following.unread root rootSize).identity

theorem invariant_step (s : Notified.State RootSession XcbAtom) (e : Notified.Event Change)
    (hs : Invariant root rootSize s) :
    Invariant root rootSize ((system atoms root screens).step s e).1 := by
  cases e with
  | change c => exact hs
  | handle =>
      unfold Notified.System.step
      cases hpending : s.pending with
      | nil => exact hs
      | cons atom rest => exact (identity_notify atoms s.state.display _ atom).trans hs

theorem truthful_step (s : Notified.State RootSession XcbAtom) (e : Notified.Event Change) :
    Listener.Truthful DesktopSignal.tells (get screens ((system atoms root screens).step s e).1)
      ((system atoms root screens).step s e).2 := by
  cases e with
  | change c => exact fun _ h => nomatch h
  | handle =>
      unfold Notified.System.step
      cases hpending : s.pending with
      | nil => exact fun _ h => nomatch h
      | cons atom rest => exact truthful atoms screens s.state.display s.state.filter atom

theorem complete_step_iff (s : Notified.State RootSession XcbAtom) (e : Notified.Event Change)
    (hs : Invariant root rootSize s) :
    Listener.StepComplete DesktopSignal.tells (system atoms root screens).step (get screens) s e ↔
      ToldNext atoms root rootSize screens s e := by
  unfold Listener.StepComplete
  cases e with
  | change c => exact iff_of_true (fun _ h => absurd rfl h) trivial
  | handle =>
      unfold Notified.System.step ToldNext
      cases hpending : s.pending with
      | nil => exact iff_of_true (fun _ h => absurd rfl h) (fun _ h => nomatch h)
      | cons atom rest =>
          have hcomplete := complete_iff atoms screens s.state.display s.state.filter atom
          rw [told_iff atoms root rootSize screens hs] at hcomplete
          apply hcomplete.trans
          apply Iff.intro
          · intro htold other hother
            cases hother
            exact htold
          · intro htold
            exact htold atom rfl

/-- Every change of a getter is told by its signal, and a listener has the values of the getters all along,
exactly in the runs whose notifications all keep to the condition. -/
theorem desktopSignals_iff (display : Display) (waiting : List XcbAtom) (es : List (Notified.Event Change)) :
    (Along (system atoms root screens).step
        (Listener.StepComplete DesktopSignal.tells (system atoms root screens).step (get screens))
        (start atoms root rootSize display waiting) es ↔
      Along (system atoms root screens).step (ToldNext atoms root rootSize screens)
        (start atoms root rootSize display waiting) es) ∧
    ((∀ n, (run (system atoms root screens).step (start atoms root rootSize display waiting)
          (es.take n)).2.foldl (Listener.listen DesktopSignal.tells)
          (get screens (start atoms root rootSize display waiting)) =
        get screens (run (system atoms root screens).step (start atoms root rootSize display waiting)
          (es.take n)).1) ↔
      Along (system atoms root screens).step (ToldNext atoms root rootSize screens)
        (start atoms root rootSize display waiting) es) := by
  have hstart : Invariant root rootSize (start atoms root rootSize display waiting) :=
    (Following.invariant_fresh atoms root rootSize display).identity
  have hcomplete := along_congr (Invariant root rootSize) (invariant_step atoms root rootSize screens)
    (complete_step_iff atoms root rootSize screens) es hstart
  have hfollows := Listener.follows_iff_complete (system atoms root screens).step (get screens)
    (Invariant root rootSize) (invariant_step atoms root rootSize screens)
    (fun s e _ => truthful_step atoms root screens s e) es hstart
  exact ⟨hcomplete, hfollows.trans hcomplete⟩

end Run

/-! Two screens wide, and the viewport to the right; then the window manager makes it two desktops. -/

def oneScreen : Screens where
  geometry := ⟨.ofSize 0 0 800 600, .inr (by decide)⟩
  divided point := (point.x.toInt, point.y.toInt)

def twoWide : Display :=
  [⟨Atoms.inOrder.atom .netSupported, some ⟨.atom, .data32 [Atoms.inOrder.atom .netDesktopViewport]⟩⟩,
    Following.cardinals .netNumberOfDesktops [1], Following.cardinals .netDesktopGeometry [1600, 600],
    Following.cardinals .netDesktopViewport [800, 0]].foldl (fun display c => c.apply 1 display)
      (fun _ _ => none)

def twoWideStart : Notified.State RootSession XcbAtom := start Atoms.inOrder 1 ⟨800, 600⟩ twoWide []

/-- The current desktop goes from 2 to 1 and no signal tells. -/
theorem mappingEnds_silent :
    ¬Along (system Atoms.inOrder 1 oneScreen).step
        (Listener.StepComplete DesktopSignal.tells (system Atoms.inOrder 1 oneScreen).step (get oneScreen))
        twoWideStart [.change (Following.cardinals .netNumberOfDesktops [2]), .handle] := by
  intro h
  have hcomplete := h.2.1 .currentDesktop
  have hchanged : oneScreen.currentDesktop (run (system Atoms.inOrder 1 oneScreen).step twoWideStart
        [.change (Following.cardinals .netNumberOfDesktops [2]), .handle]).1.state.filter.rootInfo ≠
      oneScreen.currentDesktop twoWideStart.state.filter.rootInfo := by
    decide +kernel
  have hsilent : (run (system Atoms.inOrder 1 oneScreen).step twoWideStart
      [.change (Following.cardinals .netNumberOfDesktops [2]), .handle]).2 = [] := by
    decide +kernel
  rcases hcomplete hchanged with ⟨o, ho, _⟩
  have hmem : o ∈ (run (system Atoms.inOrder 1 oneScreen).step twoWideStart
      [.change (Following.cardinals .netNumberOfDesktops [2]), .handle]).2 :=
    List.mem_append_right _ (List.mem_append_left _ ho)
  rw [hsilent] at hmem
  cases hmem

end RootSession

end KX11Extras

end KWindowSystem
