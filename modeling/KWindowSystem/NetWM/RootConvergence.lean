import KWindowSystem.KX11Extras.EventFilter
import KWindowSystem.Lib.Notified
import KWindowSystem.NetWM.RootCache

/-!
# A client that follows the root window

The desktop properties as a client has them while a window manager writes them and the notifications come
in.  With all of them handled the client has what a new one would read, save for the work areas: whether
their array is taken depends on the number of desktops that the client has at that moment, and the array is
not read again when the number changes.
-/

open Machine Qt

namespace KWindowSystem

open NET KX11Extras

namespace NETRootInfo

/-! ## What is followed -/

/-- The parts of the object that are read from one property each. -/
inductive Followed where
  | numberOfDesktops | currentDesktop | desktopGeometry | desktopViewport | desktopNames
  | activeWindow | workArea
deriving DecidableEq, Repr

namespace Followed

def branch : Followed → Branch
  | .numberOfDesktops => .numberOfDesktops
  | .currentDesktop => .currentDesktop
  | .desktopGeometry => .desktopGeometry
  | .desktopViewport => .desktopViewport
  | .desktopNames => .desktopNames
  | .activeWindow => .activeWindow
  | .workArea => .workArea

def Value : Followed → Type
  | .numberOfDesktops | .currentDesktop => Int32
  | .desktopGeometry => NETSize
  | .desktopViewport => Nat → NETPoint
  | .desktopNames => Nat → Option QByteArray
  | .activeWindow => XcbWindow
  | .workArea => Nat → NETRect

/-- The arrays as the elements that they are read by. -/
def seen : (f : Followed) → NETRootInfo → f.Value
  | .numberOfDesktops, p => p.numberOfDesktops
  | .currentDesktop, p => p.currentDesktop
  | .desktopGeometry, p => p.geometry
  | .desktopViewport, p => p.viewport.get
  | .desktopNames, p => p.desktopNames.get
  | .activeWindow, p => p.active
  | .workArea, p => p.workarea.get

end Followed

def workArea (p : NETRootInfo) (desktop : Int32) : NETRect :=
  if desktop < 1 then {} else p.workarea.get (desktop - 1).toInt.toNat

def desktopName (p : NETRootInfo) (desktop : Int32) : Option QByteArray :=
  if desktop < 1 then none else p.desktopNames.get (desktop - 1).toInt.toNat

/-- The getters; without viewports, `numberOfDesktops` and `currentDesktop` ask nobody else. -/
structure DesktopValues where
  numberOfDesktops : Int32
  currentDesktop : Int32
  desktopGeometry : NETSize
  desktopViewport : Int32 → NETPoint
  workArea : Int32 → NETRect
  desktopName : Int32 → Option QByteArray
  activeWindow : XcbWindow

def desktopValues (p : NETRootInfo) : DesktopValues where
  numberOfDesktops := p.getNumberOfDesktops
  currentDesktop := p.getCurrentDesktop
  desktopGeometry := p.desktopGeometry
  desktopViewport := p.desktopViewport
  workArea := p.workArea
  desktopName := p.desktopName
  activeWindow := p.active

/-! ## The client and the root window -/

/-- The display with the object of a client. -/
structure Following where
  display : Display
  client : NETRootInfo

namespace Following

variable (atoms : Atoms) (root : XcbWindow) (rootSize : NETSize)

/-- A client that has not read anything yet, with the properties that `NETEventFilter` asks for. -/
def unread : NETRootInfo := newClient root rootSize windowsProperties windowsProperties2

/-- A client that was constructed just now. -/
def fresh (display : Display) : NETRootInfo :=
  ((unread root rootSize).update atoms display windowsProperties windowsProperties2).1

/-- A property of the root window is written, and the client handles one notification after the other. -/
def system : Notified.System Following Change XcbAtom RootSignal where
  change s c := ({ s with display := c.apply root s.display }, [])
  names c := [c.atom]
  handle s atom :=
    let now := s.client.event atoms s.display (.propertyNotify atom)
    ({ s with client := now.1.1 }, now.1.2)

/-- A client as it is constructed, when notifications may be waiting already. -/
def start (display : Display) (waiting : List XcbAtom) : Notified.State Following XcbAtom :=
  ⟨⟨display, fresh atoms root rootSize display⟩, waiting⟩

/-- The words of the work areas on the root window. -/
def workAreaWords (display : Display) : List UInt32 :=
  getArrayReply (display.answer ⟨root, atoms.atom .netWorkarea, .cardinal, maxPropSize⟩) .cardinal

/-- The number of desktops on the root window. -/
def desktopCount (display : Display) : Int32 :=
  (getValueReply (display.answer ⟨root, atoms.atom .netNumberOfDesktops, .cardinal, 1⟩) .cardinal 0).toInt32

/-- `data.count() == p->number_of_desktops * 4`. -/
def Accepts (words : List UInt32) (numberOfDesktops : Int32) : Prop :=
  (words.length : Int) = numberOfDesktops.toInt * 4

instance (words : List UInt32) (numberOfDesktops : Int32) : Decidable (Accepts words numberOfDesktops) :=
  inferInstanceAs (Decidable (_ = _))

/-- When the client gets to a new number of desktops, the work areas are still to be read, or they are
taken with the new number as with the old one, or there is nothing but zeros in them. -/
def KeepsWorkArea (s : Notified.State Following XcbAtom) : Notified.Event Change → Prop
  | .change _ => True
  | .handle => s.pending.head? = some (atoms.atom .netNumberOfDesktops) →
      atoms.atom .netWorkarea ∈ s.pending.tail ∨
        (Accepts (workAreaWords atoms root s.state.display) s.state.client.numberOfDesktops ↔
          Accepts (workAreaWords atoms root s.state.display) (desktopCount atoms root s.state.display)) ∨
        ∀ word ∈ workAreaWords atoms root s.state.display, word = 0

instance (s : Notified.State Following XcbAtom) :
    (e : Notified.Event Change) → Decidable (KeepsWorkArea atoms root s e)
  | .change _ => isTrue trivial
  | .handle => inferInstanceAs (Decidable (_ → _ ∨ (_ ↔ _) ∨ ∀ word ∈ _, word = 0))

/-- What the runs keep: the client is the one that was constructed. -/
structure Invariant (s : Following) : Prop where
  identity : s.client.identity = (unread root rootSize).identity
  clean : s.client.viewport.Clean

end Following

/-! ## Reading a property -/

section Read

variable (atoms : Atoms) (display : Display)

theorem asked_followed (f : Followed) : f.branch.wanted windowsProperties windowsProperties2 = true := by
  cases f <;> decide

-- What is read does not depend on what was there, but for the number of desktops.
theorem seen_read {f : Followed} (hf : f ≠ .workArea) (replies : List Reply) {p q : NETRootInfo}
    (hidentity : p.identity = q.identity) (hp : p.viewport.Clean) (hq : q.viewport.Clean) :
    f.seen (f.branch.read atoms display replies p).1 = f.seen (f.branch.read atoms display replies q).1 := by
  cases f with
  | workArea => exact absurd rfl hf
  | desktopGeometry =>
      have hsize : p.rootSize = q.rootSize := congrArg Identity.rootSize hidentity
      simp only [Followed.branch, Branch.read, Followed.seen]
      split
      · rfl
      · exact hsize
  | desktopViewport =>
      funext i
      show ((p.viewport.zero p.viewport.size).setFrom 0 _).get i =
        ((q.viewport.zero q.viewport.size).setFrom 0 _).get i
      rw [NETRArray.get_setFrom, NETRArray.get_setFrom, NETRArray.get_zero hp, NETRArray.get_zero hq]
  | _ => rfl

/-- The elements of what a branch has written. -/
def Followed.view : (f : Followed) → f.branch.Owned → f.Value
  | .numberOfDesktops, v => v
  | .currentDesktop, v => v
  | .desktopGeometry, v => v
  | .desktopViewport, v => v.get
  | .desktopNames, v => v.get
  | .activeWindow, v => v
  | .workArea, v => v.get

theorem seen_eq (f : Followed) (p : NETRootInfo) : f.seen p = f.view (f.branch.owned p) := by
  cases f <;> rfl

theorem seen_notify {f : Followed} (hf : f ≠ .workArea) {p : NETRootInfo} (hasked : f.branch.asked p = true)
    (atom : XcbAtom) :
    f.seen (p.notify atoms display atom) =
      if atom = atoms.atom f.branch.name then
        f.seen (f.branch.read atoms display ((f.branch.requests atoms p.root).map display.answer) p).1
      else f.seen p := by
  have hwork : f.branch ≠ .workArea := by
    cases f <;> first | exact absurd rfl hf | exact fun h => nomatch h
  have hname : f.branch ≠ .wmName := by
    cases f <;> exact fun h => nomatch h
  rw [seen_eq, owned_notify atoms display hwork hname, seen_eq, seen_eq]
  by_cases h : atom = atoms.atom f.branch.name
  · rw [if_pos ⟨h, hasked⟩, if_pos h]
  · rw [if_neg fun hboth => h hboth.1, if_neg h]

theorem clean_notify {p : NETRootInfo} (hp : p.viewport.Clean) (atom : XcbAtom) :
    (p.notify atoms display atom).viewport.Clean := by
  have h := owned_notify atoms display (b := .desktopViewport) (fun h => nomatch h) (fun h => nomatch h)
    p atom
  replace h : (p.notify atoms display atom).viewport = _ := h
  rw [h]
  split
  · exact NETRArray.clean_setFrom (NETRArray.clean_setFrom hp _ _) _ _
  · exact hp

end Read

/-! ## Following -/

namespace Following

section Follow

variable (atoms : Atoms) (root : XcbWindow) (rootSize : NETSize)

-- A new client has of each part what it reads; the work areas go by the number that it reads.
theorem seen_fresh {f : Followed} (hf : f ≠ .workArea) (display : Display) :
    f.seen (fresh atoms root rootSize display) =
      f.seen (f.branch.read atoms display ((f.branch.requests atoms root).map display.answer)
        (unread root rootSize)).1 := by
  have hwork : f.branch ≠ .workArea := by
    cases f <;> first | exact absurd rfl hf | exact fun h => nomatch h
  have hname : f.branch ≠ .wmName := by
    cases f <;> exact fun h => nomatch h
  unfold fresh
  rw [seen_eq, owned_update atoms display hwork hname, seen_eq]
  unfold stepOwned
  rw [if_pos]
  · rfl
  · show f.branch.wanted (windowsProperties &&& windowsProperties)
      (windowsProperties2 &&& windowsProperties2) = true
    rw [wanted_and, asked_followed]
    rfl

theorem workArea_fresh (display : Display) :
    (fresh atoms root rootSize display).workarea =
      workAreaOf (display.answer ⟨root, atoms.atom .netWorkarea, .cardinal, maxPropSize⟩)
        (fresh atoms root rootSize display).numberOfDesktops := by
  unfold fresh
  rw [workArea_update, if_pos]
  · rfl
  · show (windowsProperties &&& windowsProperties).has Property.workArea = true
    decide

-- What is read of a property does not depend on the others.
theorem answers_apply (display : Display) (c : Change) {f : Followed}
    (hatom : c.atom ≠ atoms.atom f.branch.name) :
    (f.branch.requests atoms root).map (c.apply root display).answer =
      (f.branch.requests atoms root).map display.answer := by
  apply List.map_congr_left
  intro request hrequest
  have hproperty : request.window = root ∧ request.property = atoms.atom f.branch.name := by
    cases f <;> rw [List.mem_singleton.mp hrequest] <;> exact ⟨rfl, rfl⟩
  have happly : c.apply root display request.window request.property =
      display request.window request.property := by
    unfold Change.apply
    rw [if_pos hproperty.1, Function.update_of_ne]
    rw [hproperty.2]
    exact Ne.symm hatom
  unfold Display.answer
  rw [happly]

/-- A part is current when the client has what a new one would read. -/
def Current (atom : XcbAtom) (s : Following) : Prop :=
  ∀ f : Followed, f ≠ .workArea → atoms.atom f.branch.name = atom →
    f.seen s.client = f.seen (f.branch.read atoms s.display
      ((f.branch.requests atoms root).map s.display.answer) (unread root rootSize)).1

/-- The work areas are current when they go with the number of desktops that the client has. -/
def WorkAreaCurrent (atom : XcbAtom) (s : Following) : Prop :=
  atom = atoms.atom .netWorkarea → s.client.workarea.get =
    (workAreaOf (s.display.answer ⟨root, atoms.atom .netWorkarea, .cardinal, maxPropSize⟩)
      s.client.numberOfDesktops).get

/-! ### The invariant -/

theorem invariant_fresh (display : Display) :
    Invariant root rootSize ⟨display, fresh atoms root rootSize display⟩ := by
  constructor
  · exact identity_update atoms display _ _ _
  · have h := owned_update atoms display (b := .desktopViewport) (fun h => nomatch h)
      (fun h => nomatch h) (unread root rootSize) windowsProperties windowsProperties2
    replace h : (fresh atoms root rootSize display).viewport = _ := h
    show (fresh atoms root rootSize display).viewport.Clean
    rw [h]
    unfold stepOwned
    split
    · exact NETRArray.clean_setFrom (NETRArray.clean_setFrom NETRArray.clean_new _ _) _ _
    · exact NETRArray.clean_new

theorem invariant_handle {s : Following} (hs : Invariant root rootSize s) (atom : XcbAtom) :
    Invariant root rootSize ((system atoms root).handle s atom).1 where
  identity := (identity_notify atoms s.display s.client atom).trans hs.identity
  clean := clean_notify atoms s.display hs.clean atom

-- What the client was constructed for.
theorem Invariant.asked {root : XcbWindow} {rootSize : NETSize} {s : Following}
    (hs : Invariant root rootSize s) (f : Followed) : f.branch.asked s.client = true := by
  have hproperties : s.client.clientProperties = windowsProperties :=
    congrArg Identity.clientProperties hs.identity
  have hproperties2 : s.client.clientProperties2 = windowsProperties2 :=
    congrArg Identity.clientProperties2 hs.identity
  unfold Branch.asked
  rw [hproperties, hproperties2]
  exact asked_followed f

theorem Invariant.root_eq {root : XcbWindow} {rootSize : NETSize} {s : Following}
    (hs : Invariant root rootSize s) : s.client.root = root :=
  congrArg Identity.root hs.identity

/-! ### What is read from one property -/

theorem keeps_others : Notified.Keeps (system atoms root) (Invariant root rootSize)
    (Current atoms root rootSize) (fun _ _ => True) where
  inv_change _ _ hs _ := ⟨hs.identity, hs.clean⟩
  current_change s c atom _ _ hatom hcurrent := by
    intro f hf hname
    have hother : c.atom ≠ atoms.atom f.branch.name := by
      rw [hname]
      exact fun h => hatom (List.mem_singleton.mpr h.symm)
    show f.seen s.state.client = f.seen (f.branch.read atoms _
      ((f.branch.requests atoms root).map (c.apply root s.state.display).answer) _).1
    rw [answers_apply atoms root s.state.display c hother]
    rw [hcurrent f hf hname]
    cases f <;> rfl
  inv_handle _ atom _ hs _ _ := invariant_handle atoms root rootSize hs atom
  current_handle s atom rest other hs _ _ _ hother := by
    intro f hf hname
    show f.seen (s.state.client.notify atoms s.state.display atom) = _
    rw [seen_notify atoms s.state.display hf (hs.asked f)]
    by_cases h : atom = atoms.atom f.branch.name
    · rw [if_pos h, hs.root_eq]
      exact seen_read atoms s.state.display hf _ hs.identity hs.clean NETRArray.clean_new
    · rw [if_neg h]
      have hcurrent := hother.resolve_left fun heq => h (heq.symm.trans hname.symm)
      exact hcurrent f hf hname

/-! ### The work areas -/

theorem rects_zero {words : List UInt32} (h : ∀ word ∈ words, word = 0) (i : Nat) :
    (rects words).getD i default = default := by
  induction words using rects.induct generalizing i with
  | case1 x y width height rest ih =>
      have hx := h x (by simp)
      have hy := h y (by simp)
      have hwidth := h width (by simp)
      have hheight := h height (by simp)
      subst hx hy hwidth hheight
      unfold rects
      cases i with
      | zero => rfl
      | succ i => exact ih (fun word hword => h word (by simp [hword])) i
  | case2 words hwords =>
      unfold rects
      split
      · exact absurd rfl (hwords _ _ _ _ _)
      · rfl

-- Zeros read as nothing, whether they are taken or not.
theorem workAreaOf_congr {reply : Reply} {n n' : Int32}
    (h : (Accepts (getArrayReply reply .cardinal) n ↔ Accepts (getArrayReply reply .cardinal) n') ∨
      ∀ word ∈ getArrayReply reply .cardinal, word = 0) :
    (workAreaOf reply n).get = (workAreaOf reply n').get := by
  rcases h with haccepts | hzero
  · unfold Accepts at haccepts
    unfold workAreaOf
    simp only [haccepts]
  · have hempty : ∀ m, (workAreaOf reply m).get = fun _ => default := by
      intro m
      funext i
      unfold workAreaOf
      dsimp only
      split
      · rw [NETRArray.get_setFrom, NETRArray.get_new, rects_zero hzero, ite_self]
      · exact NETRArray.get_new i
    rw [hempty, hempty]

theorem numberOfDesktops_notify {s : Following} (hs : Invariant root rootSize s) (atom : XcbAtom) :
    (s.client.notify atoms s.display atom).numberOfDesktops =
      if atom = atoms.atom .netNumberOfDesktops then desktopCount atoms root s.display
      else s.client.numberOfDesktops := by
  have h := seen_notify atoms s.display (f := .numberOfDesktops) (fun h => nomatch h)
    (hs.asked .numberOfDesktops) atom
  rw [hs.root_eq] at h
  exact h

theorem keeps_workArea : Notified.Keeps (system atoms root) (Invariant root rootSize)
    (WorkAreaCurrent atoms root) (KeepsWorkArea atoms root) where
  inv_change _ _ hs _ := ⟨hs.identity, hs.clean⟩
  current_change s c atom _ _ hatom hcurrent := by
    intro hname
    have hother : c.atom ≠ atoms.atom .netWorkarea :=
      fun h => hatom (List.mem_singleton.mpr (hname.trans h.symm))
    have hanswers := answers_apply atoms root s.state.display c (f := .workArea) hother
    have hanswer := (List.cons.inj hanswers).1
    show s.state.client.workarea.get = (workAreaOf ((c.apply root s.state.display).answer _) _).get
    rw [hanswer]
    exact hcurrent hname
  inv_handle _ atom _ hs _ _ := invariant_handle atoms root rootSize hs atom
  current_handle s atom rest other hs hpending hok hrest hother := by
    intro hname
    show (s.state.client.notify atoms s.state.display atom).workarea.get =
      (workAreaOf (s.state.display.answer _)
        (s.state.client.notify atoms s.state.display atom).numberOfDesktops).get
    rw [workArea_notify, numberOfDesktops_notify atoms root rootSize hs]
    by_cases hwork : atom = atoms.atom .netWorkarea
    · rw [if_pos ⟨hwork, hs.asked .workArea⟩, hs.root_eq, if_neg]
      rw [hwork, Atoms.atom_inj]
      exact fun h => nomatch h
    · rw [if_neg fun h => hwork h.1]
      have hcurrent := hother.resolve_left fun h => hwork (h.symm.trans hname)
      rw [hcurrent hname]
      by_cases hnumber : atom = atoms.atom .netNumberOfDesktops
      · -- The areas are not read again: here the condition has to carry them over.
        rw [if_pos hnumber]
        apply workAreaOf_congr
        have hhead : s.pending.head? = some (atoms.atom .netNumberOfDesktops) := by
          rw [hpending, hnumber]
          rfl
        have htail : atoms.atom .netWorkarea ∉ s.pending.tail := by
          rw [hpending, ← hname]
          exact hrest
        exact (hok hhead).resolve_left htail
      · rw [if_neg hnumber]

/-! ### Whole runs -/

theorem current_fresh (display : Display) (atom : XcbAtom) :
    Current atoms root rootSize atom ⟨display, fresh atoms root rootSize display⟩ :=
  fun _ hf _ => seen_fresh atoms root rootSize hf display

theorem workAreaCurrent_fresh (display : Display) (atom : XcbAtom) :
    WorkAreaCurrent atoms root atom ⟨display, fresh atoms root rootSize display⟩ :=
  fun _ => congrArg NETRArray.get (workArea_fresh atoms root rootSize display)

-- All but the work areas agree in any case.
theorem others_converge (display : Display) (waiting : List XcbAtom)
    {es : List (Notified.Event Change)}
    (hpending : (run (system atoms root).step (start atoms root rootSize display waiting) es).1.pending = [])
    {f : Followed} (hf : f ≠ .workArea) :
    f.seen (run (system atoms root).step (start atoms root rootSize display waiting) es).1.state.client =
      f.seen (fresh atoms root rootSize
        (run (system atoms root).step (start atoms root rootSize display waiting) es).1.state.display) := by
  rw [seen_fresh atoms root rootSize hf]
  apply (keeps_others atoms root rootSize).run_settled _ (along_true _ _) hpending _ f hf rfl
  exact ⟨invariant_fresh atoms root rootSize display,
    fun atom => .inr (current_fresh atoms root rootSize display atom)⟩

theorem desktopValues_congr {p q : NETRootInfo} (hidentity : p.identity = q.identity)
    (h : ∀ f : Followed, f.seen p = f.seen q) : desktopValues p = desktopValues q := by
  have hsize : p.rootSize = q.rootSize := congrArg Identity.rootSize hidentity
  have hnumber : p.numberOfDesktops = q.numberOfDesktops := h .numberOfDesktops
  have hcurrent : p.currentDesktop = q.currentDesktop := h .currentDesktop
  have hgeometry : p.geometry = q.geometry := h .desktopGeometry
  have hviewport : p.viewport.get = q.viewport.get := h .desktopViewport
  have hnames : p.desktopNames.get = q.desktopNames.get := h .desktopNames
  have hactive : p.active = q.active := h .activeWindow
  have hareas : p.workarea.get = q.workarea.get := h .workArea
  unfold desktopValues getNumberOfDesktops getCurrentDesktop NETRootInfo.desktopGeometry
    NETRootInfo.desktopViewport NETRootInfo.workArea NETRootInfo.desktopName
  rw [hsize, hnumber, hcurrent, hgeometry, hviewport, hnames, hactive, hareas]

/-- With every notification handled, the client has what one that is constructed then has. -/
theorem converges (display : Display) (waiting : List XcbAtom) {es : List (Notified.Event Change)}
    (hok : Along (system atoms root).step (KeepsWorkArea atoms root)
      (start atoms root rootSize display waiting) es)
    (hpending : (run (system atoms root).step (start atoms root rootSize display waiting) es).1.pending = []) :
    desktopValues
        (run (system atoms root).step (start atoms root rootSize display waiting) es).1.state.client =
      desktopValues (fresh atoms root rootSize
        (run (system atoms root).step (start atoms root rootSize display waiting) es).1.state.display) := by
  have hothers := fun (f : Followed) (hf : f ≠ .workArea) =>
    others_converge atoms root rootSize display waiting hpending hf
  have hstart : Invariant root rootSize (start atoms root rootSize display waiting).state ∧
      ∀ atom, atom ∈ waiting ∨ WorkAreaCurrent atoms root atom _ :=
    ⟨invariant_fresh atoms root rootSize display,
      fun atom => .inr (workAreaCurrent_fresh atoms root rootSize display atom)⟩
  have hkeeps := keeps_workArea atoms root rootSize
  have hinvariant := (hkeeps.run_current hstart hok).1
  have hareas := hkeeps.run_settled hstart hok hpending (atoms.atom .netWorkarea) rfl
  generalize (run (system atoms root).step (start atoms root rootSize display waiting) es).1.state = s at *
  apply desktopValues_congr
  · exact hinvariant.identity.trans (invariant_fresh atoms root rootSize s.display).identity.symm
  · intro f
    by_cases hf : f = .workArea
    · subst hf
      show s.client.workarea.get = (fresh atoms root rootSize s.display).workarea.get
      have hnumber : s.client.numberOfDesktops = (fresh atoms root rootSize s.display).numberOfDesktops :=
        hothers .numberOfDesktops (fun h => nomatch h)
      rw [hareas, workArea_fresh, hnumber]
    · exact hothers f hf

end Follow

/-! A second desktop is added, and the work areas are written first or last. -/

def cardinals (name : KwsAtom) (words : List UInt32) : Change :=
  ⟨Atoms.inOrder.atom name, some ⟨.cardinal, .data32 words⟩⟩

def oneDesktop : List (Notified.Event Change) :=
  [.change (cardinals .netNumberOfDesktops [1]), .handle,
    .change (cardinals .netWorkarea [0, 0, 800, 570]), .handle]

def twoAreas : Change := cardinals .netWorkarea [0, 0, 800, 570, 0, 0, 800, 570]

def exampleStart : Notified.State Following XcbAtom :=
  start Atoms.inOrder 1 ⟨800, 600⟩ (fun _ _ => none) []

def after (es : List (Notified.Event Change)) : Notified.State Following XcbAtom :=
  (run (system Atoms.inOrder 1).step exampleStart (oneDesktop ++ es)).1

theorem areasLast_converge :
    desktopValues (after [.change (cardinals .netNumberOfDesktops [2]), .change twoAreas, .handle,
        .handle]).state.client =
      desktopValues (fresh Atoms.inOrder 1 ⟨800, 600⟩ (after
        [.change (cardinals .netNumberOfDesktops [2]), .change twoAreas, .handle, .handle]).state.display) :=
  converges Atoms.inOrder 1 ⟨800, 600⟩ (fun _ _ => none) [] (by decide +kernel) (by decide +kernel)

/-- The work areas of two desktops are given up for the one that the client knows of. -/
theorem areasFirst_lost :
    (after [.change twoAreas, .change (cardinals .netNumberOfDesktops [2]), .handle,
        .handle]).pending = [] ∧
      (desktopValues (after [.change twoAreas, .change (cardinals .netNumberOfDesktops [2]), .handle,
        .handle]).state.client).workArea 1 ≠
      (desktopValues (fresh Atoms.inOrder 1 ⟨800, 600⟩ (after [.change twoAreas,
        .change (cardinals .netNumberOfDesktops [2]), .handle, .handle]).state.display)).workArea 1 := by
  decide +kernel

end Following

end NETRootInfo

end KWindowSystem
