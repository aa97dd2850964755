import KWindowSystem.NetWM.RootSetters

/-!
# What is read of the root window

The parts of a `NETRootInfo` as their getters show them.  But for the work areas and the name of the window
manager, what a branch of `update` reads depends on the display alone (`seen_read`), and what was written by a
setter is read as it was (`says_written`): the lists of windows sorted or not, the viewports of as many
desktops as there were at the call.
-/

open Qt

namespace KWindowSystem

open NET

namespace NETRootInfo

namespace Branch

/-- The arrays as their elements, and the windows without their count. -/
def Seen : Branch → Type
  | .desktopViewport => Nat → NETPoint
  | .clientList => WindowArray
  | b => b.Owned

def view : (b : Branch) → b.Owned → b.Seen
  | .desktopViewport, v => v.get
  | .clientList, v => v.1
  | .supported, v | .clientListStacking, v | .numberOfDesktops, v | .desktopGeometry, v | .currentDesktop, v
  | .desktopNames, v | .activeWindow, v | .workArea, v | .supportingWMCheck, v | .virtualRoots, v
  | .desktopLayout, v | .showingDesktop, v | .wmName, v => v

def seen (b : Branch) (p : NETRootInfo) : b.Seen := b.view (b.owned p)

section Read

variable (atoms : Atoms) (display : Display)

/-- What the branch would read now. -/
def now (b : Branch) (p : NETRootInfo) : b.Seen :=
  b.seen (b.read atoms display ((b.requests atoms p.root).map display.answer) p).1

-- What is read does not depend on what was there.
theorem seen_read {b : Branch} (hwork : b ≠ .workArea) (hname : b ≠ .wmName) (replies : List Reply)
    {p q : NETRootInfo} (hsize : p.rootSize = q.rootSize) (hp : p.viewport.Clean) (hq : q.viewport.Clean) :
    b.seen (b.read atoms display replies p).1 = b.seen (b.read atoms display replies q).1 := by
  cases b with
  | supported =>
      show supportedFlags (List.foldl _ _ _) = supportedFlags (List.foldl _ _ _)
      apply supported_foldl
      rfl
  | clientList =>
      show (storeClients p _).clients = (storeClients q _).clients
      unfold storeClients
      dsimp only
      split <;> rfl
  | desktopGeometry =>
      simp only [Branch.read, Branch.seen, Branch.view, Branch.owned]
      split
      · rfl
      · exact hsize
  | desktopViewport =>
      funext i
      show ((p.viewport.zero p.viewport.size).setFrom 0 _).get i =
        ((q.viewport.zero q.viewport.size).setFrom 0 _).get i
      rw [NETRArray.get_setFrom, NETRArray.get_setFrom, NETRArray.get_zero hp, NETRArray.get_zero hq]
  | desktopLayout =>
      simp only [Branch.read, Branch.seen, Branch.view, Branch.owned]
      split <;> split <;> rfl
  | workArea => exact absurd rfl hwork
  | wmName => exact absurd rfl hname
  | _ => rfl

theorem now_congr {b : Branch} (hwork : b ≠ .workArea) (hname : b ≠ .wmName) {p q : NETRootInfo}
    (hidentity : p.identity = q.identity) (hp : p.viewport.Clean) (hq : q.viewport.Clean) :
    b.now atoms display p = b.now atoms display q := by
  have hroot : p.root = q.root := congrArg Identity.root hidentity
  have hsize : p.rootSize = q.rootSize := congrArg Identity.rootSize hidentity
  unfold now
  rw [hroot]
  exact seen_read atoms display hwork hname _ hsize hp hq

-- A notification of its property makes the object read what is there now.
theorem seen_notify {b : Branch} (hwork : b ≠ .workArea) (hname : b ≠ .wmName) {p : NETRootInfo}
    (hasked : b.asked p = true) (atom : XcbAtom) :
    b.seen (p.notify atoms display atom) =
      if atom = atoms.atom b.name then b.now atoms display p else b.seen p := by
  unfold seen now
  rw [owned_notify atoms display hwork hname]
  by_cases h : atom = atoms.atom b.name
  · rw [if_pos ⟨h, hasked⟩, if_pos h]
    rfl
  · rw [if_neg fun hboth => h hboth.1, if_neg h]

-- An update that asks for all that the object was constructed for reads it.
theorem seen_update {b : Branch} (hwork : b ≠ .workArea) (hname : b ≠ .wmName) {p : NETRootInfo}
    (hasked : b.asked p = true) :
    b.seen (p.update atoms display p.clientProperties p.clientProperties2).1 = b.now atoms display p := by
  have hwanted : b.wanted (p.clientProperties &&& p.clientProperties)
      (p.clientProperties2 &&& p.clientProperties2) = true := by
    rw [wanted_and]
    exact Bool.and_self _ ▸ hasked
  unfold seen now
  rw [owned_update atoms display hwork hname]
  unfold stepOwned
  rw [if_pos hwanted]
  rfl

theorem clean_update {p : NETRootInfo} (hp : p.viewport.Clean) (properties properties2 : Flags) :
    (p.update atoms display properties properties2).1.viewport.Clean := by
  have h := owned_update atoms display (b := .desktopViewport) (by decide) (by decide)
    p properties properties2
  replace h : (p.update atoms display properties properties2).1.viewport = _ := h
  rw [h]
  unfold stepOwned
  split
  · exact NETRArray.clean_setFrom (NETRArray.clean_setFrom hp _ _) _ _
  · exact hp

-- What is read of a property does not depend on the others.
theorem now_apply {b : Branch} (root : XcbWindow) {p : NETRootInfo} {c : Change}
    (hatom : c.atom ≠ atoms.atom b.name) (hname : b ≠ .wmName) :
    b.now atoms (c.apply root display) p = b.now atoms display p := by
  have hanswers : (b.requests atoms p.root).map (c.apply root display).answer =
      (b.requests atoms p.root).map display.answer := by
    apply List.map_congr_left
    intro request hrequest
    have hproperty : request.property = atoms.atom b.name := by
      cases b <;> first | exact absurd rfl hname | (rw [List.mem_singleton.mp hrequest]; rfl)
    have happly : c.apply root display request.window request.property =
        display request.window request.property := by
      unfold Change.apply
      split
      · rw [Function.update_of_ne]
        rw [hproperty]
        exact Ne.symm hatom
      · rfl
    unfold Display.answer
    rw [happly]
  unfold now
  rw [hanswers]
  cases b <;> first | rfl | exact absurd rfl hname

end Read

end Branch

/-! ## What was written -/

theorem viewportWords_eq (viewport : NETRArray NETPoint) (n : Nat) :
    viewportWords viewport n = (viewport.readTo n, (List.range n).flatMap fun d =>
      [(viewport.get d).x.toUInt32, (viewport.get d).y.toUInt32]) := by
  unfold viewportWords
  induction n with
  | zero => rfl
  | succ n ih =>
      have hget := NETRArray.get_readTo viewport n n
      have hread : viewport.readTo (n + 1) = (viewport.readTo n).touch n := by
        unfold NETRArray.readTo
        rw [List.range_succ, List.foldl_append, List.foldl_cons, List.foldl_nil]
      rw [List.range_succ, List.foldl_append, ih, List.flatMap_append, List.flatMap_singleton, hread]
      dsimp only [List.foldl_cons, List.foldl_nil]
      rw [hget]

-- The points come back, as far as they are read.
theorem points_take (f : Nat → NETPoint) (ds : List Nat) (k : Nat) :
    points ((ds.flatMap fun d => [(f d).x.toUInt32, (f d).y.toUInt32]).take (2 * k)) =
      (ds.map f).take k := by
  induction ds generalizing k with
  | nil =>
      rw [List.flatMap_nil, List.take_nil, List.map_nil, List.take_nil]
      rfl
  | cons d ds ih =>
      cases k with
      | zero => rfl
      | succ k =>
          rw [List.flatMap_cons, List.map_cons, List.take_succ_cons, ← ih]
          show points ((_ :: _ :: _).take (2 * k + 1 + 1)) = _
          rw [List.take_succ_cons, List.take_succ_cons, points, Int32.toInt32_toUInt32, Int32.toInt32_toUInt32]
          rfl

/-- The viewports that a client finds when there are `numberOfDesktops` of them. -/
def shownViewport (viewport : Nat → NETPoint) (numberOfDesktops : Int32) : Nat → NETPoint := fun i =>
  if i < numberOfDesktops.toInt.toNat ∧ i < maxPropSize / 2 then viewport i else default

/-- What everybody reads in the part of a branch. -/
def Says (atoms : Atoms) (root : XcbWindow) (display : Display) (b : Branch) (v : b.Seen) : Prop :=
  ∀ p : NETRootInfo, p.root = root → p.viewport.Clean → b.now atoms display p = v

section Says

variable (atoms : Atoms) (root : XcbWindow) (display : Display)

theorem answer_written (name : KwsAtom) (type : XcbAtom) (data : PropertyData) (longLength : Nat) :
    ((Change.mk (atoms.atom name) (some ⟨type, data⟩)).apply root display).answer
        ⟨root, atoms.atom name, type, longLength⟩ = some ⟨type, data.take longLength⟩ := by
  unfold Display.answer Change.apply
  dsimp only
  rw [if_pos rfl, Function.update_self]
  unfold getProperty
  rw [Option.map_some, if_pos (.inr rfl)]

/-- A property of the root window replaced by words, as `changeRoot` does it. -/
def written (name : KwsAtom) (type : XcbAtom) (words : List UInt32) : Display :=
  (Change.mk (atoms.atom name) (some ⟨type, .data32 words⟩)).apply root display

theorem says_numberOfDesktops (n : Int32) :
    Says atoms root (written atoms root display .netNumberOfDesktops .cardinal [n.toUInt32])
      .numberOfDesktops n := by
  intro p hroot _
  show (getValueReply (Display.answer _ ⟨p.root, _, .cardinal, 1⟩) .cardinal 0).toInt32 = n
  rw [hroot, written, answer_written]
  exact Int32.toInt32_toUInt32 n

theorem says_currentDesktop (desktop : Int32) :
    Says atoms root (written atoms root display .netCurrentDesktop .cardinal [(desktop - 1).toUInt32])
      .currentDesktop desktop := by
  intro p hroot _
  show (getValueReply (Display.answer _ ⟨p.root, _, .cardinal, 1⟩) .cardinal 0 + 1).toInt32 = desktop
  rw [hroot, written, answer_written]
  exact Desktop.currentDesktop_word desktop

theorem says_desktopGeometry (geometry : NETSize) :
    Says atoms root (written atoms root display .netDesktopGeometry .cardinal
      [geometry.width.toUInt32, geometry.height.toUInt32]) .desktopGeometry geometry := by
  intro p hroot _
  show (Branch.desktopGeometry.read atoms _ [Display.answer _ ⟨p.root, _, .cardinal, 2⟩] p).1.geometry =
    geometry
  rw [hroot, written, answer_written]
  show (⟨geometry.width.toUInt32.toInt32, geometry.height.toUInt32.toInt32⟩ : NETSize) = geometry
  rw [Int32.toInt32_toUInt32, Int32.toInt32_toUInt32]

theorem says_desktopViewport (viewport : NETRArray NETPoint) (numberOfDesktops : Int32) :
    Says atoms root (written atoms root display .netDesktopViewport .cardinal
      (viewportWords viewport numberOfDesktops.toInt.toNat).2) .desktopViewport
      (shownViewport viewport.get numberOfDesktops) := by
  intro p hroot hclean
  funext i
  show ((p.viewport.zero p.viewport.size).setFrom 0 (points (getArrayReply
    (Display.answer _ ⟨p.root, _, .cardinal, maxPropSize⟩) .cardinal))).get i = _
  rw [hroot, written, answer_written]
  show ((p.viewport.zero p.viewport.size).setFrom 0 (points (List.take maxPropSize _))).get i = _
  rw [viewportWords_eq, show maxPropSize = 2 * (maxPropSize / 2) from rfl, points_take,
    NETRArray.get_setFrom, NETRArray.get_zero hclean]
  unfold shownViewport
  rw [List.length_take, List.length_map, List.length_range, Nat.sub_zero, Nat.zero_add]
  by_cases h : i < numberOfDesktops.toInt.toNat ∧ i < maxPropSize / 2
  · rw [if_pos ⟨Nat.zero_le i, by omega⟩, if_pos h, List.getD_eq_getElem?_getD, List.getElem?_take_of_lt h.2,
      List.getElem?_map, List.getElem?_range h.1]
    rfl
  · rw [if_neg (by omega), if_neg h]

theorem says_activeWindow (window : XcbWindow) :
    Says atoms root (written atoms root display .netActiveWindow .window [window]) .activeWindow window := by
  intro p hroot _
  show getValueReply (Display.answer _ ⟨p.root, _, .window, 1⟩) .window 0 = window
  rw [hroot, written, answer_written]
  rfl

theorem says_showingDesktop (showing : Bool) :
    Says atoms root (written atoms root display .netShowingDesktop .cardinal [if showing then 1 else 0])
      .showingDesktop showing := by
  intro p hroot _
  show decide (getValueReply (Display.answer _ ⟨p.root, _, .cardinal, 1⟩) .cardinal 0 ≠ 0) = showing
  rw [hroot, written, answer_written]
  cases showing <;> rfl

theorem says_desktopLayout (orientation : Orientation) (columns rows : Int32) (corner : DesktopLayoutCorner) :
    Says atoms root (written atoms root display .netDesktopLayout .cardinal
      [orientation.value, columns.toUInt32, rows.toUInt32, corner.value]) .desktopLayout
      ((orientation, corner), columns, rows) := by
  intro p hroot _
  show Branch.desktopLayout.owned (Branch.desktopLayout.read atoms _
    [Display.answer _ ⟨p.root, _, .cardinal, maxPropSize⟩] p).1 = _
  rw [hroot, written, answer_written]
  show ((_, _), columns.toUInt32.toInt32, rows.toUInt32.toInt32) = _
  rw [Int32.toInt32_toUInt32, Int32.toInt32_toUInt32]
  cases orientation <;> cases corner <;> rfl

theorem says_clientList (windows : List XcbWindow) :
    Says atoms root (written atoms root display .netClientList .window windows) .clientList
      (windowArray ((windows.take maxPropSize).insertionSort (· ≤ ·))) := by
  intro p hroot _
  show (storeClients p ((getArrayReply (Display.answer _ ⟨p.root, _, .window, maxPropSize⟩)
    .window).insertionSort (· ≤ ·))).clients = _
  rw [hroot, written, answer_written]
  show (storeClients p ((windows.take maxPropSize).insertionSort (· ≤ ·))).clients = _
  unfold storeClients windowArray
  dsimp only
  split <;> rfl

theorem says_clientListStacking (windows : List XcbWindow) :
    Says atoms root (written atoms root display .netClientListStacking .window windows) .clientListStacking
      (windowArray (windows.take maxPropSize), (windows.take maxPropSize).length) := by
  intro p hroot _
  show (windowArray (getArrayReply (Display.answer _ ⟨p.root, _, .window, maxPropSize⟩) .window),
    (getArrayReply (Display.answer _ ⟨p.root, _, .window, maxPropSize⟩) .window).length) = _
  rw [hroot, written, answer_written]
  rfl

end Says

end NETRootInfo

end KWindowSystem
