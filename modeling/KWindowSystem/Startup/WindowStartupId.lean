import KWindowSystem.NetWM.WinCache
import KWindowSystem.Startup.Tracker

/-!
# The startup id of a window

`KStartupInfo::windowStartupId` reads two `NETWinInfo` objects, each with the flags it is constructed
with.  The second one, for the group leader, is constructed with none, so that what it has read of the
startup id is nothing.
-/

open Qt

namespace KWindowSystem

namespace KStartupInfo

open NET NETWinInfo

variable (atoms : Atoms) (display : Display) (root window : XcbWindow)

def windowStartupId : CharPtr :=
  let info := NETWinInfo.new atoms display window root 0
    (mask Property2.startupId ||| mask Property2.groupLeader) .client
  let ret := info.startupId
  if ret.getD [] = [] ∧ info.windowGroup ≠ XcbAtom.none then
    -- retry with window group leader, as the spec says
    let groupLeaderInfo := NETWinInfo.new atoms display info.windowGroup root 0 0 .client
    groupLeaderInfo.startupId
  else ret

/-! ## The properties -/

/-- `_NET_STARTUP_ID`, as a text. -/
def startupIdProperty : CharPtr :=
  readString (display.answer ⟨window, atoms.atom .netStartupId, atoms.atom .utf8String, maxPropSize⟩)
    (atoms.atom .utf8String)

/-- The window that the group hint of `WM_HINTS` names. -/
def groupLeader : XcbWindow :=
  match hintsAt (display window .wmHints) with
  | some hints => if hints.has 6 then hints.windowGroup else XcbAtom.none
  | none => XcbAtom.none

/-- The id of the window, or else that of its group leader. -/
def startupIdOf : QByteArray :=
  let own := (startupIdProperty atoms display window).getD []
  let leader := groupLeader display window
  if own ≠ [] then own
  else if leader ≠ XcbAtom.none then (startupIdProperty atoms display leader).getD []
  else []

theorem startupId_new : (NETWinInfo.new atoms display window root 0
    (mask Property2.startupId ||| mask Property2.groupLeader) .client).startupId =
      startupIdProperty atoms display window :=
  get_new atoms .startupId (by decide) display window

theorem windowGroup_new : (NETWinInfo.new atoms display window root 0
    (mask Property2.startupId ||| mask Property2.groupLeader) .client).windowGroup =
      groupLeader display window := by
  let unread : NETWinInfo := unread root 0 (mask Property2.startupId ||| mask Property2.groupLeader) .client window
  have hasked : flagged 0 (mask Property2.startupId ||| mask Property2.groupLeader) Getter.groupLeader.flag = true := by
    decide
  have hread : (Branch.hints.read atoms [display.answer ⟨window, .wmHints, .wmHints, 9⟩] unread).1 =
      match hintsAt (display window .wmHints) with
      | some value => unread.readHints value
      | none => unread := read_hints atoms _ unread
  have hnew : (NETWinInfo.new atoms display window root 0
      (mask Property2.startupId ||| mask Property2.groupLeader) .client).windowGroup =
      (Branch.hints.read atoms [display.answer ⟨window, .wmHints, .wmHints, 9⟩] unread).1.windowGroup :=
    get_new atoms .groupLeader hasked display window
  rw [hnew, hread]
  unfold groupLeader
  cases hintsAt (display window .wmHints) <;> rfl

-- Without flags nothing is read.
theorem startupId_new_unasked : (NETWinInfo.new atoms display window root 0 0 .client).startupId = none := by
  have hupdate := get_update atoms .startupId (unread root 0 0 .client window) display 0 0
  have hunasked : ¬Branch.wanted (dirtyFlags 0 0) (0 &&& 0) .startupId = true := by decide
  exact hupdate.trans (if_neg hunasked)

theorem windowStartupId_eq : windowStartupId atoms display root window =
    if (startupIdProperty atoms display window).getD [] = [] ∧ groupLeader display window ≠ XcbAtom.none then none
    else startupIdProperty atoms display window := by
  unfold windowStartupId
  dsimp only
  rw [startupId_new, windowGroup_new, startupId_new_unasked]

/-- The startup id of a window is the one its properties and those of its group leader say exactly if it
has one of its own, or no group leader, or a group leader without one. -/
theorem windowStartupId_eq_startupIdOf_iff :
    (windowStartupId atoms display root window).getD [] = startupIdOf atoms display window ↔
      (startupIdProperty atoms display window).getD [] ≠ [] ∨ groupLeader display window = XcbAtom.none ∨
        (startupIdProperty atoms display (groupLeader display window)).getD [] = [] := by
  rw [windowStartupId_eq]
  unfold startupIdOf
  dsimp only
  by_cases hown : (startupIdProperty atoms display window).getD [] = []
  · rw [if_neg (not_not.mpr hown)]
    by_cases hleader : groupLeader display window = XcbAtom.none
    · rw [if_neg (fun h => h.2 hleader), if_neg (not_not.mpr hleader)]
      exact iff_of_true hown (.inr (.inl hleader))
    · rw [if_pos ⟨hown, hleader⟩, if_pos hleader]
      show [] = _ ↔ _
      rw [eq_comm, or_iff_right (not_not.mpr hown), or_iff_right hleader]
  · rw [if_neg (fun h => hown h.1), if_pos hown]
    exact iff_of_true rfl (.inl hown)

/-- What the tracker knows of the window's ids. -/
def startupWindow : StartupWindow where
  startupId := startupIdProperty atoms display window
  groupLeader :=
    let leader := groupLeader display window
    if leader ≠ XcbAtom.none then some (startupIdProperty atoms display leader) else none

-- The tracker matches windows by this id.
theorem windowStartupId_startupWindow :
    KWindowSystem.windowStartupId (startupWindow atoms display window) =
      windowStartupId atoms display root window := by
  rw [windowStartupId_eq]
  unfold KWindowSystem.windowStartupId startupWindow
  dsimp only
  by_cases hleader : groupLeader display window = XcbAtom.none
  · rw [if_neg (not_not.mpr hleader), if_neg (fun h => h.2 hleader)]
    rfl
  · rw [if_pos hleader]
    dsimp only [netStartupId]
    by_cases hown : (startupIdProperty atoms display window).getD [] = []
    · simp [hown, hleader]
    · simp [hown]

/-- A window whose group leader alone has a startup id. -/
def ledWindow : Display := fun w atom =>
  if w = 1 ∧ atom = .wmHints then some ⟨.wmHints, .data32 [64, 0, 0, 0, 0, 0, 0, 0, 2]⟩
  else if w = 2 ∧ atom = Atoms.inOrder.atom .netStartupId then
    some ⟨Atoms.inOrder.atom .utf8String, .data8 [0x61]⟩
  else none

-- The id of the leader is not found.
theorem windowStartupId_ledWindow :
    windowStartupId .inOrder ledWindow 3 1 = none ∧ startupIdOf .inOrder ledWindow 1 = [0x61] := by
  rw [windowStartupId_eq]
  decide

end KStartupInfo

end KWindowSystem
