import KWindowSystem.Lib.Notified
import KWindowSystem.NetWM.RootCache

/-!
# Window lists of the root window

The three lists that a window manager sets on the root window, and what a client reads of them.  The
stacking order comes back as it was written.  The virtual roots never do, for the reply of type WINDOW is
read as CARDINAL; and the number of clients stays when the list becomes empty.
-/

open Machine

namespace KWindowSystem

open NET

namespace NETRootInfo

/-! ## The window manager's side -/

section Set

variable (atoms : Atoms) (p : NETRootInfo)

/-- `nwindup` makes the kept array, null for no windows. -/
def setClientList (windows : List XcbWindow) : NETRootInfo × Option Change :=
  if p.role ≠ .windowManager then (p, none)
  else
    ({ p with clientsCount := windows.length, clients := windowArray windows },
      some ⟨atoms.atom .netClientList, some ⟨.window, .data32 windows⟩⟩)

def setClientListStacking (windows : List XcbWindow) : NETRootInfo × Option Change :=
  if p.role ≠ .windowManager then (p, none)
  else
    ({ p with stackingCount := windows.length, stacking := windowArray windows },
      some ⟨atoms.atom .netClientListStacking, some ⟨.window, .data32 windows⟩⟩)

def setVirtualRoots (windows : List XcbWindow) : NETRootInfo × Option Change :=
  if p.role ≠ .windowManager then (p, none)
  else
    ({ p with virtualRootsCount := windows.length, virtualRoots := windowArray windows },
      some ⟨atoms.atom .netVirtualRoots, some ⟨.window, .data32 windows⟩⟩)

end Set

/-! ## The three lists -/

inductive RootList where
  | clientList
  | clientListStacking
  | virtualRoots
deriving DecidableEq, Repr

namespace RootList

def property : RootList → Property
  | .clientList => .clientList
  | .clientListStacking => .clientListStacking
  | .virtualRoots => .virtualRoots

/-- The branch of `update` that reads the list. -/
def branch : RootList → Branch
  | .clientList => .clientList
  | .clientListStacking => .clientListStacking
  | .virtualRoots => .virtualRoots

def set : RootList → Atoms → NETRootInfo → List XcbWindow → NETRootInfo × Option Change
  | .clientList => setClientList
  | .clientListStacking => setClientListStacking
  | .virtualRoots => setVirtualRoots

/-- What the getters of the list and of its count return. -/
def get : RootList → NETRootInfo → WindowArray × Nat
  | .clientList, p => (p.clients, p.clientsCount)
  | .clientListStacking, p => (p.stacking, p.stackingCount)
  | .virtualRoots, p => (p.virtualRoots, p.virtualRootsCount)

/-- What a client is to have of a list that was written: only the client list is sorted. -/
def expected : RootList → List XcbWindow → List XcbWindow
  | .clientList, windows => windows.insertionSort (· ≤ ·)
  | _, windows => windows

end RootList

/-- A call of one of the three functions, with a list that one request can read. -/
structure ListCall where
  list : RootList
  windows : List XcbWindow
  fits : windows.length ≤ maxPropSize

/-- A window manager and a client at a display, with the lists that were written last. -/
structure Lists where
  display : Display
  manager : NETRootInfo
  client : NETRootInfo
  written : RootList → Option (List XcbWindow) := fun _ => none

namespace Lists

variable (atoms : Atoms)

def call (s : Lists) (c : ListCall) : Lists :=
  let set := c.list.set atoms s.manager c.windows
  { s with
    manager := set.1
    display := match set.2 with
      | some change => change.apply s.manager.root s.display
      | none => s.display
    written := Function.update s.written c.list (some c.windows) }

/-- The client hears of every property that is set, and reads it when it gets to the notification. -/
def system : Notified.System Lists ListCall RootList RootSignal where
  change s c := (s.call atoms c, [])
  names c := [c.list]
  handle s list :=
    let now := s.client.event atoms s.display (.propertyNotify (atoms.atom list.branch.name))
    ({ s with client := now.1.1 }, now.1.2)

/-- A client is created at the display of a window manager that has made some calls before. -/
def start (manager : NETRootInfo) (display : Display) (rootSize : NETSize)
    (properties properties2 : Flags) (before : List ListCall) : Notified.State Lists RootList :=
  let client := newClient manager.root rootSize properties properties2
  let s := before.foldl (call atoms) { display, manager, client }
  ⟨{ s with client := (client.update atoms s.display properties properties2).1 }, []⟩

/-- The client has the lists that were written last, each with its count. -/
def ReadBack (s : Lists) : Prop :=
  ∀ list windows, s.written list = some windows →
    list.get s.client = (windowArray (list.expected windows), windows.length)

/-- No virtual roots are written, and the client list does not become empty for a client that has
some. -/
def Lossless (s : Notified.State Lists RootList) : Notified.Event ListCall → Prop
  | .change c => c.list = .virtualRoots → c.windows = []
  | .handle => s.pending.head? = some .clientList →
      clientListValue atoms s.state.display s.state.client.root ≠ [] ∨ s.state.client.clientsCount = 0

/-! ## Reading back -/

theorem getArrayReply_written {windows : List XcbWindow} (hlength : windows.length ≤ maxPropSize) :
    getArrayReply (getProperty (some ⟨.window, .data32 windows⟩) .window maxPropSize) .window =
      windows := by
  rw [getArrayReply_getProperty (by decide)]
  show (if XcbAtom.window = XcbAtom.window then windows.take maxPropSize else []) = windows
  rw [if_pos rfl, List.take_of_length_le hlength]

-- What the branch of a list makes of a list that was written.
theorem get_read (list : RootList) {display : Display} {p : NETRootInfo} {windows : List XcbWindow}
    (hdisplay : display p.root (atoms.atom list.branch.name) = some ⟨.window, .data32 windows⟩)
    (hlength : windows.length ≤ maxPropSize) (hroots : list = .virtualRoots → windows = [])
    (hcount : list = .clientList → windows ≠ [] ∨ p.clientsCount = 0) :
    list.get (list.branch.read atoms display ((list.branch.requests atoms p.root).map display.answer)
      p).1 = (windowArray (list.expected windows), windows.length) := by
  have hanswer : display.answer ⟨p.root, atoms.atom list.branch.name, .window, maxPropSize⟩ =
      getProperty (some ⟨.window, .data32 windows⟩) .window maxPropSize := by
    unfold Display.answer
    rw [hdisplay]
  have hreply := getArrayReply_written hlength
  cases list with
  | clientList =>
      show RootList.clientList.get (updateClientList p (getArrayReply (display.answer
        ⟨p.root, atoms.atom .netClientList, .window, maxPropSize⟩) .window)).1 = _
      rw [show display.answer ⟨p.root, atoms.atom .netClientList, .window, maxPropSize⟩ = _ from hanswer,
        hreply]
      have hsorted : (windows.insertionSort (· ≤ ·)).length = windows.length := List.length_insertionSort _ _
      unfold updateClientList storeClients
      dsimp only
      by_cases hnil : windows = []
      · have hzero := (hcount rfl).resolve_left (not_not.mpr hnil)
        rw [hnil]
        exact Prod.ext rfl hzero
      · have hne : windows.insertionSort (· ≤ ·) ≠ [] := by
          intro h
          rw [h] at hsorted
          exact hnil (List.length_eq_zero_iff.mp hsorted.symm)
        rw [if_neg hne]
        show (some _, _) = (windowArray (windows.insertionSort (· ≤ ·)), windows.length)
        unfold windowArray
        rw [if_neg hne, hsorted]
  | clientListStacking =>
      show (windowArray (getArrayReply (display.answer
          ⟨p.root, atoms.atom .netClientListStacking, .window, maxPropSize⟩) .window),
        (getArrayReply (display.answer
          ⟨p.root, atoms.atom .netClientListStacking, .window, maxPropSize⟩) .window).length) = _
      rw [show display.answer ⟨p.root, atoms.atom .netClientListStacking, .window, maxPropSize⟩ = _
        from hanswer, hreply]
      rfl
  | virtualRoots =>
      -- The reply has the type WINDOW, so that nothing is read of it.
      rw [hroots rfl] at hdisplay ⊢
      show (windowArray (getArrayReply (display.answer ⟨p.root, atoms.atom .netVirtualRoots, .window, 1⟩)
        .cardinal), (getArrayReply (display.answer
          ⟨p.root, atoms.atom .netVirtualRoots, .window, 1⟩) .cardinal).length) = _
      unfold Display.answer
      rw [show display p.root (atoms.atom .netVirtualRoots) = _ from hdisplay]
      rfl

/-! ## Runs -/

/-- What holds of the two objects and the display all along. -/
structure Invariant (s : Lists) : Prop where
  manager : s.manager.role = .windowManager
  root : s.client.root = s.manager.root
  asked : ∀ list : RootList, list.branch.asked s.client = true
  written : ∀ list windows, s.written list = some windows →
    s.display s.manager.root (atoms.atom list.branch.name) = some ⟨.window, .data32 windows⟩ ∧
      windows.length ≤ maxPropSize
  roots : ∀ windows, s.written .virtualRoots = some windows → windows = []

/-- The client has the list that was written last. -/
def Current (list : RootList) (s : Lists) : Prop :=
  ∀ windows, s.written list = some windows →
    list.get s.client = (windowArray (list.expected windows), windows.length)

theorem set_spec (list : RootList) {p : NETRootInfo} (hp : p.role = .windowManager)
    (windows : List XcbWindow) :
    (list.set atoms p windows).1.role = .windowManager ∧ (list.set atoms p windows).1.root = p.root ∧
      (list.set atoms p windows).2 =
        some ⟨atoms.atom list.branch.name, some ⟨.window, .data32 windows⟩⟩ := by
  cases list with
  | clientList => simp [RootList.set, setClientList, RootList.branch, Branch.name, hp]
  | clientListStacking => simp [RootList.set, setClientListStacking, RootList.branch, Branch.name, hp]
  | virtualRoots => simp [RootList.set, setVirtualRoots, RootList.branch, Branch.name, hp]

theorem name_injective {a b : RootList} (h : a.branch.name = b.branch.name) : a = b := by
  cases a <;> cases b <;> first | rfl | exact nomatch h

theorem Invariant.call {s : Lists} (hs : s.Invariant atoms) {c : ListCall}
    (hroots : c.list = .virtualRoots → c.windows = []) : (s.call atoms c).Invariant atoms := by
  have hset := set_spec atoms c.list hs.manager c.windows
  have hdisplay : (s.call atoms c).display = Change.apply
      ⟨atoms.atom c.list.branch.name, some ⟨.window, .data32 c.windows⟩⟩ s.manager.root s.display := by
    unfold Lists.call
    dsimp only
    rw [hset.2.2]
  have hroot : (s.call atoms c).manager.root = s.manager.root := hset.2.1
  exact
    { manager := hset.1
      root := hs.root.trans hroot.symm
      asked := hs.asked
      written := fun list windows h => by
        rw [hroot, hdisplay]
        unfold Change.apply
        rw [if_pos rfl]
        by_cases hlist : list = c.list
        · have heq : c.windows = windows := by
            have h : Function.update s.written c.list (some c.windows) list = some windows := h
            rw [hlist, Function.update_self] at h
            exact Option.some.inj h
          rw [hlist, Function.update_self, heq]
          exact ⟨rfl, heq ▸ c.fits⟩
        · have h : Function.update s.written c.list (some c.windows) list = some windows := h
          rw [Function.update_of_ne hlist] at h
          rw [Function.update_of_ne (fun hname => hlist (name_injective (atoms.injective hname)))]
          exact hs.written list windows h
      roots := fun windows h => by
        have h : Function.update s.written c.list (some c.windows) .virtualRoots = some windows := h
        by_cases hlist : RootList.virtualRoots = c.list
        · rw [← hlist, Function.update_self] at h
          rw [← Option.some.inj h]
          exact hroots hlist.symm
        · rw [Function.update_of_ne hlist] at h
          exact hs.roots windows h }

theorem get_eq_owned (list : RootList) (p q : NETRootInfo)
    (h : list.branch.owned p = list.branch.owned q) : list.get p = list.get q := by
  cases list <;> exact h

-- What the client makes of the notification of a list.
theorem get_notify {s : Lists} (hs : s.Invariant atoms) (list other : RootList) :
    list.get (s.client.notify atoms s.display (atoms.atom other.branch.name)) =
      if list = other then
        list.get (list.branch.read atoms s.display
          ((list.branch.requests atoms s.client.root).map s.display.answer) s.client).1
      else list.get s.client := by
  have hwork : list.branch ≠ .workArea := by cases list <;> exact fun h => nomatch h
  have hname : list.branch ≠ .wmName := by cases list <;> exact fun h => nomatch h
  have hnotify := owned_notify atoms s.display hwork hname s.client (atoms.atom other.branch.name)
  by_cases h : list = other
  · rw [if_pos h]
    rw [if_pos ⟨by rw [h], hs.asked list⟩] at hnotify
    exact get_eq_owned list _ _ hnotify
  · rw [if_neg h]
    rw [if_neg (by
      intro hatom
      exact h (name_injective (atoms.injective hatom.1.symm)))] at hnotify
    exact get_eq_owned list _ _ hnotify

theorem client_handle {s : Lists} (list : RootList) :
    ((system atoms).handle s list).1 =
      { s with client := s.client.notify atoms s.display (atoms.atom list.branch.name) } := rfl

theorem Invariant.handle {s : Lists} (hs : s.Invariant atoms) (list : RootList) :
    ((system atoms).handle s list).1.Invariant atoms := by
  have hidentity := identity_notify atoms s.display s.client (atoms.atom list.branch.name)
  rw [client_handle]
  exact
    { manager := hs.manager
      root := (congrArg Identity.root hidentity).trans hs.root
      asked := fun list' => by
        have h1 := congrArg Identity.clientProperties hidentity
        have h2 := congrArg Identity.clientProperties2 hidentity
        have hasked := hs.asked list'
        unfold Branch.asked at hasked ⊢
        simp only [identity] at h1 h2
        rw [h1, h2]
        exact hasked
      written := hs.written
      roots := hs.roots }

theorem keeps : Notified.Keeps (system atoms) (Invariant atoms) Current (Lossless atoms) where
  inv_change s c hs hok := hs.call atoms hok
  current_change s c list hs hok hlist hcurrent := by
    intro windows h
    have h : Function.update s.state.written c.list (some c.windows) list = some windows := h
    rw [Function.update_of_ne (fun heq => hlist (by rw [heq]; exact List.mem_singleton_self _))] at h
    exact hcurrent windows h
  inv_handle s list rest hs hpending hok := hs.handle atoms list
  current_handle s list rest other hs hpending hok hrest hor := by
    intro windows h
    rw [client_handle]
    have hnotify := get_notify atoms hs other list
    refine Eq.trans hnotify ?_
    by_cases heq : other = list
    · rw [if_pos heq]
      have hwritten := hs.written other windows h
      rw [← hs.root] at hwritten
      apply get_read atoms other hwritten.1 hwritten.2
      · intro hroots
        exact hs.roots windows (hroots ▸ h)
      · intro hclients
        have hfirst : s.pending.head? = some .clientList := by
          rw [hpending, ← heq, hclients]
          rfl
        rcases hok hfirst with hvalue | hcount
        · left
          intro hnil
          rw [hclients, hnil] at hwritten
          apply hvalue
          unfold clientListValue
          rw [show s.state.display s.state.client.root (atoms.atom .netClientList) = _ from hwritten.1]
          rfl
        · exact .inr hcount
    · rw [if_neg heq]
      exact (hor.resolve_left heq) windows h

theorem foldl_call {s : Lists} (hs : s.Invariant atoms) {before : List ListCall}
    (hbefore : ∀ c ∈ before, c.list = .virtualRoots → c.windows = []) :
    (before.foldl (call atoms) s).Invariant atoms ∧
      (before.foldl (call atoms) s).client = s.client := by
  induction before generalizing s with
  | nil => exact ⟨hs, rfl⟩
  | cons c before ih =>
      rw [List.foldl_cons]
      exact ih (hs.call atoms (hbefore c List.mem_cons_self)) fun c hc =>
        hbefore c (List.mem_cons_of_mem _ hc)

-- The client that has just been created has every list.
theorem start_current {manager : NETRootInfo} (hmanager : manager.role = .windowManager)
    (display : Display) (rootSize : NETSize) (properties properties2 : Flags)
    (hasks : ∀ list : RootList, properties.has list.property = true) (before : List ListCall)
    (hbefore : ∀ c ∈ before, c.list = .virtualRoots → c.windows = []) :
    (start atoms manager display rootSize properties properties2 before).state.Invariant atoms ∧
      ∀ list, Current list (start atoms manager display rootSize properties properties2 before).state := by
  let client := newClient manager.root rootSize properties properties2
  have hasked : ∀ list : RootList, list.branch.asked client = true := by
    intro list
    cases list with
    | clientList => exact hasks .clientList
    | clientListStacking => exact hasks .clientListStacking
    | virtualRoots => exact hasks .virtualRoots
  have hfirst : Invariant atoms { display, manager, client } :=
    { manager := hmanager
      root := rfl
      asked := hasked
      written := fun _ _ h => nomatch h
      roots := fun _ h => nomatch h }
  have hfold := foldl_call atoms hfirst hbefore
  unfold start
  dsimp only
  generalize before.foldl (call atoms) { display, manager, client } = s at hfold
  have hclient : s.client = client := hfold.2
  have hs := hfold.1
  have hidentity := identity_update atoms s.display client properties properties2
  apply And.intro
  · exact
      { manager := hs.manager
        root := by
          have hroot := hs.root
          rw [hclient] at hroot
          exact (congrArg Identity.root hidentity).trans hroot
        asked := fun list => by
          have h1 := congrArg Identity.clientProperties hidentity
          have h2 := congrArg Identity.clientProperties2 hidentity
          have hlist := hasked list
          unfold Branch.asked at hlist ⊢
          simp only [identity] at h1 h2
          rw [h1, h2]
          exact hlist
        written := hs.written
        roots := hs.roots }
  · intro list windows h
    have hwritten := hs.written list windows h
    rw [← hs.root, hclient] at hwritten
    have hwork : list.branch ≠ .workArea := by cases list <;> exact fun h => nomatch h
    have hname : list.branch ≠ .wmName := by cases list <;> exact fun h => nomatch h
    have hupdate := owned_update atoms s.display hwork hname client properties properties2
    unfold stepOwned at hupdate
    rw [if_pos (by rw [wanted_and]; exact Bool.and_eq_true_iff.mpr ⟨hasked list, hasked list⟩)] at hupdate
    refine Eq.trans (get_eq_owned list _ _ hupdate) ?_
    apply get_read atoms list hwritten.1 hwritten.2
    · intro hroots
      exact hs.roots windows (hroots ▸ h)
    · exact fun _ => .inr rfl

/-- When all notifications are handled, a client has the lists that the window manager wrote last. -/
theorem lists_readBack {manager : NETRootInfo} (hmanager : manager.role = .windowManager)
    (display : Display) (rootSize : NETSize) (properties properties2 : Flags)
    (hasks : ∀ list : RootList, properties.has list.property = true) (before : List ListCall)
    (hbefore : ∀ c ∈ before, c.list = .virtualRoots → c.windows = [])
    {es : List (Notified.Event ListCall)}
    (hok : Along (system atoms).step (Lossless atoms)
      (start atoms manager display rootSize properties properties2 before) es)
    (hpending : (run (system atoms).step
      (start atoms manager display rootSize properties properties2 before) es).1.pending = []) :
    ReadBack (run (system atoms).step
      (start atoms manager display rootSize properties properties2 before) es).1.state := by
  have hstart := start_current atoms hmanager display rootSize properties properties2 hasks before
    hbefore
  intro list
  exact (keeps atoms).run_settled ⟨hstart.1, fun list => .inr (hstart.2 list)⟩ hok hpending list

/-! A client that keeps the three lists of a display on which nothing is set yet. -/

def exampleManager : NETRootInfo :=
  { role := .windowManager, root := 1, clientProperties := 0, clientProperties2 := 0 }

def exampleStart : Notified.State Lists RootList :=
  start Atoms.inOrder exampleManager (fun _ _ => none) ⟨800, 600⟩
    (mask Property.clientList ||| mask Property.clientListStacking ||| mask Property.virtualRoots) 0 []

def twoWindows (list : RootList) : ListCall := ⟨list, [9, 5], by decide⟩

theorem stacking_readBack : ReadBack (run (system Atoms.inOrder).step exampleStart
    [.change (twoWindows .clientListStacking), .handle]).1.state :=
  lists_readBack Atoms.inOrder rfl _ _ _ _ (by intro list; cases list <;> decide) []
    (fun _ h => nomatch h) ⟨(fun h => nomatch h), (fun h => nomatch h), trivial⟩ rfl

/-- The virtual roots do not come back, and neither does the number of no clients. -/
theorem virtualRoots_lost :
    ¬ReadBack (run (system Atoms.inOrder).step exampleStart
        [.change (twoWindows .virtualRoots), .handle]).1.state ∧
      ¬ReadBack (run (system Atoms.inOrder).step exampleStart
        [.change (twoWindows .clientList), .handle, .change ⟨.clientList, [], by decide⟩,
          .handle]).1.state := by
  apply And.intro
  · intro h
    exact absurd (h .virtualRoots [9, 5] rfl) (by decide +kernel)
  · intro h
    exact absurd (h .clientList [] rfl) (by decide +kernel)

end Lists

end NETRootInfo

end KWindowSystem
