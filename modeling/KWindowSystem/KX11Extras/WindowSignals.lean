import KWindowSystem.NetWM.RootConvergence
import Mathlib.Data.Finset.Dedup
import Mathlib.Data.Finset.Basic

/-!
# The signals about windows

The list of `KX11Extras::windows` and what `windowAdded` and `windowRemoved` tell of it, while the event
filter may be replaced by one that knows more.  The list of the new filter starts out empty, and all
windows are added to it again.
-/

open Machine Qt

namespace KWindowSystem

open NET NETRootInfo

namespace KX11Extras

inductive FilterInfo where
  | infoBasic | infoWindows
deriving DecidableEq, Repr

/-- The signals that `connectNotify` is called for. -/
inductive SignalName where
  | currentDesktopChanged | windowAdded | windowRemoved | activeWindowChanged | desktopNamesChanged
  | numberOfDesktopsChanged | workAreaChanged | strutChanged | stackingOrderChanged | windowChanged
  | compositingChanged
deriving DecidableEq, Repr

def SignalName.needs : SignalName → FilterInfo
  | .workAreaChanged | .strutChanged | .windowChanged => .infoWindows
  | _ => .infoBasic

/-- The X server, and the filter with what it was created for. -/
structure ClientSession where
  display : Display
  what : FilterInfo
  filter : NETEventFilter

namespace ClientSession

section Model

variable (atoms : Atoms) (root : XcbWindow) (rootSize : NETSize) (screens : DisplayGeometry)
  (geometry : XcbWindow → NETRect)

/-- The virtual functions that the filter overrides. -/
def call (display : Display) (filter : NETEventFilter) : RootSignal → NETEventFilter × List Signal
  | .addClient w => addClient atoms root screens display geometry filter w
  | .removeClient w => removeClient atoms root display filter w
  | _ => (filter, [])

/-- A filter that is created and activated. -/
def activated (display : Display) : NETEventFilter × List Signal :=
  let rootInfo := (Following.unread root rootSize).update atoms display windowsProperties
    windowsProperties2
  run (call atoms root screens geometry display) { rootInfo := rootInfo.1 } rootInfo.2

/-- `init`, when there is a filter. -/
def init (s : ClientSession) (what : FilterInfo) : ClientSession × List Signal :=
  if s.what = .infoBasic ∧ what = .infoWindows then
    let filter := activated atoms root rootSize screens geometry s.display
    ({ s with what, filter := filter.1 }, filter.2)
  else (s, [])

def connectNotify (s : ClientSession) (signal : SignalName) : ClientSession × List Signal :=
  let now := init atoms root rootSize screens geometry s signal.needs
  (if signal = .strutChanged then
    { now.1 with filter := { now.1.filter with strutSignalConnected := true } } else now.1, now.2)

/-- `nativeEventFilter` for the change of a property of the root window, up to its signals about
desktops. -/
def propertyNotify (s : ClientSession) (atom : XcbAtom) : ClientSession × List Signal :=
  let handled := (s.filter.rootInfo.event atoms s.display (.propertyNotify atom)).1
  let now := run (call atoms root screens geometry s.display) { s.filter with rootInfo := handled.1 }
    handled.2
  ({ s with filter := now.1 }, now.2)

inductive Event where
  /-- The window manager writes the list of its windows. -/
  | clientList (windows : List XcbWindow) (nodup : windows.Nodup)
  /-- A function asks for a filter. -/
  | init (what : FilterInfo)
  | connectNotify (signal : SignalName)

def clientListChange (windows : List XcbWindow) : Change :=
  ⟨atoms.atom .netClientList, some ⟨.window, .data32 windows⟩⟩

def system : Notified.System ClientSession Event XcbAtom Signal where
  change s
    | .clientList windows _ => ({ s with display := (clientListChange atoms windows).apply root s.display }, [])
    | .init what => init atoms root rootSize screens geometry s what
    | .connectNotify signal => connectNotify atoms root rootSize screens geometry s signal
  names
    | .clientList _ _ => [atoms.atom .netClientList]
    | _ => []
  handle := propertyNotify atoms root screens geometry

/-- The first filter, when notifications may be waiting already. -/
def start (display : Display) (what : FilterInfo) (waiting : List XcbAtom) :
    Notified.State ClientSession XcbAtom :=
  ⟨⟨display, what, (activated atoms root rootSize screens geometry display).1⟩, waiting⟩

end Model

/-- A listener that adds and removes windows; `none` for a window that is there already, or is not
there. -/
def watch (windows : Finset XcbWindow) : Signal → Option (Finset XcbWindow)
  | .windowAdded w => if w ∈ windows then none else some (insert w windows)
  | .windowRemoved w => if w ∈ windows then some (windows.erase w) else none
  | _ => some windows

/-- `KX11Extras::windows`, as a set. -/
def windows (s : Notified.State ClientSession XcbAtom) : Finset XcbWindow := s.state.filter.windows.toFinset

/-- What is asked of the filter. -/
def Event.asks : Event → FilterInfo
  | .clientList _ _ => .infoBasic
  | .init what => what
  | .connectNotify signal => signal.needs

/-- A filter without windows is all that is replaced. -/
def KeepsWindows (s : Notified.State ClientSession XcbAtom) : Notified.Event Event → Prop
  | .change e => s.state.what = .infoBasic → e.asks = .infoWindows → s.state.filter.windows = []
  | .handle => True

/-! ## One call after the other -/

section Calls

variable (atoms : Atoms) (root : XcbWindow) (screens : DisplayGeometry) (geometry : XcbWindow → NETRect)
  (display : Display)

-- A change of the struts is nothing to the listener.
theorem replay_told {view now : Finset XcbWindow} {signal : Signal} (h : watch view signal = some now)
    (c : Bool) (rest : List Signal) :
    replay watch view ((signal :: if c then [.strutChanged] else []) ++ rest) = replay watch now rest := by
  rw [List.cons_append, replay_cons, h]
  cases c <;> rfl

theorem windows_addClient (filter : NETEventFilter) (w : XcbWindow) :
    (call atoms root screens geometry display filter (.addClient w)).1.windows = filter.windows ++ [w] ∧
      (call atoms root screens geometry display filter (.addClient w)).1.rootInfo = filter.rootInfo ∧
      ∃ c : Bool, (call atoms root screens geometry display filter (.addClient w)).2 =
        .windowAdded w :: if c then [.strutChanged] else [] := by
  rcases addClient_keeps atoms root screens display geometry filter w with ⟨hroot, hlist, hsignals⟩
  exact ⟨hlist, hroot, hsignals⟩

theorem windows_removeClient (filter : NETEventFilter) (w : XcbWindow) :
    (call atoms root screens geometry display filter (.removeClient w)).1.windows =
        filter.windows.filter (· ≠ w) ∧
      (call atoms root screens geometry display filter (.removeClient w)).1.rootInfo = filter.rootInfo ∧
      ∃ c : Bool, (call atoms root screens geometry display filter (.removeClient w)).2 =
        .windowRemoved w :: if c then [.strutChanged] else [] :=
  ⟨rfl, rfl, _, rfl⟩

-- The calls lead from the windows of the filter to the new ones, and the listener goes with them.
theorem run_calls (filter : NETEventFilter) {calls : List RootSignal} {now : Multiset XcbWindow}
    (hreports : Reports calls filter.windows now) (hwindows : filter.windows.Nodup) (hnow : now.Nodup) :
    ((run (call atoms root screens geometry display) filter calls).1.windows : Multiset XcbWindow) = now ∧
      (run (call atoms root screens geometry display) filter calls).1.rootInfo = filter.rootInfo ∧
      replay watch filter.windows.toFinset (run (call atoms root screens geometry display) filter calls).2 =
        some (run (call atoms root screens geometry display) filter calls).1.windows.toFinset := by
  induction calls generalizing filter with
  | nil => exact ⟨hreports.eq_of_nil, rfl, rfl⟩
  | cons head calls ih =>
      rw [run_cons]
      rcases hreports.next hwindows hnow with ⟨w, rfl, hw, hrest⟩ | ⟨w, rfl, hw, -, hrest⟩
      · rcases windows_removeClient atoms root screens geometry display filter w with
          ⟨hlist, hroot, c, hout⟩
        generalize call atoms root screens geometry display filter (.removeClient w) = next at *
        have hih := ih next.1 (hlist ▸ hrest) (hlist ▸ hwindows.filter _)
        have hset : next.1.windows.toFinset = filter.windows.toFinset.erase w := by
          ext v
          rw [hlist, List.mem_toFinset, List.mem_filter, Finset.mem_erase, List.mem_toFinset,
            decide_eq_true_iff]
          exact and_comm
        refine ⟨hih.1, hih.2.1.trans hroot, ?_⟩
        have htold : watch filter.windows.toFinset (.windowRemoved w) = some next.1.windows.toFinset := by
          rw [hset]
          exact if_pos (List.mem_toFinset.mpr hw)
        show replay watch _ (next.2 ++ _) = _
        rw [hout, replay_told htold]
        exact hih.2.2
      · rcases windows_addClient atoms root screens geometry display filter w with ⟨hlist, hroot, c, hout⟩
        generalize call atoms root screens geometry display filter (.addClient w) = next at *
        have hih := ih next.1 (hlist ▸ hrest) (hlist ▸ nodup_append_one hwindows hw)
        have hset : next.1.windows.toFinset = insert w filter.windows.toFinset := by
          ext v
          rw [hlist, List.mem_toFinset, List.mem_append, List.mem_singleton, Finset.mem_insert,
            List.mem_toFinset]
          exact or_comm
        refine ⟨hih.1, hih.2.1.trans hroot, ?_⟩
        have htold : watch filter.windows.toFinset (.windowAdded w) = some next.1.windows.toFinset := by
          rw [hset]
          exact if_neg fun h => hw (List.mem_toFinset.mp h)
        show replay watch _ (next.2 ++ _) = _
        rw [hout, replay_told htold]
        exact hih.2.2

-- Of a filter that starts out empty, a listener that has windows already does not get the list.
theorem replay_adds {view now : Finset XcbWindow} (added : List XcbWindow) (filter : NETEventFilter)
    (h : replay watch view (run (call atoms root screens geometry display) filter
      (added.map .addClient)).2 = some now) {w : XcbWindow} (hw : w ∈ view) : w ∈ now ∧ w ∉ added := by
  induction added generalizing view filter with
  | nil =>
      cases h
      exact ⟨hw, List.not_mem_nil⟩
  | cons v added ih =>
      rcases windows_addClient atoms root screens geometry display filter v with ⟨_, _, c, hout⟩
      rw [List.map_cons, run_cons] at h
      dsimp only at h
      rw [hout] at h
      by_cases hv : v ∈ view
      · have hrefused : watch view (.windowAdded v) = none := if_pos hv
        rw [List.cons_append, replay_cons, hrefused] at h
        cases h
      · have htold : watch view (.windowAdded v) = some (insert v view) := if_neg hv
        rw [replay_told htold] at h
        have hrest := ih _ h (Finset.mem_insert_of_mem hw)
        apply And.intro hrest.1
        rw [List.mem_cons, not_or]
        exact ⟨fun heq => hv (heq ▸ hw), hrest.2⟩

end Calls

/-! ## Single steps -/

section Step

variable (atoms : Atoms) (root : XcbWindow) (rootSize : NETSize) (screens : DisplayGeometry)
  (geometry : XcbWindow → NETRect)

/-- The list of the filter is the one that its root information has read. -/
structure Invariant (s : ClientSession) : Prop where
  listed : Listed s.filter.rootInfo s.filter.windows
  nodup : s.filter.windows.Nodup
  root_eq : s.filter.rootInfo.root = root
  display : (clientListValue atoms s.display root).Nodup

-- With no windows before, there are none to be removed.
theorem reports_zero {calls : List RootSignal} {now : Multiset XcbWindow} (h : Reports calls 0 now) :
    ∃ added : List XcbWindow, calls = added.map .addClient ∧ (added : Multiset XcbWindow) = now := by
  rcases h with ⟨removed, added, hcalls, hremoved, hadded⟩
  have hnone : removed = [] := by
    apply List.eq_nil_iff_forall_not_mem.mpr
    intro w hw
    have hcount := hremoved w
    rw [Multiset.count_zero, Nat.zero_sub] at hcount
    exact List.count_eq_zero.mp hcount hw
  refine ⟨added, ?_, ?_⟩
  · rw [hcalls, hnone]
    rfl
  · ext w
    have hcount := hadded w
    rw [Multiset.count_zero, Nat.sub_zero] at hcount
    rw [Multiset.coe_count]
    exact hcount

theorem update_unread (display : Display) :
    Listed ((Following.unread root rootSize).update atoms display windowsProperties windowsProperties2).1
        (clientListValue atoms display root) ∧
      Reports ((Following.unread root rootSize).update atoms display windowsProperties windowsProperties2).2
        0 (clientListValue atoms display root) := by
  have hlisted := newClient_listed root rootSize windowsProperties windowsProperties2
  have hspec := update_listed atoms display hlisted windowsProperties windowsProperties2
  dsimp only at hspec
  rw [if_pos] at hspec
  · exact hspec
  · show (windowsProperties &&& windowsProperties).has Property.clientList = true
    decide

variable {display : Display} (hnodup : (clientListValue atoms display root).Nodup)

include hnodup

theorem invariant_activated (what : FilterInfo) : Invariant atoms root
    ⟨display, what, (activated atoms root rootSize screens geometry display).1⟩ := by
  have hupdate := update_unread atoms root rootSize display
  have hrun := run_calls atoms root screens geometry display
    { rootInfo := ((Following.unread root rootSize).update atoms display windowsProperties
      windowsProperties2).1 } hupdate.2 List.nodup_nil (Multiset.coe_nodup.mpr hnodup)
  have hroot : (activated atoms root rootSize screens geometry display).1.rootInfo =
      ((Following.unread root rootSize).update atoms display windowsProperties windowsProperties2).1 :=
    hrun.2.1
  have hwindows : ((activated atoms root rootSize screens geometry display).1.windows :
      Multiset XcbWindow) = clientListValue atoms display root := hrun.1
  constructor
  · show Listed (activated atoms root rootSize screens geometry display).1.rootInfo _
    rw [hroot, hwindows]
    exact hupdate.1
  · show (activated atoms root rootSize screens geometry display).1.windows.Nodup
    rw [← Multiset.coe_nodup, hwindows]
    exact Multiset.coe_nodup.mpr hnodup
  · show (activated atoms root rootSize screens geometry display).1.rootInfo.root = root
    rw [hroot]
    exact congrArg Identity.root (identity_update atoms display _ _ _)
  · exact hnodup

-- The list of a new filter reaches exactly the listeners that have no windows.
theorem replay_activated_iff (view : Finset XcbWindow) :
    replay watch view (activated atoms root rootSize screens geometry display).2 =
      some (activated atoms root rootSize screens geometry display).1.windows.toFinset ↔ view = ∅ := by
  have hupdate := update_unread atoms root rootSize display
  have hrun := run_calls atoms root screens geometry display
    { rootInfo := ((Following.unread root rootSize).update atoms display windowsProperties
      windowsProperties2).1 } hupdate.2 List.nodup_nil (Multiset.coe_nodup.mpr hnodup)
  rcases reports_zero hupdate.2 with ⟨added, hcalls, hadded⟩
  have hwindows : ((activated atoms root rootSize screens geometry display).1.windows :
      Multiset XcbWindow) = added := hrun.1.trans hadded.symm
  apply Iff.intro
  · intro hreplay
    apply Finset.eq_empty_of_forall_notMem
    intro w hw
    unfold activated at hreplay
    dsimp only at hreplay
    rw [hcalls] at hreplay
    have hboth := replay_adds atoms root screens geometry display added _ hreplay hw
    have hmem : w ∈ (activated atoms root rootSize screens geometry display).1.windows := by
      unfold activated
      dsimp only
      rw [hcalls]
      exact List.mem_toFinset.mp hboth.1
    rw [← Multiset.mem_coe, hwindows] at hmem
    exact hboth.2 hmem
  · intro hempty
    rw [hempty]
    exact hrun.2.2

end Step

section System

variable (atoms : Atoms) (root : XcbWindow) (rootSize : NETSize) (screens : DisplayGeometry)
  (geometry : XcbWindow → NETRect)

theorem init_spec {s : ClientSession} (hs : Invariant atoms root s) (what : FilterInfo) :
    Invariant atoms root (init atoms root rootSize screens geometry s what).1 ∧
      (replay watch s.filter.windows.toFinset (init atoms root rootSize screens geometry s what).2 =
          some (init atoms root rootSize screens geometry s what).1.filter.windows.toFinset ↔
        (s.what = .infoBasic → what = .infoWindows → s.filter.windows = [])) := by
  unfold init
  split
  · rename_i hupgrade
    apply And.intro (invariant_activated atoms root rootSize screens geometry hs.display what)
    show replay watch _ (activated atoms root rootSize screens geometry s.display).2 = some _ ↔ _
    rw [replay_activated_iff atoms root rootSize screens geometry hs.display, List.toFinset_eq_empty_iff]
    exact ⟨fun hnil _ _ => hnil, fun hnil => hnil hupgrade.1 hupgrade.2⟩
  · rename_i hstays
    exact ⟨hs, iff_of_true rfl fun hold hnow => absurd ⟨hold, hnow⟩ hstays⟩

theorem connectNotify_spec {s : ClientSession} (hs : Invariant atoms root s) (signal : SignalName) :
    Invariant atoms root (connectNotify atoms root rootSize screens geometry s signal).1 ∧
      (replay watch s.filter.windows.toFinset (connectNotify atoms root rootSize screens geometry s signal).2 =
          some (connectNotify atoms root rootSize screens geometry s signal).1.filter.windows.toFinset ↔
        (s.what = .infoBasic → signal.needs = .infoWindows → s.filter.windows = [])) := by
  have hinit := init_spec atoms root rootSize screens geometry hs signal.needs
  unfold connectNotify
  dsimp only
  split
  · exact ⟨⟨hinit.1.listed, hinit.1.nodup, hinit.1.root_eq, hinit.1.display⟩, hinit.2⟩
  · exact hinit

theorem propertyNotify_spec {s : ClientSession} (hs : Invariant atoms root s) (atom : XcbAtom) :
    Invariant atoms root (propertyNotify atoms root screens geometry s atom).1 ∧
      replay watch s.filter.windows.toFinset (propertyNotify atoms root screens geometry s atom).2 =
        some (propertyNotify atoms root screens geometry s atom).1.filter.windows.toFinset := by
  have hstep := Call.step_listed atoms hs.listed (.event s.display (.propertyNotify atom))
  rcases hstep with ⟨hlisted, hreports, _, hroot⟩
  have hnow : (clientsRead atoms s.filter.rootInfo.root s.filter.rootInfo.clientProperties
      s.filter.windows (.event s.display (.propertyNotify atom))).Nodup := by
    unfold clientsRead Call.reads
    dsimp only
    split
    · rename_i value hvalue
      split at hvalue
      · cases hvalue
        rw [hs.root_eq, Multiset.coe_nodup]
        exact hs.display
      · cases hvalue
    · exact Multiset.coe_nodup.mpr hs.nodup
  generalize clientsRead _ _ _ _ _ = now at *
  have hrun := run_calls atoms root screens geometry s.display
    { s.filter with
      rootInfo := (Call.step atoms s.filter.rootInfo (.event s.display (.propertyNotify atom))).1 }
    hreports hs.nodup hnow
  have hwindows : ((propertyNotify atoms root screens geometry s atom).1.filter.windows :
      Multiset XcbWindow) = now := hrun.1
  have hinfo : (propertyNotify atoms root screens geometry s atom).1.filter.rootInfo =
      (Call.step atoms s.filter.rootInfo (.event s.display (.propertyNotify atom))).1 := hrun.2.1
  refine ⟨⟨?_, ?_, ?_, hs.display⟩, hrun.2.2⟩
  · rw [hinfo, hwindows]
    exact hlisted
  · rw [← Multiset.coe_nodup, hwindows]
    exact hnow
  · rw [hinfo]
    exact hroot.trans hs.root_eq

theorem clientList_spec {s : ClientSession} (hs : Invariant atoms root s) {windows : List XcbWindow}
    (hwindows : windows.Nodup) : Invariant atoms root
      { s with display := (clientListChange atoms windows).apply root s.display } where
  listed := hs.listed
  nodup := hs.nodup
  root_eq := hs.root_eq
  display := by
    unfold clientListValue Change.apply clientListChange
    dsimp only
    rw [if_pos rfl, Function.update_self]
    exact hwindows.sublist (List.take_sublist _ _)

-- One step: the listener goes with the windows exactly if no filter is replaced that has some.
theorem step_spec {s : Notified.State ClientSession XcbAtom} (hs : Invariant atoms root s.state)
    (e : Notified.Event Event) :
    Invariant atoms root ((system atoms root rootSize screens geometry).step s e).1.state ∧
      (replay watch (windows s) ((system atoms root rootSize screens geometry).step s e).2 =
        some (windows ((system atoms root rootSize screens geometry).step s e).1) ↔ KeepsWindows s e) := by
  cases e with
  | change e =>
      cases e with
      | clientList windows hwindows =>
          apply And.intro (clientList_spec atoms root hs hwindows)
          exact iff_of_true rfl fun _ hasks => nomatch hasks
      | init what => exact init_spec atoms root rootSize screens geometry hs what
      | connectNotify signal => exact connectNotify_spec atoms root rootSize screens geometry hs signal
  | handle =>
      unfold Notified.System.step
      cases hpending : s.pending with
      | nil => exact ⟨hs, iff_of_true rfl trivial⟩
      | cons atom rest =>
          have hspec := propertyNotify_spec atoms root screens geometry hs atom
          exact ⟨hspec.1, iff_of_true hspec.2 trivial⟩

/-- A listener that connects at any point of a run and starts from the windows of then has the windows of
the filter all along, with nothing added twice and nothing removed that is not there, exactly if no filter
is replaced that has windows. -/
theorem windows_followed_iff {display : Display} (hnodup : (clientListValue atoms display root).Nodup)
    (what : FilterInfo) (waiting : List XcbAtom) (before es : List (Notified.Event Event)) :
    let connected := (run (system atoms root rootSize screens geometry).step
      (start atoms root rootSize screens geometry display what waiting) before).1
    (∀ n, replay watch (windows connected)
        (run (system atoms root rootSize screens geometry).step connected (es.take n)).2 =
          some (windows (run (system atoms root rootSize screens geometry).step connected (es.take n)).1)) ↔
      Along (system atoms root rootSize screens geometry).step KeepsWindows connected es := by
  have hstart : Invariant atoms root
      (start atoms root rootSize screens geometry display what waiting).state :=
    invariant_activated atoms root rootSize screens geometry hnodup what
  intro connected
  have hconnected : Invariant atoms root connected.state := run_invariant
    (fun s : Notified.State ClientSession XcbAtom => Invariant atoms root s.state)
    (fun s e hs _ => (step_spec atoms root rootSize screens geometry hs e).1) hstart
    (along_true _ before)
  exact replay_iff_along (fun s : Notified.State ClientSession XcbAtom => Invariant atoms root s.state)
    windows (fun s e hs => (step_spec atoms root rootSize screens geometry hs e).1)
    (fun s e hs => (step_spec atoms root rootSize screens geometry hs e).2) es hconnected

end System

/-! A display with some windows, and what a listener makes of a run over it. -/

def wideScreen : DisplayGeometry := ⟨.ofSize 0 0 1920 1080, .inr (by decide)⟩

def exampleSystem : Notified.System ClientSession Event XcbAtom Signal :=
  system Atoms.inOrder 1 ⟨1920, 1080⟩ wideScreen fun _ => {}

def startWith (list : List XcbWindow) : Notified.State ClientSession XcbAtom :=
  start Atoms.inOrder 1 ⟨1920, 1080⟩ wideScreen (fun _ => {})
    ((clientListChange Atoms.inOrder list).apply 1 fun _ _ => none) .infoBasic []

def listChanges : List (Notified.Event Event) := [.change (.clientList [7, 9] (by decide)), .handle]

theorem listChanges_followed :
    replay watch (windows (startWith [9, 5])) (run exampleSystem.step (startWith [9, 5]) listChanges).2 =
      some (windows (run exampleSystem.step (startWith [9, 5]) listChanges).1) :=
  (windows_followed_iff Atoms.inOrder 1 ⟨1920, 1080⟩ wideScreen (fun _ => {}) (by decide +kernel) .infoBasic
    [] [] listChanges).mpr ⟨(fun _ h => nomatch h), trivial, trivial⟩ 2

/-- The window that stays is added again; one that goes meanwhile is not removed any more. -/
theorem replaced_filter_forgets :
    replay watch (windows (startWith [5]))
        (run exampleSystem.step (startWith [5]) [.change (.connectNotify .workAreaChanged)]).2 = none ∧
      (run exampleSystem.step (startWith [5])
        [.change (.clientList [] .nil), .change (.connectNotify .workAreaChanged), .handle]).1.pending = [] ∧
      replay watch (windows (startWith [5])) (run exampleSystem.step (startWith [5])
        [.change (.clientList [] .nil), .change (.connectNotify .workAreaChanged), .handle]).2 ≠
      some (windows (run exampleSystem.step (startWith [5])
        [.change (.clientList [] .nil), .change (.connectNotify .workAreaChanged), .handle]).1) := by
  decide +kernel

end ClientSession

end KX11Extras

end KWindowSystem
