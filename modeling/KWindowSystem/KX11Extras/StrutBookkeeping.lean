import KWindowSystem.KX11Extras.WorkArea

/-!
# The bookkeeping of struts

The filter names a window in `strutWindows` once its strut is cached, and in `possibleStrutWindows` while
the strut has to be read.  A window comes into either list when it is added, changes over when a work
area is asked for, and back when its property changes.  Both lists are counted together: they name no
window more often than the list of the clients does (`Tracked`).
-/

open Machine Qt

namespace KWindowSystem

open NET

namespace KX11Extras

/-- A client has one entry at most, in one of the two lists, and nothing else has one. -/
structure Bookkept (filter : NETEventFilter) : Prop where
  distinct : (filter.strutWindows.map (·.window)).Nodup
  possibleDistinct : filter.possibleStrutWindows.Nodup
  disjoint : ∀ data ∈ filter.strutWindows, data.window ∉ filter.possibleStrutWindows
  cached : ∀ data ∈ filter.strutWindows, data.window ∈ filter.windows
  possible : ∀ w ∈ filter.possibleStrutWindows, w ∈ filter.windows

/-- How often the two lists name a window. -/
def strutCount (filter : NETEventFilter) (w : XcbWindow) : Nat :=
  (filter.strutWindows.map (·.window)).count w + filter.possibleStrutWindows.count w

structure Tracked (filter : NETEventFilter) : Prop where
  windows : filter.windows.Nodup
  counted : ∀ w, strutCount filter w ≤ filter.windows.count w

section Filter

variable {filter : NETEventFilter} {w : XcbWindow}

theorem Tracked.le_one (h : Tracked filter) (w : XcbWindow) : strutCount filter w ≤ 1 :=
  (h.counted w).trans (List.nodup_iff_count_le_one.mp h.windows w)

theorem Tracked.mem_windows (h : Tracked filter) (hw : 0 < strutCount filter w) : w ∈ filter.windows := by
  apply List.count_pos_iff.mp
  exact Nat.lt_of_lt_of_le hw (h.counted w)

theorem count_cached_pos {data : StrutData} (h : data ∈ filter.strutWindows) :
    0 < (filter.strutWindows.map (·.window)).count data.window :=
  List.count_pos_iff.mpr (List.mem_map_of_mem h)

-- The counts say everything: a count of one cannot be shared.
theorem Tracked.bookkept (h : Tracked filter) : Bookkept filter := by
  constructor
  · apply List.nodup_iff_count_le_one.mpr
    intro w
    have hone := h.le_one w
    unfold strutCount at hone
    omega
  · apply List.nodup_iff_count_le_one.mpr
    intro w
    have hone := h.le_one w
    unfold strutCount at hone
    omega
  · intro data hdata hpossible
    have hone := h.le_one data.window
    have hcached := count_cached_pos hdata
    have hpossible := List.count_pos_iff.mpr hpossible
    unfold strutCount at hone
    omega
  · intro data hdata
    apply h.mem_windows
    have hcached := count_cached_pos hdata
    unfold strutCount
    omega
  · intro w hw
    apply h.mem_windows
    have hpossible := List.count_pos_iff.mpr hw
    unfold strutCount
    omega

/-! ## What the functions do to the counts -/

theorem count_eraseP (strutWindows : List StrutData) (v w : XcbWindow) :
    ((strutWindows.eraseP (·.window = w)).map (·.window)).count v =
      (strutWindows.map (·.window)).count v - if v = w then 1 else 0 := by
  have herase : (strutWindows.eraseP (·.window = w)).map (·.window) =
      (strutWindows.map (·.window)).erase w := by
    rw [List.erase_eq_eraseP', List.eraseP_map]
    congr 2
  rw [herase]
  by_cases hv : v = w
  · rw [if_pos hv, hv, List.count_erase_self]
  · rw [if_neg hv, List.count_erase_of_ne hv, Nat.sub_zero]

theorem count_append_one (list : List XcbWindow) (v w : XcbWindow) :
    (list ++ [w]).count v = list.count v + if v = w then 1 else 0 := by
  rw [List.count_append, List.count_singleton]
  by_cases hv : v = w
  · simp [hv]
  · simp [hv, Ne.symm hv]

theorem count_filter_ne (list : List XcbWindow) (v w : XcbWindow) :
    (list.filter (· ≠ w)).count v = if v = w then 0 else list.count v := by
  by_cases hv : v = w
  · rw [if_pos hv, hv]
    apply List.count_eq_zero.mpr
    intro hin
    exact of_decide_eq_true (List.mem_filter.mp hin).2 rfl
  · rw [if_neg hv, List.count_filter (by simpa using hv)]

theorem strutCount_cached {data : StrutData} {windows : List XcbWindow} (hdata : data.window = w)
    (v : XcbWindow) :
    strutCount { filter with strutWindows := filter.strutWindows ++ [data], windows } v =
      strutCount filter v + if v = w then 1 else 0 := by
  unfold strutCount
  dsimp only
  rw [List.map_append, List.map_singleton, count_append_one, hdata]
  omega

theorem strutCount_possible {windows : List XcbWindow} (v : XcbWindow) :
    strutCount { filter with
      possibleStrutWindows := filter.possibleStrutWindows ++ [w], windows } v =
      strutCount filter v + if v = w then 1 else 0 := by
  unfold strutCount
  dsimp only
  rw [count_append_one]
  omega

-- A new client is counted once in either list, or in none.
theorem Tracked.add (h : Tracked filter) (hw : w ∉ filter.windows) {filter' : NETEventFilter}
    (hwindows : filter'.windows = filter.windows ++ [w])
    (hcount : ∀ v, strutCount filter' v ≤ strutCount filter v + if v = w then 1 else 0) :
    Tracked filter' := by
  constructor
  · rw [hwindows]
    exact NETRootInfo.nodup_append_one h.windows hw
  · intro v
    have hold := h.counted v
    have hnew := hcount v
    rw [hwindows, count_append_one]
    omega

-- Where the clients stay the same, only the window that is looked at can be counted otherwise.
theorem Tracked.recount (h : Tracked filter) {filter' : NETEventFilter}
    (hwindows : filter'.windows = filter.windows)
    (hsame : ∀ v, v ≠ w → strutCount filter' v ≤ strutCount filter v)
    (hw : strutCount filter' w ≤ filter.windows.count w) : Tracked filter' := by
  constructor
  · rw [hwindows]
    exact h.windows
  · intro v
    rw [hwindows]
    by_cases hv : v = w
    · rw [hv]
      exact hw
    · exact (hsame v hv).trans (h.counted v)

variable (atoms : Atoms) (root : XcbWindow) (screens : DisplayGeometry) (display : Display)

theorem addClient_tracked (geometry : XcbWindow → NETRect) (h : Tracked filter)
    (hw : w ∉ filter.windows) :
    Tracked (addClient atoms root screens display geometry filter w).1 := by
  apply h.add hw (addClient_keeps atoms root screens display geometry filter w).2.1
  intro v
  have hdata : (strutData atoms root screens display geometry filter.rootInfo w).window = w := rfl
  unfold addClient
  dsimp only
  generalize strutData atoms root screens display geometry filter.rootInfo w = data at hdata ⊢
  split
  · split
    · exact Nat.le_of_eq (strutCount_cached hdata v)
    · exact Nat.le_add_right _ _
  · exact Nat.le_of_eq (strutCount_possible v)

theorem removeClient_tracked (h : Tracked filter) (w : XcbWindow) :
    Tracked (removeClient atoms root display filter w).1 := by
  constructor
  · exact h.windows.filter _
  · intro v
    have hcounted := h.counted v
    have hone := h.le_one v
    unfold strutCount at hcounted hone
    show ((filter.strutWindows.eraseP (·.window = w)).map (·.window)).count v +
      (filter.possibleStrutWindows.filter (· ≠ w)).count v ≤ (filter.windows.filter (· ≠ w)).count v
    rw [count_eraseP, count_filter_ne, count_filter_ne]
    split <;> omega

-- A change of the strut moves the window to those that have to be read.
theorem windowPropertyNotify_tracked (h : Tracked filter) (hw : w ∈ filter.windows) (atom : XcbAtom) :
    Tracked (windowPropertyNotify atoms root screens display filter w atom).1 := by
  have hone := h.le_one w
  have hclient := List.count_pos_iff.mpr hw
  unfold strutCount at hone
  unfold windowPropertyNotify removeStrutWindow
  dsimp only
  generalize Flags.has _ Property.wmStrut = strut
  cases strut with
  | false => exact h
  | true =>
      rw [if_pos rfl]
      by_cases hpossible : w ∈ filter.possibleStrutWindows
      · rw [if_pos hpossible]
        have hpossible := List.count_pos_iff.mpr hpossible
        refine h.recount rfl (w := w) ?_ ?_
        · intro v hv
          unfold strutCount
          dsimp only
          rw [count_eraseP]
          omega
        · unfold strutCount
          dsimp only
          rw [count_eraseP, if_pos rfl]
          omega
      · rw [if_neg hpossible]
        have hpossible := List.count_eq_zero.mpr hpossible
        refine h.recount rfl (w := w) ?_ ?_
        · intro v hv
          unfold strutCount
          dsimp only
          rw [count_eraseP, count_append_one, if_neg hv]
          omega
        · unfold strutCount
          dsimp only
          rw [count_eraseP, count_append_one, if_pos rfl]
          omega

variable (geometry : XcbWindow → NETRect) (exclude : List XcbWindow) (desktop : Int32)

-- A strut that is read is cached: the window changes over.
theorem workAreaStep_tracked (h : Tracked filter) (a : QRect) (w : XcbWindow) :
    Tracked (workAreaStep atoms root screens display geometry exclude desktop (filter, a) w).1 := by
  unfold workAreaStep
  dsimp only
  split
  · exact h
  · split
    · exact h
    · split
      · rename_i hpossible
        have hpossible := List.count_pos_iff.mpr hpossible
        have hcounted := h.counted w
        unfold strutCount at hcounted
        refine h.recount rfl (w := w) ?_ ?_
        · intro v hv
          unfold strutCount strutData
          rw [List.map_append, List.map_singleton, count_append_one, count_filter_ne, if_neg hv, if_neg hv]
          omega
        · unfold strutCount strutData
          rw [List.map_append, List.map_singleton, count_append_one, count_filter_ne, if_pos rfl, if_pos rfl]
          omega
      · exact h

theorem loop_tracked (h : Tracked filter) (a : QRect) (ws : List XcbWindow) :
    Tracked (ws.foldl (workAreaStep atoms root screens display geometry exclude desktop) (filter, a)).1 := by
  induction ws generalizing filter a with
  | nil => exact h
  | cons w ws ih =>
      exact ih (workAreaStep_tracked atoms root screens display geometry exclude desktop h a w) _

end Filter

/-! ## Runs -/

section Runs

variable (atoms : Atoms) (root : XcbWindow) (screens : DisplayGeometry)

/-- A change keeps the client list of the property free of duplicates. -/
def Session.Distinct (s : Session) : Event → Prop
  | .changeProperty w c => w = root → c.atom = atoms.atom .netClientList →
      (NETRootInfo.clientListValue atoms (c.apply w s.display) root).Nodup
  | .configure .. => True
  | .deliver => True
  | .workArea .. => True
  | .connectStrutChanged => True

/-- The calls that are left lead from the clients of the filter to the list that was read last, so that
the next window to be added is not a client yet. -/
structure Pending (s : Session) : Prop where
  rootWindow : s.filter.rootInfo.root = root
  asked : s.filter.rootInfo.clientProperties = windowsProperties
  value : (NETRootInfo.clientListValue atoms s.display root).Nodup
  last : ∃ last : List XcbWindow, last.Nodup ∧ NETRootInfo.Listed s.filter.rootInfo ↑last ∧
    NETRootInfo.Reports s.calls ↑s.filter.windows ↑last
  tracked : Tracked s.filter

variable {atoms root screens} {s : Session}

-- Only the lists of struts have changed.
theorem Pending.retrack (h : Pending atoms root s) {filter : NETEventFilter}
    (hinfo : filter.rootInfo = s.filter.rootInfo) (hwindows : filter.windows = s.filter.windows)
    (htracked : Tracked filter) (queue : List (XcbWindow × XcbAtom)) :
    Pending atoms root { s with filter, queue } := by
  rcases h.last with ⟨last, hnodup, hlisted, hreports⟩
  exact ⟨hinfo ▸ h.rootWindow, hinfo ▸ h.asked, h.value,
    ⟨last, hnodup, hinfo ▸ hlisted, hwindows ▸ hreports⟩, htracked⟩

theorem Pending.changeProperty (h : Pending atoms root s) {w : XcbWindow} {c : Change}
    (hok : s.Distinct atoms root (.changeProperty w c)) :
    Pending atoms root (s.step atoms root screens (.changeProperty w c)).1 := by
  refine ⟨h.rootWindow, h.asked, ?_, h.last, h.tracked⟩
  show (NETRootInfo.clientListValue atoms (c.apply w s.display) root).Nodup
  by_cases hlist : w = root ∧ c.atom = atoms.atom .netClientList
  · exact hok hlist.1 hlist.2
  · rw [clientListValue_apply s.display c hlist]
    exact h.value

theorem Pending.call (h : Pending atoms root s) {call : RootSignal} {calls : List RootSignal}
    (hcalls : s.calls = call :: calls) :
    Pending atoms root (Session.call atoms root screens { s with calls } call).1 := by
  rcases h.last with ⟨last, hnodup, hlisted, hreports⟩
  rw [hcalls] at hreports
  have hlists := hreports.next h.tracked.windows (Multiset.coe_nodup.mpr hnodup)
  rcases hlists with ⟨w, rfl, -, hrest⟩ | ⟨w, rfl, hnew, -, hrest⟩
  · exact ⟨h.rootWindow, h.asked, h.value, ⟨last, hnodup, hlisted, hrest⟩,
      removeClient_tracked atoms root s.display h.tracked w⟩
  · have hkeeps := addClient_keeps atoms root screens s.display s.geometry s.filter w
    have htracked := addClient_tracked atoms root screens s.display s.geometry h.tracked hnew
    unfold Session.call
    dsimp only
    generalize addClient atoms root screens s.display s.geometry s.filter w = added at hkeeps htracked ⊢
    exact ⟨hkeeps.1 ▸ h.rootWindow, hkeeps.1 ▸ h.asked, h.value,
      ⟨last, hnodup, hkeeps.1 ▸ hlisted, hkeeps.2.1 ▸ hrest⟩, htracked⟩

theorem Pending.propertyNotify (h : Pending atoms root s) (hcalls : s.calls = []) (w : XcbWindow)
    (atom : XcbAtom) (queue : List (XcbWindow × XcbAtom)) :
    Pending atoms root (Session.propertyNotify atoms root screens { s with queue } w atom).1 := by
  unfold Session.propertyNotify
  dsimp only
  by_cases hroot : w = root
  · rw [if_pos hroot]
    rcases h.last with ⟨last, hnodup, hlisted, hreports⟩
    have hasked : s.filter.rootInfo.clientProperties.has Property.clientList = true := by
      rw [h.asked]
      decide
    have hevent := NETRootInfo.event_listed atoms hlisted hasked s.display atom
    dsimp only at hevent
    rw [h.rootWindow] at hevent
    rw [hcalls] at hreports
    refine ⟨hevent.2.2.2, hevent.2.2.1.trans h.asked, h.value, ⟨_, ?_, hevent.1, ?_⟩,
      h.tracked.windows, h.tracked.counted⟩
    · split
      · exact h.value
      · exact hnodup
    · show NETRootInfo.Reports _ ↑s.filter.windows _
      rw [hreports.eq_of_nil]
      exact hevent.2.1
  · rw [if_neg hroot]
    by_cases hw : w ∈ s.filter.windows
    · rw [if_pos hw]
      have hkeeps := windowPropertyNotify_keeps atoms root screens s.display s.filter w atom
      exact h.retrack hkeeps.1 hkeeps.2
        (windowPropertyNotify_tracked atoms root screens s.display h.tracked hw atom) queue
    · rw [if_neg hw]
      exact h.retrack rfl rfl h.tracked queue

theorem Pending.step (h : Pending atoms root s) {e : Event} (hok : s.Distinct atoms root e) :
    Pending atoms root (s.step atoms root screens e).1 := by
  cases e with
  | changeProperty w c => exact h.changeProperty hok
  | configure w rect => exact ⟨h.rootWindow, h.asked, h.value, h.last, h.tracked⟩
  | deliver =>
      unfold Session.step
      dsimp only
      cases hcalls : s.calls with
      | cons call calls => exact h.call hcalls
      | nil =>
          cases hqueue : s.queue with
          | cons next queue =>
              have hnext : Pending atoms root
                  (Session.propertyNotify atoms root screens { s with queue } next.1 next.2).1 :=
                h.propertyNotify hcalls next.1 next.2 queue
              rw [hcalls] at hnext
              exact hnext
          | nil => exact h
  | workArea exclude desktop =>
      unfold Session.step workArea
      dsimp only
      generalize (if desktop = -1 then currentDesktop screens s.filter.rootInfo else desktop) = desktop
      have hsame := loop_same atoms root screens s.display s.geometry exclude desktop
        (s.filter, screens.rect) s.filter.windows
      exact h.retrack hsame.rootInfo hsame.windows
        (loop_tracked atoms root screens s.display s.geometry exclude desktop h.tracked screens.rect
          s.filter.windows) s.queue
  | connectStrutChanged =>
      exact ⟨h.rootWindow, h.asked, h.value, h.last, h.tracked.windows, h.tracked.counted⟩

theorem pending_start (rootSize : NETSize) (display : Display) (geometry : XcbWindow → NETRect)
    (watched : List XcbWindow) (queue : List (XcbWindow × XcbAtom))
    (hvalue : (NETRootInfo.clientListValue atoms display root).Nodup) :
    Pending atoms root (Session.start atoms root rootSize display geometry watched queue) := by
  have hstart := start_listed atoms root rootSize display geometry watched queue
  exact ⟨hstart.1, hstart.2.1, hvalue, ⟨_, hvalue, hstart.2.2⟩, List.nodup_nil, fun _ => le_rfl⟩

/-- In every run over client lists without duplicates, whatever the order of the calls, the changes of
properties, the questions for work areas and the connection to `strutChanged`: the two lists of strut
windows have no duplicates, have no window in common and name clients only. -/
theorem struts_bookkept (rootSize : NETSize) (display : Display) (geometry : XcbWindow → NETRect)
    (watched : List XcbWindow) (queue : List (XcbWindow × XcbAtom)) (es : List Event)
    (hvalue : (NETRootInfo.clientListValue atoms display root).Nodup)
    (hok : Along (Session.step atoms root screens) (Session.Distinct atoms root)
      (Session.start atoms root rootSize display geometry watched queue) es) :
    Bookkept (run (Session.step atoms root screens)
      (Session.start atoms root rootSize display geometry watched queue) es).1.filter := by
  have hpending := run_invariant (Pending atoms root) (fun _ _ hs hstep => Pending.step hs hstep)
    (pending_start rootSize display geometry watched queue hvalue) hok
  exact hpending.tracked.bookkept

/-- The panel is cached, its strut changes after `strutChanged` is connected, and a window without a
strut is added. -/
def panelChanges : List Event :=
  [.deliver, .workArea [] 1, .connectStrutChanged,
    .changeProperty 5 ⟨Atoms.inOrder.atom .netWmStrut, some ⟨.cardinal, .data32 [0, 0, 40, 0]⟩⟩, .deliver,
    .changeProperty 1 ⟨Atoms.inOrder.atom .netClientList, some ⟨.window, .data32 [5, 6]⟩⟩, .deliver,
    .deliver]

theorem panel_bookkept :
    Bookkept (run (Session.step .inOrder 1 fullHd) panelStart panelChanges).1.filter := by
  refine struts_bookkept ⟨1920, 1080⟩ panel (fun _ => {}) [] [] panelChanges (by decide +kernel) ?_
  refine ⟨trivial, trivial, trivial, ?_, trivial, ?_, trivial, trivial, trivial⟩
  · intro hroot
    exact absurd hroot (by decide)
  · intro hroot hatom
    decide +kernel

end Runs

end KX11Extras

end KWindowSystem
