import KWindowSystem.Lib.SortedDiff
import KWindowSystem.NetWM.RootInfo

/-!
# The client list

What a client's `NETRootInfo` reports about `_NET_CLIENT_LIST`.  Its array is the sorted value that it
has read last (`Listed`); the loop over the old and the new array computes their difference
(`diffLoop_eq`), and no other branch of `update` touches the array or reports anything.
-/

open Machine

namespace KWindowSystem

open NET

namespace NETRootInfo

/-! ## The loop -/

theorem getD_eq {l : List XcbWindow} {i : Nat} (h : i < l.length) :
    l.drop i = l.getD i 0 :: l.drop (i + 1) := by
  rw [List.getD_eq_getElem?_getD, List.getElem?_eq_getElem h]
  exact List.drop_eq_getElem_cons h

theorem diffLoop_eq {old new : List XcbWindow} {oldCount newCount : Nat}
    (holdCount : oldCount = old.length) (hnewCount : newCount = new.length) (oldIndex newIndex : Nat)
    (hold : oldIndex ≤ oldCount) (hnew : newIndex ≤ newCount) (toRemove toAdd : List XcbWindow) :
    diffLoop old new oldCount newCount oldIndex newIndex hold hnew toRemove toAdd =
      (toRemove ++ (SortedDiff.diff (old.drop oldIndex) (new.drop newIndex)).1,
        toAdd ++ (SortedDiff.diff (old.drop oldIndex) (new.drop newIndex)).2) := by
  fun_induction diffLoop old new oldCount newCount oldIndex newIndex hold hnew toRemove toAdd with
  | case1 newIndex hnew toRemove toAdd hold h ih =>
      -- The old array is at its end.
      have hn : newIndex < new.length := by omega
      rw [ih, List.drop_of_length_le (by omega : old.length ≤ _), getD_eq hn]
      simp
  | case2 oldIndex hold toRemove toAdd hnew h ho ih =>
      have ho : oldIndex < old.length := by omega
      rw [ih, List.drop_of_length_le (by omega : new.length ≤ _), getD_eq ho]
      simp
  | case3 oldIndex newIndex hold hnew toRemove toAdd h ho hn hlt ih =>
      rw [ih, getD_eq (by omega : oldIndex < old.length), getD_eq (by omega : newIndex < new.length),
        SortedDiff.diff, if_pos hlt]
      simp
  | case4 oldIndex newIndex hold hnew toRemove toAdd h ho hn hlt hgt ih =>
      rw [ih, getD_eq (by omega : oldIndex < old.length), getD_eq (by omega : newIndex < new.length),
        SortedDiff.diff, if_neg hlt, if_pos hgt]
      simp
  | case5 oldIndex newIndex hold hnew toRemove toAdd h ho hn hlt hgt ih =>
      rw [ih, getD_eq (by omega : oldIndex < old.length), getD_eq (by omega : newIndex < new.length),
        SortedDiff.diff, if_neg hlt, if_neg hgt]
  | case6 oldIndex newIndex hold hnew toRemove toAdd h =>
      rw [List.drop_of_length_le (by omega : old.length ≤ _),
        List.drop_of_length_le (by omega : new.length ≤ _)]
      simp

/-! ## What is kept and what is reported -/

/-- A client's array is the sorted value `m`, or null when there is none. -/
structure Listed (p : NETRootInfo) (m : Multiset XcbWindow) : Prop where
  client : p.role = .client
  windows : ((p.clients.getD [] : List XcbWindow) : Multiset XcbWindow) = m
  sorted : (p.clients.getD []).Pairwise (· ≤ ·)
  count : ∀ old, p.clients = some old → p.clientsCount = old.length

/-- The calls for a change of the client list: windows go before windows come, each as often as it
has lost or gained occurrences. -/
def Reports (out : List RootSignal) (old new : Multiset XcbWindow) : Prop :=
  ∃ removed added : List XcbWindow,
    out = removed.map .removeClient ++ added.map .addClient ∧
      (∀ w, removed.count w = old.count w - new.count w) ∧
      ∀ w, added.count w = new.count w - old.count w

-- With a null array the loop would give the same: nothing goes, everything comes.
theorem clientDiff_eq {p : NETRootInfo} {m : Multiset XcbWindow} (h : Listed p m)
    (clients : List XcbWindow) :
    p.clientDiff clients = SortedDiff.diff (p.clients.getD []) clients := by
  unfold clientDiff
  cases hp : p.clients with
  | none => exact (SortedDiff.diff_nil_left clients).symm
  | some old =>
      show (if p.role = .client then _ else _) = _
      rw [if_pos h.client, diffLoop_eq (h.count old hp) rfl]
      rfl

theorem storeClients_listed {p : NETRootInfo} (hp : p.role = .client) {clients : List XcbWindow}
    (hsorted : clients.Pairwise (· ≤ ·)) : Listed (p.storeClients clients) ↑clients := by
  unfold storeClients
  by_cases hnil : clients = []
  · rw [if_pos hnil, hnil]
    exact ⟨hp, rfl, List.Pairwise.nil, fun _ hold => nomatch hold⟩
  · rw [if_neg hnil]
    exact ⟨hp, rfl, hsorted, fun old hold => congrArg List.length (Option.some.inj hold)⟩

theorem updateClientList_spec {p : NETRootInfo} {m : Multiset XcbWindow} (h : Listed p m)
    (reply : List XcbWindow) :
    Listed (updateClientList p reply).1 ↑reply ∧ Reports (updateClientList p reply).2 m ↑reply := by
  have hsorted : (reply.insertionSort (· ≤ ·)).Pairwise (· ≤ ·) := List.pairwise_insertionSort _ _
  have hperm : (reply.insertionSort (· ≤ ·) : Multiset XcbWindow) = ↑reply :=
    Multiset.coe_eq_coe.mpr (List.perm_insertionSort _ _)
  have hdiff := clientDiff_eq h (reply.insertionSort (· ≤ ·))
  rw [← hperm]
  apply And.intro (storeClients_listed h.client hsorted)
  refine ⟨_, _, rfl, fun w => ?_, fun w => ?_⟩
  · rw [hdiff, ← h.windows, Multiset.coe_count, Multiset.coe_count]
    exact (SortedDiff.count_diff h.sorted hsorted w).1
  · rw [hdiff, ← h.windows, Multiset.coe_count, Multiset.coe_count]
    exact (SortedDiff.count_diff h.sorted hsorted w).2

/-! ## update -/

/-- The requests of a branch. -/
def Branch.requests (atoms : Atoms) (root : XcbWindow) : Branch → List PropertyRequest
  | .supported => [⟨root, atoms.atom .netSupported, .atom, maxPropSize⟩]
  | .clientList => [⟨root, atoms.atom .netClientList, .window, maxPropSize⟩]
  | .clientListStacking => [⟨root, atoms.atom .netClientListStacking, .window, maxPropSize⟩]
  | .numberOfDesktops => [⟨root, atoms.atom .netNumberOfDesktops, .cardinal, 1⟩]
  | .desktopGeometry => [⟨root, atoms.atom .netDesktopGeometry, .cardinal, 2⟩]
  | .desktopViewport => [⟨root, atoms.atom .netDesktopViewport, .cardinal, maxPropSize⟩]
  | .currentDesktop => [⟨root, atoms.atom .netCurrentDesktop, .cardinal, 1⟩]
  | .desktopNames => [⟨root, atoms.atom .netDesktopNames, atoms.atom .utf8String, maxPropSize⟩]
  | .activeWindow => [⟨root, atoms.atom .netActiveWindow, .window, 1⟩]
  | .workArea => [⟨root, atoms.atom .netWorkarea, .cardinal, maxPropSize⟩]
  | .supportingWMCheck => [⟨root, atoms.atom .netSupportingWmCheck, .window, 1⟩]
  | .virtualRoots => [⟨root, atoms.atom .netVirtualRoots, .window, 1⟩]
  | .desktopLayout => [⟨root, atoms.atom .netDesktopLayout, .cardinal, maxPropSize⟩]
  | .showingDesktop => [⟨root, atoms.atom .netShowingDesktop, .cardinal, 1⟩]
  | .wmName => []

section Update

variable (atoms : Atoms) (p : NETRootInfo) (display : Display)

theorem sent_eq (dirty dirty2 : Flags) :
    Batch.send (p.sent atoms dirty dirty2) =
      Batch.send (readOrder.map fun b => (b.wanted dirty dirty2, b.requests atoms p.root)) := by
  have hread : (readOrder.map fun b => (b.wanted dirty dirty2, b.requests atoms p.root)) =
      p.sent atoms dirty dirty2 ++ [(dirty.has Property.supportingWMCheck, [])] := rfl
  rw [hread, Batch.send, Batch.send, List.flatMap_append, List.flatMap_singleton, ite_self,
    List.append_nil]

-- Every branch reads the answers to its own requests.
theorem update_eq_run (properties properties2 : Flags) :
    p.update atoms display properties properties2 =
      run ((reader atoms (properties &&& p.clientProperties) (properties2 &&& p.clientProperties2)
        display).step (Branch.requests atoms p.root) display.answer) p readOrder := by
  unfold update
  dsimp only
  rw [sent_eq]
  apply Batch.Reader.receive_send
    (reader atoms (properties &&& p.clientProperties) (properties2 &&& p.clientProperties2) display)
  intro b
  cases b <;> rfl

/-- What a branch other than that of the client list leaves alone. -/
structure SameClients (p q : NETRootInfo) : Prop where
  role : q.role = p.role
  clients : q.clients = p.clients
  count : q.clientsCount = p.clientsCount
  asked : q.clientProperties = p.clientProperties
  root : q.root = p.root

variable {p}

theorem SameClients.refl : SameClients p p := ⟨rfl, rfl, rfl, rfl, rfl⟩

theorem SameClients.trans {q r : NETRootInfo} (h : SameClients p q) (h' : SameClients q r) :
    SameClients p r :=
  ⟨h'.role.trans h.role, h'.clients.trans h.clients, h'.count.trans h.count,
    h'.asked.trans h.asked, h'.root.trans h.root⟩

theorem SameClients.listed {q : NETRootInfo} (h : SameClients p q) {m : Multiset XcbWindow}
    (hp : Listed p m) : Listed q m where
  client := h.role.trans hp.client
  windows := by rw [h.clients, hp.windows]
  sorted := by rw [h.clients]; exact hp.sorted
  count old hold := h.count.trans (hp.count old (h.clients.symm.trans hold))

theorem updateSupportedProperties_same (atom : XcbAtom) :
    SameClients p (updateSupportedProperties atoms p atom) := by
  unfold updateSupportedProperties
  split <;> exact ⟨rfl, rfl, rfl, rfl, rfl⟩

theorem foldl_updateSupportedProperties_same (list : List XcbAtom) :
    SameClients p (list.foldl (updateSupportedProperties atoms) p) := by
  induction list generalizing p with
  | nil => exact .refl
  | cons atom list ih => exact (updateSupportedProperties_same atoms atom).trans ih

theorem read_same {b : Branch} (hb : b ≠ .clientList) (replies : List Reply) :
    SameClients p (b.read atoms display replies p).1 ∧ (b.read atoms display replies p).2 = [] := by
  cases b with
  | clientList => exact absurd rfl hb
  | supported =>
      -- The flags are cleared first.
      have hclear : SameClients p { p with
          properties := 0, properties2 := 0, windowTypes := 0, states := 0, actions := 0 } :=
        ⟨rfl, rfl, rfl, rfl, rfl⟩
      exact ⟨hclear.trans (foldl_updateSupportedProperties_same atoms _), rfl⟩
  | workArea =>
      unfold Branch.read
      dsimp only
      split <;> exact ⟨⟨rfl, rfl, rfl, rfl, rfl⟩, rfl⟩
  | desktopLayout =>
      unfold Branch.read
      dsimp only
      split <;> split <;> exact ⟨⟨rfl, rfl, rfl, rfl, rfl⟩, rfl⟩
  | wmName =>
      unfold Branch.read
      dsimp only
      split
      · split <;> exact ⟨⟨rfl, rfl, rfl, rfl, rfl⟩, rfl⟩
      · exact ⟨.refl, rfl⟩
  | _ => exact ⟨⟨rfl, rfl, rfl, rfl, rfl⟩, rfl⟩

theorem step_same (dirty dirty2 : Flags) (requests : Branch → List PropertyRequest) {b : Branch}
    (hb : b ≠ .clientList) :
    SameClients p ((reader atoms dirty dirty2 display).step requests display.answer p b).1 ∧
      ((reader atoms dirty dirty2 display).step requests display.answer p b).2 = [] := by
  unfold Batch.Reader.step
  split
  · exact read_same atoms display hb _
  · exact ⟨.refl, rfl⟩

theorem run_same (dirty dirty2 : Flags) (requests : Branch → List PropertyRequest)
    (bs : List Branch) (hbs : .clientList ∉ bs) :
    SameClients p (run ((reader atoms dirty dirty2 display).step requests display.answer) p bs).1 ∧
      (run ((reader atoms dirty dirty2 display).step requests display.answer) p bs).2 = [] := by
  induction bs generalizing p with
  | nil => exact ⟨.refl, rfl⟩
  | cons b bs ih =>
      rw [List.mem_cons, not_or] at hbs
      have hstep := step_same (p := p) atoms display dirty dirty2 requests (Ne.symm hbs.1)
      rw [run_cons, hstep.2, (ih hbs.2).2]
      exact ⟨hstep.1.trans (ih hbs.2).1, rfl⟩

/-- The windows that the root property holds, as far as one request reads it. -/
def clientListValue (root : XcbWindow) : List XcbWindow :=
  XProperty.words (display root (atoms.atom .netClientList)) .window maxPropSize

-- Between branches that leave the client list alone, `update` does what its branch does.
theorem update_clientList (properties properties2 : Flags) :
    ∃ q, SameClients p q ∧
      let now := if (properties &&& p.clientProperties).has Property.clientList
        then q.updateClientList (clientListValue atoms display p.root) else (q, [])
      SameClients now.1 (p.update atoms display properties properties2).1 ∧
        (p.update atoms display properties properties2).2 = now.2 := by
  rw [update_eq_run]
  generalize properties &&& p.clientProperties = dirty
  generalize properties2 &&& p.clientProperties2 = dirty2
  have hclients : ∀ q, (reader atoms dirty dirty2 display).step (Branch.requests atoms p.root)
      display.answer q .clientList = if dirty.has Property.clientList
        then q.updateClientList (clientListValue atoms display p.root) else (q, []) := by
    intro q
    have hvalue := getArrayReply_getProperty (by decide : XcbAtom.window ≠ anyPropertyType)
      (display p.root (atoms.atom .netClientList)) maxPropSize
    unfold clientListValue
    rw [← hvalue]
    rfl
  have horder : readOrder = [Branch.supported] ++ .clientList :: readOrder.drop 2 := rfl
  rw [horder, run_append, run_cons]
  have hfirst := run_same (p := p) atoms display dirty dirty2 (Branch.requests atoms p.root)
    [.supported] (by decide)
  rw [hfirst.2, List.nil_append]
  refine ⟨_, hfirst.1, ?_⟩
  dsimp only
  rw [← hclients]
  generalize Batch.Reader.step _ _ _ _ Branch.clientList = now
  have hrest := run_same (p := now.1) atoms display dirty dirty2 (Branch.requests atoms p.root)
    (readOrder.drop 2) (by decide)
  rw [hrest.2, List.append_nil]
  exact ⟨hrest.1, rfl⟩

theorem Reports.refl (m : Multiset XcbWindow) : Reports [] m m :=
  ⟨[], [], rfl, fun _ => by rw [List.count_nil, Nat.sub_self],
    fun _ => by rw [List.count_nil, Nat.sub_self]⟩

-- Once everything is reported, the multisets agree.
theorem Reports.eq_of_nil {old new : Multiset XcbWindow} (h : Reports [] old new) : old = new := by
  rcases h with ⟨removed, added, hout, hremoved, hadded⟩
  have hout := List.append_eq_nil_iff.mp hout.symm
  have hr : removed = [] := List.map_eq_nil_iff.mp hout.1
  have ha : added = [] := List.map_eq_nil_iff.mp hout.2
  ext w
  have h1 := hremoved w
  have h2 := hadded w
  rw [hr, List.count_nil] at h1
  rw [ha, List.count_nil] at h2
  omega

-- The first call is about a window that has gone, or about one that has come.
theorem Reports.cons_cases {call : RootSignal} {calls : List RootSignal}
    {old new : Multiset XcbWindow} (h : Reports (call :: calls) old new) :
    (∃ w, call = .removeClient w ∧ w ∈ old ∧ Reports calls (old.erase w) new) ∨
      ∃ w, call = .addClient w ∧ old.count w < new.count w ∧ Reports calls (w ::ₘ old) new := by
  rcases h with ⟨removed, added, hout, hremoved, hadded⟩
  cases removed with
  | cons w removed =>
      rw [List.map_cons, List.cons_append] at hout
      injection hout with hcall hcalls
      apply Or.inl
      have hw := hremoved w
      rw [List.count_cons_self] at hw
      refine ⟨w, hcall, Multiset.count_pos.mp (by omega), removed, added, hcalls, fun v => ?_,
        fun v => ?_⟩
      · have hv := hremoved v
        by_cases hvw : v = w
        · rw [hvw, Multiset.count_erase_self]
          omega
        · rw [List.count_cons_of_ne (Ne.symm hvw)] at hv
          rw [Multiset.count_erase_of_ne hvw, hv]
      · have hv := hadded v
        by_cases hvw : v = w
        · rw [hvw] at hv
          rw [hvw, Multiset.count_erase_self]
          omega
        · rw [Multiset.count_erase_of_ne hvw, hv]
  | nil =>
      rw [List.map_nil, List.nil_append] at hout
      cases added with
      | nil => nomatch hout
      | cons w added =>
          rw [List.map_cons] at hout
          injection hout with hcall hcalls
          apply Or.inr
          have hw := hadded w
          rw [List.count_cons_self] at hw
          refine ⟨w, hcall, by omega, [], added, hcalls, fun v => ?_, fun v => ?_⟩
          · have hv := hremoved v
            rw [List.count_nil] at hv
            by_cases hvw : v = w
            · rw [hvw, Multiset.count_cons_self, List.count_nil]
              omega
            · rw [Multiset.count_cons_of_ne hvw, List.count_nil]
              omega
          · have hv := hadded v
            by_cases hvw : v = w
            · rw [hvw, Multiset.count_cons_self]
              omega
            · rw [List.count_cons_of_ne (Ne.symm hvw)] at hv
              rw [Multiset.count_cons_of_ne hvw, hv]

-- A window that comes was not there: a list names it once.
theorem comes_of_count_lt {old new : Multiset XcbWindow} {w : XcbWindow} (hnew : new.Nodup)
    (h : old.count w < new.count w) : w ∉ old ∧ w ∈ new := by
  have hone := Multiset.nodup_iff_count_le_one.mp hnew w
  apply And.intro
  · apply Multiset.count_eq_zero.mp
    omega
  · apply Multiset.count_pos.mp
    omega

theorem filter_ne_eq_erase {windows : List XcbWindow} (h : windows.Nodup) (w : XcbWindow) :
    windows.filter (· ≠ w) = windows.erase w := by
  rw [h.erase_eq_filter]
  apply List.filter_congr
  intro v _
  by_cases hv : v = w <;> simp [hv]

theorem coe_append_singleton (windows : List XcbWindow) (w : XcbWindow) :
    ((windows ++ [w] : List XcbWindow) : Multiset XcbWindow) = w ::ₘ ↑windows := by
  rw [Multiset.cons_coe]
  exact Multiset.coe_eq_coe.mpr (List.perm_append_singleton w windows)

-- The next call, to an object that keeps its windows in a list: what is left to report after it.
theorem Reports.next {call : RootSignal} {calls : List RootSignal} {windows : List XcbWindow}
    {new : Multiset XcbWindow} (h : Reports (call :: calls) ↑windows new) (hwindows : windows.Nodup)
    (hnew : new.Nodup) :
    (∃ w, call = .removeClient w ∧ w ∈ windows ∧ Reports calls ↑(windows.filter (· ≠ w)) new) ∨
      ∃ w, call = .addClient w ∧ w ∉ windows ∧ w ∈ new ∧ Reports calls ↑(windows ++ [w]) new := by
  rcases h.cons_cases with ⟨w, hcall, hw, hrest⟩ | ⟨w, hcall, hcount, hrest⟩
  · apply Or.inl
    refine ⟨w, hcall, hw, ?_⟩
    rw [filter_ne_eq_erase hwindows w]
    exact hrest
  · apply Or.inr
    have hcomes := comes_of_count_lt hnew hcount
    refine ⟨w, hcall, hcomes.1, hcomes.2, ?_⟩
    rw [coe_append_singleton]
    exact hrest

theorem nodup_append_one {windows : List XcbWindow} (h : windows.Nodup) {w : XcbWindow}
    (hw : w ∉ windows) : (windows ++ [w]).Nodup := by
  rw [← List.concat_eq_append]
  exact List.Nodup.concat hw h

-- One update, whatever else it reads.
theorem update_listed {m : Multiset XcbWindow} (h : Listed p m) (properties properties2 : Flags) :
    let m' := if (properties &&& p.clientProperties).has Property.clientList
      then (clientListValue atoms display p.root : Multiset XcbWindow) else m
    Listed (p.update atoms display properties properties2).1 m' ∧
      Reports (p.update atoms display properties properties2).2 m m' := by
  have hupdate := update_clientList (p := p) atoms display properties properties2
  rcases hupdate with ⟨q, hq, hnow, hout⟩
  dsimp only
  rw [hout]
  by_cases hread : (properties &&& p.clientProperties).has Property.clientList = true
  · rw [if_pos hread] at hnow ⊢
    rw [if_pos hread]
    have hspec := updateClientList_spec (hq.listed h) (clientListValue atoms display p.root)
    exact ⟨hnow.listed hspec.1, hspec.2⟩
  · rw [if_neg hread] at hnow ⊢
    rw [if_neg hread]
    exact ⟨hnow.listed (hq.listed h), .refl m⟩

theorem update_asked (properties properties2 : Flags) :
    (p.update atoms display properties properties2).1.clientProperties = p.clientProperties ∧
      (p.update atoms display properties properties2).1.root = p.root := by
  have hupdate := update_clientList (p := p) atoms display properties properties2
  rcases hupdate with ⟨q, hq, hnow, -⟩
  rw [hnow.asked, hnow.root, ← hq.asked, ← hq.root]
  split
  · unfold updateClientList storeClients
    dsimp only
    split <;> exact ⟨rfl, rfl⟩
  · exact ⟨rfl, rfl⟩

end Update

/-! ## Runs -/

/-- A use of the object that may read the client list, with the properties it meets. -/
inductive Call where
  | update (display : Display) (properties properties2 : Flags)
  | event (display : Display) (e : Event)

def Call.step (atoms : Atoms) (p : NETRootInfo) : Call → NETRootInfo × List RootSignal
  | .update display properties properties2 => p.update atoms display properties properties2
  | .event display e => (p.event atoms display e).1

/-- The value of the client list when the call reads it: the flag is asked for and handed to `update`,
or the property is reported as changed. -/
def Call.reads (atoms : Atoms) (root : XcbWindow) (asked : Flags) : Call → Option (List XcbWindow)
  | .update display properties _ =>
      if properties.has Property.clientList && asked.has Property.clientList
      then some (clientListValue atoms display root) else none
  | .event display (.propertyNotify atom) =>
      if atom = atoms.atom .netClientList ∧ asked.has Property.clientList
      then some (clientListValue atoms display root) else none
  | .event _ (.clientMessage ..) => none

/-- The client multiset after a call, by the property values alone. -/
def clientsRead (atoms : Atoms) (root : XcbWindow) (asked : Flags) (m : Multiset XcbWindow)
    (call : Call) : Multiset XcbWindow :=
  match call.reads atoms root asked with
  | some value => ↑value
  | none => m

/-- A listener that keeps the clients by the calls alone; `none` if it misses one that is removed. -/
def applyCall (m : Multiset XcbWindow) : RootSignal → Option (Multiset XcbWindow)
  | .addClient w => some (w ::ₘ m)
  | .removeClient w => if w ∈ m then some (m.erase w) else none
  | _ => some m

theorem replay_remove {m : Multiset XcbWindow} {removed : List XcbWindow}
    (h : (removed : Multiset XcbWindow) ≤ m) :
    replay applyCall m (removed.map .removeClient) = some (m - removed) := by
  induction removed generalizing m with
  | nil => exact congrArg some (Multiset.sub_zero m).symm
  | cons w removed ih =>
      rw [← Multiset.cons_coe] at h ⊢
      have hw : w ∈ m := Multiset.mem_of_le h (Multiset.mem_cons_self w _)
      have hrest : (removed : Multiset XcbWindow) ≤ m.erase w := by
        rw [← Multiset.cons_le_cons_iff w, Multiset.cons_erase hw]
        exact h
      rw [List.map_cons, replay_cons, applyCall, if_pos hw, Multiset.sub_cons]
      exact ih hrest

theorem replay_add (m : Multiset XcbWindow) (added : List XcbWindow) :
    replay applyCall m (added.map .addClient) = some (m + added) := by
  induction added generalizing m with
  | nil => exact congrArg some (Multiset.add_zero m).symm
  | cons w added ih =>
      rw [List.map_cons, replay_cons, applyCall, ← Multiset.cons_coe, Multiset.add_cons,
        ← Multiset.cons_add]
      exact ih (w ::ₘ m)

-- The calls lead the listener from the old multiset to the new one.
theorem Reports.replay {out : List RootSignal} {old new : Multiset XcbWindow}
    (h : Reports out old new) : Machine.replay applyCall old out = some new := by
  rcases h with ⟨removed, added, rfl, hremoved, hadded⟩
  have hr : (removed : Multiset XcbWindow) = old - new := by
    ext w
    rw [Multiset.coe_count, Multiset.count_sub, hremoved]
  have ha : (added : Multiset XcbWindow) = new - old := by
    ext w
    rw [Multiset.coe_count, Multiset.count_sub, hadded]
  have hle : (removed : Multiset XcbWindow) ≤ old := hr ▸ Multiset.sub_le_self old new
  rw [replay_append, replay_remove hle, Option.bind_some, replay_add, hr, ha,
    SortedDiff.sub_add_sub]

-- `_NET_CLIENT_LIST` is the one atom that makes the client list dirty.
theorem notify_clientList (atoms : Atoms) (atom : XcbAtom) :
    ((lookupAtom atoms.atom notifyChain atom).getD {}).properties.has Property.clientList =
      decide (atom = atoms.atom .netClientList) := by
  by_cases h : atom = atoms.atom .netClientList
  · -- It is the first of the chain.
    unfold notifyChain
    rw [decide_eq_true h, lookupAtom_cons, if_pos h]
    decide
  · rw [decide_eq_false h]
    have hchain : ∀ e ∈ notifyChain, e.1 ≠ .netClientList →
        e.2.properties.has Property.clientList = false := by decide
    cases hlookup : lookupAtom atoms.atom notifyChain atom with
    | none => exact Flags.has_zero _
    | some dirty =>
        rcases mem_of_lookupAtom hlookup with ⟨name, hmem, hatom⟩
        exact hchain (name, dirty) hmem fun hname => h (hatom.trans (congrArg atoms.atom hname))

-- One call of a client's object.
theorem Call.step_listed (atoms : Atoms) {p : NETRootInfo} {m : Multiset XcbWindow} (h : Listed p m)
    (call : Call) :
    Listed (call.step atoms p).1 (clientsRead atoms p.root p.clientProperties m call) ∧
      Reports (call.step atoms p).2 m (clientsRead atoms p.root p.clientProperties m call) ∧
      (call.step atoms p).1.clientProperties = p.clientProperties ∧
      (call.step atoms p).1.root = p.root := by
  have hupdate : ∀ display properties properties2,
      clientsRead atoms p.root p.clientProperties m call =
        (if (properties &&& p.clientProperties).has Property.clientList
          then (clientListValue atoms display p.root : Multiset XcbWindow) else m) →
      call.step atoms p = p.update atoms display properties properties2 →
      Listed (call.step atoms p).1 (clientsRead atoms p.root p.clientProperties m call) ∧
      Reports (call.step atoms p).2 m (clientsRead atoms p.root p.clientProperties m call) ∧
      (call.step atoms p).1.clientProperties = p.clientProperties ∧
      (call.step atoms p).1.root = p.root := by
    intro display properties properties2 hread hstep
    rw [hread, hstep]
    have hspec := update_listed atoms display h properties properties2
    exact ⟨hspec.1, hspec.2, update_asked atoms display properties properties2⟩
  cases call with
  | update display properties properties2 =>
      apply hupdate display properties properties2 _ rfl
      rw [Flags.has_and]
      unfold clientsRead reads
      dsimp only
      split <;> simp_all
  | event display e =>
      cases e with
      | propertyNotify atom =>
          apply hupdate display _ _ _ rfl
          rw [Flags.has_and, notify_clientList]
          unfold clientsRead reads
          dsimp only
          split <;> simp_all
      | clientMessage format window type data =>
          -- Client messages are for window managers.
          have hrole : ¬ (p.role = .windowManager ∧ format = 32) := by
            rw [h.client]
            exact fun h => nomatch h.1
          have hstep : Call.step atoms p (.event display (.clientMessage format window type data)) =
              (p, []) := by
            show (NETRootInfo.event atoms display p _).1 = _
            unfold NETRootInfo.event
            dsimp only
            rw [if_neg hrole]
          rw [hstep]
          exact ⟨h, .refl m, rfl, rfl⟩

-- The change of one property, for an object that asks for the client list.
theorem event_listed (atoms : Atoms) {p : NETRootInfo} {last : List XcbWindow} (h : Listed p ↑last)
    (hasked : p.clientProperties.has Property.clientList = true) (display : Display) (atom : XcbAtom) :
    let last' := if atom = atoms.atom .netClientList then clientListValue atoms display p.root else last
    let handled := (p.event atoms display (.propertyNotify atom)).1
    Listed handled.1 ↑last' ∧ Reports handled.2 ↑last ↑last' ∧
      handled.1.clientProperties = p.clientProperties ∧ handled.1.root = p.root := by
  have hstep := Call.step_listed atoms h (.event display (.propertyNotify atom))
  have hread : clientsRead atoms p.root p.clientProperties ↑last (.event display (.propertyNotify atom)) =
      ↑(if atom = atoms.atom .netClientList then clientListValue atoms display p.root else last) := by
    unfold clientsRead Call.reads
    dsimp only
    by_cases hatom : atom = atoms.atom .netClientList
    · rw [if_pos ⟨hatom, hasked⟩, if_pos hatom]
    · rw [if_neg fun hboth => hatom hboth.1, if_neg hatom]
  rw [hread] at hstep
  exact hstep

theorem newClient_listed (root : XcbWindow) (rootSize : NETSize) (properties properties2 : Flags) :
    Listed (newClient root rootSize properties properties2) 0 :=
  ⟨rfl, rfl, List.Pairwise.nil, fun _ h => nomatch h⟩

-- After any calls the array is that of the value read last.
theorem run_listed (atoms : Atoms) (root : XcbWindow) (rootSize : NETSize)
    (properties properties2 : Flags) (calls : List Call) :
    let p := (run (fun p c => Call.step atoms p c)
      (newClient root rootSize properties properties2) calls).1
    Listed p (calls.foldl (clientsRead atoms root properties) 0) ∧
      p.clientProperties = properties ∧ p.root = root := by
  apply run_refines (fun p m => Listed p m ∧ p.clientProperties = properties ∧ p.root = root)
    (clientsRead atoms root properties)
  · intro p m call h
    rcases h with ⟨hlisted, hasked, hroot⟩
    have hstep := call.step_listed atoms hlisted
    rw [hasked, hroot] at hstep
    exact ⟨hstep.1, hstep.2.2⟩
  · exact ⟨newClient_listed root rootSize properties properties2, rfl, rfl⟩

/-- Every call of a client's object reports exactly how the multiset of `_NET_CLIENT_LIST` has changed
since it was read last, and a listener that follows the calls has the value that was read. -/
theorem clientList_replay (atoms : Atoms) (root : XcbWindow) (rootSize : NETSize)
    (properties properties2 : Flags) (calls : List Call) (call : Call) :
    let read := clientsRead atoms root properties
    let p := (run (fun p c => Call.step atoms p c)
      (newClient root rootSize properties properties2) calls).1
    let old := calls.foldl read 0
    let new := (calls ++ [call]).foldl read 0
    Reports (call.step atoms p).2 old new ∧
      Machine.replay applyCall old (call.step atoms p).2 = some new := by
  dsimp only
  rw [List.foldl_append, List.foldl_cons, List.foldl_nil]
  have hrun := run_listed atoms root rootSize properties properties2 calls
  rcases hrun with ⟨hlisted, hasked, hroot⟩
  have hstep := call.step_listed atoms hlisted
  rw [hasked, hroot] at hstep
  exact ⟨hstep.2.1, hstep.2.1.replay⟩

end NETRootInfo

end KWindowSystem
