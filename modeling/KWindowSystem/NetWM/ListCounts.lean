import KWindowSystem.NetWM.RootLists

/-!
# Counts of the client lists

The array of a client list and its count are two fields that every writer has to keep together.  The
getters return the count as an `int`.
-/

open Machine

namespace KWindowSystem

open NET

namespace NETRootInfo

def clientListCount (p : NETRootInfo) : Int32 := Int32.ofNat p.clientsCount

def clientListStackingCount (p : NETRootInfo) : Int32 := Int32.ofNat p.stackingCount

/-! ## Objects and what happens to them -/

/-- The two constructors. -/
inductive Construction where
  | client (root : XcbWindow) (rootSize : NETSize) (properties properties2 : Flags)
  | windowManager (root supportWindow : XcbWindow) (wmName : Qt.QByteArray)
      (properties windowTypes states properties2 actions : Flags)

/-- Before `activate`, which calls `update`. -/
def Construction.object : Construction → NETRootInfo
  | .client root rootSize properties properties2 => newClient root rootSize properties properties2
  | .windowManager root supportWindow wmName properties windowTypes states properties2 actions =>
      newWindowManager root supportWindow wmName properties windowTypes states properties2 actions

/-- The properties are what `update` finds, whoever has written them. -/
inductive ListEvent where
  | setClientList (windows : List XcbWindow)
  | setClientListStacking (windows : List XcbWindow)
  | update (display : Display) (properties properties2 : Flags)

section Steps

variable (atoms : Atoms)

def listStep (p : NETRootInfo) : ListEvent → NETRootInfo × List RootSignal
  | .setClientList windows => ((p.setClientList atoms windows).1, [])
  | .setClientListStacking windows => ((p.setClientListStacking atoms windows).1, [])
  | .update display properties properties2 => p.update atoms display properties properties2

/-- The count is the length of the array, and there is no array exactly for no windows. -/
def CountAgrees (array : WindowArray) (count : Int32) : Prop :=
  count.toInt = (array.getD []).length ∧ (array = none ↔ count = 0)

/-- Both lists agree with their counts. -/
def CountsAgree (p : NETRootInfo) : Prop :=
  CountAgrees p.clients p.clientListCount ∧ CountAgrees p.stacking p.clientListStackingCount

/-- A list is set that an `int` can count, and no client list is read as empty when there was one. -/
def KeepsCount (p : NETRootInfo) : ListEvent → Prop
  | .setClientList windows => p.role = .windowManager → windows.length < 2 ^ 31
  | .setClientListStacking windows => p.role = .windowManager → windows.length < 2 ^ 31
  | .update display properties _ =>
      (properties &&& p.clientProperties).has Property.clientList = true →
        clientListValue atoms display p.root = [] → p.clientListCount = 0

end Steps

/-! ## One list -/

-- An `int` holds a number exactly below 2^31.
theorem toInt_ofNat_iff (n : Nat) : (Int32.ofNat n).toInt = n ↔ n < 2 ^ 31 := by
  have hsize : Int32.size = 2 ^ 32 := rfl
  rw [Int32.toInt_ofNat', hsize, Int.bmod_def]
  split <;> omega

theorem ofNat_eq_zero_iff {n : Nat} (h : n < 2 ^ 31) : Int32.ofNat n = 0 ↔ n = 0 := by
  rw [← Int32.toInt_inj, (toInt_ofNat_iff n).mpr h]
  exact Int.natCast_eq_zero

theorem getD_windowArray (windows : List XcbWindow) : (windowArray windows).getD [] = windows := by
  unfold windowArray
  split
  · rename_i hnil
    exact hnil.symm
  · rfl

theorem windowArray_eq_none_iff (windows : List XcbWindow) :
    windowArray windows = none ↔ windows.length = 0 := by
  unfold windowArray
  rw [List.length_eq_zero_iff]
  split
  · rename_i hnil
    exact iff_of_true rfl hnil
  · rename_i hne
    exact iff_of_false (fun h => nomatch h) hne

-- An array that is stored together with its length.
theorem countAgrees_windowArray_iff (windows : List XcbWindow) :
    CountAgrees (windowArray windows) (Int32.ofNat windows.length) ↔ windows.length < 2 ^ 31 := by
  unfold CountAgrees
  rw [getD_windowArray, toInt_ofNat_iff]
  apply and_iff_left_of_imp
  intro hlt
  rw [windowArray_eq_none_iff, ofNat_eq_zero_iff hlt]

-- What one request reads.
theorem length_words_lt (property : Option XProperty) (type : XcbAtom) :
    (XProperty.words property type maxPropSize).length < 2 ^ 31 := by
  have hle : (XProperty.words property type maxPropSize).length ≤ maxPropSize := by
    unfold XProperty.words
    split
    · split
      · exact List.length_take_le _ _
      · exact Nat.zero_le _
    · exact Nat.zero_le _
  exact hle.trans_lt (by decide)

/-! ## A step -/

section Steps

variable (atoms : Atoms)

theorem storeClients_eq (p : NETRootInfo) (clients : List XcbWindow) :
    ((p.storeClients clients).clients, (p.storeClients clients).clientsCount) =
      (windowArray clients, if clients = [] then p.clientsCount else clients.length) := by
  unfold storeClients windowArray
  dsimp only
  split <;> rfl

-- What `update` makes of the client list.
theorem clients_update (p : NETRootInfo) (display : Display) (properties properties2 : Flags) :
    ((p.update atoms display properties properties2).1.clients,
        (p.update atoms display properties properties2).1.clientsCount) =
      if (properties &&& p.clientProperties).has Property.clientList then
        let clients := (clientListValue atoms display p.root).insertionSort (· ≤ ·)
        (windowArray clients, if clients = [] then p.clientsCount else clients.length)
      else (p.clients, p.clientsCount) := by
  have howned := owned_update atoms display (b := .clientList) (fun h => nomatch h) (fun h => nomatch h) p
    properties properties2
  have hvalue := getArrayReply_getProperty (by decide : XcbAtom.window ≠ anyPropertyType)
    (display p.root (atoms.atom .netClientList)) maxPropSize
  refine Eq.trans howned ?_
  unfold stepOwned clientListValue
  rw [← hvalue, ← storeClients_eq]
  rfl

theorem stacking_update (p : NETRootInfo) (display : Display) (properties properties2 : Flags) :
    ((p.update atoms display properties properties2).1.stacking,
        (p.update atoms display properties properties2).1.stackingCount) =
      if (properties &&& p.clientProperties).has Property.clientListStacking then
        let wins := XProperty.words (display p.root (atoms.atom .netClientListStacking)) .window maxPropSize
        (windowArray wins, wins.length)
      else (p.stacking, p.stackingCount) := by
  have howned := owned_update atoms display (b := .clientListStacking) (fun h => nomatch h) (fun h => nomatch h)
    p properties properties2
  have hvalue := getArrayReply_getProperty (by decide : XcbAtom.window ≠ anyPropertyType)
    (display p.root (atoms.atom .netClientListStacking)) maxPropSize
  refine Eq.trans howned ?_
  unfold stepOwned
  rw [← hvalue]
  rfl

theorem setClientList_counts {p : NETRootInfo} (h : p.CountsAgree) (windows : List XcbWindow) :
    (p.setClientList atoms windows).1.CountsAgree ↔ (p.role = .windowManager → windows.length < 2 ^ 31) := by
  unfold setClientList
  split
  · rename_i hrole
    exact iff_of_true h fun hmanager => absurd hmanager hrole
  · rename_i hrole
    rw [← countAgrees_windowArray_iff, imp_iff_right (not_not.mp hrole)]
    exact and_iff_left h.2

theorem setClientListStacking_counts {p : NETRootInfo} (h : p.CountsAgree) (windows : List XcbWindow) :
    (p.setClientListStacking atoms windows).1.CountsAgree ↔
      (p.role = .windowManager → windows.length < 2 ^ 31) := by
  unfold setClientListStacking
  split
  · rename_i hrole
    exact iff_of_true h fun hmanager => absurd hmanager hrole
  · rename_i hrole
    rw [← countAgrees_windowArray_iff, imp_iff_right (not_not.mp hrole)]
    exact and_iff_right h.1

theorem update_stackingAgrees {p : NETRootInfo} (h : p.CountsAgree) (display : Display)
    (properties properties2 : Flags) :
    CountAgrees (p.update atoms display properties properties2).1.stacking
      (p.update atoms display properties properties2).1.clientListStackingCount := by
  have hupdate := stacking_update atoms p display properties properties2
  unfold clientListStackingCount
  split at hupdate
  · injection hupdate with hstacking hcount
    rw [hstacking, hcount]
    exact (countAgrees_windowArray_iff _).mpr (length_words_lt _ _)
  · injection hupdate with hstacking hcount
    rw [hstacking, hcount]
    exact h.2

theorem update_clientsAgree {p : NETRootInfo} (h : p.CountsAgree) (display : Display)
    (properties properties2 : Flags) :
    CountAgrees (p.update atoms display properties properties2).1.clients
        (p.update atoms display properties properties2).1.clientListCount ↔
      p.KeepsCount atoms (.update display properties properties2) := by
  have hupdate := clients_update atoms p display properties properties2
  unfold clientListCount KeepsCount
  dsimp only
  split at hupdate
  · rename_i hread
    injection hupdate with hclients hcount
    rw [hclients, hcount, imp_iff_right hread]
    have hlength := List.length_insertionSort (· ≤ ·) (clientListValue atoms display p.root)
    by_cases hnil : clientListValue atoms display p.root = []
    · -- The count is that of the list before.
      rw [hnil, imp_iff_right rfl]
      show (Int32.ofNat p.clientsCount).toInt = 0 ∧ (none = none ↔ Int32.ofNat p.clientsCount = 0) ↔ _
      constructor
      · intro hagrees
        exact hagrees.2.mp rfl
      · intro hzero
        rw [show Int32.ofNat p.clientsCount = 0 from hzero]
        exact ⟨rfl, iff_of_true rfl rfl⟩
    · have hne : (clientListValue atoms display p.root).insertionSort (· ≤ ·) ≠ [] := by
        intro hempty
        rw [hempty] at hlength
        exact hnil (List.length_eq_zero_iff.mp hlength.symm)
      rw [if_neg hne, countAgrees_windowArray_iff, hlength]
      exact iff_of_true (length_words_lt _ _) fun hempty => absurd hempty hnil
  · rename_i hread
    injection hupdate with hclients hcount
    rw [hclients, hcount]
    exact iff_of_true h.1 fun hread' => absurd hread' hread

theorem countsAgree_step_iff {p : NETRootInfo} (h : p.CountsAgree) (e : ListEvent) :
    (p.listStep atoms e).1.CountsAgree ↔ p.KeepsCount atoms e := by
  cases e with
  | setClientList windows => exact setClientList_counts atoms h windows
  | setClientListStacking windows => exact setClientListStacking_counts atoms h windows
  | update display properties properties2 =>
      rw [← update_clientsAgree atoms h]
      exact and_iff_left (update_stackingAgrees atoms h display properties properties2)

end Steps

/-! ## Runs -/

theorem countsAgree_object (c : Construction) : c.object.CountsAgree := by
  cases c <;> exact ⟨⟨rfl, iff_of_true rfl rfl⟩, rfl, iff_of_true rfl rfl⟩

/-- Both lists of an object agree with their counts all along exactly in the runs in which every list
that is set can be counted by an `int`, and in which the client list is not read as empty after it was
not. -/
theorem listCounts_agree_iff (atoms : Atoms) (c : Construction) (es : List ListEvent) :
    (∀ n, (run (listStep atoms) c.object (es.take n)).1.CountsAgree) ↔
      Along (listStep atoms) (KeepsCount atoms) c.object es :=
  always_iff_along (fun _ => True) CountsAgree (KeepsCount atoms) (fun _ _ _ => trivial)
    (fun _ e _ h => countsAgree_step_iff atoms h e) es trivial (countsAgree_object c)

-- The last client goes, and the count stays.
theorem emptied_list_counted :
    let display (windows : List XcbWindow) : Display := fun _ property =>
      if property = Atoms.inOrder.atom .netClientList then some ⟨.window, .data32 windows⟩ else none
    let all := mask Property.clientList
    let p := (run (listStep .inOrder) (Construction.client 1 ⟨800, 600⟩ all 0).object
      [.update (display [9, 5]) all 0, .update (display []) all 0]).1
    p.clients = none ∧ p.clientListCount = 2 := by
  decide +kernel

end NETRootInfo

end KWindowSystem
