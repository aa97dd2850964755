import KWindowSystem.NetWM.ClientRequests
import KWindowSystem.NetWM.ListCounts
import KWindowSystem.NetWM.RootConvergence

/-!
# Desktop names

`_NET_DESKTOP_NAMES` holds the names of all desktops, each with a NUL behind it; a desktop without a name
has the empty one there.  The reader splits the text at the NULs and finds the same names.
-/

namespace KWindowSystem

open NET Qt

def nstrdup (s : Option QByteArray) : Option QByteArray := s.map cString

namespace NETRootInfo

/-! ## Setting a name -/

/-- The desktops that have a place in the property. -/
def nameCount (p : NETRootInfo) : Nat := max p.numberOfDesktops.toInt.toNat p.desktopNames.size

/-- What the first loop of `setDesktopName` adds for a name, in `unsigned int` arithmetic. -/
def nameLength : Option QByteArray → UInt32
  | some name => UInt32.ofNat (cString name).length + 1
  | none => 1

/-- What the second loop writes for it. -/
def nameBytes : Option QByteArray → QByteArray
  | some name => cString name ++ [0]
  | none => [0]

def desktopNamesText (p : NETRootInfo) : QByteArray :=
  (List.range p.nameCount).flatMap fun i => nameBytes (p.desktopNames.get i)

def desktopNamesLength (p : NETRootInfo) : UInt32 :=
  (List.range p.nameCount).foldl (fun proplen i => proplen + nameLength (p.desktopNames.get i)) 0

/-- Whatever the role. -/
def setDesktopName (atoms : Atoms) (p : NETRootInfo) (desktop : Int32) (desktopName : Option QByteArray) :
    NETRootInfo × Option Change :=
  if desktop < 1 then (p, none)
  else
    let p := { p with desktopNames := p.desktopNames.set (desktop - 1).toInt.toNat (nstrdup desktopName) }
    ({ p with desktopNames := p.desktopNames.readTo p.nameCount },
      some ⟨atoms.atom .netDesktopNames,
        some ⟨atoms.atom .utf8String, .data8 (p.desktopNamesText.take p.desktopNamesLength.toNat)⟩⟩)

/-- The display after a call, which may have set a property of the root window. -/
def afterCall (root : XcbWindow) (change : Option Change) (display : Display) : Display :=
  match change with
  | some change => change.apply root display
  | none => display

/-- The calls, and the updates that come between them, with what is on the display then. -/
inductive NameCall where
  | setDesktopName (desktop : Int32) (desktopName : Option QByteArray)
  | setNumberOfDesktops (numberOfDesktops : Int32)
  | update (display : Display) (properties properties2 : Flags)

def callNames (atoms : Atoms) (p : NETRootInfo) : NameCall → NETRootInfo
  | .setDesktopName desktop desktopName => (p.setDesktopName atoms desktop desktopName).1
  | .setNumberOfDesktops numberOfDesktops => (p.setNumberOfDesktops atoms numberOfDesktops).1
  | .update display properties properties2 => (p.update atoms display properties properties2).1

/-! ## The names that are kept -/

/-- The names are C strings, and there are none behind the end of the array. -/
structure NamesKept (p : NETRootInfo) : Prop where
  text : ∀ i name, p.desktopNames.get i = some name → 0 ∉ name
  clean : p.desktopNames.Clean

theorem zero_notMem_cString (bytes : QByteArray) : 0 ∉ cString bytes := by
  intro h
  have hne := List.mem_takeWhile_imp h
  simp at hne

theorem NamesKept.set {p : NETRootInfo} (h : p.NamesKept) (index : Nat) (desktopName : Option QByteArray) :
    NamesKept { p with desktopNames := p.desktopNames.set index (nstrdup desktopName) } where
  text := by
    intro i name
    dsimp only
    rw [NETRArray.get_set]
    split
    · intro hname
      rcases Option.map_eq_some_iff.mp hname with ⟨s, _, hs⟩
      rw [← hs]
      exact zero_notMem_cString s
    · exact h.text i name
  clean := NETRArray.clean_set h.clean index _

theorem NamesKept.setDesktopName (atoms : Atoms) {p : NETRootInfo} (h : p.NamesKept) (desktop : Int32)
    (desktopName : Option QByteArray) : (p.setDesktopName atoms desktop desktopName).1.NamesKept := by
  unfold NETRootInfo.setDesktopName
  split
  · exact h
  · have hset := h.set (desktop - 1).toInt.toNat desktopName
    refine ⟨?_, NETRArray.clean_readTo hset.clean _⟩
    intro i name
    dsimp only
    rw [NETRArray.get_readTo]
    exact hset.text i name

/-- The names that an update reads. -/
def namesRead (atoms : Atoms) (display : Display) (root : XcbWindow) : List QByteArray :=
  getStringlistReply (display.answer
    ⟨root, atoms.atom .netDesktopNames, atoms.atom .utf8String, maxPropSize⟩) (atoms.atom .utf8String)

theorem desktopNames_update (atoms : Atoms) (p : NETRootInfo) (display : Display)
    (properties properties2 : Flags) :
    (p.update atoms display properties properties2).1.desktopNames =
      if (properties &&& p.clientProperties).has Property.desktopNames then
        NETRArray.new.setFrom 0 ((namesRead atoms display p.root).map nstrndup)
      else p.desktopNames :=
  owned_update atoms display (b := .desktopNames) (fun h => nomatch h) (fun h => nomatch h) p properties
    properties2

theorem NamesKept.update (atoms : Atoms) {p : NETRootInfo} (h : p.NamesKept) (display : Display)
    (properties properties2 : Flags) : (p.update atoms display properties properties2).1.NamesKept := by
  have hupdate := desktopNames_update atoms p display properties properties2
  split at hupdate
  · refine ⟨?_, ?_⟩
    · intro i name
      rw [hupdate, NETRArray.get_setFrom]
      split
      · intro hname
        rw [List.getD_eq_getElem?_getD, List.getElem?_map] at hname
        cases hs : (namesRead atoms display p.root)[i - 0]? with
        | none =>
            rw [hs] at hname
            cases hname
        | some s =>
            rw [hs] at hname
            have hname : nstrndup s = some name := hname
            unfold nstrndup at hname
            split at hname
            · cases hname
            · cases hname
              exact zero_notMem_cString s
      · rw [NETRArray.get_new]
        intro hname
        cases hname
    · rw [hupdate]
      exact NETRArray.clean_setFrom NETRArray.clean_new 0 _
  · refine ⟨?_, ?_⟩
    · rw [hupdate]
      exact h.text
    · rw [hupdate]
      exact h.clean

theorem NamesKept.call (atoms : Atoms) {p : NETRootInfo} (h : p.NamesKept) (c : NameCall) :
    (p.callNames atoms c).NamesKept := by
  cases c with
  | setDesktopName desktop desktopName => exact h.setDesktopName atoms desktop desktopName
  | setNumberOfDesktops numberOfDesktops =>
      show NamesKept (setNumberOfDesktops atoms p numberOfDesktops).1
      unfold setNumberOfDesktops
      split
      · exact ⟨h.text, h.clean⟩
      · exact h
  | update display properties properties2 => exact h.update atoms display properties properties2

theorem namesKept_calls (atoms : Atoms) (c : Construction) (calls : List NameCall) :
    (calls.foldl (callNames atoms) c.object).NamesKept := by
  have hobject : c.object.NamesKept := by
    have hnew : c.object.desktopNames = .new := by cases c <;> rfl
    refine ⟨?_, ?_⟩
    · intro i name
      rw [hnew, NETRArray.get_new]
      intro hname
      cases hname
    · rw [hnew]
      exact NETRArray.clean_new
  generalize c.object = p at hobject
  induction calls generalizing p with
  | nil => exact hobject
  | cons call calls ih => exact ih _ (hobject.call atoms call)

/-! ## Writing and reading -/

/-- The name of a desktop as the property has it. -/
def nameOf (p : NETRootInfo) (i : Nat) : QByteArray := (p.desktopNames.get i).getD []

theorem NamesKept.nameBytes {p : NETRootInfo} (h : p.NamesKept) (i : Nat) :
    nameBytes (p.desktopNames.get i) = p.nameOf i ++ [0] := by
  unfold nameOf
  cases hname : p.desktopNames.get i with
  | none => rfl
  | some name =>
      show cString name ++ [0] = name ++ [0]
      rw [cString_of_nul (h.text i name hname)]

theorem NamesKept.nstrndup {p : NETRootInfo} (h : p.NamesKept) (i : Nat) :
    (KWindowSystem.nstrndup (p.nameOf i)).getD [] = (p.desktopNames.get i).getD [] := by
  unfold KWindowSystem.nstrndup nameOf
  split
  · rename_i hempty
    exact hempty.symm
  · cases hname : p.desktopNames.get i with
    | none => rfl
    | some name => exact cString_of_nul (h.text i name hname)

-- The first loop counts what the second one writes.
theorem desktopNamesLength_eq (p : NETRootInfo) :
    p.desktopNamesLength = UInt32.ofNat p.desktopNamesText.length := by
  unfold desktopNamesLength desktopNamesText
  induction p.nameCount with
  | zero => rfl
  | succ n ih =>
      have hone : ∀ name, nameLength name = UInt32.ofNat (nameBytes name).length := by
        intro name
        cases name with
        | none => rfl
        | some name =>
            show _ = UInt32.ofNat (cString name ++ [0]).length
            rw [List.length_append, UInt32.ofNat_add]
            rfl
      rw [List.range_succ, List.foldl_append, List.foldl_cons, List.foldl_nil, ih, List.flatMap_append,
        List.length_append, UInt32.ofNat_add, hone, List.flatMap_cons, List.flatMap_nil, List.append_nil]

-- What the reader makes of names that are written one after the other, each with a NUL behind it.
theorem splitOn_names {names : List QByteArray} (hsome : names ≠ []) (hnames : ∀ name ∈ names, 0 ∉ name) :
    names.flatMap (· ++ [0]) ≠ [] ∧ (dropNul (names.flatMap (· ++ [0]))).splitOn 0 = names := by
  have hjoin : ∀ {names : List QByteArray}, names ≠ [] →
      names.flatMap (· ++ [0]) = [0].intercalate names ++ [0] := by
    intro names hsome
    induction names with
    | nil => exact absurd rfl hsome
    | cons name names ih =>
        cases names with
        | nil => simp
        | cons next names =>
            rw [List.flatMap_cons, ih (List.cons_ne_nil _ _), List.intercalate_cons_cons]
            simp
  rw [hjoin hsome]
  refine ⟨by simp, ?_⟩
  rw [dropNul, if_pos (by simp), List.dropLast_concat]
  exact List.splitOn_intercalate 0 hnames hsome

theorem namesRead_written (atoms : Atoms) {p : NETRootInfo} (h : p.NamesKept) (hsome : 0 < p.nameCount)
    (hfits : p.desktopNamesText.length ≤ 4 * maxPropSize) {display : Display} {root : XcbWindow}
    (hdisplay : display root (atoms.atom .netDesktopNames) =
      some ⟨atoms.atom .utf8String, .data8 (p.desktopNamesText.take p.desktopNamesLength.toNat)⟩) :
    namesRead atoms display root = (List.range p.nameCount).map p.nameOf := by
  have hlength : p.desktopNamesLength.toNat = p.desktopNamesText.length := by
    rw [desktopNamesLength_eq]
    exact UInt32.toNat_ofNat_of_lt' (hfits.trans_lt (by decide))
  have htext : p.desktopNamesText = ((List.range p.nameCount).map p.nameOf).flatMap (· ++ [0]) := by
    unfold desktopNamesText
    rw [List.flatMap_map]
    exact congrArg (List.flatMap · _) (funext h.nameBytes)
  have hnames : ∀ name ∈ (List.range p.nameCount).map p.nameOf, 0 ∉ name := by
    intro name hname
    rcases List.mem_map.mp hname with ⟨i, _, rfl⟩
    unfold nameOf
    cases hget : p.desktopNames.get i with
    | none => exact List.not_mem_nil
    | some name => exact h.text i name hget
  have hsplit := splitOn_names (by simpa using Nat.ne_of_gt hsome) hnames
  rw [← htext] at hsplit
  unfold namesRead Display.answer
  rw [hdisplay, hlength, List.take_length, getProperty, Option.map_some, if_pos (.inr rfl)]
  show (if atoms.atom .utf8String = atoms.atom .utf8String ∧ p.desktopNamesText.take (4 * maxPropSize) ≠ [] then
    _ else _) = _
  rw [List.take_of_length_le hfits, if_pos ⟨rfl, hsplit.1⟩]
  exact hsplit.2

/-- The property as `setDesktopName` writes it for the names of an object. -/
def namesProperty (atoms : Atoms) (p : NETRootInfo) : Change :=
  ⟨atoms.atom .netDesktopNames,
    some ⟨atoms.atom .utf8String, .data8 (p.desktopNamesText.take p.desktopNamesLength.toNat)⟩⟩

-- The name is stored and all names are written; making room for those that are written changes none.
theorem setDesktopName_written (atoms : Atoms) {writer : NETRootInfo} (hkept : writer.NamesKept)
    {desktop : Int32} (hdesktop : 1 ≤ desktop) (desktopName : Option QByteArray) :
    ∃ p : NETRootInfo, p.NamesKept ∧ 0 < p.nameCount ∧
      (writer.setDesktopName atoms desktop desktopName).2 = some (namesProperty atoms p) ∧
      (writer.setDesktopName atoms desktop desktopName).1.desktopNames.get = p.desktopNames.get ∧
      (writer.setDesktopName atoms desktop desktopName).1.desktopNamesText = p.desktopNamesText := by
  let index := (desktop - 1).toInt.toNat
  let p := { writer with desktopNames := writer.desktopNames.set index (nstrdup desktopName) }
  have hset : writer.setDesktopName atoms desktop desktopName =
      ({ p with desktopNames := p.desktopNames.readTo p.nameCount }, some (namesProperty atoms p)) :=
    if_neg (Int32.not_lt.mpr hdesktop)
  have hsame : (p.desktopNames.readTo p.nameCount).get = p.desktopNames.get :=
    funext (NETRArray.get_readTo _ _)
  have hcount : nameCount { p with desktopNames := p.desktopNames.readTo p.nameCount } = p.nameCount := by
    unfold nameCount
    dsimp only
    rw [NETRArray.size_readTo]
    omega
  have hsize : index + 1 ≤ p.desktopNames.size := Nat.le_max_right _ _
  rw [hset]
  refine ⟨p, hkept.set index desktopName, ?_, rfl, hsame, ?_⟩
  · unfold nameCount
    omega
  · unfold desktopNamesText
    rw [hcount, hsame]

/-- After any calls and updates of the writer, whichever constructor made it, and a last `setDesktopName`,
an object that reads the names has those of the writer, a null name being an empty one. -/
theorem desktopNames_readBack (atoms : Atoms) (c : Construction) (calls : List NameCall) {writer : NETRootInfo}
    (hwriter : writer = calls.foldl (callNames atoms) c.object) {desktop : Int32} (hdesktop : 1 ≤ desktop)
    (desktopName : Option QByteArray) {written : NETRootInfo × Option Change}
    (hwritten : written = writer.setDesktopName atoms desktop desktopName)
    (hfits : written.1.desktopNamesText.length ≤ 4 * maxPropSize) (display : Display) {client : NETRootInfo}
    (hroot : client.root = writer.root) {properties properties2 : Flags}
    (hread : (properties &&& client.clientProperties).has Property.desktopNames = true) (i : Int32) :
    ((client.update atoms (afterCall writer.root written.2 display) properties properties2).1.desktopName
      i).getD [] = (written.1.desktopName i).getD [] := by
  have hkept : writer.NamesKept := hwriter ▸ namesKept_calls atoms c calls
  rcases setDesktopName_written atoms hkept hdesktop desktopName with
    ⟨p, hp, hsome, hproperty, hsame, htext⟩
  rw [← hwritten] at hproperty hsame htext
  have hdisplay : afterCall writer.root written.2 display client.root (atoms.atom .netDesktopNames) =
      some ⟨atoms.atom .utf8String, .data8 (p.desktopNamesText.take p.desktopNamesLength.toNat)⟩ := by
    rw [hproperty, hroot, afterCall, namesProperty, Change.apply, if_pos rfl, Function.update_self]
  have hnames := namesRead_written atoms hp hsome (htext ▸ hfits) hdisplay
  have hclient := desktopNames_update atoms client (afterCall writer.root written.2 display) properties
    properties2
  rw [if_pos hread, hnames] at hclient
  unfold NETRootInfo.desktopName
  rw [hclient, hsame]
  split
  · rfl
  · generalize (i - 1).toInt.toNat = j
    rw [NETRArray.get_setFrom, List.map_map, List.length_map, List.length_range, Nat.zero_add, Nat.sub_zero]
    by_cases hj : j < p.nameCount
    · rw [if_pos ⟨Nat.zero_le j, hj⟩, List.getD_eq_getElem?_getD, List.getElem?_map,
        List.getElem?_range hj]
      exact hp.nstrndup j
    · -- Neither of them has a name there.
      rw [if_neg (fun h => hj h.2), NETRArray.get_new, hp.clean j]
      have hsize : p.desktopNames.sz ≤ p.nameCount := Nat.le_max_right _ _
      omega

/-! A name behind a gap, and a client that reads it. -/

def exampleWriter : NETRootInfo := (Construction.windowManager 1 2 [] 0 0 0 0 0).object

def exampleReader : NETRootInfo := (Construction.client 1 ⟨800, 600⟩ (mask Property.desktopNames) 0).object

theorem gap_readBack :
    let written := exampleWriter.setDesktopName .inOrder 3 (some [0x61])
    ((exampleReader.update .inOrder (afterCall exampleWriter.root written.2 fun _ _ => none)
      (mask Property.desktopNames) 0).1.desktopName 3).getD [] = (written.1.desktopName 3).getD [] :=
  @desktopNames_readBack .inOrder (.windowManager 1 2 [] 0 0 0 0 0) [] exampleWriter rfl 3 (by decide +kernel)
    (some [0x61]) _ rfl (by decide +kernel) (fun _ _ => none) exampleReader rfl (mask Property.desktopNames) 0
    (by decide +kernel) 3

end NETRootInfo

end KWindowSystem
