import KWindowSystem.KX11Extras.EventFilter
import KWindowSystem.NetWM.ClientList
import KWindowSystem.NetWM.WinCache

/-!
# The work area and its caches

`workArea` against what the current properties of the client windows say.  Every client window has a
cached strut that is still right, may have one, has none, or has a notification on its way (`Caches`);
the desktop that is cached with the strut is not watched, so that it must not change.
-/

open Machine Qt

namespace KWindowSystem

open NET

namespace KX11Extras

/-! ## Without the caches -/

section Fresh

variable (atoms : Atoms) (root : XcbWindow) (screens : DisplayGeometry)

/-- The current `_NET_WM_STRUT`. -/
def strutOf (display : Display) (w : XcbWindow) : NETStrut :=
  NETWinInfo.strutOf
    (getArrayReply (display.answer ⟨w, atoms.atom .netWmStrut, .cardinal, 4⟩) .cardinal)

/-- The current `_NET_WM_DESKTOP`, counted from 1. -/
def desktopOf (display : Display) (w : XcbWindow) : Int32 :=
  match getValueReply? (display.answer ⟨w, atoms.atom .netWmDesktop, .cardinal, 1⟩) .cardinal with
  | some desktop => if desktop ≠ 0xffffffff then (desktop + 1).toInt32 else onAllDesktops
  | none => 0

def dataOf (display : Display) (w : XcbWindow) : StrutData :=
  ⟨w, strutOf atoms display w, desktopOf atoms display w⟩

theorem dataOf_strut (display : Display) (w : XcbWindow) :
    (dataOf atoms display w).strut = strutOf atoms display w := by
  unfold dataOf
  rfl

/-- The work area that the current properties of the windows leave. -/
def workAreaOf (display : Display) (windows exclude : List XcbWindow) (desktop : Int32) : QRect :=
  (windows.filter (· ∉ exclude)).foldl
    (fun a w => cutStrut screens desktop (dataOf atoms display w) a) screens.rect

variable {atoms root screens}

theorem strut_new (display : Display) (w : XcbWindow) {properties : Flags}
    (hasked : properties.has Property.wmStrut = true) :
    (NETWinInfo.new atoms display w root properties 0 .client).strut = strutOf atoms display w :=
  NETWinInfo.get_new atoms .strut hasked display w

theorem desktop_new (display : Display) (w : XcbWindow) {properties : Flags}
    (hasked : properties.has Property.wmDesktop = true) :
    (NETWinInfo.new atoms display w root properties 0 .client).desktop = desktopOf atoms display w :=
  NETWinInfo.get_new atoms .desktop hasked display w

theorem strutData_eq (display : Display) (geometry : XcbWindow → NETRect) {p : NETRootInfo}
    (hmap : mapViewport screens p = false) (w : XcbWindow) :
    strutData atoms root screens display geometry p w = dataOf atoms display w := by
  unfold strutData dataOf
  dsimp only
  rw [hmap, strut_new display w (by decide), desktop_new display w (by decide)]
  rfl

end Fresh

/-! ## Struts that matter -/

/-- A strut that takes something. -/
def Reserves (strut : NETStrut) : Prop :=
  strut.left > 0 ∨ strut.top > 0 ∨ strut.right > 0 ∨ strut.bottom > 0

instance (strut : NETStrut) : Decidable (Reserves strut) := inferInstanceAs (Decidable (_ ∨ _))

theorem hasStrut_of_reserves {strut : NETStrut} (h : Reserves strut) : hasStrut strut = true := by
  have hne : ∀ side : Int32, side > 0 → side ≠ 0 := fun side hside hzero => by
    rw [hzero] at hside
    exact absurd hside (by decide)
  unfold hasStrut
  rcases h with h | h | h | h <;> simp [hne _ h]

theorem withoutStrut_of_not_reserves {strut : NETStrut} (h : ¬Reserves strut) (all : QRect) :
    withoutStrut all strut = all := by
  unfold Reserves at h
  rw [not_or, not_or, not_or] at h
  unfold withoutStrut
  rw [if_neg h.1, if_neg h.2.1, if_neg h.2.2.1, if_neg h.2.2.2]

section Cut

variable {screens : DisplayGeometry} {desktop : Int32}

-- A strut that takes nothing changes nothing, whatever desktop it is on.
theorem cutStrut_of_not_reserves {data : StrutData} (h : ¬Reserves data.strut) {a : QRect}
    (ha : a.intersected screens.rect = a) : cutStrut screens desktop data a = a := by
  unfold cutStrut
  rw [withoutStrut_of_not_reserves h, ha]
  exact ite_self a

/-- The strut takes all of the screens in one direction, to the pixel. -/
def TakesAll (axis : QRect.Axis) (screens : DisplayGeometry) (strut : NETStrut) : Prop :=
  screens.rect.Extends axis ∧ ¬(withoutStrut screens.rect strut).Extends axis

theorem roomy_cutStrut {axis : QRect.Axis} {data : StrutData}
    (h : ¬TakesAll axis screens data.strut) {a : QRect} (ha : QRect.Roomy axis screens.rect a) :
    QRect.Roomy axis screens.rect (cutStrut screens desktop data a) := by
  unfold cutStrut
  split
  · by_cases hextends : screens.rect.Extends axis
    · exact ha.intersected (not_not.mp fun hflat => h ⟨hextends, hflat⟩)
    · -- Without screens there is no work area to begin with.
      have hnone : screens.rect = {} := by
        apply screens.bounding.resolve_right
        intro hvalid
        apply hextends
        unfold QRect.Extends QRect.side
        cases axis with
        | x => dsimp only; omega
        | y => dsimp only; omega
      rw [hnone] at ha
      rw [ha.eq_default, QRect.default_intersected]
      exact .inl rfl
  · exact ha

end Cut

/-! ## What the caches say -/

/-- The entry of a window. -/
def entry (strutWindows : List StrutData) (w : XcbWindow) : Option StrutData :=
  strutWindows.find? (·.window = w)

theorem entry_eq_none {strutWindows : List StrutData} {w : XcbWindow}
    (h : ∀ data ∈ strutWindows, data.window ≠ w) : entry strutWindows w = none := by
  apply List.find?_eq_none.mpr
  intro data hdata
  simpa using h data hdata

theorem entry_append_self {strutWindows : List StrutData} {data : StrutData}
    (h : ∀ other ∈ strutWindows, other.window ≠ data.window) :
    entry (strutWindows ++ [data]) data.window = some data := by
  have hnone := entry_eq_none h
  unfold entry at hnone ⊢
  rw [List.find?_append, hnone]
  simp

theorem entry_append_ne (strutWindows : List StrutData) {data : StrutData} {w : XcbWindow}
    (h : data.window ≠ w) : entry (strutWindows ++ [data]) w = entry strutWindows w := by
  unfold entry
  rw [List.find?_append, List.find?_singleton, if_neg (by simpa using h), Option.or_none]

theorem entry_filter_ne (strutWindows : List StrutData) {v w : XcbWindow} (h : v ≠ w) :
    entry (strutWindows.filter fun data => data.window ≠ w) v = entry strutWindows v := by
  unfold entry
  rw [List.find?_filter]
  congr 1
  funext data
  by_cases hdata : data.window = v
  · simp [hdata, h]
  · simp [hdata]

-- Where every window has one entry at most, removing the first removes it.
theorem eraseP_eq_filter {strutWindows : List StrutData} {w : XcbWindow}
    (h : (strutWindows.map (·.window)).Nodup) :
    strutWindows.eraseP (·.window = w) = strutWindows.filter fun data => data.window ≠ w := by
  induction strutWindows with
  | nil => rfl
  | cons data rest ih =>
      rw [List.map_cons, List.nodup_cons] at h
      by_cases hdata : data.window = w
      · rw [List.eraseP_cons_of_pos (by simpa using hdata), List.filter_cons_of_neg (by simpa using hdata)]
        symm
        apply List.filter_eq_self.mpr
        intro other hother
        apply decide_eq_true
        intro hw
        exact h.1 (List.mem_map.mpr ⟨other, hother, hw.trans hdata.symm⟩)
      · rw [List.eraseP_cons_of_neg (by simpa using hdata), List.filter_cons_of_pos (by simpa using hdata),
          ih h.2]

section Caches

variable (atoms : Atoms)

/-- What is cached about a window, or that nothing is, is right. -/
def Matches (display : Display) (w : XcbWindow) : Option StrutData → Prop
  | some data =>
      data.strut = strutOf atoms display w ∧
        (data.desktop = desktopOf atoms display w ∨ ¬Reserves data.strut)
  | none => ¬Reserves (strutOf atoms display w)

/-- The caches are right about a window, or it will be looked at again. -/
def Fresh (display : Display) (queue : List (XcbWindow × XcbAtom)) (filter : NETEventFilter)
    (w : XcbWindow) : Prop :=
  (w, atoms.atom .netWmStrut) ∈ queue ∨ w ∈ filter.possibleStrutWindows ∨
    Matches atoms display w (entry filter.strutWindows w)

structure Caches (display : Display) (queue : List (XcbWindow × XcbAtom)) (filter : NETEventFilter) :
    Prop where
  cached : ∀ data ∈ filter.strutWindows, data.window ∈ filter.windows
  possible : ∀ w ∈ filter.possibleStrutWindows, w ∈ filter.windows
  distinct : (filter.strutWindows.map (·.window)).Nodup
  disjoint : ∀ data ∈ filter.strutWindows, data.window ∉ filter.possibleStrutWindows
  fresh : ∀ w ∈ filter.windows, Fresh atoms display queue filter w

variable {atoms} {display : Display} {queue : List (XcbWindow × XcbAtom)} {filter : NETEventFilter}
  {w : XcbWindow}

theorem matches_dataOf (display : Display) (w : XcbWindow) :
    Matches atoms display w (some (dataOf atoms display w)) := ⟨rfl, .inl rfl⟩

-- A window that may have a strut is read and cached.
theorem Caches.cache (h : Caches atoms display queue filter)
    (hw : w ∈ filter.possibleStrutWindows) :
    Caches atoms display queue { filter with
      possibleStrutWindows := filter.possibleStrutWindows.filter (· ≠ w)
      strutWindows := filter.strutWindows ++ [dataOf atoms display w] } := by
  have hnew : ∀ data ∈ filter.strutWindows, data.window ≠ w :=
    fun data hdata heq => h.disjoint data hdata (heq ▸ hw)
  have hmem : ∀ data ∈ filter.strutWindows ++ [dataOf atoms display w],
      data ∈ filter.strutWindows ∨ data = dataOf atoms display w := fun data hdata => by
    simpa using hdata
  constructor
  · intro data hdata
    cases hmem data hdata with
    | inl hold => exact h.cached data hold
    | inr heq => rw [heq]; exact h.possible w hw
  · intro v hv
    exact h.possible v (List.mem_of_mem_filter hv)
  · show ((filter.strutWindows ++ [dataOf atoms display w]).map (·.window)).Nodup
    rw [List.map_append, List.map_singleton]
    apply List.nodup_append.mpr
    apply And.intro h.distinct
    apply And.intro (List.nodup_singleton _)
    intro a ha b hb
    rw [List.mem_singleton.mp hb]
    rcases List.mem_map.mp ha with ⟨data, hdata, hwindow⟩
    rw [← hwindow]
    exact hnew data hdata
  · intro data hdata hpossible
    have hpossible := List.mem_filter.mp hpossible
    cases hmem data hdata with
    | inl hold => exact h.disjoint data hold hpossible.1
    | inr heq =>
        rw [heq] at hpossible
        exact absurd rfl (of_decide_eq_true hpossible.2)
  · intro v hv
    by_cases hvw : v = w
    · rw [hvw]
      apply Or.inr
      apply Or.inr
      show Matches atoms display w (entry (filter.strutWindows ++ [dataOf atoms display w])
        (dataOf atoms display w).window)
      rw [entry_append_self hnew]
      exact matches_dataOf display w
    · apply (h.fresh v hv).imp_right
      apply Or.imp
      · intro hpossible
        exact List.mem_filter.mpr ⟨hpossible, decide_eq_true hvw⟩
      · intro hmatches
        show Matches atoms display v (entry (filter.strutWindows ++ [dataOf atoms display w]) v)
        rw [entry_append_ne _ (Ne.symm hvw)]
        exact hmatches

-- A strut notification makes the filter look at the window again.
theorem Caches.notified (h : Caches atoms display ((w, atoms.atom .netWmStrut) :: queue) filter)
    (hw : w ∈ filter.windows) {filter' : NETEventFilter} (hwindows : filter'.windows = filter.windows)
    (hstruts : filter'.strutWindows = filter.strutWindows.filter fun data => data.window ≠ w)
    (hpossible : ∀ v, v ∈ filter'.possibleStrutWindows ↔ v ∈ filter.possibleStrutWindows ∨ v = w) :
    Caches atoms display queue filter' := by
  have hmem : ∀ data ∈ filter'.strutWindows, data ∈ filter.strutWindows ∧ data.window ≠ w := by
    intro data hdata
    rw [hstruts] at hdata
    simpa using hdata
  constructor
  · intro data hdata
    rw [hwindows]
    exact h.cached data (hmem data hdata).1
  · intro v hv
    rw [hwindows]
    cases (hpossible v).mp hv with
    | inl hold => exact h.possible v hold
    | inr heq => exact heq ▸ hw
  · rw [hstruts]
    exact h.distinct.sublist (List.filter_sublist.map _)
  · intro data hdata hin
    cases (hpossible _).mp hin with
    | inl hold => exact h.disjoint data (hmem data hdata).1 hold
    | inr heq => exact (hmem data hdata).2 heq
  · intro v hv
    rw [hwindows] at hv
    by_cases hvw : v = w
    · exact .inr (.inl ((hpossible v).mpr (.inr hvw)))
    · rcases h.fresh v hv with hpending | hin | hmatches
      · apply Or.inl
        apply (List.mem_cons.mp hpending).resolve_left
        intro heq
        exact hvw (congrArg Prod.fst heq)
      · exact .inr (.inl ((hpossible v).mpr (.inl hin)))
      · apply Or.inr
        apply Or.inr
        rw [hstruts, entry_filter_ne _ hvw]
        exact hmatches

-- Another notification changes nothing.
theorem Caches.dequeue {atom : XcbAtom} (h : Caches atoms display ((w, atom) :: queue) filter)
    (hother : w ∈ filter.windows → atom ≠ atoms.atom .netWmStrut) :
    Caches atoms display queue filter := by
  apply Caches.mk h.cached h.possible h.distinct h.disjoint
  intro v hv
  apply (h.fresh v hv).imp_left
  intro hpending
  apply (List.mem_cons.mp hpending).resolve_left
  intro heq
  have hvw : v = w := congrArg Prod.fst heq
  exact hother (hvw ▸ hv) (congrArg Prod.snd heq).symm

-- A new window that may have a strut.
theorem Caches.addPossible (h : Caches atoms display queue filter) (hw : w ∉ filter.windows) :
    Caches atoms display queue { filter with
      possibleStrutWindows := filter.possibleStrutWindows ++ [w]
      windows := filter.windows ++ [w] } := by
  constructor
  · intro data hdata
    exact List.mem_append_left _ (h.cached data hdata)
  · intro v hv
    cases List.mem_append.mp hv with
    | inl hold => exact List.mem_append_left _ (h.possible v hold)
    | inr hnew => exact List.mem_append_right _ hnew
  · exact h.distinct
  · intro data hdata hin
    cases List.mem_append.mp hin with
    | inl hold => exact h.disjoint data hdata hold
    | inr hnew => exact hw (List.mem_singleton.mp hnew ▸ h.cached data hdata)
  · intro v hv
    cases List.mem_append.mp hv with
    | inl hold =>
        apply (h.fresh v hold).imp_right
        apply Or.imp_left
        exact List.mem_append_left _
    | inr hnew => exact .inr (.inl (List.mem_append_right _ hnew))

-- A new window whose strut is read at once.
theorem Caches.addStrut (h : Caches atoms display queue filter) (hw : w ∉ filter.windows) :
    Caches atoms display queue { filter with
      strutWindows := filter.strutWindows ++ [dataOf atoms display w]
      windows := filter.windows ++ [w] } := by
  have hread := (h.addPossible hw).cache (List.mem_append_right _ (List.mem_singleton_self w))
  have hsame : (filter.possibleStrutWindows ++ [w]).filter (· ≠ w) = filter.possibleStrutWindows := by
    rw [List.filter_append, List.filter_eq_self.mpr]
    · simp
    · intro v hv
      apply decide_eq_true
      intro heq
      exact hw (heq ▸ h.possible v hv)
  dsimp only at hread
  rw [hsame] at hread
  exact hread

-- A new window that has no strut.
theorem Caches.addNone (h : Caches atoms display queue filter) (hw : w ∉ filter.windows)
    (hnone : ¬Reserves (strutOf atoms display w)) :
    Caches atoms display queue { filter with windows := filter.windows ++ [w] } := by
  refine ⟨fun data hdata => List.mem_append_left _ (h.cached data hdata),
    fun v hv => List.mem_append_left _ (h.possible v hv), h.distinct, h.disjoint, fun v hv => ?_⟩
  cases List.mem_append.mp hv with
  | inl hold => exact h.fresh v hold
  | inr hnew =>
      rw [List.mem_singleton.mp hnew]
      apply Or.inr
      apply Or.inr
      have hentry : entry filter.strutWindows w = none :=
        entry_eq_none fun data hdata heq => hw (heq ▸ h.cached data hdata)
      show Matches atoms display w (entry filter.strutWindows w)
      rw [hentry]
      exact hnone

-- A window goes, with everything that is cached about it.
theorem Caches.remove (h : Caches atoms display queue filter) {filter' : NETEventFilter}
    (hwindows : filter'.windows = filter.windows.filter (· ≠ w))
    (hstruts : filter'.strutWindows = filter.strutWindows.filter fun data => data.window ≠ w)
    (hpossible : filter'.possibleStrutWindows = filter.possibleStrutWindows.filter (· ≠ w)) :
    Caches atoms display queue filter' := by
  constructor
  · rw [hstruts, hwindows]
    intro data hdata
    have hdata := List.mem_filter.mp hdata
    exact List.mem_filter.mpr ⟨h.cached data hdata.1, hdata.2⟩
  · rw [hpossible, hwindows]
    intro v hv
    have hv := List.mem_filter.mp hv
    exact List.mem_filter.mpr ⟨h.possible v hv.1, hv.2⟩
  · rw [hstruts]
    exact h.distinct.sublist (List.filter_sublist.map _)
  · rw [hstruts, hpossible]
    intro data hdata hin
    exact h.disjoint data (List.mem_of_mem_filter hdata) (List.mem_of_mem_filter hin)
  · rw [hwindows]
    intro v hv
    have hv := List.mem_filter.mp hv
    have hne : v ≠ w := of_decide_eq_true hv.2
    unfold Fresh
    rw [hpossible, hstruts, entry_filter_ne _ hne]
    apply (h.fresh v hv.1).imp_right
    apply Or.imp_left
    intro hin
    exact List.mem_filter.mpr ⟨hin, hv.2⟩

/-! ## Changes of a property -/

theorem answer_apply (display : Display) (c : Change) {v : XcbWindow} {property : XcbAtom}
    (h : w ≠ v ∨ property ≠ c.atom) (type : XcbAtom) (longLength : Nat) :
    (c.apply v display).answer ⟨w, property, type, longLength⟩ =
      display.answer ⟨w, property, type, longLength⟩ := by
  show getProperty (c.apply v display w property) type longLength = _
  unfold Change.apply
  by_cases hw : w = v
  · rw [if_pos hw, Function.update_of_ne (h.resolve_left (not_not.mpr hw))]
    rfl
  · rw [if_neg hw]
    rfl

theorem strutOf_apply (display : Display) (c : Change) {v : XcbWindow}
    (h : w ≠ v ∨ c.atom ≠ atoms.atom .netWmStrut) :
    strutOf atoms (c.apply v display) w = strutOf atoms display w := by
  unfold strutOf
  rw [answer_apply display c (h.imp_right Ne.symm)]

theorem desktopOf_apply (display : Display) (c : Change) {v : XcbWindow}
    (h : w ≠ v ∨ c.atom ≠ atoms.atom .netWmDesktop) :
    desktopOf atoms (c.apply v display) w = desktopOf atoms display w := by
  unfold desktopOf
  rw [answer_apply display c (h.imp_right Ne.symm)]

/-- A desktop that is cached with a strut must not change, unless a notification will make the filter
look at the window again. -/
def DesktopKept (atoms : Atoms) (s : Session) (w : XcbWindow) (c : Change) : Prop :=
  c.atom = atoms.atom .netWmDesktop → ∀ data ∈ s.filter.strutWindows, data.window = w →
    data.desktop = desktopOf atoms (c.apply w s.display) w ∨ ¬Reserves data.strut ∨
      (w, atoms.atom .netWmStrut) ∈ s.queue

theorem Caches.change {s : Session} (h : Caches atoms s.display s.queue s.filter) {c : Change}
    (hkept : DesktopKept atoms s w c) {queue : List (XcbWindow × XcbAtom)}
    (hmono : ∀ x ∈ s.queue, x ∈ queue) (hnotified : w ∈ s.filter.windows → (w, c.atom) ∈ queue) :
    Caches atoms (c.apply w s.display) queue s.filter := by
  apply Caches.mk h.cached h.possible h.distinct h.disjoint
  intro v hv
  rcases h.fresh v hv with hpending | hin | hmatches
  · exact .inl (hmono _ hpending)
  · exact .inr (.inl hin)
  · by_cases hstrut : v = w ∧ c.atom = atoms.atom .netWmStrut
    · apply Or.inl
      rw [hstrut.1, ← hstrut.2]
      exact hnotified (hstrut.1 ▸ hv)
    · have hsame : strutOf atoms (c.apply w s.display) v = strutOf atoms s.display v :=
        strutOf_apply s.display c (not_and_or.mp hstrut)
      unfold Fresh
      cases hentry : entry s.filter.strutWindows v with
      | none =>
          rw [hentry] at hmatches
          apply Or.inr
          apply Or.inr
          show ¬Reserves (strutOf atoms (c.apply w s.display) v)
          rw [hsame]
          exact hmatches
      | some data =>
          rw [hentry] at hmatches
          have hdata := List.mem_of_find?_eq_some hentry
          have hwindow : data.window = v := by simpa using List.find?_some hentry
          have hdesktop : (v, atoms.atom .netWmStrut) ∈ s.queue ∨
              data.desktop = desktopOf atoms (c.apply w s.display) v ∨ ¬Reserves data.strut := by
            by_cases hmoved : v = w ∧ c.atom = atoms.atom .netWmDesktop
            · have hcase := hkept hmoved.2 data hdata (hwindow.trans hmoved.1)
              rw [hmoved.1]
              tauto
            · rw [desktopOf_apply s.display c (not_and_or.mp hmoved)]
              exact .inr hmatches.2
          cases hdesktop with
          | inl hpending => exact .inl (hmono _ hpending)
          | inr hright => exact .inr (.inr ⟨hmatches.1.trans hsame.symm, hright⟩)

end Caches

/-! ## The loop of workArea -/

section Loop

variable {atoms : Atoms} {screens : DisplayGeometry} {display : Display} {exclude : List XcbWindow}
  {queue : List (XcbWindow × XcbAtom)}

/-- What asking for a work area leaves alone. -/
structure SameClients (filter filter' : NETEventFilter) : Prop where
  windows : filter'.windows = filter.windows
  rootInfo : filter'.rootInfo = filter.rootInfo
  connected : filter'.strutSignalConnected = filter.strutSignalConnected
  possible : ∀ v ∈ filter'.possibleStrutWindows, v ∈ filter.possibleStrutWindows

theorem SameClients.refl (filter : NETEventFilter) : SameClients filter filter :=
  ⟨rfl, rfl, rfl, fun _ hv => hv⟩

/-- The desktop of a window is only read with viewport mapping off. -/
def ReadsDesktop (screens : DisplayGeometry) (filter : NETEventFilter) (exclude : List XcbWindow)
    (w : XcbWindow) : Prop :=
  w ∉ exclude → w ∈ filter.possibleStrutWindows → mapViewport screens filter.rootInfo = false

theorem ReadsDesktop.same {filter filter' : NETEventFilter} {w : XcbWindow}
    (h : ReadsDesktop screens filter exclude w) (hsame : SameClients filter filter') :
    ReadsDesktop screens filter' exclude w := by
  intro hexclude hpossible
  rw [hsame.rootInfo]
  exact h hexclude (hsame.possible w hpossible)

theorem cutStrut_dataOf {desktop : Int32} {w : XcbWindow} (h : ¬Reserves (strutOf atoms display w))
    {a : QRect} (ha : a.intersected screens.rect = a) :
    cutStrut screens desktop (dataOf atoms display w) a = a := by
  rw [← dataOf_strut] at h
  exact cutStrut_of_not_reserves h ha

theorem roomy_dataOf {desktop : Int32} {axis : QRect.Axis} {w : XcbWindow}
    (h : ¬TakesAll axis screens (strutOf atoms display w)) {a : QRect}
    (ha : QRect.Roomy axis screens.rect a) :
    QRect.Roomy axis screens.rect (cutStrut screens desktop (dataOf atoms display w) a) := by
  rw [← dataOf_strut] at h
  exact roomy_cutStrut h ha

theorem SameClients.trans {first second third : NETEventFilter} (h : SameClients first second)
    (h' : SameClients second third) : SameClients first third :=
  ⟨h'.windows.trans h.windows, h'.rootInfo.trans h.rootInfo, h'.connected.trans h.connected,
    fun v hv => h.possible v (h'.possible v hv)⟩

theorem workAreaStep_same (atoms : Atoms) (root : XcbWindow) (screens : DisplayGeometry)
    (display : Display) (geometry : XcbWindow → NETRect) (exclude : List XcbWindow) (desktop : Int32)
    (acc : NETEventFilter × QRect) (w : XcbWindow) :
    SameClients acc.1 (workAreaStep atoms root screens display geometry exclude desktop acc w).1 := by
  unfold workAreaStep
  dsimp only
  split
  · exact .refl acc.1
  · split
    · exact .refl acc.1
    · split
      · exact ⟨rfl, rfl, rfl, fun v hv => List.mem_of_mem_filter hv⟩
      · exact .refl acc.1

theorem loop_same (atoms : Atoms) (root : XcbWindow) (screens : DisplayGeometry)
    (display : Display) (geometry : XcbWindow → NETRect) (exclude : List XcbWindow) (desktop : Int32)
    (acc : NETEventFilter × QRect) (ws : List XcbWindow) :
    SameClients acc.1
      (ws.foldl (workAreaStep atoms root screens display geometry exclude desktop) acc).1 := by
  induction ws generalizing acc with
  | nil => exact .refl acc.1
  | cons w ws ih =>
      exact (workAreaStep_same atoms root screens display geometry exclude desktop acc w).trans (ih _)

variable (root : XcbWindow) (geometry : XcbWindow → NETRect) (desktop : Int32)

-- One turn of the loop keeps what the caches say, and cuts off what the window reserves now.
theorem workAreaStep_spec {filter : NETEventFilter} (h : Caches atoms display queue filter)
    {w : XcbWindow} (hw : w ∈ filter.windows) (hread : ReadsDesktop screens filter exclude w)
    (a : QRect) :
    let next := workAreaStep atoms root screens display geometry exclude desktop (filter, a) w
    Caches atoms display queue next.1 ∧
      ((w, atoms.atom .netWmStrut) ∉ queue → a.intersected screens.rect = a →
        next.2 = if w ∈ exclude then a else cutStrut screens desktop (dataOf atoms display w) a) := by
  unfold workAreaStep
  dsimp only
  by_cases hexclude : w ∈ exclude
  · rw [if_pos hexclude, if_pos hexclude]
    exact ⟨h, fun _ _ => rfl⟩
  · rw [if_neg hexclude, if_neg hexclude]
    have hfresh := h.fresh w hw
    unfold Fresh at hfresh
    unfold entry at hfresh
    cases hentry : filter.strutWindows.find? (·.window = w) with
    | some data =>
        apply And.intro h
        intro hqueue ha
        have hdata := List.mem_of_find?_eq_some hentry
        have hwindow : data.window = w := by simpa using List.find?_some hentry
        have hpossible : w ∉ filter.possibleStrutWindows := hwindow ▸ h.disjoint data hdata
        have hmatches := (hfresh.resolve_left hqueue).resolve_left hpossible
        rw [hentry] at hmatches
        cases hmatches.2 with
        | inl hdesktop =>
            have heq : data = dataOf atoms display w := by
              calc data = ⟨data.window, data.strut, data.desktop⟩ := rfl
                _ = dataOf atoms display w := by rw [hwindow, hmatches.1, hdesktop]; rfl
            rw [heq]
        | inr hnone =>
            -- The desktops may differ, but the strut takes nothing.
            have hnone' : ¬Reserves (strutOf atoms display w) := by
              rw [← hmatches.1]
              exact hnone
            dsimp only
            rw [cutStrut_of_not_reserves hnone ha]
            exact (cutStrut_dataOf hnone' ha).symm
    | none =>
        by_cases hpossible : w ∈ filter.possibleStrutWindows
        · dsimp only
          rw [if_pos hpossible, strutData_eq display geometry (hread hexclude hpossible) w]
          exact ⟨h.cache hpossible, fun _ _ => rfl⟩
        · dsimp only
          rw [if_neg hpossible]
          apply And.intro h
          intro hqueue ha
          have hmatches := (hfresh.resolve_left hqueue).resolve_left hpossible
          rw [hentry] at hmatches
          exact (cutStrut_dataOf hmatches ha).symm

theorem loop_caches {filter : NETEventFilter} (h : Caches atoms display queue filter)
    {ws : List XcbWindow} (hws : ∀ w ∈ ws, w ∈ filter.windows)
    (hread : ∀ w ∈ ws, ReadsDesktop screens filter exclude w) (a : QRect) :
    Caches atoms display queue
      (ws.foldl (workAreaStep atoms root screens display geometry exclude desktop) (filter, a)).1 := by
  induction ws generalizing filter a with
  | nil => exact h
  | cons w ws ih =>
      rw [List.forall_mem_cons] at hws hread
      have hstep := workAreaStep_spec root geometry desktop h hws.1 hread.1 a
      have hsame := workAreaStep_same atoms root screens display geometry exclude desktop (filter, a) w
      exact ih hstep.1 (fun v hv => hsame.windows ▸ hws.2 v hv) (fun v hv => (hread.2 v hv).same hsame)
        (workAreaStep atoms root screens display geometry exclude desktop (filter, a) w).2

-- Without notifications on their way the loop comes to what the properties say.
theorem loop_area {filter : NETEventFilter} (h : Caches atoms display queue filter)
    {ws : List XcbWindow} (hws : ∀ w ∈ ws, w ∈ filter.windows)
    (hread : ∀ w ∈ ws, ReadsDesktop screens filter exclude w)
    (hqueue : ∀ w, (w, atoms.atom .netWmStrut) ∉ queue) {axis : QRect.Axis}
    (htakes : ∀ w ∈ ws, ¬TakesAll axis screens (strutOf atoms display w)) {a : QRect}
    (ha : QRect.Roomy axis screens.rect a) :
    (ws.foldl (workAreaStep atoms root screens display geometry exclude desktop) (filter, a)).2 =
      (ws.filter (· ∉ exclude)).foldl
        (fun a w => cutStrut screens desktop (dataOf atoms display w) a) a := by
  induction ws generalizing filter a with
  | nil => rfl
  | cons w ws ih =>
      rw [List.forall_mem_cons] at hws hread htakes
      have hstep := workAreaStep_spec root geometry desktop h hws.1 hread.1 a
      have hsame := workAreaStep_same atoms root screens display geometry exclude desktop (filter, a) w
      rw [List.foldl_cons]
      generalize workAreaStep atoms root screens display geometry exclude desktop (filter, a) w = next
        at hstep hsame ⊢
      rcases next with ⟨filter', a'⟩
      have harea : a' = if w ∈ exclude then a else cutStrut screens desktop (dataOf atoms display w) a :=
        hstep.2 (hqueue w) ha.around
      have hnext : QRect.Roomy axis screens.rect a' := by
        rw [harea]
        split
        · exact ha
        · exact roomy_dataOf htakes.1 ha
      have hrest := ih hstep.1 (fun v hv => hsame.windows ▸ hws.2 v hv)
        (fun v hv => (hread.2 v hv).same hsame) htakes.2 hnext
      rw [hrest, harea]
      by_cases hexclude : w ∈ exclude
      · rw [if_pos hexclude, List.filter_cons_of_neg (by simpa using hexclude)]
      · rw [if_neg hexclude, List.filter_cons_of_pos (by simpa using hexclude), List.foldl_cons]

end Loop

/-! ## Runs -/

/-- A client list that names every window once, and not the root window. -/
def WellFormed (root : XcbWindow) (list : List XcbWindow) : Prop := list.Nodup ∧ root ∉ list

section Runs

variable (atoms : Atoms) (root : XcbWindow) (screens : DisplayGeometry)

/-- The steps after which the caches still say what the properties do: client lists are well formed, no
desktop changes that is cached with a strut, and desktops are read with viewport mapping off. -/
def Session.Ok (s : Session) : Event → Prop
  | .changeProperty w c =>
      (w = root → c.atom = atoms.atom .netClientList →
        WellFormed root (NETRootInfo.clientListValue atoms (c.apply w s.display) root)) ∧
      DesktopKept atoms s w c
  | .deliver => ∀ w calls, s.calls = .addClient w :: calls →
      s.filter.strutSignalConnected = true → mapViewport screens s.filter.rootInfo = false
  | .workArea exclude _ => ∀ w ∈ s.filter.windows, ReadsDesktop screens s.filter exclude w
  | .configure .. => True
  | .connectStrutChanged => True

/-- The client list that was read last, with the calls that are still to be made about it. -/
structure ReadLast (s : Session) (last : List XcbWindow) : Prop where
  wellFormed : WellFormed root last
  listed : NETRootInfo.Listed s.filter.rootInfo ↑last
  reports : NETRootInfo.Reports s.calls ↑s.filter.windows ↑last
  current : last = NETRootInfo.clientListValue atoms s.display root ∨
    (root, atoms.atom .netClientList) ∈ s.queue

structure Invariant (s : Session) : Prop where
  rootWindow : s.filter.rootInfo.root = root
  asked : s.filter.rootInfo.clientProperties = windowsProperties
  value : WellFormed root (NETRootInfo.clientListValue atoms s.display root)
  windows : WellFormed root s.filter.windows
  watched : ∀ w ∈ s.filter.windows, w ∈ s.watched
  last : ∃ last, ReadLast atoms root s last
  caches : Caches atoms s.display s.queue s.filter

variable {atoms root screens} {s : Session}

theorem clientListValue_apply (display : Display) (c : Change) {w : XcbWindow}
    (h : ¬(w = root ∧ c.atom = atoms.atom .netClientList)) :
    NETRootInfo.clientListValue atoms (c.apply w display) root =
      NETRootInfo.clientListValue atoms display root := by
  unfold NETRootInfo.clientListValue Change.apply
  by_cases hw : root = w
  · rw [if_pos hw, Function.update_of_ne fun heq => h ⟨hw.symm, heq.symm⟩]
  · rw [if_neg hw]

theorem Invariant.changeProperty (h : Invariant atoms root s) {w : XcbWindow} {c : Change}
    (hok : s.Ok atoms root screens (.changeProperty w c)) :
    Invariant atoms root (s.step atoms root screens (.changeProperty w c)).1 := by
  have hkeep : ∀ x ∈ s.queue,
      x ∈ if w = root ∨ w ∈ s.watched then s.queue ++ [(w, c.atom)] else s.queue := by
    intro x hx
    split
    · exact List.mem_append_left _ hx
    · exact hx
  have hnotified : w = root ∨ w ∈ s.watched →
      (w, c.atom) ∈ if w = root ∨ w ∈ s.watched then s.queue ++ [(w, c.atom)] else s.queue := by
    intro hw
    rw [if_pos hw]
    exact List.mem_append_right _ (List.mem_singleton_self _)
  show Invariant atoms root { s with
    display := c.apply w s.display
    queue := if w = root ∨ w ∈ s.watched then s.queue ++ [(w, c.atom)] else s.queue }
  generalize (if w = root ∨ w ∈ s.watched then s.queue ++ [(w, c.atom)] else s.queue) = queue
    at hkeep hnotified ⊢
  rcases h.last with ⟨last, hlast⟩
  refine ⟨h.rootWindow, h.asked, ?_, h.windows, h.watched,
    ⟨last, hlast.wellFormed, hlast.listed, hlast.reports, ?_⟩, ?_⟩
  · by_cases hlist : w = root ∧ c.atom = atoms.atom .netClientList
    · exact hok.1 hlist.1 hlist.2
    · show WellFormed root (NETRootInfo.clientListValue atoms (c.apply w s.display) root)
      rw [clientListValue_apply s.display c hlist]
      exact h.value
  · show last = NETRootInfo.clientListValue atoms (c.apply w s.display) root ∨ _ ∈ queue
    by_cases hlist : w = root ∧ c.atom = atoms.atom .netClientList
    · apply Or.inr
      rw [← hlist.1, ← hlist.2]
      exact hnotified (.inl hlist.1)
    · rw [clientListValue_apply s.display c hlist]
      exact hlast.current.imp_right (hkeep _)
  · exact h.caches.change hok.2 hkeep fun hw => hnotified (.inr (h.watched w hw))

theorem addClient_caches (root : XcbWindow) {display : Display} {queue : List (XcbWindow × XcbAtom)}
    {filter : NETEventFilter} (h : Caches atoms display queue filter) (geometry : XcbWindow → NETRect)
    {w : XcbWindow} (hw : w ∉ filter.windows)
    (hmap : filter.strutSignalConnected = true → mapViewport screens filter.rootInfo = false) :
    Caches atoms display queue (addClient atoms root screens display geometry filter w).1 := by
  unfold addClient
  dsimp only
  by_cases hconnected : filter.strutSignalConnected = true
  · rw [if_pos hconnected, strutData_eq display geometry (hmap hconnected) w, dataOf_strut]
    by_cases hstrut : hasStrut (strutOf atoms display w) = true
    · rw [if_pos hstrut]
      exact h.addStrut hw
    · rw [if_neg hstrut]
      exact h.addNone hw fun hreserves => hstrut (hasStrut_of_reserves hreserves)
  · rw [if_neg hconnected]
    exact h.addPossible hw

-- The next call takes a window away.
theorem Invariant.removeClient (h : Invariant atoms root s) {w : XcbWindow} {calls : List RootSignal}
    {last : List XcbWindow} (hlast : ReadLast atoms root s last)
    (hrest : NETRootInfo.Reports calls ↑(s.filter.windows.filter (· ≠ w)) ↑last) :
    Invariant atoms root (Session.call atoms root screens { s with calls } (.removeClient w)).1 := by
  show Invariant atoms root { s with
    calls, filter := (KX11Extras.removeClient atoms root s.display s.filter w).1 }
  refine ⟨h.rootWindow, h.asked, h.value, ?_, ?_, ⟨last, hlast.wellFormed, hlast.listed, hrest,
    hlast.current⟩, ?_⟩
  · exact ⟨h.windows.1.filter _, fun hroot => h.windows.2 (List.mem_of_mem_filter hroot)⟩
  · intro v hv
    exact h.watched v (List.mem_of_mem_filter hv)
  · exact h.caches.remove rfl (eraseP_eq_filter h.caches.distinct) rfl

-- The next call adds a window that was not there.
theorem Invariant.addClient (h : Invariant atoms root s) {w : XcbWindow} {calls : List RootSignal}
    {last : List XcbWindow} (hlast : ReadLast atoms root s last) (hnew : w ∉ s.filter.windows)
    (hw : w ∈ last)
    (hok : s.filter.strutSignalConnected = true → mapViewport screens s.filter.rootInfo = false)
    (hrest : NETRootInfo.Reports calls ↑(s.filter.windows ++ [w]) ↑last) :
    Invariant atoms root (Session.call atoms root screens { s with calls } (.addClient w)).1 := by
  have hroot : w ≠ root := by
    intro heq
    exact hlast.wellFormed.2 (heq ▸ hw)
  have hkeeps := addClient_keeps atoms root screens s.display s.geometry s.filter w
  have hcaches := addClient_caches root h.caches s.geometry hnew hok
  show Invariant atoms root { s with
    calls, watched := w :: s.watched
    filter := (KX11Extras.addClient atoms root screens s.display s.geometry s.filter w).1 }
  generalize (KX11Extras.addClient atoms root screens s.display s.geometry s.filter w).1 = filter
    at hkeeps hcaches ⊢
  refine ⟨hkeeps.1 ▸ h.rootWindow, hkeeps.1 ▸ h.asked, h.value, ?_, ?_,
    ⟨last, hlast.wellFormed, hkeeps.1 ▸ hlast.listed, hkeeps.2.1 ▸ hrest, hlast.current⟩, hcaches⟩
  · show WellFormed root filter.windows
    rw [hkeeps.2.1]
    apply And.intro (NETRootInfo.nodup_append_one h.windows.1 hnew)
    intro hin
    cases List.mem_append.mp hin with
    | inl hold => exact h.windows.2 hold
    | inr hself => exact hroot (List.mem_singleton.mp hself).symm
  · intro v hv
    replace hv : v ∈ filter.windows := hv
    rw [hkeeps.2.1] at hv
    cases List.mem_append.mp hv with
    | inl hold => exact List.mem_cons_of_mem w (h.watched v hold)
    | inr hself => exact List.mem_singleton.mp hself ▸ List.mem_cons_self

-- The next call about the client list.
theorem Invariant.call (h : Invariant atoms root s) {call : RootSignal} {calls : List RootSignal}
    (hcalls : s.calls = call :: calls)
    (hok : s.Ok atoms root screens .deliver) :
    Invariant atoms root (Session.call atoms root screens { s with calls } call).1 := by
  rcases h.last with ⟨last, hlast⟩
  have hreports := hlast.reports
  rw [hcalls] at hreports
  have hlists := hreports.next h.windows.1 (Multiset.coe_nodup.mpr hlast.wellFormed.1)
  rcases hlists with ⟨w, rfl, -, hrest⟩ | ⟨w, rfl, hnew, hw, hrest⟩
  · exact h.removeClient hlast hrest
  · exact h.addClient hlast hnew hw (hok w calls hcalls) hrest

theorem windowPropertyNotify_keeps (atoms : Atoms) (root : XcbWindow) (screens : DisplayGeometry)
    (display : Display) (filter : NETEventFilter) (w : XcbWindow) (atom : XcbAtom) :
    (windowPropertyNotify atoms root screens display filter w atom).1.rootInfo = filter.rootInfo ∧
      (windowPropertyNotify atoms root screens display filter w atom).1.windows = filter.windows := by
  unfold windowPropertyNotify removeStrutWindow
  dsimp only
  generalize Flags.has _ Property.wmStrut = strut
  cases strut with
  | true =>
      rw [if_pos rfl]
      split <;> exact ⟨rfl, rfl⟩
  | false => exact ⟨rfl, rfl⟩

-- Only `_NET_WM_STRUT` is reported as a change of the strut.
theorem notify_strut (atoms : Atoms) (atom : XcbAtom) :
    (((lookupAtom atoms.value NETWinInfo.notifyChain atom).getD {}).properties ||| oldNames atom).has
      Property.wmStrut = decide (atom = atoms.atom .netWmStrut) := by
  have hold : (oldNames atom).has Property.wmStrut = false := by
    unfold oldNames
    split
    · decide
    · split
      · decide
      · split <;> decide
  rw [Flags.has_or, hold, Bool.or_false]
  by_cases h : atom = atoms.atom .netWmStrut
  · rw [decide_eq_true h, h]
    show ((lookupAtom atoms.value NETWinInfo.notifyChain (atoms.value (.kws .netWmStrut))).getD
      {}).properties.has Property.wmStrut = true
    rw [lookupAtom_value atoms.value_injective]
    decide
  · rw [decide_eq_false h]
    have hchain : ∀ e ∈ NETWinInfo.notifyChain, e.1 ≠ .kws .netWmStrut →
        e.2.properties.has Property.wmStrut = false := by decide
    cases hlookup : lookupAtom atoms.value NETWinInfo.notifyChain atom with
    | none => exact Flags.has_zero _
    | some dirty =>
        rcases mem_of_lookupAtom hlookup with ⟨name, hmem, hatom⟩
        exact hchain (name, dirty) hmem fun hname => h (hatom.trans (congrArg atoms.value hname))

theorem windowPropertyNotify_caches (root : XcbWindow) (screens : DisplayGeometry)
    {display : Display} {queue : List (XcbWindow × XcbAtom)} {filter : NETEventFilter} {w : XcbWindow}
    {atom : XcbAtom} (h : Caches atoms display ((w, atom) :: queue) filter) (hw : w ∈ filter.windows) :
    Caches atoms display queue (windowPropertyNotify atoms root screens display filter w atom).1 := by
  have hstrut : ∀ properties : Flags,
      (if mapViewport screens filter.rootInfo &&
          (properties.has Property.wmState || properties.has Property.wmGeometry) then
        properties ||| mask Property.wmDesktop else properties).has Property.wmStrut =
        properties.has Property.wmStrut := by
    intro properties
    split
    · rw [Flags.has_or, show (mask Property.wmDesktop).has Property.wmStrut = false by decide,
        Bool.or_false]
    · rfl
  unfold windowPropertyNotify
  dsimp only
  rw [hstrut]
  show Caches atoms display queue (if (((lookupAtom atoms.value NETWinInfo.notifyChain atom).getD
    {}).properties ||| oldNames atom).has Property.wmStrut = true then _ else _)
  rw [notify_strut]
  by_cases hatom : atom = atoms.atom .netWmStrut
  · rw [if_pos (decide_eq_true hatom)]
    rw [hatom] at h
    have hremoved := eraseP_eq_filter (w := w) h.distinct
    split
    · rename_i hin
      refine h.notified hw ?_ hremoved ?_
      · exact rfl
      intro v
      apply Iff.intro Or.inl
      intro hv
      exact hv.elim id fun heq => heq ▸ hin
    · refine h.notified hw ?_ hremoved ?_
      · exact rfl
      intro v
      show v ∈ filter.possibleStrutWindows ++ [w] ↔ _
      rw [List.mem_append, List.mem_singleton]
  · rw [if_neg (by simpa using hatom)]
    exact h.dequeue fun _ => hatom

-- The next event, once all calls are made.
theorem Invariant.propertyNotify (h : Invariant atoms root s) (hcalls : s.calls = [])
    {w : XcbWindow} {atom : XcbAtom} {queue : List (XcbWindow × XcbAtom)}
    (hqueue : s.queue = (w, atom) :: queue) :
    Invariant atoms root (Session.propertyNotify atoms root screens { s with queue } w atom).1 := by
  rcases h.last with ⟨last, hlast⟩
  have hcurrent := hlast.current
  have hcaches := h.caches
  rw [hqueue] at hcurrent hcaches
  unfold Session.propertyNotify
  by_cases hroot : w = root
  · rw [if_pos hroot]
    dsimp only
    -- The list is read again, or something else has changed.
    have hasked : s.filter.rootInfo.clientProperties.has Property.clientList = true := by
      rw [h.asked]
      decide
    have hevent := NETRootInfo.event_listed atoms hlast.listed hasked s.display atom
    dsimp only at hevent
    rw [h.rootWindow] at hevent
    have hall : (s.filter.windows : Multiset XcbWindow) = ↑last := by
      have hreports := hlast.reports
      rw [hcalls] at hreports
      exact hreports.eq_of_nil
    refine ⟨hevent.2.2.2, hevent.2.2.1.trans h.asked, h.value, h.windows, h.watched,
      ⟨_, ?_, hevent.1, ?_, ?_⟩, ?_⟩
    · split
      · exact h.value
      · exact hlast.wellFormed
    · show NETRootInfo.Reports _ ↑s.filter.windows _
      rw [hall]
      exact hevent.2.1
    · by_cases hatom : atom = atoms.atom .netClientList
      · rw [if_pos hatom]
        exact .inl rfl
      · rw [if_neg hatom]
        apply hcurrent.imp_right
        intro hpending
        apply (List.mem_cons.mp hpending).resolve_left
        intro heq
        exact hatom (congrArg Prod.snd heq).symm
    · have hdequeued := hcaches.dequeue fun hin => absurd (hroot ▸ hin) h.windows.2
      exact ⟨hdequeued.cached, hdequeued.possible, hdequeued.distinct, hdequeued.disjoint,
        hdequeued.fresh⟩
  · rw [if_neg hroot]
    have hlast' : ∀ filter : NETEventFilter, filter.rootInfo = s.filter.rootInfo →
        filter.windows = s.filter.windows → ReadLast atoms root { s with queue, filter } last := by
      intro filter hinfo hwindows
      refine ⟨hlast.wellFormed, hinfo ▸ hlast.listed, hwindows ▸ hlast.reports,
        hcurrent.imp_right ?_⟩
      intro hpending
      apply (List.mem_cons.mp hpending).resolve_left
      intro heq
      exact hroot (congrArg Prod.fst heq).symm
    by_cases hw : w ∈ s.filter.windows
    · rw [if_pos hw]
      have hkeeps := windowPropertyNotify_keeps atoms root screens s.display s.filter w atom
      have hnotified := windowPropertyNotify_caches root screens hcaches hw
      dsimp only
      generalize (windowPropertyNotify atoms root screens s.display s.filter w atom).1 = filter
        at hkeeps hnotified ⊢
      exact ⟨hkeeps.1 ▸ h.rootWindow, hkeeps.1 ▸ h.asked, h.value, hkeeps.2 ▸ h.windows,
        hkeeps.2 ▸ h.watched, ⟨last, hlast' filter hkeeps.1 hkeeps.2⟩, hnotified⟩
    · rw [if_neg hw]
      exact ⟨h.rootWindow, h.asked, h.value, h.windows, h.watched, ⟨last, hlast' _ rfl rfl⟩,
        hcaches.dequeue fun hin => absurd hin hw⟩

theorem Invariant.workArea (h : Invariant atoms root s) {exclude : List XcbWindow} (desktop : Int32)
    (hok : s.Ok atoms root screens (.workArea exclude desktop)) :
    Invariant atoms root (s.step atoms root screens (.workArea exclude desktop)).1 := by
  unfold Session.step KX11Extras.workArea
  dsimp only
  generalize (if desktop = -1 then currentDesktop screens s.filter.rootInfo else desktop) = desktop
  have hcaches := loop_caches root s.geometry desktop h.caches (fun _ hw => hw) hok screens.rect
  have hsame := loop_same atoms root screens s.display s.geometry exclude desktop (s.filter, screens.rect)
    s.filter.windows
  rcases h.last with ⟨list, hlist⟩
  generalize List.foldl _ _ _ = last at hcaches hsame ⊢
  exact ⟨hsame.rootInfo ▸ h.rootWindow, hsame.rootInfo ▸ h.asked, h.value, hsame.windows ▸ h.windows,
    hsame.windows ▸ h.watched, ⟨list, hlist.wellFormed, hsame.rootInfo ▸ hlist.listed,
      hsame.windows ▸ hlist.reports, hlist.current⟩, hcaches⟩

theorem Invariant.step (h : Invariant atoms root s) {e : Event} (hok : s.Ok atoms root screens e) :
    Invariant atoms root (s.step atoms root screens e).1 := by
  cases e with
  | changeProperty w c => exact h.changeProperty hok
  | configure w rect =>
      rcases h.last with ⟨list, hlist⟩
      exact ⟨h.rootWindow, h.asked, h.value, h.windows, h.watched,
        ⟨list, hlist.wellFormed, hlist.listed, hlist.reports, hlist.current⟩, h.caches⟩
  | deliver =>
      unfold Session.step
      dsimp only
      cases hcalls : s.calls with
      | cons call calls => exact h.call hcalls hok
      | nil =>
          cases hqueue : s.queue with
          | cons next queue =>
              have hnext : Invariant atoms root
                  (Session.propertyNotify atoms root screens { s with queue } next.1 next.2).1 :=
                h.propertyNotify hcalls hqueue
              rw [hcalls] at hnext
              exact hnext
          | nil => exact h
  | workArea exclude desktop => exact h.workArea desktop hok
  | connectStrutChanged =>
      rcases h.last with ⟨list, hlist⟩
      have hcaches := h.caches
      exact ⟨h.rootWindow, h.asked, h.value, h.windows, h.watched,
        ⟨list, hlist.wellFormed, hlist.listed, hlist.reports, hlist.current⟩,
        ⟨hcaches.cached, hcaches.possible, hcaches.distinct, hcaches.disjoint, hcaches.fresh⟩⟩

-- Activating a filter reads the client list, and nothing is called yet.
theorem start_listed (atoms : Atoms) (root : XcbWindow) (rootSize : NETSize) (display : Display)
    (geometry : XcbWindow → NETRect) (watched : List XcbWindow) (queue : List (XcbWindow × XcbAtom)) :
    let s := Session.start atoms root rootSize display geometry watched queue
    let value := NETRootInfo.clientListValue atoms display root
    s.filter.rootInfo.root = root ∧ s.filter.rootInfo.clientProperties = windowsProperties ∧
      NETRootInfo.Listed s.filter.rootInfo ↑value ∧
      NETRootInfo.Reports s.calls ↑s.filter.windows ↑value := by
  have hnew := NETRootInfo.newClient_listed root rootSize windowsProperties windowsProperties2
  have hupdate := NETRootInfo.update_listed atoms display hnew windowsProperties windowsProperties2
  have hasked := NETRootInfo.update_asked
    (p := NETRootInfo.newClient root rootSize windowsProperties windowsProperties2) atoms display
    windowsProperties windowsProperties2
  have hread : (windowsProperties &&& windowsProperties).has Property.clientList = true := by decide
  dsimp only at hupdate
  rw [show (NETRootInfo.newClient root rootSize windowsProperties windowsProperties2).clientProperties =
    windowsProperties from rfl, if_pos hread] at hupdate
  exact ⟨hasked.2, hasked.1, hupdate⟩

theorem invariant_start (rootSize : NETSize) (display : Display) (geometry : XcbWindow → NETRect)
    (watched : List XcbWindow) (queue : List (XcbWindow × XcbAtom))
    (hvalue : WellFormed root (NETRootInfo.clientListValue atoms display root)) :
    Invariant atoms root (Session.start atoms root rootSize display geometry watched queue) := by
  have hstart := start_listed atoms root rootSize display geometry watched queue
  refine ⟨hstart.1, hstart.2.1, hvalue, ⟨List.nodup_nil, List.not_mem_nil⟩, ?_,
    ⟨_, hvalue, hstart.2.2.1, hstart.2.2.2, .inl rfl⟩, ?_⟩
  · intro w hw
    cases hw
  · constructor
    · intro data hdata
      cases hdata
    · intro w hw
      cases hw
    · exact List.nodup_nil
    · intro data hdata
      cases hdata
    · intro w hw
      cases hw

/-- Nothing is left to be done: no call and no event. -/
def Session.Idle (s : Session) : Prop := s.calls = [] ∧ s.queue = []

/-- No strut takes all of the screens in one of the directions to the pixel.  If struts do in both, an
empty rectangle is left, whose position depends on windows without a strut. -/
def Session.LeavesRoom (atoms : Atoms) (screens : DisplayGeometry) (s : Session) : Prop :=
  ∃ axis, ∀ w ∈ s.filter.windows, ¬TakesAll axis screens (strutOf atoms s.display w)

/-- In every state that good steps lead to, once everything is delivered, the client windows are those
of the property, and a work area is what their current properties say. -/
theorem workArea_current (rootSize : NETSize) (display : Display) (geometry : XcbWindow → NETRect)
    (watched : List XcbWindow) (queue : List (XcbWindow × XcbAtom)) (es : List Event)
    (hvalue : WellFormed root (NETRootInfo.clientListValue atoms display root))
    (hok : Along (Session.step atoms root screens) (Session.Ok atoms root screens)
      (Session.start atoms root rootSize display geometry watched queue) es) :
    let s := (run (Session.step atoms root screens)
      (Session.start atoms root rootSize display geometry watched queue) es).1
    s.Idle → mapViewport screens s.filter.rootInfo = false → s.LeavesRoom atoms screens →
      s.filter.windows.Perm (NETRootInfo.clientListValue atoms s.display root) ∧
      ∀ exclude desktop,
        (workArea atoms root screens s.display s.geometry s.filter exclude desktop).2 =
          workAreaOf atoms screens s.display s.filter.windows exclude
            (if desktop = -1 then currentDesktop screens s.filter.rootInfo else desktop) := by
  have h := run_invariant (Invariant atoms root) (fun _ _ hs hstep => Invariant.step hs hstep)
    (invariant_start rootSize display geometry watched queue hvalue) hok
  dsimp only
  generalize (run (Session.step atoms root screens)
    (Session.start atoms root rootSize display geometry watched queue) es).1 = s at h ⊢
  intro hidle hmap hroom
  have hnone : ∀ x, x ∉ s.queue := fun x => hidle.2 ▸ List.not_mem_nil
  rcases h.last with ⟨last, hlast⟩
  apply And.intro
  · have hreports := hlast.reports
    rw [hidle.1] at hreports
    rw [← hlast.current.resolve_right (hnone _)]
    exact Multiset.coe_eq_coe.mp hreports.eq_of_nil
  · intro exclude desktop
    rcases hroom with ⟨axis, htakes⟩
    exact loop_area root s.geometry _ h.caches (fun _ hw => hw) (fun w _ _ _ => hmap)
      (fun w => hnone _) htakes (.self screens.bounding)

end Runs

/-! ## A panel -/

instance (root : XcbWindow) (list : List XcbWindow) : Decidable (WellFormed root list) :=
  inferInstanceAs (Decidable (_ ∧ _))

instance (screens : DisplayGeometry) (filter : NETEventFilter) (exclude : List XcbWindow)
    (w : XcbWindow) : Decidable (ReadsDesktop screens filter exclude w) :=
  inferInstanceAs (Decidable (_ → _))

instance (axis : QRect.Axis) (r : QRect) : Decidable (r.Extends axis) :=
  inferInstanceAs (Decidable (_ ≠ _))

instance (axis : QRect.Axis) (screens : DisplayGeometry) (strut : NETStrut) :
    Decidable (TakesAll axis screens strut) := inferInstanceAs (Decidable (_ ∧ _))

instance (s : Session) : Decidable s.Idle := inferInstanceAs (Decidable (_ ∧ _))

def fullHd : DisplayGeometry := ⟨⟨0, 0, 1919, 1079⟩, .inr (by decide)⟩

/-- A panel of 30 pixels at the top of the first desktop. -/
def panel : Display := fun w atom =>
  if w = 1 ∧ atom = Atoms.inOrder.atom .netClientList then some ⟨.window, .data32 [5]⟩
  else if w = 5 ∧ atom = Atoms.inOrder.atom .netWmStrut then
    some ⟨.cardinal, .data32 [0, 0, 30, 0]⟩
  else if w = 5 ∧ atom = Atoms.inOrder.atom .netWmDesktop then some ⟨.cardinal, .data32 [0]⟩
  else none

def panelStart : Session := .start .inOrder 1 ⟨1920, 1080⟩ panel (fun _ => {}) [] []

/-- The panel is added and its strut is cached. -/
def panelCached : List Event := [.deliver, .workArea [] 1]

/-- The work area of the first desktop is asked for again. -/
theorem panel_workArea :
    let s := (run (Session.step .inOrder 1 fullHd) panelStart panelCached).1
    (workArea .inOrder 1 fullHd s.display s.geometry s.filter [] 1).2 =
      workAreaOf .inOrder fullHd s.display s.filter.windows [] 1 := by
  have hok : Along (Session.step .inOrder 1 fullHd) (Session.Ok .inOrder 1 fullHd) panelStart
      panelCached :=
    ⟨fun _ _ _ hconnected => absurd hconnected (by decide +kernel),
      (by decide +kernel : ∀ w ∈ (panelStart.step .inOrder 1 fullHd .deliver).1.filter.windows,
        ReadsDesktop fullHd (panelStart.step .inOrder 1 fullHd .deliver).1.filter [] w), trivial⟩
  have harea := (workArea_current ⟨1920, 1080⟩ panel (fun _ => {}) [] [] panelCached
    (by decide +kernel) hok (by decide +kernel) (by decide +kernel) ⟨.x, by decide +kernel⟩).2 [] 1
  rw [if_neg (by decide)] at harea
  exact harea

/-- When the panel is moved to the second desktop, the first one does not get its area back. -/
theorem moved_panel_stays :
    let s := (run (Session.step .inOrder 1 fullHd) panelStart (panelCached ++
      [.changeProperty 5 ⟨Atoms.inOrder.atom .netWmDesktop, some ⟨.cardinal, .data32 [1]⟩⟩,
        .deliver])).1
    s.Idle ∧ (workArea .inOrder 1 fullHd s.display s.geometry s.filter [] 1).2 ≠
      workAreaOf .inOrder fullHd s.display s.filter.windows [] 1 := by
  decide +kernel

end KX11Extras

end KWindowSystem
