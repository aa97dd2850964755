import KWindowSystem.NetWM.RootProtocol

/-!
# Work areas that follow the number of desktops

A client takes the work areas only if there are as many as the desktops that it knows of, and does not read them
again when the number changes.  So the areas that a window manager has written before a new number may be
lost on it; those that it writes after the number are not, in whatever order messages and notifications
are handled (`areas_seen`).
-/

open Machine

namespace KWindowSystem

open NET

namespace NETRootInfo

/-- What the window manager has made the work areas. -/
structure AreaLog where
  numberOfDesktops : Int32 := 0
  areas : Nat → NETRect := fun _ => default
  /-- The areas were written since the number of desktops was. -/
  written : Bool := false

namespace AreaLog

def note {ι : Type} (l : AreaLog) : Option ι × RootCall → AreaLog
  | (none, .setNumberOfDesktops numberOfDesktops) => { l with numberOfDesktops, written := false }
  | (none, .setWorkArea desktop workarea) =>
      if desktop < 1 then l
      else { l with areas := Function.update l.areas (desktop.toInt - 1).toNat workarea, written := true }
  | _ => l

def words (l : AreaLog) : List UInt32 :=
  (List.range l.numberOfDesktops.toInt.toNat).flatMap fun i => (l.areas i).areaWords

end AreaLog

/-- The areas of all desktops, if one request reads all of them. -/
def shownArea (areas : Nat → NETRect) (numberOfDesktops : Int32) : Nat → NETRect := fun i =>
  if numberOfDesktops.toInt * 4 ≤ maxPropSize ∧ i < numberOfDesktops.toInt.toNat then areas i else default

/-! ## Reading the areas -/

theorem length_areaWords (l : AreaLog) : l.words.length = l.numberOfDesktops.toInt.toNat * 4 := by
  unfold AreaLog.words
  rw [List.length_flatMap]
  simp [NETRect.areaWords]

theorem rects_areaWords (f : Nat → NETRect) (ds : List Nat) :
    rects (ds.flatMap fun d => (f d).areaWords) = ds.map f := by
  induction ds with
  | nil => rfl
  | cons d ds ih =>
      rw [List.flatMap_cons, List.map_cons, ← ih]
      show rects (_ :: _ :: _ :: _ :: _) = _
      rw [rects, Int32.toInt32_toUInt32, Int32.toInt32_toUInt32, Int32.toInt32_toUInt32, Int32.toInt32_toUInt32]
      rfl

-- A client that knows the number of desktops takes the areas that go with it.
theorem workAreaOf_written {reply : Reply} {l : AreaLog}
    (hreply : getArrayReply reply .cardinal = l.words.take maxPropSize) {n : Int32}
    (hnumber : l.numberOfDesktops ≠ 0 → n = l.numberOfDesktops) :
    (workAreaOf reply n).get = shownArea l.areas l.numberOfDesktops := by
  funext i
  unfold workAreaOf shownArea
  dsimp only
  rw [hreply, List.length_take, length_areaWords]
  by_cases hzero : l.numberOfDesktops.toInt ≤ 0
  · have hnone : l.words = [] := by
      unfold AreaLog.words
      rw [Int.toNat_of_nonpos hzero]
      rfl
    rw [hnone, List.take_nil, if_neg (by omega : ¬(_ ∧ i < l.numberOfDesktops.toInt.toNat))]
    split
    · rw [NETRArray.get_setFrom, NETRArray.get_new]
      split <;> rfl
    · exact NETRArray.get_new i
  · have hne : l.numberOfDesktops ≠ 0 := by
      intro h
      rw [h] at hzero
      exact hzero (Int.le_refl 0)
    rw [hnumber hne]
    by_cases hfits : l.numberOfDesktops.toInt * 4 ≤ maxPropSize
    · rw [if_pos (by omega), List.take_of_length_le (by rw [length_areaWords]; omega)]
      unfold AreaLog.words
      rw [rects_areaWords, NETRArray.get_setFrom, NETRArray.get_new, List.length_map, List.length_range,
        Nat.zero_add, Nat.sub_zero]
      by_cases hi : i < l.numberOfDesktops.toInt.toNat
      · rw [if_pos ⟨Nat.zero_le i, hi⟩, if_pos ⟨hfits, hi⟩, List.getD_eq_getElem?_getD, List.getElem?_map,
          List.getElem?_range hi]
        rfl
      · rw [if_neg fun h => hi h.2, if_neg fun h => hi h.2]
    · rw [if_neg (by omega), if_neg fun h => hfits h.1]
      exact NETRArray.get_new i

/-! ## Calls -/

section Calls

variable {ι : Type} [DecidableEq ι] {atoms : Atoms} {root : XcbWindow} {l : AreaLog}

/-- The window manager and the display go by what was written. -/
structure Areas (atoms : Atoms) (root : XcbWindow) (l : AreaLog) (s : RootWindow × Objects ι) : Prop where
  number : (s.2 none).numberOfDesktops = l.numberOfDesktops
  areas : (s.2 none).workarea.get = l.areas
  told : l.numberOfDesktops ≠ 0 → Says atoms root s.1.display .numberOfDesktops l.numberOfDesktops
  words : l.written = true →
    Following.workAreaWords atoms root s.1.display = l.words.take maxPropSize

/-- A notification of the areas is pending, and none of the number comes after it. -/
def Due (atoms : Atoms) (pending : List XcbAtom) : Prop :=
  ∃ before after, pending = before ++ atoms.atom .netWorkarea :: after ∧
    atoms.atom .netNumberOfDesktops ∉ after

/-- Neither the number nor the areas are touched. -/
structure Apart (atoms : Atoms) (root : XcbWindow) (s : RootWindow × Objects ι)
    (done : (RootWindow × Objects ι) × List XcbAtom) : Prop where
  number : ∀ j, (done.1.2 j).numberOfDesktops = (s.2 j).numberOfDesktops
  areas : ∀ j, (done.1.2 j).workarea = (s.2 j).workarea
  asked : ∀ (b : Branch) j, b.asked (done.1.2 j) = b.asked (s.2 j)
  told : ∀ n, Says atoms root s.1.display .numberOfDesktops n →
    Says atoms root done.1.1.display .numberOfDesktops n
  words : Following.workAreaWords atoms root done.1.1.display =
    Following.workAreaWords atoms root s.1.display
  names : atoms.atom .netWorkarea ∉ done.2 ∧ atoms.atom .netNumberOfDesktops ∉ done.2

theorem Apart.of_quiet (mail : List NetMessage) : Apart atoms root s (({ s.1 with mail }, s.2), []) where
  number _ := rfl
  areas _ := rfl
  asked _ _ := rfl
  told _ h := h
  words := rfl
  names := ⟨List.not_mem_nil, List.not_mem_nil⟩

theorem workAreaWords_apply {display : Display} {c : Change} (h : c.atom ≠ atoms.atom .netWorkarea)
    (w : XcbWindow) :
    Following.workAreaWords atoms root (c.apply w display) = Following.workAreaWords atoms root display := by
  have hproperty : c.apply w display root (atoms.atom .netWorkarea) =
      display root (atoms.atom .netWorkarea) := by
    unfold Change.apply
    split
    · exact Function.update_of_ne (Ne.symm h) _ _
    · rfl
  unfold Following.workAreaWords Display.answer
  rw [hproperty]

-- Any other call leaves both alone.
theorem apart_calling (party : Option ι) (s : RootWindow × Objects ι) {c : RootCall}
    (hnumber : c.branch ≠ .numberOfDesktops) (hareas : c.branch ≠ .workArea) :
    Apart atoms root s (calling atoms party s c) := by
  have hcalled := called_calling atoms party s c
  generalize calling atoms party s c = done at hcalled
  cases hcalled with
  | quiet mail => exact .of_quiet mail
  | written q value identity _ frame =>
      have hnumberAtom : atoms.atom c.branch.name ≠ atoms.atom .netNumberOfDesktops := fun h =>
        hnumber (name_inj (branch_ne_wmName c) (by decide : Branch.numberOfDesktops ≠ .wmName)
          (atoms.injective h))
      have hareaAtom : atoms.atom c.branch.name ≠ atoms.atom .netWorkarea := fun h =>
        hareas (name_inj (branch_ne_wmName c) (by decide : Branch.workArea ≠ .wmName)
          (atoms.injective h))
      have hobject : ∀ j, Function.update s.2 party q j = s.2 j ∨
          j = party ∧ Function.update s.2 party q j = q := by
        intro j
        by_cases hj : j = party
        · exact .inr ⟨hj, by rw [hj, Function.update_self]⟩
        · exact .inl (Function.update_of_ne hj _ _)
      refine ⟨fun j => ?_, fun j => ?_, fun b j => ?_, fun n h p hroot hclean => ?_,
        workAreaWords_apply hareaAtom _, ?_⟩
      · rcases hobject j with h | ⟨rfl, h⟩
        · exact congrArg numberOfDesktops h
        · exact (congrArg numberOfDesktops h).trans (frame .numberOfDesktops (Ne.symm hnumber))
      · rcases hobject j with h | ⟨rfl, h⟩
        · exact congrArg workarea h
        · exact (congrArg workarea h).trans (frame .workArea (Ne.symm hareas))
      · rcases hobject j with h | ⟨rfl, h⟩
        · exact congrArg b.asked h
        · exact (congrArg b.asked h).trans (asked_congr identity b)
      · rw [← h p hroot hclean]
        exact Branch.now_apply atoms s.1.display _ hnumberAtom (by decide)
      · exact ⟨fun h => hareaAtom (List.mem_singleton.mp h).symm,
          fun h => hnumberAtom (List.mem_singleton.mp h).symm⟩

-- So does a client, and a refused call.
theorem apart_refused {party : Option ι} {s : RootWindow × Objects ι} {c : RootCall}
    (hobject : (c.perform atoms (s.2 party)).1 = s.2 party)
    (hquiet : (c.perform atoms (s.2 party)).2.filterMap Outgoing.atom? = [])
    (hdisplay : (c.perform atoms (s.2 party)).2.foldl Outgoing.apply s.1.display = s.1.display) :
    Apart atoms root s (calling atoms party s c) := by
  unfold calling
  dsimp only
  rw [hobject, hquiet, hdisplay, Function.update_eq_self]
  exact .of_quiet _

variable (atoms) in
/-- A call is one of the two that change them, or leaves them alone. -/
theorem calling_cases {s : RootWindow × Objects ι} (hs : ∀ j, Party root j (s.2 j)) (party : Option ι)
    (c : RootCall) :
    (Apart atoms root s (calling atoms party s c) ∧ l.note (party, c) = l) ∨
      (party = none ∧ ∃ n, c = .setNumberOfDesktops n) ∨
        (party = none ∧ ∃ desktop workarea, c = .setWorkArea desktop workarea ∧ ¬desktop < 1) := by
  by_cases hbranch : c.branch ≠ .numberOfDesktops ∧ c.branch ≠ .workArea
  · left
    refine ⟨apart_calling party s hbranch.1 hbranch.2, ?_⟩
    cases party with
    | some i => rfl
    | none =>
        cases c with
        | setNumberOfDesktops n => exact absurd rfl hbranch.1
        | setWorkArea desktop workarea => exact absurd rfl hbranch.2
        | _ => rfl
  · have hrole : c.anyRole = false := by
      cases c with
      | setDesktopName | setDesktopLayout =>
          exact absurd ⟨by simp [RootCall.branch], by simp [RootCall.branch]⟩ hbranch
      | _ => rfl
    cases party with
    | some i =>
        left
        have hparty := hs (some i)
        have hclient := perform_client atoms hparty.role hrole s.1.display
        have hrequest := c.perform_request atoms hparty.role hrole
        refine ⟨apart_refused hclient.1 ?_ hclient.2, rfl⟩
        rw [hrequest]
        cases c.request? <;> rfl
    | none =>
        cases c with
        | setNumberOfDesktops n => exact .inr (.inl ⟨rfl, n, rfl⟩)
        | setWorkArea desktop workarea =>
            by_cases hdesktop : desktop < 1
            · left
              have hrefused : RootCall.perform atoms (s.2 none) (.setWorkArea desktop workarea) = (s.2 none, []) :=
                if_pos (.inr hdesktop)
              refine ⟨apart_refused ?_ ?_ ?_, if_pos hdesktop⟩ <;> rw [hrefused] <;> rfl
            · exact .inr (.inr ⟨rfl, desktop, workarea, rfl, hdesktop⟩)
        | setList list windows =>
            cases list <;>
              exact absurd ⟨by simp [RootCall.branch, RootList.branch], by simp [RootCall.branch, RootList.branch]⟩
                hbranch
        | _ => exact absurd ⟨by simp [RootCall.branch], by simp [RootCall.branch]⟩ hbranch

omit [DecidableEq ι] in
theorem Areas.apart {s : RootWindow × Objects ι} (h : Areas atoms root l s)
    {done : (RootWindow × Objects ι) × List XcbAtom} (hdone : Apart atoms root s done) :
    Areas atoms root l done.1 where
  number := (hdone.number none).trans h.number
  areas := (congrArg NETRArray.get (hdone.areas none)).trans h.areas
  told hne := hdone.told _ (h.told hne)
  words hwritten := hdone.words.trans (h.words hwritten)

theorem calling_self (party : Option ι) (s : RootWindow × Objects ι) (c : RootCall) :
    (calling atoms party s c).1.2 party = (c.perform atoms (s.2 party)).1 := Function.update_self _ _ _

theorem Areas.setNumberOfDesktops {s : RootWindow × Objects ι} (h : Areas atoms root l s)
    (hparty : Party root (none : Option ι) (s.2 none)) (n : Int32) :
    Areas atoms root (l.note ((none : Option ι), .setNumberOfDesktops n))
      (calling atoms none s (.setNumberOfDesktops n)).1 := by
  have hperform : RootCall.perform atoms (s.2 none) (.setNumberOfDesktops n) = _ := if_pos hparty.role
  refine ⟨?_, ?_, fun _ => ?_, fun h => nomatch h⟩
  · rw [calling_self, hperform]
    rfl
  · rw [calling_self, hperform]
    exact h.areas
  · show Says atoms root ((RootCall.perform atoms (s.2 none) (.setNumberOfDesktops n)).2.foldl Outgoing.apply
      s.1.display) .numberOfDesktops n
    have hread := says_numberOfDesktops atoms root s.1.display n
    rw [hperform]
    rw [← hparty.root_eq] at hread ⊢
    exact hread

theorem Areas.setWorkArea {s : RootWindow × Objects ι} (h : Areas atoms root l s)
    (hparty : Party root (none : Option ι) (s.2 none)) {desktop : Int32} (hdesktop : ¬desktop < 1)
    (workarea : NETRect) :
    Areas atoms root (l.note ((none : Option ι), .setWorkArea desktop workarea))
        (calling atoms none s (.setWorkArea desktop workarea)).1 ∧
      (calling atoms none s (.setWorkArea desktop workarea)).2 = [atoms.atom .netWorkarea] := by
  have hperform : RootCall.perform atoms (s.2 none) (.setWorkArea desktop workarea) = _ :=
    if_neg (not_or.mpr ⟨not_not.mpr hparty.role, hdesktop⟩)
  have hnote : l.note ((none : Option ι), .setWorkArea desktop workarea) = _ := if_neg hdesktop
  have hget : ((s.2 none).workarea.set (desktop.toInt - 1).toNat workarea).get =
      Function.update l.areas (desktop.toInt - 1).toNat workarea := by
    funext i
    rw [NETRArray.get_set, h.areas, Function.update_apply]
  have hdisplay : (calling atoms none s (.setWorkArea desktop workarea)).1.1.display =
      (RootCall.perform atoms (s.2 none) (.setWorkArea desktop workarea)).2.foldl Outgoing.apply
        s.1.display := rfl
  rw [hnote]
  refine ⟨⟨?_, ?_, fun hne p hroot hclean => ?_, fun _ => ?_⟩, ?_⟩
  · rw [calling_self, hperform]
    exact h.number
  · rw [calling_self, hperform]
    funext i
    exact (NETRArray.get_readTo _ _ i).trans (congrFun hget i)
  · rw [hdisplay, hperform, ← h.told hne p hroot hclean]
    apply Branch.now_apply atoms s.1.display
    · exact fun h => nomatch atoms.injective h
    · exact fun h => nomatch h
  · have hanswer := answer_written atoms root s.1.display .netWorkarea .cardinal
      (.data32 ((List.range (s.2 none).numberOfDesktops.toInt.toNat).flatMap fun i =>
        (((s.2 none).workarea.set (desktop.toInt - 1).toNat workarea).get i).areaWords)) maxPropSize
    rw [hdisplay, hperform]
    unfold Following.workAreaWords
    show getArrayReply (Display.answer (Change.apply _ (s.2 none).root s.1.display) _) .cardinal = _
    rw [hparty.root_eq, hanswer, hget, h.number]
    rfl
  · show (RootCall.perform atoms (s.2 none) (.setWorkArea desktop workarea)).2.filterMap Outgoing.atom? = _
    rw [hperform]
    rfl

/-! ## Clients -/

/-- A client that keeps both has the areas that were written, or will read them when it knows the number. -/
def Settles (atoms : Atoms) (l : AreaLog) (p : NETRootInfo) (pending : List XcbAtom) : Prop :=
  Branch.workArea.asked p = true → Branch.numberOfDesktops.asked p = true → l.written = true →
    Due atoms pending ∨
      (atoms.atom .netWorkarea ∉ pending ∧ atoms.atom .netNumberOfDesktops ∉ pending ∧
        p.workarea.get = shownArea l.areas l.numberOfDesktops)

theorem Due.append {pending names : List XcbAtom} (h : Due atoms pending)
    (hnames : atoms.atom .netNumberOfDesktops ∉ names) : Due atoms (pending ++ names) := by
  rcases h with ⟨before, after, rfl, hafter⟩
  refine ⟨before, after ++ names, by rw [List.append_assoc, List.cons_append], ?_⟩
  rw [List.mem_append, not_or]
  exact ⟨hafter, hnames⟩

omit [DecidableEq ι] in
theorem Settles.apart {s : RootWindow × Objects ι} {j : Option ι} {pending : List XcbAtom}
    (h : Settles atoms l (s.2 j) pending) {done : (RootWindow × Objects ι) × List XcbAtom}
    (hdone : Apart atoms root s done) : Settles atoms l (done.1.2 j) (pending ++ done.2) := by
  intro hwork hnumber hwritten
  rw [hdone.asked] at hwork hnumber
  rcases h hwork hnumber hwritten with hdue | ⟨hareas, hcount, hget⟩
  · exact .inl (hdue.append hdone.names.2)
  · right
    rw [List.mem_append, List.mem_append, not_or, not_or, hdone.areas]
    exact ⟨⟨hareas, hdone.names.1⟩, ⟨hcount, hdone.names.2⟩, hget⟩

/-- The areas in the objects of all parties, with what they have still to handle. -/
structure AreasKept (atoms : Atoms) (root : XcbWindow) (l : AreaLog) (s : RootWindow × Objects ι)
    (pending : Option ι → List XcbAtom) : Prop where
  parties : ∀ j, Party root j (s.2 j)
  areas : Areas atoms root l s
  settles : ∀ i, Settles atoms l (s.2 (some i)) (pending (some i))

theorem AreasKept.called {s : RootWindow × Objects ι} {pending : Option ι → List XcbAtom}
    (h : AreasKept atoms root l s pending) (party : Option ι) (c : RootCall) :
    AreasKept atoms root (l.note (party, c)) (calling atoms party s c).1
      (fun j => pending j ++ (calling atoms party s c).2) := by
  have hparties := calling_parties atoms h.parties party c
  rcases calling_cases atoms (l := l) h.parties party c with
    ⟨hapart, hnote⟩ | ⟨rfl, n, rfl⟩ | ⟨rfl, desktop, workarea, rfl, hdesktop⟩
  · rw [hnote]
    exact ⟨hparties, h.areas.apart hapart, fun i => (h.settles i).apart hapart⟩
  · exact ⟨hparties, h.areas.setNumberOfDesktops (h.parties none) n, fun i _ _ hwritten => nomatch hwritten⟩
  · have hset := h.areas.setWorkArea (h.parties none) hdesktop workarea
    refine ⟨hparties, hset.1, fun i _ _ _ => .inl ?_⟩
    rw [hset.2]
    exact ⟨pending (some i), [], rfl, List.not_mem_nil⟩

theorem AreasKept.run_called (calls : List RootCall) {s : RootWindow × Objects ι}
    {pending : Option ι → List XcbAtom} (h : AreasKept atoms root l s pending) :
    AreasKept atoms root ((calls.map fun c => ((none : Option ι), c)).foldl AreaLog.note l)
      (run (calling atoms none) s calls).1 (fun j => pending j ++ (run (calling atoms none) s calls).2) := by
  induction calls generalizing s l pending with
  | nil =>
      simp only [run_nil, List.append_nil]
      exact h
  | cons c calls ih =>
      have hrest := ih (h.called none c)
      simp only [run_cons, List.append_assoc] at hrest ⊢
      exact hrest

/-! ## Notifications -/

omit [DecidableEq ι] in
-- What a client reads of the areas once it knows the number.
theorem workArea_known {s : RootWindow × Objects ι} (h : Areas atoms root l s) (hwritten : l.written = true)
    {p : NETRootInfo} (hroot : p.root = root) (hclean : p.viewport.Clean)
    (hnumber : p.numberOfDesktops = Branch.numberOfDesktops.now atoms s.1.display p) :
    (workAreaOf (s.1.display.answer ⟨root, atoms.atom .netWorkarea, .cardinal, maxPropSize⟩)
      p.numberOfDesktops).get = shownArea l.areas l.numberOfDesktops :=
  workAreaOf_written (h.words hwritten) fun hne => hnumber.trans (h.told hne p hroot hclean)

omit [DecidableEq ι] in
theorem Settles.notify {s : RootWindow × Objects ι} (hareas : Areas atoms root l s) {i : ι}
    (hparty : Party root (some i) (s.2 (some i))) {atom : XcbAtom} {rest : List XcbAtom}
    (hdue : (∃ k ∈ atom :: rest, k = atoms.atom .netNumberOfDesktops) ∨
      Current atoms .numberOfDesktops s.1 (s.2 (some i)))
    (h : Settles atoms l (s.2 (some i)) (atom :: rest)) :
    Settles atoms l ((s.2 (some i)).notify atoms s.1.display atom) rest := by
  have hidentity := identity_notify atoms s.1.display (s.2 (some i)) atom
  intro hwork hnumber hwritten
  rw [asked_congr hidentity] at hwork hnumber
  have hread := workArea_notify atoms s.1.display (s.2 (some i)) atom
  rcases h hwork hnumber hwritten with ⟨before, after, hpending, hafter⟩ | ⟨hnone, hcount, hget⟩
  · cases before with
    | cons k before =>
        left
        rw [List.cons_append] at hpending
        exact ⟨before, after, (List.cons.inj hpending).2, hafter⟩
    | nil =>
        -- The areas are read, and nothing about the number is pending.
        rw [List.nil_append] at hpending
        rcases List.cons.inj hpending with ⟨rfl, rfl⟩
        by_cases hmore : atoms.atom .netWorkarea ∈ rest
        · rcases List.append_of_mem hmore with ⟨before, after, hrest⟩
          refine .inl ⟨before, after, hrest, fun hmem => hafter ?_⟩
          rw [hrest]
          exact List.mem_append_right _ (List.mem_cons_of_mem _ hmem)
        · right
          refine ⟨hmore, hafter, ?_⟩
          have hcurrent : Current atoms .numberOfDesktops s.1 (s.2 (some i)) := by
            apply hdue.resolve_left
            rintro ⟨k, hk, rfl⟩
            rcases List.mem_cons.mp hk with heq | hk
            · exact nomatch atoms.injective heq
            · exact hafter hk
          rw [hread, if_pos ⟨rfl, hwork⟩, hparty.root_eq]
          exact workArea_known hareas hwritten hparty.root_eq hparty.clean
            (hcurrent (by decide) (by decide) hnumber)
  · right
    rw [List.mem_cons, not_or] at hnone hcount
    refine ⟨hnone.2, hcount.2, ?_⟩
    rw [hread, if_neg fun h => hnone.1 h.1.symm]
    exact hget

omit [DecidableEq ι] in
theorem settles_new {s : RootWindow × Objects ι} (hareas : Areas atoms root l s) {p : NETRootInfo}
    (hroot : p.root = root) (hclean : p.viewport.Clean) :
    Settles atoms l (p.update atoms s.1.display p.clientProperties p.clientProperties2).1 [] := by
  have hidentity := identity_update atoms s.1.display p p.clientProperties p.clientProperties2
  intro hwork hnumber hwritten
  refine .inr ⟨List.not_mem_nil, List.not_mem_nil, ?_⟩
  have hcurrent := current_update atoms s.1 hclean .numberOfDesktops (by decide)
    (by decide) hnumber
  have hclean' := Branch.clean_update atoms s.1.display hclean p.clientProperties p.clientProperties2
  have hasked : (p.clientProperties &&& p.clientProperties).has Property.workArea = true := by
    rw [asked_congr hidentity] at hwork
    rw [Flags.has_and, Bool.and_self]
    exact hwork
  rw [workArea_update, if_pos hasked, hroot]
  exact workArea_known hareas hwritten ((congrArg Identity.root hidentity).trans hroot) hclean' hcurrent

variable (atoms) in
omit [DecidableEq ι] in
-- The window manager reads neither.
theorem areas_manager {p : NETRootInfo} (hparty : Party root (none : Option ι) p) (display : Display)
    (properties properties2 : Flags) :
    (p.update atoms display properties properties2).1.numberOfDesktops = p.numberOfDesktops ∧
      (p.update atoms display properties properties2).1.workarea = p.workarea := by
  have hkeeps := keeps_update atoms hparty (a := ⟨p.numberOfDesktops, p.currentDesktop,
    p.viewport.get, fun _ => none⟩) ⟨rfl, rfl, rfl⟩ display properties properties2
  refine ⟨hkeeps.numberOfDesktops, ?_⟩
  rw [workArea_update, hparty.interest rfl, Flags.has_and, if_neg]
  rw [show (mask Property.desktopNames ||| mask Property.wmPing).has Property.workArea = false by decide,
    Bool.and_false]
  exact Bool.false_ne_true

variable {policy : NETRootInfo → RootSignal → List RootCall}

/-- What a run keeps. -/
structure AreasFollowed (atoms : Atoms) (root : XcbWindow) (l : AreaLog)
    (s : Replicas.State (Option ι) RootWindow NETRootInfo XcbAtom) : Prop where
  current : Replicas.Kept (fun _ objects => ∀ j, Party root j (objects j))
    (fun (b : Branch) atom => atom = atoms.atom b.name) (Current atoms) s
  kept : AreasKept atoms root l (s.store, s.copies) s.pending

theorem areasFollowed_step {s : Replicas.State (Option ι) RootWindow NETRootInfo XcbAtom}
    (h : AreasFollowed atoms root l s) (e : Replicas.Event (Option ι) (RootEvent ι) (ι × Interest)) :
    AreasFollowed atoms root (((protocol atoms root policy).step s e).2.foldl AreaLog.note l)
      ((protocol atoms root policy).step s e).1 := by
  refine ⟨(follows atoms root policy).step e h.current, ?_⟩
  have hkept := h.kept
  cases e with
  | change e =>
      cases e with
      | call party c => exact hkept.called party c
      | deliver =>
          simp only [Replicas.System.step, protocol]
          split
          · simp only [List.append_nil]
            exact hkept
          · rename_i m rest hmail
            have hrest : AreasKept atoms root l ({ s.store with mail := rest }, s.copies) s.pending :=
              ⟨hkept.parties, ⟨hkept.areas.number, hkept.areas.areas, hkept.areas.told, hkept.areas.words⟩,
                hkept.settles⟩
            exact hrest.run_called _
  | handle j =>
      simp only [Replicas.System.step, protocol]
      split
      · exact hkept
      · rename_i atom rest hpending
        have hparties := (follows atoms root policy).inv_handle s.store s.copies j atom hkept.parties
        cases j with
        | none =>
            have hmanager := areas_manager atoms (hkept.parties none) s.store.display
              (notified atoms atom).properties (notified atoms atom).properties2
            rw [← notify_eq] at hmanager
            refine ⟨hparties, ⟨?_, ?_, hkept.areas.told, hkept.areas.words⟩, fun i => ?_⟩
            · dsimp only
              rw [Function.update_self, hmanager.1]
              exact hkept.areas.number
            · dsimp only
              rw [Function.update_self, hmanager.2]
              exact hkept.areas.areas
            · dsimp only
              rw [Function.update_of_ne (Option.some_ne_none i), Function.update_of_ne (Option.some_ne_none i)]
              exact hkept.settles i
        | some i =>
            refine ⟨hparties, ⟨?_, ?_, hkept.areas.told, hkept.areas.words⟩, fun i' => ?_⟩
            · dsimp only
              rw [Function.update_of_ne (Option.some_ne_none i).symm]
              exact hkept.areas.number
            · dsimp only
              rw [Function.update_of_ne (Option.some_ne_none i).symm]
              exact hkept.areas.areas
            · dsimp only
              by_cases hi : some i' = some i
              · cases hi
                rw [Function.update_self, Function.update_self]
                have hdue := h.current.due (some i) .numberOfDesktops
                have hsettles := hkept.settles i
                rw [hpending] at hdue hsettles
                exact hsettles.notify hkept.areas (hkept.parties (some i)) hdue
              · rw [Function.update_of_ne hi, Function.update_of_ne hi]
                exact hkept.settles i'
  | join v =>
      have hparties := (follows atoms root policy).inv_join s.store s.copies v hkept.parties
      have hnew : Settles atoms l ((protocol (ι := ι) atoms root policy).construct s.store v) [] :=
        settles_new (p := newClient root v.2.rootSize v.2.properties v.2.properties2) hkept.areas rfl
          NETRArray.clean_new
      simp only [Replicas.System.step, List.foldl_nil]
      generalize (protocol atoms root policy).construct s.store v = p at hparties hnew
      have hother : ∀ q, Function.update s.copies (some v.1) q none = s.copies none :=
        fun q => Function.update_of_ne (Option.some_ne_none v.1).symm q s.copies
      refine ⟨hparties, ⟨?_, ?_, hkept.areas.told, hkept.areas.words⟩, fun i => ?_⟩
      · exact (congrArg numberOfDesktops (hother p)).trans hkept.areas.number
      · exact (congrArg (fun q => q.workarea.get) (hother p)).trans hkept.areas.areas
      · show Settles atoms l (Function.update s.copies (some v.1) p (some i))
          (Function.update s.pending (some v.1) [] (some i))
        by_cases hi : some i = some v.1
        · rw [hi, Function.update_self, Function.update_self]
          exact hnew
        · rw [Function.update_of_ne hi, Function.update_of_ne hi]
          exact hkept.settles i

theorem areasFollowed_opened (display : Display) (manager : ManagerArguments) (interests : ι → Interest) :
    AreasFollowed atoms root {} (opened atoms root policy display manager interests) where
  current := kept_opened display manager interests
  kept := by
    have hmanager := areas_manager atoms (party_manager (ι := ι) root manager) display
      (manager.object root).clientProperties (manager.object root).clientProperties2
    refine ⟨(agrees_opened display manager interests).parties, ⟨hmanager.1, ?_, fun h => absurd rfl h,
      fun h => nomatch h⟩, fun i _ _ h => nomatch h⟩
    refine (congrArg NETRArray.get hmanager.2).trans ?_
    funext i
    exact NETRArray.get_new i

/-- Once the window manager has written the areas after the number of desktops, a client that has handled its
notifications has them. -/
theorem areas_seen (display : Display) (manager : ManagerArguments) (interests : ι → Interest)
    (es : List (Replicas.Event (Option ι) (RootEvent ι) (ι × Interest))) {i : ι} {l : AreaLog}
    (hlog : (session atoms root policy display manager interests es).2.foldl AreaLog.note {} = l)
    (hwritten : l.written = true)
    (hpending : (session atoms root policy display manager interests es).1.pending (some i) = [])
    (hwork : Branch.workArea.asked
      ((session atoms root policy display manager interests es).1.copies (some i)) = true)
    (hnumber : Branch.numberOfDesktops.asked
      ((session atoms root policy display manager interests es).1.copies (some i)) = true) :
    ((session atoms root policy display manager interests es).1.copies (some i)).workarea.get =
      shownArea l.areas l.numberOfDesktops := by
  have hstep : ∀ s l e, AreasFollowed atoms root l s →
      AreasFollowed atoms root (((protocol (ι := ι) atoms root policy).step s e).2.foldl AreaLog.note l)
        ((protocol atoms root policy).step s e).1 := fun _ _ e h => areasFollowed_step h e
  have hstart : AreasFollowed atoms root {} (opened atoms root policy display manager interests) :=
    areasFollowed_opened display manager interests
  have hrun := run_told (fun s l => AreasFollowed atoms root l s) AreaLog.note hstep es hstart
  have hsettles := hrun.kept.settles i
  subst hlog
  rcases hsettles hwork hnumber hwritten with ⟨before, after, hdue, _⟩ | hdone
  · have hnone := hdue.symm.trans hpending
    exact absurd hnone (by simp)
  · exact hdone.2.2

end Calls

/-- A panel at the bottom. -/
def panelArea : NETRect := ⟨⟨0, 0⟩, ⟨800, 570⟩⟩

/-- The areas of a second desktop are lost on a client that does not know of it yet, and written again. -/
def areasAgain : List (Replicas.Event (Option Bool) (RootEvent Bool) (Bool × Interest)) :=
  [.change (.call none (.setNumberOfDesktops 1)), .change (.call none (.setWorkArea 1 panelArea)),
    .handle (some true), .change (.call none (.setNumberOfDesktops 2)),
    .change (.call none (.setWorkArea 2 panelArea)), .handle (some true), .handle (some true),
    .handle (some true)]

theorem areas_seen_again :
    ((session .inOrder 1 (fun _ _ => []) (fun _ _ => none) exampleArguments (fun _ => exampleInterest)
      areasAgain).1.copies (some true)).workarea.get =
        shownArea (Function.update (Function.update (fun _ => default) 0 panelArea) 1 panelArea) 2 :=
  areas_seen _ _ _ _ rfl rfl (by decide +kernel) (by decide +kernel) (by decide +kernel)

end NETRootInfo

end KWindowSystem
