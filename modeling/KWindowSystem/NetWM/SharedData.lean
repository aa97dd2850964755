import KWindowSystem.Lib.Handles
import KWindowSystem.Lib.Machine
import Mathlib.Algebra.Group.Int.Defs
import Mathlib.Algebra.Group.Nat.Defs
import Mathlib.Data.List.Nodup
import Mathlib.Logic.Function.Basic

/-!
# Shared private data

The private objects of `NETRootInfo` and `NETWinInfo`, which their handles share and count by hand.  The
count is the number of handles until a handle is assigned one that shares its data already, which counts
one handle more than there are.
-/

open Machine Handles

namespace KWindowSystem

/-- The two classes, which differ in the arrays that their private objects own. -/
inductive SharedClass where
  | netRootInfo
  | netWinInfo
deriving DecidableEq, Repr

inductive OwnedArray where
  | name | stacking | clients | virtualRoots | tempBuf | desktopNames | visibleName | windowRole
  | iconName | visibleIconName | startupId | classClass | className | activities | clientMachine
  | desktopFile | gtkApplicationId | appmenuObjectPath | appmenuServiceName | icons | iconSizes
deriving DecidableEq, Repr

/-- What `refdec_nri` and `refdec_nwi` delete when the count gets to 0; the texts of all desktops and
the data of all icons are one entry each. -/
def SharedClass.arrays : SharedClass → List OwnedArray
  | .netRootInfo => [.name, .stacking, .clients, .virtualRoots, .tempBuf, .desktopNames]
  | .netWinInfo =>
      [.name, .visibleName, .windowRole, .iconName, .visibleIconName, .startupId, .classClass,
        .className, .activities, .clientMachine, .desktopFile, .gtkApplicationId, .appmenuObjectPath,
        .appmenuServiceName, .icons, .iconSizes]

inductive Deletion where
  | array (object : Nat) (array : OwnedArray)
  | object (object : Nat)
deriving DecidableEq, Repr

/-- The object that something is deleted with. -/
def Deletion.owner : Deletion → Nat
  | .array o _ => o
  | .object o => o

/-- The handles of one class with the private objects that were ever created, and what was deleted. -/
structure SharedData where
  handles : Table Nat := []
  created : Nat := 0
  ref : Nat → Int32 := fun _ => 0
  deletions : List Deletion := []

namespace SharedData

inductive Event where
  | construct
  | copy (source : Nat)
  /-- `handle = source`. -/
  | assign (handle source : Nat)
  | destroy (handle : Nat)
deriving DecidableEq, Repr

section Step

variable (c : SharedClass) (s : SharedData)

/-- `refdec_nri`, `refdec_nwi`. -/
def refdec (p : Nat) : SharedData :=
  let ref := s.ref p - 1
  let s := { s with ref := Function.update s.ref p ref }
  if ref = 0 then { s with deletions := s.deletions ++ c.arrays.map (.array p) } else s

/-- The count is decremented, and the object deleted if it gets to 0. -/
def release (p : Nat) : SharedData :=
  let s := s.refdec c p
  if s.ref p = 0 then { s with deletions := s.deletions ++ [.object p] } else s

/-- `p->ref++`. -/
def refinc (p : Nat) : SharedData := { s with ref := Function.update s.ref p (s.ref p + 1) }

/-- A constructor: a private object with the count 1. -/
def construct : SharedData :=
  { s with
    handles := s.handles ++ [some s.created]
    created := s.created + 1
    ref := Function.update s.ref s.created 1 }

/-- The copy constructor. -/
def copy (p : Nat) : SharedData := refinc { s with handles := s.handles ++ [some p] } p

/-- `operator=` of a handle of `p` with one of `q`. -/
def assign (handle p q : Nat) : SharedData :=
  let s := if p ≠ q then s.release c p else s
  refinc { s with handles := s.handles.set handle (some q) } q

/-- The destructor. -/
def destroy (handle p : Nat) : SharedData :=
  let s := s.release c p
  { s with handles := s.handles.set handle none }

/-- Only handles that are there can be used. -/
def step (e : Event) : SharedData × List Unit :=
  match e with
  | .construct => (s.construct, [])
  | .copy source =>
      match target s.handles source with
      | some p => (s.copy p, [])
      | none => (s, [])
  | .assign handle source =>
      match target s.handles handle, target s.handles source with
      | some p, some q => (s.assign c handle p q, [])
      | _, _ => (s, [])
  | .destroy handle =>
      match target s.handles handle with
      | some p => (s.destroy c handle p, [])
      | none => (s, [])

end Step

/-- What goes with an object: its arrays and the object itself. -/
def whole (c : SharedClass) (p : Nat) : List Deletion := c.arrays.map (.array p) ++ [.object p]

/-- The count of an object is `n`, and it has been deleted with its arrays, once, if that is 0. -/
structure Balanced (c : SharedClass) (s : SharedData) (p n : Nat) : Prop where
  ref : (s.ref p).toInt = n
  deletions : ∀ d ∈ whole c p, s.deletions.count d = if n = 0 then 1 else 0

/-- The count of every object is the number of its handles; an object without handles has been deleted
once, and one with handles has not been deleted. -/
def Counted (c : SharedClass) (s : SharedData) : Prop :=
  ∀ p < s.created, Balanced c s p (holders s.handles p)

/-- No assignment is between handles that share their data, and no object gets more handles than its
count can count. -/
def Fair (s : SharedData) : Event → Prop
  | .copy source => ∀ p, target s.handles source = some p → holders s.handles p + 1 < 2 ^ 31
  | .assign handle source => ∀ p q, target s.handles handle = some p → target s.handles source = some q →
      p ≠ q ∧ holders s.handles q + 1 < 2 ^ 31
  | _ => True

/-- With what holds of the objects that are still to be created. -/
structure Invariant (c : SharedClass) (s : SharedData) : Prop where
  counted : Counted c s
  unborn : ∀ p, s.created ≤ p → holders s.handles p = 0 ∧ ∀ d ∈ whole c p, s.deletions.count d = 0

/-! ## Counts -/

theorem toInt_pred {r : Int32} (h : 0 < r.toInt) : (r - 1).toInt = r.toInt - 1 := by
  have hlt := r.toInt_lt
  rw [Int32.toInt_sub, show (1 : Int32).toInt = 1 from rfl]
  apply Int.bmod_eq_of_le <;> omega

theorem toInt_succ {r : Int32} (h : 0 ≤ r.toInt) (hlt : r.toInt + 1 < 2 ^ 31) :
    (r + 1).toInt = r.toInt + 1 := by
  rw [Int32.toInt_add, show (1 : Int32).toInt = 1 from rfl]
  apply Int.bmod_eq_of_le <;> omega

theorem toInt_succ_ne {r : Int32} : (r + 1).toInt ≠ r.toInt := by
  intro h
  have hone : r + 1 - r = r - r := congrArg (· - r) (Int32.toInt_inj.mp h)
  rw [Int32.sub_self, Int32.add_comm, Int32.add_sub_cancel] at hone
  exact absurd hone (by decide)

theorem owner_of_mem {c : SharedClass} {p : Nat} {d : Deletion} (hd : d ∈ whole c p) : d.owner = p := by
  rcases List.mem_append.mp hd with h | h
  · rcases List.mem_map.mp h with ⟨array, -, harray⟩
    rw [← harray]
    rfl
  · rw [List.mem_singleton.mp h]
    rfl

-- What goes with an object goes with it once, and with no other.
theorem count_whole {c : SharedClass} {p : Nat} {d : Deletion} (hd : d ∈ whole c p) (q : Nat) :
    (whole c q).count d = if p = q then 1 else 0 := by
  have hnodup : (whole c q).Nodup := by
    have harrays : c.arrays.Nodup := by cases c <;> decide
    unfold whole
    apply List.nodup_append.mpr
    refine ⟨harrays.map fun a b h => Deletion.array.inj h |>.2, List.nodup_singleton _, ?_⟩
    intro a ha b hb hab
    rw [List.mem_singleton.mp hb] at hab
    rcases List.mem_map.mp ha with ⟨array, -, harray⟩
    exact nomatch harray.trans hab
  by_cases h : p = q
  · rw [if_pos h, ← h]
    exact List.count_eq_one_of_mem (h ▸ hnodup) hd
  · rw [if_neg h]
    apply List.count_eq_zero_of_not_mem
    intro hq
    exact h ((owner_of_mem hd).symm.trans (owner_of_mem hq))

section Release

variable {c : SharedClass} {s : SharedData} {p q n : Nat}

theorem release_eq (c : SharedClass) (s : SharedData) (p : Nat) :
    s.release c p =
      { s with
        ref := Function.update s.ref p (s.ref p - 1)
        deletions := s.deletions ++ if s.ref p - 1 = 0 then whole c p else [] } := by
  unfold release refdec whole
  by_cases h : s.ref p - 1 = 0
  · simp [h]
  · simp [h]

-- Releasing an object that has handles takes one off its count.
theorem Balanced.release (h : Balanced c s p (n + 1)) : Balanced c (s.release c p) p n := by
  have hpred : (s.ref p - 1).toInt = n := by
    rw [toInt_pred] <;> rw [h.ref] <;> omega
  have hzero : s.ref p - 1 = 0 ↔ n = 0 := by
    rw [← Int32.toInt_inj, hpred]
    show (n : Int) = 0 ↔ n = 0
    omega
  rw [release_eq]
  constructor
  · show (Function.update s.ref p (s.ref p - 1) p).toInt = n
    rw [Function.update_self, hpred]
  · intro d hd
    have hbefore := h.deletions d hd
    rw [if_neg (Nat.succ_ne_zero n)] at hbefore
    show (s.deletions ++ _).count d = _
    rw [List.count_append, hbefore]
    by_cases hn : n = 0
    · rw [if_pos (hzero.mpr hn), count_whole hd, if_pos rfl, if_pos hn]
    · rw [if_neg fun hr => hn (hzero.mp hr), if_neg hn]
      rfl

theorem deletions_release (hne : p ≠ q) {d : Deletion} (hd : d ∈ whole c p) :
    (s.release c q).deletions.count d = s.deletions.count d := by
  rw [release_eq]
  show (s.deletions ++ _).count d = _
  rw [List.count_append]
  split
  · rw [count_whole hd, if_neg hne]
    rfl
  · rfl

theorem Balanced.release_other (h : Balanced c s p n) (hne : p ≠ q) :
    Balanced c (s.release c q) p n := by
  constructor
  · rw [release_eq]
    show (Function.update s.ref q _ p).toInt = n
    rw [Function.update_of_ne hne, h.ref]
  · intro d hd
    rw [deletions_release hne hd, h.deletions d hd]

-- One more handle of an object that has some.
theorem Balanced.refinc (h : Balanced c s p n) (hn : 0 < n) (hlt : n + 1 < 2 ^ 31) :
    Balanced c (s.refinc p) p (n + 1) := by
  constructor
  · show (Function.update s.ref p (s.ref p + 1) p).toInt = _
    rw [Function.update_self, toInt_succ] <;> rw [h.ref] <;> omega
  · intro d hd
    rw [if_neg (Nat.succ_ne_zero n)]
    have hbefore := h.deletions d hd
    rw [if_neg (by omega)] at hbefore
    exact hbefore

theorem Balanced.refinc_other (h : Balanced c s p n) (hne : p ≠ q) : Balanced c (s.refinc q) p n := by
  constructor
  · show (Function.update s.ref q _ p).toInt = n
    rw [Function.update_of_ne hne, h.ref]
  · exact h.deletions

-- A count does not depend on the table of handles.
theorem Balanced.congr {s' : SharedData} (h : Balanced c s p n) (href : s'.ref = s.ref)
    (hdeletions : s'.deletions = s.deletions) : Balanced c s' p n :=
  ⟨href ▸ h.ref, hdeletions ▸ h.deletions⟩

end Release

/-! ## Steps -/

section Steps

variable {c : SharedClass} {s : SharedData} {p q h : Nat}

-- A handle points to an object that was created.
theorem Invariant.lt_created (hs : s.Invariant c) (ht : target s.handles h = some p) : p < s.created := by
  apply Nat.lt_of_not_le
  intro hle
  have hnone := (hs.unborn p hle).1
  have hsome := holders_pos ht
  omega

theorem Invariant.construct (hs : s.Invariant c) : s.construct.Invariant c where
  counted := by
    intro i hi
    show Balanced c s.construct i (holders (s.handles ++ [some s.created]) i)
    rw [holders_open]
    by_cases hnew : i = s.created
    · have hunborn := hs.unborn i (Nat.le_of_eq hnew.symm)
      rw [if_pos hnew, hunborn.1]
      constructor
      · show (Function.update s.ref s.created 1 i).toInt = _
        rw [hnew, Function.update_self]
        rfl
      · exact hunborn.2
    · have hold : Balanced c s i (holders s.handles i) := by
        apply hs.counted
        have hlt : i < s.created + 1 := hi
        omega
      rw [if_neg hnew]
      constructor
      · show (Function.update s.ref s.created 1 i).toInt = _
        rw [Function.update_of_ne hnew]
        exact hold.ref
      · exact hold.deletions
  unborn := by
    intro i hi
    have hlt : s.created + 1 ≤ i := hi
    have hunborn := hs.unborn i (by omega)
    apply And.intro _ hunborn.2
    show holders (s.handles ++ [some s.created]) i = 0
    rw [holders_open, hunborn.1, if_neg (by omega)]

theorem Invariant.copy (hs : s.Invariant c) (ht : target s.handles h = some p)
    (hlt : holders s.handles p + 1 < 2 ^ 31) : (s.copy p).Invariant c where
  counted := by
    intro i hi
    have hold : Balanced c { s with handles := s.handles ++ [some p] } i (holders s.handles i) :=
      (hs.counted i hi).congr rfl rfl
    show Balanced c _ i (holders (s.handles ++ [some p]) i)
    rw [holders_open]
    by_cases hip : i = p
    · rw [if_pos hip]
      rw [hip] at hold ⊢
      exact hold.refinc (holders_pos ht) hlt
    · rw [if_neg hip]
      exact hold.refinc_other hip
  unborn := by
    intro i hi
    have hunborn := hs.unborn i hi
    have hcreated := hs.lt_created ht
    have hlt : s.created ≤ i := hi
    apply And.intro _ hunborn.2
    show holders (s.handles ++ [some p]) i = 0
    rw [holders_open, hunborn.1, if_neg (by omega)]

-- Releasing the object of a handle leaves what is still to be created alone.
theorem Invariant.unborn_release (hs : s.Invariant c) (ht : target s.handles h = some p) {i : Nat}
    (hi : s.created ≤ i) : ∀ d ∈ whole c i, (s.release c p).deletions.count d = 0 := by
  intro d hd
  have hcreated := hs.lt_created ht
  rw [deletions_release (by omega) hd]
  exact (hs.unborn i hi).2 d hd

theorem Invariant.destroy (hs : s.Invariant c) (ht : target s.handles h = some p) :
    (s.destroy c h p).Invariant c where
  counted := by
    intro i hi
    rw [show (s.destroy c h p).created = s.created by
      unfold SharedData.destroy; rw [release_eq]] at hi
    have hold := hs.counted i hi
    have hclose := holders_close ht i
    have hhandles : (s.destroy c h p).handles = s.handles.set h none := by
      unfold SharedData.destroy
      rw [release_eq]
    rw [hhandles]
    by_cases hip : i = p
    · rw [if_pos hip] at hclose
      rw [← hclose, hip] at hold
      rw [hip]
      exact hold.release.congr rfl rfl
    · rw [if_neg hip, Nat.add_zero] at hclose
      rw [hclose]
      exact (hold.release_other hip).congr rfl rfl
  unborn := by
    intro i hi
    rw [show (s.destroy c h p).created = s.created by
      unfold SharedData.destroy; rw [release_eq]] at hi
    have hhandles : (s.destroy c h p).handles = s.handles.set h none := by
      unfold SharedData.destroy
      rw [release_eq]
    apply And.intro _ (hs.unborn_release ht hi)
    have hclose := holders_close ht i
    have hunborn := (hs.unborn i hi).1
    rw [hhandles]
    omega

-- What an assignment leaves of the handles and of the number of objects.
theorem assign_eq (c : SharedClass) (s : SharedData) (h p q : Nat) :
    (s.assign c h p q).handles = s.handles.set h (some q) ∧ (s.assign c h p q).created = s.created := by
  unfold SharedData.assign refinc
  split
  · rw [release_eq]
    exact ⟨rfl, rfl⟩
  · exact ⟨rfl, rfl⟩

theorem Invariant.assign (hs : s.Invariant c) (ht : target s.handles h = some p) {g : Nat}
    (hsource : target s.handles g = some q) (hne : p ≠ q) (hlt : holders s.handles q + 1 < 2 ^ 31) :
    (s.assign c h p q).Invariant c where
  counted := by
    intro i hi
    rw [(assign_eq c s h p q).2] at hi
    rw [(assign_eq c s h p q).1]
    have hold := hs.counted i hi
    have hredirect := holders_redirect ht i q
    unfold SharedData.assign
    rw [if_pos hne]
    by_cases hip : i = p
    · -- The object that loses the handle.
      rw [if_pos hip, if_neg (fun hiq => hne (hip.symm.trans hiq))] at hredirect
      have hcount : holders s.handles i = holders (s.handles.set h (some q)) i + 1 := by omega
      rw [hcount, hip] at hold
      rw [hip]
      exact (hold.release.refinc_other hne).congr rfl rfl
    · by_cases hiq : i = q
      · -- The object that gets it.
        rw [if_neg hip, if_pos hiq, Nat.add_zero] at hredirect
        rw [hredirect, hiq]
        rw [hiq] at hold
        exact ((hold.release_other (Ne.symm hne)).refinc (holders_pos hsource) hlt).congr rfl rfl
      · rw [if_neg hip, if_neg hiq] at hredirect
        rw [show holders (s.handles.set h (some q)) i = holders s.handles i from hredirect]
        exact ((hold.release_other hip).refinc_other hiq).congr rfl rfl
  unborn := by
    intro i hi
    rw [(assign_eq c s h p q).2] at hi
    rw [(assign_eq c s h p q).1]
    have hredirect := holders_redirect ht i q
    have hunborn := (hs.unborn i hi).1
    have hcreated := hs.lt_created hsource
    rw [if_neg (show i ≠ q by omega)] at hredirect
    apply And.intro (by omega)
    intro d hd
    unfold SharedData.assign
    rw [if_pos hne]
    exact hs.unborn_release ht hi d hd

-- A fair step keeps the invariant.
theorem Invariant.step (hs : s.Invariant c) {e : Event} (he : s.Fair e) : (s.step c e).1.Invariant c := by
  cases e with
  | construct => exact hs.construct
  | copy source =>
      unfold SharedData.step
      dsimp only
      cases ht : target s.handles source with
      | none => exact hs
      | some p => exact hs.copy ht (he p ht)
  | assign handle source =>
      unfold SharedData.step
      dsimp only
      cases ht : target s.handles handle with
      | none => exact hs
      | some p =>
          cases hsource : target s.handles source with
          | none => exact hs
          | some q => exact hs.assign ht hsource (he p q ht hsource).1 (he p q ht hsource).2
  | destroy handle =>
      unfold SharedData.step
      dsimp only
      cases ht : target s.handles handle with
      | none => exact hs
      | some p => exact hs.destroy ht

-- After a step that is not fair a count is wrong.
theorem fair_of_counted (hs : s.Invariant c) (e : Event) (hafter : Counted c (s.step c e).1) :
    s.Fair e := by
  cases e with
  | construct => trivial
  | destroy handle => trivial
  | copy source =>
      intro p ht
      have hstep : (s.step c (.copy source)).1 = s.copy p := by
        unfold SharedData.step
        dsimp only
        rw [ht]
      rw [hstep] at hafter
      have href := (hafter p (hs.lt_created ht)).ref
      rw [show (s.copy p).handles = s.handles ++ [some p] from rfl, holders_open, if_pos rfl] at href
      have hlt := ((s.copy p).ref p).toInt_lt
      omega
  | assign handle source =>
      intro p q ht hsource
      have hstep : (s.step c (.assign handle source)).1 = s.assign c handle p q := by
        unfold SharedData.step
        dsimp only
        rw [ht, hsource]
      rw [hstep] at hafter
      have href := (hafter q (by rw [(assign_eq c s handle p q).2]; exact hs.lt_created hsource)).ref
      have hredirect := holders_redirect ht q q
      rw [(assign_eq c s handle p q).1] at href
      have hne : p ≠ q := by
        intro hpq
        subst hpq
        -- The number of handles is what it was, and the count one more.
        have hcount : (s.assign c handle p p).ref p = s.ref p + 1 := by
          unfold SharedData.assign
          rw [if_neg (not_not_intro rfl)]
          exact Function.update_self _ _ _
        rw [hcount, show holders (s.handles.set handle (some p)) p = holders s.handles p by omega,
          ← (hs.counted p (hs.lt_created ht)).ref] at href
        exact toInt_succ_ne href
      apply And.intro hne
      rw [if_neg (Ne.symm hne), if_pos rfl] at hredirect
      have hlt := ((s.assign c handle p q).ref q).toInt_lt
      omega

end Steps

/-! ## Runs -/

theorem invariant_start (c : SharedClass) : Invariant c {} where
  counted := fun _ h => absurd h (Nat.not_lt_zero _)
  unborn := fun _ _ => ⟨rfl, fun _ _ => rfl⟩

/-- Throughout a run the counts are right, and every object is deleted with its last handle and only
then, exactly as long as every step is fair. -/
theorem counted_iff_fair (c : SharedClass) (es : List Event) :
    (∀ n, Counted c (run (step c) {} (es.take n)).1) ↔ Along (step c) Fair {} es :=
  always_iff_guarded (Invariant c) (Counted c) Fair (fun _ hs => hs.counted)
    (fun _ _ hs he => hs.step he) (fun _ e hs hafter => fair_of_counted hs e hafter) es
    (invariant_start c)

/-- A handle that is assigned to itself and destroyed leaves its object behind. -/
theorem selfAssignment_leaks :
    ¬Counted .netRootInfo (run (step .netRootInfo) {} [.construct, .assign 0 0]).1 ∧
      (run (step .netRootInfo) {} [.construct, .assign 0 0, .destroy 0]).1.deletions = [] := by
  apply And.intro
  · intro h
    exact absurd (h 0 (by decide)).ref (by decide)
  · decide +kernel

end SharedData

end KWindowSystem
