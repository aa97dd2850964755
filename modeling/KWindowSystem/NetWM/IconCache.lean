import KWindowSystem.Lib.Machine
import KWindowSystem.NetWM.IconChoice
import KWindowSystem.NetWM.IconProperty
import KWindowSystem.NetWM.ReplyPairing

/-!
# The icon array and its counter

`update` resets the array and counts what it reads, `setIcon` appends at the counter.  When `setIcon`
replaces, it only zeroes the entries that are there: the array keeps its size, and the lookups, which go by
that, find the zeroed entries.
-/

open Machine

namespace KWindowSystem

open NET

namespace NETWinInfo

/-- The array has as many icons as are counted, with data, and every lookup returns one of them. -/
structure IconsConsistent (p : NETWinInfo) : Prop where
  counted : p.icons.size = p.iconCount
  data : ∀ i < p.iconCount, (p.icons.get i).data ≠ none
  listed : 0 < p.iconCount → ∀ width height, ∃ i < p.iconCount, p.icon width height = p.icons.get i

theorem iconsConsistent_of_counted {p : NETWinInfo} (hcounted : p.icons.size = p.iconCount)
    (hdata : ∀ i < p.iconCount, (p.icons.get i).data ≠ none) : p.IconsConsistent where
  counted := hcounted
  data := hdata
  listed := by
    intro hpos width height
    have hmem := iconInternal_mem (hcounted ▸ hpos) width height
    rw [hcounted, NETRArray.toList_eq, hcounted] at hmem
    rcases List.mem_map.mp hmem with ⟨i, hi, hget⟩
    exact ⟨i, List.mem_range.mp hi, hget.symm⟩

/-! ## Calls and updates -/

inductive IconEvent where
  | setIcon (icon : NETIcon) (replace : Bool)
  | update (display : Display) (dirtyProperties dirtyProperties2 : Flags)

def iconStep (atoms : Atoms) (p : NETWinInfo) : IconEvent → NETWinInfo × List Change
  | .setIcon icon replace => ((p.setIcon atoms icon replace).1, (p.setIcon atoms icon replace).2.toList)
  | .update display dirtyProperties dirtyProperties2 =>
      ((p.update atoms display dirtyProperties dirtyProperties2).1, [])

/-- An icon is put in the place of several. -/
def Shrinks (p : NETWinInfo) (e : IconEvent) : Prop :=
  ∃ icon, e = .setIcon icon true ∧ p.role = .client ∧ 1 < p.icons.size

section Steps

variable (atoms : Atoms)

-- An update reads the icons or leaves them.
theorem icons_update (p : NETWinInfo) (display : Display) (dirtyProperties dirtyProperties2 : Flags) :
    let after := (p.update atoms display dirtyProperties dirtyProperties2).1
    Branch.wmIcon.owned after = Branch.wmIcon.owned p ∨
      ∃ reply, Branch.wmIcon.owned after = Branch.wmIcon.owned (Branch.wmIcon.read atoms [reply] p).1 := by
  dsimp only
  rw [update_eq_run, Batch.Reader.view_run _ _ _ Branch.wmIcon.owned .wmIcon
    (fun b replies q hb => read_frame atoms hb replies q) (fun _ _ _ _ => rfl) (by decide) (by decide)]
  unfold Batch.Reader.step
  split
  · exact Or.inr ⟨_, rfl⟩
  · exact Or.inl rfl

theorem data_of_mem_iconsIn (fuel : Nat) (words : List UInt32) :
    ∀ icon ∈ iconsIn fuel words, icon.data ≠ none := by
  fun_induction iconsIn fuel words with
  | case1 | case2 | case4 => exact fun icon hicon => absurd hicon List.not_mem_nil
  | case3 fuel width height rest hgood count hfits ih =>
      intro icon hicon
      rcases List.mem_cons.mp hicon with hicon | hicon
      · rw [hicon]
        exact Option.some_ne_none _
      · exact ih icon hicon

theorem consistent_read (p : NETWinInfo) (reply : Reply) :
    (Branch.wmIcon.read atoms [reply] p).1.IconsConsistent := by
  have hlist : (p.icons.reset.setFrom 0 (readIcon reply)).toList = readIcon reply :=
    NETRArray.toList_new_setFrom _
  have hsize : (p.icons.reset.setFrom 0 (readIcon reply)).size = (readIcon reply).length := by
    rw [← NETRArray.length_toList, hlist]
  apply iconsConsistent_of_counted hsize
  intro i hi
  replace hi : i < (readIcon reply).length := hi
  show ((p.icons.reset.setFrom 0 (readIcon reply)).get i).data ≠ none
  rw [NETRArray.get_of_lt_size _ (hsize ▸ hi), hlist, List.getD_eq_getElem?_getD,
    List.getElem?_eq_getElem hi]
  exact data_of_mem_iconsIn _ _ _ (List.getElem_mem hi)

theorem IconsConsistent.congr {p q : NETWinInfo} (h : Branch.wmIcon.owned q = Branch.wmIcon.owned p)
    (hp : p.IconsConsistent) : q.IconsConsistent := by
  have hicons : q.icons = p.icons := congrArg Prod.fst h
  have hcount : q.iconCount = p.iconCount := congrArg (fun t => t.2.1) h
  apply iconsConsistent_of_counted
  · rw [hicons, hcount]
    exact hp.counted
  · rw [hicons, hcount]
    exact hp.data

theorem consistent_update {p : NETWinInfo} (hp : p.IconsConsistent) (display : Display)
    (dirtyProperties dirtyProperties2 : Flags) :
    (p.update atoms display dirtyProperties dirtyProperties2).1.IconsConsistent := by
  rcases icons_update atoms p display dirtyProperties dirtyProperties2 with h | ⟨reply, h⟩
  · exact hp.congr h
  · exact (consistent_read atoms p reply).congr h

-- One icon is put at the counter.
theorem consistent_set_iff (p : NETWinInfo) (icons : NETRArray NETIcon) (index : Nat) {icon : NETIcon}
    (hdata : ∀ i < index, (icons.get i).data ≠ none) (hicon : icon.data ≠ none) :
    IconsConsistent { p with icons := icons.set index icon, iconCount := index + 1, iconSizes := none } ↔
      icons.size ≤ index + 1 := by
  have hsize : (icons.set index icon).size = max icons.size (index + 1) := rfl
  apply Iff.intro
  · intro h
    have hcounted : (icons.set index icon).size = index + 1 := h.counted
    rw [hsize] at hcounted
    exact hcounted ▸ Nat.le_max_left _ _
  · intro h
    apply iconsConsistent_of_counted
    · exact hsize.trans (Nat.max_eq_right h)
    · intro i hi
      replace hi : i < index + 1 := hi
      show ((icons.set index icon).get i).data ≠ none
      rw [NETRArray.get_set]
      split
      · exact hicon
      · exact hdata i (by omega)

theorem setIcon_of_role {p : NETWinInfo} (hrole : p.role ≠ .client) (icon : NETIcon) (replace : Bool) :
    p.setIcon atoms icon replace = (p, none) := by
  unfold setIcon setIconInternal
  rw [if_pos hrole]

/-- The icon with a copy of its pixels. -/
theorem icon_data_copied (icon : NETIcon) : ({ icon with data := some icon.pixels } : NETIcon).data ≠ none :=
  Option.some_ne_none _

theorem consistent_append {p : NETWinInfo} (hp : p.IconsConsistent) (icon : NETIcon) :
    (p.setIcon atoms icon false).1.IconsConsistent := by
  by_cases hrole : p.role = .client
  · unfold setIcon setIconInternal
    rw [if_neg (not_not.mpr hrole)]
    exact (consistent_set_iff p p.icons p.iconCount hp.data (icon_data_copied icon)).mpr
      (Nat.le_succ_of_le (Nat.le_of_eq hp.counted))
  · rw [setIcon_of_role atoms hrole]
    exact hp

-- One icon takes the place of all the others, but the array keeps its size.
theorem consistent_replace_iff {p : NETWinInfo} (hrole : p.role = .client) (icon : NETIcon) :
    (p.setIcon atoms icon true).1.IconsConsistent ↔ p.icons.size ≤ 1 := by
  have hset := consistent_set_iff p (p.icons.zero p.icons.size) 0
    (fun i hi => absurd hi (Nat.not_lt_zero i)) (icon_data_copied icon)
  rw [p.icons.size_zero] at hset
  unfold setIcon setIconInternal
  rw [if_neg (not_not.mpr hrole)]
  exact hset

-- A step keeps the cache consistent exactly if it does not shrink it.
theorem consistent_step_iff {p : NETWinInfo} (hp : p.IconsConsistent) (e : IconEvent) :
    (iconStep atoms p e).1.IconsConsistent ↔ ¬Shrinks p e := by
  cases e with
  | update display dirtyProperties dirtyProperties2 =>
      apply iff_of_true (consistent_update atoms hp display dirtyProperties dirtyProperties2)
      rintro ⟨_, h, _⟩
      nomatch h
  | setIcon icon replace =>
      cases replace with
      | false =>
          apply iff_of_true (consistent_append atoms hp icon)
          rintro ⟨_, h, _⟩
          nomatch h
      | true =>
          by_cases hrole : p.role = .client
          · refine (consistent_replace_iff atoms hrole icon).trans ?_
            rw [← Nat.not_lt]
            apply not_congr
            exact ⟨fun h => ⟨icon, rfl, hrole, h⟩, fun ⟨_, _, _, h⟩ => h⟩
          · have hsame : (iconStep atoms p (.setIcon icon true)).1 = p := by
              show (p.setIcon atoms icon true).1 = p
              rw [setIcon_of_role atoms hrole]
            rw [hsame]
            exact iff_of_true hp fun ⟨_, _, hclient, _⟩ => hrole hclient

/-- A new object, which reads its icons if it is asked for them. -/
theorem consistent_new (display : Display) (window root : XcbWindow) (properties properties2 : Flags)
    (role : Role) : (new atoms display window root properties properties2 role).IconsConsistent := by
  apply consistent_update atoms
  exact iconsConsistent_of_counted rfl fun i hi => absurd hi (Nat.not_lt_zero i)

/-- The cache is consistent in every state of a run exactly if no icon is put in the place of several. -/
theorem iconCache_iff_not_shrinks (display : Display) (window root : XcbWindow)
    (properties properties2 : Flags) (role : Role) (es : List IconEvent) :
    let p := new atoms display window root properties properties2 role
    (∀ n, (run (iconStep atoms) p (es.take n)).1.IconsConsistent) ↔
      Along (iconStep atoms) (fun q e => ¬Shrinks q e) p es := by
  apply always_iff_along (fun _ => True)
  · exact fun _ _ _ => trivial
  · exact fun _ e _ hq => consistent_step_iff atoms hq e
  · trivial
  · exact consistent_new atoms display window root properties properties2 role

end Steps

/-! Two icons, and one in their place. -/

def replaced : NETWinInfo :=
  (run (iconStep .inOrder) (new .inOrder (fun _ _ => none) 5 1 0 0 .client)
    [.setIcon dot.icon true, .setIcon bar.icon false, .setIcon dot.icon true]).1

/-- The smallest icon is now one without data. -/
theorem replaced_inconsistent :
    ¬replaced.IconsConsistent ∧ replaced.iconCount = 1 ∧
      replaced.icon 0 0 = { size := ⟨0, 0⟩, data := none } := by
  refine ⟨?_, by decide, by decide⟩
  intro h
  exact absurd h.counted (by decide)

end NETWinInfo

end KWindowSystem
