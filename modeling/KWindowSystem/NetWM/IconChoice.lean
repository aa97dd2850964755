import KWindowSystem.Lib.Scan
import KWindowSystem.NetWM.WinCache

/-!
# The icon for a size

`iconInternal` looks for the largest icon first and then for smaller ones that are still large enough.
The first pass does not find a largest one where the sizes are not ordered, and the second starts from
what the first has found.
-/

open Scan

namespace KWindowSystem

namespace NETIcon

/-- `icon` is as large as `result` in both dimensions. -/
def Covers (result icon : NETIcon) : Prop :=
  icon.size.width ≥ result.size.width ∧ icon.size.height ≥ result.size.height

def LargeEnough (width height : Int32) (icon : NETIcon) : Prop :=
  icon.size.width ≥ width ∧ icon.size.height ≥ height

/-- Smaller in both dimensions. -/
def Below (icon result : NETIcon) : Prop :=
  icon.size.width < result.size.width ∧ icon.size.height < result.size.height

/-- What the second pass takes instead of `result`. -/
def Closer (width height : Int32) (result icon : NETIcon) : Prop :=
  (icon.size.width ≥ width ∧ icon.size.width < result.size.width) ∧
    (icon.size.height ≥ height ∧ icon.size.height < result.size.height)

instance : DecidableRel Covers := fun _ _ => inferInstanceAs (Decidable (_ ∧ _))

instance (width height : Int32) : DecidableRel (Closer width height) := fun _ _ =>
  inferInstanceAs (Decidable (_ ∧ _))

instance (width height : Int32) : DecidablePred (LargeEnough width height) := fun _ =>
  inferInstanceAs (Decidable (_ ∧ _))

instance : DecidableRel Below := fun _ _ => inferInstanceAs (Decidable (_ ∧ _))

theorem covers_refl (a : NETIcon) : Covers a a := ⟨Int32.le_refl _, Int32.le_refl _⟩

theorem covers_trans (a b c : NETIcon) (hab : Covers a b) (hbc : Covers b c) : Covers a c :=
  ⟨Int32.le_trans hab.1 hbc.1, Int32.le_trans hab.2 hbc.2⟩

theorem not_below_of_covers {a b : NETIcon} (h : Covers a b) : ¬Below b a :=
  fun hbelow => Int32.lt_irrefl (Int32.lt_of_lt_of_le hbelow.1 h.1)

theorem LargeEnough.of_covers {width height : Int32} (a b : NETIcon) (hab : Covers a b)
    (ha : LargeEnough width height a) : LargeEnough width height b :=
  ⟨Int32.le_trans ha.1 hab.1, Int32.le_trans ha.2 hab.2⟩

theorem Closer.covers {width height : Int32} (a b : NETIcon) (h : Closer width height a b) : Covers b a :=
  ⟨Int32.le_of_lt h.1.2, Int32.le_of_lt h.2.2⟩

end NETIcon

open NETIcon

namespace NETWinInfo

/-- The icon closest to a size, the next biggest: one of the list, if any is large enough then so is it
and none that is large enough is smaller, and else there is no larger one. -/
structure Chosen (icons : List NETIcon) (width height : Int32) (result : NETIcon) : Prop where
  listed : result ∈ icons
  closest : (∃ icon ∈ icons, LargeEnough width height icon) →
    LargeEnough width height result ∧
      ∀ icon ∈ icons, LargeEnough width height icon → ¬Below icon result
  largest : (∀ icon ∈ icons, ¬LargeEnough width height icon) → ∀ icon ∈ icons, ¬Below result icon

section Passes

variable (first : NETIcon) (rest : List NETIcon) {width height : Int32}

/-- The two passes. -/
def largest : NETIcon := Scan.scan Covers first rest

def closest (width height : Int32) : NETIcon :=
  Scan.scan (Closer width height) (largest first rest) (first :: rest)

theorem iconInternal_eq {icons : NETRArray NETIcon} (hicons : icons.toList = first :: rest) :
    iconInternal icons icons.size width height =
      if width = -1 ∧ height = -1 then largest first rest else closest first rest width height := by
  have hsize : icons.size ≠ 0 := by
    rw [← icons.length_toList, hicons]
    exact Nat.succ_ne_zero _
  have hfirst : icons.get 0 = first := by
    rw [icons.get_of_lt_size (Nat.pos_of_ne_zero hsize), hicons]
    rfl
  unfold iconInternal
  rw [if_neg hsize]
  dsimp only
  rw [hicons, hfirst]
  rfl

-- No icon is larger than what the first pass has found.
theorem not_below_largest : ∀ icon ∈ first :: rest, ¬Below (largest first rest) icon := by
  intro icon hicon
  rcases List.mem_cons.mp hicon with hicon | hicon
  · rw [hicon]
    exact not_below_of_covers (scan_le covers_refl covers_trans (fun _ _ h => h) first rest)
  · rcases scan_passed covers_refl covers_trans (fun _ _ h => h) first rest icon hicon with
      h | ⟨b, hb, hnot⟩
    · exact not_below_of_covers h
    · intro hbelow
      exact hnot ⟨Int32.le_trans hb.1 (Int32.le_of_lt hbelow.1),
        Int32.le_trans hb.2 (Int32.le_of_lt hbelow.2)⟩

theorem closest_listed : closest first rest width height ∈ first :: rest := by
  have hmem : closest first rest width height ∈ largest first rest :: first :: rest := scan_mem _ _
  rcases List.mem_cons.mp hmem with h | h
  · rw [h]
    exact scan_mem first rest
  · exact h

-- The second pass stays with an icon that is too small.
theorem closest_of_small (h : ¬LargeEnough width height (largest first rest)) :
    closest first rest width height = largest first rest := by
  apply scan_eq
  intro icon _ hcloser
  exact h (LargeEnough.of_covers _ _ hcloser.covers ⟨hcloser.1.1, hcloser.2.1⟩)

-- From one that is large enough it comes to one that no other one is below.
theorem closest_of_large (h : LargeEnough width height (largest first rest)) :
    LargeEnough width height (closest first rest width height) ∧
      ∀ icon ∈ first :: rest, LargeEnough width height icon →
        ¬Below icon (closest first rest width height) := by
  apply And.intro
  · apply scan_invariant h
    intro _ icon _ hcloser
    exact ⟨hcloser.1.1, hcloser.2.1⟩
  · intro icon hicon hlarge hbelow
    have hpassed : Covers (closest first rest width height) icon ∨
        ∃ b, Covers (closest first rest width height) b ∧ ¬Closer width height b icon :=
      @scan_passed _ _ _ (fun a b => Covers b a) covers_refl
        (fun a b c hab hbc => covers_trans c b a hbc hab) (fun _ _ => Closer.covers _ _)
        (largest first rest) (first :: rest) icon hicon
    rcases hpassed with hcovers | ⟨b, hb, hnot⟩
    · exact not_below_of_covers hcovers hbelow
    · exact hnot ⟨⟨hlarge.1, Int32.lt_of_lt_of_le hbelow.1 hb.1⟩,
        ⟨hlarge.2, Int32.lt_of_lt_of_le hbelow.2 hb.2⟩⟩

end Passes

theorem toList_cons {icons : NETRArray NETIcon} (hsize : 0 < icons.size) :
    ∃ first rest, icons.toList = first :: rest := by
  apply List.exists_cons_of_ne_nil
  intro hnil
  have hlength := icons.length_toList
  rw [hnil] at hlength
  exact absurd hsize (hlength ▸ Nat.lt_irrefl 0)

-- Whatever the size is, an icon of the array is returned.
theorem iconInternal_mem {icons : NETRArray NETIcon} (hsize : 0 < icons.size) (width height : Int32) :
    iconInternal icons icons.size width height ∈ icons.toList := by
  rcases toList_cons hsize with ⟨first, rest, hcons⟩
  rw [iconInternal_eq first rest hcons, hcons]
  split
  · exact scan_mem first rest
  · exact closest_listed first rest

/-- The icon is the one closest to the size exactly if none is large enough or one of the records is: those
icons that are at least as large, in both dimensions, as every record before them in the list. -/
theorem chosen_iff {icons : NETRArray NETIcon} (hsize : 0 < icons.size) {width height : Int32}
    (hwidth : 1 ≤ width) :
    Chosen icons.toList width height (iconInternal icons icons.size width height) ↔
      ((∃ icon ∈ icons.toList, LargeEnough width height icon) →
        ∃ n icon, IsRecord Covers icons.toList n ∧ icons.toList[n]? = some icon ∧
          LargeEnough width height icon) := by
  rcases toList_cons hsize with ⟨first, rest, hcons⟩
  have hrequest : ¬(width = -1 ∧ height = -1) := by
    intro h
    rw [h.1] at hwidth
    exact absurd hwidth (by decide)
  rw [iconInternal_eq first rest hcons, if_neg hrequest, hcons,
    ← scan_iff_record covers_refl covers_trans LargeEnough.of_covers]
  show _ ↔ (_ → LargeEnough width height (largest first rest))
  by_cases hlarge : LargeEnough width height (largest first rest)
  · have hclosest := closest_of_large first rest hlarge
    apply iff_of_true _ fun _ => hlarge
    refine ⟨closest_listed first rest, fun _ => hclosest, ?_⟩
    intro hnone
    exact absurd hlarge (hnone _ (scan_mem first rest))
  · have hsmall := closest_of_small first rest hlarge
    apply Iff.intro
    · intro h hex
      have hclosest := (h.closest hex).1
      rw [hsmall] at hclosest
      exact hclosest
    · intro h
      have hnone := fun hex => hlarge (h hex)
      refine ⟨closest_listed first rest, fun hex => absurd hex hnone, ?_⟩
      intro _
      rw [hsmall]
      exact not_below_largest first rest

/-- A banner and a square. -/
def banner : NETIcon := ⟨⟨100, 1⟩, some (List.replicate 100 0)⟩

def square : NETIcon := ⟨⟨50, 50⟩, some (List.replicate 2500 0)⟩

theorem chosen_square :
    Chosen (NETRArray.new.setFrom 0 [square]).toList 40 40
      (iconInternal (NETRArray.new.setFrom 0 [square]) (NETRArray.new.setFrom 0 [square]).size 40 40) := by
  apply (chosen_iff (by decide) (by decide)).mpr
  intro _
  refine ⟨0, square, ?_, rfl, by decide⟩
  rw [IsRecord]
  exact ⟨square, rfl, fun m hm => absurd hm (Nat.not_lt_zero m)⟩

/-- The banner is returned although the square has the size asked for. -/
theorem banner_chosen :
    ¬Chosen (NETRArray.new.setFrom 0 [banner, square]).toList 40 40
      (iconInternal (NETRArray.new.setFrom 0 [banner, square]) 2 40 40) := by
  intro h
  have hlarge := (h.closest ⟨square, List.mem_cons_of_mem _ List.mem_cons_self, by decide⟩).1
  exact absurd hlarge (by decide)

end NETWinInfo

end KWindowSystem
