import KWindowSystem.Lib.Merge
import KWindowSystem.Startup.Data

/-!
# Merging partial startup data

What a sequence of `update` calls leaves of a default record.  `merged` says it field by field; the code
does so for every field but `xinerama`, whose guard lets only a value that is set be replaced.
-/

open Merge

namespace KWindowSystem

namespace KStartupInfoData

/-- First value for the fields that are set once, last value for the others, and every pid once, in the
order they were first seen. -/
def merged (datas : List KStartupInfoData) : KStartupInfoData where
  bin := lastSet [] (datas.map bin)
  name := firstSet [] (datas.map name)
  description := firstSet [] (datas.map description)
  icon := firstSet [] (datas.map icon)
  desktop := firstSet 0 (datas.map desktop)
  pids := ⟨(datas.flatMap fun data => data.pids.list).eraseDups, nodup_eraseDups _⟩
  wmclass := lastSet [] (datas.map wmclass)
  hostname := lastSet [] (datas.map hostname)
  silent := lastSet .unknown (datas.map silent)
  screen := lastSet (-1) (datas.map screen)
  xinerama := firstSet (-1) (datas.map xinerama)
  applicationId := firstSet [] (datas.map applicationId)

section Fields

variable {α : Type*} [DecidableEq α] (datas : List KStartupInfoData) (unset : α) (field : KStartupInfoData → α)

theorem field_keepFirst (hinit : field {} = unset)
    (h : ∀ d e : KStartupInfoData, field (d.update e) = keepFirst unset (field d) (field e)) :
    field (datas.foldl update {}) = firstSet unset (datas.map field) := by
  rw [field_foldl field (keepFirst unset) h, hinit, foldl_keepFirst]

theorem field_takeLast (hinit : field {} = unset)
    (h : ∀ d e : KStartupInfoData, field (d.update e) = takeLast unset (field d) (field e)) :
    field (datas.foldl update {}) = lastSet unset (datas.map field) := by
  rw [field_foldl field (takeLast unset) h, hinit, foldl_takeLast]

end Fields

theorem list_foldl_add (ps : Pids) (pids : List Int32) :
    (pids.foldl Pids.add ps).list = pids.foldl addNew ps.list := by
  induction pids generalizing ps with
  | nil => rfl
  | cons pid pids ih =>
      rw [List.foldl_cons, List.foldl_cons, ih]
      congr 1
      unfold Pids.add addNew
      split <;> rfl

theorem pids_foldl (datas : List KStartupInfoData) :
    (datas.foldl update {}).pids.list = (datas.flatMap fun data => data.pids.list).eraseDups := by
  rw [← foldl_addNew, List.foldl_flatMap]
  exact (List.foldl_hom (fun d : KStartupInfoData => d.pids.list)
    (fun d data => (list_foldl_add d.pids data.pids.list).symm)).symm

-- The guard of `xinerama` holds only once the field is set, and nothing else sets it.
theorem xinerama_foldl (datas : List KStartupInfoData) : (datas.foldl update {}).xinerama = -1 := by
  induction datas using List.reverseRecOn with
  | nil => rfl
  | append_singleton datas data ih =>
      rw [List.foldl_concat]
      show (if data.xinerama ≠ -1 ∧ (datas.foldl update {}).xinerama ≠ -1 then data.xinerama
        else (datas.foldl update {}).xinerama) = -1
      rw [if_neg (fun h => h.2 ih), ih]

theorem foldl_update (datas : List KStartupInfoData) :
    datas.foldl update {} = { merged datas with xinerama := -1 } := by
  have hpids : (datas.foldl update {}).pids = (merged datas).pids := Pids.ext_list (pids_foldl datas)
  have hbin := field_takeLast datas [] bin rfl fun _ _ => rfl
  have hname := field_keepFirst datas [] name rfl fun _ _ => rfl
  have hdescription := field_keepFirst datas [] description rfl fun _ _ => rfl
  have hicon := field_keepFirst datas [] icon rfl fun _ _ => rfl
  have hdesktop := field_keepFirst datas 0 desktop rfl fun _ _ => rfl
  have hwmclass := field_takeLast datas [] wmclass rfl fun _ _ => rfl
  have hhostname := field_takeLast datas [] hostname rfl fun _ _ => rfl
  have hsilent := field_takeLast datas .unknown silent rfl fun _ _ => rfl
  have hscreen := field_takeLast datas (-1) screen rfl fun _ _ => rfl
  have hxinerama := xinerama_foldl datas
  have happlicationId := field_keepFirst datas [] applicationId rfl fun _ _ => rfl
  generalize datas.foldl update {} = d at *
  cases d
  dsimp only at *
  subst hpids hbin hname hdescription hicon hdesktop hwmclass hhostname hsilent hscreen hxinerama happlicationId
  rfl

/-- A sequence of updates leaves each field as `merged` has it exactly if none of them carries a
`xinerama`. -/
theorem foldl_update_eq_merged_iff (datas : List KStartupInfoData) :
    datas.foldl update {} = merged datas ↔ ∀ data ∈ datas, data.xinerama = -1 := by
  rw [foldl_update]
  have hfield : (merged datas).xinerama = -1 ↔ ∀ data ∈ datas, data.xinerama = -1 := by
    show firstSet (-1) (datas.map xinerama) = -1 ↔ _
    rw [firstSet_eq_unset_iff, List.forall_mem_map]
  rw [← hfield]
  apply Iff.intro
  · intro heq
    exact (congrArg xinerama heq).symm
  · intro hunset
    rw [← hunset]

-- One update with a `xinerama`, which is lost.
theorem update_loses_xinerama :
    [({ xinerama := 1 } : KStartupInfoData)].foldl update {} ≠ merged [{ xinerama := 1 }] := by
  decide

end KStartupInfoData

end KWindowSystem
