import Mathlib.Algebra.Group.Int.Defs
import Mathlib.Algebra.Group.Nat.Defs
import KWindowSystem.NetWM.Def

/-!
# Comparing X timestamps

A server time is 32 bits wide and wraps, while `unsigned long` may be wider: both functions cut their arguments
and work on the difference modulo 2^32.
-/

namespace KWindowSystem

namespace KXUtils

-- like strcmp()
def timestampCompare (time1_ time2_ : UInt64) : Int :=
  let time1 := time1_.toUInt32
  let time2 := time2_.toUInt32
  if time1 = time2 then 0
  -- time1 > time2 -> 1, handle wrapping
  else if time1 - time2 < 0x7fffffff then 1
  else -1

/-- `time2 - time1`, whose 32 bits are returned as an `int`. -/
def timestampDiff (time1_ time2_ : UInt64) : Int :=
  let time1 := time1_.toUInt32
  let time2 := time2_.toUInt32
  (time2 - time1).toInt32.toInt

end KXUtils

namespace NET

def timestampCompare (time1 time2 : UInt64) : Int := KXUtils.timestampCompare time1 time2

def timestampDiff (time1 time2 : UInt64) : Int := KXUtils.timestampDiff time1 time2

/-- How far `time1` is ahead of `time2` on the circle of 2^32 server times. -/
def ahead (time1 time2 : UInt64) : UInt32 := time1.toUInt32 - time2.toUInt32

theorem ahead_eq_zero {time1 time2 : UInt64} : ahead time1 time2 = 0 ↔ time1.toUInt32 = time2.toUInt32 := by
  rw [← UInt32.toNat_inj, ← UInt32.toNat_inj]
  unfold ahead
  rw [UInt32.toNat_sub]
  have hlt1 := time1.toUInt32.toNat_lt
  have hlt2 := time2.toUInt32.toNat_lt
  show _ = 0 ↔ _
  omega

theorem toNat_ahead_swap (time1 time2 : UInt64) :
    (ahead time2 time1).toNat = (2 ^ 32 - (ahead time1 time2).toNat) % 2 ^ 32 := by
  unfold ahead
  rw [UInt32.toNat_sub, UInt32.toNat_sub]
  have hlt1 := time1.toUInt32.toNat_lt
  have hlt2 := time2.toUInt32.toNat_lt
  omega

theorem ahead_add (time1 time2 shift : UInt64) :
    ahead (time1 + shift) (time2 + shift) = ahead time1 time2 := by
  unfold ahead
  rw [UInt64.toUInt32_add, UInt64.toUInt32_add, ← UInt32.toNat_inj]
  have hlt1 := time1.toUInt32.toNat_lt
  have hlt2 := time2.toUInt32.toNat_lt
  simp only [UInt32.toNat_sub, UInt32.toNat_add]
  omega

-- The comparison and the difference read the distance only.
theorem timestampCompare_eq (time1 time2 : UInt64) :
    timestampCompare time1 time2 =
      if (ahead time1 time2).toNat = 0 then 0
      else if (ahead time1 time2).toNat < 0x7fffffff then 1 else -1 := by
  have hzero : (ahead time1 time2).toNat = 0 ↔ time1.toUInt32 = time2.toUInt32 := by
    rw [← ahead_eq_zero, ← UInt32.toNat_inj]
    rfl
  have hlt : (ahead time1 time2).toNat < 0x7fffffff ↔ time1.toUInt32 - time2.toUInt32 < 0x7fffffff := by
    rw [UInt32.lt_iff_toNat_lt]
    rfl
  simp only [hzero, hlt]
  rfl

theorem timestampDiff_eq (time1 time2 : UInt64) :
    timestampDiff time1 time2 =
      if (ahead time2 time1).toNat < 2 ^ 31 then ((ahead time2 time1).toNat : Int)
      else (ahead time2 time1).toNat - 2 ^ 32 := by
  show (ahead time2 time1).toBitVec.toInt = _
  rw [BitVec.toInt_eq_toNat_cond]
  have htoNat : (ahead time2 time1).toBitVec.toNat = (ahead time2 time1).toNat := rfl
  rw [htoNat]
  split <;> split <;> omega

/-- The comparison takes the same side from wherever it is looked at: what the documentation promises of it
for two timestamps. -/
structure Consistent (time1 time2 : UInt64) : Prop where
  antisymm : timestampCompare time2 time1 = -timestampCompare time1 time2
  shift : ∀ shift, timestampCompare (time1 + shift) (time2 + shift) = timestampCompare time1 time2
  sign : (timestampCompare time1 time2).sign = -(timestampDiff time1 time2).sign

theorem timestampCompare_add (time1 time2 shift : UInt64) :
    timestampCompare (time1 + shift) (time2 + shift) = timestampCompare time1 time2 := by
  rw [timestampCompare_eq, timestampCompare_eq, ahead_add]

-- Only one distance is on the wrong side: the largest one that is still ahead.
theorem antisymm_iff {time1 time2 : UInt64} (h : (ahead time1 time2).toNat ≠ 2 ^ 31) :
    timestampCompare time2 time1 = -timestampCompare time1 time2 ↔
      (ahead time1 time2).toNat ≠ 2 ^ 31 - 1 ∧ (ahead time2 time1).toNat ≠ 2 ^ 31 - 1 := by
  have hlt := (ahead time1 time2).toNat_lt
  rw [timestampCompare_eq, timestampCompare_eq, toNat_ahead_swap time1 time2]
  generalize (ahead time1 time2).toNat = d at *
  by_cases hzero : d = 0
  · subst hzero
    decide
  · rw [Nat.mod_eq_of_lt (by omega), if_neg (by omega), if_neg hzero]
    split <;> split <;> omega

theorem sign_iff {time1 time2 : UInt64} (h : (ahead time1 time2).toNat ≠ 2 ^ 31) :
    (timestampCompare time1 time2).sign = -(timestampDiff time1 time2).sign ↔
      (ahead time1 time2).toNat ≠ 2 ^ 31 - 1 := by
  have hlt := (ahead time1 time2).toNat_lt
  rw [timestampCompare_eq, timestampDiff_eq, toNat_ahead_swap time1 time2]
  generalize (ahead time1 time2).toNat = d at *
  by_cases hzero : d = 0
  · subst hzero
    decide
  · rw [Nat.mod_eq_of_lt (by omega), if_neg hzero]
    by_cases hbehind : 2 ^ 32 - d < 2 ^ 31
    · have hdiff : ((2 ^ 32 - d : Nat) : Int).sign = 1 := Int.sign_eq_one_of_pos (by omega)
      rw [if_pos hbehind, if_neg (by omega), hdiff]
      exact ⟨fun _ => by omega, fun _ => rfl⟩
    · have hdiff : (((2 ^ 32 - d : Nat) : Int) - 2 ^ 32).sign = -1 :=
        Int.sign_eq_neg_one_of_neg (by omega)
      rw [if_neg hbehind, hdiff]
      by_cases hlast : d < 0x7fffffff
      · rw [if_pos hlast]
        exact ⟨fun _ => by omega, fun _ => rfl⟩
      · rw [if_neg hlast]
        exact ⟨fun hsign => absurd hsign (by decide), fun hne => absurd hne (by omega)⟩

/-- Half of the circle counts as later, but for its last point: two timestamps 2^31 - 1 apart are each before
the other. -/
theorem consistent_iff (time1 time2 : UInt64) (h : (ahead time1 time2).toNat ≠ 2 ^ 31) :
    Consistent time1 time2 ↔
      (ahead time1 time2).toNat ≠ 2 ^ 31 - 1 ∧ (ahead time2 time1).toNat ≠ 2 ^ 31 - 1 := by
  constructor
  · intro hconsistent
    exact (antisymm_iff h).mp hconsistent.antisymm
  · intro hne
    exact ⟨(antisymm_iff h).mpr hne, timestampCompare_add time1 time2, (sign_iff h).mpr hne.1⟩

-- Timestamps on both sides of the wrap.
theorem consistent_across_wrap : Consistent 5 0xfffffff0 :=
  (consistent_iff 5 0xfffffff0 (by decide)).mpr (by decide)

theorem inconsistent_half_way :
    (ahead 0x7fffffff 0).toNat ≠ 2 ^ 31 ∧
      timestampCompare 0x7fffffff 0 = -1 ∧ timestampCompare 0 0x7fffffff = -1 ∧
      timestampDiff 0x7fffffff 0 = -0x7fffffff ∧ ¬Consistent 0x7fffffff 0 := by
  refine ⟨by decide, by decide, by decide, by decide, fun hconsistent => ?_⟩
  exact absurd hconsistent.antisymm (by decide)

end NET

end KWindowSystem
