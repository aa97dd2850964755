import KWindowSystem.Qt.Format
import KWindowSystem.Startup.Data

/-!
# The timestamp in a startup id

`createNewStartupIdForTimestamp` writes the timestamp behind the last `_TIME` of a new id, and
`timestamp` reads it from there, whatever the host name has before it.
-/

open Qt

namespace KWindowSystem

/-- The host name is what `gethostname` left in the buffer, `sec` and `usec` what `gettimeofday` says. -/
def createNewStartupIdForTimestamp (hostname : QByteArray) (sec usec : Int64) (pid : Int32)
    (timestamp : UInt32) : QByteArray :=
  let id := "%1;%2;%3;%4_TIME%5".toList
  let id := arg id (fromUtf8 (cString hostname))
  let id := arg id (number sec.toInt)
  let id := arg id (number usec.toInt)
  let id := arg id (number pid.toInt)
  let id := arg id (number timestamp.toNat)
  toUtf8 id

namespace KStartupInfoId

/-- `QString::toLong` with `ok` as the result's presence. -/
def toLongOk (s : QString) : Option Int :=
  (signedValue (trimmed s)).filter fun n => -2 ^ 63 ≤ n ∧ n < 2 ^ 63

def timestamp (i : KStartupInfoId) : UInt64 :=
  if i.isNull then 0
  else match lastIndexOf i.id (toUtf8 "_TIME".toList) with
    | none => 0
    | some pos =>
        let tail := i.id.drop (pos + 5)
        match toULong (fromUtf8 tail) with
        | some time => .ofNat time
        | none =>
            -- a negative signed number perhaps
            if tail.head? = some 0x2d then
              match toLongOk (fromUtf8 tail) with
              | some time => .ofInt time
              | none => 0
            else 0

theorem toUtf8_append (s t : QString) : toUtf8 (s ++ t) = toUtf8 s ++ toUtf8 t := List.flatMap_append

-- The template, filled from the left.
theorem createNewStartupIdForTimestamp_eq {hostname : QByteArray} (h : 0x25 ∉ hostname) (sec usec : Int64)
    (pid : Int32) (timestamp : UInt32) :
    createNewStartupIdForTimestamp hostname sec usec pid timestamp =
      toUtf8 (fromUtf8 (cString hostname) ++ (';' :: number sec.toInt) ++ (';' :: number usec.toInt) ++
        (';' :: number pid.toInt)) ++ toUtf8 "_TIME".toList ++ toUtf8 (number timestamp.toNat) := by
  have hhost : '%' ∉ fromUtf8 (cString hostname) := by
    apply percent_notMem_fromUtf8
    exact fun hmem => h ((List.takeWhile_prefix _).subset hmem)
  have hpart : ∀ {t : QString} (n : Int), '%' ∉ t → '%' ∉ t ++ (';' :: number n) := by
    intro t n ht hmem
    rw [List.mem_append, List.mem_cons] at hmem
    rcases hmem with hmem | hmem | hmem
    · exact ht hmem
    · cases hmem
    · exact percent_notMem_number n hmem
  have hsec := hpart sec.toInt hhost
  have husec := hpart usec.toInt hsec
  have hpid := hpart pid.toInt husec
  have hstep1 : ∀ a, arg "%1;%2;%3;%4_TIME%5".toList a = a ++ ";%2;%3;%4_TIME%5".toList := fun _ => rfl
  have hstep2 : ∀ a, arg ";%2;%3;%4_TIME%5".toList a = (';' :: a) ++ ";%3;%4_TIME%5".toList := fun _ => rfl
  have hstep3 : ∀ a, arg ";%3;%4_TIME%5".toList a = (';' :: a) ++ ";%4_TIME%5".toList := fun _ => rfl
  have hstep4 : ∀ a, arg ";%4_TIME%5".toList a = (';' :: a) ++ "_TIME%5".toList := fun _ => rfl
  have hstep5 : ∀ a, arg "_TIME%5".toList a = "_TIME".toList ++ (a ++ []) := fun _ => rfl
  unfold createNewStartupIdForTimestamp
  dsimp only
  rw [hstep1, arg_append hhost, hstep2, ← List.append_assoc, arg_append hsec, hstep3, ← List.append_assoc,
    arg_append husec, hstep4, ← List.append_assoc, arg_append hpid, hstep5, List.append_nil]
  rw [toUtf8_append _ ("_TIME".toList ++ _), toUtf8_append "_TIME".toList]
  exact (List.append_assoc _ _ _).symm

-- A decimal number has no byte of an underscore.
theorem underscore_notMem_number (n : Nat) : 0x5f ∉ toUtf8 (number n) := by
  intro h
  rcases List.mem_flatMap.mp h with ⟨c, hc, hb⟩
  have hdigit : c.isDigit = true := Nat.isDigit_of_mem_toDigits (by decide) (by decide) hc
  simp only [Char.isDigit, Bool.and_eq_true, decide_eq_true_eq, ge_iff_le] at hdigit
  have hlow : 48 ≤ c.val.toNat := hdigit.1
  have hhigh : c.val.toNat ≤ 57 := hdigit.2
  have hsize : c.utf8Size = 1 := by
    unfold Char.utf8Size
    rw [if_pos]
    rw [UInt32.le_iff_toNat_le]
    exact hhigh.trans (by decide)
  rw [String.utf8EncodeChar_eq_singleton hsize, List.mem_singleton] at hb
  have hval : c.val.toNat % 256 = 95 := (congrArg UInt8.toNat hb).symm
  omega

/-- Whatever the host name, the time and the process, the timestamp of a new id is the one it was made
for. -/
theorem timestamp_createNewStartupIdForTimestamp (hostname : QByteArray) (h : 0x25 ∉ hostname)
    (sec usec : Int64) (pid : Int32) (time : UInt32) :
    timestamp ⟨createNewStartupIdForTimestamp hostname sec usec pid time⟩ = time.toUInt64 := by
  rw [createNewStartupIdForTimestamp_eq h]
  generalize toUtf8 (fromUtf8 (cString hostname) ++ _ ++ _ ++ _) = pre
  let pat : QByteArray := [0x54, 0x49, 0x4d, 0x45]
  let digits := toUtf8 (number time.toNat)
  have hmarker : toUtf8 "_TIME".toList = 0x5f :: pat := by decide
  have hid : pre ++ toUtf8 "_TIME".toList ++ digits = pre ++ 0x5f :: (pat ++ digits) := by
    rw [hmarker, List.append_assoc, List.cons_append]
  have hnull : isNull ⟨pre ++ 0x5f :: (pat ++ digits)⟩ = false := by
    have hlength : (pre ++ 0x5f :: (pat ++ digits)).length = pre.length + (digits.length + 5) := by
      simp [pat]
    have hne : ∀ short : QByteArray, short.length ≤ 1 → pre ++ 0x5f :: (pat ++ digits) ≠ short := by
      intro short hshort heq
      rw [heq] at hlength
      omega
    unfold isNull
    rw [decide_eq_false (hne [] (by decide)), decide_eq_false (hne (toUtf8 ['0']) (by decide))]
    rfl
  have hpos : lastIndexOf (pre ++ 0x5f :: (pat ++ digits)) (0x5f :: pat) = some pre.length := by
    apply lastIndexOf_append pre (List.prefix_append pat digits)
    rw [List.mem_append, not_or]
    exact ⟨by decide, underscore_notMem_number _⟩
  have htail : (pre ++ 0x5f :: (pat ++ digits)).drop (pre.length + 5) = digits := by
    rw [← List.drop_drop, List.drop_left]
    rfl
  have htime : toULong (fromUtf8 digits) = some time.toNat := by
    have hhead : (number time.toNat).head? ≠ some byteOrderMark := by
      intro h
      rcases mem_number (List.mem_of_head? h) with hdigit | hminus
      · exact absurd hdigit (by decide)
      · exact absurd hminus (by decide)
    rw [fromUtf8_toUtf8.mpr hhead]
    exact toULong_number (time.toNat_lt.trans (by decide))
  show timestamp ⟨pre ++ toUtf8 "_TIME".toList ++ digits⟩ = time.toUInt64
  rw [hid]
  unfold timestamp
  rw [hnull, hmarker]
  dsimp only
  rw [hpos]
  dsimp only
  rw [htail, htime]
  exact UInt64.toNat_inj.mp (by simp)

-- A host whose name has a marker and a timestamp of its own.
theorem timestamp_of_marked_host :
    timestamp ⟨createNewStartupIdForTimestamp (toUtf8 "a_TIME7".toList) 1 2 3 0xffffffff⟩ = 0xffffffff :=
  timestamp_createNewStartupIdForTimestamp (toUtf8 "a_TIME7".toList) (by decide) 1 2 3 0xffffffff

/-! ## Bounds -/

/-- `timestamp` with the requirement of `QByteArray::operator[]` that the index is below the length; nothing
if an index is not. -/
def checkedTimestamp (i : KStartupInfoId) : Option UInt64 :=
  if i.isNull then some 0
  else match lastIndexOf i.id (toUtf8 "_TIME".toList) with
    | none => some 0
    | some pos =>
        let tail := i.id.drop (pos + 5)
        match toULong (fromUtf8 tail) with
        | some time => some (.ofNat time)
        | none =>
            match i.id[pos + 5]? with
            | none => none
            | some c =>
                if c = 0x2d then
                  match toLongOk (fromUtf8 tail) with
                  | some time => some (.ofInt time)
                  | none => some 0
                else some 0

-- In bounds, the check changes nothing.
theorem checkedTimestamp_eq (i : KStartupInfoId) :
    checkedTimestamp i = none ∨ checkedTimestamp i = some (timestamp i) := by
  unfold checkedTimestamp timestamp
  split
  · exact .inr rfl
  · split
    · exact .inr rfl
    · rename_i pos _
      dsimp only
      split
      · exact .inr rfl
      · rw [List.head?_drop]
        cases i.id[pos + 5]? with
        | none => exact .inl rfl
        | some c =>
            right
            dsimp only
            by_cases hc : c = 0x2d
            · rw [if_pos hc, if_pos (congrArg some hc)]
              split <;> rfl
            · rw [if_neg hc, if_neg fun h => hc (Option.some.inj h)]

/-- The bytes of an id are only read below its length exactly if the id does not end in the marker. -/
theorem checkedTimestamp_isSome_iff (i : KStartupInfoId) :
    (checkedTimestamp i).isSome ↔ ¬toUtf8 "_TIME".toList <:+ i.id := by
  have hmarker : (toUtf8 "_TIME".toList).length = 5 := by decide
  rw [← not_iff_not, not_not, Bool.not_eq_true, Option.isSome_eq_false_iff, Option.isNone_iff_eq_none]
  constructor
  · intro h
    unfold checkedTimestamp at h
    split at h
    · cases h
    · split at h
      · cases h
      · rename_i pos hpos
        have hstart := prefix_of_lastIndexOf hpos
        dsimp only at h
        split at h
        · cases h
        · -- The byte behind the last marker is missing, so that the marker is all that is left there.
          have hend : i.id[pos + 5]? = none := by
            cases hc : i.id[pos + 5]? with
            | none => rfl
            | some c =>
                rw [hc] at h
                dsimp only at h
                split at h
                · split at h <;> cases h
                · cases h
          rw [List.getElem?_eq_none_iff] at hend
          have hlength : (i.id.drop pos).length ≤ (toUtf8 "_TIME".toList).length := by
            rw [List.length_drop, hmarker]
            omega
          rw [hstart.eq_of_length_le hlength]
          exact List.drop_suffix pos i.id
  · rintro ⟨pre, hpre⟩
    have hnull : i.isNull = false := by
      have hlength : 5 ≤ i.id.length := by
        rw [← hpre, List.length_append, hmarker]
        omega
      have hne : ∀ short : QByteArray, short.length ≤ 1 → i.id ≠ short := by
        intro short hshort heq
        rw [heq] at hlength
        omega
      unfold isNull
      rw [decide_eq_false (hne [] (by decide)), decide_eq_false (hne (toUtf8 ['0']) (by decide))]
      rfl
    have hpos : lastIndexOf i.id (toUtf8 "_TIME".toList) = some pre.length := by
      rw [← hpre]
      exact lastIndexOf_append pre (b := 0x5f) (List.prefix_refl [0x54, 0x49, 0x4d, 0x45]) (by decide)
    have hend : i.id.length = pre.length + 5 := by
      rw [← hpre, List.length_append, hmarker]
    have htail : toULong (fromUtf8 (i.id.drop (pre.length + 5))) = none := by
      rw [← hend, List.drop_length]
      decide
    unfold checkedTimestamp
    rw [if_neg (Bool.eq_false_iff.mp hnull), hpos]
    dsimp only
    rw [htail]
    dsimp only
    rw [← hend, List.getElem?_eq_none (Nat.le_refl _)]

theorem checkedTimestamp_of_bare_marker :
    checkedTimestamp ⟨toUtf8 "host;1;2;3_TIME".toList⟩ = none := by
  decide

end KStartupInfoId

end KWindowSystem
