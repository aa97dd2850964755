import KWindowSystem.Qt.Text

/-!
# Qt text — place markers, searches and unsigned numbers

`QString::arg` puts a text in place of the lowest numbered place marker of a template, wherever it
occurs.  A part of the template without a percent sign is out of its reach (`arg_append`), so that a
template can be filled from the left.
-/

namespace Qt

/-! ## Place markers -/

/-- The number of the place marker at the start of the text, and the marker's length.  A marker has one or
two digits, after an optional `L`. -/
def placeMarker (s : QString) : Option (Nat × Nat) :=
  let digits (length : Nat) : QString → Option (Nat × Nat)
    | c :: d :: _ =>
        if c.isDigit then
          if d.isDigit then some (Nat.ofDigitChars 10 [c, d] 0, length + 2)
          else some (Nat.ofDigitChars 10 [c] 0, length + 1)
        else none
    | [c] => if c.isDigit then some (Nat.ofDigitChars 10 [c] 0, length + 1) else none
    | [] => none
  match s with
  | '%' :: 'L' :: cs => digits 2 cs
  | '%' :: cs => digits 1 cs
  | _ => none

/-- Put `a` for the markers of number `n`; `skip` characters are what is left of a marker. -/
def replaceMarker (n : Nat) (a : QString) : Nat → QString → QString
  | _, [] => []
  | skip + 1, _ :: cs => replaceMarker n a skip cs
  | 0, c :: cs =>
      match placeMarker (c :: cs) with
      | some (k, length) =>
          if k = n then a ++ replaceMarker n a (length - 1) cs else c :: replaceMarker n a 0 cs
      | none => c :: replaceMarker n a 0 cs

def markers : QString → List Nat
  | [] => []
  | c :: cs => ((placeMarker (c :: cs)).map Prod.fst).toList ++ markers cs

def arg (s a : QString) : QString :=
  match (markers s).min? with
  | some n => replaceMarker n a 0 s
  | none => s

theorem placeMarker_of_ne {c : Char} (h : c ≠ '%') (cs : QString) : placeMarker (c :: cs) = none := by
  unfold placeMarker
  dsimp only
  split
  · rename_i heq
    exact absurd (List.cons.inj heq).1 h
  · rename_i heq
    exact absurd (List.cons.inj heq).1 h
  · rfl

theorem markers_append {t : QString} (ht : '%' ∉ t) (u : QString) : markers (t ++ u) = markers u := by
  induction t with
  | nil => rfl
  | cons c cs ih =>
      rw [List.mem_cons, not_or] at ht
      rw [List.cons_append, markers, placeMarker_of_ne (Ne.symm ht.1), ih ht.2]
      rfl

theorem replaceMarker_append {t : QString} (ht : '%' ∉ t) (n : Nat) (a u : QString) :
    replaceMarker n a 0 (t ++ u) = t ++ replaceMarker n a 0 u := by
  induction t with
  | nil => rfl
  | cons c cs ih =>
      rw [List.mem_cons, not_or] at ht
      rw [List.cons_append, replaceMarker, placeMarker_of_ne (Ne.symm ht.1), ih ht.2]
      rfl

-- What is filled in already is left alone when it has no percent sign.
theorem arg_append {t : QString} (ht : '%' ∉ t) (u a : QString) : arg (t ++ u) a = t ++ arg u a := by
  unfold arg
  rw [markers_append ht]
  split
  · exact replaceMarker_append ht _ a u
  · rfl

theorem percent_notMem_number (n : Int) : '%' ∉ number n := by
  intro h
  rcases mem_number h with hdigit | hminus
  · exact absurd hdigit (by decide)
  · exact absurd hminus (by decide)

-- A percent sign is read from its byte only.
theorem percent_notMem_fromUtf8 {bytes : QByteArray} (h : 0x25 ∉ bytes) : '%' ∉ fromUtf8 bytes := by
  have hdecode : ∀ (fuel : Nat) (bytes : QByteArray), 0x25 ∉ bytes → '%' ∉ decodeUtf8 fuel bytes := by
    intro fuel
    induction fuel with
    | zero => exact fun bytes _ => List.not_mem_nil
    | succ fuel ih =>
        intro bytes hbytes
        cases bytes with
        | nil => exact List.not_mem_nil
        | cons b bs =>
            rw [decodeUtf8]
            split
            · rename_i c hc
              rw [List.mem_cons, not_or]
              refine ⟨?_, ih _ fun hmem => hbytes (List.mem_of_mem_drop hmem)⟩
              rintro rfl
              rcases ByteArray.exists_of_utf8DecodeChar?_eq_some hc with ⟨rest, hrest⟩
              have hencode : String.utf8EncodeChar '%' = [0x25] := by decide
              have hlist := congrArg (fun b : ByteArray => b.data.toList) hrest
              rw [hencode] at hlist
              rw [show b :: bs = 0x25 :: rest.data.toList by simpa [ByteArray.data_append] using hlist] at hbytes
              exact hbytes List.mem_cons_self
            · rw [List.mem_cons, not_or]
              exact ⟨by decide, ih _ fun hmem => hbytes (List.mem_cons_of_mem _ hmem)⟩
  unfold fromUtf8
  split
  · exact hdecode _ _ fun hmem => h (List.mem_of_mem_drop hmem)
  · exact hdecode _ bytes h

/-! ## Searches -/

/-- `QByteArray::lastIndexOf`; `none` for `-1`. -/
def lastIndexOf (s pat : QByteArray) : Option Nat :=
  (List.range (s.length + 1)).findRev? fun i => pat.isPrefixOf (s.drop i)

theorem prefix_of_lastIndexOf {s pat : QByteArray} {pos : Nat} (h : lastIndexOf s pat = some pos) :
    pat <+: s.drop pos := by
  unfold lastIndexOf at h
  rw [List.findRev?_eq_find?_reverse] at h
  have hfound := List.find?_some h
  exact List.isPrefixOf_iff_prefix.mp hfound

-- A pattern is found where nothing after its first byte is that byte again.
theorem lastIndexOf_append (pre : QByteArray) {b : UInt8} {pat post : QByteArray} (hpat : pat <+: post)
    (hpost : b ∉ post) : lastIndexOf (pre ++ b :: post) (b :: pat) = some pre.length := by
  have hrange : List.range ((pre ++ b :: post).length + 1) =
      List.range (pre.length + 1) ++ (List.range (post.length + 1)).map (pre.length + 1 + ·) := by
    rw [← List.range_add]
    congr 1
    simp
    omega
  have hlater : ∀ i, (b :: pat).isPrefixOf ((pre ++ b :: post).drop (pre.length + 1 + i)) = false := by
    intro i
    rw [← List.drop_drop, List.drop_append, List.drop_eq_nil_of_le (Nat.le_succ _), Nat.add_sub_cancel_left,
      List.nil_append, List.drop_one, List.tail_cons]
    rw [← Bool.not_eq_true, List.isPrefixOf_iff_prefix]
    rintro ⟨rest, hrest⟩
    apply hpost
    apply List.mem_of_mem_drop (i := i)
    rw [← hrest]
    exact List.mem_cons_self
  have hhere : (b :: pat).isPrefixOf ((pre ++ b :: post).drop pre.length) = true := by
    rw [List.drop_left, List.isPrefixOf_iff_prefix]
    exact (List.prefix_cons_inj b).mpr hpat
  let found (i : Nat) : Bool := (b :: pat).isPrefixOf ((pre ++ b :: post).drop i)
  have hnone : ((List.range (post.length + 1)).map (pre.length + 1 + ·)).reverse.find? found = none := by
    rw [List.find?_eq_none]
    intro j hj
    rw [List.mem_reverse, List.mem_map] at hj
    rcases hj with ⟨i, _, rfl⟩
    rw [Bool.not_eq_true]
    exact hlater i
  show (List.range ((pre ++ b :: post).length + 1)).findRev? found = some pre.length
  rw [List.findRev?_eq_find?_reverse, hrange, List.reverse_append, List.find?_append, hnone, Option.none_or,
    List.range_succ, List.reverse_append, List.reverse_singleton, List.singleton_append]
  exact List.find?_cons_of_pos hhere

/-! ## Unsigned numbers -/

/-- `QString::toULong` on a 64-bit `unsigned long`, with `ok` as the result's presence. -/
def toULong (s : QString) : Option Nat :=
  match trimmed s with
  | '-' :: _ => none
  | t => (signedValue t).bind fun n => if n < 2 ^ 64 then some n.toNat else none

theorem toULong_number {n : Nat} (h : n < 2 ^ 64) : toULong (number n) = some n := by
  have hvalue := signedValue_number n
  have hhead : ∀ t, number n ≠ '-' :: t := by
    intro t ht
    have hdigit : '-'.isDigit = true := by
      apply Nat.isDigit_of_mem_toDigits (b := 10) (n := n) (by decide) (by decide)
      rw [show Nat.toDigits 10 n = '-' :: t from ht]
      exact List.mem_cons_self
    cases hdigit
  unfold toULong
  rw [trimmed_of_nonspace fun c hc => isSpace_of_mem_number hc]
  split
  · rename_i t heq
    exact absurd heq (hhead t)
  · rw [hvalue, Option.bind_some, if_pos (by exact_mod_cast h)]
    rfl

end Qt
