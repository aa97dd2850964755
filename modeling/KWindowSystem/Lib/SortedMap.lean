import Mathlib.Data.Finset.Basic
import Mathlib.Data.Finset.Dedup
import Mathlib.Order.Defs.LinearOrder

/-!
# SortedMap — key-ordered maps as strictly sorted association lists

The map carries the proof that its keys are strictly increasing, so iteration visits each key once
and in order, and a key determines its entry.  `find?` is the view through which the laws are
stated: `find?_insert`, `find?_erase` and `find?_filterMapValues` describe the three ways a map
changes, and `keySet` collects the keys as a `Finset`.
-/

structure SortedMap (κ ν : Type*) [LinearOrder κ] where
  entries : List (κ × ν)
  sorted : entries.Pairwise fun a b => a.1 < b.1

namespace SortedMap

variable {κ ν : Type*} [LinearOrder κ]

def empty : SortedMap κ ν := ⟨[], List.Pairwise.nil⟩

def find? (m : SortedMap κ ν) (k : κ) : Option ν :=
  (m.entries.find? fun e => e.1 = k).map Prod.snd

def contains (m : SortedMap κ ν) (k : κ) : Bool := (m.find? k).isSome

def isEmpty (m : SortedMap κ ν) : Bool := m.entries.isEmpty

/-- The keys, in iteration order, as a set. -/
def keySet (m : SortedMap κ ν) : Finset κ := (m.entries.map Prod.fst).toFinset

/-- Insert before the first larger key, replacing an equal one. -/
def insertEntry (k : κ) (v : ν) : List (κ × ν) → List (κ × ν)
  | [] => [(k, v)]
  | e :: es =>
      if k < e.1 then (k, v) :: e :: es
      else if k = e.1 then (k, v) :: es
      else e :: insertEntry k v es

theorem mem_insertEntry {k : κ} {v : ν} {es : List (κ × ν)} {e : κ × ν}
    (h : e ∈ insertEntry k v es) : e = (k, v) ∨ e ∈ es := by
  induction es with
  | nil => simpa [insertEntry] using h
  | cons d es ih =>
      unfold insertEntry at h
      split at h
      · simpa using h
      · split at h
        · simp only [List.mem_cons] at h ⊢
          tauto
        · simp only [List.mem_cons] at h ⊢
          rcases h with rfl | h
          · tauto
          · rcases ih h with h | h <;> tauto

theorem insertEntry_sorted (k : κ) (v : ν) {es : List (κ × ν)}
    (h : es.Pairwise fun a b => a.1 < b.1) :
    (insertEntry k v es).Pairwise fun a b => a.1 < b.1 := by
  induction es with
  | nil => simp [insertEntry]
  | cons d es ih =>
      rw [List.pairwise_cons] at h
      unfold insertEntry
      split
      · rename_i hlt
        refine List.pairwise_cons.mpr ⟨?_, List.pairwise_cons.mpr h⟩
        intro e he
        rcases List.mem_cons.mp he with rfl | he
        · exact hlt
        · exact hlt.trans (h.1 e he)
      · split
        · rename_i heq
          exact List.pairwise_cons.mpr ⟨fun e he => heq ▸ h.1 e he, h.2⟩
        · rename_i hlt hne
          refine List.pairwise_cons.mpr ⟨?_, ih h.2⟩
          intro e he
          rcases mem_insertEntry he with rfl | he
          · exact lt_of_le_of_ne (not_lt.mp hlt) (Ne.symm hne)
          · exact h.1 e he

def insert (m : SortedMap κ ν) (k : κ) (v : ν) : SortedMap κ ν :=
  ⟨insertEntry k v m.entries, insertEntry_sorted k v m.sorted⟩

def erase (m : SortedMap κ ν) (k : κ) : SortedMap κ ν :=
  ⟨m.entries.filter fun e => e.1 ≠ k, m.sorted.filter _⟩

/-- Visit every entry in key order, keeping those that `f` gives a new value. -/
def filterMapValues (f : κ → ν → Option ν) (m : SortedMap κ ν) : SortedMap κ ν where
  entries := m.entries.filterMap fun e => (f e.1 e.2).map fun v => (e.1, v)
  sorted := by
    refine List.Pairwise.filterMap _ ?_ m.sorted
    intro a a' hlt b hb b' hb'
    simp only [Option.map_eq_some_iff] at hb hb'
    obtain ⟨v, -, rfl⟩ := hb
    obtain ⟨v', -, rfl⟩ := hb'
    exact hlt

theorem mem_entries_iff {m : SortedMap κ ν} {k : κ} {v : ν} :
    (k, v) ∈ m.entries ↔ m.find? k = some v := by
  obtain ⟨es, hs⟩ := m
  simp only [find?]
  induction es with
  | nil => simp
  | cons e es ih =>
      rw [List.pairwise_cons] at hs
      by_cases hk : e.1 = k
      · have hnone : ∀ w, (k, w) ∉ es := fun w hw => absurd (hs.1 _ hw) (by simp [hk])
        rw [List.find?_cons_of_pos (by simpa using hk)]
        simp only [List.mem_cons, hnone v, or_false, Option.map_some, Option.some_inj]
        constructor
        · rintro rfl
          rfl
        · rintro rfl
          exact (Prod.ext hk rfl : e = (k, e.2)).symm
      · rw [List.find?_cons_of_neg (by simpa using hk), ← ih hs.2, List.mem_cons]
        exact or_iff_right fun h => hk (by rw [← h])

theorem contains_iff {m : SortedMap κ ν} {k : κ} : m.contains k = true ↔ ∃ v, m.find? k = some v := by
  simp [contains, Option.isSome_iff_exists]

theorem mem_keySet {m : SortedMap κ ν} {k : κ} : k ∈ m.keySet ↔ m.contains k = true := by
  rw [contains_iff]
  simp only [keySet, List.mem_toFinset, List.mem_map, ← mem_entries_iff]
  constructor
  · rintro ⟨⟨k, v⟩, he, rfl⟩
    exact ⟨v, he⟩
  · rintro ⟨v, he⟩
    exact ⟨(k, v), he, rfl⟩

theorem isEmpty_iff {m : SortedMap κ ν} : m.isEmpty = true ↔ ∀ k, m.find? k = none := by
  obtain ⟨es, hs⟩ := m
  cases es with
  | nil => simp [isEmpty, find?]
  | cons e es =>
      simp only [isEmpty, List.isEmpty_cons, Bool.false_eq_true, false_iff, not_forall]
      exact ⟨e.1, by simp [find?]⟩

@[simp] theorem find?_empty (k : κ) : (empty : SortedMap κ ν).find? k = none := rfl

theorem find?_insertEntry {k : κ} {v : ν} {es : List (κ × ν)}
    (h : es.Pairwise fun a b => a.1 < b.1) (j : κ) :
    (insertEntry k v es).find? (fun e => e.1 = j) =
      if j = k then some (k, v) else es.find? fun e => e.1 = j := by
  induction es with
  | nil => by_cases hj : j = k <;> simp [insertEntry, hj, eq_comm]
  | cons e es ih =>
      rw [List.pairwise_cons] at h
      unfold insertEntry
      split
      · by_cases hj : j = k <;> simp [hj, List.find?_cons, eq_comm]
      · split
        · rename_i heq
          by_cases hj : j = k
          · simp [hj]
          · have hje : ¬ e.1 = j := fun he => hj (he.symm.trans heq.symm)
            have hkj : ¬ k = j := fun hk => hj hk.symm
            simp [hj, hje, hkj]
        · rename_i hne
          by_cases hje : e.1 = j
          · have hj : ¬ j = k := fun hjk => hne (hjk ▸ hje.symm)
            simp [hje, hj]
          · rw [List.find?_cons_of_neg (by simpa using hje), ih h.2,
              List.find?_cons_of_neg (by simpa using hje)]

@[simp] theorem find?_insert (m : SortedMap κ ν) (k : κ) (v : ν) (j : κ) :
    (m.insert k v).find? j = if j = k then some v else m.find? j := by
  simp only [find?, insert, find?_insertEntry m.sorted]
  split <;> rfl

@[simp] theorem find?_erase (m : SortedMap κ ν) (k j : κ) :
    (m.erase k).find? j = if j = k then none else m.find? j := by
  apply Option.ext
  intro v
  rw [← mem_entries_iff, show (m.erase k).entries = m.entries.filter fun e => e.1 ≠ k from rfl,
    List.mem_filter, mem_entries_iff]
  by_cases hj : j = k <;> simp [hj]

@[simp] theorem find?_filterMapValues (f : κ → ν → Option ν) (m : SortedMap κ ν) (j : κ) :
    (m.filterMapValues f).find? j = (m.find? j).bind (f j) := by
  apply Option.ext
  intro w
  rw [← mem_entries_iff]
  simp only [filterMapValues, List.mem_filterMap, Option.map_eq_some_iff, Option.bind_eq_some_iff]
  constructor
  · rintro ⟨⟨k, v⟩, he, w', hw, heq⟩
    cases heq
    exact ⟨v, mem_entries_iff.mp he, hw⟩
  · rintro ⟨v, hv, hw⟩
    exact ⟨(j, v), mem_entries_iff.mpr hv, w, hw, rfl⟩

@[simp] theorem keySet_empty : (empty : SortedMap κ ν).keySet = ∅ := rfl

@[simp] theorem keySet_insert (m : SortedMap κ ν) (k : κ) (v : ν) :
    (m.insert k v).keySet = Insert.insert k m.keySet := by
  ext j
  rw [mem_keySet, Finset.mem_insert, mem_keySet, contains_iff, contains_iff, find?_insert]
  by_cases hj : j = k <;> simp [hj]

@[simp] theorem keySet_erase (m : SortedMap κ ν) (k : κ) : (m.erase k).keySet = m.keySet.erase k := by
  ext j
  rw [mem_keySet, Finset.mem_erase, mem_keySet, contains_iff, contains_iff, find?_erase]
  by_cases hj : j = k <;> simp [hj]

theorem nodup_keys (m : SortedMap κ ν) : (m.entries.map Prod.fst).Nodup :=
  List.pairwise_map.mpr (m.sorted.imp fun h => ne_of_lt h)

-- The entries of a key.
theorem filter_key (m : SortedMap κ ν) (k : κ) :
    (m.entries.filter fun e => e.1 = k) = (m.find? k).toList.map (Prod.mk k) := by
  obtain ⟨es, hs⟩ := m
  simp only [find?]
  induction es with
  | nil => rfl
  | cons e es ih =>
      rw [List.pairwise_cons] at hs
      by_cases hk : e.1 = k
      · have hrest : (es.filter fun e => e.1 = k) = [] :=
          List.filter_eq_nil_iff.mpr fun d hd => by simpa [← hk] using (hs.1 d hd).ne'
        rw [List.filter_cons_of_pos (by simpa using hk), List.find?_cons_of_pos (by simpa using hk), hrest]
        simp [← hk]
      · rw [List.filter_cons_of_neg (by simpa using hk), List.find?_cons_of_neg (by simpa using hk)]
        exact ih hs.2

-- A sweep loses exactly the keys of the entries it drops.
theorem keySet_filterMapValues (f : κ → ν → Option ν) (m : SortedMap κ ν) :
    (m.filterMapValues f).keySet =
      m.keySet \ ((m.entries.filter fun e => (f e.1 e.2).isNone).map Prod.fst).toFinset := by
  ext k
  simp only [Finset.mem_sdiff, mem_keySet, contains_iff, find?_filterMapValues, List.mem_toFinset,
    List.mem_map, List.mem_filter, Option.bind_eq_some_iff]
  constructor
  · rintro ⟨w, v, hv, hw⟩
    refine ⟨⟨v, hv⟩, ?_⟩
    rintro ⟨⟨k', v'⟩, ⟨he, hnone⟩, rfl⟩
    rw [mem_entries_iff.mp he] at hv
    cases hv
    simp [hw] at hnone
  · rintro ⟨⟨v, hv⟩, hkeep⟩
    cases hw : f k v with
    | none => exact absurd ⟨(k, v), ⟨mem_entries_iff.mpr hv, by simp [hw]⟩, rfl⟩ hkeep
    | some w => exact ⟨w, v, hv, hw⟩

end SortedMap
