import KWindowSystem.Startup.RoundTrip

/-!
# Reading quoted fields

What `escape_str` does to a value between quotes the tokenizer undoes, however the fields are spaced: white
space collapses between the fields and never within one.
-/

open Qt

namespace KWindowSystem

/-- A quoted field behind one space and some more. -/
structure SpacedField where
  extra : Nat
  key : QString
  value : QString
deriving DecidableEq, Repr

namespace SpacedField

def field (f : SpacedField) : Field := ⟨f.key, .escaped, f.value⟩

def text (f : SpacedField) : QString := ' ' :: (List.replicate f.extra ' ' ++ f.field.text)

end SpacedField

def spacedText (fs : List SpacedField) (trailing : Nat) : QString :=
  fs.flatMap SpacedField.text ++ List.replicate trailing ' '

theorem collapse_spaces (n : Nat) (s : QString) :
    collapse true (List.replicate n ' ' ++ s) = collapse true s := by
  induction n with
  | zero => rfl
  | succ n ih => exact ih

theorem spacedText_cons (f : SpacedField) (fs : List SpacedField) (trailing : Nat) :
    spacedText (f :: fs) trailing =
      ' ' :: (List.replicate f.extra ' ' ++ (f.field.text ++ spacedText fs trailing)) := by
  simp [spacedText, SpacedField.text]

-- Whatever the spacing was, one space before each field is left.
theorem collapse_spacedText {fs : List SpacedField} (h : ∀ f ∈ fs, f.field.Simplified) (trailing : Nat) :
    collapse false (spacedText fs trailing) = fieldsText (fs.map SpacedField.field) := by
  induction fs with
  | nil =>
      show collapse false (List.replicate trailing ' ') = []
      cases trailing with
      | zero => rfl
      | succ n =>
          have hspaces := collapse_spaces n []
          rw [List.append_nil] at hspaces
          exact hspaces
  | cons f fs ih =>
      rw [List.forall_mem_cons] at h
      rw [spacedText_cons]
      show collapse true _ = _
      rw [collapse_spaces, (f.field.tidy_text h.1 true).collapse_append, ih h.2]
      rfl

theorem simplified_spacedText {f : SpacedField} {fs : List SpacedField}
    (h : ∀ g ∈ f :: fs, g.field.Simplified) (trailing : Nat) :
    simplified (spacedText (f :: fs) trailing) =
      f.field.text ++ fieldsText (fs.map SpacedField.field) := by
  rw [List.forall_mem_cons] at h
  obtain ⟨c, cs, htext, hc⟩ : ∃ c cs, f.field.text = c :: cs ∧ isSpace c = false := by
    cases hk : f.key with
    | nil => exact absurd hk h.1.1
    | cons c cs =>
        have hmem : c ∈ f.field.key := by
          show c ∈ f.key
          rw [hk]
          exact List.mem_cons_self
        refine ⟨c, cs ++ '=' :: Quoting.escaped.write f.value, ?_, (h.1.2.1 c hmem).2⟩
        show f.key ++ '=' :: Quoting.escaped.write f.value = _
        rw [hk, List.cons_append]
  have hdrop : (spacedText (f :: fs) trailing).dropWhile isSpace =
      f.field.text ++ spacedText fs trailing := by
    rw [spacedText_cons, List.dropWhile_cons_of_pos (by decide), List.dropWhile_append_of_pos, htext,
      List.cons_append, List.dropWhile_cons_of_neg (by simp [hc])]
    intro d hd
    rw [List.eq_of_mem_replicate hd]
    decide
  unfold simplified
  rw [hdrop, (f.field.tidy_text h.1 false).collapse_append, collapse_spacedText h.2]
  rfl

/-- A text of quoted fields is read as their items, and one without fields as a single empty item. -/
theorem getFields_spacedText (fs : List SpacedField) (trailing : Nat)
    (h : ∀ f ∈ fs, f.field.Simplified) :
    getFields (spacedText fs trailing) =
      if fs = [] then [[]] else fs.map fun f => f.key ++ '=' :: f.value := by
  unfold getFields
  cases fs with
  | nil =>
      have hdrop : (List.replicate trailing ' ').dropWhile isSpace = [] := by
        rw [List.dropWhile_eq_nil_iff]
        intro c hc
        rw [List.eq_of_mem_replicate hc]
        decide
      show getFieldsLoop (collapse false ((List.replicate trailing ' ').dropWhile isSpace)) [] false false = _
      rw [hdrop]
      rfl
  | cons f fs =>
      have hplain : ∀ g ∈ f.field :: fs.map SpacedField.field, g.PlainKey := by
        rw [← List.map_cons]
        intro g hg
        obtain ⟨g', hg', rfl⟩ := List.mem_map.mp hg
        exact (h g' hg').2.1
      have hclean : ∀ g ∈ f.field :: fs.map SpacedField.field, g.Clean := by
        rw [← List.map_cons]
        intro g hg
        obtain ⟨g', -, rfl⟩ := List.mem_map.mp hg
        trivial
      rw [simplified_spacedText h, getFields_texts hplain hclean, if_neg (List.cons_ne_nil _ _),
        ← List.map_cons, List.map_map]
      rfl

-- A value that ends in a backslash, an empty one, and one that looks like a field.
theorem getFields_spacedText_hard :
    getFields (spacedText [⟨0, "BIN".toList, "C:\\".toList⟩, ⟨3, "ICON".toList, []⟩,
        ⟨1, "NAME".toList, "a \" PID=1".toList⟩] 2) =
      ["BIN=C:\\".toList, "ICON=".toList, "NAME=a \" PID=1".toList] :=
  getFields_spacedText [⟨0, "BIN".toList, "C:\\".toList⟩, ⟨3, "ICON".toList, []⟩,
    ⟨1, "NAME".toList, "a \" PID=1".toList⟩] 2 (by
      intro f hf
      simp only [List.mem_cons, List.not_mem_nil, or_false] at hf
      rcases hf with rfl | rfl | rfl <;> exact ⟨by decide, by unfold Field.PlainKey; decide, by decide⟩)

theorem getFields_no_fields : getFields (spacedText [] 0) ≠ [] := by decide

end KWindowSystem
