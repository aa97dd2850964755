import KWindowSystem.KKeyServer.Modifiers

/-!
# The letter case of characters and of keysyms

`QChar::toUpper` knows the case of Unicode characters, `XConvertCase` the case of keysyms.  The keysyms of
Latin-1 are the characters with their codes, but the codes of the other letters below 0x1000 are those of other
characters: there the two agree on nothing that changes (`sameKey_upper_iff`).
-/

namespace KWindowSystem

namespace KKeyServer

/-! ## Tables -/

/-- `count` codes, `step` apart from `first` on, and the code of the first in the other case. -/
structure CaseRun (w : Nat) where
  first : BitVec w
  other : BitVec w
  count : Nat
  step : Nat

variable {w : Nat}

def CaseRun.covers (r : CaseRun w) (c : BitVec w) : Bool :=
  decide ((c - r.first).toNat < r.count * r.step) && decide ((c - r.first).toNat % r.step = 0)

/-- The code in the other case, if one of the runs has it. -/
def mapCase (runs : List (CaseRun w)) (c : BitVec w) : BitVec w :=
  match runs.find? fun r => r.covers c with
  | some r => r.other + (c - r.first)
  | none => c

-- Case analysis: the code stays as it is, or is one of a run.
theorem mapCase_cases (runs : List (CaseRun w)) (c : BitVec w) :
    mapCase runs c = c ∨ ∃ r ∈ runs, ∃ i < r.count, c = r.first + BitVec.ofNat w (i * r.step) ∧
      mapCase runs c = r.other + BitVec.ofNat w (i * r.step) := by
  unfold mapCase
  cases hfind : runs.find? fun r => r.covers c with
  | none => exact .inl rfl
  | some r =>
      right
      have hcovers := List.find?_some hfind
      simp only [CaseRun.covers, Bool.and_eq_true, decide_eq_true_eq] at hcovers
      obtain ⟨i, hi⟩ := Nat.dvd_of_mod_eq_zero hcovers.2
      have hoffset : c - r.first = BitVec.ofNat w (i * r.step) := by
        rw [Nat.mul_comm, ← hi, BitVec.ofNat_toNat, BitVec.setWidth_eq]
      refine ⟨r, List.mem_of_find?_eq_some hfind, i, ?_, ?_, by dsimp only; rw [hoffset]⟩
      · rw [hi, Nat.mul_comm] at hcovers
        exact Nat.lt_of_mul_lt_mul_right hcovers.1
      · rw [← hoffset, BitVec.add_comm, BitVec.sub_add_cancel]

/-! ## Characters -/

/-- The small letters of Latin-1 that have a capital there. -/
def SmallLatin1 (c : BitVec 16) : Prop :=
  (0x61 ≤ c ∧ c ≤ 0x7a) ∨ (0xe0 ≤ c ∧ c ≤ 0xf6) ∨ (0xf8 ≤ c ∧ c ≤ 0xfe)

instance (c : BitVec 16) : Decidable (SmallLatin1 c) := inferInstanceAs (Decidable (_ ∨ _ ∨ _))

/-- The codes where keysyms have letters: Latin-1, and the upper halves of the pages of Latin-2, Latin-3, Latin-4,
Cyrillic and Greek. -/
def HasLetters (c : BitVec 16) : Prop :=
  c < 0x100 ∨ (c >>> 8 ∈ ([1, 2, 3, 6, 7] : List (BitVec 16)) ∧ 0xa0 ≤ c &&& 0xff)

instance (c : BitVec 16) : Decidable (HasLetters c) := inferInstanceAs (Decidable (_ ∨ _))

/-- The characters there with another upper case in Unicode's simple mapping, and that upper case. -/
def upperRuns : List (CaseRun 16) := [
    ⟨0x61, 0x41, 26, 1⟩, ⟨0xb5, 0x39c, 1, 1⟩, ⟨0xe0, 0xc0, 23, 1⟩, ⟨0xf8, 0xd8, 7, 1⟩, ⟨0xff, 0x178, 1, 1⟩,
    ⟨0x1a1, 0x1a0, 3, 2⟩, ⟨0x1a8, 0x1a7, 1, 1⟩, ⟨0x1ad, 0x1ac, 1, 1⟩, ⟨0x1b0, 0x1af, 1, 1⟩,
    ⟨0x1b4, 0x1b3, 2, 2⟩, ⟨0x1b9, 0x1b8, 1, 1⟩, ⟨0x1bd, 0x1bc, 1, 1⟩, ⟨0x1bf, 0x1f7, 1, 1⟩,
    ⟨0x1c5, 0x1c4, 1, 1⟩, ⟨0x1c6, 0x1c4, 1, 1⟩, ⟨0x1c8, 0x1c7, 1, 1⟩, ⟨0x1c9, 0x1c7, 1, 1⟩,
    ⟨0x1cb, 0x1ca, 1, 1⟩, ⟨0x1cc, 0x1ca, 1, 1⟩, ⟨0x1ce, 0x1cd, 8, 2⟩, ⟨0x1dd, 0x18e, 1, 1⟩,
    ⟨0x1df, 0x1de, 9, 2⟩, ⟨0x1f2, 0x1f1, 1, 1⟩, ⟨0x1f3, 0x1f1, 1, 1⟩, ⟨0x1f5, 0x1f4, 1, 1⟩,
    ⟨0x1f9, 0x1f8, 4, 2⟩,
    ⟨0x3ac, 0x386, 1, 1⟩, ⟨0x3ad, 0x388, 3, 1⟩, ⟨0x3b1, 0x391, 17, 1⟩, ⟨0x3c2, 0x3a3, 1, 1⟩,
    ⟨0x3c3, 0x3a3, 9, 1⟩, ⟨0x3cc, 0x38c, 1, 1⟩, ⟨0x3cd, 0x38e, 2, 1⟩, ⟨0x3d0, 0x392, 1, 1⟩,
    ⟨0x3d1, 0x398, 1, 1⟩, ⟨0x3d5, 0x3a6, 1, 1⟩, ⟨0x3d6, 0x3a0, 1, 1⟩, ⟨0x3d7, 0x3cf, 1, 1⟩,
    ⟨0x3d9, 0x3d8, 12, 2⟩, ⟨0x3f0, 0x39a, 1, 1⟩, ⟨0x3f1, 0x3a1, 1, 1⟩, ⟨0x3f2, 0x3f9, 1, 1⟩,
    ⟨0x3f3, 0x37f, 1, 1⟩, ⟨0x3f5, 0x395, 1, 1⟩, ⟨0x3f8, 0x3f7, 1, 1⟩, ⟨0x3fb, 0x3fa, 1, 1⟩]

/-- Unicode's simple upper case mapping, as far as keysyms have letters. -/
def simpleUpper (c : BitVec 16) : BitVec 16 := mapCase upperRuns c

/-- What is used of the simple upper case mapping: its values where keysyms have letters, and that an upper case is
one of its own. -/
structure SimpleUpper (toUpper : BitVec 16 → BitVec 16) : Prop where
  idem : ∀ c, toUpper (toUpper c) = toUpper c
  letters : ∀ c, HasLetters c → toUpper c = simpleUpper c

theorem simpleUpper_simpleUpper : SimpleUpper simpleUpper where
  idem c := by
    have hall : ∀ r ∈ upperRuns, ∀ i < r.count,
        simpleUpper (r.other + BitVec.ofNat 16 (i * r.step)) = r.other + BitVec.ofNat 16 (i * r.step) := by
      decide +kernel
    rcases mapCase_cases upperRuns c with hsame | ⟨r, hr, i, hi, -, hother⟩
    · exact congrArg simpleUpper hsame
    · rw [show simpleUpper c = _ from hother]
      exact hall r hr i hi
  letters _ _ := rfl

/-! ## Keysyms -/

/-- The capitals among the keysyms with their small letters, without the Armenian and the Unicode ones, which nothing
is translated back to. -/
def lowerRuns : List (CaseRun 32) := [
    ⟨0x41, 0x61, 26, 1⟩,  -- XK_A
    ⟨0xc0, 0xe0, 23, 1⟩,  -- XK_Agrave to XK_Odiaeresis
    ⟨0xd8, 0xf8, 7, 1⟩,  -- XK_Oslash to XK_Thorn
    ⟨0x1a1, 0x1b1, 1, 1⟩,  -- XK_Aogonek
    ⟨0x1a3, 0x1b3, 4, 1⟩,  -- XK_Lstroke to XK_Sacute
    ⟨0x1a9, 0x1b9, 4, 1⟩,  -- XK_Scaron to XK_Zacute
    ⟨0x1ae, 0x1be, 2, 1⟩,  -- XK_Zcaron, XK_Zabovedot
    ⟨0x1c0, 0x1e0, 31, 1⟩,  -- XK_Racute to XK_Tcedilla
    ⟨0x2a1, 0x2b1, 6, 1⟩,  -- XK_Hstroke to XK_Hcircumflex
    ⟨0x2ab, 0x2bb, 2, 1⟩,  -- XK_Gbreve, XK_Jcircumflex
    ⟨0x2c5, 0x2e5, 26, 1⟩,  -- XK_Cabovedot to XK_Scircumflex
    ⟨0x3a3, 0x3b3, 10, 1⟩,  -- XK_Rcedilla to XK_Tslash
    ⟨0x3bd, 0x3bf, 1, 1⟩,  -- XK_ENG
    ⟨0x3c0, 0x3e0, 31, 1⟩,  -- XK_Amacron to XK_Umacron
    ⟨0x6b1, 0x6a1, 15, 1⟩,  -- XK_Serbian_DJE to XK_Serbian_DZE
    ⟨0x6e0, 0x6c0, 32, 1⟩,  -- XK_Cyrillic_YU to XK_Cyrillic_HARDSIGN
    ⟨0x7a1, 0x7b1, 11, 1⟩,  -- XK_Greek_ALPHAaccent to XK_Greek_OMEGAaccent
    ⟨0x7c1, 0x7e1, 25, 1⟩,  -- XK_Greek_ALPHA to XK_Greek_OMEGA
    ⟨0x13bc, 0x13bd, 1, 1⟩,  -- XK_OE
    ⟨0x13be, 0xff, 1, 1⟩]  -- XK_Ydiaeresis

/-- The lower case of a keysym, as `XConvertCase` has it. -/
def lowerCase (keySym : KeySym) : KeySym := mapCase lowerRuns keySym

/-- The same keysym but for its case. -/
def SameKey (keySym keySym' : KeySym) : Prop := lowerCase keySym = lowerCase keySym'

instance (keySym keySym' : KeySym) : Decidable (SameKey keySym keySym') := inferInstanceAs (Decidable (_ = _))

-- Below 0x1000, letters and their other case have codes with letters.
theorem hasLetters_of_lowerRuns : ∀ r ∈ lowerRuns, ∀ i < r.count,
    (r.first + BitVec.ofNat 32 (i * r.step) < 0x1000 →
      HasLetters ((r.first + BitVec.ofNat 32 (i * r.step)).setWidth 16)) ∧
    (r.other + BitVec.ofNat 32 (i * r.step) < 0x1000 →
      HasLetters ((r.other + BitVec.ofNat 32 (i * r.step)).setWidth 16)) := by
  decide +kernel

theorem lowerCase_of_large {keySym : KeySym} (h : 0x3000 ≤ keySym) : lowerCase keySym = keySym := by
  have hall : ∀ r ∈ lowerRuns, ∀ i < r.count, r.first + BitVec.ofNat 32 (i * r.step) < 0x3000 := by
    decide +kernel
  rcases mapCase_cases lowerRuns keySym with hsame | ⟨r, hr, i, hi, hkeySym, -⟩
  · exact hsame
  · have hlt := hall r hr i hi
    rw [← hkeySym] at hlt
    exact absurd hlt (BitVec.not_lt.mpr h)

-- Keysyms behind the letters have no other case.
theorem eq_of_lowerCase_eq {keySym keySym' : KeySym} (h : 0x3000 ≤ keySym') (hsame : SameKey keySym keySym') :
    keySym = keySym' := by
  have hall : ∀ r ∈ lowerRuns, ∀ i < r.count, r.other + BitVec.ofNat 32 (i * r.step) < 0x3000 := by
    decide +kernel
  unfold SameKey at hsame
  rw [lowerCase_of_large h] at hsame
  rcases mapCase_cases lowerRuns keySym with hfixed | ⟨r, hr, i, hi, -, hother⟩
  · exact hfixed.symm.trans hsame
  · have hlt := hall r hr i hi
    rw [← hother] at hlt
    exact absurd (hsame ▸ hlt) (BitVec.not_lt.mpr h)

/-! ## Where they agree -/

variable {toUpper : BitVec 16 → BitVec 16} {c : BitVec 16}

theorem sameKey_of_smallLatin1 (hupper : SimpleUpper toUpper) (hc : SmallLatin1 c) :
    SameKey ((toUpper c).setWidth 32) (c.setWidth 32) := by
  have hall : ∀ n < 0x100, SmallLatin1 (BitVec.ofNat 16 n) →
      SameKey ((simpleUpper (BitVec.ofNat 16 n)).setWidth 32) ((BitVec.ofNat 16 n).setWidth 32) := by
    decide +kernel
  have hlt : c < 0x100 := by
    unfold SmallLatin1 at hc
    bv_omega
  have hcode : BitVec.ofNat 16 c.toNat = c := by rw [BitVec.ofNat_toNat, BitVec.setWidth_eq]
  have hsame := hall c.toNat (BitVec.lt_def.mp hlt)
  rw [hcode] at hsame
  rw [hupper.letters c (.inl hlt)]
  exact hsame hc

-- Another upper case is the same key in Latin-1 only, as the runs have it.
theorem smallLatin1_of_sameKey (hfixed : simpleUpper c ≠ c)
    (hsame : SameKey ((simpleUpper c).setWidth 32) (c.setWidth 32)) : SmallLatin1 c := by
  have hall : ∀ r ∈ upperRuns, ∀ i < r.count, SmallLatin1 (r.first + BitVec.ofNat 16 (i * r.step)) ∨
      ¬SameKey ((r.other + BitVec.ofNat 16 (i * r.step)).setWidth 32)
        ((r.first + BitVec.ofNat 16 (i * r.step)).setWidth 32) := by
    decide +kernel
  rcases mapCase_cases upperRuns c with hsimple | ⟨r, hr, i, hi, hfirst, hother⟩
  · exact absurd hsimple hfixed
  · have hrun := hall r hr i hi
    rw [← hfirst, ← hother] at hrun
    exact hrun.resolve_right (not_not.mpr hsame)

-- Where keysyms have no letters, no other code is the same key.
theorem eq_of_sameKey {a : BitVec 16} (hc : c < 0x1000) (hletters : ¬HasLetters c)
    (hsame : SameKey (a.setWidth 32) (c.setWidth 32)) : a = c := by
  have hwide : ∀ a : BitVec 16, (a.setWidth 32).setWidth 16 = a := by
    intro a
    rw [BitVec.setWidth_setWidth_of_le _ (by decide), BitVec.setWidth_eq]
  have hsmall : c.setWidth 32 < 0x1000 := by bv_omega
  have hfixed : lowerCase (c.setWidth 32) = c.setWidth 32 := by
    rcases mapCase_cases lowerRuns (c.setWidth 32) with hsimple | ⟨r, hr, i, hi, hfirst, -⟩
    · exact hsimple
    · have hrun := (hasLetters_of_lowerRuns r hr i hi).1
      rw [← hfirst, hwide] at hrun
      exact absurd (hrun hsmall) hletters
  unfold SameKey at hsame
  rw [hfixed] at hsame
  rcases mapCase_cases lowerRuns (a.setWidth 32) with hsimple | ⟨r, hr, i, hi, -, hother⟩
  · have heq := congrArg (BitVec.setWidth 16) (hsimple.symm.trans hsame)
    rwa [hwide, hwide] at heq
  · have hrun := (hasLetters_of_lowerRuns r hr i hi).2
    rw [← hother, show mapCase lowerRuns _ = c.setWidth 32 from hsame, hwide] at hrun
    exact absurd (hrun hsmall) hletters

/-- The upper case of a character, as a keysym, is that of the keysym with the same code exactly if it is the
character itself or a capital of Latin-1. -/
theorem sameKey_upper_iff (hupper : SimpleUpper toUpper) (hc : c < 0x1000) :
    SameKey ((toUpper c).setWidth 32) (c.setWidth 32) ↔ toUpper c = c ∨ SmallLatin1 c := by
  constructor
  · intro hsame
    by_cases hletters : HasLetters c
    · rw [hupper.letters c hletters] at hsame ⊢
      by_cases hfixed : simpleUpper c = c
      · exact .inl hfixed
      · exact .inr (smallLatin1_of_sameKey hfixed hsame)
    · exact .inl (eq_of_sameKey hc hletters hsame)
  · rintro (hfixed | hsmall)
    · rw [hfixed]
      rfl
    · exact sameKey_of_smallLatin1 hupper hsmall

end KKeyServer

end KWindowSystem
