import Mathlib.Algebra.Group.Int.Defs
import Mathlib.Algebra.Group.Nat.Defs
import Mathlib.Data.List.Basic
import Mathlib.Data.List.Nodup
import Mathlib.Data.List.TakeWhile
import Mathlib.Tactic.Common

/-!
# Qt text — the `QString` and `QByteArray` operations the parsers rest on

A `QString` holding valid Unicode text is its list of characters, a `QByteArray` its list of bytes.
The operations follow Qt's documented behaviour: `simplified` trims and collapses white space,
`fromUtf8` drops a byte order mark at the start and puts U+FFFD in place of each byte that starts no
valid sequence, `toLong` accepts an optionally signed decimal number with white space around it and
gives `0` for anything else.
-/

namespace Qt

-- A list is decided element by element, also where its type has finitely many values.
instance (priority := high) decidableForallMem {α : Type*} (p : α → Prop) [DecidablePred p] (l : List α) :
    Decidable (∀ x ∈ l, p x) := List.decidableBAll p l

abbrev QString := List Char
abbrev QByteArray := List UInt8

/-! ## White space -/

/-- `QChar::isSpace`: the space, the `Cc` exceptions and the separators `Zs`, `Zl` and `Zp`. -/
def isSpace (c : Char) : Bool :=
  let u := c.toNat
  u = 0x20 || (0x09 ≤ u && u ≤ 0x0d) || u = 0x85 || u = 0xa0 || u = 0x1680 ||
    (0x2000 ≤ u && u ≤ 0x200a) || u = 0x2028 || u = 0x2029 || u = 0x202f || u = 0x205f || u = 0x3000

def trimmed (s : QString) : QString :=
  ((s.dropWhile isSpace).reverse.dropWhile isSpace).reverse

/-- Collapse runs of white space after the first word; `pending` remembers an unwritten space. -/
def collapse : Bool → QString → QString
  | _, [] => []
  | pending, c :: cs =>
      if isSpace c then collapse true cs
      else (if pending then [' ', c] else [c]) ++ collapse false cs

def simplified (s : QString) : QString := collapse false (s.dropWhile isSpace)

/-- The strings `simplified` leaves alone, read from a position that follows a space or not: every
white space is a single `' '`, none is the first or the last character. -/
def Tidy : Bool → QString → Prop
  | afterSpace, [] => afterSpace = false
  | afterSpace, c :: cs =>
      if isSpace c then c = ' ' ∧ afterSpace = false ∧ Tidy true cs else Tidy false cs

theorem length_collapse_le (b : Bool) (s : QString) :
    (collapse b s).length ≤ s.length + b.toNat := by
  induction s generalizing b with
  | nil => simp [collapse]
  | cons c cs ih =>
      have htrue := ih true
      have hfalse := ih false
      simp only [Bool.toNat_true, Bool.toNat_false] at htrue hfalse
      cases b <;> simp only [collapse] <;> split <;> simp <;> omega

theorem collapse_true_head (s : QString) : collapse true s = [] ∨ ∃ r, collapse true s = ' ' :: r := by
  induction s with
  | nil => exact .inl rfl
  | cons c cs ih =>
      by_cases hc : isSpace c = true
      · simpa [collapse, hc] using ih
      · exact .inr ⟨c :: collapse false cs, by simp [collapse, hc]⟩

theorem collapse_eq_iff (s : QString) :
    (collapse false s = s ↔ Tidy false s) ∧ (collapse true s = ' ' :: s ↔ Tidy true s) := by
  induction s with
  | nil => simp [collapse, Tidy]
  | cons c cs ih =>
      by_cases hc : isSpace c = true
      · have hlen := length_collapse_le true cs
        have hne : collapse true cs ≠ ' ' :: c :: cs := fun h => by
          rw [h] at hlen
          simp only [List.length_cons, Bool.toNat_true] at hlen
          omega
        simp only [collapse, Tidy, hc, if_true, Bool.true_eq_false, false_and, and_false, iff_false,
          true_and]
        refine ⟨?_, hne⟩
        rw [← ih.2]
        constructor
        · intro h
          rcases collapse_true_head cs with h0 | ⟨r, hr⟩
          · rw [h0] at h
            cases h
          · rw [hr] at h
            obtain ⟨rfl, rfl⟩ := List.cons.inj h
            exact ⟨rfl, hr⟩
        · rintro ⟨rfl, h⟩
          exact h
      · have hc' : isSpace c = false := by simpa using hc
        simp [collapse, Tidy, hc', ih.1]

-- `simplified` fixes exactly the empty string and the tidy ones.
theorem simplified_eq_iff (s : QString) : simplified s = s ↔ s = [] ∨ Tidy true s := by
  cases s with
  | nil => simp [simplified, collapse]
  | cons c cs =>
      by_cases hc : isSpace c = true
      · have hlen := length_collapse_le false (cs.dropWhile isSpace)
        have hdrop := (List.dropWhile_sublist isSpace (l := cs)).length_le
        have hne : collapse false (cs.dropWhile isSpace) ≠ c :: cs := fun h => by
          rw [h] at hlen
          simp at hlen
          omega
        simp [simplified, hc, hne, Tidy]
      · have hc' : isSpace c = false := by simpa using hc
        simp [simplified, hc', (collapse_eq_iff (c :: cs)).1, Tidy]

theorem Tidy.false_of_true {s : QString} (h : Tidy true s) : Tidy false s := by
  cases s with
  | nil => simp [Tidy] at h
  | cons c cs =>
      simp only [Tidy] at h ⊢
      split at h <;> simp_all

-- Text after a non-space reads the same whether or not it is simplified on its own.
theorem tidy_of_simplified {s : QString} (h : simplified s = s) : Tidy false s := by
  rcases (simplified_eq_iff s).mp h with rfl | h
  · rfl
  · exact h.false_of_true

theorem Tidy.collapse_append {b : Bool} {s : QString} (h : Tidy b s) (t : QString) :
    collapse b (s ++ t) = (if b then [' '] else []) ++ s ++ collapse false t := by
  induction s generalizing b with
  | nil =>
      simp only [Tidy] at h
      simp [h]
  | cons c cs ih =>
      by_cases hc : isSpace c = true
      · simp only [Tidy, hc, if_true] at h
        obtain ⟨rfl, rfl, h⟩ := h
        simp [collapse, hc, ih h]
      · have hc' : isSpace c = false := by simpa using hc
        simp only [Tidy, hc'] at h
        cases b <;> simp [collapse, hc', ih h]

theorem tidy_append_nonspace {b : Bool} {u : QString} (hu : u ≠ []) (hns : ∀ c ∈ u, isSpace c = false)
    (s : QString) : Tidy b (u ++ s) ↔ Tidy false s := by
  induction u generalizing b with
  | nil => exact absurd rfl hu
  | cons c cs ih =>
      have hc := hns c (by simp)
      simp only [List.cons_append, Tidy, hc, Bool.false_eq_true, if_false]
      cases cs with
      | nil => rfl
      | cons d ds => exact ih (by simp) fun x hx => hns x (by simp [hx])

theorem Tidy.append {b : Bool} {s t : QString} (hs : Tidy b s) (ht : Tidy false t) :
    Tidy b (s ++ t) := by
  induction s generalizing b with
  | nil =>
      simp only [Tidy] at hs
      simpa [hs] using ht
  | cons c cs ih =>
      simp only [List.cons_append, Tidy] at hs ⊢
      split
      · rename_i hc
        rw [if_pos hc] at hs
        exact ⟨hs.1, hs.2.1, ih hs.2.2⟩
      · rename_i hc
        rw [if_neg hc] at hs
        exact ih hs

/-! ## C strings -/

/-- The bytes before the first NUL, what `strlen` and `char *` conversions see. -/
def cString (bytes : QByteArray) : QByteArray := bytes.takeWhile (· ≠ 0)

theorem cString_of_nul {bytes : QByteArray} (h : 0 ∉ bytes) : cString bytes = bytes := by
  apply List.takeWhile_eq_self_iff.mpr
  intro b hb
  exact decide_eq_true fun hzero => h (hzero ▸ hb)

/-! ## UTF-8 -/

def toUtf8 (s : QString) : QByteArray := s.flatMap String.utf8EncodeChar

/-- Decode `bytes`, at most `fuel` characters of it. -/
def decodeUtf8 : Nat → QByteArray → QString
  | 0, _ => []
  | _, [] => []
  | fuel + 1, b :: bs =>
      match ByteArray.utf8DecodeChar? ⟨(b :: bs).toArray⟩ 0 with
      | some c => c :: decodeUtf8 fuel ((b :: bs).drop c.utf8Size)
      | none => '\uFFFD' :: decodeUtf8 fuel bs

/-- The text of the bytes, with a byte order mark as any other character.  Every character takes at
least one byte, so the length is enough fuel. -/
def utf8Text (bytes : QByteArray) : QString := decodeUtf8 bytes.length bytes

/-- The byte order mark U+FEFF. -/
def byteOrderMark : Char := '\uFEFF'

def utf8bom : QByteArray := [0xef, 0xbb, 0xbf]

/-- The bytes do not begin with a byte order mark. -/
def Unmarked (bytes : QByteArray) : Prop := ¬utf8bom <+: bytes

instance (bytes : QByteArray) : Decidable (Unmarked bytes) := inferInstanceAs (Decidable (¬_))

/-- A byte order mark at the start is skipped. -/
def fromUtf8 (bytes : QByteArray) : QString :=
  if utf8bom <+: bytes then utf8Text (bytes.drop utf8bom.length) else utf8Text bytes

theorem fromUtf8_of_unmarked {bytes : QByteArray} (h : Unmarked bytes) : fromUtf8 bytes = utf8Text bytes := if_neg h

-- One character, and what is left of the bytes behind it.
theorem decodeUtf8_char (fuel : Nat) (c : Char) (rest : QByteArray) :
    decodeUtf8 (fuel + 1) (String.utf8EncodeChar c ++ rest) = c :: decodeUtf8 fuel rest := by
  have hsize := String.length_utf8EncodeChar c
  have hpos := Char.utf8Size_pos c
  obtain ⟨b, bs, hb⟩ : ∃ b bs, String.utf8EncodeChar c = b :: bs := by
    cases hc : String.utf8EncodeChar c with
    | nil => rw [hc] at hsize; simp at hsize; omega
    | cons b bs => exact ⟨b, bs, rfl⟩
  have hdecode : ByteArray.utf8DecodeChar? ⟨(b :: (bs ++ rest)).toArray⟩ 0 = some c := by
    have happend : (⟨(b :: (bs ++ rest)).toArray⟩ : ByteArray) =
        (String.utf8EncodeChar c).toByteArray ++ rest.toByteArray := by
      apply ByteArray.ext
      simp [hb, ByteArray.data_append]
    rw [happend]
    exact ByteArray.utf8DecodeChar?_utf8EncodeChar_append
  have hdrop : (b :: (bs ++ rest)).drop c.utf8Size = rest := by
    rw [← List.cons_append, ← hb, ← hsize, List.drop_left]
  rw [hb, List.cons_append, decodeUtf8, hdecode]
  simp only [hdrop]

theorem decodeUtf8_encode (s : QString) (fuel : Nat) (h : s.length ≤ fuel) :
    decodeUtf8 fuel (toUtf8 s) = s := by
  induction s generalizing fuel with
  | nil => cases fuel <;> rfl
  | cons c cs ih =>
      obtain ⟨fuel, rfl⟩ : ∃ n, fuel = n + 1 := ⟨fuel - 1, by simp at h; omega⟩
      rw [show toUtf8 (c :: cs) = String.utf8EncodeChar c ++ toUtf8 cs from List.flatMap_cons,
        decodeUtf8_char, ih fuel (by simpa using h)]

@[simp] theorem utf8Text_toUtf8 (s : QString) : utf8Text (toUtf8 s) = s := by
  apply decodeUtf8_encode
  induction s with
  | nil => simp
  | cons c cs ih =>
      have := Char.utf8Size_pos c
      simp only [toUtf8, List.flatMap_cons, List.length_append, List.length_cons,
        String.length_utf8EncodeChar] at ih ⊢
      omega

-- More fuel than there are bytes changes nothing.
theorem decodeUtf8_length (fuel : Nat) {bytes : QByteArray} (h : bytes.length ≤ fuel) :
    decodeUtf8 fuel bytes = utf8Text bytes := by
  have hmore : ∀ (fuel more : Nat) (bytes : QByteArray), bytes.length ≤ fuel → bytes.length ≤ more →
      decodeUtf8 fuel bytes = decodeUtf8 more bytes := by
    intro fuel
    induction fuel with
    | zero =>
        intro more bytes hfuel _
        rw [List.eq_nil_of_length_eq_zero (Nat.le_zero.mp hfuel)]
        cases more <;> rfl
    | succ fuel ih =>
        intro more bytes hfuel hmore
        cases bytes with
        | nil => cases more <;> rfl
        | cons b bs =>
            obtain ⟨more, rfl⟩ : ∃ n, more = n + 1 := ⟨more - 1, by simp at hmore; omega⟩
            simp only [List.length_cons, Nat.add_le_add_iff_right] at hfuel hmore
            rw [decodeUtf8, decodeUtf8]
            split
            · rename_i c hc
              have hrest : ((b :: bs).drop c.utf8Size).length ≤ bs.length := by
                have := Char.utf8Size_pos c
                simp only [List.length_drop, List.length_cons]
                omega
              rw [ih more _ (hrest.trans hfuel) (hrest.trans hmore)]
            · rw [ih more bs hfuel hmore]
  exact hmore fuel bytes.length bytes h (Nat.le_refl _)

-- The mark is all that is skipped.
theorem utf8Text_of_marked {bytes : QByteArray} (h : ¬Unmarked bytes) :
    utf8Text bytes = byteOrderMark :: fromUtf8 bytes := by
  obtain ⟨rest, rfl⟩ := not_not.mp h
  have hencode : utf8bom = String.utf8EncodeChar byteOrderMark := by decide
  have hlength : (utf8bom ++ rest).length = (rest.length + 2) + 1 := by
    rw [List.length_append]
    exact Nat.add_comm 3 rest.length
  rw [fromUtf8, if_pos (List.prefix_append _ _), List.drop_left, utf8Text, hlength, hencode, decodeUtf8_char,
    decodeUtf8_length _ (Nat.le_add_right _ _)]

theorem unmarked_toUtf8 {s : QString} : Unmarked (toUtf8 s) ↔ s.head? ≠ some byteOrderMark := by
  rw [← not_iff_not, not_not]
  constructor
  · intro h
    have htext := utf8Text_of_marked h
    rw [utf8Text_toUtf8] at htext
    rw [htext]
    rfl
  · intro h
    obtain ⟨cs, rfl⟩ : ∃ cs, s = byteOrderMark :: cs := by
      cases s with
      | nil => cases h
      | cons c cs => exact ⟨cs, by rw [Option.some.inj h]⟩
    exact not_not.mpr (List.prefix_append utf8bom (toUtf8 cs))

-- A text survives the way to UTF-8 and back unless it begins with a mark.
theorem fromUtf8_toUtf8 {s : QString} : fromUtf8 (toUtf8 s) = s ↔ s.head? ≠ some byteOrderMark := by
  rw [← unmarked_toUtf8]
  constructor
  · intro h
    by_contra hmark
    have htext := congrArg List.length (utf8Text_of_marked hmark)
    rw [utf8Text_toUtf8, h, List.length_cons] at htext
    omega
  · intro hmark
    rw [fromUtf8_of_unmarked hmark, utf8Text_toUtf8]

-- A byte is never lost, but for the mark.
theorem utf8Text_eq_nil {bytes : QByteArray} : utf8Text bytes = [] ↔ bytes = [] := by
  cases bytes with
  | nil => simp [utf8Text, decodeUtf8]
  | cons b bs =>
      simp only [utf8Text, List.length_cons, decodeUtf8]
      split <;> simp

/-! ## Decimal numbers -/

/-- `QString::arg` and `QString::number` of an integer. -/
def number : Int → QString
  | .ofNat n => Nat.toDigits 10 n
  | .negSucc n => '-' :: Nat.toDigits 10 (n + 1)

def digitsValue (s : QString) : Option Nat :=
  if s ≠ [] ∧ s.all Char.isDigit then some (Nat.ofDigitChars 10 s 0) else none

def signedValue : QString → Option Int
  | '-' :: s => (digitsValue s).map fun n => -(n : Int)
  | '+' :: s => (digitsValue s).map fun n => (n : Int)
  | s => (digitsValue s).map fun n => (n : Int)

/-- `QString::toLong` on a 64-bit `long`. -/
def toLong (s : QString) : Int :=
  match signedValue (trimmed s) with
  | some n => if -2 ^ 63 ≤ n ∧ n < 2 ^ 63 then n else 0
  | none => 0

theorem digitsValue_toDigits (n : Nat) : digitsValue (Nat.toDigits 10 n) = some n := by
  have hall : (Nat.toDigits 10 n).all Char.isDigit = true := by
    rw [List.all_eq_true]
    exact fun c hc => Nat.isDigit_of_mem_toDigits (by decide) (by decide) hc
  rw [digitsValue, if_pos ⟨Nat.toDigits_ne_nil, hall⟩, Nat.ofDigitChars_ten_toDigits]

-- The characters of a decimal number: digits and the minus sign.
theorem mem_number {n : Int} {c : Char} (h : c ∈ number n) : c.isDigit = true ∨ c = '-' := by
  cases n with
  | ofNat n => exact .inl (Nat.isDigit_of_mem_toDigits (by decide) (by decide) h)
  | negSucc n =>
      rcases List.mem_cons.mp h with rfl | h
      · exact .inr rfl
      · exact .inl (Nat.isDigit_of_mem_toDigits (by decide) (by decide) h)

theorem isSpace_of_isDigit {c : Char} (h : c.isDigit = true) : isSpace c = false := by
  simp only [Char.isDigit, Bool.and_eq_true, decide_eq_true_eq, ge_iff_le] at h
  have h1 : 48 ≤ c.toNat := h.1
  have h2 : c.toNat ≤ 57 := h.2
  simp [isSpace]
  omega

theorem isSpace_of_mem_number {n : Int} {c : Char} (h : c ∈ number n) : isSpace c = false := by
  rcases mem_number h with h | rfl
  · exact isSpace_of_isDigit h
  · decide

theorem number_ne_nil (n : Int) : number n ≠ [] := by
  cases n with
  | ofNat n => exact Nat.toDigits_ne_nil
  | negSucc n => simp [number]

theorem trimmed_of_nonspace {s : QString} (h : ∀ c ∈ s, isSpace c = false) : trimmed s = s := by
  have hdrop : ∀ t : QString, (∀ c ∈ t, isSpace c = false) → t.dropWhile isSpace = t := by
    intro t ht
    cases t with
    | nil => rfl
    | cons c cs => rw [List.dropWhile_cons_of_neg (by simp [ht c])]
  rw [trimmed, hdrop s h, hdrop s.reverse (by simpa using h), List.reverse_reverse]

theorem signedValue_number (n : Int) : signedValue (number n) = some n := by
  cases n with
  | ofNat n =>
      have hdig : ∀ c ∈ Nat.toDigits 10 n, c.isDigit = true := fun c hc =>
        Nat.isDigit_of_mem_toDigits (by decide) (by decide) hc
      have hval := digitsValue_toDigits n
      simp only [number]
      cases hd : Nat.toDigits 10 n with
      | nil => exact absurd hd Nat.toDigits_ne_nil
      | cons c cs =>
          rw [hd] at hdig hval
          have hc := hdig c (by simp)
          unfold signedValue
          split
          · rename_i h
            obtain ⟨rfl, -⟩ := List.cons.inj h
            exact absurd hc (by decide)
          · rename_i h
            obtain ⟨rfl, -⟩ := List.cons.inj h
            exact absurd hc (by decide)
          · rw [hval]
            rfl
  | negSucc n =>
      simp only [number, signedValue, digitsValue_toDigits]
      rfl

-- A 64-bit number survives being printed and read back.
theorem toLong_number {n : Int} (hlo : -2 ^ 63 ≤ n) (hhi : n < 2 ^ 63) : toLong (number n) = n := by
  rw [toLong, trimmed_of_nonspace fun c hc => isSpace_of_mem_number hc, signedValue_number]
  exact if_pos ⟨hlo, hhi⟩

end Qt
