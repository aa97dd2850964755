import KWindowSystem.Qt.Text
import Mathlib.Algebra.GroupWithZero.Nat

/-!
# Fields of a startup message

`getFields` is the tokenizer every startup message goes through: it splits the simplified text at
the spaces outside double quotes, and drops the quotes and each escaping backslash.  The second
half is the theory of texts made of `KEY=value` fields, in the three ways the sender writes a value.
`getFields_texts` gives the items of a message whose raw values are clean; `clean_of_exact` is the
converse, and rests on the conservation law `sum_count_getFieldsLoop`: the tokenizer neither loses
nor adds a character other than the quote and the backslash.
-/

open Qt

namespace KWindowSystem

/-! ## The tokenizer -/

/-- The loop of `get_fields`, with `item`, `in` and `escape` as its variables. -/
def getFieldsLoop : QString → QString → Bool → Bool → List QString
  | [], item, _, _ => [item]
  | c :: cs, item, inside, escape =>
      if escape then getFieldsLoop cs (item ++ [c]) inside false
      else if c = '\\' then getFieldsLoop cs item inside true
      else if c = '"' then getFieldsLoop cs item (!inside) false
      else if c = ' ' && !inside then item :: getFieldsLoop cs [] inside false
      else getFieldsLoop cs (item ++ [c]) inside false

def getFields (txt : QString) : List QString := getFieldsLoop (simplified txt) [] false false

def escapeStr (str : QString) : QString :=
  str.flatMap fun c => if c = '\\' || c = '"' then ['\\', c] else [c]

/-- `item.mid(item.indexOf('=') + 1)`; the whole item when it has no equals sign. -/
def getStr (item : QString) : QString :=
  match item.dropWhile (· ≠ '=') with
  | [] => item
  | _ :: rest => rest

def getNum (item : QString) : Int := toLong (getStr item)

def getCstr (item : QString) : QByteArray := toUtf8 (getStr item)

/-! ## Fields -/

/-- The three ways `to_text` writes a value: between quotes and escaped, between quotes as it
stands, and as it stands. -/
inductive Quoting where
  | escaped
  | quoted
  | bare
deriving DecidableEq, Repr

structure Field where
  key : QString
  quoting : Quoting
  value : QString
deriving DecidableEq, Repr

def Quoting.write : Quoting → QString → QString
  | .escaped, v => '"' :: escapeStr v ++ ['"']
  | .quoted, v => '"' :: v ++ ['"']
  | .bare, v => v

/-- The field as the sender writes it. -/
def Field.text (f : Field) : QString := f.key ++ '=' :: f.quoting.write f.value

/-- The field as the receiver is meant to read it. -/
def Field.item (f : Field) : QString := f.key ++ '=' :: f.value

/-- The characters the tokenizer may drop. -/
def isSpecial (c : Char) : Bool := c = '\\' || c = '"'

/-- Nothing in a value written as it stands can be taken for a quote, an escape or a separator. -/
def Quoting.Clean : Quoting → QString → Prop
  | .escaped, _ => True
  | .quoted, v => ∀ c ∈ v, isSpecial c = false
  | .bare, v => ∀ c ∈ v, isSpecial c = false ∧ c ≠ ' '

instance (q : Quoting) (v : QString) : Decidable (q.Clean v) :=
  match q with
  | .escaped => isTrue trivial
  | .quoted => inferInstanceAs (Decidable (∀ c ∈ v, isSpecial c = false))
  | .bare => inferInstanceAs (Decidable (∀ c ∈ v, isSpecial c = false ∧ c ≠ ' '))

def Field.Clean (f : Field) : Prop := f.quoting.Clean f.value

/-- Keys are made of ordinary characters. -/
def Field.PlainKey (f : Field) : Prop := ∀ c ∈ f.key, isSpecial c = false ∧ isSpace c = false

/-- The text of a message: the fields, one space before each. -/
def fieldsText (fs : List Field) : QString := fs.flatMap fun f => ' ' :: f.text

theorem isSpecial_space : isSpecial ' ' = false := by decide

theorem fieldsText_cons (f : Field) (fs : List Field) :
    fieldsText (f :: fs) = ' ' :: (f.text ++ fieldsText fs) := rfl

/-! ## Reading clean text -/

theorem getFieldsLoop_separator (cs item : QString) :
    getFieldsLoop (' ' :: cs) item false false = item :: getFieldsLoop cs [] false false := rfl

theorem getFieldsLoop_quote (cs item : QString) (inside : Bool) :
    getFieldsLoop ('"' :: cs) item inside false = getFieldsLoop cs item (!inside) false := rfl

theorem getFieldsLoop_ordinary {u : QString} {inside : Bool}
    (hu : ∀ c ∈ u, isSpecial c = false ∧ (inside = false → c ≠ ' ')) (rest item : QString) :
    getFieldsLoop (u ++ rest) item inside false = getFieldsLoop rest (item ++ u) inside false := by
  induction u generalizing item with
  | nil => simp
  | cons c cs ih =>
      obtain ⟨hspec, hspace⟩ := hu c (by simp)
      simp only [isSpecial, Bool.or_eq_false_iff, decide_eq_false_iff_not] at hspec
      have hsep : ¬ (c = ' ' && !inside) = true := by
        cases inside <;> simp_all
      rw [List.cons_append, getFieldsLoop, if_neg (by simp), if_neg hspec.1, if_neg hspec.2,
        if_neg hsep, ih (fun d hd => hu d (by simp [hd]))]
      simp

theorem getFieldsLoop_escapeStr (v rest item : QString) :
    getFieldsLoop (escapeStr v ++ rest) item true false = getFieldsLoop rest (item ++ v) true false := by
  induction v generalizing item with
  | nil => simp [escapeStr]
  | cons c cs ih =>
      by_cases hc : c = '\\' ∨ c = '"'
      · have hhead : escapeStr (c :: cs) = '\\' :: c :: escapeStr cs := by simp [escapeStr, hc]
        rw [hhead, List.cons_append, List.cons_append, getFieldsLoop, if_neg (by simp), if_pos rfl,
          getFieldsLoop, if_pos rfl, ih]
        simp
      · have hhead : escapeStr (c :: cs) = c :: escapeStr cs := by simp [escapeStr, hc]
        rw [not_or] at hc
        rw [hhead, List.cons_append, getFieldsLoop, if_neg (by simp), if_neg hc.1, if_neg hc.2,
          if_neg (by simp), ih]
        simp

theorem getFieldsLoop_key {f : Field} (hk : f.PlainKey) (rest : QString) :
    getFieldsLoop (f.key ++ '=' :: rest) [] false false =
      getFieldsLoop rest (f.key ++ ['=']) false false := by
  have hkey : ∀ c ∈ f.key ++ ['='], isSpecial c = false ∧ (false = false → c ≠ ' ') := by
    intro c hc
    rcases List.mem_append.mp hc with hc | hc
    · refine ⟨(hk c hc).1, fun _ h => ?_⟩
      have := (hk c hc).2
      rw [h] at this
      exact absurd this (by decide)
    · rw [List.mem_singleton.mp hc]
      decide
  have h := getFieldsLoop_ordinary hkey rest []
  simpa using h

-- A clean field leaves the tokenizer between fields with exactly its item read.
theorem getFieldsLoop_text {f : Field} (hk : f.PlainKey) (hc : f.Clean) (rest : QString) :
    getFieldsLoop (f.text ++ rest) [] false false = getFieldsLoop rest f.item false false := by
  obtain ⟨key, quoting, value⟩ := f
  have hkey := getFieldsLoop_key hk (quoting.write value ++ rest)
  simp only [Field.text, Field.item, List.append_assoc, List.cons_append] at hkey ⊢
  rw [hkey]
  cases quoting with
  | escaped =>
      simp only [Quoting.write, List.cons_append, List.append_assoc, List.nil_append]
      rw [getFieldsLoop_quote, Bool.not_false, getFieldsLoop_escapeStr, getFieldsLoop_quote]
      simp
  | quoted =>
      have hv : ∀ c ∈ value, isSpecial c = false ∧ (true = false → c ≠ ' ') :=
        fun c hc' => ⟨hc c hc', by simp⟩
      simp only [Quoting.write, List.cons_append, List.append_assoc, List.nil_append]
      rw [getFieldsLoop_quote, Bool.not_false, getFieldsLoop_ordinary hv, getFieldsLoop_quote]
      simp
  | bare =>
      have hv : ∀ c ∈ value, isSpecial c = false ∧ (false = false → c ≠ ' ') :=
        fun c hc' => ⟨(hc c hc').1, fun _ => (hc c hc').2⟩
      simp only [Quoting.write]
      rw [getFieldsLoop_ordinary hv]
      simp

theorem getFieldsLoop_texts {fs : List Field} (hk : ∀ f ∈ fs, f.PlainKey) (hc : ∀ f ∈ fs, f.Clean)
    (item : QString) :
    getFieldsLoop (fieldsText fs) item false false = item :: fs.map Field.item := by
  induction fs generalizing item with
  | nil => rfl
  | cons f fs ih =>
      rw [fieldsText_cons, getFieldsLoop_separator,
        getFieldsLoop_text (hk f (by simp)) (hc f (by simp))]
      exact congrArg _ (ih (fun g hg => hk g (by simp [hg])) (fun g hg => hc g (by simp [hg])) _)

-- The tokenizer reads a sequence of clean fields back as their items.
theorem getFields_texts {f : Field} {fs : List Field} (hk : ∀ g ∈ f :: fs, g.PlainKey)
    (hc : ∀ g ∈ f :: fs, g.Clean) :
    getFieldsLoop (f.text ++ fieldsText fs) [] false false = (f :: fs).map Field.item := by
  rw [getFieldsLoop_text (hk f (by simp)) (hc f (by simp)),
    getFieldsLoop_texts (fun g hg => hk g (by simp [hg])) (fun g hg => hc g (by simp [hg]))]
  rfl

/-! ## Conservation -/

-- Every character but the quote and the backslash ends up in an item or separates two items.
theorem sum_count_getFieldsLoop (p : Char → Bool) (hbackslash : p '\\' = false)
    (hquote : p '"' = false) (hspace : p ' ' = true) (txt item : QString) (inside escape : Bool) :
    ((getFieldsLoop txt item inside escape).map fun i => i.countP p + 1).sum =
      item.countP p + txt.countP p + 1 := by
  induction txt generalizing item inside escape with
  | nil => simp [getFieldsLoop]
  | cons c cs ih =>
      have hcount : (item ++ [c]).countP p + cs.countP p + 1 =
          item.countP p + (c :: cs).countP p + 1 := by
        simp only [List.countP_append, List.countP_cons, List.countP_nil]
        omega
      unfold getFieldsLoop
      split
      · rw [ih, hcount]
      · split
        · rename_i hc
          rw [ih, hc, List.countP_cons_of_neg (by simp [hbackslash])]
        · split
          · rename_i hc
            rw [ih, hc, List.countP_cons_of_neg (by simp [hquote])]
          · split
            · rename_i hc
              simp only [Bool.and_eq_true, decide_eq_true_eq] at hc
              simp only [List.map_cons, List.sum_cons]
              rw [ih, hc.1, List.countP_cons_of_pos hspace]
              simp only [List.countP_nil]
              omega
            · rw [ih, hcount]

-- The item being read only grows until it is finished.
theorem getFieldsLoop_head (txt item : QString) (inside escape : Bool) :
    ∃ t rest, getFieldsLoop txt item inside escape = (item ++ t) :: rest := by
  induction txt generalizing item inside escape with
  | nil => exact ⟨[], [], by simp [getFieldsLoop]⟩
  | cons c cs ih =>
      have grow : ∀ inside, ∃ t rest,
          getFieldsLoop cs (item ++ [c]) inside false = (item ++ t) :: rest := by
        intro inside
        obtain ⟨t, rest, h⟩ := ih (item ++ [c]) inside false
        exact ⟨c :: t, rest, by simpa using h⟩
      unfold getFieldsLoop
      split
      · exact grow inside
      · split
        · exact ih item inside true
        · split
          · exact ih item (!inside) false
          · split
            · exact ⟨[], _, by rw [List.append_nil]⟩
            · exact grow inside

/-! ## Reading one stretch of text -/

/-- What the tokenizer adds to the item over `txt` and the state it is left in, when no separator
occurs in `txt`. -/
def scan : QString → Bool → Bool → Option (QString × Bool × Bool)
  | [], inside, escape => some ([], inside, escape)
  | c :: cs, inside, escape =>
      if escape then (scan cs inside false).map fun r => (c :: r.1, r.2)
      else if c = '\\' then scan cs inside true
      else if c = '"' then scan cs (!inside) false
      else if c = ' ' && !inside then none
      else (scan cs inside false).map fun r => (c :: r.1, r.2)

theorem getFieldsLoop_of_scan {txt : QString} {inside escape : Bool} {r : QString × Bool × Bool}
    (h : scan txt inside escape = some r) (rest item : QString) :
    getFieldsLoop (txt ++ rest) item inside escape =
      getFieldsLoop rest (item ++ r.1) r.2.1 r.2.2 := by
  induction txt generalizing item inside escape r with
  | nil =>
      cases h
      simp
  | cons c cs ih =>
      unfold scan at h
      rw [List.cons_append, getFieldsLoop]
      split
      · rename_i he
        rw [if_pos he, Option.map_eq_some_iff] at h
        obtain ⟨s, hs, rfl⟩ := h
        simp [ih hs]
      · rename_i he
        rw [if_neg he] at h
        split
        · rename_i hc
          rw [if_pos hc] at h
          exact ih h item
        · rename_i hb
          rw [if_neg hb] at h
          split
          · rename_i hc
            rw [if_pos hc] at h
            exact ih h item
          · rename_i hq
            rw [if_neg hq] at h
            split
            · rename_i hc
              rw [if_pos hc] at h
              cases h
            · rename_i hc
              rw [if_neg hc, Option.map_eq_some_iff] at h
              obtain ⟨s, hs, rfl⟩ := h
              simp [ih hs]

-- A separator inside `txt` finishes the item with fewer ordinary characters than `txt` has.
theorem getFieldsLoop_of_scan_none {txt : QString} {inside escape : Bool}
    (h : scan txt inside escape = none) (rest item : QString) :
    ∃ t tail, getFieldsLoop (txt ++ rest) item inside escape = (item ++ t) :: tail ∧
      t.countP (fun c => !isSpecial c) < txt.countP fun c => !isSpecial c := by
  induction txt generalizing item inside escape with
  | nil => cases h
  | cons c cs ih =>
      have grow : ∀ inside, scan cs inside false = none →
          ∃ t tail, getFieldsLoop (cs ++ rest) (item ++ [c]) inside false = (item ++ t) :: tail ∧
            t.countP (fun c => !isSpecial c) < (c :: cs).countP fun c => !isSpecial c := by
        intro inside hs
        obtain ⟨t, tail, ht, hlt⟩ := ih hs (item ++ [c])
        refine ⟨c :: t, tail, by simpa using ht, ?_⟩
        simp only [List.countP_cons]
        omega
      have skip : ∀ inside escape, scan cs inside escape = none →
          ∃ t tail, getFieldsLoop (cs ++ rest) item inside escape = (item ++ t) :: tail ∧
            t.countP (fun c => !isSpecial c) < (c :: cs).countP fun c => !isSpecial c := by
        intro inside escape hs
        obtain ⟨t, tail, ht, hlt⟩ := ih hs item
        refine ⟨t, tail, ht, ?_⟩
        rw [List.countP_cons]
        omega
      unfold scan at h
      rw [List.cons_append, getFieldsLoop]
      split
      · rename_i he
        rw [if_pos he, Option.map_eq_none_iff] at h
        exact grow inside h
      · rename_i he
        rw [if_neg he] at h
        split
        · rename_i hc
          rw [if_pos hc] at h
          exact skip inside true h
        · rename_i hb
          rw [if_neg hb] at h
          split
          · rename_i hc
            rw [if_pos hc] at h
            exact skip (!inside) false h
          · rename_i hq
            rw [if_neg hq] at h
            split
            · refine ⟨[], _, by rw [List.append_nil], ?_⟩
              simp [isSpecial, hb, hq]
            · rename_i hc
              rw [if_neg hc, Option.map_eq_none_iff] at h
              exact grow inside h

theorem length_scan_le {txt : QString} {inside escape : Bool} {r : QString × Bool × Bool}
    (h : scan txt inside escape = some r) : r.1.length ≤ txt.length := by
  induction txt generalizing inside escape r with
  | nil =>
      cases h
      simp
  | cons c cs ih =>
      unfold scan at h
      split at h
      · rw [Option.map_eq_some_iff] at h
        obtain ⟨s, hs, rfl⟩ := h
        simpa using ih hs
      · split at h
        · exact Nat.le_trans (ih h) (by simp)
        · split at h
          · exact Nat.le_trans (ih h) (by simp)
          · split at h
            · cases h
            · rw [Option.map_eq_some_iff] at h
              obtain ⟨s, hs, rfl⟩ := h
              simpa using ih hs

-- Only text without quotes and backslashes is read without dropping a character.
theorem not_special_of_length_scan {txt : QString} {inside : Bool} {r : QString × Bool × Bool}
    (h : scan txt inside false = some r) (hlen : r.1.length = txt.length) :
    ∀ c ∈ txt, isSpecial c = false ∧ (inside = false → c ≠ ' ') := by
  induction txt generalizing r with
  | nil => simp
  | cons c cs ih =>
      unfold scan at h
      rw [if_neg (by simp)] at h
      split at h
      · have := length_scan_le h
        simp only [List.length_cons] at hlen
        omega
      · rename_i hb
        split at h
        · have := length_scan_le h
          simp only [List.length_cons] at hlen
          omega
        · rename_i hq
          split at h
          · cases h
          · rename_i hsep
            rw [Option.map_eq_some_iff] at h
            obtain ⟨s, hs, rfl⟩ := h
            intro d hd
            rcases List.mem_cons.mp hd with rfl | hd
            · refine ⟨by simp [isSpecial, hb, hq], fun hin hd' => hsep ?_⟩
              simp [hin, hd']
            · exact ih hs (by simpa using hlen) d hd

-- A quoted value that reads back as itself holds no quote and no backslash: the closing quote
-- would have to stand for the character dropped before it.
theorem not_special_of_scan_quoted {v : QString} {inside escape : Bool}
    (h : scan (v ++ ['"']) true false = some (v, inside, escape)) : ∀ c ∈ v, isSpecial c = false := by
  have hend : ∀ {t : QString} {e i : Bool} {r : QString × Bool × Bool},
      scan (t ++ ['"']) i false = some r → r.1.length = t.length + 1 → False := by
    intro t e i r hr hlen
    have := (not_special_of_length_scan hr (by simpa using hlen) '"' (by simp)).1
    exact absurd this (by decide)
  induction v generalizing inside escape with
  | nil => simp
  | cons c cs ih =>
      rw [List.cons_append] at h
      unfold scan at h
      rw [if_neg (by simp)] at h
      split at h
      · rename_i hc
        exfalso
        cases cs with
        | nil =>
            subst hc
            simp [scan] at h
        | cons d ds =>
            rw [List.cons_append] at h
            unfold scan at h
            rw [if_pos rfl, Option.map_eq_some_iff] at h
            obtain ⟨s, hs, hs'⟩ := h
            injection hs' with h1 h2
            injection h1 with h3 h4
            exact hend (e := false) hs (by rw [h4]; simp)
      · rename_i hb
        split at h
        · exfalso
          exact hend (e := false) h (by simp)
        · rename_i hq
          rw [if_neg (by simp), Option.map_eq_some_iff] at h
          obtain ⟨⟨s, i, e⟩, hs, hs'⟩ := h
          injection hs' with h1 h2
          injection h1 with h3 h4
          subst h4
          intro d hd
          rcases List.mem_cons.mp hd with rfl | hd
          · simp [isSpecial, hb, hq]
          · exact ih hs d hd

/-! ## Exactness -/

theorem countP_write (q : Quoting) (v : QString) (hq : q ≠ .escaped) :
    (q.write v).countP (fun c => !isSpecial c) = v.countP fun c => !isSpecial c := by
  cases q with
  | escaped => exact absurd rfl hq
  | quoted =>
      simp only [Quoting.write, List.cons_append, List.countP_cons, List.countP_append,
        List.countP_nil]
      simp [isSpecial]
  | bare => rfl

-- A field whose own item is the first one read was written cleanly.
theorem clean_of_head {f : Field} (hk : f.PlainKey) {rest : QString}
    (hrest : rest = [] ∨ ∃ r, rest = ' ' :: r) {tail : List QString}
    (h : getFieldsLoop (f.text ++ rest) [] false false = f.item :: tail) : f.Clean := by
  obtain ⟨key, quoting, value⟩ := f
  have hkey := getFieldsLoop_key hk (quoting.write value ++ rest)
  simp only [Field.text, Field.item, List.append_assoc, List.cons_append] at hkey h
  rw [hkey] at h
  by_cases hesc : quoting = .escaped
  · subst hesc
    trivial
  have hcount := countP_write quoting value hesc
  have hscan : ∃ i e, scan (quoting.write value) false false = some (value, i, e) := by
    cases hs : scan (quoting.write value) false false with
    | none =>
        obtain ⟨t, tail', ht, hlt⟩ := getFieldsLoop_of_scan_none hs rest (key ++ ['='])
        rw [ht] at h
        have heq := (List.cons.inj h).1
        have : t = value := by simpa using heq
        rw [this] at hlt
        omega
    | some r =>
        obtain ⟨emit, i, e⟩ := r
        have hr := getFieldsLoop_of_scan hs rest (key ++ ['='])
        rw [hr] at h
        -- After the value comes the end of the text or a space: either the item ends here, or it
        -- takes in the space and has more ordinary characters than the value.
        rcases hrest with rfl | ⟨r', rfl⟩
        · have heq := (List.cons.inj h).1
          have : emit = value := by simpa using heq
          exact ⟨i, e, by rw [this]⟩
        · by_cases hsep : e = false ∧ i = false
          · obtain ⟨rfl, rfl⟩ := hsep
            rw [getFieldsLoop_separator] at h
            have heq := (List.cons.inj h).1
            have : emit = value := by simpa using heq
            exact ⟨false, false, by rw [this]⟩
          · exfalso
            have hspace : getFieldsLoop (' ' :: r') (key ++ ['='] ++ emit) i e =
                getFieldsLoop r' (key ++ ['='] ++ emit ++ [' ']) i false := by
              rw [getFieldsLoop]
              cases e with
              | true => simp
              | false =>
                  have hi : i = true := by simpa using hsep
                  subst hi
                  simp
            obtain ⟨t, tail', ht⟩ := getFieldsLoop_head r' (key ++ ['='] ++ emit ++ [' ']) i false
            rw [hspace, ht] at h
            have heq := (List.cons.inj h).1
            have hval : emit ++ ' ' :: t = value := by simpa using heq
            have hemit : emit.countP (fun c => !isSpecial c) =
                value.countP fun c => !isSpecial c := by
              have hsum := sum_count_getFieldsLoop (fun c => !isSpecial c) rfl rfl rfl
                (quoting.write value) [] false false
              have hone := getFieldsLoop_of_scan hs [] []
              rw [List.append_nil] at hone
              rw [hone] at hsum
              simp only [getFieldsLoop, List.nil_append, List.map_cons, List.map_nil,
                List.sum_cons, List.sum_nil, List.countP_nil] at hsum
              omega
            rw [← hval, List.countP_append, List.countP_cons] at hemit
            simp only [isSpecial_space, Bool.not_false, if_true] at hemit
            omega
  obtain ⟨i, e, hs⟩ := hscan
  cases quoting with
  | escaped => exact absurd rfl hesc
  | quoted =>
      simp only [Quoting.write, List.cons_append] at hs
      unfold scan at hs
      rw [if_neg (by simp), if_neg (by decide), if_pos rfl] at hs
      exact not_special_of_scan_quoted hs
  | bare =>
      intro c hc
      have := not_special_of_length_scan hs rfl c hc
      exact ⟨this.1, this.2 rfl⟩

-- If a field that is not clean can only be read as its own item, every field is clean.
theorem clean_of_exact {f : Field} {fs : List Field} (hk : ∀ g ∈ f :: fs, g.PlainKey)
    (hexact : ∀ g ∈ f :: fs, g.Clean ∨
      ∀ i ∈ getFieldsLoop (f.text ++ fieldsText fs) [] false false,
        g.key ++ ['='] <+: i → i = g.item) :
    ∀ g ∈ f :: fs, g.Clean := by
  induction fs generalizing f with
  | nil =>
      intro g hg
      rw [List.mem_singleton.mp hg]
      rcases hexact f (by simp) with h | h
      · exact h
      · obtain ⟨t, tail, ht⟩ := getFieldsLoop_head (f.quoting.write f.value) (f.key ++ ['=']) false false
        have hread : getFieldsLoop (f.text ++ fieldsText []) [] false false =
            (f.key ++ ['='] ++ t) :: tail := by
          rw [← ht, ← getFieldsLoop_key (hk f (by simp))]
          simp [fieldsText, Field.text]
        have hitem := h (f.key ++ ['='] ++ t) (by simp [hread]) (List.prefix_append _ _)
        rw [hitem] at hread
        exact clean_of_head (hk f (by simp)) (.inl rfl) hread
  | cons f' fs ih =>
      have hread : ∃ t tail, getFieldsLoop (f.text ++ fieldsText (f' :: fs)) [] false false =
          (f.key ++ ['='] ++ t) :: tail := by
        obtain ⟨t, tail, ht⟩ := getFieldsLoop_head
          (f.quoting.write f.value ++ fieldsText (f' :: fs)) (f.key ++ ['=']) false false
        refine ⟨t, tail, ?_⟩
        rw [← ht, ← getFieldsLoop_key (hk f (by simp))]
        simp [Field.text]
      obtain ⟨t, tail, ht⟩ := hread
      have hf : f.Clean := by
        rcases hexact f (by simp) with h | h
        · exact h
        · have hitem := h (f.key ++ ['='] ++ t) (by simp [ht]) (List.prefix_append _ _)
          rw [hitem] at ht
          exact clean_of_head (hk f (by simp)) (.inr ⟨f'.text ++ fieldsText fs, by simp [fieldsText]⟩) ht
      have hnext : getFieldsLoop (f.text ++ fieldsText (f' :: fs)) [] false false =
          f.item :: getFieldsLoop (f'.text ++ fieldsText fs) [] false false := by
        rw [getFieldsLoop_text (hk f (by simp)) hf]
        rw [fieldsText_cons, getFieldsLoop_separator]
      have hrest := ih (fun g hg => hk g (List.mem_cons_of_mem _ hg)) fun g hg =>
        (hexact g (List.mem_cons_of_mem _ hg)).imp_right fun h i hi => h i (by simp [hnext, hi])
      intro g hg
      rcases List.mem_cons.mp hg with rfl | hg
      · exact hf
      · exact hrest g hg

end KWindowSystem
