import KWindowSystem.Startup.Data
import Mathlib.Algebra.Order.BigOperators.Group.List
import Mathlib.Algebra.Order.Group.Nat
import Mathlib.Data.List.Perm.Subperm

/-!
# The round trip of a startup message

The text that `startupText` writes is a list of fields, so that reading it is reading the items of
those fields.  Clean raw values come back, if no byte order mark is skipped (`ofText_of_clean`).  For
the converse every field needs an item of its own among those read; the conservation law of the
tokenizer then leaves no room for another item, nor for a mark that was not written.
-/

open Qt

namespace KWindowSystem

/-! ## Messages as lists of fields -/

def textField (key : String) (quoting : Quoting) (value : QString) : List Field :=
  if value ≠ [] then [⟨key.toList, quoting, value⟩] else []

/-- A member of bytes is written as the text that `decode` makes of it. -/
def bytesField (key : String) (quoting : Quoting) (decode : QByteArray → QString) (bytes : QByteArray) :
    List Field :=
  if bytes ≠ [] then [⟨key.toList, quoting, decode bytes⟩] else []

def numField (key : String) (given : Prop) [Decidable given] (n : Int) : List Field :=
  if given then [⟨key.toList, .bare, number n⟩] else []

section Fields

variable (decode : QByteArray → QString)

def KStartupInfoId.field (i : KStartupInfoId) : Field := ⟨"ID".toList, .escaped, decode i.id⟩

/-- The fields that are written, with `fromUtf8`, and those that are meant, with `utf8Text`. -/
def KStartupInfoData.fields (d : KStartupInfoData) : List Field :=
  textField "BIN" .escaped d.bin ++
  textField "NAME" .escaped d.name ++
  textField "DESCRIPTION" .escaped d.description ++
  textField "ICON" .quoted d.icon ++
  numField "DESKTOP" (d.desktop ≠ 0)
    (if d.desktop = onAllDesktops then onAllDesktops else d.desktop - 1).toInt ++
  bytesField "WMCLASS" .quoted decode d.wmclass ++
  bytesField "HOSTNAME" .bare decode d.hostname ++
  d.pids.list.flatMap (fun pid => numField "PID" True pid.toInt) ++
  numField "SILENT" (d.silent ≠ .unknown) (if d.silent = .yes then 1 else 0) ++
  numField "SCREEN" (d.screen ≠ -1) d.screen.toInt ++
  numField "XINERAMA" (d.xinerama ≠ -1) d.xinerama.toInt ++
  textField "APPLICATION_ID" .quoted d.applicationId

/-- All fields of a message. -/
def messageFields (id : KStartupInfoId) (d : KStartupInfoData) : List Field := id.field decode :: d.fields decode

end Fields

theorem fieldsText_append (fs gs : List Field) :
    fieldsText (fs ++ gs) = fieldsText fs ++ fieldsText gs := by
  simp [fieldsText]

theorem fieldsText_textField (key : String) (q : Quoting) (v : QString) :
    fieldsText (textField key q v) = if v ≠ [] then ' ' :: key.toList ++ '=' :: q.write v else [] := by
  unfold textField
  split <;> simp [fieldsText, Field.text]

theorem fieldsText_bytesField (key : String) (q : Quoting) (decode : QByteArray → QString) (bytes : QByteArray) :
    fieldsText (bytesField key q decode bytes) =
      if bytes ≠ [] then ' ' :: key.toList ++ '=' :: q.write (decode bytes) else [] := by
  unfold bytesField
  split <;> simp [fieldsText, Field.text]

theorem fieldsText_numField (key : String) (given : Prop) [Decidable given] (n : Int) :
    fieldsText (numField key given n) = if given then ' ' :: key.toList ++ '=' :: number n else [] := by
  unfold numField
  split <;> simp [fieldsText, Field.text, Quoting.write]

theorem fieldsText_flatMap {α : Type} (f : α → List Field) (as : List α) :
    fieldsText (as.flatMap f) = as.flatMap fun a => fieldsText (f a) := by
  induction as with
  | nil => rfl
  | cons a as ih => rw [List.flatMap_cons, fieldsText_append, ih, List.flatMap_cons]

theorem KStartupInfoData.toText_eq (d : KStartupInfoData) : d.toText = fieldsText (d.fields fromUtf8) := by
  unfold toText fields
  rw [fieldsText_append, fieldsText_append, fieldsText_append, fieldsText_append, fieldsText_append,
    fieldsText_append, fieldsText_append, fieldsText_append, fieldsText_append, fieldsText_append,
    fieldsText_append, fieldsText_textField, fieldsText_textField, fieldsText_textField,
    fieldsText_textField, fieldsText_numField, fieldsText_bytesField, fieldsText_bytesField,
    fieldsText_flatMap, fieldsText_numField, fieldsText_numField, fieldsText_numField,
    fieldsText_textField]
  have hpids : (fun pid : Int32 => fieldsText (numField "PID" True pid.toInt)) =
      fun pid => " PID=".toList ++ number pid.toInt := by
    funext pid
    rw [fieldsText_numField, if_pos trivial]
    rfl
  rw [hpids]
  rfl

theorem KStartupInfoId.toText_eq (i : KStartupInfoId) :
    i.toText = ' ' :: ((i.field fromUtf8).text ++ [' ']) := by
  show " ID=\"".toList ++ escapeStr (fromUtf8 i.id) ++ "\" ".toList = _
  rw [show "\" ".toList = ['"'] ++ [' '] from rfl, ← List.append_assoc]
  rfl

/-! ## Byte order marks -/

/-- None of the bytes that are written begin with a mark. -/
structure MarkFree (id : KStartupInfoId) (data : KStartupInfoData) : Prop where
  id : Unmarked id.id
  wmclass : Unmarked data.wmclass
  hostname : Unmarked data.hostname

instance (id : KStartupInfoId) (data : KStartupInfoData) : Decidable (MarkFree id data) :=
  decidable_of_iff (Unmarked id.id ∧ Unmarked data.wmclass ∧ Unmarked data.hostname)
    ⟨fun h => ⟨h.1, h.2.1, h.2.2⟩, fun h => ⟨h.id, h.wmclass, h.hostname⟩⟩

-- What is meant is written.
theorem MarkFree.messageFields_eq {id : KStartupInfoId} {data : KStartupInfoData} (h : MarkFree id data) :
    messageFields fromUtf8 id data = messageFields utf8Text id data := by
  unfold messageFields KStartupInfoId.field KStartupInfoData.fields bytesField
  rw [fromUtf8_of_unmarked h.id, fromUtf8_of_unmarked h.wmclass, fromUtf8_of_unmarked h.hostname]

/-! ## White space in messages -/

/-- Text values and ids as the sender is meant to hold them: valid and simplified. -/
def SimplifiedBytes (bytes : QByteArray) : Prop :=
  toUtf8 (utf8Text bytes) = bytes ∧ simplified (utf8Text bytes) = utf8Text bytes

structure Sendable (id : KStartupInfoId) (data : KStartupInfoData) : Prop where
  id : SimplifiedBytes id.id
  bin : simplified data.bin = data.bin
  name : simplified data.name = data.name
  description : simplified data.description = data.description
  icon : simplified data.icon = data.icon
  wmclass : SimplifiedBytes data.wmclass
  hostname : SimplifiedBytes data.hostname
  applicationId : simplified data.applicationId = data.applicationId

/-- The values of a message made of plain keys stand in simplified text. -/
def Field.Simplified (f : Field) : Prop :=
  f.key ≠ [] ∧ f.PlainKey ∧ simplified f.value = f.value

theorem tidy_escapeStr {b : Bool} {s : QString} (h : Tidy b s) : Tidy b (escapeStr s) := by
  induction s generalizing b with
  | nil => exact h
  | cons c cs ih =>
      have hcons : escapeStr (c :: cs) = (if c = '\\' ∨ c = '"' then ['\\', c] else [c]) ++ escapeStr cs := by
        simp [escapeStr]
      rw [hcons]
      by_cases hc : c = '\\' ∨ c = '"'
      · have hns : isSpace c = false := by
          rcases hc with rfl | rfl <;> decide
        simp only [Tidy, hns] at h
        rw [if_pos hc]
        simp only [List.cons_append, List.nil_append, Tidy, hns, show isSpace '\\' = false by decide]
        exact ih h
      · rw [if_neg hc]
        simp only [List.cons_append, List.nil_append, Tidy] at h ⊢
        split
        · rename_i hs
          rw [if_pos hs] at h
          exact ⟨h.1, h.2.1, ih h.2.2⟩
        · rename_i hs
          rw [if_neg hs] at h
          exact ih h

theorem tidy_write {q : Quoting} {v : QString} (h : simplified v = v) : Tidy false (q.write v) := by
  have hv := tidy_of_simplified h
  have hquote : Tidy false ['"'] := (tidy_append_nonspace (u := ['"']) (by simp) (by decide) []).mpr rfl
  cases q with
  | escaped => exact Tidy.append (s := ['"']) hquote ((tidy_escapeStr hv).append hquote)
  | quoted => exact Tidy.append (s := ['"']) hquote (hv.append hquote)
  | bare => exact hv

theorem Field.tidy_text {f : Field} (h : f.Simplified) (b : Bool) : Tidy b f.text := by
  have hkey := (tidy_append_nonspace (b := b) h.1 (fun c hc => (h.2.1 c hc).2) ('=' :: f.quoting.write f.value))
  apply hkey.mpr
  show Tidy false ('=' :: f.quoting.write f.value)
  simp only [Tidy, show isSpace '=' = false by decide]
  exact tidy_write h.2.2

theorem tidy_fieldsText {fs : List Field} (h : ∀ f ∈ fs, f.Simplified) : Tidy false (fieldsText fs) := by
  induction fs with
  | nil => rfl
  | cons f fs ih =>
      rw [fieldsText_cons]
      simp only [Tidy, show isSpace ' ' = true by decide, if_true, true_and]
      exact (f.tidy_text (h f (by simp)) true).append (ih fun g hg => h g (by simp [hg]))

-- The message loses its leading space and the doubled one after the id, nothing else.
theorem simplified_message {f : Field} {fs : List Field} (hf : f.Simplified)
    (hfs : ∀ g ∈ fs, g.Simplified) :
    simplified (' ' :: (f.text ++ [' ']) ++ ' ' :: fieldsText fs) = f.text ++ fieldsText fs := by
  have hhead : ∃ c cs, f.text = c :: cs ∧ isSpace c = false := by
    cases hk : f.key with
    | nil => exact absurd hk hf.1
    | cons c cs =>
        exact ⟨c, cs ++ '=' :: f.quoting.write f.value, by simp [Field.text, hk],
          (hf.2.1 c (by simp [hk])).2⟩
  have hdrop : (' ' :: (f.text ++ [' ']) ++ ' ' :: fieldsText fs).dropWhile isSpace =
      f.text ++ (' ' :: ' ' :: fieldsText fs) := by
    cases hhead with
    | intro c h =>
        cases h with
        | intro cs h =>
            rw [h.1]
            simp [h.2, show isSpace ' ' = true by decide]
  rw [simplified, hdrop, (f.tidy_text hf false).collapse_append]
  simp only [Bool.false_eq_true, if_false, List.nil_append, List.append_cancel_left_eq]
  -- Two spaces collapse to the one that starts the next field, or vanish at the end of the text.
  show collapse true (fieldsText fs) = fieldsText fs
  cases fs with
  | nil => rfl
  | cons g gs =>
      have htidy : Tidy true (g.text ++ fieldsText gs) :=
        (g.tidy_text (hfs g (by simp)) true).append
          (tidy_fieldsText fun k hk => hfs k (by simp [hk]))
      rw [fieldsText_cons]
      show collapse true (g.text ++ fieldsText gs) = _
      exact (collapse_eq_iff _).2.mpr htidy

/-! ## Reading clean messages -/

theorem getStr_item {key v : QString} (hk : ∀ c ∈ key, c ≠ '=') : getStr (key ++ '=' :: v) = v := by
  have hdrop : (key ++ '=' :: v).dropWhile (fun c => decide (c ≠ '=')) = '=' :: v := by
    rw [List.dropWhile_append_of_pos (by simpa using hk), List.dropWhile_cons_of_neg (by simp)]
  simp only [getStr, hdrop]

theorem getNum_item (key : QString) (hk : ∀ c ∈ key, c ≠ '=') (n : Int32) :
    Int32.ofInt (getNum (key ++ '=' :: number n.toInt)) = n := by
  have hlo := n.le_toInt
  have hhi := n.toInt_lt
  rw [getNum, getStr_item hk, toLong_number (by omega) (by omega), Int32.ofInt_toInt]

theorem getCstr_item {key v : QString} (hk : ∀ c ∈ key, c ≠ '=') :
    getCstr (key ++ '=' :: v) = toUtf8 v := by
  rw [getCstr, getStr_item hk]

section ReadField

variable {δ : Type} {apply : δ → QString → δ} {acc : δ}

-- Reading a text field sets its member; leaving it out is setting the empty text.
theorem foldl_textField (key : String) {q : Quoting} {v : QString} (set : δ → QString → δ)
    (hitem : ∀ acc, apply acc (key.toList ++ '=' :: v) = set acc v) (hnil : set acc [] = acc) :
    ((textField key q v).map Field.item).foldl apply acc = set acc v := by
  unfold textField
  split
  · exact hitem acc
  · rename_i hv
    rw [not_not.mp hv]
    exact hnil.symm

theorem foldl_bytesField (key : String) {q : Quoting} {decode : QByteArray → QString} {bytes : QByteArray}
    (set : δ → QByteArray → δ) (hitem : ∀ acc, apply acc (key.toList ++ '=' :: decode bytes) = set acc bytes)
    (hnil : set acc [] = acc) :
    ((bytesField key q decode bytes).map Field.item).foldl apply acc = set acc bytes := by
  unfold bytesField
  split
  · exact hitem acc
  · rename_i hbytes
    rw [not_not.mp hbytes]
    exact hnil.symm

-- Reading a number sets its member; it is left out when the member has its default value.
theorem foldl_numField (key : String) {given : Prop} [Decidable given] {n : Int} (set : δ → δ)
    (hitem : ∀ acc, given → apply acc (key.toList ++ '=' :: number n) = set acc)
    (hdefault : ¬ given → set acc = acc) :
    ((numField key given n).map Field.item).foldl apply acc = set acc := by
  unfold numField
  split
  · rename_i hg
    exact hitem acc hg
  · rename_i hg
    exact (hdefault hg).symm

end ReadField

namespace KStartupInfoData

theorem readDesktop_written (d : Int32) (h : d ≠ 0) :
    readDesktop (if d = onAllDesktops then onAllDesktops else d - 1) = d := by
  unfold readDesktop onAllDesktops
  by_cases hall : d = -1
  · simp [hall]
  · have hne : d - 1 ≠ -1 := fun he => h (by
      have := congrArg (· + 1) he
      simpa using this)
    simp [hall, hne]

theorem foldl_pids (acc : KStartupInfoData) (l : List Int32) (h : (acc.pids.list ++ l).Nodup) :
    ((l.flatMap fun pid => numField "PID" True pid.toInt).map Field.item).foldl applyItem acc =
      { acc with pids := ⟨acc.pids.list ++ l, h⟩ } := by
  induction l generalizing acc with
  | nil => simp
  | cons pid l ih =>
      have hpid : pid ∉ acc.pids.list := fun hmem =>
        (List.nodup_append.mp h).2.2 pid hmem pid (by simp) rfl
      have hread : applyItem acc ("PID".toList ++ '=' :: number pid.toInt) = acc.addPid pid := by
        have hnum := getNum_item "PID".toList (by decide) pid
        show acc.addPid (Int32.ofInt (getNum _)) = _
        rw [hnum]
      have hstep : ((numField "PID" True pid.toInt).map Field.item).foldl applyItem acc =
          acc.addPid pid := by
        unfold numField
        rw [if_pos trivial]
        exact hread
      rw [List.flatMap_cons, List.map_append, List.foldl_append, hstep, ih (acc.addPid pid) (by
        simp only [addPid, Pids.list_add hpid]
        simpa using h)]
      have hlist : (acc.addPid pid).pids.list ++ l = acc.pids.list ++ pid :: l := by
        simp [addPid, Pids.list_add hpid]
      simp only [hlist]
      rfl

theorem foldl_pids_default (acc : KStartupInfoData) (ps : Pids) (h : acc.pids = Pids.none) :
    ((ps.list.flatMap fun pid => numField "PID" True pid.toInt).map Field.item).foldl applyItem acc =
      { acc with pids := ps } := by
  have hlist : acc.pids.list ++ ps.list = ps.list := by
    rw [h]
    rfl
  have hnodup : (acc.pids.list ++ ps.list).Nodup := by
    rw [hlist]
    exact ps.nodup
  have hps : (⟨acc.pids.list ++ ps.list, hnodup⟩ : Pids) = ps := Pids.ext_list hlist
  rw [foldl_pids acc ps.list hnodup, hps]

-- Every member of a message with clean fields is read as it was.
theorem foldl_fields {id : KStartupInfoId} {d : KStartupInfoData} (h : Sendable id d) :
    ((d.fields utf8Text).map Field.item).foldl applyItem {} = d := by
  simp only [fields, List.map_append, List.foldl_append]
  rw [foldl_textField "BIN" (fun acc v => { acc with bin := v }) (fun acc => by
      show ({ acc with bin := getStr _ } : KStartupInfoData) = _
      rw [getStr_item (by decide)]) rfl]
  dsimp only
  rw [foldl_textField "NAME" (fun acc v => { acc with name := v }) (fun acc => by
      show ({ acc with name := getStr _ } : KStartupInfoData) = _
      rw [getStr_item (by decide)]) rfl]
  dsimp only
  rw [foldl_textField "DESCRIPTION" (fun acc v => { acc with description := v }) (fun acc => by
      show ({ acc with description := getStr _ } : KStartupInfoData) = _
      rw [getStr_item (by decide)]) rfl]
  dsimp only
  rw [foldl_textField "ICON" (fun acc v => { acc with icon := v }) (fun acc => by
      show ({ acc with icon := getStr _ } : KStartupInfoData) = _
      rw [getStr_item (by decide)]) rfl]
  dsimp only
  rw [foldl_numField "DESKTOP" (fun acc => { acc with desktop := d.desktop }) (fun acc hd => by
      show ({ acc with desktop := readDesktop (Int32.ofInt (getNum _)) } : KStartupInfoData) = _
      rw [getNum_item _ (by decide), readDesktop_written _ hd])
      (fun hd => by rw [not_not.mp hd])]
  dsimp only
  rw [foldl_bytesField "WMCLASS" (fun acc bytes => { acc with wmclass := bytes }) (fun acc => by
      show ({ acc with wmclass := getCstr _ } : KStartupInfoData) = _
      rw [getCstr_item (by decide), h.wmclass.1]) rfl]
  dsimp only
  rw [foldl_bytesField "HOSTNAME" (fun acc bytes => { acc with hostname := bytes }) (fun acc => by
      show ({ acc with hostname := getCstr _ } : KStartupInfoData) = _
      rw [getCstr_item (by decide), h.hostname.1]) rfl]
  dsimp only
  rw [foldl_pids_default _ d.pids rfl]
  dsimp only
  rw [foldl_numField "SILENT" (fun acc => { acc with silent := d.silent }) (fun acc hd => by
      show ({ acc with silent := if getNum _ ≠ 0 then .yes else .no } : KStartupInfoData) = _
      rw [getNum, getStr_item (by decide)]
      cases hs : d.silent with
      | yes => rfl
      | no => rfl
      | unknown => exact absurd hs hd)
      (fun hd => by rw [not_not.mp hd])]
  dsimp only
  rw [foldl_numField "SCREEN" (fun acc => { acc with screen := d.screen }) (fun acc _ => by
      show ({ acc with screen := Int32.ofInt (getNum _) } : KStartupInfoData) = _
      rw [getNum_item _ (by decide)])
      (fun hd => by rw [not_not.mp hd])]
  dsimp only
  rw [foldl_numField "XINERAMA" (fun acc => { acc with xinerama := d.xinerama }) (fun acc _ => by
      show ({ acc with xinerama := Int32.ofInt (getNum _) } : KStartupInfoData) = _
      rw [getNum_item _ (by decide)])
      (fun hd => by rw [not_not.mp hd])]
  dsimp only
  rw [foldl_textField "APPLICATION_ID" (fun acc v => { acc with applicationId := v }) (fun acc => by
      show ({ acc with applicationId := getStr _ } : KStartupInfoData) = _
      rw [getStr_item (by decide)]) rfl]

end KStartupInfoData

/-! ## The fields of a message -/

/-- The keys of the fields that are not pids, in the order `toText` writes them. -/
def plainKeys : List QString :=
  ["ID".toList, "BIN".toList, "NAME".toList, "DESCRIPTION".toList, "ICON".toList, "DESKTOP".toList,
    "WMCLASS".toList, "HOSTNAME".toList, "SILENT".toList, "SCREEN".toList, "XINERAMA".toList,
    "APPLICATION_ID".toList]

theorem mem_textField {key : String} {q : Quoting} {v : QString} {f : Field} :
    f ∈ textField key q v ↔ v ≠ [] ∧ f = ⟨key.toList, q, v⟩ := by
  unfold textField
  split <;> simp [*]

theorem mem_bytesField {key : String} {q : Quoting} {decode : QByteArray → QString} {bytes : QByteArray}
    {f : Field} : f ∈ bytesField key q decode bytes ↔ bytes ≠ [] ∧ f = ⟨key.toList, q, decode bytes⟩ := by
  unfold bytesField
  split <;> simp [*]

theorem mem_numField {key : String} {given : Prop} [Decidable given] {n : Int} {f : Field} :
    f ∈ numField key given n ↔ given ∧ f = ⟨key.toList, .bare, number n⟩ := by
  unfold numField
  split <;> simp [*]

-- Case analysis on a field of the data: one case for each member that `toText` writes.
theorem KStartupInfoData.forall_fields {decode : QByteArray → QString} {d : KStartupInfoData} {P : Field → Prop}
    (bin : d.bin ≠ [] → P ⟨"BIN".toList, .escaped, d.bin⟩)
    (name : d.name ≠ [] → P ⟨"NAME".toList, .escaped, d.name⟩)
    (description : d.description ≠ [] → P ⟨"DESCRIPTION".toList, .escaped, d.description⟩)
    (icon : d.icon ≠ [] → P ⟨"ICON".toList, .quoted, d.icon⟩)
    (desktop : d.desktop ≠ 0 → ∀ n, P ⟨"DESKTOP".toList, .bare, number n⟩)
    (wmclass : d.wmclass ≠ [] → P ⟨"WMCLASS".toList, .quoted, decode d.wmclass⟩)
    (hostname : d.hostname ≠ [] → P ⟨"HOSTNAME".toList, .bare, decode d.hostname⟩)
    (pid : ∀ pid ∈ d.pids.list, P ⟨"PID".toList, .bare, number pid.toInt⟩)
    (silent : d.silent ≠ .unknown → ∀ n, P ⟨"SILENT".toList, .bare, number n⟩)
    (screen : d.screen ≠ -1 → ∀ n, P ⟨"SCREEN".toList, .bare, number n⟩)
    (xinerama : d.xinerama ≠ -1 → ∀ n, P ⟨"XINERAMA".toList, .bare, number n⟩)
    (applicationId : d.applicationId ≠ [] → P ⟨"APPLICATION_ID".toList, .quoted, d.applicationId⟩) :
    ∀ f ∈ d.fields decode, P f := by
  have text : ∀ {key : String} {q : Quoting} {v : QString}, (v ≠ [] → P ⟨key.toList, q, v⟩) →
      ∀ f ∈ textField key q v, P f := by
    intro key q v h f hf
    have hmem := mem_textField.mp hf
    rw [hmem.2]
    exact h hmem.1
  have bytes : ∀ {key : String} {q : Quoting} {bytes : QByteArray},
      (bytes ≠ [] → P ⟨key.toList, q, decode bytes⟩) → ∀ f ∈ bytesField key q decode bytes, P f := by
    intro key q bytes h f hf
    have hmem := mem_bytesField.mp hf
    rw [hmem.2]
    exact h hmem.1
  have num : ∀ {key : String} {given : Prop} [Decidable given] {n : Int},
      (given → P ⟨key.toList, .bare, number n⟩) → ∀ f ∈ numField key given n, P f := by
    intro key given _ n h f hf
    have hmem := mem_numField.mp hf
    rw [hmem.2]
    exact h hmem.1
  simp only [fields, List.forall_mem_append, List.forall_mem_flatMap]
  exact ⟨⟨⟨⟨⟨⟨⟨⟨⟨⟨⟨text bin, text name⟩, text description⟩, text icon⟩,
    num fun h => desktop h _⟩, bytes wmclass⟩, bytes hostname⟩, fun p hp => num fun _ => pid p hp⟩,
    num fun h => silent h _⟩, num fun h => screen h _⟩, num fun h => xinerama h _⟩,
    text applicationId⟩

theorem simplified_number (n : Int) : simplified (number n) = number n := by
  have htidy := (tidy_append_nonspace (b := true) (number_ne_nil n)
    (fun c hc => isSpace_of_mem_number hc) []).mpr rfl
  rw [List.append_nil] at htidy
  exact (simplified_eq_iff _).mpr (.inr htidy)

-- Every field of a message has a plain key and a simplified value.
theorem simplified_fields {id : KStartupInfoId} {d : KStartupInfoData} (h : Sendable id d) :
    ∀ f ∈ messageFields utf8Text id d, f.Simplified := by
  have plain : ∀ {key : String} {q : Quoting} {v : QString}, key.toList ∈ "PID".toList :: plainKeys →
      simplified v = v → Field.Simplified ⟨key.toList, q, v⟩ := by
    intro key q v hkey hv
    have hall : ∀ k ∈ "PID".toList :: plainKeys,
        k ≠ [] ∧ ∀ c ∈ k, isSpecial c = false ∧ isSpace c = false := by decide
    exact ⟨(hall _ hkey).1, (hall _ hkey).2, hv⟩
  rw [messageFields, List.forall_mem_cons]
  refine ⟨plain (by decide) h.id.2, KStartupInfoData.forall_fields ?_ ?_ ?_ ?_ ?_ ?_ ?_ ?_ ?_ ?_ ?_ ?_⟩
  case refine_1 => exact fun _ => plain (by decide) h.bin
  case refine_2 => exact fun _ => plain (by decide) h.name
  case refine_3 => exact fun _ => plain (by decide) h.description
  case refine_4 => exact fun _ => plain (by decide) h.icon
  case refine_6 => exact fun _ => plain (by decide) h.wmclass.2
  case refine_7 => exact fun _ => plain (by decide) h.hostname.2
  case refine_12 => exact fun _ => plain (by decide) h.applicationId
  all_goals
    intros
    exact plain (by decide) (simplified_number _)

/-- The members written without escaping hold nothing that the tokenizer would take for its own. -/
def KStartupInfoData.RawClean (d : KStartupInfoData) : Prop :=
  Quoting.quoted.Clean d.icon ∧ Quoting.quoted.Clean (utf8Text d.wmclass) ∧
    Quoting.bare.Clean (utf8Text d.hostname) ∧ Quoting.quoted.Clean d.applicationId

instance (d : KStartupInfoData) : Decidable d.RawClean := inferInstanceAs (Decidable (_ ∧ _ ∧ _ ∧ _))

theorem clean_number (n : Int) : Quoting.bare.Clean (number n) := by
  intro c hc
  have hspace := isSpace_of_mem_number hc
  refine ⟨?_, fun h => absurd (h ▸ hspace) (by decide)⟩
  cases mem_number hc with
  | inl hdigit =>
      simp only [isSpecial, Bool.or_eq_false_iff, decide_eq_false_iff_not]
      exact ⟨fun h => absurd (h ▸ hdigit) (by decide), fun h => absurd (h ▸ hdigit) (by decide)⟩
  | inr hminus =>
      rw [hminus]
      decide

theorem clean_fields_iff {id : KStartupInfoId} {d : KStartupInfoData} :
    (∀ f ∈ messageFields utf8Text id d, f.Clean) ↔ d.RawClean := by
  constructor
  · intro h
    have text : ∀ (key : String) {q : Quoting} {v : QString}, q.Clean [] →
        textField key q v ⊆ d.fields utf8Text → q.Clean v := by
      intro key q v hnil hsub
      by_cases hv : v = []
      · rw [hv]
        exact hnil
      · exact h _ (List.mem_cons_of_mem _ (hsub (mem_textField.mpr ⟨hv, rfl⟩)))
    have bytes : ∀ (key : String) {q : Quoting} {bytes : QByteArray}, q.Clean [] →
        bytesField key q utf8Text bytes ⊆ d.fields utf8Text → q.Clean (utf8Text bytes) := by
      intro key q bytes hnil hsub
      by_cases hbytes : bytes = []
      · rw [utf8Text_eq_nil.mpr hbytes]
        exact hnil
      · exact h _ (List.mem_cons_of_mem _ (hsub (mem_bytesField.mpr ⟨hbytes, rfl⟩)))
    have hnil : Quoting.quoted.Clean [] ∧ Quoting.bare.Clean [] := by decide
    refine ⟨text "ICON" hnil.1 ?_, bytes "WMCLASS" hnil.1 ?_, bytes "HOSTNAME" hnil.2 ?_,
      text "APPLICATION_ID" hnil.1 ?_⟩ <;>
    · intro f hf
      simp only [KStartupInfoData.fields, List.mem_append, hf, true_or, or_true]
  · intro h
    rw [messageFields, List.forall_mem_cons]
    refine ⟨trivial, KStartupInfoData.forall_fields ?_ ?_ ?_ ?_ ?_ ?_ ?_ ?_ ?_ ?_ ?_ ?_⟩
    case refine_4 => exact fun _ => h.1
    case refine_6 => exact fun _ => h.2.1
    case refine_7 => exact fun _ => h.2.2.1
    case refine_12 => exact fun _ => h.2.2.2
    all_goals
      intros
      first
      | trivial
      | exact clean_number _

theorem startupText_eq (id : KStartupInfoId) (d : KStartupInfoData) :
    startupText id d = ' ' :: ((id.field fromUtf8).text ++ [' ']) ++ ' ' :: fieldsText (d.fields fromUtf8) := by
  rw [startupText, KStartupInfoId.toText_eq, KStartupInfoData.toText_eq]

-- The items the receiver goes through.
theorem getFields_startupText {id : KStartupInfoId} {d : KStartupInfoData} (h : Sendable id d)
    (hmark : MarkFree id d) :
    getFields (startupText id d) =
      getFieldsLoop ((id.field utf8Text).text ++ fieldsText (d.fields utf8Text)) [] false false := by
  have hs := List.forall_mem_cons.mp (simplified_fields h)
  have hfields := List.cons.inj hmark.messageFields_eq
  rw [getFields, startupText_eq, hfields.1, hfields.2, simplified_message hs.1 hs.2]

theorem ofText_of_clean {id : KStartupInfoId} {d : KStartupInfoData} (h : Sendable id d)
    (hmark : MarkFree id d) (hc : d.RawClean) :
    KStartupInfoId.ofText (startupText id d) = id ∧ KStartupInfoData.ofText (startupText id d) = d := by
  have hplain : ∀ f ∈ messageFields utf8Text id d, f.PlainKey := fun f hf => (simplified_fields h f hf).2.1
  have hitems : getFields (startupText id d) =
      (id.field utf8Text).item :: (d.fields utf8Text).map Field.item := by
    rw [getFields_startupText h hmark, getFields_texts hplain (clean_fields_iff.mpr hc)]
    rfl
  constructor
  · have hid : KStartupInfoId.applyItem ⟨[]⟩ (id.field utf8Text).item = id := by
      show (⟨getCstr ("ID".toList ++ '=' :: utf8Text id.id)⟩ : KStartupInfoId) = id
      rw [getCstr_item (by decide), h.id.1]
    -- No field of the data is taken for an id.
    have hkeep : ∀ f ∈ d.fields utf8Text, KStartupInfoId.applyItem id f.item = id := by
      apply KStartupInfoData.forall_fields <;> intros <;> rfl
    have hfold : ∀ fs : List Field, fs ⊆ d.fields utf8Text →
        (fs.map Field.item).foldl KStartupInfoId.applyItem id = id := by
      intro fs hsub
      induction fs with
      | nil => rfl
      | cons f fs ih =>
          rw [List.map_cons, List.foldl_cons, hkeep f (hsub (by simp))]
          exact ih fun g hg => hsub (by simp [hg])
    rw [KStartupInfoId.ofText, hitems, List.foldl_cons, hid]
    exact hfold _ fun _ hf => hf
  · have hid : KStartupInfoData.applyItem {} (id.field utf8Text).item = {} := rfl
    rw [KStartupInfoData.ofText, hitems, List.foldl_cons, hid]
    exact KStartupInfoData.foldl_fields h

/-! ## Exact messages -/

/-- The characters counted in the comparison of items: the special ones may be dropped, and those of
a number need not be the ones written. -/
def isCounted (c : Char) : Bool := !isSpecial c && !c.isDigit && c ≠ '-'

theorem countP_escapeStr (v : QString) : (escapeStr v).countP isCounted = v.countP isCounted := by
  induction v with
  | nil => rfl
  | cons c cs ih =>
      have hcons : escapeStr (c :: cs) = (if c = '\\' ∨ c = '"' then ['\\', c] else [c]) ++ escapeStr cs := by
        simp [escapeStr]
      rw [hcons, List.countP_append, ih, List.countP_cons]
      split
      · simp only [List.countP_cons, List.countP_nil, show isCounted '\\' = false by decide]
        simp
        omega
      · simp only [List.countP_cons, List.countP_nil]
        omega

theorem countP_text (f : Field) : f.text.countP isCounted = f.item.countP isCounted := by
  have hquote : isCounted '"' = false := by decide
  obtain ⟨key, quoting, value⟩ := f
  cases quoting <;>
    simp [Field.text, Field.item, Quoting.write, List.countP_append, List.countP_cons,
      countP_escapeStr, hquote]

theorem countP_fieldsText (fs : List Field) :
    (fieldsText fs).countP isCounted = (fs.map fun f => f.item.countP isCounted + 1).sum := by
  induction fs with
  | nil => rfl
  | cons f fs ih =>
      rw [fieldsText_cons, List.countP_cons_of_pos (by decide), List.countP_append, countP_text, ih,
        List.map_cons, List.sum_cons]
      omega

-- The items read weigh as much as those that were meant.
theorem sum_weights (f : Field) (fs : List Field) :
    ((getFieldsLoop (f.text ++ fieldsText fs) [] false false).map
      fun i => i.countP isCounted + 1).sum =
      ((f :: fs).map fun g => g.item.countP isCounted + 1).sum := by
  rw [sum_count_getFieldsLoop isCounted (by decide) (by decide) (by decide), List.countP_append,
    countP_text, countP_fieldsText, List.map_cons, List.sum_cons]
  simp only [List.countP_nil]
  omega

-- Distinct members of a list that weigh at least as much as the whole list are the whole list.
theorem perm_of_sum_le {α : Type} {is ms : List α} {w : α → Nat} (hpos : ∀ i, 0 < w i)
    (hnodup : ms.Nodup) (hsub : ms ⊆ is) (hsum : (is.map w).sum ≤ (ms.map w).sum) :
    is.Perm ms := by
  have hsubperm : ms.Subperm is := List.subperm_of_subset hnodup hsub
  cases List.subperm_iff.mp hsubperm with
  | intro l h =>
      cases h.2.exists_perm_append with
      | intro rest hrest =>
          have hperm : is.Perm (ms ++ rest) := h.1.symm.trans hrest
          have hweight := (hperm.map w).sum_nat
          rw [List.map_append, List.sum_append] at hweight
          have hzero : rest = [] := by
            cases rest with
            | nil => rfl
            | cons r rs =>
                have := hpos r
                simp only [List.map_cons, List.sum_cons] at hweight
                omega
          rw [hzero, List.append_nil] at hperm
          exact hperm

/-- `i` is the item that gave the member written in `f`. -/
structure Field.ReadFrom (f : Field) (i : QString) : Prop where
  key : f.key ++ ['='] <+: i
  value : i = f.item ∨ f.quoting = .bare ∧ ∃ n, f.value = number n
  pid : f.key = "PID".toList → f = ⟨"PID".toList, .bare, number (Int32.ofInt (getNum i)).toInt⟩

-- A member that differs from its default was written by one of the items.
theorem foldl_slot {δ α β : Type} {apply : δ → α → δ} (slot : δ → β) (writes : β → α → Prop)
    (hstep : ∀ d i, slot (apply d i) = slot d ∨ writes (slot (apply d i)) i) (items : List α) (d : δ) :
    slot (items.foldl apply d) = slot d ∨ ∃ i ∈ items, writes (slot (items.foldl apply d)) i := by
  induction items generalizing d with
  | nil => exact .inl rfl
  | cons i is ih =>
      rw [List.foldl_cons]
      cases ih (apply d i) with
      | inl hkeep =>
          cases hstep d i with
          | inl h => exact .inl (hkeep.trans h)
          | inr h => exact .inr ⟨i, by simp, hkeep ▸ h⟩
      | inr hwrite =>
          cases hwrite with
          | intro j hj => exact .inr ⟨j, by simp [hj.1], hj.2⟩

-- A key and its equals sign, as the receiver looks for it.
theorem key_of_startsWith {item : QString} {key : String} {k : QString}
    (hk : key.toList = k ++ ['=']) (h : startsWith item key = true) : k ++ ['='] <+: item := by
  rw [← hk]
  exact List.isPrefixOf_iff_prefix.mp h

theorem item_of_getStr {k item : QString} (hkey : ∀ c ∈ k, c ≠ '=') (h : k ++ ['='] <+: item) :
    item = k ++ '=' :: getStr item := by
  cases h with
  | intro t ht =>
      rw [List.append_assoc] at ht
      rw [← ht, show ['='] ++ t = '=' :: t from rfl, getStr_item hkey]

section Exact

variable {id : KStartupInfoId} {d : KStartupInfoData} {items : List QString}

-- The item that wrote a member with a value other than the default.
theorem exists_writer (h : items.foldl KStartupInfoData.applyItem {} = d) {β : Type}
    (slot : KStartupInfoData → β) (key : String) {k : QString} (hkey : key.toList = k ++ ['='])
    (writes : β → QString → Prop)
    (hstep : ∀ d i, slot (KStartupInfoData.applyItem d i) = slot d ∨
      startsWith i key = true ∧ writes (slot (KStartupInfoData.applyItem d i)) i)
    (hne : slot d ≠ slot {}) : ∃ i ∈ items, k ++ ['='] <+: i ∧ writes (slot d) i := by
  have hslot := foldl_slot slot (fun v i => startsWith i key = true ∧ writes v i) hstep items {}
  rw [h] at hslot
  cases hslot with
  | inl hdefault => exact absurd hdefault hne
  | inr hwrite =>
      cases hwrite with
      | intro i hi => exact ⟨i, hi.1, key_of_startsWith hkey hi.2.1, hi.2.2⟩

theorem readFrom_text (h : items.foldl KStartupInfoData.applyItem {} = d)
    (slot : KStartupInfoData → QString) (key : String) {k : QString}
    (hkey : key.toList = k ++ ['=']) (hplain : k ∈ plainKeys) (hdefault : slot {} = [])
    (hstep : ∀ d i, slot (KStartupInfoData.applyItem d i) = slot d ∨
      startsWith i key = true ∧ slot (KStartupInfoData.applyItem d i) = getStr i)
    (hne : slot d ≠ []) (q : Quoting) : ∃ i ∈ items, Field.ReadFrom ⟨k, q, slot d⟩ i := by
  have hkeys : ∀ k ∈ plainKeys, k ≠ "PID".toList ∧ ∀ c ∈ k, c ≠ '=' := by decide
  have hwriter := exists_writer h slot key hkey (fun v i => v = getStr i) hstep (by rwa [hdefault])
  cases hwriter with
  | intro i hi =>
      refine ⟨i, hi.1, hi.2.1, .inl ?_, fun hpid => absurd hpid (hkeys k hplain).1⟩
      rw [hi.2.2]
      exact item_of_getStr (hkeys k hplain).2 hi.2.1

theorem readFrom_number (h : items.foldl KStartupInfoData.applyItem {} = d) {β : Type}
    (slot : KStartupInfoData → β) (key : String) {k : QString}
    (hkey : key.toList = k ++ ['=']) (hplain : k ∈ plainKeys)
    (hstep : ∀ d i, slot (KStartupInfoData.applyItem d i) = slot d ∨ startsWith i key = true)
    (hne : slot d ≠ slot {}) (n : Int) :
    ∃ i ∈ items, Field.ReadFrom ⟨k, .bare, number n⟩ i := by
  have hkeys : ∀ k ∈ plainKeys, k ≠ "PID".toList := by decide
  have hwriter := exists_writer h slot key hkey (fun _ _ => True)
    (fun d i => (hstep d i).imp_right fun hs => ⟨hs, trivial⟩) hne
  cases hwriter with
  | intro i hi =>
      exact ⟨i, hi.1, hi.2.1, .inr ⟨rfl, n, rfl⟩, fun hpid => absurd hpid (hkeys k hplain)⟩

theorem readFrom_pid (h : items.foldl KStartupInfoData.applyItem {} = d) {pid : Int32}
    (hpid : pid ∈ d.pids.list) :
    ∃ i ∈ items, Field.ReadFrom ⟨"PID".toList, .bare, number pid.toInt⟩ i := by
  have hstep : ∀ (d : KStartupInfoData) i,
      decide (pid ∈ (KStartupInfoData.applyItem d i).pids.list) = decide (pid ∈ d.pids.list) ∨
      startsWith i "PID=" = true ∧ Int32.ofInt (getNum i) = pid := by
    intro d i
    apply KStartupInfoData.applyItem_cases d i (fun r => decide (pid ∈ r.pids.list) = _ ∨ _)
    case pid =>
      intro hkey
      by_cases hnew : Int32.ofInt (getNum i) = pid
      · exact .inr ⟨hkey, hnew⟩
      · refine .inl ?_
        rw [decide_eq_decide, KStartupInfoData.addPid, Pids.mem_add]
        exact or_iff_left (Ne.symm hnew)
    all_goals first | exact fun _ => .inl rfl | exact .inl rfl
  have hslot := foldl_slot (fun d : KStartupInfoData => decide (pid ∈ d.pids.list))
    (fun _ i => startsWith i "PID=" = true ∧ Int32.ofInt (getNum i) = pid) hstep items {}
  rw [h] at hslot
  cases hslot with
  | inl hdefault =>
      rw [decide_eq_decide] at hdefault
      exact absurd (hdefault.mp hpid) (by simp [Pids.none])
  | inr hwrite =>
      cases hwrite with
      | intro i hi =>
          exact ⟨i, hi.1, key_of_startsWith rfl hi.2.1, .inr ⟨rfl, _, rfl⟩,
            fun _ => by rw [hi.2.2]⟩

-- Every field of the data has an item that gave it, when reading the items gives the data.
theorem exists_readFrom (h : items.foldl KStartupInfoData.applyItem {} = d) :
    ∀ f ∈ d.fields utf8Text, ∃ i ∈ items, f.ReadFrom i := by
  have hcstr : ∀ i, utf8Text (getCstr i) = getStr i := fun i => utf8Text_toUtf8 _
  apply KStartupInfoData.forall_fields
  case pid => exact fun pid hpid => readFrom_pid h hpid
  case bin =>
    intro hne
    refine readFrom_text h (fun d => d.bin) "BIN=" rfl (by decide) rfl (fun d i => ?_) hne _
    apply KStartupInfoData.applyItem_cases d i (fun r => r.bin = _ ∨ _ ∧ r.bin = _)
    all_goals first | exact fun _ => .inl rfl | exact .inl rfl | exact fun hkey => .inr ⟨hkey, rfl⟩
  case name =>
    intro hne
    refine readFrom_text h (fun d => d.name) "NAME=" rfl (by decide) rfl (fun d i => ?_) hne _
    apply KStartupInfoData.applyItem_cases d i (fun r => r.name = _ ∨ _ ∧ r.name = _)
    all_goals first | exact fun _ => .inl rfl | exact .inl rfl | exact fun hkey => .inr ⟨hkey, rfl⟩
  case description =>
    intro hne
    refine readFrom_text h (fun d => d.description) "DESCRIPTION=" rfl (by decide) rfl (fun d i => ?_) hne _
    apply KStartupInfoData.applyItem_cases d i (fun r => r.description = _ ∨ _ ∧ r.description = _)
    all_goals first | exact fun _ => .inl rfl | exact .inl rfl | exact fun hkey => .inr ⟨hkey, rfl⟩
  case icon =>
    intro hne
    refine readFrom_text h (fun d => d.icon) "ICON=" rfl (by decide) rfl (fun d i => ?_) hne _
    apply KStartupInfoData.applyItem_cases d i (fun r => r.icon = _ ∨ _ ∧ r.icon = _)
    all_goals first | exact fun _ => .inl rfl | exact .inl rfl | exact fun hkey => .inr ⟨hkey, rfl⟩
  case applicationId =>
    intro hne
    refine readFrom_text h (fun d => d.applicationId) "APPLICATION_ID=" rfl (by decide) rfl (fun d i => ?_) hne _
    apply KStartupInfoData.applyItem_cases d i (fun r => r.applicationId = _ ∨ _ ∧ r.applicationId = _)
    all_goals first | exact fun _ => .inl rfl | exact .inl rfl | exact fun hkey => .inr ⟨hkey, rfl⟩
  case wmclass =>
    intro hne
    refine readFrom_text h (fun d => utf8Text d.wmclass) "WMCLASS=" rfl (by decide) rfl (fun d i => ?_)
      (mt utf8Text_eq_nil.mp hne) _
    apply KStartupInfoData.applyItem_cases d i (fun r => utf8Text r.wmclass = _ ∨ _ ∧ utf8Text r.wmclass = _)
    all_goals
      first | exact fun _ => .inl rfl | exact .inl rfl | exact fun hkey => .inr ⟨hkey, hcstr i⟩
  case hostname =>
    intro hne
    refine readFrom_text h (fun d => utf8Text d.hostname) "HOSTNAME=" rfl (by decide) rfl (fun d i => ?_)
      (mt utf8Text_eq_nil.mp hne) _
    apply KStartupInfoData.applyItem_cases d i (fun r => utf8Text r.hostname = _ ∨ _ ∧ utf8Text r.hostname = _)
    all_goals
      first | exact fun _ => .inl rfl | exact .inl rfl | exact fun hkey => .inr ⟨hkey, hcstr i⟩
  case desktop =>
    intro hne n
    refine readFrom_number h (fun d => d.desktop) "DESKTOP=" rfl (by decide) (fun d i => ?_) hne n
    apply KStartupInfoData.applyItem_cases d i (fun r => r.desktop = _ ∨ _)
    all_goals first | exact fun _ => .inl rfl | exact .inl rfl | exact .inr
  case silent =>
    intro hne n
    refine readFrom_number h (fun d => d.silent) "SILENT=" rfl (by decide) (fun d i => ?_) hne n
    apply KStartupInfoData.applyItem_cases d i (fun r => r.silent = _ ∨ _)
    all_goals first | exact fun _ => .inl rfl | exact .inl rfl | exact .inr
  case screen =>
    intro hne n
    refine readFrom_number h (fun d => d.screen) "SCREEN=" rfl (by decide) (fun d i => ?_) hne n
    apply KStartupInfoData.applyItem_cases d i (fun r => r.screen = _ ∨ _)
    all_goals first | exact fun _ => .inl rfl | exact .inl rfl | exact .inr
  case xinerama =>
    intro hne n
    refine readFrom_number h (fun d => d.xinerama) "XINERAMA=" rfl (by decide) (fun d i => ?_) hne n
    apply KStartupInfoData.applyItem_cases d i (fun r => r.xinerama = _ ∨ _)
    all_goals first | exact fun _ => .inl rfl | exact .inl rfl | exact .inr

theorem exists_readFrom_id {id : KStartupInfoId} (hnull : id.isNull = false)
    (h : items.foldl KStartupInfoId.applyItem ⟨[]⟩ = id) : ∃ i ∈ items, (id.field utf8Text).ReadFrom i := by
  have hstep : ∀ (d : KStartupInfoId) i, KStartupInfoId.applyItem d i = d ∨
      startsWith i "ID=" = true ∧ (KStartupInfoId.applyItem d i).id = getCstr i := fun d i =>
    iteInduction (motive := fun r => r = d ∨ startsWith i "ID=" = true ∧ r.id = getCstr i)
      (fun hkey => .inr ⟨hkey, rfl⟩) (fun _ => .inl rfl)
  have hslot := foldl_slot (fun d => d)
    (fun d i => startsWith i "ID=" = true ∧ KStartupInfoId.id d = getCstr i) hstep items ⟨[]⟩
  rw [h] at hslot
  cases hslot with
  | inl hdefault => simp [KStartupInfoId.isNull, hdefault] at hnull
  | inr hwrite =>
      cases hwrite with
      | intro i hi =>
          have hp : "ID".toList ++ ['='] <+: i := key_of_startsWith rfl hi.2.1
          have hne : (id.field utf8Text).key ≠ "PID".toList := show "ID".toList ≠ "PID".toList by decide
          refine ⟨i, hi.1, hp, .inl ?_, fun hpid => absurd hpid hne⟩
          show i = "ID".toList ++ '=' :: utf8Text id.id
          rw [hi.2.2, getCstr, utf8Text_toUtf8]
          exact item_of_getStr (by decide) hp

/-! Two fields that one item could have given are the same field. -/

theorem keys_sublist (id : KStartupInfoId) (d : KStartupInfoData) :
    (((messageFields utf8Text id d).filter fun f => f.key ≠ "PID".toList).map Field.key).Sublist plainKeys := by
  have text : ∀ (key : String) (q : Quoting) (v : QString),
      (((textField key q v).filter fun f => f.key ≠ "PID".toList).map Field.key).Sublist [key.toList] := by
    intro key q v
    refine (List.filter_sublist.map _).trans ?_
    unfold textField
    split <;> simp
  have bytes : ∀ (key : String) (q : Quoting) (bytes : QByteArray),
      (((bytesField key q utf8Text bytes).filter fun f => f.key ≠ "PID".toList).map Field.key).Sublist
        [key.toList] := by
    intro key q bytes
    refine (List.filter_sublist.map _).trans ?_
    unfold bytesField
    split <;> simp
  have num : ∀ (key : String) (given : Prop) [Decidable given] (n : Int),
      (((numField key given n).filter fun f => f.key ≠ "PID".toList).map Field.key).Sublist
        [key.toList] := by
    intro key given _ n
    refine (List.filter_sublist.map _).trans ?_
    unfold numField
    split <;> simp
  have pids : ((d.pids.list.flatMap fun pid => numField "PID" True pid.toInt).filter
      fun f => f.key ≠ "PID".toList) = [] := by
    apply List.filter_eq_nil_iff.mpr
    intro f hf
    cases List.mem_flatMap.mp hf with
    | intro pid hpid =>
        rw [(mem_numField.mp hpid.2).2]
        simp
  have hid : decide ((id.field utf8Text).key ≠ "PID".toList) = true :=
    decide_eq_true (show "ID".toList ≠ "PID".toList by decide)
  rw [messageFields, List.filter_cons_of_pos (by exact hid), KStartupInfoData.fields]
  simp only [List.filter_append, List.map_append, List.map_cons, pids, List.append_nil]
  exact .cons_cons _ ((((((((((((text _ _ _).append (text _ _ _)).append (text _ _ _)).append
    (text _ _ _)).append (num _ _ _)).append (bytes _ _ _)).append (bytes _ _ _)).append
    (num _ _ _)).append (num _ _ _)).append (num _ _ _)).append (text _ _ _)))

theorem eq_of_key {id : KStartupInfoId} {f g : Field} (hf : f ∈ messageFields utf8Text id d)
    (hg : g ∈ messageFields utf8Text id d) (hkey : f.key = g.key) (hpid : f.key ≠ "PID".toList) : f = g := by
  have hnodup := (keys_sublist id d).nodup (by decide)
  exact List.inj_on_of_nodup_map hnodup (List.mem_filter.mpr ⟨hf, by simpa using hpid⟩)
    (List.mem_filter.mpr ⟨hg, by simpa [← hkey] using hpid⟩) hkey

theorem number_injective : Function.Injective number := fun m n h => by
  have hm := signedValue_number m
  rw [h, signedValue_number] at hm
  exact (Option.some_inj.mp hm).symm

-- The pid fields of a message, one for each pid.
theorem filter_pid_fields (id : KStartupInfoId) (d : KStartupInfoData) :
    ((messageFields utf8Text id d).filter fun f => f.key = "PID".toList) =
      d.pids.list.map fun pid => ⟨"PID".toList, .bare, number pid.toInt⟩ := by
  have text : ∀ (key : String) (q : Quoting) (v : QString), key.toList ≠ "PID".toList →
      ((textField key q v).filter fun f => f.key = "PID".toList) = [] := by
    intro key q v hkey
    apply List.filter_eq_nil_iff.mpr
    intro f hf
    rw [(mem_textField.mp hf).2]
    simpa using hkey
  have bytes : ∀ (key : String) (q : Quoting) (bytes : QByteArray), key.toList ≠ "PID".toList →
      ((bytesField key q utf8Text bytes).filter fun f => f.key = "PID".toList) = [] := by
    intro key q bytes hkey
    apply List.filter_eq_nil_iff.mpr
    intro f hf
    rw [(mem_bytesField.mp hf).2]
    simpa using hkey
  have num : ∀ (key : String) (given : Prop) [Decidable given] (n : Int), key.toList ≠ "PID".toList →
      ((numField key given n).filter fun f => f.key = "PID".toList) = [] := by
    intro key given _ n hkey
    apply List.filter_eq_nil_iff.mpr
    intro f hf
    rw [(mem_numField.mp hf).2]
    simpa using hkey
  have pids : ((d.pids.list.flatMap fun pid => numField "PID" True pid.toInt).filter
      fun f => f.key = "PID".toList) =
      d.pids.list.map fun pid => ⟨"PID".toList, .bare, number pid.toInt⟩ := by
    induction d.pids.list with
    | nil => rfl
    | cons pid pids ih =>
        rw [List.flatMap_cons, List.filter_append, ih, List.map_cons]
        rfl
  have hid : decide ((id.field utf8Text).key = "PID".toList) = false :=
    decide_eq_false (show ¬ "ID".toList = "PID".toList by decide)
  rw [messageFields, List.filter_cons_of_neg (by rw [hid]; decide), KStartupInfoData.fields]
  simp only [List.filter_append, pids]
  rw [text _ _ _ (by decide), text _ _ _ (by decide), text _ _ _ (by decide),
    text _ _ _ (by decide), num _ _ _ (by decide), bytes _ _ _ (by decide),
    bytes _ _ _ (by decide), num _ _ _ (by decide), num _ _ _ (by decide),
    num _ _ _ (by decide), text _ _ _ (by decide)]
  simp only [List.nil_append, List.append_nil]

theorem nodup_fields (id : KStartupInfoId) (d : KStartupInfoData) : (messageFields utf8Text id d).Nodup := by
  have hplain := ((keys_sublist id d).nodup (by decide)).of_map
  have hpids : ((messageFields utf8Text id d).filter fun f => f.key = "PID".toList).Nodup := by
    rw [filter_pid_fields]
    exact d.pids.nodup.map fun p q h =>
      Int32.toInt_inj.mp (number_injective (congrArg Field.value h))
  have hperm := List.filter_append_perm (fun f : Field => decide (f.key ≠ "PID".toList))
    (messageFields utf8Text id d)
  have hnot : (fun f : Field => !decide (f.key ≠ "PID".toList)) =
      fun f : Field => decide (f.key = "PID".toList) := by
    funext f
    simp
  rw [hnot] at hperm
  apply hperm.nodup_iff.mp
  refine List.nodup_append.mpr ⟨hplain, hpids, ?_⟩
  intro f hf g hg he
  have hne := (List.mem_filter.mp hf).2
  have heq := (List.mem_filter.mp hg).2
  rw [he] at hne
  simp_all

theorem key_unique {k k' item : QString} (hk : ∀ c ∈ k, c ≠ '=') (hk' : ∀ c ∈ k', c ≠ '=')
    (h : k ++ ['='] <+: item) (h' : k' ++ ['='] <+: item) : k = k' := by
  have take : ∀ {k : QString}, (∀ c ∈ k, c ≠ '=') → k ++ ['='] <+: item →
      item.takeWhile (fun c => decide (c ≠ '=')) = k := by
    intro k hk h
    rw [item_of_getStr hk h, List.takeWhile_append_of_pos (by simpa using hk)]
    simp
  rw [← take hk h, take hk' h']

-- An item weighs at least as much as the field it gave.
theorem Field.ReadFrom.weight {f : Field} {i : QString} (h : f.ReadFrom i) :
    f.item.countP isCounted ≤ i.countP isCounted := by
  cases h.value with
  | inl hitem => rw [hitem]
  | inr hnumber =>
      cases hnumber.2 with
      | intro n hn =>
          have hzero : (number n).countP isCounted = 0 := by
            apply List.countP_eq_zero.mpr
            intro c hc
            cases mem_number hc with
            | inl hdigit => simp [isCounted, hdigit]
            | inr hminus => simp [isCounted, hminus]
          have hle := h.key.sublist.countP_le (p := isCounted)
          rw [List.countP_append] at hle
          simp only [Field.item, List.countP_append, List.countP_cons, List.countP_nil, hn,
            hzero] at hle ⊢
          exact hle

-- Each of the fields that are meant has an item of its own, if the items read give the id and the data.
theorem exists_items {id : KStartupInfoId} (hnull : id.isNull = false)
    (hid : items.foldl KStartupInfoId.applyItem ⟨[]⟩ = id) (hdata : items.foldl KStartupInfoData.applyItem {} = d) :
    ∃ m : Field → QString, (∀ f ∈ messageFields utf8Text id d, m f ∈ items ∧ f.ReadFrom (m f)) ∧
      (∀ f ∈ messageFields utf8Text id d, ∀ g ∈ messageFields utf8Text id d,
        f.key ++ ['='] <+: m g → f.key = g.key) ∧ ((messageFields utf8Text id d).map m).Nodup := by
  have hread : ∀ f ∈ messageFields utf8Text id d, ∃ i ∈ items, f.ReadFrom i :=
    List.forall_mem_cons.mpr ⟨exists_readFrom_id hnull hid, exists_readFrom hdata⟩
  choose! m hm using hread
  have hkeys : ∀ f ∈ messageFields utf8Text id d, ∀ c ∈ f.key, c ≠ '=' := by
    have hall : ∀ k ∈ "PID".toList :: plainKeys, ∀ c ∈ k, c ≠ '=' := by decide
    intro f hf
    by_cases hpid : f.key = "PID".toList
    · rw [hpid]
      exact hall _ (by simp)
    · have hmem := (keys_sublist id d).subset (List.mem_map_of_mem
        (List.mem_filter.mpr ⟨hf, by simpa using hpid⟩))
      exact hall _ (List.mem_cons_of_mem _ hmem)
  have hsame : ∀ f ∈ messageFields utf8Text id d, ∀ g ∈ messageFields utf8Text id d,
      f.key ++ ['='] <+: m g → f.key = g.key := fun f hf g hg hp =>
    key_unique (hkeys f hf) (hkeys g hg) hp (hm g hg).2.key
  have hinj : ∀ f ∈ messageFields utf8Text id d, ∀ g ∈ messageFields utf8Text id d, m f = m g → f = g := by
    intro f hf g hg he
    have hkey := hsame f hf g hg (he ▸ (hm f hf).2.key)
    by_cases hpid : f.key = "PID".toList
    · rw [(hm f hf).2.pid hpid, (hm g hg).2.pid (hkey ▸ hpid), he]
    · exact eq_of_key hf hg hkey hpid
  exact ⟨m, hm, hsame, (nodup_fields id d).map_on hinj⟩

/-- The weight of the items, with one for the space before each. -/
def weight (items : List QString) : Nat := (items.map fun i => i.countP isCounted + 1).sum

theorem weight_append (is js : List QString) : weight (is ++ js) = weight is + weight js := by
  rw [weight, List.map_append, List.sum_append]
  rfl

-- The items of the fields weigh no more than all that are read.
theorem weight_le_of_subset {is ms : List QString} (hnodup : ms.Nodup) (hsub : ms ⊆ is) : weight ms ≤ weight is := by
  obtain ⟨l, hperm, hsublist⟩ := List.subperm_of_subset hnodup hsub
  have hweight : weight l = weight ms := (hperm.map _).sum_nat
  rw [← hweight]
  exact (hsublist.map _).sum_le_sum fun _ _ => Nat.zero_le _

theorem weight_items_le {fs : List Field} {m : Field → QString} (h : ∀ f ∈ fs, f.ReadFrom (m f)) :
    weight (fs.map Field.item) ≤ weight (fs.map m) := by
  rw [weight, weight, List.map_map, List.map_map]
  exact List.sum_le_sum fun f hf => Nat.succ_le_succ (h f hf).weight

theorem isCounted_of_isSpace {c : Char} (h : isSpace c = true) : isCounted c = true := by
  have hne : ∀ d : Char, isSpace d = false → c ≠ d := by
    rintro d hd rfl
    rw [h] at hd
    cases hd
  have hdigit : c.isDigit = false := by
    by_contra hdigit
    rw [isSpace_of_isDigit (by simpa using hdigit)] at h
    cases h
  simp [isCounted, isSpecial, hdigit, hne '\\' (by decide), hne '"' (by decide), hne '-' (by decide)]

-- White space is all that `simplified` can drop, and where two spaces meet one is dropped.
theorem countP_collapse_le (u s : QString) (b : Bool) :
    (collapse b (u ++ s)).countP isCounted ≤
      b.toNat + u.countP isCounted + (collapse false s).countP isCounted := by
  have hspace : isCounted ' ' = true := by decide
  induction u generalizing b with
  | nil =>
      cases s with
      | nil => simp [collapse]
      | cons c cs =>
          simp only [List.nil_append, collapse]
          split
          · simp
          · cases b with
            | true =>
                show List.countP isCounted (' ' :: c :: collapse false cs) ≤
                  1 + 0 + List.countP isCounted (c :: collapse false cs)
                rw [List.countP_cons_of_pos hspace]
                omega
            | false => exact Nat.le_of_eq (Nat.zero_add _).symm
  | cons c cs ih =>
      have htrue := ih true
      have hfalse := ih false
      simp only [Bool.toNat_true, Bool.toNat_false] at htrue hfalse
      rw [List.cons_append, collapse]
      split
      · rename_i hc
        rw [List.countP_cons_of_pos (isCounted_of_isSpace hc)]
        omega
      · rw [List.countP_append, List.countP_cons]
        have hhead : (if b then [' ', c] else [c]).countP isCounted = b.toNat + if isCounted c then 1 else 0 := by
          cases b with
          | true =>
              show [' ', c].countP isCounted = 1 + _
              rw [List.countP_cons_of_pos hspace, List.countP_singleton, Nat.add_comm]
          | false =>
              show [c].countP isCounted = 0 + _
              rw [List.countP_singleton, Nat.zero_add]
        omega

-- The space behind the id and the one in front of the data weigh nothing.
theorem countP_simplified_le (id : KStartupInfoId) (fs : List Field) :
    (simplified (' ' :: ((id.field fromUtf8).text ++ [' ']) ++ ' ' :: fieldsText fs)).countP isCounted ≤
      (id.field fromUtf8).text.countP isCounted + (fieldsText fs).countP isCounted := by
  have hhead : ∃ cs, (id.field fromUtf8).text = 'I' :: cs := ⟨_, rfl⟩
  obtain ⟨cs, hcs⟩ := hhead
  have hsimplified : simplified (' ' :: ((id.field fromUtf8).text ++ [' ']) ++ ' ' :: fieldsText fs) =
      collapse false ((id.field fromUtf8).text ++ (' ' :: ' ' :: fieldsText fs)) := by
    have happend : ' ' :: ((id.field fromUtf8).text ++ [' ']) ++ ' ' :: fieldsText fs =
        ' ' :: 'I' :: (cs ++ (' ' :: ' ' :: fieldsText fs)) := by
      rw [hcs]
      simp
    rw [happend, hcs, simplified, List.dropWhile_cons_of_pos (by decide), List.dropWhile_cons_of_neg (by decide),
      List.cons_append]
  have hspaces : (collapse false (' ' :: ' ' :: fieldsText fs)).countP isCounted ≤
      (fieldsText fs).countP isCounted := by
    show (collapse true (fieldsText fs)).countP isCounted ≤ _
    cases fs with
    | nil => exact Nat.le_refl _
    | cons f fs =>
        have hle := countP_collapse_le (f.text ++ fieldsText fs) [] true
        rw [List.append_nil, Bool.toNat_true, collapse, List.countP_nil] at hle
        rw [fieldsText_cons, List.countP_cons_of_pos (by decide)]
        show (collapse true (f.text ++ fieldsText fs)).countP isCounted ≤ _
        omega
  have htext := countP_collapse_le (id.field fromUtf8).text (' ' :: ' ' :: fieldsText fs) false
  rw [Bool.toNat_false] at htext
  rw [hsimplified]
  omega

-- What is read weighs no more than what is written.
theorem weight_getFields_le (id : KStartupInfoId) (d : KStartupInfoData) :
    weight (getFields (startupText id d)) ≤ weight ((messageFields fromUtf8 id d).map Field.item) := by
  have hread : weight (getFields (startupText id d)) = (simplified (startupText id d)).countP isCounted + 1 := by
    rw [weight, getFields, sum_count_getFieldsLoop isCounted (by decide) (by decide) (by decide), List.countP_nil,
      Nat.zero_add]
  have hwritten : weight ((messageFields fromUtf8 id d).map Field.item) =
      (id.field fromUtf8).text.countP isCounted + 1 + (fieldsText (d.fields fromUtf8)).countP isCounted := by
    rw [countP_text, countP_fieldsText, weight, List.map_map, messageFields, List.map_cons, List.sum_cons]
    rfl
  have hle := countP_simplified_le id (d.fields fromUtf8)
  rw [← startupText_eq] at hle
  omega

-- Each mark that is skipped is missing.
theorem weight_bytesField (key : String) (q : Quoting) (bytes : QByteArray) :
    weight ((bytesField key q utf8Text bytes).map Field.item) =
      weight ((bytesField key q fromUtf8 bytes).map Field.item) + if Unmarked bytes then 0 else 1 := by
  by_cases hmark : Unmarked bytes
  · unfold bytesField
    rw [if_pos hmark, fromUtf8_of_unmarked hmark]
    rfl
  · have hne : bytes ≠ [] := by
      rintro rfl
      exact hmark (by decide)
    unfold bytesField
    rw [if_neg hmark, if_pos hne, if_pos hne, utf8Text_of_marked hmark]
    simp [weight, Field.item, List.countP_append, List.countP_cons, show isCounted byteOrderMark = true by decide]
    omega

-- A message that reads back as it was has lost no mark.
theorem markFree_of_ofText {id : KStartupInfoId} (hnull : id.isNull = false)
    (hid : KStartupInfoId.ofText (startupText id d) = id)
    (hdata : KStartupInfoData.ofText (startupText id d) = d) : MarkFree id d := by
  obtain ⟨m, hm, -, hnodup⟩ := exists_items hnull hid hdata
  have hread := weight_le_of_subset hnodup fun i hi => by
    obtain ⟨f, hf, rfl⟩ := List.mem_map.mp hi
    exact (hm f hf).1
  have hmeant := weight_items_le fun f hf => (hm f hf).2
  have hle := hmeant.trans (hread.trans (weight_getFields_le id d))
  have hidField : weight [(id.field utf8Text).item] =
      weight [(id.field fromUtf8).item] + if Unmarked id.id then 0 else 1 := by
    have hne : id.id ≠ [] := by
      intro hnil
      rw [KStartupInfoId.isNull, hnil] at hnull
      cases hnull
    have hfield := weight_bytesField "ID" .escaped id.id
    unfold bytesField at hfield
    rw [if_pos hne, if_pos hne] at hfield
    exact hfield
  have hcons : ∀ (i : QString) (is : List QString), weight (i :: is) = weight [i] + weight is :=
    fun i is => weight_append [i] is
  have hwmclass := weight_bytesField "WMCLASS" .quoted d.wmclass
  have hhostname := weight_bytesField "HOSTNAME" .bare d.hostname
  unfold messageFields at hle
  simp only [List.map_cons, KStartupInfoData.fields, List.map_append, weight_append, hcons _ (_ ++ _)] at hle
  refine ⟨?_, ?_, ?_⟩
  · by_contra hmark
    rw [if_neg hmark] at hidField
    omega
  · by_contra hmark
    rw [if_neg hmark] at hwmclass
    omega
  · by_contra hmark
    rw [if_neg hmark] at hhostname
    omega

-- A message that reads back as it was has only clean raw values.
theorem clean_of_ofText {id : KStartupInfoId} (hnull : id.isNull = false) (h : Sendable id d)
    (hid : KStartupInfoId.ofText (startupText id d) = id)
    (hdata : KStartupInfoData.ofText (startupText id d) = d) : d.RawClean := by
  have hmark := markFree_of_ofText hnull hid hdata
  rw [KStartupInfoId.ofText, getFields_startupText h hmark] at hid
  rw [KStartupInfoData.ofText, getFields_startupText h hmark] at hdata
  obtain ⟨m, hm, hsame, hnodup⟩ := exists_items hnull hid hdata
  -- The items of the fields are among those read and weigh as much as all of them.
  have hperm : (getFieldsLoop ((id.field utf8Text).text ++ fieldsText (d.fields utf8Text)) [] false false).Perm
      ((messageFields utf8Text id d).map m) := by
    apply perm_of_sum_le (w := fun i => i.countP isCounted + 1) (fun i => by omega) hnodup
    · intro i hi
      obtain ⟨f, hf, rfl⟩ := List.mem_map.mp hi
      exact (hm f hf).1
    · rw [sum_weights, List.map_map]
      exact List.sum_le_sum fun f hf => Nat.succ_le_succ (hm f hf).2.weight
  apply clean_fields_iff.mp
  apply clean_of_exact fun f hf => (simplified_fields h f hf).2.1
  intro g hg
  cases (hm g hg).2.value with
  | inr hnumber =>
      cases hnumber.2 with
      | intro n hn =>
          left
          rw [Field.Clean, hnumber.1, hn]
          exact clean_number n
  | inl hitem =>
      by_cases hpid : g.key = "PID".toList
      · left
        rw [(hm g hg).2.pid hpid]
        exact clean_number _
      · right
        intro i hi hp
        cases List.mem_map.mp (hperm.subset hi) with
        | intro f hf =>
            rw [← hf.2] at hp
            rw [← hf.2, ← eq_of_key hg hf.1 (hsame g hg f hf.1 hp) hpid, hitem]

end Exact

/-! ## The round trip -/

/-- A message reads back as the id and the data it was made of exactly when no byte order mark is skipped, the
members written without escaping hold no quote and no backslash, and the host name no space. -/
theorem startupText_roundTrip_iff (id : KStartupInfoId) (data : KStartupInfoData)
    (hnull : id.isNull = false) (h : Sendable id data) :
    (KStartupInfoId.ofText (startupText id data) = id ∧
      KStartupInfoData.ofText (startupText id data) = data) ↔ MarkFree id data ∧ data.RawClean :=
  ⟨fun hr => ⟨markFree_of_ofText hnull hr.1 hr.2, clean_of_ofText hnull h hr.1 hr.2⟩,
    fun hc => ofText_of_clean h hc.1 hc.2⟩

instance (bytes : QByteArray) : Decidable (SimplifiedBytes bytes) := inferInstanceAs (Decidable (_ ∧ _))

theorem sendable_iff {id : KStartupInfoId} {data : KStartupInfoData} :
    Sendable id data ↔ SimplifiedBytes id.id ∧ simplified data.bin = data.bin ∧
      simplified data.name = data.name ∧ simplified data.description = data.description ∧
      simplified data.icon = data.icon ∧ SimplifiedBytes data.wmclass ∧
      SimplifiedBytes data.hostname ∧ simplified data.applicationId = data.applicationId :=
  ⟨fun h => ⟨h.id, h.bin, h.name, h.description, h.icon, h.wmclass, h.hostname, h.applicationId⟩,
    fun h => ⟨h.1, h.2.1, h.2.2.1, h.2.2.2.1, h.2.2.2.2.1, h.2.2.2.2.2.1, h.2.2.2.2.2.2.1,
      h.2.2.2.2.2.2.2⟩⟩

instance (id : KStartupInfoId) (data : KStartupInfoData) : Decidable (Sendable id data) :=
  decidable_of_iff _ sendable_iff.symm

theorem startupText_roundTrip_example :
    KStartupInfoId.ofText (startupText ⟨[0x6b]⟩ { name := "a \"b\\".toList, desktop := 2 }) = ⟨[0x6b]⟩ ∧
      KStartupInfoData.ofText (startupText ⟨[0x6b]⟩ { name := "a \"b\\".toList, desktop := 2 }) =
        { name := "a \"b\\".toList, desktop := 2 } :=
  (startupText_roundTrip_iff ⟨[0x6b]⟩ { name := "a \"b\\".toList, desktop := 2 } (by decide)
    (by decide +kernel)).mpr (by decide +kernel)

/-- An icon name with a quote in it forges the name of the application. -/
theorem startupText_forged_name :
    ¬ ∀ (id : KStartupInfoId) (data : KStartupInfoData), id.isNull = false → Sendable id data →
      KStartupInfoId.ofText (startupText id data) = id ∧
        KStartupInfoData.ofText (startupText id data) = data := by
  intro h
  have hname := congrArg KStartupInfoData.name
    (h ⟨[0x6b]⟩ { icon := "a\" NAME=\"b".toList } (by decide) (by decide +kernel)).2
  exact absurd hname (by decide +kernel)

end KWindowSystem
