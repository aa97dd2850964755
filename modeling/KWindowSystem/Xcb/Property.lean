import KWindowSystem.Qt.Text
import Mathlib.Logic.Function.Basic
import Mathlib.Order.Defs.LinearOrder

/-!
# Window properties and their replies

What the server keeps as a property of a window, what `xcb_get_property` answers about it, and the
four readers that every property passes through.
-/

open Qt

namespace KWindowSystem

abbrev XcbAtom := UInt32
abbrev XcbWindow := UInt32

/-- Window ids are ordered as the unsigned numbers that they are. -/
instance linearOrderWindow : LinearOrder UInt32 where
  le_refl := UInt32.le_refl
  le_trans _ _ _ := UInt32.le_trans
  le_antisymm _ _ := UInt32.le_antisymm
  le_total := UInt32.le_total
  lt_iff_le_not_ge a b := by
    rw [UInt32.not_le]
    exact ⟨fun h => ⟨UInt32.le_of_lt h, h⟩, fun h => h.2⟩
  toDecidableLE := inferInstance
  toDecidableEq := inferInstance
  toDecidableLT := inferInstance

instance lawfulBEqWindow : LawfulBEq UInt32 := inferInstance

/-! ## The server's side -/

/-- The contents of a property, by its format. -/
inductive PropertyData where
  | data8 (bytes : List UInt8)
  | data16 (shorts : List UInt16)
  | data32 (words : List UInt32)
deriving DecidableEq, Repr

/-- The part of the contents that fits in `longLength` four-byte units. -/
def PropertyData.take : PropertyData → Nat → PropertyData
  | .data8 bytes, longLength => .data8 (bytes.take (4 * longLength))
  | .data16 shorts, longLength => .data16 (shorts.take (2 * longLength))
  | .data32 words, longLength => .data32 (words.take longLength)

structure XProperty where
  type : XcbAtom
  data : PropertyData
deriving DecidableEq, Repr

/-- The properties of one window. -/
abbrev WindowProperties := XcbAtom → Option XProperty

structure PropertyRequest where
  window : XcbWindow
  property : XcbAtom
  type : XcbAtom
  longLength : Nat
deriving DecidableEq, Repr

/-- `none` is the reply with type `None`, format 0 and no data, and a request that failed. -/
abbrev Reply := Option XProperty

/-- `MAX_PROP_SIZE`, in four-byte units. -/
def maxPropSize : Nat := 100000

/-- `XCB_GET_PROPERTY_TYPE_ANY`. -/
def anyPropertyType : XcbAtom := 0

/-- The reply about a property of another type than the one asked for has that type, but no data. -/
def getProperty (property : Option XProperty) (type : XcbAtom) (longLength : Nat) : Reply :=
  property.map fun prop =>
    if type = anyPropertyType ∨ prop.type = type then ⟨prop.type, prop.data.take longLength⟩
    else ⟨prop.type, prop.data.take 0⟩

/-- Every window's properties. -/
abbrev Display := XcbWindow → WindowProperties

def Display.answer (display : Display) (request : PropertyRequest) : Reply :=
  getProperty (display request.window request.property) request.type request.longLength

/-- A property of a window is set, or deleted with `none`. -/
structure Change where
  atom : XcbAtom
  value : Option XProperty

def Change.apply (c : Change) (window : XcbWindow) (display : Display) : Display := fun w =>
  if w = window then Function.update (display w) c.atom c.value else display w

/-- The server notifies of what is set, and of a deletion where there is something to delete. -/
def Change.notifies (c : Change) (window : XcbWindow) (display : Display) : Bool :=
  c.value.isSome || (display window c.atom).isSome

-- What is not notified of leaves everything as it is.
theorem Change.apply_of_not_notifies {c : Change} {window : XcbWindow} {display : Display}
    (h : ¬c.notifies window display) : c.apply window display = display := by
  unfold Change.notifies at h
  rw [Bool.or_eq_true, not_or, Option.not_isSome_iff_eq_none, Option.not_isSome_iff_eq_none] at h
  funext w
  unfold Change.apply
  split
  · rename_i hw
    rw [h.1, hw, ← h.2, Function.update_eq_self]
  · rfl

/-! ## The readers -/

/-- `get_value_reply` of a 32-bit type; `none` when it leaves the default. -/
def getValueReply? (reply : Reply) (type : XcbAtom) : Option UInt32 :=
  match reply with
  | some ⟨t, .data32 [value]⟩ => if t = type then some value else none
  | _ => none

def getValueReply (reply : Reply) (type : XcbAtom) (default : UInt32) : UInt32 :=
  (getValueReply? reply type).getD default

/-- `get_array_reply` of a 32-bit type. -/
def getArrayReply (reply : Reply) (type : XcbAtom) : List UInt32 :=
  match reply with
  | some ⟨t, .data32 words⟩ => if t = type then words else []
  | _ => []

/-- The bytes of a text property without the NUL that may end them. -/
def dropNul (bytes : QByteArray) : QByteArray :=
  if bytes.getLast? = some 0 then bytes.dropLast else bytes

def getStringReply (reply : Reply) (type : XcbAtom) : QByteArray :=
  match reply with
  | some ⟨t, .data8 bytes⟩ => if t = type then dropNul bytes else []
  | _ => []

def getStringlistReply (reply : Reply) (type : XcbAtom) : List QByteArray :=
  match reply with
  | some ⟨t, .data8 bytes⟩ => if t = type ∧ bytes ≠ [] then (dropNul bytes).splitOn 0 else []
  | _ => []

/-- `nstrndup`: null for an empty text, else the C string it holds. -/
def nstrndup (s : QByteArray) : Option QByteArray := if s = [] then none else some (cString s)

/-! ## Reading what is there -/

/-- The array that a property of the right type and format holds, as far as one request reads it. -/
def XProperty.words (property : Option XProperty) (type : XcbAtom) (longLength : Nat) : List UInt32 :=
  match property with
  | some ⟨t, .data32 words⟩ => if t = type then words.take longLength else []
  | _ => []

theorem getArrayReply_getProperty {type : XcbAtom} (htype : type ≠ anyPropertyType)
    (property : Option XProperty) (longLength : Nat) :
    getArrayReply (getProperty property type longLength) type =
      XProperty.words property type longLength := by
  cases property with
  | none => rfl
  | some prop =>
      show getArrayReply (some _) type = _
      rcases prop with ⟨t, bytes | shorts | words⟩
      · by_cases h : t = type <;> simp [h, htype, PropertyData.take, getArrayReply, XProperty.words]
      · by_cases h : t = type <;> simp [h, htype, PropertyData.take, getArrayReply, XProperty.words]
      · by_cases h : t = type <;> simp [h, htype, PropertyData.take, getArrayReply, XProperty.words]

end KWindowSystem
