import KWindowSystem.Lib.Machine
import KWindowSystem.Lib.SortedMap
import KWindowSystem.Qt.Text

/-!
# Broadcast messages on the wire

`KXMessages` sends a text as client messages of 20 bytes each, the first with one atom and the others
with a second one, and puts the fragments of each sender window together again.
-/

open Qt

namespace KWindowSystem

abbrev WId := Nat
abbrev Atom := Nat

/-- `accept_atom1` marks the first fragment of a message, `accept_atom2` each later one. -/
structure MessageAtoms where
  acceptAtom1 : Atom
  acceptAtom2 : Atom
  distinct : acceptAtom1 ≠ acceptAtom2

/-- `XCB_CLIENT_MESSAGE`. -/
def xcbClientMessage : UInt8 := 33

structure ClientMessage where
  responseType : UInt8 := xcbClientMessage
  format : UInt8 := 8
  window : WId
  type : Atom
  data8 : QByteArray
deriving DecidableEq, Repr

/-! ## The sender -/

/-- A value stored in an `unsigned int`. -/
def unsignedInt (n : Nat) : Nat := n % 2 ^ 32

/-- The copying loop, from `i` on for at most `n` more bytes; it ends at the end of the message. -/
def copyBytes (msg : QByteArray) (pos : Nat) : Nat → Nat → QByteArray
  | 0, _ => []
  | n + 1, i =>
      match msg[unsignedInt (i + pos)]? with
      | some b => b :: copyBytes msg pos n (i + 1)
      | none => []

/-- The payload of the fragment at `pos`, filled up with zeros. -/
def fragmentData (msg : QByteArray) (pos : Nat) : QByteArray :=
  let bytes := copyBytes msg pos 20 0
  bytes ++ List.replicate (20 - bytes.length) 0

/-- The `do … while (pos <= len)` loop.  `pos` is an `unsigned int` and `len` a `size_t`, so that the
loop need not end; `none` when it has not ended after `fuel` fragments. -/
def sendLoop (a : MessageAtoms) (handle : WId) (msg : QByteArray) :
    Nat → Nat → Atom → Option (List ClientMessage)
  | 0, _, _ => none
  | fuel + 1, pos, type =>
      let event : ClientMessage := { window := handle, type, data8 := fragmentData msg pos }
      let pos := unsignedInt (pos + 20)
      if pos ≤ msg.length then
        (sendLoop a handle msg fuel pos a.acceptAtom2).map fun events => event :: events
      else some [event]

def sendMessageInternal (a : MessageAtoms) (handle : WId) (msg : QString) (fuel : Nat) :
    Option (List ClientMessage) :=
  sendLoop a handle (toUtf8 msg) fuel 0 a.acceptAtom1

/-! ## The receiver -/

/-- The payload as a C string of at most 20 characters. -/
def ClientMessage.buf (e : ClientMessage) : QByteArray := cString (e.data8.take 20)

/-- What `incoming_messages` holds for the window of the event once its payload has been added, or
`none` for the middle of a message whose beginning was not heard. -/
def ClientMessage.gather (a : MessageAtoms) (e : ClientMessage) (sofar : Option QByteArray) :
    Option QByteArray :=
  match sofar with
  | some bytes =>
      -- Two messages on one window at the same time: the earlier one is given up.
      if e.type = a.acceptAtom1 then some e.buf else some (bytes ++ e.buf)
  | none => if e.type = a.acceptAtom2 then none else some e.buf

def ClientMessage.accepted (a : MessageAtoms) (e : ClientMessage) : Bool :=
  e.responseType &&& 0x7f = xcbClientMessage && e.format = 8 &&
    (e.type = a.acceptAtom1 || e.type = a.acceptAtom2)

/-- `gotMessage` carries the text only; the window is the one of the event that completed it. -/
def nativeEventFilter (a : MessageAtoms) (incomingMessages : SortedMap WId QByteArray)
    (e : ClientMessage) : SortedMap WId QByteArray × List (WId × QString) :=
  if e.accepted a then
    match e.gather a (incomingMessages.find? e.window) with
    | none => (incomingMessages, [])
    | some bytes =>
        let incomingMessages := incomingMessages.insert e.window bytes
        if e.buf.length < 20 then
          (incomingMessages.erase e.window, [(e.window, fromUtf8 (cString bytes))])
        else (incomingMessages, [])
  else (incomingMessages, [])

end KWindowSystem
