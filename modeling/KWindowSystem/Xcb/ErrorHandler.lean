import KWindowSystem.Lib.Delegation
import KWindowSystem.Lib.Machine
import KWindowSystem.Xcb.TimestampCompare

/-!
# Nested X error handlers

Every `KXErrorHandler` installs the same function with Xlib, `handler_wrapper`, which hands an error to the
innermost object; what that one does not take goes on to the function it found installed, for all but the
outermost object the wrapper again.  `s_lock` is held by the wrapper until the handlers it calls have returned.
-/

namespace KWindowSystem

structure XErrorEvent (D : Type) where
  type : Int32
  display : D
  serial : UInt64
  errorCode : UInt8
  requestCode : UInt8
  minorCode : UInt8
  resourceid : UInt64
deriving DecidableEq, Repr

/-- What the functions do that the program hands out as error handlers.  They may change its state, but they
make no handlers and no requests. -/
structure ErrorFunctions (D F W : Type) where
  handler1 : F → UInt8 → UInt8 → UInt64 → W → Bool × W
  handler2 : F → D → XErrorEvent D → W → Int32 × W

/-- A pointer as `XSetErrorHandler` takes and returns it. -/
inductive XErrorHandler (F : Type) where
  | handlerWrapper
  | function (f : F)
deriving DecidableEq, Repr

structure KXErrorHandlerPrivate (D : Type) where
  firstRequest : UInt64
  display : D
  wasError : Bool
  /-- Not initialised before the first error. -/
  errorEvent : Option (XErrorEvent D)
deriving DecidableEq, Repr

structure KXErrorHandler (D F : Type) where
  userHandler1 : Option F
  userHandler2 : Option F
  oldHandler : XErrorHandler F
  d : KXErrorHandlerPrivate D
deriving DecidableEq, Repr

/-- The static members of `KXErrorHandler`, with the handler that Xlib has installed and the state of the rest
of the program. -/
structure ErrorState (D F W : Type) where
  sLock : Bool
  /-- The objects behind the pointers; `none` where a pointer was not set or its object is deleted. -/
  handlers : List (Option (KXErrorHandler D F))
  pos : Nat
  installed : XErrorHandler F
  world : W
deriving DecidableEq, Repr

/-- What stops the thread: it locks a mutex it holds, or uses an object that is not there. -/
inductive ErrorFault where
  | relock
  | noHandler
deriving DecidableEq, Repr

namespace KXErrorHandler

variable {D F W α : Type} [DecidableEq D] (fn : ErrorFunctions D F W)

abbrev Call (D F W α : Type) := ErrorState D F W → Except ErrorFault (α × ErrorState D F W)

/-- A `std::lock_guard` on `s_lock` around a function body; without `mutex` there is no lock. -/
def lockGuard (mutex : Bool) (body : Call D F W α) : Call D F W α := fun s =>
  if mutex = false then body s
  else if s.sLock then .error .relock
  else (body { s with sLock := true }).map fun r => (r.1, { r.2 with sLock := false })

/-- Returns the handler that was installed. -/
def xSetErrorHandler (handler : XErrorHandler F) (s : ErrorState D F W) :
    XErrorHandler F × ErrorState D F W :=
  (s.installed, { s with installed := handler })

def addHandler (mutex : Bool) (self : KXErrorHandler D F) : Call D F W Unit :=
  lockGuard mutex fun s =>
    let handlers := if s.handlers.length = s.pos then s.handlers ++ List.replicate 16 none else s.handlers
    .ok ((), { s with handlers := handlers.set s.pos (some self), pos := s.pos + 1 })

/-- Both constructors: the first one has no `handler`.  `nextRequest` is the answer of `XNextRequest`. -/
def construct (mutex : Bool) (handler : Option F) (dpy : D) (nextRequest : UInt64) : Call D F W Unit :=
  fun s =>
    let old := xSetErrorHandler .handlerWrapper s
    addHandler mutex ⟨none, handler, old.1, ⟨nextRequest, dpy, false, none⟩⟩ old.2

/-- The object a slot points to. -/
def handlerAt (s : ErrorState D F W) (slot : Nat) : Option (KXErrorHandler D F) := s.handlers[slot]?.join

/-- The destructor of the innermost object; for any other one its assertion fails. -/
def destruct (mutex : Bool) : Call D F W Unit :=
  lockGuard mutex fun s =>
    match s.pos with
    | 0 => .error .noHandler
    | pos + 1 =>
        match handlerAt s pos with
        | none => .error .noHandler
        | some self =>
            let s := (xSetErrorHandler self.oldHandler s).2
            .ok ((), { s with pos, handlers := s.handlers.set pos none })

/-- The error is for this object: it is for its display and for a request made since. -/
def Takes (self : KXErrorHandler D F) (dpy : D) (e : XErrorEvent D) : Prop :=
  dpy = self.d.display ∧ 0 ≤ NET.timestampCompare e.serial self.d.firstRequest

instance (self : KXErrorHandler D F) (dpy : D) (e : XErrorEvent D) : Decidable (self.Takes dpy e) :=
  inferInstanceAs (Decidable (_ ∧ _))

/-- Whether the functions of the user say that there was an error. -/
def verdict (self : KXErrorHandler D F) (dpy : D) (e : XErrorEvent D) (world : W) : Bool × W :=
  match self.userHandler1, self.userHandler2 with
  | some f, _ => fn.handler1 f e.requestCode e.errorCode e.resourceid world
  | none, some f => let (ret, world) := fn.handler2 f dpy e world; (decide (ret ≠ 0), world)
  -- no handler set, simply set that there was an error
  | none, none => (true, world)

/-- Only remember the first error. -/
def remember (self : KXErrorHandler D F) (error : Bool) (e : XErrorEvent D) : KXErrorHandler D F :=
  if error ∧ ¬self.d.wasError then { self with d := { self.d with wasError := true, errorEvent := some e } }
  else self

/-- A call through a function pointer. -/
def call (wrapper : D → XErrorEvent D → Call D F W Int32) :
    XErrorHandler F → D → XErrorEvent D → Call D F W Int32
  | .handlerWrapper, dpy, e => wrapper dpy e
  | .function f, dpy, e => fun s =>
      let (ret, world) := fn.handler2 f dpy e s.world
      .ok (ret, { s with world })

/-- `handle` of the object in a slot. -/
def handle (wrapper : D → XErrorEvent D → Call D F W Int32) (slot : Nat) (dpy : D) (e : XErrorEvent D) :
    Call D F W Int32 := fun s =>
  match handlerAt s slot with
  | none => .error .noHandler
  | some self =>
      if self.Takes dpy e then
        let (error, world) := self.verdict fn dpy e s.world
        .ok (0, { s with world, handlers := s.handlers.set slot (some (self.remember error e)) })
      else call fn wrapper self.oldHandler dpy e s

/-- The recursion is on the number of objects that are left: it is `pos` all the way, and with none left
`pos` would get negative. -/
def handlerWrapper (mutex : Bool) : Nat → D → XErrorEvent D → Call D F W Int32
  | 0, _, _ => lockGuard mutex fun _ => .error .noHandler
  | depth + 1, dpy, e =>
      lockGuard mutex fun s =>
        let s := { s with pos := s.pos - 1 }
        (handle fn (handlerWrapper mutex depth) s.pos dpy e s).map fun r =>
          (r.1, { r.2 with pos := r.2.pos + 1 })

/-- Xlib has received an error and calls the handler that is installed. -/
def deliver (mutex : Bool) (dpy : D) (e : XErrorEvent D) : Call D F W Int32 := fun s =>
  call fn (handlerWrapper fn mutex s.pos) s.installed dpy e s

/-! ## Runs -/

inductive Op (D F : Type) where
  | construct (handler : Option F) (dpy : D) (nextRequest : UInt64)
  | destruct
  | error (dpy : D) (e : XErrorEvent D)
deriving DecidableEq, Repr

def step (mutex : Bool) (s : ErrorState D F W) : Op D F → Except ErrorFault (ErrorState D F W)
  | .construct handler dpy nextRequest => (construct mutex handler dpy nextRequest s).map Prod.snd
  | .destruct => (destruct mutex s).map Prod.snd
  | .error dpy e => (deliver fn mutex dpy e s).map Prod.snd

/-- Before the first object, with a handler of the program installed. -/
def initial (base : F) (world : W) : ErrorState D F W := ⟨false, [], 0, .function base, world⟩

def next (mutex : Bool) (r : Except ErrorFault (ErrorState D F W)) (op : Op D F) :
    Except ErrorFault (ErrorState D F W) :=
  r.bind fun s => step fn mutex s op

def run (mutex : Bool) (s : ErrorState D F W) (ops : List (Op D F)) :
    Except ErrorFault (ErrorState D F W) :=
  ops.foldl (next fn mutex) (.ok s)

end KXErrorHandler

end KWindowSystem
