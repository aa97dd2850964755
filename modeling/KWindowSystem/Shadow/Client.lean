import KWindowSystem.Lib.Machine
import KWindowSystem.Lib.Shared
import Mathlib.Algebra.Group.Int.Defs

/-!
# Window shadows on X11

`KWindowShadow` and `KWindowShadowTile` with their X11 halves: the tiles that a program holds shared
pointers to, its shadows, the windows they are attached to, and the server with the pixmaps of the tiles
and the property `_KDE_NET_WM_SHADOW` of each window.  `step` is one thing that the program does.
-/

open Machine

namespace KWindowSystem

namespace WindowShadow

/-- A name that `xcb_generate_id` gave out; 0 is `XCB_NONE`. -/
abbrev XID := Nat

structure QImage where
  width : Nat := 0
  height : Nat := 0
  depth : Nat := 0
  bits : List UInt8 := []
deriving DecidableEq, Repr

/-- What a missing tile is drawn with. -/
def transparent : QImage := ⟨1, 1, 32, [0, 0, 0, 0]⟩

structure QMargins where
  left : Int := 0
  top : Int := 0
  right : Int := 0
  bottom : Int := 0
deriving DecidableEq, Repr

/-- Where a tile is attached. -/
inductive Side where
  | left
  | topLeft
  | top
  | topRight
  | right
  | bottomRight
  | bottom
  | bottomLeft
deriving DecidableEq, Repr

/-- The order of the members of `KWindowShadowPrivate`, in which `prepareTiles` goes through them. -/
def Side.members : List Side :=
  [.left, .topLeft, .top, .topRight, .right, .bottomRight, .bottom, .bottomLeft]

/-- The order of the handles in the property. -/
def Side.handles : List Side :=
  [.top, .topRight, .right, .bottomRight, .bottom, .bottomLeft, .left, .topLeft]

theorem Side.mem_members (side : Side) : side ∈ members := by cases side <;> decide

theorem Side.mem_handles (side : Side) : side ∈ handles := by cases side <;> decide

/-! ## The server -/

inductive Resource where
  | window
  | pixmap (content : QImage)
  | gc (drawable : XID)
deriving DecidableEq, Repr

inductive Request where
  /-- `xcb_create_pixmap`, and `xcb_put_image` of the image into it. -/
  | createPixmap (pixmap : XID) (image : QImage)
  | createGc (gc drawable : XID)
  | freePixmap (pixmap : XID)
  | freeGc (gc : XID)
  | createWindow (window : XID)
  | destroyWindow (window : XID)
  | changeProperty (window : XID) (data : List Nat)
  | deleteProperty (window : XID)

structure Server where
  resources : XID → Option Resource := fun _ => none
  /-- `_KDE_NET_WM_SHADOW`. -/
  property : XID → Option (List Nat) := fun _ => none

/-- What there is in a pixmap that was made for an image; `none` where the server refuses to make it, as it
does for a null image or a depth it does not have. -/
abbrev Drawn := QImage → Option QImage

variable (drawn : Drawn)

/-- Requests about things that the server does not have are errors and change nothing. -/
def Server.apply (server : Server) : Request → Server
  | .createPixmap pixmap image =>
      { server with
        resources := Function.update server.resources pixmap
          (((drawn image).map .pixmap).or (server.resources pixmap)) }
  | .createGc gc drawable =>
      { server with
        resources := Function.update server.resources gc
          (if (server.resources drawable).isSome then some (.gc drawable) else server.resources gc) }
  | .freePixmap name | .freeGc name =>
      { server with resources := Function.update server.resources name none }
  | .createWindow window =>
      { server with resources := Function.update server.resources window (some .window) }
  | .destroyWindow window =>
      { resources := Function.update server.resources window none
        property := Function.update server.property window none }
  | .changeProperty window data =>
      { server with
        property := Function.update server.property window
          (if server.resources window = some .window then some data else server.property window) }
  | .deleteProperty window =>
      { server with property := Function.update server.property window none }

/-! ## The client -/

/-- `KWindowShadowTile` with `KWindowShadowTilePrivateX11`. -/
structure KWindowShadowTile where
  image : QImage := {}
  isCreated : Bool := false
  pixmap : XID := 0
  gc : XID := 0
deriving DecidableEq, Repr

/-- `KWindowShadow` with `KWindowShadowPrivateX11`, save for the pointers to its tiles. -/
structure KWindowShadow where
  window : Option Nat := none
  padding : QMargins := {}
  isCreated : Bool := false
deriving DecidableEq, Repr

/-- Where there can be a pointer to a tile: in a variable of the program, or in a member of a shadow. -/
inductive Place where
  | pointer (name : Nat)
  | member (shadow : Nat) (side : Side)
  | emptyTile (shadow : Nat)
deriving DecidableEq, Repr

structure Session where
  tiles : Shared Place KWindowShadowTile
  shadows : Nat → Option KWindowShadow
  shadowCount : Nat
  /-- The windows, each with its platform window, if there is one now. -/
  windows : Nat → Option (Option XID)
  windowCount : Nat
  nextId : XID
  /-- The server, once it has handled what was sent. -/
  server : Server

def Session.initial : Session where
  tiles := .empty
  shadows _ := none
  shadowCount := 0
  windows _ := none
  windowCount := 0
  nextId := 1
  server := {}

namespace Session

def send (s : Session) (request : Request) : Session := { s with server := s.server.apply drawn request }

def setShadow (s : Session) (n : Nat) (shadow : Option KWindowShadow) : Session :=
  { s with shadows := Function.update s.shadows n shadow }

/-- A member or a variable points to a tile. -/
def has (s : Session) (place : Place) : Bool := (s.tiles.target place).isSome

/-! ### Tiles -/

/-- `KWindowShadowTilePrivateX11::destroy`, which the destructor of a created tile calls. -/
def destroyTile (s : Session) (tile : KWindowShadowTile) : Session :=
  if tile.isCreated then (s.send drawn (.freePixmap tile.pixmap)).send drawn (.freeGc tile.gc) else s

/-- A pointer is assigned from another one or reset, which destroys the tile that it was the last to point
to. -/
def assign (s : Session) (place : Place) (source : Option Place) : Session :=
  let tiles := s.tiles.assign place source
  match s.tiles.lost tiles place with
  | some tile => { s with tiles := tiles }.destroyTile drawn tile
  | none => { s with tiles := tiles }

/-- `place = KWindowShadowTile::Ptr::create()`. -/
def newTile (s : Session) (place : Place) : Session :=
  let s := s.assign drawn place none
  { s with tiles := s.tiles.make place {} }

def setImage (s : Session) (place : Place) (image : QImage) : Session :=
  match s.tiles.get place with
  | some tile =>
      if tile.isCreated then s
      else { s with tiles := s.tiles.modify place fun tile => { tile with image := image } }
  | none => s

/-- `KWindowShadowTile::create`, of the tile that a pointer that is not null points to. -/
def createTile (s : Session) (place : Place) : Session × Bool :=
  match s.tiles.get place with
  | some tile =>
      if tile.isCreated then (s, true)
      else
        let pixmap := s.nextId
        let gc := s.nextId + 1
        let created := { s with
          tiles := s.tiles.modify place fun tile =>
            { tile with isCreated := true, pixmap := pixmap, gc := gc }
          nextId := s.nextId + 2 }
        ((created.send drawn (.createPixmap pixmap tile.image)).send drawn (.createGc gc pixmap), true)
  | none => (s, false)

/-! ### Windows -/

/-- `QWindow::create`. -/
def createPlatform (s : Session) (w : Nat) : Session :=
  match s.windows w with
  | some none =>
      { s with
        windows := Function.update s.windows w (some (some s.nextId))
        nextId := s.nextId + 1 }.send drawn (.createWindow s.nextId)
  | _ => s

def platform (s : Session) (w : Nat) : Option XID := (s.windows w).join

/-- `QWindow::winId`, which makes the platform window where there is none. -/
def winId (s : Session) (w : Nat) : Session × XID :=
  let s := s.createPlatform drawn w
  (s, (s.platform w).getD 0)

/-- `QWindow::destroy`. -/
def destroyPlatform (s : Session) (w : Nat) : Session :=
  match s.platform w with
  | some x => { s with windows := Function.update s.windows w (some none) }.send drawn (.destroyWindow x)
  | none => s

/-- The window is gone, and with it what a `QPointer` to it held. -/
def deleteWindow (s : Session) (w : Nat) : Session :=
  let s := s.destroyPlatform drawn w
  { s with
    windows := Function.update s.windows w none
    shadows := fun n => (s.shadows n).map fun shadow =>
      if shadow.window = some w then { shadow with window := none } else shadow }

/-! ### Setters of a shadow -/

/-- A setter of a shadow that is not created yet, or refuses to do anything. -/
def change (s : Session) (n : Nat) (f : KWindowShadow → KWindowShadow) : Session :=
  match s.shadows n with
  | some shadow => if shadow.isCreated then s else s.setShadow n (some (f shadow))
  | none => s

def setPadding (s : Session) (n : Nat) (padding : QMargins) : Session :=
  s.change n fun shadow => { shadow with padding := padding }

/-- The argument points to a window that there is, or to none. -/
def setWindow (s : Session) (n : Nat) (window : Option Nat) : Session :=
  if ∀ w ∈ window, (s.windows w).isSome then s.change n fun shadow => { shadow with window := window } else s

/-- The setter of a tile, with what is in a variable. -/
def setTile (side : Side) (s : Session) (n name : Nat) : Session :=
  match s.shadows n with
  | some shadow => if shadow.isCreated then s else s.assign drawn (.member n side) (some (.pointer name))
  | none => s

def setLeftTile := setTile drawn .left
def setTopLeftTile := setTile drawn .topLeft
def setTopTile := setTile drawn .top
def setTopRightTile := setTile drawn .topRight
def setRightTile := setTile drawn .right
def setBottomRightTile := setTile drawn .bottomRight
def setBottomTile := setTile drawn .bottom
def setBottomLeftTile := setTile drawn .bottomLeft

/-! ### `create` and `destroy` of a shadow -/

/-- `KWindowShadowPrivate::prepareTiles`. -/
def prepareTiles (s : Session) (n : Nat) : List Side → Session × Bool
  | [] => (s, true)
  | side :: sides =>
      if s.has (.member n side) then
        let created := s.createTile drawn (.member n side)
        if created.2 then created.1.prepareTiles n sides else created
      else s.prepareTiles n sides

def getOrCreateEmptyTile (s : Session) (n : Nat) : Session :=
  if s.has (.emptyTile n) then s
  else (((s.newTile drawn (.emptyTile n)).setImage (.emptyTile n) transparent).createTile drawn (.emptyTile n)).1

def nativeHandleForTile (s : Session) (place : Place) : XID := ((s.tiles.get place).map (·.pixmap)).getD 0

/-- The handles of the tiles, with the empty tile for the missing ones. -/
def handles (s : Session) (n : Nat) : List Side → Session × List XID
  | [] => (s, [])
  | side :: sides =>
      if s.has (.member n side) then
        let rest := s.handles n sides
        (rest.1, s.nativeHandleForTile (.member n side) :: rest.2)
      else
        let s := s.getOrCreateEmptyTile drawn n
        let rest := s.handles n sides
        (rest.1, s.nativeHandleForTile (.emptyTile n) :: rest.2)

/-- A padding, as `uint32_t`, where there is a tile along that edge. -/
def offset (s : Session) (n : Nat) (edge : List Side) (padding : Int) : Nat :=
  if edge.any fun side => s.has (.member n side) then (padding % 2 ^ 32).toNat else 1

def offsets (s : Session) (n : Nat) (padding : QMargins) : List Nat :=
  [s.offset n [.topLeft, .top, .topRight] padding.top,
    s.offset n [.topRight, .right, .bottomRight] padding.right,
    s.offset n [.bottomRight, .bottom, .bottomLeft] padding.bottom,
    s.offset n [.bottomLeft, .left, .topLeft] padding.left]

/-- `KWindowShadowPrivateX11::create`, where `atom` is whether the name of the property got an atom. -/
def createPrivate (s : Session) (n : Nat) (shadow : KWindowShadow) (w : Nat) (atom : Bool) : Session × Bool :=
  if atom then
    let filled := s.handles drawn n Side.handles
    let data := filled.2 ++ filled.1.offsets n shadow.padding
    let target := filled.1.winId drawn w
    (target.1.send drawn (.changeProperty target.2 data), true)
  else (s, false)

/-- `KWindowShadow::create`. -/
def create (s : Session) (n : Nat) (atom : Bool) : Session × Bool :=
  match s.shadows n with
  | some shadow =>
      if shadow.isCreated then (s, true)
      else match shadow.window with
        | some w =>
            let prepared := s.prepareTiles drawn n Side.members
            if prepared.2 then
              let created := prepared.1.createPrivate drawn n shadow w atom
              (created.1.setShadow n (some { shadow with isCreated := created.2 }), created.2)
            else (prepared.1, false)
        | none => (s, false)
  | none => (s, false)

/-- `KWindowShadowPrivateX11::destroy`. -/
def destroyPrivate (s : Session) (n : Nat) (shadow : KWindowShadow) (atom : Bool) : Session :=
  let s := s.assign drawn (.emptyTile n) none
  match shadow.window.bind s.platform with
  | some x => if atom then s.send drawn (.deleteProperty x) else s
  | none => s

/-- `KWindowShadow::destroy`. -/
def destroy (s : Session) (n : Nat) (atom : Bool) : Session :=
  match s.shadows n with
  | some shadow =>
      if shadow.isCreated then
        (s.destroyPrivate drawn n shadow atom).setShadow n (some { shadow with isCreated := false })
      else s
  | none => s

/-- The destructor, with those of the members. -/
def deleteShadow (s : Session) (n : Nat) (atom : Bool) : Session :=
  let s := (s.destroy drawn n atom).assign drawn (.emptyTile n) none
  (Side.members.reverse.foldl (fun s side => s.assign drawn (.member n side) none) s).setShadow n none

end Session

/-! ## What a program does -/

inductive Op where
  /-- `name = KWindowShadowTile::Ptr::create()` -/
  | newTile (name : Nat)
  /-- A variable is assigned from another one, or reset. -/
  | assign (name : Nat) (source : Option Nat)
  /-- A variable is assigned from `leftTile()` or another getter. -/
  | getTile (name shadow : Nat) (side : Side)
  | setImage (name : Nat) (image : QImage)
  | createTile (name : Nat)
  | newShadow
  | setTile (shadow : Nat) (side : Side) (name : Nat)
  | setPadding (shadow : Nat) (padding : QMargins)
  | setWindow (shadow : Nat) (window : Option Nat)
  | create (shadow : Nat) (atom : Bool)
  | destroy (shadow : Nat) (atom : Bool)
  | deleteShadow (shadow : Nat) (atom : Bool)
  | newWindow
  | createPlatform (window : Nat)
  | destroyPlatform (window : Nat)
  | deleteWindow (window : Nat)

/-- The setter for a side. -/
def setterOf : Side → Session → Nat → Nat → Session
  | .left => .setLeftTile drawn
  | .topLeft => .setTopLeftTile drawn
  | .top => .setTopTile drawn
  | .topRight => .setTopRightTile drawn
  | .right => .setRightTile drawn
  | .bottomRight => .setBottomRightTile drawn
  | .bottom => .setBottomTile drawn
  | .bottomLeft => .setBottomLeftTile drawn

theorem setterOf_eq (side : Side) : setterOf drawn side = Session.setTile drawn side := by cases side <;> rfl

/-- One call, with what `create` returns. -/
def step (s : Session) : Op → Session × List Bool
  | .newTile name => (s.newTile drawn (.pointer name), [])
  | .assign name source => (s.assign drawn (.pointer name) (source.map .pointer), [])
  | .getTile name shadow side => (s.assign drawn (.pointer name) (some (.member shadow side)), [])
  | .setImage name image => (s.setImage (.pointer name) image, [])
  | .createTile name =>
      let created := s.createTile drawn (.pointer name)
      (created.1, [created.2])
  | .newShadow =>
      ({ s.setShadow s.shadowCount (some {}) with shadowCount := s.shadowCount + 1 }, [])
  | .setTile shadow side name => (setterOf drawn side s shadow name, [])
  | .setPadding shadow padding => (s.setPadding shadow padding, [])
  | .setWindow shadow window => (s.setWindow shadow window, [])
  | .create shadow atom =>
      let created := s.create drawn shadow atom
      (created.1, [created.2])
  | .destroy shadow atom => (s.destroy drawn shadow atom, [])
  | .deleteShadow shadow atom => (s.deleteShadow drawn shadow atom, [])
  | .newWindow =>
      ({ s with
        windows := Function.update s.windows s.windowCount (some none)
        windowCount := s.windowCount + 1 }, [])
  | .createPlatform window => (s.createPlatform drawn window, [])
  | .destroyPlatform window => (s.destroyPlatform drawn window, [])
  | .deleteWindow window => (s.deleteWindow drawn window, [])

end WindowShadow

end KWindowSystem
