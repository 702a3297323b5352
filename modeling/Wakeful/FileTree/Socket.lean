import Wakeful.FileTree.Operations

/-! Sockets in the tree, whose names stay behind when nobody listens any more. -/

namespace Wakeful

/-- Where a socket can be. -/
inductive SocketAddress where
  /-- Nowhere, so that nobody can find it. -/
  | unnamed
  /-- Under a name outside the tree. -/
  | detached (name : Octets)
  /-- At a path. -/
  | path (path : Octets)
  deriving DecidableEq, Repr

namespace SocketAddress

/-- The number of octets in an address. -/
def capacity : Nat := 108

/-- The address that octets stand for. -/
def ofOctets : Octets → Except IoError SocketAddress
  -- A path needs one octet more, which ends it.
  | [] => .ok .unnamed
  | 0 :: name =>
    if capacity < name.length + 1 then .error .socketNameTooLong else .ok (.detached name)
  | octets =>
    if octets.contains 0 then .error .nulInSocketPath
    else if capacity ≤ octets.length then .error .socketPathTooLong
    else .ok (.path octets)

end SocketAddress

/-- What comes of a stream that is to be opened to a listener. -/
def Listener.welcome : Option Listener → Except Errno Unit
  -- Nobody waits until there is room.
  | some (.streams true) => .ok ()
  | some (.streams false) => .error .tryAgain
  | some .others => .error .wrongProtocol
  | none => .error .connectionRefused

namespace Workplace

/-- Makes a socket at a path on which somebody listens from now on. -/
def bindPath (workplace : Workplace) (path : Octets) : Outcome Unit :=
  -- Whatever has the name already is in the way, even a link that leads nowhere.
  workplace.attempt do
    refusal do
      let way ← workplace.approach path
      match way.ending with
      | .name name =>
        match ← workplace.tree.entry? way.parent name with
        | some _ => throw .addressInUse
        | none =>
          if way.slash then throw .notFound
          workplace.checkChange way.parent
          let node := Node.socket (workplace.granted 0o777) (some (.streams true))
          return ((), { workplace with
            tree := workplace.tree.insert (name :: way.parent.place) node })
      | _ => throw .addressInUse

/-- Makes a socket at an address on which somebody listens from now on. -/
def listen (workplace : Workplace) (octets : Octets) : Outcome Unit :=
  -- A name outside the tree is free unless somebody listens under it right now.
  match SocketAddress.ofOctets octets with
  | .error reason => (.error reason, workplace)
  | .ok (.path path) => workplace.bindPath path
  | .ok (.detached name) =>
    if (workplace.detached.lookup name).isSome then (.error (.refused .addressInUse), workplace)
    else (.ok (), { workplace with detached := (name, true) :: workplace.detached })
  | .ok .unnamed => (.ok (), workplace)

/-- Connects to whoever listens at an address. -/
def connect (workplace : Workplace) (octets : Octets) : Except IoError Unit := do
  -- Links are followed, and the socket has to be writable.
  match ← SocketAddress.ofOctets octets with
  | .path path =>
    let (_, node) ← workplace.find path
    if !node.writable then throw (.refused .permissionDenied)
    match node with
    | .socket _ listener => refusal (Listener.welcome listener)
    | _ => throw (.refused .connectionRefused)
  | .unnamed => throw (.refused .invalid)
  | .detached name => refusal (Listener.welcome ((workplace.detached.lookup name).map .streams))

/-- Whether somebody answers at an address. -/
def answers (workplace : Workplace) (octets : Octets) : Bool :=
  -- Every failure to connect counts as silence.
  (workplace.connect octets).toOption.isSome

/-- The workplace after the listener at a place has gone. -/
def silence (workplace : Workplace) (place : Place) : Workplace :=
  -- The socket keeps its name.
  match workplace.tree.node? place with
  | some (.socket mode _) =>
    { workplace with tree := workplace.tree.insert place (.socket mode none) }
  | _ => workplace

/-- The workplace after the listener at an address outside the tree has gone. -/
def release (workplace : Workplace) (octets : Octets) : Workplace :=
  -- Such a name does not stay behind.
  { workplace with detached := workplace.detached.filter fun entry => octets != 0 :: entry.1 }

end Workplace

end Wakeful
