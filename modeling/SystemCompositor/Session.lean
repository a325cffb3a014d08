import Mathlib.Data.List.Basic

namespace SystemCompositor

/-- `std::string`: any bytes, compared bytewise. -/
abbrev Name := List UInt8

/-- `mir::scene::Session` as `shared_ptr::get` and `name()` show it. -/
structure SceneSession where
  address : Nat
  name : Name
deriving DecidableEq

structure Session where
  address : Nat
  sceneSession : SceneSession
deriving DecidableEq

namespace Session

def name (session : Session) : Name := session.sceneSession.name

def correspondsTo (session : Session) (scene : Nat) : Bool := session.sceneSession.address == scene

end Session

structure ActiveOutputs where
  internal : Int
  external : Int
deriving DecidableEq

end SystemCompositor
