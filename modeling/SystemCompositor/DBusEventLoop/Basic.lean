import Mathlib.Logic.Function.Basic
import SystemCompositor.Library.Run

namespace SystemCompositor

inductive Thread
  | loop
  | other (id : Nat)
deriving DecidableEq

inductive WakeUpCaller
  | enqueue
  | stop
  | wakeUp
deriving DecidableEq

/-- What a thread inside `enqueue`, `stop` or `wake_up_loop` does next. -/
inductive LoopCall (α : Type)
  | push (action : α)
  | halt
  | write (caller : WakeUpCaller)
deriving DecidableEq

/-- The places of `run` between which other threads can act. -/
inductive RunPoint (α : Type)
  | before
  | starting
  | testing
  | waiting
  | reading
  | handling
  | swapping
  | executing (rest : List α)
  | acting (action : α) (rest : List α)
  | dispatching
  | flushing
  | returned
deriving DecidableEq

/-- `unread` is the number of bytes in the wake-up pipe. `pushed` and `executed` are histories. -/
structure DBusEventLoop (α : Type) where
  running : Bool := false
  started : Bool := false
  actions : List α := []
  unread : Nat := 0
  point : RunPoint α := .before
  calls : Thread → Option (LoopCall α) := fun _ => none
  pushed : List α := []
  executed : List (Thread × α) := []

inductive LoopEvent (α : Type)
  | enqueue (thread : Thread) (action : α)
  | stop (thread : Thread)
  | wakeUp (thread : Thread)
  | store (thread : Thread)
  | write (thread : Thread)
  | run
  | read
  | wake
  | ready
  | interrupted
deriving DecidableEq

namespace RunPoint
variable {α : Type}

def inCallback : RunPoint α → Bool
  | .handling | .acting _ _ | .dispatching | .flushing => true
  | _ => false

/-- The actions that were swapped out and have not been called. -/
def batch : RunPoint α → List α
  | .executing rest | .acting _ rest => rest
  | _ => []

end RunPoint

namespace DBusEventLoop
variable {α : Type}

def mayCall (l : DBusEventLoop α) (t : Thread) : Bool :=
  (l.calls t).isNone && (t ≠ .loop || l.point.inCallback)

def enter (l : DBusEventLoop α) (t : Thread) (call : LoopCall α) : Option (DBusEventLoop α) :=
  if l.mayCall t then some { l with calls := Function.update l.calls t (some call) } else none

def store (l : DBusEventLoop α) (t : Thread) : Option (DBusEventLoop α) :=
  match l.calls t with
  | some (.push action) =>
      some { l with
        actions := l.actions ++ [action], pushed := l.pushed ++ [action]
        calls := Function.update l.calls t (some (.write .enqueue)) }
  | some .halt => some { l with running := false, calls := Function.update l.calls t (some (.write .stop)) }
  | _ => none

def write (l : DBusEventLoop α) (t : Thread) : Option (DBusEventLoop α) :=
  match l.calls t with
  | some (.write _) => some { l with unread := l.unread + 1, calls := Function.update l.calls t none }
  | _ => none

/-- The next step of `run` on the loop thread, where it neither waits nor reads. -/
def run (l : DBusEventLoop α) : Option (DBusEventLoop α) :=
  match l.point with
  | .before => some { l with running := true, point := .starting }
  | .starting => some { l with started := true, point := .testing }
  | .testing => some { l with point := if l.running then .waiting else .flushing }
  | .handling => some { l with point := .swapping }
  | .swapping => some { l with actions := [], point := .executing l.actions }
  | .executing [] => some { l with point := .dispatching }
  | .executing (action :: rest) =>
      some { l with point := .acting action rest, executed := l.executed ++ [(.loop, action)] }
  | .acting _ rest => some { l with point := .executing rest }
  | .dispatching => some { l with point := .testing }
  | .flushing => some { l with point := .returned }
  | .waiting | .reading | .returned => none

def read (l : DBusEventLoop α) : Option (DBusEventLoop α) :=
  match l.point with
  | .reading => some { l with unread := l.unread - 1, point := .swapping }
  | _ => none

def leaveWait (l : DBusEventLoop α) (next : RunPoint α) : Option (DBusEventLoop α) :=
  match l.point with
  | .waiting => some { l with point := next }
  | _ => none

/-- The pipe is level triggered: its event comes only while a byte is in it. -/
def step (l : DBusEventLoop α) : LoopEvent α → Option (DBusEventLoop α)
  | .enqueue t action => l.enter t (.push action)
  | .stop t => if l.started then l.enter t .halt else none
  | .wakeUp t => l.enter t (.write .wakeUp)
  | .store t => l.store t
  | .write t => l.write t
  | .run => if (l.calls .loop).isNone then l.run else none
  | .read => l.read
  | .wake => if 0 < l.unread then l.leaveWait .reading else none
  | .ready => l.leaveWait .handling
  | .interrupted => l.leaveWait .testing

abbrev Run (l : DBusEventLoop α) (es : List (LoopEvent α)) (m : DBusEventLoop α) : Prop :=
  Library.Run (fun l e m => l.step e = some m) l es m

end DBusEventLoop
end SystemCompositor
