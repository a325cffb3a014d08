import Mathlib.Logic.Function.Iterate
import SystemCompositor.Session

namespace SystemCompositor

inductive USCMessageID
  | ping
  | pong
  | ready
  | sessionConnected
  | setActiveSession
  | setNextSession
deriving DecidableEq

namespace USCMessageID

def value : USCMessageID → UInt16
  | ping => 0
  | pong => 1
  | ready => 2
  | sessionConnected => 3
  | setActiveSession => 4
  | setNextSession => 5

def ofNumber (number : Nat) : Option USCMessageID :=
  [ping, pong, ready, sessionConnected, setActiveSession, setNextSession].find? fun id =>
    id.value.toNat = number

theorem ofNumber_unknown (number : Nat) : ofNumber (number + 6) = none := by
  simp [ofNumber, value]

end USCMessageID

/-- What the connection does, oldest first. Of these, `header` and `dispatch` only mark that a header
was read at an offset of the stream, and which number the switch looked at. -/
inductive ReaderEvent
  | header (offset : Nat)
  | dispatch (number : Nat)
  | setActiveSession (clientName : Name)
  | setNextSession (clientName : Name)
  | write (bytes : List UInt8)
deriving DecidableEq

inductive PendingRead
  | header
  | payload (length : Nat)
deriving DecidableEq

/-- `fromDmPipe` holds the bytes that are still to be read before the end of file. -/
structure AsioDMConnection where
  fromDmPipe : List UInt8
  messageHeaderBytes : Vector UInt8 4
  messagePayloadBuffer : List UInt8 := []
  pending : Option PendingRead := none
  offset : Nat := 0
  log : List ReaderEvent := []
deriving DecidableEq

namespace AsioDMConnection

def connect (stream : List UInt8) (uninitialised : Vector UInt8 4) : AsioDMConnection :=
  { fromDmPipe := stream, messageHeaderBytes := uninitialised }

def record (c : AsioDMConnection) (event : ReaderEvent) : AsioDMConnection :=
  { c with log := c.log ++ [event] }

def bigEndian (high low : UInt8) : Nat := high.toNat <<< 8 ||| low.toNat

def payloadLength (c : AsioDMConnection) : Nat := bigEndian c.messageHeaderBytes[2] c.messageHeaderBytes[3]

def messageNumber (c : AsioDMConnection) : Nat := bigEndian c.messageHeaderBytes[0] c.messageHeaderBytes[1]

def frame (id : UInt16) (body : List UInt8) : List UInt8 :=
  [.ofNat (id.toNat >>> 8 &&& 0xFF), .ofNat (id.toNat >>> 0 &&& 0xFF),
    .ofNat (body.length >>> 8 &&& 0xFF), .ofNat (body.length >>> 0 &&& 0xFF)] ++ body

def send (c : AsioDMConnection) (id : USCMessageID) (body : List UInt8) : AsioDMConnection :=
  c.record (.write (frame id.value body))

def sendReady (c : AsioDMConnection) : AsioDMConnection := c.send .ready []

def readHeader (c : AsioDMConnection) : AsioDMConnection := { c with pending := some .header }

def onReadHeader (c : AsioDMConnection) (failed : Bool) : AsioDMConnection :=
  if failed then { c with pending := none }
  else { c with pending := some (.payload c.payloadLength) }

def dispatch (c : AsioDMConnection) : AsioDMConnection :=
  match USCMessageID.ofNumber c.messageNumber with
  | some .ping => c.send .pong []
  | some .pong => c
  | some .setActiveSession =>
      { c with messagePayloadBuffer := [] }.record (.setActiveSession c.messagePayloadBuffer)
  | some .setNextSession =>
      { c with messagePayloadBuffer := [] }.record (.setNextSession c.messagePayloadBuffer)
  | _ => c

def onReadPayload (c : AsioDMConnection) (failed : Bool) : AsioDMConnection :=
  (if failed then c else (c.record (.dispatch c.messageNumber)).dispatch).readHeader

def start (c : AsioDMConnection) : AsioDMConnection := c.sendReady.readHeader

/-- A read into the header array: all of it, or what is left before the end of file. -/
def transferHeader (c : AsioDMConnection) : AsioDMConnection :=
  { c with
    messageHeaderBytes := .ofFn fun i => c.fromDmPipe.getD i c.messageHeaderBytes[i]
    fromDmPipe := c.fromDmPipe.drop 4
    offset := c.offset + min 4 c.fromDmPipe.length }

def transferPayload (c : AsioDMConnection) (length : Nat) : AsioDMConnection :=
  { c with
    messagePayloadBuffer := c.messagePayloadBuffer ++ c.fromDmPipe.take length
    fromDmPipe := c.fromDmPipe.drop length
    offset := c.offset + min length c.fromDmPipe.length }

/-- The outstanding read completes and its handler runs. A read fails if the end of file comes first. -/
def complete (c : AsioDMConnection) : AsioDMConnection :=
  match c.pending with
  | none => c
  | some .header =>
      if 4 ≤ c.fromDmPipe.length then (c.transferHeader.record (.header c.offset)).onReadHeader false
      else c.transferHeader.onReadHeader true
  | some (.payload length) =>
      (c.transferPayload length).onReadPayload (decide (c.fromDmPipe.length < length))

def Finishes (c d : AsioDMConnection) : Prop := d.pending = none ∧ ∃ n, complete^[n] c = d

theorem complete_idle {c : AsioDMConnection} (idle : c.pending = none) : c.complete = c := by
  rw [complete, idle]

theorem iterate_idle {c : AsioDMConnection} (idle : c.pending = none) (n : Nat) : complete^[n] c = c :=
  Function.iterate_fixed (complete_idle idle) n

theorem Finishes.unique {c d e : AsioDMConnection} (first : c.Finishes d) (second : c.Finishes e) : d = e := by
  obtain ⟨idle, n, rfl⟩ := first
  obtain ⟨idle', m, rfl⟩ := second
  rcases Nat.le_total n m with le | le
  · obtain ⟨k, rfl⟩ := Nat.exists_eq_add_of_le' le
    rw [Function.iterate_add_apply, iterate_idle idle]
  · obtain ⟨k, rfl⟩ := Nat.exists_eq_add_of_le' le
    rw [Function.iterate_add_apply, iterate_idle idle']

theorem Finishes.of_iterate {c d : AsioDMConnection} {n : Nat} (rest : (complete^[n] c).Finishes d) :
    c.Finishes d := by
  obtain ⟨idle, m, rfl⟩ := rest
  exact ⟨idle, m + n, Function.iterate_add_apply complete m n c⟩

end AsioDMConnection
end SystemCompositor
