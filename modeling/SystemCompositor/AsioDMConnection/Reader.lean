import SystemCompositor.AsioDMConnection.Basic
import SystemCompositor.Library.Framing

namespace SystemCompositor
open Library

/-- The grammar of the display manager's stream: two bytes of id, two bytes of length, big endian. -/
def dmFraming : Framing UInt8 where
  headerSize := 4
  headed := Nat.succ_pos 3
  declaredLength
    | [_, _, high, low] => 256 * high.toNat + low.toNat
    | _ => 0

namespace AsioDMConnection

abbrev DMFrame := dmFraming.Frame

def headerNumber : List UInt8 → Nat
  | [high, low, _, _] => 256 * high.toNat + low.toNat
  | _ => 0

def frameNumber (f : DMFrame) : Nat := headerNumber f.header

theorem bigEndian_eq (high low : UInt8) : bigEndian high low = 256 * high.toNat + low.toNat := by
  rw [bigEndian, ← Nat.shiftLeft_add_eq_or_of_lt (i := 8) low.toNat_lt, Nat.shiftLeft_eq]
  omega

def answer (number : Nat) (buffer : List UInt8) : List ReaderEvent :=
  match USCMessageID.ofNumber number with
  | some .ping => [.write (frame USCMessageID.pong.value [])]
  | some .setActiveSession => [.setActiveSession buffer]
  | some .setNextSession => [.setNextSession buffer]
  | _ => []

/-- Only the cases that set a session read the payload buffer. -/
def leftover (number : Nat) (buffer : List UInt8) : List UInt8 :=
  match USCMessageID.ofNumber number with
  | some .setActiveSession | some .setNextSession => []
  | _ => buffer

theorem dispatch_eq (c : AsioDMConnection) : c.dispatch = { c with
    messagePayloadBuffer := leftover c.messageNumber c.messagePayloadBuffer
    log := c.log ++ answer c.messageNumber c.messagePayloadBuffer } := by
  unfold dispatch leftover answer
  split <;> simp_all [send, record]

theorem transferHeader_bytes {c : AsioDMConnection} (enough : 4 ≤ c.fromDmPipe.length) :
    c.transferHeader.payloadLength = dmFraming.declaredLength (c.fromDmPipe.take 4) ∧
      c.transferHeader.messageNumber = headerNumber (c.fromDmPipe.take 4) := by
  obtain ⟨a, b, high, low, rest, whole⟩ : ∃ a b high low rest, c.fromDmPipe = a :: b :: high :: low :: rest := by
    match c.fromDmPipe, enough with
    | a :: b :: high :: low :: rest, _ => exact ⟨a, b, high, low, rest, rfl⟩
  simp [transferHeader, payloadLength, messageNumber, headerNumber, dmFraming, bigEndian_eq, whole]

def afterFrame (c : AsioDMConnection) (f : DMFrame) (rest : List UInt8) : AsioDMConnection :=
  { c with
    fromDmPipe := rest
    messageHeaderBytes := c.transferHeader.messageHeaderBytes
    messagePayloadBuffer := leftover (frameNumber f) (c.messagePayloadBuffer ++ f.payload)
    offset := c.offset + f.size
    log := c.log ++ .header c.offset :: .dispatch (frameNumber f) ::
      answer (frameNumber f) (c.messagePayloadBuffer ++ f.payload) }

theorem complete_header {c : AsioDMConnection} (waiting : c.pending = some .header)
    (enough : 4 ≤ c.fromDmPipe.length) :
    c.complete = { c.transferHeader with
      log := c.log ++ [.header c.offset]
      pending := some (.payload (dmFraming.declaredLength (c.fromDmPipe.take 4))) } := by
  have declared : (c.transferHeader.record (.header c.offset)).payloadLength =
      dmFraming.declaredLength (c.fromDmPipe.take 4) := (transferHeader_bytes enough).1
  simp only [complete, waiting, enough, ↓reduceIte, onReadHeader, declared]
  rfl

theorem complete_payload {c : AsioDMConnection} {payload rest : List UInt8}
    (waiting : c.pending = some (.payload payload.length)) (arrived : c.fromDmPipe = payload ++ rest) :
    c.complete = { c with
      fromDmPipe := rest
      messagePayloadBuffer := leftover c.messageNumber (c.messagePayloadBuffer ++ payload)
      pending := some .header
      offset := c.offset + payload.length
      log := c.log ++ .dispatch c.messageNumber ::
        answer c.messageNumber (c.messagePayloadBuffer ++ payload) } := by
  have enough : ¬c.fromDmPipe.length < payload.length := by
    rw [arrived, List.length_append]
    omega
  simp only [complete, waiting, onReadPayload, enough, decide_false, Bool.false_eq_true, ↓reduceIte,
    dispatch_eq, readHeader]
  simp [record, transferPayload, messageNumber, arrived]

theorem complete_frame {c : AsioDMConnection} {f : DMFrame} {rest : List UInt8}
    (waiting : c.pending = some .header) (arrived : c.fromDmPipe = f.bytes ++ rest) :
    complete^[2] c = c.afterFrame f rest := by
  have size : c.fromDmPipe.length = 4 + f.payload.length + rest.length := by
    rw [arrived, List.length_append, f.length_bytes, Framing.Frame.size, f.declared]
    rfl
  have enough : 4 ≤ c.fromDmPipe.length := by omega
  have header : c.fromDmPipe.take 4 = f.header := by
    rw [arrived]
    exact f.take_header rest
  have payload : c.transferHeader.fromDmPipe = f.payload ++ rest := by
    rw [transferHeader, arrived]
    exact f.drop_header rest
  have number : c.transferHeader.messageNumber = frameNumber f := by
    rw [(transferHeader_bytes enough).2, header, frameNumber]
  let d : AsioDMConnection := { c.transferHeader with
    log := c.log ++ [.header c.offset], pending := some (.payload f.payload.length) }
  have read : c.complete = d := by rw [complete_header waiting enough, header, ← f.declared]
  have same : d.messageNumber = frameNumber f := number
  change complete (complete c) = _
  rw [read, complete_payload (c := d) rfl payload, same]
  simp [d, afterFrame, transferHeader, enough, waiting, Framing.Frame.size, ← f.declared]
  exact Nat.add_assoc _ _ _

def transcript : List DMFrame → Nat → List UInt8 → List ReaderEvent
  | [], _, _ => []
  | f :: fs, offset, buffer =>
      .header offset :: .dispatch (frameNumber f) :: answer (frameNumber f) (buffer ++ f.payload) ++
        transcript fs (offset + f.size) (leftover (frameNumber f) (buffer ++ f.payload))

def streamSize : List DMFrame → Nat
  | [] => 0
  | f :: fs => f.size + streamSize fs

theorem complete_frames {c : AsioDMConnection} {fs : List DMFrame} {tail : List UInt8}
    (waiting : c.pending = some .header) (arrived : c.fromDmPipe = fs.flatMap Framing.Frame.bytes ++ tail) :
    ∃ n, (complete^[n] c).pending = some .header ∧ (complete^[n] c).fromDmPipe = tail ∧
      (complete^[n] c).offset = c.offset + streamSize fs ∧
      (complete^[n] c).log = c.log ++ transcript fs c.offset c.messagePayloadBuffer := by
  induction fs generalizing c with
  | nil => exact ⟨0, waiting, arrived, by simp [streamSize], by simp [transcript]⟩
  | cons f fs ih =>
      rw [List.flatMap_cons, List.append_assoc] at arrived
      have read := complete_frame waiting arrived
      obtain ⟨n, pending, left, offset, log⟩ :=
        ih (c := c.afterFrame f (fs.flatMap Framing.Frame.bytes ++ tail)) waiting rfl
      refine ⟨n + 2, ?_⟩
      rw [Function.iterate_add_apply, read]
      refine ⟨pending, left, ?_, ?_⟩
      · rw [offset]
        simp [afterFrame, streamSize, Nat.add_assoc]
      · rw [log]
        simp [afterFrame, transcript]

theorem finishes_header {c : AsioDMConnection} (waiting : c.pending = some .header)
    (cut : c.fromDmPipe.length < 4) : ∃ d, c.Finishes d ∧ d.log = c.log := by
  have missing : ¬4 ≤ c.fromDmPipe.length := by omega
  refine ⟨c.complete, ⟨?_, 1, rfl⟩, ?_⟩
  · simp [complete, waiting, missing, onReadHeader]
  · simp [complete, waiting, missing, onReadHeader, transferHeader]

theorem complete_cutPayload {c : AsioDMConnection} {length : Nat} (waiting : c.pending = some (.payload length))
    (cut : c.fromDmPipe.length < length) :
    c.complete.pending = some .header ∧ c.complete.fromDmPipe = [] ∧ c.complete.log = c.log := by
  have failed : c.complete = (c.transferPayload length).readHeader := by
    simp [complete, waiting, onReadPayload, cut]
  rw [failed]
  exact ⟨rfl, List.drop_eq_nil_of_le (Nat.le_of_lt cut), rfl⟩

theorem finishes_tail {c : AsioDMConnection} (waiting : c.pending = some .header)
    (cut : dmFraming.Cut c.fromDmPipe) :
    ∃ d, c.Finishes d ∧ d.log = c.log ++ if 4 ≤ c.fromDmPipe.length then [.header c.offset] else [] := by
  by_cases headed : 4 ≤ c.fromDmPipe.length
  · let length := dmFraming.declaredLength (c.fromDmPipe.take 4)
    let d : AsioDMConnection := { c.transferHeader with
      log := c.log ++ [.header c.offset], pending := some (.payload length) }
    have read : c.complete = d := complete_header waiting headed
    have short : d.fromDmPipe.length < length := by
      have bound : c.fromDmPipe.length < 4 + length := cut
      simp only [d, transferHeader, List.length_drop]
      omega
    obtain ⟨pending, empty, log⟩ := complete_cutPayload (c := d) rfl short
    obtain ⟨e, finishes, same⟩ := finishes_header pending (by simp [empty])
    refine ⟨e, Finishes.of_iterate (n := 2) ?_, ?_⟩
    · change Finishes (complete (complete c)) e
      rwa [read]
    · rw [same, log, if_pos headed]
  · obtain ⟨d, finishes, same⟩ := finishes_header waiting (by omega)
    exact ⟨d, finishes, by rw [same, if_neg headed, List.append_nil]⟩

theorem finishes_stream {c : AsioDMConnection} {fs : List DMFrame} {tail : List UInt8}
    (waiting : c.pending = some .header) (arrived : c.fromDmPipe = fs.flatMap Framing.Frame.bytes ++ tail)
    (cut : dmFraming.Cut tail) :
    ∃ d, c.Finishes d ∧ d.log = c.log ++ (transcript fs c.offset c.messagePayloadBuffer ++
      if 4 ≤ tail.length then [.header (c.offset + streamSize fs)] else []) := by
  obtain ⟨n, pending, left, offset, log⟩ := complete_frames waiting arrived
  obtain ⟨d, finishes, last⟩ := finishes_tail pending (left ▸ cut)
  refine ⟨d, finishes.of_iterate, ?_⟩
  rw [last, log, left, offset, List.append_assoc]

end AsioDMConnection
end SystemCompositor
