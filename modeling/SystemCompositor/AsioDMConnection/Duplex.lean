import SystemCompositor.AsioDMConnection.RoundTrip

namespace SystemCompositor
open Library

def ReaderEvent.bytes : ReaderEvent → List UInt8
  | .write bytes => bytes
  | .header _ | .dispatch _ | .setActiveSession _ | .setNextSession _ => []

namespace AsioDMConnection

/-- The bytes that went out on the pipe to the display manager. -/
def written (events : List ReaderEvent) : List UInt8 := events.flatMap ReaderEvent.bytes

def readyFrame : DMFrame := ⟨[0, 2, 0, 0], [], rfl, rfl⟩

def pongFrame : DMFrame := ⟨[0, 1, 0, 0], [], rfl, rfl⟩

def pings (fs : List DMFrame) : Nat := fs.countP fun f => frameNumber f = 0

theorem written_filter (events : List ReaderEvent) : written (events.filter isCall) = written events := by
  induction events with
  | nil => rfl
  | cons event events ih =>
      have rest : (events.filter isCall).flatMap ReaderEvent.bytes = events.flatMap ReaderEvent.bytes := ih
      cases event <;> simp [written, List.filter_cons, isCall, ReaderEvent.bytes, rest]

theorem written_transcript (fs : List DMFrame) (offset : Nat) (buffer : List UInt8) :
    written (transcript fs offset buffer) = (List.replicate (pings fs) pongFrame).flatMap Framing.Frame.bytes := by
  induction fs generalizing offset buffer with
  | nil => rfl
  | cons f fs ih =>
      have answered : written (answer (frameNumber f) (buffer ++ f.payload)) =
          (List.replicate (pings [f]) pongFrame).flatMap Framing.Frame.bytes := by
        rw [pings, List.countP_singleton]
        match frameNumber f with
        | 0 | 1 | 2 | 3 | 4 | 5 => rfl
        | n + 6 => simp [answer, USCMessageID.ofNumber_unknown, written]
      have cut : pings (f :: fs) = pings [f] + pings fs := by
        rw [pings, ← List.singleton_append, List.countP_append]
        rfl
      rw [cut, List.replicate_add, List.flatMap_append, ← answered,
        ← ih (offset + f.size) (leftover (frameNumber f) (buffer ++ f.payload))]
      simp [transcript, written, ReaderEvent.bytes]

/-- No whole frame will come. -/
def Stalled (c : AsioDMConnection) : Prop :=
  match c.pending with
  | none => True
  | some .header => dmFraming.Cut c.fromDmPipe
  | some (.payload length) => c.fromDmPipe.length < length

theorem complete_headerRead {c : AsioDMConnection} (waiting : c.pending = some .header) :
    c.complete.log.filter isCall = c.log.filter isCall := by
  by_cases enough : 4 ≤ c.fromDmPipe.length
  · rw [complete_header waiting enough]
    simp [isCall]
  · simp [complete, waiting, enough, onReadHeader, transferHeader]

theorem complete_stalled {c : AsioDMConnection} (stalled : c.Stalled) :
    c.complete.Stalled ∧ c.complete.log.filter isCall = c.log.filter isCall := by
  cases waiting : c.pending with
  | none =>
      rw [complete_idle waiting]
      exact ⟨stalled, rfl⟩
  | some pending =>
      cases pending with
      | header =>
          refine ⟨?_, complete_headerRead waiting⟩
          by_cases enough : 4 ≤ c.fromDmPipe.length
          · rw [complete_header waiting enough]
            simp only [Stalled, waiting, Framing.Cut, transferHeader, List.length_drop] at stalled ⊢
            have size : dmFraming.headerSize = 4 := rfl
            rw [size] at stalled
            omega
          · simp [Stalled, complete, waiting, enough, onReadHeader]
      | payload length =>
          have short : c.fromDmPipe.length < length := by simpa [Stalled, waiting] using stalled
          obtain ⟨pending, empty, log⟩ := complete_cutPayload waiting short
          refine ⟨?_, by rw [log]⟩
          simp [Stalled, pending, empty, Framing.Cut, dmFraming]

theorem iterate_stalled {c : AsioDMConnection} (stalled : c.Stalled) (n : Nat) :
    (complete^[n] c).log.filter isCall = c.log.filter isCall := by
  induction n generalizing c with
  | zero => rfl
  | succ n ih =>
      obtain ⟨stalled', same⟩ := complete_stalled stalled
      rw [Function.iterate_succ_apply, ih stalled', same]

theorem iterate_frames {c : AsioDMConnection} {fs : List DMFrame} {tail : List UInt8}
    (waiting : c.pending = some .header) (arrived : c.fromDmPipe = fs.flatMap Framing.Frame.bytes ++ tail) {k : Nat}
    (le : k ≤ fs.length) :
    (complete^[2 * k] c).pending = some .header ∧
      (complete^[2 * k] c).fromDmPipe = (fs.drop k).flatMap Framing.Frame.bytes ++ tail ∧
      (complete^[2 * k] c).log = c.log ++ transcript (fs.take k) c.offset c.messagePayloadBuffer := by
  induction k generalizing c fs with
  | zero => exact ⟨waiting, arrived, by simp [transcript]⟩
  | succ k ih =>
      cases fs with
      | nil => cases le
      | cons f fs =>
          rw [List.flatMap_cons, List.append_assoc] at arrived
          have read := complete_frame waiting arrived
          rw [Nat.mul_succ, Function.iterate_add_apply, read]
          obtain ⟨pending, left, log⟩ := ih (c := c.afterFrame f (fs.flatMap Framing.Frame.bytes ++ tail)) waiting rfl
            (Nat.le_of_succ_le_succ le)
          refine ⟨pending, left, ?_⟩
          rw [log]
          simp [afterFrame, transcript]

theorem calls_so_far (stream : List UInt8) (uninitialised : Vector UInt8 4) (n : Nat) :
    (complete^[n] (connect stream uninitialised).start).log.filter isCall = .write readyFrame.bytes ::
      (transcript ((dmFraming.parse stream).1.take (n / 2)) 0 []).filter isCall := by
  obtain ⟨whole, cut⟩ := dmFraming.parse_spec stream
  generalize (dmFraming.parse stream).1 = fs at whole ⊢
  generalize (dmFraming.parse stream).2 = tail at whole cut
  let c := (connect stream uninitialised).start
  have read {k : Nat} (le : k ≤ fs.length) : (complete^[2 * k] c).log.filter isCall =
      .write readyFrame.bytes :: (transcript (fs.take k) 0 []).filter isCall := by
    rw [(iterate_frames (c := c) rfl whole le).2.2, List.filter_append]
    rfl
  rcases Nat.lt_or_ge (n / 2) fs.length with less | enough
  · rw [← read (Nat.le_of_lt less)]
    rcases Nat.mod_two_eq_zero_or_one n with even | odd
    · rw [show 2 * (n / 2) = n by omega]
    · -- The header of the next frame may have been read as well.
      obtain ⟨pending, -, -⟩ := iterate_frames (c := c) rfl whole (Nat.le_of_lt less)
      rw [← complete_headerRead pending, ← Function.iterate_succ_apply' complete,
      show (2 * (n / 2)).succ = n by omega]
  · obtain ⟨pending, left, -⟩ := iterate_frames (c := c) rfl whole (Nat.le_refl _)
    have stalled : (complete^[2 * fs.length] c).Stalled := by
      rw [Stalled, pending, left, List.drop_length]
      exact cut
    obtain ⟨later, rfl⟩ := Nat.exists_eq_add_of_le' (show 2 * fs.length ≤ n by omega)
    rw [Function.iterate_add_apply, iterate_stalled stalled, read (Nat.le_refl _), List.take_length,
      List.take_of_length_le enough]

/-- At every moment the calls made are those of the frames that have been read whole, two reads each, and the
display manager finds a ready frame in what was written and one pong for each ping read. -/
theorem duplex (stream : List UInt8) (uninitialised : Vector UInt8 4) (n : Nat) :
    (complete^[n] (connect stream uninitialised).start).log.filter isCall = .write readyFrame.bytes ::
        (transcript ((dmFraming.parse stream).1.take (n / 2)) 0 []).filter isCall ∧
      dmFraming.parse (written (complete^[n] (connect stream uninitialised).start).log) =
        (readyFrame :: List.replicate (pings ((dmFraming.parse stream).1.take (n / 2))) pongFrame, []) := by
  have calls := calls_so_far stream uninitialised n
  refine ⟨calls, ?_⟩
  rw [← written_filter, calls, written, List.flatMap_cons, ← written, written_filter, written_transcript]
  exact dmFraming.parse_frames (readyFrame :: List.replicate _ pongFrame)

end AsioDMConnection
end SystemCompositor
