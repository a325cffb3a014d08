import SystemCompositor.AsioDMConnection.Reader

namespace SystemCompositor
open Library

namespace ReaderEvent

def offset? : ReaderEvent → Option Nat
  | header offset => some offset
  | _ => none

def anonymous : ReaderEvent → ReaderEvent
  | setActiveSession _ => setActiveSession []
  | setNextSession _ => setNextSession []
  | event => event

end ReaderEvent

namespace AsioDMConnection

def reaction : Nat → List ReaderEvent
  | 0 => [.write [0, 1, 0, 0]]
  | 4 => [.setActiveSession []]
  | 5 => [.setNextSession []]
  | _ => []

def reading : List DMFrame → Nat → List ReaderEvent
  | [], _ => []
  | f :: fs, offset =>
      .header offset :: .dispatch (frameNumber f) :: reaction (frameNumber f) ++ reading fs (offset + f.size)

theorem answer_anonymous (number : Nat) (buffer : List UInt8) :
    (answer number buffer).map ReaderEvent.anonymous = reaction number := by
  match number with
  | 0 | 1 | 2 | 3 | 4 | 5 => rfl
  | n + 6 => simp [answer, reaction, USCMessageID.ofNumber_unknown]

theorem transcript_anonymous (fs : List DMFrame) (offset : Nat) (buffer : List UInt8) :
    (transcript fs offset buffer).map ReaderEvent.anonymous = reading fs offset := by
  induction fs generalizing offset buffer with
  | nil => rfl
  | cons f fs ih => simp [transcript, reading, answer_anonymous, ih, ReaderEvent.anonymous]

theorem reaction_offsets (number : Nat) : (reaction number).filterMap ReaderEvent.offset? = [] := by
  unfold reaction
  split <;> rfl

theorem reading_offsets (fs : List DMFrame) (offset : Nat) :
    (reading fs offset).filterMap ReaderEvent.offset? =
      (List.range fs.length).map fun k => offset + streamSize (fs.take k) := by
  induction fs generalizing offset with
  | nil => rfl
  | cons f fs ih =>
      rw [List.length_cons, List.range_succ_eq_map, List.map_cons, List.map_map]
      simp [reading, List.filterMap_cons, ReaderEvent.offset?, reaction_offsets, ih, streamSize,
        Nat.add_assoc]

theorem offsets_anonymous (events : List ReaderEvent) :
    (events.map ReaderEvent.anonymous).filterMap ReaderEvent.offset? = events.filterMap ReaderEvent.offset? := by
  rw [List.filterMap_map]
  congr 1
  funext event
  cases event <;> rfl

theorem frame_sync (stream : List UInt8) (uninitialised : Vector UInt8 4) :
    ∃ fs tail, dmFraming.parse stream = (fs, tail) ∧ stream = fs.flatMap Framing.Frame.bytes ++ tail ∧
      dmFraming.Cut tail ∧ ∃ d later, (connect stream uninitialised).start.Finishes d ∧
        d.log = (connect stream uninitialised).start.log ++ later ∧
        later.map ReaderEvent.anonymous =
          reading fs 0 ++ (if 4 ≤ tail.length then [.header (streamSize fs)] else []) ∧
        later.filterMap ReaderEvent.offset? =
          (List.range (fs.length + if 4 ≤ tail.length then 1 else 0)).map fun k => streamSize (fs.take k) := by
  obtain ⟨whole, cut⟩ := dmFraming.parse_spec stream
  refine ⟨_, _, rfl, whole, cut, ?_⟩
  generalize (dmFraming.parse stream).1 = fs at whole ⊢
  generalize (dmFraming.parse stream).2 = tail at whole cut ⊢
  obtain ⟨d, finishes, log⟩ := finishes_stream (c := (connect stream uninitialised).start) rfl whole cut
  have events : (transcript fs 0 [] ++ if 4 ≤ tail.length then [ReaderEvent.header (0 + streamSize fs)] else []).map
      ReaderEvent.anonymous = reading fs 0 ++ if 4 ≤ tail.length then [.header (streamSize fs)] else [] := by
    rw [List.map_append, transcript_anonymous, Nat.zero_add]
    split_ifs <;> rfl
  refine ⟨d, _, finishes, log, events, ?_⟩
  rw [← offsets_anonymous]
  refine (congrArg _ events).trans ?_
  rw [List.filterMap_append, reading_offsets]
  split_ifs
  · simp [List.range_succ, ReaderEvent.offset?]
  · simp

end AsioDMConnection
end SystemCompositor
