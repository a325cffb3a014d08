import SystemCompositor.AsioDMConnection.Reader

namespace SystemCompositor
open Library

structure Message where
  id : UInt16
  body : List UInt8
  short : body.length ≤ 65535

namespace Message

def bytes (m : Message) : List UInt8 := AsioDMConnection.frame m.id m.body

def SetsSession (m : Message) : Prop := m.id = 4 ∨ m.id = 5

instance (m : Message) : Decidable m.SetsSession := inferInstanceAs (Decidable (_ ∨ _))

def calls (m : Message) : List ReaderEvent :=
  if m.id = 4 then [.setActiveSession m.body]
  else if m.id = 5 then [.setNextSession m.body]
  else if m.id = 0 then [.write [0, 1, 0, 0]]
  else []

theorem high_low {n : Nat} (short : n < 65536) :
    256 * (UInt8.ofNat (n >>> 8 &&& 0xFF)).toNat + (UInt8.ofNat (n >>> 0 &&& 0xFF)).toNat = n := by
  have mask (k : Nat) : k &&& 0xFF = k % 256 := Nat.and_two_pow_sub_one_eq_mod k 8
  simp only [mask, Nat.shiftRight_eq_div_pow, UInt8.toNat_ofNat']
  omega

def toFrame (m : Message) : dmFraming.Frame where
  header := m.bytes.take 4
  payload := m.body
  sized := rfl
  declared := (high_low (Nat.lt_succ_of_le m.short)).symm

theorem frameNumber_toFrame (m : Message) : AsioDMConnection.frameNumber m.toFrame = m.id.toNat :=
  high_low m.id.toNat_lt

end Message

namespace AsioDMConnection

def isCall : ReaderEvent → Bool
  | .header _ | .dispatch _ => false
  | _ => true

/-- Reading the messages makes the calls that they ask for, in order, and no others. -/
def RoundTrips (msgs : List Message) (uninitialised : Vector UInt8 4) : Prop :=
  let c := (connect (msgs.flatMap Message.bytes) uninitialised).start
  ∃ d later, c.Finishes d ∧ d.log = c.log ++ later ∧ later.filter isCall = msgs.flatMap Message.calls

theorem answer_sets {m : Message} (sets : m.SetsSession) (buffer : List UInt8) :
    ∃ call : Name → ReaderEvent, call.Injective ∧ m.calls = [call m.body] ∧
      answer m.id.toNat buffer = [call buffer] ∧ leftover m.id.toNat buffer = [] := by
  rcases sets with four | five
  · refine ⟨.setActiveSession, fun _ _ => ReaderEvent.setActiveSession.inj, ?_⟩
    simp [four, answer, leftover, Message.calls, USCMessageID.ofNumber, USCMessageID.value]
  · refine ⟨.setNextSession, fun _ _ => ReaderEvent.setNextSession.inj, ?_⟩
    simp [five, answer, leftover, Message.calls, USCMessageID.ofNumber, USCMessageID.value]

theorem answer_other {m : Message} (other : ¬m.SetsSession) (buffer : List UInt8) :
    answer m.id.toNat buffer = m.calls ∧ leftover m.id.toNat buffer = buffer := by
  simp only [Message.SetsSession, Message.calls, ← UInt16.toNat_inj] at other ⊢
  generalize m.id.toNat = number at other ⊢
  match number with
  | 0 | 1 | 2 | 3 => exact ⟨rfl, rfl⟩
  | 4 | 5 => simp at other
  | n + 6 => simp [answer, leftover, USCMessageID.ofNumber_unknown]

theorem answer_isCall (number : Nat) (buffer : List UInt8) :
    (answer number buffer).filter isCall = answer number buffer := by
  unfold answer
  split <;> rfl

theorem transcript_calls (msgs : List Message) (offset : Nat) (buffer : List UInt8) :
    (transcript (msgs.map Message.toFrame) offset buffer).filter isCall = msgs.flatMap Message.calls ↔
      (buffer = [] ∨ ∀ m ∈ msgs, ¬m.SetsSession) ∧
        msgs.Pairwise fun m m' => m'.SetsSession → m.SetsSession ∨ m.body = [] := by
  induction msgs generalizing offset buffer with
  | nil => simp [transcript]
  | cons m msgs ih =>
      have calls : (transcript ((m :: msgs).map Message.toFrame) offset buffer).filter isCall =
          answer m.id.toNat (buffer ++ m.body) ++ (transcript (msgs.map Message.toFrame)
            (offset + m.toFrame.size) (leftover m.id.toNat (buffer ++ m.body))).filter isCall := by
        rw [List.map_cons, transcript, Message.frameNumber_toFrame]
        simp only [List.cons_append, List.filter_cons, isCall, Bool.false_eq_true, ↓reduceIte,
          List.filter_append, answer_isCall]
        rfl
      rw [calls, List.flatMap_cons, List.pairwise_cons]
      by_cases sets : m.SetsSession
      · obtain ⟨call, injective, asked, made, emptied⟩ := answer_sets sets (buffer ++ m.body)
        rw [made, emptied, asked, List.singleton_append, List.singleton_append, List.cons.injEq,
          injective.eq_iff, List.append_left_eq_self, ih]
        simp [sets]
      · obtain ⟨same, kept⟩ := answer_other sets (buffer ++ m.body)
        rw [same, kept, List.append_cancel_left_eq, ih]
        simp only [List.append_eq_nil_iff, List.mem_cons, forall_eq_or_imp, sets, not_false_eq_true,
          true_and, false_or]
        constructor
        · rintro ⟨⟨empty, silent⟩ | none, rest⟩
          · exact ⟨.inl empty, fun _ _ _ => silent, rest⟩
          · exact ⟨.inr none, fun m' later sets' => absurd sets' (none m' later), rest⟩
        · rintro ⟨left, silent, rest⟩
          refine ⟨?_, rest⟩
          by_cases none : ∀ m' ∈ msgs, ¬m'.SetsSession
          · exact .inr none
          · push Not at none
            obtain ⟨m', later, sets'⟩ := none
            exact .inl ⟨left.resolve_right fun none => none m' later sets', silent m' later sets'⟩

theorem finishes_messages (msgs : List Message) (uninitialised : Vector UInt8 4) :
    let c := (connect (msgs.flatMap Message.bytes) uninitialised).start
    ∃ d, c.Finishes d ∧ d.log = c.log ++ transcript (msgs.map Message.toFrame) 0 [] := by
  intro c
  have whole : c.fromDmPipe = (msgs.map Message.toFrame).flatMap Framing.Frame.bytes ++ [] := by
    rw [List.append_nil, List.flatMap_map]
    rfl
  obtain ⟨d, finishes, log⟩ := finishes_stream rfl whole (by decide)
  rw [if_neg (by simp), List.append_nil] at log
  exact ⟨d, finishes, log⟩

/-- A list of messages makes its calls exactly if no message that sets a session comes after one with
a body that does not. -/
theorem roundTrips_iff (msgs : List Message) (uninitialised : Vector UInt8 4) :
    RoundTrips msgs uninitialised ↔
      msgs.Pairwise fun m m' => m'.SetsSession → m.SetsSession ∨ m.body = [] := by
  obtain ⟨d, finishes, log⟩ := finishes_messages msgs uninitialised
  have calls := transcript_calls msgs 0 []
  constructor
  · rintro ⟨e, later, finishes', log', same⟩
    obtain rfl := finishes.unique finishes'
    rw [log, List.append_cancel_left_eq] at log'
    rw [← log'] at same
    exact (calls.mp same).2
  · intro ordered
    exact ⟨d, _, finishes, log, calls.mpr ⟨.inl rfl, ordered⟩⟩

theorem roundTrips_fails : ¬RoundTrips [⟨9, [120], by decide⟩, ⟨4, [97], by decide⟩] (.replicate 4 0) := by
  rintro ⟨e, later, finishes, log, same⟩
  obtain ⟨d, finishes', log'⟩ := finishes_messages [⟨9, [120], by decide⟩, ⟨4, [97], by decide⟩] (.replicate 4 0)
  obtain rfl := finishes'.unique finishes
  rw [log', List.append_cancel_left_eq] at log
  rw [← log] at same
  revert same
  decide

end AsioDMConnection
end SystemCompositor
