import SystemCompositor.SessionSwitcher.World

namespace SystemCompositor
open Std

/-- `x` is the last session added under its name, and `later` is what happened since. -/
def LastAdded (ops : List Op) (x : Session) (later : List Op) : Prop :=
  ∃ past pid spinnerPid, ops = past ++ .add x pid spinnerPid :: later ∧
    ∀ y p q, Op.add y p q ∈ later → y.name ≠ x.name

def Holds (ops : List Op) (name : Name) (info : SessionInfo) : Prop :=
  ∃ x later, LastAdded ops x later ∧ x.name = name ∧ .remove x.sceneSession ∉ later ∧
    info = { session := x, ready := decide (.markReady x.sceneSession.address ∈ later) }

theorem lastAdded_concat {ops later : List Op} {op : Op} {x : Session} :
    LastAdded (ops ++ [op]) x later ↔
      (later = [] ∧ ∃ pid spinnerPid, op = .add x pid spinnerPid) ∨
      (∃ before, later = before ++ [op] ∧ LastAdded ops x before ∧
        ∀ y p q, op = .add y p q → y.name ≠ x.name) := by
  constructor
  · rintro ⟨past, pid, spinnerPid, split, unnamed⟩
    rcases List.eq_nil_or_concat later with rfl | ⟨before, last, rfl⟩
    · obtain ⟨-, rfl⟩ := List.append_inj' split rfl |>.imp id List.singleton_inj.mp
      exact .inl ⟨rfl, pid, spinnerPid, rfl⟩
    · rw [List.concat_eq_append] at split unnamed ⊢
      rw [← List.cons_append, ← List.append_assoc] at split
      obtain ⟨rfl, same⟩ := List.append_inj' split rfl
      obtain rfl := List.singleton_inj.mp same
      refine .inr ⟨before, rfl, ⟨past, pid, spinnerPid, rfl, ?_⟩, ?_⟩
      · exact fun y p q member => unnamed y p q (List.mem_append_left _ member)
      · exact fun y p q added => unnamed y p q (by simp [added])
  · rintro (⟨rfl, pid, spinnerPid, rfl⟩ | ⟨before, rfl, ⟨past, pid, spinnerPid, rfl, unnamed⟩, other⟩)
    · exact ⟨ops, pid, spinnerPid, rfl, by simp⟩
    · refine ⟨past, pid, spinnerPid, by simp, fun y p q member => ?_⟩
      rcases List.mem_append.mp member with earlier | last
      · exact unnamed y p q earlier
      · exact other y p q (List.mem_singleton.mp last).symm

theorem holds_concat_add {ops : List Op} {x : Session} {pid spinnerPid : Int} {info : SessionInfo} :
    Holds (ops ++ [.add x pid spinnerPid]) x.name info ↔ info = { session := x } := by
  constructor
  · rintro ⟨y, later, last, named, -, rfl⟩
    rcases lastAdded_concat.mp last with ⟨rfl, p, q, same⟩ | ⟨before, rfl, -, other⟩
    · obtain ⟨rfl, -, -⟩ := Op.add.inj same
      simp
    · exact absurd named.symm (other x pid spinnerPid rfl)
  · rintro rfl
    exact ⟨x, [], lastAdded_concat.mpr (.inl ⟨rfl, pid, spinnerPid, rfl⟩), rfl, by simp, by simp⟩

theorem holds_concat_other {ops : List Op} {op : Op} {name : Name}
    (other : ∀ y p q, op = .add y p q → y.name ≠ name) {info : SessionInfo} :
    Holds (ops ++ [op]) name info ↔ ∃ old x, Holds ops name old ∧ old.session = some x ∧
      op ≠ .remove x.sceneSession ∧
      info = { old with ready := old.ready || decide (op = .markReady x.sceneSession.address) } := by
  constructor
  · rintro ⟨x, later, last, rfl, kept, rfl⟩
    rcases lastAdded_concat.mp last with ⟨-, p, q, rfl⟩ | ⟨before, rfl, last, -⟩
    · exact absurd rfl (other x p q rfl)
    · simp only [List.mem_append, List.mem_singleton, not_or] at kept
      refine ⟨_, x, ⟨x, before, last, rfl, kept.1, rfl⟩, rfl, Ne.symm kept.2, ?_⟩
      simp [eq_comm]
  · rintro ⟨old, x, ⟨y, before, last, named, kept, rfl⟩, held, notRemoved, rfl⟩
    obtain rfl : y = x := Option.some.inj held
    refine ⟨y, before ++ [op], lastAdded_concat.mpr (.inr ⟨before, rfl, last, ?_⟩), named, ?_, ?_⟩
    · rw [named]
      exact other
    · simp [kept, Ne.symm notRemoved]
    · simp [eq_comm]

namespace SessionSwitcher

theorem outcome_entry {s : SessionSwitcher} (wf : s.WellFormed) (op : Op) (name : Name) :
    (s.outcome op).1.sessions[name]? = match op with
      | .add x _ _ => if x.name = name then some { session := x } else s.sessions[name]?
      | .remove session =>
          if s.tracked name |>.any (fun x => x.sceneSession = session) then none else s.sessions[name]?
      | .markReady scene => s.sessions[name]?.map (markEntry scene)
      | .setActiveSession _ | .setNextSession _ | .activeOutputs _ => s.sessions[name]? := by
  cases op with
  | add x pid spinnerPid => simp [outcome, record, TreeMap.getElem?_insert]
  | markReady scene => simp [outcome, record, TreeMap.getElem?_map]
  | setActiveSession _ | setNextSession _ | activeOutputs _ => simp [outcome, record]
  | remove session =>
      have named {x : Session} (stored : s.tracked name = some x) (own : x.sceneSession = session) :
          session.name = name := by
        rw [← own]
        exact wf.tracked_name stored
      cases recorded : s.record (.remove session) with
      | none =>
          have kept : (s.tracked name).any (fun x => x.sceneSession = session) = false := by
            rw [Option.any_eq_false]
            intro x stored
            rw [decide_eq_false_iff_not]
            intro own
            rw [← named stored own] at stored
            have corresponds : x.correspondsTo session.address = true := by simp [Session.correspondsTo, own]
            simp [record, stored, corresponds] at recorded
          simp [outcome, recorded, kept]
      | some result =>
          obtain ⟨t, before⟩ := result
          obtain ⟨x, stored, corresponds, rfl, -⟩ := record_remove recorded
          by_cases same : session.name = name
          · -- The object is identified by its address, its name is the key.
            subst same
            have own : x.sceneSession = session := by
              obtain ⟨address, sceneAddress, sceneName⟩ := x
              obtain rfl : sceneName = session.name := wf.tracked_name stored
              obtain rfl : sceneAddress = session.address := by simpa [Session.correspondsTo] using corresponds
              rfl
            simp [outcome, recorded, stored, own]
          · have kept : (s.tracked name).any (fun x => x.sceneSession = session) = false := by
              rw [Option.any_eq_false]
              intro y stored'
              rw [decide_eq_false_iff_not]
              exact fun own => same (named stored' own)
            simp [outcome, recorded, kept, TreeMap.getElem?_erase, same]

theorem outcome_spinnerName (s : SessionSwitcher) (op : Op)
    (known : s.spinnerName = [] ∨ s.spinnerName ∈ s.sessions) :
    (s.outcome op).1.spinnerName = [] ∨ (s.outcome op).1.spinnerName ∈ (s.outcome op).1.sessions := by
  cases op with
  | add x pid spinnerPid =>
      by_cases own : pid = spinnerPid
      · simp [outcome, record, own]
      · rcases known with unset | stored
        · simp [outcome, record, own, unset]
        · simp [outcome, record, own, stored]
  | markReady scene => simpa [outcome, record] using known
  | setActiveSession _ | setNextSession _ | activeOutputs _ => simpa [outcome, record] using known
  | remove session =>
      cases recorded : s.record (.remove session) with
      | none => simpa [outcome, recorded] using known
      | some result =>
          obtain ⟨t, before⟩ := result
          obtain ⟨x, -, -, rfl, -⟩ := record_remove recorded
          by_cases own : session.name = s.spinnerName
          · simp [outcome, recorded, own]
          · rcases known with unset | stored
            · simp [outcome, recorded, unset]
            · simp [outcome, recorded, own, stored]

end SessionSwitcher

namespace World

theorem holds_step {past : List Op} {m : World} (wf : m.switcher.WellFormed)
    (law : ∀ name info, m.switcher.sessions[name]? = some info ↔ Holds past name info)
    (op : Op) (name : Name) (info : SessionInfo) :
    (m.after op).switcher.sessions[name]? = some info ↔ Holds (past ++ [op]) name info := by
  have entry := SessionSwitcher.outcome_entry wf op name
  change (m.after op).switcher.sessions[name]? = _ at entry
  rw [entry]
  by_cases added : ∃ x pid spinnerPid, op = .add x pid spinnerPid ∧ x.name = name
  · obtain ⟨x, pid, spinnerPid, rfl, rfl⟩ := added
    simp [holds_concat_add, eq_comm]
  · have other (y : Session) (p q : Int) (same : op = .add y p q) : y.name ≠ name :=
      fun named => added ⟨y, p, q, same, named⟩
    simp only [holds_concat_other other, ← law]
    cases found : m.switcher.sessions[name]? with
    | none =>
        cases op with
        | add x pid spinnerPid => simp [other x pid spinnerPid rfl]
        | _ => simp
    | some old =>
        obtain ⟨x, held, stored⟩ := wf.found found
        obtain ⟨session, ready⟩ := old
        obtain rfl : session = some x := held
        simp only [Option.some.injEq, stored]
        cases op with
        | add y pid spinnerPid => simp [other y pid spinnerPid rfl, eq_comm]
        | setActiveSession _ | setNextSession _ | activeOutputs _ => simp [eq_comm]
        | remove session =>
            by_cases own : x.sceneSession = session
            · simp [own]
            · simp [Ne.symm own, eq_comm]
        | markReady scene =>
            by_cases own : x.sceneSession.address = scene
            · have marked : SessionSwitcher.markEntry scene ⟨some x, ready⟩ = ⟨some x, true⟩ := by
                simp [SessionSwitcher.markEntry, Session.correspondsTo, own]
              simp [marked, own, eq_comm]
            · have same : SessionSwitcher.markEntry scene ⟨some x, ready⟩ = ⟨some x, ready⟩ := by
                simp [SessionSwitcher.markEntry, Session.correspondsTo, own]
              simp [same, Ne.symm own, eq_comm]

/-- An operation changes an entry only by adding a session under its name, or as it concerns the very
session that the entry holds. -/
theorem entry_changes {w : World} (wf : w.switcher.WellFormed) (op : Op) (name : Name)
    (changed : (w.after op).switcher.sessions[name]? ≠ w.switcher.sessions[name]?) :
    (∃ x pid spinnerPid, op = .add x pid spinnerPid ∧ x.name = name) ∨
    ∃ x, w.switcher.tracked name = some x ∧
      (op = .remove x.sceneSession ∨ op = .markReady x.sceneSession.address) := by
  have entry := SessionSwitcher.outcome_entry wf op name
  change (w.after op).switcher.sessions[name]? = _ at entry
  rw [entry] at changed
  cases op with
  | add x pid spinnerPid =>
      by_cases named : x.name = name
      · exact .inl ⟨x, pid, spinnerPid, rfl, named⟩
      · simp [named] at changed
  | setActiveSession _ | setNextSession _ | activeOutputs _ => simp at changed
  | remove session =>
      cases stored : w.switcher.tracked name with
      | none => simp [stored] at changed
      | some x =>
          by_cases own : x.sceneSession = session
          · exact .inr ⟨x, rfl, .inl (by rw [own])⟩
          · simp [stored, own] at changed
  | markReady scene =>
      cases found : w.switcher.sessions[name]? with
      | none => simp [found] at changed
      | some info =>
          obtain ⟨x, held, stored⟩ := wf.found found
          by_cases own : x.sceneSession.address = scene
          · exact .inr ⟨x, stored, .inr (by rw [own])⟩
          · simp [found, SessionSwitcher.markEntry, held, Session.correspondsTo, own] at changed

/-- The table holds what the history says, and no operation dereferences a null session. -/
theorem session_table (ops : List Op) :
    ∃ w, World.run {} ops = .ok w ∧
      (∀ name info, w.switcher.sessions[name]? = some info ↔ Holds ops name info) ∧
      (w.switcher.spinnerName = [] ∨ w.switcher.spinnerName ∈ w.switcher.sessions) ∧
      ∀ op, ∃ v calls, w.operate op = .ok (v, calls) ∧ ∀ name,
        v.switcher.sessions[name]? ≠ w.switcher.sessions[name]? →
          (∃ x pid spinnerPid, op = .add x pid spinnerPid ∧ x.name = name) ∨
          ∃ x, w.switcher.tracked name = some x ∧
            (op = .remove x.sceneSession ∨ op = .markReady x.sceneSession.address) := by
  obtain ⟨w, ran⟩ := run_total initial_wellFormed ops
  have reached := run_iff.mp ran
  have wf := run_wellFormed initial_wellFormed reached
  refine ⟨w, ran, ?_, ?_, fun op => ⟨_, _, operate_eq wf op, entry_changes wf op⟩⟩
  · refine induct (fun ops w => ∀ name info, w.switcher.sessions[name]? = some info ↔ Holds ops name info)
      initial_wellFormed ?_ ?_ reached
    · intro name info
      simp [Holds, LastAdded]
    · intro past m op _ wf law name info
      exact holds_step wf law op name info
  · refine induct (fun _ w => w.switcher.spinnerName = [] ∨ w.switcher.spinnerName ∈ w.switcher.sessions)
      initial_wellFormed (.inl rfl) ?_ reached
    intro past m op _ _ known
    exact m.switcher.outcome_spinnerName op known

end World
end SystemCompositor
