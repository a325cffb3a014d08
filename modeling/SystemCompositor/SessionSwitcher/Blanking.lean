import SystemCompositor.SessionSwitcher.Display

namespace SystemCompositor
open Std

namespace SessionSwitcher

def flags (s : SessionSwitcher) (booting outputs : Bool) : SessionSwitcher :=
  { s with booting := booting, hasActiveOutputs := outputs }

@[simp] theorem settle_flags (s : SessionSwitcher) (booting outputs : Bool) :
    s.settle.flags booting outputs = s.flags booting outputs := by
  unfold settle
  split_ifs <;> rfl

theorem flags_settle_off (s : SessionSwitcher) (booting : Bool) :
    (s.flags booting false).settle = s.flags booting false := rfl

theorem record_flags (s : SessionSwitcher) {op : Op} (quiet : ∀ outputs, op ≠ .activeOutputs outputs)
    (booting outputs : Bool) :
    (s.flags booting outputs).record op =
      (s.record op).map fun result => (result.1.flags booting outputs, result.2) := by
  cases op with
  | activeOutputs changed => exact absurd rfl (quiet changed)
  | remove session =>
      have same : (s.flags booting outputs).tracked session.name = s.tracked session.name := rfl
      simp only [record, same]
      cases s.tracked session.name with
      | none => rfl
      | some x =>
          cases corresponds : x.correspondsTo session.address with
          | true => simp only [corresponds, ↓reduceIte]; rfl
          | false => simp [corresponds]
  | _ => rfl

theorem record_hasActiveOutputs {s t : SessionSwitcher} {op : Op} {before : List Call}
    (quiet : ∀ outputs, op ≠ .activeOutputs outputs) (recorded : s.record op = some (t, before)) :
    t.hasActiveOutputs = s.hasActiveOutputs := by
  cases op with
  | activeOutputs changed => exact absurd rfl (quiet changed)
  | remove session =>
      obtain ⟨x, -, -, rfl, -⟩ := record_remove recorded
      rfl
  | _ =>
      obtain ⟨rfl, -⟩ := Prod.mk.inj (Option.some.inj recorded)
      rfl

theorem displays_settle (s : SessionSwitcher) (x : Session) (before : Bool) :
    s.settle.displays x before = s.displays x before := by
  simp [displays, uninteresting]

theorem displays_idem (s : SessionSwitcher) (x : Session) (before : Bool) :
    s.displays x (s.displays x before) = s.displays x before := by
  unfold displays
  split_ifs <;> rfl

end SessionSwitcher

namespace World

theorem displays_visible {ops : List Op} {w : World} (reached : Library.Run Step {} ops w) {x : Session}
    (tracks : w.switcher.Tracks x) :
    w.switcher.displays x (w.scene.visible x) = w.scene.visible x := by
  refine induct (fun _ w => ∀ x, w.switcher.Tracks x →
    w.switcher.displays x (w.scene.visible x) = w.scene.visible x) initial_wellFormed ?_ ?_ reached x tracks
  · intro x tracks
    simp [SessionSwitcher.Tracks, SessionSwitcher.tracked] at tracks
  · intro past m op _ wf inv x tracks
    cases recorded : m.switcher.record op with
    | none =>
        rw [after_of_none recorded] at tracks ⊢
        exact inv x tracks
    | some result =>
        obtain ⟨t, calls⟩ := result
        rw [after_switcher recorded] at tracks ⊢
        rw [after_visible wf recorded, if_pos ((t.settle_tracks x).mp tracks),
          SessionSwitcher.displays_settle, SessionSwitcher.displays_idem]

/-- `v` is `w` as it would be had the outputs been off since `booting`: the same table and names,
nothing tracked on screen, and the boot latch as it was then. -/
structure Blanked (booting : Bool) (w v : World) : Prop where
  wellFormed : w.switcher.WellFormed
  outputs : w.switcher.hasActiveOutputs = true
  latch : w.switcher.booting = true → booting = true
  switcher : v.switcher = w.switcher.flags booting false
  hidden : ∀ x, w.switcher.Tracks x → v.scene.visible x = false

theorem Blanked.wellFormed' {booting : Bool} {w v : World} (blanked : Blanked booting w v) :
    v.switcher.WellFormed := by
  rw [blanked.switcher]
  exact blanked.wellFormed

theorem blank {w : World} (wf : w.switcher.WellFormed) (outputs : w.switcher.hasActiveOutputs = true) :
    Blanked w.switcher.booting w (w.after (.activeOutputs ⟨0, 0⟩)) where
  wellFormed := wf
  outputs := outputs
  latch := id
  switcher := rfl
  hidden x tracks := by
    have recorded : w.switcher.record (.activeOutputs ⟨0, 0⟩) =
        some (w.switcher.flags w.switcher.booting false, []) := rfl
    have tracks' : (w.switcher.flags w.switcher.booting false).Tracks x := tracks
    rw [after_visible wf recorded, if_pos tracks']
    rfl

theorem Blanked.step {booting : Bool} {w v : World} (blanked : Blanked booting w v) {op : Op}
    (quiet : ∀ outputs, op ≠ .activeOutputs outputs) : Blanked booting (w.after op) (v.after op) := by
  have wf' := blanked.wellFormed'
  have recordedOff := w.switcher.record_flags quiet booting false
  rw [← blanked.switcher] at recordedOff
  cases recorded : w.switcher.record op with
  | none =>
      rw [recorded] at recordedOff
      rwa [after_of_none recorded, after_of_none recordedOff]
  | some result =>
      obtain ⟨t, calls⟩ := result
      rw [recorded] at recordedOff
      have on := (SessionSwitcher.record_hasActiveOutputs quiet recorded).trans blanked.outputs
      constructor
      · exact blanked.wellFormed.outcome op
      · rw [after_switcher recorded, SessionSwitcher.settle_hasActiveOutputs, on]
      · rw [after_switcher recorded, SessionSwitcher.settle_booting,
          SessionSwitcher.record_booting recorded, Bool.and_eq_true]
        exact fun still => blanked.latch still.1
      · rw [after_switcher recorded, after_switcher recordedOff, SessionSwitcher.flags_settle_off,
          SessionSwitcher.settle_flags]
      · intro x tracks
        rw [after_switcher recorded, SessionSwitcher.settle_tracks] at tracks
        have tracks' : (t.flags booting false).Tracks x := tracks
        rw [after_visible wf' recordedOff, if_pos tracks']
        rfl

theorem Blanked.run {booting : Bool} {w v d : World} {ops : List Op}
    (quiet : ∀ op ∈ ops, ∀ outputs, op ≠ .activeOutputs outputs) (blanked : Blanked booting w v)
    (direct : Library.Run Step w ops d) : ∃ e, Library.Run Step v ops e ∧ Blanked booting d e := by
  refine Library.Run.simulation (Blanked booting) ?_ blanked direct
  intro op member w v d related step
  obtain rfl := (step_iff related.wellFormed).mp step
  exact ⟨v.after op, (step_iff related.wellFormed').mpr rfl, related.step (quiet op member)⟩

end World
end SystemCompositor
