import SystemCompositor.DBusEventLoop.Watches

namespace SystemCompositor
namespace WatchTable

def Live (t : WatchTable) (w : Nat) : Prop := w ∈ t.watches ∧ (t.watch w).enabled = true

instance (t : WatchTable) (w : Nat) : Decidable (t.Live w) := inferInstanceAs (Decidable (_ ∧ _))

def setsEnabled (w : Nat) : WatchCallback → Option Bool
  | .toggle v enabled _ => if v = w then some enabled else none
  | .add _ _ | .remove _ _ => none

def removes (w : Nat) : WatchCallback → Bool
  | .remove v _ => v = w
  | .add _ _ | .toggle _ _ _ => false

/-- No callback removes `w`, and the last to change whether it is enabled does not disable it. -/
def Spares (w : Nat) (word : List WatchCallback) : Prop :=
  (∀ c ∈ word, removes w c = false) ∧ (word.filterMap (setsEnabled w)).getLast? ≠ some false

theorem next_callback (t : WatchTable) (c : WatchCallback) : t.next ≤ (t.callback c).next := by
  cases c with
  | add watch ctl =>
      rw [callback, (addWatch_cases ..).2.2]
      exact Nat.le_succ _
  | remove w ctl => exact (removeWatch_fields ..).2.2.ge
  | toggle w enabled ctl =>
      rw [callback, toggleWatch, updateEventsForWatchFd_next]
      rfl

theorem mem_callback {t : WatchTable} {w : Nat} (made : w < t.next) (c : WatchCallback) :
    w ∈ (t.callback c).watches ↔ w ∈ t.watches ∧ removes w c = false := by
  cases c with
  | add watch ctl =>
      have old : w ≠ t.next := Nat.ne_of_lt made
      have same : (t.make watch).watches = t.watches := rfl
      rw [callback]
      rcases (addWatch_cases (t.make watch) ctl t.next (t.next_lt_make watch)).1 with pushed | refused
      · simp [pushed, same, removes, old]
      · simp [refused, same, removes]
  | remove v ctl =>
      rw [callback, (removeWatch_fields ..).1]
      simp [removes, @eq_comm _ w v]
  | toggle v enabled ctl => simp [callback, toggleWatch, setEnabled, removes]

theorem enabled_callback {t : WatchTable} {w : Nat} (made : w < t.next) (c : WatchCallback) :
    ((t.callback c).watch w).enabled = (setsEnabled w c).getD (t.watch w).enabled := by
  cases c with
  | add watch ctl =>
      rw [callback, (addWatch_cases ..).2.1]
      simp [make, setsEnabled, Function.update_of_ne (Nat.ne_of_lt made)]
  | remove v ctl =>
      rw [callback, (removeWatch_fields ..).2.1]
      rfl
  | toggle v enabled ctl =>
      by_cases same : v = w
      · simp [callback, toggleWatch, setEnabled, setsEnabled, same]
      · simp [callback, toggleWatch, setEnabled, setsEnabled, same, Function.update_of_ne (Ne.symm same)]

theorem mem_callbacks {t : WatchTable} {w : Nat} (made : w < t.next) (word : List WatchCallback) :
    w ∈ (word.foldl callback t).watches ↔ w ∈ t.watches ∧ ∀ c ∈ word, removes w c = false := by
  induction word generalizing t with
  | nil => simp
  | cons c word ih =>
      rw [List.foldl_cons, ih (made.trans_le (next_callback t c)), mem_callback made]
      simp [and_assoc]

theorem live_callbacks {t : WatchTable} {w : Nat} (live : t.Live w) (word : List WatchCallback) :
    (word.foldl callback t).Live w ↔ Spares w word := by
  have made := t.made w live.1
  -- A removed watch does not come back, but a disabled one may be enabled again.
  have enabled := Library.foldl_last_write (fun t : WatchTable => (t.watch w).enabled) (setsEnabled w)
    (fun t => w < t.next) word (fun t c _ made => made.trans_le (next_callback t c))
    (fun t c _ made => enabled_callback made c) made
  rw [Live, mem_callbacks made, enabled, live.2, Spares]
  cases (word.filterMap (setsEnabled w)).getLast? <;> simp [live.1]

theorem handleWatches_eq (t : WatchTable) (flags : WatchFlags) (snapshot : List Nat)
    (during : Nat → List WatchCallback) : t.handleWatches flags snapshot during =
      snapshot.mapIdx fun i w => (w, flags, ((List.range i).flatMap during).foldl callback t) := by
  induction snapshot generalizing t during with
  | nil => rfl
  | cons w rest ih =>
      rw [handleWatches, ih, List.mapIdx_cons]
      simp [List.range_succ_eq_map, List.flatMap_map, List.foldl_append]

/-- Every watch that is handled is live at that time exactly if the callbacks made while those before it
are handled spare it. -/
theorem handlesLive_iff (t : WatchTable) (fd : Int) (events : EpollEvents) (during : Nat → List WatchCallback) :
    (∀ call ∈ t.handleEvent fd events during, call.2.2.Live call.1) ↔
      ∀ i w, (t.enabledWatchesFor fd)[i]? = some w → Spares w ((List.range i).flatMap during) := by
  have live {w : Nat} (member : w ∈ t.enabledWatchesFor fd) : t.Live w := by
    obtain ⟨registered, enabled⟩ := List.mem_filter.mp member
    exact ⟨registered, (Bool.and_eq_true _ _ ▸ enabled).2⟩
  rw [handleEvent, handleWatches_eq]
  constructor
  · intro handled i w found
    obtain ⟨bound, rfl⟩ := List.getElem?_eq_some_iff.mp found
    exact (live_callbacks (live (List.getElem_mem bound)) _).mp
      (handled _ (List.mem_mapIdx.mpr ⟨i, bound, rfl⟩))
  · intro spared call member
    obtain ⟨i, bound, rfl⟩ := List.mem_mapIdx.mp member
    exact (live_callbacks (live (List.getElem_mem bound)) _).mpr
      (spared i _ (List.getElem?_eq_getElem bound))

/-- A connection with a message still to be sent has two watches on its descriptor. -/
def readAndWrite : WatchTable where
  watches := [0, 1]
  watch
    | 0 => ⟨5, { readable := true }, true⟩
    | _ => ⟨5, { writable := true }, true⟩
  next := 2
  epoll := Function.update (fun _ => none) 5 (some ⟨true, true, true, true⟩)
  made := by decide

/-- The peer hangs up: handling the first watch removes both. -/
def hangUp (i : Nat) : List WatchCallback := if i = 0 then [.remove 0 {}, .remove 1 {}] else []

theorem handlesLive_fails : readAndWrite.Live 0 ∧ readAndWrite.Live 1 ∧
    readAndWrite.epoll 5 = some (readAndWrite.epollEventsForWatchFd 5) ∧
    ¬∀ call ∈ readAndWrite.handleEvent 5 ⟨true, false, true, false⟩ hangUp, call.2.2.Live call.1 := by
  refine ⟨by decide, by decide, by decide, by decide⟩

end WatchTable
end SystemCompositor
