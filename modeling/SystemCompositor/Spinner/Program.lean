import Mathlib.Data.Rat.Defs
import SystemCompositor.Spinner.Options

namespace SystemCompositor
open Library

/-- `currentMode` is the width and the height of the mode. -/
structure MirOutput where
  id : BitVec 32
  enabled : Bool
  connected : Bool
  modes : Nat
  currentMode : Option (BitVec 32 × BitVec 32)

structure MirWindowParameters where
  width : BitVec 32
  height : BitVec 32
  outputId : BitVec 32
deriving DecidableEq

structure MirEglSurface where
  parameters : MirWindowParameters
  swapinterval : Nat
deriving DecidableEq

/-- `(size_t) id == output_id`, where `size_t` has 64 bits: no negative id is meant. -/
def isOutput (id outputId : BitVec 32) : Bool := id.signExtend 64 = outputId.setWidth 64

/-- The server as the spinner meets it: whether it can be connected to, whether EGL comes up on it, its outputs,
and whether a window can be made on it. -/
structure MirServer where
  connects : Option Name → Bool
  eglApp : Bool
  outputs : List MirOutput
  creates : MirWindowParameters → Bool

/-- What `mir_eglapp_init` and the painting throw. -/
inductive EglAppError
  | connection
  | eglApp
  | surface
  | noActiveOutputs
  | makeCurrent
deriving DecidableEq

namespace MirServer

/-- The outputs that `for_each_active_output` hands over, with their current modes. -/
def activeOutputs (server : MirServer) : List (BitVec 32 × BitVec 32 × BitVec 32) :=
  server.outputs.filterMap fun output =>
    if output.enabled && output.connected && output.modes ≠ 0 then output.currentMode.map (output.id, ·) else none

def makeSurface (server : MirServer) (surfaceparm : MirWindowParameters) (swapinterval : Nat) :
    Except EglAppError MirEglSurface :=
  if server.creates surfaceparm then .ok ⟨surfaceparm, swapinterval⟩ else .error .surface

end MirServer

section
variable {φ : Type} (scanf : Scanf φ) (server : MirServer)

def addSurface (swapinterval : Nat) (result : List MirEglSurface) (output : BitVec 32 × BitVec 32 × BitVec 32) :
    Except EglAppError (List MirEglSurface) :=
  let (outputId, width, height) := output
  (server.makeSurface ⟨width, height, outputId⟩ swapinterval).map fun surface => result ++ [surface]

/-- `mir_eglapp_init` once its arguments are read. -/
def makeSurfaces (options : EglOptions φ) : Except EglAppError (List MirEglSurface) :=
  let surfaceparm : MirWindowParameters := ⟨options.width, options.height, options.outputId⟩
  if server.connects options.mirSocket = false then .error .connection
  else if server.eglApp = false then .error .eglApp
  else if surfaceparm.width ≠ 0 ∧ surfaceparm.height ≠ 0 then
    (server.makeSurface surfaceparm options.swapinterval).map ([·])
  else if surfaceparm.outputId ≠ 0 then
    let surfaceparm := server.activeOutputs.foldl (fun surfaceparm (id, width, height) =>
      if isOutput id surfaceparm.outputId then { surfaceparm with width, height } else surfaceparm) surfaceparm
    (server.makeSurface surfaceparm options.swapinterval).map ([·])
  else
    match server.activeOutputs.foldlM (addSurface server options.swapinterval) [] with
    | .error e => .error e
    | .ok [] => .error .noActiveOutputs
    | .ok result => .ok result

/-- No surfaces are made when the usage is shown. -/
def mirEglappInit (backgroundOpacity : φ) (args : List Name) : Except EglAppError (List MirEglSurface) :=
  match EglOptions.parse scanf { backgroundOpacity } args with
  | none => .ok []
  | some options => makeSurfaces server options

end

/-- The windows that the options ask for. -/
def windows {φ : Type} (options : EglOptions φ) (active : List (BitVec 32 × BitVec 32 × BitVec 32)) :
    List MirWindowParameters :=
  if options.width ≠ 0 ∧ options.height ≠ 0 then [⟨options.width, options.height, options.outputId⟩]
  else if options.outputId ≠ 0 then
    let mode :=
      (lastOf (fun output => if isOutput output.1 options.outputId then some output.2 else none) active).getD
        (options.width, options.height)
    [⟨mode.1, mode.2, options.outputId⟩]
  else active.map fun (outputId, width, height) => ⟨width, height, outputId⟩

theorem makeSurface_iff {server : MirServer} {surfaceparm : MirWindowParameters} {swapinterval : Nat}
    {surfaces : List MirEglSurface} : (server.makeSurface surfaceparm swapinterval).map ([·]) = .ok surfaces ↔
      server.creates surfaceparm = true ∧ surfaces = [⟨surfaceparm, swapinterval⟩] := by
  unfold MirServer.makeSurface
  split_ifs with created <;> simp [created, Except.map, eq_comm]

theorem foldl_mode (id : BitVec 32) (active : List (BitVec 32 × BitVec 32 × BitVec 32)) (width height : BitVec 32) :
    active.foldl (fun (surfaceparm : MirWindowParameters) (other, width, height) =>
        if isOutput other surfaceparm.outputId then { surfaceparm with width, height } else surfaceparm)
        ⟨width, height, id⟩ =
      let mode := (lastOf (fun output => if isOutput output.1 id then some output.2 else none) active).getD
        (width, height)
      ⟨mode.1, mode.2, id⟩ := by
  induction active using List.reverseRecOn with
  | nil => rfl
  | append_singleton active output ih =>
      rw [List.foldl_append, ih, lastOf_concat]
      cases same : isOutput output.1 id <;> simp [same]

theorem foldlM_addSurface (server : MirServer) (swapinterval : Nat)
    (active : List (BitVec 32 × BitVec 32 × BitVec 32)) (before surfaces : List MirEglSurface) :
    active.foldlM (addSurface server swapinterval) before = .ok surfaces ↔
      (∀ output ∈ active, server.creates ⟨output.2.1, output.2.2, output.1⟩ = true) ∧
        surfaces = before ++ active.map fun output => ⟨⟨output.2.1, output.2.2, output.1⟩, swapinterval⟩ := by
  induction active generalizing before with
  | nil =>
      simp only [List.foldlM_nil, pure, Except.pure, Except.ok.injEq, List.not_mem_nil, false_imp_iff, implies_true,
        List.map_nil, List.append_nil, true_and]
      exact eq_comm
  | cons output active ih =>
      rw [List.foldlM_cons, addSurface]
      cases created : server.creates ⟨output.2.1, output.2.2, output.1⟩ with
      | false => simp [MirServer.makeSurface, created, Except.map, bind, Except.bind]
      | true =>
          simp only [MirServer.makeSurface, created, if_true, Except.map, bind, Except.bind, ih]
          simp [created]

theorem makeSurfaces_iff {φ : Type} (server : MirServer) (options : EglOptions φ) (surfaces : List MirEglSurface) :
    makeSurfaces server options = .ok surfaces ↔
      server.connects options.mirSocket = true ∧ server.eglApp = true ∧
        windows options server.activeOutputs ≠ [] ∧
        (∀ window ∈ windows options server.activeOutputs, server.creates window = true) ∧
        surfaces = (windows options server.activeOutputs).map (⟨·, options.swapinterval⟩) := by
  unfold makeSurfaces windows
  by_cases connects : server.connects options.mirSocket = true
  swap
  · simp [connects]
  by_cases egl : server.eglApp = true
  swap
  · simp [connects, egl]
  simp only [connects, egl, Bool.true_eq_false, if_false, true_and]
  split_ifs with sized forced
  · rw [makeSurface_iff]
    simp
  · rw [foldl_mode, makeSurface_iff]
    simp
  · have loop := foldlM_addSurface server options.swapinterval server.activeOutputs []
    cases made : server.activeOutputs.foldlM (addSurface server options.swapinterval) [] with
    | error e =>
        refine iff_of_false (by simp) ?_
        rintro ⟨-, created, rfl⟩
        have all := (loop _).mpr ⟨fun output member => created _ (List.mem_map_of_mem member), rfl⟩
        rw [made] at all
        cases all
    | ok result =>
        obtain ⟨created, rfl⟩ := (loop result).mp made
        have windowsCreated : ∀ window ∈ server.activeOutputs.map fun output =>
            (⟨output.2.1, output.2.2, output.1⟩ : MirWindowParameters), server.creates window = true := by
          intro window member
          obtain ⟨output, listed, rfl⟩ := List.mem_map.mp member
          exact created output listed
        rw [List.nil_append, List.map_map]
        cases outputs : server.activeOutputs with
        | nil => simp
        | cons output active =>
            rw [outputs] at windowsCreated
            constructor
            · intro taken
              exact ⟨by simp, windowsCreated, (Except.ok.inj taken).symm⟩
            · rintro ⟨-, -, rfl⟩
              rfl

/-- The surfaces are the windows that the options ask for, one on each active output when they ask for none. -/
theorem mirEglappInit_iff {φ : Type} (scanf : Scanf φ) (server : MirServer) (backgroundOpacity : φ)
    (args : List Name) (surfaces : List MirEglSurface) :
    mirEglappInit scanf server backgroundOpacity args = .ok surfaces ↔
      ((∀ options, ¬EglOptions.Reads scanf args options) ∧ surfaces = []) ∨
        ∃ read, EglOptions.Reads scanf args read ∧
          let options : EglOptions φ := EglOptions.after { backgroundOpacity } read
          server.connects options.mirSocket = true ∧ server.eglApp = true ∧
            windows options server.activeOutputs ≠ [] ∧
            (∀ window ∈ windows options server.activeOutputs, server.creates window = true) ∧
            surfaces = (windows options server.activeOutputs).map (⟨·, options.swapinterval⟩) := by
  rw [mirEglappInit]
  cases taken : EglOptions.parse scanf { backgroundOpacity } args with
  | none =>
      have none (read) : ¬EglOptions.Reads scanf args read := fun reads => by
        rw [EglOptions.parse_of_reads reads] at taken
        cases taken
      simp only [none, not_false_iff, implies_true, true_and, false_and, exists_false, or_false, Except.ok.injEq]
      exact eq_comm
  | some options =>
      obtain ⟨read, reads, rfl⟩ := EglOptions.reads_of_parse taken
      simp only [makeSurfaces_iff]
      constructor
      · intro made
        refine .inr ⟨read, reads, ?_⟩
        rwa [EglOptions.foldl_set] at made
      · rintro (⟨none, -⟩ | ⟨other, reads', made⟩)
        · exact absurd reads (none read)
        · rw [EglOptions.parse_of_reads reads', EglOptions.foldl_set] at taken
          rwa [← Option.some.inj taken]

/-- `AnimationValues` with the statics of `updateAnimation`, over what `double` is. -/
structure AnimationValues (τ : Type) where
  lastTimeStamp : τ
  dotMask : Nat
  counter : BitVec 32
  second : τ

/-- What a frame meets: the size of each surface, unless it cannot be made current, and the timer once the frame
is drawn. -/
structure SpinnerFrame (τ : Type) where
  sizes : Nat → Option (BitVec 32 × BitVec 32)
  elapsed : τ

/-- `orange` says of each dot whether its texture is the orange one. -/
structure Painting where
  surface : MirEglSurface
  rotation : Nat
  renderWidth : BitVec 32
  renderHeight : BitVec 32
  orange : List Bool
deriving DecidableEq

def landscape : Name := "landscape".toList.map Char.toUInt8
def invertedLandscape : Name := "inverted_landscape".toList.map Char.toUInt8
def portrait : Name := "portrait".toList.map Char.toUInt8
def invertedPortrait : Name := "inverted_portrait".toList.map Char.toUInt8

def rotationFor (nativeOrientation : Name) (width height : BitVec 32) : Nat :=
  if width < height then
    if nativeOrientation = landscape then 90 else if nativeOrientation = invertedLandscape then 270 else 0
  else if height < width then
    if nativeOrientation = portrait then 90 else if nativeOrientation = invertedPortrait then 270 else 0
  else 0

/-- What `main` draws on a surface that is current. -/
def draw (nativeOrientation : Name) (dotMask : Nat) (surface : MirEglSurface) (size : BitVec 32 × BitVec 32) :
    Painting :=
  let rotation := rotationFor nativeOrientation size.1 size.2
  let renderSize := if rotation = 90 ∨ rotation = 270 then size.swap else size
  ⟨surface, rotation, renderSize.1, renderSize.2, (List.range 5).map fun i => dotMask >>> i ≠ 0⟩

def MirEglSurface.paint (surface : MirEglSurface) (size : Option (BitVec 32 × BitVec 32))
    (functor : MirEglSurface → BitVec 32 × BitVec 32 → Painting) : Except EglAppError Painting :=
  match size with
  | none => .error .makeCurrent
  | some size => .ok (functor surface size)

/-- A frame is drawn up to the first surface that throws. -/
def paintFrame (nativeOrientation : Name) (dotMask : Nat) :
    List MirEglSurface → (Nat → Option (BitVec 32 × BitVec 32)) → List Painting × Option EglAppError
  | [], _ => ([], none)
  | surface :: rest, sizes =>
      match surface.paint (sizes 0) (draw nativeOrientation dotMask) with
      | .error e => ([], some e)
      | .ok painting =>
          let (paintings, failure) := paintFrame nativeOrientation dotMask rest fun i => sizes (i + 1)
          (painting :: paintings, failure)

/-- The masks that `updateAnimation` goes through. -/
def dotSequence : List Nat := [0, 1, 3, 7, 15, 31]

section
variable {τ : Type} [Zero τ] [Add τ] [Sub τ] (full : τ → Bool)

def AnimationValues.initial : AnimationValues τ := ⟨0, 0, 0, 0⟩

def AnimationValues.update (anim : AnimationValues τ) (elapsed : τ) : AnimationValues τ :=
  let anim := if full anim.second then { anim with second := 0, counter := anim.counter + 1 }
    else { anim with second := anim.second + (elapsed - anim.lastTimeStamp) }
  -- An overflow of the counter is undefined in C++, and `%` would then leave the table.
  { anim with dotMask := dotSequence.getD (anim.counter.toInt.tmod 6).toNat 0, lastTimeStamp := elapsed }

/-- What the loop of `main` draws until a signal or an exception ends it. -/
def paintFrames (nativeOrientation : Name) (surfaces : List MirEglSurface) (anim : AnimationValues τ) :
    List (SpinnerFrame τ) → List (List Painting) × Option EglAppError
  | [] => ([], none)
  | frame :: rest =>
      match paintFrame nativeOrientation anim.dotMask surfaces frame.sizes with
      | (paintings, some e) => ([paintings], some e)
      | (paintings, none) =>
          let (painted, failure) :=
            paintFrames nativeOrientation surfaces (anim.update full frame.elapsed) rest
          (paintings :: painted, failure)

def nativeOrientationKey : Name := "NATIVE_ORIENTATION".toList.map Char.toUInt8

def eglspinner {φ : Type} (scanf : Scanf φ) (server : MirServer) (env : SessionConfig.Environment)
    (backgroundOpacity : φ) (args : List Name) (frames : List (SpinnerFrame τ)) :
    Except EglAppError (List (List Painting) × Option EglAppError) :=
  let nativeOrientation := (SessionConfig.parseSessionConfFile env).getString nativeOrientationKey []
  (mirEglappInit scanf server backgroundOpacity args).map fun surfaces =>
    if surfaces.isEmpty then ([], none) else paintFrames full nativeOrientation surfaces .initial frames

end

/-- How many dots are orange in each frame: one more from time to time, up to all five, and from none again. -/
structure Beats (count : Nat → Nat) : Prop where
  first : count 0 = 0
  next : ∀ k, count (k + 1) = count k ∨ count (k + 1) = (count k + 1) % 6 ∧ count (k + 2) = count (k + 1)

def Painting.Upright (nativeOrientation : Name) (painting : Painting) : Prop :=
  (nativeOrientation = landscape ∨ nativeOrientation = invertedLandscape →
      painting.renderHeight ≤ painting.renderWidth) ∧
    (nativeOrientation = portrait ∨ nativeOrientation = invertedPortrait →
      painting.renderWidth ≤ painting.renderHeight)

/-- The last frame met a surface that cannot be made current, after those that it drew. -/
def FailedIn {τ : Type} (surfaces : List MirEglSurface) (frames : List (SpinnerFrame τ))
    (painted : List (List Painting)) : Prop :=
  ∃ whole part frame, painted = whole ++ [part] ∧ frames[whole.length]? = some frame ∧
    part.length < surfaces.length ∧ frame.sizes part.length = none

/-- Each frame draws every surface in turn, upright, and the surfaces all have the dots of the beat. Only a surface
that cannot be made current ends a frame before its last surface, and the program with it. -/
structure Spins {τ : Type} (nativeOrientation : Name) (surfaces : List MirEglSurface) (frames : List (SpinnerFrame τ))
    (painted : List (List Painting)) (failure : Option EglAppError) : Prop where
  drawn : ∀ k frame, painted[k]? = some frame → frame.map Painting.surface <+: surfaces ∧
    (k + 1 < painted.length ∨ failure = none → frame.map Painting.surface = surfaces)
  length : failure = none → painted.length = frames.length
  failed : ∀ e, failure = some e → e = .makeCurrent ∧ FailedIn surfaces frames painted
  upright : ∀ frame ∈ painted, ∀ painting ∈ frame, painting.Upright nativeOrientation
  beat : ∃ count, Beats count ∧ ∀ k frame, painted[k]? = some frame → ∀ painting ∈ frame,
    painting.orange = (List.range 5).map fun dot => decide (dot < count k)

theorem rotated_iff (nativeOrientation : Name) (width height : BitVec 32) :
    (rotationFor nativeOrientation width height = 90 ∨ rotationFor nativeOrientation width height = 270) ↔
      width < height ∧ (nativeOrientation = landscape ∨ nativeOrientation = invertedLandscape) ∨
        height < width ∧ (nativeOrientation = portrait ∨ nativeOrientation = invertedPortrait) := by
  unfold rotationFor
  by_cases tall : width < height
  · have notWide : ¬height < width := BitVec.lt_asymm tall
    simp only [tall, notWide, if_true]
    split_ifs <;> simp [*]
  · by_cases wide : height < width
    · simp only [tall, wide, if_false, if_true]
      split_ifs <;> simp [*]
    · simp [tall, wide]

theorem upright_draw (nativeOrientation : Name) (dotMask : Nat) (surface : MirEglSurface)
    (size : BitVec 32 × BitVec 32) : (draw nativeOrientation dotMask surface size).Upright nativeOrientation := by
  obtain ⟨width, height⟩ := size
  have apart : ∀ o : Name, o = landscape ∨ o = invertedLandscape → ¬(o = portrait ∨ o = invertedPortrait) := by
    rintro o (rfl | rfl) <;> decide
  have rotated := rotated_iff nativeOrientation width height
  unfold draw
  by_cases turned : rotationFor nativeOrientation width height = 90 ∨ rotationFor nativeOrientation width height = 270
  · simp only [if_pos turned]
    rcases rotated.mp turned with ⟨tall, native⟩ | ⟨wide, native⟩
    · exact ⟨fun _ => BitVec.le_of_lt tall, fun other => absurd other (apart _ native)⟩
    · exact ⟨fun other => absurd native (apart _ other), fun _ => BitVec.le_of_lt wide⟩
  · simp only [if_neg turned]
    obtain ⟨notTall, notWide⟩ := not_or.mp (rotated.not.mp turned)
    exact ⟨fun native => BitVec.not_lt.mp fun tall => notTall ⟨tall, native⟩,
      fun native => BitVec.not_lt.mp fun wide => notWide ⟨wide, native⟩⟩

theorem dots_of_mask {count : Nat} (bound : count < 6) :
    ((List.range 5).map fun i => decide (dotSequence.getD count 0 >>> i ≠ 0)) =
      (List.range 5).map fun dot => decide (dot < count) := by
  interval_cases count <;> rfl

section
variable {τ : Type} [Zero τ] [Add τ] [Sub τ] (full : τ → Bool)

def animAt (anim : AnimationValues τ) (frames : List (SpinnerFrame τ)) (k : Nat) : AnimationValues τ :=
  (frames.take k).foldl (fun anim frame => anim.update full frame.elapsed) anim

theorem animAt_succ (anim : AnimationValues τ) (frames : List (SpinnerFrame τ)) (k : Nat) :
    animAt full anim frames (k + 1) = match frames[k]? with
      | some frame => (animAt full anim frames k).update full frame.elapsed
      | none => animAt full anim frames k := by
  rw [animAt, animAt, List.take_add_one, List.foldl_append]
  cases frames[k]? <;> rfl

theorem paintFrame_spec (nativeOrientation : Name) (dotMask : Nat) (surfaces : List MirEglSurface)
    (sizes : Nat → Option (BitVec 32 × BitVec 32)) :
    let (paintings, failure) := paintFrame nativeOrientation dotMask surfaces sizes
    paintings.map Painting.surface <+: surfaces ∧ (failure = none → paintings.map Painting.surface = surfaces) ∧
      (∀ e, failure = some e → e = .makeCurrent ∧ paintings.length < surfaces.length ∧
        sizes paintings.length = none) ∧
      ∀ painting ∈ paintings, ∃ surface size, painting = draw nativeOrientation dotMask surface size := by
  induction surfaces generalizing sizes with
  | nil => simp [paintFrame]
  | cons surface rest ih =>
      cases size : sizes 0 with
      | none => simp [paintFrame, MirEglSurface.paint, size]
      | some current =>
          obtain ⟨drawn, whole, failed, all⟩ := ih fun i => sizes (i + 1)
          simp only [paintFrame, MirEglSurface.paint, size]
          refine ⟨List.cons_prefix_cons.mpr ⟨rfl, drawn⟩, fun none => congrArg (surface :: ·) (whole none),
            fun e failure => ?_, ?_⟩
          · obtain ⟨rfl, less, none⟩ := failed e failure
            exact ⟨rfl, Nat.succ_lt_succ less, none⟩
          · intro painting member
            rcases List.mem_cons.mp member with rfl | member
            · exact ⟨surface, current, rfl⟩
            · exact all painting member

theorem paintFrames_spec (nativeOrientation : Name) (surfaces : List MirEglSurface) (anim : AnimationValues τ)
    (frames : List (SpinnerFrame τ)) :
    let (painted, failure) := paintFrames full nativeOrientation surfaces anim frames
    (∀ k frame, painted[k]? = some frame → frame.map Painting.surface <+: surfaces ∧
        (k + 1 < painted.length ∨ failure = none → frame.map Painting.surface = surfaces)) ∧
      (failure = none → painted.length = frames.length) ∧
      (∀ e, failure = some e → e = .makeCurrent ∧ FailedIn surfaces frames painted) ∧
      ∀ k frame, painted[k]? = some frame → ∀ painting ∈ frame, ∃ surface size,
        painting = draw nativeOrientation (animAt full anim frames k).dotMask surface size := by
  induction frames generalizing anim with
  | nil => simp [paintFrames]
  | cons frame frames ih =>
      have first := paintFrame_spec nativeOrientation anim.dotMask surfaces frame.sizes
      cases here : paintFrame nativeOrientation anim.dotMask surfaces frame.sizes with
      | mk paintings failure =>
          rw [here] at first
          obtain ⟨drawn, whole, failed, all⟩ := first
          cases failure with
          | some e =>
              simp only [paintFrames, here]
              obtain ⟨rfl, less, none⟩ := failed e rfl
              refine ⟨fun k frame found => ?_, by simp, fun e' same => ?_, fun k frame found => ?_⟩
              · obtain ⟨rfl, rfl⟩ : k = 0 ∧ paintings = frame := by simpa [List.getElem?_singleton] using found
                exact ⟨drawn, by simp⟩
              · obtain rfl := Option.some.inj same
                exact ⟨rfl, [], paintings, frame, rfl, rfl, less, none⟩
              · obtain ⟨rfl, rfl⟩ : k = 0 ∧ paintings = frame := by simpa [List.getElem?_singleton] using found
                exact all
          | none =>
              have rest := ih (anim.update full frame.elapsed)
              cases later : paintFrames full nativeOrientation surfaces (anim.update full frame.elapsed) frames with
              | mk painted failure =>
                  rw [later] at rest
                  obtain ⟨drawn', length', failed', all'⟩ := rest
                  simp only [paintFrames, here, later]
                  refine ⟨fun k frame found => ?_, fun none => congrArg (· + 1) (length' none), fun e same => ?_,
                    fun k frame found => ?_⟩
                  · cases k with
                    | zero =>
                        obtain rfl := Option.some.inj found
                        exact ⟨drawn, fun _ => whole rfl⟩
                    | succ k =>
                        refine (drawn' k frame found).imp_right fun complete more => complete ?_
                        exact more.imp_left Nat.lt_of_succ_lt_succ
                  · obtain ⟨rfl, before, part, frame', rfl, found, less, none⟩ := failed' e same
                    exact ⟨rfl, paintings :: before, part, frame', rfl, found, less, none⟩
                  · cases k with
                    | zero =>
                        obtain rfl := Option.some.inj found
                        exact all
                    | succ k => exact all' k frame found

theorem update_counter (anim : AnimationValues τ) (elapsed : τ) :
    (anim.update full elapsed).counter = if full anim.second then anim.counter + 1 else anim.counter := by
  unfold AnimationValues.update
  split_ifs <;> rfl

theorem toNat_beat {counter : BitVec 32} {frames : Nat} (small : counter.toNat < frames)
    (bound : frames < 2 ^ 31) : (counter + 1).toNat = counter.toNat + 1 := by
  rw [BitVec.toNat_add]
  change (counter.toNat + 1) % 2 ^ 32 = counter.toNat + 1
  omega

/-- Each frame counts one beat at most. -/
theorem counter_animAt (frames : List (SpinnerFrame τ)) (bound : frames.length < 2 ^ 31) (k : Nat) :
    (animAt full .initial frames k).counter.toNat ≤ min k frames.length := by
  induction k with
  | zero => exact Nat.zero_le _
  | succ k ih =>
      rw [animAt_succ]
      cases found : frames[k]? with
      | none =>
          have ended := List.getElem?_eq_none_iff.mp found
          simp only
          omega
      | some frame =>
          have inside := (List.getElem?_eq_some_iff.mp found).1
          simp only [update_counter]
          split_ifs
          · rw [toNat_beat (by omega) bound]
            omega
          · omega

/-- As long as the counter does not overflow, the mask is in its table. -/
theorem dotMask_animAt (frames : List (SpinnerFrame τ)) (bound : frames.length < 2 ^ 31) (k : Nat) :
    (animAt full .initial frames k).dotMask =
      dotSequence.getD ((animAt full .initial frames k).counter.toNat % 6) 0 := by
  have index {counter : BitVec 32} (small : counter.toNat < 2 ^ 31) :
      (counter.toInt.tmod 6).toNat = counter.toNat % 6 := by
    rw [BitVec.toInt_eq_toNat_of_lt (by omega)]
    rfl
  induction k with
  | zero => rfl
  | succ k ih =>
      have small := counter_animAt full frames bound (k + 1)
      rw [animAt_succ] at small ⊢
      cases found : frames[k]? with
      | none => exact ih
      | some frame =>
          rw [found] at small
          rw [← index (by omega)]
          rfl

variable {full}

/-- After a beat the time starts again, so that the next frame keeps the dots. -/
theorem beats_animAt (empty : full 0 = false) (frames : List (SpinnerFrame τ)) (bound : frames.length < 2 ^ 31) :
    Beats fun k => (animAt full .initial frames k).counter.toNat % 6 where
  first := rfl
  next k := by
    set anim := animAt full .initial frames k with current
    have small := counter_animAt full frames bound k
    have step := animAt_succ full .initial frames k
    have step' := animAt_succ full .initial frames (k + 1)
    rw [← current] at step small
    cases frame : frames[k]? with
    | none =>
        rw [frame] at step
        exact .inl (by rw [step])
    | some f =>
        rw [frame] at step
        cases beat : full anim.second with
        | false =>
            have same : (anim.update full f.elapsed).counter = anim.counter := by simp [update_counter, beat]
            exact .inl (by rw [step, same])
        | true =>
            have restarted : (anim.update full f.elapsed).second = 0 := by
              simp [AnimationValues.update, beat]
            have inside := (List.getElem?_eq_some_iff.mp frame).1
            have counted : (anim.update full f.elapsed).counter.toNat = anim.counter.toNat + 1 := by
              rw [update_counter, beat, if_pos rfl, toNat_beat (by omega) bound]
            refine .inr ⟨by rw [step, counted]; omega, ?_⟩
            rw [step', step]
            cases frames[k + 1]? <;> simp [update_counter, restarted, empty]

theorem spins_paintFrames (empty : full 0 = false) (nativeOrientation : Name) (surfaces : List MirEglSurface)
    (frames : List (SpinnerFrame τ)) (bound : frames.length < 2 ^ 31) :
    let (painted, failure) := paintFrames full nativeOrientation surfaces .initial frames
    Spins nativeOrientation surfaces frames painted failure := by
  have spec := paintFrames_spec full nativeOrientation surfaces .initial frames
  cases all : paintFrames full nativeOrientation surfaces .initial frames with
  | mk painted failure =>
      rw [all] at spec
      obtain ⟨drawn, length, failed, paintings⟩ := spec
      refine ⟨drawn, length, failed, ?_, _, beats_animAt empty frames bound, ?_⟩
      · intro frame member painting listed
        obtain ⟨k, found⟩ := List.mem_iff_getElem?.mp member
        obtain ⟨surface, size, rfl⟩ := paintings k frame found painting listed
        exact upright_draw _ _ _ _
      · intro k frame found painting listed
        obtain ⟨surface, size, rfl⟩ := paintings k frame found painting listed
        rw [draw, dotMask_animAt full frames bound]
        exact dots_of_mask (Nat.mod_lt _ (by decide))

/-- Until it is stopped, a spinner with surfaces draws them all, frame after frame. -/
theorem eglspinner_spins (empty : full 0 = false) {φ : Type} (scanf : Scanf φ) (server : MirServer)
    (env : SessionConfig.Environment) (backgroundOpacity : φ) (args : List Name) (frames : List (SpinnerFrame τ))
    (bound : frames.length < 2 ^ 31) (painted : List (List Painting)) (failure : Option EglAppError)
    (ran : eglspinner full scanf server env backgroundOpacity args frames = .ok (painted, failure)) :
    (mirEglappInit scanf server backgroundOpacity args = .ok [] ∧ painted = [] ∧ failure = none) ∨
      ∃ surfaces, surfaces ≠ [] ∧ mirEglappInit scanf server backgroundOpacity args = .ok surfaces ∧
        Spins ((SessionConfig.parseSessionConfFile env).getString nativeOrientationKey []) surfaces frames painted
          failure := by
  cases made : mirEglappInit scanf server backgroundOpacity args with
  | error e => simp [eglspinner, made, Except.map] at ran
  | ok surfaces =>
      rw [eglspinner, made] at ran
      have ends := Except.ok.inj ran
      cases surfaces with
      | nil =>
          obtain ⟨rfl, rfl⟩ := Prod.mk.inj ends
          exact .inl ⟨rfl, rfl, rfl⟩
      | cons surface surfaces =>
          have spins := spins_paintFrames empty
            ((SessionConfig.parseSessionConfFile env).getString nativeOrientationKey []) (surface :: surfaces) frames
            bound
          have ended : paintFrames full ((SessionConfig.parseSessionConfFile env).getString nativeOrientationKey [])
              (surface :: surfaces) .initial frames = (painted, failure) := ends
          rw [ended] at spins
          exact .inr ⟨surface :: surfaces, by simp, rfl, spins⟩

end

def noConf : SessionConfig.Environment := ⟨fun _ => none, none⟩

/-- Two active outputs and one that is switched off. -/
def docked : MirServer where
  connects _ := true
  eglApp := true
  outputs := [⟨1, true, true, 2, some (1280, 800)⟩, ⟨2, false, true, 1, some (1920, 1080)⟩,
    ⟨3, true, true, 1, some (1920, 1080)⟩]
  creates _ := true

/-- In the third frame the second surface cannot be made current. -/
def threeFrames : List (SpinnerFrame ℚ) :=
  [⟨fun _ => some (1280, 800), 1⟩, ⟨fun _ => some (1280, 800), 2⟩,
    ⟨fun i => if i = 0 then some (1280, 800) else none, 3⟩]

def reachesOne (elapsed : ℚ) : Bool := 1 ≤ elapsed

theorem eglspinner_spins_docked : ∃ painted,
    eglspinner reachesOne EglArgument.noFloats docked noConf () [] threeFrames =
      .ok (painted, some .makeCurrent) ∧ painted.map List.length = [2, 2, 1] ∧
        ∃ surfaces, Spins ((SessionConfig.parseSessionConfFile noConf).getString nativeOrientationKey []) surfaces
          threeFrames painted (some .makeCurrent) := by
  refine ⟨_, rfl, rfl, ?_⟩
  obtain ⟨-, -, none⟩ | ⟨surfaces, -, -, spins⟩ :=
    eglspinner_spins (show reachesOne 0 = false by decide) EglArgument.noFloats docked noConf () [] threeFrames
      (by decide) _ _ rfl
  · cases none
  · exact ⟨surfaces, spins⟩

end SystemCompositor
