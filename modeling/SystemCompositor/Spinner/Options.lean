import SystemCompositor.Library.LastOf
import SystemCompositor.SessionConfig.RoundTrip

namespace SystemCompositor
open Library

/-- One of the options that `mir_eglapp_init` takes; an opacity is a `φ`. -/
inductive EglOption (φ : Type)
  | opacity (alpha : φ)
  | noVsync
  | output (id : BitVec 32)
  | size (width height : BitVec 32)
  | socket (mirSocket : Option Name)
  | quiet

namespace EglOption
variable {φ : Type}

def opacity? : EglOption φ → Option φ
  | .opacity alpha => some alpha
  | _ => none

def output? : EglOption φ → Option (BitVec 32)
  | .output id => some id
  | _ => none

def size? : EglOption φ → Option (BitVec 32 × BitVec 32)
  | .size width height => some (width, height)
  | _ => none

def socket? : EglOption φ → Option (Option Name)
  | .socket mirSocket => some mirSocket
  | _ => none

def isNoVsync : EglOption φ → Bool
  | .noVsync => true
  | _ => false

def isQuiet : EglOption φ → Bool
  | .quiet => true
  | _ => false

end EglOption

structure EglOptions (φ : Type) where
  backgroundOpacity : φ
  swapinterval : Nat := 1
  outputId : BitVec 32 := 0
  width : BitVec 32 := 0
  height : BitVec 32 := 0
  mirSocket : Option Name := none
  quiet : Bool := false

/-- What the C library leaves to the platform: `%f`, and `%u` on digits that do not fit. -/
structure Scanf (φ : Type) where
  float : Name → Option φ
  float_nil : float [] = none
  outOfRange : Int → BitVec 32

namespace Scanf
variable {φ : Type} (scanf : Scanf φ)

def unsignedValue (sign : Int) (digits : Name) : Option (BitVec 32) :=
  if digits.isEmpty then none
  else if digitsValue digits < 2 ^ 32 then some (.ofInt 32 (sign * digitsValue digits))
  else some (scanf.outOfRange (sign * digitsValue digits))

/-- `%u`, with what it leaves unread. -/
def unsigned (s : Name) : Option (BitVec 32 × Name) :=
  let number (sign : Int) (s : Name) :=
    (scanf.unsignedValue sign (s.takeWhile isdigit)).map (·, s.dropWhile isdigit)
  match s.dropWhile isspace with
  | [] => none
  | c :: rest => if c = 45 then number (-1) rest else if c = 43 then number 1 rest else number 1 (c :: rest)

/-- `%ux%u` -/
def size (s : Name) : Option (BitVec 32 × BitVec 32) :=
  match scanf.unsigned s with
  | some (w, c :: rest) => if c = 'x'.toUInt8 then (scanf.unsigned rest).map fun h => (w, h.1) else none
  | _ => none

end Scanf

namespace EglOptions
variable {φ : Type} (scanf : Scanf φ)

def set (s : EglOptions φ) : EglOption φ → EglOptions φ
  | .opacity alpha => { s with backgroundOpacity := alpha }
  | .noVsync => { s with swapinterval := 0 }
  | .output id => { s with outputId := id }
  | .size width height => { s with width, height }
  | .socket mirSocket => { s with mirSocket }
  | .quiet => { s with quiet := true }

def hasValue (kind : UInt8) : Bool := kind = 'b'.toUInt8 || kind = 'o'.toUInt8 || kind = 's'.toUInt8

/-- What `-b`, `-o` and `-s` make of their text. -/
def value (kind : UInt8) (text : Name) : Option (EglOption φ) :=
  if kind = 'b'.toUInt8 then (scanf.float text).map .opacity
  else if kind = 'o'.toUInt8 then (scanf.unsigned text).map fun id => .output id.1
  else (scanf.size text).map fun size => .size size.1 size.2

def flag (kind : UInt8) : Option (EglOption φ) :=
  if kind = 'n'.toUInt8 then some .noVsync else if kind = 'q'.toUInt8 then some .quiet else none

def dash : UInt8 := '-'.toUInt8

/-- The arguments after the program's name; without a result the usage is shown. -/
def parse (s : EglOptions φ) : List Name → Option (EglOptions φ)
  | [] => some s
  | (first :: kind :: text) :: rest =>
      if first ≠ dash then none
      else if hasValue kind then
        match text, rest with
        | [], next :: rest => (value scanf kind next).bind fun option => parse (s.set option) rest
        | text, rest => (value scanf kind text).bind fun option => parse (s.set option) rest
      else if kind = 'm'.toUInt8 then
        -- The socket is always the next argument, and the null pointer after the last one.
        match rest with
        | mirSocket :: rest => parse (s.set (.socket (some mirSocket))) rest
        | [] => some (s.set (.socket none))
      else (flag kind).bind fun option => parse (s.set option) rest
  | _ :: _ => none

/-- The arguments that are options one after another. -/
inductive Reads : List Name → List (EglOption φ) → Prop
  | nil : Reads [] []
  | attached {kind : UInt8} {text : Name} {option : EglOption φ} {rest : List Name} {options : List (EglOption φ)}
      (valued : hasValue kind = true) (filled : text ≠ []) (read : value scanf kind text = some option)
      (more : Reads rest options) : Reads ((dash :: kind :: text) :: rest) (option :: options)
  | detached {kind : UInt8} {text : Name} {option : EglOption φ} {rest : List Name} {options : List (EglOption φ)}
      (valued : hasValue kind = true) (read : value scanf kind text = some option)
      (more : Reads rest options) : Reads ([dash, kind] :: text :: rest) (option :: options)
  | flag {kind : UInt8} {ignored : Name} {option : EglOption φ} {rest : List Name} {options : List (EglOption φ)}
      (read : flag kind = some option) (more : Reads rest options) :
      Reads ((dash :: kind :: ignored) :: rest) (option :: options)
  | socket {ignored mirSocket : Name} {rest : List Name} {options : List (EglOption φ)}
      (more : Reads rest options) :
      Reads ((dash :: 'm'.toUInt8 :: ignored) :: mirSocket :: rest) (.socket (some mirSocket) :: options)
  | lastSocket {ignored : Name} : Reads [dash :: 'm'.toUInt8 :: ignored] [.socket none]

/-- What a list of options says, in any order. -/
def after (s : EglOptions φ) (options : List (EglOption φ)) : EglOptions φ where
  backgroundOpacity := (lastOf EglOption.opacity? options).getD s.backgroundOpacity
  swapinterval := if options.any EglOption.isNoVsync then 0 else s.swapinterval
  outputId := (lastOf EglOption.output? options).getD s.outputId
  width := ((lastOf EglOption.size? options).map Prod.fst).getD s.width
  height := ((lastOf EglOption.size? options).map Prod.snd).getD s.height
  mirSocket := (lastOf EglOption.socket? options).getD s.mirSocket
  quiet := options.any EglOption.isQuiet || s.quiet

variable {scanf}

@[simp] theorem value_nil (kind : UInt8) : value scanf kind [] = none := by
  simp [value, scanf.float_nil, Scanf.unsigned, Scanf.size]

theorem foldl_set (s : EglOptions φ) (options : List (EglOption φ)) : options.foldl set s = s.after options := by
  induction options using List.reverseRecOn with
  | nil => simp [after, lastOf]
  | append_singleton options option ih =>
      rw [List.foldl_append, List.foldl_cons, List.foldl_nil, ih]
      cases option <;> simp [after, set, lastOf_concat, EglOption.opacity?, EglOption.output?, EglOption.size?,
        EglOption.socket?, EglOption.isNoVsync, EglOption.isQuiet]

theorem flag_kind {kind : UInt8} {option : EglOption φ} (read : flag kind = some option) :
    hasValue kind = false ∧ kind ≠ 'm'.toUInt8 := by
  unfold flag at read
  split_ifs at read with noVsync quiet
  · subst noVsync
    decide
  · subst quiet
    decide

theorem parse_of_reads {args : List Name} {options : List (EglOption φ)} (reads : Reads scanf args options)
    (s : EglOptions φ) : parse scanf s args = some (options.foldl set s) := by
  induction reads generalizing s with
  | nil => rfl
  | @attached kind text option rest options valued filled read more ih =>
      obtain ⟨c, cs, rfl⟩ := List.exists_cons_of_ne_nil filled
      cases rest <;> simp [parse, valued, read, ← ih]
  | detached valued read more ih => simp [parse, valued, read, ih]
  | @flag kind ignored option rest options read more ih =>
      obtain ⟨notValue, notSocket⟩ := flag_kind read
      cases ignored <;> cases rest <;> simp [parse, notValue, notSocket, read, ← ih]
  | @socket ignored mirSocket rest options more ih =>
      have notValue : hasValue 'm'.toUInt8 = false := by decide
      cases ignored <;> simp [parse, notValue, ih]
  | @lastSocket ignored =>
      have notValue : hasValue 'm'.toUInt8 = false := by decide
      cases ignored <;> simp [parse, notValue]

theorem reads_of_parse {args : List Name} {s t : EglOptions φ} (taken : parse scanf s args = some t) :
    ∃ options, Reads scanf args options ∧ t = options.foldl set s := by
  fun_induction parse scanf s args with
  | case1 s => exact ⟨[], .nil, (Option.some.inj taken).symm⟩
  | case3 s first kind isDash valued next rest ih =>
      obtain ⟨option, read, taken⟩ := Option.bind_eq_some_iff.mp taken
      obtain ⟨options, reads, rfl⟩ := ih option taken
      obtain rfl := not_not.mp isDash
      exact ⟨option :: options, .detached valued read reads, rfl⟩
  | case4 s first kind isDash valued text rest notDetached ih =>
      obtain ⟨option, read, taken⟩ := Option.bind_eq_some_iff.mp taken
      obtain ⟨options, reads, rfl⟩ := ih option taken
      obtain rfl := not_not.mp isDash
      have filled : text ≠ [] := by
        rintro rfl
        rw [value_nil] at read
        cases read
      exact ⟨option :: options, .attached valued filled read reads, rfl⟩
  | case5 s first text isDash mirSocket rest _ ih =>
      obtain ⟨options, reads, rfl⟩ := ih taken
      obtain rfl := not_not.mp isDash
      exact ⟨_ :: options, .socket reads, rfl⟩
  | case6 s first text isDash _ =>
      obtain rfl := not_not.mp isDash
      exact ⟨_, .lastSocket, (Option.some.inj taken).symm⟩
  | case7 s first kind text rest isDash _ _ ih =>
      obtain ⟨option, read, taken⟩ := Option.bind_eq_some_iff.mp taken
      obtain ⟨options, reads, rfl⟩ := ih option taken
      obtain rfl := not_not.mp isDash
      exact ⟨option :: options, .flag read reads, rfl⟩
  | case2 | case8 => cases taken

/-- Arguments are taken exactly when they are options one after another, each kind by its last. -/
theorem parse_iff (args : List Name) (s t : EglOptions φ) :
    parse scanf s args = some t ↔ ∃ options, Reads scanf args options ∧ t = s.after options := by
  constructor
  · intro taken
    obtain ⟨options, reads, rfl⟩ := reads_of_parse taken
    exact ⟨options, reads, foldl_set s options⟩
  · rintro ⟨options, reads, rfl⟩
    rw [parse_of_reads reads, foldl_set]

end EglOptions

namespace Scanf
variable {φ : Type} (scanf : Scanf φ)

theorem unsigned_decimal (n : BitVec 32) (rest : Name) (ends : ∀ c ∈ rest.head?, isdigit c = false) :
    scanf.unsigned (decimalDigits n.toNat ++ rest) = some (n, rest) := by
  have digits := isdigit_decimalDigits n.toNat
  have value := digitsValue_decimalDigits n.toNat
  have filled := decimalDigits_ne_nil n.toNat
  have taken : (decimalDigits n.toNat ++ rest).takeWhile isdigit = decimalDigits n.toNat := by
    rw [List.takeWhile_append_of_pos digits]
    cases rest <;> simp_all
  have left : (decimalDigits n.toNat ++ rest).dropWhile isdigit = rest := by
    rw [List.dropWhile_append_of_pos digits]
    cases rest <;> simp_all
  obtain ⟨c, cs, whole⟩ := List.exists_cons_of_ne_nil filled
  obtain ⟨unspaced, notMinus, notPlus⟩ := isdigit_plain (digits c (by simp [whole]))
  have number : scanf.unsignedValue 1 (decimalDigits n.toNat) = some n := by
    rw [unsignedValue, if_neg (by simpa using filled), value, if_pos n.isLt]
    simp
  rw [unsigned, whole, List.cons_append, List.dropWhile_cons, unspaced]
  simp only [Bool.false_eq_true, ↓reduceIte, notMinus, notPlus]
  rw [← List.cons_append, ← whole, taken, left, number]
  rfl

theorem size_decimal (w h : BitVec 32) :
    scanf.size (decimalDigits w.toNat ++ 'x'.toUInt8 :: decimalDigits h.toNat) = some (w, h) := by
  have width := scanf.unsigned_decimal w ('x'.toUInt8 :: decimalDigits h.toNat) (by simp; decide)
  have height := scanf.unsigned_decimal h [] (by simp)
  rw [List.append_nil] at height
  simp [size, width, height]

end Scanf

/-- An option as it is written, with the text of its value in the same argument or in the next one. -/
structure EglArgument (φ : Type) where
  option : EglOption φ
  attached : Bool

namespace EglArgument
open EglOptions
variable {φ : Type} (opacityText : φ → Name)

def valued (kind : UInt8) (text : Name) (attached : Bool) : List Name :=
  if attached then [dash :: kind :: text] else [[dash, kind], text]

def write (argument : EglArgument φ) : List Name :=
  match argument.option with
  | .opacity alpha => valued 'b'.toUInt8 (opacityText alpha) argument.attached
  | .noVsync => [[dash, 'n'.toUInt8]]
  | .output id => valued 'o'.toUInt8 (decimalDigits id.toNat) argument.attached
  | .size width height =>
      valued 's'.toUInt8 (decimalDigits width.toNat ++ 'x'.toUInt8 :: decimalDigits height.toNat) argument.attached
  | .socket (some mirSocket) => [[dash, 'm'.toUInt8], mirSocket]
  | .socket none => [[dash, 'm'.toUInt8]]
  | .quiet => [[dash, 'q'.toUInt8]]

variable {scanf : Scanf φ}

theorem reads_valued {kind : UInt8} {text : Name} {option : EglOption φ} {rest : List Name}
    {options : List (EglOption φ)} (isValued : hasValue kind = true) (read : value scanf kind text = some option)
    (more : Reads scanf rest options) (attached : Bool) :
    Reads scanf (valued kind text attached ++ rest) (option :: options) := by
  have filled : text ≠ [] := by
    rintro rfl
    rw [value_nil] at read
    cases read
  cases attached with
  | false => exact .detached isValued read more
  | true => exact .attached isValued filled read more

theorem value_output (id : BitVec 32) :
    value scanf 'o'.toUInt8 (decimalDigits id.toNat) = some (.output id) := by
  have number := scanf.unsigned_decimal id [] (by simp)
  rw [List.append_nil] at number
  rw [value, if_neg (by decide), if_pos rfl, number]
  rfl

theorem value_size (width height : BitVec 32) :
    value scanf 's'.toUInt8 (decimalDigits width.toNat ++ 'x'.toUInt8 :: decimalDigits height.toNat) =
      some (.size width height) := by
  rw [value, if_neg (by decide), if_neg (by decide), scanf.size_decimal]
  rfl

/-- Opacities are read back from their texts, and only the end can leave out a socket. -/
def Writable (scanf : Scanf φ) (argument : EglArgument φ) : Prop :=
  match argument.option with
  | .opacity alpha => scanf.float (opacityText alpha) = some alpha
  | .socket mirSocket => mirSocket.isSome = true
  | .noVsync | .output _ | .size _ _ | .quiet => True

variable {opacityText}

theorem reads_write (arguments : List (EglArgument φ))
    (writable : ∀ argument ∈ arguments, argument.Writable opacityText scanf) :
    Reads scanf (arguments.flatMap (write opacityText)) (arguments.map EglArgument.option) := by
  induction arguments with
  | nil => exact .nil
  | cons argument arguments ih =>
      have more := ih fun other member => writable other (List.mem_cons_of_mem _ member)
      have own := writable argument List.mem_cons_self
      obtain ⟨option, attached⟩ := argument
      rw [List.flatMap_cons, List.map_cons]
      cases option with
      | opacity alpha =>
          have read : value scanf 'b'.toUInt8 (opacityText alpha) = some (.opacity alpha) := by
            rw [value, if_pos rfl, own]
            rfl
          exact reads_valued (by decide) read more attached
      | output id => exact reads_valued (by decide) (value_output id) more attached
      | size width height => exact reads_valued (by decide) (value_size width height) more attached
      | socket mirSocket =>
          obtain ⟨path, rfl⟩ := Option.isSome_iff_exists.mp own
          exact .socket more
      | noVsync | quiet => exact .flag rfl more

/-- Options that are written out, each value in its own argument or not, are taken as they were. -/
theorem parse_write (arguments : List (EglArgument φ)) (s : EglOptions φ)
    (writable : ∀ argument ∈ arguments, argument.Writable opacityText scanf) :
    parse scanf s (arguments.flatMap (write opacityText)) = some (s.after (arguments.map EglArgument.option)) := by
  rw [parse_of_reads (reads_write arguments writable), foldl_set]

/-- `-n -o 7 -s640x480 -o3` -/
def forced : List (EglArgument Unit) :=
  [⟨.noVsync, false⟩, ⟨.output 7, false⟩, ⟨.size 640 480, true⟩, ⟨.output 3, true⟩]

def noFloats : Scanf Unit := ⟨fun _ => none, rfl, fun n => .ofInt 32 n⟩

theorem parse_write_forced : parse noFloats ⟨(), 1, 0, 0, 0, none, false⟩ (forced.flatMap (write fun _ => [])) =
    some ⟨(), 0, 3, 640, 480, none, false⟩ := by
  rw [parse_write forced _ (by simp [forced, Writable])]
  rfl

end EglArgument
end SystemCompositor
