import Mathlib.Data.List.Basic

namespace Library
variable {β : Type*}

/-- A stream format: headers of one size, each declaring the length of the payload that follows. -/
structure Framing (β : Type*) where
  headerSize : Nat
  headed : 0 < headerSize
  declaredLength : List β → Nat

namespace Framing

@[ext] structure Frame (F : Framing β) where
  header : List β
  payload : List β
  sized : header.length = F.headerSize
  declared : payload.length = F.declaredLength header

variable {F : Framing β}

def Frame.bytes (f : F.Frame) : List β := f.header ++ f.payload

def Frame.size (f : F.Frame) : Nat := F.headerSize + F.declaredLength f.header

@[simp] theorem Frame.length_bytes (f : F.Frame) : f.bytes.length = f.size := by
  rw [bytes, List.length_append, f.sized, f.declared, size]

/-- The stream ends before its first frame does. -/
def Cut (F : Framing β) (stream : List β) : Prop :=
  stream.length < F.headerSize + F.declaredLength (stream.take F.headerSize)

instance (stream : List β) : Decidable (F.Cut stream) := inferInstanceAs (Decidable (_ < _))

def first? (F : Framing β) (stream : List β) : Option (F.Frame × List β) :=
  let header := stream.take F.headerSize
  if complete : F.headerSize + F.declaredLength header ≤ stream.length then
    some (⟨header, (stream.drop F.headerSize).take (F.declaredLength header),
      List.length_take_of_le (by omega), List.length_take_of_le (by rw [List.length_drop]; omega)⟩,
      stream.drop (F.headerSize + F.declaredLength header))
  else none

theorem first?_eq_none {stream : List β} : F.first? stream = none ↔ F.Cut stream := by
  simp [first?, Cut]

theorem Frame.take_header (f : F.Frame) (rest : List β) : (f.bytes ++ rest).take F.headerSize = f.header := by
  rw [bytes, List.append_assoc, List.take_left' f.sized]

theorem Frame.drop_header (f : F.Frame) (rest : List β) :
    (f.bytes ++ rest).drop F.headerSize = f.payload ++ rest := by
  rw [bytes, List.append_assoc, List.drop_left' f.sized]

@[simp] theorem first?_bytes (f : F.Frame) (rest : List β) : F.first? (f.bytes ++ rest) = some (f, rest) := by
  have complete : F.headerSize + F.declaredLength f.header ≤ (f.bytes ++ rest).length := by
    rw [List.length_append, f.length_bytes, Frame.size]
    omega
  simp only [first?, f.take_header, f.drop_header, complete, ↓reduceDIte, Option.some.injEq, Prod.mk.injEq]
  exact ⟨Frame.ext rfl (List.take_left' f.declared), List.drop_left' f.length_bytes⟩

theorem eq_of_first? {stream rest : List β} {f : F.Frame} (found : F.first? stream = some (f, rest)) :
    stream = f.bytes ++ rest := by
  simp only [first?] at found
  split_ifs at found
  obtain ⟨rfl, rfl⟩ := Prod.mk.inj (Option.some.inj found)
  rw [Frame.bytes, List.append_assoc, ← List.drop_drop, List.take_append_drop, List.take_append_drop]

def parse (F : Framing β) (stream : List β) : List F.Frame × List β :=
  match _found : F.first? stream with
  | none => ([], stream)
  | some (f, rest) => (f :: (parse F rest).1, (parse F rest).2)
termination_by stream.length
decreasing_by
  all_goals
    have := F.headed
    rw [eq_of_first? _found, List.length_append, f.length_bytes, Frame.size]
    omega

theorem parse_of_cut {stream : List β} (cut : F.Cut stream) : F.parse stream = ([], stream) := by
  rw [parse]
  split
  · rfl
  · rename_i found
    rw [first?_eq_none.mpr cut] at found
    cases found

theorem parse_bytes (f : F.Frame) (rest : List β) :
    F.parse (f.bytes ++ rest) = (f :: (F.parse rest).1, (F.parse rest).2) := by
  rw [parse]
  split
  · rename_i found
    rw [first?_bytes] at found
    cases found
  · rename_i found
    rw [first?_bytes] at found
    obtain ⟨rfl, rfl⟩ := Prod.mk.inj (Option.some.inj found)
    rfl

theorem parse_spec (stream : List β) :
    stream = (F.parse stream).1.flatMap Frame.bytes ++ (F.parse stream).2 ∧ F.Cut (F.parse stream).2 := by
  induction stream using parse.induct F with
  | case1 stream found =>
      have cut := first?_eq_none.mp found
      rw [parse_of_cut cut]
      exact ⟨rfl, cut⟩
  | case2 stream f rest found ih =>
      rw [eq_of_first? found, parse_bytes]
      refine ⟨?_, ih.2⟩
      rw [List.flatMap_cons, List.append_assoc, ← ih.1]

theorem parse_frames (fs : List F.Frame) : F.parse (fs.flatMap Frame.bytes) = (fs, []) := by
  induction fs with
  | nil => exact parse_of_cut (Nat.lt_of_lt_of_le F.headed (Nat.le_add_right _ _))
  | cons f fs ih => rw [List.flatMap_cons, parse_bytes, ih]

end Framing
end Library
