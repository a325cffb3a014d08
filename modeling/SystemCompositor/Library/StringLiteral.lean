import Mathlib.Data.List.Basic
import Mathlib.Tactic.IntervalCases

namespace Library

/-- Between two literals, inside one, or in an octal escape after `count` digits. -/
inductive LiteralState
  | outside
  | inside
  | escape (count value : Nat)

/-- The reader of adjacent string literals of C, without the escapes that are not octal. -/
structure LiteralReader where
  state : LiteralState := .outside
  bytes : List UInt8 := []

def octalDigit (c : Char) : Option Nat := if '0' ≤ c ∧ c ≤ '7' then some (c.toNat - '0'.toNat) else none

namespace LiteralReader

def emit (bytes : List UInt8) (value : Nat) : Option (List UInt8) :=
  if value < 256 then some (bytes ++ [.ofNat value]) else none

def stepInside (bytes : List UInt8) (c : Char) : Option LiteralReader :=
  if c = '"' then some ⟨.outside, bytes⟩
  else if c = '\\' then some ⟨.escape 0 0, bytes⟩
  else if c = '\n' || 128 ≤ c.toNat then none
  else some ⟨.inside, bytes ++ [.ofNat c.toNat]⟩

/-- An escape ends with its third digit or before the first character that is none. -/
def step (r : LiteralReader) (c : Char) : Option LiteralReader :=
  match r.state with
  | .outside => if c = '"' then some { r with state := .inside } else if c.isWhitespace then some r else none
  | .inside => stepInside r.bytes c
  | .escape count value =>
      match octalDigit c with
      | some digit =>
          if count < 2 then some { r with state := .escape (count + 1) (8 * value + digit) }
          else (emit r.bytes (8 * value + digit)).map (⟨.inside, ·⟩)
      | none => if count = 0 then none else (emit r.bytes value).bind (stepInside · c)

def run (r : LiteralReader) (text : List Char) : Option LiteralReader := text.foldlM step r

theorem run_append (r : LiteralReader) (text later : List Char) :
    r.run (text ++ later) = (r.run text).bind (·.run later) := by
  rw [run, List.foldlM_append]
  rfl

/-- In a literal and not just behind a backslash, so that the bytes so far are known. -/
inductive Reads : LiteralReader → List UInt8 → Prop
  | inside (bytes : List UInt8) : Reads ⟨.inside, bytes⟩ bytes
  | escape {count value : Nat} (bytes : List UInt8) (some : count ≠ 0) (small : value < 256) :
      Reads ⟨.escape count value, bytes⟩ (bytes ++ [.ofNat value])

theorem octalDigit_quote : octalDigit '"' = none := by decide

theorem octalDigit_backslash : octalDigit '\\' = none := by decide

theorem Reads.step_of_notDigit {r : LiteralReader} {bytes : List UInt8} (reads : Reads r bytes) {c : Char}
    (notDigit : octalDigit c = none) : r.step c = stepInside bytes c := by
  cases reads with
  | inside => rfl
  | escape bytes some small => simp [step, notDigit, some, emit, small]

end LiteralReader

/-- The bytes of adjacent string literals. -/
def readLiterals (text : List Char) : Option (List UInt8) :=
  match LiteralReader.run {} text with
  | some ⟨.outside, bytes⟩ => some bytes
  | _ => none

/-- `%o` -/
def octal (n : Nat) : List Char := Nat.toDigits 8 n

theorem octal_byte {n : Nat} (byte : n < 256) : octal n =
    if n < 8 then [n.digitChar]
    else if n < 64 then [(n / 8).digitChar, (n % 8).digitChar]
    else [(n / 64).digitChar, (n / 8 % 8).digitChar, (n % 8).digitChar] := by
  unfold octal
  split_ifs with one two
  · exact Nat.toDigits_of_lt_base one
  · rw [Nat.toDigits_of_base_le (by decide) (by omega), Nat.toDigits_of_lt_base (by omega)]
    rfl
  · rw [Nat.toDigits_of_base_le (by decide) (by omega), Nat.toDigits_of_base_le (by decide) (by omega),
      Nat.toDigits_of_lt_base (by omega), Nat.div_div_eq_div_mul]
    rfl

theorem octalDigit_digitChar {d : Nat} (small : d < 8) : octalDigit d.digitChar = some d := by
  interval_cases d <;> rfl

namespace LiteralReader

theorem step_digit (bytes : List UInt8) (count value : Nat) {d : Nat} (small : d < 8) :
    step ⟨.escape count value, bytes⟩ d.digitChar =
      if count < 2 then some ⟨.escape (count + 1) (8 * value + d), bytes⟩
      else (emit bytes (8 * value + d)).map (⟨.inside, ·⟩) := by
  simp only [step, octalDigit_digitChar small]

/-- An octal escape of a byte adds the byte, whatever escape stands before it. -/
theorem Reads.run_escape {r : LiteralReader} {bytes : List UInt8} (reads : Reads r bytes) (byte : UInt8) :
    ∃ r', r.run ('\\' :: octal byte.toNat) = some r' ∧ Reads r' (bytes ++ [byte]) := by
  have isByte : byte.toNat < 256 := byte.toNat_lt
  have opened : r.step '\\' = some ⟨.escape 0 0, bytes⟩ := reads.step_of_notDigit octalDigit_backslash
  have whole : UInt8.ofNat byte.toNat = byte := UInt8.ofNat_toNat
  rw [run, List.foldlM_cons, opened, octal_byte isByte]
  change ∃ r', List.foldlM step ⟨.escape 0 0, bytes⟩ _ = some r' ∧ _
  split_ifs with one two
  · refine ⟨⟨.escape 1 byte.toNat, bytes⟩, ?_, ?_⟩
    · simp [step_digit _ _ _ one]
    · have added := Reads.escape bytes one_ne_zero isByte
      rwa [whole] at added
  · have value : 8 * (byte.toNat / 8) + byte.toNat % 8 = byte.toNat := Nat.div_add_mod _ 8
    refine ⟨⟨.escape 2 byte.toNat, bytes⟩, ?_, ?_⟩
    · simp [step_digit _ _ _ (show byte.toNat / 8 < 8 by omega), step_digit _ _ _ (show byte.toNat % 8 < 8 by omega),
        value]
    · have added := Reads.escape bytes two_ne_zero isByte
      rwa [whole] at added
  · have value : 8 * (8 * (byte.toNat / 64) + byte.toNat / 8 % 8) + byte.toNat % 8 = byte.toNat := by omega
    refine ⟨⟨.inside, bytes ++ [byte]⟩, ?_, .inside _⟩
    simp [step_digit _ _ _ (show byte.toNat / 64 < 8 by omega),
      step_digit _ _ _ (show byte.toNat / 8 % 8 < 8 by omega), step_digit _ _ _ (show byte.toNat % 8 < 8 by omega),
      value, emit, isByte, whole]

end LiteralReader
end Library
