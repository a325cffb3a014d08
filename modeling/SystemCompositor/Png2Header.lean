import Mathlib.Data.List.Induction
import SystemCompositor.Library.StringLiteral

namespace SystemCompositor
open Library

def lineLimit : Nat := 80

/-- `result` with `line_chars`. -/
structure CString where
  result : List Char := []
  lineChars : Nat := 0

namespace CString

def add (s : CString) (c : UInt8) : CString :=
  let result := if s.lineChars = 0 then s.result ++ "    \"".toList else s.result
  let escape := '\\' :: octal c.toNat
  let result := result ++ escape
  let lineChars := s.lineChars + escape.length
  if lineLimit ≤ lineChars then ⟨result ++ "\"\n".toList, 0⟩ else ⟨result, lineChars⟩

def finish (s : CString) : List Char := if s.lineChars ≠ 0 then s.result ++ ['"'] else s.result

end CString

def tocstring (data : List UInt8) : List Char := (data.foldl CString.add {}).finish

namespace CString
open LiteralReader

/-- The text so far reads as `data`, inside a literal unless a line has just ended. -/
def Holds (s : CString) (data : List UInt8) : Prop :=
  if s.lineChars = 0 then LiteralReader.run {} s.result = some ⟨.outside, data⟩
  else ∃ r, LiteralReader.run {} s.result = some r ∧ Reads r data

theorem holds_add {s : CString} {data : List UInt8} (holds : s.Holds data) (c : UInt8) :
    (s.add c).Holds (data ++ [c]) := by
  obtain ⟨r, opened, reads⟩ : ∃ r, LiteralReader.run {}
      (if s.lineChars = 0 then s.result ++ "    \"".toList else s.result) = some r ∧ Reads r data := by
    unfold Holds at holds
    split_ifs at holds ⊢ with fresh
    · refine ⟨⟨.inside, data⟩, ?_, .inside data⟩
      rw [run_append, holds]
      rfl
    · exact holds
  obtain ⟨r', escaped, reads'⟩ := reads.run_escape c
  have written : LiteralReader.run {} ((if s.lineChars = 0 then s.result ++ "    \"".toList else s.result) ++
      '\\' :: octal c.toNat) = some r' := by
    rw [run_append, opened, Option.bind_some, escaped]
  unfold add
  by_cases full : lineLimit ≤ s.lineChars + ('\\' :: octal c.toNat).length
  · rw [if_pos full]
    have closed : r'.run "\"\n".toList = some ⟨.outside, data ++ [c]⟩ := by
      change (r'.step '"').bind (run · ['\n']) = _
      rw [reads'.step_of_notDigit octalDigit_quote]
      rfl
    show LiteralReader.run {} _ = _
    rw [run_append, written, Option.bind_some, closed]
  · rw [if_neg full, Holds, if_neg (by simp)]
    exact ⟨r', written, reads'⟩

end CString

/-- A compiler reads the bytes back from the literals that the tool writes. -/
theorem readLiterals_tocstring (data : List UInt8) : readLiterals (tocstring data) = some data := by
  have holds : (data.foldl CString.add {}).Holds data := by
    induction data using List.reverseRecOn with
    | nil => rfl
    | append_singleton data c ih =>
        rw [List.foldl_append]
        exact CString.holds_add ih c
  unfold CString.Holds at holds
  unfold tocstring CString.finish readLiterals
  by_cases ended : (data.foldl CString.add {}).lineChars = 0
  · rw [if_pos ended] at holds
    rw [if_neg (not_not.mpr ended), holds]
  · rw [if_neg ended] at holds
    obtain ⟨r, opened, reads⟩ := holds
    have closed : r.run ['"'] = some ⟨.outside, data⟩ := by
      change (r.step '"').bind (LiteralReader.run · []) = _
      rw [reads.step_of_notDigit LiteralReader.octalDigit_quote]
      rfl
    rw [if_pos ended, LiteralReader.run_append, opened, Option.bind_some, closed]

/-- Bytes of one, two and three octal digits. -/
example : String.ofList (tocstring [7, 8, 255]) = "    \"\\7\\10\\377\"" := by decide

end SystemCompositor
