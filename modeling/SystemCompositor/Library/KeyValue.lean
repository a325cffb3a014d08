import Mathlib.Data.List.DropRight
import Std.Data.TreeMap.Lemmas

namespace Library
open Std
variable {α κ ν : Type*}

/-- `t` is `s` without its longest blank start and its longest blank end. -/
structure Strips (blank : α → Bool) (s t : List α) : Prop where
  split : ∃ front back, s = front ++ t ++ back ∧ (∀ c ∈ front, blank c) ∧ ∀ c ∈ back, blank c
  head : ∀ c ∈ t.head?, blank c = false
  last : ∀ c ∈ t.getLast?, blank c = false

def strip (blank : α → Bool) (s : List α) : List α := (s.dropWhile blank).rdropWhile blank

section Strip
variable (blank : α → Bool) (s : List α)

theorem head_strip (c : α) (first : c ∈ (strip blank s).head?) : blank c = false := by
  obtain ⟨rest, kept⟩ : strip blank s <+: s.dropWhile blank :=
    List.rdropWhile_prefix blank _
  have dropped : c ∈ (s.dropWhile blank).head? := by
    rw [← kept, List.head?_append, Option.mem_def.mp first]
    rfl
  have notBlank := List.head?_dropWhile_not blank s
  rw [Option.mem_def.mp dropped] at notBlank
  exact notBlank

theorem last_strip (c : α) (last : c ∈ (strip blank s).getLast?) : blank c = false := by
  obtain ⟨nonempty, rfl⟩ := List.mem_getLast?_eq_getLast last
  exact Bool.eq_false_iff.mpr (List.rdropWhile_last_not blank (s.dropWhile blank) nonempty)

theorem strips_strip : Strips blank s (strip blank s) where
  split := by
    refine ⟨s.takeWhile blank, (s.dropWhile blank).rtakeWhile blank, ?_,
      fun _ => List.mem_takeWhile_imp, fun _ => List.mem_rtakeWhile_imp⟩
    rw [List.append_assoc, strip, List.rdropWhile_append_rtakeWhile, List.takeWhile_append_dropWhile]
  head := head_strip blank s
  last := last_strip blank s

end Strip

theorem Strips.self {blank : α → Bool} {s t : List α} (strips : Strips blank s t) :
    Strips blank t t :=
  ⟨⟨[], [], by simp⟩, strips.head, strips.last⟩

section Lines
variable [DecidableEq α]

/-- The pieces between the newlines; after a final newline there is no line. -/
def lines (newline : α) (content : List α) : List (List α) :=
  let pieces := content.splitOn newline
  if pieces.getLast? = some [] then pieces.dropLast else pieces

theorem lines_nil (newline : α) : lines newline [] = [] := by simp [lines]

theorem lines_append_cons {newline : α} {line : List α} (inLine : newline ∉ line) (rest : List α) :
    lines newline (line ++ newline :: rest) = line :: lines newline rest := by
  have more : rest.splitOn newline ≠ [] := List.splitOn_ne_nil newline rest
  simp only [lines, List.splitOn_append_cons_self_of_not_mem inLine,
    List.getLast?_cons_of_ne_nil more, List.dropLast_cons_of_ne_nil more]
  split_ifs <;> rfl

theorem lines_singleton {newline : α} {line : List α} (inLine : newline ∉ line) (nonempty : line ≠ []) :
    lines newline line = [line] := by
  simp [lines, List.splitOn_eq_singleton inLine, nonempty]

theorem lines_eq (newline : α) (content : List α) :
    lines newline content =
      match content.dropWhile (· ≠ newline) with
      | [] => if content.takeWhile (· ≠ newline) = [] then [] else [content.takeWhile (· ≠ newline)]
      | _ :: rest => content.takeWhile (· ≠ newline) :: lines newline rest := by
  have inLine : newline ∉ content.takeWhile (· ≠ newline) := by
    intro member
    simpa using List.mem_takeWhile_imp member
  have whole := content.takeWhile_append_dropWhile (p := (· ≠ newline))
  cases rest : content.dropWhile (· ≠ newline) with
  | nil =>
      rw [rest, List.append_nil] at whole
      split_ifs with empty
      · rw [← whole, empty, lines_nil]
      · conv_lhs => rw [← whole]
        exact lines_singleton inLine empty
  | cons c rest' =>
      have ended := List.head?_dropWhile_not (· ≠ newline) content
      rw [rest] at ended
      obtain rfl : c = newline := by simpa using ended
      conv_lhs => rw [← whole, rest]
      exact lines_append_cons inLine rest'

/-- A text of lines `key separator value`. -/
structure KeyValueFormat (α : Type*) where
  newline : α
  separator : α
  blank : α → Bool

namespace KeyValueFormat
variable (F : KeyValueFormat α)

def keyOf (line : List α) : List α := strip F.blank (line.takeWhile (· ≠ F.separator))

def valueOf (line : List α) : List α := strip F.blank (line.dropWhile (· ≠ F.separator)).tail

theorem keyOf_eq (line : List α) :
    F.keyOf line = strip F.blank (line.take (line.findIdx (· = F.separator))) := by
  simp [keyOf, List.takeWhile_eq_take_findIdx_not]

theorem valueOf_eq (line : List α) :
    F.valueOf line = strip F.blank (line.drop (line.findIdx (· = F.separator) + 1)) := by
  simp [valueOf, List.dropWhile_eq_drop_findIdx_not, List.tail_drop]

/-- What the first line with the key says. -/
def lookUp (content key : List α) : Option (List α) :=
  ((lines F.newline content).find? fun line => F.keyOf line = key).map F.valueOf

/-- What can be written on the two sides of the separator. -/
structure Entry where
  left : List α
  right : List α
  oneSeparator : F.separator ∉ left
  oneLine : F.newline ∉ left ++ F.separator :: right

variable {F}

def Entry.key (entry : F.Entry) : List α := strip F.blank entry.left

def Entry.value (entry : F.Entry) : List α := strip F.blank entry.right

def Entry.line (entry : F.Entry) : List α := entry.left ++ F.separator :: entry.right

variable (F) in
def write (entries : List F.Entry) : List α := entries.flatMap fun entry => entry.line ++ [F.newline]

theorem Entry.beforeSeparator (entry : F.Entry) : ∀ c ∈ entry.left, (decide (c ≠ F.separator)) = true := by
  intro c member
  simpa using ne_of_mem_of_not_mem member entry.oneSeparator

theorem keyOf_line (entry : F.Entry) : F.keyOf entry.line = entry.key := by
  rw [keyOf, Entry.line, List.takeWhile_append_of_pos entry.beforeSeparator]
  simp [Entry.key]

theorem valueOf_line (entry : F.Entry) : F.valueOf entry.line = entry.value := by
  rw [valueOf, Entry.line, List.dropWhile_append_of_pos entry.beforeSeparator]
  simp [Entry.value]

theorem lines_write (entries : List F.Entry) : lines F.newline (F.write entries) = entries.map Entry.line := by
  induction entries with
  | nil => exact lines_nil F.newline
  | cons entry entries ih =>
      have first := lines_append_cons entry.oneLine (F.write entries)
      rw [ih] at first
      rw [write, List.flatMap_cons, List.append_assoc]
      exact first

/-- Of several entries of one key the first is found. -/
theorem lookUp_write (entries : List F.Entry) (key : List α) :
    F.lookUp (F.write entries) key = (entries.find? fun entry => entry.key = key).map Entry.value := by
  rw [lookUp, lines_write, List.find?_map, Option.map_map]
  simp only [Function.comp_def, keyOf_line, valueOf_line]

end KeyValueFormat

end Lines

/-- An entry that is inserted later does not replace an earlier one of its key. -/
theorem getElem?_foldl_insertIfNew [Ord κ] [TransOrd κ] [LawfulEqOrd κ] [DecidableEq κ] {ι : Type*}
    (keyOf : ι → κ) (valueOf : ι → ν) (items : List ι) (m : TreeMap κ ν) (key : κ) :
    (items.foldl (fun m item => m.insertIfNew (keyOf item) (valueOf item)) m)[key]? =
      m[key]?.or ((items.find? fun item => keyOf item = key).map valueOf) := by
  induction items generalizing m with
  | nil => simp
  | cons item items ih =>
      rw [List.foldl_cons, ih, TreeMap.getElem?_insertIfNew, List.find?_cons]
      by_cases same : keyOf item = key
      · subst same
        cases stored : m[keyOf item]? <;> simp [stored, TreeMap.mem_iff_isSome_getElem?]
      · simp [same]

end Library
