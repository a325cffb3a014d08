import Mathlib.Data.Nat.Digits.Lemmas
import SystemCompositor.SessionConfig

namespace SystemCompositor
open Library Std

def isdigit (c : UInt8) : Bool := 48 ≤ c && c ≤ 57

/-- The number that decimal digits stand for. -/
def digitsValue (digits : Name) : Nat := digits.foldl (fun n c => 10 * n + (c.toNat - 48)) 0

def IntRange (n : Int) : Prop := -2 ^ 31 ≤ n ∧ n < 2 ^ 31

instance (n : Int) : Decidable (IntRange n) := inferInstanceAs (Decidable (_ ∧ _))

def signedValue (sign : Int) (digits : Name) : Option Int :=
  if digits.isEmpty then none
  else if IntRange (sign * digitsValue digits) then some (sign * digitsValue digits) else none

/-- `std::stoi`; `none` is one of its exceptions. -/
def stoi (s : Name) : Option Int :=
  match s.dropWhile isspace with
  | [] => none
  | c :: rest =>
      if c = 45 then signedValue (-1) (rest.takeWhile isdigit)
      else if c = 43 then signedValue 1 (rest.takeWhile isdigit)
      else signedValue 1 ((c :: rest).takeWhile isdigit)

namespace SessionConfig

def getInt (config : SessionConfig) (key : Name) (defaultValue : Int) : Int :=
  if key ∈ config.confMap then (stoi (config.confMap.getD key [])).getD defaultValue else defaultValue

end SessionConfig

def decimalDigits (n : Nat) : Name := if n = 0 then [48] else (Nat.digits 10 n).reverse.map fun d => .ofNat (48 + d)

def decimal (n : Int) : Name := (if n < 0 then [45] else []) ++ decimalDigits n.natAbs

theorem digitsValue_digits (digits : List Nat) (small : ∀ d ∈ digits, d < 10) :
    digitsValue (digits.reverse.map fun d => .ofNat (48 + d)) = Nat.ofDigits 10 digits := by
  induction digits with
  | nil => rfl
  | cons d digits ih =>
      have digit : (UInt8.ofNat (48 + d)).toNat - 48 = d := by
        have bound := small d (by simp)
        rw [UInt8.toNat_ofNat_of_lt' (by show 48 + d < 256; omega)]
        omega
      have rest := ih fun e member => small e (by simp [member])
      rw [digitsValue] at rest ⊢
      rw [List.reverse_cons, List.map_append, List.foldl_append, rest, Nat.ofDigits_cons]
      simp only [List.map_cons, List.map_nil, List.foldl_cons, List.foldl_nil, digit]
      omega

theorem digitsValue_decimalDigits (n : Nat) : digitsValue (decimalDigits n) = n := by
  unfold decimalDigits
  split_ifs with zero
  · rw [zero]
    rfl
  · rw [digitsValue_digits _ fun d member => Nat.digits_lt_base (by decide) member, Nat.ofDigits_digits]

theorem isdigit_decimalDigits (n : Nat) : ∀ c ∈ decimalDigits n, isdigit c = true := by
  unfold decimalDigits
  split_ifs with zero
  · simp [isdigit]
  · intro c member
    obtain ⟨d, listed, rfl⟩ := List.mem_map.mp member
    have bound := Nat.digits_lt_base (m := n) (b := 10) (by decide) (List.mem_reverse.mp listed)
    interval_cases d <;> rfl

theorem decimalDigits_ne_nil (n : Nat) : decimalDigits n ≠ [] := by
  unfold decimalDigits
  split_ifs with zero
  · simp
  · simp [Nat.digits_ne_nil_iff_ne_zero, zero]

theorem signedValue_digits (sign : Int) {digits : Name} (filled : digits ≠ []) :
    signedValue sign digits =
      if IntRange (sign * digitsValue digits) then some (sign * digitsValue digits) else none := by
  rw [signedValue, if_neg (by simpa using filled)]

/-- No digit is a space or a sign. -/
theorem isdigit_plain {c : UInt8} (digit : isdigit c = true) : isspace c = false ∧ c ≠ 45 ∧ c ≠ 43 := by
  simp only [isdigit, Bool.and_eq_true, decide_eq_true_eq, UInt8.le_iff_toNat_le] at digit
  have low : 48 ≤ c.toNat := digit.1
  refine ⟨?_, ?_, ?_⟩
  · simp only [isspace, Bool.or_eq_false_iff, beq_eq_false_iff_ne, Bool.and_eq_false_iff, decide_eq_false_iff_not,
      UInt8.le_iff_toNat_le, ne_eq, ← UInt8.toNat_inj]
    have space : (32 : UInt8).toNat = 32 := rfl
    have last : (13 : UInt8).toNat = 13 := rfl
    omega
  · rintro rfl
    exact absurd low (by decide)
  · rintro rfl
    exact absurd low (by decide)

theorem stoi_decimal (n : Int) : stoi (decimal n) = if IntRange n then some n else none := by
  have digits := isdigit_decimalDigits n.natAbs
  have taken := List.takeWhile_eq_self_iff.mpr digits
  have value := digitsValue_decimalDigits n.natAbs
  have filled := decimalDigits_ne_nil n.natAbs
  by_cases negative : n < 0
  · have minus : isspace 45 = false := rfl
    rw [decimal, if_pos negative, List.singleton_append, stoi, List.dropWhile_cons, minus]
    simp only [Bool.false_eq_true, ↓reduceIte, taken]
    rw [signedValue_digits _ filled, value, show -1 * (n.natAbs : Int) = n by omega]
  · obtain ⟨c, cs, whole⟩ := List.exists_cons_of_ne_nil filled
    obtain ⟨unspaced, notMinus, notPlus⟩ := isdigit_plain (digits c (by simp [whole]))
    rw [decimal, if_neg negative, List.nil_append, stoi, whole, List.dropWhile_cons, unspaced]
    simp only [Bool.false_eq_true, ↓reduceIte, notMinus, notPlus]
    rw [← whole, taken, signedValue_digits _ filled, value, show 1 * (n.natAbs : Int) = n by omega]

namespace SessionConfig

theorem getInt_eq (config : SessionConfig) (key : Name) (defaultValue : Int) :
    config.getInt key defaultValue = (config.confMap[key]?.bind stoi).getD defaultValue := by
  unfold getInt
  split_ifs with stored
  · rw [TreeMap.getD_eq_getD_getElem?, TreeMap.getElem?_eq_some_getElem stored]
    rfl
  · rw [TreeMap.getElem?_eq_none stored]
    rfl

/-- What was written under a key is read back from the first line of that key, a number as long as it fits. -/
theorem written_readBack (env : Environment) (entries : List sessionConf.Entry)
    (written : confContent env = sessionConf.write entries) (key : Name) :
    let config := parseSessionConfFile env
    let first := (entries.find? fun entry => entry.key = key).map KeyValueFormat.Entry.value
    (∀ defaultValue, config.getString key defaultValue = first.getD defaultValue) ∧
      (∀ defaultValue n, first = some (decimal n) →
        config.getInt key defaultValue = if IntRange n then n else defaultValue) ∧
      ((∀ entry ∈ entries, entry.key ≠ key) → ∀ defaultValue, config.getInt key defaultValue = defaultValue) := by
  intro config first
  have found : config.confMap[key]? = first := by
    have looked := readLines_eq (openConf env) [] {}
    rw [remaining_openConf, written] at looked
    change (readLines (openConf env) [] {})[key]? = first
    rw [looked, getElem?_foldl_insertIfNew, TreeMap.getElem?_emptyc, Option.none_or]
    exact KeyValueFormat.lookUp_write entries key
  refine ⟨fun defaultValue => ?_, fun defaultValue n decimal => ?_, fun none defaultValue => ?_⟩
  · rw [getString_eq, found]
  · rw [getInt_eq, found, decimal, Option.bind_some, stoi_decimal]
    split_ifs <;> rfl
  · have missing : first = Option.none := by
      simpa [first] using none
    rw [getInt_eq, found, missing]
    rfl

/-- ` n = 18` -/
def gridUnit : sessionConf.Entry := ⟨[32, 110, 32], [32, 49, 56], by decide, by decide⟩

/-- `name=u=8` -/
def named : sessionConf.Entry := ⟨[110, 97, 109, 101], [117, 61, 56], by decide, by decide⟩

/-- `n=7` -/
def gridUnitAgain : sessionConf.Entry := ⟨[110], [55], by decide, by decide⟩

/-- `m=2147483648` -/
def tooLarge : sessionConf.Entry := ⟨[109], [50, 49, 52, 55, 52, 56, 51, 54, 52, 56], by decide, by decide⟩

def mixed : List sessionConf.Entry := [named, gridUnit, tooLarge, gridUnitAgain]

def mixedOnly : Environment := ⟨fun _ => some (sessionConf.write mixed), none⟩

theorem written_readBack_mixed : (parseSessionConfFile mixedOnly).getInt [110] 13 = 18 ∧
    (parseSessionConfFile mixedOnly).getString [110, 97, 109, 101] [] = [117, 61, 56] ∧
    (parseSessionConfFile mixedOnly).getInt [109] 13 = 13 := by
  obtain ⟨-, numbers, -⟩ := written_readBack mixedOnly mixed rfl [110]
  obtain ⟨texts, -, -⟩ := written_readBack mixedOnly mixed rfl [110, 97, 109, 101]
  obtain ⟨-, large, -⟩ := written_readBack mixedOnly mixed rfl [109]
  exact ⟨numbers 13 18 (by decide), texts [], large 13 2147483648 (by decide)⟩

end SessionConfig

end SystemCompositor
