import SystemCompositor.Library.KeyValue
import SystemCompositor.Session

namespace SystemCompositor
open Library Std

def newline : UInt8 := 10

/-- `std::ifstream`, with the characters that have not been read. -/
structure IfStream where
  isOpen : Bool := false
  unread : Name := []
  eofbit : Bool := false
  failbit : Bool := false

namespace IfStream

def clear (fs : IfStream) : IfStream := { fs with eofbit := false, failbit := false }

/-- `fs.open(name)` on a closed stream; a file that cannot be opened is `none`. -/
def openFile (fs : IfStream) : Option Name → IfStream
  | some content => { fs.clear with isOpen := true, unread := content }
  | none => { fs with failbit := true }

def getline (fs : IfStream) (line : Name) : IfStream × Name :=
  if fs.eofbit || fs.failbit then ({ fs with failbit := true }, line)
  else
    let extracted := fs.unread.takeWhile (· ≠ newline)
    match fs.unread.dropWhile (· ≠ newline) with
    -- The end of the file ends a line too, unless nothing was extracted.
    | [] => ({ fs with unread := [], eofbit := true, failbit := extracted.isEmpty }, extracted)
    | _ :: unread => ({ fs with unread }, extracted)

theorem unread_getline_lt {fs : IfStream} {line : Name} (read : ¬ (fs.getline line).1.failbit) :
    (fs.getline line).1.unread.length < fs.unread.length := by
  unfold getline at read ⊢
  split_ifs at read ⊢
  · exact absurd rfl read
  have shrinks := List.length_dropWhile_le (· ≠ newline) fs.unread
  cases rest : fs.unread.dropWhile (· ≠ newline) with
  | nil =>
      simp only [rest] at read ⊢
      cases unread : fs.unread with
      | nil => simp [unread] at read
      | cons c cs => exact Nat.zero_lt_succ cs.length
  | cons c cs =>
      rw [rest, List.length_cons] at shrinks
      exact shrinks

/-- The lines that can still be read. -/
def remaining (fs : IfStream) : List Name :=
  if fs.eofbit || fs.failbit then [] else lines newline fs.unread

theorem remaining_eq (fs : IfStream) (line : Name) :
    fs.remaining =
      if (fs.getline line).1.failbit then []
      else (fs.getline line).2 :: (fs.getline line).1.remaining := by
  by_cases stopped : fs.eofbit || fs.failbit
  · simp [getline, remaining, stopped]
  · rw [remaining, if_neg stopped, lines_eq]
    simp only [getline, stopped, Bool.false_eq_true, ↓reduceIte]
    cases fs.unread.dropWhile (· ≠ newline) with
    | nil => simp [remaining]
    | cons c rest => simp_all [remaining]

theorem remaining_openFile (fs : IfStream) (file : Option Name) :
    (fs.openFile file).remaining = lines newline (file.getD []) := by
  cases file with
  | some content => rfl
  | none => simp [openFile, remaining, lines_nil]

end IfStream

/-- `std::isspace` in the C locale, where no byte above 127 is a space. -/
def isspace (c : UInt8) : Bool := c == 32 || (9 ≤ c && c ≤ 13)

/-- `std::string::substr`, where `none` is `npos`. -/
def substr (s : Name) (pos : Nat) : Option Nat → Name
  | some count => (s.drop pos).take count
  | none => s.drop pos

structure SessionConfig where
  confMap : TreeMap Name Name := {}

namespace SessionConfig

def trim (s : Name) : Name :=
  let wsfront := s.findIdx (!isspace ·)
  -- The base of the reverse iterator stands behind the last character that is no space.
  let wsback := s.length - s.reverse.findIdx (!isspace ·)
  if wsback ≤ wsfront then [] else (s.drop wsfront).take (wsback - wsfront)

theorem findIdx_of_blank {s : Name} (blank : ∀ c ∈ s, isspace c) :
    s.findIdx (!isspace ·) = s.length :=
  List.findIdx_eq_length_of_false fun c member => by simp [blank c member]

theorem findIdx_append_of_head {front rest : Name} {c : UInt8} (blank : ∀ c ∈ front, isspace c)
    (head : rest.head? = some c) (kept : isspace c = false) :
    (front ++ rest).findIdx (!isspace ·) = front.length := by
  obtain ⟨cs, rfl⟩ := List.head?_eq_some_iff.mp head
  rw [List.findIdx_append, findIdx_of_blank blank, List.findIdx_cons]
  simp [kept]

theorem trim_of_blank {s : Name} (blank : ∀ c ∈ s, isspace c) : trim s = [] := by
  simp [trim, findIdx_of_blank blank]

theorem trim_of_strips {s t : Name} (strips : Strips isspace s t) : trim s = t := by
  obtain ⟨⟨front, back, rfl, frontBlank, backBlank⟩, head, last⟩ := strips
  cases first : t.head? with
  | none =>
      obtain rfl : t = [] := List.head?_eq_none_iff.mp first
      refine trim_of_blank fun c member => ?_
      rw [List.append_nil] at member
      exact (List.mem_append.mp member).elim (frontBlank c) (backBlank c)
  | some c =>
      have nonempty : t ≠ [] := by
        rintro rfl
        cases first
      have wsfront : (front ++ t ++ back).findIdx (!isspace ·) = front.length := by
        rw [List.append_assoc]
        exact findIdx_append_of_head frontBlank (by simp [first]) (head c first)
      have wsback : (front ++ t ++ back).reverse.findIdx (!isspace ·) = back.length := by
        rw [List.reverse_append, List.reverse_append, ← back.length_reverse]
        refine findIdx_append_of_head (by simpa using backBlank) ?_
          (last (t.getLast nonempty) (List.getLast?_eq_getLast_of_ne_nil nonempty))
        simp [List.getLast?_eq_getLast_of_ne_nil nonempty]
      have positive : 0 < t.length := List.length_pos_of_ne_nil nonempty
      have kept : (front ++ t ++ back).length - back.length = front.length + t.length := by
        rw [List.length_append, Nat.add_sub_cancel, List.length_append]
      simp only [trim, wsfront, wsback, kept]
      rw [if_neg (by omega), List.append_assoc, List.drop_left, Nat.add_sub_cancel_left, List.take_left]

theorem trim_eq_strip (s : Name) : trim s = strip isspace s := trim_of_strips (strips_strip isspace s)

def parseKeyValuePair (kv : Name) : Name × Name :=
  let separator := kv.findIdx? (· = 61)
  let key := substr kv 0 separator
  let value :=
    match separator with
    | some separator => substr kv (separator + 1) none
    | none => []
  (trim key, trim value)

def sessionConf : KeyValueFormat UInt8 where
  newline := newline
  separator := 61
  blank := isspace

theorem parseKeyValuePair_eq (kv : Name) :
    parseKeyValuePair kv = (sessionConf.keyOf kv, sessionConf.valueOf kv) := by
  rw [KeyValueFormat.keyOf_eq, KeyValueFormat.valueOf_eq]
  simp only [parseKeyValuePair, trim_eq_strip]
  cases separator : kv.findIdx? (· = 61) with
  | none =>
      have position : kv.findIdx (· = sessionConf.separator) = kv.length :=
        List.findIdx?_eq_none_iff_findIdx_eq.mp separator
      rw [position, List.take_length, List.drop_eq_nil_of_le (Nat.le_succ _)]
      rfl
  | some position =>
      obtain ⟨-, rfl⟩ := List.findIdx?_eq_some_iff_findIdx_eq.mp separator
      rfl

/-- What the parser finds: the files, by their paths, and `property_get` by its key and default, in a
build that has it. -/
structure Environment where
  file : Name → Option Name
  propertyGet : Option (Name → Name → Name)

def defaultFile : Name := "/etc/ubuntu-touch-session.d/android.conf".toList.map Char.toUInt8
def fileBase : Name := "/etc/ubuntu-touch-session.d/".toList.map Char.toUInt8
def fileExtension : Name := ".conf".toList.map Char.toUInt8
def devicePropertyKey : Name := "ro.product.device".toList.map Char.toUInt8

def deviceFile (propertyGet : Name → Name → Name) : Name :=
  fileBase ++ propertyGet devicePropertyKey [] ++ fileExtension

def openConf (env : Environment) : IfStream :=
  let fs := IfStream.openFile {} (env.file defaultFile)
  match env.propertyGet with
  | some propertyGet => if fs.isOpen then fs else fs.clear.openFile (env.file (deviceFile propertyGet))
  | none => fs

def readLines (fs : IfStream) (line : Name) (confMap : TreeMap Name Name) : TreeMap Name Name :=
  let read := fs.getline line
  if failed : read.1.failbit then confMap
  else
    have : read.1.unread.length < fs.unread.length := IfStream.unread_getline_lt failed
    let entry := parseKeyValuePair read.2
    readLines read.1 read.2 (confMap.insertIfNew entry.1 entry.2)
termination_by fs.unread.length

def parseSessionConfFile (env : Environment) : SessionConfig := { confMap := readLines (openConf env) [] {} }

/-- `conf_map[key]` is only reached with the key in the map. -/
def getString (config : SessionConfig) (key defaultValue : Name) : Name :=
  if key ∈ config.confMap then config.confMap.getD key [] else defaultValue

theorem getString_eq (config : SessionConfig) (key defaultValue : Name) :
    config.getString key defaultValue = config.confMap[key]?.getD defaultValue := by
  unfold getString
  split_ifs with stored
  · rw [TreeMap.getD_eq_getD_getElem?, TreeMap.getElem?_eq_some_getElem stored]
    rfl
  · rw [TreeMap.getElem?_eq_none stored]
    rfl

theorem readLines_eq (fs : IfStream) (line : Name) (confMap : TreeMap Name Name) :
    readLines fs line confMap =
      fs.remaining.foldl
        (fun m line => m.insertIfNew (sessionConf.keyOf line) (sessionConf.valueOf line)) confMap := by
  fun_induction readLines fs line confMap with
  | case1 fs line confMap read failed =>
      rw [fs.remaining_eq line, if_pos failed]
      rfl
  | case2 fs line confMap read failed shorter entry ih =>
      rw [fs.remaining_eq line, if_neg failed, List.foldl_cons, ih]
      simp only [entry, parseKeyValuePair_eq, read]

def confContent (env : Environment) : Name :=
  match env.file defaultFile, env.propertyGet with
  | some content, _ => content
  | none, some propertyGet => (env.file (deviceFile propertyGet)).getD []
  | none, none => []

theorem remaining_openConf (env : Environment) :
    (openConf env).remaining = lines newline (confContent env) := by
  unfold openConf confContent
  cases env.file defaultFile with
  | some content => cases env.propertyGet <;> exact IfStream.remaining_openFile _ (some content)
  | none =>
      cases env.propertyGet with
      | some propertyGet => exact IfStream.remaining_openFile _ (env.file (deviceFile propertyGet))
      | none => exact IfStream.remaining_openFile _ none

theorem getString_eq_lookUp (env : Environment) (key defaultValue : Name) :
    (parseSessionConfFile env).getString key defaultValue =
      (sessionConf.lookUp (confContent env) key).getD defaultValue := by
  rw [getString_eq, parseSessionConfFile, readLines_eq, getElem?_foldl_insertIfNew, remaining_openConf,
    TreeMap.getElem?_emptyc, Option.none_or]
  rfl

-- The first `a` counts, and the blanks around it and the carriage return do not.
example : sessionConf.lookUp (" a = b c\r\n\na=d".toList.map Char.toUInt8) ("a".toList.map Char.toUInt8) =
    some ("b c".toList.map Char.toUInt8) := by decide

theorem getString_parseSessionConfFile (env : Environment) (key defaultValue : Name) :
    (parseSessionConfFile env).getString key defaultValue =
        (sessionConf.lookUp (confContent env) key).getD defaultValue ∧
      (∀ s, Strips isspace s (trim s)) ∧ (∀ s, (∀ c ∈ s, isspace c) → trim s = []) ∧
      ∀ s, trim (trim s) = trim s := by
  have strips : ∀ s, Strips isspace s (trim s) := by
    intro s
    rw [trim_eq_strip]
    exact strips_strip isspace s
  exact ⟨getString_eq_lookUp env key defaultValue, strips, fun _ => trim_of_blank,
    fun s => trim_of_strips (strips s).self⟩

end SessionConfig

end SystemCompositor
