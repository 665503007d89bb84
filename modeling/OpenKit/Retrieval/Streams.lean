import Mathlib.Data.List.Basic

namespace OpenKit
namespace Retrieval

open List

/-!
# Scanning streams

`literal` and `regex_lines` of `query.rs` and `frame` of `main.rs` go over a
stream in the pieces that its reader hands out.  A stream is the list of these
pieces here; failing reads and the budget are left out.
-/

/-- The range of a match and its text. -/
abbrev Hit := Nat × Nat × List UInt8

/-! ## Literals -/

section Literals

variable (needle : List UInt8) (base : Nat)

/-- The windows of the needle's length that are the needle, by offset. -/
def occurrences (bytes : List UInt8) : List Nat :=
  (range (bytes.length + 1 - needle.length)).filter fun offset =>
    (bytes.drop offset).take needle.length = needle

def hitAt (offset : Nat) : Hit := (base + offset, base + offset + needle.length, needle)

def literalFrom (tail : List UInt8) (consumed : Nat) : List (List UInt8) -> List Hit
  | [] => []
  | read :: reads =>
    let start := consumed - tail.length
    let window := tail ++ read
    let found := (occurrences needle window).filter fun offset =>
      consumed < start + offset + needle.length
    let keep := min (needle.length - 1) window.length
    found.map (fun offset => hitAt needle base (start + offset)) ++
      literalFrom (window.drop (window.length - keep)) (consumed + read.length) reads

/-- The bytes of a text. -/
def utf8 (text : String) : List UInt8 := text.toUTF8.data.toList

/-- The scan for the text of a query.  The text that `emit` gets is read from the bytes of
the needle, which are those of a `String`, so `from_utf8` gives it back. -/
def literal (text : String) (reads : List (List UInt8)) : List Hit :=
  literalFrom (utf8 text) base [] 0 reads

variable {needle base}

/-- The occurrences that end in the second part start behind the others. -/
theorem occurrences_append (named : needle ≠ []) (first second : List UInt8) :
    occurrences needle (first ++ second) = occurrences needle first ++
      (occurrences needle (first.drop (first.length + 1 - needle.length) ++ second)).map
        (first.length + 1 - needle.length + ·) := by
  have positive := length_pos_iff.mpr named
  have sizes : (first ++ second).length + 1 - needle.length =
      first.length + 1 - needle.length + ((first.drop (first.length + 1 - needle.length) ++
        second).length + 1 - needle.length) := by
    simp only [length_append, length_drop]
    omega
  unfold occurrences
  rw [sizes, range_add, filter_append, filter_map]
  congr 1
  · refine filter_congr fun offset inside => ?_
    have fits := mem_range.mp inside
    rw [drop_append_of_le_length (by omega), take_append_of_le_length]
    rw [length_drop]
    omega
  · refine congrArg (map _) (filter_congr fun offset _ => ?_)
    rw [Function.comp_apply, <- drop_drop, drop_append_of_le_length (by omega)]

/-- The tail is the end of what was read, in which the needle does not fit. -/
theorem literalFrom_eq (named : needle ≠ []) (before : List UInt8) (reads : List (List UInt8)) :
    (occurrences needle before).map (hitAt needle base) ++ literalFrom needle base
        (before.drop (before.length + 1 - needle.length)) before.length reads =
      (occurrences needle (before ++ reads.flatten)).map (hitAt needle base) := by
  have positive := length_pos_iff.mpr named
  induction reads generalizing before with
  | nil => simp [literalFrom]
  | cons read reads ih =>
    have start : before.length - (before.drop (before.length + 1 - needle.length)).length =
        before.length + 1 - needle.length := by
      rw [length_drop]
      omega
    have later := ih (before ++ read)
    rw [occurrences_append named, map_append, map_map, append_assoc, append_assoc,
      <- flatten_cons, length_append] at later
    rw [<- later, literalFrom, start, filter_eq_self.mpr]
    · congr 3
      rw [<- drop_append_of_le_length (by omega), drop_drop]
      congr 1
      simp only [length_drop, length_append]
      omega
    · exact fun offset _ => decide_eq_true (by omega)

theorem utf8_ne_nil {text : String} (named : text ≠ "") : utf8 text ≠ [] := by
  intro empty
  apply named
  rw [<- String.toByteArray_inj]
  exact ByteArray.ext (Array.toList_inj.mp empty)

/-- However the stream is cut into reads, the scan reports every occurrence of the text
once, overlapping ones and those across reads included, by its offset and in order. -/
theorem literal_reports_occurrences {text : String} (named : text ≠ "")
    (reads : List (List UInt8)) : literal base text reads =
      (occurrences (utf8 text) reads.flatten).map (hitAt (utf8 text) base) := by
  have begun := utf8_ne_nil named
  have scanned := @literalFrom_eq (utf8 text) base begun [] reads
  have nothing : occurrences (utf8 text) [] = [] := by
    simp [occurrences, Nat.sub_eq_zero_of_le (length_pos_iff.mpr begun)]
  rwa [nothing, drop_nil] at scanned

theorem overlapping_literals_are_reported :
    literal 5 "aa" [[97], [97, 97]] = [(5, 7, [97, 97]), (6, 8, [97, 97])] :=
  (literal_reports_occurrences (by decide) _).trans (by decide)

end Literals

/-! ## Lines -/

def lf : UInt8 := 10

/-- The bytes, cut behind every line feed.  A turn of the loops below takes what
`fill_buf` gives up to the first line feed, so these are the turns of a buffer. -/
def pieces : List UInt8 -> List (List UInt8)
  | [] => []
  | byte :: rest =>
    if byte = lf then [byte] :: pieces rest
    else
      match pieces rest with
      | [] => [[byte]]
      | piece :: later => (byte :: piece) :: later

section Lines

variable {held part bytes : List UInt8}

@[simp] theorem flatten_pieces (bytes : List UInt8) : (pieces bytes).flatten = bytes := by
  induction bytes with
  | nil => rfl
  | cons byte rest ih =>
    rw [pieces]
    split
    · simp [ih]
    · split <;> simp_all

theorem pieces_line (unended : lf ∉ held) (rest : List UInt8) :
    pieces (held ++ lf :: rest) = (held ++ [lf]) :: pieces rest := by
  induction held with
  | nil => simp [pieces]
  | cons byte held ih =>
    rw [mem_cons, not_or] at unended
    simp [pieces, ih unended.2, Ne.symm unended.1]

theorem pieces_last (unended : lf ∉ held) (begun : held ≠ []) : pieces held = [held] := by
  induction held with
  | nil => exact absurd rfl begun
  | cons byte held ih =>
    rw [mem_cons, not_or] at unended
    by_cases last : held = []
    · simp [pieces, last, Ne.symm unended.1]
    · simp [pieces, ih unended.2 last, Ne.symm unended.1]

/-- Induction over the lines of a stream; the last one may lack its line feed. -/
theorem lines_induction {motive : List UInt8 -> Prop} (nil : motive [])
    (last : ∀ held, lf ∉ held -> held ≠ [] -> motive held)
    (line : ∀ held rest, lf ∉ held -> motive rest -> motive (held ++ lf :: rest)) :
    ∀ bytes, motive bytes := by
  intro bytes
  induction size : bytes.length using Nat.strongRecOn generalizing bytes with
  | _ size ih =>
    by_cases ends : lf ∈ bytes
    · rcases eq_append_cons_of_mem ends with ⟨held, rest, rfl, unended⟩
      exact line held rest unended (ih _ (by simp [<- size]; omega) rest rfl)
    · by_cases empty : bytes = []
      · rwa [empty]
      · exact last bytes ends empty

theorem mem_pieces (mem : part ∈ pieces bytes) : part ≠ [] /\ lf ∉ part.dropLast := by
  induction bytes using lines_induction with
  | nil => cases mem
  | last held unended begun =>
    rw [pieces_last unended begun, mem_singleton] at mem
    subst mem
    exact ⟨begun, fun ends => unended (dropLast_subset _ ends)⟩
  | line held rest unended ih =>
    rw [pieces_line unended] at mem
    rcases mem_cons.mp mem with rfl | later
    · simp [unended]
    · exact ih later

/-- A turn completes the first piece, or it adds to the one that is held. -/
theorem turn_cases (mem : part ∈ pieces bytes) (unended : lf ∉ held) (rest : List UInt8) :
    (part.getLast? = some lf /\ pieces (held ++ (part ++ rest)) = (held ++ part) :: pieces rest) \/
      (part.getLast? ≠ some lf /\ lf ∉ held ++ part) := by
  rcases mem_pieces mem with ⟨begun, clear⟩
  rcases (eq_nil_or_concat' part).resolve_left begun with ⟨front, last, rfl⟩
  rw [dropLast_concat] at clear
  have unended : lf ∉ held ++ front := by simp [unended, clear]
  by_cases ends : last = lf
  · subst ends
    exact .inl ⟨by simp, by simpa using pieces_line unended rest⟩
  · exact .inr ⟨by simpa using ends, by simp_all [Ne.symm ends]⟩

/-! ## Frames -/

def maxFrame : Nat := 8 * 1024 * 1024

structure RetrievalError where
  (code message : String)
  deriving DecidableEq

/-- `bytes` and `oversized` after one more turn. -/
def absorb (held : List UInt8 × Bool) (part : List UInt8) : List UInt8 × Bool :=
  let (bytes, oversized) :=
    if maxFrame < held.1.length + part.length then ([], true) else held
  (if oversized then bytes else bytes ++ part, oversized)

def answer (held : List UInt8 × Bool) : Except RetrievalError (List UInt8) :=
  if held.2 then .error ⟨"resource-limited", "stdio frame exceeds byte budget"⟩ else .ok held.1

/-- The loop of `frame`, with the turns that it leaves. -/
def frame (held : List UInt8 × Bool) :
    List (List UInt8) -> Option (Except RetrievalError (List UInt8)) × List (List UInt8)
  | [] => (if held = ([], false) then none else some (answer held), [])
  | part :: parts =>
    if part.getLast? = some lf then (some (answer (absorb held part)), parts)
    else frame (absorb held part) parts

/-- The answers of so many calls. -/
def frames : Nat -> List (List UInt8) -> List (Option (Except RetrievalError (List UInt8)))
  | 0, _ => []
  | calls + 1, parts => (frame ([], false) parts).1 :: frames calls (frame ([], false) parts).2

/-- What is held when these bytes of a frame have been read. -/
def holding (bytes : List UInt8) : List UInt8 × Bool :=
  if maxFrame < bytes.length then ([], true) else (bytes, false)

theorem absorb_holding (bytes part : List UInt8) :
    absorb (holding bytes) part = holding (bytes ++ part) := by
  unfold absorb holding
  rw [length_append]
  split_ifs <;> simp_all <;> omega

theorem foldl_absorb (bytes : List UInt8) (parts : List (List UInt8)) :
    parts.foldl absorb (holding bytes) = holding (bytes ++ parts.flatten) := by
  induction parts generalizing bytes with
  | nil => simp
  | cons part parts ih => rw [foldl_cons, absorb_holding, ih, append_assoc, flatten_cons]

variable {buffers parts : List (List UInt8)}

theorem turns_of_buffers (part) (mem : part ∈ buffers.flatMap pieces) :
    ∃ bytes, part ∈ pieces bytes := by
  rcases mem_flatMap.mp mem with ⟨buffer, _, turn⟩
  exact ⟨buffer, turn⟩

@[simp] theorem flatten_turns : (buffers.flatMap pieces).flatten = buffers.flatten := by
  induction buffers with
  | nil => rfl
  | cons buffer buffers ih => simp [ih]

variable (turns : ∀ part ∈ parts, ∃ bytes, part ∈ pieces bytes)

include turns

theorem frame_holding (unended : lf ∉ held) : (frame (holding held) parts).1 =
      (pieces (held ++ parts.flatten)).head?.map (answer ∘ holding) /\
    pieces (frame (holding held) parts).2.flatten = (pieces (held ++ parts.flatten)).tail /\
    (frame (holding held) parts).2 ⊆ parts := by
  induction parts generalizing held with
  | nil =>
    by_cases empty : held = []
    · simp [empty, frame, holding, pieces]
    · have kept : holding held ≠ ([], false) := by
        unfold holding
        split <;> simp [empty]
      simp [frame, kept, pieces_last unended empty, pieces]
  | cons part parts ih =>
    rcases forall_mem_cons.mp turns with ⟨⟨bytes, mem⟩, turns⟩
    rw [flatten_cons, frame, absorb_holding]
    rcases turn_cases mem unended parts.flatten with ⟨ended, completed⟩ | ⟨unending, unended⟩
    · rw [if_pos ended, completed]
      exact ⟨rfl, rfl, subset_cons_self _ _⟩
    · rw [if_neg unending, <- append_assoc]
      rcases ih turns unended with ⟨first, later, fewer⟩
      exact ⟨first, later, List.Subset.trans fewer (subset_cons_self _ _)⟩

theorem frames_eq : frames ((pieces parts.flatten).length + 1) parts =
    (pieces parts.flatten).map (fun piece => some (answer (holding piece))) ++ [none] := by
  generalize found : pieces parts.flatten = results
  induction results generalizing parts with
  | nil =>
    have last := (frame_holding turns not_mem_nil).1
    rw [nil_append, found] at last
    exact congrArg (· :: []) last
  | cons piece results ih =>
    rcases frame_holding turns not_mem_nil with ⟨first, later, fewer⟩
    rw [nil_append, found] at first later
    exact congr (congrArg cons first) (ih (fun part mem => turns part (fewer mem)) later)

omit turns

/-- The frames of a stream in buffers are its pieces, and no turn holds too much. -/
theorem frames_are_pieces (buffers parts : List (List UInt8)) :
    frames ((pieces buffers.flatten).length + 1) (buffers.flatMap pieces) =
      (pieces buffers.flatten).map (fun piece => some (if maxFrame < piece.length then
        .error ⟨"resource-limited", "stdio frame exceeds byte budget"⟩ else .ok piece)) ++ [none] /\
    (parts.foldl absorb ([], false)).1.length <= maxFrame := by
  constructor
  · rw [<- flatten_turns, frames_eq turns_of_buffers]
    refine congrArg (· ++ _) (map_congr_left fun piece _ => congrArg some ?_)
    unfold answer holding
    split <;> rfl
  · have held : parts.foldl absorb ([], false) = holding parts.flatten := foldl_absorb [] parts
    rw [held, holding]
    split
    · exact Nat.zero_le _
    next small => exact Nat.not_lt.mp small

/-- The stream ends in a frame that no line feed ends. -/
theorem unterminated_frame_is_returned :
    frames 2 ([[97]].flatMap pieces) = [some (.ok [97]), none] /\ lf ∉ [(97 : UInt8)] := by
  decide +kernel

/-! ## Lines for a regular expression -/

def lineBytes : Nat := 64 * 1024

/-- Whether a line matches, and the matches in it, from its start to its end. -/
structure RegexMatcher where
  isMatch : List UInt8 -> Bool
  findIter : List UInt8 -> List (Nat × Nat)
  sorted : ∀ line, (findIter line).Pairwise (·.1 < ·.1)
  inside : ∀ line, ∀ found ∈ findIter line, found.1 <= line.length

/-- A line without its line feed. -/
def content (line : List UInt8) : List UInt8 :=
  if line.getLast? = some lf then line.dropLast else line

variable (matcher : RegexMatcher)

/-- `search_slice` of one line into a `RegexSink`. -/
def searchLine (base : Nat) (line : List UInt8) : Except RetrievalError (List Hit) :=
  if matcher.isMatch (content line) then
    if (String.fromUTF8? ⟨(content line).toArray⟩).isSome then
      .ok ((matcher.findIter (content line)).map fun found =>
        (base + found.1, base + found.2, ((content line).take found.2).drop found.1))
    else .error ⟨"resource-limited", "regex scan budget exhausted"⟩
  else .ok []

/-- What has been reported, and the error that ends the scan. -/
abbrev Scan := List Hit × Option RetrievalError

def andThen (found : Except RetrievalError (List Hit)) (later : Scan) : Scan :=
  match found with
  | .error error => ([], some error)
  | .ok hits => (hits ++ later.1, later.2)

def longLine : RetrievalError := ⟨"resource-limited", "regex line budget exhausted"⟩

def regexLines (base : Nat) (line : List UInt8) : List (List UInt8) -> Scan
  | [] =>
    if lineBytes < line.length then ([], some longLine)
    else if line = [] then ([], none) else andThen (searchLine matcher base line) ([], none)
  | part :: parts =>
    if lineBytes < line.length + (content part).length then ([], some longLine)
    else if part.getLast? = some lf then
      andThen (searchLine matcher base (line ++ part))
        (regexLines (base + (line ++ part).length) [] parts)
    else regexLines base (line ++ part) parts

/-- The lines one after the other. -/
def scanLines (base : Nat) : List (List UInt8) -> Scan
  | [] => ([], none)
  | line :: lines =>
    if lineBytes < (content line).length then ([], some longLine)
    else andThen (searchLine matcher base line) (scanLines (base + line.length) lines)

variable {matcher}

theorem content_unended (unended : part.getLast? ≠ some lf) : content part = part := if_neg unended

theorem length_content (ended : part.getLast? = some lf) (held : List UInt8) :
    (content (held ++ part)).length = held.length + (content part).length := by
  have begun : part ≠ [] := by
    rintro rfl
    cases ended
  simp [content, ended, dropLast_append_of_ne_nil begun]

theorem regexLines_eq (turns : ∀ part ∈ parts, ∃ bytes, part ∈ pieces bytes) (unended : lf ∉ held)
    (base : Nat) : regexLines matcher base held parts =
      scanLines matcher base (pieces (held ++ parts.flatten)) := by
  induction parts generalizing base held with
  | nil =>
    by_cases empty : held = []
    · simp [empty, regexLines, scanLines, pieces, lineBytes]
    · have whole := content_unended fun ended => unended (mem_of_getLast? ended)
      simp [regexLines, scanLines, pieces_last unended empty, whole, empty]
  | cons part parts ih =>
    rcases forall_mem_cons.mp turns with ⟨⟨bytes, mem⟩, turns⟩
    rw [flatten_cons, regexLines]
    rcases turn_cases mem unended parts.flatten with ⟨ended, completed⟩ | ⟨unending, unended⟩
    · rw [completed, scanLines, length_content ended, if_pos ended, ih turns not_mem_nil]
      rfl
    · rw [if_neg unending, content_unended unending, <- append_assoc, <- ih turns unended,
        ite_eq_right_iff]
      intro long
      rw [<- length_append] at long
      cases parts with
      | nil => exact (if_pos long).symm
      | cons => exact (if_pos (Nat.lt_add_right _ long)).symm

def scannable (matcher : RegexMatcher) (line : List UInt8) : Prop :=
  (content line).length <= lineBytes /\
    (matcher.isMatch (content line) -> (String.fromUTF8? ⟨(content line).toArray⟩).isSome)

theorem searchLine_ordered {base : Nat} {line : List UInt8} {later : Scan}
    (after : ∀ hit ∈ later.1, base + (content line).length < hit.1)
    (sorted : later.1.Pairwise (·.1 < ·.1)) :
    (∀ hit ∈ (andThen (searchLine matcher base line) later).1, base <= hit.1) /\
      (andThen (searchLine matcher base line) later).1.Pairwise (·.1 < ·.1) := by
  have above : ∀ hit ∈ later.1, base <= hit.1 := fun hit there =>
    Nat.le_of_lt (Nat.lt_of_le_of_lt (Nat.le_add_right _ _) (after hit there))
  unfold searchLine
  split_ifs
  · constructor
    · simp only [andThen, mem_append, mem_map]
      rintro hit (⟨found, _, rfl⟩ | there)
      · exact Nat.le_add_right _ _
      · exact above hit there
    · have shifted := (matcher.sorted (content line)).imp fun less => Nat.add_lt_add_left less base
      refine pairwise_append.mpr ⟨pairwise_map.mpr shifted, sorted, fun hit here other there => ?_⟩
      rcases mem_map.mp here with ⟨found, listed, rfl⟩
      exact Nat.lt_of_le_of_lt (Nat.add_le_add_left (matcher.inside _ _ listed) base)
        (after other there)
  · simp [andThen]
  · exact ⟨above, sorted⟩

theorem scanLines_ordered (base : Nat) (bytes : List UInt8) :
    (∀ hit ∈ (scanLines matcher base (pieces bytes)).1, base <= hit.1) /\
      (scanLines matcher base (pieces bytes)).1.Pairwise (·.1 < ·.1) := by
  induction bytes using lines_induction generalizing base with
  | nil => simp [pieces, scanLines]
  | last held unended begun =>
    rw [pieces_last unended begun, scanLines]
    split
    · simp
    · exact searchLine_ordered (by simp [scanLines]) Pairwise.nil
  | line held rest unended ih =>
    rcases ih (base + (held ++ [lf]).length) with ⟨above, sorted⟩
    rw [pieces_line unended, scanLines]
    split
    · simp
    · refine searchLine_ordered (fun hit there => ?_) sorted
      have bound := above hit there
      simp [content] at bound ⊢
      omega

theorem scanLines_succeeds_iff (base : Nat) (lines : List (List UInt8)) :
    (scanLines matcher base lines).2 = none <-> ∀ line ∈ lines, scannable matcher line := by
  induction lines generalizing base with
  | nil => simp [scanLines]
  | cons line later ih =>
    rw [scanLines, forall_mem_cons, <- ih (base + line.length), scannable, searchLine]
    split
    next long => simp [Nat.not_le.mpr long, longLine]
    · split_ifs <;> simp_all [andThen]

/-- However the stream is cut into buffers, each line is scanned once and at its own
offset; the scan succeeds exactly when no line is too long and every line that matches is
UTF-8, and what it reports comes in the order of the offsets. -/
theorem regex_lines_scan_each_line (base : Nat) (buffers : List (List UInt8)) :
    regexLines matcher base [] (buffers.flatMap pieces) =
        scanLines matcher base (pieces buffers.flatten) /\
      ((regexLines matcher base [] (buffers.flatMap pieces)).2 = none <->
        ∀ line ∈ pieces buffers.flatten, scannable matcher line) /\
      (regexLines matcher base [] (buffers.flatMap pieces)).1.Pairwise (·.1 < ·.1) := by
  rw [regexLines_eq turns_of_buffers not_mem_nil, nil_append, flatten_turns]
  exact ⟨rfl, scanLines_succeeds_iff base _, (scanLines_ordered base _).2⟩

/-- The pattern of the one letter `a`. -/
def letterA : RegexMatcher where
  isMatch bytes := bytes.contains 97
  findIter bytes := ((range bytes.length).filter (bytes[·]? = some 97)).map fun start =>
    (start, start + 1)
  sorted bytes := pairwise_map.mpr (pairwise_lt_range.filter _)
  inside bytes found mem := by
    rcases mem_map.mp mem with ⟨start, listed, rfl⟩
    exact Nat.le_of_lt (mem_range.mp (mem_filter.mp listed).1)

/-- A short line that is no UTF-8 ends the scan when a letter in it matches. -/
theorem matching_bytes_fail :
    regexLines letterA 0 [] ([[97, 255]].flatMap pieces) =
        ([], some ⟨"resource-limited", "regex scan budget exhausted"⟩) /\
      (content [97, 255]).length <= lineBytes := by
  decide +kernel

end Lines

end Retrieval
end OpenKit
