import Mathlib.Data.List.Infix
import OpenKit.Foundation.Fallible

namespace OpenKit
namespace FileTransfer

open Foundation List

/-!
# Relative-path headers

The path of a file travels in a header as text in which all but a few bytes are
percent-encoded.  Decoding compares the path with the one collected from its
components, but two Rust paths are equal as soon as their components are.
-/

def invalidPath : String := "file-data relative path invalid"

def slash : UInt8 := 0x2F
def percent : UInt8 := 0x25
def dot : UInt8 := 0x2E

def utf8 (text : String) : List UInt8 := text.toUTF8.data.toList

/-- `std::path::Component` on Unix. -/
inductive Component where
  | rootDir | curDir | parentDir
  | normal (name : List UInt8)
deriving DecidableEq

def Component.bytes : Component -> List UInt8
  | .rootDir => []
  | .curDir => [dot]
  | .parentDir => [dot, dot]
  | .normal name => name

def isAbsolute (path : List UInt8) : Bool := path.head? = some slash

/-- `Path::components`: empty parts are passed over, and so is `.` but at the start. -/
def components (path : List UInt8) : List Component :=
  let parts := path.splitOn slash
  (if isAbsolute path then [.rootDir] else if parts.head? = some [dot] then [.curDir] else []) ++
    (parts.filter fun part => part ≠ [] /\ part ≠ [dot]).map fun part =>
      if part = [dot, dot] then .parentDir else .normal part

/-- What `decode_relative_path` and `encode_relative_path` both refuse. -/
def isIrregular (path : List UInt8) : Bool :=
  isAbsolute path || (components path).any (fun component => component ≠ .normal component.bytes) ||
    components ([slash].intercalate ((components path).map Component.bytes)) ≠ components path

def isUnreserved (byte : UInt8) : Bool :=
  let character := Char.ofNat byte.toNat
  character.isAlphanum || "-_.!~*'()/".toList.contains character

def hexDigit (value : UInt8) : UInt8 := (utf8 "0123456789ABCDEF").getD value.toNat 0

def encodeByte (byte : UInt8) : List UInt8 :=
  if isUnreserved byte then [byte] else [percent, hexDigit (byte >>> 4), hexDigit (byte &&& 0x0F)]

def encodeRelativePath (path : String) : Except String (List UInt8) := do
  refuse (path.isEmpty || isIrregular (utf8 path)) invalidPath
  let encoded := (utf8 path).flatMap encodeByte
  refuse (4096 < encoded.length) invalidPath
  return encoded

def decodeHex (byte : UInt8) : Except String UInt8 :=
  if 0x30 <= byte /\ byte <= 0x39 then .ok (byte - 0x30)
  else if 0x41 <= byte /\ byte <= 0x46 then .ok (byte - 0x41 + 10)
  else .error invalidPath

/-- The loop of `decode_relative_path` over the bytes of a header. -/
def decodeBytes : List UInt8 -> Except String (List UInt8)
  | [] => .ok []
  | byte :: rest =>
    if byte = percent then
      match rest with
      | first :: second :: rest => do
        let high <- decodeHex first
        let low <- decodeHex second
        let others <- decodeBytes rest
        return (high <<< 4 ||| low) :: others
      | _ => .error invalidPath
    else do
      let others <- decodeBytes rest
      return byte :: others

/-- `char::is_control`. -/
def isControl (character : Char) : Bool :=
  character.toNat < 0x20 || (0x7F <= character.toNat && character.toNat <= 0x9F)

def isPlain (text : String) : Bool :=
  text.toList.all fun character => character ≠ '\\' && !isControl character

def decodeRelativePath (encoded : List UInt8) : Except String String := do
  refuse (encoded.isEmpty || 4096 < encoded.length || [slash] <+: encoded || [slash] <:+ encoded ||
    [slash, slash] <:+: encoded || encoded.any (0x80 <= ·)) invalidPath
  let decoded <- decodeBytes encoded
  match String.fromUTF8? ⟨decoded.toArray⟩ with
  | none => .error invalidPath
  | some path =>
    refuse (!isPlain path) invalidPath
    refuse (isIrregular (utf8 path)) invalidPath
    let again <- encodeRelativePath path
    refuse (again ≠ encoded) invalidPath
    return path

/-- Where a component leads from a place, which is given by the names on the way to it. -/
def enter (place : List (List UInt8)) : Component -> List (List UInt8)
  | .rootDir => []
  | .curDir => place
  | .parentDir => place.dropLast
  | .normal name => place ++ [name]

def locate (root : List (List UInt8)) (path : String) : List (List UInt8) :=
  (components (utf8 path)).foldl enter root

/-- A relative path in normal form, without backslash and control characters. -/
structure IsCanonical (path : String) : Prop where
  nonempty : path.isEmpty = false
  relative : isAbsolute (utf8 path) = false
  parts : ∀ part ∈ (utf8 path).splitOn slash, part ≠ [] /\ part ≠ [dot] /\ part ≠ [dot, dot]
  plain : isPlain path

/-- The same but for `.` parts, of which the first is none. -/
structure IsAcceptable (path : String) : Prop where
  first : ((utf8 path).splitOn slash).head? ≠ some [dot]
  parts : ∀ part ∈ (utf8 path).splitOn slash, part ≠ [] /\ part ≠ [dot, dot]
  plain : isPlain path

/-- The header has a `.` part, and it is the encoding of a path with which nothing else is
wrong. -/
def SpellsDot (header : List UInt8) : Prop :=
  [dot] ∈ header.splitOn slash /\ header.length <= 4096 /\
    ∃ path, IsAcceptable path /\ header = (utf8 path).flatMap encodeByte

theorem forall_byte {property : UInt8 -> Prop} (checked : ∀ code : Fin 256, property ⟨⟨code⟩⟩)
    (byte : UInt8) : property byte :=
  checked byte.toFin

theorem decodeHex_hexDigit : ∀ byte : UInt8, (isUnreserved byte -> byte ≠ percent) /\
    decodeHex (hexDigit (byte >>> 4)) = .ok (byte >>> 4) /\
      decodeHex (hexDigit (byte &&& 0x0F)) = .ok (byte &&& 0x0F) /\
      (byte >>> 4) <<< 4 ||| (byte &&& 0x0F) = byte :=
  forall_byte (by decide +kernel)

theorem encodeByte_mem (byte : UInt8) :
    ∀ code ∈ encodeByte byte, code < 0x80 /\ (code = slash -> byte = slash) := by
  have checked : ∀ byte : UInt8,
      (encodeByte byte).all (fun code => code < 0x80 /\ (code = slash -> byte = slash)) :=
    forall_byte (by decide +kernel)
  intro code mem
  exact of_decide_eq_true (List.all_eq_true.mp (checked byte) code mem)

theorem decodeBytes_flatMap_encodeByte (bytes : List UInt8) :
    decodeBytes (bytes.flatMap encodeByte) = .ok bytes := by
  induction bytes with
  | nil => rfl
  | cons byte rest ih =>
    rcases decodeHex_hexDigit byte with ⟨literal, high, low, joined⟩
    rw [flatMap_cons, encodeByte]
    split
    case isTrue unreserved =>
      rw [singleton_append, decodeBytes.eq_def]
      simp only [literal unreserved, ih]
      rfl
    case isFalse =>
      simp [decodeBytes, high, low, ih, joined, bind, Except.bind, pure, Except.pure]

theorem splitOn_append {front : List UInt8} (free : slash ∉ front) (back : List UInt8) :
    (front ++ back).splitOn slash = (back.splitOn slash).modifyHead (front ++ ·) := by
  induction front with
  | nil => exact (congrFun modifyHead_id _).symm
  | cons byte rest ih =>
    rw [mem_cons, not_or] at free
    rw [cons_append, splitOn_cons_eq_if_modifyHead, if_neg (by simpa using Ne.symm free.1),
      ih free.2, modifyHead_modifyHead]
    rfl

theorem splitOn_flatMap_encodeByte (bytes : List UInt8) : (bytes.flatMap encodeByte).splitOn slash =
      (bytes.splitOn slash).map (·.flatMap encodeByte) := by
  induction bytes with
  | nil => rfl
  | cons byte rest ih =>
    by_cases separates : byte = slash
    · subst separates
      simpa [splitOn_cons_eq_if_modifyHead, show encodeByte slash = [slash] by decide] using ih
    · have free : slash ∉ encodeByte byte :=
        fun mem => separates ((encodeByte_mem byte slash mem).2 rfl)
      rw [flatMap_cons, splitOn_append free, ih, splitOn_cons_eq_if_modifyHead,
        if_neg (by simpa using separates)]
      cases rest.splitOn slash <;> simp

/-- An empty part stands between two separators, or at an end. -/
theorem nil_mem_splitOn_iff (bytes : List UInt8) : [] ∈ bytes.splitOn slash <->
    bytes = [] \/ [slash] <+: bytes \/ [slash] <:+ bytes \/ [slash, slash] <:+: bytes := by
  constructor
  · have joined : [slash].intercalate (bytes.splitOn slash) = bytes := intercalate_splitOn slash
    generalize bytes.splitOn slash = parts at joined
    intro mem
    induction parts generalizing bytes with
    | nil => cases mem
    | cons part rest ih =>
      cases rest with
      | nil => exact .inl (by simp_all)
      | cons =>
        rw [intercalate_cons_cons] at joined
        subst joined
        rcases mem_cons.mp mem with rfl | mem
        · exact .inr (.inl ⟨_, rfl⟩)
        · refine .inr (.inr ?_)
          rcases ih _ rfl mem with empty | ⟨back, start⟩ | finish | inside
          · exact .inl ⟨part, by rw [empty, append_nil]⟩
          · exact .inr ⟨part, back, by simp [<- start]⟩
          · exact .inl (finish.trans (suffix_append _ _))
          · exact .inr (inside.trans (suffix_append _ _).isInfix)
  · rintro (rfl | ⟨rest, rfl⟩ | ⟨front, rfl⟩ | ⟨front, rest, rfl⟩)
    · simp
    · simp [splitOn_cons_eq_if_modifyHead]
    · simp [splitOn_append_cons_self]
    · rw [append_assoc, cons_append, splitOn_append_cons_self]
      simp [splitOn_cons_eq_if_modifyHead]

theorem fromUTF8?_utf8 (text : String) : String.fromUTF8? ⟨(utf8 text).toArray⟩ = some text :=
  dif_pos text.isValidUTF8

theorem slash_not_mem {bytes part : List UInt8} (mem : part ∈ bytes.splitOn slash) :
    slash ∉ part := by
  induction bytes generalizing part with
  | nil => simp_all
  | cons byte rest ih =>
    rw [splitOn_cons_eq_if_modifyHead] at mem
    split at mem
    · rcases mem_cons.mp mem with rfl | later
      · exact not_mem_nil
      · exact ih later
    next apart =>
      rcases exists_cons_of_ne_nil (splitOn_ne_nil slash rest) with ⟨first, later, split⟩
      rw [split] at ih mem
      rcases mem_cons.mp mem with rfl | later
      · simp_all [Ne.symm]
      · exact ih (mem_cons_of_mem _ later)

section

variable {bytes : List UInt8} (first : (bytes.splitOn slash).head? ≠ some [dot])
  (parts : ∀ part ∈ bytes.splitOn slash, part ≠ [] /\ part ≠ [dot, dot])

include parts

theorem isAbsolute_eq_false : isAbsolute bytes = false := by
  refine decide_eq_false fun absolute => (parts [] ?_).1 rfl
  refine (nil_mem_splitOn_iff bytes).mpr (.inr (.inl ?_))
  rcases head?_eq_some_iff.mp absolute with ⟨rest, rfl⟩
  exact ⟨rest, rfl⟩

include first

theorem components_eq :
    components bytes = ((bytes.splitOn slash).filter (· ≠ [dot])).map .normal := by
  have kept : (bytes.splitOn slash).filter (fun part => part ≠ [] /\ part ≠ [dot]) =
      (bytes.splitOn slash).filter (· ≠ [dot]) :=
    filter_congr fun part mem => by simp [parts part mem]
  unfold components
  simp only [isAbsolute_eq_false parts, first, kept]
  exact map_congr_left fun part mem => if_neg (parts part (mem_filter.mp mem).1).2

theorem isIrregular_eq_false : isIrregular bytes = false := by
  have normal := components_eq first parts
  generalize named : (bytes.splitOn slash).filter (· ≠ [dot]) = names at normal
  have listed : ∀ part ∈ names, part ∈ bytes.splitOn slash /\ part ≠ [dot] := by
    intro part mem
    rw [<- named, mem_filter, decide_eq_true_eq] at mem
    exact mem
  have joined : ([slash].intercalate names).splitOn slash = names := by
    refine splitOn_intercalate slash (fun part mem => slash_not_mem (listed part mem).1) ?_
    rintro rfl
    rcases exists_cons_of_ne_nil (splitOn_ne_nil slash bytes) with ⟨part, rest, split⟩
    rw [split] at named first
    simp_all
  have again : components ([slash].intercalate names) = names.map .normal := by
    rw [components_eq, joined, filter_eq_self.mpr]
    · exact fun part mem => decide_eq_true (listed part mem).2
    · rw [joined]
      exact fun head => (listed _ (mem_of_mem_head? head)).2 rfl
    · rw [joined]
      exact fun part mem => parts part (listed part mem).1
  unfold isIrregular
  rw [normal, map_map, show Component.bytes ∘ Component.normal = id from rfl, map_id, again,
    isAbsolute_eq_false parts]
  simp [Component.bytes]

end

variable {header : List UInt8} {path : String}

theorem decodeRelativePath_ok (ok : decodeRelativePath header = .ok path) :
    [] ∉ header.splitOn slash /\ isPlain path /\ isIrregular (utf8 path) = false /\
      encodeRelativePath path = .ok header := by
  rcases bind_inv ok with ⟨_, formed, ok⟩
  rcases bind_inv ok with ⟨decoded, _, ok⟩
  split at ok
  · cases ok
  · simp only [bind_eq_ok_iff] at ok
    rcases ok with ⟨_, plain, _, regular, again, encoded, _, same, ok⟩
    cases ok
    simp only [refuse_eq_ok_iff, Bool.or_eq_false_iff, decide_eq_false_iff_not,
      isEmpty_eq_false_iff, Bool.not_eq_false', not_not] at formed plain regular same
    rcases formed with ⟨⟨⟨⟨⟨filled, _⟩, start⟩, finish⟩, inside⟩, _⟩
    refine ⟨?_, plain, regular, same ▸ encoded⟩
    rw [nil_mem_splitOn_iff]
    simp [filled, start, finish, inside]

theorem encodeRelativePath_iff : encodeRelativePath path = .ok header <->
    (path.isEmpty = false /\ isIrregular (utf8 path) = false) /\ header.length <= 4096 /\
      header = (utf8 path).flatMap encodeByte := by
  simp only [encodeRelativePath, bind_eq_ok_iff, refuse_eq_ok_iff, Bool.or_eq_false_iff,
    decide_eq_false_iff_not, Nat.not_lt, pure, Except.pure, Except.ok.injEq, exists_const]
  constructor
  · rintro ⟨regular, short, rfl⟩
    exact ⟨regular, short, rfl⟩
  · rintro ⟨regular, short, rfl⟩
    exact ⟨regular, short, rfl⟩

/-- A part that is its own encoding stands in both or in none. -/
theorem mem_header_iff {part : List UInt8} (literal : part.flatMap encodeByte = part) :
    part ∈ ((utf8 path).flatMap encodeByte).splitOn slash <-> part ∈ (utf8 path).splitOn slash := by
  rw [splitOn_flatMap_encodeByte, mem_map]
  constructor
  · rintro ⟨other, mem, same⟩
    have decoded := decodeBytes_flatMap_encodeByte other
    rw [same, <- literal, decodeBytes_flatMap_encodeByte] at decoded
    cases decoded
    exact mem
  · exact fun mem => ⟨part, mem, literal⟩

theorem isAcceptable_of_decode (ok : decodeRelativePath header = .ok path) :
    IsAcceptable path /\ encodeRelativePath path = .ok header := by
  rcases decodeRelativePath_ok ok with ⟨filled, plain, regular, encoded⟩
  rcases encodeRelativePath_iff.mp encoded with ⟨_, _, rfl⟩
  unfold isIrregular at regular
  rw [Bool.or_eq_false_iff, Bool.or_eq_false_iff, any_eq_false] at regular
  rcases regular with ⟨⟨relative, normal⟩, _⟩
  refine ⟨⟨fun head => normal .curDir (mem_append_left _ ?_) rfl, fun part mem => ⟨?_, ?_⟩, plain⟩,
    encoded⟩
  · simp [relative, head]
  · rintro rfl
    exact filled ((mem_header_iff rfl).mpr mem)
  · rintro rfl
    refine normal .parentDir (mem_append_right _ (mem_map.mpr ⟨[dot, dot], ?_, rfl⟩)) rfl
    exact mem_filter.mpr ⟨mem, rfl⟩

namespace IsAcceptable

variable (acceptable : IsAcceptable path)

include acceptable

theorem encoded (short : ((utf8 path).flatMap encodeByte).length <= 4096) :
    encodeRelativePath path = .ok ((utf8 path).flatMap encodeByte) := by
  refine encodeRelativePath_iff.mpr
    ⟨⟨?_, isIrregular_eq_false acceptable.first acceptable.parts⟩, short, rfl⟩
  by_contra empty
  rw [Bool.not_eq_false, String.isEmpty_iff] at empty
  subst empty
  exact (acceptable.parts [] (by decide)).1 rfl

theorem decoded (encoded : encodeRelativePath path = .ok header) :
    decodeRelativePath header = .ok path := by
  have regular := isIrregular_eq_false acceptable.first acceptable.parts
  rcases encodeRelativePath_iff.mp encoded with ⟨_, short, same⟩
  have filled : [] ∉ header.splitOn slash := by
    rw [same, mem_header_iff rfl]
    exact fun mem => (acceptable.parts [] mem).1 rfl
  rw [nil_mem_splitOn_iff] at filled
  simp only [not_or] at filled
  have ascii : header.any (0x80 <= ·) = false := by
    rw [same, any_eq_false]
    intro code mem
    rcases mem_flatMap.mp mem with ⟨byte, _, inside⟩
    simpa using (encodeByte_mem byte code inside).1
  refine bind_eq_ok_iff.mpr ⟨(), ?_, bind_eq_ok_iff.mpr ⟨utf8 path, ?_, ?_⟩⟩
  · simp [filled, ascii, short]
  · rw [same, decodeBytes_flatMap_encodeByte]
  · simp only [fromUTF8?_utf8, acceptable.plain, regular, encoded]
    simp [refuse, bind, Except.bind, pure, Except.pure]

theorem canonical (free : [dot] ∉ (utf8 path).splitOn slash)
    (encoded : encodeRelativePath path = .ok header) : IsCanonical path where
  nonempty := (encodeRelativePath_iff.mp encoded).1.1
  relative := isAbsolute_eq_false acceptable.parts
  parts part mem := by
    refine ⟨(acceptable.parts part mem).1, ?_, (acceptable.parts part mem).2⟩
    rintro rfl
    exact free mem
  plain := acceptable.plain

end IsAcceptable

theorem IsCanonical.acceptable (canonical : IsCanonical path) : IsAcceptable path where
  first head := (canonical.parts _ (mem_of_mem_head? head)).2.1 rfl
  parts part mem := ⟨(canonical.parts part mem).1, (canonical.parts part mem).2.2⟩
  plain := canonical.plain

theorem prefix_foldl_enter (names root : List (List UInt8)) :
    root <+: (names.map .normal).foldl enter root := by
  induction names generalizing root with
  | nil => exact prefix_refl root
  | cons name rest ih => exact (prefix_append root [name]).trans (ih _)

/-- A header is decoded to the canonical paths whose encoding it is and to nothing else,
exactly when it does not spell a `.` part that decoding passes over.  Whatever it spells, no
other header has the same path, and the path does not leave the root that it is joined to. -/
theorem canonical_header_bijection (header : List UInt8) :
    ((∀ path, decodeRelativePath header = .ok path <->
        IsCanonical path /\ encodeRelativePath path = .ok header /\ header.length <= 4096) <->
      ¬ SpellsDot header) /\
    ∀ path, decodeRelativePath header = .ok path ->
      (∀ other, decodeRelativePath other = .ok path -> other = header) /\
        ∀ root, root <+: locate root path := by
  refine ⟨⟨?_, fun undotted path => ⟨fun ok => ?_, fun both => ?_⟩⟩, fun path ok => ⟨?_, ?_⟩⟩
  · rintro bijective ⟨dotted, short, path, acceptable, rfl⟩
    have ok := acceptable.decoded (acceptable.encoded short)
    exact (((bijective path).mp ok).1.parts [dot] ((mem_header_iff rfl).mp dotted)).2.1 rfl
  · rcases isAcceptable_of_decode ok with ⟨acceptable, encoded⟩
    rcases encodeRelativePath_iff.mp encoded with ⟨_, short, rfl⟩
    refine ⟨acceptable.canonical (fun mem => undotted ?_) encoded, encoded, short⟩
    exact ⟨(mem_header_iff rfl).mpr mem, short, path, acceptable, rfl⟩
  · exact both.1.acceptable.decoded both.2.1
  · intro other again
    have same := (isAcceptable_of_decode ok).2.symm.trans (isAcceptable_of_decode again).2
    exact (Except.ok.inj same).symm
  · intro root
    have acceptable := (isAcceptable_of_decode ok).1
    unfold locate
    rw [components_eq acceptable.first acceptable.parts]
    exact prefix_foldl_enter _ root

/-- A header that spells a path with a `.` part is decoded, besides the one without. -/
theorem dotted_header_is_decoded : decodeRelativePath (utf8 "a/./b") = .ok "a/./b" /\
    ¬ IsCanonical "a/./b" /\ decodeRelativePath (utf8 "a/b") = .ok "a/b" /\
    locate [] "a/./b" = locate [] "a/b" := by
  refine ⟨by decide +kernel, fun canonical => ?_, by decide +kernel, by decide +kernel⟩
  exact (canonical.parts [dot] (by decide +kernel)).2.1 rfl

end FileTransfer
end OpenKit
