import Mathlib.Data.List.DropRight
import Mathlib.Data.List.Infix
import Mathlib.Data.String.Basic

/-! The string operations of Rust's `str` and `char`. A string is a Lean `String`: its
code point order is the byte order of its UTF-8 encoding, which is the order `str`
compares by. Lengths and byte tests read the encoding itself. -/
namespace CommitCiPreflight
namespace Text

/-- `as_bytes`. -/
def bytes (s : String) : List UInt8 := s.toByteArray.data.toList

/-- `str::from_utf8`. -/
def fromUtf8 (bs : List UInt8) : Option String := String.fromUTF8? ⟨bs.toArray⟩

theorem fromUtf8_bytes (s : String) : fromUtf8 (bytes s) = some s := by
  simp only [fromUtf8,bytes,Array.toArray_toList,String.fromUTF8?]
  exact dif_pos s.isValidUTF8

variable {s : String}

theorem bytes_of_fromUtf8 {bs : List UInt8} (h : fromUtf8 bs = some s) : bytes s = bs := by
  unfold fromUtf8 String.fromUTF8? at h
  split at h
  · obtain rfl := Option.some.inj h
    rfl
  · simp at h

theorem bytes_injective : Function.Injective bytes := by
  intro s t h
  have hs := fromUtf8_bytes s
  rw [h,fromUtf8_bytes t] at hs
  exact (Option.some.inj hs).symm

theorem bytes_ofList (cs : List Char) :
    bytes (String.ofList cs) = cs.flatMap String.utf8EncodeChar := by
  simp [bytes,List.utf8Encode]

theorem bytes_append (s t : String) : bytes (s++t) = bytes s++bytes t := by
  simp [bytes]

theorem length_bytes (s : String) : (bytes s).length = s.utf8ByteSize := by
  simp [bytes]

theorem length_toList_le (s : String) : s.toList.length ≤ s.utf8ByteSize := by
  rw [← length_bytes,← String.ofList_toList (s := s),bytes_ofList,String.toList_ofList]
  induction s.toList with
  | nil => simp
  | cons c cs ih =>
    have hc := c.utf8Size_pos
    rw [List.flatMap_cons,List.length_append,List.length_cons,String.length_utf8EncodeChar]
    omega

theorem ascii_of_bytes (h : ∀ b ∈ bytes s, b.toNat < 128) {c : Char} (hc : c ∈ s.toList) :
    c.toNat < 128 ∧ UInt8.ofNat c.toNat ∈ bytes s := by
  have hencoded : ∀ b ∈ String.utf8EncodeChar c, b ∈ bytes s := by
    intro b hb
    rw [← String.ofList_toList (s := s),bytes_ofList]
    exact List.mem_flatMap.2 ⟨c,hc,hb⟩
  have hlast : ¬ c.val.toNat ≤ 127 →
      UInt8.ofNat (c.val.toNat%64+128) ∈ String.utf8EncodeChar c := by
    intro hlarge
    rw [String.utf8EncodeChar,if_neg hlarge]
    split
    · exact List.mem_cons_of_mem _ List.mem_cons_self
    · split
      · exact List.mem_cons_of_mem _ (List.mem_cons_of_mem _ List.mem_cons_self)
      · exact List.mem_cons_of_mem _
          (List.mem_cons_of_mem _ (List.mem_cons_of_mem _ List.mem_cons_self))
  have hsmall : c.val.toNat ≤ 127 := by
    by_contra hlarge
    have hbyte := h _ (hencoded _ (hlast hlarge))
    have hsize : c.val.toNat%64+128 < 256 := by omega
    rw [UInt8.toNat_ofNat_of_lt' hsize] at hbyte
    omega
  refine ⟨Nat.lt_succ_of_le hsmall,hencoded _ ?_⟩
  rw [String.utf8EncodeChar,if_pos hsmall]
  exact List.mem_cons_self

/-- A byte literal such as `b'-'`. -/
def ascii (c : Char) : UInt8 := c.toNat.toUInt8

def isAsciiDigit (b : UInt8) : Bool := ascii '0' ≤ b && b ≤ ascii '9'

/-- `byte.is_ascii_digit() || (b'a'..=b'f').contains(&byte)`. -/
def isLowerHex (b : UInt8) : Bool := isAsciiDigit b || (ascii 'a' ≤ b && b ≤ ascii 'f')

/-- `u8::is_ascii_hexdigit`. -/
def isAsciiHexdigit (b : UInt8) : Bool := isLowerHex b || (ascii 'A' ≤ b && b ≤ ascii 'F')

/-- `char::is_control`: the general category Cc. -/
def isControl (c : Char) : Bool := c.toNat < 0x20 || (0x7f ≤ c.toNat && c.toNat < 0xa0)

/-- `char::is_whitespace`: the White_Space property. -/
def isWhitespace (c : Char) : Bool :=
  (0x09 ≤ c.toNat && c.toNat ≤ 0x0d) || c.toNat == 0x20 || c.toNat == 0x85 ||
    c.toNat == 0xa0 || c.toNat == 0x1680 || (0x2000 ≤ c.toNat && c.toNat ≤ 0x200a) ||
    c.toNat == 0x2028 || c.toNat == 0x2029 || c.toNat == 0x202f || c.toNat == 0x205f ||
    c.toNat == 0x3000

def isAsciiAlphabetic (c : Char) : Bool := ('a' ≤ c && c ≤ 'z') || ('A' ≤ c && c ≤ 'Z')

def isAsciiAlphanumeric (c : Char) : Bool := isAsciiAlphabetic c || ('0' ≤ c && c ≤ '9')

/-- `str::trim`. -/
def trim (s : String) : String :=
  String.ofList ((s.toList.dropWhile isWhitespace).rdropWhile isWhitespace)

/-- `str::split` at one character. -/
def split (s : String) (sep : Char) : List String :=
  (s.toList.splitOn sep).map String.ofList

/-- `str::strip_prefix`. -/
def stripPrefix (s p : String) : Option String :=
  if p.toList <+: s.toList then some (String.ofList (s.toList.drop p.toList.length)) else none

/-- `str::starts_with` one character. -/
def startsWith (s : String) (c : Char) : Bool := s.toList.head? = some c

/-- `str::rsplit_once` at one character: the text before and after its last occurrence. -/
def rsplitOnce (s : String) (sep : Char) : Option (String × String) :=
  if sep ∈ s.toList then
    let after := s.toList.rtakeWhile (· ≠ sep)
    some (String.ofList (s.toList.take (s.toList.length-after.length-1)),String.ofList after)
  else none

/-- `str::split_once` at one character: the text before and after its first occurrence. -/
def splitOnce (s : String) (sep : Char) : Option (String × String) :=
  if sep ∈ s.toList then
    let before := s.toList.takeWhile (· ≠ sep)
    some (String.ofList before,String.ofList (s.toList.drop (before.length+1)))
  else none

/-- `str::trim_start_matches` of one character. -/
def trimStartMatches (s : String) (c : Char) : String :=
  String.ofList (s.toList.dropWhile (· = c))

/-- A nonempty text of decimal digits. -/
def parseDigits (digits : List Char) : Option ℕ :=
  if digits ≠ [] ∧ digits.all Char.isDigit then some (Nat.ofDigitChars 10 digits 0) else none

/-- `str::parse::<i32>`. -/
def parseI32 (s : String) : Option Int32 := do
  let n : ℤ ← match s.toList with
    | '-'::digits => (parseDigits digits).map fun n => -(n : ℤ)
    | '+'::digits => (parseDigits digits).map fun n => (n : ℤ)
    | digits => (parseDigits digits).map fun n => (n : ℤ)
  if -2147483648 ≤ n ∧ n < 2147483648 then some (Int32.ofInt n) else none

/-- `str::parse` of an unsigned integer of so many bits. -/
def parseUnsigned (width : ℕ) (s : String) : Option ℕ := do
  let n ← parseDigits (match s.toList with | '+'::digits => digits | digits => digits)
  if n < 2^width then some n else none

theorem stripPrefix_eq_some {p r : String} :
    stripPrefix s p = some r ↔ s.toList = p.toList ++ r.toList := by
  unfold stripPrefix
  split
  · rename_i h
    obtain ⟨t,ht⟩ := h
    rw [← ht,List.drop_left,Option.some.injEq,List.append_cancel_left_eq]
    constructor
    · rintro rfl
      simp
    · intro ht
      simp [ht]
  · rename_i h
    simp only [reduceCtorEq,false_iff]
    intro he
    exact h ⟨_,he.symm⟩

theorem startsWith_eq_true {c : Char} : startsWith s c = true ↔ ∃ r, s.toList = c::r := by
  rw [startsWith,decide_eq_true_eq,List.head?_eq_some_iff]

theorem intercalate_append_cons {sep : Char} (xs : List (List Char)) (y : List Char)
    (ys : List (List Char)) (h : xs ≠ []) :
    [sep].intercalate (xs++y::ys) =
      [sep].intercalate xs ++ sep::[sep].intercalate (y::ys) := by
  induction xs with
  | nil => simp at h
  | cons x xs ih =>
    cases xs with
    | nil => simp [List.intercalate_cons_cons]
    | cons z zs =>
      have hz := ih (by simp)
      simp only [List.cons_append,List.intercalate_cons_cons] at hz ⊢
      simp [hz]

/-- Splitting turns concatenation around a separator into concatenation of segments, so
one segment list is a prefix of another exactly when the texts are equal or the longer
one continues with the separator. -/
theorem splitOn_prefix_iff {sep : Char} {a b : List Char} :
    a.splitOn sep <+: b.splitOn sep ↔ a = b ∨ ∃ r, b = a ++ sep::r := by
  constructor
  · rintro ⟨t,ht⟩
    have hjoin := congrArg ([sep].intercalate ·) ht
    simp only [List.intercalate_splitOn] at hjoin
    cases t with
    | nil =>
      left
      simpa [List.intercalate_splitOn] using hjoin
    | cons x xs =>
      right
      refine ⟨[sep].intercalate (x::xs),?_⟩
      rw [← hjoin,intercalate_append_cons _ _ _ (List.splitOn_ne_nil sep a),
        List.intercalate_splitOn]
  · rintro (rfl | ⟨r,rfl⟩)
    · exact List.prefix_rfl
    · rw [List.splitOn_append_cons_self]
      exact List.prefix_append _ _

end Text

/-- `str::to_ascii_lowercase`. -/
def asciiLowercase (text : String) : List Char :=
  text.toList.map fun c => if 'A' ≤ c ∧ c ≤ 'Z' then Char.ofNat (c.toNat+32) else c

end CommitCiPreflight
