import CommitCiPreflight.Text
import Mathlib.Algebra.GroupWithZero.Nat

/-! The operations of `str` that cut a text: into lines, at white space, and at a byte offset.
An offset inside a character is no place to cut. -/
namespace CommitCiPreflight
namespace Text

/-- `str::strip_suffix`. -/
def stripSuffix (s p : String) : Option String :=
  if p.toList <:+ s.toList then
    some (String.ofList (s.toList.take (s.toList.length-p.toList.length)))
  else none

/-- `str::lines`: a line ends at `\n` or `\r\n`, and the last one may do without. -/
def lines (s : String) : List String :=
  let pieces := split s '\n'
  pieces.dropLast.map (fun line => (stripSuffix line "\r").getD line) ++
    (pieces.getLast?.toList.filter (· ≠ ""))

/-- `str::split_whitespace`. -/
def splitWhitespace (s : String) : List String :=
  ((s.toList.splitOnP isWhitespace).filter (· ≠ [])).map String.ofList

/-- `u8::is_ascii_whitespace`. -/
def isAsciiWhitespace (b : UInt8) : Bool := b ∈ [0x20,0x09,0x0a,0x0c,0x0d]

/-- The characters before and after so many bytes. -/
def splitBytes : List Char → ℕ → Option (List Char × List Char)
  | cs,0 => some ([],cs)
  | [],_+1 => none
  | c::cs,n+1 =>
    if c.utf8Size ≤ n+1 then (splitBytes cs (n+1-c.utf8Size)).map fun parts => (c::parts.1,parts.2)
    else none

/-- `str::split_at`, which panics at none. -/
def splitAt (s : String) (mid : ℕ) : Option (String × String) :=
  (splitBytes s.toList mid).map fun parts => (String.ofList parts.1,String.ofList parts.2)

/-- `&s[start..stop]`, which panics at none. -/
def slice (s : String) (start stop : ℕ) : Option String :=
  if start ≤ stop then (splitAt s stop).bind fun parts => (splitAt parts.1 start).map Prod.snd
  else none

variable {c : Char} {cs : List Char}

theorem utf8EncodeChar_ascii (h : c.toNat < 128) :
    String.utf8EncodeChar c = [UInt8.ofNat c.toNat] := by
  rw [String.utf8EncodeChar,if_pos (show c.val.toNat ≤ 127 from Nat.le_of_lt_succ h)]
  rfl

def byteCount (cs : List Char) : ℕ := (cs.map Char.utf8Size).sum

theorem utf8ByteSize_eq (s : String) : s.utf8ByteSize = byteCount s.toList := by
  rw [← length_bytes,← String.ofList_toList (s := s),bytes_ofList,String.toList_ofList]
  simp [byteCount,List.length_flatMap,String.length_utf8EncodeChar]

theorem splitBytes_append (xs ys : List Char) (n : ℕ) :
    splitBytes (xs++ys) (byteCount xs+n) =
      (splitBytes ys n).map fun parts => (xs++parts.1,parts.2) := by
  induction xs with
  | nil => simp [byteCount]
  | cons x xs ih =>
    have hx := x.utf8Size_pos
    obtain ⟨k,hk⟩ : ∃ k, byteCount (x::xs)+n = k+1 := ⟨_,(Nat.succ_pred (by
      simp only [byteCount,List.map_cons,List.sum_cons]
      omega)).symm⟩
    have hle : x.utf8Size ≤ k+1 := by
      simp only [byteCount,List.map_cons,List.sum_cons] at hk
      omega
    have hrest : k+1-x.utf8Size = byteCount xs+n := by
      simp only [byteCount,List.map_cons,List.sum_cons] at hk ⊢
      omega
    rw [hk,List.cons_append,splitBytes,if_pos hle,hrest,ih,Option.map_map]
    rfl

theorem splitBytes_zero (cs : List Char) : splitBytes cs 0 = some ([],cs) := by
  cases cs <;> rfl

theorem splitAt_append (s t : String) :
    splitAt (s++t) s.utf8ByteSize = some (s,t) := by
  have h := splitBytes_append s.toList t.toList 0
  rw [splitBytes_zero,add_zero] at h
  rw [splitAt,String.toList_append,utf8ByteSize_eq,h]
  simp

theorem byteCount_ascii (h : ∀ c ∈ cs, c.toNat < 128) : byteCount cs = cs.length := by
  have hone : ∀ c ∈ cs, c.utf8Size = 1 := by
    intro c hc
    rw [← String.length_utf8EncodeChar,utf8EncodeChar_ascii (h c hc)]
    rfl
  rw [byteCount,List.map_congr_left hone]
  simp

theorem splitAt_ascii {s : String} (h : ∀ c ∈ s.toList, c.toNat < 128) {mid : ℕ}
    (hmid : mid ≤ s.toList.length) :
    splitAt s mid = some (String.ofList (s.toList.take mid),String.ofList (s.toList.drop mid)) := by
  have hsize : (String.ofList (s.toList.take mid)).utf8ByteSize = mid := by
    rw [utf8ByteSize_eq,String.toList_ofList,
      byteCount_ascii fun c hc => h c (List.mem_of_mem_take hc),List.length_take]
    omega
  have hcut := splitAt_append (String.ofList (s.toList.take mid)) (String.ofList (s.toList.drop mid))
  rwa [hsize,← String.ofList_append,List.take_append_drop,String.ofList_toList] at hcut

theorem slice_ascii {s : String} (h : ∀ c ∈ s.toList, c.toNat < 128) {start stop : ℕ}
    (hle : start ≤ stop) (hstop : stop ≤ s.toList.length) :
    slice s start stop = some (String.ofList ((s.toList.take stop).drop start)) := by
  rw [slice,if_pos hle,splitAt_ascii h hstop,Option.bind_some,splitAt_ascii,Option.map_some,
    String.toList_ofList]
  · intro c hc
    rw [String.toList_ofList] at hc
    exact h c (List.mem_of_mem_take hc)
  · rw [String.toList_ofList,List.length_take]
    omega

theorem splitBytes_singleton {n : ℕ} (hpos : 0 < n) (hlt : n < c.utf8Size) :
    splitBytes [c] n = none := by
  obtain ⟨k,rfl⟩ := Nat.exists_eq_succ_of_ne_zero hpos.ne'
  rw [splitBytes,if_neg (by omega)]

/-- Cutting off the last byte fails exactly where the last character takes more than one. -/
theorem splitAt_last (s : String) :
    splitAt s (s.utf8ByteSize-1) = none ↔ ∃ c, s.toList.getLast? = some c ∧ 1 < c.utf8Size := by
  rw [splitAt,Option.map_eq_none_iff,utf8ByteSize_eq]
  induction s.toList using List.reverseRecOn with
  | nil => simp [byteCount,splitBytes]
  | append_singleton cs c =>
    have hsize : byteCount (cs++[c])-1 = byteCount cs+(c.utf8Size-1) := by
      have hc := c.utf8Size_pos
      simp only [byteCount,List.map_append,List.sum_append,List.map_cons,List.map_nil,
        List.sum_cons,List.sum_nil]
      omega
    rw [hsize,splitBytes_append,Option.map_eq_none_iff]
    simp only [List.getLast?_append,List.getLast?_singleton,Option.some_or,Option.some.injEq,
      exists_eq_left']
    constructor
    · intro h
      by_contra hsmall
      rw [show c.utf8Size-1 = 0 by omega,splitBytes_zero] at h
      simp at h
    · intro h
      exact splitBytes_singleton (by omega) (by omega)

theorem splitOnce_eq {s key value : String} {sep : Char}
    (hs : s.toList = key.toList++sep::value.toList) (h : sep ∉ key.toList) :
    splitOnce s sep = some (key,value) := by
  have htake : s.toList.takeWhile (· ≠ sep) = key.toList := by
    rw [hs,List.takeWhile_append_of_pos (by simpa using fun c hc => ne_of_mem_of_not_mem hc h)]
    simp
  rw [splitOnce,if_pos (by simp [hs])]
  simp only [htake]
  simp [hs]

theorem digit_bounds (h : c.isDigit = true) : 48 ≤ c.toNat ∧ c.toNat ≤ 57 := by
  rw [Char.isDigit,Bool.and_eq_true,decide_eq_true_eq,decide_eq_true_eq] at h
  exact ⟨UInt32.le_iff_toNat_le.1 h.1,UInt32.le_iff_toNat_le.1 h.2⟩

theorem bytes_ascii (h : ∀ c ∈ cs, c.toNat < 128) :
    bytes (String.ofList cs) = cs.map fun c => UInt8.ofNat c.toNat := by
  rw [bytes_ofList]
  induction cs with
  | nil => rfl
  | cons c cs ih =>
    rw [List.forall_mem_cons] at h
    rw [List.flatMap_cons,utf8EncodeChar_ascii h.1,ih h.2,List.map_cons,List.singleton_append]

theorem isAsciiDigit_ofNat {n : ℕ} (hlow : 48 ≤ n) (hhigh : n ≤ 57) :
    isAsciiDigit (UInt8.ofNat n) = true := by
  have hn : (UInt8.ofNat n).toNat = n := UInt8.toNat_ofNat_of_lt' (show n < 256 by omega)
  have hzero : (ascii '0').toNat = 48 := rfl
  have hnine : (ascii '9').toNat = 57 := rfl
  rw [isAsciiDigit,Bool.and_eq_true,decide_eq_true_eq,decide_eq_true_eq,UInt8.le_iff_toNat_le,
    UInt8.le_iff_toNat_le,hn,hzero,hnine]
  exact ⟨hlow,hhigh⟩

theorem bytes_digits (h : cs.all Char.isDigit = true) :
    (bytes (String.ofList cs)).all isAsciiDigit = true ∧
      (String.ofList cs).utf8ByteSize = cs.length := by
  rw [List.all_eq_true] at h
  have hascii : ∀ c ∈ cs, c.toNat < 128 := fun c hc => by
    have := digit_bounds (h c hc)
    omega
  rw [← length_bytes,bytes_ascii hascii]
  refine ⟨?_,List.length_map _⟩
  rw [List.all_eq_true,List.forall_mem_map]
  intro c hc
  exact isAsciiDigit_ofNat (digit_bounds (h c hc)).1 (digit_bounds (h c hc)).2

theorem ofDigitChars_lt (h : cs.all Char.isDigit = true) :
    Nat.ofDigitChars 10 cs 0 < 10^cs.length := by
  have hstep : ∀ (cs : List Char) (n k : ℕ), cs.all Char.isDigit = true → n < 10^k →
      Nat.ofDigitChars 10 cs n < 10^(k+cs.length) := by
    intro cs
    induction cs with
    | nil => intro n k _ hn; simpa using hn
    | cons c cs ih =>
      intro n k hcs hn
      rw [List.all_cons,Bool.and_eq_true] at hcs
      have hc := digit_bounds hcs.1
      have hzero : '0'.toNat = 48 := rfl
      rw [Nat.ofDigitChars_cons,hzero,List.length_cons,show k+(cs.length+1) = k+1+cs.length by omega]
      refine ih _ _ hcs.2 ?_
      rw [pow_succ]
      omega
  simpa using hstep cs 0 0 h (by decide)

theorem parseUnsigned_digits (hne : cs ≠ []) (h : cs.all Char.isDigit = true) (width : ℕ) :
    parseUnsigned width (String.ofList cs) =
      if Nat.ofDigitChars 10 cs 0 < 2^width then some (Nat.ofDigitChars 10 cs 0) else none := by
  rw [parseUnsigned,String.toList_ofList]
  split
  · rw [List.all_cons,Bool.and_eq_true] at h
    exact absurd h.1 (by decide)
  · rw [parseDigits,if_pos ⟨hne,h⟩]
    rfl

end Text
end CommitCiPreflight
