import CommitCiPreflight.ConfigSpec
import CommitCiPreflight.Resource
import Mathlib.Algebra.Order.Floor.Semifield
import Mathlib.Data.Rat.Floor

/-! The host probe: the sizes of the swap line are exact, and the only output on which the parsers
abort is a size that ends inside a character. -/
namespace CommitCiPreflight

open Outcome

inductive SizeUnit
  | byte
  | kibi
  | mebi
  | gibi
  | tebi
  deriving DecidableEq

namespace SizeUnit

def letter : SizeUnit → Char
  | byte => 'B'
  | kibi => 'K'
  | mebi => 'M'
  | gibi => 'G'
  | tebi => 'T'

def factor : SizeUnit → ℕ
  | byte => 1
  | kibi => 2^10
  | mebi => 2^20
  | gibi => 2^30
  | tebi => 2^40

theorem sizeMultiplier_letter (unit : SizeUnit) :
    sizeMultiplier (String.singleton unit.letter) = some unit.factor := by
  cases unit <;> rfl

theorem utf8Size_letter (unit : SizeUnit) : unit.letter.utf8Size = 1 := by
  cases unit <;> rfl

theorem factor_le (unit : SizeUnit) : unit.factor ≤ 2^40 := by
  cases unit <;> decide

end SizeUnit

/-- A size as the host writes it: digits, a dot, one or two digits and a unit. -/
structure SizeToken where
  whole : List Char
  fraction : List Char
  unit : SizeUnit
  whole_nonempty : whole ≠ []
  whole_digits : whole.all Char.isDigit = true
  fraction_nonempty : fraction ≠ []
  fraction_short : fraction.length ≤ 2
  fraction_digits : fraction.all Char.isDigit = true

namespace SizeToken

variable (token : SizeToken)

def text : String :=
  String.ofList (token.whole++ '.'::token.fraction)++String.singleton token.unit.letter

def wholeValue : ℕ := Nat.ofDigitChars 10 token.whole 0

def bytes : ℚ :=
  (token.wholeValue+Nat.ofDigitChars 10 token.fraction 0/10^token.fraction.length)*
    token.unit.factor

def rounded : ℕ := ⌊token.bytes⌋₊

def numerator : ℕ :=
  token.wholeValue*10^token.fraction.length+Nat.ofDigitChars 10 token.fraction 0

theorem rounded_eq :
    token.rounded = token.numerator*token.unit.factor/10^token.fraction.length := by
  have hscale : ((10 ^ token.fraction.length : ℕ) : ℚ) ≠ 0 := by positivity
  rw [rounded,← Nat.floor_div_eq_div (K := ℚ)]
  congr 1
  rw [bytes,numerator]
  push_cast at hscale ⊢
  field_simp

theorem wholeValue_le_rounded : token.wholeValue ≤ token.rounded := by
  have hfactor : 1 ≤ token.unit.factor := by cases token.unit <;> decide
  rw [rounded_eq,Nat.le_div_iff_mul_le (by positivity)]
  calc token.wholeValue*10^token.fraction.length
      ≤ token.numerator := Nat.le_add_right _ _
    _ ≤ token.numerator*token.unit.factor := Nat.le_mul_of_pos_right _ hfactor

theorem dot_notMem_whole : '.' ∉ token.whole := by
  intro h
  exact absurd (List.all_eq_true.1 token.whole_digits _ h) (by decide)

theorem splitAt_text : Text.splitAt token.text (token.text.utf8ByteSize-1) =
    some (String.ofList (token.whole++ '.'::token.fraction),
      String.singleton token.unit.letter) := by
  have hunit : (String.singleton token.unit.letter).utf8ByteSize = 1 := by
    rw [Text.utf8ByteSize_eq]
    simp [Text.byteCount,token.unit.utf8Size_letter]
  have hsize : token.text.utf8ByteSize-1 =
      (String.ofList (token.whole++ '.'::token.fraction)).utf8ByteSize := by
    rw [text,String.utf8ByteSize_append,hunit,Nat.add_sub_cancel]
  rw [hsize]
  exact Text.splitAt_append _ _

theorem parseSize_text : parseSize token.text =
    if token.wholeValue < 2^64 then ofOption .overflow (narrowU64 token.rounded)
    else .err .malformedOutput := by
  obtain ⟨hwhole,-⟩ := Text.bytes_digits token.whole_digits
  obtain ⟨hfraction,hlength⟩ := Text.bytes_digits token.fraction_digits
  have hsplit : Text.splitOnce (String.ofList (token.whole++ '.'::token.fraction)) '.' =
      some (String.ofList token.whole,String.ofList token.fraction) := by
    apply Text.splitOnce_eq
    · simp only [String.toList_ofList]
    · rw [String.toList_ofList]
      exact token.dot_notMem_whole
  have hdigits : isDigits (String.ofList token.whole) ∧ isDigits (String.ofList token.fraction) ∧
      (String.ofList token.fraction).utf8ByteSize ≤ 2 := by
    refine ⟨⟨?_,hwhole⟩,⟨?_,hfraction⟩,hlength ▸ token.fraction_short⟩
    · simpa using token.whole_nonempty
    · simpa using token.fraction_nonempty
  have hscale : 10^token.fraction.length ≤ 10^2 :=
    Nat.pow_le_pow_right (by decide) token.fraction_short
  have hpart : Nat.ofDigitChars 10 token.fraction 0 < 10^2 :=
    (Text.ofDigitChars_lt token.fraction_digits).trans_le hscale
  rw [parseSize,token.splitAt_text,expect_some,ok_bind]
  dsimp only
  rw [token.unit.sizeMultiplier_letter,ofOption,ok_bind,hsplit,ofOption,ok_bind]
  dsimp only
  rw [ensure,if_pos hdigits,ok_bind,hlength,parseU64,
    Text.parseUnsigned_digits token.whole_nonempty token.whole_digits,
    Text.parseUnsigned_digits token.fraction_nonempty token.fraction_digits,
    if_pos (show Nat.ofDigitChars 10 token.fraction 0 < 2^64 by omega)]
  change (ofOption _ (Option.map _ (if token.wholeValue < 2^64 then some token.wholeValue else none))
    >>= _) = _
  by_cases hfits : token.wholeValue < 2^64
  · have hproduct : token.wholeValue*10^token.fraction.length ≤ 2^64*10^2 :=
      Nat.mul_le_mul hfits.le hscale
    have hnumerator : token.numerator < 2^71 := by
      rw [numerator]
      omega
    have hbytes : token.numerator*token.unit.factor < 2^128 :=
      (Nat.mul_le_mul hnumerator.le token.unit.factor_le).trans_lt (by decide)
    have htoNat : (UInt64.ofNat token.wholeValue).toNat = token.wholeValue :=
      UInt64.toNat_ofNat_of_lt' hfits
    rw [if_pos hfits,if_pos hfits,Option.map_some,ofOption,ok_bind,htoNat,checkedU128,
      if_pos (by omega),Option.bind_some,Option.bind_some,checkedU128]
    change (ofOption _ (if token.numerator < 2^128 then some token.numerator else none) >>= _) = _
    rw [if_pos (by omega),ofOption,ok_bind,checkedU128,if_pos hbytes,ofOption,ok_bind,
      ← token.rounded_eq]
  · rw [if_neg hfits,if_neg hfits]
    rfl

end SizeToken

theorem narrowU64_eq_some {x : ℕ} {n : UInt64} : narrowU64 x = some n ↔ n.toNat = x := by
  have hn := n.toNat_lt
  unfold narrowU64
  split
  · rename_i h
    rw [Option.some.injEq,← UInt64.toNat_inj,UInt64.toNat_ofNat_of_lt' h,eq_comm]
  · rename_i h
    exact iff_of_false (by simp) (by omega)

/-- The figure is the denoted number rounded down. -/
theorem parseSize_eq_ok {token : SizeToken} {n : UInt64} :
    parseSize token.text = .ok n ↔ n.toNat = token.rounded := by
  have hn := n.toNat_lt
  have hwhole := token.wholeValue_le_rounded
  rw [token.parseSize_text]
  split
  · rw [ofOption_eq_ok,narrowU64_eq_some]
  · exact iff_of_false (by simp) (by omega)

/-- It is refused exactly where it does not fit. -/
theorem parseSize_eq_err {token : SizeToken} :
    (∃ e, parseSize token.text = .err e) ↔
      2^64 ≤ token.wholeValue ∨ 2^64 ≤ token.rounded := by
  rw [token.parseSize_text,narrowU64]
  split
  · split
    · exact iff_of_false (by simp [ofOption]) (by omega)
    · exact iff_of_true ⟨_,rfl⟩ (by omega)
  · exact iff_of_true ⟨_,rfl⟩ (by omega)

/-- The line of the host: the name, white space, and the three sizes between their words. -/
structure SwapLine (text : String) (total used free : SizeToken) : Prop where
  rest : ∃ rest, swapUsageRest text = some rest ∧
    (Text.splitWhitespace rest =
        ["total","=",total.text,"used","=",used.text,"free","=",free.text] ∨
      Text.splitWhitespace rest =
        ["total","=",total.text,"used","=",used.text,"free","=",free.text,"(encrypted)"])

section Line

variable {text : String} {total used free : SizeToken}

theorem absDiff_le_one {a b : UInt64} :
    absDiff a b ≤ 1 ↔ a.toNat ≤ b.toNat+1 ∧ b.toNat ≤ a.toNat+1 := by
  rw [absDiff]
  omega

theorem SwapLine.parse_eq_ok (h : SwapLine text total used free) {swap : SwapUsage} :
    parseSwapUsage (Text.bytes text) = .ok swap ↔
      swap.total.toNat = total.rounded ∧ swap.used.toNat = used.rounded ∧
        used.rounded+free.rounded < 2^64 ∧
        used.rounded+free.rounded ≤ total.rounded+1 ∧
        total.rounded ≤ used.rounded+free.rounded+1 := by
  obtain ⟨rest,hrest,hwords⟩ := h
  have hsizes : swapSizes (Text.splitWhitespace rest) =
      some (total.text,used.text,free.text) := by
    rcases hwords with hwords | hwords <;> rw [hwords] <;> rfl
  simp only [parseSwapUsage,readOutput,Text.fromUtf8_bytes,bind_eq_ok,exists_unit,ofOption_eq_ok,
    Option.some.injEq,exists_eq_left',hrest,hsizes,parseSize_eq_ok,checkedAdd_eq_some,
    ensure_eq_ok,absDiff_le_one,pure_eq,ok.injEq]
  constructor
  · rintro ⟨t,ht,u,hu,f,hf,sum,hsum,⟨hlow,hhigh⟩,rfl⟩
    have hbound := sum.toNat_lt
    exact ⟨ht,hu,by omega,by omega,by omega⟩
  · rintro ⟨ht,hu,hfits,hlow,hhigh⟩
    have hfree : (UInt64.ofNat free.rounded).toNat = free.rounded :=
      UInt64.toNat_ofNat_of_lt' (show free.rounded < 2^64 by omega)
    have hsum : (UInt64.ofNat (used.rounded+free.rounded)).toNat = used.rounded+free.rounded :=
      UInt64.toNat_ofNat_of_lt' hfits
    exact ⟨_,ht,_,hu,_,hfree,UInt64.ofNat (used.rounded+free.rounded),by rw [hu,hfree,hsum],
      ⟨by omega,by omega⟩,rfl⟩

end Line

theorem rounded_add {total used free : SizeToken} (h : total.bytes = used.bytes+free.bytes) :
    used.rounded+free.rounded ≤ total.rounded ∧ total.rounded ≤ used.rounded+free.rounded+1 := by
  have hnonneg : ∀ token : SizeToken, 0 ≤ token.bytes := by
    intro token
    rw [SizeToken.bytes]
    positivity
  have hused := Nat.floor_le (hnonneg used)
  have hfree := Nat.floor_le (hnonneg free)
  have hused' := Nat.lt_floor_add_one used.bytes
  have hfree' := Nat.lt_floor_add_one free.bytes
  have htotal := Nat.floor_le (hnonneg total)
  constructor
  · rw [SizeToken.rounded,SizeToken.rounded,SizeToken.rounded,Nat.le_floor_iff (hnonneg total)]
    push_cast
    linarith
  · have hlt : total.rounded < used.rounded+free.rounded+2 := by
      rw [SizeToken.rounded,SizeToken.rounded,SizeToken.rounded,Nat.floor_lt (hnonneg total)]
      push_cast
      linarith
    omega

/-- The figures of the swap line are exact. A size is its denoted number rounded down, and the line
is accepted exactly when the total fits and the parts add up to it, give or take one byte. -/
theorem swap_figures_exact :
    (∀ token : SizeToken,
      (∀ n : UInt64, parseSize token.text = .ok n ↔ n.toNat = ⌊token.bytes⌋₊) ∧
      ((∃ e, parseSize token.text = .err e) ↔
        2^64 ≤ token.wholeValue ∨ 2^64 ≤ ⌊token.bytes⌋₊) ∧
      parseSize token.text ≠ .panic) ∧
    ∀ (text : String) (total used free : SizeToken), SwapLine text total used free →
      ((∃ swap, parseSwapUsage (Text.bytes text) = .ok swap) ↔
        ⌊total.bytes⌋₊ < 2^64 ∧ ⌊used.bytes⌋₊+⌊free.bytes⌋₊ < 2^64 ∧
          ⌊used.bytes⌋₊+⌊free.bytes⌋₊ ≤ ⌊total.bytes⌋₊+1 ∧
          ⌊total.bytes⌋₊ ≤ ⌊used.bytes⌋₊+⌊free.bytes⌋₊+1) ∧
      (∀ swap, parseSwapUsage (Text.bytes text) = .ok swap →
        swap.total.toNat = ⌊total.bytes⌋₊ ∧ swap.used.toNat = ⌊used.bytes⌋₊) ∧
      (total.bytes = used.bytes+free.bytes → ⌊total.bytes⌋₊ < 2^64 →
        ∃ swap, parseSwapUsage (Text.bytes text) = .ok swap) := by
  have haccepted : ∀ {text : String} {total used free : SizeToken},
      SwapLine text total used free → total.rounded < 2^64 →
      used.rounded+free.rounded < 2^64 → used.rounded+free.rounded ≤ total.rounded+1 →
      total.rounded ≤ used.rounded+free.rounded+1 →
      ∃ swap, parseSwapUsage (Text.bytes text) = .ok swap := by
    intro text total used free hline htotal hfits hlow hhigh
    exact ⟨⟨UInt64.ofNat total.rounded,UInt64.ofNat used.rounded⟩,hline.parse_eq_ok.2
      ⟨UInt64.toNat_ofNat_of_lt' htotal,
        UInt64.toNat_ofNat_of_lt' (show used.rounded < 2^64 by omega),hfits,hlow,hhigh⟩⟩
  refine ⟨fun token => ⟨fun n => parseSize_eq_ok,parseSize_eq_err,?_⟩,
    fun text total used free hline => ⟨⟨?_,?_⟩,?_,?_⟩⟩
  · rw [token.parseSize_text]
    split <;> simp
  · rintro ⟨swap,hswap⟩
    obtain ⟨htotal,-,hfits,hlow,hhigh⟩ := hline.parse_eq_ok.1 hswap
    have hbound := swap.total.toNat_lt
    rw [htotal] at hbound
    exact ⟨hbound,hfits,hlow,hhigh⟩
  · rintro ⟨htotal,hfits,hlow,hhigh⟩
    exact haccepted hline htotal hfits hlow hhigh
  · intro swap hswap
    obtain ⟨htotal,hused,-⟩ := hline.parse_eq_ok.1 hswap
    exact ⟨htotal,hused⟩
  · intro hsum htotal
    obtain ⟨hlow,hhigh⟩ := rounded_add hsum
    change total.rounded < 2^64 at htotal
    exact haccepted hline htotal (by omega) (by omega) hhigh

def SizeToken.plain (whole : String) (unit : SizeUnit)
    (h : whole.toList ≠ [] ∧ whole.toList.all Char.isDigit = true) : SizeToken :=
  ⟨whole.toList,['0','0'],unit,h.1,h.2,by decide,by decide,by decide⟩

def SizeToken.fractional (digits : List Char)
    (h : digits ≠ [] ∧ digits.length ≤ 2 ∧ digits.all Char.isDigit = true) : SizeToken :=
  ⟨['0'],digits,.kibi,by decide,by decide,h.1,h.2.1,h.2.2⟩

theorem swap_figures_exact_sample :
    ∃ swap, parseSwapUsage (Text.bytes
      "vm.swapusage: total = 0.84K  used = 0.51K  free = 0.33K  (encrypted)\n") = .ok swap := by
  have hline : SwapLine "vm.swapusage: total = 0.84K  used = 0.51K  free = 0.33K  (encrypted)\n"
      (.fractional ['8','4'] (by decide)) (.fractional ['5','1'] (by decide))
      (.fractional ['3','3'] (by decide)) :=
    ⟨⟨" total = 0.84K  used = 0.51K  free = 0.33K  (encrypted)\n",by decide +kernel,
      .inr (by decide +kernel)⟩⟩
  refine (swap_figures_exact.2 _ _ _ _ hline).2.2 ?_ ?_
  · have hwhole : Nat.ofDigitChars 10 ['0'] 0 = 0 := rfl
    have htotal : Nat.ofDigitChars 10 ['8','4'] 0 = 84 := rfl
    have hused : Nat.ofDigitChars 10 ['5','1'] 0 = 51 := rfl
    have hfree : Nat.ofDigitChars 10 ['3','3'] 0 = 33 := rfl
    norm_num [SizeToken.bytes,SizeToken.fractional,SizeToken.wholeValue,SizeUnit.factor,hwhole,
      htotal,hused,hfree]
  · rw [← SizeToken.rounded,SizeToken.rounded_eq]
    decide

/-- A total of 2^64 bytes does not fit, whatever the parts add up to. -/
theorem swap_total_too_large :
    ∃ (text : String) (total used free : SizeToken), SwapLine text total used free ∧
      ⌊used.bytes⌋₊+⌊free.bytes⌋₊ < 2^64 ∧
      ⌊used.bytes⌋₊+⌊free.bytes⌋₊ ≤ ⌊total.bytes⌋₊+1 ∧
      ⌊total.bytes⌋₊ ≤ ⌊used.bytes⌋₊+⌊free.bytes⌋₊+1 ∧
      parseSwapUsage (Text.bytes text) = .err .overflow := by
  refine ⟨"vm.swapusage: total = 16777216.00T  used = 18446744073709551615.00B  free = 0.00B",
    .plain "16777216" .tebi (by decide),.plain "18446744073709551615" .byte (by decide),
    .plain "0" .byte (by decide),
    ⟨⟨" total = 16777216.00T  used = 18446744073709551615.00B  free = 0.00B",by decide +kernel,
      .inl (by decide +kernel)⟩⟩,?_,?_,?_,by decide +kernel⟩
  all_goals
    have hfloor := fun token : SizeToken => token.rounded_eq
    simp only [SizeToken.rounded] at hfloor
    simp only [hfloor]
    decide

theorem parseU64_ne_panic (text : String) : parseU64 text ≠ .panic := ofOption_ne_panic _ _

theorem readOutput_ne_panic (input : Bytes) : readOutput input ≠ .panic := ofOption_ne_panic _ _

theorem parseMemoryPressure_ne_panic (input : Bytes) : parseMemoryPressure input ≠ .panic := by
  refine bind_ne_panic (readOutput_ne_panic input) fun text _ => ?_
  refine bind_ne_panic (fold_ne_panic_of_step ?_ _ _) fun found _ => ofOption_ne_panic _ _
  intro found line
  unfold readFreePercentage
  split
  · simp
  · refine bind_ne_panic (ensure_ne_panic _ _) fun _ _ => ?_
    refine bind_ne_panic (ofOption_ne_panic _ _) fun _ _ => ?_
    refine bind_ne_panic (ofOption_ne_panic _ _) fun _ _ => ?_
    exact bind_ne_panic (ensure_ne_panic _ _) fun _ _ => by simp

theorem fillSlot_ne_panic (slot : Option UInt64) (value : String) :
    fillSlot slot value ≠ .panic := by
  refine bind_ne_panic (ensure_ne_panic _ _) fun _ _ => bind_ne_panic ?_ fun _ _ => by simp
  refine bind_ne_panic (ofOption_ne_panic _ _) fun digits _ => ?_
  exact bind_ne_panic (ensure_ne_panic _ _) fun _ _ => parseU64_ne_panic digits

theorem readVmStatLine_ne_panic (slots : VmStatSlots) (line : String) :
    readVmStatLine slots line ≠ .panic := by
  have hfill : ∀ (slot : Option UInt64) (value : String) (store : Option UInt64 → VmStatSlots),
      (fillSlot slot value >>= fun filled => pure (store filled) :
        Outcome ResourceProbeError VmStatSlots) ≠ .panic :=
    fun slot value store => bind_ne_panic (fillSlot_ne_panic slot value) fun _ _ => by simp
  unfold readVmStatLine
  split
  · simp
  · exact hfill _ _ _
  · exact hfill _ _ _
  · exact hfill _ _ _
  · exact hfill _ _ _
  · simp

theorem parseVmStat_ne_panic (input : Bytes) : parseVmStat input ≠ .panic := by
  refine bind_ne_panic (readOutput_ne_panic input) fun text _ => ?_
  refine bind_ne_panic (ofOption_ne_panic _ _) fun header _ => ?_
  refine bind_ne_panic (ofOption_ne_panic _ _) fun digits _ => ?_
  refine bind_ne_panic (parseU64_ne_panic digits) fun pageSize _ => ?_
  refine bind_ne_panic (ensure_ne_panic _ _) fun _ _ => ?_
  refine bind_ne_panic (fold_ne_panic_of_step readVmStatLine_ne_panic _ _) fun slots _ => ?_
  refine bind_ne_panic (ofOption_ne_panic _ _) fun _ _ => ?_
  refine bind_ne_panic (ofOption_ne_panic _ _) fun _ _ => ?_
  refine bind_ne_panic (ofOption_ne_panic _ _) fun _ _ => ?_
  exact bind_ne_panic (ofOption_ne_panic _ _) fun _ _ => by simp

theorem parseMemsize_ne_panic (input : Bytes) : parseMemsize input ≠ .panic := by
  refine bind_ne_panic (readOutput_ne_panic input) fun text _ => ?_
  refine bind_ne_panic (ensure_ne_panic _ _) fun _ _ => ?_
  refine bind_ne_panic (parseU64_ne_panic _) fun value _ => ?_
  exact bind_ne_panic (ensure_ne_panic _ _) fun _ _ => by simp

/-- The last character of the token takes more than one byte. -/
def endsInWideCharacter (token : String) : Prop :=
  ∃ c, token.toList.getLast? = some c ∧ 1 < c.utf8Size

/-- Only the cut before the last byte can abort. -/
theorem parseSize_eq_panic {token : String} :
    parseSize token = .panic ↔ endsInWideCharacter token := by
  rw [endsInWideCharacter,← Text.splitAt_last,parseSize]
  cases hsplit : Text.splitAt token (token.utf8ByteSize-1) with
  | none => simp [expect]
  | some parts =>
    refine iff_of_false ?_ (by simp)
    rw [expect_some,ok_bind]
    refine bind_ne_panic (ofOption_ne_panic _ _) fun _ _ => ?_
    refine bind_ne_panic (ofOption_ne_panic _ _) fun _ _ => ?_
    refine bind_ne_panic (ensure_ne_panic _ _) fun _ _ => ?_
    refine bind_ne_panic (parseU64_ne_panic _) fun _ _ => ?_
    refine bind_ne_panic (ofOption_ne_panic _ _) fun _ _ => ?_
    exact bind_ne_panic (ofOption_ne_panic _ _) fun _ _ => ofOption_ne_panic _ _

/-- The first of the sizes that is no size ends in a wide character. -/
def meetsWideCharacter : List String → Prop
  | [] => False
  | token::tokens => endsInWideCharacter token ∨
      (∃ bytes, parseSize token = .ok bytes) ∧ meetsWideCharacter tokens

/-- The sizes of a swap output that has the words of the line. -/
def swapTokens (input : Bytes) : Option (List String) :=
  ((Text.fromUtf8 input).bind swapUsageRest).bind fun rest =>
    (swapSizes (Text.splitWhitespace rest)).map fun sizes => [sizes.1,sizes.2.1,sizes.2.2]

theorem parseSwapUsage_eq_panic {input : Bytes} :
    parseSwapUsage input = .panic ↔
      ∃ tokens, swapTokens input = some tokens ∧ meetsWideCharacter tokens := by
  rw [parseSwapUsage,readOutput,swapTokens]
  cases htext : Text.fromUtf8 input with
  | none => simp [ofOption]
  | some text =>
  rw [ofOption,ok_bind,Option.bind_some]
  cases hrest : swapUsageRest text with
  | none => simp [ofOption]
  | some rest =>
  rw [ofOption,ok_bind,Option.bind_some]
  cases hsizes : swapSizes (Text.splitWhitespace rest) with
  | none => simp [ofOption]
  | some sizes =>
  obtain ⟨total,used,free⟩ := sizes
  rw [ofOption,ok_bind]
  simp only [bind_eq_panic,parseSize_eq_panic,Option.map_some,Option.some.injEq,exists_eq_left',
    meetsWideCharacter,and_false,or_false]
  constructor
  · rintro (htotal | ⟨t,ht,hused | ⟨u,hu,hfree | ⟨f,hf,hlast⟩⟩⟩)
    · exact .inl htotal
    · exact .inr ⟨⟨t,ht⟩,.inl hused⟩
    · exact .inr ⟨⟨t,ht⟩,.inr ⟨⟨u,hu⟩,hfree⟩⟩
    · simp at hlast
  · rintro (htotal | ⟨⟨t,ht⟩,hused | ⟨⟨u,hu⟩,hfree⟩⟩)
    · exact .inl htotal
    · exact .inr ⟨t,ht,.inl hused⟩
    · exact .inr ⟨t,ht,.inr ⟨u,hu,.inl hfree⟩⟩

structure ProbeOutputs where
  memoryPressure : Bytes
  vmStat : Bytes
  memSize : Bytes
  swapUsage : Bytes

def ProbeOutputs.run (outputs : ProbeOutputs) :
    ResourceCommand → Outcome ResourceProbeError Bytes
  | .memoryPressure => .ok outputs.memoryPressure
  | .vmStat => .ok outputs.vmStat
  | .memSize => .ok outputs.memSize
  | .swapUsage => .ok outputs.swapUsage

/-- The swap output is not looked at, has not the words of the line, or the first of its sizes
that is no size ends in a character of one byte. -/
def ProbeOutputs.Narrow (outputs : ProbeOutputs) : Prop :=
  (∀ percent, parseMemoryPressure outputs.memoryPressure ≠ .ok percent) ∨
    (∀ vmStat, parseVmStat outputs.vmStat ≠ .ok vmStat) ∨
    (∀ bytes, parseMemsize outputs.memSize ≠ .ok bytes) ∨
    ∀ tokens, swapTokens outputs.swapUsage = some tokens → ¬ meetsWideCharacter tokens

theorem validate_of_sample {run : ResourceCommand → Outcome ResourceProbeError Bytes}
    {snapshot : ResourceSnapshot} (h : ResourceProbe.sample run = .ok snapshot) :
    snapshot.validate = .ok () := by
  simp only [ResourceProbe.sample,bind_eq_ok,exists_unit,pure_eq,ok.injEq] at h
  obtain ⟨_,-,_,-,_,-,_,-,_,-,_,-,_,-,_,-,_,-,_,-,_,-,hvalid,rfl⟩ := h
  exact hvalid

theorem sample_eq_panic {outputs : ProbeOutputs} :
    ResourceProbe.sample outputs.run = .panic ↔ ¬ outputs.Narrow := by
  have hmemory := parseMemoryPressure_ne_panic outputs.memoryPressure
  have hvmStat := parseVmStat_ne_panic outputs.vmStat
  have hmemsize := parseMemsize_ne_panic outputs.memSize
  simp only [ResourceProbe.sample,ProbeOutputs.run,ok_bind,bind_eq_panic,hmemory,hvmStat,hmemsize,
    false_or,parseSwapUsage_eq_panic,ofOption_ne_panic,pagesToBytes,ResourceSnapshot.validate,
    ensure_ne_panic,pure_eq,reduceCtorEq,and_false,exists_false,or_false,ProbeOutputs.Narrow,not_or,
    not_forall,not_not,exists_prop]
  constructor
  · rintro ⟨percent,hpercent,vmStat,hvm,bytes,hbytes,htokens⟩
    exact ⟨⟨percent,hpercent⟩,⟨vmStat,hvm⟩,⟨bytes,hbytes⟩,htokens⟩
  · rintro ⟨⟨percent,hpercent⟩,⟨vmStat,hvm⟩,⟨bytes,hbytes⟩,htokens⟩
    exact ⟨percent,hpercent,vmStat,hvm,bytes,hbytes,htokens⟩

/-- A sample is a valid snapshot or an error, unless a size ends inside a character. -/
theorem sample_total_iff (outputs : ProbeOutputs) :
    (ResourceProbe.sample outputs.run ≠ .panic ∧
      ∀ snapshot, ResourceProbe.sample outputs.run = .ok snapshot → snapshot.validate = .ok ()) ↔
      outputs.Narrow := by
  rw [ne_eq,sample_eq_panic,not_not]
  exact and_iff_left fun _ => validate_of_sample

/-- The probe aborts on a unit of two bytes. -/
theorem sample_aborts :
    ResourceProbe.sample (ProbeOutputs.run {
      memoryPressure := Text.bytes "System-wide memory free percentage: 50%\n"
      vmStat := Text.bytes ("Mach Virtual Memory Statistics: (page size of 16384 bytes)\n"++
        "Pages free: 1.\nPages speculative: 1.\nPages inactive: 1.\n"++
        "Pages occupied by compressor: 1.\n")
      memSize := Text.bytes "17179869184\n"
      swapUsage := Text.bytes "vm.swapusage: total = 1.00µ  used = 0.00M  free = 1.00M\n" }) =
        .panic := by
  decide +kernel

end CommitCiPreflight
