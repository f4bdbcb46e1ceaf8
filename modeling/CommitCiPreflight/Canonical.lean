import CommitCiPreflight.JsonText
import CommitCiPreflight.Serde
import CommitCiPreflight.Sha256

/-! Canonical bytes and digests of `receipt.rs`. A value is sorted at every depth, printed
compactly and hashed; the hash and the decimal text of floats are crates the development
is parametric in. -/
namespace CommitCiPreflight

open JsonText

abbrev Bytes := List UInt8

/-- The code outside the repository: decimal text of floats and SHA-256. -/
structure Crates where
  floats : FloatText
  sha256 : Bytes → List.Vector UInt8 32

/-- Crates to evaluate the model with. The program writes no floats, so their text is left
as their bit pattern. -/
def Crates.reference : Crates := ⟨.bitPattern,Sha256.digest⟩

/-- `serde_json` refuses to read containers nested this deeply. -/
def recursionLimit : ℕ := 128

/-- `serde_json::to_vec`. -/
def toVec (crates : Crates) (v : Json) : Bytes :=
  Text.bytes (String.ofList (print crates.floats v))

/-- The document as written, repeated members included. -/
def readDocument (crates : Crates) (bytes : Bytes) : Option Json :=
  (Text.fromUtf8 bytes).bind fun s => parse crates.floats recursionLimit s.toList

/-- `serde_json::from_slice::<serde_json::Value>`. -/
def valueFromSlice (crates : Crates) (bytes : Bytes) : Option Json :=
  (readDocument crates bytes).map normalizeJson

/-- `serde_json::from_slice` for a record type. -/
def fromSlice {α : Type} (crates : Crates) (c : Codec α) (bytes : Bytes) : Option α :=
  (readDocument crates bytes).bind c.decode

/-- `serde_json::to_value`: the members are collected into a `BTreeMap`. -/
def toValue {α : Type} (c : Codec α) (x : α) : Json := normalizeJson (c.encode x)

def canonicalJson (crates : Crates) (v : Json) : Bytes := toVec crates (normalizeJson v)

def encodeHex (bytes : Bytes) : String :=
  String.ofList (bytes.flatMap fun b => [hexDigit (b.toNat/16),hexDigit (b.toNat%16)])

def receiptIdPrefix : String := "sha256:"

def canonicalDigest (crates : Crates) (v : Json) : String :=
  receiptIdPrefix++encodeHex (crates.sha256 (canonicalJson crates v)).toList

section

variable {crates : Crates}

theorem print_eq_of_toVec {v w : Json} (h : toVec crates v = toVec crates w) :
    print crates.floats v = print crates.floats w := by
  have hchars := congrArg String.toList (Text.bytes_injective h)
  rwa [String.toList_ofList,String.toList_ofList] at hchars

theorem readDocument_toVec {v : Json} (hfloats : v.FloatsIn crates.floats.readable)
    (h : v.nesting < recursionLimit) : readDocument crates (toVec crates v) = some v := by
  rw [readDocument,toVec,Text.fromUtf8_bytes,Option.bind_some,String.toList_ofList]
  exact parse_print _ hfloats h

theorem readDocument_nesting {bytes : Bytes} {v : Json} (h : readDocument crates bytes = some v) :
    v.nesting < recursionLimit := by
  obtain ⟨s,-,hs⟩ := Option.bind_eq_some_iff.1 h
  exact parse_nesting _ (by decide) hs

/-- Canonical bytes determine a value up to the order of its members. -/
theorem canonicalJson_eq_iff (hft : crates.floats.Lawful) {v w : Json} (hv : v.Distinct)
    (hw : w.Distinct) : canonicalJson crates v = canonicalJson crates w ↔ v.SameValue w := by
  rw [← normalizeJson_eq_iff hv hw]
  exact ⟨fun h => print_injective _ hft (print_eq_of_toVec h),fun h => congrArg (toVec crates) h⟩

theorem fromSlice_canonicalJson {α : Type} (c : Codec α) (hc : c.depth < recursionLimit) (x : α) :
    fromSlice crates c (canonicalJson crates (c.encode x)) = some x := by
  have hnesting : (normalizeJson (c.encode x)).nesting < recursionLimit :=
    ((nesting_normalizeJson_le _).trans (c.nesting_le x)).trans_lt hc
  rw [fromSlice,canonicalJson,readDocument_toVec (floatsIn_normalizeJson (c.floatsIn x _)) hnesting,
    Option.bind_some,c.decode_encode]

theorem canonicalJson_encode_injective {α : Type} (c : Codec α) {x y : α}
    (h : canonicalJson crates (c.encode x) = canonicalJson crates (c.encode y)) : x = y :=
  c.encode_injective (print_injective_of_readable _ (floatsIn_normalizeJson (c.floatsIn x _))
    (floatsIn_normalizeJson (c.floatsIn y _)) (print_eq_of_toVec h))

theorem hexDigit_inj : ∀ m < 16, ∀ n < 16, hexDigit m = hexDigit n → m = n := by decide

theorem encodeHex_injective {bs cs : Bytes} (h : encodeHex bs = encodeHex cs) : bs = cs := by
  have hchars := congrArg String.toList h
  simp only [encodeHex,String.toList_ofList] at hchars
  clear h
  induction bs generalizing cs with
  | nil => cases cs <;> simp_all
  | cons b bs ih =>
    cases cs with
    | nil => simp at hchars
    | cons c cs =>
      simp only [List.flatMap_cons,List.cons_append,List.nil_append,List.cons.injEq] at hchars
      have hb := b.toNat_lt
      have hc := c.toNat_lt
      have hhigh := hexDigit_inj _ (by omega) _ (by omega) hchars.1
      have hlow := hexDigit_inj _ (by omega) _ (by omega) hchars.2.1
      rw [ih hchars.2.2,show b = c from UInt8.toNat_inj.1 (by omega)]

theorem bytes_encodeHex (bs : Bytes) :
    (Text.bytes (encodeHex bs)).length = 2*bs.length ∧
      ∀ b ∈ Text.bytes (encodeHex bs), Text.isLowerHex b := by
  have hdigit : ∀ n < 16, (String.utf8EncodeChar (hexDigit n)).length = 1 ∧
      ∀ b ∈ String.utf8EncodeChar (hexDigit n), Text.isLowerHex b := by decide +kernel
  rw [encodeHex,Text.bytes_ofList]
  induction bs with
  | nil => simp
  | cons b bs ih =>
    have hhigh := hdigit (b.toNat/16) (by have := b.toNat_lt; omega)
    have hlow := hdigit (b.toNat%16) (by omega)
    simp only [List.flatMap_cons,List.cons_append,List.nil_append,List.length_append,
      List.mem_append,hhigh.1,hlow.1,ih.1,List.length_cons]
    refine ⟨by omega,?_⟩
    rintro x (hx | hx | hx)
    · exact hhigh.2 x hx
    · exact hlow.2 x hx
    · exact ih.2 x hx

theorem canonicalDigest_eq_iff {v w : Json} :
    canonicalDigest crates v = canonicalDigest crates w ↔
      crates.sha256 (canonicalJson crates v) = crates.sha256 (canonicalJson crates w) := by
  constructor
  · intro h
    have hchars := congrArg String.toList h
    simp only [canonicalDigest,String.toList_append] at hchars
    have hhex := encodeHex_injective (String.toList_inj.1 (List.append_cancel_left hchars))
    exact List.Vector.eq _ _ hhex
  · intro h
    rw [canonicalDigest,canonicalDigest,h]

end
end CommitCiPreflight
