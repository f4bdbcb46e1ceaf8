import CommitCiPreflight.ReceiptSpec

/-! Canonical bytes as a canonical form, and what a receipt id therefore identifies. -/
namespace CommitCiPreflight

open Outcome Receipt

/-- A `serde_json::Value`. -/
abbrev JsonValue := {v : Json // v.Distinct}

/-- The hash does not confuse these two inputs. No function to 32 bytes keeps all inputs
apart, so the absence of collisions is assumed of the inputs at hand. -/
def Crates.NoCollision (crates : Crates) (a b : Bytes) : Prop :=
  crates.sha256 a = crates.sha256 b → a = b

namespace ReceiptVersion

variable {ρ : Type} {version : ReceiptVersion ρ} {crates : Crates} {envelope : ReceiptEnvelope ρ}

theorem sealReceipt_eq_ok {receipt : ρ} :
    version.sealReceipt crates receipt = .ok envelope ↔
      version.validate crates receipt = .ok () ∧
        envelope = ⟨version.digest crates receipt,receipt⟩ := by
  simp only [sealReceipt,bind_eq_ok,exists_unit,pure_eq,ok.injEq,@eq_comm _ _ envelope]

theorem verify_eq_ok :
    version.verify crates envelope = .ok () ↔
      version.validate crates envelope.receipt = .ok () ∧
        envelope.receiptId = version.digest crates envelope.receipt := by
  simp only [verify,bind_eq_ok,exists_unit,ensure_eq_ok]

theorem verify_of_sealReceipt {receipt : ρ}
    (h : version.sealReceipt crates receipt = .ok envelope) :
    version.verify crates envelope = .ok () := by
  obtain ⟨hvalid,rfl⟩ := sealReceipt_eq_ok.1 h
  exact verify_eq_ok.2 ⟨hvalid,rfl⟩

/-- What sealing promises of one receipt version. -/
structure Canonical (version : ReceiptVersion ρ) (crates : Crates) : Prop where
  /-- The bytes of a sealed envelope read back as that envelope, which verifies. -/
  roundTrip : ∀ receipt envelope, version.sealReceipt crates receipt = .ok envelope →
    ∃ bytes, version.canonicalBytes crates envelope = .ok bytes ∧
      fromSlice crates version.envelopeCodec bytes = some envelope ∧
      version.verify crates envelope = .ok ()
  /-- A receipt id identifies a receipt. -/
  identifies : ∀ first second : ReceiptEnvelope ρ,
    version.verify crates first = .ok () → version.verify crates second = .ok () →
    crates.NoCollision (canonicalJson crates (version.codec.encode first.receipt))
      (canonicalJson crates (version.codec.encode second.receipt)) →
    first.receiptId = second.receiptId → first.receipt = second.receipt

theorem canonical_of_depth (hdepth : version.envelopeCodec.depth < recursionLimit) :
    version.Canonical crates where
  roundTrip receipt envelope h := by
    have hverify := verify_of_sealReceipt h
    refine ⟨_,?_,fromSlice_canonicalJson version.envelopeCodec hdepth envelope,hverify⟩
    rw [canonicalBytes,hverify,ok_bind,pure_eq]
  identifies first second hfirst hsecond hcollision hid := by
    rw [(verify_eq_ok.1 hfirst).2,(verify_eq_ok.1 hsecond).2] at hid
    have hbytes := hcollision (canonicalDigest_eq_iff.1 hid)
    exact canonicalJson_encode_injective version.codec hbytes

end ReceiptVersion

theorem valueFromSlice_canonicalJson {crates : Crates} {v : Json}
    (hfloats : v.FloatsIn crates.floats.readable) (h : v.nesting < recursionLimit) :
    valueFromSlice crates (canonicalJson crates v) = some (normalizeJson v) := by
  have hnesting := (nesting_normalizeJson_le v).trans_lt h
  rw [valueFromSlice,canonicalJson,readDocument_toVec (floatsIn_normalizeJson hfloats) hnesting,
    Option.map_some,normalizeJson_idem]

theorem sameValue_normalizeJson (v : JsonValue) : v.1.SameValue (normalizeJson v.1) :=
  (normalizeJson_eq_iff v.2 (normalizeJson_distinct v.1)).1 (normalizeJson_idem v.1).symm

/-- Canonical bytes are a canonical form of a value up to member order. -/
theorem canonicalJson_canonical_form (crates : Crates) (hft : crates.floats.Lawful) :
    (∀ v w : JsonValue,
      canonicalJson crates v = canonicalJson crates w ↔ v.1.SameValue w.1) ∧
    (∀ v : JsonValue, v.1.nesting < recursionLimit → v.1.FloatsIn crates.floats.readable →
      ∃ w : JsonValue, valueFromSlice crates (canonicalJson crates v) = some w.1 ∧
        v.1.SameValue w.1) ∧
    receiptV1.Canonical crates ∧ receiptV2.Canonical crates :=
  ⟨fun v w => canonicalJson_eq_iff hft v.2 w.2,
    fun v hv hfloats => ⟨⟨_,normalizeJson_distinct v.1⟩,valueFromSlice_canonicalJson hfloats hv,
      sameValue_normalizeJson v⟩,
    ReceiptVersion.canonical_of_depth (by decide),ReceiptVersion.canonical_of_depth (by decide)⟩

theorem ReceiptV1.sample_validate : sample.validate = .ok () := by
  have hchecks : sample.common.validateChecks = .ok () := by decide +kernel
  rw [ReceiptV1.validate,ReceiptCommon.validate,sample_validateFields,ok_bind,hchecks]

/-- One object written in two orders, a float that is read back, and the sealed sample. -/
theorem canonicalJson_canonical_form_samples :
    canonicalJson .reference (.obj [("b",.bool true),("a",.null)]) =
      canonicalJson .reference (.obj [("a",.null),("b",.bool true)]) ∧
    (∃ w : JsonValue, valueFromSlice .reference
        (canonicalJson .reference (.arr [.num (.float ⟨0x4049a00000000000,by decide⟩)])) = some w.1 ∧
      (Json.arr [.num (.float ⟨0x4049a00000000000,by decide⟩)]).SameValue w.1) ∧
    ∃ envelope bytes, receiptV1.sealReceipt .reference .sample = .ok envelope ∧
      receiptV1.canonicalBytes .reference envelope = .ok bytes ∧
      fromSlice .reference receiptV1.envelopeCodec bytes = some envelope := by
  obtain ⟨hiff,hback,hv1,-⟩ :=
    canonicalJson_canonical_form .reference JsonText.FloatText.bitPattern_lawful
  have hfirst : (Json.obj [("b",.bool true),("a",.null)]).Distinct :=
    .obj (by decide) (by simp [Json.Distinct.bool,Json.Distinct.null])
  have hsecond : (Json.obj [("a",.null),("b",.bool true)]).Distinct :=
    .obj (by decide) (by simp [Json.Distinct.bool,Json.Distinct.null])
  have hfloat : (Json.arr [.num (.float ⟨0x4049a00000000000,by decide⟩)]).Distinct :=
    .arr (by simp [Json.Distinct.num])
  have hsealed : receiptV1.sealReceipt .reference .sample = .ok ⟨_,_⟩ :=
    ReceiptVersion.sealReceipt_eq_ok.2 ⟨ReceiptV1.sample_validate,rfl⟩
  obtain ⟨bytes,hbytes,hread,-⟩ := hv1.roundTrip _ _ hsealed
  refine ⟨(hiff ⟨_,hfirst⟩ ⟨_,hsecond⟩).2 ?_,
    hback ⟨_,hfloat⟩ (show 1 < recursionLimit by decide) (JsonText.FloatText.floatsIn_bitPattern _),
    _,bytes,hsealed,hbytes,hread⟩
  exact .obj (List.Perm.swap _ _ _) rfl (.cons .null (.cons (.bool true) .nil))

theorem valueFromSlice_nesting {crates : Crates} {bytes : Bytes} {w : Json}
    (h : valueFromSlice crates bytes = some w) : w.nesting < recursionLimit := by
  obtain ⟨u,hu,rfl⟩ := Option.map_eq_some_iff.1 h
  exact (nesting_normalizeJson_le u).trans_lt (readDocument_nesting hu)

def nestedArrays : ℕ → Json
  | 0 => .arr []
  | n+1 => .arr [nestedArrays n]

theorem nestedArrays_distinct (n : ℕ) : (nestedArrays n).Distinct := by
  induction n with
  | zero => exact .arr (by simp)
  | succ n ih => exact .arr (by simpa using ih)

theorem nesting_nestedArrays (n : ℕ) : (normalizeJson (nestedArrays n)).nesting = n+1 := by
  induction n with
  | zero => rfl
  | succ n ih => simp [nestedArrays,Json.nesting,Json.nestingItems,ih]

/-- The canonical bytes of 128 nested arrays are not read back as the same value. -/
theorem nestedArrays_not_read_back :
    (nestedArrays 127).Distinct ∧
      ¬ ∃ w : JsonValue, valueFromSlice .reference (canonicalJson .reference (nestedArrays 127)) =
        some w.1 ∧ (nestedArrays 127).SameValue w.1 := by
  refine ⟨nestedArrays_distinct 127,?_⟩
  rintro ⟨w,hread,hsame⟩
  have hnormal := (normalizeJson_eq_iff (nestedArrays_distinct 127) w.2).2 hsame
  have hnesting := nesting_nestedArrays 127
  rw [hnormal] at hnesting
  have hlt := (nesting_normalizeJson_le w.1).trans_lt (valueFromSlice_nesting hread)
  exact absurd hlt (by rw [hnesting]; decide)

end CommitCiPreflight
