import CommitCiPreflight.JsonSize
import CommitCiPreflight.VerifySpec

/-! What sealing writes is what verification reads: the canonical bytes of a sealed envelope
are recognized as an envelope of its version, and unless they are too long they pass the
integrity stage. -/
namespace CommitCiPreflight

open Outcome

theorem memberOf_struct {α : Type} (fs : Fields α α) (nodup : fs.names.Nodup)
    (whole : ∀ x, fs.value x = x) (name : String) (x : α) :
    memberOf name (normalizeJson ((Codec.struct fs nodup whole).encode x)) =
      (lookupEntry name (fs.write x)).map normalizeJson := by
  have hnodup := (fs.keys_sublist x).nodup nodup
  rw [← keys_map_normalize] at hnodup
  have hget := OrderedMap.get?_ofList hnodup name
  rw [lookupEntry_map fun _ => normalizeJson] at hget
  show memberOf name (normalizeJson (.obj (fs.write x))) = _
  rw [normalizeJson_obj]
  exact hget

section Version

variable {ρ : Type} {version : ReceiptVersion ρ}

theorem memberOf_receipt (envelope : ReceiptEnvelope ρ) :
    memberOf "receipt" (normalizeJson (version.envelopeCodec.encode envelope)) =
      some (normalizeJson (version.codec.encode envelope.receipt)) :=
  memberOf_struct _ (show ["receipt_id","receipt"].Nodup by decide) (fun _ => rfl) "receipt"
    envelope

theorem schemaVersionOf_envelope {schemaVersion : ρ → String}
    (h : ∀ receipt, memberOf "schema_version" (normalizeJson (version.codec.encode receipt)) =
      some (.str (schemaVersion receipt))) (envelope : ReceiptEnvelope ρ) :
    schemaVersionOf (normalizeJson (version.envelopeCodec.encode envelope)) =
      some (schemaVersion envelope.receipt) := by
  rw [schemaVersionOf,memberOf_receipt,Option.bind_some,h]

theorem valueFromSlice_envelope {crates : Crates}
    (hdepth : version.envelopeCodec.depth < recursionLimit) (envelope : ReceiptEnvelope ρ) :
    valueFromSlice crates (canonicalJson crates (version.envelopeCodec.encode envelope)) =
      some (normalizeJson (version.envelopeCodec.encode envelope)) :=
  valueFromSlice_canonicalJson (version.envelopeCodec.floatsIn envelope _)
    ((version.envelopeCodec.nesting_le envelope).trans_lt hdepth)

theorem length_envelope_le (crates : Crates) (envelope : ReceiptEnvelope ρ) :
    (canonicalJson crates (version.envelopeCodec.encode envelope)).length ≤
      4*((version.codec.encode envelope.receipt).weight crates.floats+
        6*envelope.receiptId.utf8ByteSize+200) := by
  refine (length_bytes_print_le _ _).trans (Nat.mul_le_mul_left 4 ?_)
  refine (weight_normalizeJson_le _ _).trans ?_
  have hweight : (version.envelopeCodec.encode envelope).weight crates.floats =
      6*"receipt_id".utf8ByteSize+(6*envelope.receiptId.utf8ByteSize+2)+4+
        (6*"receipt".utf8ByteSize+(version.codec.encode envelope.receipt).weight crates.floats+4+0)
        +2 := rfl
  have hid : "receipt_id".utf8ByteSize = 10 := by decide
  have hreceipt : "receipt".utf8ByteSize = 7 := by decide
  omega

end Version

theorem utf8ByteSize_canonicalDigest (crates : Crates) (v : Json) :
    (canonicalDigest crates v).utf8ByteSize = 71 := by
  have hhex := (bytes_encodeHex (crates.sha256 (canonicalJson crates v)).toList).1
  rw [Text.length_bytes,List.Vector.toList_length] at hhex
  rw [canonicalDigest,String.utf8ByteSize_append,hhex]
  decide

theorem readReceipt_v2 {crates : Crates} {envelope : ReceiptEnvelopeV2}
    (hverify : receiptV2.verify crates envelope = .ok ())
    (hlength : (canonicalJson crates (receiptV2.envelopeCodec.encode envelope)).length ≤
      maxReceiptBytes) :
    readReceipt crates (canonicalJson crates (receiptV2.envelopeCodec.encode envelope)) =
      .ok (.v2 envelope) := by
  obtain ⟨hvalid,hid⟩ := ReceiptVersion.verify_eq_ok.1 hverify
  have hversion : envelope.receipt.schemaVersion = "2.0" :=
    ReceiptCommon.schemaVersion_of_validate (ReceiptV2.validate_eq_ok.1 hvalid).1
  have hdeclared : schemaVersionOf (normalizeJson (receiptV2.envelopeCodec.encode envelope)) =
      some envelope.receipt.schemaVersion :=
    schemaVersionOf_envelope (memberOf_struct _ (by decide) (fun _ => rfl) "schema_version") _
  exact readReceipt_eq_ok.2 ⟨hlength,.v2 (valueFromSlice_envelope (by decide) _)
    (hversion ▸ hdeclared) (fromSlice_canonicalJson _ (by decide) _),hvalid,hid⟩

def ReceiptV2.setDigest (receipt : ReceiptV2) (digest : String) : ReceiptV2 :=
  {receipt with configurationDigest := digest}

theorem weight_setDigest (ft : JsonText.FloatText) (receipt : ReceiptV2) (digest : String) :
    (ReceiptV2.codec.encode (receipt.setDigest digest)).weight ft =
      (ReceiptV2.codec.encode (receipt.setDigest "")).weight ft + 6*digest.utf8ByteSize := by
  simp only [ReceiptV2.setDigest,ReceiptV2.codec,Codec.struct,Json.weight,weightMembers_eq,Fields.add,Fields.of,
    List.map_append,List.sum_append,List.nil_append]
  simp only [Field.required,Codec.string,Field.member,List.map_cons,List.map_nil,List.sum_cons,
    List.sum_nil,Json.weight]
  simp
  omega

def sampleEnvelope (image : String) : ReceiptEnvelopeV2 :=
  ⟨receiptV2.digest .reference (.sample .reference (.sample image ["fmt","test"]) ["fmt","test"]),
    .sample .reference (.sample image ["fmt","test"]) ["fmt","test"]⟩

def sampleDocument (image : String) : Bytes :=
  canonicalJson .reference (receiptV2.envelopeCodec.encode (sampleEnvelope image))

def otherImage : String :=
  "ghcr.io/example/other@sha256:bbbbbbbbbbbbbbbbbbbbbbbbbbbbbbbbbbbbbbbbbbbbbbbbbbbbbbbbbbbbbbbb"

theorem sampleEnvelope_validate (image : String) :
    (sampleEnvelope image).receipt.validate .reference = .ok () := by
  have hplanned : ∀ check ∈ ["fmt","test"].map NormalizedCheck.sample,
      findPlanned (["fmt","test"].map .sample) check = .ok () := by decide +kernel
  exact ReceiptV2.sample_validate (by decide +kernel) rfl rfl hplanned rfl

theorem sampleDocument_read :
    ∀ image ∈ [sampleImage,otherImage],
      readReceipt .reference (sampleDocument image) = .ok (.v2 (sampleEnvelope image)) := by
  have hweight : ∀ image ∈ [sampleImage,otherImage],
      (ReceiptV2.codec.encode ((sampleEnvelope image).receipt.setDigest "")).weight .bitPattern ≤
        20000 := by
    decide +kernel
  intro image himage
  have hbound := hweight image himage
  have hdigest : ((ExecutionPlanV1.sample image ["fmt","test"]).digest .reference).utf8ByteSize =
      71 := utf8ByteSize_canonicalDigest _ _
  have hid : (sampleEnvelope image).receiptId.utf8ByteSize = 71 := utf8ByteSize_canonicalDigest _ _
  have hset : (receiptV2.codec.encode (sampleEnvelope image).receipt).weight
      Crates.reference.floats = _ := weight_setDigest .bitPattern (sampleEnvelope image).receipt
    ((ExecutionPlanV1.sample image ["fmt","test"]).digest .reference)
  refine readReceipt_v2 (ReceiptVersion.verify_eq_ok.2 ⟨sampleEnvelope_validate image,rfl⟩)
    ((length_envelope_le _ _).trans ?_)
  rw [hset,hid,hdigest,maxReceiptBytes]
  omega

end CommitCiPreflight
