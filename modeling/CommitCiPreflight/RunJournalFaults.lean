import CommitCiPreflight.JsonPrefix
import CommitCiPreflight.JsonSize
import CommitCiPreflight.RunJournalRead

/-! A journal write under faults: what `read_entries` finds afterwards. -/
namespace CommitCiPreflight

open Disk FileTree Program
open Files (passOn)

/-- A record of plain values, read back as it was written. -/
structure Codec.Flat {α : Type} (codec : Codec α) : Prop where
  object : ∀ x, ∃ members, codec.encode x = .obj members
  back : ∀ x, codec.decode (codec.encode x) = some x
  shallow : codec.depth < recursionLimit

theorem RunJournalEntryV1.codec_flat : RunJournalEntryV1.codec.Flat where
  object _ := ⟨_,rfl⟩
  back entry := by
    refine Codec.struct_decode_encode fun m hm => ?_
    obtain ⟨schemaVersion,runId,seq,state,atUtc,_ | kind⟩ := entry
    · change m ∈ [_,_,_,_,_] at hm
      simp only [List.mem_cons,List.not_mem_nil,or_false] at hm
      rcases hm with rfl | rfl | rfl | rfl | rfl <;> rfl
    · change m ∈ [_,_,_,_,_,_] at hm
      simp only [List.mem_cons,List.not_mem_nil,or_false] at hm
      rcases hm with rfl | rfl | rfl | rfl | rfl | rfl <;> rfl
  shallow := by decide

theorem RunOwnerMarkerV1.codec_flat : RunOwnerMarkerV1.codec.Flat where
  object _ := ⟨_,rfl⟩
  back marker := by
    refine Codec.struct_decode_encode fun m hm => ?_
    change m ∈ [_,_,_,_,_,_] at hm
    simp only [List.mem_cons,List.not_mem_nil,or_false] at hm
    rcases hm with rfl | rfl | rfl | rfl | rfl | rfl <;> rfl
  shallow := by decide

theorem RunJournalSourceV1.codec_flat : RunJournalSourceV1.codec.Flat where
  object _ := ⟨_,rfl⟩
  back binding := by
    refine Codec.struct_decode_encode fun m hm => ?_
    change m ∈ [_,_,_,_,_] at hm
    simp only [List.mem_cons,List.not_mem_nil,or_false] at hm
    rcases hm with rfl | rfl | rfl | rfl | rfl <;> rfl
  shallow := by decide

section

variable {crates : Crates} {α : Type} {codec : Codec α}

theorem length_markerBytes (value : Json) :
    (markerBytes crates value).length = (toVec crates value).length+1 := by
  simp [markerBytes]

theorem fromSlice_take_markerBytes (crates : Crates) (hflat : codec.Flat) (x : α) (count : ℕ) :
    fromSlice crates codec ((markerBytes crates (codec.encode x)).take count) =
      if (toVec crates (codec.encode x)).length ≤ count then some x else none := by
  obtain ⟨members,hmembers⟩ := hflat.object x
  have hnesting : (Json.obj members).nesting < recursionLimit := by
    rw [← hmembers]
    exact (codec.nesting_le x).trans_lt hflat.shallow
  have hfloats : (Json.obj members).FloatsIn crates.floats.readable := by
    rw [← hmembers]
    exact codec.floatsIn x _
  have hback : codec.decode (.obj members) = some x := by
    rw [← hmembers]
    exact hflat.back x
  rw [hmembers,markerBytes,fromSlice]
  split
  · rename_i hcount
    rcases hcount.eq_or_lt with hcount | hcount
    · rw [← hcount,List.take_left,readDocument_toVec hfloats hnesting]
      exact hback
    · rw [List.take_of_length_le (by simpa using Nat.succ_le_of_lt hcount),
        readDocument_newline hfloats hnesting]
      exact hback
  · rename_i hcount
    rw [not_le] at hcount
    have hcut : readDocument crates ((toVec crates (.obj members)).take count) = none := by
      refine readDocument_eq_none_of_cut hfloats hnesting (List.take_append_drop count _).symm ?_
      simpa using hcount
    rw [List.take_append_of_le_length hcount.le,hcut]
    rfl

theorem fromSlice_of_fate (hflat : codec.Flat) {x : α} {faults : List Fault} {content : Bytes}
    (h : fate faults (markerBytes crates (codec.encode x)) = some content) :
    fromSlice crates codec content =
      if content.length+1 < (markerBytes crates (codec.encode x)).length then none else some x := by
  obtain ⟨count,rfl⟩ := exists_take_of_fate h
  rw [fromSlice_take_markerBytes crates hflat,List.length_take,length_markerBytes]
  by_cases hcount : (toVec crates (codec.encode x)).length ≤ count
  · rw [if_pos hcount,if_neg (by omega)]
  · rw [if_neg hcount,if_pos (by omega)]

end

theorem utf8ByteSize_of_validateHexIdentity {value : String}
    (h : validateHexIdentity value = .ok ()) : value.utf8ByteSize ≤ 64 := by
  unfold validateHexIdentity at h
  split_ifs at h with hhex
  rcases hhex with hhex | hhex
  · exact hhex.1.trans_le (by decide)
  · exact hhex.1.le

theorem utf8ByteSize_of_validateDigest {value : String}
    (h : RunJournal.validateDigest value = .ok ()) : value.utf8ByteSize = 71 := by
  unfold RunJournal.validateDigest at h
  split at h
  · rename_i hex hstrip
    obtain ⟨hvalue,hhex⟩ := Option.filter_eq_some_iff.1 hstrip
    have hsize := (of_decide_eq_true hhex).1
    have happend : value = "sha256:"++hex := by
      rw [← String.toList_inj,Text.stripPrefix_eq_some.1 hvalue,String.toList_append]
    rw [happend,← Text.length_bytes,Text.bytes_append,List.length_append,Text.length_bytes hex,hsize]
    rfl
  · cases h

theorem length_utf8_printNumber_le (ft : JsonText.FloatText) (n : UInt64) :
    ((JsonText.printNumber ft (.posInt n)).flatMap String.utf8EncodeChar).length ≤ 20 := by
  have hdigits : ∀ c ∈ Nat.toDigits 10 n.toNat, c.isDigit = true :=
    fun c hc => Nat.isDigit_of_mem_toDigits (by decide) (by decide) hc
  have hlength := congrArg List.length (Text.map_toNat_bytes hdigits)
  rw [Text.bytes_ofList,List.length_map,List.length_map] at hlength
  rw [JsonText.printNumber,hlength]
  exact (Nat.length_toDigits_le_iff (by decide) (by decide)).2 (n.toNat_lt.trans (by decide))

theorem length_utf8_printString_le {s : String} {size : ℕ} (h : s.utf8ByteSize ≤ size) :
    ((JsonText.printString s).flatMap String.utf8EncodeChar).length ≤ 6*size+2 := by
  rw [← Text.bytes_ofList]
  exact (length_bytes_printString_le s).trans (Nat.add_le_add_right (Nat.mul_le_mul_left 6 h) 2)

/-- A record of short texts and counts: six bytes are enough for each byte of a text. -/
theorem length_markerBytes_le {crates : Crates} (members : List (String × Json))
    (h : ∀ m ∈ members, m.1.utf8ByteSize ≤ 15 ∧
      ((∃ s : String, m.2 = .str s ∧ s.utf8ByteSize ≤ 71) ∨ ∃ n, m.2 = .num (.posInt n))) :
    (markerBytes crates (.obj members)).length ≤ members.length*(92+428+2)+3 := by
  rw [length_markerBytes,toVec,Text.bytes_ofList]
  refine Nat.succ_le_succ (length_utf8_obj_le crates.floats (b := 92+428) fun m hm => ?_)
  obtain ⟨hkey,⟨s,hs,hsize⟩ | ⟨n,hn⟩⟩ := h m hm
  · rw [hs]
    exact Nat.add_le_add (length_utf8_printString_le hkey) (length_utf8_printString_le hsize)
  · rw [hn]
    exact Nat.add_le_add (length_utf8_printString_le hkey)
      ((length_utf8_printNumber_le crates.floats n).trans (by decide))

theorem length_markerBytes_binding {crates : Crates} {commitSha manifestDigest : String}
    (entryCount : UInt64) (hsha : validateHexIdentity commitSha = .ok ())
    (hdigest : RunJournal.validateDigest manifestDigest = .ok ()) :
    (markerBytes crates (RunJournalSourceV1.codec.encode
      ⟨runJournalSchemaVersion,commitSha,manifestDigest,entryCount,"source-snapshot-v1"⟩)).length ≤
      4096 := by
  have hsha := utf8ByteSize_of_validateHexIdentity hsha
  have hdigest := utf8ByteSize_of_validateDigest hdigest
  refine (length_markerBytes_le [("schema_version",.str "1.0"),
    ("commit_sha",.str commitSha),("manifest_digest",.str manifestDigest),
    ("entry_count",.num (.posInt entryCount)),("resource_id",.str "source-snapshot-v1")]
    fun m hm => ?_).trans (show 5*(92+428+2)+3 ≤ 4096 by decide)
  simp only [List.mem_cons,List.not_mem_nil,or_false] at hm
  rcases hm with rfl | rfl | rfl | rfl | rfl
  · exact ⟨by decide,Or.inl ⟨_,rfl,by decide⟩⟩
  · exact ⟨show "commit_sha".utf8ByteSize ≤ 15 by decide,Or.inl ⟨_,rfl,by omega⟩⟩
  · exact ⟨show "manifest_digest".utf8ByteSize ≤ 15 by decide,Or.inl ⟨_,rfl,hdigest.le⟩⟩
  · exact ⟨show "entry_count".utf8ByteSize ≤ 15 by decide,Or.inr ⟨_,rfl⟩⟩
  · exact ⟨by decide,Or.inl ⟨_,rfl,by decide⟩⟩

theorem derivedRunToken_eq_ok (crates : Crates) (rootToken runId : String) :
    ∃ token, derivedRunToken crates rootToken runId = .ok token ∧ token.utf8ByteSize = 64 := by
  unfold derivedRunToken tokenDigest
  generalize Json.obj _ = value
  have hhex := (bytes_encodeHex (crates.sha256 (canonicalJson crates value)).toList).1
  rw [Text.length_bytes,List.Vector.toList_length] at hhex
  have hstrip : Text.stripPrefix (canonicalDigest crates value) "sha256:" =
      some (encodeHex (crates.sha256 (canonicalJson crates value)).toList) :=
    Text.stripPrefix_eq_some.2 String.toList_append
  rw [hstrip]
  exact ⟨_,rfl,hhex⟩

theorem length_markerBytes_owner {crates : Crates} {rootToken runId runToken : String}
    (hroot : rootToken.utf8ByteSize = 64) (hid : runId.utf8ByteSize = 64)
    (htoken : runToken.utf8ByteSize = 64) :
    (markerBytes crates (RunOwnerMarkerV1.codec.encode ⟨runJournalSchemaVersion,
      "commit-ci-preflight","run-journal-entry",rootToken,runId,runToken⟩)).length ≤ 4096 := by
  refine (length_markerBytes_le [("schema_version",.str "1.0"),
    ("owner",.str "commit-ci-preflight"),("purpose",.str "run-journal-entry"),
    ("root_token",.str rootToken),("run_id",.str runId),("run_token",.str runToken)]
    fun m hm => ?_).trans (show 6*(92+428+2)+3 ≤ 4096 by decide)
  simp only [List.mem_cons,List.not_mem_nil,or_false] at hm
  rcases hm with rfl | rfl | rfl | rfl | rfl | rfl
  · exact ⟨by decide,Or.inl ⟨_,rfl,by decide⟩⟩
  · exact ⟨by decide,Or.inl ⟨_,rfl,by decide⟩⟩
  · exact ⟨by decide,Or.inl ⟨_,rfl,by decide⟩⟩
  · exact ⟨show "root_token".utf8ByteSize ≤ 15 by decide,Or.inl ⟨_,rfl,by omega⟩⟩
  · exact ⟨show "run_id".utf8ByteSize ≤ 15 by decide,Or.inl ⟨_,rfl,by omega⟩⟩
  · exact ⟨show "run_token".utf8ByteSize ≤ 15 by decide,Or.inl ⟨_,rfl,by omega⟩⟩

theorem RunJournalStore.readable_marker (crates : Crates) {store : RunJournalStore} {runId : String}
    (broken : OsString → Prop) (hroot : store.rootToken.utf8ByteSize = 64) (hid : runId.utf8ByteSize = 64) :
    ∃ bytes, runMarkerBytes crates store.rootToken runId = .ok bytes ∧
      Readable crates store broken runId [(.ofStr runMarker,.file bytes)] [] := by
  obtain ⟨token,htoken,hsize⟩ := derivedRunToken_eq_ok crates store.rootToken runId
  unfold runMarkerBytes
  rw [htoken]
  refine ⟨_,rfl,?_⟩
  constructor
  case marker =>
    refine ⟨_,⟨runJournalSchemaVersion,"commit-ci-preflight","run-journal-entry",store.rootToken,
      runId,token⟩,if_pos rfl,⟨_,rfl,length_markerBytes_owner hroot hid hsize,?_⟩,
      rfl,rfl,rfl,rfl,rfl,htoken⟩
    have hslice := fromSlice_take_markerBytes crates RunOwnerMarkerV1.codec_flat
      ⟨runJournalSchemaVersion,"commit-ci-preflight","run-journal-entry",store.rootToken,runId,token⟩
      ((toVec crates (RunOwnerMarkerV1.codec.encode ⟨runJournalSchemaVersion,"commit-ci-preflight",
        "run-journal-entry",store.rootToken,runId,token⟩)).length+1)
    rw [← length_markerBytes,List.take_length,if_pos (by simp [length_markerBytes])] at hslice
    exact hslice
  case resources =>
    intro node hnode
    exact absurd hnode (by simp [lookupEntry,OsString.ofStr_injective.eq_iff,resourcesDir,runMarker])
  case binding =>
    intro node hnode
    exact absurd hnode (by simp [lookupEntry,OsString.ofStr_injective.eq_iff,sourceBinding,runMarker])
  case names =>
    simp [entryNames,reservedNames]
  case files => simp
  case history => exact .nil

inductive JournalWrite
  | transition (state : RunJournalStateV1) (atUtc : String) (failureKind : Option RunFailureKindV1)
  | bindSource (commitSha manifestDigest : String) (entryCount : UInt64)

namespace JournalWrite

open RunJournalStore

variable (crates : Crates) (store : RunJournalStore) (runId : String)

def call : JournalWrite → JournalIo Unit
  | .transition state atUtc failureKind => do
    let _ ← store.transition crates runId state atUtc failureKind
    return ()
  | .bindSource commitSha manifestDigest entryCount => do
    let _ ← store.bindSource crates runId commitSha manifestDigest entryCount
    return ()

def entry (entries : List RunJournalEntryV1) : JournalWrite → Option RunJournalEntryV1
  | .transition state atUtc failureKind =>
    (entries.getLast?.filter fun previous => validateRunId runId = .ok () ∧
      RunJournal.validateTimestamp atUtc = .ok () ∧
      (legalTransition previous.state state = true ∧
        ¬ (previous.state = .created ∧ state = .cleanupPending)) ∧
      decide (state = .failed) = failureKind.isSome).map fun previous =>
        ⟨runJournalSchemaVersion,runId,previous.seq+1,state,atUtc,failureKind⟩
  | .bindSource _ _ _ => none

def binding : JournalWrite → Option RunJournalSourceV1
  | .transition _ _ _ => none
  | .bindSource commitSha manifestDigest entryCount =>
    if validateRunId runId = .ok () ∧ validateHexIdentity commitSha = .ok () ∧
        RunJournal.validateDigest manifestDigest = .ok () ∧ entryCount ≠ 0 then
      some ⟨runJournalSchemaVersion,commitSha,manifestDigest,entryCount,"source-snapshot-v1"⟩
    else none

def file (entries : List RunJournalEntryV1) (w : JournalWrite) : Option (OsString × Bytes) :=
  ((w.entry runId entries).map fun entry =>
    (entryFile entry,markerBytes crates (RunJournalEntryV1.codec.encode entry))).or
  ((w.binding runId).map fun binding =>
    (.ofStr sourceBinding,markerBytes crates (RunJournalSourceV1.codec.encode binding)))

end JournalWrite

namespace RunJournalStore

section

variable {crates : Crates} {store : RunJournalStore} {pid : ℕ} {faults : List Fault}
  {disk : Disk OsString} {runId : String} {entries : List RunJournalEntryV1}
  {state : RunJournalStateV1} {atUtc : String} {failureKind : Option RunFailureKindV1}

theorem suffer_durably {α : Type} (step : DurableIo α) :
    (suffer pid faults (durably step).run disk).2 = (suffer pid faults step.run disk).2 := by
  unfold suffer
  change ((step.run >>= fun r => .done (r.mapError RunJournalError.durable)).execUntil
    (attempt pid) (disk,faults)).2.1 = _
  rw [execUntil_bind]
  rcases step.run.execUntil (attempt pid) (disk,faults) with ⟨_ | result,s'⟩
  · rfl
  · rfl

theorem exec_durably {α : Type} {step : DurableIo α} {a : α} {disk' : Disk OsString}
    (h : step.run.exec (Disk.perform pid) disk = (.ok a,disk')) :
    (durably step).run.exec (Disk.perform pid) disk = (.ok a,disk') := by
  change (step.run >>= fun r => .done (r.mapError RunJournalError.durable)).exec _ _ = _
  rw [exec_bind,h]
  rfl

theorem suffer_appendEntry {seq : UInt64} :
    (suffer pid faults (appendEntry crates store runId seq state atUtc failureKind).run disk).2 =
      (suffer pid faults (DurableFileSystem.createNew
        (store.runPath runId++[.ofStr (entryName seq state)])
        (markerBytes crates (RunJournalEntryV1.codec.encode
          ⟨runJournalSchemaVersion,runId,seq,state,atUtc,failureKind⟩))).run disk).2 :=
  (suffer_bind_pure _).trans (suffer_durably _)

theorem get_runPath_put {files : RunFiles} (hrun : get (store.runPath runId) disk.root =
    some (.directory files)) (name : OsString) (content : Bytes) :
    get (store.runPath runId) (put (some (.file content)) (store.runPath runId++[name]) disk.root) =
      some (.directory (insertEntry name (.file content) files)) := by
  rw [get_put_above,hrun]
  rfl

theorem history_next (h : History runId entries) {previous : RunJournalEntryV1}
    (hlast : entries.getLast? = some previous) (htime : RunJournal.validateTimestamp atUtc = .ok ())
    (hlegal : legalTransition previous.state state = true)
    (hkind : decide (state = .failed) = failureKind.isSome) :
    History runId
      (entries++[⟨runJournalSchemaVersion,runId,previous.seq+1,state,atUtc,failureKind⟩]) := by
  refine .snoc h (validateEntry_eq_ok.2 ⟨rfl,rfl,seq_succ_of_history h hlast,htime,hkind,?_⟩) ?_
  · intro hzero
    have hlength := length_lt_of_history h
    have hnil : entries.length = 0 := by
      have hnat := congrArg UInt64.toNat hzero
      simp only [Nat.toUInt64_eq,UInt64.toNat_ofNat',UInt64.toNat_zero] at hnat
      omega
    rw [List.length_eq_zero_iff.1 hnil] at hlast
    cases hlast
  · rw [hlast]
    rintro _ ⟨⟩
    exact hlegal

theorem history_entry {w : JournalWrite} {entry : RunJournalEntryV1} (h : History runId entries)
    (hentry : w.entry runId entries = some entry) : History runId (entries++[entry]) := by
  cases w with
  | bindSource commitSha manifestDigest entryCount => cases hentry
  | transition state atUtc failureKind =>
    obtain ⟨previous,hprevious,rfl⟩ := Option.map_eq_some_iff.1 hentry
    obtain ⟨hlast,hchecks⟩ := Option.filter_eq_some_iff.1 hprevious
    obtain ⟨-,htime,⟨hlegal,-⟩,hkind⟩ := of_decide_eq_true hchecks
    exact history_next h hlast htime hlegal hkind

variable (hread : read pid (readEntries crates store runId) disk = .ok entries)
include hread

theorem suffer_transition :
    (suffer pid faults (transition crates store runId state atUtc failureKind).run disk).2 =
      match (JournalWrite.transition state atUtc failureKind).entry runId entries with
      | some entry => (suffer pid faults (DurableFileSystem.createNew
          (store.runPath runId++[entryFile entry])
          (markerBytes crates (RunJournalEntryV1.codec.encode entry))).run disk).2
      | none => disk := by
  unfold transition JournalWrite.entry
  rw [suffer_ofExcept_bind]
  rcases hid : validateRunId runId with e | ⟨⟩
  · simp
  simp only [suffer_ofExcept_bind]
  rcases htime : RunJournal.validateTimestamp atUtc with e | ⟨⟩
  · simp
  simp only [suffer_reads_bind uses_readEntries]
  rw [← Disk.read,hread]
  simp only [suffer_ofExcept_bind,suffer_ensure_bind]
  unfold lastEntry
  rcases hlast : entries.getLast? with _ | previous
  · rfl
  by_cases hlegal : legalTransition previous.state state = true ∧
      ¬ (previous.state = .created ∧ state = .cleanupPending)
  · by_cases hkind : decide (state = .failed) = failureKind.isSome
    · simp only [hlegal,hkind,if_true,not_false_eq_true,and_self,decide_true,Option.filter_some,
        Option.map_some]
      exact suffer_appendEntry
    · simp only [hlegal,hkind,if_true,if_false,not_false_eq_true,and_self,and_false,decide_false,
        Option.filter_some,Bool.false_eq_true,Option.map_none]
  · simp only [hlegal,if_false,false_and,and_false,decide_false,Option.filter_some,
      Bool.false_eq_true,Option.map_none]

theorem suffer_bindSource {commitSha manifestDigest : String} {entryCount : UInt64} :
    (suffer pid faults (bindSource crates store runId commitSha manifestDigest entryCount).run
        disk).2 =
      match (JournalWrite.bindSource commitSha manifestDigest entryCount).binding runId with
      | some binding => (suffer pid faults (DurableFileSystem.createNew
          (store.runPath runId++[.ofStr sourceBinding])
          (markerBytes crates (RunJournalSourceV1.codec.encode binding))).run disk).2
      | none => disk := by
  obtain ⟨files,hrun,hreadable⟩ := read_readEntries.1 hread
  have hmarker : read pid (validateRunMarker crates store (store.runPath runId) runId) disk = .ok () :=
    (read_validateRunMarker hrun).2 hreadable.marker
  unfold bindSource JournalWrite.binding
  rw [suffer_ofExcept_bind]
  rcases hid : validateRunId runId with e | ⟨⟩
  · simp
  simp only [suffer_ofExcept_bind]
  rcases hsha : validateHexIdentity commitSha with e | ⟨⟩
  · simp
  rcases hdigest : RunJournal.validateDigest manifestDigest with e | ⟨⟩
  · simp
  simp only [suffer_ensure_bind,suffer_reads_bind uses_validateRunMarker]
  rw [← Disk.read,hmarker]
  by_cases hcount : entryCount ≠ 0
  · rw [if_pos hcount,if_pos ⟨trivial,trivial,trivial,hcount⟩]
    exact (suffer_bind_pure _).trans (suffer_durably _)
  · rw [if_neg hcount,if_neg (by simpa using hcount)]

/-- What a call leaves on the disk is what its one new file leaves there. -/
theorem suffer_call (w : JournalWrite) :
    (suffer pid faults (w.call crates store runId).run disk).2 =
      match w.file crates runId entries with
      | some (name,bytes) => (suffer pid faults (DurableFileSystem.createNew
          (store.runPath runId++[name]) bytes).run disk).2
      | none => disk := by
  cases w with
  | transition state atUtc failureKind =>
    refine ((suffer_bind_pure _).trans (suffer_transition hread)).trans ?_
    unfold JournalWrite.file
    cases (JournalWrite.transition state atUtc failureKind).entry runId entries with
    | none => rfl
    | some entry => rfl
  | bindSource commitSha manifestDigest entryCount =>
    refine ((suffer_bind_pure _).trans (suffer_bindSource hread)).trans ?_
    unfold JournalWrite.file
    cases (JournalWrite.bindSource commitSha manifestDigest entryCount).binding runId with
    | none => rfl
    | some binding => rfl

end

variable (crates : Crates) (store : RunJournalStore) (runId : String)
  (entries : List RunJournalEntryV1) (pid : ℕ) (faults : List Fault) (disk : Disk OsString)
  (w : JournalWrite)

/-- The new file of the call is opened, and its write stops before the record is complete. -/
def Torn : Prop :=
  ∃ name bytes, w.file crates runId entries = some (name,bytes) ∧
    get (store.runPath runId++[name]) disk.root = none ∧
    proceeds faults[0]? = true ∧ (kept bytes faults[1]?).length+1 < bytes.length

/-- The journal is read after the call as it was before, or with the attempted entry; where the
entry for an admission could not be written, pending cleanup can be recorded. -/
structure LastStateKept : Prop where
  readable : read pid (readEntries crates store runId)
        (suffer pid faults (w.call crates store runId).run disk).2 = .ok entries ∨
    ∃ entry, w.entry runId entries = some entry ∧ read pid (readEntries crates store runId)
        (suffer pid faults (w.call crates store runId).run disk).2 = .ok (entries++[entry])
  cleanup : ∀ entry, w.entry runId entries = some entry → entry.state = .admitted →
    (suffer pid faults (w.call crates store runId).run disk).1 ≠ some (.ok ()) →
    ∀ atUtc, RunJournal.validateTimestamp atUtc = .ok () → ∃ pending,
      read pid (transitionCleanupPendingAfterAdmissionAcquired crates store runId atUtc)
        (suffer pid faults (w.call crates store runId).run disk).2 = .ok pending

section

variable {crates store runId entries pid faults disk w} {broken : OsString → Prop}
  {files : RunFiles} {name : OsString} {atUtc : String}

theorem file_cases {bytes : Bytes} (h : w.file crates runId entries = some (name,bytes)) :
    (∃ entry, w.entry runId entries = some entry ∧ name = entryFile entry ∧
      bytes = markerBytes crates (RunJournalEntryV1.codec.encode entry)) ∨
    ∃ binding, w.binding runId = some binding ∧ name = .ofStr sourceBinding ∧
      bytes = markerBytes crates (RunJournalSourceV1.codec.encode binding) := by
  unfold JournalWrite.file at h
  rcases Option.or_eq_some_iff.1 h with h | ⟨-,h⟩
  · obtain ⟨entry,hentry,hfile⟩ := Option.map_eq_some_iff.1 h
    cases hfile
    exact Or.inl ⟨entry,hentry,rfl,rfl⟩
  · obtain ⟨binding,hbinding,hfile⟩ := Option.map_eq_some_iff.1 h
    cases hfile
    exact Or.inr ⟨binding,hbinding,rfl,rfl⟩

theorem valid_of_binding {binding : RunJournalSourceV1} (h : w.binding runId = some binding) :
    ValidBinding binding ∧
      (markerBytes crates (RunJournalSourceV1.codec.encode binding)).length ≤ 4096 := by
  cases w with
  | transition state atUtc failureKind => cases h
  | bindSource commitSha manifestDigest entryCount =>
    simp only [JournalWrite.binding] at h
    split_ifs at h with hchecks
    cases h
    obtain ⟨-,hsha,hdigest,hcount⟩ := hchecks
    exact ⟨⟨rfl,hsha,hdigest,hcount,rfl⟩,length_markerBytes_binding entryCount hsha hdigest⟩

theorem suffer_call_cases (hrun : get (store.runPath runId) disk.root = some (.directory files))
    (hread : read pid (readEntries crates store runId) disk = .ok entries) :
    (¬ Torn crates store runId entries faults disk w ∧
      (suffer pid faults (w.call crates store runId).run disk).2 = disk) ∨
    ∃ name bytes content, w.file crates runId entries = some (name,bytes) ∧
      lookupEntry name files = none ∧ fate faults bytes = some content ∧
      get (store.runPath runId) (suffer pid faults (w.call crates store runId).run disk).2.root =
        some (.directory (insertEntry name (.file content) files)) ∧
      (Torn crates store runId entries faults disk w ↔ content.length+1 < bytes.length) := by
  rw [suffer_call hread w]
  unfold Torn
  rcases hfile : w.file crates runId entries with _ | ⟨name,bytes⟩
  · exact Or.inl ⟨by simp,rfl⟩
  have hchild : get (store.runPath runId++[name]) disk.root = lookupEntry name files :=
    get_child hrun name
  cases hlookup : lookupEntry name files with
  | some node =>
    rw [hlookup] at hchild
    refine Or.inl ⟨?_,?_⟩
    · rintro ⟨_,_,hsome,habsent,-⟩
      cases hsome
      rw [hchild] at habsent
      cases habsent
    · rcases DurableFileSystem.suffer_createNew_cases pid faults (store.runPath runId) name bytes
        disk with hsame | ⟨content,-,-,habsent,-⟩
      · exact hsame
      · rw [hchild] at habsent
        cases habsent
  | none =>
    rw [hlookup] at hchild
    have hdisk : (suffer pid faults (DurableFileSystem.createNew (store.runPath runId++[name])
        bytes).run disk).2 = _ := DurableFileSystem.suffer_createNew ⟨files,hrun⟩ hchild
    have htorn : (∃ name' bytes', some (name,bytes) = some (name',bytes') ∧
        get (store.runPath runId++[name']) disk.root = none ∧ proceeds faults[0]? = true ∧
        (kept bytes' faults[1]?).length+1 < bytes'.length) ↔
        proceeds faults[0]? = true ∧ (kept bytes faults[1]?).length+1 < bytes.length := by
      constructor
      · rintro ⟨_,_,hsome,-,hopen,hcut⟩
        cases hsome
        exact ⟨hopen,hcut⟩
      · rintro ⟨hopen,hcut⟩
        exact ⟨name,bytes,rfl,hchild,hopen,hcut⟩
    rw [htorn]
    unfold fate at hdisk ⊢
    by_cases hopen : proceeds faults[0]? = true
    · rw [if_pos hopen] at hdisk
      refine Or.inr ⟨name,bytes,_,rfl,hlookup,if_pos hopen,?_,by simp [hopen]⟩
      simp only [hdisk]
      exact get_runPath_put hrun name _
    · rw [if_neg hopen] at hdisk
      exact Or.inl ⟨fun h => hopen h.1,hdisk⟩

/-- With an incomplete record in it, the run is not read. -/
theorem not_readable_of_cut {bytes content : Bytes}
    (hfile : w.file crates runId entries = some (name,bytes))
    (hfate : fate faults bytes = some content) (hcut : content.length+1 < bytes.length)
    {found : List RunJournalEntryV1} (hname : ¬ broken name) :
    ¬ Readable crates store broken runId (insertEntry name (.file content) files) found := by
  intro h
  have hlookup : lookupEntry name (insertEntry name (.file content) files) = some (.file content) := by
    rw [lookupEntry_insertEntry,if_pos rfl]
  rcases file_cases hfile with ⟨entry,-,rfl,hbytes⟩ | ⟨binding,-,rfl,hbytes⟩
  · subst hbytes
    have hslice := fromSlice_of_fate RunJournalEntryV1.codec_flat hfate
    rw [if_pos hcut] at hslice
    have hname : entryFile entry ∈ entryNames (insertEntry (entryFile entry) (.file content) files) := by
      refine mem_entryNames.2 ⟨?_,entryFile_not_reserved entry⟩
      by_contra hmem
      rw [lookupEntry_eq_none_iff.2 hmem] at hlookup
      cases hlookup
    rw [h.names] at hname
    obtain ⟨other,hother,hsame⟩ := List.mem_map.1 hname
    obtain ⟨content',hcontent',hparsed⟩ := h.files other hother
    rw [hsame,hlookup] at hcontent'
    cases hcontent'
    rw [hslice] at hparsed
    cases hparsed
  · subst hbytes
    have hslice := fromSlice_of_fate RunJournalSourceV1.codec_flat hfate
    rw [if_pos hcut] at hslice
    obtain ⟨_,⟨content',hcontent',-,hparsed⟩,-⟩ := (h.binding _ hlookup).resolve_right hname
    cases hcontent'
    rw [hslice] at hparsed
    cases hparsed

/-- With a complete record in it, it is read as before, or with the attempted entry. -/
theorem readable_of_complete
    (hreadable : Readable crates store broken runId files entries) {bytes content : Bytes}
    (hfile : w.file crates runId entries = some (name,bytes))
    (habsent : lookupEntry name files = none) (hfate : fate faults bytes = some content)
    (hwhole : ¬ content.length+1 < bytes.length) :
    Readable crates store broken runId (insertEntry name (.file content) files) entries ∨
      ∃ entry, w.entry runId entries = some entry ∧
        Readable crates store broken runId (insertEntry name (.file content) files) (entries++[entry]) := by
  rcases file_cases hfile with ⟨entry,hentry,hname,hbytes⟩ | ⟨binding,hbinding,hname,hbytes⟩
  · subst hname hbytes
    have hslice := fromSlice_of_fate RunJournalEntryV1.codec_flat hfate
    rw [if_neg hwhole] at hslice
    exact Or.inr ⟨entry,hentry,readable_append hreadable (history_entry hreadable.history hentry) hslice⟩
  · subst hname hbytes
    have hslice := fromSlice_of_fate RunJournalSourceV1.codec_flat hfate
    rw [if_neg hwhole] at hslice
    obtain ⟨hvalid,hlength⟩ : ValidBinding binding ∧
      (markerBytes crates (RunJournalSourceV1.codec.encode binding)).length ≤ 4096 :=
        valid_of_binding hbinding
    obtain ⟨count,rfl⟩ := exists_take_of_fate hfate
    exact Or.inl (readable_bind hreadable habsent
      ⟨_,rfl,(List.length_take_le' _ _).trans hlength,hslice⟩ hvalid)

theorem read_appendEntry (hrun : get (store.runPath runId) disk.root = some (.directory files))
    (hreadable : Readable crates store broken runId files entries) {seq : UInt64}
    {state : RunJournalStateV1} {failureKind : Option RunFailureKindV1} (hhistory : History runId
      (entries++[⟨runJournalSchemaVersion,runId,seq,state,atUtc,failureKind⟩])) :
    read pid (appendEntry crates store runId seq state atUtc failureKind) disk =
      .ok ⟨runJournalSchemaVersion,runId,seq,state,atUtc,failureKind⟩ := by
  have habsent := lookupEntry_eq_none_iff.2 (entryFile_fresh hreadable hhistory)
  rw [← get_child hrun] at habsent
  have happend : (appendEntry crates store runId seq state atUtc failureKind).run.exec
      (Disk.perform pid) disk = (.ok ⟨runJournalSchemaVersion,runId,seq,state,atUtc,failureKind⟩,_) :=
    (exec_run_bind_eq_ok _).2 ⟨(),_,exec_durably (DurableFileSystem.exec_createNew ⟨files,hrun⟩ habsent),
      rfl⟩
  exact congrArg Prod.fst happend

theorem read_cleanup (hread : read pid (readEntries crates store runId) disk = .ok entries)
    (hid : validateRunId runId = .ok ()) {last : RunJournalEntryV1}
    (hlast : entries.getLast? = some last)
    (hstate : last.state ∈ [RunJournalStateV1.created,.admitted,.prepared,.executing,.finalizing])
    (htime : RunJournal.validateTimestamp atUtc = .ok ()) :
    ∃ pending, read pid (transitionCleanupPendingAfterAdmissionAcquired crates store runId atUtc)
      disk = .ok pending := by
  obtain ⟨files,hrun,hreadable⟩ := read_readEntries.1 hread
  have hlegal : legalTransition last.state .cleanupPending = true := by
    generalize last.state = state at hstate
    cases state <;> first | rfl | exact absurd hstate (by decide)
  have hhistory := history_next hreadable.history hlast htime hlegal (rfl : _ = none.isSome)
  refine ⟨⟨runJournalSchemaVersion,runId,last.seq+1,.cleanupPending,atUtc,none⟩,?_⟩
  unfold transitionCleanupPendingAfterAdmissionAcquired lastEntry
  rw [read_ofExcept_bind,hid]
  change read pid (Program.ofExcept _ >>= _) disk = _
  rw [read_ofExcept_bind,htime]
  change read pid (readEntries crates store runId >>= _) disk = _
  rw [read_bind uses_readEntries,hread]
  change read pid (Program.ofExcept _ >>= _) disk = _
  rw [read_ofExcept_bind,hlast]
  change read pid (ensure _ _ >>= _) disk = _
  rw [read_bind uses_ensure,(read_ensure_eq_ok (u := ())).2 hstate]
  exact read_appendEntry hrun hreadable hhistory

theorem created_of_entry_admitted {entry : RunJournalEntryV1}
    (hentry : w.entry runId entries = some entry) (hstate : entry.state = .admitted) :
    validateRunId runId = .ok () ∧
      ∃ previous, entries.getLast? = some previous ∧ previous.state = .created := by
  cases w with
  | bindSource commitSha manifestDigest entryCount => cases hentry
  | transition state atUtc failureKind =>
    obtain ⟨previous,hprevious,rfl⟩ := Option.map_eq_some_iff.1 hentry
    obtain ⟨hlast,hchecks⟩ := Option.filter_eq_some_iff.1 hprevious
    obtain ⟨hid,-,⟨hlegal,-⟩,-⟩ := of_decide_eq_true hchecks
    refine ⟨hid,previous,hlast,?_⟩
    cases hstate
    generalize previous.state = before at hlegal
    cases before <;> first | rfl | cases hlegal

theorem cleanup_of_readable {disk' : Disk OsString}
    (h : read pid (readEntries crates store runId) disk' = .ok entries ∨
      ∃ entry, w.entry runId entries = some entry ∧
        read pid (readEntries crates store runId) disk' = .ok (entries++[entry]))
    {entry : RunJournalEntryV1} (hentry : w.entry runId entries = some entry)
    (hstate : entry.state = .admitted) (htime : RunJournal.validateTimestamp atUtc = .ok ()) :
    ∃ pending, read pid (transitionCleanupPendingAfterAdmissionAcquired crates store runId atUtc)
      disk' = .ok pending := by
  obtain ⟨hid,previous,hlast,hcreated⟩ := created_of_entry_admitted hentry hstate
  rcases h with hread | ⟨_,hsame,hread⟩
  · exact read_cleanup hread hid hlast (by simp [hcreated]) htime
  · rw [hentry] at hsame
    cases hsame
    exact read_cleanup hread hid (List.getLast?_concat) (by simp [hstate]) htime

theorem unreadable_of_torn (hread : read pid (readEntries crates store runId) disk = .ok entries)
    (htorn : Torn crates store runId entries faults disk w) (found : List RunJournalEntryV1) :
    read pid (readEntries crates store runId)
      (suffer pid faults (w.call crates store runId).run disk).2 ≠ .ok found := by
  intro hfound
  obtain ⟨files,hrun,hreadable⟩ := read_readEntries.1 hread
  obtain ⟨files',hrun',hreadable'⟩ := read_readEntries.1 hfound
  rcases suffer_call_cases hrun hread with
    ⟨hwhole,-⟩ | ⟨name,bytes,content,hfile,-,hfate,hafter,hiff⟩
  · exact hwhole htorn
  · rw [hafter] at hrun'
    cases hrun'
    refine not_readable_of_cut hfile hfate (hiff.1 htorn) ?_ hreadable'
    rintro ⟨⟨target,hlink⟩,-⟩
    rw [get_child hafter,lookupEntry_insertEntry,if_pos rfl] at hlink
    cases hlink

theorem readable_of_not_torn (hread : read pid (readEntries crates store runId) disk = .ok entries)
    (hlinks : store.Unlinked runId disk)
    (hwhole : ¬ Torn crates store runId entries faults disk w) :
    read pid (readEntries crates store runId)
        (suffer pid faults (w.call crates store runId).run disk).2 = .ok entries ∨
      ∃ entry, w.entry runId entries = some entry ∧ read pid (readEntries crates store runId)
        (suffer pid faults (w.call crates store runId).run disk).2 = .ok (entries++[entry]) := by
  obtain ⟨files,hrun,hreadable⟩ := read_readEntries.1 hread
  rcases suffer_call_cases hrun hread with
    ⟨-,hsame⟩ | ⟨name,bytes,content,hfile,habsent,hfate,hafter,hiff⟩
  · rw [hsame]
    exact Or.inl hread
  · rcases readable_of_complete (hreadable.of_unlinked hlinks _) hfile habsent hfate (fun h => hwhole (hiff.2 h)) with
      hafter' | ⟨entry,hentry,hafter'⟩
    · exact Or.inl (read_readEntries.2 ⟨_,hafter,hafter'⟩)
    · exact Or.inr ⟨entry,hentry,read_readEntries.2 ⟨_,hafter,hafter'⟩⟩

/-- The last known state is kept exactly where no record is left incomplete. -/
theorem last_state_kept_iff (hread : read pid (readEntries crates store runId) disk = .ok entries)
    (hlinks : store.Unlinked runId disk) :
    LastStateKept crates store runId entries pid faults disk w ↔
      ¬ Torn crates store runId entries faults disk w := by
  constructor
  · rintro ⟨hkept,-⟩ htorn
    rcases hkept with hkept | ⟨entry,-,hkept⟩
    · exact unreadable_of_torn hread htorn _ hkept
    · exact unreadable_of_torn hread htorn _ hkept
  · intro hwhole
    have hkept := readable_of_not_torn hread hlinks hwhole
    exact ⟨hkept,fun entry hentry hstate _ atUtc htime => cleanup_of_readable hkept hentry hstate htime⟩

end

def sampleStore : RunJournalStore := ⟨[],String.ofList (List.replicate 64 'b')⟩

def sampleRun : String := String.ofList (List.replicate 64 'a')

def sampleCreated : RunJournalEntryV1 :=
  ⟨runJournalSchemaVersion,sampleRun,0,.created,"2026-01-01T00:00:00Z",none⟩

def sampleFiles : RunFiles :=
  insertEntry (entryFile sampleCreated)
    (.file (markerBytes Crates.reference (RunJournalEntryV1.codec.encode sampleCreated)))
    [(.ofStr runMarker,.file (match runMarkerBytes Crates.reference sampleStore.rootToken sampleRun with
      | .ok bytes => bytes
      | .error _ => []))]

def sampleDisk : Disk OsString where
  root := some (.directory [(.ofStr runsDir,.directory [(.ofStr sampleRun,.directory sampleFiles)])])
  locks := []
  counters _ _ := 0

def sampleWrite : JournalWrite := .transition .admitted "2026-01-01T00:00:01Z" none

theorem get_sampleDisk :
    get (sampleStore.runPath sampleRun) sampleDisk.root = some (.directory sampleFiles) := by
  have hget : ∀ (a b : OsString) (files : RunFiles),
      get [a,b] (some (.directory [(a,.directory [(b,.directory files)])])) =
        some (.directory files) := by
    intro a b files
    simp [FileTree.get,lookupEntry]
  exact hget (.ofStr runsDir) (.ofStr sampleRun) sampleFiles

theorem readable_sampleFiles (broken : OsString → Prop) :
    Readable Crates.reference sampleStore broken sampleRun sampleFiles [sampleCreated] := by
  obtain ⟨bytes,hbytes,hreadable⟩ := readable_marker .reference broken
    (by decide +kernel : sampleStore.rootToken.utf8ByteSize = 64)
    (by decide +kernel : sampleRun.utf8ByteSize = 64)
  have hvalid : validateEntry sampleCreated sampleRun 0 = .ok () := by decide +kernel
  have hslice := fromSlice_take_markerBytes .reference RunJournalEntryV1.codec_flat sampleCreated
    (markerBytes Crates.reference (RunJournalEntryV1.codec.encode sampleCreated)).length
  rw [List.take_length,if_pos (by simp [length_markerBytes])] at hslice
  unfold sampleFiles
  rw [hbytes]
  exact readable_append hreadable (.snoc .nil hvalid (by simp)) hslice

theorem read_sampleDisk :
    read 0 (readEntries Crates.reference sampleStore sampleRun) sampleDisk = .ok [sampleCreated] :=
  read_readEntries.2 ⟨sampleFiles,get_sampleDisk,readable_sampleFiles _⟩

theorem unlinked_sampleDisk : sampleStore.Unlinked sampleRun sampleDisk := by
  intro name _ target hlink
  rw [get_child get_sampleDisk,sampleFiles,lookupEntry_insertEntry] at hlink
  split_ifs at hlink
  · cases hlink
  · unfold lookupEntry at hlink
    split_ifs at hlink
    · cases hlink
    · cases hlink

theorem torn_sampleWrite : Torn Crates.reference sampleStore sampleRun [sampleCreated]
    [.proceed,.refuse] sampleDisk sampleWrite := by
  have hfile : sampleWrite.file Crates.reference sampleRun [sampleCreated] =
      some (entryFile ⟨runJournalSchemaVersion,sampleRun,1,.admitted,"2026-01-01T00:00:01Z",none⟩,
        markerBytes Crates.reference (RunJournalEntryV1.codec.encode
          ⟨runJournalSchemaVersion,sampleRun,1,.admitted,"2026-01-01T00:00:01Z",none⟩)) := by
    decide +kernel
  refine ⟨_,_,hfile,?_,rfl,by decide +kernel⟩
  rw [get_child get_sampleDisk,lookupEntry_eq_none_iff]
  have hreadable := readable_sampleFiles fun _ => False
  refine entryFile_fresh hreadable ?_
  exact .snoc hreadable.history (by decide +kernel) (by decide +kernel)

/-- A full disk: the file of the next entry is created, nothing is written to it, and the state
before it is no longer read. -/
theorem last_state_lost_of_full_disk :
    read 0 (readEntries Crates.reference sampleStore sampleRun) sampleDisk = .ok [sampleCreated] ∧
      ¬ LastStateKept Crates.reference sampleStore sampleRun [sampleCreated] 0 [.proceed,.refuse]
        sampleDisk sampleWrite := by
  have hlost := unreadable_of_torn read_sampleDisk
    torn_sampleWrite
  refine ⟨read_sampleDisk,?_⟩
  rintro ⟨hkept | ⟨entry,-,hkept⟩,-⟩
  · exact hlost _ hkept
  · exact hlost _ hkept

/-- A refused sync of the new file loses nothing. -/
theorem last_state_kept_of_sync_refused :
    read 0 (readEntries Crates.reference sampleStore sampleRun) sampleDisk = .ok [sampleCreated] ∧
      LastStateKept Crates.reference sampleStore sampleRun [sampleCreated] 0
        [.proceed,.proceed,.refuse] sampleDisk sampleWrite := by
  have hwhole : ¬ Torn Crates.reference sampleStore sampleRun [sampleCreated]
      [.proceed,.proceed,.refuse] sampleDisk sampleWrite := by
    rintro ⟨name,bytes,-,-,-,hcut⟩
    change bytes.length+1 < bytes.length at hcut
    omega
  exact ⟨read_sampleDisk,
    (last_state_kept_iff read_sampleDisk unlinked_sampleDisk).2 hwhole⟩

end RunJournalStore
end CommitCiPreflight
