import CommitCiPreflight.Cache

/-! Where the programs of the cache write, and what they lock. -/
namespace CommitCiPreflight

open Program Files

variable {W L : HostPath → Prop} {path source destination : HostPath} {nodeLimit : ℕ}
  {policy : PayloadLinkPolicy}

theorem uses_validateOwnerMarker : (validateOwnerMarker path).run.Uses (FileOp.Keeps W L) := by
  refine uses_run_bind (uses_run_bind (uses_lift uses_metadata) fun outcome => ?_) fun _ => ?_
  · split <;> exact .done _
  refine uses_run_bind (uses_lift uses_readFile) fun outcome => ?_
  split
  · split <;> exact .done _
  all_goals exact .done _

theorem uses_validatePlainDirectory :
    (validatePlainDirectory path).run.Uses (FileOp.Keeps W L) := by
  refine uses_run_bind (uses_lift uses_metadata) fun outcome => ?_
  split <;> exact .done _

theorem uses_ensureManagedDirectory (h : W path) :
    (ensureManagedDirectory path).run.Uses (FileOp.Keeps W L) := by
  refine uses_run_bind (uses_lift (uses_createDir h)) fun outcome => ?_
  split
  · exact uses_validatePlainDirectory
  · exact uses_validatePlainDirectory
  · exact .done _

theorem uses_readOptionalFile : (readOptionalFile path).run.Uses (FileOp.Keeps W L) := by
  refine uses_run_bind (uses_lift uses_metadata) fun outcome => ?_
  split
  case h_2 => exact uses_run_bind (uses_passOn uses_readFile) fun _ => .done _
  all_goals exact .done _

theorem uses_removeIfPresent (h : ∀ q, path <+: q → W q) :
    (removeIfPresent path).run.Uses (FileOp.Keeps W L) := by
  refine uses_run_bind (uses_lift uses_metadata) fun outcome => ?_
  split
  case h_2 => exact uses_passOn (uses_removeDirAll h)
  case h_3 => exact uses_passOn (uses_removeFile (h _ List.prefix_rfl))
  all_goals exact .done _

theorem uses_acquireAdvisoryLock {pid : ℕ} {label : String} (hw : W path) (hl : L path) :
    (acquireAdvisoryLock pid path label).run.Uses (FileOp.Keeps W L) := by
  refine uses_run_bind (uses_run_bind (uses_lift uses_metadata) fun outcome => ?_) fun _ => ?_
  · split <;> exact .done _
  refine uses_run_bind (uses_passOn (uses_openCreate hw)) fun _ => ?_
  refine uses_run_bind (uses_run_bind (uses_lift (uses_tryLock hl)) fun outcome => ?_) fun _ => ?_
  · split <;> exact .done _
  have howner : (writeLockOwner pid path label).run.Uses (FileOp.Keeps W L) :=
    uses_run_bind (uses_passOn (uses_truncate hw)) fun _ => uses_passOn (uses_append hw)
  refine uses_run_bind (uses_attempt howner) fun outcome => ?_
  split
  · exact .done _
  · exact uses_run_bind (uses_lift (uses_unlock hl)) fun _ => .done _

theorem uses_measureSymlink : (measureSymlink path policy).run.Uses (FileOp.Keeps W L) := by
  refine uses_run_bind uses_ensure fun _ => ?_
  exact uses_run_bind (uses_passOn uses_readLink) fun _ => .done _

theorem uses_walkPayload {depth nodes : ℕ} :
    (walkPayload nodeLimit policy depth path nodes).run.Uses (FileOp.Keeps W L) := by
  induction depth generalizing path nodes with
  | zero => exact .done _
  | succ depth ih =>
    refine uses_run_bind uses_ensure fun _ => ?_
    refine uses_run_bind (uses_passOn uses_metadata) fun outcome => ?_
    split
    · exact uses_run_bind uses_measureSymlink fun _ => .done _
    · exact .done _
    · exact .done _
    · refine uses_run_bind (uses_passOn uses_readDir) fun names => uses_foldlM fun _ name _ => ?_
      exact uses_run_bind ih fun _ => uses_run_bind (.done _) fun _ => .done _

theorem uses_validatePayloadTree :
    (validatePayloadTree path nodeLimit policy).run.Uses (FileOp.Keeps W L) := by
  refine uses_run_bind (uses_passOn uses_metadata) fun outcome => ?_
  split
  · exact .done _
  · exact uses_run_bind uses_walkPayload fun _ => .done _
  · exact .done _

theorem uses_requireAbsent : (requireAbsent path).run.Uses (FileOp.Keeps W L) := by
  refine uses_run_bind (uses_lift uses_metadata) fun outcome => ?_
  split <;> exact .done _

theorem uses_recreatePayloadLink (h : W destination) :
    (recreatePayloadLink source destination policy).run.Uses (FileOp.Keeps W L) := by
  refine uses_run_bind uses_ensure fun _ => ?_
  refine uses_run_bind (uses_passOn uses_readLink) fun _ => ?_
  exact uses_run_bind uses_requireAbsent fun _ => uses_passOn (uses_createSymlink h)

theorem uses_copyFile (h : W destination) :
    (copyFile source destination).run.Uses (FileOp.Keeps W L) := by
  refine uses_run_bind (uses_passOn uses_readFile) fun _ => ?_
  refine uses_run_bind (uses_passOn (uses_openCreate h)) fun _ => ?_
  exact uses_run_bind (uses_passOn (uses_truncate h)) fun _ => uses_passOn (uses_append h)

theorem uses_copyPayloadNode {depth nodes : ℕ} (h : ∀ q, destination <+: q → W q) :
    (copyPayloadNode nodeLimit policy depth source destination nodes).run.Uses
      (FileOp.Keeps W L) := by
  induction depth generalizing source destination nodes with
  | zero => exact .done _
  | succ depth ih =>
    have hdestination := h _ List.prefix_rfl
    refine uses_run_bind uses_ensure fun _ => ?_
    refine uses_run_bind (uses_passOn uses_metadata) fun outcome => ?_
    split
    · exact uses_run_bind (uses_recreatePayloadLink hdestination) fun _ => .done _
    · exact uses_run_bind (uses_copyFile hdestination) fun _ => .done _
    · exact .done _
    · refine uses_run_bind (uses_passOn (uses_createDir hdestination)) fun _ => ?_
      refine uses_run_bind (uses_passOn uses_readDir) fun names => uses_foldlM fun _ name _ => ?_
      exact ih fun q hq => h q ((List.prefix_append _ _).trans hq)

theorem uses_copyPayloadTree (h : ∀ q, destination <+: q → W q) :
    (copyPayloadTree source destination nodeLimit policy).run.Uses (FileOp.Keeps W L) := by
  refine uses_run_bind (uses_passOn uses_metadata) fun outcome => ?_
  split
  · exact .done _
  · refine uses_run_bind uses_requireAbsent fun _ => ?_
    exact uses_run_bind (uses_copyPayloadNode h) fun _ => .done _
  · exact .done _

variable {crates : Crates} {prepared : PreparedCacheEntry}

theorem uses_readGenerationManifest :
    (readGenerationManifest crates path).run.Uses (FileOp.Keeps W L) :=
  uses_run_bind (uses_passOn uses_readFile) fun _ => .done _

theorem uses_entryStatus {name : String} :
    (entryStatus crates path name).run.Uses (FileOp.Keeps W L) := by
  simp only [entryStatus]
  split
  · exact .done _
  refine uses_run_bind (uses_lift uses_metadata) fun outcome => ?_
  split
  case h_2 =>
    refine uses_run_bind (uses_passOn uses_readFile) fun bytes => ?_
    refine uses_run_bind uses_ensure fun _ => ?_
    refine uses_run_bind uses_readOptionalFile fun outcome => ?_
    split
    · exact uses_run_bind (.done _) fun parsed => uses_run_bind uses_ensure fun _ => .done _
    · exact .done _
  all_goals exact .done _

theorem uses_dropGeneration {phase : PreparedPhase} (h : ∀ q, prepared.stagingPath <+: q → W q) :
    (dropGeneration crates prepared phase).run.Uses (FileOp.Keeps W L) := by
  have hroot : (validateOwnedStagingRoot prepared.path prepared.stagingPath).run.Uses
      (FileOp.Keeps W L) := by
    refine uses_run_bind uses_ensure fun _ => ?_
    split
    · exact .done _
    · exact uses_run_bind (.done _) fun _ => uses_validatePlainDirectory
  have hremove : (removeOwnedGenerationDirectory prepared.stagingPath).run.Uses
      (FileOp.Keeps W L) := by
    refine uses_run_bind (uses_lift uses_metadata) fun outcome => ?_
    split
    case h_2 => exact uses_passOn (uses_removeDirAll h)
    all_goals exact .done _
  simp only [dropGeneration]
  split
  · exact .done _
  refine uses_run_bind hroot fun _ => ?_
  split
  · refine uses_run_bind uses_readGenerationManifest fun manifest => ?_
    split
    · exact .done _
    · exact hremove
  · exact hremove

theorem uses_dropPreparedEntry {phase : PreparedPhase} (h : ∀ q, prepared.stagingPath <+: q → W q)
    (hl : L (prepared.path++[entryLockFile])) :
    (dropPreparedEntry crates prepared phase).Uses (FileOp.Keeps W L) :=
  uses_bind (uses_dropGeneration h) fun _ => uses_unlock hl

theorem uses_stageGeneration (hdata : prepared.stagingPath <+: prepared.dataPath)
    (h : ∀ q, prepared.stagingPath <+: q → W q) :
    (stageGeneration crates prepared policy).run.Uses (FileOp.Keeps W L) := by
  have hbelow : ∀ q, prepared.dataPath <+: q → W q := fun q hq => h q (hdata.trans hq)
  have hmanifest : (writeGenerationManifest crates prepared.stagingPath prepared.manifest).run.Uses
      (FileOp.Keeps W L) := uses_writeNew (h _ (List.prefix_append _ _))
  refine uses_run_bind (uses_ensureManagedDirectory (h _ hdata)) fun _ => ?_
  split
  · refine uses_run_bind (uses_removeIfPresent hbelow) fun _ => ?_
    refine uses_run_bind (uses_run_bind uses_validatePayloadTree fun _ => .done _) fun cloned => ?_
    split
    · exact uses_run_bind (uses_copyPayloadTree hbelow) fun _ => hmanifest
    · exact hmanifest
  · exact hmanifest

variable {pid : ℕ} {key : CacheKey} {planDigest : String} {generation : UInt64}

theorem uses_prepareLockedEntry (h : ∀ q, path <+: q → W q) :
    (prepareLockedEntry crates pid path key planDigest generation policy).run.Uses
      (FileOp.Keeps W L) := by
  refine uses_run_bind uses_entryStatus fun status => ?_
  refine uses_run_bind (uses_lift uses_fetchAdd) fun sequence => ?_
  refine uses_run_bind (uses_ensureManagedDirectory (h _ (List.prefix_append _ _))) fun _ => ?_
  have hstaging : ∀ name : OsString, ∀ q, path++[name] <+: q → W q :=
    fun name q hq => h q ((List.prefix_append _ _).trans hq)
  refine uses_run_bind (uses_attempt (uses_stageGeneration (List.prefix_append _ _) (hstaging _)))
    fun outcome => ?_
  split
  · exact .done _
  · exact uses_run_bind (uses_attempt (uses_dropGeneration (hstaging _))) fun _ => .done _

structure PreparedCacheEntry.For (prepared : PreparedCacheEntry) (pid : ℕ) (entry : HostPath)
    (key : CacheKey) (planDigest : String) (generation : UInt64) : Prop where
  path : prepared.path = entry
  staging : ∃ sequence : ℕ, prepared.stagingPath =
    entry++[.ofStr (".staging-"++toString pid++"-"++toString sequence)]
  data : prepared.dataPath = prepared.stagingPath++[dataDir]
  key : prepared.keyDigest = key.digest
  plan : prepared.planDigest = planDigest
  generation : prepared.generation = generation

theorem yields_prepareEntry {root : ResolvedCacheRoot} :
    Yields (fun prepared : PreparedCacheEntry =>
        prepared.For pid (root.entryPath key) key planDigest generation)
      (prepareEntry crates pid root key planDigest generation) := by
  have hlocked : Yields (fun prepared : PreparedCacheEntry =>
        prepared.For pid (root.entryPath key) key planDigest generation)
      (prepareLockedEntry crates pid (root.entryPath key) key planDigest generation .preserve) := by
    refine yields_then fun status => yields_then fun sequence => yields_then fun _ => ?_
    refine yields_then fun outcome => ?_
    split
    · exact yields_pure ⟨rfl,⟨sequence,rfl⟩,rfl,rfl,rfl,rfl⟩
    · exact yields_then fun _ => yields_throw
  refine yields_then fun _ => yields_then fun _ => yields_then fun _ => yields_then fun _ => ?_
  refine yields_then fun _ => yields_bind (yields_attempt hlocked) fun outcome houtcome => ?_
  split
  · exact yields_pure (houtcome _ rfl)
  · exact yields_then fun _ => yields_throw

theorem uses_prepareEntry {root : ResolvedCacheRoot} (h : ∀ q, root.entryPath key <+: q → W q)
    (hl : L (root.entryPath key++[entryLockFile])) :
    (prepareEntry crates pid root key planDigest generation).run.Uses (FileOp.Keeps W L) := by
  have hdirectory : (ensureEntryDirectory (root.entryPath key)).run.Uses (FileOp.Keeps W L) := by
    refine uses_run_bind (uses_lift uses_metadata) fun outcome => ?_
    split
    case h_4 => exact uses_passOn (uses_createDir (h _ List.prefix_rfl))
    all_goals exact .done _
  unfold prepareEntry prepareEntryWithPayloadLinkPolicy
  refine uses_run_bind uses_validateOwnerMarker fun _ => ?_
  refine uses_run_bind uses_validatePlainDirectory fun _ => ?_
  refine uses_run_bind hdirectory fun _ => ?_
  refine uses_run_bind uses_ensure fun _ => ?_
  refine uses_run_bind (uses_acquireAdvisoryLock (h _ (List.prefix_append _ _)) hl) fun _ => ?_
  refine uses_run_bind (uses_attempt (uses_prepareLockedEntry h)) fun outcome => ?_
  split
  · exact .done _
  · exact uses_run_bind (uses_lift (uses_unlock hl)) fun _ => .done _

end CommitCiPreflight
