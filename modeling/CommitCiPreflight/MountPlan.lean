import CommitCiPreflight.ArtifactFreshness
import CommitCiPreflight.Docker

/-! Which accepted plans can be mounted. The configuration, the workspace and the command line
each have a grammar of paths; here the three are compared. -/
namespace CommitCiPreflight

open Outcome

theorem Outcome.ofExcept_eq_ok {ε α : Type} {x : Except ε α} {a : α} :
    ofExcept x = .ok a ↔ x = .ok a := by
  cases x <;> simp [ofExcept]

theorem except_ok_bind {ε α β : Type} (a : α) (f : α → Except ε β) :
    ((.ok a : Except ε α) >>= f) = f a := rfl

theorem breaksMountArgument_eq_false {text : String} :
    breaksMountArgument text = false ↔
      ∀ c ∈ text.toList, c ≠ ',' ∧ c ≠ '=' ∧ Text.isControl c = false := by
  simp [breaksMountArgument,and_assoc]

theorem breaksMountArgument_append (s t : String) :
    breaksMountArgument (s++t) = (breaksMountArgument s || breaksMountArgument t) := by
  simp [breaksMountArgument]

theorem comma_notMem {text : String} (h : breaksMountArgument text = false) :
    ',' ∉ text.toList :=
  fun hmem => (breaksMountArgument_eq_false.1 h ',' hmem).1 rfl

theorem validateHostPath_eq_ok {path : HostPath} :
    validateHostPath path = .ok () ↔
      ∃ text, path.toStr = some text ∧ breaksMountArgument text = false := by
  unfold validateHostPath
  cases path.toStr with
  | none => simp
  | some text => cases htext : breaksMountArgument text <;> simp [htext]

theorem validateContainerMountTarget_ok {target : String}
    (h : validateContainerMountTarget target = .ok ()) : breaksMountArgument target = false := by
  unfold validateContainerMountTarget at h
  split at h
  · cases h
  · rename_i hnot
    simpa using (not_or.1 hnot).1

theorem Text.split_of_notMem {s : String} {sep : Char} (h : sep ∉ s.toList) :
    Text.split s sep = [s] := by
  rw [Text.split,List.splitOn_eq_singleton h]
  simp

theorem Text.split_append {s t : String} {sep : Char} (separator : String)
    (hseparator : separator.toList = [sep]) :
    Text.split (s++separator++t) sep = Text.split s sep++Text.split t sep := by
  simp [Text.split,hseparator,List.splitOn_append_cons_self]

theorem mem_intercalate {α : Type} {separator part : List α} {parts : List (List α)} {a : α}
    (hpart : part ∈ parts) (ha : a ∈ part) : a ∈ separator.intercalate parts := by
  induction parts with
  | nil => cases hpart
  | cons first parts ih =>
    cases parts with
    | nil =>
      obtain rfl := List.mem_singleton.1 hpart
      simpa using ha
    | cons second parts =>
      rw [List.intercalate_cons_cons]
      rcases List.mem_cons.1 hpart with rfl | hpart
      · simp [ha]
      · simp [ih hpart]

theorem Text.mem_of_mem_split {s part : String} {sep c : Char} (hpart : part ∈ Text.split s sep)
    (hc : c ∈ part.toList) : c ∈ s.toList := by
  obtain ⟨chars,hchars,rfl⟩ := List.mem_map.1 hpart
  rw [String.toList_ofList] at hc
  have hjoin : [sep].intercalate (s.toList.splitOn sep) = s.toList := List.intercalate_splitOn _
  rw [← hjoin]
  exact mem_intercalate hchars hc

def MountAccess.fields : MountAccess → List String
  | .readOnly => ["readonly"]
  | .readWrite => []

theorem split_mountArgument {source target : String} {access : MountAccess}
    (hsource : ',' ∉ source.toList) (htarget : ',' ∉ target.toList) :
    Text.split ("type=bind,src="++source++",dst="++target++
      if access = .readOnly then ",readonly" else "") ',' =
      ["type=bind","src="++source,"dst="++target]++access.fields := by
  have hsrc : Text.split ("src="++source) ',' = ["src="++source] :=
    Text.split_of_notMem (by simpa using hsource)
  have hdst : Text.split ("dst="++target) ',' = ["dst="++target] :=
    Text.split_of_notMem (by simpa using htarget)
  have htype : Text.split "type=bind" ',' = ["type=bind"] := Text.split_of_notMem (by decide)
  cases access with
  | readOnly =>
    have htext : "type=bind,src="++source++",dst="++target++",readonly" =
        "type=bind"++","++(("src="++source)++","++(("dst="++target)++","++"readonly")) := by
      apply String.toList_inj.1
      simp
    have hread : Text.split "readonly" ',' = ["readonly"] := Text.split_of_notMem (by decide)
    rw [if_pos rfl,htext,Text.split_append _ rfl,Text.split_append _ rfl,Text.split_append _ rfl,
      htype,hsrc,hdst,hread]
    rfl
  | readWrite =>
    have htext : "type=bind,src="++source++",dst="++target++"" =
        "type=bind"++","++(("src="++source)++","++("dst="++target)) := by
      apply String.toList_inj.1
      simp
    rw [if_neg (by simp),htext,Text.split_append _ rfl,Text.split_append _ rfl,htype,hsrc,hdst]
    rfl

theorem dockerMountArgument_eq_ok {mount : MountBinding} {argument : String} :
    dockerMountArgument mount = .ok argument ↔
      validateContainerMountTarget mount.target = .ok () ∧
      ∃ source, mount.source.toStr = some source ∧ breaksMountArgument source = false ∧
        argument = "type=bind,src="++source++",dst="++mount.target++
          if mount.access = .readOnly then ",readonly" else "" := by
  simp only [dockerMountArgument,bind_eq_ok,exists_unit,mapErr_eq_ok,ofExcept_eq_ok,ofOption_eq_ok,
    pure_eq,ok.injEq,validateHostPath_eq_ok]
  constructor
  · rintro ⟨⟨source,htext,hsource⟩,htarget,source',htext',rfl⟩
    obtain rfl := Option.some.inj (htext.symm.trans htext')
    exact ⟨htarget,source,htext,hsource,rfl⟩
  · rintro ⟨htarget,source,htext,hsource,rfl⟩
    exact ⟨⟨source,htext,hsource⟩,htarget,source,htext,rfl⟩

/-- Source, target and access are known from the argument. -/
theorem dockerMountArgument_inj {mount other : MountBinding} {argument : String}
    (h : dockerMountArgument mount = .ok argument) (h' : dockerMountArgument other = .ok argument) :
    other.source.bytes = mount.source.bytes ∧ other.target = mount.target ∧
      other.access = mount.access := by
  obtain ⟨htarget,source,htext,hsource,rfl⟩ := dockerMountArgument_eq_ok.1 h
  obtain ⟨htarget',source',htext',hsource',heq⟩ := dockerMountArgument_eq_ok.1 h'
  have hfields := congrArg (Text.split · ',') heq
  simp only [split_mountArgument (comma_notMem hsource)
      (comma_notMem (validateContainerMountTarget_ok htarget)),
    split_mountArgument (comma_notMem hsource')
      (comma_notMem (validateContainerMountTarget_ok htarget')),
    List.cons_append,List.nil_append,List.cons.injEq,true_and,String.append_right_inj] at hfields
  obtain ⟨rfl,htargets,haccess⟩ := hfields
  refine ⟨?_,htargets.symm,?_⟩
  · rw [← Text.bytes_of_fromUtf8 htext,← Text.bytes_of_fromUtf8 htext']
  · cases hm : mount.access <;> cases ho : other.access <;> simp [hm,ho,MountAccess.fields] at haccess ⊢

/-- The path has none of the characters that separate the fields of a mount argument. -/
def Representable (path : String) : Prop := ',' ∉ path.toList ∧ '=' ∉ path.toList

instance (path : String) : Decidable (Representable path) := inferInstanceAs (Decidable (_ ∧ _))

/-- A proper path in the characters the configuration allows. -/
structure DeclaredPath (path : String) : Prop extends ProperPath path where
  plain : ∀ c ∈ path.toList, Text.isControl c = false
  noBackslash : '\\' ∉ path.toList

theorem declaredPath_of_validate {field path : String}
    (h : validateRelativePath field path = .ok ()) (hroot : path ≠ ".") : DeclaredPath path := by
  refine ⟨properPath_of_validate h hroot,?_,?_⟩
  all_goals
    simp only [validateRelativePath,validateText,bind_eq_ok,exists_unit,ensure_eq_ok] at h
    obtain ⟨htext,hsafe⟩ := h
  · split at htext
    · cases htext
    · rename_i hnot
      simpa using (not_or.1 (not_or.1 hnot).2).2
  · exact (hsafe.resolve_left hroot).2.2.1

section Target

variable {path target : String}

theorem DeclaredPath.breaksMountArgument_eq_false (h : DeclaredPath path) :
    breaksMountArgument path = false ↔ Representable path := by
  rw [CommitCiPreflight.breaksMountArgument_eq_false]
  constructor
  · intro hchars
    exact ⟨fun hmem => (hchars _ hmem).1 rfl,fun hmem => (hchars _ hmem).2.1 rfl⟩
  · rintro ⟨hcomma,hequals⟩ c hmem
    exact ⟨fun he => hcomma (he ▸ hmem),fun he => hequals (he ▸ hmem),h.plain c hmem⟩

theorem representable_of_containerTarget (h : containerTarget path = .ok target) :
    Representable path := by
  unfold containerTarget at h
  split at h
  · cases h
  · rename_i hnot
    have hchars : breaksMountArgument path = false := by
      simpa using (not_or.1 (not_or.1 (not_or.1 (not_or.1 hnot).2).2).2).1
    rw [breaksMountArgument_eq_false] at hchars
    exact ⟨fun hmem => (hchars _ hmem).1 rfl,fun hmem => (hchars _ hmem).2.1 rfl⟩

theorem DeclaredPath.validateContainerMountTarget_eq (h : DeclaredPath path)
    (hpath : Representable path) :
    validateContainerMountTarget (containerWorkspace++"/"++path) = .ok () := by
  have hbreaks : breaksMountArgument (containerWorkspace++"/"++path) = false := by
    rw [breaksMountArgument_append,h.breaksMountArgument_eq_false.2 hpath]
    decide
  have hbackslash : '\\' ∉ (containerWorkspace++"/"++path).toList := by
    simpa [containerWorkspace] using h.noBackslash
  have hstrip : (Text.stripPrefix (containerWorkspace++"/"++path) containerWorkspace).bind
      (Text.stripPrefix · "/") = some path := by
    have hfirst : Text.stripPrefix (containerWorkspace++"/"++path) containerWorkspace =
        some ("/"++path) := Text.stripPrefix_eq_some.2 (by simp)
    rw [hfirst,Option.bind_some]
    exact Text.stripPrefix_eq_some.2 (by simp)
  have hlonger : containerWorkspace++"/"++path ≠ containerWorkspace := by
    intro heq
    have hlength := congrArg (·.toList.length) heq
    simp at hlength
  have hchars : ¬ (breaksMountArgument (containerWorkspace++"/"++path) = true ∨
      '\\' ∈ (containerWorkspace++"/"++path).toList) :=
    not_or.2 ⟨by simp [hbreaks],hbackslash⟩
  rw [validateContainerMountTarget,if_neg hchars,if_neg hlonger,hstrip]
  exact if_pos ⟨h.nonempty,h.segments⟩

theorem DeclaredPath.containerTarget_eq (h : DeclaredPath path) (hpath : Representable path) :
    containerTarget path = .ok (containerWorkspace++"/"++path) := by
  have hbreaks := h.breaksMountArgument_eq_false.2 hpath
  rw [containerTarget,if_neg]
  · dsimp only
    rw [h.validateContainerMountTarget_eq hpath]
    rfl
  · have hsegments : hasPlainSegments path := h.segments
    simp [h.nonempty,h.relative,h.noBackslash,hbreaks,hsegments]

end Target

section Source

variable {path : HostPath}

theorem HostPath.bytes_append_singleton (path : HostPath) (name : OsString) :
    (path++[name]).bytes = (if path = [] then [] else path.bytes)++Text.bytes "/"++name.bytes := by
  by_cases hpath : path = []
  · simp [HostPath.bytes,hpath]
  · simp [HostPath.bytes,hpath]

theorem validateHostPath_append_singleton {name : String}
    (h : validateHostPath path = .ok ()) (hname : breaksMountArgument name = false) :
    validateHostPath (path++[.ofStr name]) = .ok () := by
  obtain ⟨text,htext,hbreaks⟩ := validateHostPath_eq_ok.1 h
  have hbytes : (path++[OsString.ofStr name]).bytes =
      Text.bytes ((if path = [] then "" else text)++"/"++name) := by
    rw [HostPath.bytes_append_singleton,← Text.bytes_of_fromUtf8 htext,Text.bytes_append,
      Text.bytes_append]
    split <;> rfl
  refine validateHostPath_eq_ok.2 ⟨(if path = [] then "" else text)++"/"++name,?_,?_⟩
  · rw [HostPath.toStr,hbytes,Text.fromUtf8_bytes]
  · rw [breaksMountArgument_append,breaksMountArgument_append,hname]
    split
    · decide
    · rw [hbreaks]
      decide

theorem validateHostPath_append {names : List String} (h : validateHostPath path = .ok ())
    (hnames : ∀ name ∈ names, breaksMountArgument name = false) :
    validateHostPath (path++names.map OsString.ofStr) = .ok () := by
  induction names generalizing path with
  | nil => simpa using h
  | cons name names ih =>
    obtain ⟨hname,hnames⟩ := List.forall_mem_cons.1 hnames
    rw [List.map_cons,List.append_cons]
    exact ih (validateHostPath_append_singleton h hname) hnames

theorem breaksMountArgument_of_lowerHex {hex : String}
    (h : (Text.bytes hex).all Text.isLowerHex = true) : breaksMountArgument hex = false := by
  have hcode : ∀ n < 128, Text.isLowerHex (UInt8.ofNat n) = true →
      n ≠ ','.toNat ∧ n ≠ '='.toNat ∧ 0x20 ≤ n ∧ n < 0x7f := by decide
  have hascii : ∀ b : UInt8, Text.isLowerHex b = true → b.toNat < 128 := by
    intro b hb
    simp only [Text.isLowerHex,Text.isAsciiDigit,Bool.or_eq_true,Bool.and_eq_true,
      decide_eq_true_eq,UInt8.le_iff_toNat_le] at hb
    have hnine : (Text.ascii '9').toNat = 57 := rfl
    have hf : (Text.ascii 'f').toNat = 102 := rfl
    omega
  rw [List.all_eq_true] at h
  refine breaksMountArgument_eq_false.2 fun c hc => ?_
  obtain ⟨hsmall,hmem⟩ := Text.ascii_of_bytes (fun b hb => hascii b (h b hb)) hc
  obtain ⟨hcomma,hequals,hlow,hhigh⟩ := hcode _ hsmall (h _ hmem)
  refine ⟨fun he => hcomma (congrArg Char.toNat he),fun he => hequals (congrArg Char.toNat he),?_⟩
  simp [Text.isControl,hlow,hhigh]

theorem breaksMountArgument_of_digest {digest hex : String}
    (h : validatedDigestHex digest = some hex) : breaksMountArgument hex = false := by
  unfold validatedDigestHex at h
  obtain ⟨-,hvalid⟩ := Option.filter_eq_some_iff.1 h
  exact breaksMountArgument_of_lowerHex (Bool.and_eq_true_iff.1 hvalid).2

theorem breaksMountArgument_directoryName (key : CacheKey) :
    breaksMountArgument key.directoryName = false := by
  obtain ⟨hex,hhex⟩ := Option.isSome_iff_exists.1 key.valid
  have hdigest : key.digest.toList = "sha256:".toList++hex.toList := by
    have hstrip := hhex
    unfold validatedDigestHex at hstrip
    exact Text.stripPrefix_eq_some.1 (Option.filter_eq_some_iff.1 hstrip).1
  have hname : key.directoryName = "sha256-"++hex := by
    rw [CacheKey.directoryName,hdigest]
    simp
  rw [hname,breaksMountArgument_append,breaksMountArgument_of_digest hhex]
  decide

end Source

def WorkspacePlanV1.build (crates : Crates) (envelope : ExecutionPlanEnvelopeV1)
    (root : ResolvedCacheRoot) (checkout : Checkout) (repository : HostPath) :
    Except WorkspaceError WorkspacePlanV1 :=
  buildWithCacheSources crates envelope root checkout repository .empty none

section Plan

variable {crates : Crates} {envelope : ExecutionPlanEnvelopeV1} {root : ResolvedCacheRoot}
  {runRoot : HostPath} {targets : List String}

def targetOf (path : String) : String := containerWorkspace++"/"++path

def cacheMount (crates : Crates) (envelope : ExecutionPlanEnvelopeV1) (root : ResolvedCacheRoot)
    (declared : NormalizedCache) : MountBinding where
  source := root.entryDataPath (.forPlanCache crates envelope declared)
  target := targetOf declared.mountPath
  access := .readWrite
  purpose := .cache
  logicalId := some declared.id
  expectation := some ⟨.directory,root.path,none,none⟩

def artifactMount (runRoot : HostPath) (item : NormalizedCheck × String) : MountBinding where
  source := artifactSource runRoot item.2
  target := targetOf item.2
  access := .readWrite
  purpose := .artifact
  logicalId := some (item.1.id++":"++item.2)
  expectation := some ⟨(artifactKindFor item.1 item.2).mountSourceKind,runRoot,none,none⟩

theorem cacheMounts_eq {caches : List NormalizedCache}
    (hpaths : ∀ declared ∈ caches,
      DeclaredPath declared.mountPath ∧ Representable declared.mountPath)
    (hfresh : (caches.map (targetOf ·.mountPath)).Nodup)
    (hnew : ∀ declared ∈ caches, targetOf declared.mountPath ∉ targets) :
    cacheMounts crates envelope root .empty targets caches =
      .ok (caches.map (cacheMount crates envelope root),
        (caches.map (targetOf ·.mountPath)).reverse++targets) := by
  induction caches generalizing targets with
  | nil => rfl
  | cons declared caches ih =>
    obtain ⟨⟨hdeclared,hrepresentable⟩,hpaths⟩ := List.forall_mem_cons.1 hpaths
    obtain ⟨hnotin,hnew⟩ := List.forall_mem_cons.1 hnew
    rw [List.map_cons,List.nodup_cons] at hfresh
    have hrest : cacheMounts crates envelope root .empty (targetOf declared.mountPath::targets)
        caches = .ok (caches.map (cacheMount crates envelope root),
          (caches.map (targetOf ·.mountPath)).reverse++targetOf declared.mountPath::targets) := by
      refine ih hpaths hfresh.2 fun other hother => ?_
      rw [List.mem_cons,not_or]
      exact ⟨fun he => hfresh.1 (List.mem_map.2 ⟨other,hother,he⟩),hnew other hother⟩
    have hunder : validateUnderRoot
        (root.entryDataPath (.forPlanCache crates envelope declared)) root.path = .ok () :=
      if_pos (by simp [ResolvedCacheRoot.entryDataPath,ResolvedCacheRoot.entryPath])
    have hsource : ((OrderedMap.empty : OrderedMap String HostPath).get? declared.id).getD
        (root.entryDataPath (.forPlanCache crates envelope declared)) =
        root.entryDataPath (.forPlanCache crates envelope declared) := rfl
    have htarget : containerTarget declared.mountPath = .ok (targetOf declared.mountPath) :=
      hdeclared.containerTarget_eq hrepresentable
    simp only [cacheMounts,hsource,hunder,htarget,except_ok_bind,if_neg hnotin,hrest]
    simp [cacheMount]

theorem artifactMounts_eq {artifacts : List (NormalizedCheck × String)}
    (hpaths : ∀ item ∈ artifacts, DeclaredPath item.2 ∧ Representable item.2)
    (hfresh : (artifacts.map (targetOf ·.2)).Nodup)
    (hnew : ∀ item ∈ artifacts, targetOf item.2 ∉ targets) :
    artifactMounts runRoot targets artifacts = .ok (artifacts.map (artifactMount runRoot)) := by
  induction artifacts generalizing targets with
  | nil => rfl
  | cons item artifacts ih =>
    obtain ⟨⟨hdeclared,hrepresentable⟩,hpaths⟩ := List.forall_mem_cons.1 hpaths
    obtain ⟨hnotin,hnew⟩ := List.forall_mem_cons.1 hnew
    rw [List.map_cons,List.nodup_cons] at hfresh
    have hrest : artifactMounts runRoot (targetOf item.2::targets) artifacts =
        .ok (artifacts.map (artifactMount runRoot)) := by
      refine ih hpaths hfresh.2 fun other hother => ?_
      rw [List.mem_cons,not_or]
      exact ⟨fun he => hfresh.1 (List.mem_map.2 ⟨other,hother,he⟩),hnew other hother⟩
    have hunder : validateUnderRoot (artifactSource runRoot item.2) runRoot = .ok () :=
      if_pos (by simp [artifactSource_eq hdeclared.toProperPath])
    have htarget : containerTarget item.2 = .ok (targetOf item.2) :=
      hdeclared.containerTarget_eq hrepresentable
    simp only [artifactMounts,hunder,htarget,except_ok_bind,if_neg hnotin,hrest]
    rfl

theorem representable_of_cacheMounts {sources : OrderedMap String HostPath}
    {caches : List NormalizedCache} {result : List MountBinding × List String}
    (h : cacheMounts crates envelope root sources targets caches = .ok result) :
    ∀ declared ∈ caches, Representable declared.mountPath := by
  induction caches generalizing targets result with
  | nil => simp
  | cons declared caches ih =>
    obtain ⟨⟨⟩,-,h⟩ := except_bind_eq_ok.1 h
    obtain ⟨target,htarget,h⟩ := except_bind_eq_ok.1 h
    dsimp only at h
    obtain ⟨-,h⟩ := except_guard_eq_ok.1 h
    obtain ⟨rest,hrest,-⟩ := except_bind_eq_ok.1 h
    exact List.forall_mem_cons.2 ⟨representable_of_containerTarget htarget,ih hrest⟩

theorem representable_of_artifactMounts {artifacts : List (NormalizedCheck × String)}
    {mounts : List MountBinding} (h : artifactMounts runRoot targets artifacts = .ok mounts) :
    ∀ item ∈ artifacts, Representable item.2 := by
  induction artifacts generalizing targets mounts with
  | nil => simp
  | cons item artifacts ih =>
    obtain ⟨⟨⟩,-,h⟩ := except_bind_eq_ok.1 h
    obtain ⟨target,htarget,h⟩ := except_bind_eq_ok.1 h
    dsimp only at h
    obtain ⟨-,h⟩ := except_guard_eq_ok.1 h
    obtain ⟨rest,hrest,-⟩ := except_bind_eq_ok.1 h
    exact List.forall_mem_cons.2 ⟨representable_of_containerTarget htarget,ih hrest⟩

def ConfigV1.mountedPaths (config : ConfigV1) : List String :=
  config.caches.map (·.mountPath)++config.checks.flatMap (·.artifacts)

def ExecutionPlanV1.mountedPaths (plan : ExecutionPlanV1) : List String :=
  plan.caches.map (·.mountPath)++plan.declaredArtifacts.map (·.2)

variable {config : ConfigV1}

theorem ConfigV1.Accepted.mountedPaths_perm (h : config.Accepted crates envelope) :
    envelope.plan.mountedPaths.Perm config.mountedPaths := by
  have hartifacts := artifacts_perm h.checks
  rw [← declaredArtifacts_map] at hartifacts
  exact (mountPaths_perm h.caches).append hartifacts

theorem ConfigV1.Accepted.declaredPath (h : config.Accepted crates envelope) :
    ∀ path ∈ config.mountedPaths, DeclaredPath path := by
  intro path hpath
  rcases List.mem_append.1 hpath with hpath | hpath
  · obtain ⟨cache,hcache,rfl⟩ := List.mem_map.1 hpath
    have hvalid := (normalizeCaches_eq_ok.1 h.caches).2.1 cache hcache
    exact declaredPath_of_validate hvalid.mountPath hvalid.notRoot
  · obtain ⟨check,hcheck,hpath⟩ := List.mem_flatMap.1 hpath
    have hvalid := (normalizeChecks_eq_ok.1 h.checks).2.1.1 check hcheck
    exact declaredPath_of_validate (hvalid.artifacts path hpath)
      fun he => hvalid.notRoot (he ▸ hpath)

theorem ConfigV1.Accepted.mountedPaths_nodup (h : config.Accepted crates envelope) :
    envelope.plan.mountedPaths.Nodup := by
  have hpairs := validatePathIsolation_eq_ok.1 h.isolation
  rw [reservedPaths,List.cons_append,List.pairwise_cons,← declaredArtifacts_map] at hpairs
  refine hpairs.2.imp fun {p q} hpq he => ?_
  rw [he,pathsOverlap_self] at hpq
  cases hpq

theorem targetOf_injective : Function.Injective targetOf := by
  intro p q h
  exact String.append_right_inj _ |>.1 h

theorem targetOf_ne (path : String) : targetOf path ≠ containerWorkspace := by
  intro heq
  have hlength := congrArg (·.toList.length) heq
  simp [targetOf] at hlength

def mountPlan (crates : Crates) (envelope : ExecutionPlanEnvelopeV1) (root : ResolvedCacheRoot)
    (host runRoot : HostPath) : WorkspacePlanV1 where
  schemaVersion := "1.0"
  repository := host
  sourceSnapshotDigest := none
  runRoot := runRoot
  mounts := {
    source := host
    target := containerWorkspace
    access := .readOnly
    purpose := .repository
    logicalId := none
    expectation := some ⟨.directory,host,some host,none⟩ }::
      envelope.plan.caches.map (cacheMount crates envelope root)++
      envelope.plan.declaredArtifacts.map (artifactMount runRoot)

theorem ConfigV1.Accepted.workspacePath (h : config.Accepted crates envelope)
    (root : ResolvedCacheRoot) :
    ∃ hex, validatedDigestHex envelope.planDigest = some hex ∧
      root.workspacePath envelope.planDigest =
        .ok (root.path++[workspacesDir,.ofStr ("sha256-"++hex)]) := by
  have hvalid : (validatedDigestHex envelope.planDigest).isSome := by
    rw [h.digest]
    exact CacheKey.validatedDigestHex_canonicalDigest crates _
  obtain ⟨hex,hhex⟩ := Option.isSome_iff_exists.1 hvalid
  refine ⟨hex,hhex,?_⟩
  rw [ResolvedCacheRoot.workspacePath,hhex]

variable {checkout : Checkout} {repository host : HostPath}

theorem build_eq (h : config.Accepted crates envelope)
    (hcanonical : checkout.canonicalize repository = .ok host)
    (hdirectory : (checkout.metadata host).toOption.map (·.kind) = some .directory)
    (hhost : validateHostPath host = .ok ())
    (hrunRoot : root.workspacePath envelope.planDigest = .ok runRoot)
    (hpaths : ∀ path ∈ envelope.plan.mountedPaths, DeclaredPath path ∧ Representable path) :
    WorkspacePlanV1.build crates envelope root checkout repository =
      .ok (mountPlan crates envelope root host runRoot) := by
  obtain ⟨hcaches,hartifacts⟩ := List.forall_mem_append.1 hpaths
  rw [List.forall_mem_map] at hcaches hartifacts
  have htargets : (envelope.plan.mountedPaths.map targetOf).Nodup :=
    h.mountedPaths_nodup.map targetOf_injective
  rw [ExecutionPlanV1.mountedPaths,List.map_append,List.map_map,List.map_map,List.nodup_append]
    at htargets
  obtain ⟨hcacheTargets,hartifactTargets,hapart⟩ := htargets
  have hcacheMounts : cacheMounts crates envelope root .empty [containerWorkspace]
      envelope.plan.caches = .ok (envelope.plan.caches.map (cacheMount crates envelope root),
        (envelope.plan.caches.map (targetOf ·.mountPath)).reverse++[containerWorkspace]) := by
    refine cacheMounts_eq hcaches hcacheTargets fun declared _ => ?_
    simpa using targetOf_ne declared.mountPath
  have hartifactMounts : artifactMounts runRoot
      ((envelope.plan.caches.map (targetOf ·.mountPath)).reverse++[containerWorkspace])
      envelope.plan.declaredArtifacts =
        .ok (envelope.plan.declaredArtifacts.map (artifactMount runRoot)) := by
    refine artifactMounts_eq hartifacts hartifactTargets fun item hitem => ?_
    rw [List.mem_append,List.mem_reverse,List.mem_singleton,not_or]
    exact ⟨fun hmem => hapart _ hmem _ (List.mem_map_of_mem hitem) rfl,targetOf_ne item.2⟩
  have hunder : validateUnderRoot runRoot root.path = .ok () := by
    obtain ⟨name,rfl⟩ := workspacePath_eq_ok hrunRoot
    exact if_pos (List.prefix_append _ _)
  simp only [WorkspacePlanV1.build,WorkspacePlanV1.buildWithCacheSources,hcanonical,hdirectory,hhost,
    hrunRoot,hunder,hcacheMounts,hartifactMounts,Except.mapError,except_ok_bind]
  rfl

theorem representable_of_build {plan : WorkspacePlanV1}
    (h : WorkspacePlanV1.build crates envelope root checkout repository = .ok plan) :
    ∀ path ∈ envelope.plan.mountedPaths, Representable path := by
  obtain ⟨repository,-,h⟩ := except_bind_eq_ok.1 h
  dsimp only at h
  obtain ⟨-,h⟩ := except_guard_eq_ok.1 h
  obtain ⟨⟨⟩,-,h⟩ := except_bind_eq_ok.1 h
  obtain ⟨runRoot,-,h⟩ := except_bind_eq_ok.1 h
  obtain ⟨⟨⟩,-,h⟩ := except_bind_eq_ok.1 h
  obtain ⟨result,hcaches,h⟩ := except_bind_eq_ok.1 h
  obtain ⟨artifacts,hartifacts,-⟩ := except_bind_eq_ok.1 h
  refine List.forall_mem_append.2 ⟨?_,?_⟩
  · exact List.forall_mem_map.2 (representable_of_cacheMounts hcaches)
  · exact List.forall_mem_map.2 (representable_of_artifactMounts hartifacts)

/-- The mounts of a configuration: the repository read-only, every cache and artifact writable
and below the cache root, each under a target of its own and each with an argument that says what
is mounted where. -/
structure MountedAs (config : ConfigV1) (host : HostPath) (root : ResolvedCacheRoot)
    (plan : WorkspacePlanV1) : Prop where
  targets : (plan.mounts.map (·.target)).Nodup
  mounts : ∃ first rest, plan.mounts = first::rest ∧
    (first.source = host ∧ first.target = containerWorkspace ∧ first.access = .readOnly ∧
      first.purpose = .repository) ∧
    (rest.map fun mount => (mount.purpose,mount.target)).Perm
      (config.caches.map (fun cache => (.cache,targetOf cache.mountPath))++
        config.checks.flatMap fun check =>
          check.artifacts.map fun artifact => (.artifact,targetOf artifact)) ∧
    ∀ mount ∈ rest, mount.access = .readWrite ∧ root.path <+: mount.source
  rendered : ∀ mount ∈ plan.mounts, ∃ argument, dockerMountArgument mount = .ok argument ∧
    ∀ other, dockerMountArgument other = .ok argument →
      other.source.bytes = mount.source.bytes ∧ other.target = mount.target ∧
        other.access = mount.access

theorem rendered_of_valid {mount : MountBinding} (hsource : validateHostPath mount.source = .ok ())
    (htarget : validateContainerMountTarget mount.target = .ok ()) :
    ∃ argument, dockerMountArgument mount = .ok argument ∧
      ∀ other, dockerMountArgument other = .ok argument →
        other.source.bytes = mount.source.bytes ∧ other.target = mount.target ∧
          other.access = mount.access := by
  obtain ⟨source,htext,hbreaks⟩ := validateHostPath_eq_ok.1 hsource
  have hargument := dockerMountArgument_eq_ok.2 ⟨htarget,source,htext,hbreaks,rfl⟩
  exact ⟨_,hargument,fun other hother => dockerMountArgument_inj hargument hother⟩

theorem validateHostPath_cacheMount (hroot : validateHostPath root.path = .ok ())
    (declared : NormalizedCache) :
    validateHostPath (cacheMount crates envelope root declared).source = .ok () := by
  have hsource : (cacheMount crates envelope root declared).source = root.path++
      ["entries",(CacheKey.forPlanCache crates envelope declared).directoryName,"data"].map
        OsString.ofStr := by
    simp [cacheMount,ResolvedCacheRoot.entryDataPath,ResolvedCacheRoot.entryPath,entriesDir,dataDir]
  rw [hsource]
  refine validateHostPath_append hroot ?_
  simp only [List.forall_mem_cons,breaksMountArgument_directoryName,true_and]
  decide

theorem validateHostPath_runRoot {hex : String} (hroot : validateHostPath root.path = .ok ())
    (hhex : validatedDigestHex envelope.planDigest = some hex) :
    validateHostPath (root.path++[workspacesDir,.ofStr ("sha256-"++hex)]) = .ok () := by
  have hname : breaksMountArgument ("sha256-"++hex) = false := by
    rw [breaksMountArgument_append,breaksMountArgument_of_digest hhex]
    decide
  change validateHostPath (root.path++["workspaces","sha256-"++hex].map OsString.ofStr) = .ok ()
  refine validateHostPath_append hroot ?_
  simp only [List.forall_mem_cons,hname,true_and]
  decide

theorem validateHostPath_artifactMount (hrunRoot : validateHostPath runRoot = .ok ())
    {item : NormalizedCheck × String} (hdeclared : DeclaredPath item.2)
    (hrepresentable : Representable item.2) :
    validateHostPath (artifactMount runRoot item).source = .ok () := by
  have hsource : (artifactMount runRoot item).source =
      runRoot++("artifacts"::segments item.2).map OsString.ofStr :=
    artifactSource_eq hdeclared.toProperPath
  rw [hsource]
  refine validateHostPath_append hrunRoot (List.forall_mem_cons.2 ⟨by decide,?_⟩)
  intro segment hsegment
  have hplain := hdeclared.breaksMountArgument_eq_false.2 hrepresentable
  rw [breaksMountArgument_eq_false] at hplain ⊢
  exact fun c hc => hplain c (Text.mem_of_mem_split hsegment hc)

/-- The mounts of the plan that is built. -/
theorem mountPlan_mountedAs {hex : String} (h : config.Accepted crates envelope)
    (hhost : validateHostPath host = .ok ()) (hroot : validateHostPath root.path = .ok ())
    (hhex : validatedDigestHex envelope.planDigest = some hex)
    (hrunRoot : runRoot = root.path++[workspacesDir,.ofStr ("sha256-"++hex)])
    (hpaths : ∀ path ∈ envelope.plan.mountedPaths, DeclaredPath path ∧ Representable path) :
    MountedAs config host root (mountPlan crates envelope root host runRoot) := by
  obtain ⟨hcaches,hartifacts⟩ := List.forall_mem_append.1 hpaths
  rw [List.forall_mem_map] at hcaches hartifacts
  have hrun : validateHostPath runRoot = .ok () := hrunRoot ▸ validateHostPath_runRoot hroot hhex
  refine ⟨?_,⟨_,_,rfl,⟨rfl,rfl,rfl,rfl⟩,?_,?_⟩,?_⟩
  · have htargets : (mountPlan crates envelope root host runRoot).mounts.map (·.target) =
        containerWorkspace::envelope.plan.mountedPaths.map targetOf := by
      simp [mountPlan,ExecutionPlanV1.mountedPaths,cacheMount,artifactMount,Function.comp_def]
    rw [htargets,List.nodup_cons]
    refine ⟨fun hmem => ?_,h.mountedPaths_nodup.map targetOf_injective⟩
    obtain ⟨path,-,he⟩ := List.mem_map.1 hmem
    exact targetOf_ne path he
  · have hcachePerm := (mountPaths_perm h.caches).map fun path => (MountPurpose.cache,targetOf path)
    have hartifactPerm := (artifacts_perm h.checks).map
      fun path => (MountPurpose.artifact,targetOf path)
    rw [← declaredArtifacts_map] at hartifactPerm
    simpa [cacheMount,artifactMount,Function.comp_def,List.map_flatMap] using
      hcachePerm.append hartifactPerm
  · refine List.forall_mem_append.2 ⟨List.forall_mem_map.2 fun declared _ => ?_,
      List.forall_mem_map.2 fun item hitem => ?_⟩
    · exact ⟨rfl,by simp [cacheMount,ResolvedCacheRoot.entryDataPath,ResolvedCacheRoot.entryPath]⟩
    · refine ⟨rfl,?_⟩
      have hsource : (artifactMount runRoot item).source = _ :=
        artifactSource_eq (hartifacts item hitem).1.toProperPath
      rw [hsource,hrunRoot,List.append_assoc]
      exact List.prefix_append _ _
  · refine List.forall_mem_append.2 ⟨List.forall_mem_cons.2 ⟨?_,List.forall_mem_map.2 ?_⟩,
      List.forall_mem_map.2 ?_⟩
    · have hworkspace : validateContainerMountTarget containerWorkspace = .ok () := by decide
      exact rendered_of_valid hhost hworkspace
    · intro declared hdeclared
      obtain ⟨hpath,hrepresentable⟩ := hcaches declared hdeclared
      exact rendered_of_valid (validateHostPath_cacheMount hroot declared)
        (hpath.validateContainerMountTarget_eq hrepresentable)
    · intro item hitem
      obtain ⟨hpath,hrepresentable⟩ := hartifacts item hitem
      exact rendered_of_valid (validateHostPath_artifactMount hrun hpath hrepresentable)
        (hpath.validateContainerMountTarget_eq hrepresentable)

/-- An accepted configuration can be mounted exactly if no path it mounts has a comma or an
equals sign. -/
theorem accepted_plan_mountable_iff (h : config.intoPlan crates = .ok envelope)
    (hcanonical : checkout.canonicalize repository = .ok host)
    (hdirectory : (checkout.metadata host).toOption.map (·.kind) = some .directory)
    (hhost : validateHostPath host = .ok ()) (hroot : validateHostPath root.path = .ok ()) :
    (∃ plan, WorkspacePlanV1.build crates envelope root checkout repository = .ok plan ∧
      MountedAs config host root plan) ↔
    ∀ path ∈ config.mountedPaths, Representable path := by
  have haccepted := ConfigV1.intoPlan_eq_ok.1 h
  have hmem : ∀ path, path ∈ envelope.plan.mountedPaths ↔ path ∈ config.mountedPaths :=
    fun path => haccepted.mountedPaths_perm.mem_iff
  constructor
  · rintro ⟨plan,hbuild,-⟩ path hpath
    exact representable_of_build hbuild path ((hmem path).2 hpath)
  · intro hrepresentable
    obtain ⟨hex,hhex,hrunRoot⟩ := haccepted.workspacePath root
    have hpaths : ∀ path ∈ envelope.plan.mountedPaths, DeclaredPath path ∧ Representable path :=
      fun path hpath => ⟨haccepted.declaredPath path ((hmem path).1 hpath),
        hrepresentable path ((hmem path).1 hpath)⟩
    exact ⟨_,build_eq haccepted hcanonical hdirectory hhost hrunRoot hpaths,
      mountPlan_mountedAs haccepted hhost hroot hhex rfl hpaths⟩

end Plan

def HostPath.sample : HostPath := HostPath.components "/srv/project"

theorem accepted_plan_mountable_sample :
    (∀ path ∈ ConfigV1.samplePaths.mountedPaths, Representable path) ∧
      ∃ envelope plan, ConfigV1.samplePaths.intoPlan .reference = .ok envelope ∧
        WorkspacePlanV1.build .reference envelope .sample .sample .sample = .ok plan ∧
        MountedAs .samplePaths .sample .sample plan := by
  have hrepresentable : ∀ path ∈ ConfigV1.samplePaths.mountedPaths, Representable path := by decide
  obtain ⟨envelope,henvelope⟩ := ConfigV1.samplePaths_accepted
  have hcanonical : Checkout.sample.canonicalize .sample = .ok HostPath.sample := rfl
  have hdirectory : (Checkout.sample.metadata HostPath.sample).toOption.map (·.kind) =
      some .directory := by decide
  have hhost : validateHostPath HostPath.sample = .ok () := by decide
  have hroot : validateHostPath ResolvedCacheRoot.sample.path = .ok () := by decide
  obtain ⟨plan,hplan⟩ :=
    (accepted_plan_mountable_iff henvelope hcanonical hdirectory hhost hroot).2 hrepresentable
  exact ⟨hrepresentable,envelope,plan,henvelope,hplan⟩

def ConfigV1.sampleComma : ConfigV1 :=
  { ConfigV1.samplePaths with caches := [⟨"cargo","target/cache,v1"⟩] }

/-- A cache below `target/cache,v1` is accepted, and has no mount. -/
theorem accepted_plan_not_mountable :
    ∃ envelope, ConfigV1.sampleComma.intoPlan .reference = .ok envelope ∧
      validateHostPath HostPath.sample = .ok () ∧
      validateHostPath ResolvedCacheRoot.sample.path = .ok () ∧
      ∀ plan, WorkspacePlanV1.build .reference envelope .sample .sample .sample ≠ .ok plan := by
  obtain ⟨envelope,henvelope⟩ : ∃ envelope, ConfigV1.sampleComma.intoPlan .reference =
      .ok envelope := exists_of_isSome (by decide +kernel)
  refine ⟨envelope,henvelope,by decide,by decide,fun plan hplan => ?_⟩
  have hmem : "target/cache,v1" ∈ envelope.plan.mountedPaths :=
    (ConfigV1.intoPlan_eq_ok.1 henvelope).mountedPaths_perm.mem_iff.2 (by decide)
  exact (representable_of_build hplan _ hmem).1 (by decide)

end CommitCiPreflight
