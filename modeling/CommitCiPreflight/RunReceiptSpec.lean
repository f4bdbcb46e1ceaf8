import CommitCiPreflight.ArtifactFreshness
import CommitCiPreflight.ReceiptDigest
import CommitCiPreflight.ReceiptPlan
import CommitCiPreflight.RunReceipt
import CommitCiPreflight.RunSpec

/-! What the check loop hands over against what the receipt validation asks for. -/
namespace CommitCiPreflight

open Outcome Receipt

theorem trim_eq_empty_iff {s : String} :
    Text.trim s = "" ↔ ∀ c ∈ s.toList, Text.isWhitespace c = true := by
  rw [Text.trim,← String.toList_inj,String.toList_ofList,String.toList_empty,
    List.rdropWhile_eq_nil_iff]
  constructor
  · intro h
    cases hleft : s.toList.dropWhile Text.isWhitespace with
    | nil => exact List.dropWhile_eq_nil_iff.1 hleft
    | cons c cs =>
      have hhead := List.head_dropWhile_not Text.isWhitespace (by simp [hleft] : s.toList.dropWhile Text.isWhitespace ≠ [])
      simp only [hleft,List.head_cons] at hhead
      rw [hleft] at h
      exact absurd (h c List.mem_cons_self) (by simp [hhead])
  · intro h c hc
    exact h c ((List.dropWhile_suffix _).subset hc)

variable {c : Char} {state : RunState}

theorem mem_dropWhile {p : Char → Bool} {cs : List Char} (h : c ∈ cs) (hc : p c = false) :
    c ∈ cs.dropWhile p := by
  rw [← List.takeWhile_append_dropWhile (p := p) (l := cs),List.mem_append] at h
  refine h.resolve_left fun hmem => ?_
  simpa [hc] using List.mem_takeWhile_imp hmem

theorem exists_mem_trim {s : String} (h : Text.trim s ≠ "") :
    ∃ c ∈ (Text.trim s).toList, Text.isWhitespace c = false := by
  rw [ne_eq,trim_eq_empty_iff] at h
  push Not at h
  obtain ⟨c,hc,hvisible⟩ := h
  rw [ne_eq,Bool.not_eq_true] at hvisible
  refine ⟨c,?_,hvisible⟩
  rw [Text.trim,String.toList_ofList,List.rdropWhile,List.mem_reverse]
  exact mem_dropWhile (List.mem_reverse.2 (mem_dropWhile hc hvisible)) hvisible

variable {field value : String} {bytes : List UInt8} {crates : Crates} {check : NormalizedCheck}
  {evidence : CheckEvidence} {checks : List NormalizedCheck}

theorem requireText_eq_ok :
    requireText field value = .ok () ↔
      (∃ c ∈ value.toList, Text.isWhitespace c = false) ∧
        ∀ c ∈ value.toList, Text.isControl c = false := by
  simp [requireText,bind_eq_ok,trim_eq_empty_iff]

/-- Characters that are neither white space nor control characters. -/
def Visible (c : Char) : Prop := Text.isWhitespace c = false ∧ Text.isControl c = false

theorem requireText_of_visible (hne : value ≠ "") (h : ∀ c ∈ value.toList, Visible c) :
    requireText field value = .ok () := by
  have hchars : value.toList ≠ [] := fun hnil => hne (String.toList_inj.1 (by simpa using hnil))
  obtain ⟨c,hc⟩ := List.exists_mem_of_ne_nil _ hchars
  exact requireText_eq_ok.2 ⟨⟨c,hc,(h c hc).1⟩,fun c hc => (h c hc).2⟩

theorem visible_of_range (hlow : 0x20 < c.toNat) (hhigh : c.toNat < 0x7f) : Visible c := by
  constructor
  · simp only [Text.isWhitespace,Bool.or_eq_false_iff,Bool.and_eq_false_iff,decide_eq_false_iff_not,
      beq_eq_false_iff_ne]
    omega
  · simp only [Text.isControl,Bool.or_eq_false_iff,Bool.and_eq_false_iff,decide_eq_false_iff_not]
    omega

theorem visible_of_isIdentifierChar (h : isIdentifierChar c = true) : Visible c := by
  have hle (a b : Char) : a ≤ b ↔ a.toNat ≤ b.toNat := Iff.rfl
  simp only [isIdentifierChar,Text.isAsciiAlphanumeric,Text.isAsciiAlphabetic,Bool.or_eq_true,
    Bool.and_eq_true,decide_eq_true_eq,beq_iff_eq,hle] at h
  have hrange : 0x20 < c.toNat ∧ c.toNat < 0x7f := by
    rcases h with ((((⟨hlow,hhigh⟩ | ⟨hlow,hhigh⟩) | ⟨hlow,hhigh⟩) | rfl) | rfl) | rfl
    iterate 3 exact ⟨lt_of_lt_of_le (by decide) hlow,lt_of_le_of_lt hhigh (by decide)⟩
    all_goals decide
  exact visible_of_range hrange.1 hrange.2

theorem requireText_canonicalDigest (crates : Crates) (field : String) (v : Json) :
    requireText field (canonicalDigest crates v) = .ok () := by
  have hdigit : ∀ n < 16, 0x20 < (JsonText.hexDigit n).toNat ∧
      (JsonText.hexDigit n).toNat < 0x7f := by decide
  have hvisible (n : ℕ) (hn : n < 16) : Visible (JsonText.hexDigit n) :=
    visible_of_range (hdigit n hn).1 (hdigit n hn).2
  have hfixed : receiptIdPrefix.toList.all fun c => 0x20 < c.toNat ∧ c.toNat < 0x7f := by decide
  have hlabel : ∀ c ∈ receiptIdPrefix.toList, 0x20 < c.toNat ∧ c.toNat < 0x7f := by
    simpa only [List.all_eq_true,decide_eq_true_eq] using hfixed
  have hmem : 's' ∈ (canonicalDigest crates v).toList := by
    rw [canonicalDigest,String.toList_append]
    exact List.mem_append_left _ (by decide)
  refine requireText_of_visible (fun hempty => by simp [hempty] at hmem) fun c hc => ?_
  rw [canonicalDigest,String.toList_append,List.mem_append,encodeHex,String.toList_ofList] at hc
  rcases hc with hc | hc
  · exact visible_of_range (hlabel c hc).1 (hlabel c hc).2
  · obtain ⟨b,-,hc⟩ := List.mem_flatMap.1 hc
    have hb := b.toNat_lt
    rcases List.mem_pair.1 hc with rfl | rfl
    · exact hvisible (b.toNat/16) (by omega)
    · exact hvisible (b.toNat%16) (by omega)

theorem requireText_boundedField {members : List (String × Json)} {key : String}
    (h : boundedField members key = some value) : requireText field value = .ok () := by
  unfold boundedField at h
  split at h
  · rename_i text
    dsimp only at h
    split at h
    · simp at h
    · rename_i hbounds
      obtain rfl := Option.some.inj h
      push Not at hbounds
      obtain ⟨hne,-,hcontrol⟩ := hbounds
      refine requireText_eq_ok.2 ⟨exists_mem_trim hne,fun c hc => ?_⟩
      simpa using List.any_eq_false.1 (by simpa using hcontrol) c hc
  · simp at h

theorem requireText_of_validateIdentifier {name : String}
    (h : validateIdentifier name value = .ok ()) : requireText field value = .ok () := by
  obtain ⟨⟨⟩,htext,hchars⟩ := bind_eq_ok.1 h
  have hne : value ≠ "" := by
    rintro rfl
    simp [validateText] at htext
  rw [ensure_eq_ok] at hchars
  refine requireText_of_visible hne fun c hc => visible_of_isIdentifierChar ?_
  exact List.all_eq_true.1 hchars.2.1 c hc

theorem validateText_eq_ok :
    validateText field value = .ok () ↔ value ≠ "" ∧ value.utf8ByteSize ≤ maxStringBytes ∧
      ∀ c ∈ value.toList, Text.isControl c = false := by
  unfold validateText
  split
  · rename_i h
    simp only [reduceCtorEq,false_iff]
    rintro ⟨hne,hsize,hcontrol⟩
    rcases h with h | h | h
    · exact hne h
    · omega
    · obtain ⟨c,hc,hbad⟩ := List.any_eq_true.1 h
      simp [hcontrol c hc] at hbad
  · rename_i h
    push Not at h
    simpa using h

theorem identifier_chars {name : String} (h : validateIdentifier name value = .ok ()) :
    value ≠ "" ∧ ∀ c ∈ value.toList, isIdentifierChar c = true := by
  obtain ⟨⟨⟩,htext,hchars⟩ := bind_eq_ok.1 h
  rw [ensure_eq_ok] at hchars
  exact ⟨(validateText_eq_ok.1 htext).1,List.all_eq_true.1 hchars.2.1⟩

theorem validateRepositoryIdentity_receipt {project : String}
    (h : CommitCiPreflight.validateRepositoryIdentity project = .ok ()) :
    Receipt.validateRepositoryIdentity project = .ok () := by
  simp only [CommitCiPreflight.validateRepositoryIdentity,bind_eq_ok,exists_unit,ensure_eq_ok] at h
  obtain ⟨howner,hrepository,hlength⟩ := h
  obtain ⟨hownerNe,hownerChars⟩ := identifier_chars howner
  obtain ⟨hrepositoryNe,hrepositoryChars⟩ := identifier_chars hrepository
  have hvisible : ∀ c ∈ project.toList, Visible c := by
    have hjoin : ['/'].intercalate (project.toList.splitOn '/') = project.toList :=
      List.intercalate_splitOn _
    rw [Text.split] at hlength hrepositoryNe hownerChars hrepositoryChars
    intro c hc
    rcases hsegments : project.toList.splitOn '/' with _ | ⟨owner,_ | ⟨repository,_ | ⟨_,_⟩⟩⟩
    · exact absurd hsegments (List.splitOn_ne_nil _ _)
    · simp [hsegments] at hrepositoryNe
    · rw [hsegments] at hjoin hownerChars hrepositoryChars
      rw [← hjoin,List.intercalate_cons_cons,List.intercalate_singleton] at hc
      simp only [List.mem_append,List.mem_singleton] at hc
      rcases hc with (hc | rfl) | hc
      · exact visible_of_isIdentifierChar (hownerChars c (by simpa using hc))
      · exact visible_of_range (by decide) (by decide)
      · exact visible_of_isIdentifierChar (hrepositoryChars c (by simpa using hc))
    · simp [hsegments] at hlength
  have hne : project ≠ "" := by
    rintro rfl
    exact hownerNe rfl
  simp only [Receipt.validateRepositoryIdentity,bind_eq_ok,exists_unit,ensure_eq_ok]
  exact ⟨requireText_of_visible hne hvisible,hownerNe,hrepositoryNe,hlength,
    List.all_eq_true.2 hownerChars,List.all_eq_true.2 hrepositoryChars⟩

theorem image_receipt {image : String} (h : validateImageReference image = .ok ()) :
    requireText "platform.image_reference" image = .ok () ∧
      ∃ digest, (Text.rsplitOnce image '@').map Prod.snd = some digest ∧
        validateSha256 "platform.image_digest" digest = .ok () := by
  simp only [validateImageReference,bind_eq_ok,exists_unit,ofOption_eq_ok,ensure_eq_ok] at h
  obtain ⟨htext,⟨name,digest⟩,hsplit,hex,hstrip,hname,hspace,-,-,-,hlength,hhex⟩ := h
  refine ⟨requireText_eq_ok.2 ⟨?_,(validateText_eq_ok.1 htext).2.2⟩,digest,by rw [hsplit]; rfl,?_⟩
  · have hchars : name.toList ≠ [] := fun hnil => hname (String.toList_inj.1 (by simpa using hnil))
    obtain ⟨c,hc⟩ := List.exists_mem_of_ne_nil _ hchars
    refine ⟨c,?_,?_⟩
    · unfold Text.rsplitOnce at hsplit
      split at hsplit
      · obtain ⟨rfl,-⟩ := Prod.mk.inj (Option.some.inj hsplit)
        rw [String.toList_ofList] at hc
        exact List.mem_of_mem_take hc
      · simp at hsplit
    · simpa using List.any_eq_false.1 (by simpa using hspace) c hc
  · simp only [validateSha256,bind_eq_ok,ofOption_eq_ok,ensure_eq_ok]
    exact ⟨hex,hstrip,hlength,hhex⟩

theorem fold_decimalDigit_digits {value n : ℕ} (h : fold decimalDigit value bytes = .ok n) :
    ∀ b ∈ bytes, Text.isAsciiDigit b = true := by
  induction bytes generalizing value with
  | nil => simp
  | cons byte bytes ih =>
    rw [fold_cons] at h
    obtain ⟨next,hdigit,hrest⟩ := bind_eq_ok.1 h
    refine List.forall_mem_cons.2 ⟨?_,ih hrest⟩
    by_contra hbyte
    rw [decimalDigit,if_neg hbyte] at hdigit
    cases hdigit

theorem readNumber_digits {start stop n i : ℕ} {b : UInt8} (h : readNumber bytes start stop = .ok n)
    (hi : bytes[i]? = some b) (hstart : start ≤ i) (hstop : i < stop) :
    Text.isAsciiDigit b = true := by
  obtain ⟨digits,hslice,hparse⟩ := bind_eq_ok.1 h
  unfold byteSlice at hslice
  split at hslice
  · obtain rfl := Outcome.ok.inj hslice
    refine fold_decimalDigit_digits hparse b (List.mem_of_getElem? (i := i-start) ?_)
    rw [List.getElem?_drop,List.getElem?_take_of_lt (by omega),Nat.add_sub_cancel' hstart]
    exact hi
  · cases hslice

theorem readCivil_bytes {t : CivilTime} (h : readCivil bytes = .ok t) :
    ∀ b ∈ bytes, 0x20 < b.toNat ∧ b.toNat < 0x7f := by
  simp only [readCivil,bind_eq_ok,exists_unit,ensure_eq_ok,each_eq_ok,pure_eq,ok.injEq] at h
  obtain ⟨hlength,hseparators,_,hyear,_,hmonth,_,hday,_,hhour,_,hminute,_,hsecond,-⟩ := h
  intro b hb
  obtain ⟨i,hi⟩ := List.mem_iff_getElem?.1 hb
  have hlt : i < 20 := hlength ▸ (List.getElem?_eq_some_iff.1 hi).1
  have hdigit : Text.isAsciiDigit b = true → 0x20 < b.toNat ∧ b.toNat < 0x7f := by
    intro hdigit
    obtain ⟨hlow,hhigh⟩ := Bool.and_eq_true_iff.1 hdigit
    have hlow := UInt8.le_iff_toNat_le.1 (of_decide_eq_true hlow)
    have hhigh := UInt8.le_iff_toNat_le.1 (of_decide_eq_true hhigh)
    exact ⟨lt_of_lt_of_le (by decide) hlow,lt_of_le_of_lt hhigh (by decide)⟩
  have hbounds : ∀ s ∈ [(4,'-'),(7,'-'),(10,'T'),(13,':'),(16,':'),(19,'Z')],
      0x20 < (Text.ascii s.2).toNat ∧ (Text.ascii s.2).toNat < 0x7f := by decide
  by_cases hseparator : i ∈ [(4,'-'),(7,'-'),(10,'T'),(13,':'),(16,':'),(19,'Z')].map Prod.fst
  · obtain ⟨⟨_,c⟩,hc,rfl⟩ := List.mem_map.1 hseparator
    obtain ⟨byte,hbyte,heq⟩ := bind_eq_ok.1 (hseparators _ hc)
    rw [byteAt,hi,expect_some,ok.injEq] at hbyte
    rw [ensure_eq_ok] at heq
    rw [hbyte,heq]
    exact hbounds _ hc
  · simp only [List.map_cons,List.map_nil,List.mem_cons,List.not_mem_nil,or_false,not_or]
      at hseparator
    refine hdigit ?_
    rcases (show i < 4 ∨ 5 ≤ i ∧ i < 7 ∨ 8 ≤ i ∧ i < 10 ∨ 11 ≤ i ∧ i < 13 ∨ 14 ≤ i ∧ i < 16 ∨
      17 ≤ i ∧ i < 19 by omega) with h | h | h | h | h | h
    · exact readNumber_digits hyear hi (Nat.zero_le i) h
    · exact readNumber_digits hmonth hi h.1 h.2
    · exact readNumber_digits hday hi h.1 h.2
    · exact readNumber_digits hhour hi h.1 h.2
    · exact readNumber_digits hminute hi h.1 h.2
    · exact readNumber_digits hsecond hi h.1 h.2

theorem requireTimestamp_of_parse {seconds : ℤ} (h : parseUtcSeconds value = .ok seconds) :
    requireTimestamp field value = .ok () := by
  obtain ⟨t,hcivil,hrange,-⟩ := parseUtcSeconds_eq_ok.1 h
  have hbytes := readCivil_bytes hcivil
  have hvisible : ∀ c ∈ value.toList, Visible c := by
    intro c hc
    obtain ⟨hascii,hmem⟩ := Text.ascii_of_bytes (fun b hb => (hbytes b hb).2.trans (by decide)) hc
    have hrange := hbytes _ hmem
    rw [UInt8.toNat_ofNat_of_lt' (show c.toNat < 256 by omega)] at hrange
    exact visible_of_range hrange.1 hrange.2
  have hne : value ≠ "" := by
    rintro rfl
    cases hcivil
  simp only [requireTimestamp,bind_eq_ok,exists_unit,mapErr_eq_ok,ensure_eq_ok]
  exact ⟨requireText_of_visible hne hvisible,t,hcivil,leapYear_eq_leap _ ▸ hrange⟩

def skipReasons : List String :=
  ["host resource pressure watchdog tripped","run cancelled before check execution",
    "dependency did not pass in this run","runtime execution became unavailable or uncertain"]

/-- The check was left out for one of the reasons, or the evidence is of a call's result. -/
def Recorded (crates : Crates) (calls : List RuntimeCall) (check : NormalizedCheck)
    (evidence : CheckEvidence) : Prop :=
  (∃ reason ∈ skipReasons, evidence = notRun check reason) ∨
    ∃ call ∈ calls, ∃ result, call.check = check ∧ call.response = .ok result ∧
      evidenceFromResult crates check result = .ok evidence

theorem Recorded.mono {calls calls' : List RuntimeCall} (h : Recorded crates calls check evidence)
    (hsub : ∀ call ∈ calls, call ∈ calls') : Recorded crates calls' check evidence := by
  rcases h with h | ⟨call,hcall,h⟩
  · exact .inl h
  · exact .inr ⟨call,hsub call hcall,h⟩

/-- A call that completed has its result in the evidence. -/
def Kept (crates : Crates) (evidence : List CheckEvidence) (call : RuntimeCall) : Prop :=
  ∀ result, call.response = .ok result → result.termination = .completed →
    ∃ e ∈ evidence, evidenceFromResult crates call.check result = .ok e

section World

variable {crates : Crates} {ρ : Type} {world : RunWorld ρ} {declared : NormalizedCheck}
  {state state' : RunState}

structure Appended (crates : Crates) (state : RunState) (declared : NormalizedCheck)
    (state' : RunState) (evidence : CheckEvidence) (calls : List RuntimeCall)
    (terminal : Option String) : Prop where
  state_eq : state' = RunState.push
    {state with terminalReason := terminal,calls := state.calls++calls} declared evidence
  recorded : Recorded crates calls declared evidence
  kept : ∀ call ∈ calls, Kept crates [evidence] call
  terminal_mem : ∀ reason, terminal = some reason → reason ∈ skipReasons

theorem recordResponse_appended {n : ℕ} {response : Except RuntimeError ProcessResult}
    (hterminal : ∀ reason, state.terminalReason = some reason → reason ∈ skipReasons)
    (h : recordResponse crates world n {state with calls := state.calls++[⟨n,declared,response⟩]}
      declared response = .ok state') :
    ∃ evidence calls terminal, Appended crates state declared state' evidence calls terminal := by
  cases response with
  | ok result =>
    simp only [recordResponse] at h
    split_ifs at h with hpressure
    · rw [pure_eq,ok.injEq] at h
      refine ⟨_,[_],_,h.symm,.inl ⟨_,by decide,rfl⟩,?_,by decide⟩
      rw [List.forall_mem_singleton]
      rintro _ ⟨⟩ hcompleted
      simp [hpressure.1] at hcompleted
    · obtain ⟨evidence,hevidence,h⟩ := bind_eq_ok.1 h
      rw [pure_eq,ok.injEq] at h
      refine ⟨evidence,[_],_,h.symm,
        .inr ⟨_,List.mem_singleton_self _,result,rfl,rfl,hevidence⟩,?_,hterminal⟩
      rw [List.forall_mem_singleton]
      rintro _ ⟨⟩ -
      exact ⟨evidence,List.mem_singleton_self _,hevidence⟩
  | error error =>
    have hkept (evidence : CheckEvidence) :
        Kept crates [evidence] ⟨n,declared,.error error⟩ := by
      rintro _ ⟨⟩
    simp only [recordResponse] at h
    split_ifs at h with hfatal hpressure
    all_goals
      rw [pure_eq,ok.injEq] at h
      exact ⟨_,[_],_,h.symm,.inl ⟨_,by decide,rfl⟩,List.forall_mem_singleton.2 (hkept _),by decide⟩

theorem cancellationReasonText_mem (token : CancellationToken) :
    cancellationReasonText token ∈ skipReasons := by
  unfold cancellationReasonText
  split <;> decide

theorem appended_skipped {reason : String} {terminal : Option String}
    (hreason : reason ∈ skipReasons) (hterminal : ∀ r, terminal = some r → r ∈ skipReasons) :
    Appended crates state declared
      (RunState.push {state with terminalReason := terminal} declared (notRun declared reason))
      (notRun declared reason) [] terminal :=
  ⟨by rw [List.append_nil],.inl ⟨reason,hreason,rfl⟩,by simp,hterminal⟩

theorem runIteration_appended {item : NormalizedCheck × ρ}
    (hterminal : ∀ reason, state.terminalReason = some reason → reason ∈ skipReasons)
    (h : runIteration crates world state item = .ok state') :
    ∃ evidence calls terminal, Appended crates state item.1 state' evidence calls terminal := by
  obtain ⟨declared,rendered⟩ := item
  by_cases hcancelled : (world.tokenAtStart state.checks.length).isCancelled
  · simp only [runIteration,hcancelled,↓reduceIte,pure_eq,ok.injEq] at h
    have hmem := cancellationReasonText_mem (world.tokenAtEnd state.checks.length)
    subst h
    exact ⟨_,_,_,appended_skipped hmem fun r hr => Option.some.inj hr ▸ hmem⟩
  cases hreason : state.terminalReason with
  | some reason =>
    simp only [runIteration,hcancelled,hreason,Bool.false_eq_true,↓reduceIte,pure_eq,ok.injEq] at h
    exact ⟨_,_,_,h ▸ appended_skipped (hterminal reason hreason) hterminal⟩
  | none =>
    by_cases hready : ∃ d ∈ declared.dependsOn, state.statuses.get? d ≠ some .pass
    · simp only [runIteration,hcancelled,hreason,hready,Bool.false_eq_true,↓reduceIte,pure_eq,
        ok.injEq] at h
      exact ⟨_,_,_,h ▸ appended_skipped (by decide) hterminal⟩
    · simp only [runIteration,hcancelled,hreason,hready,Bool.false_eq_true,↓reduceIte] at h
      obtain ⟨statuses,checks,_,calls⟩ := state
      obtain rfl : _ = none := hreason
      exact recordResponse_appended hterminal h

/-- What the loop has made of the checks so far. -/
structure Assembled (crates : Crates) (checks : List NormalizedCheck) (state : RunState) : Prop where
  recorded : List.Forall₂ (Recorded crates state.calls) checks state.checks
  kept : ∀ call ∈ state.calls, Kept crates state.checks call
  statuses : state.statuses = .ofList (state.checks.map fun e => (e.id,e.status))
  terminal : ∀ reason, state.terminalReason = some reason → reason ∈ skipReasons

theorem Assembled.initial (crates : Crates) : Assembled crates [] .initial :=
  ⟨.nil,by simp [RunState.initial],rfl,by simp [RunState.initial]⟩

theorem Assembled.step {checks : List NormalizedCheck} {evidence : CheckEvidence}
    {calls : List RuntimeCall} {terminal : Option String} (h : Assembled crates checks state)
    (hstep : Appended crates state declared state' evidence calls terminal) :
    Assembled crates (checks++[declared]) state' := by
  obtain ⟨rfl,hrecorded,hkept,hterminal⟩ := hstep
  have hid : evidence.id = declared.id := by
    rcases hrecorded with ⟨reason,-,rfl⟩ | ⟨call,-,result,-,-,hevidence⟩
    · rfl
    · exact (evidenceFromResult_attests hevidence).id
  have hlast := hrecorded.mono fun call hcall => List.mem_append_right state.calls hcall
  refine ⟨List.rel_append ?_ (.cons hlast .nil),?_,?_,hterminal⟩
  · exact h.recorded.imp fun check e he => he.mono fun call hcall => List.mem_append_left _ hcall
  · intro call hcall result hresponse hcompleted
    rcases List.mem_append.1 hcall with hcall | hcall
    · obtain ⟨e,he,heq⟩ := h.kept call hcall result hresponse hcompleted
      exact ⟨e,List.mem_append_left _ he,heq⟩
    · obtain ⟨e,he,heq⟩ := hkept call hcall result hresponse hcompleted
      exact ⟨e,List.mem_append_right _ he,heq⟩
  · simp only [RunState.push,h.statuses,List.map_append,List.map_singleton,OrderedMap.ofList,
      List.foldl_append,List.foldl_cons,List.foldl_nil,hid]

theorem runChecks_assembled {plan : ExecutionPlanV1} {rendered : List ρ}
    (h : runChecks crates world plan rendered = .ok state) :
    Assembled crates plan.checks state := by
  refine runChecks_induction _ (.initial crates) (fun checks s item s' hinv hstep => ?_) h
  obtain ⟨evidence,calls,terminal,happended⟩ := runIteration_appended hinv.terminal hstep
  exact hinv.step happended

end World

def NonBlank (text : String) : Prop := ∃ c ∈ text.toList, Text.isWhitespace c = false

/-- A check that completed without success has an exit code other than zero. -/
def ProcessResult.ExitReported (result : ProcessResult) : Prop :=
  result.termination = .completed → result.exit.map (·.success) ≠ some true →
    ∃ code, result.exit.bind (·.code) = some code ∧ code ≠ 0

/-- What the configuration makes sure of in a check. -/
structure NormalizedCheck.Valid (check : NormalizedCheck) : Prop where
  id : requireText "check.id" check.id = .ok ()
  argv : check.argv ≠ [] ∧ "" ∉ check.argv
  path : isSafePath check.workingDirectory
  printable : ∀ c ∈ check.workingDirectory.toList, Text.isControl c = false

theorem normalizeCheck_valid {check : CheckConfig} (h : check.Valid) :
    (normalizeCheck check.sorted).Valid := by
  have hfields := h.fields
  simp only [validateCheck,bind_eq_ok,exists_unit,ensure_eq_ok,each_eq_ok,
    CommitCiPreflight.validateRelativePath] at hfields
  obtain ⟨hid,⟨hargv,-⟩,htexts,⟨htext,hsafe⟩,-⟩ := hfields
  refine ⟨requireText_of_validateIdentifier hid,⟨hargv,fun hmem => ?_⟩,hsafe,
    (validateText_eq_ok.1 htext).2.2⟩
  exact (validateText_eq_ok.1 (htexts _ hmem)).1 rfl

theorem validate_eq_ok_of_attests (hvalid : check.Valid) (hattests : evidence.Attests check) :
    evidence.validate = .ok () ↔ NonBlank check.workingDirectory ∧
      validateIncompleteReason "check.incomplete_reason" evidence.status
        evidence.incompleteReason = .ok () ∧
      evidence.Consistent evidence.status ∧
      ∀ digest ∈ evidence.outputDigest.toList,
        validateSha256 "check.output_digest" digest = .ok () := by
  simp only [CheckEvidence.validate,Receipt.validateRelativePath,bind_eq_ok,exists_unit,
    ensure_eq_ok,each_eq_ok,hattests.id,hattests.argv,hattests.workingDirectory,requireText_eq_ok]
  have hid := requireText_eq_ok.1 hvalid.id
  have hargv := hvalid.argv
  have hpath := hvalid.path
  have hprintable := hvalid.printable
  unfold NonBlank
  tauto

theorem notRun_validate {reason : String} (hvalid : check.Valid) (hreason : reason ∈ skipReasons) :
    (notRun check reason).validate = .ok () ↔ NonBlank check.workingDirectory := by
  have hstated : ∀ reason ∈ skipReasons, Text.trim reason ≠ "" := by decide +kernel
  have hincomplete : validateIncompleteReason "check.incomplete_reason" .notRun (some reason) =
      .ok () := by
    rw [validateIncompleteReason,if_pos (by decide),ensure_eq_ok]
    exact hstated reason hreason
  rw [validate_eq_ok_of_attests hvalid (notRun_attests check reason)]
  simp only [notRun,hincomplete,CheckEvidence.Consistent,Option.toList_none,List.not_mem_nil,
    false_implies,implies_true,and_true]

theorem evidenceFromResult_validate {result : ProcessResult} (hvalid : check.Valid)
    (hsuccess : ∀ exit, result.exit = some exit → exit.success = true → exit.code = some 0)
    (h : evidenceFromResult crates check result = .ok evidence) :
    evidence.validate = .ok () ↔ NonBlank check.workingDirectory ∧ result.ExitReported := by
  have hreason (status : EvidenceStatus) (hstatus : ¬ incomplete status) :
      validateIncompleteReason "check.incomplete_reason" status none = .ok () := by
    rw [validateIncompleteReason,if_neg hstatus,ensure_eq_ok]
    rfl
  rw [validate_eq_ok_of_attests hvalid (evidenceFromResult_attests h)]
  simp only [evidenceFromResult,bind_eq_ok,exists_unit,pure_eq,ok.injEq] at h
  obtain ⟨-,rfl⟩ := h
  refine and_congr_right fun _ => ?_
  simp only [Option.toList_some,List.forall_mem_singleton,validateSha256_canonicalDigest,and_true,
    ProcessResult.ExitReported]
  cases htermination : result.termination with
  | timedOut => simp [hreason,CheckEvidence.Consistent,incomplete]
  | cancelled => simp [hreason,CheckEvidence.Consistent,incomplete]
  | completed =>
    by_cases hpassed : result.exit.map (·.success) = some true
    · obtain ⟨exit,hexit,hcode⟩ := Option.map_eq_some_iff.1 hpassed
      simp [hreason,CheckEvidence.Consistent,incomplete,hexit,hcode,hsuccess exit hexit hcode]
    · simp only [hpassed,if_false,hreason .fail (by decide),CheckEvidence.Consistent,true_and,
        Bool.false_eq_true,or_false,ne_eq,not_false_eq_true,true_implies]
      cases hcode : result.exit.bind (·.code) <;> simp

theorem requiredResults_eq {statuses : OrderedMap String EvidenceStatus}
    {evidence : List CheckEvidence} (h : List.Forall₂ CheckEvidence.Attests evidence checks)
    (hget : ∀ e ∈ evidence, statuses.get? e.id = some e.status) :
    requiredResults statuses checks = .ok (requiredStatuses evidence) := by
  induction h with
  | nil => rfl
  | @cons e check evidence checks hattests _ ih =>
    have hrest := ih fun e he => hget e (List.mem_cons_of_mem _ he)
    have hfirst := hget e List.mem_cons_self
    rw [requiredResults,← hattests.required,← hattests.id,hfirst,hrest]
    cases hrequired : e.required <;> simp [requiredStatuses,hrequired,ofOption]

theorem Assembled.attests (h : Assembled crates checks state) :
    List.Forall₂ CheckEvidence.Attests state.checks checks := by
  refine (h.recorded.imp fun check e he => ?_).flip
  rcases he with ⟨reason,-,rfl⟩ | ⟨call,-,result,-,-,hevidence⟩
  · exact notRun_attests check reason
  · exact evidenceFromResult_attests hevidence

theorem Assembled.ids (h : Assembled crates checks state) :
    state.checks.map (·.id) = checks.map (·.id) := by
  have hids : List.Forall₂ (fun (e : CheckEvidence) (check : NormalizedCheck) => e.id = check.id)
      state.checks checks := h.attests.imp fun _ _ hattests => hattests.id
  rw [← List.forall₂_eq_eq_eq,List.forall₂_map_left_iff,List.forall₂_map_right_iff]
  exact hids

/-- The loop's statuses lead to the status that the receipt expects. -/
theorem Assembled.overallStatus (h : Assembled crates checks state)
    (hids : (checks.map (·.id)).Nodup) :
    Run.deriveOverallStatus checks state.statuses =
      .ok (Receipt.deriveOverallStatus (requiredStatuses state.checks)) := by
  have hget : ∀ e ∈ state.checks, state.statuses.get? e.id = some e.status := by
    intro e he
    have hnodup : ((state.checks.map fun e => (e.id,e.status)).map Prod.fst).Nodup := by
      rw [List.map_map]
      exact h.ids ▸ hids
    rw [h.statuses,OrderedMap.get?_ofList hnodup,lookupEntry_eq_some_iff hnodup]
    exact List.mem_map.2 ⟨e,he,rfl⟩
  rw [Run.deriveOverallStatus,requiredResults_eq h.attests hget]
  rfl

theorem incompleteReason_valid (statuses : List EvidenceStatus) :
    validateIncompleteReason "receipt.incomplete_reason" (Receipt.deriveOverallStatus statuses)
      (if Receipt.deriveOverallStatus statuses = .pending then
        some "one or more required checks were not run" else none) = .ok () := by
  have hstatus : Receipt.deriveOverallStatus statuses ∈ [.fail,.pending,.pass] := by
    unfold Receipt.deriveOverallStatus
    split_ifs <;> decide
  have hall : ∀ status ∈ [EvidenceStatus.fail,.pending,.pass],
      validateIncompleteReason "receipt.incomplete_reason" status (if status = .pending then
        some "one or more required checks were not run" else none) = .ok () := by
    decide +kernel
  exact hall _ hstatus

section Receipts

variable {crates : Crates} {config : ConfigV1} {envelope : ExecutionPlanEnvelopeV1} {ρ : Type}
  {world : RunWorld ρ} {rendered : List ρ} {state : RunState} {result : ProcessResult}
  {probe : RuntimeProbe}

structure RunInputs where
  target : TargetConstants
  generation : UInt64
  commit : String
  startedAtUtc : String
  finishedAtUtc : String
  commit_valid : validOid commit
  started_valid : ∃ seconds, parseUtcSeconds startedAtUtc = .ok seconds
  finished_valid : ∃ seconds, parseUtcSeconds finishedAtUtc = .ok seconds
  ordered : ¬ finishedAtUtc < startedAtUtc

def RunInputs.request (inputs : RunInputs) (envelope : ExecutionPlanEnvelopeV1) : RunRequest :=
  ⟨envelope,inputs.generation,packageVersion⟩

def RunInputs.sealReceipt (inputs : RunInputs) (crates : Crates)
    (envelope : ExecutionPlanEnvelopeV1) (probe : RuntimeProbe) (state : RunState) :
    Outcome RunError (ReceiptEnvelope ReceiptV1) :=
  sealRunReceipt crates inputs.target (inputs.request envelope) probe inputs.commit
    inputs.startedAtUtc inputs.finishedAtUtc state

theorem probe_valid (h : interpretDockerProbe crates result = .ok probe) :
    probe.runtime = .dockerCompatible ∧ ∃ version, probe.serverVersion = some version ∧
      requireText "platform.runtime_version" version = .ok () := by
  simp only [interpretDockerProbe,bind_eq_ok,exists_unit,ofOption_eq_ok,ensure_eq_ok,pure_eq,
    ok.injEq] at h
  obtain ⟨-,-,-,-,-,-,_,-,_,-,members,-,version,hversion,_,-,-,rfl⟩ := h
  exact ⟨rfl,version,rfl,requireText_boundedField hversion⟩

theorem accepted_identity (hplan : config.intoPlan crates = .ok envelope) :
    CommitCiPreflight.validateRepositoryIdentity envelope.plan.project = .ok () ∧
      validateImageReference envelope.plan.runtime.image = .ok () := by
  have haccepted := ConfigV1.intoPlan_eq_ok.1 hplan
  have htop := haccepted.topLevel
  simp only [ConfigV1.validateTopLevel,bind_eq_ok,exists_unit] at htop
  obtain ⟨-,hproject,himage,-⟩ := htop
  rw [haccepted.project,normalizeRuntime_image haccepted.runtime]
  exact ⟨hproject,himage⟩

def RunInputs.receipt (inputs : RunInputs) (crates : Crates) (envelope : ExecutionPlanEnvelopeV1)
    (probe : RuntimeProbe) (state : RunState) : ReceiptV1 :=
  receiptOfRun crates inputs.target (inputs.request envelope) probe inputs.commit
    inputs.startedAtUtc inputs.finishedAtUtc state
    (Receipt.deriveOverallStatus (requiredStatuses state.checks))
    (((Text.rsplitOnce envelope.plan.runtime.image '@').map Prod.snd).getD "")

variable (hplan : config.intoPlan crates = .ok envelope)
include hplan

theorem sealReceipt_eq
    (hrun : runChecks crates world envelope.plan rendered = .ok state) (probe : RuntimeProbe)
    (inputs : RunInputs) :
    inputs.sealReceipt crates envelope probe state =
      (receiptV1.sealReceipt crates (inputs.receipt crates envelope probe state)).mapErr
        .receipt := by
  obtain ⟨-,hids,-⟩ := normalizeChecks_order (ConfigV1.intoPlan_eq_ok.1 hplan).checks
  obtain ⟨-,digest,hdigest,-⟩ := image_receipt (accepted_identity hplan).2
  have hstatus := (runChecks_assembled hrun).overallStatus hids
  rw [RunInputs.sealReceipt,sealRunReceipt,RunInputs.receipt,RunInputs.request,hstatus,ok_bind,
    hdigest]
  rfl

theorem fields_valid (hprobe : interpretDockerProbe crates result = .ok probe) (inputs : RunInputs)
    (state : RunState) :
    (inputs.receipt crates envelope probe state).common.validateFields = .ok () := by
  have haccepted := ConfigV1.intoPlan_eq_ok.1 hplan
  obtain ⟨hproject,himage⟩ := accepted_identity hplan
  obtain ⟨hreference,digest,hdigest,hsha⟩ := image_receipt himage
  obtain ⟨hruntime,version,hversion,hversionText⟩ := probe_valid hprobe
  obtain ⟨_,hstarted⟩ := inputs.started_valid
  obtain ⟨_,hfinished⟩ := inputs.finished_valid
  have hplain {field text : String} (h : text ≠ "" ∧ ∀ c ∈ text.toList, isIdentifierChar c) :
      requireText field text = .ok () :=
    requireText_of_visible h.1 fun c hc => visible_of_isIdentifierChar (h.2 c hc)
  simp only [ReceiptCommon.validateFields,ReceiptV1.common,RunInputs.receipt,receiptOfRun,
    RunInputs.request,hruntime,hversion,hdigest,Option.getD_some,bind_eq_ok,exists_unit,ensure_eq_ok]
  refine ⟨trivial,by decide +kernel,by decide +kernel,validateRepositoryIdentity_receipt hproject,
    ensure_eq_ok.2 inputs.commit_valid,requireText_canonicalDigest _ _ _,
    requireTimestamp_of_parse hstarted,requireTimestamp_of_parse hfinished,inputs.ordered,
    hplain inputs.target.os_plain,hplain inputs.target.arch_plain,by decide +kernel,hversionText,
    hreference,hsha,trivial,?_,by decide +kernel⟩
  rw [haccepted.digest]
  exact validateSha256_canonicalDigest _ _ _

theorem required_checks (hrun : runChecks crates world envelope.plan rendered = .ok state) :
    requiredStatuses state.checks ≠ [] := by
  have hchecks := (ConfigV1.intoPlan_eq_ok.1 hplan).checks
  obtain ⟨check,hcheck,hrequired⟩ := List.any_eq_true.1 (normalizeChecks_eq_ok.1 hchecks).1.2.2
  have hplanned : normalizeCheck check.sorted ∈ envelope.plan.checks :=
    (normalizeChecks_order hchecks).1.mem_iff.2 (List.mem_map_of_mem hcheck)
  obtain ⟨e,he,hattests⟩ := exists_of_forall₂ (runChecks_assembled hrun).attests hplanned
  have hmem : e.status ∈ requiredStatuses state.checks :=
    List.mem_map_of_mem (List.mem_filter.2 ⟨he,hattests.required.trans hrequired⟩)
  exact List.ne_nil_of_mem hmem

theorem checksValid_iff
    (hrun : runChecks crates world envelope.plan rendered = .ok state) (probe : RuntimeProbe)
    (inputs : RunInputs) :
    (inputs.receipt crates envelope probe state).common.ChecksValid ↔
      ∀ e ∈ state.checks, e.validate = .ok () := by
  have hassembled := runChecks_assembled hrun
  obtain ⟨-,hids,-⟩ := normalizeChecks_order (ConfigV1.intoPlan_eq_ok.1 hplan).checks
  refine ⟨fun h => h.valid,fun h => ⟨h,?_,required_checks hplan hrun,rfl,incompleteReason_valid _⟩⟩
  exact hassembled.ids ▸ hids

/-- The receipt is sealed exactly where the evidence of every check passes. -/
theorem sealReceipt_ok_iff (hrun : runChecks crates world envelope.plan rendered = .ok state)
    (hprobe : interpretDockerProbe crates result = .ok probe) (inputs : RunInputs) :
    (∃ receipt, inputs.sealReceipt crates envelope probe state = .ok receipt) ↔
      ∀ e ∈ state.checks, e.validate = .ok () := by
  rw [sealReceipt_eq hplan hrun,← checksValid_iff hplan hrun probe inputs]
  simp only [mapErr_eq_ok,ReceiptVersion.sealReceipt_eq_ok]
  constructor
  · rintro ⟨_,hvalid,-⟩
    exact (ReceiptCommon.validate_eq_ok.1 hvalid).2
  · intro hvalid
    exact ⟨_,ReceiptCommon.validate_eq_ok.2 ⟨fields_valid hplan hprobe inputs state,hvalid⟩,rfl⟩

theorem plan_checks_valid :
    ∀ check ∈ envelope.plan.checks, check.Valid := by
  intro check hcheck
  have hchecks := (ConfigV1.intoPlan_eq_ok.1 hplan).checks
  obtain ⟨declared,hdeclared,rfl⟩ :=
    List.mem_map.1 ((normalizeChecks_order hchecks).1.mem_iff.1 hcheck)
  exact normalizeCheck_valid ((normalizeChecks_eq_ok.1 hchecks).2.1.1 declared hdeclared)

/-- The evidence passes exactly where no working directory is blank and every check that
completed without success has an exit code other than zero. -/
theorem evidence_valid_iff (hrun : runChecks crates world envelope.plan rendered = .ok state)
    (hsuccess : ∀ call ∈ state.calls, ∀ result, call.response = .ok result →
      ∀ exit, result.exit = some exit → exit.success = true → exit.code = some 0) :
    (∀ e ∈ state.checks, e.validate = .ok ()) ↔
      (∀ check ∈ config.checks, NonBlank check.workingDirectory) ∧
      ∀ call ∈ state.calls, ∀ result, call.response = .ok result → result.ExitReported := by
  have hchecks := (ConfigV1.intoPlan_eq_ok.1 hplan).checks
  have hassembled := runChecks_assembled hrun
  have hvalid := plan_checks_valid hplan
  constructor
  · intro h
    refine ⟨fun check hcheck => ?_,fun call hcall result hresponse hcompleted => ?_⟩
    · have hplanned : normalizeCheck check.sorted ∈ envelope.plan.checks :=
        (normalizeChecks_order hchecks).1.mem_iff.2 (List.mem_map_of_mem hcheck)
      obtain ⟨e,he,hattests⟩ := exists_of_forall₂ hassembled.attests hplanned
      exact ((validate_eq_ok_of_attests (hvalid _ hplanned) hattests).1 (h e he)).1
    · obtain ⟨e,he,hevidence⟩ := hassembled.kept call hcall result hresponse hcompleted
      have hplanned : call.check ∈ envelope.plan.checks :=
        List.mem_of_getElem? ((runChecks_invariant hrun).calls call hcall).check
      exact ((evidenceFromResult_validate (hvalid _ hplanned) (hsuccess call hcall result hresponse)
        hevidence).1 (h e he)).2 hcompleted
  · rintro ⟨hblank,hexit⟩ e he
    obtain ⟨check,hcheck,hrecorded⟩ := exists_of_forall₂ hassembled.recorded he
    have hdirectory : NonBlank check.workingDirectory := by
      obtain ⟨declared,hdeclared,rfl⟩ :=
        List.mem_map.1 ((normalizeChecks_order hchecks).1.mem_iff.1 hcheck)
      exact hblank declared hdeclared
    rcases hrecorded with ⟨reason,hreason,rfl⟩ | ⟨call,hcall,result,rfl,hresponse,hevidence⟩
    · exact (notRun_validate (hvalid check hcheck) hreason).2 hdirectory
    · exact (evidenceFromResult_validate (hvalid _ hcheck) (hsuccess call hcall result hresponse)
        hevidence).2 ⟨hdirectory,hexit call hcall result hresponse⟩

end Receipts

end CommitCiPreflight
