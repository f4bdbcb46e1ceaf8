import CommitCiPreflight.Canonical

/-! What the reader has read does not depend on what follows. An object ends with its closing
brace, so that no text that stops before it is a document. -/
namespace CommitCiPreflight
namespace JsonText

variable (ft : FloatText)

theorem skipBlank_append {cs : List Char} {c : Char} {rest : List Char} (s : List Char)
    (h : skipBlank cs = c::rest) : skipBlank (cs++s) = c::(rest++s) := by
  induction cs with
  | nil => simp [skipBlank] at h
  | cons d cs ih =>
    by_cases hd : isBlank d = true
    · simp only [skipBlank,List.dropWhile_cons_of_pos hd,List.cons_append] at h ih ⊢
      exact ih h
    · rw [skipBlank,List.dropWhile_cons_of_neg hd] at h
      obtain ⟨rfl,rfl⟩ := List.cons.inj h
      rw [List.cons_append,skipBlank,List.dropWhile_cons_of_neg hd]

theorem push_eq_some {c : Char} {r : Option (List Char × List Char)} {text rest : List Char}
    (h : push c r = some (text,rest)) : ∃ tail, r = some (tail,rest) ∧ text = c::tail := by
  obtain ⟨⟨tail,rest'⟩,hr,hp⟩ := Option.map_eq_some_iff.1 h
  obtain ⟨rfl,rfl⟩ := Prod.mk.inj hp
  exact ⟨tail,hr,rfl⟩

theorem stringBody_extend {cs text rest : List Char} (s : List Char)
    (h : stringBody cs = some (text,rest)) : stringBody (cs++s) = some (text,rest++s) := by
  have hpush : ∀ {c : Char} {more text : List Char},
      (∀ {tail}, stringBody more = some (tail,rest) → stringBody (more++s) = some (tail,rest++s)) →
      push c (stringBody more) = some (text,rest) →
      push c (stringBody (more++s)) = some (text,rest++s) := by
    intro c more text ih hmore
    obtain ⟨tail,htail,rfl⟩ := push_eq_some hmore
    rw [ih htail]
    rfl
  induction cs using stringBody.induct generalizing text with
  | case1 => simp [stringBody] at h
  | case2 more =>
    simp only [stringBody.eq_def ('"'::_),List.cons_append,if_true,Option.some.injEq,
      Prod.mk.injEq] at h ⊢
    exact ⟨h.1,by rw [h.2]⟩
  | case5 h₁ h₂ h₃ h₄ more m hword hm _ ih =>
    simp only [List.cons_append,stringBody.eq_def ('\\'::_),hword,if_pos hm] at h ⊢
    exact hpush ih h
  | case7 h₁ h₂ h₃ h₄ m hword hm hlow l₁ l₂ l₃ l₄ more n hlast hn _ ih =>
    simp only [List.cons_append,stringBody.eq_def ('\\'::_),hword,if_neg hm,if_pos hlow,hlast,
      if_pos hn] at h ⊢
    exact hpush ih h
  | case12 e more he d hescape _ ih =>
    simp only [List.cons_append,stringBody.eq_def ('\\'::_),if_neg he,hescape] at h ⊢
    exact hpush ih h
  | case15 e more hquote hslash hcontrol ih =>
    simp only [List.cons_append,stringBody.eq_def (e::_),if_neg hquote,if_neg hslash,
      if_neg hcontrol] at h ⊢
    exact hpush ih h
  | case14 e more hquote hslash hcontrol =>
    simp [stringBody.eq_def (e::_),hquote,hslash,hcontrol] at h
  | case6 h₁ h₂ h₃ h₄ m hword hm hlow l₁ l₂ l₃ l₄ more hlast =>
    simp only [stringBody.eq_def ('\\'::_),hword,if_neg hm,if_pos hlow,hlast] at h
    simp at h
  | case8 h₁ h₂ h₃ h₄ m hword hm hlow l₁ l₂ l₃ l₄ more n hlast hn =>
    simp only [stringBody.eq_def ('\\'::_),hword,if_neg hm,if_pos hlow,hlast,if_neg hn] at h
    simp at h
  | case9 h₁ h₂ h₃ h₄ more m hword hm hlow hpair =>
    simp only [stringBody.eq_def ('\\'::_),hword,if_neg hm,if_pos hlow] at h
    simp_all
  | case10 h₁ h₂ h₃ h₄ more m hword hm hlow =>
    simp only [stringBody.eq_def ('\\'::_),hword,if_neg hm,if_neg hlow] at h
    simp at h
  | _ => simp_all [stringBody.eq_def ('\\'::_)]

theorem spanDigits_extend {cs : List Char} (s : List Char) (h : (spanDigits cs).2 ≠ []) :
    spanDigits (cs++s) = ((spanDigits cs).1,(spanDigits cs).2++s) := by
  induction cs with
  | nil => simp [spanDigits] at h
  | cons c cs ih =>
    by_cases hc : c.isDigit = true
    · simp only [spanDigits,List.cons_append,List.takeWhile_cons_of_pos hc,
        List.dropWhile_cons_of_pos hc,Prod.mk.injEq] at h ih ⊢
      exact ⟨congrArg (c::·) (ih h).1,(ih h).2⟩
    · simp [spanDigits,List.takeWhile_cons_of_neg hc,List.dropWhile_cons_of_neg hc]

theorem intPart_extend {cs int rest : List Char} (s : List Char) (h : intPart cs = some (int,rest))
    (hrest : rest ≠ []) : intPart (cs++s) = some (int,rest++s) := by
  cases cs with
  | nil => simp [intPart] at h
  | cons c cs =>
    by_cases hzero : c = '0'
    · simp only [intPart,List.cons_append,if_pos hzero,Option.ite_none_right_eq_some,
        Option.some.injEq,Prod.mk.injEq] at h ⊢
      obtain ⟨hdigits,hint,rfl⟩ := h
      refine ⟨?_,hint,rfl⟩
      cases cs with
      | nil => exact absurd rfl hrest
      | cons d cs =>
        simp only [spanDigits,List.cons_append,List.takeWhile_eq_nil_iff] at hdigits ⊢
        simpa using hdigits
    · by_cases hdigit : c.isDigit = true
      · simp only [intPart,List.cons_append,if_neg hzero,if_pos hdigit,Option.some.injEq,
          Prod.mk.injEq] at h ⊢
        obtain ⟨rfl,rfl⟩ := h
        rw [spanDigits_extend s hrest]
        exact ⟨rfl,rfl⟩
      · simp [intPart,hzero,hdigit] at h

theorem fracPart_extend {cs frac rest : List Char} (s : List Char)
    (h : fracPart cs = some (frac,rest)) (hrest : rest ≠ []) :
    fracPart (cs++s) = some (frac,rest++s) := by
  cases cs with
  | nil =>
    obtain ⟨rfl,rfl⟩ := Prod.mk.inj (Option.some.inj h)
    exact absurd rfl hrest
  | cons c cs =>
    by_cases hpoint : c = '.'
    · simp only [fracPart,List.cons_append,if_pos hpoint,Option.ite_none_left_eq_some,
        Option.some.injEq,Prod.mk.injEq] at h ⊢
      obtain ⟨hdigits,rfl,rfl⟩ := h
      rw [spanDigits_extend s hrest]
      exact ⟨hdigits,rfl,rfl⟩
    · simp only [fracPart,List.cons_append,if_neg hpoint,Option.some.injEq,Prod.mk.injEq] at h ⊢
      exact ⟨h.1,by rw [← h.2]; rfl⟩

theorem signPart_extend {cs : List Char} (s : List Char) (h : (signPart cs).2 ≠ []) :
    signPart (cs++s) = ((signPart cs).1,(signPart cs).2++s) := by
  cases cs with
  | nil => simp [signPart] at h
  | cons c cs =>
    simp only [signPart,List.cons_append]
    split <;> rfl

theorem spanDigits_ne_nil {cs : List Char} (h : (spanDigits cs).2 ≠ []) : cs ≠ [] := by
  rintro rfl
  simp [spanDigits] at h

theorem expPart_extend {cs exp rest : List Char} (s : List Char) (h : expPart cs = some (exp,rest))
    (hrest : rest ≠ []) : expPart (cs++s) = some (exp,rest++s) := by
  cases cs with
  | nil =>
    obtain ⟨rfl,rfl⟩ := Prod.mk.inj (Option.some.inj h)
    exact absurd rfl hrest
  | cons c cs =>
    by_cases he : c = 'e' ∨ c = 'E'
    · simp only [expPart,List.cons_append,if_pos he,Option.ite_none_left_eq_some,
        Option.some.injEq,Prod.mk.injEq] at h ⊢
      obtain ⟨hdigits,rfl,rfl⟩ := h
      rw [signPart_extend s (spanDigits_ne_nil hrest)]
      simp only
      rw [spanDigits_extend s hrest]
      exact ⟨hdigits,rfl,rfl⟩
    · simp only [expPart,List.cons_append,if_neg he,Option.some.injEq,Prod.mk.injEq] at h ⊢
      exact ⟨h.1,by rw [← h.2]; rfl⟩

theorem expPart_ne_nil {cs exp rest : List Char} (h : expPart cs = some (exp,rest))
    (hrest : rest ≠ []) : cs ≠ [] := by
  rintro rfl
  exact hrest (Prod.mk.inj (Option.some.inj h)).2.symm

theorem fracPart_ne_nil {cs frac rest : List Char} (h : fracPart cs = some (frac,rest))
    (hrest : rest ≠ []) : cs ≠ [] := by
  rintro rfl
  exact hrest (Prod.mk.inj (Option.some.inj h)).2.symm

theorem unsignedNumber_extend {neg : Bool} {cs rest : List Char} {n : Number} (s : List Char)
    (h : unsignedNumber ft neg cs = some (n,rest)) (hrest : rest ≠ []) :
    unsignedNumber ft neg (cs++s) = some (n,rest++s) := by
  unfold unsignedNumber at h
  split at h
  · simp at h
  rename_i int afterInt hint
  split at h
  · simp at h
  rename_i frac afterFrac hfrac
  split at h
  · simp at h
  rename_i exp afterExp hexp
  obtain ⟨m,hclass,hm⟩ := Option.map_eq_some_iff.1 h
  obtain ⟨rfl,rfl⟩ := Prod.mk.inj hm
  have hafterFrac := expPart_ne_nil hexp hrest
  have hafterInt := fracPart_ne_nil hfrac hafterFrac
  simp only [unsignedNumber,intPart_extend s hint hafterInt,fracPart_extend s hfrac hafterFrac,
    expPart_extend s hexp hrest,hclass,Option.map_some]

theorem parseNumber_extend {cs rest : List Char} {n : Number} (s : List Char)
    (h : parseNumber ft cs = some (n,rest)) (hrest : rest ≠ []) :
    parseNumber ft (cs++s) = some (n,rest++s) := by
  cases cs with
  | nil => simp [parseNumber] at h
  | cons c cs =>
    by_cases hc : c = '-'
    · simp only [parseNumber,List.cons_append,if_pos hc] at h ⊢
      exact unsignedNumber_extend ft s h hrest
    · simp only [parseNumber,List.cons_append,if_neg hc] at h ⊢
      exact unsignedNumber_extend ft s h hrest

theorem keyword_extend {word cs rest : List Char} {v w : Json} (s : List Char)
    (h : keyword word v cs = some (w,rest)) : keyword word v (cs++s) = some (w,rest++s) := by
  unfold keyword at h ⊢
  split at h
  · rename_i hword
    obtain ⟨rfl,rfl⟩ := Prod.mk.inj (Option.some.inj h)
    rw [if_pos (hword.trans (List.prefix_append _ _)),
      List.drop_append_of_le_length hword.length_le]
  · simp at h

mutual
theorem parseValue_extend {fuel fuel' depth : ℕ} (hfuel : fuel ≤ fuel') {cs rest : List Char}
    {v : Json} (s : List Char) (h : parseValue ft fuel depth cs = some (v,rest))
    (hend : rest ≠ [] ∨ ∀ n, v ≠ .num n) :
    parseValue ft fuel' depth (cs++s) = some (v,rest++s) := by
  cases fuel with
  | zero => simp [parseValue] at h
  | succ fuel =>
    obtain ⟨fuel',rfl⟩ : ∃ k, fuel' = k+1 := ⟨fuel'-1,by omega⟩
    have hle : fuel ≤ fuel' := by omega
    unfold parseValue at h ⊢
    split at h
    · simp at h
    rename_i c more hskip
    rw [skipBlank_append s hskip]
    simp only
    split at h
    · rw [if_pos ‹_›]
      exact keyword_extend s h
    rw [if_neg ‹_›]
    split at h
    · rw [if_pos ‹_›]
      exact keyword_extend s h
    rw [if_neg ‹_›]
    split at h
    · rw [if_pos ‹_›]
      exact keyword_extend s h
    rw [if_neg ‹_›]
    split at h
    · rw [if_pos ‹_›]
      obtain ⟨⟨text,after⟩,hbody,hp⟩ := Option.map_eq_some_iff.1 h
      obtain ⟨rfl,rfl⟩ := Prod.mk.inj hp
      rw [stringBody_extend s hbody]
      rfl
    rw [if_neg ‹_›]
    split at h
    · rw [if_pos ‹_›]
      split at h
      · simp at h
      rw [if_neg ‹_›]
      split at h
      · simp at h
      rename_i d after hafter
      rw [skipBlank_append s hafter]
      simp only
      split at h
      · rw [if_pos ‹_›]
        cases h
        rfl
      rw [if_neg ‹_›]
      obtain ⟨⟨items,left⟩,hitems,hp⟩ := Option.map_eq_some_iff.1 h
      obtain ⟨rfl,rfl⟩ := Prod.mk.inj hp
      have hext := parseItems_extend hle s hitems
      rw [List.cons_append] at hext
      rw [hext]
      rfl
    rw [if_neg ‹_›]
    split at h
    · rw [if_pos ‹_›]
      split at h
      · simp at h
      rw [if_neg ‹_›]
      split at h
      · simp at h
      rename_i d after hafter
      rw [skipBlank_append s hafter]
      simp only
      split at h
      · rw [if_pos ‹_›]
        cases h
        rfl
      rw [if_neg ‹_›]
      obtain ⟨⟨members,left⟩,hmembers,hp⟩ := Option.map_eq_some_iff.1 h
      obtain ⟨rfl,rfl⟩ := Prod.mk.inj hp
      have hext := parseMembers_extend hle s hmembers
      rw [List.cons_append] at hext
      rw [hext]
      rfl
    rw [if_neg ‹_›]
    obtain ⟨⟨n,after⟩,hnumber,hp⟩ := Option.map_eq_some_iff.1 h
    obtain ⟨rfl,rfl⟩ := Prod.mk.inj hp
    have hext := parseNumber_extend ft s hnumber (hend.resolve_right fun hnum => hnum n rfl)
    rw [List.cons_append] at hext
    rw [hext]
    rfl
theorem parseItems_extend {fuel fuel' depth : ℕ} (hfuel : fuel ≤ fuel') {cs rest : List Char}
    {items : List Json} (s : List Char) (h : parseItems ft fuel depth cs = some (items,rest)) :
    parseItems ft fuel' depth (cs++s) = some (items,rest++s) := by
  cases fuel with
  | zero => simp [parseItems] at h
  | succ fuel =>
    obtain ⟨fuel',rfl⟩ : ∃ k, fuel' = k+1 := ⟨fuel'-1,by omega⟩
    have hle : fuel ≤ fuel' := by omega
    unfold parseItems at h ⊢
    split at h
    · simp at h
    rename_i x after hx
    split at h
    · simp at h
    rename_i d more hskip
    have hafter : after ≠ [] := by
      rintro rfl
      simp [skipBlank] at hskip
    rw [parseValue_extend hle s hx (Or.inl hafter)]
    simp only [skipBlank_append s hskip]
    split at h
    · rw [if_pos ‹_›]
      obtain ⟨⟨xs,left⟩,hxs,hp⟩ := Option.map_eq_some_iff.1 h
      obtain ⟨rfl,rfl⟩ := Prod.mk.inj hp
      rw [parseItems_extend hle s hxs]
      rfl
    rw [if_neg ‹_›]
    split at h
    · rw [if_pos ‹_›]
      cases h
      rfl
    · simp at h
theorem parseMembers_extend {fuel fuel' depth : ℕ} (hfuel : fuel ≤ fuel') {cs rest : List Char}
    {members : List (String × Json)} (s : List Char)
    (h : parseMembers ft fuel depth cs = some (members,rest)) :
    parseMembers ft fuel' depth (cs++s) = some (members,rest++s) := by
  cases fuel with
  | zero => simp [parseMembers] at h
  | succ fuel =>
    obtain ⟨fuel',rfl⟩ : ∃ k, fuel' = k+1 := ⟨fuel'-1,by omega⟩
    have hle : fuel ≤ fuel' := by omega
    unfold parseMembers at h ⊢
    split at h
    · simp at h
    rename_i q more hskip
    rw [skipBlank_append s hskip]
    simp only
    split at h
    · rw [if_pos ‹_›]
      split at h
      · simp at h
      rename_i k afterKey hkey
      rw [stringBody_extend s hkey]
      simp only
      split at h
      · simp at h
      rename_i d afterColon hcolon
      rw [skipBlank_append s hcolon]
      simp only
      split at h
      · rw [if_pos ‹_›]
        split at h
        · simp at h
        rename_i v after hv
        split at h
        · simp at h
        rename_i d' left hleft
        have hafter : after ≠ [] := by
          rintro rfl
          simp [skipBlank] at hleft
        rw [parseValue_extend hle s hv (Or.inl hafter)]
        simp only [skipBlank_append s hleft]
        split at h
        · rw [if_pos ‹_›]
          obtain ⟨⟨ms,left'⟩,hms,hp⟩ := Option.map_eq_some_iff.1 h
          obtain ⟨rfl,rfl⟩ := Prod.mk.inj hp
          rw [parseMembers_extend hle s hms]
          rfl
        rw [if_neg ‹_›]
        split at h
        · rw [if_pos ‹_›]
          cases h
          rfl
        · simp at h
      · simp at h
    · simp at h
end

theorem parseValue_brace {fuel depth : ℕ} {cs rest : List Char} {v : Json}
    (h : parseValue ft fuel depth ('{'::cs) = some (v,rest)) : ∀ n, v ≠ .num n := by
  cases fuel with
  | zero => simp [parseValue] at h
  | succ fuel =>
    rw [parseValue,skipBlank_cons rfl] at h
    simp only [show ('{' : Char) ≠ 'n' by decide,show ('{' : Char) ≠ 't' by decide,
      show ('{' : Char) ≠ 'f' by decide,show ('{' : Char) ≠ '"' by decide,
      show ('{' : Char) ≠ '[' by decide,if_false,if_true] at h
    split at h
    · simp at h
    split at h
    · simp at h
    split at h
    · cases h
      simp
    · obtain ⟨p,-,hp⟩ := Option.map_eq_some_iff.1 h
      cases hp
      simp

/-- A text that stops before the end of an object is no document. -/
theorem parse_eq_none_of_cut {members : List (String × Json)} {limit : ℕ}
    (hfloats : (Json.obj members).FloatsIn ft.readable) (hnesting : (Json.obj members).nesting < limit) {p s : List Char}
    (htext : print ft (.obj members) = p++s) (hs : s ≠ []) : parse ft limit p = none := by
  unfold parse
  split
  · rename_i v rest hparse
    exfalso
    have hobject : ∀ n, v ≠ .num n := by
      cases p with
      | nil => simp [parseValue,skipBlank] at hparse
      | cons c p =>
        have hc : c = '{' := by
          cases members <;> exact (List.cons.inj htext).1.symm
        subst hc
        exact parseValue_brace ft hparse
    have hlength : p.length+1 ≤ (p++s).length+1 := by simp
    have hextended := parseValue_extend ft hlength s hparse (Or.inr hobject)
    have hwhole := readsBack ft hfloats ((p++s).length+1) limit [] (by rw [htext]; omega)
      hnesting boundary_nil
    rw [List.append_nil,htext,hextended] at hwhole
    exact hs (List.append_eq_nil_iff.1 (Prod.mk.inj (Option.some.inj hwhole)).2).2
  · rfl

theorem parse_print_append {members : List (String × Json)} {limit : ℕ}
    (hfloats : (Json.obj members).FloatsIn ft.readable) (hnesting : (Json.obj members).nesting < limit) {blanks : List Char}
    (hblanks : skipBlank blanks = []) :
    parse ft limit (print ft (.obj members)++blanks) = some (.obj members) := by
  have hwhole := readsBack ft hfloats ((print ft (.obj members)).length+1) limit []
    (by omega) hnesting boundary_nil
  rw [List.append_nil] at hwhole
  have hlength : (print ft (.obj members)).length+1 ≤
      (print ft (.obj members)++blanks).length+1 := by simp
  have hextended := parseValue_extend ft hlength blanks hwhole (Or.inr fun n => by simp)
  rw [parse,hextended]
  simp [hblanks]

end JsonText

theorem Text.utf8_head {c d : Char} {bs cs : List UInt8}
    (h : String.utf8EncodeChar c++bs = String.utf8EncodeChar d++cs) : c = d := by
  have hdecode : ∀ (e : Char) (rest : List UInt8),
      (String.utf8EncodeChar e++rest).toByteArray.utf8DecodeChar? 0 = some e := by
    intro e rest
    rw [List.toByteArray_append]
    exact ByteArray.utf8DecodeChar?_utf8EncodeChar_append
  have hc := hdecode c bs
  rw [h,hdecode d cs] at hc
  exact (Option.some.inj hc).symm

theorem Text.flatMap_utf8_append {cs ds : List Char} {rest : List UInt8}
    (h : ds.flatMap String.utf8EncodeChar = cs.flatMap String.utf8EncodeChar++rest) :
    ∃ more, ds = cs++more := by
  induction cs generalizing ds with
  | nil => exact ⟨ds,rfl⟩
  | cons c cs ih =>
    rw [List.flatMap_cons,List.append_assoc] at h
    cases ds with
    | nil =>
      have hnil := (List.append_eq_nil_iff.1 h.symm).1
      have hsize := c.utf8Size_pos
      rw [← String.length_utf8EncodeChar,hnil] at hsize
      simp at hsize
    | cons d ds =>
      rw [List.flatMap_cons] at h
      obtain rfl := Text.utf8_head h
      obtain ⟨more,rfl⟩ := ih (List.append_cancel_left h)
      exact ⟨more,rfl⟩

section

open JsonText

variable {crates : Crates} {members : List (String × Json)}

/-- Bytes that stop before the end of an object are no document. -/
theorem readDocument_eq_none_of_cut (hfloats : (Json.obj members).FloatsIn crates.floats.readable)
    (hnesting : (Json.obj members).nesting < recursionLimit) {bs rest : Bytes}
    (h : toVec crates (.obj members) = bs++rest) (hrest : rest ≠ []) :
    readDocument crates bs = none := by
  unfold readDocument
  cases htext : Text.fromUtf8 bs with
  | none => rfl
  | some s =>
    have hbs := Text.bytes_of_fromUtf8 htext
    have hencoded : (print crates.floats (.obj members)).flatMap String.utf8EncodeChar =
        s.toList.flatMap String.utf8EncodeChar++rest := by
      rw [← Text.bytes_ofList,← Text.bytes_ofList,String.ofList_toList,hbs]
      exact h
    obtain ⟨more,hmore⟩ := Text.flatMap_utf8_append hencoded
    refine parse_eq_none_of_cut _ hfloats hnesting hmore ?_
    rintro rfl
    rw [List.append_nil] at hmore
    rw [hmore] at hencoded
    exact hrest (List.self_eq_append_right.1 hencoded)

theorem readDocument_newline (hfloats : (Json.obj members).FloatsIn crates.floats.readable)
    (hnesting : (Json.obj members).nesting < recursionLimit) :
    readDocument crates (toVec crates (.obj members)++[Text.ascii '\n']) = some (.obj members) := by
  have htext : toVec crates (.obj members)++[Text.ascii '\n'] =
      Text.bytes (String.ofList (print crates.floats (.obj members)++['\n'])) := by
    rw [toVec,Text.bytes_ofList,Text.bytes_ofList,List.flatMap_append]
    rfl
  rw [readDocument,htext,Text.fromUtf8_bytes,Option.bind_some,String.toList_ofList]
  exact parse_print_append _ hfloats hnesting rfl

end
end CommitCiPreflight
