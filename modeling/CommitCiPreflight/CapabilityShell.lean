import CommitCiPreflight.CapabilitySpec

/-! Which programs the checks of an accepted pack start, when the command line of `env` is read as
`env` reads it. -/
namespace CommitCiPreflight

namespace CapabilityPack

open Outcome

variable {crates : Crates} {net : AddressText} {word program : String}

/-- The options of `env` whose argument is a word of its own. -/
def envOptions : List String := ["-u","--unset","-C","--chdir","-S","--split-string"]

/-- The words from the first one that is no assignment. -/
def afterAssignments (words : List String) : List String :=
  words.dropWhile fun word => word.toList.contains '='

/-- The command of `env`: its options end at `--` or at the first word that is none, and the
assignments follow. -/
def envCommand : List String → List String
  | [] => []
  | word::rest =>
    if word = "--" then afterAssignments rest
    else if word ∈ envOptions then
      match rest with
      | [] => []
      | _::rest => envCommand rest
    else if Text.startsWith word '-' then envCommand rest
    else afterAssignments (word::rest)

/-- The program of an argument list, through any number of `env`s. -/
inductive Starts : List String → String → Prop
  | direct {word : String} {rest : List String} (h : executableBasename word ≠ "env") :
    Starts (word::rest) word
  | env {word program : String} {rest : List String} (h : executableBasename word = "env")
    (hrest : Starts (envCommand rest) program) : Starts (word::rest) program

/-- The program of an argument list, through one `env` at most. -/
def entryProgram : List String → Option String
  | [] => none
  | word::rest => if executableBasename word = "env" then (envCommand rest).head? else some word

/-- A word that the scan takes for an option wherever it stands. -/
def LooksLikeOption (word : String) : Prop :=
  hasPrefix word "-u" = true ∨ hasPrefix word "-C" = true

/-- The program comes right after `--` or an assignment. -/
def AfterOptions (program : String) (words : List String) : Prop :=
  ∃ before mark after, words = before++mark::program::after ∧
    (mark = "--" ∨ mark.toList.contains '=' = true)

theorem AfterOptions.cons {words : List String} (h : AfterOptions program words) (word : String) :
    AfterOptions program (word::words) := by
  obtain ⟨before,mark,after,rfl,hmark⟩ := h
  exact ⟨word::before,mark,after,rfl,hmark⟩

theorem afterOptions_of_head {mark : String} {words : List String}
    (h : words.head? = some program) (hmark : mark = "--" ∨ mark.toList.contains '=' = true) :
    AfterOptions program (mark::words) := by
  obtain ⟨after,rfl⟩ := List.head?_eq_some_iff.1 h
  exact ⟨[],mark,after,rfl,hmark⟩

theorem afterAssignments_cases {words : List String}
    (h : (afterAssignments words).head? = some program) :
    words.head? = some program ∨ AfterOptions program words := by
  induction words with
  | nil => cases h
  | cons word rest ih =>
    rw [afterAssignments,List.dropWhile_cons] at h
    split at h
    · rename_i hassign
      rcases ih h with hhead | hafter
      · exact .inr (afterOptions_of_head hhead (.inr hassign))
      · exact .inr (hafter.cons word)
    · exact .inl h

theorem LooksLikeOption.startsWith (h : LooksLikeOption word) : Text.startsWith word '-' = true := by
  have hdash : ∀ start, start.toList.head? = some '-' → hasPrefix word start = true →
      Text.startsWith word '-' = true := by
    intro start hstart hprefix
    obtain ⟨rest,hrest⟩ := Option.isSome_iff_exists.1 hprefix
    obtain ⟨tail,htail⟩ := List.head?_eq_some_iff.1 hstart
    rw [Text.stripPrefix_eq_some] at hrest
    simp [Text.startsWith,hrest,htail]
  rcases h with h | h
  · exact hdash _ rfl h
  · exact hdash _ rfl h

/-- What `env` starts although it looks like an option stands where no more options are read. -/
theorem envCommand_afterOptions {words : List String}
    (h : (envCommand words).head? = some program) (hlooks : LooksLikeOption program) :
    AfterOptions program words := by
  fun_induction envCommand words with
  | case1 => cases h
  | case2 rest =>
    rcases afterAssignments_cases h with hhead | hafter
    · exact afterOptions_of_head hhead (.inl rfl)
    · exact hafter.cons _
  | case3 => cases h
  | case4 word hend hoption argument rest ih => exact ((ih h).cons _).cons _
  | case5 word rest hend hoption hdash ih => exact (ih h).cons _
  | case6 word rest hend hoption hdash =>
    rcases afterAssignments_cases h with hhead | hafter
    · cases hhead
      exact absurd hlooks.startsWith hdash
    · exact hafter

theorem contains_of_hasPrefix {start : String} {c : Char} (h : hasPrefix word start = true)
    (hc : c ∈ start.toList) : word.toList.contains c = true := by
  obtain ⟨rest,hrest⟩ := Option.isSome_iff_exists.1 h
  rw [Text.stripPrefix_eq_some] at hrest
  rw [hrest,List.contains_iff_mem]
  exact List.mem_append_left _ hc

theorem takesNext_eq_true : takesNext word = true ↔ word ∈ ["-u","-C","--unset","--chdir"] := by
  simp [takesNext,or_assoc]

theorem not_shell_of_takesNext (h : takesNext word = true) : executableBasename word ∉ shells := by
  have hnone : ∀ word ∈ ["-u","-C","--unset","--chdir"], executableBasename word ∉ shells := by
    decide +kernel
  exact hnone word (takesNext_eq_true.1 h)

theorem looksLikeOption_of_standsAlone (h : standsAlone word = true)
    (hassign : word.toList.contains '=' = false) (hshell : executableBasename word ∈ shells) :
    LooksLikeOption word := by
  have hnone : ∀ word ∈ ["-i","--ignore-environment","-0","--null","--"],
      executableBasename word ∉ shells := by
    decide +kernel
  simp only [standsAlone,Bool.or_eq_true,beq_iff_eq] at h
  obtain ((((((((h | h) | h) | h) | h) | h) | h) | h) | h) := h
  · exact .inl h
  · exact .inr h
  · rw [contains_of_hasPrefix h (by decide)] at hassign
    cases hassign
  · rw [contains_of_hasPrefix h (by decide)] at hassign
    cases hassign
  all_goals exact absurd hshell (hnone word (by simp [h]))

theorem envEntrypoint_cons {rest : List String} (h : envEntrypoint (word::rest) = false) :
    splitsString word = false ∧
      ((takesNext word = true ∧ ∃ argument words, rest = argument::words ∧
          envEntrypoint words = false) ∨
        (takesNext word = false ∧ standsAlone word = true ∧ envEntrypoint rest = false) ∨
        (Text.startsWith word '-' = false ∧ word.toList.contains '=' = true ∧
          envEntrypoint rest = false) ∨
        (Text.startsWith word '-' = false ∧ word.toList.contains '=' = false ∧
          executableBasename word ∉ shells)) := by
  rw [envEntrypoint.eq_def] at h
  dsimp only at h
  split at h
  · cases h
  rename_i hsplits
  refine ⟨by simpa using hsplits,?_⟩
  split at h
  · rename_i hnext
    cases rest with
    | nil => cases h
    | cons argument words => exact .inl ⟨hnext,argument,words,rfl,h⟩
  rename_i hnext
  split at h
  · exact .inr (.inl ⟨by simpa using hnext,‹_›,h⟩)
  split at h
  · cases h
  rename_i hdash
  have hdash : Text.startsWith word '-' = false := by simpa using hdash
  split at h
  · exact .inr (.inr (.inl ⟨hdash,‹_›,h⟩))
  · rename_i hassign
    exact .inr (.inr (.inr ⟨hdash,by simpa using hassign,by simpa using h⟩))

/-- After the options the scan still skips what looks like one. -/
theorem afterAssignments_head {words : List String} (h : envEntrypoint words = false)
    (hhead : (afterAssignments words).head? = some program)
    (hshell : executableBasename program ∈ shells) : LooksLikeOption program := by
  induction words with
  | nil => cases hhead
  | cons word rest ih =>
    obtain ⟨-,hcase⟩ := envEntrypoint_cons h
    rw [afterAssignments,List.dropWhile_cons] at hhead
    split at hhead
    · rename_i hassign
      have hrest : envEntrypoint rest = false := by
        obtain ⟨hnext,-⟩ | ⟨-,-,hrest⟩ | ⟨-,-,hrest⟩ | ⟨-,hnone,-⟩ := hcase
        · have hplain : ∀ word ∈ ["-u","-C","--unset","--chdir"],
              word.toList.contains '=' = false := by decide
          rw [hplain word (takesNext_eq_true.1 hnext)] at hassign
          cases hassign
        · exact hrest
        · exact hrest
        · rw [hnone] at hassign
          cases hassign
      exact ih hrest hhead
    · rename_i hassign
      have hword : word = program := by simpa using hhead
      subst hword
      have hassign : word.toList.contains '=' = false := by simpa using hassign
      obtain ⟨hnext,-⟩ | ⟨-,halone,-⟩ | ⟨-,hsome,-⟩ | ⟨-,-,hnot⟩ := hcase
      · exact absurd hshell (not_shell_of_takesNext hnext)
      · exact looksLikeOption_of_standsAlone halone hassign hshell
      · rw [hsome] at hassign
        cases hassign
      · exact absurd hshell hnot

theorem envCommand_head {words : List String} (h : envEntrypoint words = false)
    (hhead : (envCommand words).head? = some program)
    (hshell : executableBasename program ∈ shells) : LooksLikeOption program := by
  fun_induction envCommand words with
  | case1 => cases hhead
  | case2 rest =>
    have hrest : envEntrypoint rest = false := by
      obtain ⟨-,⟨hnext,-⟩ | ⟨-,-,hrest⟩ | ⟨hdash,-⟩ | ⟨hdash,-⟩⟩ := envEntrypoint_cons h
      · cases hnext
      · exact hrest
      · cases hdash
      · cases hdash
    exact afterAssignments_head hrest hhead hshell
  | case3 => cases hhead
  | case4 word hend hoption argument rest ih =>
    have hnext : takesNext word = true := by
      have hsplits := (envEntrypoint_cons h).1
      have hall : ∀ word ∈ envOptions, splitsString word = false → takesNext word = true := by
        decide +kernel
      exact hall word hoption hsplits
    obtain ⟨-,⟨-,argument',words,hwords,hrest⟩ | ⟨hnone,-⟩ | ⟨hdash,-⟩ | ⟨hdash,-⟩⟩ :=
      envEntrypoint_cons h
    · cases hwords
      exact ih hrest hhead
    · rw [hnone] at hnext
      cases hnext
    all_goals
      have hall : ∀ word ∈ envOptions, Text.startsWith word '-' = true := by decide
      rw [hall word hoption] at hdash
      cases hdash
  | case5 word rest hend hoption hdash ih =>
    obtain ⟨-,⟨hnext,-⟩ | ⟨-,-,hrest⟩ | ⟨hplain,-⟩ | ⟨hplain,-⟩⟩ := envEntrypoint_cons h
    · have hall : ∀ word ∈ ["-u","-C","--unset","--chdir"], word ∈ envOptions := by decide
      exact absurd (hall word (takesNext_eq_true.1 hnext)) hoption
    · exact ih hrest hhead
    all_goals
      rw [hplain] at hdash
      cases hdash
  | case6 word rest hend hoption hdash => exact afterAssignments_head h hhead hshell

theorem entryProgram_of_shellEntrypoint {argv : List String} (h : shellEntrypoint argv = false)
    (hprogram : entryProgram argv = some program) (hshell : executableBasename program ∈ shells) :
    ∃ word words, argv = word::words ∧ executableBasename word = "env" ∧
      LooksLikeOption program ∧ AfterOptions program words := by
  cases argv with
  | nil => cases hprogram
  | cons word words =>
    rw [shellEntrypoint] at h
    rw [entryProgram] at hprogram
    split at h
    · cases h
    rename_i hword
    split at hprogram
    · rename_i henv
      rw [if_neg (by simpa using henv)] at h
      have hlooks := envCommand_head h hprogram hshell
      exact ⟨word,words,rfl,henv,hlooks,envCommand_afterOptions hprogram hlooks⟩
    · cases hprogram
      exact absurd (by simpa using hshell) hword

/-- In an accepted pack no check starts a listed shell, directly or through one `env`, except by a
word after `--` or an assignment that `env` takes for the program and the scan for an option. -/
theorem accepted_starts_no_shell {manifest : CapabilityPackManifestV1}
    {envelope : CapabilityPackEnvelopeV1} (h : validate crates net manifest = .ok envelope) :
    ∀ profile ∈ manifest.profiles, ∀ check ∈ profile.checks, ∀ program,
      entryProgram check.argv = some program → executableBasename program ∈ shells →
        ∃ word words, check.argv = word::words ∧ executableBasename word = "env" ∧
          LooksLikeOption program ∧ AfterOptions program words := by
  intro profile hprofile check hcheck program hprogram hshell
  obtain ⟨ns,haccepted⟩ := validate_eq_ok.1 h
  obtain ⟨n,-,envelope,hn⟩ := haccepted.normalizes hprofile
  exact entryProgram_of_shellEntrypoint (hn.entrypoints check hcheck) hprogram hshell

def sampleEntry (argv : List String) : CapabilityPackManifestV1 :=
  sampleManifest [sampleProfile "lint" [{ CheckConfig.sample "clippy" [] with argv }]]

theorem accepted_starts_no_shell_cargo :
    ∃ envelope, validate .reference .nothing (sampleEntry ["env","-i","RUST_LOG=info","cargo"]) =
        .ok envelope ∧
      entryProgram ["env","-i","RUST_LOG=info","cargo"] = some "cargo" ∧
        ¬ executableBasename "cargo" ∈ shells := by
  obtain ⟨envelope,henvelope⟩ : ∃ envelope, validate .reference .nothing
      (sampleEntry ["env","-i","RUST_LOG=info","cargo"]) = .ok envelope :=
    exists_of_isSome (by decide +kernel)
  have hprogram : entryProgram ["env","-i","RUST_LOG=info","cargo"] = some "cargo" := by
    decide +kernel
  refine ⟨envelope,henvelope,hprogram,fun hshell => ?_⟩
  obtain ⟨-,-,-,-,hlooks,-⟩ := accepted_starts_no_shell henvelope _ (.head _) _ (.head _) _
    hprogram hshell
  revert hlooks
  rw [LooksLikeOption]
  decide +kernel

/-- A second `env` is not followed, and after `--` the program may be spelled like an option. -/
theorem accepted_starts_shell :
    (∃ envelope, validate .reference .nothing (sampleEntry ["env","env","bash"]) = .ok envelope) ∧
    (∃ program, Starts ["env","env","bash"] program ∧ executableBasename program ∈ shells) ∧
    (∃ envelope, validate .reference .nothing (sampleEntry ["env","--","-u/bash"]) =
      .ok envelope) ∧
    ∃ program, Starts ["env","--","-u/bash"] program ∧ executableBasename program ∈ shells := by
  have hbash : Starts ["bash"] "bash" := .direct (by decide +kernel)
  have hdash : Starts ["-u/bash"] "-u/bash" := .direct (by decide +kernel)
  have haccepted : ∀ argv ∈ [["env","env","bash"],["env","--","-u/bash"]],
      ∃ envelope, validate .reference .nothing (sampleEntry argv) = .ok envelope := by
    have hall : ∀ argv ∈ [["env","env","bash"],["env","--","-u/bash"]],
        (validate .reference .nothing (sampleEntry argv)).toOption.isSome = true := by
      decide +kernel
    exact fun argv hargv => exists_of_isSome (hall argv hargv)
  have henv : executableBasename "env" = "env" := by decide +kernel
  have houter : envCommand ["env","bash"] = ["env","bash"] := by decide +kernel
  have hinner : envCommand ["bash"] = ["bash"] := by decide +kernel
  have hend : envCommand ["--","-u/bash"] = ["-u/bash"] := by decide +kernel
  refine ⟨haccepted _ (by simp),⟨"bash",?_,by decide +kernel⟩,haccepted _ (by simp),"-u/bash",?_,
    by decide +kernel⟩
  · refine .env henv ?_
    rw [houter]
    refine .env henv ?_
    rwa [hinner]
  · refine .env henv ?_
    rwa [hend]

end CapabilityPack

end CommitCiPreflight
