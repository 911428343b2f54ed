import VersionStamp.Command.Run
import VersionStamp.Proofs.Config.Sections
import VersionStamp.Proofs.Outcome

/-! The settings that commands rely on. Commands look up their settings in two sections without asking
whether these are mappings. Every one of these lookups succeeds where the section is usable, and each
that is made fails where it is not. -/

namespace VersionStamp.Command

open Config

/-- The command line leaves no choice to the settings. -/
def Common.IsComplete (common : Common) : Prop :=
  common.template.isSome ∧ common.recognizer.isSome ∧ common.useLocal.isSome

theorem settingOf_of_not_isMapping {value : Value} (h : ¬value.IsMapping) (key : String) :
    settingOf value key = .error .notMapping := by
  cases value with
  | mapping entries => exact absurd ⟨entries, rfl⟩ h
  | _ => rfl

section

variable {config : Config} {value : Value}

/-- What the command line leaves open can be looked up in a mapping only. -/
theorem exists_choices_iff (h : lookup? "version" config = some value) (common : Common) :
    (∃ choices, Choices.ofConfig config common = .ok choices) ↔
      value.IsMapping ∨ common.IsComplete := by
  rcases common with ⟨template, recognizer, useLocal⟩
  simp only [Choices.ofConfig, sectionOf, h, Common.IsComplete]
  by_cases hvalue : value.IsMapping
  · obtain ⟨entries, rfl⟩ := hvalue
    refine iff_of_true ?_ (.inl ⟨entries, rfl⟩)
    cases template <;> cases recognizer <;> cases useLocal <;> exact ⟨_, rfl⟩
  · -- the first choice that is left open is looked up in what is no mapping
    cases template <;> cases recognizer <;> cases useLocal <;>
      simp [hvalue, settingOf_of_not_isMapping hvalue, bind, Except.bind, pure, Except.pure, Except.map]

theorem exists_makeVerbose_iff (h : lookup? "logging" config = some value) :
    (∃ after, makeVerbose config = .ok after) ↔ value.IsMapping := by
  rw [makeVerbose, h]
  cases value with
  | mapping entries => exact iff_of_true ⟨_, rfl⟩ ⟨entries, rfl⟩
  | _ => simp [Value.IsMapping]

theorem keptBy_makeVerbose {after : Config} (h : makeVerbose config = .ok after) :
    config.KeptBy after := by
  rw [makeVerbose] at h
  split at h
  · rename_i entries hentries
    have hset : (Adjusted.set ⟨config, 0⟩ "logging" "level" (.text "DEBUG")).config = after := by
      rw [Adjusted.set, hentries]
      exact Except.ok.inj h
    rw [← hset]
    exact Adjusted.keptBy_set ⟨config, 0⟩ "logging" "level" (.text "DEBUG")
  · cases h
  · cases h

theorem levelOf_ne_notMapping (value : Value) : levelOf value ≠ .error .notMapping := by
  unfold levelOf
  repeat' split
  all_goals simp

theorem logFile?_ne_notMapping (entries : Config) : logFile? entries ≠ .error .notMapping := by
  unfold logFile?
  split <;> simp

theorem ofSection_ne_notMapping_iff :
    LogSetup.ofSection value ≠ .error .notMapping ↔ value.IsMapping := by
  cases value with
  | mapping entries =>
    refine iff_of_true (fun h => ?_) ⟨entries, rfl⟩
    rw [LogSetup.ofSection] at h
    rcases bind_eq_error h with hlevel | ⟨level, -, h⟩
    · exact levelOf_ne_notMapping _ hlevel
    · dsimp only at h
      split at h
      · rcases bind_eq_error h with hfile | ⟨file, -, h⟩
        · exact logFile?_ne_notMapping entries hfile
        · cases h
      · cases h
  | _ => simp [Value.IsMapping, LogSetup.ofSection]

end

/-- What becomes of a file of settings, whatever reads it. If the reader fails with an error of its own,
so does loading. A file that is missing, cannot be read, is empty or holds a mapping is loaded whatever
the environment says, and a section is usable unless the file has something else than a mapping in its
place. What the commands look up without asking is found just where the section is usable: the
choices that a command line leaves open, the level that is changed, and the settings of logging. -/
theorem settings_usable_iff {document : Document}
    (hmapping : ∀ value, document = .found value → value.isSet = true → value.IsMapping)
    (hkeys : (keysOf document.entries).Nodup) (env : Environment) :
    (∀ e, document = .failed e → Config.load document env = .error e) ∧
    ((∀ e, document ≠ .failed e) → ∃ loaded, Config.load document env = .ok loaded ∧
      (∀ name ∈ keysOf defaults, loaded.config.Usable name ↔ Fits document.entries name) ∧
      (∀ common, (∃ choices, Choices.ofConfig loaded.config common = .ok choices) ↔
        loaded.config.Usable "version" ∨ common.IsComplete) ∧
      ((∃ after, makeVerbose loaded.config = .ok after) ↔ loaded.config.Usable "logging") ∧
      (∀ after, makeVerbose loaded.config = .ok after → loaded.config.KeptBy after) ∧
      ∃ logging, sectionOf loaded.config "logging" = .ok logging ∧
        (LogSetup.ofSection logging ≠ .error .notMapping ↔ loaded.config.Usable "logging")) := by
  constructor
  · rintro e rfl
    rfl
  · intro hread
    have hdocument : document.IsSettings := ⟨hread, hmapping, hkeys⟩
    obtain ⟨loaded, hload, -⟩ := load_spec hdocument env
    have hsection {name : String} (hname : name ∈ keysOf defaults) :=
      usable_iff_of_load hdocument hload hname
    obtain ⟨version, hversion, hversionIff⟩ := (hsection (mem_keysOf_defaults.2 (.inl rfl))).1
    obtain ⟨logging, hlogging, hloggingIff⟩ := (hsection (mem_keysOf_defaults.2 (.inr rfl))).1
    refine ⟨loaded, hload, fun name hname => (hsection hname).2, fun common => ?_, ?_,
      fun _ => keptBy_makeVerbose, logging, by rw [sectionOf, hlogging], ?_⟩
    · rw [exists_choices_iff hversion, hversionIff]
    · rw [exists_makeVerbose_iff hlogging, hloggingIff]
    · rw [ofSection_ne_notMapping_iff, hloggingIff]

/-- A file that ends after the name of the first section: what it says of versions is nothing, and
what a command line leaves open cannot be looked up. -/
theorem settings_usable_iff_emptied : ∃ (document : Document) (loaded : Adjusted),
    document = .found (.mapping [("version", .null)]) ∧
    (∀ value, document = .found value → value.isSet = true → value.IsMapping) ∧
    (keysOf document.entries).Nodup ∧ Config.load document {} = .ok loaded ∧
    ¬loaded.config.Usable "version" ∧ loaded.config.Usable "logging" ∧
    ∀ choices, Choices.ofConfig loaded.config ⟨none, none, none⟩ ≠ .ok choices := by
  obtain ⟨document, hdocument, hmapping, hkeys, hread, hversion, hlogging⟩ :
      ∃ document : Document, document = .found (.mapping [("version", .null)]) ∧
      (∀ value, document = .found value → value.isSet = true → value.IsMapping) ∧
      (keysOf document.entries).Nodup ∧ (∀ e, document ≠ .failed e) ∧
      ¬Fits document.entries "version" ∧ Fits document.entries "logging" := by
    refine ⟨_, rfl, ?_, by decide, ?_, by decide, by decide⟩
    · rintro _ ⟨⟩ -
      exact ⟨_, rfl⟩
    · rintro _ ⟨⟩
  obtain ⟨loaded, hload, hsection, hchoices, -⟩ := (settings_usable_iff hmapping hkeys {}).2 hread
  have hunusable : ¬loaded.config.Usable "version" := by
    rwa [hsection "version" (mem_keysOf_defaults.2 (.inl rfl))]
  refine ⟨document, loaded, hdocument, hmapping, hkeys, hload, hunusable, ?_, fun choices hmade => ?_⟩
  · rwa [hsection "logging" (mem_keysOf_defaults.2 (.inr rfl))]
  · rcases (hchoices ⟨none, none, none⟩).1 ⟨choices, hmade⟩ with husable | hcomplete
    · exact hunusable husable
    · cases hcomplete.1

end VersionStamp.Command
