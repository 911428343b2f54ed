import VersionStamp.Proofs.Config.Paths
import VersionStamp.Proofs.Config.Sections
import VersionStamp.Proofs.Config.Truth

/-! What the environment changes in settings, by paths. It changes nothing but the places that variables
are aimed at, and these only where their section is a mapping. -/

namespace VersionStamp.Config

theorem SetBy.get?_setting {settings : List String → Option Value} {before after : Config}
    (h : before.SetBy settings after) {name : String} {entries : Config}
    (hheld : lookup? name before = some (.mapping entries)) (key : String) :
    after.get? [name, key] = (settings [name, key]).or (before.get? [name, key]) := by
  obtain ⟨entries', hafter, hset⟩ := h.entries name entries hheld
  rw [Config.get?_setting hafter, Config.get?_setting hheld, hset]

/-- Nothing differs at a path that is not set and does not lead through what is set. On the way to what
is set lie mappings, before and after. -/
theorem SetBy.get?_of_free {settings : List String → Option Value} {before after : Config}
    (h : before.SetBy settings after)
    (hpresent : ∀ name key value, settings [name, key] = some value →
      ∃ held, lookup? name before = some held)
    {path : List String} (hfree : ∀ start, start <+: path → settings start = none) :
    after.get? path = before.get? path ∨
    (path = [] ∨ ∃ name key value, path = [name] ∧ settings [name, key] = some value) ∧
      ∃ old new, before.get? path = some (.mapping old) ∧ after.get? path = some (.mapping new) := by
  cases path with
  | nil => exact .inr ⟨.inl rfl, before, after, rfl, rfl⟩
  | cons name rest =>
    simp only [get?_cons]
    -- only a section that something is set in can differ, and there only the keys that are set
    by_cases hset : ∃ key value, settings [name, key] = some value
    · obtain ⟨key, value, hvalue⟩ := hset
      obtain ⟨held, hheld⟩ := hpresent name key value hvalue
      by_cases hmapping : held.IsMapping
      · obtain ⟨entries, rfl⟩ := hmapping
        obtain ⟨entries', hafter, hentries⟩ := h.entries name entries hheld
        rw [hheld, hafter, Option.bind_some, Option.bind_some]
        cases rest with
        | nil => exact .inr ⟨.inr ⟨name, key, value, rfl, hvalue⟩, entries, entries', rfl, rfl⟩
        | cons other rest =>
          have hother := hfree [name, other] (by simp)
          rw [Value.get?_mapping, Value.get?_mapping, hentries, hother, Option.none_or]
          exact .inl rfl
      · rw [hheld, h.refused name held hheld hmapping]
        exact .inl rfl
    · rw [h.other name fun key => Option.eq_none_iff_forall_ne_some.2 fun value hvalue =>
        hset ⟨key, value, hvalue⟩]
      exact .inl rfl

theorem exists_section (entries : Config) (v : Variable) :
    ∃ held, lookup? v.sectionName (merge entries defaults) = some held := by
  refine exists_lookup?_iff.2 (mem_keysOf_merge.2 (.inr (mem_keysOf_defaults.2 ?_)))
  cases v
  all_goals simp [Variable.sectionName]

/-- The environment on top of settings that were put over the defaults. No variable is refused with an
error. Nothing but the places that variables are aimed at differs. Where the section is a mapping, the
place has what the environment says, and else what was there; any other section is the same as before.
There is one warning for each variable that is set and whose section is no mapping. A truth value is
true for a text that affirms. -/
theorem environment_overrides {entries : Config} (h : (keysOf entries).Nodup) (env : Environment) :
    ∃ after, (merge entries defaults).applyEnvironment env = .ok after ∧
      load (.found (.mapping entries)) env = .ok after ∧
      (∀ path, (∀ v : Variable, ¬v.path <+: path) →
        after.config.get? path = (merge entries defaults).get? path ∨
        (∃ v : Variable, path <+: v.path) ∧
          ∃ old new, (merge entries defaults).get? path = some (.mapping old) ∧
            after.config.get? path = some (.mapping new)) ∧
      (∀ v : Variable, ∃ held, (merge entries defaults).get? [v.sectionName] = some held ∧
        (held.IsMapping → after.config.get? v.path =
          (env.setting? v).or ((merge entries defaults).get? v.path)) ∧
        (¬held.IsMapping → after.config.get? [v.sectionName] = some held)) ∧
      after.warnings = (Variable.all.countP fun v =>
        (env.text? v).isSome && (merge entries defaults).refuses v.sectionName) ∧
      ∀ text, saysYes text = true ↔ Affirms text := by
  obtain ⟨after, happly, hset, hwarnings⟩ := applyEnvironment_spec (hasLevel_merge h) env
  refine ⟨after, happly, ?_, fun path hpath => ?_, fun v => ?_, hwarnings,
    fun _ => saysYes_iff⟩
  · have hdocument : Document.IsSettings (.found (.mapping entries)) := {
      isRead := fun _ hfailed => by cases hfailed
      isMapping := fun value hvalue _ => ⟨entries, (Document.found.inj hvalue).symm⟩
      nodup := h }
    obtain ⟨loaded, hload, -, hsame⟩ := load_eq hdocument happly
    rw [hload, hsame (by simp)]
  · have hpresent (name key : String) (value : Value)
        (hvalue : env.assigned? [name, key] Variable.all = some value) :
        ∃ held, lookup? name (merge entries defaults) = some held := by
      obtain ⟨v, -, ⟨⟩⟩ := Environment.exists_of_assigned?_eq_some hvalue
      exact exists_section entries v
    have hfree (start : List String) (hstart : start <+: path) :
        env.assigned? start Variable.all = none :=
      Environment.assigned?_eq_none fun v _ hv => hpath v (hv ▸ hstart)
    rcases hset.get?_of_free hpresent hfree with hsame | ⟨hway, hmappings⟩
    · exact .inl hsame
    · refine .inr ⟨?_, hmappings⟩
      rcases hway with rfl | ⟨name, key, value, rfl, hvalue⟩
      · exact ⟨.template, List.nil_prefix⟩
      · obtain ⟨v, -, hv⟩ := Environment.exists_of_assigned?_eq_some hvalue
        exact ⟨v, by simp [hv]⟩
  · obtain ⟨held, hheld⟩ := exists_section entries v
    refine ⟨held, (get?_section _ _).trans hheld, ?_, fun hnot => ?_⟩
    · rintro ⟨section', rfl⟩
      rw [← Environment.assigned?_all]
      exact hset.get?_setting hheld v.key
    · rw [get?_section]
      exact hset.refused v.sectionName held hheld hnot

/-- A section for versions that is nothing at all: the two variables that are aimed at it are passed over
with a warning each, and debug mode that is turned off leaves the level that is named. Without settings
the local time zone is turned on, and debug mode goes before the level. -/
theorem environment_overrides_emptied : ∃ (env env' : Environment) (after after' : Adjusted),
    (keysOf [("version", Value.null)]).Nodup ∧
    env = ⟨some "v%b%", none, some "yes", some "INFO", some "no"⟩ ∧
    (merge [("version", .null)] defaults).applyEnvironment env = .ok after ∧
    after.config.get? ["version"] = some .null ∧
    after.config.get? ["logging", "level"] = some (.text "INFO") ∧
    after.config.get? ["logging", "rotate_logs"] = some (.bool true) ∧ after.warnings = 2 ∧
    env' = ⟨none, none, some " Yes\t", some "INFO", some "ON"⟩ ∧
    (merge [] defaults).applyEnvironment env' = .ok after' ∧
    after'.config.get? ["version", "use_local_timezone"] = some (.bool true) ∧
    after'.config.get? ["logging", "level"] = some (.text "DEBUG") ∧ after'.warnings = 0 := by
  have hkeys : (keysOf [("version", Value.null)]).Nodup := by decide
  let env : Environment := ⟨some "v%b%", none, some "yes", some "INFO", some "no"⟩
  let env' : Environment := ⟨none, none, some " Yes\t", some "INFO", some "ON"⟩
  have hno : env.debugMode.any saysYes = false := by decide +kernel
  have hyes : saysYes " Yes\t" = true ∧ saysYes "ON" = true := by decide +kernel
  obtain ⟨after, happly, -, hpaths, hsettings, hwarnings, -⟩ := environment_overrides hkeys env
  obtain ⟨after', happly', -, -, hsettings', hwarnings', -⟩ :=
    @environment_overrides [] List.nodup_nil env'
  refine ⟨env, env', after, after', hkeys, rfl, happly, ?_, ?_, ?_, ?_, rfl, happly', ?_, ?_, ?_⟩
  · obtain ⟨held, hheld, -, hrefused⟩ := hsettings .template
    cases hheld
    exact hrefused (by decide)
  · obtain ⟨held, hheld, hset, -⟩ := hsettings .logLevel
    cases hheld
    have hlevel : env.setting? .logLevel = some (.text "INFO") := by
      simp [Environment.setting?, Environment.value?, hno, env]
    have hafter := hset ⟨_, rfl⟩
    rwa [hlevel] at hafter
  · have hfree (v : Variable) : ¬v.path <+: ["logging", "rotate_logs"] := by
      cases v <;> decide
    rcases hpaths _ hfree with hsame | ⟨-, old, new, hold, -⟩
    · exact hsame
    · cases hold
  · rw [hwarnings]
    rfl
  · obtain ⟨held, hheld, hset, -⟩ := hsettings' .localTimezone
    cases hheld
    have hzone : env'.setting? .localTimezone = some (.bool true) := by
      simp [Environment.setting?, Environment.value?, hyes.1, env']
    have hafter := hset ⟨_, rfl⟩
    rwa [hzone] at hafter
  · obtain ⟨held, hheld, hset, -⟩ := hsettings' .debugMode
    cases hheld
    have hlevel : env'.setting? .debugMode = some (.text "DEBUG") := by
      simp [Environment.setting?, Environment.value?, hyes.2, env']
    have hafter := hset ⟨_, rfl⟩
    rwa [hlevel] at hafter
  · rw [hwarnings']
    rfl

end VersionStamp.Config
