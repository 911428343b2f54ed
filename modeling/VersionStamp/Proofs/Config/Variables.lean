import VersionStamp.Proofs.Config.Overrides

/-! The variables of the environment. They are applied one after the other, and each is aimed at one key
of one section. A later one takes the place of an earlier one that is aimed at the same key, and a
section that is no mapping refuses each of them with a warning. -/

namespace VersionStamp

/-- A variable of the environment. -/
inductive Variable
  | template
  | recognizer
  | localTimezone
  | logLevel
  | debugMode
  deriving DecidableEq, Repr

namespace Variable

/-- The variables in the order in which they are applied. -/
def all : List Variable := [.template, .recognizer, .localTimezone, .logLevel, .debugMode]

/-- The section that a variable is aimed at. -/
def sectionName : Variable → String
  | .template | .recognizer | .localTimezone => "version"
  | .logLevel | .debugMode => "logging"

def key : Variable → String
  | .template => "template"
  | .recognizer => "recognizer"
  | .localTimezone => "use_local_timezone"
  | .logLevel | .debugMode => "level"

def path (v : Variable) : List String := [v.sectionName, v.key]

end Variable

namespace Environment

def text? (env : Environment) : Variable → Option String
  | .template => env.template
  | .recognizer => env.recognizer
  | .localTimezone => env.localTimezone
  | .logLevel => env.logLevel
  | .debugMode => env.debugMode

/-- What a variable sets. Debug mode that is turned off sets nothing. -/
def value? (env : Environment) : Variable → Option Value
  | .template => env.template.map .text
  | .recognizer => env.recognizer.map .text
  | .localTimezone => env.localTimezone.map fun text => .bool (saysYes text)
  | .logLevel => env.logLevel.map .text
  | .debugMode => if env.debugMode.any saysYes then some (.text "DEBUG") else none

/-- What is set at the place that a variable is aimed at. Debug mode goes before a level that is
named. -/
def setting? (env : Environment) : Variable → Option Value
  | .logLevel | .debugMode => (env.value? .debugMode).or (env.value? .logLevel)
  | v => env.value? v

/-- What the last of some variables sets at a path. -/
def assigned? (env : Environment) (path : List String) : List Variable → Option Value
  | [] => none
  | v :: rest => (assigned? env path rest).or (settingAt v.path (env.value? v) path)

theorem assigned?_eq_none {env : Environment} {path : List String} {given : List Variable}
    (h : ∀ v ∈ given, v.path ≠ path) : env.assigned? path given = none := by
  induction given with
  | nil => rfl
  | cons v rest ih =>
    rw [List.forall_mem_cons] at h
    rw [assigned?, ih h.2, settingAt_of_ne h.1, Option.none_or]

theorem exists_of_assigned?_eq_some {env : Environment} {path : List String} {given : List Variable}
    {value : Value} (h : env.assigned? path given = some value) : ∃ v ∈ given, v.path = path := by
  by_contra hnone
  rw [assigned?_eq_none fun v hv hpath => hnone ⟨v, hv, hpath⟩] at h
  cases h

theorem assigned?_all (env : Environment) (v : Variable) :
    env.assigned? v.path Variable.all = env.setting? v := by
  cases v <;>
    simp [assigned?, settingAt, setting?, Variable.all, Variable.path, Variable.sectionName, Variable.key]

end Environment

namespace Adjusted

/-- One variable on top of what was set before. -/
def apply (env : Environment) (a : Adjusted) (v : Variable) : Except ConfigError Adjusted :=
  match v with
  | .debugMode => a.setDebug env.debugMode
  | v => .ok (a.setIfGiven v.sectionName v.key (env.value? v))

end Adjusted

theorem Config.applyEnvironment_eq (config : Config) (env : Environment) :
    config.applyEnvironment env = Variable.all.foldlM (Adjusted.apply env) ⟨config, 0⟩ :=
  -- the fold hands the last result on once more
  (bind_pure (config.applyEnvironment env)).symm

namespace Adjusted

/-- The level that turning debug mode off looks up is missing only from a section that refuses it, and
setting it changes nothing. -/
theorem level?_cases {a : Adjusted} (h : a.config.HasLevel) :
    (a.level? = .ok none ∧ a.config.refuses "logging" = true) ∨
    ∃ level, a.level? = .ok (some level) ∧ a.config.refuses "logging" = false ∧
      a.set "logging" "level" level = a := by
  obtain ⟨value, hvalue, hlevel⟩ := h
  by_cases hmapping : value.IsMapping
  · obtain ⟨entries, rfl⟩ := hmapping
    obtain ⟨level, hlookup⟩ := exists_lookup?_iff.2 (hlevel entries rfl)
    refine .inr ⟨level, by simp [level?, hvalue, hlookup], by simp [Config.refuses, hvalue], ?_⟩
    simp only [set, hvalue, setKey_of_lookup? hlookup, setKey_of_lookup? hvalue]
  · refine .inl ⟨?_, Config.refuses_of_not_isMapping hvalue hmapping⟩
    rw [level?, hvalue]
    cases value with
    | mapping entries => exact absurd ⟨entries, rfl⟩ hmapping
    | _ => rfl

theorem setIfGiven_spec (a : Adjusted) (sectionName key : String) (value : Option Value) :
    a.config.SetBy (settingAt [sectionName, key] value) (a.setIfGiven sectionName key value).config ∧
    (a.setIfGiven sectionName key value).warnings =
      a.warnings + (value.isSome && a.config.refuses sectionName).toNat := by
  cases value with
  | none =>
    rw [settingAt_none]
    exact ⟨.refl a.config, rfl⟩
  | some value =>
    rw [Option.isSome_some, Bool.true_and]
    exact a.set_spec sectionName key value

theorem setDebug_spec {a : Adjusted} (h : a.config.HasLevel) (debugMode : Option String) :
    ∃ after, a.setDebug debugMode = .ok after ∧
      a.config.SetBy (settingAt ["logging", "level"]
        (if debugMode.any saysYes then some (.text "DEBUG") else none)) after.config ∧
      after.warnings = a.warnings + (debugMode.isSome && a.config.refuses "logging").toNat := by
  cases debugMode with
  | none => exact ⟨a, rfl, by simpa [settingAt_none] using .refl a.config, rfl⟩
  | some text =>
    rw [Option.any_some, Option.isSome_some, Bool.true_and]
    by_cases hyes : saysYes text = true
    · rw [if_pos hyes]
      exact ⟨_, by rw [setDebug, if_pos hyes], a.set_spec "logging" "level" (.text "DEBUG")⟩
    · rw [if_neg hyes, settingAt_none]
      rcases level?_cases h with ⟨hlevel, hrefuses⟩ | ⟨level, hlevel, hrefuses, hsame⟩
      · refine ⟨a.warn, by rw [setDebug, if_neg hyes, hlevel], .refl a.config, ?_⟩
        rw [hrefuses]
        rfl
      · refine ⟨a, ?_, .refl a.config, by rw [hrefuses]; rfl⟩
        rw [setDebug, if_neg hyes, hlevel]
        exact congrArg Except.ok hsame

theorem apply_of_ne {v : Variable} (h : v ≠ .debugMode) (a : Adjusted) (env : Environment) :
    a.apply env v = .ok (a.setIfGiven v.sectionName v.key (env.value? v)) ∧
      (env.value? v).isSome = (env.text? v).isSome := by
  cases v <;> simp [apply, Environment.value?, Environment.text?] at h ⊢

/-- What one variable does where there is a level: it is not refused with an error, what it sets is set,
and it is passed over with a warning just if its section refuses it. -/
theorem apply_spec {a : Adjusted} (h : a.config.HasLevel) (env : Environment) (v : Variable) :
    ∃ after, a.apply env v = .ok after ∧
      a.config.SetBy (settingAt v.path (env.value? v)) after.config ∧
      after.warnings =
        a.warnings + ((env.text? v).isSome && a.config.refuses v.sectionName).toNat := by
  by_cases hv : v = .debugMode
  · subst hv
    exact setDebug_spec h env.debugMode
  · obtain ⟨happly, hsome⟩ := apply_of_ne hv a env
    refine ⟨_, happly, ?_⟩
    rw [← hsome]
    exact a.setIfGiven_spec v.sectionName v.key (env.value? v)

theorem run_spec {a : Adjusted} (h : a.config.HasLevel) (env : Environment) (given : List Variable) :
    ∃ after, given.foldlM (apply env) a = .ok after ∧
      a.config.SetBy (env.assigned? · given) after.config ∧
      after.warnings = a.warnings +
        given.countP fun v => (env.text? v).isSome && a.config.refuses v.sectionName := by
  induction given generalizing a with
  | nil => exact ⟨a, rfl, .refl a.config, rfl⟩
  | cons v rest ih =>
    obtain ⟨next, happly, hset, hwarned⟩ := apply_spec h env v
    obtain ⟨after, hrun, hrest, hwarnedRest⟩ := ih (h.of_keptBy hset.keptBy)
    refine ⟨after, by rw [List.foldlM_cons, happly]; exact hrun, hset.trans hrest, ?_⟩
    -- the sections that refuse a variable are those that did so from the start
    simp only [hset.refuses_eq] at hwarnedRest
    rw [hwarnedRest, hwarned, List.countP_cons]
    cases (env.text? v).isSome && a.config.refuses v.sectionName with
    | false => simp
    | true =>
      simp
      omega

end Adjusted

namespace Config

/-- What the whole environment does: no variable is refused with an error where there is a level. -/
theorem applyEnvironment_spec {config : Config} (h : config.HasLevel) (env : Environment) :
    ∃ after, config.applyEnvironment env = .ok after ∧
      config.SetBy (env.assigned? · Variable.all) after.config ∧
      after.warnings =
        Variable.all.countP fun v => (env.text? v).isSome && config.refuses v.sectionName := by
  have hlevel : (Adjusted.mk config 0).config.HasLevel := h
  obtain ⟨after, hrun, hset, hwarnings⟩ := Adjusted.run_spec hlevel env Variable.all
  exact ⟨after, (config.applyEnvironment_eq env).trans hrun, hset, by rw [hwarnings, Nat.zero_add]⟩

theorem exists_applyEnvironment {config : Config} (h : config.HasLevel) (env : Environment) :
    ∃ after, config.applyEnvironment env = .ok after ∧ config.KeptBy after.config := by
  obtain ⟨after, happly, hset, -⟩ := applyEnvironment_spec h env
  exact ⟨after, happly, hset.keptBy⟩

end Config

end VersionStamp
