import VersionStamp.Config.Overrides
import VersionStamp.Proofs.Config.Merge

/-! Setting a key of a section. The key has the new value, and everything else what it had. A section that
is no mapping is not touched, and a mapping keeps all of its keys, so a section stays what it is, usable
or not. -/

namespace VersionStamp

/-- A mapping may have become one with more keys or other values; anything else is the same. -/
def Value.KeptBy : Value → Value → Prop
  | .mapping entries, after =>
    ∃ entries', after = .mapping entries' ∧ ∀ key ∈ keysOf entries, key ∈ keysOf entries'
  | before, after => after = before

theorem Value.KeptBy.refl (value : Value) : value.KeptBy value := by
  cases value with
  | mapping entries => exact ⟨entries, rfl, fun _ => id⟩
  | _ => rfl

theorem Value.KeptBy.eq_of_not_isMapping {before after : Value} (h : before.KeptBy after)
    (hnot : ¬before.IsMapping) : after = before := by
  cases before with
  | mapping entries => exact absurd ⟨entries, rfl⟩ hnot
  | _ => exact h

namespace Config

/-- Every section is still there, with its keys. -/
def KeptBy (before after : Config) : Prop :=
  ∀ name value, lookup? name before = some value →
    ∃ value', lookup? name after = some value' ∧ value.KeptBy value'

/-- The section for logging is there, and has a level if it is a mapping. -/
def HasLevel (config : Config) : Prop :=
  ∃ value, lookup? "logging" config = some value ∧
    ∀ entries, value = .mapping entries → "level" ∈ keysOf entries

theorem HasLevel.of_keptBy {before after : Config} (h : before.HasLevel) (hkept : before.KeptBy after) :
    after.HasLevel := by
  rcases h with ⟨value, hvalue, hlevel⟩
  rcases hkept "logging" value hvalue with ⟨value', hvalue', hkeeps⟩
  refine ⟨value', hvalue', ?_⟩
  rintro entries' rfl
  cases value with
  | mapping entries =>
    rcases hkeeps with ⟨_, ⟨⟩, hsub⟩
    exact hsub "level" (hlevel entries rfl)
  | _ => cases hkeeps

end Config

/-- One setting at a path and no other. -/
def settingAt (path : List String) (value : Option Value) (other : List String) : Option Value :=
  if path = other then value else none

theorem settingAt_self (path : List String) (value : Option Value) :
    settingAt path value path = value := if_pos rfl

theorem settingAt_of_ne {path other : List String} (h : path ≠ other) (value : Option Value) :
    settingAt path value other = none := if_neg h

theorem settingAt_none (path : List String) : settingAt path none = fun _ => none := by
  funext other
  simp [settingAt]

namespace Config

/-- The section is there and is no mapping. -/
def refuses (config : Config) (name : String) : Bool :=
  match lookup? name config with
  | none | some (.mapping _) => false
  | some _ => true

theorem refuses_of_not_isMapping {config : Config} {name : String} {value : Value}
    (h : lookup? name config = some value) (hnot : ¬value.IsMapping) : config.refuses name = true := by
  rw [refuses, h]
  cases value with
  | mapping entries => exact absurd ⟨entries, rfl⟩ hnot
  | _ => rfl

/-- The keys of sections that are mappings have what is set for them, and else what they had. Every
other section is the same. -/
structure SetBy (settings : List String → Option Value) (before after : Config) : Prop where
  other : ∀ name, (∀ key, settings [name, key] = none) → lookup? name after = lookup? name before
  refused : ∀ name value, lookup? name before = some value → ¬value.IsMapping →
    lookup? name after = some value
  entries : ∀ name entries, lookup? name before = some (.mapping entries) →
    ∃ entries', lookup? name after = some (.mapping entries') ∧
      ∀ key, lookup? key entries' = (settings [name, key]).or (lookup? key entries)
  refuses_eq : ∀ name, after.refuses name = before.refuses name

theorem SetBy.refl (config : Config) : config.SetBy (fun _ => none) config where
  other _ _ := rfl
  refused _ _ h _ := h
  entries _ entries h := ⟨entries, h, fun _ => (Option.none_or).symm⟩
  refuses_eq _ := rfl

theorem SetBy.trans {earlier later : List String → Option Value} {a b c : Config}
    (hab : a.SetBy earlier b) (hbc : b.SetBy later c) :
    a.SetBy (fun path => (later path).or (earlier path)) c where
  other name h := by
    simp only [Option.or_eq_none_iff] at h
    rw [hbc.other name fun key => (h key).1, hab.other name fun key => (h key).2]
  refused name value h hnot := hbc.refused name value (hab.refused name value h hnot) hnot
  entries name entries h := by
    obtain ⟨entries', h', hset⟩ := hab.entries name entries h
    obtain ⟨entries'', h'', hset'⟩ := hbc.entries name entries' h'
    exact ⟨entries'', h'', fun key => by rw [hset', hset, Option.or_assoc]⟩
  refuses_eq name := by rw [hbc.refuses_eq, hab.refuses_eq]

theorem SetBy.keptBy {settings : List String → Option Value} {before after : Config}
    (h : before.SetBy settings after) : before.KeptBy after := by
  intro name value hvalue
  by_cases hmapping : value.IsMapping
  · obtain ⟨entries, rfl⟩ := hmapping
    obtain ⟨entries', hafter, hset⟩ := h.entries name entries hvalue
    refine ⟨_, hafter, entries', rfl, fun key hkey => ?_⟩
    obtain ⟨held, hheld⟩ := exists_lookup?_iff.2 hkey
    rw [← exists_lookup?_iff, ← Option.isSome_iff_exists, hset, hheld]
    simp
  · exact ⟨value, h.refused name value hvalue hmapping, .refl value⟩

theorem setBy_setKey {config entries' : Config} {sectionName key : String} {value : Value}
    (h : ∀ held, lookup? sectionName config = some held →
      ∃ entries, held = .mapping entries ∧ entries' = setKey key value entries) :
    config.SetBy (settingAt [sectionName, key] (some value))
      (setKey sectionName (.mapping entries') config) where
  other name hnone := by
    refine lookup?_setKey_of_ne _ config fun hname => ?_
    have hself := hnone key
    rw [hname, settingAt_self] at hself
    cases hself
  refused name held hheld hnot := by
    rw [lookup?_setKey, if_neg, hheld]
    rintro rfl
    obtain ⟨entries, rfl, -⟩ := h held hheld
    exact hnot ⟨entries, rfl⟩
  entries name entries hentries := by
    by_cases hname : name = sectionName
    · subst hname
      obtain ⟨_, ⟨⟩, rfl⟩ := h _ hentries
      refine ⟨_, lookup?_setKey_self name _ config, fun other => ?_⟩
      rw [lookup?_setKey]
      split
      · rename_i hother
        rw [hother, settingAt_self, Option.some_or]
      · rename_i hother
        rw [settingAt_of_ne (by simpa using Ne.symm hother), Option.none_or]
    · refine ⟨entries, by rw [lookup?_setKey_of_ne _ config hname, hentries], fun other => ?_⟩
      rw [settingAt_of_ne (by simp [Ne.symm hname]), Option.none_or]
  refuses_eq name := by
    by_cases hname : name = sectionName
    · rw [refuses, refuses, hname, lookup?_setKey_self]
      cases hheld : lookup? sectionName config with
      | none => rfl
      | some held =>
        obtain ⟨entries, rfl, -⟩ := h held hheld
        rfl
    · rw [refuses, refuses, lookup?_setKey_of_ne _ config hname]

/-- A section that refuses its settings is the same as before, and so is everything else. -/
theorem setBy_of_refuses {config : Config} {sectionName : String} (h : config.refuses sectionName = true)
    (key : String) (value : Option Value) :
    config.SetBy (settingAt [sectionName, key] value) config where
  other _ _ := rfl
  refused _ _ hheld _ := hheld
  entries name entries hentries := by
    refine ⟨entries, hentries, fun other => ?_⟩
    rw [settingAt_of_ne, Option.none_or]
    rintro ⟨⟩
    rw [refuses, hentries] at h
    cases h
  refuses_eq _ := rfl

end Config

namespace Adjusted

/-- Setting a key takes effect, or the section refuses it with a warning. -/
theorem set_spec (a : Adjusted) (sectionName key : String) (value : Value) :
    a.config.SetBy (settingAt [sectionName, key] (some value)) (a.set sectionName key value).config ∧
    (a.set sectionName key value).warnings =
      a.warnings + (a.config.refuses sectionName).toNat := by
  rw [set]
  split
  · rename_i hnone
    refine ⟨Config.setBy_setKey fun held hheld => ?_, by simp [Config.refuses, hnone]⟩
    rw [hnone] at hheld
    cases hheld
  · rename_i entries hentries
    refine ⟨Config.setBy_setKey fun held hheld => ?_, by simp [Config.refuses, hentries]⟩
    exact ⟨entries, Option.some.inj (hheld.symm.trans hentries), rfl⟩
  · rename_i held hnot hheld
    have hother : ¬held.IsMapping := by
      rintro ⟨entries, rfl⟩
      exact hnot entries rfl
    have hrefuses := Config.refuses_of_not_isMapping hheld hother
    exact ⟨Config.setBy_of_refuses hrefuses key _, by simp [warn, hrefuses]⟩

theorem keptBy_set (a : Adjusted) (sectionName key : String) (value : Value) :
    a.config.KeptBy (a.set sectionName key value).config :=
  (a.set_spec sectionName key value).1.keptBy

end Adjusted

end VersionStamp
