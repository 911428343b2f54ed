import VersionStamp.Proofs.Config.Merge

/-! Settings by their paths. A path leads through mappings from key to key. What is given at a path
stands there after merging; a default fills in where nothing that is given lies at its path or in its
way; nothing else comes up; and defaults that were filled in once are not changed by filling them in
again. -/

namespace VersionStamp

namespace Value

/-- What lies at the end of a path through mappings. -/
def get? : Value → List String → Option Value
  | value, [] => some value
  | .mapping entries, key :: path => (lookup? key entries).bind (·.get? path)
  | _, _ :: _ => none

@[simp] theorem get?_nil (value : Value) : value.get? [] = some value := by
  rw [get?]

theorem get?_mapping (entries : List (String × Value)) (key : String) (path : List String) :
    (mapping entries).get? (key :: path) = (lookup? key entries).bind (·.get? path) := by
  rw [get?]

theorem get?_of_not_isMapping {value : Value} (h : ¬value.IsMapping) (key : String)
    (path : List String) : value.get? (key :: path) = none := by
  cases value with
  | mapping entries => exact absurd ⟨entries, rfl⟩ h
  | _ => rfl

theorem get?_append (value : Value) (start rest : List String) :
    value.get? (start ++ rest) = (value.get? start).bind (·.get? rest) := by
  induction start generalizing value with
  | nil => simp
  | cons key start ih =>
    by_cases h : value.IsMapping
    · obtain ⟨entries, rfl⟩ := h
      rw [List.cons_append, get?_mapping, get?_mapping, Option.bind_assoc]
      exact congrArg (lookup? key entries).bind (funext ih)
    · rw [List.cons_append, get?_of_not_isMapping h, get?_of_not_isMapping h, Option.bind_none]

/-- Nothing but mappings lies on the way along a path. -/
def Admits (value : Value) (path : List String) : Prop :=
  ∀ start found, start <+: path → start ≠ path → value.get? start = some found → found.IsMapping

theorem get?_eq_none_of_not_admits {value : Value} {path : List String} (h : ¬value.Admits path) :
    value.get? path = none := by
  simp only [Admits, not_forall] at h
  obtain ⟨start, found, ⟨rest, rfl⟩, hne, hfound, hnot⟩ := h
  cases rest with
  | nil => exact absurd (List.append_nil start).symm hne
  | cons key rest => rw [get?_append, hfound, Option.bind_some, get?_of_not_isMapping hnot]

theorem Admits.isMapping {value : Value} {key : String} {path : List String}
    (h : value.Admits (key :: path)) : value.IsMapping :=
  h [] value List.nil_prefix (List.cons_ne_nil key path).symm (get?_nil value)

theorem Admits.tail {entries : List (String × Value)} {key : String} {path : List String}
    {value : Value} (h : (mapping entries).Admits (key :: path))
    (hvalue : lookup? key entries = some value) : value.Admits path := by
  intro start found hstart hne hfound
  refine h (key :: start) found (List.cons_prefix_cons.2 ⟨rfl, hstart⟩) (by simpa using hne) ?_
  rw [get?_mapping, hvalue, Option.bind_some, hfound]

/-- Every mapping along any path has each of its keys once. -/
inductive DistinctKeys : Value → Prop
  | mapping {entries : List (String × Value)} (nodup : (keysOf entries).Nodup)
      (values : ∀ key value, lookup? key entries = some value → DistinctKeys value) :
      DistinctKeys (mapping entries)
  | other {value : Value} (h : ¬value.IsMapping) : DistinctKeys value

theorem DistinctKeys.of_mem {entries : List (String × Value)} (h : (keysOf entries).Nodup)
    (hvalues : ∀ entry ∈ entries, entry.2.DistinctKeys) : (Value.mapping entries).DistinctKeys :=
  .mapping h fun _ _ hlookup => hvalues _ (mem_of_lookup?_eq_some hlookup)

theorem DistinctKeys.of_flat {entries : List (String × Value)} (h : (keysOf entries).Nodup)
    (hflat : ∀ entry ∈ entries, ¬entry.2.IsMapping) : (Value.mapping entries).DistinctKeys :=
  .of_mem h fun entry hentry => .other (hflat entry hentry)

end Value

namespace Config

/-- The setting at the end of a path. -/
def get? (config : Config) (path : List String) : Option Value := (Value.mapping config).get? path

theorem get?_cons (config : Config) (name : String) (path : List String) :
    config.get? (name :: path) = (lookup? name config).bind (·.get? path) :=
  Value.get?_mapping config name path

theorem get?_section (config : Config) (name : String) : config.get? [name] = lookup? name config := by
  rw [get?_cons]
  cases lookup? name config with
  | none => rfl
  | some held => exact held.get?_nil

theorem get?_setting {config entries : Config} {name : String}
    (h : lookup? name config = some (.mapping entries)) (key : String) :
    config.get? [name, key] = lookup? key entries := by
  rw [get?_cons, h]
  exact get?_section entries key

/-- One step along a path: a key that is not given leads on in the default, and one that is given leads
on in what is given, merged with what the default has for that key. -/
theorem get?_mergeValue_cons {entries : Config} (h : (keysOf entries).Nodup) (default : Option Value)
    (key : String) (path : List String) :
    (mergeValue (.mapping entries) default).get? (key :: path) =
      match lookup? key entries with
      | none => default.bind (·.get? (key :: path))
      | some given => (mergeValue given (default.bind (·.get? [key]))).get? path := by
  by_cases hplain : ∀ usual, default = some usual → ¬usual.IsMapping
  · have hnone (rest : List String) : default.bind (·.get? (key :: rest)) = none := by
      cases default with
      | none => rfl
      | some usual => exact Value.get?_of_not_isMapping (hplain usual rfl) key rest
    rw [mergeValue_of_default_not_isMapping _ hplain, Value.get?_mapping, hnone, hnone]
    cases lookup? key entries with
    | none => rfl
    | some given => exact congrArg (·.get? path) (mergeValue_none given).symm
  · simp only [not_forall, not_not] at hplain
    obtain ⟨_, rfl, defaults, rfl⟩ := hplain
    rw [mergeValue_mapping, Value.get?_mapping, lookup?_merge h]
    cases lookup? key entries with
    | none => rfl
    | some given => simp [Value.get?_mapping]

theorem get?_default_cons (default : Option Value) (key : String) (path : List String) :
    (default.bind (·.get? [key])).bind (·.get? path) = default.bind (·.get? (key :: path)) := by
  rw [Option.bind_assoc]
  exact congrArg default.bind (funext fun usual => (usual.get?_append [key] path).symm)

section

variable {value : Value} {path : List String}

/-- What is given at a path lies there after merging, over the default at that path. -/
theorem get?_mergeValue_of_given (hvalue : value.DistinctKeys) {found : Value}
    (h : value.get? path = some found) (default : Option Value) :
    (mergeValue value default).get? path =
      some (mergeValue found (default.bind (·.get? path))) := by
  -- the default goes along the path with the value, so both are open in the induction
  induction path generalizing value default with
  | nil =>
    cases h
    simp
  | cons key path ih =>
    cases hvalue with
    | other hnot =>
      rw [Value.get?_of_not_isMapping hnot] at h
      cases h
    | mapping nodup values =>
      rw [Value.get?_mapping] at h
      obtain ⟨given, hgiven, h⟩ := Option.bind_eq_some_iff.1 h
      rw [get?_mergeValue_cons nodup, hgiven, ← get?_default_cons]
      exact ih (values key given hgiven) h (default.bind (·.get? [key]))

theorem get?_mergeValue_of_left_out (hvalue : value.DistinctKeys) (h : value.get? path = none)
    (hadmits : value.Admits path) (default : Option Value) :
    (mergeValue value default).get? path = default.bind (·.get? path) := by
  induction path generalizing value default with
  | nil => cases h
  | cons key path ih =>
    cases hvalue with
    | other hnot => exact absurd hadmits.isMapping hnot
    | mapping nodup values =>
      rw [get?_mergeValue_cons nodup]
      rw [Value.get?_mapping] at h
      split
      · rfl
      · rename_i given hgiven
        rw [hgiven] at h
        rw [ih (values key given hgiven) h (hadmits.tail hgiven), get?_default_cons]

/-- What is no mapping and lies in the way of a path keeps the defaults behind it out. -/
theorem get?_mergeValue_of_not_admits (hvalue : value.DistinctKeys) (h : ¬value.Admits path)
    (default : Option Value) : (mergeValue value default).get? path = none := by
  refine Value.get?_eq_none_of_not_admits fun hadmits => h ?_
  intro start found hstart hne hfound
  exact isMapping_mergeValue_iff.1
    (hadmits start _ hstart hne (get?_mergeValue_of_given hvalue hfound default))

/-- What lies at a path after merging lies there in what is given or in the default, and it is the same
unless both are mappings. -/
theorem get?_of_get?_mergeValue (hvalue : value.DistinctKeys) {default : Option Value} {found : Value}
    (h : (mergeValue value default).get? path = some found) :
    (∃ given, value.get? path = some given ∧
      found = mergeValue given (default.bind (·.get? path))) ∨
    default.bind (·.get? path) = some found := by
  by_cases hadmits : value.Admits path
  · cases hgiven : value.get? path with
    | none =>
      rw [get?_mergeValue_of_left_out hvalue hgiven hadmits] at h
      exact .inr h
    | some given =>
      rw [get?_mergeValue_of_given hvalue hgiven] at h
      exact .inl ⟨given, rfl, (Option.some.inj h).symm⟩
  · rw [get?_mergeValue_of_not_admits hvalue hadmits] at h
    cases h

end

theorem mergeValue_self {value : Value} (h : value.DistinctKeys) :
    mergeValue value (some value) = value := by
  induction h with
  | other hnot => exact mergeValue_of_not_isMapping hnot _
  | @mapping entries nodup values ih =>
    rw [mergeValue_mapping]
    refine congrArg Value.mapping (merge_eq_self nodup (List.append_nil _).symm ?_)
    intro key value hvalue
    rw [hvalue]
    exact ih key value hvalue

theorem mergeValue_mergeValue {value : Value} (hvalue : value.DistinctKeys) {default : Option Value}
    (hdefault : ∀ usual, default = some usual → usual.DistinctKeys) :
    mergeValue (mergeValue value default) default = mergeValue value default := by
  induction hvalue generalizing default with
  | other hnot => rw [mergeValue_of_not_isMapping hnot, mergeValue_of_not_isMapping hnot]
  | @mapping entries nodup values ih =>
    by_cases hplain : ∀ usual, default = some usual → ¬usual.IsMapping
    · rw [mergeValue_of_default_not_isMapping _ hplain, mergeValue_of_default_not_isMapping _ hplain]
    · simp only [not_forall, not_not] at hplain
      obtain ⟨_, rfl, defaults, rfl⟩ := hplain
      cases hdefault _ rfl with
      | other hnot => exact absurd ⟨defaults, rfl⟩ hnot
      | mapping hnodup husual =>
        rw [mergeValue_mapping, mergeValue_mapping]
        refine congrArg Value.mapping
          (merge_eq_self (nodup_keysOf_merge entries hnodup) (keysOf_merge nodup defaults) ?_)
        intro key value hlookup
        rw [lookup?_merge nodup] at hlookup
        -- a key that is not given already has its default, the others are merged one level deeper
        cases hgiven : lookup? key entries with
        | none =>
          have husualValue : lookup? key defaults = some value := by rwa [hgiven] at hlookup
          rw [husualValue]
          exact mergeValue_self (husual key value husualValue)
        | some given =>
          rw [hgiven] at hlookup
          obtain rfl := Option.some.inj hlookup
          exact ih key given hgiven (husual key)

theorem distinctKeys_defaults : (Value.mapping defaults).DistinctKeys := by
  refine .of_mem (by decide) fun entry hentry => ?_
  rcases List.mem_pair.1 hentry with rfl | rfl
  · exact .of_flat (by decide) (by decide)
  · exact .of_flat (by decide) (by decide)

/-- The laws of settings that are put over defaults. What is given and is no mapping stands at its path.
A default stands where nothing is given at its path or in its way. Every path comes from what is given
or from the defaults, and so does what lies there if it is no mapping. Putting the result over the same
defaults changes nothing. -/
theorem merge_keeps_and_fills {entries defaults : Config}
    (hentries : (Value.mapping entries).DistinctKeys)
    (hdefaults : (Value.mapping defaults).DistinctKeys) :
    (∀ path value, entries.get? path = some value → ¬value.IsMapping →
      (merge entries defaults).get? path = some value) ∧
    (∀ path value, defaults.get? path = some value → ¬value.IsMapping →
      entries.get? path = none → (Value.mapping entries).Admits path →
      (merge entries defaults).get? path = some value) ∧
    (∀ path value, (merge entries defaults).get? path = some value →
      ((entries.get? path).isSome ∨ (defaults.get? path).isSome) ∧
      (¬value.IsMapping → entries.get? path = some value ∨ defaults.get? path = some value)) ∧
    merge (merge entries defaults) defaults = merge entries defaults := by
  have hmerge (path : List String) : (merge entries defaults).get? path =
      (mergeValue (.mapping entries) (some (.mapping defaults))).get? path := by
    rw [mergeValue_mapping]
    rfl
  refine ⟨fun path value hgiven hnot => ?_, fun path value husual hnot hnone hadmits => ?_,
    fun path value hfound => ?_, ?_⟩
  · rw [hmerge, get?_mergeValue_of_given hentries hgiven, mergeValue_of_not_isMapping hnot]
  · rw [hmerge, get?_mergeValue_of_left_out hentries hnone hadmits]
    exact husual
  · rw [hmerge] at hfound
    rcases get?_of_get?_mergeValue hentries hfound with ⟨given, hgiven, rfl⟩ | husual
    · refine ⟨.inl (Option.isSome_iff_exists.2 ⟨given, hgiven⟩), fun hnot => .inl ?_⟩
      rw [isMapping_mergeValue_iff] at hnot
      rw [mergeValue_of_not_isMapping hnot]
      exact hgiven
    · exact ⟨.inr (Option.isSome_iff_exists.2 ⟨value, husual⟩), fun _ => .inr husual⟩
  · have husual (usual : Value) (h : some (.mapping defaults) = some usual) : usual.DistinctKeys :=
      Option.some.inj h ▸ hdefaults
    simpa only [mergeValue_mapping, Value.mapping.injEq] using mergeValue_mergeValue hentries husual

/-- A text in place of one section, and another section with a key that is set to nothing and a mapping
that has no default: these three stand, and the directory for logging is filled in. -/
theorem merge_keeps_and_fills_sections : ∃ entries : Config,
    (Value.mapping entries).DistinctKeys ∧ (Value.mapping defaults).DistinctKeys ∧
    entries.get? ["logging", "level"] = some .null ∧
    entries.get? ["logging", "logs_dir"] = none ∧
    (merge entries defaults).get? ["version"] = some (.text "2") ∧
    (merge entries defaults).get? ["logging", "level"] = some .null ∧
    (merge entries defaults).get? ["logging", "logs_dir"] = some (.text "logs") ∧
    (merge entries defaults).get? ["logging", "colors", "debug"] = some (.text "grey") ∧
    merge (merge entries defaults) defaults = merge entries defaults := by
  let entries : Config :=
    [("version", .text "2"),
     ("logging", .mapping [("level", .null), ("colors", .mapping [("debug", .text "grey")])])]
  have hentries : (Value.mapping entries).DistinctKeys := by
    refine .of_mem (by decide) fun entry hentry => ?_
    rcases List.mem_pair.1 hentry with rfl | rfl
    · exact .other (by decide)
    · refine .of_mem (by decide) fun entry hentry => ?_
      rcases List.mem_pair.1 hentry with rfl | rfl
      · exact .other (by decide)
      · exact .of_flat (by decide) (by decide)
  have hadmits : (Value.mapping entries).Admits ["logging", "logs_dir"] := by
    intro start found hstart hne hfound
    rcases List.prefix_cons_iff.1 hstart with rfl | ⟨rest, rfl, hrest⟩
    · cases hfound
      exact ⟨entries, rfl⟩
    · rcases List.prefix_cons_iff.1 hrest with rfl | ⟨_, rfl, hend⟩
      · cases hfound
        exact ⟨_, rfl⟩
      · rw [List.prefix_nil.1 hend] at hne
        exact absurd rfl hne
  obtain ⟨hkeeps, hfills, -, hagain⟩ :=
    merge_keeps_and_fills hentries distinctKeys_defaults
  refine ⟨entries, hentries, distinctKeys_defaults, rfl, rfl, ?_, ?_, ?_, ?_, hagain⟩
  · exact hkeeps _ _ rfl (by decide)
  · exact hkeeps _ _ rfl (by decide)
  · exact hfills _ _ rfl (by decide) rfl hadmits
  · exact hkeeps _ _ rfl (by decide)

end Config

end VersionStamp
