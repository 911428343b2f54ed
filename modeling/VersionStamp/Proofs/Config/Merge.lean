import Mathlib.Data.List.Nodup
import VersionStamp.Config.Merge

/-! What settings hold after they were put over defaults. A key that is given has its own value, merged
with the default where both are mappings; a key that is not given has the default. -/

namespace VersionStamp

/-- The keys of entries, in their order. -/
def keysOf (entries : List (String × Value)) : List String := entries.map (·.1)

@[simp] theorem keysOf_nil : keysOf [] = [] := rfl

@[simp] theorem keysOf_cons (key : String) (value : Value) (entries : List (String × Value)) :
    keysOf ((key, value) :: entries) = key :: keysOf entries := rfl

theorem lookup?_eq_none_iff {key : String} {entries : List (String × Value)} :
    lookup? key entries = none ↔ key ∉ keysOf entries := by
  induction entries with
  | nil => simp [lookup?]
  | cons entry entries ih =>
    obtain ⟨k, value⟩ := entry
    by_cases h : k = key
    · simp [lookup?, h]
    · simp [lookup?, h, ih, Ne.symm h]

theorem exists_lookup?_iff {key : String} {entries : List (String × Value)} :
    (∃ value, lookup? key entries = some value) ↔ key ∈ keysOf entries := by
  rw [← Option.isSome_iff_exists, ← not_iff_not, Bool.not_eq_true, Option.isSome_eq_false_iff,
    Option.isNone_iff_eq_none, lookup?_eq_none_iff]

theorem lookup?_setKey (key other : String) (value : Value) (entries : List (String × Value)) :
    lookup? other (setKey key value entries) =
      if other = key then some value else lookup? other entries := by
  split
  · rename_i h
    rw [h, lookup?_setKey_self]
  · rename_i h
    exact lookup?_setKey_of_ne value entries h

theorem keysOf_setKey (key : String) (value : Value) (entries : List (String × Value)) :
    keysOf (setKey key value entries) =
      if key ∈ keysOf entries then keysOf entries else keysOf entries ++ [key] := by
  induction entries with
  | nil => simp [setKey]
  | cons entry entries ih =>
    obtain ⟨k, v⟩ := entry
    by_cases hk : k = key
    · simp [setKey, hk]
    · rw [setKey, if_neg hk, keysOf_cons, ih]
      by_cases hmem : key ∈ keysOf entries <;> simp [hmem, Ne.symm hk]

theorem mem_keysOf_setKey {key other : String} {value : Value} {entries : List (String × Value)} :
    other ∈ keysOf (setKey key value entries) ↔ other = key ∨ other ∈ keysOf entries := by
  rw [keysOf_setKey]
  split
  · rename_i h
    exact (or_iff_right_of_imp fun heq => heq ▸ h).symm
  · rw [List.mem_append, List.mem_singleton, or_comm]

theorem nodup_keysOf_setKey {key : String} {value : Value} {entries : List (String × Value)}
    (h : (keysOf entries).Nodup) : (keysOf (setKey key value entries)).Nodup := by
  rw [keysOf_setKey]
  split
  · exact h
  · rename_i hkey
    exact List.nodup_append_comm.1 (List.nodup_cons.2 ⟨hkey, h⟩)

theorem setKey_of_lookup? {key : String} {value : Value} {entries : List (String × Value)}
    (h : lookup? key entries = some value) : setKey key value entries = entries := by
  induction entries with
  | nil => cases h
  | cons entry entries ih =>
    obtain ⟨k, v⟩ := entry
    by_cases hk : k = key
    · rw [lookup?, if_pos hk] at h
      rw [setKey, if_pos hk, Option.some.inj h, hk]
    · rw [lookup?, if_neg hk] at h
      rw [setKey, if_neg hk, ih h]

theorem mem_of_lookup?_eq_some {key : String} {value : Value} {entries : List (String × Value)}
    (h : lookup? key entries = some value) : (key, value) ∈ entries := by
  induction entries with
  | nil => cases h
  | cons entry entries ih =>
    obtain ⟨k, v⟩ := entry
    by_cases hk : k = key
    · rw [lookup?, if_pos hk] at h
      rw [hk, Option.some.inj h]
      exact List.mem_cons_self
    · rw [lookup?, if_neg hk] at h
      exact List.mem_cons_of_mem _ (ih h)

/-- Entries are determined by their keys and by what is looked up. -/
theorem eq_of_lookup?_eq {entries others : List (String × Value)} (hnodup : (keysOf entries).Nodup)
    (hkeys : keysOf entries = keysOf others)
    (hlookup : ∀ key, lookup? key entries = lookup? key others) : entries = others := by
  induction entries generalizing others with
  | nil =>
    cases others with
    | nil => rfl
    | cons other others => cases hkeys
  | cons entry entries ih =>
    cases others with
    | nil => cases hkeys
    | cons other others =>
      obtain ⟨k, v⟩ := entry
      obtain ⟨k', v'⟩ := other
      simp only [keysOf_cons, List.cons.injEq] at hkeys
      obtain ⟨rfl, hkeys⟩ := hkeys
      rw [keysOf_cons, List.nodup_cons] at hnodup
      have hv : v = v' := by simpa [lookup?] using hlookup k
      have hrest (key : String) : lookup? key entries = lookup? key others := by
        by_cases hk : k = key
        · subst hk
          rw [lookup?_eq_none_iff.2 hnodup.1, lookup?_eq_none_iff.2 (hkeys ▸ hnodup.1)]
        · simpa [lookup?, hk] using hlookup key
      rw [hv, ih hnodup.2 hkeys hrest]

def Value.IsMapping (value : Value) : Prop := ∃ entries, value = .mapping entries

instance : DecidablePred Value.IsMapping
  | .mapping entries => isTrue ⟨entries, rfl⟩
  | .null | .bool _ | .int _ | .float _ | .text _ | .date _ | .list _ =>
    isFalse (by rintro ⟨_, ⟨⟩⟩)

namespace Config

theorem mergeValue_mapping (entries defaults : Config) :
    mergeValue (.mapping entries) (some (.mapping defaults)) = .mapping (merge entries defaults) := by
  rw [mergeValue]

theorem mergeValue_of_not_isMapping {value : Value} (h : ¬value.IsMapping) (default : Option Value) :
    mergeValue value default = value := by
  cases value with
  | mapping entries => exact absurd ⟨entries, rfl⟩ h
  | _ => simp [mergeValue]

/-- Where the default is no mapping, or there is none, what is given stands as it is. -/
theorem mergeValue_of_default_not_isMapping (value : Value) {default : Option Value}
    (h : ∀ usual, default = some usual → ¬usual.IsMapping) : mergeValue value default = value := by
  by_cases hvalue : value.IsMapping
  · obtain ⟨entries, rfl⟩ := hvalue
    cases default with
    | none => simp [mergeValue]
    | some usual =>
      cases usual with
      | mapping defaults => exact absurd ⟨defaults, rfl⟩ (h _ rfl)
      | _ => simp [mergeValue]
  · exact mergeValue_of_not_isMapping hvalue default

theorem mergeValue_none (value : Value) : mergeValue value none = value :=
  mergeValue_of_default_not_isMapping value fun _ h => by cases h

theorem isMapping_mergeValue_iff {value : Value} {default : Option Value} :
    (mergeValue value default).IsMapping ↔ value.IsMapping := by
  by_cases hvalue : value.IsMapping
  · refine iff_of_true ?_ hvalue
    obtain ⟨entries, rfl⟩ := hvalue
    rw [mergeValue.eq_def]
    split
    · exact ⟨_, rfl⟩
    · exact ⟨entries, rfl⟩
  · rw [mergeValue_of_not_isMapping hvalue]

theorem lookup?_merge {entries : Config} (h : (keysOf entries).Nodup) (defaults : Config)
    (key : String) :
    lookup? key (merge entries defaults) =
      match lookup? key entries with
      | none => lookup? key defaults
      | some value => some (mergeValue value (lookup? key defaults)) := by
  induction entries generalizing defaults with
  | nil => simp [merge, lookup?]
  | cons entry entries ih =>
    obtain ⟨k, v⟩ := entry
    rw [keysOf_cons, List.nodup_cons] at h
    rw [merge, ih h.2, lookup?_setKey]
    by_cases hk : k = key
    · subst hk
      simp [lookup?, lookup?_eq_none_iff.2 h.1]
    · simp [lookup?, hk, Ne.symm hk]

theorem mem_keysOf_merge {entries defaults : Config} {key : String} :
    key ∈ keysOf (merge entries defaults) ↔ key ∈ keysOf entries ∨ key ∈ keysOf defaults := by
  induction entries generalizing defaults with
  | nil => simp [merge]
  | cons entry entries ih =>
    obtain ⟨k, v⟩ := entry
    rw [merge, ih, mem_keysOf_setKey, keysOf_cons, List.mem_cons]
    tauto

/-- After merging, the keys with a default come first, and then the others that are given. -/
theorem keysOf_merge {entries : Config} (h : (keysOf entries).Nodup) (defaults : Config) :
    keysOf (merge entries defaults) =
      keysOf defaults ++ (keysOf entries).filter (· ∉ keysOf defaults) := by
  induction entries generalizing defaults with
  | nil => simp [merge]
  | cons entry entries ih =>
    obtain ⟨k, v⟩ := entry
    rw [keysOf_cons, List.nodup_cons] at h
    rw [merge, ih h.2, keysOf_setKey, keysOf_cons]
    by_cases hk : k ∈ keysOf defaults
    · simp [hk]
    · have hrest : (keysOf entries).filter (· ∉ keysOf defaults ++ [k]) =
          (keysOf entries).filter (· ∉ keysOf defaults) := by
        refine List.filter_congr fun key hkey => ?_
        have hne : key ≠ k := fun heq => h.1 (heq ▸ hkey)
        simp [hne]
      simp only [if_neg hk, hrest]
      simp [hk]

theorem nodup_keysOf_merge (entries : Config) {defaults : Config} (h : (keysOf defaults).Nodup) :
    (keysOf (merge entries defaults)).Nodup := by
  induction entries generalizing defaults with
  | nil => simpa [merge] using h
  | cons entry entries ih =>
    obtain ⟨k, v⟩ := entry
    rw [merge]
    exact ih (nodup_keysOf_setKey h)

/-- Entries that begin with the keys of the defaults, and whose values merging does not change, are
what they are after merging. -/
theorem merge_eq_self {entries defaults : Config} (h : (keysOf entries).Nodup) {others : List String}
    (hkeys : keysOf entries = keysOf defaults ++ others)
    (hvalues : ∀ key value, lookup? key entries = some value →
      mergeValue value (lookup? key defaults) = value) : merge entries defaults = entries := by
  have hsame : keysOf entries = keysOf (merge entries defaults) := by
    have hothers : ∀ key ∈ others, key ∉ keysOf defaults := by
      intro key hkey hmem
      rw [hkeys] at h
      exact (List.nodup_append.1 h).2.2 key hmem key hkey rfl
    rw [keysOf_merge h, hkeys, List.filter_append,
      List.filter_eq_nil_iff.2 (by simp), List.nil_append,
      List.filter_eq_self.2 (by simpa using hothers)]
  refine (eq_of_lookup?_eq h hsame fun key => ?_).symm
  rw [lookup?_merge h]
  cases hvalue : lookup? key entries with
  | none =>
    have hkey : key ∉ keysOf defaults := fun hmem =>
      lookup?_eq_none_iff.1 hvalue (hkeys ▸ List.mem_append_left others hmem)
    exact (lookup?_eq_none_iff.2 hkey).symm
  | some value => exact congrArg some (hvalues key value hvalue).symm

end Config

end VersionStamp
