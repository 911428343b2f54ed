import VersionStamp.Proofs.Config.Variables

/-! Sections of the settings that can be used. A section of loaded settings is a mapping and holds
everything that has a default, unless the document itself has something else in its place, were it
nothing at all. -/

namespace VersionStamp.Config

theorem mem_keysOf_defaults {name : String} :
    name ∈ keysOf defaults ↔ name = "version" ∨ name = "logging" := by
  simp [defaults]

/-- The keys of a section that have a default. -/
def defaultKeys (name : String) : List String :=
  match lookup? name defaults with
  | some (.mapping entries) => keysOf entries
  | _ => []

/-- The section is a mapping and lacks nothing that has a default. -/
def Usable (config : Config) (name : String) : Prop :=
  ∃ entries, lookup? name config = some (.mapping entries) ∧
    ∀ key ∈ defaultKeys name, key ∈ keysOf entries

/-- The section is left out or is a mapping. -/
def Fits (entries : Config) (name : String) : Prop :=
  ∀ value, lookup? name entries = some value → value.IsMapping

instance (entries : Config) (name : String) : Decidable (Fits entries name) :=
  inferInstanceAs (Decidable (∀ value ∈ lookup? name entries, value.IsMapping))

theorem not_fits_iff {entries : Config} {name : String} :
    ¬Fits entries name ↔ ∃ value, lookup? name entries = some value ∧ ¬value.IsMapping := by
  simp [Fits]

namespace Document

/-- The entries of a document that is a mapping; any other has none. -/
def entries : Document → Config
  | .found (.mapping entries) => entries
  | _ => []

/-- A file of settings that is missing, cannot be read, is empty, or holds a mapping with each key
once. -/
structure IsSettings (document : Document) : Prop where
  isRead : ∀ e, document ≠ .failed e
  isMapping : ∀ value, document = .found value → value.isSet = true → value.IsMapping
  nodup : (keysOf document.entries).Nodup

theorem IsSettings.given_eq {document : Document} (h : document.IsSettings) :
    document.given = .ok (.mapping document.entries) := by
  cases document with
  | missing => rfl
  | unreadable => rfl
  | failed e => exact absurd rfl (h.isRead e)
  | found value =>
    by_cases hset : value.isSet = true
    · obtain ⟨entries, rfl⟩ := h.isMapping value rfl hset
      rw [given, if_pos hset]
      rfl
    · have hempty : Document.entries (.found value) = [] := by
        cases value with
        | mapping given => simpa [Value.isSet, Document.entries] using hset
        | _ => rfl
      rw [given, if_neg hset, hempty]

end Document

theorem Usable.of_keptBy {before after : Config} {name : String} (h : before.Usable name)
    (hkept : before.KeptBy after) : after.Usable name := by
  rcases h with ⟨entries, hentries, hkeys⟩
  rcases hkept name _ hentries with ⟨_, hafter, entries', rfl, hsub⟩
  exact ⟨entries', hafter, fun key hkey => hsub key (hkeys key hkey)⟩

theorem usable_defaults {name : String} (h : name ∈ keysOf defaults) : defaults.Usable name := by
  rcases mem_keysOf_defaults.1 h with rfl | rfl
  · exact ⟨_, rfl, fun _ => id⟩
  · exact ⟨_, rfl, fun _ => id⟩

/-- A section that is given as a mapping, or not at all, is filled up from the defaults. Anything else
takes the place of the defaults. -/
theorem merge_section {entries : Config} (hkeys : (keysOf entries).Nodup) {name : String}
    (hname : name ∈ keysOf defaults) :
    (Fits entries name → (merge entries defaults).Usable name) ∧
    ∀ value, lookup? name entries = some value → ¬value.IsMapping →
      lookup? name (merge entries defaults) = some value := by
  rcases usable_defaults hname with ⟨usual, husual, hall⟩
  have hlookup := lookup?_merge hkeys defaults name
  constructor
  · intro hfits
    cases hgiven : lookup? name entries with
    | none =>
      rw [hgiven] at hlookup
      exact ⟨usual, hlookup.trans husual, hall⟩
    | some value =>
      obtain ⟨given, rfl⟩ := hfits value hgiven
      rw [hgiven, husual] at hlookup
      refine ⟨merge given usual, hlookup.trans (congrArg some (mergeValue_mapping given usual)), ?_⟩
      exact fun key hkey => mem_keysOf_merge.2 (.inr (hall key hkey))
  · intro value hgiven hother
    rw [hlookup, hgiven]
    exact congrArg some (mergeValue_of_not_isMapping hother _)

/-- Loading puts the entries over the defaults and the environment on top of both. A warning of the file
changes no setting. -/
theorem load_eq {document : Document} (h : document.IsSettings) {env : Environment}
    {adjusted : Adjusted}
    (happly : (merge document.entries defaults).applyEnvironment env = .ok adjusted) :
    ∃ after, load document env = .ok after ∧ after.config = adjusted.config ∧
      (document ≠ .unreadable → after = adjusted) := by
  rw [load, h.given_eq]
  simp only [bind, Except.bind, ofValue, happly]
  cases document with
  | unreadable => exact ⟨_, rfl, rfl, fun hne => absurd rfl hne⟩
  | _ => exact ⟨_, rfl, rfl, fun _ => rfl⟩

theorem hasLevel_merge {entries : Config} (hkeys : (keysOf entries).Nodup) :
    (merge entries defaults).HasLevel := by
  have hlogging : "logging" ∈ keysOf defaults := mem_keysOf_defaults.2 (.inr rfl)
  -- the level comes from the defaults, unless the section is no mapping and has no level to lack
  by_cases h : Fits entries "logging"
  · rcases (merge_section hkeys hlogging).1 h with ⟨section', hsection, hall⟩
    refine ⟨_, hsection, ?_⟩
    rintro _ ⟨⟩
    exact hall "level" (by decide)
  · obtain ⟨value, hvalue, hother⟩ := not_fits_iff.1 h
    refine ⟨value, (merge_section hkeys hlogging).2 value hvalue hother, ?_⟩
    rintro other rfl
    exact absurd ⟨other, rfl⟩ hother

/-- Settings always load, and each section is usable unless the document has something else in its
place; that is then what stands there. -/
theorem load_spec {document : Document} (h : document.IsSettings) (env : Environment) :
    ∃ after, load document env = .ok after ∧ ∀ name ∈ keysOf defaults,
      (Fits document.entries name → after.config.Usable name) ∧
      ∀ value, lookup? name document.entries = some value → ¬value.IsMapping →
        lookup? name after.config = some value := by
  rcases exists_applyEnvironment (hasLevel_merge h.nodup) env with ⟨adjusted, happly, hkept⟩
  obtain ⟨after, hload, hconfig, -⟩ := load_eq h happly
  refine ⟨after, hload, fun name hname => ?_⟩
  rw [hconfig]
  rcases merge_section h.nodup hname with ⟨husable, hother⟩
  refine ⟨fun hfits => (husable hfits).of_keptBy hkept, fun value hvalue hnot => ?_⟩
  rcases hkept name value (hother value hvalue hnot) with ⟨value', hvalue', hkeeps⟩
  rw [hvalue', hkeeps.eq_of_not_isMapping hnot]

/-- In loaded settings a section is a mapping just if it is usable, and that is so just if the document
does not have something else in its place. -/
theorem usable_iff_of_load {document : Document} (h : document.IsSettings) {env : Environment}
    {after : Adjusted} (hload : load document env = .ok after) {name : String}
    (hname : name ∈ keysOf defaults) :
    (∃ value, lookup? name after.config = some value ∧
      (value.IsMapping ↔ after.config.Usable name)) ∧
    (after.config.Usable name ↔ Fits document.entries name) := by
  rcases load_spec h env with ⟨_, hload', hsections⟩
  obtain rfl := Except.ok.inj (hload.symm.trans hload')
  rcases hsections name hname with ⟨husable, hother⟩
  by_cases hfits : Fits document.entries name
  · have husable := husable hfits
    refine ⟨?_, iff_of_true husable hfits⟩
    rcases husable with ⟨entries, hentries, hkeys⟩
    exact ⟨_, hentries, iff_of_true ⟨entries, rfl⟩ ⟨entries, hentries, hkeys⟩⟩
  · obtain ⟨value, hgiven, hnot⟩ := not_fits_iff.1 hfits
    have hvalue := hother value hgiven hnot
    have hunusable : ¬after.config.Usable name := by
      rintro ⟨entries, hentries, -⟩
      rw [hvalue] at hentries
      cases hentries
      exact hnot ⟨entries, rfl⟩
    exact ⟨⟨value, hvalue, iff_of_false hnot hunusable⟩,
      iff_of_false hunusable hfits⟩

end VersionStamp.Config
