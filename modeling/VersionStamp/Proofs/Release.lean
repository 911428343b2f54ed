import VersionStamp.Proofs.Calendar.Zone
import VersionStamp.Proofs.Freshness

/-! Releasing versions one after the other. Each round finds the newest name, advances it and adds the
version string to the names. A version string is read back with its counters, so every tag is new
and becomes the newest. -/

namespace VersionStamp

open Calendar

/-- A version that was released: the names there were before, and the tag that was added. -/
structure Release where
  names : List (List Char)
  version : Version
  tag : List Char

namespace Template

variable (t : Template) (zone : Zone) (mode : ZoneMode)

/-- One round of the release loop. -/
def release (clock : Clock) (names : List (List Char)) : Except VersionError Release × Clock :=
  match t.followingVersion zone mode clock names with
  | (.error e, clock) => (.error e, clock)
  | (.ok v, clock) => ((v.render zone).map fun tag => ⟨names, v, tag⟩, clock)

/-- The releases of so many rounds. The loop ends with the first round that fails. -/
def releases : Nat → Clock → List (List Char) → List Release
  | 0, _, _ => []
  | rounds + 1, clock, names =>
    match t.release zone mode clock names with
    | (.error _, _) => []
    | (.ok r, clock) => r :: releases rounds clock (names ++ [r.tag])

end Template

/-- Whatever the clock of the mode can show of the readings is in the years from `first` to `last`. -/
def Clock.StaysIn (clock : Clock) (zone : Zone) (mode : ZoneMode) (first last : Int) : Prop :=
  ∀ n shown, mode.express zone (clock.reading n) = .ok shown →
    first ≤ shown.wall.date.year ∧ shown.wall.date.year ≤ last

/-- The tag of a release is new, matches, can be read, and is the newest from then on, with the
counters of the version. -/
structure Release.IsSound (r : Release) (t : Template) (zone : Zone) (mode : ZoneMode) : Prop where
  not_mem : r.tag ∉ r.names
  recognizes : t.recognizes r.tag = true
  parse : ∀ clock, ∃ p, (t.parse zone mode clock r.tag).1 = .ok p ∧
    ∀ c, p.counter c = r.version.state.counter c
  newest : ∀ clock, ∃ v, (t.newestVersion zone mode clock (r.names ++ [r.tag])).1 = some v ∧
    ∀ c, v.state.counter c = r.version.state.counter c

section

variable {source : List Char} {t : Template} {zone : Zone} {mode : ZoneMode} {clock after : Clock}
  {names : List (List Char)} {v : Version} {r : Release}

theorem Template.release_spec (hcounter : ∃ c, t.uses (.counter c) = true)
    (h : t.release zone mode clock names = (.ok r, after)) :
    r.names = names ∧ r.version.Follows t zone mode names ∧
      (∃ n, r.version.state.timestamp = clock.reading n) ∧ r.version.render zone = .ok r.tag ∧
      after.reading = clock.reading := by
  rw [release] at h
  split at h
  · cases h
  · rename_i v clock' hfollowing
    rcases followingVersion_spec hcounter hfollowing with ⟨hfollows, hstamp, hreading⟩
    cases hrender : v.render zone with
    | error e =>
      rw [hrender] at h
      cases h
    | ok tag =>
      rw [hrender] at h
      cases h
      exact ⟨rfl, hfollows, hstamp, hrender, hreading⟩

theorem Version.Follows.exists_parseAt (hc : Template.compile source none = .ok t)
    (hs : Separable t.segments) (hz : zone.IsProper) (hclock : clock.StaysIn zone mode 2 9998)
    (hv : v.Follows t zone mode names) (hstamp : ∃ n, v.state.timestamp = clock.reading n)
    {tag : List Char} (hrender : v.render zone = .ok tag) (now : Timestamp) :
    ∃ p, t.parseAt zone mode now tag = .ok p ∧ p.counters = v.state.counters := by
  rw [Version.render, hv.template_eq] at hrender
  rcases Template.render_eq_ok hrender with ⟨wall, hshow, rfl, -⟩
  obtain ⟨timestamp, hstamp'⟩ : ∃ timestamp, t.restamp zone mode now wall = .ok timestamp := by
    rw [Template.restamp]
    split
    · rename_i hdate
      rcases hshow .date (Template.uses_iff.1 hdate) with ⟨shown, hshown, rfl⟩
      rcases hstamp with ⟨n, hn⟩
      rw [State.shownTimestamp, hv.mode_eq, hn] at hshown
      have hyear := hclock n shown hshown
      apply hz.interpret_eq_ok
      split
      · exact hyear
      · rw [WallTime.midnight_date]
        exact hyear
    · exact ⟨now, rfl⟩
  exact hv.exists_parseAt_of_restamp hc hs hshow hstamp'

/-- A name that is read with counters that none of the names has is not one of them, and is the
newest when it is added. -/
theorem Version.Follows.isSound {tag : List Char} (hv : v.Follows t zone mode names)
    (hmatch : t.recognizes tag = true)
    (hread : ∀ now, ∃ p, t.parseAt zone mode now tag = .ok p ∧ p.counters = v.state.counters) :
    Release.IsSound ⟨names, v, tag⟩ t zone mode where
  not_mem hmem := by
    rcases hread ⟨.start, 0⟩ with ⟨p, hp, hcounters⟩
    exact (hv.lt_of_mem hmatch hmem hp).ne hcounters
  recognizes := hmatch
  parse clock := by
    rcases hread clock.read.1 with ⟨p, hp, hcounters⟩
    exact ⟨p, hp, State.counters_eq_iff.1 hcounters⟩
  newest clock := by
    have hlatest := t.greatest_newest zone mode clock (names ++ [tag])
    rcases hread ⟨.start, 0⟩ with ⟨p, hp, hcounters⟩
    have hshown : t.Shown zone mode (names ++ [tag]) p := Template.shown_append.2 (.inr ⟨hmatch, _, hp⟩)
    cases hnewest : t.newest zone mode clock (names ++ [tag]) with
    | none =>
      rw [hnewest] at hlatest
      exact absurd hshown (hlatest p)
    | some s =>
      rw [hnewest] at hlatest
      refine ⟨⟨t, s⟩, by rw [Template.newestVersion_eq, hnewest]; rfl,
        State.counters_eq_iff.1 (le_antisymm ?_ ?_)⟩
      · rcases Template.shown_append.1 hlatest.1 with hs | ⟨-, now, hs⟩
        · exact (hv.lt s hs).le
        · rcases hread now with ⟨p', hp', hcounters'⟩
          rw [hs] at hp'
          cases hp'
          exact hcounters'.le
      · exact hcounters ▸ hlatest.2 p hshown

end

section

variable {source : List Char} {t : Template} (hc : Template.compile source none = .ok t)
  (hs : Separable t.segments) (hcounter : ∃ c, t.uses (.counter c) = true) {zone : Zone}
  (hz : zone.IsProper) {mode : ZoneMode}

include hc hs hcounter hz

/-- One round: its tag is sound, its version follows the names, and the clock is as good as before. -/
theorem Template.release_sound {clock after : Clock} (hclock : clock.StaysIn zone mode 2 9998)
    {names : List (List Char)} {r : Release} (h : t.release zone mode clock names = (.ok r, after)) :
    r.names = names ∧ r.version.Follows t zone mode names ∧ r.IsSound t zone mode ∧
      after.StaysIn zone mode 2 9998 := by
  rcases release_spec hcounter h with ⟨rfl, hfollows, hstamp, hrender, hreading⟩
  refine ⟨rfl, hfollows, hfollows.isSound ?_ ?_, ?_⟩
  · rw [Version.render, hfollows.template_eq] at hrender
    rcases render_eq_ok hrender with ⟨-, -, -, hmatch⟩
    exact hmatch
  · exact hfollows.exists_parseAt hc hs hz hclock hstamp hrender
  · rw [Clock.StaysIn, hreading]
    exact hclock

/-- Every round adds to the names of the rounds before it. -/
theorem Template.of_mem_releases {rounds : Nat} {clock : Clock}
    (hclock : clock.StaysIn zone mode 2 9998) {names : List (List Char)} {r : Release}
    (hr : r ∈ t.releases zone mode rounds clock names) :
    names ⊆ r.names ∧ r.version.Follows t zone mode r.names ∧ r.IsSound t zone mode := by
  induction rounds generalizing clock names with
  | zero => cases hr
  | succ rounds ih =>
    rw [releases] at hr
    split at hr
    · cases hr
    · rename_i first after hfirst
      rcases release_sound hc hs hcounter hz hclock hfirst with ⟨rfl, hfollows, hsound, hafter⟩
      rcases List.mem_cons.1 hr with rfl | hr
      · exact ⟨List.Subset.refl _, hfollows, hsound⟩
      · rcases ih hafter hr with ⟨hsubset, hlater⟩
        exact ⟨fun x hx => hsubset (List.mem_append_left _ hx), hlater⟩

theorem Template.releases_pairwise {rounds : Nat} {clock : Clock}
    (hclock : clock.StaysIn zone mode 2 9998) (names : List (List Char)) :
    (t.releases zone mode rounds clock names).Pairwise fun a b =>
      a.version.state.counters < b.version.state.counters := by
  induction rounds generalizing clock names with
  | zero => exact .nil
  | succ rounds ih =>
    rw [releases]
    split
    · exact .nil
    · rename_i first after hfirst
      rcases release_sound hc hs hcounter hz hclock hfirst with ⟨-, -, hsound, hafter⟩
      rw [List.pairwise_cons]
      constructor
      swap
      · exact ih hafter _
      -- the tag of this round is among the names of the later one
      intro later hlater
      rcases of_mem_releases hc hs hcounter hz hafter hlater with ⟨hsubset, hfollows, -⟩
      rcases hsound.parse ⟨fun _ => ⟨.start, 0⟩, 0⟩ with ⟨p, hp, hcounters⟩
      rw [← State.counters_eq_iff.2 hcounters]
      have hmem : first.tag ∈ later.names := hsubset (List.mem_append_right _ (by simp))
      exact hfollows.lt_of_mem hsound.recognizes hmem hp

/-- However long versions are released and whatever the names were at first, every tag is sound and
the counters increase from each release to the next. -/
theorem releases_sound {clock : Clock} (hclock : clock.StaysIn zone mode 2 9998)
    (names : List (List Char)) (rounds : Nat) :
    (∀ r ∈ t.releases zone mode rounds clock names, r.IsSound t zone mode) ∧
    (t.releases zone mode rounds clock names).Pairwise fun a b =>
      a.version.state.counters < b.version.state.counters :=
  ⟨fun _ hr => (Template.of_mem_releases hc hs hcounter hz hclock hr).2.2,
    Template.releases_pairwise hc hs hcounter hz hclock names⟩

end

/-- Two rounds in local time, an hour ahead of UTC, where there was a tag with a leading zero and one
that is no version. -/
theorem releases_sound_twice : ∃ t,
    Template.compile ['v', '%', 'b', '%'] none = .ok t ∧
    (t.releases ⟨3600, none⟩ .localTime 2 ⟨fun _ => ⟨⟨31536000, 0, by decide, by decide⟩, 0⟩, 0⟩
      [['v', '0', '3'], ['x']]).map (·.tag) = [['v', '4'], ['v', '5']] ∧
    ∀ r ∈ t.releases ⟨3600, none⟩ .localTime 2
      ⟨fun _ => ⟨⟨31536000, 0, by decide, by decide⟩, 0⟩, 0⟩ [['v', '0', '3'], ['x']],
      r.IsSound t ⟨3600, none⟩ .localTime := by
  obtain ⟨t, ht, hs, hbuild, htags⟩ : ∃ t, Template.compile ['v', '%', 'b', '%'] none = .ok t ∧
      Separable t.segments ∧ t.uses .build = true ∧
      (t.releases ⟨3600, none⟩ .localTime 2 ⟨fun _ => ⟨⟨31536000, 0, by decide, by decide⟩, 0⟩, 0⟩
        [['v', '0', '3'], ['x']]).map (·.tag) = [['v', '4'], ['v', '5']] :=
    ⟨_, rfl, by decide, rfl, by decide +kernel⟩
  have hyear : ∀ shown, ZoneMode.localTime.express ⟨3600, none⟩
      ⟨⟨31536000, 0, by decide, by decide⟩, 0⟩ = .ok shown →
      2 ≤ shown.wall.date.year ∧ shown.wall.date.year ≤ 9998 := by
    intro shown hshown
    cases hshown
    decide
  exact ⟨t, ht, htags, (releases_sound ht hs ⟨.build, hbuild⟩
    ⟨by decide, fun d hd => by cases hd⟩ (fun _ => hyear) _ 2).1⟩

end VersionStamp
