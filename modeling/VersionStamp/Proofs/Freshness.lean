import VersionStamp.Proofs.RoundTrip
import VersionStamp.Proofs.Tags

/-! Whether the next version is a new one. Its version string is among the names only where reading
it does not give back what was written: then a name was taken for an older version, or passed over.
In UTC this cannot happen with a separable template, and none of the three conditions for that can
be left out. -/

namespace VersionStamp

open Calendar

section

variable {source : List Char} {t : Template} {zone : Zone} {mode : ZoneMode}
  {names : List (List Char)} {v : Version} {tag : List Char}

theorem Version.Follows.lt_of_mem (hv : v.Follows t zone mode names)
    (hmatch : t.recognizes tag = true) (hmem : tag ∈ names) {now : Timestamp} {p : State}
    (hread : t.parseAt zone mode now tag = .ok p) : p.counters < v.state.counters :=
  hv.lt p ⟨tag, hmem, hmatch, now, hread⟩

/-- A version that follows is read back with its counters, if the clock can be read back. -/
theorem Version.Follows.exists_parseAt_of_restamp (hc : Template.compile source none = .ok t)
    (hs : Separable t.segments) (hv : v.Follows t zone mode names) {wall : WallTime}
    (hshow : ∀ f ∈ fieldsOf t.segments, f.Showable zone v.state wall) {now timestamp : Timestamp}
    (hstamp : t.restamp zone mode now wall = .ok timestamp) :
    ∃ p, t.parseAt zone mode now (shownText v.state wall t.segments) = .ok p ∧
      p.counters = v.state.counters := by
  refine ⟨_, Template.parseAt_shown hc hs hshow hstamp, State.counters_eq_iff.2 fun c => ?_⟩
  rw [Template.counter_project]
  split
  · rfl
  · rename_i hunused
    exact (hv.unused c (by simpa using hunused)).symm

theorem Template.exists_restamp_utc (t : Template) (zone : Zone) (now : Timestamp)
    (wall : WallTime) : ∃ timestamp, t.restamp zone .utc now wall = .ok timestamp := by
  rw [restamp]
  split
  · exact ⟨_, rfl⟩
  · exact ⟨_, rfl⟩

theorem Template.exists_following {clock : Clock}
    (h : ((t.followingVersion zone mode clock names).1.toOption.bind
      fun v => (v.render zone).toOption) = some tag) :
    ∃ v after, t.followingVersion zone mode clock names = (.ok v, after) ∧
      v.render zone = .ok tag := by
  rcases Option.bind_eq_some_iff.1 h with ⟨v, hv, hrender⟩
  exact ⟨v, _, Prod.ext (toOption_eq_some_iff.1 hv) rfl, toOption_eq_some_iff.1 hrender⟩

/-- A name that is read as something older than the next version leaves the newest one what it
was. -/
theorem Template.greatest_append {clock : Clock} {now : Timestamp}
    (h : t.successor mode now (t.newest zone mode clock names) = .ok v)
    (hread : ∀ now p, t.parseAt zone mode now tag = .ok p → p.counters < v.state.counters) :
    Greatest State.counters (t.Shown zone mode (names ++ [tag]))
      (t.newest zone mode clock names) := by
  have hgreatest := t.greatest_newest zone mode clock names
  rcases successor_eq_ok h with ⟨hnewest, rfl⟩ | ⟨s, hnewest, rfl⟩
  · rw [hnewest] at hgreatest ⊢
    intro p hp
    rcases shown_append.1 hp with hold | ⟨-, now, htag⟩
    · exact hgreatest p hold
    · have hlt := State.counters_lt_iff.1 (hread now p htag)
      simp [State.fresh] at hlt
  · rw [hnewest] at hgreatest ⊢
    refine ⟨shown_append.2 (.inl hgreatest.1), fun p hp => ?_⟩
    rcases shown_append.1 hp with hold | ⟨-, now, htag⟩
    · exact hgreatest.2 p hold
    · exact State.counters_le_of_lt_advance (fun _ => hp.counter_eq_zero)
        (fun _ => hgreatest.1.counter_eq_zero) (hread now p htag)

/-- Once the tag of the next version is among the names, that version may come again just where its
tag is not read as written. -/
theorem Template.exists_followingVersion_append_iff (hcounter : ∃ c, t.uses (.counter c) = true)
    {clock after : Clock} (h : t.followingVersion zone mode clock names = (.ok v, after))
    (hmatch : t.recognizes tag = true) :
    (∃ again later, t.followingVersion zone mode again (names ++ [tag]) = (.ok v, later)) ↔
      ∀ now p, t.parseAt zone mode now tag = .ok p → p.counters < v.state.counters := by
  constructor
  · rintro ⟨again, later, hagain⟩ now p hread
    exact (followingVersion_spec hcounter hagain).1.lt_of_mem hmatch (by simp) hread
  · intro hread
    rw [followingVersion_of_newestVersion (t.newestVersion_eq zone mode clock names)] at h
    have hv := (Prod.mk.inj h).1
    have hgreatest := greatest_append hv hread
    -- a clock that stands still at the timestamp of the version
    have hagain := t.greatest_newest zone mode ⟨fun _ => v.state.timestamp, 0⟩ (names ++ [tag])
    have hsame : t.successor mode v.state.timestamp
        (t.newest zone mode ⟨fun _ => v.state.timestamp, 0⟩ (names ++ [tag])) = .ok v := by
      rw [successor_congr (hagain.map_eq hgreatest) hagain.mode_eq hgreatest.mode_eq,
        timestamp_of_successor hv]
      exact hv
    exact ⟨_, _, (followingVersion_of_newestVersion (t.newestVersion_eq ..)).trans
      (Prod.ext hsame rfl)⟩

/-- In UTC the next version is one of the names only if that name is not read, or read as an older
version than it was written for, and where this is so it can be handed out again. With a separable
template it is none of the names. -/
theorem following_tag_fresh (hc : Template.compile source none = .ok t)
    (hcounter : ∃ c, t.uses (.counter c) = true) {clock after : Clock}
    (h : t.followingVersion zone .utc clock names = (.ok v, after))
    (hrender : v.render zone = .ok tag) :
    (tag ∈ names → ∀ now p, t.parseAt zone .utc now tag = .ok p →
      p.counters < v.state.counters) ∧
    ((∃ again later, t.followingVersion zone .utc again (names ++ [tag]) = (.ok v, later)) ↔
      ∀ now p, t.parseAt zone .utc now tag = .ok p → p.counters < v.state.counters) ∧
    (Separable t.segments → tag ∉ names) := by
  rcases Template.followingVersion_spec hcounter h with ⟨hv, -, -⟩
  rw [Version.render, hv.template_eq] at hrender
  rcases Template.render_eq_ok hrender with ⟨wall, hshow, rfl, hmatch⟩
  refine ⟨fun hmem now p hread => hv.lt_of_mem hmatch hmem hread,
    Template.exists_followingVersion_append_iff hcounter h hmatch, fun hs hmem => ?_⟩
  rcases t.exists_restamp_utc zone ⟨.start, 0⟩ wall with ⟨timestamp, hstamp⟩
  rcases hv.exists_parseAt_of_restamp hc hs hshow hstamp with ⟨p, hread, hcounters⟩
  exact (hv.lt_of_mem hmatch hmem hread).ne hcounters

end

/-- A build number and a date, after a tag with a leading zero, one of the year 0 and one that does
not match. -/
theorem following_tag_fresh_dated : ∃ t v after,
    Template.compile ['v', '%', 'b', '%', '-', '%', 'd', '%'] none = .ok t ∧
    t.followingVersion .utc .utc ⟨fun _ => ⟨.start, 0⟩, 0⟩
      [['v', '0', '3', '-', '2', '0', '2', '4', '0', '1', '0', '1'],
        ['v', '4', '-', '0', '0', '0', '0', '0', '1', '0', '1'], ['x']] = (.ok v, after) ∧
    v.render .utc = .ok ['v', '4', '-', '0', '0', '0', '1', '0', '1', '0', '1'] ∧
    ['v', '4', '-', '0', '0', '0', '1', '0', '1', '0', '1'] ∉
      [['v', '0', '3', '-', '2', '0', '2', '4', '0', '1', '0', '1'],
        ['v', '4', '-', '0', '0', '0', '0', '0', '1', '0', '1'], ['x']] := by
  obtain ⟨t, ht, hs, hbuild, htag⟩ : ∃ t,
      Template.compile ['v', '%', 'b', '%', '-', '%', 'd', '%'] none = .ok t ∧
      Separable t.segments ∧ t.uses (.counter .build) = true ∧
      ((t.followingVersion .utc .utc ⟨fun _ => ⟨.start, 0⟩, 0⟩
        [['v', '0', '3', '-', '2', '0', '2', '4', '0', '1', '0', '1'],
          ['v', '4', '-', '0', '0', '0', '0', '0', '1', '0', '1'], ['x']]).1.toOption.bind
        fun v => (v.render .utc).toOption) =
          some ['v', '4', '-', '0', '0', '0', '1', '0', '1', '0', '1'] :=
    ⟨_, rfl, by decide, rfl, by decide +kernel⟩
  rcases Template.exists_following htag with ⟨v, after, hfollowing, hrender⟩
  exact ⟨t, v, after, ht, hfollowing, hrender,
    (following_tag_fresh ht ⟨.build, hbuild⟩ hfollowing hrender).2.2 hs⟩

/-- With the one tag `tag` the next version of the template is `tag` again. -/
def Template.Repeats (source tag : List Char) : Prop :=
  ∃ t v after, compile source none = .ok t ∧ (∃ c, t.uses (.counter c) = true) ∧
    t.followingVersion .utc .utc ⟨fun _ => ⟨.start, 0⟩, 0⟩ [tag] = (.ok v, after) ∧
    v.render .utc = .ok tag

theorem Template.Repeats.of_eq {source tag : List Char} {t : Template} {c : Counter}
    (hc : compile source none = .ok t) (hcounter : t.uses (.counter c) = true)
    (h : ((t.followingVersion .utc .utc ⟨fun _ => ⟨.start, 0⟩, 0⟩ [tag]).1.toOption.bind
      fun v => (v.render .utc).toOption) = some tag) : Repeats source tag := by
  rcases exists_following h with ⟨v, after, hfollowing, hrender⟩
  exact ⟨t, v, after, hc, ⟨c, hcounter⟩, hfollowing, hrender⟩

/-- A digit in a literal, fields that touch, and digits after the last field: the number before the
field is taken for the build number, the first field takes the digits of both, and the date gets
more days than there are. -/
theorem following_tag_not_fresh :
    Template.Repeats ['1', '.', '%', 'b', '%'] ['1', '.', '2'] ∧
    Template.Repeats ['%', 'M', '%', '%', 'm', '%'] ['0', '0'] ∧
    Template.Repeats ['%', 'b', '%', '.', '%', 'd', '%', '9', '9', '9', '9', '9', '9', '9', '9', '9']
      ['0', '.', '0', '0', '0', '1', '0', '1', '0', '1',
        '9', '9', '9', '9', '9', '9', '9', '9', '9'] :=
  ⟨.of_eq (c := .build) rfl rfl (by decide +kernel),
    .of_eq (c := .major) rfl rfl (by decide +kernel),
    .of_eq (c := .build) rfl rfl (by decide +kernel)⟩

end VersionStamp
