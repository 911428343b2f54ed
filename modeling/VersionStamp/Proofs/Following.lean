import VersionStamp.Proofs.Tags

/-! The version that follows. It is one step ahead of the newest version among the names, and so ahead of
every version that a name shows, whichever of equal ones was taken for the newest and whatever the
clock says. Where no name shows a version it is the first one. -/

namespace VersionStamp

open Calendar

/-- The counters one step ahead: the finest counter in use goes up by one, and a new major number sets
the minor number back to 0. -/
def State.stepped (s : State) (uses : Counter → Bool) : ℕ ×ₗ ℕ ×ₗ ℕ :=
  if uses .build then toLex (s.major, toLex (s.minor, s.build + 1))
  else if uses .minor then toLex (s.major, toLex (s.minor + 1, s.build))
  else toLex (s.major + 1, toLex (0, s.build))

theorem State.counters_advance (s : State) {uses : Counter → Bool} (h : ∃ c, uses c = true)
    (now : Timestamp) : (s.advance (finestCounter uses) now).counters = s.stepped uses := by
  rcases finestCounter_cases uses with ⟨hfinest, hbuild⟩ | ⟨hfinest, hminor, hbuild⟩ |
    ⟨hfinest, -, hminor, hbuild⟩ | ⟨-, hmajor, hminor, hbuild⟩
  · rw [hfinest, stepped, if_pos hbuild]
    rfl
  · rw [hfinest, stepped, hbuild, if_neg Bool.false_ne_true, if_pos hminor]
    rfl
  · rw [hfinest, stepped, hbuild, hminor, if_neg Bool.false_ne_true, if_neg Bool.false_ne_true]
    rfl
  · have hunused (c : Counter) : uses c = false := by cases c <;> assumption
    rcases h with ⟨c, hc⟩
    rw [hunused c] at hc
    cases hc

theorem Template.newest_eq_none_iff {t : Template} {zone : Zone} {mode : ZoneMode} {clock : Clock}
    {names : List (List Char)} :
    t.newest zone mode clock names = none ↔ ∀ p, ¬t.Shown zone mode names p := by
  have hgreatest := t.greatest_newest zone mode clock names
  cases hnewest : t.newest zone mode clock names with
  | none =>
    rw [hnewest] at hgreatest
    exact iff_of_true rfl hgreatest
  | some s =>
    rw [hnewest] at hgreatest
    exact iff_of_false (by simp) fun hnone => hnone s hgreatest.1

/-- Where no name shows a version, the first version follows, stamped with the next reading of the clock.
Otherwise what follows is one step ahead of the newest version, has greater counters than every version
that a name shows, and 0 in the counters that are not in use. -/
theorem following_exceeds {t : Template} (hcounter : ∃ c, t.uses (.counter c) = true) (zone : Zone)
    (mode : ZoneMode) (clock : Clock) (names : List (List Char)) :
    ((∀ p, ¬t.Shown zone mode names p) → t.followingVersion zone mode clock names =
      (.ok ⟨t, .fresh (clock.reading (clock.calls + names.countP t.recognizes)) mode⟩,
        ⟨clock.reading, clock.calls + names.countP t.recognizes + 1⟩)) ∧
    ((∃ p, t.Shown zone mode names p) → ∃ latest,
      (t.newestVersion zone mode clock names).1 = some latest ∧
      t.Shown zone mode names latest.state ∧
      ∀ v after, t.followingVersion zone mode clock names = (.ok v, after) →
        (∀ p, t.Shown zone mode names p → p.counters < v.state.counters) ∧
        v.state.counters = latest.state.stepped (fun c => t.uses (.counter c)) ∧
        ∀ c, t.uses (.counter c) = false → v.state.counter c = 0) := by
  have hfollowing :=
    Template.followingVersion_of_newestVersion (t.newestVersion_eq zone mode clock names)
  constructor
  · intro hnone
    rw [hfollowing, Template.newest_eq_none_iff.2 hnone]
    rfl
  · rintro ⟨p, hp⟩
    obtain ⟨s, hnewest⟩ : ∃ s, t.newest zone mode clock names = some s :=
      Option.ne_none_iff_exists'.1 fun hnone => Template.newest_eq_none_iff.1 hnone p hp
    have hgreatest := t.greatest_newest zone mode clock names
    rw [hnewest] at hgreatest
    refine ⟨⟨t, s⟩, by rw [Template.newestVersion_eq, hnewest]; rfl, hgreatest.1,
      fun v after h => ?_⟩
    rcases Template.followingVersion_spec hcounter h with ⟨hfollows, -, -⟩
    refine ⟨hfollows.lt, ?_, hfollows.unused⟩
    rw [hfollowing, hnewest] at h
    rcases Template.successor_eq_ok (Prod.mk.inj h).1 with ⟨hnone, -⟩ | ⟨s', hsome, rfl⟩
    · cases hnone
    · cases hsome
      exact s.counters_advance hcounter _

/-- The build number before the major one and a recognizer that takes any text: a leading zero, a name
that matches and shows nothing, and a greater build number of an older major one. -/
theorem following_exceeds_older : ∃ t v after,
    Template.compile ['%', 'b', '%', '-', '%', 'M', '%'] (some ['.', '*']) = .ok t ∧
    t.followingVersion ⟨3600, none⟩ .localTime (.ofSteps ⟨.start, 0⟩ 1)
      [['0', '7', '-', '2'], ['x'], ['9', '-', '1']] = (.ok v, after) ∧
    v.state.counters = toLex (2, toLex (0, 8)) ∧
    ∀ p, t.Shown ⟨3600, none⟩ .localTime [['0', '7', '-', '2'], ['x'], ['9', '-', '1']] p →
      p.counters < v.state.counters := by
  obtain ⟨t, ht, hbuild, hfollowing, hnewest⟩ : ∃ t,
      Template.compile ['%', 'b', '%', '-', '%', 'M', '%'] (some ['.', '*']) = .ok t ∧
      t.uses .build = true ∧
      (t.followingVersion ⟨3600, none⟩ .localTime (.ofSteps ⟨.start, 0⟩ 1)
        [['0', '7', '-', '2'], ['x'], ['9', '-', '1']]).1.toOption.isSome = true ∧
      (t.newest ⟨3600, none⟩ .localTime (.ofSteps ⟨.start, 0⟩ 1)
        [['0', '7', '-', '2'], ['x'], ['9', '-', '1']]).map
          (·.stepped fun c => t.uses (.counter c)) = some (toLex (2, toLex (0, 8))) :=
    ⟨_, rfl, rfl, by decide +kernel, by decide +kernel⟩
  rcases Option.isSome_iff_exists.1 hfollowing with ⟨v, hv⟩
  rcases Option.map_eq_some_iff.1 hnewest with ⟨s, hs, hnumbers⟩
  have hshown : ∃ p, t.Shown ⟨3600, none⟩ .localTime
      [['0', '7', '-', '2'], ['x'], ['9', '-', '1']] p := by
    by_contra hnone
    rw [not_exists, ← Template.newest_eq_none_iff, hs] at hnone
    cases hnone
  obtain ⟨latest, hlatest, -, hnext⟩ := (following_exceeds ⟨.build, hbuild⟩ ⟨3600, none⟩
    .localTime (.ofSteps ⟨.start, 0⟩ 1) [['0', '7', '-', '2'], ['x'], ['9', '-', '1']]).2 hshown
  obtain ⟨habove, hstepped, -⟩ := hnext v _ (Prod.ext (toOption_eq_some_iff.1 hv) rfl)
  refine ⟨t, v, _, ht, Prod.ext (toOption_eq_some_iff.1 hv) rfl, ?_, habove⟩
  rw [Template.newestVersion_eq, hs] at hlatest
  cases hlatest
  exact hstepped.trans hnumbers

end VersionStamp
