import VersionStamp.Proofs.Failure
import VersionStamp.Proofs.Render

/-! Version strings along a run of advances. The finest counter in use grows with every advance and no
counter in use falls, while dates and times of day keep their widths. So two texts of the run could be
the same only word for word, and no text comes back, whatever the clock does. -/

namespace VersionStamp

open Calendar

/-- A version of the same template with a greater counter in use, and none in use that is smaller. -/
structure Version.Before (v w : Version) : Prop where
  template_eq : w.template = v.template
  le : ∀ c, v.usesCounter c = true → v.state.counter c ≤ w.state.counter c
  lt : ∃ c, v.usesCounter c = true ∧ v.state.counter c < w.state.counter c

namespace Version.Before

variable {u v w : Version}

theorem usesCounter_eq (h : v.Before w) : w.usesCounter = v.usesCounter := by
  funext c
  rw [usesCounter, usesCounter, h.template_eq]

theorem trans (huv : u.Before v) (hvw : v.Before w) : u.Before w where
  template_eq := hvw.template_eq.trans huv.template_eq
  le c hc := by
    have hc' : v.usesCounter c = true := by rw [huv.usesCounter_eq, hc]
    exact (huv.le c hc).trans (hvw.le c hc')
  lt := by
    rcases huv.lt with ⟨c, hc, hlt⟩
    have hc' : v.usesCounter c = true := by rw [huv.usesCounter_eq, hc]
    exact ⟨c, hc, hlt.trans_le (hvw.le c hc')⟩

theorem render_ne {zone : Zone} {a b : List Char} (h : v.Before w) (hv : v.render zone = .ok a)
    (hw : w.render zone = .ok b) : a ≠ b := by
  rcases Template.render_eq_ok hv with ⟨vwall, -, ha, -⟩
  rcases Template.render_eq_ok hw with ⟨wwall, -, hb, -⟩
  rw [h.template_eq] at hb
  intro hab
  rw [ha, hb] at hab
  rcases h.lt with ⟨c, hc, hlt⟩
  have hle (d : Counter) (hd : .counter d ∈ fieldsOf v.template.segments) :
      v.state.counter d ≤ w.state.counter d := h.le d (Template.uses_iff.2 hd)
  have hword := shown_field_eq_of_shownText_eq hle hab (Template.uses_iff.1 hc)
  have heq : v.state.counter c = w.state.counter c := by
    simpa [Piece.shown] using congrArg Text.digitsValue hword
  omega

end Version.Before

/-- An advance makes a version come later if a counter is in use. Only a new major number sets another
counter back, and then that one is not in use. -/
theorem Version.AdvancedTo.before {v after : Version} {now : Timestamp}
    (h : v.AdvancedTo now after) (hcounter : ∃ c, v.usesCounter c = true) : v.Before after where
  template_eq := h.template
  le c hc := by
    cases c with
    | build => simp [State.counter, h.build, hc]
    | minor =>
      simp only [State.counter, h.minor, hc, if_true]
      split <;> omega
    | major =>
      simp only [State.counter, h.major]
      split <;> omega
  lt := by
    by_cases hbuild : v.usesCounter .build = true
    · exact ⟨.build, hbuild, by simp [State.counter, h.build, hbuild]⟩
    · by_cases hminor : v.usesCounter .minor = true
      · exact ⟨.minor, hminor, by simp [State.counter, h.minor, hbuild, hminor]⟩
      · rcases hcounter with ⟨c, hc⟩
        cases c with
        | build => exact absurd hc hbuild
        | minor => exact absurd hc hminor
        | major => exact ⟨.major, hc, by simp [State.counter, h.major, hbuild, hminor, hc]⟩

/-- The session after so many advances of a slot, one after the other. -/
def Session.advanced (zone : Zone) (s : Session) (name : String) (n : ℕ) : Session :=
  s.run zone (List.replicate n (.act name .advance))

section

variable (zone : Zone) {s : Session} {name : String} {v : Version}

theorem Session.advanced_add (m n : ℕ) :
    s.advanced zone name (m + n) = (s.advanced zone name m).advanced zone name n := by
  rw [advanced, List.replicate_add, run_append]
  rfl

theorem Session.get?_advanced_one (h : s.get? name = some v) :
    ∃ w, (s.advanced zone name 1).get? name = some w ∧ v.AdvancedTo s.clock.read.1 w := by
  have hstep : s.advanced zone name 1 = (s.step zone (.act name .advance)).1 := rfl
  rw [hstep, s.step_act zone h, v.act_advance, get?_put_self]
  exact ⟨_, rfl, v.advancedTo_advance s.clock⟩

/-- A run of advances, announced or not, leads to a later version. -/
theorem Session.get?_advanced_succ (h : s.get? name = some v)
    (hcounter : ∃ c, v.usesCounter c = true) (n : ℕ) :
    ∃ w, (s.advanced zone name (n + 1)).get? name = some w ∧ v.Before w := by
  induction n with
  | zero =>
    rcases get?_advanced_one zone h with ⟨w, hw, hafter⟩
    exact ⟨w, hw, hafter.before hcounter⟩
  | succ n ih =>
    rcases ih with ⟨u, hu, hvu⟩
    rw [advanced_add]
    rcases get?_advanced_one zone hu with ⟨w, hw, hafter⟩
    refine ⟨w, hw, hvu.trans (hafter.before ?_)⟩
    rwa [hvu.usesCounter_eq]

theorem Session.get?_advanced (h : s.get? name = some v) (hcounter : ∃ c, v.usesCounter c = true)
    (n : ℕ) :
    ∃ w, (s.advanced zone name n).get? name = some w ∧ w.usesCounter = v.usesCounter := by
  cases n with
  | zero => exact ⟨v, h, rfl⟩
  | succ n =>
    rcases get?_advanced_succ zone h hcounter n with ⟨w, hw, hbefore⟩
    exact ⟨w, hw, hbefore.usesCounter_eq⟩

end

/-- Along a run of advances of one version no version string comes twice. The template may have its
fields side by side, the recognizer may be any, and the clock may stand still or go back. -/
theorem advances_distinct (zone : Zone) {s : Session} {name : String} {v : Version}
    (hv : s.get? name = some v) (hcounter : ∃ c, v.usesCounter c = true) :
    ∃ versions : ℕ → Version, versions 0 = v ∧
      (∀ n, (s.advanced zone name n).get? name = some (versions n)) ∧
      ∀ i j a b, i ≠ j → (versions i).render zone = .ok a → (versions j).render zone = .ok b →
        a ≠ b := by
  -- of two versions of the run the later one comes after the earlier one by a run of its own
  choose versions hslot huses using Session.get?_advanced zone hv hcounter
  have hbefore {i j : ℕ} (hij : i < j) : (versions i).Before (versions j) := by
    obtain ⟨k, rfl⟩ : ∃ k, j = i + (k + 1) := ⟨j - i - 1, by omega⟩
    have hcounter' : ∃ c, (versions i).usesCounter c = true := by rwa [huses]
    rcases Session.get?_advanced_succ zone (hslot i) hcounter' k with ⟨w, hw, hbefore⟩
    rw [← Session.advanced_add, hslot, Option.some.injEq] at hw
    rwa [hw]
  refine ⟨versions, ?_, hslot, ?_⟩
  · have hstart := hslot 0
    rw [show s.advanced zone name 0 = s from rfl, hv, Option.some.injEq] at hstart
    exact hstart.symm
  · intro i j a b hij ha hb
    rcases lt_or_gt_of_ne hij with hlt | hgt
    · exact (hbefore hlt).render_ne ha hb
    · exact ((hbefore hgt).render_ne hb ha).symm

/-- A build number and a time of day side by side, with a clock that stands still: from 9 to 10. -/
theorem advances_distinct_adjacent : ∃ t s a b,
    Template.compile ['%', 'b', '%', '%', 't', '%'] none = .ok t ∧
    Session.get? s "a" = some ⟨t, ⟨0, 0, 9, ⟨.start, 0⟩, .utc⟩⟩ ∧
    (s.advanced .utc "a" 1).get? "a" = some ⟨t, ⟨0, 0, 10, ⟨.start, 0⟩, .utc⟩⟩ ∧
    t.render .utc ⟨0, 0, 9, ⟨.start, 0⟩, .utc⟩ = .ok a ∧
    t.render .utc ⟨0, 0, 10, ⟨.start, 0⟩, .utc⟩ = .ok b ∧ a ≠ b := by
  obtain ⟨t, ht, hbuild, s, hv, hw⟩ : ∃ t,
      Template.compile ['%', 'b', '%', '%', 't', '%'] none = .ok t ∧ t.uses .build = true ∧
      ∃ s, Session.get? s "a" = some ⟨t, ⟨0, 0, 9, ⟨.start, 0⟩, .utc⟩⟩ ∧
        (s.advanced .utc "a" 1).get? "a" = some ⟨t, ⟨0, 0, 10, ⟨.start, 0⟩, .utc⟩⟩ :=
    ⟨_, rfl, rfl, ⟨[("a", ⟨_, ⟨0, 0, 9, ⟨.start, 0⟩, .utc⟩⟩)], .ofSteps ⟨.start, 0⟩ 0⟩, rfl, rfl⟩
  have hrender (build : ℕ) (hle : build ≤ 10) : ∃ text,
      t.render .utc ⟨0, 0, build, ⟨.start, 0⟩, .utc⟩ = .ok text := by
    have hwritable (c : Counter) :
        Text.isWritable (State.counter ⟨0, 0, build, ⟨.start, 0⟩, .utc⟩ c) = true := by
      have hc : State.counter ⟨0, 0, build, ⟨.start, 0⟩, .utc⟩ c ≤ 10 := by
        cases c <;> simp [State.counter, hle]
      exact Text.isWritable_iff.2 ((Text.decimal_length_mono hc).trans (by decide))
    exact ⟨_, (Template.render_of_shown ht hwritable (Timestamp.toUtc_mk_zero _)).1⟩
  rcases hrender 9 (by decide) with ⟨a, ha⟩
  rcases hrender 10 (by decide) with ⟨b, hb⟩
  obtain ⟨versions, hstart, hslot, hdistinct⟩ :=
    advances_distinct .utc hv ⟨.build, hbuild⟩
  have hnext : versions 1 = ⟨t, ⟨0, 0, 10, ⟨.start, 0⟩, .utc⟩⟩ :=
    Option.some.inj ((hslot 1).symm.trans hw)
  refine ⟨t, s, a, b, ht, hv, hw, ha, hb, hdistinct 0 1 a b (by decide) ?_ ?_⟩
  · rw [hstart]
    exact ha
  · rw [hnext]
    exact hb

end VersionStamp
