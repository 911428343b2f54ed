import VersionStamp.Proofs.Session
import VersionStamp.Proofs.Tags

/-! What failures leave behind. A step that fails changes no version. An advance is the exception: it
fails only when it is announced, and by then the version is the advanced one. -/

namespace VersionStamp

open Calendar

/-- The version after an advance at the time `now`, announced or not. -/
structure Version.AdvancedTo (v : Version) (now : Timestamp) (after : Version) : Prop where
  template : after.template = v.template
  mode : after.state.mode = v.state.mode
  timestamp : after.state.timestamp = now
  build : after.state.build = if v.usesCounter .build then v.state.build + 1 else v.state.build
  /-- The minor number is advanced where it is the finest in use, and set back with a new major
  number. -/
  minor : after.state.minor =
    if v.usesCounter .build then v.state.minor
    else if v.usesCounter .minor then v.state.minor + 1
    else if v.usesCounter .major then 0
    else v.state.minor
  major : after.state.major =
    if v.usesCounter .major && !v.usesCounter .minor && !v.usesCounter .build
    then v.state.major + 1 else v.state.major

namespace Version

variable (v : Version) {zone : Zone} {clock : Clock}

/-- An advance captures the time and advances the finest counter in use, whatever its outcome. -/
theorem advancedTo_advance (clock : Clock) : v.AdvancedTo clock.read.1 (v.advance clock).1.1 := by
  rcases finestCounter_cases v.usesCounter with ⟨hfinest, h⟩ | ⟨hfinest, h⟩ | ⟨hfinest, h⟩ |
    ⟨hfinest, h⟩
  all_goals
    constructor <;> simp [advance, State.advanceVersion, hfinest, h, State.advance, State.increment,
      State.refresh]

theorem act_advance (zone : Zone) (clock : Clock) : v.act zone clock .advance =
    ⟨(v.advance clock).1.1, (v.advance clock).1.2.map .advanced, clock.read.2⟩ := by
  simp only [act]
  rfl

theorem advance_outcome (clock : Clock) : (v.advance clock).1.2 =
    if (v.advance clock).1.1.state.isWritable then .ok (finestCounter v.usesCounter)
    else .error (.numeral .tooLarge) := by
  rcases v with ⟨t, s⟩
  have huses : usesCounter ⟨t, s⟩ = fun c => t.uses (.counter c) := rfl
  rw [advance_eq, huses]

/-- An advance fails where a counter is too long to be announced, whether it is in use or not. -/
theorem advance_eq_error_iff {e : VersionError} : (v.advance clock).1.2 = .error e ↔
    e = .numeral .tooLarge ∧
      ∃ c, Text.digitLimit < (Text.decimal ((v.advance clock).1.1.state.counter c)).length := by
  rw [advance_outcome, ← State.isWritable_eq_false_iff]
  cases (v.advance clock).1.1.state.isWritable with
  | true => simp
  | false => simp [eq_comm]

theorem changing_of_error {changed : Except VersionError Version} {e : VersionError}
    (h : (v.changing clock changed).answer = .error e) :
    (v.changing clock changed).version = v := by
  cases changed with
  | error e => rfl
  | ok after => cases h

theorem act_of_error {action : Action} {e : VersionError} (hadvance : action ≠ .advance)
    (h : (v.act zone clock action).answer = .error e) : (v.act zone clock action).version = v := by
  cases action with
  | advance => exact absurd rfl hadvance
  | setCounter c value => exact v.changing_of_error h
  | setStamp stamp => exact v.changing_of_error h
  | changeTemplate source recognizer => exact v.changing_of_error h
  | setMode mode => cases h
  | increment c => cases h
  | refresh => cases h
  | _ => rfl

end Version

/-- A step that advances a version. -/
def Step.IsAdvance : Step → Prop
  | .act _ .advance => True
  | _ => False

namespace Session

variable (s : Session) (zone : Zone)

theorem get?_put_of_get? {name : String} {v : Version} (h : s.get? name = some v) (clock : Clock)
    (other : String) : (s.put name v clock).get? other = s.get? other := by
  by_cases hother : other = name
  · rw [hother, get?_put_self, h]
  · exact s.get?_put_of_ne hother v clock

theorem get?_store_of_error {name : String} {made : Except VersionError Version × Clock}
    {e : VersionError} {state : Option State}
    (h : (s.store name made).2 = .answered (.error e) state) (other : String) :
    (s.store name made).1.get? other = s.get? other := by
  rcases made with ⟨_ | v, clock⟩
  · rfl
  · cases h

theorem reply_act {name : String} {v : Version} (h : s.get? name = some v) (action : Action) :
    (s.step zone (.act name action)).2 = .answered (v.act zone s.clock action).answer
      (some (v.act zone s.clock action).version.state) := by
  simp only [step, h]

/-- A step that fails changes no slot, unless it is an advance. -/
theorem step_of_error {step : Step} {e : VersionError} {state : Option State}
    (hadvance : ¬step.IsAdvance) (h : (s.step zone step).2 = .answered (.error e) state)
    (name : String) : (s.step zone step).1.get? name = s.get? name := by
  cases step with
  | create slot offer => exact s.get?_store_of_error h name
  | parse slot source recognizer mode candidate => exact s.get?_store_of_error h name
  | copy model slot =>
    cases hv : s.get? model with
    | none => simp only [Session.step, hv]
    | some v => simp [Session.step, hv] at h
  | act slot action =>
    cases hv : s.get? slot with
    | none => simp only [Session.step, hv]
    | some v =>
      rw [s.reply_act zone hv, Reply.answered.injEq] at h
      have hkept : (v.act zone s.clock action).version = v := by
        apply v.act_of_error _ h.1
        rintro rfl
        exact hadvance trivial
      -- the slot is given back the version that it holds
      rw [s.step_act zone hv, hkept, s.get?_put_of_get? hv]
  | compare slot other =>
    rw [Session.step]
    split <;> rfl

end Session

/-- A step that fails leaves every slot as it was, unless it is an advance. An advance captures the
time once and advances the version whether it fails or not, and it fails just when a counter of the
advanced state is too long to be written. -/
theorem session_failure (zone : Zone) (s : Session) :
    (∀ step e state, ¬step.IsAdvance → (s.step zone step).2 = .answered (.error e) state →
      ∀ name, (s.step zone step).1.get? name = s.get? name) ∧
    ∀ name v, s.get? name = some v → ∃ after answer,
      (s.step zone (.act name .advance)).2 = .answered answer (some after.state) ∧
      v.AdvancedTo s.clock.read.1 after ∧
      (s.step zone (.act name .advance)).1.get? name = some after ∧
      (∀ other, other ≠ name →
        (s.step zone (.act name .advance)).1.get? other = s.get? other) ∧
      (s.step zone (.act name .advance)).1.clock = s.clock.read.2 ∧
      ∀ e, answer = .error e ↔ e = .numeral .tooLarge ∧
        ∃ c, Text.digitLimit < (Text.decimal (after.state.counter c)).length := by
  constructor
  · intro step e state hadvance herror
    exact s.step_of_error zone hadvance herror
  · intro name v hv
    have hstep := s.step_act zone hv .advance
    have hreply := s.reply_act zone hv .advance
    rw [v.act_advance] at hstep hreply
    refine ⟨_, _, hreply, v.advancedTo_advance s.clock, ?_, ?_, ?_, ?_⟩
    · rw [hstep, Session.get?_put_self]
    · intro other hother
      rw [hstep, s.get?_put_of_ne hother]
    · rw [hstep, Session.put]
    · intro e
      rw [← v.advance_eq_error_iff]
      cases (v.advance s.clock).1.2 with
      | error e => simp [Except.map]
      | ok c => simp [Except.map]

/-- A minor number fails to be set. Then the build number is advanced, but the major number is too
long for that to be announced. -/
theorem session_failure_unannounced : ∃ s v after, Session.get? s "a" = some v ∧
    v.usesCounter .build = true ∧ v.usesCounter .major = false ∧
    (s.step .utc (.act "a" (.setCounter .minor (.int (-1))))).1.get? "a" = some v ∧
    (s.step .utc (.act "a" .advance)).2 =
      .answered (.error (.numeral .tooLarge)) (some after.state) ∧
    (s.step .utc (.act "a" .advance)).1.get? "a" = some after ∧
    after.state.build = v.state.build + 1 ∧ after.state.major = v.state.major := by
  obtain ⟨n, hn⟩ : ∃ n, Text.digitLimit < (Text.decimal n).length := by
    refine ⟨Nat.pow 10 Text.digitLimit, ?_⟩
    rw [← not_le, Text.decimal_length_le_iff (by decide)]
    exact lt_irrefl _
  obtain ⟨t, ht, hbuild, hmajor⟩ : ∃ t, Template.compile ['%', 'b', '%'] none = .ok t ∧
      t.uses .build = true ∧ t.uses .major = false := ⟨_, rfl, rfl, rfl⟩
  obtain ⟨s, v, hv, hrefused, htemplate, hlong⟩ : ∃ s v, Session.get? s "a" = some v ∧
      (s.step .utc (.act "a" (.setCounter .minor (.int (-1))))).2 =
        .answered (.error (.counter (.negative .minor (-1)))) (some v.state) ∧
      v.template = t ∧ v.state.major = n :=
    ⟨⟨[("a", ⟨t, ⟨n, 0, 7, ⟨.start, 0⟩, .utc⟩⟩)], .ofSteps ⟨.start, 0⟩ 1⟩, _, rfl, rfl, rfl, rfl⟩
  rcases session_failure .utc s with ⟨hkept, hadvance⟩
  rcases hadvance "a" v hv with ⟨after, answer, hreply, hafter, hslot, -, -, herror⟩
  have hbuild' : v.usesCounter .build = true := by rw [Version.usesCounter, htemplate, hbuild]
  have hmajor' : v.usesCounter .major = false := by rw [Version.usesCounter, htemplate, hmajor]
  have hsame : after.state.major = v.state.major := by simp [hafter.major, hmajor']
  have hfails : answer = .error (.numeral .tooLarge) := by
    refine (herror _).2 ⟨rfl, .major, ?_⟩
    rw [State.counter, hsame, hlong]
    exact hn
  refine ⟨s, v, after, hv, hbuild', hmajor', ?_, ?_, hslot, ?_, hsame⟩
  · rw [hkept _ _ _ id hrefused, hv]
  · rw [hreply, hfails]
  · simp [hafter.build, hbuild']

end VersionStamp
