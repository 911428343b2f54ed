import VersionStamp.Proofs.State
import VersionStamp.Session

/-! What an action changes about a version. An action has one of few effects: it sets one thing, or it
advances a counter and captures the time, or it leaves the version as it was. What may change, and
by which action, is read off from these effects. -/

namespace VersionStamp

open Calendar

/-- Whether an action takes a reading of the clock. -/
def Action.readsClock : Action → Bool
  | .setStamp .now | .advance | .increment _ | .refresh => true
  | _ => false

/-- For an action that captures the time: the counter that it advances, if any. -/
def Version.advancedBy? (v : Version) : Action → Option (Option Counter)
  | .advance => some (finestCounter v.usesCounter)
  | .increment c => some (some c)
  | .refresh => some none
  | _ => none

/-- The effects of an action on a version. -/
inductive Version.Effect (v : Version) (zone : Zone) (clock : Clock) : Action → Version → Prop
  /-- The action only looks, or it fails. -/
  | kept {action : Action} (h : action.readsClock = false) : v.Effect zone clock action v
  | counter {c : Counter} {n : ℕ} {state : State} (h : v.state.setCounter c n = .ok state) :
      v.Effect zone clock (.setCounter c (.int n)) { v with state }
  | stamp {stamp : Stamp} {timestamp : Timestamp}
      (h : (stamp.resolve zone v.state.mode clock).1 = .ok timestamp) :
      v.Effect zone clock (.setStamp stamp) { v with state := v.state.refresh timestamp }
  | mode (mode : ZoneMode) :
      v.Effect zone clock (.setMode mode) { v with state := { v.state with mode } }
  | advance {action : Action} {c : Option Counter} (h : v.advancedBy? action = some c) :
      v.Effect zone clock action { v with state := v.state.advance c clock.read.1 }
  | template {source : List Char} {recognizer : Option (List Char)} {template : Template}
      (h : Template.compile source recognizer = .ok template) :
      v.Effect zone clock (.changeTemplate source recognizer) { v with template }

namespace Version

variable (v : Version) (zone : Zone) (clock : Clock)

theorem effect_changing {action : Action} {clock' : Clock} {changed : Except VersionError Version}
    (hfail : ∀ e, changed = .error e → action.readsClock = false)
    (h : ∀ after, changed = .ok after → v.Effect zone clock action after) :
    v.Effect zone clock action (v.changing clock' changed).version := by
  cases changed with
  | error e => exact .kept (hfail e rfl)
  | ok after => exact h after rfl

theorem effect_of_setCounter {c : Counter} {value : Value} {after : Version}
    (h : v.setCounter c value = .ok after) :
    v.Effect zone clock (.setCounter c value) after := by
  rw [setCounter] at h
  split at h
  · cases h
  · rename_i n hn
    cases Counter.ofValue_eq_ok_iff.1 hn
    split at h
    · cases h
    · rename_i state hstate
      cases h
      exact .counter hstate

theorem effect_of_setStamp {stamp : Stamp} {after : Version}
    (h : (v.setStamp zone clock stamp).1 = .ok after) :
    v.Effect zone clock (.setStamp stamp) after := by
  rw [setStamp] at h
  split at h
  · cases h
  · rename_i timestamp clock' hstamp
    cases h
    exact .stamp (congrArg Prod.fst hstamp)

theorem readsClock_of_setStamp {stamp : Stamp} {e : VersionError}
    (h : (v.setStamp zone clock stamp).1 = .error e) :
    (Action.setStamp stamp).readsClock = false := by
  cases stamp with
  | now => cases h
  | aware t => rfl
  | naive w => rfl

theorem effect_of_withTemplate {source : List Char} {recognizer : Option (List Char)}
    {after : Version} (h : v.withTemplate source recognizer = .ok after) :
    v.Effect zone clock (.changeTemplate source recognizer) after := by
  rw [withTemplate] at h
  split at h
  · cases h
  · rename_i template htemplate
    cases h
    exact .template htemplate

/-- Every action has one of the effects. -/
theorem effect_act (action : Action) :
    v.Effect zone clock action (v.act zone clock action).version := by
  cases action with
  | setCounter c value =>
    exact v.effect_changing zone clock (fun _ _ => rfl) fun _ => v.effect_of_setCounter zone clock
  | setStamp stamp =>
    exact v.effect_changing zone clock (fun _ => v.readsClock_of_setStamp zone clock) fun _ =>
      v.effect_of_setStamp zone clock
  | changeTemplate source recognizer =>
    exact v.effect_changing zone clock (fun _ _ => rfl) fun _ => v.effect_of_withTemplate zone clock
  | setMode mode => exact .mode mode
  | advance => exact .advance rfl
  | increment c => exact .advance (c := some c) rfl
  | refresh => exact .advance (c := none) rfl
  | _ => exact .kept rfl

theorem clock_changing (clock : Clock) (changed : Except VersionError Version) :
    (v.changing clock changed).clock = clock := by
  cases changed <;> rfl

theorem clock_setStamp (stamp : Stamp) :
    (v.setStamp zone clock stamp).2 = (stamp.resolve zone v.state.mode clock).2 := by
  rw [setStamp]
  rcases stamp.resolve zone v.state.mode clock with ⟨_ | _, _⟩ <;> rfl

/-- The clock is read once or not at all, whatever comes of the action. -/
theorem clock_act (action : Action) :
    (v.act zone clock action).clock = if action.readsClock then clock.read.2 else clock := by
  cases action with
  | setStamp stamp =>
    rw [act, clock_changing, clock_setStamp]
    cases stamp <;> rfl
  | setCounter c value => exact v.clock_changing ..
  | changeTemplate source recognizer => exact v.clock_changing ..
  | _ => rfl

theorem advancedBy?_eq_some {action : Action} {c : Counter}
    (h : v.advancedBy? action = some (some c)) :
    action = .increment c ∨ action = .advance ∧ finestCounter v.usesCounter = some c := by
  cases action with
  | advance => exact .inr ⟨rfl, Option.some.inj h⟩
  | increment d =>
    cases h
    exact .inl rfl
  | _ => cases h

theorem captures_of_advancedBy? {action : Action} {c : Option Counter}
    (h : v.advancedBy? action = some c) :
    action = .advance ∨ (∃ d, action = .increment d) ∨ action = .refresh := by
  cases action with
  | advance => exact .inl rfl
  | increment d => exact .inr (.inl ⟨d, rfl⟩)
  | refresh => exact .inr (.inr rfl)
  | _ => cases h

end Version

/-- What may be different in a version after an action, and what must have brought it about. -/
structure Version.Transition (v : Version) (zone : Zone) (clock : Clock) (action : Action)
    (after : Version) : Prop where
  /-- Only a whole number that is not negative gets into a counter. -/
  assigned : ∀ c value, action = .setCounter c value →
    after = v ∨ ∃ n : ℕ, value = .int n ∧ after.state.counter c = n
  /-- A counter that is to be advanced is advanced. -/
  advanced : ∀ c, v.advancedBy? action = some (some c) →
    after.state.counter c = v.state.counter c + 1
  /-- A new major number starts with the minor number 0 and the same build number. -/
  major : after.state.major ≠ v.state.major →
    after.state.minor = 0 ∧ after.state.build = v.state.build
  minor : after.state.major = v.state.major → after.state.minor ≠ v.state.minor →
    action = .setCounter .minor (.int after.state.minor) ∨
    after.state.minor = v.state.minor + 1 ∧ (action = .increment .minor ∨
      action = .advance ∧ v.usesCounter .minor = true ∧ v.usesCounter .build = false)
  build : after.state.build ≠ v.state.build →
    action = .setCounter .build (.int after.state.build) ∨
    after.state.build = v.state.build + 1 ∧ (action = .increment .build ∨
      action = .advance ∧ v.usesCounter .build = true)
  timestamp : after.state.timestamp ≠ v.state.timestamp →
    (∃ stamp, action = .setStamp stamp ∧
      (stamp.resolve zone v.state.mode clock).1 = .ok after.state.timestamp) ∨
    after.state.timestamp = clock.read.1 ∧
      (action = .advance ∨ (∃ c, action = .increment c) ∨ action = .refresh)
  /-- Where the clock is read the reading is taken. -/
  captured : action.readsClock = true → after.state.timestamp = clock.read.1
  mode : after.state.mode ≠ v.state.mode → action = .setMode after.state.mode
  template : after.template ≠ v.template → ∃ source recognizer,
    action = .changeTemplate source recognizer ∧
      Template.compile source recognizer = .ok after.template

namespace Version.Effect

variable {v after : Version} {zone : Zone} {clock : Clock} {action : Action}
  (h : v.Effect zone clock action after)

include h

theorem assigned {c : Counter} {value : Value} (haction : action = .setCounter c value) :
    after = v ∨ ∃ n : ℕ, value = .int n ∧ after.state.counter c = n := by
  cases h with
  | kept => exact .inl rfl
  | counter h =>
    cases haction
    refine .inr ⟨_, rfl, ?_⟩
    rw [(State.setCounter_eq_ok h).1, if_pos rfl]
  | advance h =>
    rw [haction] at h
    cases h
  | _ => cases haction

theorem advanced {c : Counter} (hadvance : v.advancedBy? action = some (some c)) :
    after.state.counter c = v.state.counter c + 1 := by
  cases h with
  | @advance _ c' h =>
    obtain rfl : c' = some c := Option.some.inj (h.symm.trans hadvance)
    change (v.state.increment c clock.read.1).counter c = _
    rw [State.counter_increment, if_pos rfl]
  | kept h =>
    rcases v.captures_of_advancedBy? hadvance with rfl | ⟨_, rfl⟩ | rfl
    all_goals cases h
  | _ => cases hadvance

theorem major_changed (hne : after.state.major ≠ v.state.major) :
    after.state.minor = 0 ∧ after.state.build = v.state.build := by
  cases h with
  | @counter c n state h =>
    have hcounter := (State.setCounter_eq_ok h).1
    have hmajor : state.major = _ := hcounter .major
    have hminor : state.minor = _ := hcounter .minor
    have hbuild : state.build = _ := hcounter .build
    cases c with
    | major =>
      rw [if_pos rfl] at hmajor
      rw [if_neg (by decide), if_pos ⟨rfl, rfl, fun h => hne (hmajor.trans h)⟩] at hminor
      exact ⟨hminor, hbuild⟩
    | minor => exact absurd hmajor hne
    | build => exact absurd hmajor hne
  | @advance _ c h =>
    cases c with
    | none => exact absurd rfl hne
    | some c =>
      cases c with
      | major => exact ⟨rfl, rfl⟩
      | minor => exact absurd rfl hne
      | build => exact absurd rfl hne
  | _ => exact absurd rfl hne

theorem minor_changed (hmajor : after.state.major = v.state.major)
    (hne : after.state.minor ≠ v.state.minor) :
    action = .setCounter .minor (.int after.state.minor) ∨
    after.state.minor = v.state.minor + 1 ∧ (action = .increment .minor ∨
      action = .advance ∧ v.usesCounter .minor = true ∧ v.usesCounter .build = false) := by
  cases h with
  | @counter c n state h =>
    have hcounter := (State.setCounter_eq_ok h).1
    have hminor : state.minor = _ := hcounter .minor
    cases c with
    | major =>
      have hn : state.major = n := hcounter .major
      rw [if_neg (by decide), if_neg fun hnew => hnew.2.2 (hn.symm.trans hmajor)] at hminor
      exact absurd hminor hne
    | minor =>
      rw [if_pos rfl] at hminor
      exact .inl (by rw [hminor])
    | build => exact absurd hminor hne
  | @advance _ c h =>
    cases c with
    | none => exact absurd rfl hne
    | some c =>
      cases c with
      | major => exact absurd hmajor (Nat.succ_ne_self _)
      | minor =>
        refine .inr ⟨rfl, (v.advancedBy?_eq_some h).imp_right ?_⟩
        exact fun ⟨haction, hfinest⟩ => ⟨haction, finestCounter_eq_minor_iff.1 hfinest⟩
      | build => exact absurd rfl hne
  | _ => exact absurd rfl hne

theorem build_changed (hne : after.state.build ≠ v.state.build) :
    action = .setCounter .build (.int after.state.build) ∨
    after.state.build = v.state.build + 1 ∧ (action = .increment .build ∨
      action = .advance ∧ v.usesCounter .build = true) := by
  cases h with
  | @counter c n state h =>
    have hbuild : state.build = _ := (State.setCounter_eq_ok h).1 .build
    cases c with
    | major => exact absurd hbuild hne
    | minor => exact absurd hbuild hne
    | build =>
      rw [if_pos rfl] at hbuild
      exact .inl (by rw [hbuild])
  | @advance _ c h =>
    cases c with
    | none => exact absurd rfl hne
    | some c =>
      cases c with
      | major => exact absurd rfl hne
      | minor => exact absurd rfl hne
      | build =>
        refine .inr ⟨rfl, (v.advancedBy?_eq_some h).imp_right ?_⟩
        exact fun ⟨haction, hfinest⟩ => ⟨haction, finestCounter_eq_build_iff.1 hfinest⟩
  | _ => exact absurd rfl hne

theorem timestamp_changed (hne : after.state.timestamp ≠ v.state.timestamp) :
    (∃ stamp, action = .setStamp stamp ∧
      (stamp.resolve zone v.state.mode clock).1 = .ok after.state.timestamp) ∨
    after.state.timestamp = clock.read.1 ∧
      (action = .advance ∨ (∃ c, action = .increment c) ∨ action = .refresh) := by
  cases h with
  | counter h => exact absurd (State.setCounter_eq_ok h).2.1 hne
  | stamp h => exact .inl ⟨_, rfl, h⟩
  | advance h => exact .inr ⟨State.timestamp_advance .., v.captures_of_advancedBy? h⟩
  | _ => exact absurd rfl hne

theorem captured (hread : action.readsClock = true) :
    after.state.timestamp = clock.read.1 := by
  cases h with
  | kept h =>
    rw [h] at hread
    cases hread
  | @stamp stamp timestamp h =>
    cases stamp with
    | now => exact (Except.ok.inj h).symm
    | aware t => cases hread
    | naive w => cases hread
  | advance h => exact State.timestamp_advance ..
  | _ => cases hread

theorem mode_changed (hne : after.state.mode ≠ v.state.mode) :
    action = .setMode after.state.mode := by
  cases h with
  | counter h => exact absurd (State.setCounter_eq_ok h).2.2 hne
  | mode mode => rfl
  | advance h => exact absurd (State.mode_advance ..) hne
  | _ => exact absurd rfl hne

theorem template_changed (hne : after.template ≠ v.template) : ∃ source recognizer,
    action = .changeTemplate source recognizer ∧
      Template.compile source recognizer = .ok after.template := by
  cases h with
  | template h => exact ⟨_, _, rfl, h⟩
  | _ => exact absurd rfl hne

theorem transition : v.Transition zone clock action after where
  assigned _ _ := h.assigned
  advanced _ := h.advanced
  major := h.major_changed
  minor := h.minor_changed
  build := h.build_changed
  timestamp := h.timestamp_changed
  captured := h.captured
  mode := h.mode_changed
  template := h.template_changed

end Version.Effect

end VersionStamp
