import VersionStamp.Proofs.Outcome
import VersionStamp.Proofs.Transition

/-! Sessions over many steps. A step changes the version of one slot at most, in the ways in which its
action can, and takes one reading of the clock or none. Other slots are left alone over any number
of steps, so a copy and its model go their own ways. -/

namespace VersionStamp

open Calendar

/-! ### Readings of the clock -/

/-- One reading was taken of the clock if `p`, and none otherwise. -/
structure Clock.ReadIf (p : Prop) (clock after : Clock) : Prop where
  read : p → after = clock.read.2
  kept : ¬p → after = clock

namespace Clock.ReadIf

variable {p q : Prop} {clock after : Clock}

theorem of_read (hp : p) (h : after = clock.read.2) : ReadIf p clock after :=
  ⟨fun _ => h, fun hn => absurd hp hn⟩

theorem of_kept (hn : ¬p) (h : after = clock) : ReadIf p clock after :=
  ⟨fun hp => absurd hp hn, fun _ => h⟩

theorem congr (h : ReadIf p clock after) (hpq : q ↔ p) : ReadIf q clock after := by
  rwa [hpq]

end Clock.ReadIf

theorem Stamp.clock_resolve (stamp : Stamp) (zone : Zone) (mode : ZoneMode) (clock : Clock) :
    Clock.ReadIf (stamp = .now) clock (stamp.resolve zone mode clock).2 := by
  cases stamp with
  | now => exact .of_read rfl rfl
  | aware t => exact .of_kept (by simp) rfl
  | naive w => exact .of_kept (by simp) rfl

/-- The values are those of counters. -/
def AreCounters (major minor build : Value) : Prop :=
  ∃ a b c : ℕ, major = .int a ∧ minor = .int b ∧ build = .int c

theorem areCounters_iff {major minor build : Value} : AreCounters major minor build ↔
    ∃ counters, (do return (← Counter.major.ofValue major, ← Counter.minor.ofValue minor,
      ← Counter.build.ofValue build) : Except CounterError (ℕ × ℕ × ℕ)) = .ok counters := by
  constructor
  · rintro ⟨a, b, c, rfl, rfl, rfl⟩
    refine ⟨(a, b, c), ?_⟩
    rw [Counter.ofValue_eq_ok_iff.2 rfl, Counter.ofValue_eq_ok_iff.2 rfl,
      Counter.ofValue_eq_ok_iff.2 rfl]
    rfl
  · rintro ⟨counters, h⟩
    rcases bind_eq_ok.1 h with ⟨a, ha, h⟩
    rcases bind_eq_ok.1 h with ⟨b, hb, h⟩
    rcases bind_eq_ok.1 h with ⟨c, hc, -⟩
    exact ⟨a, b, c, Counter.ofValue_eq_ok_iff.1 ha, Counter.ofValue_eq_ok_iff.1 hb,
      Counter.ofValue_eq_ok_iff.1 hc⟩

theorem State.clock_create (zone : Zone) (clock : Clock) (major minor build : Value)
    (stamp : Stamp) (mode : ZoneMode) :
    Clock.ReadIf (AreCounters major minor build ∧ stamp = .now) clock
      (create zone clock major minor build stamp mode).2 := by
  rw [create, areCounters_iff]
  split
  · rename_i e herror
    refine .of_kept ?_ rfl
    rintro ⟨⟨counters, hcounters⟩, -⟩
    rw [herror] at hcounters
    cases hcounters
  · rename_i a b c hcounters
    have hclock := stamp.clock_resolve zone mode clock
    split
    all_goals
      rename_i hresolve
      rw [hresolve] at hclock
      exact hclock.congr (and_iff_right ⟨_, hcounters⟩)

/-- The values offered get as far as the settling of the time, and the time is to be now. -/
def Offer.ReadsClock (offer : Offer) : Prop :=
  (∃ template, Template.compile offer.source offer.recognizer = .ok template) ∧
    AreCounters offer.major offer.minor offer.build ∧ offer.stamp = .now

namespace Version

theorem clock_create (zone : Zone) (clock : Clock) (offer : Offer) :
    Clock.ReadIf offer.ReadsClock clock (create zone clock offer).2 := by
  rw [create, Offer.ReadsClock]
  cases Template.compile offer.source offer.recognizer with
  | error e => exact .of_kept (by simp) rfl
  | ok template =>
    have hclock := State.clock_create zone clock offer.major offer.minor offer.build offer.stamp
      offer.mode
    rw [and_iff_right ⟨template, rfl⟩]
    rcases hstate : State.create zone clock offer.major offer.minor offer.build offer.stamp
      offer.mode with ⟨_ | _, clock'⟩
    all_goals
      rw [hstate] at hclock
      exact hclock

theorem clock_ofCandidate (zone : Zone) (clock : Clock) (source : List Char)
    (recognizer : Option (List Char)) (mode : ZoneMode) (candidate : List Char) :
    Clock.ReadIf (∃ template, Template.compile source recognizer = .ok template) clock
      (ofCandidate zone clock source recognizer mode candidate).2 := by
  rw [ofCandidate]
  cases Template.compile source recognizer with
  | error e => exact .of_kept (by simp) rfl
  | ok template =>
    refine .of_read ⟨template, rfl⟩ ?_
    simp only [Template.parse]
    cases template.parseAt zone mode clock.read.1 candidate <;> rfl

end Version

/-! ### Slots -/

theorem slot?_storeSlot_self (name : String) (v : Version) (slots : List (String × Version)) :
    slot? name (storeSlot name v slots) = some v := by
  induction slots with
  | nil => simp [storeSlot, slot?]
  | cons slot slots ih =>
    rcases slot with ⟨n, w⟩
    by_cases hn : n = name
    · simp [storeSlot, slot?, hn]
    · simp [storeSlot, slot?, hn, ih]

theorem slot?_storeSlot_of_ne {name other : String} (h : other ≠ name) (v : Version)
    (slots : List (String × Version)) :
    slot? other (storeSlot name v slots) = slot? other slots := by
  induction slots with
  | nil => simp [storeSlot, slot?, h.symm]
  | cons slot slots ih =>
    rcases slot with ⟨n, w⟩
    by_cases hn : n = name
    · simp [storeSlot, slot?, hn, h.symm]
    · simp [storeSlot, slot?, hn, ih]

/-- The slot whose version a step may change or replace. -/
def Step.target? : Step → Option String
  | .create slot _ | .parse slot _ _ _ _ | .copy _ slot | .act slot _ => some slot
  | .compare _ _ => none

namespace Session

variable (s : Session) (zone : Zone)

theorem get?_put_self (name : String) (v : Version) (clock : Clock) :
    (s.put name v clock).get? name = some v := slot?_storeSlot_self name v s.slots

theorem get?_put_of_ne {name other : String} (h : other ≠ name) (v : Version) (clock : Clock) :
    (s.put name v clock).get? other = s.get? other := slot?_storeSlot_of_ne h v s.slots

theorem get?_store_of_ne {name other : String} (h : other ≠ name)
    (made : Except VersionError Version × Clock) :
    (s.store name made).1.get? other = s.get? other := by
  rcases made with ⟨_ | v, clock⟩
  · rfl
  · exact s.get?_put_of_ne h v clock

theorem clock_store (name : String) (made : Except VersionError Version × Clock) :
    (s.store name made).1.clock = made.2 := by
  rcases made with ⟨_ | v, clock⟩ <;> rfl

/-- Whether a step takes a reading of the clock. -/
def ReadsClock : Step → Prop
  | .create _ offer => offer.ReadsClock
  | .parse _ source recognizer _ _ =>
    ∃ template, Template.compile source recognizer = .ok template
  | .act slot action => (∃ v, s.get? slot = some v) ∧ action.readsClock = true
  | .copy _ _ | .compare _ _ => False

/-- What one step makes of a session. -/
structure Transition (before : Session) (step : Step) (after : Session) : Prop where
  acted : ∀ name action v, step = .act name action → before.get? name = some v →
    ∃ w, after.get? name = some w ∧ v.Transition zone before.clock action w
  absent : ∀ name action, step = .act name action → before.get? name = none → after = before
  isolated : ∀ name, step.target? ≠ some name → after.get? name = before.get? name
  clock : Clock.ReadIf (before.ReadsClock step) before.clock after.clock

theorem step_act {name : String} {v : Version} (h : s.get? name = some v) (action : Action) :
    (s.step zone (.act name action)).1 =
      s.put name (v.act zone s.clock action).version (v.act zone s.clock action).clock := by
  simp only [step, h]

theorem step_copy {model : String} {v : Version} (h : s.get? model = some v) (name : String) :
    (s.step zone (.copy model name)).1 = s.put name v s.clock := by
  simp only [step, h]

theorem step_isolated {step : Step} {name : String} (h : step.target? ≠ some name) :
    (s.step zone step).1.get? name = s.get? name := by
  have hne {slot : String} (hslot : some slot ≠ some name) : name ≠ slot :=
    fun h => hslot (by rw [h])
  cases step with
  | create slot offer => exact s.get?_store_of_ne (hne h) _
  | parse slot source recognizer mode candidate => exact s.get?_store_of_ne (hne h) _
  | copy model slot =>
    cases hv : s.get? model with
    | none => simp only [step, hv]
    | some v => rw [s.step_copy zone hv, s.get?_put_of_ne (hne h)]
  | act slot action =>
    cases hv : s.get? slot with
    | none => simp only [step, hv]
    | some v => rw [s.step_act zone hv, s.get?_put_of_ne (hne h)]
  | compare slot other =>
    rw [step]
    split <;> rfl

theorem clock_step (step : Step) :
    Clock.ReadIf (s.ReadsClock step) s.clock (s.step zone step).1.clock := by
  cases step with
  | create slot offer =>
    rw [Session.step, clock_store]
    exact Version.clock_create zone s.clock offer
  | parse slot source recognizer mode candidate =>
    rw [Session.step, clock_store]
    exact Version.clock_ofCandidate zone s.clock source recognizer mode candidate
  | copy model slot =>
    refine .of_kept id ?_
    rw [step]
    split <;> rfl
  | act slot action =>
    rw [ReadsClock]
    cases hv : s.get? slot with
    | none => exact .of_kept (by simp) (by simp only [step, hv])
    | some v =>
      have hclock : (s.step zone (.act slot action)).1.clock =
          if action.readsClock then s.clock.read.2 else s.clock := by
        rw [s.step_act zone hv]
        exact v.clock_act zone s.clock action
      cases haction : action.readsClock with
      | true => exact .of_read (by simp) (by rw [hclock, if_pos haction])
      | false => exact .of_kept (by simp) (by rw [hclock, haction]; rfl)
  | compare slot other =>
    refine .of_kept id ?_
    rw [step]
    split <;> rfl

theorem transition_step (step : Step) : s.Transition zone step (s.step zone step).1 where
  acted name action v hstep hv := by
    subst hstep
    rw [s.step_act zone hv]
    exact ⟨_, s.get?_put_self .., (v.effect_act zone s.clock action).transition⟩
  absent name action hstep hv := by
    subst hstep
    simp only [Session.step, hv]
  isolated _ := s.step_isolated zone
  clock := s.clock_step zone step

/-- A session after a number of steps. -/
def run (zone : Zone) (s : Session) (steps : List Step) : Session :=
  steps.foldl (fun s step => (s.step zone step).1) s

theorem run_append (steps more : List Step) :
    s.run zone (steps ++ more) = (s.run zone steps).run zone more := List.foldl_append

/-- A slot that no step is about keeps its version. -/
theorem run_isolated {steps : List Step} {name : String}
    (h : ∀ step ∈ steps, step.target? ≠ some name) : (s.run zone steps).get? name = s.get? name := by
  induction steps generalizing s with
  | nil => rfl
  | cons step steps ih =>
    rw [List.forall_mem_cons] at h
    exact (ih (s.step zone step).1 h.2).trans (s.step_isolated zone h.1)

theorem get?_copy {model copy name : String} {v : Version} (h : s.get? model = some v)
    (hname : name = model ∨ name = copy) :
    (s.step zone (.copy model copy)).1.get? name = some v := by
  rw [s.step_copy zone h]
  by_cases hcopy : name = copy
  · rw [hcopy, get?_put_self]
  · rw [s.get?_put_of_ne hcopy, hname.resolve_right hcopy, h]

end Session

/-- The transition law of sessions. After any steps the next one changes the version that it acts on
only as its action can, leaves all other slots alone, and takes one reading of the clock or none. A
copy and its model keep their version until a step is about the one or the other. -/
theorem session_transition (zone : Zone) (start : Session) (steps : List Step) (step : Step) :
    (start.run zone steps).Transition zone step (start.run zone (steps ++ [step])) ∧
    ∀ model copy v, step = .copy model copy → (start.run zone steps).get? model = some v →
      ∀ name more, name = model ∨ name = copy → (∀ next ∈ more, next.target? ≠ some name) →
        (start.run zone (steps ++ step :: more)).get? name = some v := by
  constructor
  · rw [Session.run_append]
    exact (start.run zone steps).transition_step zone step
  · rintro model copy v rfl hv name more hname hmore
    rw [Session.run_append]
    exact (Session.run_isolated _ zone hmore).trans (Session.get?_copy _ zone hv hname)

/-- After a copy was taken a minor number fails to be set, and then the model is advanced. -/
theorem session_transition_copied : ∃ zone start steps v w,
    Session.get? (Session.run zone start steps) "a" = some v ∧
    Session.get? (Session.run zone start (steps ++ [.act "a" .advance])) "a" = some w ∧
    w.state.minor = v.state.minor + 1 ∧ w.state.build = v.state.build ∧
    w.template = v.template ∧
    Session.get? (Session.run zone start (steps ++ [.act "a" .advance])) "b" = some v ∧
    (Session.run zone start (steps ++ [.act "a" .advance])).clock =
      (Session.run zone start steps).clock.read.2 := by
  obtain ⟨start, steps, v, w, hv, hcopy, hbuild, hw, hminor⟩ : ∃ start steps v w,
      Session.get? (Session.run .utc start steps) "a" = some v ∧
      Session.get? (Session.run .utc start steps) "b" = some v ∧
      v.usesCounter .build = false ∧
      Session.get? (Session.run .utc start (steps ++ [.act "a" .advance])) "a" = some w ∧
      w.state.minor = v.state.minor + 1 :=
    ⟨⟨[], .ofSteps ⟨.start, 0⟩ 1⟩,
      [.create "a" ⟨['%', 'M', '%', '.', '%', 'm', '%'], none, .int 1, .int 2, .int 0, .now, .utc⟩,
        .copy "a" "b", .act "a" (.setCounter .minor (.int (-1)))],
      _, _, rfl, rfl, rfl, rfl, rfl⟩
  obtain ⟨hstep, -⟩ := session_transition .utc start steps (.act "a" .advance)
  obtain ⟨_, hw', hchange⟩ := hstep.acted _ _ v rfl hv
  obtain rfl := Option.some.inj (hw.symm.trans hw')
  refine ⟨.utc, start, steps, v, w, hv, hw, hminor, ?_, ?_, ?_, hstep.clock.read ⟨⟨v, hv⟩, rfl⟩⟩
  · by_contra hne
    rcases hchange.build hne with haction | ⟨-, haction | ⟨-, huses⟩⟩
    · cases haction
    · cases haction
    · rw [hbuild] at huses
      cases huses
  · by_contra hne
    rcases hchange.template hne with ⟨_, _, haction, -⟩
    cases haction
  · rw [hstep.isolated "b" (by decide), hcopy]

end VersionStamp
