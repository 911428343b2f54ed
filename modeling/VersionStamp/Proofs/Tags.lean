import Mathlib.Data.List.Induction
import VersionStamp.Proofs.Outcome
import VersionStamp.Proofs.Parse
import VersionStamp.Tags

/-! The newest of the names of tags. The search reads the matching names one after the other and
keeps the first of the greatest states. Their counters are not exceeded by those of any name that
can be read, and the version after it exceeds them all. -/

namespace VersionStamp

open Calendar

/-- A state whose key is the greatest among some states, or none where there are none. -/
def Greatest {κ : Type} [LE κ] (key : State → κ) (among : State → Prop) : Option State → Prop
  | none => ∀ p, ¬among p
  | some s => among s ∧ ∀ p, among p → key p ≤ key s

theorem Greatest.map_eq {κ : Type} [PartialOrder κ] {key : State → κ} {among : State → Prop}
    {a b : Option State} (ha : Greatest key among a) (hb : Greatest key among b) :
    a.map key = b.map key := by
  cases a with
  | none =>
    cases b with
    | none => rfl
    | some s => exact absurd hb.1 (ha s)
  | some r =>
    cases b with
    | none => exact absurd ha.1 (hb r)
    | some s => exact congrArg some (le_antisymm (hb.2 r ha.1) (ha.2 s hb.1))

/-- Number `i` of what was read is `s`, the first of the greatest. -/
structure IsNewest (read : List (Option State)) (i : Nat) (s : State) : Prop where
  get : read[i]? = some (some s)
  le : ∀ (j : Nat) (p : State), read[j]? = some (some p) → p.sortKey ≤ s.sortKey
  first : ∀ (j : Nat) (p : State), j < i → read[j]? = some (some p) → p.sortKey < s.sortKey

theorem getElem?_append_singleton {read : List (Option State)} {o : Option State} {j : Nat}
    {p : State} : (read ++ [o])[j]? = some (some p) ↔
      read[j]? = some (some p) ∨ j = read.length ∧ o = some p := by
  rcases lt_trichotomy j read.length with h | rfl | h
  · simp [List.getElem?_append_left h, h.ne]
  · simp
  · simp [List.getElem?_append_right h.le, h.ne', h.le, show j - read.length ≠ 0 by omega]

namespace IsNewest

variable {read : List (Option State)} {i : Nat} {b s : State} {o : Option State}

theorem append (h : IsNewest read i b) (ho : ∀ p : State, o = some p → p.sortKey ≤ b.sortKey) :
    IsNewest (read ++ [o]) i b where
  get := getElem?_append_singleton.2 (.inl h.get)
  le j p hp := by
    rcases getElem?_append_singleton.1 hp with hp | ⟨-, hp⟩
    · exact h.le j p hp
    · exact ho p hp
  first j p hj hp := by
    rcases getElem?_append_singleton.1 hp with hp | ⟨rfl, -⟩
    · exact h.first j p hj hp
    · exact absurd (List.getElem?_eq_some_iff.1 h.get).1 hj.not_gt

theorem append_self
    (h : ∀ (j : Nat) (p : State), read[j]? = some (some p) → p.sortKey < s.sortKey) :
    IsNewest (read ++ [some s]) read.length s where
  get := getElem?_append_singleton.2 (.inr ⟨rfl, rfl⟩)
  le j p hp := by
    rcases getElem?_append_singleton.1 hp with hp | ⟨-, hp⟩
    · exact (h j p hp).le
    · rw [Option.some.inj hp]
  first j p hj hp := by
    rcases getElem?_append_singleton.1 hp with hp | ⟨rfl, -⟩
    · exact h j p hp
    · exact absurd hj (lt_irrefl _)

end IsNewest

namespace Template

/-- The search passes over what could not be read. -/
def keep (best : Option State) : Option State → Option State
  | none => best
  | some s => newer best s

/-- Keeping the newer of two states, from the first to the last, leaves the first of the greatest. -/
theorem foldl_keep_spec (read : List (Option State)) :
    (read.foldl keep none = none ∧ ∀ (j : Nat) (p : State), read[j]? ≠ some (some p)) ∨
      ∃ i s, read.foldl keep none = some s ∧ IsNewest read i s := by
  induction read using List.reverseRecOn with
  | nil => exact .inl ⟨rfl, by simp⟩
  | append_singleton read o ih =>
    rw [List.foldl_append, List.foldl_cons, List.foldl_nil]
    cases o with
    | none =>
      rcases ih with ⟨hfold, hnone⟩ | ⟨i, b, hfold, hb⟩
      · refine .inl ⟨hfold, fun j p hp => ?_⟩
        rcases getElem?_append_singleton.1 hp with hp | ⟨-, hp⟩
        · exact hnone j p hp
        · cases hp
      · exact .inr ⟨i, b, hfold, hb.append fun p hp => by cases hp⟩
    | some s =>
      right
      rcases ih with ⟨hfold, hnone⟩ | ⟨i, b, hfold, hb⟩
      · rw [hfold]
        exact ⟨_, s, rfl, .append_self fun j p hp => absurd hp (hnone j p)⟩
      · rw [hfold, keep, newer]
        by_cases h : s.order b = .gt
        · rw [if_pos h]
          have hlt := State.order_eq_gt_iff.1 h
          exact ⟨_, s, rfl, .append_self fun j p hp => (hb.le j p hp).trans_lt hlt⟩
        · rw [if_neg h]
          rw [State.order_eq_gt_iff, not_lt] at h
          refine ⟨i, b, rfl, hb.append fun p hp => ?_⟩
          rwa [← Option.some.inj hp]

section

variable (t : Template) (zone : Zone) (mode : ZoneMode)

/-- What names are read as, each at the next reading of the clock. -/
def readings (clock : Clock) (names : List (List Char)) : List (Option State) :=
  names.mapIdx fun i name =>
    (t.parseAt zone mode (clock.reading (clock.calls + i)) name).toOption

/-- One of the names matches and is read as `p`, at some time. -/
def Shown (names : List (List Char)) (p : State) : Prop :=
  ∃ name ∈ names, t.recognizes name = true ∧ ∃ now, t.parseAt zone mode now name = .ok p

variable {t zone mode}

theorem getElem?_readings {clock : Clock} {names : List (List Char)} {i : Nat} {s : State} :
    (t.readings zone mode clock names)[i]? = some (some s) ↔ ∃ name, names[i]? = some name ∧
      t.parseAt zone mode (clock.reading (clock.calls + i)) name = .ok s := by
  simp [readings, toOption_eq_some_iff]

theorem readings_cons (clock : Clock) (name : List Char) (names : List (List Char)) :
    t.readings zone mode clock (name :: names) =
      (t.parseAt zone mode clock.read.1 name).toOption ::
        t.readings zone mode clock.read.2 names := by
  rw [readings, List.mapIdx_cons, readings]
  simp only [Clock.read, Nat.add_zero, Nat.add_assoc, Nat.add_comm 1]

variable (t zone mode)

theorem newestOf_eq (names : List (List Char)) (best : Option State) (clock : Clock) :
    t.newestOf zone mode names best clock =
      ((t.readings zone mode clock names).foldl keep best,
        ⟨clock.reading, clock.calls + names.length⟩) := by
  induction names generalizing best clock with
  | nil => rfl
  | cons name names ih =>
    have hcalls : clock.read.2.calls + names.length = clock.calls + (name :: names).length := by
      simp only [Clock.read, List.length_cons]
      omega
    rw [newestOf, parse, readings_cons, List.foldl_cons, ← hcalls]
    cases t.parseAt zone mode clock.read.1 name with
    | error e => exact ih best clock.read.2
    | ok s => exact ih (newer best s) clock.read.2

/-- The state that the search among names finds. -/
def newest (clock : Clock) (names : List (List Char)) : Option State :=
  (t.readings zone mode clock (t.recognized names)).foldl keep none

theorem newestVersion_eq (clock : Clock) (names : List (List Char)) :
    t.newestVersion zone mode clock names =
      ((t.newest zone mode clock names).map fun s => ⟨t, s⟩,
        ⟨clock.reading, clock.calls + names.countP t.recognizes⟩) := by
  rw [newestVersion, newestOf_eq, List.countP_eq_length_filter]
  rfl

variable {t zone mode}

theorem shown_append {names : List (List Char)} {tag : List Char} {p : State} :
    t.Shown zone mode (names ++ [tag]) p ↔ t.Shown zone mode names p ∨
      (t.recognizes tag = true ∧ ∃ now, t.parseAt zone mode now tag = .ok p) := by
  simp only [Shown, List.mem_append, List.mem_singleton]
  constructor
  · rintro ⟨name, hmem | rfl, hread⟩
    · exact .inl ⟨name, hmem, hread⟩
    · exact .inr hread
  · rintro (⟨name, hmem, hread⟩ | hread)
    · exact ⟨name, .inl hmem, hread⟩
    · exact ⟨tag, .inr rfl, hread⟩

theorem mem_recognized {name : List Char} {names : List (List Char)} :
    name ∈ t.recognized names ↔ name ∈ names ∧ t.recognizes name = true := List.mem_filter

theorem shown_of_reading {clock : Clock} {names : List (List Char)} {i : Nat} {s : State}
    (h : (t.readings zone mode clock (t.recognized names))[i]? = some (some s)) :
    t.Shown zone mode names s := by
  rcases getElem?_readings.1 h with ⟨name, hname, hread⟩
  rcases mem_recognized.1 (List.mem_of_getElem? hname) with ⟨hmem, hmatch⟩
  exact ⟨name, hmem, hmatch, _, hread⟩

/-- What is read at some time is read, with the same counters, whatever the clock says. -/
theorem Shown.exists_reading {names : List (List Char)} {p : State} (h : t.Shown zone mode names p)
    (clock : Clock) : ∃ (i : Nat) (q : State),
      (t.readings zone mode clock (t.recognized names))[i]? = some (some q) ∧
        q.counters = p.counters := by
  rcases h with ⟨name, hname, hmatch, now, hread⟩
  rcases List.getElem?_of_mem (mem_recognized.2 ⟨hname, hmatch⟩) with ⟨i, hi⟩
  rcases exists_parseAt hread (clock.reading (clock.calls + i)) with ⟨q, hq, hcounters⟩
  exact ⟨i, q, getElem?_readings.2 ⟨name, hi, hq⟩, hcounters⟩

variable (t zone mode)

/-- The first of the greatest, or nothing where nothing is shown. -/
theorem newest_spec (clock : Clock) (names : List (List Char)) :
    (t.newest zone mode clock names = none ∧ ∀ p, ¬t.Shown zone mode names p) ∨
      ∃ i s, t.newest zone mode clock names = some s ∧
        IsNewest (t.readings zone mode clock (t.recognized names)) i s := by
  refine (foldl_keep_spec _).imp_left fun ⟨hfold, hnone⟩ => ⟨hfold, fun p hp => ?_⟩
  rcases hp.exists_reading clock with ⟨j, q, hq, -⟩
  exact hnone j q hq

variable {t zone mode}

/-- What is greatest among the readings is so among all that is shown, as far as the readings tell
what that is. -/
theorem greatest_of_readings {κ : Type} [LE κ] {key : State → κ} {clock : Clock}
    {names : List (List Char)}
    (hkey : ∀ a b : State, a.sortKey ≤ b.sortKey → key a ≤ key b)
    (hread : ∀ p, t.Shown zone mode names p → ∃ (i : Nat) (q : State),
      (t.readings zone mode clock (t.recognized names))[i]? = some (some q) ∧ key q = key p) :
    Greatest key (t.Shown zone mode names) (t.newest zone mode clock names) := by
  rcases t.newest_spec zone mode clock names with ⟨hnewest, hnone⟩ | ⟨i, s, hnewest, hs⟩
  · rw [hnewest]
    exact hnone
  · rw [hnewest]
    refine ⟨shown_of_reading hs.get, fun p hp => ?_⟩
    rcases hread p hp with ⟨j, q, hq, hsame⟩
    rw [← hsame]
    exact hkey q s (hs.le j q hq)

variable (t zone mode)

theorem greatest_newest (clock : Clock) (names : List (List Char)) :
    Greatest State.counters (t.Shown zone mode names) (t.newest zone mode clock names) :=
  greatest_of_readings (fun _ _ => State.counters_le_of_sortKey_le)
    fun _ hp => hp.exists_reading clock

end

end Template

theorem Version.advance_eq (t : Template) (s : State) (clock : Clock) :
    Version.advance ⟨t, s⟩ clock =
      ((⟨t, s.advance (finestCounter fun c => t.uses (.counter c)) clock.read.1⟩,
        if (s.advance (finestCounter fun c => t.uses (.counter c)) clock.read.1).isWritable then
          .ok (finestCounter fun c => t.uses (.counter c))
        else .error (.numeral .tooLarge)),
        clock.read.2) := by
  change ((_, Except.mapError VersionError.numeral (if (s.advance
    (finestCounter fun c => t.uses (.counter c)) clock.read.1).isWritable then _ else _)), _) = _
  split <;> rfl

/-- A version of a template that comes after all versions among some names. -/
structure Version.Follows (v : Version) (t : Template) (zone : Zone) (mode : ZoneMode)
    (names : List (List Char)) : Prop where
  template_eq : v.template = t
  mode_eq : v.state.mode = mode
  unused : ∀ c, t.uses (.counter c) = false → v.state.counter c = 0
  lt : ∀ p, t.Shown zone mode names p → p.counters < v.state.counters

section

variable {t : Template} {zone : Zone} {mode : ZoneMode} {names : List (List Char)} {s : State}

theorem Template.Shown.mode_eq (h : t.Shown zone mode names s) : s.mode = mode := by
  rcases h with ⟨name, -, -, now, hread⟩
  rcases Template.parseAt_eq_ok_iff.1 hread with ⟨-, -, -, hmode, -⟩
  exact hmode

theorem Greatest.mode_eq {κ : Type} [LE κ] {key : State → κ} {newest : Option State}
    (h : Greatest key (t.Shown zone mode names) newest) : ∀ s ∈ newest, s.mode = mode := by
  rintro s rfl
  exact h.1.mode_eq

theorem Template.Shown.counter_eq_zero (h : t.Shown zone mode names s) {c : Counter}
    (hc : t.uses (.counter c) = false) : s.counter c = 0 := by
  rcases h with ⟨name, -, -, now, hread⟩
  exact counter_of_parseAt hread hc

theorem Version.follows_increment {c : Counter} (hc : t.uses (.counter c) = true)
    (h : Greatest State.counters (t.Shown zone mode names) (some s)) (now : Timestamp) :
    Version.Follows ⟨t, s.increment c now⟩ t zone mode names where
  template_eq := rfl
  mode_eq := by rw [State.mode_increment, h.1.mode_eq]
  unused d hd := by
    have hne : d ≠ c := by
      rintro rfl
      rw [hc] at hd
      cases hd
    exact s.counter_increment_of_ne now hne (h.1.counter_eq_zero hd)
  lt p hp := (h.2 p hp).trans_lt (s.counters_lt_increment now c)

theorem Version.follows_fresh (h : Greatest State.counters (t.Shown zone mode names) none)
    (now : Timestamp) :
    Version.Follows ⟨t, .fresh now mode⟩ t zone mode names where
  template_eq := rfl
  mode_eq := rfl
  unused d _ := by cases d <;> rfl
  lt p hp := absurd hp (h p)

end

namespace Template

/-- The version after the newest state, if there is one. -/
def successor (t : Template) (mode : ZoneMode) (now : Timestamp) :
    Option State → Except VersionError Version
  | none => .ok ⟨t, .fresh now mode⟩
  | some s =>
    let next := s.advance (finestCounter fun c => t.uses (.counter c)) now
    if next.isWritable then .ok ⟨t, next⟩ else .error (.numeral .tooLarge)

variable {t : Template} {zone : Zone} {mode : ZoneMode} {now : Timestamp} {v : Version}

theorem successor_eq_ok {newest : Option State} (h : t.successor mode now newest = .ok v) :
    newest = none ∧ v = ⟨t, .fresh now mode⟩ ∨ ∃ s, newest = some s ∧
      v = ⟨t, s.advance (finestCounter fun c => t.uses (.counter c)) now⟩ := by
  cases newest with
  | none => exact .inl ⟨rfl, (Except.ok.inj h).symm⟩
  | some s =>
    simp only [successor] at h
    split at h
    · exact .inr ⟨s, rfl, (Except.ok.inj h).symm⟩
    · cases h

theorem timestamp_of_successor {newest : Option State} (h : t.successor mode now newest = .ok v) :
    v.state.timestamp = now := by
  rcases successor_eq_ok h with ⟨-, rfl⟩ | ⟨s, -, rfl⟩
  · rfl
  · exact s.timestamp_advance now _

/-- The version that follows has the counters of the newest state to go by, and the clock. -/
theorem successor_congr {a b : Option State} (hcounters : a.map (·.counters) = b.map (·.counters))
    (ha : ∀ s ∈ a, s.mode = mode) (hb : ∀ s ∈ b, s.mode = mode) :
    t.successor mode now a = t.successor mode now b := by
  cases a with
  | none =>
    cases b with
    | none => rfl
    | some s => cases hcounters
  | some r =>
    cases b with
    | none => cases hcounters
    | some s =>
      have hmode : r.mode = s.mode := (ha r rfl).trans (hb s rfl).symm
      rw [successor, successor, r.advance_congr now (Option.some.inj hcounters) hmode]

theorem followingVersion_of_newestVersion {clock later : Clock} {names : List (List Char)}
    {newest : Option State} (h : t.newestVersion zone mode clock names =
      (newest.map fun s => ⟨t, s⟩, later)) :
    t.followingVersion zone mode clock names =
      (t.successor mode later.read.1 newest, later.read.2) := by
  rw [followingVersion, h]
  cases newest with
  | none => rfl
  | some s =>
    simp only [Option.map_some, Version.advance_eq, successor]
    by_cases hwritable : (s.advance (finestCounter fun c => t.uses (.counter c))
        later.read.1).isWritable = true
    · simp only [if_pos hwritable]
    · simp only [if_neg hwritable]

/-- The next version follows, and is stamped with a reading of the clock. -/
theorem followingVersion_spec (hcounter : ∃ c, t.uses (.counter c) = true) {clock after : Clock}
    {names : List (List Char)} (h : t.followingVersion zone mode clock names = (.ok v, after)) :
    v.Follows t zone mode names ∧ (∃ n, v.state.timestamp = clock.reading n) ∧
      after.reading = clock.reading := by
  have hlatest := t.greatest_newest zone mode clock names
  rw [followingVersion_of_newestVersion (t.newestVersion_eq zone mode clock names)] at h
  rcases Prod.mk.inj h with ⟨hv, rfl⟩
  refine ⟨?_, ⟨_, timestamp_of_successor hv⟩, rfl⟩
  rcases successor_eq_ok hv with ⟨hnewest, rfl⟩ | ⟨s, hnewest, rfl⟩
  · rw [hnewest] at hlatest
    exact Version.follows_fresh hlatest _
  · rw [hnewest] at hlatest
    rcases finestCounter_eq_some hcounter with ⟨c, hfinest, hc⟩
    rw [hfinest]
    exact Version.follows_increment hc hlatest _

end Template

end VersionStamp
