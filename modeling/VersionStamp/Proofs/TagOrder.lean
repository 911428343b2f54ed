import VersionStamp.Proofs.Assemble
import VersionStamp.Proofs.Tags

/-! The newest version and the order of the names. The search finds the first of the greatest
states, and which counters those are depends only on which names there are. With a date the state
itself does not depend on anything else: what is read is then the same at every time, and on the
clock of the mode an instant has one timestamp. -/

namespace VersionStamp

open Calendar

namespace Template

variable {t : Template} {zone : Zone} {mode : ZoneMode} {names names' : List (List Char)}

theorem shown_congr (h : ∀ name, name ∈ names' ↔ name ∈ names) :
    t.Shown zone mode names' = t.Shown zone mode names := by
  funext p
  simp only [Shown, h]

/-- With a date, what was read at some time is found among the readings of any clock. -/
theorem Shown.exists_reading_of_date (hdate : t.uses .date = true) {p : State}
    (h : t.Shown zone mode names p) (clock : Clock) :
    ∃ i : Nat, (t.readings zone mode clock (t.recognized names))[i]? = some (some p) := by
  rcases h with ⟨name, hname, hmatch, now, hread⟩
  rcases List.getElem?_of_mem (mem_recognized.2 ⟨hname, hmatch⟩) with ⟨i, hi⟩
  rw [parseAt_of_uses_date hdate (clock.reading (clock.calls + i))] at hread
  exact ⟨i, getElem?_readings.2 ⟨name, hi, hread⟩⟩

theorem eq_of_sortKey_eq (hdate : t.uses .date = true) {p q : State}
    (hp : t.Shown zone mode names p) (hq : t.Shown zone mode names q)
    (h : p.sortKey = q.sortKey) : p = q := by
  have hstamp (s : State) (hs : t.Shown zone mode names s) :
      s.timestamp.offset = mode.offsetAt zone s.timestamp.instant * 1000000 := by
    rcases hs with ⟨name, -, -, now, hread⟩
    rcases parseAt_eq_ok_iff.1 hread with ⟨capture, hscan, htimestamp, -, -⟩
    have hne : capture.date ≠ [] := date_ne_nil_of_scanFrom (.inr (uses_iff.1 hdate)) hscan
    rw [Capture.timestamp, if_neg (by simpa using hne)] at htimestamp
    exact (offset_of_assemble htimestamp).1
  rcases State.sortKey_eq_iff.1 h with ⟨hcounters, hinstant⟩
  have htimestamp : p.timestamp = q.timestamp :=
    ZoneMode.eq_of_microInstant (hstamp p hp) (hstamp q hq) hinstant
  have hcounter := State.counters_eq_iff.1 hcounters
  rcases p with ⟨_, _, _, _, _⟩
  rw [State.mk.injEq]
  exact ⟨hcounter .major, hcounter .minor, hcounter .build, htimestamp,
    hp.mode_eq.trans hq.mode_eq.symm⟩

/-- With a date the search finds a state of the greatest counters and instant of all that is read. -/
theorem greatest_newest_of_date (zone : Zone) (mode : ZoneMode) (hdate : t.uses .date = true)
    (clock : Clock) (names : List (List Char)) :
    Greatest State.sortKey (t.Shown zone mode names) (t.newest zone mode clock names) := by
  refine greatest_of_readings (fun _ _ => id) fun p hp => ?_
  rcases hp.exists_reading_of_date hdate clock with ⟨i, hi⟩
  exact ⟨i, p, hi, rfl⟩

theorem eq_of_greatest (hdate : t.uses .date = true) {a b : Option State}
    (ha : Greatest State.sortKey (t.Shown zone mode names) a)
    (hb : Greatest State.sortKey (t.Shown zone mode names) b) : a = b := by
  have hkey := ha.map_eq hb
  cases a with
  | none =>
    cases b with
    | none => rfl
    | some s => simp at hkey
  | some r =>
    cases b with
    | none => simp at hkey
    | some s => rw [eq_of_sortKey_eq hdate ha.1 hb.1 (by simpa using hkey)]

end Template

/-- The newest version is the first of the greatest, and the clock is read once for each matching
name. Other names that are the same as a set give the same counters, and the same version if the
template has a date. -/
theorem newestVersion_maximum (t : Template) (zone : Zone) (mode : ZoneMode) (clock : Clock)
    (names : List (List Char)) :
    ∃ found, t.newestVersion zone mode clock names = (found.map fun s => ⟨t, s⟩,
        ⟨clock.reading, clock.calls + names.countP t.recognizes⟩) ∧
      (found = none ↔ ∀ name ∈ names, t.recognizes name = true →
        ∀ now p, t.parseAt zone mode now name ≠ .ok p) ∧
      (∀ s, found = some s → ∃ i name, (names.filter t.recognizes)[i]? = some name ∧
        t.parseAt zone mode (clock.reading (clock.calls + i)) name = .ok s ∧
        ∀ j other p, (names.filter t.recognizes)[j]? = some other →
          t.parseAt zone mode (clock.reading (clock.calls + j)) other = .ok p →
          p.sortKey ≤ s.sortKey ∧ (j < i → p.sortKey < s.sortKey)) ∧
      ∀ names' clock', (∀ name, name ∈ names' ↔ name ∈ names) →
        (t.newestVersion zone mode clock' names').1.map (·.state.counters) =
          found.map (·.counters) ∧
        (t.uses .date = true →
          (t.newestVersion zone mode clock' names').1 = found.map fun s => ⟨t, s⟩) := by
  refine ⟨_, t.newestVersion_eq zone mode clock names, ?_, ?_, fun names' clock' hsame => ⟨?_, ?_⟩⟩
  · have hgreatest := t.greatest_newest zone mode clock names
    constructor
    · intro hnewest name hname hmatch now p hread
      rw [hnewest] at hgreatest
      exact hgreatest p ⟨name, hname, hmatch, now, hread⟩
    · intro hunread
      cases hnewest : t.newest zone mode clock names with
      | none => rfl
      | some s =>
        rw [hnewest] at hgreatest
        rcases hgreatest.1 with ⟨name, hname, hmatch, now, hread⟩
        exact absurd hread (hunread name hname hmatch now s)
  · intro s hnewest
    rcases t.newest_spec zone mode clock names with ⟨hnone, -⟩ | ⟨i, s', hnewest', hs⟩
    · rw [hnone] at hnewest
      cases hnewest
    · rw [hnewest'] at hnewest
      cases hnewest
      rcases Template.getElem?_readings.1 hs.get with ⟨name, hname, hread⟩
      refine ⟨i, name, hname, hread, fun j other p hother hread' => ?_⟩
      have hp := Template.getElem?_readings.2 ⟨other, hother, hread'⟩
      exact ⟨hs.le j p hp, fun hj => hs.first j p hj hp⟩
  · have hgreatest := t.greatest_newest zone mode clock' names'
    rw [Template.shown_congr hsame] at hgreatest
    rw [Template.newestVersion_eq, Option.map_map]
    exact hgreatest.map_eq (t.greatest_newest zone mode clock names)
  · intro hdate
    have hgreatest := Template.greatest_newest_of_date zone mode hdate clock' names'
    rw [Template.shown_congr hsame] at hgreatest
    rw [Template.newestVersion_eq, Template.eq_of_greatest hdate hgreatest
      (Template.greatest_newest_of_date zone mode hdate clock names)]

/-- A build number and a date in local time: the tags of a day in two orders, one of them twice. -/
theorem newestVersion_maximum_swapped : ∃ t v,
    Template.compile ['%', 'b', '%', '-', '%', 'd', '%'] none = .ok t ∧
    (t.newestVersion ⟨3600, none⟩ .localTime (.ofSteps ⟨.start, 0⟩ 1)
      [['2', '-', '2', '0', '2', '4', '0', '1', '0', '1'], ['x'],
        ['3', '-', '2', '0', '2', '4', '0', '1', '0', '1']]).1 = some v ∧
    v.state.build = 3 ∧
    (t.newestVersion ⟨3600, none⟩ .localTime (.ofSteps ⟨.start, 0⟩ 7)
      [['3', '-', '2', '0', '2', '4', '0', '1', '0', '1'],
        ['2', '-', '2', '0', '2', '4', '0', '1', '0', '1'], ['x'],
        ['3', '-', '2', '0', '2', '4', '0', '1', '0', '1']]).1 = some v := by
  obtain ⟨t, ht, hdate, hbuild⟩ : ∃ t,
      Template.compile ['%', 'b', '%', '-', '%', 'd', '%'] none = .ok t ∧ t.uses .date = true ∧
      (t.newest ⟨3600, none⟩ .localTime (.ofSteps ⟨.start, 0⟩ 1)
        [['2', '-', '2', '0', '2', '4', '0', '1', '0', '1'], ['x'],
          ['3', '-', '2', '0', '2', '4', '0', '1', '0', '1']]).map (·.build) = some 3 :=
    ⟨_, rfl, rfl, by decide +kernel⟩
  rcases Option.map_eq_some_iff.1 hbuild with ⟨s, hs, hthree⟩
  obtain ⟨found, hnewest, -, -, hsame⟩ := newestVersion_maximum t ⟨3600, none⟩ .localTime
    (.ofSteps ⟨.start, 0⟩ 1) [['2', '-', '2', '0', '2', '4', '0', '1', '0', '1'], ['x'],
      ['3', '-', '2', '0', '2', '4', '0', '1', '0', '1']]
  have hfound : (found.map fun s => (⟨t, s⟩ : Version)) = some ⟨t, s⟩ := by
    rw [Template.newestVersion_eq, hs] at hnewest
    exact (Prod.mk.inj hnewest).1.symm
  refine ⟨t, ⟨t, s⟩, ht, by rw [hnewest, hfound], hthree, ?_⟩
  rw [(hsame _ _ fun name => ?_).2 hdate, hfound]
  simp only [List.mem_cons, List.not_mem_nil, or_false]
  tauto

end VersionStamp
