import VersionStamp.Proofs.LocalRoundTrip
import VersionStamp.Proofs.Reading

/-! The normal form of a candidate. Whatever surrounds its digits, and however they are written, what
is read from a candidate in UTC is something that a version string can show in full. So the version
string of what was read is read as the same again, and is its own normal form. -/

namespace VersionStamp

open Calendar

namespace Template

/-- A version string of the template shows, in UTC, all there is to the state; only the timestamp may
be lost, where the template has no date. -/
structure ShowsAll (t : Template) (p : State) : Prop where
  mode_eq : p.mode = .utc
  writable : p.isWritable = true
  unused : ∀ c, t.uses (.counter c) = false → p.counter c = 0
  offset_eq : t.uses .date = true → p.timestamp.offset = 0
  wall_eq : t.uses .date = true →
    (if t.uses .time then p.timestamp.wall.truncate else p.timestamp.wall.midnight) =
      p.timestamp.wall

/-- A sloppy candidate is read as a state that can be shown in full. -/
theorem ReadAs.showsAll {t : Template} {zone : Zone} {now : Timestamp} {candidate : List Char}
    {p : State} (h : t.ReadAs zone .utc now candidate p) : t.ShowsAll p where
  mode_eq := h.mode_eq
  writable := h.writable
  unused := h.unused
  offset_eq hdate := (offset_of_assemble (h.dated hdate)).1
  wall_eq hdate := by
    have hassembled := h.dated hdate
    have hmicros := (offset_of_assemble hassembled).2
    split
    · exact p.timestamp.wall.truncate_eq_self hmicros
    · rename_i htime
      rw [assembled, run?, run?, if_neg htime] at hassembled
      exact p.timestamp.wall.midnight_eq_self hmicros (secondOfDay_of_assemble hassembled)

namespace ShowsAll

variable {t : Template} {p : State} (h : t.ShowsAll p)

include h

theorem restamp_eq (hdate : t.uses .date = true) (zone : Zone) (now : Timestamp) :
    t.restamp zone .utc now p.timestamp.wall = .ok p.timestamp := by
  rw [restamp, if_pos hdate, h.wall_eq hdate, ZoneMode.interpret, ← h.offset_eq hdate]

theorem project_eq (timestamp : Timestamp) : t.project p timestamp .utc = { p with timestamp } := by
  have hcounter (c : Counter) : (t.project p timestamp .utc).counter c = p.counter c := by
    rw [counter_project]
    cases hc : t.uses (.counter c) with
    | true => rfl
    | false => exact (h.unused c hc).symm
  rw [State.mk.injEq]
  exact ⟨hcounter .major, hcounter .minor, hcounter .build, rfl, h.mode_eq.symm⟩

theorem shownTimestamp_eq (hdate : t.uses .date = true) (zone : Zone) :
    p.shownTimestamp zone = .ok p.timestamp := by
  rw [State.shownTimestamp, h.mode_eq]
  exact Timestamp.atOffset_eq_ok_iff.2 ⟨rfl, h.offset_eq hdate⟩

/-- Where there is no date, any other timestamp does as well. -/
theorem showable (htime : t.uses .time = true → t.uses .date = true) (zone : Zone)
    {timestamp : Timestamp} (hsame : t.uses .date = true → timestamp = p.timestamp) :
    ∀ f ∈ fieldsOf t.segments, f.Showable zone { p with timestamp } p.timestamp.wall := by
  have hshown (hdate : t.uses .date = true) : ∃ shown,
      State.shownTimestamp { p with timestamp } zone = .ok shown ∧
        shown.wall = p.timestamp.wall := by
    rw [hsame hdate]
    exact ⟨p.timestamp, h.shownTimestamp_eq hdate zone, rfl⟩
  rintro (c | _ | _) hf
  · have hwritable : Text.isWritable (p.counter c) = true := State.isWritable_iff.1 h.writable c
    cases c <;> exact hwritable
  · exact hshown (uses_iff.2 hf)
  · exact hshown (htime (uses_iff.2 hf))

theorem render_eq {source : List Char} (hc : compile source none = .ok t)
    (htime : t.uses .time = true → t.uses .date = true) (zone : Zone) {timestamp : Timestamp}
    (hsame : t.uses .date = true → timestamp = p.timestamp) :
    t.render zone { p with timestamp } = .ok (shownText p p.timestamp.wall t.segments) := by
  rw [(render_of_showable hc (h.showable htime zone hsame)).1]
  refine congrArg Except.ok (shownText_congr rfl rfl fun c _ => ?_)
  cases c <;> rfl

theorem parseAt_eq {source : List Char} (hc : compile source none = .ok t)
    (hs : Separable t.segments) (htime : t.uses .time = true → t.uses .date = true) (zone : Zone)
    (now : Timestamp) :
    ∃ timestamp, (t.uses .date = true → timestamp = p.timestamp) ∧
      t.parseAt zone .utc now (shownText p p.timestamp.wall t.segments) =
        .ok { p with timestamp } := by
  have hshow := h.showable htime zone (fun _ => rfl)
  by_cases hdate : t.uses .date = true
  · refine ⟨p.timestamp, fun _ => rfl, ?_⟩
    rw [parseAt_shown hc hs hshow (h.restamp_eq hdate zone now), h.project_eq]
  · have hstamp : t.restamp zone .utc now p.timestamp.wall = .ok now := by
      rw [restamp, if_neg hdate]
    refine ⟨now, fun h => absurd h hdate, ?_⟩
    rw [parseAt_shown hc hs hshow hstamp, h.project_eq]

end ShowsAll

end Template

/-- Reading a candidate and writing it again brings it into a normal form. Whatever could be read in
UTC can be written; the version string is read as the same counters and, where there is a date, the
same timestamp; and that is written as the same version string again. -/
theorem render_parse_normal {source : List Char} {t : Template}
    (hc : Template.compile source none = .ok t) (hs : Separable t.segments)
    (htime : t.uses .time = true → t.uses .date = true) {zone : Zone} {clock : Clock}
    {candidate : List Char} {p : State} (hp : (t.parse zone .utc clock candidate).1 = .ok p) :
    ∃ version, (∀ zone', t.render zone' p = .ok version) ∧ ∀ zone' clock', ∃ q,
      t.parse zone' .utc clock' version = (.ok q, clock'.read.2) ∧
      (∀ c, q.counter c = p.counter c) ∧
      (t.uses .date = true → q.timestamp = p.timestamp) ∧
      ∀ zone'', t.render zone'' q = .ok version := by
  have hall : t.ShowsAll p := (Template.readAs_of_eq_ok hc hp).showsAll
  refine ⟨_, fun zone' => hall.render_eq hc htime zone' fun _ => rfl, fun zone' clock' => ?_⟩
  obtain ⟨timestamp, hsame, hread⟩ := hall.parseAt_eq hc hs htime zone' clock'.read.1
  refine ⟨{ p with timestamp }, by rw [Template.parse, hread], fun c => by cases c <;> rfl, hsame,
    fun zone'' => hall.render_eq hc htime zone'' hsame⟩

/-- A date in month 13 and ninety-three hours, in digits of two scripts, between other separators:
the normal form is of January of the next year. -/
theorem render_parse_normal_carried : ∃ t p,
    Template.compile ['%', 'M', '%', '-', '%', 'd', '%', '.', '%', 't', '%'] none = .ok t ∧
    Separable t.segments ∧ t.uses .date = true ∧
    (t.parse ⟨3600, none⟩ .utc (.ofSteps ⟨.start, 0⟩ 1)
      ['v', '0', '7', ' ', '2', '0', '2', '4', '1', '3', '1', '/', '9', '٣', '٠', '٠', '0']).1 =
        .ok p ∧
    t.render .utc p =
      .ok ['7', '-', '2', '0', '2', '5', '0', '1', '0', '4', '.', '2', '1', '0', '0', '0', '0'] ∧
    ∃ q, (t.parse .utc .utc (.ofSteps ⟨.start, 0⟩ 1)
      ['7', '-', '2', '0', '2', '5', '0', '1', '0', '4', '.', '2', '1', '0', '0', '0', '0']).1 =
        .ok q ∧
    q.timestamp = p.timestamp ∧
    t.render .utc q =
      .ok ['7', '-', '2', '0', '2', '5', '0', '1', '0', '4', '.', '2', '1', '0', '0', '0', '0'] := by
  obtain ⟨t, ht, hs, hdate, p, hp, hmajor, htime, hshown⟩ : ∃ t,
      Template.compile ['%', 'M', '%', '-', '%', 'd', '%', '.', '%', 't', '%'] none = .ok t ∧
      Separable t.segments ∧ t.uses .date = true ∧ ∃ p,
      (t.parse ⟨3600, none⟩ .utc (.ofSteps ⟨.start, 0⟩ 1)
        ['v', '0', '7', ' ', '2', '0', '2', '4', '1', '3', '1', '/', '9', '٣', '٠', '٠', '0']).1 =
          .ok p ∧
      p.counter = (fun c => if c = .major then 7 else 0) ∧
      p.shownTimestamp .utc = .ok p.timestamp ∧
      shownText p p.timestamp.wall t.segments =
        ['7', '-', '2', '0', '2', '5', '0', '1', '0', '4', '.', '2', '1', '0', '0', '0', '0'] :=
    ⟨_, rfl, by decide, rfl, _, rfl, by funext c; cases c <;> rfl, rfl, by decide⟩
  have hshow : ∀ f : Field, f.Showable .utc p p.timestamp.wall := by
    rintro (c | _ | _)
    · rw [Field.Showable, hmajor]
      exact Text.isWritable_iff.2 (by cases c <;> decide)
    · exact ⟨_, htime, rfl⟩
    · exact ⟨_, htime, rfl⟩
  rcases Template.render_of_showable ht fun f _ => hshow f with ⟨hversion, -⟩
  rw [hshown] at hversion
  obtain ⟨version, hrender, hagain⟩ := render_parse_normal ht hs (fun _ => hdate) hp
  obtain rfl : version = _ := Except.ok.inj ((hrender .utc).symm.trans hversion)
  obtain ⟨q, hq, -, hsame, hsecond⟩ := hagain .utc (.ofSteps ⟨.start, 0⟩ 1)
  exact ⟨t, p, ht, hs, hdate, hp, hversion, q, by rw [hq], hsame hdate, hsecond .utc⟩

end VersionStamp
