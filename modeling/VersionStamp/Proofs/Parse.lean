import VersionStamp.Parse
import VersionStamp.Proofs.State
import VersionStamp.Proofs.Template.Fields

/-! What a candidate is read as. Its counters come from the candidate alone: the clock only dates a
candidate without a date, and a counter that the template does not show is 0. -/

namespace VersionStamp

open Calendar

namespace Capture

def counter? (capture : Capture) : Counter → Option Nat
  | .major => capture.major
  | .minor => capture.minor
  | .build => capture.build

@[simp] theorem counter?_setCounter (capture : Capture) (c d : Counter) (n : Nat) :
    (capture.setCounter c n).counter? d = if c = d then some n else capture.counter? d := by
  cases c <;> cases d <;> rfl

@[simp] theorem date_setCounter (capture : Capture) (c : Counter) (n : Nat) :
    (capture.setCounter c n).date = capture.date := by
  cases c <;> rfl

@[simp] theorem time_setCounter (capture : Capture) (c : Counter) (n : Nat) :
    (capture.setCounter c n).time = capture.time := by
  cases c <;> rfl

theorem counter?_of_add {capture after : Capture} {f : Field} {digits : List Char} {c : Counter}
    (hf : f ≠ .counter c) (h : capture.add f digits = .ok after) :
    after.counter? c = capture.counter? c := by
  cases f with
  | counter d =>
    have hd : d ≠ c := fun hd => hf (by rw [hd])
    rw [add] at h
    split at h
    · cases h
      rw [counter?_setCounter, if_neg hd]
    · cases h
  | date =>
    cases h
    cases c <;> rfl
  | time =>
    cases h
    cases c <;> rfl

theorem date_of_add {capture after : Capture} {f : Field} {digits : List Char}
    (h : capture.add f digits = .ok after) :
    after.date = if f = .date then digits else capture.date := by
  cases f with
  | counter c =>
    rw [add] at h
    split at h
    · cases h
      simp
    · cases h
  | date =>
    cases h
    rfl
  | time =>
    cases h
    rfl

end Capture

theorem counter?_of_scanFrom {segments : List Segment} {text : List Char} {capture after : Capture}
    {c : Counter} (hc : .counter c ∉ fieldsOf segments)
    (h : scanFrom segments text capture = .ok after) : after.counter? c = capture.counter? c := by
  induction segments generalizing text capture with
  | nil => rw [Except.ok.inj h]
  | cons segment segments ih =>
    rw [scanFrom] at h
    cases hfield : segment.field? with
    | none =>
      rw [fieldsOf_cons_of_none hfield] at hc
      rw [hfield] at h
      exact ih hc h
    | some f =>
      rw [fieldsOf_cons_of_some hfield, List.mem_cons, not_or] at hc
      simp only [hfield] at h
      split at h
      · cases h
      · split at h
        · cases h
        · rename_i next hadd
          rw [ih hc.2 h, Capture.counter?_of_add (Ne.symm hc.1) hadd]

/-- A date that is asked for is taken, or the scan fails: no run of digits is empty. -/
theorem date_ne_nil_of_scanFrom {segments : List Segment} {text : List Char}
    {capture after : Capture} (hdate : capture.date ≠ [] ∨ .date ∈ fieldsOf segments)
    (h : scanFrom segments text capture = .ok after) : after.date ≠ [] := by
  induction segments generalizing text capture with
  | nil =>
    rw [← Except.ok.inj h]
    simpa [fieldsOf] using hdate
  | cons segment segments ih =>
    rw [scanFrom] at h
    cases hfield : segment.field? with
    | none =>
      rw [fieldsOf_cons_of_none hfield] at hdate
      rw [hfield] at h
      exact ih hdate h
    | some f =>
      rw [fieldsOf_cons_of_some hfield, List.mem_cons] at hdate
      simp only [hfield] at h
      split at h
      · cases h
      · rename_i hdigits
        split at h
        · cases h
        · rename_i next hadd
          refine ih ?_ h
          rw [Capture.date_of_add hadd]
          rcases hdate with hdate | rfl | hdate
          · left
            split
            · simpa using hdigits
            · exact hdate
          · left
            simpa using hdigits
          · exact .inr hdate

namespace Template

variable {t : Template} {zone : Zone} {mode : ZoneMode} {now : Timestamp} {candidate : List Char}
  {p : State}

theorem parseAt_eq_ok_iff : t.parseAt zone mode now candidate = .ok p ↔
    ∃ capture, t.scan candidate = .ok capture ∧
      capture.timestamp zone mode now = .ok p.timestamp ∧ p.mode = mode ∧
      ∀ c, p.counter c = (capture.counter? c).getD 0 := by
  constructor
  · intro h
    rw [parseAt] at h
    split at h
    · cases h
    · rename_i capture hscan
      split at h
      · cases h
      · rename_i timestamp hstamp
        cases h
        exact ⟨capture, hscan, hstamp, rfl, fun c => by cases c <;> rfl⟩
  · rintro ⟨capture, hscan, hstamp, hmode, hcounter⟩
    simp only [parseAt, hscan, hstamp]
    apply congrArg Except.ok
    cases p
    rw [State.mk.injEq]
    exact ⟨(hcounter .major).symm, (hcounter .minor).symm, (hcounter .build).symm, rfl, hmode.symm⟩

theorem counter_of_parseAt (h : t.parseAt zone mode now candidate = .ok p) {c : Counter}
    (hc : t.uses (.counter c) = false) : p.counter c = 0 := by
  rcases parseAt_eq_ok_iff.1 h with ⟨capture, hscan, -, -, hcounter⟩
  have hunused : .counter c ∉ fieldsOf t.segments := by
    rw [← uses_iff, hc]
    decide
  rw [hcounter, counter?_of_scanFrom hunused hscan]
  cases c <;> rfl

/-- Whether a candidate can be read, and with what counters, does not depend on the time. -/
theorem exists_parseAt (h : t.parseAt zone mode now candidate = .ok p) (now' : Timestamp) :
    ∃ p', t.parseAt zone mode now' candidate = .ok p' ∧ p'.counters = p.counters := by
  rcases parseAt_eq_ok_iff.1 h with ⟨capture, hscan, hstamp, hmode, hcounter⟩
  obtain ⟨timestamp, hstamp'⟩ : ∃ timestamp, capture.timestamp zone mode now' = .ok timestamp := by
    rw [Capture.timestamp] at hstamp ⊢
    split
    · exact ⟨now', rfl⟩
    · rename_i hdate
      rw [if_neg hdate] at hstamp
      exact ⟨_, hstamp⟩
  exact ⟨{ p with timestamp }, parseAt_eq_ok_iff.2 ⟨capture, hscan, hstamp', hmode, hcounter⟩, rfl⟩

theorem parseAt_of_uses_date (hdate : t.uses .date = true) (now' : Timestamp) :
    t.parseAt zone mode now candidate = t.parseAt zone mode now' candidate := by
  rw [parseAt, parseAt]
  cases hscan : t.scan candidate with
  | error e => rfl
  | ok capture =>
    have hne : capture.date ≠ [] := date_ne_nil_of_scanFrom (.inr (uses_iff.1 hdate)) hscan
    simp only [Capture.timestamp, List.isEmpty_eq_false_iff.2 hne]
    rfl

end Template

end VersionStamp
