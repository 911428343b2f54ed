import Mathlib.Data.Prod.Lex
import VersionStamp.State

/-! The counters of a state as one value. States are ordered by their counters first, and an advance
of a counter in use makes a state later, whatever the clock says. -/

namespace VersionStamp

namespace State

/-- The counters, the coarsest first. -/
def counters (s : State) : ℕ ×ₗ ℕ ×ₗ ℕ := toLex (s.major, toLex (s.minor, s.build))

variable {a b s : State}

theorem counters_lt_iff : a.counters < b.counters ↔ a.major < b.major ∨ a.major = b.major ∧
    (a.minor < b.minor ∨ a.minor = b.minor ∧ a.build < b.build) := by
  simp [counters, Prod.Lex.toLex_lt_toLex]

theorem counters_eq_iff : a.counters = b.counters ↔ ∀ c, a.counter c = b.counter c := by
  constructor
  · intro h c
    simp only [counters, EmbeddingLike.apply_eq_iff_eq, Prod.mk.injEq] at h
    cases c with
    | major => exact h.1
    | minor => exact h.2.1
    | build => exact h.2.2
  · intro h
    rw [counters, counters, show a.major = b.major from h .major, show a.minor = b.minor from h .minor,
      show a.build = b.build from h .build]

/-- What versions are ordered by: the counters, then the instant of the timestamp. -/
def sortKey (s : State) : (ℕ ×ₗ ℕ ×ₗ ℕ) ×ₗ ℤ := toLex (s.counters, s.timestamp.microInstant)

theorem order_eq (a b : State) : a.order b = compare a.sortKey b.sortKey := by
  change _ = ((compare a.major b.major).then <| (compare a.minor b.minor).then <|
    compare a.build b.build).then _
  rw [Ordering.then_assoc, Ordering.then_assoc]
  rfl

theorem order_eq_gt_iff : a.order b = .gt ↔ b.sortKey < a.sortKey := by
  rw [order_eq, compare_gt_iff_gt]

theorem counters_le_of_sortKey_le (h : a.sortKey ≤ b.sortKey) : a.counters ≤ b.counters :=
  Prod.Lex.monotone_fst _ _ h

theorem sortKey_eq_iff : a.sortKey = b.sortKey ↔
    a.counters = b.counters ∧ a.timestamp.microInstant = b.timestamp.microInstant := by
  rw [sortKey, sortKey, EmbeddingLike.apply_eq_iff_eq, Prod.mk.injEq]

end State

theorem finestCounter_eq_some {uses : Counter → Bool} (h : ∃ c, uses c = true) :
    ∃ c, finestCounter uses = some c ∧ uses c = true := by
  cases hfind : finestCounter uses with
  | some c => exact ⟨c, rfl, List.find?_some hfind⟩
  | none =>
    rcases h with ⟨c, hc⟩
    have := List.find?_eq_none.1 hfind c (by cases c <;> simp)
    exact absurd hc this

theorem uses_of_finestCounter {uses : Counter → Bool} {c : Counter}
    (h : finestCounter uses = some c) : uses c = true := List.find?_some h

theorem finestCounter_cases (uses : Counter → Bool) :
    (finestCounter uses = some .build ∧ uses .build = true) ∨
    (finestCounter uses = some .minor ∧ uses .minor = true ∧ uses .build = false) ∨
    (finestCounter uses = some .major ∧ uses .major = true ∧ uses .minor = false ∧
      uses .build = false) ∨
    (finestCounter uses = none ∧ uses .major = false ∧ uses .minor = false ∧
      uses .build = false) := by
  cases hbuild : uses .build <;> cases hminor : uses .minor <;> cases hmajor : uses .major <;>
    simp [finestCounter, hbuild, hminor, hmajor]

theorem finestCounter_eq_build_iff {uses : Counter → Bool} :
    finestCounter uses = some .build ↔ uses .build = true := by
  rcases finestCounter_cases uses with ⟨hfinest, h⟩ | ⟨hfinest, h⟩ | ⟨hfinest, h⟩ | ⟨hfinest, h⟩ <;>
    simp [hfinest, h]

theorem finestCounter_eq_minor_iff {uses : Counter → Bool} :
    finestCounter uses = some .minor ↔ uses .minor = true ∧ uses .build = false := by
  rcases finestCounter_cases uses with ⟨hfinest, h⟩ | ⟨hfinest, h⟩ | ⟨hfinest, h⟩ | ⟨hfinest, h⟩ <;>
    simp [hfinest, h]

theorem Counter.ofValue_eq_ok_iff {c : Counter} {value : Value} {n : ℕ} :
    c.ofValue value = .ok n ↔ value = .int n := by
  cases value with
  | int i =>
    rw [ofValue, Value.int.injEq]
    split
    · simp only [reduceCtorEq, false_iff]
      omega
    · rw [Except.ok.injEq]
      omega
  | _ => simp [ofValue]

namespace State

variable (s : State) (now : Calendar.Timestamp)

theorem counters_lt_increment (c : Counter) : s.counters < (s.increment c now).counters := by
  rw [counters_lt_iff]
  cases c with
  | major => exact .inl (Nat.lt_succ_self _)
  | minor => exact .inr ⟨rfl, .inl (Nat.lt_succ_self _)⟩
  | build => exact .inr ⟨rfl, .inr ⟨rfl, Nat.lt_succ_self _⟩⟩

theorem counter_increment (c d : Counter) : (s.increment c now).counter d =
    if d = c then s.counter d + 1 else if c = .major ∧ d = .minor then 0 else s.counter d := by
  cases c <;> cases d <;> rfl

theorem counter_increment_of_ne {c d : Counter} (h : d ≠ c) (hd : s.counter d = 0) :
    (s.increment c now).counter d = 0 := by
  rw [counter_increment, if_neg h, hd, ite_self]

theorem timestamp_advance (c : Option Counter) : (s.advance c now).timestamp = now := by
  rcases c with _ | _ | _ | _ <;> rfl

@[simp] theorem mode_increment (c : Counter) : (s.increment c now).mode = s.mode := by
  cases c <;> rfl

theorem mode_advance (c : Option Counter) : (s.advance c now).mode = s.mode := by
  rcases c with _ | _ | _ | _ <;> rfl

/-- A counter is set to the number itself; a new major number sets the minor number to 0. -/
theorem setCounter_eq_ok {s t : State} {c : Counter} {n : ℕ} (h : s.setCounter c n = .ok t) :
    (∀ d, t.counter d = if d = c then n else if c = .major ∧ d = .minor ∧ n ≠ s.major then 0
      else s.counter d) ∧ t.timestamp = s.timestamp ∧ t.mode = s.mode := by
  cases c with
  | major =>
    rw [setCounter] at h
    by_cases hn : n = s.major
    · rw [if_pos hn] at h
      cases h
      refine ⟨fun d => ?_, rfl, rfl⟩
      cases d <;> simp [counter, hn]
    · rw [if_neg hn, setMajor, if_neg hn] at h
      split at h
      · cases h
        refine ⟨fun d => ?_, rfl, rfl⟩
        cases d <;> simp [counter, hn]
      · cases h
  | minor =>
    cases h
    refine ⟨fun d => ?_, rfl, rfl⟩
    cases d <;> rfl
  | build =>
    cases h
    refine ⟨fun d => ?_, rfl, rfl⟩
    cases d <;> rfl

/-- An advance looks at the counters and the mode only. -/
theorem advance_congr {a b : State} (hcounters : a.counters = b.counters) (hmode : a.mode = b.mode)
    (c : Option Counter) : a.advance c now = b.advance c now := by
  have hcounter := counters_eq_iff.1 hcounters
  rcases a with ⟨major, minor, build, _, mode⟩
  obtain rfl : major = b.major := hcounter .major
  obtain rfl : minor = b.minor := hcounter .minor
  obtain rfl : build = b.build := hcounter .build
  obtain rfl : mode = b.mode := hmode
  rcases c with _ | _ | _ | _ <;> rfl

/-- Where the counters that are not in use are 0, there is nothing between a state and its
advance. -/
theorem counters_le_of_lt_advance {uses : Counter → Bool} {a b : State}
    {now : Calendar.Timestamp} (ha : ∀ c, uses c = false → a.counter c = 0)
    (hb : ∀ c, uses c = false → b.counter c = 0)
    (h : a.counters < (b.advance (finestCounter uses) now).counters) :
    a.counters ≤ b.counters := by
  rw [← not_lt]
  rw [counters_lt_iff] at h ⊢
  rcases finestCounter_cases uses with ⟨hfinest, -⟩ | ⟨hfinest, -, hbuild⟩ |
    ⟨hfinest, -, hminor, hbuild⟩ | ⟨hfinest, hmajor, hminor, hbuild⟩
  · rw [hfinest] at h
    simp only [advance, increment] at h
    omega
  · have habuild : a.build = 0 := ha .build hbuild
    have hbbuild : b.build = 0 := hb .build hbuild
    rw [hfinest] at h
    simp only [advance, increment] at h
    omega
  · have habuild : a.build = 0 := ha .build hbuild
    have hbbuild : b.build = 0 := hb .build hbuild
    have haminor : a.minor = 0 := ha .minor hminor
    have hbminor : b.minor = 0 := hb .minor hminor
    rw [hfinest] at h
    simp only [advance, increment] at h
    omega
  · rw [hfinest] at h
    simp only [advance, refresh] at h
    omega

theorem isWritable_iff {s : State} :
    s.isWritable = true ↔ ∀ c, Text.isWritable (s.counter c) = true := by
  simp only [isWritable, Bool.and_eq_true]
  constructor
  · rintro ⟨⟨hmajor, hminor⟩, hbuild⟩ c
    cases c with
    | major => exact hmajor
    | minor => exact hminor
    | build => exact hbuild
  · exact fun h => ⟨⟨h .major, h .minor⟩, h .build⟩

theorem isWritable_eq_false_iff {s : State} : s.isWritable = false ↔
    ∃ c, Text.digitLimit < (Text.decimal (s.counter c)).length := by
  rw [← Bool.not_eq_true, isWritable_iff]
  simp [Text.isWritable_iff]

theorem setCounters_fresh (mode : Calendar.ZoneMode) {major : Nat} (minor build : Nat)
    (hmajor : Text.isWritable major = true) :
    ((fresh now mode).setCounter .major major >>= fun s => s.setCounter .minor minor >>= fun s =>
      s.setCounter .build build) = .ok ⟨major, minor, build, now, mode⟩ := by
  have hzero : Text.isWritable 0 = true := Text.isWritable_iff.2 (by decide)
  by_cases h : major = 0
  · subst h
    rfl
  · simp [setCounter, setMajor, fresh, h, hmajor, hzero, bind, Except.bind]

end State

end VersionStamp
