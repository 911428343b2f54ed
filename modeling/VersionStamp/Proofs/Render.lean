import Mathlib.Algebra.Order.BigOperators.Group.List
import VersionStamp.Proofs.Calendar.Zone
import VersionStamp.Proofs.Template.Fields
import VersionStamp.Proofs.Template.Recognizer
import VersionStamp.Render

/-! Version strings of a state. A version string is the texts of the segments one after the other; it
cannot be made only where a counter is too long to be written or where the clock of the mode cannot
show the timestamp. A derived recognizer accepts every version string. -/

namespace VersionStamp

open Calendar

/-- What a piece shows for a state at the wall-clock time `wall`. -/
def Piece.shown (s : State) (wall : WallTime) : Piece → List Char
  | .literal text => text
  | .percent => ['%']
  | .field (.counter c) => Text.decimal (s.counter c)
  | .field .date => wall.dateDigits
  | .field .time => wall.timeDigits

/-- The words of segments for a state, one for each. -/
def shownWords (s : State) (wall : WallTime) (segments : List Segment) : List (List Char) :=
  segments.map (·.piece.shown s wall)

/-- The version string of a state. -/
def shownText (s : State) (wall : WallTime) (segments : List Segment) : List Char :=
  (shownWords s wall segments).flatten

theorem Piece.shows_shown (s : State) (wall : WallTime) (p : Piece) : p.Shows (p.shown s wall) := by
  cases p with
  | literal text => rfl
  | percent => rfl
  | field f =>
    cases f with
    | counter c => exact ⟨Text.decimal_ne_nil _, Text.allDigits_decimal _⟩
    | date => exact ⟨wall.dateDigits_ne_nil, wall.allDigits_dateDigits⟩
    | time => exact ⟨wall.timeDigits_ne_nil, wall.allDigits_timeDigits⟩

theorem spells_shownWords (s : State) (wall : WallTime) (segments : List Segment) :
    Spells segments (shownWords s wall segments) := by
  induction segments with
  | nil => exact .nil
  | cons segment segments ih => exact .cons (segment.piece.shows_shown s wall) ih

section

variable {a b : State} {v w : WallTime} {segments : List Segment}

/-- Dates and times of day have their fixed widths, so only a counter can make a word longer. -/
theorem Piece.shown_length_le {p : Piece}
    (h : ∀ c, p = .field (.counter c) → a.counter c ≤ b.counter c) :
    (p.shown a v).length ≤ (p.shown b w).length := by
  cases p with
  | literal text => rfl
  | percent => rfl
  | field f =>
    cases f with
    | counter c => exact Text.decimal_length_mono (h c rfl)
    | date => simp [shown, WallTime.dateDigits_length]
    | time => simp [shown, WallTime.timeDigits_length]

theorem shownText_length_le
    (hle : ∀ segment ∈ segments,
      (segment.piece.shown a v).length ≤ (segment.piece.shown b w).length) :
    (shownText a v segments).length ≤ (shownText b w segments).length := by
  simp only [shownText, shownWords, List.length_flatten, List.map_map]
  exact List.sum_le_sum hle

/-- If no word is longer in `a` than in `b`, the same text is made of the same words. -/
theorem shown_eq_of_shownText_eq
    (hle : ∀ segment ∈ segments,
      (segment.piece.shown a v).length ≤ (segment.piece.shown b w).length)
    (h : shownText a v segments = shownText b w segments) :
    ∀ segment ∈ segments, segment.piece.shown a v = segment.piece.shown b w := by
  induction segments with
  | nil => simp
  | cons segment segments ih =>
    rw [List.forall_mem_cons] at hle ⊢
    have hrest := shownText_length_le hle.2
    have hsplit : segment.piece.shown a v ++ shownText a v segments =
        segment.piece.shown b w ++ shownText b w segments := h
    -- neither part of the text is longer in `b`, and together they are as long
    have hlength := congrArg List.length hsplit
    simp only [List.length_append] at hlength
    obtain ⟨hword, htext⟩ := List.append_inj hsplit (by omega)
    exact ⟨hword, ih hle.2 htext⟩

/-- Where no counter that is shown is greater in `a` than in `b`, the same text shows the same in every
field. -/
theorem shown_field_eq_of_shownText_eq
    (hle : ∀ c, .counter c ∈ fieldsOf segments → a.counter c ≤ b.counter c)
    (h : shownText a v segments = shownText b w segments) {f : Field}
    (hf : f ∈ fieldsOf segments) : (Piece.field f).shown a v = (Piece.field f).shown b w := by
  rcases mem_fieldsOf.1 hf with ⟨segment, hsegment, hpiece⟩
  rw [← hpiece]
  apply shown_eq_of_shownText_eq _ h segment hsegment
  intro other hother
  apply Piece.shown_length_le
  intro c hc
  exact hle c (mem_fieldsOf.2 ⟨other, hother, hc⟩)

end

/-- What a field asks of a state can be written, at the wall-clock time `wall`. -/
def Field.Showable (zone : Zone) (s : State) (wall : WallTime) : Field → Prop
  | .counter c => Text.isWritable (s.counter c) = true
  | .date | .time => ∃ shown, s.shownTimestamp zone = .ok shown ∧ shown.wall = wall

theorem ofMicroseconds_eq_error {total : Int} {e : CalendarError}
    (h : WallTime.ofMicroseconds total = .error e) : e = .dateOutOfRange := by
  unfold WallTime.ofMicroseconds at h
  split at h
  · cases h
  · exact (Except.error.inj h).symm

theorem atOffset_eq_error {t : Timestamp} {offset : Int} {e : CalendarError}
    (h : t.atOffset offset = .error e) : e = .dateOutOfRange := by
  rw [Timestamp.atOffset] at h
  rcases bind_eq_error h with hwall | ⟨wall, -, h⟩
  · exact ofMicroseconds_eq_error hwall
  · cases h

theorem State.shownTimestamp_eq_error {zone : Zone} {s : State} {e : CalendarError}
    (h : s.shownTimestamp zone = .error e) : e = .dateOutOfRange := by
  unfold State.shownTimestamp ZoneMode.express at h
  cases hm : s.mode with
  | utc =>
    rw [hm] at h
    exact atOffset_eq_error h
  | localTime =>
    rw [hm] at h
    cases hutc : s.timestamp.toUtc with
    | error e' =>
      simp only [Zone.localize, hutc] at h
      cases h
      exact atOffset_eq_error hutc
    | ok utc =>
      simp only [Zone.localize, hutc] at h
      exact atOffset_eq_error h

section

variable {zone : Zone} {s : State} {wall : WallTime} {segments : List Segment}

theorem Piece.render_of_showable {p : Piece} (h : ∀ f, p = .field f → f.Showable zone s wall) :
    p.render zone s = .ok (p.shown s wall) := by
  cases p with
  | literal text => rfl
  | percent => rfl
  | field f =>
    cases f with
    | counter c =>
      have hc : Text.isWritable (s.counter c) = true := h _ rfl
      rw [render, Text.writeNat, if_pos hc]
      rfl
    | date =>
      rcases h _ rfl with ⟨t, ht, rfl⟩
      rw [render, ht]
      rfl
    | time =>
      rcases h _ rfl with ⟨t, ht, rfl⟩
      rw [render, ht]
      rfl

/-- A piece that could be written asks for nothing that the state cannot show. -/
theorem Piece.showable_of_render {f : Field} {word : List Char}
    (hwall : ∀ shown, s.shownTimestamp zone = .ok shown → shown.wall = wall)
    (h : (Piece.field f).render zone s = .ok word) : f.Showable zone s wall := by
  cases f with
  | counter c =>
    by_contra hc
    have hlarge : Text.isWritable (s.counter c) = false := by simpa [Field.Showable] using hc
    simp [render, Text.writeNat, hlarge, Except.mapError] at h
  | date | time =>
    cases ht : s.shownTimestamp zone with
    | ok t => exact ⟨t, ht, hwall t ht⟩
    | error e => simp [render, ht, Except.map, Except.mapError] at h

theorem Piece.render_eq_error {p : Piece} {e : VersionError} (h : p.render zone s = .error e) :
    (∃ c, p = .field (.counter c) ∧ Text.isWritable (s.counter c) = false ∧
      e = .numeral .tooLarge) ∨
    ((p = .field .date ∨ p = .field .time) ∧ s.shownTimestamp zone = .error .dateOutOfRange ∧
      e = .calendar .dateOutOfRange) := by
  cases p with
  | literal text => cases h
  | percent => cases h
  | field f =>
    cases f with
    | counter c =>
      rw [render, Text.writeNat] at h
      split at h
      · cases h
      · rename_i hc
        exact .inl ⟨c, rfl, by simpa using hc, (Except.error.inj h).symm⟩
    | date | time =>
      cases ht : s.shownTimestamp zone with
      | ok t => simp [render, ht, Except.map, Except.mapError] at h
      | error e' =>
        obtain rfl := State.shownTimestamp_eq_error ht
        rw [render, ht] at h
        exact .inr ⟨by simp, rfl, (Except.error.inj h).symm⟩

theorem renderAll_of_showable (h : ∀ f ∈ fieldsOf segments, f.Showable zone s wall) :
    renderAll zone s segments = .ok (shownText s wall segments) := by
  induction segments with
  | nil => rfl
  | cons segment segments ih =>
    have hhead : segment.piece.render zone s = .ok (segment.piece.shown s wall) :=
      Piece.render_of_showable fun f hf => h f (mem_fieldsOf.2 ⟨segment, by simp, hf⟩)
    have htail : renderAll zone s segments = .ok (shownText s wall segments) := ih fun f hf => by
      rcases mem_fieldsOf.1 hf with ⟨x, hx, hpiece⟩
      exact h f (mem_fieldsOf.2 ⟨x, List.mem_cons_of_mem _ hx, hpiece⟩)
    rw [renderAll, hhead, htail]
    rfl

theorem renderAll_cases (zone : Zone) (s : State) (segments : List Segment) :
    (∀ segment ∈ segments, ∃ word, segment.piece.render zone s = .ok word) ∨
    ∃ segment ∈ segments, ∃ e, segment.piece.render zone s = .error e ∧
      renderAll zone s segments = .error e := by
  induction segments with
  | nil => simp
  | cons segment segments ih =>
    cases hhead : segment.piece.render zone s with
    | error e => exact .inr ⟨segment, by simp, e, hhead, by rw [renderAll, hhead]; rfl⟩
    | ok word =>
      rcases ih with hall | ⟨x, hx, e, herror, htail⟩
      · exact .inl (List.forall_mem_cons.2 ⟨⟨word, hhead⟩, hall⟩)
      · exact .inr ⟨x, List.mem_cons_of_mem _ hx, e, herror, by rw [renderAll, hhead, htail]; rfl⟩

/-- What becomes of a state: its words, or the first thing that cannot be written. -/
theorem renderAll_spec (zone : Zone) (s : State) (segments : List Segment) :
    (∃ wall, (∀ f ∈ fieldsOf segments, f.Showable zone s wall) ∧
      renderAll zone s segments = .ok (shownText s wall segments)) ∨
    (∃ c, .counter c ∈ fieldsOf segments ∧ Text.isWritable (s.counter c) = false ∧
      renderAll zone s segments = .error (.numeral .tooLarge)) ∨
    ((.date ∈ fieldsOf segments ∨ .time ∈ fieldsOf segments) ∧
      s.shownTimestamp zone = .error .dateOutOfRange ∧
      renderAll zone s segments = .error (.calendar .dateOutOfRange)) := by
  rcases renderAll_cases zone s segments with hall | ⟨segment, hmem, e, herror, hrender⟩
  · left
    obtain ⟨wall, hwall⟩ : ∃ wall, ∀ shown, s.shownTimestamp zone = .ok shown → shown.wall = wall := by
      cases h : s.shownTimestamp zone with
      | error e => exact ⟨s.timestamp.wall, fun _ h' => by cases h'⟩
      | ok t => exact ⟨t.wall, fun _ h' => by cases h'; rfl⟩
    have hshow : ∀ f ∈ fieldsOf segments, f.Showable zone s wall := fun f hf => by
      rcases mem_fieldsOf.1 hf with ⟨segment, hmem, hpiece⟩
      rcases hall segment hmem with ⟨word, hword⟩
      rw [hpiece] at hword
      exact Piece.showable_of_render hwall hword
    exact ⟨wall, hshow, renderAll_of_showable hshow⟩
  · right
    rcases Piece.render_eq_error herror with ⟨c, hpiece, hlarge, rfl⟩ | ⟨hpiece, hclock, rfl⟩
    · exact .inl ⟨c, mem_fieldsOf.2 ⟨segment, hmem, hpiece⟩, hlarge, hrender⟩
    · refine .inr ⟨hpiece.imp ?_ ?_, hclock, hrender⟩
      · exact fun h => mem_fieldsOf.2 ⟨segment, hmem, h⟩
      · exact fun h => mem_fieldsOf.2 ⟨segment, hmem, h⟩

end

theorem Template.render_eq_error_of_renderAll {t : Template} {zone : Zone} {s : State}
    {e : VersionError} (h : renderAll zone s t.segments = .error e) : t.render zone s = .error e := by
  rw [render, h]
  rfl

theorem Template.render_eq_of_renderAll {t : Template} {zone : Zone} {s : State} {text : List Char}
    (h : renderAll zone s t.segments = .ok text) :
    t.render zone s = if t.recognizes text then .ok text
      else .error (.inconsistent text t.source t.recognizer) := by
  rw [render, h]
  rfl

theorem Template.render_eq_ok {t : Template} {zone : Zone} {s : State} {version : List Char}
    (h : t.render zone s = .ok version) :
    ∃ wall, (∀ f ∈ fieldsOf t.segments, f.Showable zone s wall) ∧
      version = shownText s wall t.segments ∧ t.recognizes version = true := by
  rcases renderAll_spec zone s t.segments with ⟨wall, hshow, hall⟩ | ⟨_, _, _, hall⟩ | ⟨_, _, hall⟩
  · rw [render_eq_of_renderAll hall] at h
    split at h
    · rename_i hmatch
      cases h
      exact ⟨wall, hshow, rfl, hmatch⟩
    · cases h
  · rw [render_eq_error_of_renderAll hall] at h
    cases h
  · rw [render_eq_error_of_renderAll hall] at h
    cases h

/-- With a derived recognizer everything that can be written is recognized. -/
theorem Template.render_of_showable {source : List Char} {t : Template}
    (h : Template.compile source none = .ok t) {zone : Zone} {s : State} {wall : WallTime}
    (hshow : ∀ f ∈ fieldsOf t.segments, f.Showable zone s wall) :
    t.render zone s = .ok (shownText s wall t.segments) ∧
      t.recognizes (shownText s wall t.segments) = true := by
  have hmatch : t.recognizes (shownText s wall t.segments) = true :=
    ((Template.compile_eq_ok_iff.1 h).recognizes_iff _).2
      ⟨_, spells_shownWords s wall t.segments, rfl⟩
  rw [render_eq_of_renderAll (renderAll_of_showable hshow), if_pos hmatch]
  exact ⟨rfl, hmatch⟩

theorem Template.render_of_shown {source : List Char} {t : Template}
    (h : Template.compile source none = .ok t) {zone : Zone} {s : State} {shown : Timestamp}
    (hcounter : ∀ c, Text.isWritable (s.counter c) = true)
    (hshown : s.shownTimestamp zone = .ok shown) :
    t.render zone s = .ok (shownText s shown.wall t.segments) ∧
      t.recognizes (shownText s shown.wall t.segments) = true := by
  apply Template.render_of_showable h
  rintro (c | _ | _) -
  · exact hcounter c
  · exact ⟨shown, hshown, rfl⟩
  · exact ⟨shown, hshown, rfl⟩

end VersionStamp
