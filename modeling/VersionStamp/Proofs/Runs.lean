import VersionStamp.Proofs.Template.Fields
import VersionStamp.Proofs.Text.Numeral
import VersionStamp.Scan

/-! The runs of digits of a candidate. A scan gives the runs to the fields of the template by their
rank, so what it takes depends on the runs alone: the text between them is not looked at. -/

namespace VersionStamp

/-- A text that does not start with a digit. -/
def OpensWithoutDigit (text : List Char) : Prop := ∀ c ∈ text.head?, Text.isDigit c = false

namespace Text

/-- The longest runs of digits in a text, from left to right. -/
def digitRuns (text : List Char) : List (List Char) :=
  (text.splitOnP fun c => !isDigit c).filter fun run => !run.isEmpty

@[simp] theorem digitRuns_nil : digitRuns [] = [] := by
  simp [digitRuns, List.splitOnP_nil]

@[simp] theorem digitRuns_cons {c : Char} (h : isDigit c = false) (rest : List Char) :
    digitRuns (c :: rest) = digitRuns rest := by
  simp [digitRuns, List.splitOnP_cons_eq_if_modifyHead, h]

theorem digitRuns_skip {skipped : List Char} (h : ∀ c ∈ skipped, isDigit c = false)
    (rest : List Char) : digitRuns (skipped ++ rest) = digitRuns rest := by
  induction skipped with
  | nil => rfl
  | cons c skipped ih =>
    rcases List.forall_mem_cons.1 h with ⟨hc, h⟩
    rw [List.cons_append, digitRuns_cons hc, ih h]

theorem digitRuns_append {word rest : List Char} (hne : word ≠ []) (hword : AllDigits word)
    (hrest : OpensWithoutDigit rest) : digitRuns (word ++ rest) = word :: digitRuns rest := by
  have hsingle : word.splitOnP (fun c => !isDigit c) = [word] :=
    List.splitOnP_eq_singleton fun c hc => by simp [hword c hc]
  cases rest with
  | nil => simp [digitRuns, hsingle, hne, List.splitOnP_nil]
  | cons c rest =>
    have hc : isDigit c = false := hrest c rfl
    have hsplit : (word ++ c :: rest).splitOnP (fun c => !isDigit c) =
        word :: rest.splitOnP fun c => !isDigit c := by
      rw [List.splitOnP_append_cons word rest (by simp [hc]), hsingle]
      rfl
    rw [digitRuns_cons hc]
    simp [digitRuns, hsplit, hne]

end Text

theorem opensWithoutDigit_dropWhile (text : List Char) :
    OpensWithoutDigit (text.dropWhile Text.isDigit) := by
  intro c hc
  have h := List.head?_dropWhile_not Text.isDigit text
  rw [Option.mem_def.1 hc] at h
  exact h

theorem digitRuns_toNextDigit (text : List Char) :
    Text.digitRuns (toNextDigit text) = Text.digitRuns text := by
  conv_rhs => rw [← List.takeWhile_append_dropWhile (p := fun c => !Text.isDigit c) (l := text)]
  rw [Text.digitRuns_skip fun c hc => by simpa using List.mem_takeWhile_imp hc]
  rfl

theorem digitRuns_eq_nil {text : List Char}
    (h : (toNextDigit text).takeWhile Text.isDigit = []) : Text.digitRuns text = [] := by
  rw [← digitRuns_toNextDigit]
  have hhead := List.head?_dropWhile_not (fun c => !Text.isDigit c) text
  rw [← toNextDigit] at hhead
  cases hnext : toNextDigit text with
  | nil => simp
  | cons c rest =>
    rw [hnext] at h hhead
    simp_all

theorem digitRuns_eq_cons {text : List Char}
    (h : (toNextDigit text).takeWhile Text.isDigit ≠ []) :
    Text.digitRuns text = (toNextDigit text).takeWhile Text.isDigit ::
      Text.digitRuns ((toNextDigit text).dropWhile Text.isDigit) := by
  have hword : Text.AllDigits ((toNextDigit text).takeWhile Text.isDigit) :=
    fun c hc => List.mem_takeWhile_imp hc
  rw [← Text.digitRuns_append h hword (opensWithoutDigit_dropWhile _),
    List.takeWhile_append_dropWhile, digitRuns_toNextDigit]

/-- Gives runs to the fields of segments, to each field the next one. -/
def takeRuns : List Segment → List (List Char) → Capture → Except ScanError Capture
  | [], _, capture => .ok capture
  | segment :: segments, runs, capture =>
    match segment.field? with
    | none => takeRuns segments runs capture
    | some f =>
      match runs with
      | [] => .error ⟨f, segment.position, .missing⟩
      | run :: runs =>
        match capture.add f run with
        | .error e => .error ⟨f, segment.position, .unreadable e⟩
        | .ok capture => takeRuns segments runs capture

/-- A scan looks at nothing but the runs of digits. -/
theorem scanFrom_eq_takeRuns (segments : List Segment) (text : List Char) (capture : Capture) :
    scanFrom segments text capture = takeRuns segments (Text.digitRuns text) capture := by
  induction segments generalizing text capture with
  | nil => rfl
  | cons segment segments ih =>
    rw [scanFrom, takeRuns]
    cases segment.field? with
    | none => exact ih text capture
    | some f =>
      by_cases hrun : (toNextDigit text).takeWhile Text.isDigit = []
      · simp [hrun, digitRuns_eq_nil hrun]
      · cases hadd : capture.add f ((toNextDigit text).takeWhile Text.isDigit) with
        | error e => simp [hrun, digitRuns_eq_cons hrun, hadd]
        | ok next => simp [hrun, digitRuns_eq_cons hrun, hadd, ih]

end VersionStamp
