import VersionStamp.Pattern.Match
import VersionStamp.Proofs.Text.Numeral

/-! The words that a pattern reads. A pattern without anchors and lookaheads reads, from any place,
exactly the words of a language that stand there: whatever follows is tried after every one of
them, so the matcher misses no way of dividing the text. -/

namespace VersionStamp

/-- The place after `word`. -/
def Cursor.over : Cursor → List Char → Cursor
  | cursor, [] => cursor
  | cursor, c :: word => (cursor.past c cursor.rest.tail).over word

namespace Cursor

@[simp] theorem over_nil (cursor : Cursor) : cursor.over [] = cursor := rfl

theorem over_append (cursor : Cursor) (a b : List Char) :
    cursor.over (a ++ b) = (cursor.over a).over b := by
  induction a generalizing cursor with
  | nil => rfl
  | cons c a ih => exact ih _

theorem over_rest {cursor : Cursor} {word rest : List Char} (h : cursor.rest = word ++ rest) :
    (cursor.over word).rest = rest := by
  induction word generalizing cursor with
  | nil => simpa using h
  | cons c word ih => exact ih (by simp [past, h])

end Cursor

namespace Pattern

/-- From every place the pattern reads the words of `L` that stand there, and no others. -/
def Reads (p : Pattern) (L : List Char → Prop) : Prop :=
  ∀ (cursor : Cursor) (next : Cursor → Option Cursor), (p.read cursor next).isSome = true ↔
    ∃ word rest, cursor.rest = word ++ rest ∧ L word ∧ (next (cursor.over word)).isSome = true

/-- A word of `L` and then a word of `M`. -/
def Joined (L M : List Char → Prop) (word : List Char) : Prop :=
  ∃ a b, word = a ++ b ∧ L a ∧ M b

theorem Reads.congr {p : Pattern} {L M : List Char → Prop} (h : p.Reads L)
    (hLM : ∀ word, L word ↔ M word) : p.Reads M := by
  intro cursor next
  rw [h cursor next]
  simp only [hLM]

theorem isSome_ite_iff {b : Bool} {answer : Option Cursor} :
    (if b = true then answer else none).isSome = true ↔ b = true ∧ answer.isSome = true := by
  cases b <;> simp

theorem reads_empty : Reads .empty (· = []) := by
  intro cursor next
  simp [read]

theorem reads_set (s : CharSet) : Reads (.set s) (fun word => ∃ c, word = [c] ∧ s.has c = true) := by
  intro cursor next
  cases hrest : cursor.rest with
  | nil => simp [read, hrest]
  | cons x rest =>
    simp only [read, hrest, isSome_ite_iff]
    constructor
    · rintro ⟨hx, hnext⟩
      exact ⟨[x], rest, rfl, ⟨x, rfl, hx⟩, by simpa [Cursor.over, hrest] using hnext⟩
    · rintro ⟨_, rest', heq, ⟨c, rfl, hc⟩, hnext⟩
      rcases List.cons.inj heq with ⟨rfl, rfl⟩
      exact ⟨hc, by simpa [Cursor.over, hrest] using hnext⟩

theorem reads_char (c : Char) : Reads (.char c) (· = [c]) := by
  apply (reads_set _).congr
  intro word
  simp [CharSet.has_single]

theorem Reads.seq {p q : Pattern} {L M : List Char → Prop} (hp : p.Reads L) (hq : q.Reads M) :
    Reads (.seq p q) (Joined L M) := by
  intro cursor next
  simp only [read, hp cursor, hq _ next]
  constructor
  · rintro ⟨a, _, hcursor, ha, b, rest, hover, hb, hnext⟩
    rw [Cursor.over_rest hcursor] at hover
    exact ⟨a ++ b, rest, by rw [hcursor, hover, List.append_assoc], ⟨a, b, rfl, ha, hb⟩,
      by rwa [Cursor.over_append]⟩
  · rintro ⟨_, rest, hcursor, ⟨a, b, rfl, ha, hb⟩, hnext⟩
    rw [List.append_assoc] at hcursor
    exact ⟨a, b ++ rest, hcursor, ha, b, rest, Cursor.over_rest hcursor, hb,
      by rwa [← Cursor.over_append]⟩

theorem isSome_readUpTo_succ (read : Reading) (n : Nat) (cursor : Cursor)
    (next : Cursor → Option Cursor) :
    (readUpTo read (n + 1) cursor next).isSome = true ↔
      (read cursor fun after => if after.index = cursor.index then next after
        else readUpTo read n after next).isSome = true ∨ (next cursor).isSome = true := by
  rw [readUpTo]
  simp only [Option.orElse_eq_orElse, Option.orElse_eq_or, Option.isSome_or, Bool.or_eq_true]

theorem readUpTo_set (s : CharSet) (n : Nat) (cursor : Cursor) (next : Cursor → Option Cursor) :
    (readUpTo (Pattern.set s).read n cursor next).isSome = true ↔
      ∃ word rest, cursor.rest = word ++ rest ∧ (word.length ≤ n ∧ ∀ c ∈ word, s.has c = true) ∧
        (next (cursor.over word)).isSome = true := by
  induction n generalizing cursor with
  | zero => simp [readUpTo]
  | succ n ih =>
    rw [isSome_readUpTo_succ, reads_set s]
    constructor
    · rintro (⟨_, _, hcursor, ⟨c, rfl, hc⟩, hround⟩ | hnext)
      · -- a round takes one character, so it is not the last one
        rw [if_neg (by simp [Cursor.over, Cursor.past]), ih] at hround
        obtain ⟨word, rest, hover, ⟨hlen, hall⟩, hnext⟩ := hround
        rw [Cursor.over_rest hcursor] at hover
        refine ⟨c :: word, rest, by rw [hcursor, hover]; rfl, ⟨by simpa using hlen, ?_⟩, hnext⟩
        exact List.forall_mem_cons.2 ⟨hc, hall⟩
      · exact ⟨[], cursor.rest, rfl, by simp, hnext⟩
    · rintro ⟨word, rest, hcursor, ⟨hlen, hall⟩, hnext⟩
      cases word with
      | nil => exact .inr hnext
      | cons c word =>
        rcases List.forall_mem_cons.1 hall with ⟨hc, hall⟩
        refine .inl ⟨[c], word ++ rest, hcursor, ⟨c, rfl, hc⟩, ?_⟩
        rw [if_neg (by simp [Cursor.over, Cursor.past]), ih]
        exact ⟨word, rest, Cursor.over_rest hcursor, ⟨by simpa using hlen, hall⟩, hnext⟩

theorem reads_number : Reads number (fun word => word ≠ [] ∧ Text.AllDigits word) := by
  intro cursor next
  change ((Pattern.set .digits).read cursor (fun after =>
    readUpTo (Pattern.set .digits).read (after.rest.length + 1) after next)).isSome = true ↔ _
  rw [reads_set]
  simp only [readUpTo_set]
  constructor
  · rintro ⟨_, _, hcursor, ⟨c, rfl, hc⟩, word, rest, hover, ⟨-, hall⟩, hnext⟩
    rw [Cursor.over_rest hcursor] at hover
    refine ⟨c :: word, rest, by rw [hcursor, hover]; rfl, ⟨by simp, ?_⟩, hnext⟩
    simp only [CharSet.has_digits] at hc hall
    exact Text.allDigits_cons.2 ⟨hc, hall⟩
  · rintro ⟨word, rest, hcursor, ⟨hne, hall⟩, hnext⟩
    cases word with
    | nil => exact absurd rfl hne
    | cons c word =>
      rcases Text.allDigits_cons.1 hall with ⟨hc, hall⟩
      have hover : (cursor.over [c]).rest = word ++ rest := Cursor.over_rest hcursor
      refine ⟨[c], word ++ rest, hcursor, ⟨c, rfl, ?_⟩, word, rest, hover, ⟨?_, ?_⟩, hnext⟩
      · rwa [CharSet.has_digits]
      · simp only [hover, List.length_append]
        omega
      · intro x hx
        rw [CharSet.has_digits]
        exact hall x hx

theorem read_ofList_append (a b : List Pattern) (cursor : Cursor)
    (next : Cursor → Option Cursor) :
    (ofList (a ++ b)).read cursor next =
      (ofList a).read cursor fun after => (ofList b).read after next := by
  induction a generalizing cursor with
  | nil => rfl
  | cons p a ih =>
    simp only [ofList, List.cons_append, List.foldr_cons, read] at ih ⊢
    simp only [ih]

theorem Reads.append {a b : List Pattern} {L M : List Char → Prop} (ha : (ofList a).Reads L)
    (hb : (ofList b).Reads M) : (ofList (a ++ b)).Reads (Joined L M) := by
  intro cursor next
  rw [read_ofList_append]
  exact ha.seq hb cursor next

theorem reads_word (word : List Char) : (ofList (word.map .char)).Reads (· = word) := by
  induction word with
  | nil => exact reads_empty
  | cons c word ih => exact ((reads_char c).seq ih).congr fun w => by simp [Joined]

/-- A text matches as a whole just when it is a word of the language. -/
theorem Reads.matchesAll_iff {p : Pattern} {L : List Char → Prop} (h : p.Reads L)
    (text : List Char) : p.matchesAll text = true ↔ L text := by
  rw [matchesAll, h]
  simp only [isSome_ite_iff, Option.isSome_some, and_true]
  constructor
  · rintro ⟨word, rest, htext, hword, hend⟩
    rw [Cursor.over_rest htext, List.isEmpty_iff] at hend
    have hall : text = word := by simpa [Cursor.atStart, hend] using htext
    rwa [hall]
  · intro hword
    have hall : (Cursor.atStart text).rest = text ++ [] := (List.append_nil text).symm
    exact ⟨text, [], hall, hword, by rw [Cursor.over_rest hall]; rfl⟩

end Pattern

end VersionStamp
