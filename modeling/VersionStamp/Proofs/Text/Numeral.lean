import Mathlib.Data.List.Induction
import Mathlib.Data.List.TakeWhile
import Mathlib.Tactic.IntervalCases
import Mathlib.Tactic.Ring
import VersionStamp.Text.Numeral

/-! Writing and reading numerals. The decimal text of a number reads back as that number, padded or
not, and a run of digits is read as its value whatever scripts its digits come from. -/

namespace VersionStamp.Text

@[simp] theorem isDigit_digitChar {n : Nat} (h : n < 10) : isDigit n.digitChar = true := by
  interval_cases n <;> decide

@[simp] theorem digitValue_digitChar {n : Nat} (h : n < 10) : digitValue n.digitChar = n := by
  interval_cases n <;> decide

/-- Every character of a text is a digit. -/
def AllDigits (text : List Char) : Prop := ∀ c ∈ text, isDigit c = true

instance (text : List Char) : Decidable (AllDigits text) :=
  inferInstanceAs (Decidable (∀ c ∈ text, isDigit c = true))

@[simp] theorem allDigits_nil : AllDigits [] := by simp [AllDigits]

@[simp] theorem allDigits_cons {c : Char} {text : List Char} :
    AllDigits (c :: text) ↔ isDigit c = true ∧ AllDigits text := by
  simp [AllDigits]

@[simp] theorem allDigits_append {a b : List Char} :
    AllDigits (a ++ b) ↔ AllDigits a ∧ AllDigits b := by
  simp [AllDigits, or_imp, forall_and]

/-! ### Decimal text -/

theorem decimal_eq (n : Nat) :
    decimal n = (if n < 10 then [] else decimal (n / 10)) ++ [(n % 10).digitChar] := by
  unfold decimal
  rw [Nat.toDigits_eq_if (by decide)]
  split
  · rename_i h
    simp [Nat.mod_eq_of_lt h]
  · rfl

theorem decimal_ne_nil (n : Nat) : decimal n ≠ [] := Nat.toDigits_ne_nil

theorem decimal_length_mono {m n : Nat} (h : m ≤ n) : (decimal m).length ≤ (decimal n).length := by
  have hpos : 0 < (decimal n).length := List.length_pos_iff.2 (decimal_ne_nil n)
  rw [decimal_length_le_iff hpos]
  exact h.trans_lt ((decimal_length_le_iff hpos).1 le_rfl)

theorem allDigits_decimal (n : Nat) : AllDigits (decimal n) := by
  induction n using Nat.strong_induction_on with
  | _ n ih =>
    have hd : isDigit (n % 10).digitChar = true := isDigit_digitChar (Nat.mod_lt n (by decide))
    rw [decimal_eq]
    split
    · simpa using hd
    · simpa [hd] using ih (n / 10) (by omega)

theorem digitsValue_concat (digits : List Char) (c : Char) :
    digitsValue (digits ++ [c]) = digitsValue digits * 10 + digitValue c := by
  rw [digitsValue, List.foldl_append, mul_comm]
  rfl

theorem digitsValue_append (a b : List Char) :
    digitsValue (a ++ b) = digitsValue a * 10 ^ b.length + digitsValue b := by
  induction b using List.reverseRecOn with
  | nil => simp [digitsValue]
  | append_singleton b c ih =>
    rw [← List.append_assoc, digitsValue_concat, digitsValue_concat, ih]
    simp only [List.length_append, List.length_singleton, pow_succ]
    ring

theorem digitsValue_lt (digits : List Char) : digitsValue digits < Nat.pow 10 digits.length := by
  change _ < 10 ^ digits.length
  induction digits using List.reverseRecOn with
  | nil => decide
  | append_singleton digits c ih =>
    have hc : digitsValue [c] < 10 := by simpa [digitsValue] using digitValue_lt_ten c
    rw [digitsValue_append, List.length_append, List.length_singleton, pow_one, pow_succ]
    omega

@[simp] theorem digitsValue_decimal (n : Nat) : digitsValue (decimal n) = n := by
  induction n using Nat.strong_induction_on with
  | _ n ih =>
    have hd : digitValue (n % 10).digitChar = n % 10 :=
      digitValue_digitChar (Nat.mod_lt n (by decide))
    rw [decimal_eq, digitsValue_append]
    split
    · simp [digitsValue, hd]
      omega
    · rw [ih (n / 10) (by omega)]
      simp [digitsValue, hd]
      omega

theorem digitsValue_succ_eq_pow_iff {digits : List Char} {k : Nat} (h : digits.length ≤ k) :
    digitsValue digits + 1 = Nat.pow 10 k ↔
      digits.length = k ∧ ∀ c ∈ digits, digitValue c = 9 := by
  change _ = 10 ^ k ↔ _
  induction digits using List.reverseRecOn generalizing k with
  | nil =>
    cases k with
    | zero => simp [digitsValue]
    | succ m =>
      have hten : 10 ^ (m + 1) ≠ 1 := by
        rw [pow_succ]
        omega
      simp [digitsValue, hten.symm]
  | append_singleton digits c ih =>
    rw [List.length_append, List.length_singleton] at h ⊢
    obtain ⟨m, rfl⟩ : ∃ m, k = m + 1 := ⟨k - 1, by omega⟩
    have hc : digitValue c < 10 := digitValue_lt_ten c
    have hlast : digitsValue (digits ++ [c]) + 1 = 10 ^ (m + 1) ↔
        digitsValue digits + 1 = 10 ^ m ∧ digitValue c = 9 := by
      rw [digitsValue_concat, pow_succ]
      omega
    rw [hlast, ih (by omega)]
    simp [or_imp, forall_and, and_assoc]

/-! ### Shortest text -/

theorem digitChar_digitValue {c : Char} (h : c.isDigit = true) : (digitValue c).digitChar = c := by
  obtain ⟨n, hn, rfl⟩ : ∃ n < 10, c = n.digitChar := by
    have hc : 48 ≤ c.toNat ∧ c.toNat ≤ 57 := Char.isDigit_iff_toNat.1 h
    have hn : c.toNat - 48 < 10 := by omega
    refine ⟨c.toNat - 48, hn, ?_⟩
    rw [← Char.toNat_inj, Nat.toNat_digitChar_of_lt_ten hn]
    omega
  rw [digitValue_digitChar hn]

/-- Text of a number in ASCII digits, without a zero that could be left out. -/
structure IsShortest (text : List Char) : Prop where
  ne_nil : text ≠ []
  isDigit : ∀ c ∈ text, c.isDigit = true
  zero_alone : ∀ rest, text = '0' :: rest → rest = []

theorem isShortest_decimal (n : Nat) : IsShortest (decimal n) where
  ne_nil := decimal_ne_nil n
  isDigit _ hc := Nat.isDigit_of_mem_toDigits (by decide) (by decide) hc
  zero_alone := by
    induction n using Nat.strong_induction_on with
    | _ n ih =>
      intro rest hrest
      rw [decimal_eq] at hrest
      split at hrest
      · simp_all
      · -- a zero in front would be the whole text of `n / 10`, which is not 0
        obtain ⟨c, front, hfront⟩ := List.exists_cons_of_ne_nil (decimal_ne_nil (n / 10))
        rw [hfront, List.cons_append, List.cons.injEq] at hrest
        rcases hrest with ⟨rfl, -⟩
        have hvalue : n / 10 = 0 := by
          rw [← digitsValue_decimal (n / 10), hfront, ih (n / 10) (by omega) front hfront]
          decide
        omega

theorem IsShortest.decimal_digitsValue {text : List Char} (h : IsShortest text) :
    decimal (digitsValue text) = text := by
  induction text using List.reverseRecOn with
  | nil => exact absurd rfl h.ne_nil
  | append_singleton front c ih =>
    have hc : (digitValue c).digitChar = c := digitChar_digitValue (h.isDigit c (by simp))
    have hlt : digitValue c < 10 := digitValue_lt_ten c
    have hmod : (digitsValue front * 10 + digitValue c) % 10 = digitValue c := by omega
    have hdiv : (digitsValue front * 10 + digitValue c) / 10 = digitsValue front := by omega
    rw [decimal_eq, digitsValue_concat, hmod, hdiv, hc]
    congr 1
    cases hfront : front with
    | nil => exact if_pos (by simpa [digitsValue] using hlt)
    | cons d rest =>
      have hd : d ≠ '0' := by
        rintro rfl
        simpa using h.zero_alone (rest ++ [c]) (by rw [hfront]; rfl)
      rw [← hfront]
      have hdecimal : decimal (digitsValue front) = front := ih {
        ne_nil := by simp [hfront]
        isDigit := fun x hx => h.isDigit x (List.mem_append_left _ hx)
        zero_alone := fun _ hzero => by
          rw [hfront, List.cons.injEq] at hzero
          exact absurd hzero.1 hd }
      have hpos : digitsValue front ≠ 0 := fun hzero => by
        rw [hzero, hfront] at hdecimal
        exact hd (List.cons.inj hdecimal).1.symm
      rw [if_neg (by omega), hdecimal]

/-! ### Padded text -/

theorem allDigits_padded (width n : Nat) : AllDigits (padded width n) := by
  have hz : AllDigits (List.replicate (width - (decimal n).length) '0') := by
    intro c hc
    rw [List.eq_of_mem_replicate hc]
    decide
  exact allDigits_append.2 ⟨hz, allDigits_decimal n⟩

theorem padded_length {width n : Nat} (hw : 0 < width) (h : n < 10 ^ width) :
    (padded width n).length = width := by
  have hl : (decimal n).length ≤ width := (decimal_length_le_iff hw).2 h
  simp only [padded, List.length_append, List.length_replicate]
  omega

theorem digitsValue_zeros (k : Nat) : digitsValue (List.replicate k '0') = 0 := by
  induction k with
  | zero => rfl
  | succ k ih =>
    rw [List.replicate_succ', digitsValue_append, ih]
    decide

@[simp] theorem digitsValue_padded (width n : Nat) : digitsValue (padded width n) = n := by
  rw [padded, digitsValue_append, digitsValue_zeros, digitsValue_decimal]
  omega

theorem isDigit_of_mem_padded {width n : Nat} {c : Char} (h : c ∈ padded width n) :
    c.isDigit = true := by
  rcases List.mem_append.1 h with hzero | hdecimal
  · rw [List.eq_of_mem_replicate hzero]
    decide
  · exact (isShortest_decimal n).isDigit c hdecimal

/-! ### Reading -/

theorem readDigits_decimal {n : Nat} (h : isWritable n = true) : readDigits (decimal n) = .ok n := by
  rw [readDigits, if_pos (isWritable_iff.1 h), digitsValue_decimal]

theorem digitsValue_lt_of_length_le {digits : List Char} {k : Nat} (h : digits.length ≤ k) :
    digitsValue digits < Nat.pow 10 k :=
  (digitsValue_lt digits).trans_le (Nat.pow_le_pow_right (by decide) h)

/-- A run that is short enough to be read has a value that is small enough to be written. -/
theorem isWritable_digitsValue {digits : List Char} (h : digits.length ≤ digitLimit) :
    isWritable (digitsValue digits) = true := by
  rw [isWritable, decide_eq_true_eq]
  exact digitsValue_lt_of_length_le h

theorem not_isNumeralBlank_of_isDigit {c : Char} (h : isDigit c = true) :
    isNumeralBlank c = false := by
  have hapart : ∀ first ∈ digitZeros, ∀ r ∈ blankRanges, first + 10 ≤ r.1 ∨ r.2 < first := by
    decide
  obtain ⟨first, hfirst⟩ : ∃ first, digitZeros.find? (fun first =>
      first ≤ c.toNat && c.toNat < first + 10) = some first := by
    simpa [isDigit, digitValue?, Option.isSome_iff_exists] using h
  have hc := List.find?_some hfirst
  simp only [Bool.and_eq_true, decide_eq_true_eq] at hc
  have hblank : isBlank c = false := by
    rw [Bool.eq_false_iff, ne_eq, isBlank, inRanges_iff]
    rintro ⟨r, hr, hlower, hupper⟩
    have := hapart first (List.mem_of_find?_eq_some hfirst) r hr
    omega
  simp [isNumeralBlank, hblank]

theorem joinDigits?_of_allDigits {digits : List Char} (h : AllDigits digits) (hne : digits ≠ []) :
    joinDigits? digits = some digits := by
  induction digits with
  | nil => exact absurd rfl hne
  | cons c rest ih =>
    rw [allDigits_cons] at h
    cases rest with
    | nil => simp [joinDigits?, h.1]
    | cons d rest =>
      have hd : d ≠ '_' := by
        rintro rfl
        exact absurd (allDigits_cons.1 h.2).1 (by decide)
      simp [joinDigits?, h.1, hd, ih h.2 (by simp)]

theorem splitSign_of_allDigits {digits : List Char} (h : AllDigits digits) :
    splitSign digits = (false, digits) := by
  unfold splitSign
  split
  · exact absurd (allDigits_cons.1 h).1 (by decide)
  · exact absurd (allDigits_cons.1 h).1 (by decide)
  · rfl

/-- A run of digits is read as its value, within the limit. -/
theorem readInt_of_allDigits {digits : List Char} (h : AllDigits digits) (hne : digits ≠ []) :
    readInt digits = (readDigits digits).map (Int.ofNat ·) := by
  have hblanks : digits.dropWhile isNumeralBlank = digits := by
    cases digits with
    | nil => rfl
    | cons c rest =>
      rw [List.dropWhile_cons, not_isNumeralBlank_of_isDigit (allDigits_cons.1 h).1]
      rfl
  have hrun : ∀ c ∈ digits, (isDigit c || c == '_') = true := fun c hc => by simp [h c hc]
  rw [readInt, hblanks, splitSign_of_allDigits h]
  simp only [List.takeWhile_eq_self_iff.2 hrun, List.dropWhile_eq_nil_iff.2 hrun,
    joinDigits?_of_allDigits h hne]
  cases readDigits digits <;> rfl

end VersionStamp.Text
