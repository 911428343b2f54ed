import Mathlib.Data.List.DropRight
import Mathlib.Data.List.TakeWhile
import VersionStamp.Config.Overrides

/-! Texts that say yes: between white space one of four words, in letters of either case. No letter of
another script has one of their letters for its lower case. -/

namespace VersionStamp

namespace Text

theorem stripBy_eq_iff {p : Char → Bool} {text word : List Char} (hne : word ≠ [])
    (hword : ∀ c ∈ word, ¬p c = true) : stripBy p text = word ↔
      ∃ before after, text = before ++ word ++ after ∧ ∀ c ∈ before ++ after, p c = true := by
  change (text.dropWhile p).rdropWhile p = word ↔ _
  constructor
  · rintro rfl
    refine ⟨text.takeWhile p, (text.dropWhile p).rtakeWhile p, ?_, ?_⟩
    · rw [List.append_assoc, List.rdropWhile_append_rtakeWhile, List.takeWhile_append_dropWhile]
    · exact List.forall_mem_append.2
        ⟨fun _ => List.mem_takeWhile_imp, fun _ => List.mem_rtakeWhile_imp⟩
  · rintro ⟨before, after, rfl, hblank⟩
    rw [List.forall_mem_append] at hblank
    have hfront : (before ++ word ++ after).dropWhile p = word ++ after := by
      obtain ⟨c, rest, rfl⟩ := List.exists_cons_of_ne_nil hne
      rw [List.append_assoc, List.dropWhile_append_of_pos hblank.1, List.cons_append,
        List.dropWhile_cons_of_neg (hword c (by simp))]
    have hback : (word ++ after).rdropWhile p = word.rdropWhile p := by
      rw [List.rdropWhile, List.reverse_append,
        List.dropWhile_append_of_pos fun c hc => hblank.2 c (List.mem_reverse.1 hc), List.rdropWhile]
    rw [hfront, hback, List.rdropWhile_eq_self_iff]
    exact fun hl => hword _ (List.getLast_mem hl)

/-- The characters of the words that say yes. -/
def yesLetters : List Char := ['1', 't', 'r', 'u', 'e', 'y', 's', 'o', 'n']

theorem ascii_of_mem_yesLetters : ∀ d ∈ yesLetters, d.toNat < 128 := by
  simpa using (by decide : yesLetters.all (·.toNat < 128) = true)

theorem toLower_of_ascii {c : Char} (h : c.toNat < 128) : toLower c = c.toLower := by
  have hall : ∀ n < 128, toLower (Char.ofNat n) = (Char.ofNat n).toLower := by decide +kernel
  simpa using hall c.toNat h

theorem charToLower_eq_self {c : Char} (h : ¬c.toNat < 128) : c.toLower = c := by
  unfold Char.toLower
  split
  · rename_i hupper
    have hle := UInt32.le_iff_toNat_le.1 hupper.2
    exact absurd (lt_of_le_of_lt hle (by decide)) h
  · rfl

/-- Beyond ASCII no character is lower case for one of these letters. -/
theorem lower?_ne_of_mem_yesLetters {c d : Char} (hc : ¬c.toNat < 128) (hd : d ∈ yesLetters)
    {r : CaseRange} (hr : r ∈ caseRanges) : r.lower? c ≠ some d := by
  have hapart : ∀ r ∈ caseRanges, r.last < 128 ∨ (yesLetters.all fun d =>
      0 < d.toNat ∧ (d.toNat < r.lower ∨ r.lower + (r.last - r.first) < d.toNat)) = true := by
    decide +kernel
  intro h
  rw [CaseRange.lower?, Option.ite_none_right_eq_some] at h
  obtain ⟨hrange, hlower⟩ := h
  simp only [Bool.and_eq_true, decide_eq_true_eq] at hrange
  have hcode : r.lower + (c.toNat - r.first) = d.toNat ∨ d.toNat = 0 := by
    rw [← Option.some.inj hlower]
    by_cases hvalid : (r.lower + (c.toNat - r.first)).isValidChar
    · exact .inl (by rw [Char.ofNat, dif_pos hvalid]; rfl)
    · exact .inr (by rw [Char.ofNat, dif_neg hvalid]; rfl)
  rcases hapart r hr with hlast | hletter
  · omega
  · have hbeside := of_decide_eq_true (List.all_eq_true.1 hletter d hd)
    omega

theorem toLower_eq_iff {c d : Char} (hd : d ∈ yesLetters) : toLower c = d ↔ c.toLower = d := by
  by_cases hc : c.toNat < 128
  · rw [toLower_of_ascii hc]
  · have hne : c ≠ d := by
      rintro rfl
      exact hc (ascii_of_mem_yesLetters c hd)
    rw [charToLower_eq_self hc, toLower]
    refine iff_of_false (fun h => ?_) hne
    cases hfound : caseRanges.findSome? (·.lower? c) with
    | none =>
      rw [hfound] at h
      exact hne h
    | some l =>
      obtain ⟨r, hr, hlower⟩ := List.exists_of_findSome?_eq_some hfound
      rw [hfound] at h
      exact lower?_ne_of_mem_yesLetters hc hd hr (hlower.trans (congrArg some h))

theorem lower_eq_iff {word target : List Char} (h : ∀ d ∈ target, d ∈ yesLetters) :
    lower word = target ↔ word.map Char.toLower = target := by
  induction word generalizing target with
  | nil => exact Iff.rfl
  | cons c word ih =>
    cases target with
    | nil => exact iff_of_false (by simp [lower]) (by simp)
    | cons d target =>
      rw [List.forall_mem_cons] at h
      rw [lower, List.map_cons, List.map_cons, List.cons.injEq, List.cons.injEq,
        toLower_eq_iff h.1]
      exact and_congr_right fun _ => ih h.2

theorem not_isBlank_of_toLower_mem {c : Char} (h : c.toLower ∈ yesLetters) : ¬isBlank c = true := by
  by_cases hc : c.toNat < 128
  · have hall : ∀ n < 128, (Char.ofNat n).toLower ∈ yesLetters → ¬isBlank (Char.ofNat n) = true := by
      decide +kernel
    simpa using hall c.toNat hc (by simpa using h)
  · rw [charToLower_eq_self hc] at h
    exact absurd (ascii_of_mem_yesLetters c h) hc

end Text

/-- One of four words in letters of either case, with white space around it. -/
def Affirms (text : String) : Prop :=
  ∃ before word after, text.toList = before ++ word ++ after ∧
    (∀ c ∈ before ++ after, Text.isBlank c = true) ∧
    String.ofList (word.map Char.toLower) ∈ ["1", "true", "yes", "on"]

theorem saysYes_iff {text : String} : saysYes text = true ↔ Affirms text := by
  have hletters : ∀ target ∈ ["1", "true", "yes", "on"],
      target.toList ≠ [] ∧ ∀ d ∈ target.toList, d ∈ Text.yesLetters := by
    simp [Text.yesLetters]
  rw [saysYes, List.contains_iff_mem]
  constructor
  · intro h
    obtain ⟨hne, hyes⟩ := hletters _ h
    rw [String.toList_ofList] at hne hyes
    have hlower := (Text.lower_eq_iff hyes).1 rfl
    rw [← hlower] at h hne hyes
    have hblank : ∀ c ∈ Text.strip text.toList, ¬Text.isBlank c = true := fun c hc =>
      Text.not_isBlank_of_toLower_mem (hyes _ (List.mem_map_of_mem hc))
    obtain ⟨before, after, htext, haround⟩ :=
      (Text.stripBy_eq_iff (by simpa using hne) hblank).1 rfl
    exact ⟨before, _, after, htext, haround, h⟩
  · rintro ⟨before, word, after, htext, haround, h⟩
    obtain ⟨hne, hyes⟩ := hletters _ h
    rw [String.toList_ofList] at hne hyes
    have hblank : ∀ c ∈ word, ¬Text.isBlank c = true := fun c hc =>
      Text.not_isBlank_of_toLower_mem (hyes _ (List.mem_map_of_mem hc))
    have hstrip : Text.strip text.toList = word :=
      (Text.stripBy_eq_iff (by simpa using hne) hblank).2 ⟨before, after, htext, haround⟩
    rwa [hstrip, (Text.lower_eq_iff hyes).2 rfl]

end VersionStamp
