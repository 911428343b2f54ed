import VersionStamp.Proofs.Outcome
import VersionStamp.Template.Compile

/-! What a compiled template consists of: its source in force, the segments of that, and a recognizer
that can be read. -/

namespace VersionStamp

namespace Template

/-- The template in force for a source. -/
def sourceInForce (source : List Char) : List Char :=
  if source.isEmpty then defaultSource else source

/-- The parts of a compiled template and how they hang together. -/
structure MadeFrom (t : Template) (source : List Char) (recognizer : Option (List Char)) :
    Prop where
  source_eq : t.source = sourceInForce source
  segmentsOf_eq : segmentsOf t.source = .ok t.segments
  recognizer_eq : t.recognizer = recognizer.getD (derivedRecognizer t.segments)
  ofText_eq : Pattern.ofText t.recognizer = .ok t.pattern

theorem compile_eq_ok_iff {source : List Char} {recognizer : Option (List Char)} {t : Template} :
    compile source recognizer = .ok t ↔ t.MadeFrom source recognizer := by
  rw [compile, ← sourceInForce]
  constructor
  · intro h
    rcases bind_eq_ok.1 h with ⟨segments, hs, h⟩
    simp only at h
    split at h
    · rename_i pattern hp
      cases h
      exact ⟨rfl, hs, rfl, hp⟩
    · cases h
  · rintro ⟨hsource, hs, hrecognizer, hp⟩
    rw [hsource] at hs
    rw [hrecognizer] at hp
    refine bind_eq_ok.2 ⟨_, hs, ?_⟩
    simp only [hp]
    rw [← hsource, ← hrecognizer]
    rfl

end Template

end VersionStamp
