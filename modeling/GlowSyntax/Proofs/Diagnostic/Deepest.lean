import GlowSyntax.Diagnostic.Report
import GlowSyntax.Proofs.Firsts
import GlowSyntax.Proofs.Match.Record

namespace GlowSyntax

open FailureRecord

lemma rulePhrase_eq (rs : List String) :
    rulePhrase rs = (if rs.length = 1 then "rule " else "rules ")
      ++ ", ".intercalate (rs.map fun r => "`" ++ r ++ "`") := by
  match rs with
  | [] => rfl
  | [r] => simp [rulePhrase, ← String.append_assoc]
  | r :: s :: rs => simp [rulePhrase]

namespace FailureRecord

structure Deepest (r : FailureRecord) (fs : List Failure) : Prop where
  depth : r.deepest = (fs.map Failure.depth).max?
  attempts : r.attempts = fs.filter fun f => some f.depth = (fs.map Failure.depth).max?
  kinds : FirstsOf (expectedKinds r.attempts) (r.attempts.map Failure.expected)
  rules : FirstsOf (failingRules r.attempts) (r.attempts.map Failure.rule)
  note : ∀ start t, (noMatchDiagnostic start t r.attempts).notes = if fs = [] then [] else
    ["while matching " ++ (if (failingRules r.attempts).length = 1 then "rule " else "rules ")
      ++ ", ".intercalate ((failingRules r.attempts).map fun n => "`" ++ n ++ "`")]

variable {r : FailureRecord} {fs : List Failure}

lemma Keeps.attempts_eq_nil (h : r.Keeps fs) : r.attempts = [] ↔ fs = [] := by
  constructor
  · intro hnone
    by_contra hne
    obtain ⟨f, hf⟩ := List.exists_mem_of_ne_nil fs hne
    obtain ⟨n, hn, -⟩ := h.deepest_of_mem hf
    obtain ⟨f', hf', -⟩ := h.exists_deepest hn
    rw [hnone] at hf'
    cases hf'
  · rintro rfl
    simpa using h.attempts_eq

lemma Keeps.deepest_le {more : List Failure} {s : FailureRecord} (h : r.Keeps fs) (hs : s.Keeps (fs ++ more)) :
    r.deepest ≤ s.deepest := by
  cases hn : r.deepest with
  | none => exact Option.none_le
  | some n =>
    obtain ⟨f, hf, rfl⟩ := h.exists_deepest hn
    obtain ⟨m, hm, hle⟩ := hs.deepest_of_mem (List.mem_append_left more (h.mem_attempts.mp hf).1)
    rw [hm]
    exact Option.some_le_some.mpr hle

lemma notes_noMatch (start : String) (t : Token) (fs : List Failure) :
    (noMatchDiagnostic start t fs).notes =
      if fs = [] then [] else ["while matching " ++ rulePhrase (failingRules fs)] := by
  cases fs with
  | nil => rfl
  | cons f fs => rfl

lemma Keeps.deepest (h : r.Keeps fs) : r.Deepest fs where
  depth := h.deepest_eq
  attempts := h.deepest_eq ▸ h.attempts_eq
  kinds := firstsOf_eraseDups _
  rules := firstsOf_eraseDups _
  note start t := by
    simp only [notes_noMatch, h.attempts_eq_nil, rulePhrase_eq, String.append_assoc]

end FailureRecord

/-- However deep the failures are and in whichever order they come, a record keeps the deepest of them, and the depth
of those that it keeps never falls. -/
theorem record_keeps_deepest (fs : List Failure) :
    (empty.addAll fs).Deepest fs ∧ ∀ more, (empty.addAll fs).deepest ≤ (empty.addAll (fs ++ more)).deepest :=
  ⟨(keeps_addAll fs).deepest, fun more => (keeps_addAll fs).deepest_le (keeps_addAll (fs ++ more))⟩

end GlowSyntax
