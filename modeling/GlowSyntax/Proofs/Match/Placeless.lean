import GlowSyntax.Match.Run
import GlowSyntax.Match.Tree
import Mathlib.Order.Nat

namespace GlowSyntax

namespace Token

def placeless (t : Token) : Token := { t with pos := .start, span := .dummy, file := "" }

variable {t u : Token}

lemma placeless_eq_iff : t.placeless = u.placeless ↔ t.kind = u.kind ∧ t.content = u.content := by
  simp [placeless]

lemma isEnd_eq_of_placeless (h : t.placeless = u.placeless) : t.isEnd = u.isEnd := by
  rw [isEnd, isEnd, (placeless_eq_iff.mp h).1]

end Token

def Failure.placeless (f : Failure) : Failure := { f with found := f.found.placeless }

def Node.placeless (n : Node) : Node := { n with stop := .start }

def Forest.placeless : Forest → Forest
  | nil => nil
  | token label t rest => token label t.placeless rest.placeless
  | tree label node parts rest => tree label node.placeless parts.placeless rest.placeless

def Tree.placeless (t : Tree) : Tree := ⟨t.node.placeless, t.parts.placeless⟩

lemma Tree.depth_eq_of_placeless {t u : Tree} (h : t.placeless = u.placeless) : t.depth = u.depth :=
  congrArg (fun t => t.node.depth) h

namespace FailureRecord

def placeless (r : FailureRecord) : FailureRecord := { r with attempts := r.attempts.map Failure.placeless }

lemma add_placeless (r : FailureRecord) (f : Failure) : (r.add f).placeless = r.placeless.add f.placeless := by
  obtain ⟨attempts, deepest⟩ := r
  cases deepest with
  | none => rfl
  | some n =>
    have hdepth : f.placeless.depth = f.depth := rfl
    simp only [add, placeless, hdepth]
    split
    · rfl
    · split <;> simp

lemma addAll_placeless (r : FailureRecord) (fs : List Failure) :
    (r.addAll fs).placeless = r.placeless.addAll (fs.map Failure.placeless) := by
  induction fs generalizing r with
  | nil => rfl
  | cons f fs ih =>
    have hadd := ih (r.add f)
    rwa [add_placeless] at hadd

end FailureRecord

end GlowSyntax
