import GlowSyntax.Match.Attempt
import GlowSyntax.Proofs.Scan.Located

namespace GlowSyntax

def Event.scan? : Event → Option ScanState
  | scan s => some s
  | _ => none

def scansOf (log : List Event) : List ScanState := log.filterMap Event.scan?

def Forest.stops : Forest → List ScanState
  | nil => []
  | token _ _ rest => rest.stops
  | tree _ node parts rest => node.stop :: (parts.stops ++ rest.stops)

def Tree.stops (t : Tree) : List ScanState := t.stop :: t.parts.stops

namespace Run

variable {α β : Type} {S T : ScanState → Prop} {P Q : α → Prop}

structure Visits (x : Run α) (S : ScanState → Prop) (P : α → Prop) : Prop where
  scans : ∀ s ∈ scansOf x.log, S s
  result : ∀ a, x.result = .ok a → P a

namespace Visits

lemma pure {a : α} (h : P a) : Visits (Pure.pure a) S P where
  scans s hs := by cases hs
  result b hb := by
    cases hb
    exact h

lemma fail {e : MatchError} : Visits (Run.fail e) S P where
  scans s hs := by cases hs
  result b hb := by cases hb

lemma note {e : Event} (he : e.scan? = none) : Visits (Run.note e) S fun _ => True where
  scans s hs := by simp [scansOf, he] at hs
  result _ _ := trivial

lemma bind {x : Run α} {f : α → Run β} {P : β → Prop} (hx : Visits x S Q)
    (hf : ∀ a, Q a → Visits (f a) S P) : Visits (x >>= f) S P := by
  change Visits (x.bind f) S P
  cases hr : x.result with
  | error e =>
    refine ⟨?_, ?_⟩
    · rw [log_bind_error hr]
      exact hx.scans
    · intro b hb
      rw [result_bind_error hr] at hb
      cases hb
  | ok a =>
    have hy := hf a (hx.result a hr)
    refine ⟨?_, ?_⟩
    · intro s hs
      rw [log_bind_ok hr, scansOf, List.filterMap_append, List.mem_append] at hs
      exact hs.elim (hx.scans s) (hy.scans s)
    · rw [result_bind_ok hr]
      exact hy.result

lemma mono {x : Run α} (h : Visits x S P) (hs : ∀ s, S s → T s) (hp : ∀ a, P a → Q a) : Visits x T Q :=
  ⟨fun s hm => hs s (h.scans s hm), fun a hr => hp a (h.result a hr)⟩

end Visits

end Run

open Run

variable {g : Grammar} {limit : Nat} {sc : Scanner} {call : Attempt} {rule : String} {frame : Frame}
  {s m : ScanState} {depth : Nat}

lemma scanToken_visits (sc : Scanner) (s : ScanState) :
    Visits (scanToken sc s) (sc.Leads s) fun out => sc.next s = .ok out where
  scans m hm := by
    have hm : m = s := by simpa [scansOf, Run.log, scanToken, Event.scan?] using hm
    exact hm ▸ .refl
  result _ h := scanToken_eq_ok h

def StopsFrom (sc : Scanner) (s : ScanState) : Option Tree → Prop
  | none => True
  | some t => ∀ m ∈ t.stops, sc.Leads s m

def PartsStopFrom (sc : Scanner) (s : ScanState) : Option (Forest × ScanState × Nat) → Prop
  | none => True
  | some (parts, stop, _) => sc.Leads s stop ∧ ∀ m ∈ parts.stops, sc.Leads s m

lemma matchItems_visits
    (hcall : ∀ name s depth parent, Visits (call name s depth parent) (sc.Leads s) (StopsFrom sc s))
    (items : List Item) (s : ScanState) (depth : Nat) :
    Visits (matchItems sc call rule frame items s depth) (sc.Leads s) (PartsStopFrom sc s) := by
  induction items generalizing s depth with
  | nil =>
    rw [matchItems]
    exact .pure ⟨.refl, by simp [Forest.stops]⟩
  | cons item items ih =>
    obtain ⟨symbol, label⟩ := item
    cases symbol with
    | token k =>
      rw [matchItems]
      refine (scanToken_visits sc s).bind fun (t, s') hn => ?_
      have hs' := Scanner.next_leads hn
      by_cases hk : t.kind = k
      · simp only [if_pos hk]
        refine ((ih s' (depth + 1)).mono (fun m hm => hs'.trans hm) fun _ => id).bind ?_
        rintro (_ | ⟨parts, stop, d⟩) h
        · exact .pure trivial
        · exact .pure ⟨hs'.trans h.1, fun m hm => hs'.trans (h.2 m hm)⟩
      · simp only [if_neg hk]
        exact (Visits.note rfl).bind fun _ _ => .pure trivial
    | rule name =>
      rw [matchItems]
      refine (hcall name s depth (some frame)).bind ?_
      rintro (_ | sub) hsub
      · exact .pure trivial
      · have hstop : sc.Leads s sub.stop := hsub _ List.mem_cons_self
        refine ((ih sub.stop sub.depth).mono (fun m hm => hstop.trans hm) fun _ => id).bind ?_
        rintro (_ | ⟨parts, stop, d⟩) h
        · exact .pure trivial
        · refine .pure ⟨hstop.trans h.1, ?_⟩
          rw [Forest.stops, ← List.cons_append]
          exact List.forall_mem_append.mpr ⟨hsub, fun m hm => hstop.trans (h.2 m hm)⟩

lemma matchAlternative_visits
    (hcall : ∀ name s depth parent, Visits (call name s depth parent) (sc.Leads s) (StopsFrom sc s))
    (r : Rule) (s : ScanState) (depth i : Nat) (a : Alternative) :
    Visits (matchAlternative sc call r frame s depth i a) (sc.Leads s) (StopsFrom sc s) := by
  rw [matchAlternative]
  refine (matchItems_visits hcall a s depth).bind ?_
  rintro (_ | ⟨parts, stop, d⟩) h
  · exact (Visits.note rfl).bind fun _ _ => .pure trivial
  · exact (Visits.note rfl).bind fun _ _ => .pure (List.forall_mem_cons.mpr h)

lemma matchAlternatives_visits
    (hcall : ∀ name s depth parent, Visits (call name s depth parent) (sc.Leads s) (StopsFrom sc s))
    (r : Rule) (s : ScanState) (depth i : Nat) (as : List Alternative) :
    Visits (matchAlternatives sc call r frame s depth i as) (sc.Leads s) (StopsFrom sc s) := by
  induction as generalizing i with
  | nil =>
    rw [matchAlternatives]
    exact .pure trivial
  | cons a as ih =>
    rw [matchAlternatives]
    refine (matchAlternative_visits hcall r s depth i a).bind ?_
    rintro (_ | t) h
    · exact ih (i + 1)
    · exact .pure h

lemma matchNested_visits (n : Nat) (name : String) (s : ScanState) (depth : Nat) (parent : Option Frame) :
    Visits (matchNested g limit sc n name s depth parent) (sc.Leads s) (StopsFrom sc s) := by
  induction n generalizing name s depth parent with
  | zero => exact .fail
  | succ n ih =>
    rw [matchNested, matchRule]
    dsimp only
    split
    · exact .fail
    · refine (Visits.note rfl).bind fun _ _ => ?_
      split
      · exact .fail
      · next r _ =>
        refine (scanToken_visits sc s).bind fun (t, s') hn => ?_
        by_cases ht : t.isEnd
        · simp only [if_pos ht]
          exact (Visits.note rfl).bind fun _ _ => (Visits.note rfl).bind fun _ _ => .pure trivial
        · simp only [if_neg ht]
          refine (Visits.note rfl).bind fun _ _ => ?_
          refine (matchAlternatives_visits ih r s depth 0 r.alternatives).bind fun out h => ?_
          exact (Visits.note rfl).bind fun _ _ => .pure h

lemma attemptRule_visits (name : String) (s : ScanState) (depth : Nat) :
    Visits (attemptRule g limit sc name s depth) (sc.Leads s) (StopsFrom sc s) :=
  matchNested_visits _ name s depth none

lemma attemptAlternative_visits (r : Rule) (i : Nat) (a : Alternative) (s : ScanState) (depth : Nat) :
    Visits (attemptAlternative g limit sc r i a s depth) (sc.Leads s) (StopsFrom sc s) :=
  matchAlternative_visits (matchNested_visits _) r s depth i a

end GlowSyntax
