import GlowSyntax.Match.Probe
import GlowSyntax.Proofs.Match.Extent

/-!
The matcher on a cursor makes the runs of the matcher on states, and a rule or an alternative that is attempted
leaves the cursor as it was, on every outcome. Items may leave it anywhere, but over the same source.
-/

namespace GlowSyntax

namespace Probe

variable {α β γ δ : Type} {K L : Cursor → Prop}

/-- From a cursor an action does what the run does. The cursor that it leaves has the property `K`, also after an
error; the results are related, with that cursor, by `R`. -/
structure Mirrors (x : Probe α) (c : Cursor) (run : Run β) (K : Cursor → Prop) (R : β → α → Cursor → Prop) :
    Prop where
  log_eq : (x c).1.log = run.log
  left : K (x c).2
  error : ∀ e, run.result = .error e → (x c).1.result = .error e
  result : ∀ b, run.result = .ok b → ∃ a, (x c).1.result = .ok a ∧ R b a (x c).2

section Bind

variable {x : Probe α} {f : α → Probe β} {c : Cursor} {a : α} {e : MatchError}

lemma bind_ok (h : (x c).1.result = .ok a) :
    ((x >>= f) c).1.log = (x c).1.log ++ (f a (x c).2).1.log ∧
    ((x >>= f) c).1.result = (f a (x c).2).1.result ∧ ((x >>= f) c).2 = (f a (x c).2).2 := by
  change (x.bind f c).1.log = _ ∧ (x.bind f c).1.result = _ ∧ (x.bind f c).2 = _
  simp [Probe.bind, h, Run.log]

lemma bind_error (h : (x c).1.result = .error e) :
    ((x >>= f) c).1.log = (x c).1.log ∧ ((x >>= f) c).1.result = .error e ∧ ((x >>= f) c).2 = (x c).2 := by
  change (x.bind f c).1.log = _ ∧ (x.bind f c).1.result = _ ∧ (x.bind f c).2 = _
  simp [Probe.bind, h, Run.log]

end Bind

namespace Mirrors

variable {x : Probe α} {f : α → Probe γ} {c : Cursor} {run : Run β} {k : β → Run δ}
  {R : β → α → Cursor → Prop} {S : δ → γ → Cursor → Prop}

lemma pure {a : α} {b : β} (hk : K c) (h : R b a c) : Mirrors (Pure.pure a) c (Pure.pure b) K R where
  log_eq := rfl
  left := hk
  error e he := by cases he
  result b' hb := by
    cases hb
    exact ⟨a, rfl, h⟩

lemma fail {e : MatchError} (hk : K c) : Mirrors (Probe.fail e) c (Run.fail e) K R where
  log_eq := rfl
  left := hk
  error e' he := by
    cases he
    rfl
  result b hb := by cases hb

lemma note {e : Event} (hk : K c) : Mirrors (Probe.note e) c (Run.note e) K fun _ _ c' => c' = c where
  log_eq := rfl
  left := hk
  error e he := by cases he
  result b hb := ⟨(), rfl, rfl⟩

lemma bind (hx : Mirrors x c run K R) (hf : ∀ b a c', K c' → R b a c' → Mirrors (f a) c' (k b) K S) :
    Mirrors (x >>= f) c (run >>= k) K S := by
  change Mirrors (x >>= f) c (run.bind k) K S
  cases hr : run.result with
  | error e =>
    obtain ⟨hlog, hresult, hleft⟩ := bind_error (f := f) (hx.error e hr)
    refine ⟨?_, hleft ▸ hx.left, ?_, ?_⟩
    · rw [hlog, hx.log_eq, Run.log_bind_error hr]
    · intro e' he
      cases (Run.result_bind_error hr k).symm.trans he
      exact hresult
    · intro d hd
      cases (Run.result_bind_error hr k).symm.trans hd
  | ok b =>
    obtain ⟨a, ha, hR⟩ := hx.result b hr
    obtain ⟨hlog, hresult, hleft⟩ := bind_ok (f := f) ha
    have hy := hf b a _ hx.left hR
    refine ⟨?_, hleft ▸ hy.left, ?_, ?_⟩
    · rw [hlog, hx.log_eq, hy.log_eq, Run.log_bind_ok hr]
    · rw [Run.result_bind_ok hr, hresult]
      exact hy.error
    · rw [Run.result_bind_ok hr, hresult, hleft]
      exact hy.result

lemma state {f : ScanState → Probe α} (h : Mirrors (f c.state) c run K R) :
    Mirrors (Probe.state >>= f) c run K R := by
  obtain ⟨hlog, hresult, hleft⟩ := bind_ok (x := Probe.state) (f := f) (c := c) rfl
  exact ⟨hlog.trans h.log_eq, hleft ▸ h.left, hresult ▸ h.error, by rw [hresult, hleft]; exact h.result⟩

lemma restore {s : ScanState} {f : Unit → Probe α} (h : Mirrors (f ()) (c.restore s) run K R) :
    Mirrors (Probe.restore s >>= f) c run K R := by
  obtain ⟨hlog, hresult, hleft⟩ := bind_ok (x := Probe.restore s) (f := f) (c := c) rfl
  exact ⟨hlog.trans h.log_eq, hleft ▸ h.left, hresult ▸ h.error, by rw [hresult, hleft]; exact h.result⟩

lemma mono {T : β → α → Cursor → Prop} (h : Mirrors x c run K R) (hk : ∀ c', K c' → L c')
    (hr : ∀ b a c', R b a c' → T b a c') : Mirrors x c run L T where
  log_eq := h.log_eq
  left := hk _ h.left
  error := h.error
  result b hb := by
    obtain ⟨a, ha, hR⟩ := h.result b hb
    exact ⟨a, ha, hr b a _ hR⟩

lemma map {g : α → γ} (h : Mirrors x c run K R) :
    Mirrors (g <$> x) c run K fun b a' c' => ∃ a, R b a c' ∧ a' = g a := by
  change Mirrors (x >>= fun a => Pure.pure (g a)) c run K _
  constructor
  · cases hr : run.result with
    | error e => rw [(bind_error (h.error e hr)).1, h.log_eq]
    | ok b =>
      obtain ⟨a, ha, -⟩ := h.result b hr
      rw [(bind_ok ha).1, h.log_eq]
      exact List.append_nil _
  · cases hr : run.result with
    | error e => exact (bind_error (h.error e hr)).2.2 ▸ h.left
    | ok b =>
      obtain ⟨a, ha, -⟩ := h.result b hr
      exact (bind_ok ha).2.2 ▸ h.left
  · intro e he
    exact (bind_error (h.error e he)).2.1
  · intro b hb
    obtain ⟨a, ha, hR⟩ := h.result b hb
    obtain ⟨-, hresult, hleft⟩ := bind_ok (f := fun a => Pure.pure (g a)) ha
    exact ⟨g a, hresult, a, hleft ▸ hR, rfl⟩

lemma rollback (h : Mirrors x c run (fun c' => c'.scanner = c.scanner) R) :
    Mirrors (Probe.rollback x) c run (fun c' => c' = c) fun b out c' =>
      c' = c ∧ ∃ d, R b out.1 d ∧ out.2 = d.state where
  log_eq := h.log_eq
  left := by
    simp only [Probe.rollback, Cursor.restore, h.left]
  error e he := by
    simp only [Probe.rollback, h.error e he, Except.map]
  result b hb := by
    obtain ⟨a, ha, hR⟩ := h.result b hb
    refine ⟨(a, (x c).2.state), ?_, ?_, _, hR, rfl⟩
    · simp only [Probe.rollback, ha, Except.map]
    · simp only [Probe.rollback, Cursor.restore, h.left]

end Mirrors

end Probe

open Probe

lemma next_mirrors (c : Cursor) :
    Mirrors Probe.next c (scanToken c.scanner c.state) (fun c' => c'.scanner = c.scanner)
      fun out t c' => t = out.1 ∧ c' = c.restore out.2 := by
  cases hn : c.scanner.next c.state with
  | error e =>
    constructor <;> simp [Probe.next, Cursor.next, Cursor.restore, scanToken, hn, Except.mapError, Run.log]
  | ok out =>
    constructor <;> simp [Probe.next, Cursor.next, Cursor.restore, scanToken, hn, Except.mapError, Run.log]

abbrev Probe.Keeps {α : Type} (x : Probe α) (c : Cursor) (run : Run α) : Prop :=
  Mirrors x c run (fun c' => c' = c) fun b a _ => a = b

lemma Probe.Mirrors.keeps_eq {α : Type} {x : Probe α} {c : Cursor} {run : Run α} (h : Keeps x c run) :
    (x c).1.log = run.log ∧ (x c).1.result = run.result ∧ (x c).2 = c := by
  refine ⟨h.log_eq, ?_, h.left⟩
  cases hr : run.result with
  | error e => exact h.error e hr
  | ok b =>
    obtain ⟨_, ha, rfl⟩ := h.result b hr
    exact ha

lemma peek_mirrors (c : Cursor) :
    Mirrors Probe.peek c (scanToken c.scanner c.state) (fun c' => c' = c) fun out t _ => t = out.1 := by
  refine (next_mirrors c).rollback.map.mono (fun _ => id) ?_
  rintro out t c' ⟨_, ⟨-, d, ⟨ht, -⟩, -⟩, rfl⟩
  exact ht

def Arrives : Option (Forest × ScanState × Nat) → Option (Forest × Nat) → Cursor → Prop
  | none, found, _ => found = none
  | some (parts, stop, depth), found, c => found = some (parts, depth) ∧ c.state = stop

variable {g : Grammar} {limit : Nat} {sc : Scanner} {call : Attempt} {probe : NestedProbe} {frame : Frame}

section

variable (hcall : ∀ name depth parent c, c.scanner = sc →
  Keeps (probe name depth parent) c (call name c.state depth parent))
include hcall

lemma probeItems_mirrors (rule : String) (items : List Item) (depth : Nat) (c : Cursor) (hc : c.scanner = sc) :
    Mirrors (probeItems probe rule frame items depth) c (matchItems sc call rule frame items c.state depth)
      (fun c' => c'.scanner = sc) Arrives := by
  induction items generalizing depth c with
  | nil =>
    rw [probeItems, matchItems]
    exact .pure hc ⟨rfl, rfl⟩
  | cons item items ih =>
    obtain ⟨symbol, label⟩ := item
    cases symbol with
    | token k =>
      rw [probeItems, matchItems]
      subst hc
      refine Mirrors.bind (next_mirrors c) ?_
      rintro ⟨t, s'⟩ u c' hc ⟨hu, hc'⟩
      subst hu hc'
      by_cases hk : u.kind = k
      · simp only [if_pos hk]
        refine Mirrors.bind (ih (depth + 1) (c.restore s') rfl) ?_
        rintro (_ | ⟨parts, stop, d⟩) found c' hc' h
        · exact .pure hc' (by rw [show found = none from h]; rfl)
        · exact .pure hc' (by rw [h.1]; exact ⟨rfl, h.2⟩)
      · simp only [if_neg hk]
        refine Mirrors.bind (Mirrors.note hc) fun _ _ _ hc' _ => ?_
        exact .pure hc' rfl
    | rule name =>
      rw [probeItems, matchItems]
      refine Mirrors.bind ((hcall name depth (some frame) c hc).mono (fun _ h => h ▸ hc) fun _ _ _ => id) ?_
      rintro found out c' hc' rfl
      cases out with
      | none => exact .pure hc' rfl
      | some sub =>
        refine Mirrors.restore (Mirrors.bind (ih sub.depth (c'.restore sub.stop) hc') ?_)
        rintro (_ | ⟨parts, stop, d⟩) found c' hc' h
        · exact .pure hc' (by rw [show found = none from h]; rfl)
        · exact .pure hc' (by rw [h.1]; exact ⟨rfl, h.2⟩)

lemma probeAlternative_keeps (r : Rule) (depth i : Nat) (a : Alternative) (c : Cursor) (hc : c.scanner = sc) :
    Keeps (probeAlternative probe r frame depth i a) c (matchAlternative sc call r frame c.state depth i a) := by
  rw [probeAlternative, matchAlternative]
  have hitems : Mirrors (probeItems probe r.name frame a depth) c
      (matchItems sc call r.name frame a c.state depth) (fun c' => c'.scanner = sc) Arrives :=
    probeItems_mirrors hcall r.name a depth c hc
  refine Mirrors.bind (hitems.mono (fun _ h => h.trans hc.symm) fun _ _ _ => id).rollback ?_
  rintro (_ | ⟨parts, stop, d⟩) ⟨found, s⟩ c' hc' ⟨-, m, h, hs⟩
  · obtain rfl : found = none := h
    exact Mirrors.bind (Mirrors.note hc') fun _ _ _ hc' _ => .pure hc' rfl
  · obtain ⟨hfound, hstop⟩ := h
    obtain rfl : s = stop := hs.trans hstop
    obtain rfl : found = some (parts, d) := hfound
    exact Mirrors.bind (Mirrors.note hc') fun _ _ _ hc' _ => .pure hc' rfl

lemma probeAlternatives_keeps (r : Rule) (depth i : Nat) (as : List Alternative) (c : Cursor)
    (hc : c.scanner = sc) :
    Keeps (probeAlternatives probe r frame depth i as) c
      (matchAlternatives sc call r frame c.state depth i as) := by
  induction as generalizing i with
  | nil =>
    rw [probeAlternatives, matchAlternatives]
    exact .pure rfl rfl
  | cons a as ih =>
    rw [probeAlternatives, matchAlternatives]
    refine Mirrors.bind (probeAlternative_keeps hcall r depth i a c hc) ?_
    rintro found out c' rfl rfl
    cases out with
    | none => exact ih (i + 1)
    | some t => exact .pure rfl rfl

end

lemma probeNested_keeps (n : Nat) (name : String) (depth : Nat) (parent : Option Frame) (c : Cursor)
    (hc : c.scanner = sc) :
    Keeps (probeNested g limit n name depth parent) c (matchNested g limit sc n name c.state depth parent) := by
  induction n generalizing name depth parent c with
  | zero => exact .fail rfl
  | succ n ih =>
    rw [probeNested, matchNested, matchRule]
    refine Mirrors.state ?_
    dsimp only
    split
    · exact .fail rfl
    · refine Mirrors.bind (Mirrors.note rfl) ?_
      rintro - - c' rfl -
      cases g.find? name with
      | none => exact .fail rfl
      | some r =>
        subst hc
        refine Mirrors.bind (peek_mirrors c') ?_
        rintro ⟨t, s'⟩ u c rfl hu
        obtain rfl : u = t := hu
        by_cases ht : u.isEnd
        · simp only [if_pos ht]
          refine Mirrors.bind (Mirrors.note rfl) ?_
          rintro - - c rfl -
          refine Mirrors.bind (Mirrors.note rfl) ?_
          rintro - - c rfl -
          exact .pure rfl rfl
        · simp only [if_neg ht]
          refine Mirrors.bind (Mirrors.note rfl) ?_
          rintro - - c rfl -
          refine Mirrors.bind (probeAlternatives_keeps ih r depth 0 r.alternatives c rfl) ?_
          rintro found out c rfl rfl
          refine Mirrors.bind (Mirrors.note rfl) ?_
          rintro - - c rfl -
          exact .pure rfl rfl

namespace Cursor

variable (c : Cursor) (g : Grammar) (limit : Nat)

lemma attemptRule_eq (name : String) (depth : Nat) :
    (c.attemptRule g limit name depth).1.log =
      (GlowSyntax.attemptRule g limit c.scanner name c.state depth).log ∧
    (c.attemptRule g limit name depth).1.result =
      (GlowSyntax.attemptRule g limit c.scanner name c.state depth).result ∧
    (c.attemptRule g limit name depth).2 = c :=
  (probeNested_keeps _ name depth none c rfl).keeps_eq

lemma attemptAlternative_eq (r : Rule) (i : Nat) (a : Alternative) (depth : Nat) :
    (c.attemptAlternative g limit r i a depth).1.log =
      (GlowSyntax.attemptAlternative g limit c.scanner r i a c.state depth).log ∧
    (c.attemptAlternative g limit r i a depth).1.result =
      (GlowSyntax.attemptAlternative g limit c.scanner r i a c.state depth).result ∧
    (c.attemptAlternative g limit r i a depth).2 = c :=
  (probeAlternative_keeps (probeNested_keeps _) r depth i a c rfl).keeps_eq

structure PutBack (depth : Nat) (out : Run (Option Tree) × Cursor) : Prop where
  scanner_eq : out.2.scanner = c.scanner
  state_eq : out.2.state = c.state
  stop : ∀ t, out.1.result = .ok (some t) →
    ∃ ts, c.scanner.Yields c.state ts t.stop ∧ t.depth = depth + ts.length

lemma PutBack.of_advance {c : Cursor} {depth : Nat} {out : Run (Option Tree) × Cursor} {run : Run (Option Tree)}
    (hresult : out.1.result = run.result) (hc : out.2 = c)
    (h : ∀ t, run.result = .ok (some t) → Advance c.scanner c.state depth t.parts.tokens t.stop t.depth) :
    c.PutBack depth out where
  scanner_eq := congrArg Cursor.scanner hc
  state_eq := congrArg Cursor.state hc
  stop t ht := by
    have ha := h t (hresult.symm.trans ht)
    exact ⟨_, ha.yields, ha.depth_eq⟩

end Cursor

theorem attempt_putBack (c : Cursor) (g : Grammar) (limit depth : Nat) :
    (∀ name, c.PutBack depth (c.attemptRule g limit name depth)) ∧
    ∀ r i a, c.PutBack depth (c.attemptAlternative g limit r i a depth) := by
  constructor
  · intro name
    obtain ⟨-, hresult, hc⟩ := c.attemptRule_eq g limit name depth
    refine .of_advance hresult hc fun t ht => ?_
    exact ((attemptRule_extent name c.state depth).result _ ht).2
  · intro r i a
    obtain ⟨-, hresult, hc⟩ := c.attemptAlternative_eq g limit r i a depth
    refine .of_advance hresult hc fun t ht => ?_
    obtain ⟨-, -, -, ha⟩ := (attemptAlternative_extent r i a c.state depth).result _ ht
    exact ha

end GlowSyntax
