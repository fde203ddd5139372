import GlowSyntax.Proofs.Match.Visited
import GlowSyntax.Proofs.Parse.Cursor

/-!
Sessions: what is done with a cursor over a source, one operation after the other. Whatever the operations are,
and whether they succeed or fail, all states of all sessions of one source are consistent with its text and with
each other.
-/

namespace GlowSyntax

inductive Operation
  | read
  | next
  | peek
  | atEnd
  | attemptRule (g : Grammar) (limit : Nat) (name : String) (depth : Nat)
  | attemptAlternative (g : Grammar) (limit : Nat) (r : Rule) (i : Nat) (a : Alternative) (depth : Nat)
  | parse (p : Parser) (start : String)
  | restore (s : ScanState)

/-- How an operation leaves the cursor, the states in which it reads tokens on the way, and the match that it
hands out. -/
structure Effect where
  cursor : Cursor
  passed : List ScanState
  found : Option Tree

namespace Effect

def states (e : Effect) : List ScanState := e.cursor.state :: (e.passed ++ e.found.elim [] Tree.stops)

def ofLog (c c' : Cursor) (log : List Event) (found : Option Tree) : Effect :=
  ⟨c', (scansOf log).flatMap c.scanner.trail, found⟩

def ofAttempt (c : Cursor) (out : Run (Option Tree) × Cursor) : Effect :=
  ofLog c out.2 out.1.log out.1.result.toOption.join

def ofParsing (c : Cursor) (out : (List Event × Except ParseError Tree) × Cursor) : Effect :=
  ofLog c out.2 out.1.1 out.1.2.toOption

end Effect

def Operation.effect (c : Cursor) : Operation → Effect
  | read => ⟨c.read.2, [c.state], none⟩
  | next => ⟨c.next.2, c.scanner.trail c.state, none⟩
  | peek | atEnd => .ofLog c (Probe.peek c).2 (Probe.peek c).1.log none
  | attemptRule g limit name depth => .ofAttempt c (c.attemptRule g limit name depth)
  | attemptAlternative g limit r i a depth => .ofAttempt c (c.attemptAlternative g limit r i a depth)
  | parse p start => .ofParsing c (p.parseAt start c)
  | restore m => ⟨c.restore m, [], none⟩

/-- A cursor over a source and the states that have been seen until then. A session goes back to states that it
has seen, or that were seen in another session of the source. -/
inductive Session (sc : Scanner) : Cursor → List ScanState → Prop
  | start : Session sc (.start sc) [.start]
  | perform {c seen} (op : Operation) : Session sc c seen → (∀ m, op = .restore m → m ∈ seen) →
      Session sc (op.effect c).cursor ((op.effect c).states ++ seen)
  | share {c seen c' seen'} : Session sc c seen → Session sc c' seen' → Session sc c (seen' ++ seen)

variable {sc : Scanner} {s : ScanState} {c c' : Cursor}

section Within

structure Effect.Within (e : Effect) (c : Cursor) : Prop where
  scanner_eq : e.cursor.scanner = c.scanner
  leads : ∀ m ∈ e.states, c.scanner.Leads c.state m

lemma states_lead {e : Effect} (hs : sc.Leads s e.cursor.state) (hp : ∀ m ∈ e.passed, sc.Leads s m)
    (hf : StopsFrom sc s e.found) : ∀ m ∈ e.states, sc.Leads s m := by
  refine List.forall_mem_cons.mpr ⟨hs, List.forall_mem_append.mpr ⟨hp, ?_⟩⟩
  intro m hm
  cases hfound : e.found with
  | none =>
    rw [hfound] at hm
    cases hm
  | some t =>
    rw [hfound] at hm hf
    exact hf m hm

lemma ofLog_within {log : List Event} {found : Option Tree} (hc : c'.scanner = c.scanner)
    (hs : c.scanner.Leads c.state c'.state) (hlog : ∀ u ∈ scansOf log, c.scanner.Leads c.state u)
    (hf : StopsFrom c.scanner c.state found) : (Effect.ofLog c c' log found).Within c where
  scanner_eq := hc
  leads := by
    refine states_lead hs ?_ hf
    intro m hm
    obtain ⟨u, hu, hm⟩ := List.mem_flatMap.mp hm
    exact (hlog u hu).trans (Scanner.trail_leads m hm)

lemma Run.Visits.found {run : Run (Option Tree)} {S : ScanState → Prop} (h : Run.Visits run S (StopsFrom sc s)) :
    StopsFrom sc s run.result.toOption.join := by
  cases hr : run.result with
  | error e => trivial
  | ok found => exact h.result found hr

lemma ofAttempt_within {out : Run (Option Tree) × Cursor} {run : Run (Option Tree)}
    (h : out.1.log = run.log ∧ out.1.result = run.result ∧ out.2 = c)
    (hv : Run.Visits run (c.scanner.Leads c.state) (StopsFrom c.scanner c.state)) :
    (Effect.ofAttempt c out).Within c := by
  obtain ⟨hlog, hresult, hc⟩ := h
  rw [Effect.ofAttempt, hlog, hresult, hc]
  exact ofLog_within rfl .refl hv.scans hv.found

lemma mem_scansOf_append {log more : List Event} {u : ScanState} (hmore : scansOf more = [s])
    (hu : u ∈ scansOf (log ++ more)) : u ∈ scansOf log ∨ u = s := by
  rw [scansOf, List.filterMap_append, List.mem_append, ← scansOf, ← scansOf, hmore] at hu
  exact hu.imp_right List.mem_singleton.mp

/-- A parse looks for tokens where its attempt does, and where it stops. -/
lemma Parser.mem_scansOf_parseFrom (p : Parser) (start : String) :
    ∀ u ∈ scansOf (p.parseFrom sc s start).log,
      u ∈ scansOf (p.attempt sc s start).log ∨ u = (p.parseFrom sc s start).state := by
  rw [parseFrom, attempt]
  dsimp only
  split
  · exact fun _ => Or.inl
  · split <;> exact fun _ => mem_scansOf_append rfl
  · split
    · split
      · exact fun _ => mem_scansOf_append rfl
      · split <;> exact fun _ => mem_scansOf_append rfl
    · exact fun _ => Or.inl

structure Parsing.From (out : Parsing) (sc : Scanner) (s : ScanState) : Prop where
  scans : ∀ u ∈ scansOf out.log, sc.Leads s u
  state : sc.Leads s out.state
  found : StopsFrom sc s out.result.toOption

lemma parseFrom_from (p : Parser) (start : String) :
    (p.parseFrom sc s start).From sc s := by
  have h : Run.Visits (p.attempt sc s start) (sc.Leads s) (StopsFrom sc s) := attemptRule_visits start s 0
  have hstate : sc.Leads s (p.parseFrom sc s start).state := by
    cases hr : (p.attempt sc s start).result with
    | error e =>
      rw [Parser.parseFrom_state_error hr]
      exact .refl
    | ok found =>
      rw [Parser.parseFrom_state hr]
      cases found with
      | none => exact .refl
      | some tree => exact h.result _ hr _ List.mem_cons_self
  refine ⟨fun u hu => ?_, hstate, ?_⟩
  · obtain hu | rfl := p.mem_scansOf_parseFrom start u hu
    · exact h.scans u hu
    · exact hstate
  · cases hr : (p.parseFrom sc s start).result with
    | error e => trivial
    | ok tree => exact h.result _ (Parser.attempt_of_parseFrom hr)

lemma parseAt_within (p : Parser) (start : String) : (Effect.ofParsing c (p.parseAt start c)).Within c := by
  obtain ⟨hlog, hresult, hc⟩ := p.parseAt_eq start c
  have h : (p.parseFrom c.scanner c.state start).From c.scanner c.state := parseFrom_from p start
  rw [Effect.ofParsing, hlog, hresult, hc]
  exact ofLog_within rfl h.state h.scans h.found

lemma read_within (c : Cursor) : c.read.2.scanner = c.scanner ∧ c.scanner.Leads c.state c.read.2.state := by
  rw [Cursor.read]
  split
  · next t s' hr => exact ⟨rfl, .single ⟨t, hr⟩⟩
  · exact ⟨rfl, .refl⟩

lemma cursor_next_within (c : Cursor) : c.next.2.scanner = c.scanner ∧ c.scanner.Leads c.state c.next.2.state := by
  rw [Cursor.next]
  split
  · next t s' hn => exact ⟨rfl, Scanner.next_leads hn⟩
  · refine ⟨rfl, ?_⟩
    change c.scanner.Leads c.state ((c.scanner.trail c.state).getLastD c.state)
    rw [List.getLastD_eq_getLast?]
    cases hl : (c.scanner.trail c.state).getLast? with
    | none => exact .refl
    | some m => exact Scanner.trail_leads m (List.mem_of_getLast? hl)

lemma peek_within (c : Cursor) : (Effect.ofLog c (Probe.peek c).2 (Probe.peek c).1.log none).Within c := by
  obtain ⟨hlog, hc, -⟩ := peek_eq c
  rw [hlog, hc]
  exact ofLog_within rfl .refl (List.forall_mem_singleton.mpr .refl) trivial

lemma Operation.within {op : Operation} (hop : ∀ m, op ≠ .restore m) : (op.effect c).Within c := by
  cases op with
  | read =>
    obtain ⟨hc, hs⟩ := read_within c
    exact ⟨hc, states_lead hs (List.forall_mem_singleton.mpr .refl) trivial⟩
  | next =>
    obtain ⟨hc, hs⟩ := cursor_next_within c
    exact ⟨hc, states_lead hs Scanner.trail_leads trivial⟩
  | peek | atEnd => exact peek_within c
  | attemptRule g limit name depth =>
    exact ofAttempt_within (c.attemptRule_eq g limit name depth) (attemptRule_visits name c.state depth)
  | attemptAlternative g limit r i a depth =>
    exact ofAttempt_within (c.attemptAlternative_eq g limit r i a depth) (attemptAlternative_visits r i a c.state depth)
  | parse p start => exact parseAt_within p start
  | restore m => exact absurd rfl (hop m)

end Within

lemma Session.leads {seen : List ScanState} (h : Session sc c seen) :
    c.scanner = sc ∧ ∀ m ∈ c.state :: seen, sc.Leads .start m := by
  induction h with
  | start => exact ⟨rfl, by simpa [Cursor.start] using .refl⟩
  | @perform c seen op _ hrestore ih =>
    obtain ⟨rfl, hstates⟩ := ih
    obtain ⟨hs, hseen⟩ := List.forall_mem_cons.mp hstates
    have h : (op.effect c).cursor.scanner = c.scanner ∧ ∀ m ∈ (op.effect c).states, c.scanner.Leads .start m := by
      by_cases hop : ∃ m, op = .restore m
      · obtain ⟨m, rfl⟩ := hop
        refine ⟨rfl, fun m' hm' => ?_⟩
        obtain rfl : m' = m := by simpa [Operation.effect, Effect.states, Cursor.restore] using hm'
        exact hseen m' (hrestore m' rfl)
      · have hw := Operation.within (c := c) (not_exists.mp hop)
        exact ⟨hw.scanner_eq, fun m hm => hs.trans (hw.leads m hm)⟩
    refine ⟨h.1, List.forall_mem_cons.mpr ⟨h.2 _ List.mem_cons_self, ?_⟩⟩
    exact List.forall_mem_append.mpr ⟨h.2, hseen⟩
  | share _ _ ih ih' =>
    obtain ⟨hc, hstates⟩ := ih
    obtain ⟨hs, hseen⟩ := List.forall_mem_cons.mp hstates
    refine ⟨hc, List.forall_mem_cons.mpr ⟨hs, List.forall_mem_append.mpr ⟨?_, hseen⟩⟩⟩
    exact (List.forall_mem_cons.mp ih'.2).2

theorem session_consistent {source : SourceFile} {seen seen' : List ScanState}
    (h : Session (.glow source) c seen) (h' : Session (.glow source) c' seen') :
    c.scanner = .glow source ∧
    (∀ m ∈ c.state :: seen, (∃ before after, source.text = before ++ after ∧ m.offset = Text.size before) ∧
      m.offset ≤ Text.size source.text ∧ source.positionAt m.offset = some ⟨m.line, m.column⟩) ∧
    ∀ m ∈ c.state :: seen, ∀ m' ∈ c'.state :: seen', m.offset = m'.offset →
      m.line = m'.line ∧ m.column = m'.column ∧ m.mode = m'.mode := by
  refine ⟨h.leads.1, fun m hm => ?_, fun m hm m' hm' ho => ?_⟩
  · obtain ⟨before, rest, hs⟩ := (h.leads.2 m hm).located (ScanState.located_start source)
    refine ⟨⟨before, rest, hs.text_eq, hs.offset_eq⟩, ?_, hs.positionAt⟩
    rw [hs.size_eq]
    exact Nat.le_add_right _ _
  · obtain rfl := Scanner.Leads.eq_of_same_offset (h.leads.2 m hm) (h'.leads.2 m' hm') ho
    exact ⟨rfl, rfl, rfl⟩

def stringScanner : Scanner := .glow (.ofText "string" "a \"b\" // c")

theorem session_consistent_string :
    ∃ c seen, Session stringScanner c seen ∧ ⟨3, 1, 4, .string⟩ ∈ seen ∧ ⟨5, 1, 6, .code⟩ ∈ seen ∧
      ∀ m ∈ seen, m.offset = 3 → m.mode = .string := by
  have hname := Session.perform .next (.start : Session stringScanner _ _) (by simp)
  have hmatch := Session.perform (.attemptRule .glow 256 "string" 1) hname (by simp)
  have hbehind := Session.perform (.restore ⟨5, 1, 6, .code⟩) hmatch (by rintro _ ⟨⟩; decide +kernel)
  have hinside := Session.perform (.restore ⟨3, 1, 4, .string⟩) hbehind (by rintro _ ⟨⟩; decide +kernel)
  refine ⟨_, _, hinside, List.mem_cons_self, List.mem_cons_of_mem _ List.mem_cons_self, ?_⟩
  intro m hm ho
  exact ((session_consistent hinside hinside).2.2 m (List.mem_cons_of_mem _ hm) _ List.mem_cons_self ho).2.2

end GlowSyntax
