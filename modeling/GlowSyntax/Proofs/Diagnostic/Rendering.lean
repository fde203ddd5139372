import GlowSyntax.Proofs.Diagnostic.Header
import GlowSyntax.Proofs.Scan.Errors
import GlowSyntax.Proofs.Scan.Tiling

/-!
Where reports of scan errors point. The spans of the errors count bytes and drawings count characters, so a report
gives the position of its error only where both counts are the same and no line of the drawing ends between the
ends of lines of the source.
-/

namespace GlowSyntax

namespace Drawing

lemma lineAt?_of_lt {text : List Char} {offset : Nat} (h : text.length < offset) : lineAt? text offset = none :=
  if_pos h

lemma exists_lineAt? {c : Char} {cs : List Char} {offset : Nat} (h : offset ≤ (c :: cs).length) :
    ∃ m, lineAt? (c :: cs) offset = some m := by
  obtain ⟨l, ms, -, hlines⟩ := exists_first_line c cs
  have hfirst : lines (c :: cs) = [] ++ l :: ms := hlines
  obtain ⟨m, hm, -⟩ := lineAt?_of_lines hfirst (Nat.zero_le offset) h
  exact ⟨m, hm⟩

section Report

variable {text : List Char} {d : Diagnostic} {label : Label}

lemma labelLine?_isSome (hne : text ≠ []) (hlt : label.span.start.toNat < label.span.stop.toNat) :
    (labelLine? text label).isSome = true ↔ label.span.stop.toNat ≤ text.length + 1 := by
  obtain ⟨c, cs, rfl⟩ := List.exists_cons_of_ne_nil hne
  rw [labelLine?]
  constructor
  · intro h
    by_contra hgt
    rw [if_pos ⟨hlt, by rw [lineAt?_of_lt (by omega)]; rfl⟩] at h
    cases h
  · intro hle
    have hstart : label.span.start.toNat ≤ (c :: cs).length := by omega
    have hstop : label.span.stop.toNat - 1 ≤ (c :: cs).length := by omega
    obtain ⟨m, hm⟩ := exists_lineAt? hstart
    obtain ⟨n, hn⟩ := exists_lineAt? hstop
    rw [if_neg (by simp [hn]), hm]
    rfl

lemma render?_of_label (hlabels : d.labels = [label]) (hle : label.span.start.toNat ≤ label.span.stop.toNat)
    (file : String) : render? text file d =
      some (headline d ++ ((labelLine? text label).map (body text file d label)).getD "") := by
  have hforward : ¬ label.span.stop < label.span.start := by
    rw [UInt32.lt_iff_toNat_lt]
    omega
  simp [render?, hlabels, hforward]

end Report

lemma exists_report {before after : List Char} {c : Char} {d : Diagnostic} {label : Label} (hc : c ≠ '\n')
    (hsize : Text.size before + c.utf8Size < UInt32.size) (hlabels : d.labels = [label])
    (hspan : label.span = d.span) (hdspan : d.span = .ofOffsets (Text.size before) (Text.size before + c.utf8Size))
    (file : String) :
    ∃ report, render? (before ++ c :: after) file d = some report ∧
      (Locates report d file (before.foldl Position.after .start).text ↔
        Text.size before = before.length ∧ endsAgree before = true ∧ c.utf8Size ≤ after.length + 2) := by
  have hpos := c.utf8Size_pos
  have hbytes := Text.length_le_size before
  have hstart : d.span.start.toNat = Text.size before := by
    rw [hdspan]
    exact Span.start_ofOffsets (by omega)
  have hstop : d.span.stop.toNat = Text.size before + c.utf8Size := by
    rw [hdspan]
    exact Span.stop_ofOffsets hsize
  have hlength : (before ++ c :: after).length = before.length + after.length + 1 := by simp; omega
  have hdrawn : (labelLine? (before ++ c :: after) label).isSome = true ↔
      Text.size before + c.utf8Size ≤ before.length + after.length + 2 := by
    rw [labelLine?_isSome (by simp) (by rw [hspan]; omega), hspan, hstop, hlength]
  refine ⟨_, render?_of_label hlabels (by rw [hspan]; omega) file, ?_⟩
  cases hline : labelLine? (before ++ c :: after) label with
  | none =>
    have hnot : ¬ Text.size before + c.utf8Size ≤ before.length + after.length + 2 := by
      rw [← hdrawn, hline]
      simp
    rw [Option.map_none, Option.getD_none, String.append_empty]
    refine iff_of_false (not_locates_headline d file _) ?_
    rintro ⟨heq, -, hle⟩
    omega
  | some l =>
    have hle : Text.size before + c.utf8Size ≤ before.length + after.length + 2 := by
      rw [← hdrawn, hline]
      rfl
    have hoffset : Text.size before ≤ (before ++ c :: after).length := by omega
    obtain ⟨m, hm, hplace⟩ := lineAt?_eq_position hc (by omega) hbytes hoffset
    rw [← hstart] at hm
    obtain ⟨indent, rest, hbody⟩ := exists_body_eq hm file label l
    rw [Option.map_some, Option.getD_some, hbody, locates_iff, hstart, hplace]
    constructor
    · rintro ⟨heq, hagree⟩
      exact ⟨heq, hagree, by omega⟩
    · rintro ⟨heq, hagree, -⟩
      exact ⟨heq, hagree⟩

end Drawing

lemma exists_of_tokenize_error {source : SourceFile} {file : String} {pos : Position} {span : Span} {c : Char}
    (h : (Scanner.glow source).tokenize .start = .error (.unexpected file pos span c)) :
    ∃ before after, source.text = before ++ c :: after ∧ c ≠ '\n' ∧ pos = before.foldl Position.after .start ∧
      span = .ofOffsets (Text.size before) (Text.size before + c.utf8Size) := by
  rcases Scanner.collect_error h with he | ⟨m, hm, hread⟩
  · cases he
  · obtain ⟨before, rest, hb⟩ := hm.located (ScanState.located_start source)
    cases hf : Lexicon.glow.find rest m.mode.candidates with
    | error e => exact absurd hf Lexicon.find_ne_error
    | ok found =>
      cases found with
      | some r =>
        rw [Scanner.read_of_find_some hb hf] at hread
        cases hread
      | none =>
        obtain ⟨c', after, rfl, hc, he⟩ := Scanner.unexpected_of_find_none hb hf
        rw [Scanner.read_of_find_none hb hf, he] at hread
        cases hread
        exact ⟨before, after, hb.text_eq, hc, hb.pos_eq, rfl⟩

/-- A scan error is drawn, if its offsets fit into a span. The report gives its position exactly if there are as many
bytes as characters before it, if no line of the drawing ends there but with a line break, and if its bytes end no
more than one behind the number of characters of the text. -/
theorem scanError_report {source : SourceFile} {file : String} {pos : Position} {span : Span} {c : Char}
    (h : (Scanner.glow source).tokenize .start = .error (.unexpected file pos span c)) :
    ∃ before after d, source.text = before ++ c :: after ∧ source.positionAt (Text.size before) = some pos ∧
      span = .ofOffsets (Text.size before) (Text.size before + c.utf8Size) ∧
      (ScanError.unexpected file pos span c).diagnostic? = some d ∧
      (Text.size before + c.utf8Size < UInt32.size →
        ∃ report, Drawing.render? source.text source.name d = some report ∧
          (Drawing.Locates report d source.name pos.text ↔ Text.size before = before.length ∧
            Drawing.endsAgree before = true ∧ c.utf8Size ≤ after.length + 2)) := by
  obtain ⟨before, after, htext, hc, rfl, hspan⟩ := exists_of_tokenize_error h
  refine ⟨before, after, _, htext, SourceFile.positionAt_append htext, hspan, rfl, fun hsize => ?_⟩
  rw [htext]
  exact Drawing.exists_report hc hsize rfl rfl hspan source.name

def plainSource : SourceFile := .ofText "plain" "// a\n  #"

theorem scanError_report_plain :
    (Scanner.glow plainSource).tokenize .start = .error (.unexpected "plain" ⟨2, 3⟩ ⟨7, 8⟩ '#') ∧
    ∃ d report, Drawing.render? plainSource.text "plain" d = some report ∧
      Drawing.Locates report d "plain" (Position.text ⟨2, 3⟩) := by
  have h : (Scanner.glow plainSource).tokenize .start = .error (.unexpected "plain" ⟨2, 3⟩ ⟨7, 8⟩ '#') := by
    decide +kernel
  refine ⟨h, ?_⟩
  obtain ⟨before, after, d, htext, -, hspan, -, hreport⟩ := scanError_report h
  have hsize : Text.size before + Text.size ('#' :: after) = 8 := by
    rw [← Text.size_append, ← htext]
    rfl
  have hseven : Text.size before = 7 := by
    have hstart := congrArg (fun s => s.start.toNat) hspan
    have hlt : Text.size before < UInt32.size := lt_of_le_of_lt (Nat.le.intro hsize) (by decide)
    exact (hstart.trans (Span.start_ofOffsets hlt)).symm
  obtain rfl : after = [] := by
    have hdrop := Text.dropBytes_eq_some_iff.mpr ⟨before, htext, hseven⟩
    exact ((List.cons.inj (Option.some.inj hdrop)).2).symm
  obtain rfl : before = "// a\n  ".toList := by
    have hsplit : plainSource.text = "// a\n  ".toList ++ ['#'] := by decide
    exact List.append_cancel_right (htext.symm.trans hsplit)
  obtain ⟨report, hr, hlocates⟩ := hreport (by decide)
  exact ⟨d, report, hr, hlocates.mpr (by decide)⟩

def accentSource : SourceFile := .ofText "main.glo" "\"é\" # x"

def accentError : ScanError := .unexpected "main.glo" ⟨1, 5⟩ ⟨5, 6⟩ '#'

def accentDiagnostic : Diagnostic :=
  ((Diagnostic.error .lexer ⟨5, 6⟩ "unexpected character `#`").withCode .unexpectedCharacter).withLabel ⟨5, 6⟩
    "unexpected character here"

def accentDrawing : String :=
  "   │\n 1 │ \"é\" # x\n   │      ┬  \n   │      ╰── unexpected character here\n───╯\n"

theorem report_ahead_of_error :
    (Scanner.glow accentSource).tokenize .start = .error accentError ∧
    accentError.diagnostic? = some accentDiagnostic ∧
    ∃ report, Drawing.render? accentSource.text "main.glo" accentDiagnostic = some report ∧
      Drawing.Locates report accentDiagnostic "main.glo" (Position.text ⟨1, 6⟩) ∧
      ¬ Drawing.Locates report accentDiagnostic "main.glo" (Position.text ⟨1, 5⟩) := by
  have hlocates : Drawing.Locates (Drawing.headline accentDiagnostic ++
      (Drawing.locationHeader 3 "main.glo" (Position.text ⟨1, 6⟩) ++ accentDrawing)) accentDiagnostic "main.glo"
      (Position.text ⟨1, 6⟩) := ⟨3, _, rfl⟩
  refine ⟨by decide +kernel, by decide +kernel, _, by decide +kernel, hlocates, fun h => ?_⟩
  cases hlocates.unique h

end GlowSyntax
