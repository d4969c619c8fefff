import QbLint.Proofs.Files
import QbLint.Proofs.Messages

/-!
# Text reports read back

The lines of a text report tell which scripts it is about and what was found in each. What a line
says can be seen from the line alone, except that a bad struct header is told from a defect that is
passed over by the line behind it.

* `TextReport.Line.ofText`: what a line says; `TextReport.read`: the sheets of a report, one for
  each script, with what was found in it;
* `TextReport.readLines_of_isRemark` and the like: the lines of each kind of diagnostic;
* `TextReport.findings_append`, `TextReport.sheets_append`: reading a diagnostic, and the block of a
  script, in front of other lines;
* `TextReport.read_render`: the sheets of a report are those of its results.
-/

namespace QbLint.TextReport

open Text (IsLine)

/-! ## Reading -/

/-- What a line of a report says. -/
inductive Line
  | blank
  | heading (path : String)
  | defect (position : Int) (message : String)
  /-- What ended a scan, with its offset. -/
  | cutOff (position : Int) (message : String)
  /-- The defect in the line above ended the scan. -/
  | reason
  | unloaded (message : String)
  | clean
  | other
  deriving DecidableEq

/-- The offset that a text begins with, and what stands behind the colon. -/
def located? (s : List Char) : Option (Int × String) :=
  match s.dropWhile (· ≠ ':') with
  | ':' :: ' ' :: message =>
    (Hex.signedValue? (s.takeWhile (· ≠ ':'))).map fun position =>
      (position, String.ofList message)
  | _ => none

/-- What stands behind the defect that a scan stops at. -/
def reasonText : List Char := "Cannot continue decompilation".toList

/-- What stands in the block of a script in which nothing was found. -/
def cleanText : List Char := ">> No errors found".toList

/-- What a line about a defect says. -/
def Line.ofDefect (s : List Char) : Line :=
  match located? s with
  | some (position, message) => .defect position message
  | none => .other

/-- What a line about what ended a scan says. -/
def Line.ofStop (s : List Char) : Line :=
  match located? s with
  | some (position, message) => .cutOff position message
  | none => if s = reasonText then .reason else .unloaded (String.ofList s)

/-- What a line says. -/
def Line.ofText : List Char → Line
  | [] => .blank
  | '=' :: '=' :: '=' :: ' ' :: rest => .heading (String.ofList (rest.take (rest.length - 4)))
  | '#' :: '#' :: ' ' :: rest => .ofDefect rest
  | '@' :: '@' :: ' ' :: rest => .ofStop rest
  | s => if s = cleanText then .clean else .other

theorem Line.ofText_defect (s : List Char) : ofText ('#' :: '#' :: ' ' :: s) = ofDefect s := rfl

theorem Line.ofText_stop (s : List Char) : ofText ('@' :: '@' :: ' ' :: s) = ofStop s := rfl

theorem Line.ofText_heading (path : String) :
    ofText ("=== " ++ path ++ " ===").toList = .heading path := by
  have htext : ("=== " ++ path ++ " ===").toList =
      '=' :: '=' :: '=' :: ' ' :: (path.toList ++ " ===".toList) := by
    simp
  have htake : (path.toList ++ " ===".toList).take ((path.toList ++ " ===".toList).length - 4) =
      path.toList := by
    rw [List.length_append]
    exact List.take_left
  rw [htext]
  refine (congrArg Line.heading ?_ : _)
  rw [htake, String.ofList_toList]

theorem Line.mem_of_ofText_eq_heading {s : List Char} {path : String}
    (h : ofText s = .heading path) : '=' ∈ s := by
  unfold ofText at h
  split at h
  · cases h
  · exact List.mem_cons_self
  · unfold ofDefect at h
    split at h <;> cases h
  · unfold ofStop at h
    split at h
    · cases h
    · split at h <;> cases h
  · split at h <;> cases h

/-- What was found in a script. -/
structure Finding where
  position : Int
  message : String
  fatal : Bool
  deriving DecidableEq

/-- A script and what was found in it. -/
structure Sheet where
  path : String
  findings : List Finding
  deriving DecidableEq

/-- What was found in a script, from the lines behind its heading. -/
def findings : List Line → List Finding
  | .defect position message :: rest =>
    ⟨position, message, rest.head? = some .reason⟩ :: findings rest
  | .reason :: rest => findings rest
  | .cutOff position message :: rest => ⟨position, message, true⟩ :: findings rest
  | .unloaded message :: rest => ⟨0, message, true⟩ :: findings rest
  | _ => []

/-- The sheets of a report, from its lines. -/
def sheets : List Line → List Sheet
  | .heading path :: rest => ⟨path, findings rest⟩ :: sheets rest
  | _ :: rest => sheets rest
  | [] => []

/-- The sheets of a report. -/
def read (s : String) : List Sheet := sheets ((Text.split '\n' s.toList).map Line.ofText)

/-! ## What there is to read -/

/-- A diagnostic without what the report leaves out. -/
def finding (d : Diagnostic) : Finding := ⟨d.position, d.message, d.fatal⟩

/-- A result without what the report leaves out. -/
def sheet (r : LintResult) : Sheet := ⟨r.path, r.diagnostics.map finding⟩

/-- The lines of a diagnostic. -/
def linesOf (d : Diagnostic) : List (List Char) := Text.split '\n' (diagnostic false d).toList

/-- The lines of the block of a script. -/
def blockLines (r : LintResult) : List (List Char) :=
  (block false r).flatMap fun s => Text.split '\n' s.toList

/-! ## The lines of a diagnostic -/

section Lines

variable {d e : Diagnostic}

/-- An offset in front of a message is read back. -/
theorem located?_offset (d : Diagnostic) (message : List Char) :
    located? (d.offsetText.toList ++ ':' :: ' ' :: message) =
      some (d.position, String.ofList message) := by
  have hcolon : ∀ c ∈ d.offsetText.toList, decide (c ≠ ':') = true := fun c hc =>
    decide_eq_true fun heq => Hex.not_mem_padded (by decide) (by decide) (heq ▸ hc)
  rw [located?, List.dropWhile_append_of_pos hcolon, List.takeWhile_append_of_pos hcolon]
  simp [Diagnostic.offsetText, Hex.signedValue?_padded]

/-- What does not begin with a number has no offset. -/
theorem located?_eq_none {first : List Char} (rest : List Char) (hcolon : ':' ∉ first)
    (hsign : first.head? ≠ some '-') (hvalue : Hex.valueFrom? 0 first = none) :
    located? (first ++ rest) = none := by
  have hnumber (behind : List Char) : Hex.signedValue? (first ++ behind) = none := by
    cases first with
    | nil => cases hvalue
    | cons c first =>
      have hhead : (c :: first ++ behind).head? ≠ some '-' := hsign
      rw [Hex.signedValue?_of_head?_ne hhead, Hex.valueFrom?_append, hvalue]
      rfl
  have hbefore : ∀ c ∈ first, decide (c ≠ ':') = true := fun c hc =>
    decide_eq_true fun heq => hcolon (heq ▸ hc)
  rw [located?, List.dropWhile_append_of_pos hbefore, List.takeWhile_append_of_pos hbefore, hnumber]
  split <;> rfl

/-- The first word of an error is no number. -/
theorem exists_toList_message (e : LoadError) :
    ∃ first ∈ ["File".toList, "Fail".toList], ∃ rest, e.message.toList = first ++ rest := by
  cases e with
  | missing => exact ⟨"File".toList, by decide, " does not exist".toList, by decide⟩
  | isFolder =>
    exact ⟨"File".toList, by decide, " does not exist (path is a directory)".toList, by decide⟩
  | tooLarge size limit =>
    change ∃ first ∈ _, ∃ rest,
      (s!"File is {size} bytes, larger than the {limit} byte limit").toList = first ++ rest
    simp only [String.toList_append, List.append_assoc]
    exact ⟨"File".toList, by decide, _, rfl⟩
  | unreadable cause =>
    change ∃ first ∈ _, ∃ rest, ("Failed to read script: " ++ cause.message).toList = first ++ rest
    rw [String.toList_append]
    exact ⟨"Fail".toList, by decide, _, rfl⟩

theorem located?_message (e : LoadError) : located? e.message.toList = none := by
  obtain ⟨first, hfirst, rest, htext⟩ := exists_toList_message e
  rw [htext]
  rcases List.mem_pair.mp hfirst with rfl | rfl
  · exact located?_eq_none rest (by decide) (by decide) (by decide)
  · exact located?_eq_none rest (by decide) (by decide) (by decide)

theorem message_ne_reasonText (e : LoadError) : e.message.toList ≠ reasonText := by
  obtain ⟨first, hfirst, rest, htext⟩ := exists_toList_message e
  intro heq
  have hother : ∀ first ∈ ["File".toList, "Fail".toList], ¬ first <+: reasonText := by decide
  exact hother first hfirst ⟨rest, htext.symm.trans heq⟩

/-- The offset and the message of a diagnostic as they stand in a line. -/
def locatedText (d : Diagnostic) : List Char :=
  d.offsetText.toList ++ ':' :: ' ' :: d.message.toList

theorem located?_locatedText (d : Diagnostic) :
    located? (locatedText d) = some (d.position, d.message) := by
  rw [locatedText, located?_offset, String.ofList_toList]

theorem newline_not_mem_locatedText (h : IsLine d.message) : '\n' ∉ locatedText d := by
  have hoffset : '\n' ∉ d.offsetText.toList := Text.isLine_padded 8 d.position
  have hmessage : '\n' ∉ d.message.toList := h
  simp [locatedText, hoffset, hmessage]

theorem linesOf_of_isRemark (h : d.IsRemark) :
    linesOf d = ['#' :: '#' :: ' ' :: locatedText d] := by
  have htext : (diagnostic false d).toList = '#' :: '#' :: ' ' :: locatedText d := by
    simp [diagnostic, h.fatal, locatedText]
  have hline := newline_not_mem_locatedText h.line
  rw [linesOf, htext, Text.split_of_not_mem]
  simp [hline]

theorem linesOf_of_endsShort (h : d.EndsShort) :
    linesOf d = ['@' :: '@' :: ' ' :: locatedText d] := by
  have hrule : d.ruleId ≠ Rule.fileNotFound.id := by
    rw [h.ruleId]
    decide
  have htext : (diagnostic false d).toList = '@' :: '@' :: ' ' :: locatedText d := by
    simp [diagnostic, h.fatal, hrule, h.reason, locatedText]
  have hline := newline_not_mem_locatedText h.line
  rw [linesOf, htext, Text.split_of_not_mem]
  simp [hline]

theorem linesOf_of_endsAtHeader (h : d.EndsAtHeader) :
    linesOf d = ['#' :: '#' :: ' ' :: locatedText d, '@' :: '@' :: ' ' :: reasonText] := by
  have hrule : d.ruleId ≠ Rule.fileNotFound.id := by
    rw [h.ruleId]
    decide
  have hdiagnostic : diagnostic false d = "## " ++ (d.offsetText ++ ": " ++ d.message ++ "") ++
      "\n@@ " ++ (Document.text "Cannot continue decompilation").display := by
    rw [diagnostic, h.fatal, h.reason]
    exact if_neg hrule
  have htext : (diagnostic false d).toList =
      ('#' :: '#' :: ' ' :: locatedText d) ++ '\n' :: ('@' :: '@' :: ' ' :: reasonText) := by
    have hdisplay : (Document.text "Cannot continue decompilation").display.toList = reasonText :=
      rfl
    rw [hdiagnostic, String.toList_append, hdisplay]
    simp [locatedText]
  have hline : '\n' ∉ locatedText d := newline_not_mem_locatedText (by rw [h.message]; decide)
  rw [linesOf, htext, Text.split_append, Text.split_of_not_mem (by decide)]
  simp [hline]

theorem linesOf_of_isUnloaded (h : d.IsUnloaded) :
    linesOf d = ['@' :: '@' :: ' ' :: d.message.toList] := by
  have htext : (diagnostic false d).toList = '@' :: '@' :: ' ' :: d.message.toList := by
    simp [diagnostic, h.fatal, h.ruleId]
  obtain ⟨e, he⟩ := h.message
  have hline : '\n' ∉ d.message.toList := he ▸ e.isLine_message
  rw [linesOf, htext, Text.split_of_not_mem]
  simp [hline]

/-- What the lines of a diagnostic say. -/
def readLines (d : Diagnostic) : List Line := (linesOf d).map Line.ofText

theorem readLines_of_isRemark (h : d.IsRemark) : readLines d = [.defect d.position d.message] := by
  rw [readLines, linesOf_of_isRemark h, List.map_singleton, Line.ofText_defect,
    Line.ofDefect, located?_locatedText]

theorem readLines_of_endsShort (h : d.EndsShort) :
    readLines d = [.cutOff d.position d.message] := by
  rw [readLines, linesOf_of_endsShort h, List.map_singleton, Line.ofText_stop, Line.ofStop,
    located?_locatedText]

theorem readLines_of_endsAtHeader (h : d.EndsAtHeader) :
    readLines d = [.defect d.position d.message, .reason] := by
  have hreason : Line.ofStop reasonText = .reason := by decide
  rw [readLines, linesOf_of_endsAtHeader h, List.map_cons, List.map_singleton, Line.ofText_defect,
    Line.ofDefect, located?_locatedText, Line.ofText_stop, hreason]

theorem readLines_of_isUnloaded (h : d.IsUnloaded) : readLines d = [.unloaded d.message] := by
  obtain ⟨e, he⟩ := h.message
  rw [readLines, linesOf_of_isUnloaded h, List.map_singleton, Line.ofText_stop, Line.ofStop, he,
    located?_message]
  dsimp only
  rw [if_neg (message_ne_reasonText e), String.ofList_toList]

end Lines

/-! ## Reading the lines of diagnostics -/

section Findings

variable {d : Diagnostic} {diagnostics : List Diagnostic} {rest : List Line}

theorem head?_readLines (h : d.IsGenuine) (rest : List Line) :
    (readLines d ++ rest).head? ≠ some .reason := by
  cases h with
  | remark h => simp [readLines_of_isRemark h]
  | short h => simp [readLines_of_endsShort h]
  | atHeader h => simp [readLines_of_endsAtHeader h]
  | unloaded h => simp [readLines_of_isUnloaded h]

/-- A diagnostic is read from its lines, whatever lines of another one stand behind them. -/
theorem findings_append (h : d.IsGenuine) (hrest : rest.head? ≠ some .reason) :
    findings (readLines d ++ rest) = finding d :: findings rest := by
  cases h with
  | remark h => simp [readLines_of_isRemark h, findings, finding, h.fatal, hrest]
  | short h => simp [readLines_of_endsShort h, findings, finding, h.fatal]
  | atHeader h => simp [readLines_of_endsAtHeader h, findings, finding, h.fatal]
  | unloaded h => simp [readLines_of_isUnloaded h, findings, finding, h.fatal, h.position]

theorem findings_flatMap (h : ∀ d ∈ diagnostics, d.IsGenuine) (hrest : rest.head? ≠ some .reason) :
    findings (diagnostics.flatMap readLines ++ rest) =
      diagnostics.map finding ++ findings rest := by
  induction diagnostics with
  | nil => rfl
  | cons d diagnostics ih =>
    rw [List.forall_mem_cons] at h
    have hnext : (diagnostics.flatMap readLines ++ rest).head? ≠ some .reason := by
      cases diagnostics with
      | nil => exact hrest
      | cons next diagnostics =>
        rw [List.flatMap_cons, List.append_assoc]
        exact head?_readLines (h.2 next List.mem_cons_self) _
    rw [List.flatMap_cons, List.append_assoc, findings_append h.1 hnext, ih h.2]
    rfl

/-- Whether a line is one of a diagnostic. -/
def Line.isOfDiagnostic : Line → Bool
  | .defect _ _ | .cutOff _ _ | .reason | .unloaded _ => true
  | .blank | .heading _ | .clean | .other => false

theorem isOfDiagnostic_of_mem_readLines (h : d.IsGenuine) {line : Line}
    (hline : line ∈ readLines d) : line.isOfDiagnostic = true := by
  revert line
  cases h with
  | remark h => simp [readLines_of_isRemark h, Line.isOfDiagnostic]
  | short h => simp [readLines_of_endsShort h, Line.isOfDiagnostic]
  | atHeader h => simp [readLines_of_endsAtHeader h, Line.isOfDiagnostic]
  | unloaded h => simp [readLines_of_isUnloaded h, Line.isOfDiagnostic]

end Findings

/-! ## Reading blocks -/

section Blocks

variable {r : LintResult} {rest : List Line}

/-- A result of which the text report tells everything that a reader is to know. -/
structure IsReadable (r : LintResult) : Prop where
  path : IsLine r.path
  genuine : ∀ d ∈ r.diagnostics, d.IsGenuine

/-- What the lines behind the diagnostics of a block say. -/
def blockEnd (r : LintResult) : List Line :=
  (if r.isClean then [.clean] else []) ++ [.blank, .blank]

/-- What the lines of a block say. -/
def readBlock (r : LintResult) : List Line :=
  .heading r.path :: (r.diagnostics.flatMap readLines ++ blockEnd r)

theorem map_blockLines (h : IsReadable r) : (blockLines r).map Line.ofText = readBlock r := by
  have hheading : '\n' ∉ ("=== " ++ r.path ++ " ===").toList := by
    have hline : IsLine ("=== " ++ r.path ++ " ===") := by
      simp only [Text.isLine_append, h.path]
      decide
    exact hline
  have hdiagnostics :
      ((r.diagnostics.map (diagnostic false)).flatMap fun s => Text.split '\n' s.toList).map
        Line.ofText = r.diagnostics.flatMap readLines := by
    rw [List.flatMap_map, List.map_flatMap]
    rfl
  have hclean : ((if r.isClean then [">> No errors found"] else []).flatMap fun s =>
      Text.split '\n' s.toList).map Line.ofText = if r.isClean then [.clean] else [] := by
    split
    · decide
    · rfl
  have hblank : (["", ""].flatMap fun s => Text.split '\n' s.toList).map Line.ofText =
      [.blank, .blank] := by
    decide
  rw [blockLines, block, List.cons_append, List.cons_append, List.flatMap_cons,
    Text.split_of_not_mem hheading, List.flatMap_append, List.flatMap_append, List.map_append,
    List.map_append, List.map_append, hdiagnostics, hclean, hblank, List.map_singleton,
    Line.ofText_heading, List.append_assoc]
  rfl

theorem sheets_append_of_not_heading {lines : List Line}
    (h : ∀ line ∈ lines, ∀ path, line ≠ .heading path) : sheets (lines ++ rest) = sheets rest := by
  induction lines with
  | nil => rfl
  | cons line lines ih =>
    rw [List.forall_mem_cons] at h
    rw [List.cons_append, ← ih h.2]
    cases line with
    | heading path => exact absurd rfl (h.1 path)
    | _ => rfl

/-- A script is read from its block, in front of any other lines. -/
theorem sheets_append (h : IsReadable r) :
    sheets (readBlock r ++ rest) = sheet r :: sheets rest := by
  have hend : (blockEnd r ++ rest).head? ≠ some .reason := by
    unfold blockEnd
    split <;> simp
  have hnone : findings (blockEnd r ++ rest) = [] := by
    unfold blockEnd
    split <;> rfl
  have hfindings : findings (r.diagnostics.flatMap readLines ++ (blockEnd r ++ rest)) =
      r.diagnostics.map finding := by
    rw [findings_flatMap h.genuine hend, hnone, List.append_nil]
  have hskip : ∀ line ∈ r.diagnostics.flatMap readLines ++ blockEnd r, ∀ path,
      line ≠ .heading path := by
    intro line hline
    rintro path rfl
    rcases List.mem_append.mp hline with hline | hline
    · obtain ⟨d, hd, hline⟩ := List.mem_flatMap.mp hline
      cases isOfDiagnostic_of_mem_readLines (h.genuine d hd) hline
    · unfold blockEnd at hline
      split at hline <;> simp at hline
  rw [readBlock, List.cons_append, sheets, sheets_append_of_not_heading hskip, List.append_assoc,
    hfindings]
  rfl

/-- A script's block says that nothing was found exactly if that is so. -/
theorem cleanText_mem_blockLines_iff (h : IsReadable r) :
    cleanText ∈ blockLines r ↔ r.diagnostics = [] := by
  constructor
  · intro hmem
    have hclean : Line.clean ∈ readBlock r := map_blockLines h ▸ List.mem_map_of_mem hmem
    by_contra hne
    have hnot : r.isClean = false := by
      rw [LintResult.isClean, List.isEmpty_eq_false_iff]
      exact hne
    have hline : ∃ d ∈ r.diagnostics, Line.clean ∈ readLines d := by
      simpa [readBlock, blockEnd, hnot] using hclean
    obtain ⟨d, hd, hline⟩ := hline
    cases isOfDiagnostic_of_mem_readLines (h.genuine d hd) hline
  · intro hnil
    have hclean : ">> No errors found" ∈ block false r := by
      simp [block, LintResult.isClean, hnil]
    refine List.mem_flatMap.mpr ⟨_, hclean, ?_⟩
    decide

end Blocks

/-! ## Reading reports -/

/-- In the last line there are only digits and fixed texts. -/
theorem not_mem_total (report : Report) {c : Char} (hdigit : c.isDigit = false)
    (hfixed : c ∉ (" file(s) checked, " ++ " clean, " ++ " with errors").toList) :
    c ∉ (total report).toList := by
  have hnumber (n : Nat) : c ∉ (toString n).toList := fun hmem =>
    absurd (Text.isDigit_of_mem_nat hmem) (Bool.eq_false_iff.mp hdigit)
  simp only [String.toList_append, List.mem_append, not_or] at hfixed
  obtain ⟨⟨hchecked, hclean⟩, herrors⟩ := hfixed
  rw [total]
  simp only [String.toList_append, List.mem_append, not_or]
  exact ⟨⟨⟨⟨⟨hnumber _, hchecked⟩, hnumber _⟩, hclean⟩, hnumber _⟩, herrors⟩

/-- The last line is no heading. -/
theorem sheets_total (report : Report) :
    sheets ((Text.split '\n' (total report).toList).map Line.ofText) = [] := by
  have hline : '\n' ∉ (total report).toList := not_mem_total report (by decide) (by decide)
  have hequals : '=' ∉ (total report).toList := not_mem_total report (by decide) (by decide)
  have hskip : ∀ line ∈ [Line.ofText (total report).toList], ∀ path, line ≠ .heading path := by
    intro line hmem path hheading
    obtain rfl := List.mem_singleton.mp hmem
    exact hequals (Line.mem_of_ofText_eq_heading hheading)
  rw [Text.split_of_not_mem hline, List.map_singleton, ← List.append_nil [_]]
  exact sheets_append_of_not_heading hskip

theorem sheets_flatMap {results : List LintResult} (h : ∀ r ∈ results, IsReadable r)
    (rest : List Line) :
    sheets (results.flatMap readBlock ++ rest) = results.map sheet ++ sheets rest := by
  induction results with
  | nil => rfl
  | cons r results ih =>
    rw [List.forall_mem_cons] at h
    rw [List.flatMap_cons, List.append_assoc, sheets_append h.1, ih h.2]
    rfl

/-- The lines of a report are those of the blocks, and the last one. -/
theorem split_render (timestamp : String) (results : List LintResult) :
    Text.split '\n' (render false (.all (.ofResults timestamp results))).toList =
      results.flatMap blockLines ++
        Text.split '\n' (total (.ofResults timestamp results)).toList := by
  have hnewline : "\n".toList = ['\n'] := by decide
  rw [render, String.toList_intercalate, Report.ofResults_results, hnewline,
    Text.split_intercalate_flatMap (by simp), List.flatMap_map, List.flatMap_append,
    List.flatMap_assoc, List.flatMap_singleton]
  rfl

/-- The sheets of a report are those of its results. -/
theorem read_eq (timestamp : String) {results : List LintResult} (h : ∀ r ∈ results, IsReadable r) :
    read (render false (.all (.ofResults timestamp results))) = results.map sheet := by
  have hblocks : (results.flatMap blockLines).map Line.ofText = results.flatMap readBlock := by
    rw [List.map_flatMap]
    exact List.flatMap_congr fun r hr => map_blockLines (h r hr)
  rw [read, split_render, List.map_append, hblocks, sheets_flatMap h, sheets_total,
    List.append_nil]

/-! ## Telling apart what ends a scan -/

/-- The rule of the fatal diagnostic that a line belongs to. -/
def Line.endedBy? : Line → Option String
  | .cutOff _ _ => some Rule.truncatedScript.id
  | .reason => some Rule.structHeaderInvalid.id
  | .defect _ message =>
    if message = "Invalid struct header" then some Rule.structHeaderInvalid.id else none
  | .unloaded _ => some Rule.fileNotFound.id
  | _ => none

/-- Each line of a diagnostic tells its rule if it is fatal, and no rule if it is not. -/
theorem endedBy?_of_mem_readLines {d : Diagnostic} (h : d.IsGenuine) {line : Line}
    (hline : line ∈ readLines d) :
    line.endedBy? = if d.fatal then some d.ruleId else none := by
  cases h with
  | remark h =>
    rw [readLines_of_isRemark h] at hline
    obtain rfl := List.mem_singleton.mp hline
    simp [Line.endedBy?, h.fatal, h.other]
  | short h =>
    rw [readLines_of_endsShort h] at hline
    obtain rfl := List.mem_singleton.mp hline
    simp [Line.endedBy?, h.fatal, h.ruleId]
  | atHeader h =>
    rw [readLines_of_endsAtHeader h] at hline
    rcases List.mem_pair.mp hline with rfl | rfl
    · simp [Line.endedBy?, h.fatal, h.ruleId, h.message]
    · simp [Line.endedBy?, h.fatal, h.ruleId]
  | unloaded h =>
    rw [readLines_of_isUnloaded h] at hline
    obtain rfl := List.mem_singleton.mp hline
    simp [Line.endedBy?, h.fatal, h.ruleId]

/-- A line of a fatal diagnostic is a line of no diagnostic that is not fatal or of another rule. -/
theorem ruleId_eq_of_mem_linesOf {d e : Diagnostic} (hd : d.IsGenuine) (he : e.IsGenuine)
    (hfatal : d.fatal = true) {line : List Char} (hline : line ∈ linesOf d)
    (hline' : line ∈ linesOf e) : e.fatal = true ∧ e.ruleId = d.ruleId := by
  have hread := endedBy?_of_mem_readLines hd (List.mem_map_of_mem (f := Line.ofText) hline)
  have hread' := endedBy?_of_mem_readLines he (List.mem_map_of_mem (f := Line.ofText) hline')
  rw [hread, hfatal, if_pos rfl] at hread'
  split at hread'
  · rename_i hfatal'
    exact ⟨hfatal', (Option.some.inj hread').symm⟩
  · cases hread'

/-! ## Reports of linted scripts -/

theorem isReadable_of_isLinted {r : LintResult} (h : r.IsLinted ∧ IsLine r.path) : IsReadable r :=
  ⟨h.2, h.1.isGenuine⟩

/-- A text report on linted scripts can be read back: its sheets are those of its results, so that
two lists of results with the same text agree on the scripts, on the diagnostics of each, their
offsets, their messages and whether they are fatal. The block of a script says that nothing was
found exactly if that is so, and no line of a diagnostic that ended a scan is a line of a diagnostic
that did not or of one with another rule. -/
theorem read_render (timestamp : String) (results : List LintResult)
    (h : ∀ r ∈ results, r.IsLinted ∧ IsLine r.path) :
    read (render false (.all (.ofResults timestamp results))) = results.map sheet ∧
    (∀ (timestamp' : String) (others : List LintResult),
      (∀ r ∈ others, r.IsLinted ∧ IsLine r.path) →
      render false (.all (.ofResults timestamp' others)) =
        render false (.all (.ofResults timestamp results)) →
      others.map sheet = results.map sheet) ∧
    (∀ r ∈ results, cleanText ∈ blockLines r ↔ r.diagnostics = []) ∧
    ∀ r ∈ results, ∀ d ∈ r.diagnostics, d.fatal = true →
      ∀ r' ∈ results, ∀ e ∈ r'.diagnostics, ∀ line ∈ linesOf d, line ∈ linesOf e →
        e.fatal = true ∧ e.ruleId = d.ruleId := by
  have hreadable : ∀ r ∈ results, IsReadable r := fun r hr => isReadable_of_isLinted (h r hr)
  have hread := read_eq timestamp hreadable
  refine ⟨hread, fun timestamp' others hothers heq => ?_, fun r hr => ?_, ?_⟩
  · rw [← hread, ← heq, read_eq timestamp' fun r hr => isReadable_of_isLinted (hothers r hr)]
  · exact cleanText_mem_blockLines_iff (hreadable r hr)
  · intro r hr d hd hfatal r' hr' e he line hline hline'
    exact ruleId_eq_of_mem_linesOf ((hreadable r hr).genuine d hd) ((hreadable r' hr').genuine e he)
      hfatal hline hline'

/-- A struct without its header, behind an illegal opcode; a string that is cut off; and a script
that is not there. -/
theorem read_render_ended :
    let linter : Linter := { policy := Preset.permissive.policy }
    let machine : Machine := { files := .folder [] }
    ∃ atHeader short missing : LintResult,
      machine.answer (linter.lintBytes "a.qb" #[0xFF, 0x4A, 0x04, 0x00, 0x00, 0x00, 0x02, 0x00]) =
        .ok atHeader ∧
      machine.answer (linter.lintBytes "b: c.qb" #[0x1B]) = .ok short ∧
      machine.answer (linter.lintFile (.ofText "d.qb")) = .ok missing ∧
      (∀ r ∈ [atHeader, short, missing], r.IsLinted ∧ IsLine r.path) ∧
      read (render false (.all (.ofResults "" [atHeader, short, missing]))) =
        [⟨"a.qb", [⟨0, "Illegal opcode: FF", false⟩, ⟨4, "Invalid struct header", true⟩]⟩,
          ⟨"b: c.qb", [⟨0, "Unexpected end of script: offset 0x00000005 is beyond " ++
            "the end of the buffer (1 bytes)", true⟩]⟩,
          ⟨"d.qb", [⟨0, "File does not exist", true⟩]⟩] := by
  intro linter machine
  have haccepted : linter.policy.IsAccepted := .preset .permissive
  have hlint (path : String) (data : Bytes) :=
    (linter.answer_lintBytes machine path data).trans (haccepted.valid.result_eq ..)
  have hmissing : machine.answer (linter.lintFile (.ofText "d.qb")) =
      .ok (.notLoaded "d.qb" "" linter.policy.name "File does not exist") := rfl
  refine ⟨_, _, _, hlint _ _, hlint _ _, hmissing, ?linted, (read_render "" _ ?linted).1.trans ?_⟩
  case linted =>
    refine List.forall_mem_cons.mpr ⟨⟨.bytes linter machine _ _ haccepted (hlint _ _), ?_⟩,
      List.forall_mem_cons.mpr ⟨⟨.bytes linter machine _ _ haccepted (hlint _ _), ?_⟩,
        List.forall_mem_singleton.mpr ⟨.file linter machine _ haccepted hmissing, ?_⟩⟩⟩
    all_goals decide
  decide +kernel

end QbLint.TextReport
