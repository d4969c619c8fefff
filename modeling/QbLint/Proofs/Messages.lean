import QbLint.Proofs.Decimal
import QbLint.Proofs.Hex
import QbLint.Proofs.Lint
import QbLint.Report.Text

/-!
# What diagnostics say

The messages of everything that a scan finds or that keeps a script from being loaded. Each is a
text of a single line, also where it holds a number or the path of a file, since what cannot be
printed is not put into a message as it is.

* `Text.IsLine`: a text of a single line;
* `LoadError.isLine_message`, `OutOfBounds.isLine_message`: the errors in words;
* `Diagnostic.IsGenuine`: diagnostics as scanning and loading make them;
* `LintResult.IsLinted`: the results of linting; `LintResult.IsLinted.isGenuine`.
-/

namespace QbLint

/-! ## Texts of a single line -/

/-- A text of a single line. -/
def Text.IsLine (s : String) : Prop := '\n' ∉ s.toList

namespace Text

instance : DecidablePred IsLine := fun _ => inferInstanceAs (Decidable (_ ∉ _))

variable {s t : String}

@[simp] theorem isLine_append : IsLine (s ++ t) ↔ IsLine s ∧ IsLine t := by
  simp only [IsLine, String.toList_append, List.mem_append, not_or]

/-- Whether a text written out is a line can be seen from its characters. -/
theorem isLine_ofList {l : List Char} : IsLine (String.ofList l) ↔ '\n' ∉ l := by
  rw [IsLine, String.toList_ofList]

theorem isDigit_of_mem_nat {n : Nat} {c : Char} (h : c ∈ (toString n).toList) :
    c.isDigit = true := by
  change c ∈ (Nat.repr n).toList at h
  rw [Nat.repr, String.toList_ofList] at h
  exact Nat.isDigit_of_mem_toDigits (by decide) (by decide) h

theorem isLine_nat (n : Nat) : IsLine (toString n) := fun hmem =>
  absurd (isDigit_of_mem_nat hmem) (by decide)

theorem isLine_int (n : Int) : IsLine (toString n) := fun hmem =>
  absurd (Binary64.isNumeral_int n '\n' hmem) (by decide)

theorem isLine_padded (width : Nat) (n : Int) : IsLine (Hex.padded width n) :=
  Hex.not_mem_padded (by decide) (by decide)

theorem isLine_prefixed (n : Nat) : IsLine (Hex.prefixed n) :=
  Hex.not_mem_prefixed (by decide) (by decide)

/-- What stands for a character between quotes is not the end of a line. -/
theorem newline_not_mem_escape {mark c : Char} (hmark : mark ≠ '\n') :
    '\n' ∉ Quoted.escape mark c := by
  have hfill (width : Nat) : '\n' ∉ Hex.zeroFill width (Hex.digits Hex.lowerDigit c.toNat) := by
    have hdigit : ∀ d < 16, Hex.lowerDigit d ≠ '\n' := by decide
    intro hmem
    obtain ⟨d, hd, h⟩ := Hex.exists_of_mem_zeroFill_digits rfl hmem
    exact hdigit d hd h.symm
  unfold Hex.zeroFill at hfill
  unfold Quoted.escape
  split
  · rename_i hc
    rcases hc with rfl | rfl
    · decide
    · simpa using hmark.symm
  · split
    · decide
    · rename_i hnewline
      split
      · decide
      · split
        · decide
        · split
          · simpa using fun h => hnewline h.symm
          · dsimp only
            split
            · simpa using hfill 2
            · split
              · simpa using hfill 4
              · simpa using hfill 8

theorem isLine_quote (s : String) : IsLine (Quoted.quote s) := by
  have hmark : Quoted.mark s.toList ≠ '\n' := by
    unfold Quoted.mark
    split <;> decide
  rw [IsLine, Quoted.quote, String.toList_ofList]
  simp only [List.cons_append, List.mem_cons, List.mem_append, List.mem_flatMap, List.not_mem_nil,
    or_false, not_or, not_exists, not_and]
  exact ⟨hmark.symm, fun _ _ => newline_not_mem_escape hmark, hmark.symm⟩

end Text

open Text (IsLine)

theorem FileError.isLine_message (e : FileError) : IsLine e.message := by
  have hnotFound : IsLine "[Errno 2] No such file or directory: " :=
    Text.isLine_ofList.mpr (by decide)
  have hnotFolder : IsLine "[Errno 20] Not a directory: " := Text.isLine_ofList.mpr (by decide)
  have hisFolder : IsLine "[Errno 21] Is a directory: " := Text.isLine_ofList.mpr (by decide)
  cases e with
  | notFound path => exact Text.isLine_append.mpr ⟨hnotFound, Text.isLine_quote path⟩
  | notFolder path => exact Text.isLine_append.mpr ⟨hnotFolder, Text.isLine_quote path⟩
  | isFolder path => exact Text.isLine_append.mpr ⟨hisFolder, Text.isLine_quote path⟩
  | system e path? =>
    have hmark : IsLine "[Errno " := Text.isLine_ofList.mpr (by decide)
    have hnumber : IsLine ("[Errno " ++ toString e.number ++ "] " ++ e.name) := by
      simp only [Text.isLine_append]
      exact ⟨⟨⟨hmark, Text.isLine_nat e.number⟩, Text.isLine_ofList.mpr (by decide)⟩, e.isLine⟩
    cases path? with
    | none => exact hnumber
    | some path =>
      have hcolon : IsLine ": " := Text.isLine_ofList.mpr (by decide)
      exact Text.isLine_append.mpr
        ⟨Text.isLine_append.mpr ⟨hnumber, hcolon⟩, Text.isLine_quote path⟩
  | nullInPath => exact Text.isLine_ofList.mpr (by decide)

theorem LoadError.isLine_message (e : LoadError) : IsLine e.message := by
  cases e with
  | missing | isFolder => exact Text.isLine_ofList.mpr (by decide)
  | tooLarge size limit _ =>
    have hfile : IsLine "File is " := Text.isLine_ofList.mpr (by decide)
    have hbytes : IsLine " bytes, larger than the " := Text.isLine_ofList.mpr (by decide)
    have hlimit : IsLine " byte limit" := Text.isLine_ofList.mpr (by decide)
    change IsLine s!"File is {size} bytes, larger than the {limit} byte limit"
    simp only [Text.isLine_append]
    exact ⟨⟨⟨⟨hfile, Text.isLine_nat size⟩, hbytes⟩, Text.isLine_int limit⟩, hlimit⟩
  | unreadable cause =>
    have hfailed : IsLine "Failed to read script: " := Text.isLine_ofList.mpr (by decide)
    exact Text.isLine_append.mpr ⟨hfailed, cause.isLine_message⟩

theorem OutOfBounds.isLine_message (failure : OutOfBounds) : IsLine failure.message := by
  rw [message]
  split
  · have hseek : IsLine "Seek to offset " := Text.isLine_ofList.mpr (by decide)
    have hbefore : IsLine " is before the start of the script" := Text.isLine_ofList.mpr (by decide)
    simp only [Text.isLine_append]
    exact ⟨⟨hseek, Text.isLine_int _⟩, hbefore⟩
  · have hend : IsLine "Unexpected end of script: offset " := Text.isLine_ofList.mpr (by decide)
    have hbeyond : IsLine " is beyond " := Text.isLine_ofList.mpr (by decide)
    have hbuffer : IsLine "the end of the buffer (" := Text.isLine_ofList.mpr (by decide)
    have hbytes : IsLine " bytes)" := Text.isLine_ofList.mpr (by decide)
    simp only [Text.isLine_append]
    exact ⟨⟨⟨hend, Text.isLine_prefixed _⟩, hbeyond⟩, ⟨hbuffer, Text.isLine_nat _⟩, hbytes⟩

/-! ## Diagnostics of scanning and loading -/

namespace Diagnostic

/-- A defect that is passed over, with a message other than that of a bad struct header. -/
structure IsRemark (d : Diagnostic) : Prop where
  fatal : d.fatal = false
  line : IsLine d.message
  other : d.message ≠ "Invalid struct header"

/-- The diagnostic that ends the scan of a script that is cut short. -/
structure EndsShort (d : Diagnostic) : Prop where
  fatal : d.fatal = true
  ruleId : d.ruleId = Rule.truncatedScript.id
  reason : TextReport.reason? d = none
  line : IsLine d.message

/-- The diagnostic that ends a scan at a bad struct header. -/
structure EndsAtHeader (d : Diagnostic) : Prop where
  fatal : d.fatal = true
  ruleId : d.ruleId = Rule.structHeaderInvalid.id
  reason : TextReport.reason? d = some (.text "Cannot continue decompilation")
  message : d.message = "Invalid struct header"

/-- The one diagnostic of a script that could not be loaded. -/
structure IsUnloaded (d : Diagnostic) : Prop where
  fatal : d.fatal = true
  ruleId : d.ruleId = Rule.fileNotFound.id
  position : d.position = 0
  message : ∃ e : LoadError, d.message = e.message

/-- A diagnostic as scanning and loading make it. -/
inductive IsGenuine (d : Diagnostic) : Prop
  | remark (h : d.IsRemark)
  | short (h : d.EndsShort)
  | atHeader (h : d.EndsAtHeader)
  | unloaded (h : d.IsUnloaded)

variable {d : Diagnostic}

/-- The severity of a diagnostic does not matter to what it says. -/
theorem IsGenuine.withSeverity (h : d.IsGenuine) (severity : Severity) :
    IsGenuine { d with severity } := by
  cases h with
  | remark h => exact .remark ⟨h.fatal, h.line, h.other⟩
  | short h => exact .short ⟨h.fatal, h.ruleId, h.reason, h.line⟩
  | atHeader h => exact .atHeader ⟨h.fatal, h.ruleId, h.reason, h.message⟩
  | unloaded h => exact .unloaded ⟨h.fatal, h.ruleId, h.position, h.message⟩

end Diagnostic

theorem isRemark_report (rule : Rule) {message : String} (position : Int) (hline : IsLine message)
    (hother : message ≠ "Invalid struct header") : (rule.report message position).IsRemark :=
  ⟨rfl, hline, hother⟩

/-- The defects that an instruction can have are all passed over, with messages of a single line. -/
theorem Form.isRemark_of_mem_defects {form : Form} {code : UInt8} {rule : Rule} {message : String}
    (h : (rule, message) ∈ form.defects code) (position : Int) :
    (rule.report message position).IsRemark := by
  cases form with
  | opening _ | closing _ | recordTable | operand _ => cases h
  | endOfScript | ifBranch | elseBranch | switchJump =>
    obtain ⟨rfl, rfl⟩ := Prod.mk.inj (List.mem_singleton.mp h)
    exact isRemark_report _ position (Text.isLine_ofList.mpr (by decide)) (by decide)
  | narrowString | struct | elseifBranch | switchCase =>
    rcases List.mem_pair.mp h with h | h
    all_goals
      obtain ⟨rfl, rfl⟩ := Prod.mk.inj h
      exact isRemark_report _ position (Text.isLine_ofList.mpr (by decide)) (by decide)
  | wideString =>
    rcases List.mem_cons.mp h with h | h
    · obtain ⟨rfl, rfl⟩ := Prod.mk.inj h
      exact isRemark_report _ position (Text.isLine_ofList.mpr (by decide)) (by decide)
    · rcases List.mem_pair.mp h with h | h
      all_goals
        obtain ⟨rfl, rfl⟩ := Prod.mk.inj h
        exact isRemark_report _ position (Text.isLine_ofList.mpr (by decide)) (by decide)
  | bare =>
    obtain ⟨rfl, rfl⟩ := Prod.mk.inj (List.mem_singleton.mp h)
    have hillegal : IsLine "Illegal opcode: " := Text.isLine_ofList.mpr (by decide)
    refine isRemark_report _ position ?_ fun heq => ?_
    · exact Text.isLine_append.mpr ⟨hillegal, Text.isLine_padded 2 _⟩
    · -- the two texts differ in their second character
      have hsecond := congrArg (fun s => s.toList[1]?) heq
      simp at hsecond

theorem BlockKind.isLine_name (kind : BlockKind) : IsLine kind.name := by
  cases kind <;> exact Text.isLine_ofList.mpr (by decide)

theorem Depths.isRemark_of_mem_unbalanced {depths : Depths} {kind : BlockKind} {position : Int}
    {d : Diagnostic} (hd : d ∈ depths.unbalanced kind position) : d.IsRemark := by
  unfold unbalanced at hd
  split at hd
  · obtain rfl := List.mem_singleton.mp hd
    have hend : IsLine "Unbalanced end " := Text.isLine_ofList.mpr (by decide)
    refine isRemark_report _ position (Text.isLine_append.mpr ⟨hend, kind.isLine_name⟩) ?_
    cases kind <;> decide
  · cases hd

theorem Depths.isRemark_of_mem_unclosed {depths : Depths} {position : Int} {d : Diagnostic}
    (hd : d ∈ depths.unclosed position) : d.IsRemark := by
  obtain ⟨kind, -, hk⟩ := List.mem_filterMap.mp hd
  split at hk
  · obtain rfl := Option.some.inj hk
    have hunclosed : IsLine "Unclosed " := Text.isLine_ofList.mpr (by decide)
    have hend : IsLine " at end of script" := Text.isLine_ofList.mpr (by decide)
    refine isRemark_report _ position ?_ ?_
    · simp only [Text.isLine_append]
      exact ⟨⟨hunclosed, kind.isLine_name⟩, hend⟩
    · cases kind <;> decide
  · cases hk

theorem Step.isRemark_of_mem {options : ScanOptions} {data : Bytes} {start : Nat} {code : UInt8}
    {depths : Depths} {d : Diagnostic} (hd : d ∈ (Step.take options data start code depths).found) :
    d.IsRemark := by
  rw [Step.take_found, List.mem_append] at hd
  rcases hd with hd | hd
  · exact Instruction.check_finds_defects (p := Diagnostic.IsRemark) options data start code
      (fun rule message hdefect => Form.isRemark_of_mem_defects hdefect) d hd
  · split at hd
    · exact Depths.isRemark_of_mem_unbalanced hd
    · cases hd

theorem Abort.isGenuine_diagnostic (abort : Abort) (start : Nat) :
    (abort.diagnostic start).IsGenuine := by
  cases abort with
  | outOfBounds reader failure => exact .short ⟨rfl, rfl, rfl, failure.isLine_message⟩
  | structHeader position header => exact .atHeader ⟨rfl, rfl, rfl, rfl⟩

/-- Everything that a scan finds is genuine. -/
theorem Scan.isGenuine_of_mem {options : ScanOptions} {data : Bytes} {d : Diagnostic}
    (hd : d ∈ (run options data).diagnostics) : d.IsGenuine := by
  rcases List.mem_append.mp hd with hd | hd
  · obtain ⟨step, hs, hd⟩ := List.mem_flatMap.mp hd
    obtain ⟨code, depths, -, hstep⟩ := (walks_walk options data).mem_take hs
    rw [hstep] at hd
    exact .remark (Step.isRemark_of_mem hd)
  · unfold closing at hd
    split at hd
    · rename_i start _ abort _ _
      obtain rfl := List.mem_singleton.mp hd
      exact abort.isGenuine_diagnostic start
    · split at hd
      · exact .remark (Depths.isRemark_of_mem_unclosed hd)
      · cases hd
    · cases hd

/-! ## Results of linting -/

namespace LintResult

/-- The result of linting the bytes of a script or a file under a policy that was accepted. -/
inductive IsLinted (r : LintResult) : Prop
  | bytes (linter : Linter) (machine : Machine) (path : String) (data : Bytes) :
    linter.policy.IsAccepted → machine.answer (linter.lintBytes path data) = .ok r → IsLinted r
  | file (linter : Linter) (machine : Machine) (path : Path) :
    linter.policy.IsAccepted → machine.answer (linter.lintFile path) = .ok r → IsLinted r

variable {r : LintResult}

theorem isGenuine_of_lintBytes {linter : Linter} {machine : Machine} {path : String} {data : Bytes}
    (hp : linter.policy.Valid) (hr : machine.answer (linter.lintBytes path data) = .ok r) :
    ∀ d ∈ r.diagnostics, d.IsGenuine := by
  rw [Linter.answer_lintBytes, hp.result_eq] at hr
  obtain rfl := Except.ok.inj hr
  intro d hd
  obtain ⟨e, he, rfl⟩ := List.mem_map.mp hd
  exact (Scan.isGenuine_of_mem (List.mem_of_mem_filter he)).withSeverity _

/-- The diagnostics of every result of linting are genuine. -/
theorem IsLinted.isGenuine (h : r.IsLinted) : ∀ d ∈ r.diagnostics, d.IsGenuine := by
  cases h with
  | bytes linter machine path data hp hr => exact isGenuine_of_lintBytes hp.valid hr
  | file linter machine path hp hr =>
    rw [Linter.answer_lintFile] at hr
    split at hr
    · cases hr
    · rename_i data _
      cases hbytes : machine.answer (linter.lintBytes path.toText data) with
      | error e =>
        rw [hbytes] at hr
        cases hr
      | ok result =>
        rw [hbytes] at hr
        obtain rfl := Except.ok.inj hr
        exact isGenuine_of_lintBytes hp.valid hbytes
    · rename_i e _
      obtain rfl := Except.ok.inj hr
      intro d hd
      obtain rfl := List.mem_singleton.mp hd
      exact .unloaded ⟨rfl, rfl, rfl, e, rfl⟩

end LintResult

end QbLint
