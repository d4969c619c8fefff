import QbLint.Formats.Standard
import QbLint.Proofs.Files
import QbLint.Proofs.Reading
import QbLint.Proofs.Severity
import QbLint.Proofs.Utf8

/-!
# Policies that were written

A policy that was read and then written is read again as the same policy: it holds its disabled rules
in order, its mapping has all the fields of the built-in one, and an empty list or a false flag in it
stands for itself.

* `Policy.IsAccepted.ofOverlay_entries`: reading the mapping of a policy, laid over the built-in one;
* `Policy.ReadsBack`: readers and writers of documents that keep the mapping of a policy;
* `Policy.reload_eq`: writing a policy to a file, reading it from there and linting under it.
-/

namespace QbLint

/-! ## Ids in order -/

theorem nodup_eraseDups (l : List String) : l.eraseDups.Nodup := by
  induction hn : l.length using Nat.strong_induction_on generalizing l with
  | _ n ih =>
    cases l with
    | nil => exact List.nodup_nil
    | cons id l =>
      have hlength := List.length_filter_le (fun other => !other == id) l
      rw [List.length_cons] at hn
      rw [List.eraseDups_cons, List.nodup_cons]
      refine ⟨fun hmem => ?_, ih _ (by omega) _ rfl⟩
      simpa using List.of_mem_filter (List.mem_eraseDups.mp hmem)

theorem eraseDups_eq_self {l : List String} (h : l.Nodup) : l.eraseDups = l := by
  induction l with
  | nil => rfl
  | cons id l ih =>
    rw [List.nodup_cons] at h
    have hfilter : l.filter (fun other => !other == id) = l :=
      List.filter_eq_self.mpr fun other hother => by
        have hne : other ≠ id := fun heq => h.1 (heq ▸ hother)
        simpa using hne
    rw [List.eraseDups_cons, hfilter, ih h.2]

/-- Ids that were put in order, each once, stay as they are. -/
theorem mergeSort_eraseDups_idem (l : List String) :
    (l.eraseDups.mergeSort (· ≤ ·)).eraseDups.mergeSort (· ≤ ·) = l.eraseDups.mergeSort (· ≤ ·) := by
  have hnodup : (l.eraseDups.mergeSort (· ≤ ·)).Nodup :=
    (List.mergeSort_perm _ _).nodup_iff.mpr (nodup_eraseDups l)
  rw [eraseDups_eq_self hnodup, List.mergeSort_of_pairwise]
  apply List.pairwise_mergeSort
  · simp only [decide_eq_true_eq]
    exact fun a b c => String.le_trans
  · simp only [Bool.or_eq_true, decide_eq_true_eq]
    exact String.le_total

namespace Policy

variable {p q : Policy}

/-- The disabled rules of a policy that was read are in order, each once. -/
theorem IsAccepted.disabled_eq (h : p.IsAccepted) :
    p.disabled.eraseDups.mergeSort (· ≤ ·) = p.disabled := by
  obtain ⟨preset, rfl⟩ | ⟨order, upper, h⟩ := h.preset_or_ofOverlay
  · cases preset <;> simp [Preset.policy, List.eraseDups_cons]
  · obtain ⟨ids, -, hids⟩ := (ofEntries_eq_ok_iff.mp h).disabled
    rw [hids, mergeSort_eraseDups_idem]

/-! ## Fields -/

/-- The mapping of a policy has all the fields of the built-in one, so that nothing of that is left
under it. -/
theorem overlay_entries (p : Policy) :
    Entries.overlay ({} : Policy).entries p.entries = p.entries := rfl

/-- The fields of an override as a mapping. -/
def overrideFields (o : Override) : Entries :=
  [(.text "rule_id", .text o.ruleId), (.text "severity", .text o.severity), (.text "reason", o.reason)]

/-- A list counts as given unless it is empty. -/
theorem given?_of_list {m : Entries} {key : String} {items : List Document}
    (h : m.get? key = some (.list items)) :
    given? m key = if items.isEmpty then none else some (.list items) := by
  unfold given?
  rw [h]
  cases items <;> rfl

/-- A valid policy whose disabled rules are in order is what its own mapping is read as. -/
theorem isReading_entries (hvalid : p.Valid)
    (hdisabled : p.disabled.eraseDups.mergeSort (· ≤ ·) = p.disabled) : IsReading p.entries p where
  opcodes := ⟨_, rfl, rfl⟩
  nesting := ⟨_, rfl, rfl⟩
  structs := ⟨_, rfl, rfl⟩
  overrides := by
    have hshape : ∀ fields ∈ p.overrides.map overrideFields, overrideShape? fields = none :=
      List.forall_mem_map.mpr fun o _ => rfl
    refine ⟨p.overrides.map overrideFields, ?_, ?_⟩
    · rw [overrideEntries_eq_ok_iff, given?_of_list rfl]
      by_cases hnil : p.overrides = []
      · rw [if_pos (by rw [hnil]; rfl), hnil]
        rfl
      · rw [if_neg (by simpa using hnil), List.map_map]
        exact ⟨rfl, hshape⟩
    · rw [except_mapM_eq_ok_iff, List.forall₂_map_left_iff, List.forall₂_same]
      intro o ho
      exact overrideOf_eq_ok_iff.mpr ⟨rfl, rfl, rfl, hvalid.overrides o ho⟩
  disabled := by
    refine ⟨p.disabled, ?_, hdisabled.symm⟩
    rw [disabledIds_eq_ok_iff, given?_of_list rfl]
    by_cases hnil : p.disabled = []
    · rw [if_pos (by rw [hnil]; rfl), hnil]
    · rw [if_neg (by simpa using hnil)]
  name := rfl
  version := rfl
  presetBase := rfl
  valid := hvalid

/-- A policy that was read is read again from its own mapping, laid over the built-in policy. -/
theorem IsAccepted.ofOverlay_entries (h : p.IsAccepted) (order : SetOrder) :
    ofOverlay order p.entries = .ok p := by
  rw [ofOverlay, overlay_entries, ofEntries_eq_ok_iff]
  exact isReading_entries h.valid h.disabled_eq

/-! ## Files -/

/-- What the reader of documents makes of the text that the writer makes of a policy's mapping: that
mapping, and no other for the comment lines of the header in front of it. -/
structure ReadsBack (p : Policy) (formats : Formats) (text : String) : Prop where
  written : formats.writeDocument p.entries = .ok text
  read : formats.readDocument (Utf8.encode text) = .ok (.map p.entries)
  header : formats.readDocument (Utf8.encode (header ++ text)) =
    formats.readDocument (Utf8.encode text)

/-- The bytes of a policy's file hold the policy. -/
theorem IsAccepted.ofReading_fileText (h : p.IsAccepted) {formats : Formats} {text : String}
    (hback : p.ReadsBack formats text) (order : SetOrder) (path : String) :
    ofReading order path (formats.readDocument (Utf8.encode (fileText (.ok text)))) = .ok p := by
  have hread : formats.readDocument (Utf8.encode (fileText (.ok text))) = .ok (.map p.entries) :=
    hback.header.trans hback.read
  rw [hread]
  exact congrArg (Except.mapError _) (h.ofOverlay_entries order)

/-- Writes a policy to a file and reads it from there. -/
def reload {m : Type → Type} [Monad m] [Host m] (p : Policy) (path : Path) :
    m (Except PolicyFailure Policy) := do
  match ← p.save path with
  | .error e => return .error e
  | .ok () => ofFile path

/-- A policy that has a text is saved if the file can be written. -/
theorem answer_save_eq_ok_iff {machine : Machine} {path : Path} {text : String}
    (htext : machine.formats.writeDocument p.entries = .ok text) :
    machine.answer (p.save path) = .ok () ↔
      ∃ written, machine.write path.toText (Utf8.encode (fileText (.ok text))) = .ok written := by
  rw [save, Machine.answer_writeDocument_bind, htext, Machine.answer_bind, Machine.answer_write]
  cases machine.write path.toText (Utf8.encode (fileText (.ok text))) with
  | error e => exact iff_of_false nofun nofun
  | ok written => exact iff_of_true rfl ⟨written, rfl⟩

/-- Reading behind writing is reading on the machine with the file in its place. -/
theorem answer_reload {machine written : Machine} {path : Path} {text : String}
    (htext : machine.formats.writeDocument p.entries = .ok text)
    (h : machine.write path.toText (Utf8.encode (fileText (.ok text))) = .ok written) :
    machine.answer (p.reload path) = written.answer (ofFile path) ∧
      machine.after (p.reload path) = written.after (ofFile path) := by
  have hsave : machine.answer (p.save path) = .ok () := (answer_save_eq_ok_iff htext).mpr ⟨_, h⟩
  have hafter : machine.after (p.save path) = written := by
    rw [save, Machine.after_writeDocument_bind, htext, Machine.after_bind, Machine.answer_write, h,
      Machine.after_write h]
    rfl
  rw [reload, Machine.answer_bind, Machine.after_bind, hsave, hafter]
  exact ⟨rfl, rfl⟩

/-- A policy that was read is what its own mapping is read as, laid over the built-in policy. As long
as the reader of documents undoes the writer on that mapping, the policy is also read from the file
that it was saved to, and what is read is the same policy and lints in the same way. -/
theorem reload_eq (h : p.IsAccepted) :
    (∀ order, ofOverlay order p.entries = .ok p ∧ p.check order = .ok ()) ∧
    ∀ (machine : Machine) (text place : String), p.ReadsBack machine.formats text →
      machine.answer (p.save (.ofText place)) = .ok () →
      machine.refusal? .look (Path.ofText place).toText = none →
      machine.refusal? .read (Path.ofText place).toText = none →
      machine.answer (p.reload (.ofText place)) = .ok p ∧
      ∀ q, machine.answer (p.reload (.ofText place)) = .ok q → ∀ name data,
        (machine.after (p.reload (.ofText place))).answer
            (Linter.lintBytes { policy := q } name data) =
          machine.answer (Linter.lintBytes { policy := p } name data) := by
  refine ⟨fun order => ⟨h.ofOverlay_entries order, check_eq_ok_iff.mpr h.valid⟩,
    fun machine text place hback hsave hlook hread => ?_⟩
  obtain ⟨written, hwrite⟩ := (answer_save_eq_ok_iff hback.written).mp hsave
  obtain ⟨hanswer, hafter⟩ := answer_reload hback.written hwrite
  have hkept : written.time = machine.time ∧ written.formats = machine.formats := by
    obtain ⟨-, -, _, -, -, rfl⟩ := Machine.of_write hwrite
    exact ⟨rfl, rfl⟩
  have hreload : machine.answer (p.reload (.ofText place)) = .ok p := by
    obtain ⟨hentry, hdata⟩ := Machine.read_of_write (Path.isPlain_ofText place) hwrite hlook hread
    rw [hanswer, answer_ofFile, hentry, hdata, hkept.2]
    exact h.ofReading_fileText hback _ _
  refine ⟨hreload, fun q hq name data => ?_⟩
  obtain rfl := Except.ok.inj (hreload.symm.trans hq)
  rw [Linter.answer_lintBytes, Linter.answer_lintBytes, hafter, (readOnly_ofFile _).time, hkept.1]

/-- A text without carriage returns that stands for a document is read from its bytes as that
document. -/
theorem readYaml_encode {s : String} {value : Document} (h : '\r' ∉ s.toList)
    (hvalue : Yaml.read? s = some value) : Formats.readYaml (Utf8.encode s) = .ok value := by
  have htext : Formats.textOf (Utf8.encode s) = .ok s.toList := by
    rw [Formats.textOf, Utf8.decode_encode]
    exact congrArg Except.ok (Text.unifyLines_eq_self h)
  unfold Formats.readYaml
  rw [htext]
  simp only [Except.mapError, bind, Except.bind, String.ofList_toList, hvalue]
  rfl

theorem standard_writeDocument (entries : Entries) :
    Formats.standard.writeDocument entries = Formats.writeYaml entries :=
  rfl

/-- The text of a policy without carriage returns is read back if it stands for the policy's mapping,
and does so behind the header too. -/
theorem readsBack_standard {p : Policy}
    (hreturn : '\r' ∉ header.toList ++ (Yaml.write p.entries).toList)
    (hread : Yaml.read? (Yaml.write p.entries) = some (.map p.entries))
    (hheader : Yaml.read? (header ++ Yaml.write p.entries) = some (.map p.entries))
    (hwritable : entriesWritable p.entries = true) :
    p.ReadsBack Formats.standard (Yaml.write p.entries) where
  written := by rw [standard_writeDocument, Formats.writeYaml, if_pos hwritable]
  read := readYaml_encode (fun h => hreturn (List.mem_append_right _ h)) hread
  header := by
    have hplain : '\r' ∉ (Policy.header ++ Yaml.write p.entries).toList := by
      rwa [String.toList_append]
    exact (readYaml_encode hplain hheader).trans
      (readYaml_encode (fun h => hreturn (List.mem_append_right _ h)) hread).symm

theorem toList_write (p : Policy) :
    (Yaml.write p.entries).toList = Yaml.stack 0 (Yaml.writeEntries 0 p.entries) ++ ['\n'] := by
  rw [Yaml.write, String.toList_ofList]
  rfl

/-- The permissive preset, written as YAML to a file beside another one. -/
theorem reload_eq_permissive :
    let p := Preset.permissive.policy
    let machine : Machine :=
      { files := .folder [("a.qb", .file #[])], formats := Formats.standard }
    machine.answer (p.reload (.ofText "policy.yaml")) = .ok p ∧
      ofOverlay .listed p.entries = .ok p := by
  intro p machine
  -- all at once, so that the text is made only once
  have htext : '\r' ∉ header.toList ++ (Yaml.write p.entries).toList ∧
      Yaml.read? (Yaml.write p.entries) = some (.map p.entries) ∧
      Yaml.read? (header ++ Yaml.write p.entries) = some (.map p.entries) ∧
      entriesWritable p.entries = true := by
    unfold Yaml.read? Yaml.tokens?
    rw [String.toList_append, toList_write]
    decide +kernel
  have hback : p.ReadsBack Formats.standard (Yaml.write p.entries) :=
    readsBack_standard htext.1 htext.2.1 htext.2.2.1 htext.2.2.2
  have hwritten : machine.formats.writeDocument p.entries = .ok (Yaml.write p.entries) := hback.written
  have hsave : machine.answer (p.save (.ofText "policy.yaml")) = .ok () :=
    (answer_save_eq_ok_iff hwritten).mpr ⟨_, rfl⟩
  obtain ⟨hentries, hfile⟩ := reload_eq (.preset .permissive : p.IsAccepted)
  exact ⟨(hfile machine _ "policy.yaml" hback hsave rfl rfl).1, (hentries .listed).1⟩

end Policy

end QbLint
