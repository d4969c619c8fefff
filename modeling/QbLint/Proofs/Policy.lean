import QbLint.Policy.File
import QbLint.Proofs.Bytes
import QbLint.Proofs.Machine

/-!
# Policies that were read

Every policy that was read passed its check, and a policy that passes its check is applied to
whatever a scan finds without failing.

* `Policy.check_eq_ok_iff`: what a policy must keep to;
* `Policy.IsAccepted`: policies that come from a document or are presets; `Policy.IsAccepted.valid`;
* `Policy.answer_ofFile`: reading a policy from a file, by what the parts of that come to;
* `Policy.severityFor`: the severity of a diagnostic under a policy;
* `Policy.Valid.apply_eq`: the diagnostics of a scan under a policy.
-/

namespace QbLint

/-- A severity that a policy may give to defects. -/
def Severity.IsAssignable (s : Severity) : Prop := s ≠ .fatal ∧ s ≠ .clean

namespace Policy

/-- What a policy must keep to: the rules it disables are known and do not end a scan, the overrides
are for known rules and assign severities that a passed-over defect can have, and the limit for
padding is a number of bytes. -/
structure Valid (p : Policy) : Prop where
  disabled : ∀ ruleId ∈ p.disabled, ∃ rule, Rule.ofId? ruleId = some rule ∧ rule.fatal = false
  overrides : ∀ o ∈ p.overrides, (∃ rule, Rule.ofId? o.ruleId = some rule) ∧
    ∃ severity, Severity.ofText? o.severity = some severity ∧ severity.IsAssignable
  padding : 0 ≤ p.options.maxPadding

theorem checkDisabled_eq_ok_iff {ruleId : String} :
    checkDisabled ruleId = .ok () ↔
      ∃ rule, Rule.ofId? ruleId = some rule ∧ rule.fatal = false := by
  unfold checkDisabled
  cases h : Rule.ofId? ruleId with
  | none => simp
  | some rule => cases hf : rule.fatal <;> simp [hf]

/-- An override is accepted exactly if its rule is known and its severity may be assigned. -/
theorem override_of?_eq_ok_iff {id text : String} {reason : Document} :
    (∃ o, Override.of? (.text id) (.text text) reason = .ok o) ↔
      (∃ rule, Rule.ofId? id = some rule) ∧
        ∃ severity, Severity.ofText? text = some severity ∧ severity.IsAssignable := by
  unfold Override.of? Document.text
  dsimp only
  cases hr : Rule.ofId? id with
  | none => simp
  | some rule =>
    cases hs : Severity.ofText? text with
    | none => simp
    | some severity => cases severity <;> simp [Severity.IsAssignable]

/-- Whether a policy passes its check does not depend on the order in which sets are gone
through. -/
theorem check_eq_ok_iff {p : Policy} {order : SetOrder} : p.check order = .ok () ↔ p.Valid := by
  have hoverride : ∀ o : Override,
      (do let _ ← Override.of? (.text o.ruleId) (.text o.severity) o.reason) = .ok () ↔
        ∃ o', Override.of? (.text o.ruleId) (.text o.severity) o.reason = .ok o' := fun o => by
    rw [except_bind_eq_ok_iff]
    exact exists_congr fun _ => and_iff_left rfl
  have hpadding : (if p.options.maxPadding < 0 then Except.error PolicyError.negativePadding
      else .ok ()) = .ok () ↔ 0 ≤ p.options.maxPadding := by
    split <;> simp <;> omega
  simp only [check, except_bind_eq_ok_iff, except_forM_eq_ok_iff, hpadding,
    SetOrder.mem_arrange, checkDisabled_eq_ok_iff, hoverride, override_of?_eq_ok_iff]
  constructor
  · rintro ⟨_, hdisabled, _, hoverrides, hp⟩
    exact ⟨hdisabled, hoverrides, hp⟩
  · intro h
    exact ⟨(), h.disabled, (), h.overrides, h.padding⟩

/-! ## Where policies come from -/

variable {p : Policy} {order : SetOrder}

theorem valid_of_ofEntries {entries : Entries} (h : ofEntries order entries = .ok p) :
    p.Valid := by
  -- Whatever the sections came to, the last thing done with the policy is to check it.
  simp only [ofEntries, except_bind_eq_ok_iff] at h
  obtain ⟨_, -, _, -, _, -, _, -, _, -, _, -, _, -, _, -, _, -, _, -, _, -, _, -, _, -, _, hcheck,
    hp⟩ := h
  obtain rfl := Except.ok.inj hp
  exact check_eq_ok_iff.mp hcheck

theorem exists_ofOverlay_of_ofDocument {path : String} {value : Document}
    (h : ofDocument order path value = .ok p) : ∃ upper, ofOverlay order upper = .ok p := by
  unfold ofDocument at h
  split at h
  · exact ⟨_, h⟩
  · split at h
    · cases h
    · exact ⟨_, h⟩

/-- A policy that was read from a file is that of the document in the file. -/
theorem ofReading_eq_ok_iff {path : String} {reading : Except FormatError Document} :
    ofReading order path reading = .ok p ↔
      ∃ value, reading = .ok value ∧ ofDocument order path value = .ok p := by
  cases reading with
  | error e => exact iff_of_false nofun (by simp)
  | ok value =>
    unfold ofReading
    dsimp only
    cases h : ofDocument order path value <;> simp [Except.mapError, h]

theorem valid_preset (preset : Preset) : preset.policy.Valid := by
  have hcheck : preset.policy.check .listed = .ok () := by cases preset <;> rfl
  exact check_eq_ok_iff.mp hcheck

/-- The policy is that of some document, or it is a preset. -/
inductive IsAccepted : Policy → Prop
  | document {order : SetOrder} {path : String} {value : Document} {p : Policy} :
    ofDocument order path value = .ok p → IsAccepted p
  | preset (preset : Preset) : IsAccepted preset.policy

theorem readOnly_logLoaded (p : Policy) (path : String) : ReadOnly (p.logLoaded path) := .log _

theorem readOnly_readPreset (preset : Preset) : ReadOnly (readPreset preset) :=
  .bind (readOnly_logLoaded ..) fun _ => .pure _

theorem readOnly_ofFile (path : Path) : ReadOnly (ofFile path) := by
  refine .bind (.entryAt path) fun entry => ?_
  split
  · exact .pure _
  · exact .pure _
  · refine .bind (.read path) fun data => ?_
    cases data with
    | error e => exact .pure _
    | ok data =>
      refine .bind (.readDocument data) fun reading => .bind .setOrder fun order => ?_
      split
      · exact .pure _
      · exact .bind (readOnly_logLoaded ..) fun _ => .pure _

theorem answer_ofPreset (machine : Machine) (name : String) :
    machine.answer (ofPreset name) =
      match Preset.ofName? name with
      | none => .error (.unknownPreset name)
      | some preset => .ok preset.policy := by
  unfold ofPreset
  cases Preset.ofName? name <;> rfl

theorem answer_ofFile (machine : Machine) (path : Path) :
    machine.answer (ofFile path) =
      match machine.entryAt path with
      | .error e => .error (.file e)
      | .ok none => .error (.missing path.toText)
      | .ok (some _) =>
        match machine.read path with
        | .error e => .error (.file e)
        | .ok data =>
          ofReading machine.setOrder path.toText (machine.formats.readDocument data) := by
  unfold ofFile
  rw [Machine.answer_entryAt_bind]
  cases machine.entryAt path with
  | error e => exact machine.answer_pure _
  | ok kind? =>
    cases kind? with
    | none => exact machine.answer_pure _
    | some entry =>
      dsimp only
      rw [Machine.answer_read_bind]
      cases machine.read path with
      | error e => exact machine.answer_pure _
      | ok data =>
        dsimp only
        rw [Machine.answer_readDocument_bind, Machine.answer_setOrder_bind]
        cases ofReading machine.setOrder path.toText (machine.formats.readDocument data) with
        | error e => exact machine.answer_pure _
        | ok p =>
          dsimp only
          rw [Machine.answer_bind]
          exact Machine.answer_pure _ _

/-- Whatever reads the documents, a policy that comes from a file is that of a document. -/
theorem isAccepted_of_ofFile {machine : Machine} {path : Path}
    (h : machine.answer (ofFile path) = .ok p) : p.IsAccepted := by
  rw [answer_ofFile] at h
  split at h
  · cases h
  · cases h
  · split at h
    · cases h
    · obtain ⟨value, -, hvalue⟩ := ofReading_eq_ok_iff.mp h
      exact .document hvalue

theorem isAccepted_of_ofPreset {machine : Machine} {name : String}
    (h : machine.answer (ofPreset name) = .ok p) : p.IsAccepted := by
  rw [answer_ofPreset] at h
  split at h
  · cases h
  · obtain rfl := Except.ok.inj h
    exact .preset _

/-- The policy of a document was laid over the built-in one. -/
theorem IsAccepted.preset_or_ofOverlay (h : p.IsAccepted) :
    (∃ preset : Preset, p = preset.policy) ∨ ∃ order upper, ofOverlay order upper = .ok p := by
  cases h with
  | @document order path value p h => exact .inr ⟨order, exists_ofOverlay_of_ofDocument h⟩
  | preset preset => exact .inl ⟨preset, rfl⟩

theorem IsAccepted.valid (h : p.IsAccepted) : p.Valid := by
  obtain ⟨preset, rfl⟩ | ⟨order, upper, h⟩ := h.preset_or_ofOverlay
  · exact valid_preset preset
  · exact valid_of_ofEntries h

/-- Another table of opcodes makes no difference to what a policy must keep to. -/
theorem Valid.withCorrectedRanges (h : p.Valid) (correctedRanges : Bool) :
    { p with options := { p.options with correctedRanges } }.Valid where
  disabled := h.disabled
  overrides := h.overrides
  padding := h.padding

/-! ## Diagnostics under a policy -/

/-- The severity of a diagnostic under a policy. -/
def severityFor (p : Policy) (d : Diagnostic) : Severity :=
  if d.fatal then d.severity else ((p.override? d.ruleId).bind Severity.ofText?).getD d.severity

theorem Valid.ofText?_override (h : p.Valid) {ruleId spelling : String}
    (ho : p.override? ruleId = some spelling) :
    ∃ severity, Severity.ofText? spelling = some severity ∧ severity.IsAssignable := by
  obtain ⟨o, hfind, rfl⟩ := Option.map_eq_some_iff.mp ho
  exact (h.overrides o (List.mem_of_find?_eq_some hfind)).2

theorem Valid.reassess_eq (h : p.Valid) (d : Diagnostic) :
    p.reassess d = .ok { d with severity := p.severityFor d } := by
  unfold reassess severityFor
  split
  · rfl
  · split
    · rename_i ho
      rw [ho]
      rfl
    · rename_i spelling ho
      obtain ⟨severity, hs, -⟩ := h.ofText?_override ho
      -- An empty spelling would count as none, but it is not the name of a severity.
      have hspelling : ¬ spelling.isEmpty = true := fun hempty => by
        obtain rfl := String.isEmpty_iff.mp hempty
        cases hs.symm.trans (by decide : Severity.ofText? "" = none)
      rw [if_neg hspelling, ho, Option.bind_some, hs]
      rfl

/-- A policy gives to a diagnostic its own severity, or a severity that a passed-over defect can
have. -/
theorem Valid.severityFor_eq_or (h : p.Valid) (d : Diagnostic) :
    p.severityFor d = d.severity ∨ d.fatal = false ∧ (p.severityFor d).IsAssignable := by
  unfold severityFor
  split
  · exact .inl rfl
  · rename_i hf
    cases ho : p.override? d.ruleId with
    | none => exact .inl rfl
    | some spelling =>
      obtain ⟨severity, hs, hassignable⟩ := h.ofText?_override ho
      rw [Option.bind_some, hs]
      exact .inr ⟨Bool.eq_false_iff.mpr hf, hassignable⟩

/-- A policy that passed its check does not fail on any diagnostics. -/
theorem Valid.apply_eq (h : p.Valid) (diagnostics : List Diagnostic) :
    p.apply diagnostics =
      .ok ((diagnostics.filter fun d => d.fatal || !p.disabled.contains d.ruleId).map
        fun d => { d with severity := p.severityFor d }) :=
  except_mapM_eq_ok fun d _ => h.reassess_eq d

end Policy

end QbLint
