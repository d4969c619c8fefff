import Mathlib.Data.Set.List
import QbLint.Proofs.Reading

/-!
# The shape of a policy

A mapping, laid over the built-in policy, is a policy exactly if it has the shape of one and its
labels can be written. Each section and each field of the overlay is known from the upper mapping
alone, since the built-in policy has what is left out there.

* `Document.IsOverride`, `Document.IsPolicy`: the shapes of overrides and of policies;
* `Policy.section?_overlay_eq_ok_iff`, `Policy.forall_field_iff`: sections and their fields in a
  mapping laid over another one;
* `Policy.ofOverlay_accepts_iff`: which mappings are policies.
-/

namespace QbLint

/-- The severities that may be assigned, by their names in capitals. -/
theorem Severity.exists_ofText?_iff {s : String} :
    (∃ severity, ofText? s = some severity ∧ severity.IsAssignable) ↔
      Text.upper s ∈ ["ERROR", "WARNING", "INFO"] := by
  unfold ofText?
  generalize Text.upper s = name
  constructor
  · rintro ⟨severity, h, hfatal, hclean⟩
    unfold ofName? at h
    have hname := List.find?_some h
    obtain rfl : severity.name = name := eq_of_beq hname
    cases severity <;> first | contradiction | decide
  · intro h
    simp only [List.mem_cons, List.not_mem_nil, or_false] at h
    rcases h with rfl | rfl | rfl
    exacts [⟨error, rfl, by decide, by decide⟩, ⟨warning, rfl, by decide, by decide⟩,
      ⟨info, rfl, by decide, by decide⟩]

namespace Document

/-- A mapping with the id of a known rule, a severity that may be assigned, perhaps a reason, and
nothing else. -/
structure IsOverride (d : Document) : Prop where
  keys : ∃ fields, d = .map fields ∧
    ∀ key ∈ Entries.keys fields, key ∈ [.text "rule_id", .text "severity", .text "reason"]
  ruleId : ∃ id rule, d.at? ["rule_id"] = some (.text id) ∧ Rule.ofId? id = some rule
  severity : ∃ s, d.at? ["severity"] = some (.text s) ∧
    Text.upper s ∈ ["ERROR", "WARNING", "INFO"]

/-- The shape of a policy. Whatever is not truthy counts as left out, except for the fields of the
sections. -/
structure IsPolicy (d : Document) : Prop where
  mapping : d.truthy = true → d.IsMap
  sections : ∀ name ∈ ["opcodes", "nesting", "structs"], ∀ value, d.at? [name] = some value →
    value.truthy = true → value.IsMap
  flags : ∀ path ∈ [["opcodes", "corrected_ranges"], ["nesting", "check_balance_at_end"]],
    ∀ value, d.at? path = some value → ∃ b, value = .bool b
  padding : ∀ value, d.at? ["structs", "max_padding"] = some value → ∃ n, value = .int n ∧ 0 ≤ n
  overrides : ∀ value, d.at? ["severity_overrides"] = some value → value.truthy = true →
    ∃ items, value = .list items ∧ ∀ item ∈ items, item.IsOverride
  disabled : ∀ value, d.at? ["disabled_rules"] = some value → value.truthy = true →
    ∃ items, value = .list items ∧
      ∀ item ∈ items, ∃ id rule, item = .text id ∧ Rule.ofId? id = some rule ∧ rule.fatal = false

theorem at?_map_singleton (entries : Entries) (key : String) :
    (map entries).at? [key] = Entries.get? entries key := by
  rw [at?]
  cases Entries.get? entries key <;> rfl

end Document

namespace Policy

variable {base upper fields : Entries} {name key : String} {old value : Document}

/-! ## Fields of overlays -/

/-- What is not a mapping is replaced as a whole. -/
theorem get?_overlay_of_not_isMap (h : (Document.map upper).WellKeyed)
    (hb : base.get? key = some old) (hold : ¬ old.IsMap) :
    (Entries.overlay base upper).get? key = some ((upper.get? key).getD old) := by
  rw [h.get?_overlay, hb]
  cases upper.get? key with
  | none => rfl
  | some value =>
    exact congrArg some (Document.overlay_of_not_isMap fun hboth => hold hboth.2)

theorem section?_of_map {m : Entries} (hm : m.get? name = some (.map fields)) : section? m name =
    .ok fields := by
  unfold section? given?
  rw [hm]
  cases fields <;> rfl

theorem section?_of_not_isMap {m : Entries} (hm : m.get? name = some value)
    (hmap : ¬ value.IsMap) : section? m name =
      if value.truthy then .error (.sectionNotMapping name) else .ok [] := by
  unfold section? given?
  rw [hm, Option.filter_some]
  cases ht : value.truthy with
  | false => rfl
  | true =>
    cases value with
    | map entries => exact absurd ⟨_, rfl⟩ hmap
    | scalar | list => rfl

/-- What is read as a section of an overlay: the section of the lower mapping if the upper one has
none, the one over the other if it has one, and if it has something else there, then no fields, or
there is an error. -/
theorem section?_overlay_cases {below : Entries} (h : (Document.map upper).WellKeyed)
    (hb : base.get? name = some (.map below)) :
    (upper.get? name = none ∧ section? (Entries.overlay base upper) name = .ok below) ∨
    (∃ above, upper.get? name = some (.map above) ∧ section? (Entries.overlay base upper) name =
      .ok (Entries.overlay below above)) ∨
    ∃ value, upper.get? name = some value ∧ ¬ value.IsMap ∧
      (section? (Entries.overlay base upper) name) =
        if value.truthy then .error (.sectionNotMapping name) else .ok [] := by
  have hm : (Entries.overlay base upper).get? name = _ := h.get?_overlay name
  rw [hb] at hm
  cases hu : upper.get? name with
  | none =>
    rw [hu] at hm
    exact .inl ⟨rfl, section?_of_map hm⟩
  | some value =>
    rw [hu] at hm
    by_cases hmap : value.IsMap
    · obtain ⟨above, rfl⟩ := hmap
      exact .inr (.inl ⟨above, rfl, section?_of_map hm⟩)
    · have hvalue : (Document.map below).overlay value = value :=
        Document.overlay_of_not_isMap fun hboth => hmap hboth.1
      have hm := hm.trans (congrArg some hvalue)
      exact .inr (.inr ⟨value, rfl, hmap, section?_of_not_isMap hm hmap⟩)

/-- A section of an overlay can be read if the upper mapping has a mapping there, or what counts as
nothing. -/
theorem section?_overlay_eq_ok_iff (h : (Document.map upper).WellKeyed)
    (hb : base.get? name = some (.map fields)) :
    (∃ found, section? (Entries.overlay base upper) name = .ok found) ↔
      ∀ value, upper.get? name = some value → value.truthy = true → value.IsMap := by
  rcases section?_overlay_cases h hb with ⟨hu, hs⟩ | ⟨above, hu, hs⟩ | ⟨value, hu, hmap, hs⟩
  all_goals
    rw [hu, hs]
    simp only [Option.some.injEq, forall_eq', reduceCtorEq, false_implies, implies_true]
  · exact iff_of_true ⟨_, rfl⟩ trivial
  · exact iff_of_true ⟨_, rfl⟩ fun _ => ⟨_, rfl⟩
  · cases value.truthy with
    | false => exact iff_of_true ⟨_, rfl⟩ nofun
    | true => exact iff_of_false nofun fun hall => hmap (hall rfl)

/-- What all values of a field have that stands in a section of an overlay, if the value does that
the lower mapping has there. -/
theorem forall_field_iff {P : Document → Prop} (h : (Document.map upper).WellKeyed)
    (hb : base.get? name = some (.map [(.text key, old)])) (hold : ¬ old.IsMap) (hP : P old)
    (hs : section? (Entries.overlay base upper) name = .ok fields) :
    (∀ value, fields.get? key = some value → P value) ↔
      ∀ value, (Document.map upper).at? [name, key] = some value → P value := by
  have hlower : Entries.get? [(.text key, old)] key = some old := by simp [Entries.get?]
  rw [Document.at?]
  rcases section?_overlay_cases h hb with ⟨hu, hs'⟩ | ⟨above, hu, hs'⟩ | ⟨value, hu, hmap, hs'⟩
  all_goals
    rw [hs'] at hs
    rw [hu]
  · obtain rfl := Except.ok.inj hs
    refine iff_of_true (fun value hvalue => ?_) fun value hvalue => by cases hvalue
    obtain rfl := Option.some.inj (hlower.symm.trans hvalue)
    exact hP
  · obtain rfl := Except.ok.inj hs
    dsimp only
    rw [get?_overlay_of_not_isMap (h.of_get? hu) hlower hold, Document.at?_map_singleton]
    cases Entries.get? above key with
    | none =>
      refine iff_of_true (fun value hvalue => ?_) fun value hvalue => by cases hvalue
      exact Option.some.inj hvalue ▸ hP
    | some value => rfl
  · have hfields : fields = [] := by
      split at hs
      · cases hs
      · exact (Except.ok.inj hs).symm
    subst hfields
    refine iff_of_true (fun value hvalue => by cases hvalue) fun inner hinner => ?_
    obtain ⟨entries, -, hentries, -⟩ := Document.at?_cons_eq_some_iff.mp hinner
    exact absurd ⟨_, hentries⟩ hmap

theorem exists_flag_iff :
    (∃ b, flag name key fields = .ok b) ↔
      ∀ value, fields.get? key = some value → ∃ b, value = .bool b := by
  unfold flag
  split
  · simp_all
  · simp_all [Document.bool]
  · rename_i value hbool hvalue
    refine iff_of_false nofun fun h => ?_
    obtain ⟨b, rfl⟩ := h value hvalue
    exact hbool b rfl

theorem exists_count_iff {default : Int} (hd : 0 ≤ default) :
    (∃ n, count name key default fields = .ok n ∧ 0 ≤ n) ↔
      ∀ value, fields.get? key = some value → ∃ n, value = .int n ∧ 0 ≤ n := by
  unfold count
  split
  · simp_all
  · simp_all [Document.int]
  · rename_i value hint hvalue
    refine iff_of_false nofun fun h => ?_
    obtain ⟨n, rfl, -⟩ := h value hvalue
    exact hint n rfl

theorem exists_label_iff {default : String} :
    (∃ s, label fields key default = .ok s) ↔
      ∀ value, fields.get? key = some value → value.isWritable = true := by
  unfold label
  split
  · simp_all
  · rename_i value hvalue
    cases hw : value.isWritable <;> simp_all

/-! ## Lists -/

theorem exists_eq_map_iff {α β : Type} {f : β → α} {l : List α} :
    (∃ bs : List β, l = bs.map f) ↔ ∀ a ∈ l, ∃ b, a = f b := by
  simpa only [Set.mem_range, Set.mem_ofPred_eq, eq_comm] using Set.ext_iff.mp (Set.range_list_map f) l

theorem exists_mapM_eq_ok_iff {ε α β : Type} {f : α → Except ε β} {l : List α} :
    (∃ bs, l.mapM f = .ok bs) ↔ ∀ a ∈ l, ∃ b, f a = .ok b := by
  induction l with
  | nil => exact iff_of_true ⟨_, List.mapM_nil⟩ nofun
  | cons a l ih =>
    rw [List.forall_mem_cons, ← ih]
    simp only [List.mapM_cons, except_bind_eq_ok_iff]
    exact ⟨fun ⟨_, b, hb, bs, hbs, _⟩ => ⟨⟨b, hb⟩, bs, hbs⟩,
      fun ⟨⟨b, hb⟩, bs, hbs⟩ => ⟨_, b, hb, bs, hbs, rfl⟩⟩

theorem mem_keys_of_get? (h : fields.get? key = some value) : .text key ∈ fields.keys := by
  rw [Entries.get?_eq_lookup] at h
  exact List.mem_map_of_mem (f := Prod.fst) (Entries.mem_of_lookup h)

/-- What counts as given in an overlay is what does in the upper mapping, where the lower one has an
empty list. -/
theorem given?_overlay (h : (Document.map upper).WellKeyed) (hb : base.get? key = some (.list [])) :
    given? (Entries.overlay base upper) key = given? upper key := by
  unfold given?
  rw [get?_overlay_of_not_isMap h hb nofun]
  cases upper.get? key <;> rfl

theorem given?_eq_some_iff :
    given? fields key = some value ↔ fields.get? key = some value ∧ value.truthy = true :=
  Option.filter_eq_some_iff

theorem isOverride_map_iff :
    (Document.map fields).IsOverride ↔
      overrideShape? fields = none ∧ ∃ o, overrideOf fields = .ok o := by
  simp only [overrideShape?_eq_none_iff, overrideOf_eq_ok_iff]
  constructor
  · rintro ⟨⟨_, ⟨⟩, hkeys⟩, ⟨id, rule, hid, hrule⟩, s, hs, hupper⟩
    rw [Document.at?_map_singleton] at hid hs
    refine ⟨⟨hkeys, mem_keys_of_get? hid, mem_keys_of_get? hs⟩, ⟨id, s, _⟩, hid, hs, rfl, ⟨rule, hrule⟩, ?_⟩
    exact Severity.exists_ofText?_iff.mpr hupper
  · rintro ⟨⟨hkeys, -, -⟩, o, hid, hs, -, ⟨rule, hrule⟩, hassignable⟩
    refine ⟨⟨fields, rfl, hkeys⟩, ⟨o.ruleId, rule, ?_, hrule⟩, o.severity, ?_,
      Severity.exists_ofText?_iff.mp hassignable⟩
    · rw [Document.at?_map_singleton, hid]
    · rw [Document.at?_map_singleton, hs]

theorem exists_overrides_iff {m : Entries} :
    (∃ mappings, overrideEntries m = .ok mappings ∧ ∃ os, mappings.mapM overrideOf = .ok os) ↔
      ∀ value, given? m "severity_overrides" = some value →
        ∃ items, value = .list items ∧ ∀ item ∈ items, item.IsOverride := by
  simp only [overrideEntries_eq_ok_iff, exists_mapM_eq_ok_iff]
  cases given? m "severity_overrides" with
  | none => exact iff_of_true ⟨_, rfl, nofun⟩ nofun
  | some value =>
    simp only [Option.some.injEq, forall_eq']
    constructor
    · rintro ⟨mappings, ⟨rfl, hshape⟩, hos⟩
      refine ⟨_, rfl, List.forall_mem_map.mpr fun fields hf => ?_⟩
      exact isOverride_map_iff.mpr ⟨hshape fields hf, hos fields hf⟩
    · rintro ⟨items, rfl, hitems⟩
      obtain ⟨mappings, rfl⟩ := exists_eq_map_iff.mpr fun item hi =>
        (hitems item hi).keys.imp fun _ => And.left
      rw [List.forall_mem_map] at hitems
      exact ⟨mappings, ⟨rfl, fun fields hf => (isOverride_map_iff.mp (hitems fields hf)).1⟩,
        fun fields hf => (isOverride_map_iff.mp (hitems fields hf)).2⟩

theorem exists_disabledIds_iff {m : Entries} :
    (∃ ids, disabledIds m = .ok ids ∧
      ∀ id ∈ ids, ∃ rule, Rule.ofId? id = some rule ∧ rule.fatal = false) ↔
      ∀ value, given? m "disabled_rules" = some value →
        ∃ items, value = .list items ∧ ∀ item ∈ items, ∃ id rule, item = .text id ∧
          Rule.ofId? id = some rule ∧ rule.fatal = false := by
  simp only [disabledIds_eq_ok_iff]
  cases given? m "disabled_rules" with
  | none => exact iff_of_true ⟨_, rfl, nofun⟩ nofun
  | some value =>
    simp only [Option.some.injEq, forall_eq']
    constructor
    · rintro ⟨ids, rfl, hrules⟩
      refine ⟨_, rfl, List.forall_mem_map.mpr fun id hid => ⟨id, ?_⟩⟩
      obtain ⟨rule, hrule⟩ := hrules id hid
      exact ⟨rule, rfl, hrule⟩
    · rintro ⟨items, rfl, hitems⟩
      obtain ⟨ids, rfl⟩ := exists_eq_map_iff.mpr fun item hi =>
        (hitems item hi).imp fun id ⟨_, hid, _⟩ => hid
      refine ⟨ids, rfl, fun id hid => ?_⟩
      obtain ⟨_, rule, ⟨⟩, hrule⟩ := hitems _ (List.mem_map_of_mem hid)
      exact ⟨rule, hrule⟩

/-! ## Acceptance -/

/-- A field of a section of an overlay can be read if the section can be, and if what the upper
mapping has there is as it must be. -/
theorem exists_field_iff {P : Document → Prop} (h : (Document.map upper).WellKeyed)
    (hb : base.get? name = some (.map [(.text key, old)])) (hold : ¬ old.IsMap) (hP : P old) :
    (∃ fields, section? (Entries.overlay base upper) name = .ok fields ∧
      ∀ value, fields.get? key = some value → P value) ↔
      (∀ value, upper.get? name = some value → value.truthy = true → value.IsMap) ∧
        ∀ value, (Document.map upper).at? [name, key] = some value → P value := by
  rw [← section?_overlay_eq_ok_iff h hb]
  constructor
  · rintro ⟨fields, hs, hfield⟩
    exact ⟨⟨fields, hs⟩, (forall_field_iff h hb hold hP hs).mp hfield⟩
  · rintro ⟨⟨fields, hs⟩, hfield⟩
    exact ⟨fields, hs, (forall_field_iff h hb hold hP hs).mpr hfield⟩

/-- The text of a field of an overlay can be read if what the upper mapping has there can be
written. -/
theorem exists_label_overlay_iff {text : String} (default : String) (h : (Document.map upper).WellKeyed)
    (hb : base.get? key = some (.text text)) :
    (∃ s, label (Entries.overlay base upper) key default = .ok s) ↔
      ∀ value, upper.get? key = some value → value.isWritable = true := by
  rw [exists_label_iff, get?_overlay_of_not_isMap h hb nofun]
  cases upper.get? key with
  | none => exact iff_of_true (fun _ htext => Option.some.inj htext ▸ rfl) nofun
  | some value => rfl

/-- Overrides that were read are for known rules and assign severities that may be assigned. -/
theorem valid_of_mapM_overrideOf {mappings : List Entries} {os : List Override}
    (h : mappings.mapM overrideOf = .ok os) :
    ∀ o ∈ os, (∃ rule, Rule.ofId? o.ruleId = some rule) ∧
      ∃ severity, Severity.ofText? o.severity = some severity ∧ severity.IsAssignable := by
  rw [except_mapM_eq_ok_iff] at h
  induction h with
  | nil => exact nofun
  | cons hfields _ ih =>
    obtain ⟨-, -, -, hvalid⟩ := overrideOf_eq_ok_iff.mp hfields
    exact List.forall_mem_cons.mpr ⟨hvalid, ih⟩

/-- A mapping has a reading as a policy if all of its fields can be read and what is read is
valid. -/
theorem exists_isReading_iff {m : Entries} :
    (∃ p, IsReading m p) ↔
      (∃ fields, section? m "opcodes" = .ok fields ∧
        ∃ b, flag "opcodes" "corrected_ranges" fields = .ok b) ∧
      (∃ fields, section? m "nesting" = .ok fields ∧
        ∃ b, flag "nesting" "check_balance_at_end" fields = .ok b) ∧
      (∃ fields, section? m "structs" = .ok fields ∧
        ∃ n, count "structs" "max_padding" 5 fields = .ok n ∧ 0 ≤ n) ∧
      (∃ mappings, overrideEntries m = .ok mappings ∧ ∃ os, mappings.mapM overrideOf = .ok os) ∧
      (∃ ids, disabledIds m = .ok ids ∧
        ∀ id ∈ ids, ∃ rule, Rule.ofId? id = some rule ∧ rule.fatal = false) ∧
      (∃ s, label m "policy_name" "default" = .ok s) ∧
      (∃ s, label m "policy_version" "1.0" = .ok s) ∧
      ∃ s, label m "preset_base" "balanced" = .ok s := by
  constructor
  · rintro ⟨p, ⟨opcodes, ho, hc⟩, ⟨nesting, hn, hb⟩, ⟨structs, hs, hp⟩, ⟨mappings, hm, hos⟩,
      ⟨ids, hd, hids⟩, hname, hversion, hbase, hvalid⟩
    have hrules (id : String) (hid : id ∈ ids) :
        ∃ rule, Rule.ofId? id = some rule ∧ rule.fatal = false := by
      refine hvalid.disabled id ?_
      rw [hids, mem_disabled_iff]
      exact hid
    exact ⟨⟨_, ho, _, hc⟩, ⟨_, hn, _, hb⟩, ⟨_, hs, _, hp, hvalid.padding⟩, ⟨_, hm, _, hos⟩,
      ⟨_, hd, hrules⟩, ⟨_, hname⟩, ⟨_, hversion⟩, ⟨_, hbase⟩⟩
  · rintro ⟨⟨opcodes, ho, correctedRanges, hc⟩, ⟨nesting, hn, checkBalance, hb⟩,
      ⟨structs, hs, maxPadding, hp, hpadding⟩, ⟨mappings, hm, overrides, hos⟩, ⟨disabled, hd, hrules⟩,
      ⟨name, hname⟩, ⟨version, hversion⟩, ⟨presetBase, hbase⟩⟩
    exact ⟨{ name, version, presetBase, overrides
             disabled := disabled.eraseDups.mergeSort (· ≤ ·)
             options := { correctedRanges, checkBalance, maxPadding } },
      ⟨_, ho, hc⟩, ⟨_, hn, hb⟩, ⟨_, hs, hp⟩, ⟨_, hm, hos⟩, ⟨_, hd, rfl⟩, hname, hversion, hbase,
      ⟨fun id hid => hrules id (mem_disabled_iff.mp hid), valid_of_mapM_overrideOf hos, hpadding⟩⟩

/-- The shape of a mapping, section by section and list by list. -/
theorem isPolicy_map_iff :
    (Document.map upper).IsPolicy ↔
      ((∀ value, upper.get? "opcodes" = some value → value.truthy = true → value.IsMap) ∧
        ∀ value, (Document.map upper).at? ["opcodes", "corrected_ranges"] = some value →
          ∃ b, value = .bool b) ∧
      ((∀ value, upper.get? "nesting" = some value → value.truthy = true → value.IsMap) ∧
        ∀ value, (Document.map upper).at? ["nesting", "check_balance_at_end"] = some value →
          ∃ b, value = .bool b) ∧
      ((∀ value, upper.get? "structs" = some value → value.truthy = true → value.IsMap) ∧
        ∀ value, (Document.map upper).at? ["structs", "max_padding"] = some value →
          ∃ n, value = .int n ∧ 0 ≤ n) ∧
      (∀ value, given? upper "severity_overrides" = some value →
        ∃ items, value = .list items ∧ ∀ item ∈ items, item.IsOverride) ∧
      ∀ value, given? upper "disabled_rules" = some value →
        ∃ items, value = .list items ∧ ∀ item ∈ items, ∃ id rule, item = .text id ∧
          Rule.ofId? id = some rule ∧ rule.fatal = false := by
  simp only [given?_eq_some_iff, ← Document.at?_map_singleton]
  constructor
  · rintro ⟨-, hsections, hflags, hpadding, hoverrides, hdisabled⟩
    simp only [List.forall_mem_cons] at hsections hflags
    exact ⟨⟨hsections.1, hflags.1⟩, ⟨hsections.2.1, hflags.2.1⟩, ⟨hsections.2.2.1, hpadding⟩,
      fun value hvalue => hoverrides value hvalue.1 hvalue.2,
      fun value hvalue => hdisabled value hvalue.1 hvalue.2⟩
  · rintro ⟨⟨ho, hc⟩, ⟨hn, hb⟩, ⟨hs, hp⟩, hoverrides, hdisabled⟩
    refine ⟨fun _ => ⟨_, rfl⟩, ?_, ?_, hp, fun value hvalue htruthy => ?_,
      fun value hvalue htruthy => ?_⟩
    · simpa only [List.forall_mem_cons] using ⟨ho, hn, hs, nofun⟩
    · simpa only [List.forall_mem_cons] using ⟨hc, hb, nofun⟩
    · exact hoverrides value ⟨hvalue, htruthy⟩
    · exact hdisabled value ⟨hvalue, htruthy⟩

/-- The fields of a policy that are shown as texts, whatever they hold. -/
def labels : List String := ["policy_name", "policy_version", "preset_base"]

/-- A mapping laid over the built-in policy is a policy if it has the shape of one and its labels can
be written. -/
theorem ofOverlay_accepts_iff {order : SetOrder} (h : (Document.map upper).WellKeyed) :
    (∃ p, ofOverlay order upper = .ok p) ↔
      (Document.map upper).IsPolicy ∧
        ∀ name ∈ labels, ∀ value, upper.get? name = some value → value.isWritable = true := by
  -- what the readers find in the overlay is known from the upper mapping, field by field
  have hflag (name key : String) {old : Bool}
      (hb : ({} : Policy).entries.get? name = some (.map [(.text key, .bool old)])) :=
    exists_field_iff (P := fun value => ∃ b, value = .bool b) h hb nofun ⟨old, rfl⟩
  have hcount (name key : String) {old : Int} (hold : 0 ≤ old)
      (hb : ({} : Policy).entries.get? name = some (.map [(.text key, .int old)])) :=
    exists_field_iff (P := fun value => ∃ n, value = .int n ∧ 0 ≤ n) h hb nofun ⟨old, rfl, hold⟩
  have hlist (key : String) (hb : ({} : Policy).entries.get? key = some (.list [])) :=
    given?_overlay h hb
  have hlabel (key default : String) {text : String}
      (hb : ({} : Policy).entries.get? key = some (.text text)) :=
    exists_label_overlay_iff default h hb
  simp only [ofOverlay, ofEntries_eq_ok_iff, exists_isReading_iff, exists_flag_iff,
    exists_count_iff (by decide : (0 : Int) ≤ 5), exists_overrides_iff, exists_disabledIds_iff,
    hflag "opcodes" "corrected_ranges" rfl, hflag "nesting" "check_balance_at_end" rfl,
    hcount "structs" "max_padding" (by decide) rfl, hlist "severity_overrides" rfl,
    hlist "disabled_rules" rfl, hlabel "policy_name" "default" rfl, hlabel "policy_version" "1.0" rfl,
    hlabel "preset_base" "balanced" rfl, isPolicy_map_iff, labels, List.forall_mem_cons, and_assoc,
    List.not_mem_nil, false_implies, implies_true, and_true]

end Policy

end QbLint
