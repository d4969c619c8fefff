import Mathlib.Data.List.Forall2
import QbLint.Proofs.Overlay
import QbLint.Proofs.Policy

/-!
# Reading the mapping of a policy

A policy is read from a mapping section by section and field by field. Here it is said of each
reader when it succeeds and with what, so that what was read is known from the mapping and from the
policy alone.

* `Override.of?_eq_ok_iff`, `Policy.overrideShape?_eq_none_iff`: which mappings are overrides;
* `Policy.IsReading`: the fields of a policy are those of a mapping; `Policy.ofEntries_eq_ok_iff`:
  a policy is read from a mapping exactly if it is a valid reading of it.
-/

namespace QbLint

/-! ## Overrides -/

/-- An override is read from the id of a known rule and the name of a severity that may be
assigned. -/
theorem Override.of?_eq_ok_iff {ruleId severity reason : Document} {o : Override} :
    Override.of? ruleId severity reason = .ok o ↔
      ruleId = .text o.ruleId ∧ severity = .text o.severity ∧ reason = o.reason ∧
        (∃ rule, Rule.ofId? o.ruleId = some rule) ∧
        ∃ s, Severity.ofText? o.severity = some s ∧ s.IsAssignable := by
  constructor
  · intro h
    unfold Override.of? at h
    split at h
    · split at h
      · cases h
      · rename_i id hknown
        split at h
        · split at h
          case h_4 s hfatal hclean hs =>
            cases h
            have hrule := Option.ne_none_iff_exists'.mp fun h => hknown (Option.isNone_iff_eq_none.mpr h)
            exact ⟨rfl, rfl, rfl, hrule, s, hs, hfatal, hclean⟩
          all_goals cases h
        · cases h
    · cases h
  · rintro ⟨rfl, rfl, rfl, ⟨rule, hr⟩, s, hs, hfatal, hclean⟩
    unfold Override.of? Document.text
    dsimp only
    rw [hr, hs]
    cases s <;> first | rfl | contradiction

namespace Policy

variable {m fields : Entries} {p : Policy} {o : Override}

/-- Keys are those of overrides if they are texts and each text is. -/
theorem forall_mem_overrideKeys_iff {keys : List Scalar} :
    (∀ key ∈ keys, key ∈ [.text "rule_id", .text "severity", .text "reason"]) ↔
      (∀ key ∈ keys, ∃ s, key = .text s) ∧ ∀ s, .text s ∈ keys → s ∈ overrideKeys := by
  have hkey : ∀ key : Scalar, key ∈ [.text "rule_id", .text "severity", .text "reason"] ↔
      ∃ s, key = .text s ∧ s ∈ overrideKeys := by
    rintro (_ | _ | _ | _ | _) <;> simp [overrideKeys]
  simp only [hkey]
  constructor
  · intro h
    refine ⟨fun key hk => (h key hk).imp fun _ => And.left, fun s hs => ?_⟩
    obtain ⟨_, heq, hknown⟩ := h _ hs
    exact Scalar.text.inj heq ▸ hknown
  · rintro ⟨htexts, hknown⟩ key hk
    obtain ⟨s, rfl⟩ := htexts key hk
    exact ⟨s, rfl, hknown s hk⟩

/-- A mapping has the keys of an override if it has no others and those two that must be there. -/
theorem overrideShape?_eq_none_iff :
    overrideShape? fields = none ↔
      (∀ key ∈ fields.keys, key ∈ [.text "rule_id", .text "severity", .text "reason"]) ∧
        .text "rule_id" ∈ fields.keys ∧ .text "severity" ∈ fields.keys := by
  unfold overrideShape?
  extract_lets texts
  have hmem : ∀ s, s ∈ texts ↔ .text s ∈ fields.keys := by
    intro s
    rw [List.mem_filterMap, Entries.keys, List.mem_map]
    refine exists_congr fun entry => and_congr_right fun _ => ?_
    obtain ⟨key, value⟩ := entry
    cases key <;> simp
  have htexts : ¬ texts.length < fields.length ↔ ∀ key ∈ fields.keys, ∃ s, key = .text s := by
    rw [Nat.lt_iff_le_and_ne, and_iff_right (List.length_filterMap_le ..), not_ne_iff,
      List.filterMap_length_eq_length, Entries.keys, List.forall_mem_map]
    refine forall₂_congr fun entry _ => ?_
    obtain ⟨key, value⟩ := entry
    cases key <;> simp
  have hunknown : texts.find? (fun key => !overrideKeys.contains key) = none ↔
      ∀ s, .text s ∈ fields.keys → s ∈ overrideKeys := by
    rw [List.find?_eq_none]
    simp only [hmem, Bool.not_eq_true', Bool.not_eq_false, List.contains_iff_mem]
  have hmissing : (["rule_id", "severity"].filter fun key => !texts.contains key) = [] ↔
      .text "rule_id" ∈ fields.keys ∧ .text "severity" ∈ fields.keys := by
    rw [List.filter_eq_nil_iff]
    simp [hmem]
  rw [forall_mem_overrideKeys_iff, ← htexts, ← hunknown, ← hmissing]
  clear_value texts
  split
  · rename_i hlt
    exact iff_of_false (Option.some_ne_none _) fun h => h.1.1 hlt
  · rename_i hlt
    split
    · rename_i key hfind
      exact iff_of_false (Option.some_ne_none _) fun h =>
        Option.some_ne_none key (hfind.symm.trans h.1.2)
    · rename_i hfind
      split
      · rename_i hfilter
        exact iff_of_true rfl ⟨⟨hlt, hfind⟩, hfilter⟩
      · rename_i hfilter
        exact iff_of_false (Option.some_ne_none _) fun h => hfilter h.2

theorem overrideOf_eq_ok_iff :
    overrideOf fields = .ok o ↔
      fields.get? "rule_id" = some (.text o.ruleId) ∧
        fields.get? "severity" = some (.text o.severity) ∧
        (fields.get? "reason").getD (.text "") = o.reason ∧
        (∃ rule, Rule.ofId? o.ruleId = some rule) ∧
        ∃ s, Severity.ofText? o.severity = some s ∧ s.IsAssignable := by
  have htext : ∀ (found : Option Document) (s : String),
      found.getD .null = .text s ↔ found = some (.text s) := by
    intro found s
    cases found with
    | none => exact iff_of_false nofun nofun
    | some value => exact (Option.some.injEq ..).symm.to_iff
  rw [overrideOf, Override.of?_eq_ok_iff, htext, htext]

/-! ## Lists -/

/-- If `f` undoes exactly `g`, then a list is mapped to those items of which `g` makes it. -/
theorem mapM_eq_some_iff_eq_map {α β : Type} {f : α → Option β} {g : β → α}
    (h : ∀ a b, f a = some b ↔ a = g b) {l : List α} {bs : List β} :
    l.mapM f = some bs ↔ l = bs.map g := by
  induction l generalizing bs with
  | nil =>
    rw [List.mapM_nil, eq_comm (a := ([] : List α)), List.map_eq_nil_iff]
    exact (Option.some.injEq ..).to_iff.trans eq_comm
  | cons a l ih =>
    simp only [List.mapM_cons, Option.bind_eq_bind, Option.bind_eq_some_iff, h, ih]
    constructor
    · rintro ⟨b, rfl, bs', rfl, hbs⟩
      obtain rfl := Option.some.inj hbs
      rfl
    · intro hl
      obtain ⟨b, bs', rfl, rfl, rfl⟩ := List.map_eq_cons_iff.mp hl.symm
      exact ⟨b, rfl, bs', rfl, rfl⟩

theorem mappings?_eq_some_iff {items : List Document} {mappings : List Entries} :
    mappings? items = some mappings ↔ items = mappings.map .map := by
  refine mapM_eq_some_iff_eq_map fun item fields => ?_
  cases item <;> simp

theorem texts?_eq_some_iff {items : List Document} {ids : List String} :
    texts? items = some ids ↔ items = ids.map .text := by
  refine mapM_eq_some_iff_eq_map fun item id => ?_
  unfold Document.text
  split <;> simp_all

/-- Overrides that are given stand in a list of mappings with the keys of overrides. -/
theorem overrideEntries_eq_ok_iff {mappings : List Entries} :
    overrideEntries m = .ok mappings ↔
      match given? m "severity_overrides" with
      | none => mappings = []
      | some value => value = .list (mappings.map .map) ∧
          ∀ fields ∈ mappings, overrideShape? fields = none := by
  unfold overrideEntries
  cases given? m "severity_overrides" with
  | none => exact (Except.ok.injEq ..).to_iff.trans eq_comm
  | some value =>
    cases value with
    | scalar | map => exact iff_of_false nofun nofun
    | list items =>
      simp only [Document.list.injEq, ← mappings?_eq_some_iff]
      cases hm : mappings? items with
      | none => exact iff_of_false nofun nofun
      | some found =>
        simp only [Option.some.injEq]
        cases hs : found.findSome? overrideShape? with
        | none =>
          rw [List.findSome?_eq_none_iff] at hs
          refine (Except.ok.injEq ..).to_iff.trans ⟨fun h => ⟨h, h ▸ hs⟩, And.left⟩
        | some shape =>
          refine iff_of_false nofun fun ⟨heq, hnone⟩ => ?_
          cases hs.symm.trans (List.findSome?_eq_none_iff.mpr (heq ▸ hnone))

/-- Disabled rules that are given stand in a list of texts. -/
theorem disabledIds_eq_ok_iff {ids : List String} :
    disabledIds m = .ok ids ↔
      match given? m "disabled_rules" with
      | none => ids = []
      | some value => value = .list (ids.map .text) := by
  unfold disabledIds
  cases given? m "disabled_rules" with
  | none => exact (Except.ok.injEq ..).to_iff.trans eq_comm
  | some value =>
    cases value with
    | scalar | map => exact iff_of_false nofun nofun
    | list items =>
      simp only [Document.list.injEq, ← texts?_eq_some_iff]
      cases texts? items with
      | none => exact iff_of_false nofun nofun
      | some listed => simp

/-! ## Policies -/

/-- The fields of a policy are what the readers find in a mapping, and the policy is valid. -/
structure IsReading (m : Entries) (p : Policy) : Prop where
  opcodes : ∃ fields, section? m "opcodes" = .ok fields ∧
    flag "opcodes" "corrected_ranges" fields = .ok p.options.correctedRanges
  nesting : ∃ fields, section? m "nesting" = .ok fields ∧
    flag "nesting" "check_balance_at_end" fields = .ok p.options.checkBalance
  structs : ∃ fields, section? m "structs" = .ok fields ∧
    count "structs" "max_padding" 5 fields = .ok p.options.maxPadding
  overrides : ∃ mappings, overrideEntries m = .ok mappings ∧
    mappings.mapM overrideOf = .ok p.overrides
  disabled : ∃ ids, disabledIds m = .ok ids ∧ p.disabled = ids.eraseDups.mergeSort (· ≤ ·)
  name : label m "policy_name" "default" = .ok p.name
  version : label m "policy_version" "1.0" = .ok p.version
  presetBase : label m "preset_base" "balanced" = .ok p.presetBase
  valid : p.Valid

/-- A policy disables the rules that are listed, in a list without duplicates. -/
theorem mem_disabled_iff {ids : List String} {id : String} :
    id ∈ ids.eraseDups.mergeSort (· ≤ ·) ↔ id ∈ ids :=
  List.mem_mergeSort.trans List.mem_eraseDups

/-- Whatever the order in which the disabled rules are gone through, the mapping holds the same
policy. -/
theorem ofEntries_eq_ok_iff {order : SetOrder} : ofEntries order m = .ok p ↔ IsReading m p := by
  simp only [ofEntries, except_bind_eq_ok_iff]
  constructor
  · rintro ⟨opcodes, ho, nesting, hn, structs, hs, mappings, hm, disabled, hd, name, hname,
      version, hversion, presetBase, hbase, correctedRanges, hc, checkBalance, hb, maxPadding, hp,
      _, -, overrides, hoverrides, _, hcheck, h⟩
    obtain rfl := Except.ok.inj h
    exact ⟨⟨_, ho, hc⟩, ⟨_, hn, hb⟩, ⟨_, hs, hp⟩, ⟨_, hm, hoverrides⟩, ⟨_, hd, rfl⟩, hname, hversion,
      hbase, check_eq_ok_iff.mp hcheck⟩
  · rintro ⟨⟨opcodes, ho, hc⟩, ⟨nesting, hn, hb⟩, ⟨structs, hs, hp⟩, ⟨mappings, hm, hoverrides⟩,
      ⟨disabled, hd, hids⟩, hname, hversion, hbase, hvalid⟩
    have hknown (id : String) (hid : id ∈ order.arrange disabled) : checkDisabled id = .ok () := by
      refine checkDisabled_eq_ok_iff.mpr (hvalid.disabled id ?_)
      rw [hids, mem_disabled_iff]
      exact (order.mem_arrange).mp hid
    have hsame : p = { p with disabled := disabled.eraseDups.mergeSort (· ≤ ·) } := by rw [← hids]
    refine ⟨_, ho, _, hn, _, hs, _, hm, _, hd, _, hname, _, hversion, _, hbase, _, hc, _, hb, _, hp,
      (), except_forM_eq_ok_iff.mpr hknown, _, hoverrides, (), ?_, congrArg _ hsame.symm⟩
    exact check_eq_ok_iff.mpr (hsame ▸ hvalid)

end Policy

end QbLint
