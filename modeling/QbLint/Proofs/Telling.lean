import QbLint.Proofs.Shape

/-!
# Faults that cannot be told

The message about a value at fault shows the value, and a whole number with too many digits cannot be
shown. So there is one way to fail that says nothing about the shape of a document.

* `Policy.Tellable`: readings that do not fail in this way; `Policy.tellable_ofOverlay`: the reading of
  a mapping whose values can all be written is one of them;
* `Policy.ofDocument_accepts_iff`: which documents are policies, and which are refused in this way.
-/

namespace QbLint

theorem itemsWritable_iff {items : List Document} :
    itemsWritable items = true ↔ ∀ item ∈ items, item.isWritable = true := by
  induction items with
  | nil => exact iff_of_true rfl nofun
  | cons item items ih => rw [itemsWritable, Bool.and_eq_true, ih, List.forall_mem_cons]

theorem entriesWritable_iff {entries : Entries} :
    entriesWritable entries = true ↔
      ∀ entry ∈ entries, entry.1.isWritable = true ∧ entry.2.isWritable = true := by
  induction entries with
  | nil => exact iff_of_true rfl nofun
  | cons entry entries ih =>
    rw [entriesWritable, Bool.and_eq_true, Bool.and_eq_true, ih, List.forall_mem_cons]

theorem Document.isWritable_int_iff {n : Int} :
    (int n).isWritable = true ↔ n.natAbs < Binary64.tenTo Text.maxDigits := by
  simp only [int, isWritable, Scalar.isWritable, Text.isWritable, Binary64.tenTo, decide_eq_true_eq]

theorem Binary64.ten_le_tenTo {k : Nat} (h : k ≠ 0) : 10 ≤ tenTo k := Nat.le_self_pow h 10

/-- A number of one digit can be written. -/
theorem Document.isWritable_int {n : Int} (h : n.natAbs < 10) : (int n).isWritable = true :=
  isWritable_int_iff.mpr (Nat.lt_of_lt_of_le h (Binary64.ten_le_tenTo (by decide)))

/-- The least number that cannot be written. -/
theorem Document.isWritable_limit :
    (int (Binary64.tenTo Text.maxDigits)).isWritable = false := by
  rw [Bool.eq_false_iff, ne_eq, isWritable_int_iff, Int.natAbs_natCast]
  exact Nat.lt_irrefl _

/-- What stands in a document that can be written can be written. -/
theorem Document.isWritable_at? {d value : Document} {path : List String} (hd : d.isWritable = true)
    (h : d.at? path = some value) : value.isWritable = true := by
  induction path generalizing d with
  | nil => exact Option.some.inj h ▸ hd
  | cons key path ih =>
    obtain ⟨entries, inner, rfl, hinner, h⟩ := at?_cons_eq_some_iff.mp h
    rw [Entries.get?_eq_lookup] at hinner
    exact ih (entriesWritable_iff.mp hd _ (Entries.mem_of_lookup hinner)).2 h

namespace Policy

/-- A reading does not fail for a value that cannot be written. -/
def Tellable {α : Type} (x : Except PolicyError α) : Prop := x ≠ .error .unwritable

variable {α β : Type} {base upper fields m : Entries} {name key : String} {value : Document}

theorem Tellable.bind {x : Except PolicyError α} {f : α → Except PolicyError β} (hx : Tellable x)
    (hf : ∀ a, x = .ok a → Tellable (f a)) : Tellable (x >>= f) := by
  intro h
  rcases except_bind_eq_error_iff.mp h with h | ⟨a, ha, h⟩
  · exact hx h
  · exact hf a ha h

theorem Tellable.forM {f : α → Except PolicyError Unit} {l : List α} (h : ∀ a ∈ l, Tellable (f a)) :
    Tellable (l.forM f) := by
  induction l with
  | nil => exact nofun
  | cons a l ih =>
    rw [List.forall_mem_cons] at h
    exact .bind h.1 fun _ _ => ih h.2

theorem Tellable.mapM {f : α → Except PolicyError β} {l : List α} (h : ∀ a ∈ l, Tellable (f a)) :
    Tellable (l.mapM f) := by
  induction l with
  | nil => exact nofun
  | cons a l ih =>
    rw [List.forall_mem_cons] at h
    rw [List.mapM_cons]
    exact .bind h.1 fun _ _ => .bind (ih h.2) fun _ _ => nofun

theorem tellable_telling {fault : PolicyError} (hv : value.isWritable = true) (hf : fault ≠ .unwritable) :
    Tellable (.error (.telling value fault) : Except PolicyError α) := by
  rw [PolicyError.telling, if_pos hv]
  exact fun h => hf (Except.error.inj h)

/-! ## Readers -/

theorem tellable_section? : Tellable (section? m name) := by
  unfold section?
  split <;> exact nofun

theorem tellable_flag (h : ∀ value, fields.get? key = some value → value.isWritable = true) :
    Tellable (flag name key fields) := by
  unfold flag
  split
  · exact nofun
  · exact nofun
  · exact tellable_telling (h _ ‹_›) nofun

theorem tellable_count {default : Int}
    (h : ∀ value, fields.get? key = some value → value.isWritable = true) :
    Tellable (count name key default fields) := by
  unfold count
  split
  · exact nofun
  · exact nofun
  · exact tellable_telling (h _ ‹_›) nofun

theorem tellable_label {default : String}
    (h : ∀ value, fields.get? key = some value → value.isWritable = true) :
    Tellable (label fields key default) := by
  unfold label
  split
  · exact nofun
  · rw [if_pos (h _ ‹_›)]
    exact nofun

theorem tellable_overrideEntries : Tellable (overrideEntries m) := by
  unfold overrideEntries
  split
  · exact nofun
  · split
    · exact nofun
    · split <;> exact nofun
  · exact nofun

theorem tellable_disabledIds : Tellable (disabledIds m) := by
  unfold disabledIds
  split
  · exact nofun
  · split <;> exact nofun
  · exact nofun

theorem tellable_checkDisabled (id : String) : Tellable (checkDisabled id) := by
  unfold checkDisabled
  split
  · exact nofun
  · split <;> exact nofun

theorem tellable_override {ruleId severity reason : Document} (hr : ruleId.isWritable = true)
    (hs : severity.isWritable = true) : Tellable (Override.of? ruleId severity reason) := by
  unfold Override.of?
  split
  · split
    · exact nofun
    · split
      · split <;> exact nofun
      · exact tellable_telling hs nofun
  · exact tellable_telling hr nofun

theorem tellable_overrideOf (h : (Document.map fields).isWritable = true) :
    Tellable (overrideOf fields) := by
  have hfield (key : String) : ((fields.get? key).getD .null).isWritable = true := by
    cases hg : fields.get? key with
    | none => rfl
    | some value =>
      exact Document.isWritable_at? h ((Document.at?_map_singleton fields key).trans hg)
  exact tellable_override (hfield _) (hfield _)

theorem tellable_check (p : Policy) (order : SetOrder) : Tellable (p.check order) := by
  refine .bind (.forM fun id _ => tellable_checkDisabled id) fun _ _ => ?_
  refine .bind (.forM fun o _ => .bind (tellable_override rfl rfl) fun _ _ => nofun) fun _ _ => ?_
  split <;> exact nofun

/-- The overrides that are given can be written if the value that they stand in can be. -/
theorem isWritable_of_overrideEntries {mappings : List Entries}
    (hw : ∀ value, given? m "severity_overrides" = some value → value.isWritable = true)
    (hm : overrideEntries m = .ok mappings) :
    ∀ fields ∈ mappings, (Document.map fields).isWritable = true := by
  rw [overrideEntries_eq_ok_iff] at hm
  split at hm
  · subst hm
    exact nofun
  · rename_i value hgiven
    obtain ⟨rfl, -⟩ := hm
    exact List.forall_mem_map.mp (itemsWritable_iff.mp (hw _ hgiven))

/-- A mapping whose values can all be written is not refused because one of them cannot be. -/
theorem tellable_ofOverlay {order : SetOrder} (h : (Document.map upper).WellKeyed)
    (hw : (Document.map upper).isWritable = true) : Tellable (ofOverlay order upper) := by
  -- What stands in the overlay is a value of the upper mapping or one of the built-in policy.
  have hfield (name key : String) (old : Document) {fields : Entries}
      (hb : ({} : Policy).entries.get? name = some (.map [(.text key, old)])) (hold : ¬ old.IsMap)
      (how : old.isWritable = true)
      (hs : section? (Entries.overlay ({} : Policy).entries upper) name = .ok fields) :
      ∀ value, fields.get? key = some value → value.isWritable = true :=
    (forall_field_iff (P := fun value => value.isWritable = true) h hb hold how hs).mpr fun _ hvalue =>
      Document.isWritable_at? hw hvalue
  have hupper (key : String) : ∀ value, upper.get? key = some value → value.isWritable = true :=
    fun _ hvalue => Document.isWritable_at? hw ((Document.at?_map_singleton upper key).trans hvalue)
  have hlabel (key default : String) {text : String}
      (hb : ({} : Policy).entries.get? key = some (.text text)) :
      Tellable (label (Entries.overlay ({} : Policy).entries upper) key default) :=
    tellable_label (exists_label_iff.mp ((exists_label_overlay_iff default h hb).mpr (hupper key)))
  have hoverrides {mappings : List Entries}
      (hm : overrideEntries (Entries.overlay ({} : Policy).entries upper) = .ok mappings) :
      ∀ fields ∈ mappings, (Document.map fields).isWritable = true := by
    refine isWritable_of_overrideEntries (fun value hvalue => ?_) hm
    rw [given?_overlay h rfl] at hvalue
    exact hupper _ value (given?_eq_some_iff.mp hvalue).1
  refine .bind tellable_section? fun opcodes ho => .bind tellable_section? fun nesting hn =>
    .bind tellable_section? fun structs hs => .bind tellable_overrideEntries fun mappings hm =>
    .bind tellable_disabledIds fun disabled _ => .bind (hlabel _ _ rfl) fun _ _ =>
    .bind (hlabel _ _ rfl) fun _ _ => .bind (hlabel _ _ rfl) fun _ _ => ?_
  refine .bind (tellable_flag (hfield _ _ (.bool false) rfl nofun rfl ho)) fun _ _ =>
    .bind (tellable_flag (hfield _ _ (.bool false) rfl nofun rfl hn)) fun _ _ =>
    .bind (tellable_count (hfield _ _ (.int 5) rfl nofun (Document.isWritable_int (by decide)) hs)) fun _ _ =>
    .bind (.forM fun id _ => tellable_checkDisabled id) fun _ _ =>
    .bind (.mapM fun fields hf => tellable_overrideOf (hoverrides hm fields hf)) fun _ _ =>
    .bind (tellable_check _ _) fun _ _ => nofun

/-! ## Documents -/

/-- Laying nothing over the built-in policy leaves it as it is. -/
theorem ofOverlay_nil (order : SetOrder) : ofOverlay order [] = .ok {} :=
  ofEntries_eq_ok_iff.mpr ⟨⟨_, rfl, rfl⟩, ⟨_, rfl, rfl⟩, ⟨_, rfl, rfl⟩, ⟨_, rfl, rfl⟩,
    ⟨[], rfl, List.mergeSort_nil.symm⟩, rfl, rfl, rfl, ⟨nofun, nofun, by decide⟩⟩

/-- A document is a policy exactly if it has the shape of one and its labels can be written. Any other
one is refused with what is wrong with it, except that the message cannot be made if it would show a
whole number with too many digits. -/
theorem ofDocument_accepts_iff (order : SetOrder) (path : String) (d : Document) (h : d.WellKeyed) :
    ((∃ p, ofDocument order path d = .ok p) ↔
      d.IsPolicy ∧ ∀ name ∈ labels, ∀ value, d.at? [name] = some value → value.isWritable = true) ∧
    (ofDocument order path d = .error .unwritable → d.isWritable = false) := by
  by_cases hmap : d.IsMap
  · obtain ⟨upper, rfl⟩ := hmap
    simp only [Document.at?_map_singleton]
    refine ⟨ofOverlay_accepts_iff h, fun hfail => Bool.eq_false_iff.mpr fun hw => ?_⟩
    exact tellable_ofOverlay h hw hfail
  · -- anything but a mapping is a policy, the built-in one, only if it counts as nothing
    have hat (key : String) (path : List String) : d.at? (key :: path) = none :=
      Option.eq_none_iff_forall_ne_some.mpr fun value hvalue => by
        obtain ⟨entries, -, rfl, -⟩ := Document.at?_cons_eq_some_iff.mp hvalue
        exact hmap ⟨_, rfl⟩
    have hdoc : ofDocument order path d =
        if d.truthy then .error (.notMapping path) else ofOverlay order [] := by
      cases d with
      | scalar | list => rfl
      | map entries => exact absurd ⟨_, rfl⟩ hmap
    rw [hdoc]
    cases ht : d.truthy with
    | true =>
      exact ⟨iff_of_false nofun fun hpolicy => hmap (hpolicy.1.mapping ht), nofun⟩
    | false =>
      rw [if_neg nofun, ofOverlay_nil]
      refine ⟨iff_of_true ⟨{}, rfl⟩ ⟨⟨?_, ?_, ?_, ?_, ?_, ?_⟩, ?_⟩, nofun⟩
      · exact fun htrue => nomatch ht.symm.trans htrue
      all_goals simp [hat]

/-- A policy that sets the limit for padding. -/
theorem ofDocument_accepts_iff_padding :
    let d : Document := .record [("structs", .record [("max_padding", .int 9)])]
    d.WellKeyed ∧ d.IsPolicy ∧ ∃ p, ofDocument .listed "policy.yaml" d = .ok p := by
  intro d
  have h : d.WellKeyed := .map (by decide) (List.forall_mem_singleton.mpr
    (.map (by decide) (List.forall_mem_singleton.mpr (.scalar _))))
  have hpolicy : ∃ p, ofDocument .listed "policy.yaml" d = .ok p :=
    ⟨{ options := { maxPadding := 9 } }, ofEntries_eq_ok_iff.mpr ⟨⟨_, rfl, rfl⟩, ⟨_, rfl, rfl⟩,
      ⟨_, rfl, rfl⟩, ⟨_, rfl, rfl⟩, ⟨[], rfl, List.mergeSort_nil.symm⟩, rfl, rfl, rfl,
      ⟨nofun, nofun, by decide⟩⟩⟩
  exact ⟨h, ((ofDocument_accepts_iff .listed "policy.yaml" d h).1.mp hpolicy).1, hpolicy⟩

theorem label_unwritable {default : String} (hv : fields.get? key = some value)
    (hw : value.isWritable = false) : label fields key default = .error .unwritable := by
  unfold label
  rw [hv]
  simp only [hw, Bool.false_eq_true, if_false]

theorem flag_unwritable {n : Int} (hv : fields.get? key = some (.int n))
    (hw : (Document.int n).isWritable = false) : flag name key fields = .error .unwritable := by
  unfold flag PolicyError.telling
  rw [hv]
  simp only [Document.int] at hw ⊢
  simp only [hw, Bool.false_eq_true, if_false]

/-- A number of 4301 digits is told in no message, so that it is not what a policy is refused for. -/
theorem ofDocument_unwritable :
    let huge : Document := .int (Binary64.tenTo Text.maxDigits)
    (Document.record [("policy_name", huge)]).IsPolicy ∧ ∀ order : SetOrder,
      ofDocument order "policy.yaml" (.record [("policy_name", huge)]) = .error .unwritable ∧
      ofDocument order "policy.yaml" (.record [("opcodes", .record [("corrected_ranges", huge)])]) =
        .error .unwritable := by
  intro huge
  have hw : huge.isWritable = false := Document.isWritable_limit
  have hint : ∃ n, huge = .int n := ⟨_, rfl⟩
  clear_value huge
  obtain ⟨n, rfl⟩ := hint
  refine ⟨⟨fun _ => ⟨_, rfl⟩, ?_, ?_, nofun, nofun, nofun⟩, fun order => ⟨?_, ?_⟩⟩
  · simp only [List.forall_mem_cons]
    exact ⟨nofun, nofun, nofun, nofun⟩
  · simp only [List.forall_mem_cons]
    exact ⟨nofun, nofun, nofun⟩
  · -- the sections and the lists are left out, so the name is the first thing to fail
    iterate 5 refine except_bind_eq_error_iff.mpr (.inr ⟨_, rfl, ?_⟩)
    exact except_bind_eq_error_iff.mpr (.inl (label_unwritable rfl hw))
  · iterate 8 refine except_bind_eq_error_iff.mpr (.inr ⟨_, rfl, ?_⟩)
    exact except_bind_eq_error_iff.mpr (.inl (flag_unwritable rfl hw))

end Policy

end QbLint
