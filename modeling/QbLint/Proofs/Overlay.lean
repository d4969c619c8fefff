import Mathlib.Data.List.Nodup
import QbLint.Document.Merge

/-!
# Laws of overlays

What a mapping laid over another one holds, key by key and at every path of keys, and in which
order. The upper mapping and the mappings in it must have each of their keys once; of the lower one
nothing is asked.

* `Entries.keys_overlay`, `Entries.lookup_overlay`: the keys of an overlay, and what it holds under
  each of them;
* `Document.at?`: what a document holds at a path; `Document.at?_overlay_of_both` and the two lemmas
  behind it: what an overlay holds there, by which of the two documents holds something;
* `Document.WellKeyed.overlay_self`, `Document.WellKeyed.overlay_overlay`: laying a document over
  itself, or twice over another one, changes nothing;
* `Entries.overlay_laws`: all of these for two mappings.
-/

namespace QbLint

/-- Where no key stands twice, what is found under a key is what stands beside it. -/
theorem lookup_eq_some_iff_mem {α β : Type} [BEq α] [LawfulBEq α] {entries : List (α × β)}
    {key : α} {value : β} (hd : (entries.map Prod.fst).Nodup) :
    entries.lookup key = some value ↔ (key, value) ∈ entries := by
  rw [List.lookup_eq_some_iff]
  constructor
  · rintro ⟨before, behind, rfl, -⟩
    exact List.mem_append_right _ List.mem_cons_self
  · intro hmem
    obtain ⟨before, behind, rfl⟩ := List.append_of_mem hmem
    refine ⟨before, behind, rfl, fun entry hentry => ?_⟩
    rw [List.map_append, List.nodup_append] at hd
    have hne : entry.1 ≠ key := hd.2.2 _ (List.mem_map_of_mem hentry) _ List.mem_cons_self
    exact bne_iff_ne.mpr hne.symm

/-- The keys of a mapping, in their order. -/
def Entries.keys (entries : Entries) : List Scalar := entries.map (·.1)

/-- A document in which every mapping has each of its keys once, those in lists left aside. -/
inductive Document.WellKeyed : Document → Prop
  | scalar (s : Scalar) : WellKeyed (.scalar s)
  | list (items : List Document) : WellKeyed (.list items)
  | map {entries : Entries} (nodup : entries.keys.Nodup)
    (values : ∀ entry ∈ entries, WellKeyed entry.2) : WellKeyed (.map entries)

/-! ## One mapping over another -/

namespace Entries

variable {lower upper : Entries} {key other : Scalar} {value old : Document}
  {combine : Document → Document}

theorem keys_cons (entry : Scalar × Document) (entries : Entries) :
    keys (entry :: entries) = entry.1 :: entries.keys := rfl

theorem get?_eq_lookup (entries : Entries) (key : String) :
    entries.get? key = entries.lookup (.text key) := by
  induction entries with
  | nil => rfl
  | cons entry entries ih =>
    obtain ⟨k, v⟩ := entry
    rw [get?, List.find?_cons, List.lookup_cons]
    by_cases h : k = .text key
    · subst h
      simp
    · have h' : ¬ Scalar.text key = k := fun h' => h h'.symm
      simp only [beq_eq_false_iff_ne.mpr h, beq_eq_false_iff_ne.mpr h']
      exact ih

theorem lookup_eq_none_iff_not_mem {entries : Entries} :
    entries.lookup key = none ↔ key ∉ entries.keys := by
  rw [List.lookup_eq_none_iff, keys, List.mem_map]
  grind

theorem lookup_of_mem {entries : Entries} (hd : entries.keys.Nodup) (h : (key, value) ∈ entries) :
    entries.lookup key = some value :=
  (lookup_eq_some_iff_mem hd).mpr h

theorem mem_of_lookup {entries : Entries} (h : entries.lookup key = some value) :
    (key, value) ∈ entries := by
  obtain ⟨before, behind, rfl, -⟩ := List.lookup_eq_some_iff.mp h
  exact List.mem_append_right _ List.mem_cons_self

theorem lookup_update (lower : Entries) :
    (update lower key combine value).lookup other =
      if other = key then some ((lower.lookup key).elim value combine) else lower.lookup other := by
  induction lower with
  | nil =>
    by_cases h : other = key
    · simp [update, h]
    · simp [update, List.lookup_cons, h, beq_eq_false_iff_ne.mpr h]
  | cons entry lower ih =>
    obtain ⟨k, v⟩ := entry
    rw [update]
    by_cases hk : k = key
    · subst hk
      by_cases h : other = k
      · simp [h]
      · simp [List.lookup_cons, h, beq_eq_false_iff_ne.mpr h]
    · have hk' : (key == k) = false := beq_eq_false_iff_ne.mpr fun h => hk h.symm
      rw [if_neg hk, List.lookup_cons, ih, List.lookup_cons, List.lookup_cons, hk']
      by_cases h : other = k
      · subst h
        simp [hk]
      · simp [beq_eq_false_iff_ne.mpr h]

theorem update_of_not_mem (h : key ∉ lower.keys) :
    update lower key combine value = lower ++ [(key, value)] := by
  induction lower with
  | nil => rfl
  | cons entry lower ih =>
    rw [keys_cons, List.mem_cons, not_or] at h
    rw [update, if_neg fun heq => h.1 heq.symm, ih h.2, List.cons_append]

theorem keys_update_of_mem (h : key ∈ lower.keys) :
    (update lower key combine value).keys = lower.keys := by
  induction lower with
  | nil => cases h
  | cons entry lower ih =>
    rw [update]
    split
    · rfl
    · rename_i hne
      rw [keys_cons, keys_cons, ih]
      exact (List.mem_cons.mp h).resolve_left fun heq => hne heq.symm

theorem update_eq_self (hl : lower.lookup key = some old) (hc : combine old = old) :
    update lower key combine value = lower := by
  induction lower with
  | nil => cases hl
  | cons entry lower ih =>
    obtain ⟨k, v⟩ := entry
    rw [update]
    split
    · rename_i hk
      subst hk
      rw [List.lookup_cons_self, Option.some.injEq] at hl
      rw [hl, hc]
    · rename_i hk
      rw [List.lookup_cons, beq_eq_false_iff_ne.mpr fun h => hk h.symm] at hl
      rw [ih hl]

theorem overlay_cons (lower : Entries) (entry : Scalar × Document) (upper : Entries) :
    overlay lower (entry :: upper) =
      overlay (update lower entry.1 (·.overlay entry.2) entry.2) upper := rfl

/-- The keys of the lower mapping keep their places, and those that only the upper one has follow in
the order in which they stand there. -/
theorem keys_overlay (hd : upper.keys.Nodup) :
    (overlay lower upper).keys = lower.keys ++ upper.keys.filter (· ∉ lower.keys) := by
  induction upper generalizing lower with
  | nil => exact (List.append_nil _).symm
  | cons entry upper ih =>
    rw [keys_cons, List.nodup_cons] at hd
    rw [overlay_cons, ih hd.2, keys_cons, List.filter_cons]
    by_cases h : entry.1 ∈ lower.keys
    · simp [keys_update_of_mem h, h]
    · -- the keys that follow are other ones, so it is all the same that this one is there by now
      have hrest : (keys upper).filter (· ∉ lower.keys ++ [entry.1]) =
          (keys upper).filter (· ∉ lower.keys) := by
        refine List.filter_congr fun key hkey => ?_
        have hne : key ≠ entry.1 := fun heq => hd.1 (heq ▸ hkey)
        simp [hne]
      have hkeys : keys (lower ++ [(entry.1, entry.2)]) = lower.keys ++ [entry.1] := by simp [keys]
      rw [update_of_not_mem h, hkeys, hrest]
      simp [h]

/-- Under each key the value of the upper mapping lies over what the lower one has there, if it has
anything, and where the upper mapping has none the lower one's value stays. -/
theorem lookup_overlay (hd : upper.keys.Nodup) :
    (overlay lower upper).lookup key =
      match upper.lookup key with
      | none => lower.lookup key
      | some value => some ((lower.lookup key).elim value (·.overlay value)) := by
  induction upper generalizing lower with
  | nil => rfl
  | cons entry upper ih =>
    rw [keys_cons, List.nodup_cons] at hd
    rw [overlay_cons, ih hd.2, List.lookup_cons]
    by_cases h : key = entry.1
    · subst h
      rw [lookup_eq_none_iff_not_mem.mpr hd.1, lookup_update, beq_self_eq_true, if_pos rfl]
    · rw [lookup_update, if_neg h, beq_eq_false_iff_ne.mpr h]

theorem overlay_eq_append (hd : upper.keys.Nodup)
    (hdisjoint : ∀ key ∈ upper.keys, key ∉ lower.keys) :
    overlay lower upper = lower ++ upper := by
  induction upper generalizing lower with
  | nil => exact (List.append_nil _).symm
  | cons entry upper ih =>
    rw [keys_cons, List.nodup_cons] at hd
    rw [keys_cons, List.forall_mem_cons] at hdisjoint
    rw [overlay_cons, update_of_not_mem hdisjoint.1, ih hd.2, List.append_assoc]
    · rfl
    · intro key hkey
      have hne : key ≠ entry.1 := fun heq => hd.1 (heq ▸ hkey)
      have := hdisjoint.2 key hkey
      simp_all [keys]

/-- A mapping that already has everything of the upper one in it stays as it is. -/
theorem overlay_eq_self
    (h : ∀ entry ∈ upper, ∃ old, lower.lookup entry.1 = some old ∧ old.overlay entry.2 = old) :
    overlay lower upper = lower := by
  induction upper generalizing lower with
  | nil => rfl
  | cons entry upper ih =>
    rw [List.forall_mem_cons] at h
    obtain ⟨⟨old, hl, ho⟩, hrest⟩ := h
    rw [overlay_cons, update_eq_self hl ho, ih hrest]

end Entries

/-! ## Paths -/

namespace Document

/-- What a document holds at a path of keys. -/
def at? : Document → List String → Option Document
  | d, [] => some d
  | .map entries, key :: path =>
    match Entries.get? entries key with
    | none => none
    | some value => value.at? path
  | _, _ :: _ => none

/-- Whether a document is a mapping. -/
def IsMap (d : Document) : Prop := ∃ entries, d = .map entries

/-- At a path the upper document replaces by a value what the lower one may have there: it holds the
value there, and not both of them hold mappings. -/
def Replaces (upper lower : Document) (path : List String) (value : Document) : Prop :=
  upper.at? path = some value ∧ ¬ (value.IsMap ∧ ∃ old, lower.at? path = some old ∧ old.IsMap)

variable {lower upper value old : Document} {key : String} {path : List String}

theorem overlay_map (below above : Entries) :
    (map below).overlay (.map above) = .map (Entries.overlay below above) := rfl

theorem overlay_of_not_isMap (h : ¬ (upper.IsMap ∧ lower.IsMap)) : lower.overlay upper = upper := by
  cases upper with
  | scalar | list => rfl
  | map above =>
    cases lower with
    | scalar | list => rfl
    | map below => exact absurd ⟨⟨_, rfl⟩, _, rfl⟩ h

theorem at?_cons_eq_some_iff :
    upper.at? (key :: path) = some value ↔
      ∃ entries inner, upper = .map entries ∧ Entries.get? entries key = some inner ∧
        inner.at? path = some value := by
  cases upper with
  | scalar | list => simp [at?]
  | map entries =>
    rw [at?]
    cases h : Entries.get? entries key <;> simp [h]

theorem WellKeyed.of_get? {entries : Entries} (h : (Document.map entries).WellKeyed)
    (hg : entries.get? key = some value) : value.WellKeyed := by
  rw [Entries.get?_eq_lookup] at hg
  cases h with
  | map nodup values => exact values _ (Entries.mem_of_lookup hg)

/-- What an overlay of mappings holds under a key. -/
theorem WellKeyed.get?_overlay {below above : Entries} (h : (Document.map above).WellKeyed)
    (key : String) :
    (Entries.overlay below above).get? key =
      match above.get? key with
      | none => below.get? key
      | some value => some ((below.get? key).elim value (·.overlay value)) := by
  cases h with
  | map nodup values =>
    simp only [Entries.get?_eq_lookup]
    exact Entries.lookup_overlay nodup

/-- At a path where both documents hold something, so does the overlay: the one over the other. -/
theorem at?_overlay_of_both (h : upper.WellKeyed) (hl : lower.at? path = some old)
    (hu : upper.at? path = some value) :
    (lower.overlay upper).at? path = some (old.overlay value) := by
  induction path generalizing lower upper with
  | nil =>
    cases hl
    cases hu
    rfl
  | cons key path ih =>
    obtain ⟨below, inside, rfl, hb, hl⟩ := at?_cons_eq_some_iff.mp hl
    obtain ⟨above, inner, rfl, ha, hu⟩ := at?_cons_eq_some_iff.mp hu
    refine at?_cons_eq_some_iff.mpr ⟨_, inside.overlay inner, overlay_map .., ?_, ?_⟩
    · rw [h.get?_overlay, ha, hb]
      rfl
    · exact ih (h.of_get? ha) hl hu

/-- At a path where only the upper document holds something, the overlay holds the same. -/
theorem at?_overlay_of_upper (h : upper.WellKeyed) (hl : lower.at? path = none)
    (hu : upper.at? path = some value) : (lower.overlay upper).at? path = some value := by
  induction path generalizing lower upper with
  | nil => cases hl
  | cons key path ih =>
    obtain ⟨above, inner, rfl, ha, hi⟩ := at?_cons_eq_some_iff.mp hu
    by_cases hmap : lower.IsMap
    · obtain ⟨below, rfl⟩ := hmap
      cases hb : Entries.get? below key with
      | none =>
        refine at?_cons_eq_some_iff.mpr ⟨_, inner, overlay_map .., ?_, hi⟩
        rw [h.get?_overlay, ha, hb]
        rfl
      | some inside =>
        have hinside : inside.at? path = none := by
          rw [at?, hb] at hl
          exact hl
        refine at?_cons_eq_some_iff.mpr ⟨_, inside.overlay inner, overlay_map .., ?_, ?_⟩
        · rw [h.get?_overlay, ha, hb]
          rfl
        · exact ih (h.of_get? ha) hinside hi
    · rw [overlay_of_not_isMap fun hboth => hmap hboth.2]
      exact hu

/-- Where the upper document replaces something, the overlay holds what it is replaced by. -/
theorem at?_overlay_of_replaces (h : upper.WellKeyed) (hr : upper.Replaces lower path value) :
    (lower.overlay upper).at? path = some value := by
  cases hl : lower.at? path with
  | none => exact at?_overlay_of_upper h hl hr.1
  | some old =>
    rw [at?_overlay_of_both h hl hr.1,
      overlay_of_not_isMap fun hboth => hr.2 ⟨hboth.1, old, hl, hboth.2⟩]

/-- At a path where only the lower document holds something, the overlay holds the same if nothing
is replaced on the way there. -/
theorem at?_overlay_of_lower (h : upper.WellKeyed) (hl : lower.at? path = some old)
    (hu : upper.at? path = none)
    (hr : ∀ before, before <+: path → ∀ value, ¬ upper.Replaces lower before value) :
    (lower.overlay upper).at? path = some old := by
  induction path generalizing lower upper with
  | nil => cases hu
  | cons key path ih =>
    obtain ⟨below, inside, rfl, hb, hi⟩ := at?_cons_eq_some_iff.mp hl
    have hmap : upper.IsMap := by
      refine Classical.byContradiction fun hmap => ?_
      exact hr [] List.nil_prefix upper ⟨rfl, fun hboth => hmap hboth.1⟩
    obtain ⟨above, rfl⟩ := hmap
    cases ha : Entries.get? above key with
    | none =>
      refine at?_cons_eq_some_iff.mpr ⟨_, inside, overlay_map .., ?_, hi⟩
      rw [h.get?_overlay, ha]
      exact hb
    | some inner =>
      have hinner : inner.at? path = none := by
        rw [at?, ha] at hu
        exact hu
      refine at?_cons_eq_some_iff.mpr ⟨_, inside.overlay inner, overlay_map .., ?_, ?_⟩
      · rw [h.get?_overlay, ha, hb]
        rfl
      · refine ih (h.of_get? ha) hi hinner fun before hbefore value hreplaces => ?_
        refine hr (key :: before) ((List.prefix_cons_inj key).mpr hbefore) value ?_
        simpa only [Replaces, at?, ha, hb] using hreplaces

/-! ## Overlays of the same document -/

/-- A document laid over itself stays as it is. -/
theorem WellKeyed.overlay_self (h : upper.WellKeyed) : upper.overlay upper = upper := by
  induction h with
  | scalar | list => rfl
  | map nodup values ih =>
    rw [overlay_map, Entries.overlay_eq_self fun entry hentry => ?_]
    exact ⟨entry.2, Entries.lookup_of_mem nodup hentry, ih entry hentry⟩

/-- A document laid over another one twice is as if it were laid over it once. -/
theorem WellKeyed.overlay_overlay (h : upper.WellKeyed) (lower : Document) :
    (lower.overlay upper).overlay upper = lower.overlay upper := by
  induction h generalizing lower with
  | scalar | list => rfl
  | @map above nodup values ih =>
    have hself := (WellKeyed.map nodup values).overlay_self
    cases lower with
    | scalar | list => exact hself
    | map below =>
      rw [overlay_map, overlay_map, Entries.overlay_eq_self fun entry hentry => ?_]
      rw [Entries.lookup_overlay nodup, Entries.lookup_of_mem nodup hentry]
      refine ⟨_, rfl, ?_⟩
      cases below.lookup entry.1 with
      | none => exact (values entry hentry).overlay_self
      | some old => exact ih entry hentry old

end Document

namespace Entries

/-- The laws of overlays. The keys of the lower mapping come first, and those that only the upper one
has behind them. At every path there is what the upper mapping holds if it replaces what the lower
one may have there, what the lower one holds if nothing is replaced there or on the way, and one
mapping over the other where both hold mappings. So nothing changes if nothing is laid over a
mapping, if a mapping is laid over nothing or over itself, and if it is laid over the same one
again. -/
theorem overlay_laws (lower upper : Entries) (h : (Document.map upper).WellKeyed) :
    (overlay lower upper).keys = lower.keys ++ upper.keys.filter (· ∉ lower.keys) ∧
    (∀ path value, (Document.map upper).Replaces (.map lower) path value →
      (Document.map (overlay lower upper)).at? path = some value) ∧
    (∀ path old, (Document.map lower).at? path = some old → (Document.map upper).at? path = none →
      (∀ before, before <+: path → ∀ value,
        ¬ (Document.map upper).Replaces (.map lower) before value) →
      (Document.map (overlay lower upper)).at? path = some old) ∧
    (∀ path below above, (Document.map lower).at? path = some (.map below) →
      (Document.map upper).at? path = some (.map above) →
      (Document.map (overlay lower upper)).at? path = some (.map (overlay below above))) ∧
    overlay lower [] = lower ∧ overlay [] upper = upper ∧ overlay upper upper = upper ∧
    overlay (overlay lower upper) upper = overlay lower upper := by
  have nodup : upper.keys.Nodup := by
    cases h
    assumption
  refine ⟨keys_overlay nodup, fun path value hr => Document.at?_overlay_of_replaces h hr,
    fun path old hl hu hr => Document.at?_overlay_of_lower h hl hu hr,
    fun path below above hl hu => Document.at?_overlay_of_both h hl hu, rfl, ?_, ?_, ?_⟩
  · exact overlay_eq_append nodup fun _ _ => List.not_mem_nil
  · exact Document.map.inj h.overlay_self
  · exact Document.map.inj (h.overlay_overlay (.map lower))

/-- A section that is replaced by a number, a number that is replaced by a section, and a section
that both mappings have. -/
theorem overlay_laws_conflicts :
    let lower : Entries := [(.text "nesting", .record [("depth", .int 1)]), (.text "opcodes", .int 2),
      (.text "structs", .record [("max_padding", .int 5), ("header", .int 4)])]
    let upper : Entries := [(.text "rules", .null), (.text "opcodes", .record [("ranges", .int 3)]),
      (.text "nesting", .int 6), (.text "structs", .record [("max_padding", .int 9)])]
    (Document.map upper).WellKeyed ∧
      (overlay lower upper).keys =
        [.text "nesting", .text "opcodes", .text "structs", .text "rules"] ∧
      (Document.map (overlay lower upper)).at? ["structs"] =
        some (.record [("max_padding", .int 9), ("header", .int 4)]) ∧
      overlay (overlay lower upper) upper = overlay lower upper := by
  intro lower upper
  have hsection (key : String) (n : Int) : (Document.record [(key, .int n)]).WellKeyed :=
    .map (List.nodup_singleton _) (List.forall_mem_singleton.mpr (.scalar _))
  have h : (Document.map upper).WellKeyed := by
    refine .map (by decide) ?_
    simp only [upper, List.forall_mem_cons, List.not_mem_nil, false_implies, implies_true, and_true]
    exact ⟨.scalar _, hsection _ _, .scalar _, hsection _ _⟩
  obtain ⟨hkeys, -, -, hboth, -, -, -, htwice⟩ := overlay_laws lower upper h
  refine ⟨h, hkeys.trans (by decide), ?_, htwice⟩
  exact (hboth ["structs"] _ _ rfl rfl).trans rfl

end Entries

end QbLint
