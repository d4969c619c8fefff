import QbLint.Cli.Invocation
import QbLint.Proofs.Bytes

/-!
# What command lines say

Whatever a command line says about an option is said about one of the options that are read there,
and a value that it gives to an option is one of the option's choices.

* `Args.Reading.Fits`: a reading whose values are offered by options; `Args.fits_of_read`: what is
  read fits;
* `Invocation.Lints`: words that ask for scripts to be linted, by what they say to the program and
  what to its command; `Invocation.exists_lints_of_parse`: the level of the log that they ask for;
* `Invocation.Lints.mem_levels`: this level is one of those that can be asked for.
-/

namespace QbLint

namespace Args

variable {level : Level} {switch : Switch} {attached : Attached} {text key : String}
  {r r' : Reading} {place : Place} {words : List Word}

/-- The option may have a value: one of its choices, if there are any. -/
def Switch.Offers (switch : Switch) (text : String) : Prop :=
  ∀ choices capitals, switch.purpose = .value choices capitals → choices = [] ∨ text ∈ choices

/-- Each value of the reading is offered by an option. -/
def Reading.Fits (level : Level) (r : Reading) : Prop :=
  ∀ key text, (key, some text) ∈ r.settings →
    ∃ switch ∈ level.switches, switch.key = key ∧ switch.Offers text

/-- If the word is an option, it is one that is read here. -/
def Word.IsOf (level : Level) : Word → Prop
  | .option _ (some (switch, _)) => switch ∈ level.switches
  | _ => True

/-! ## The options that words stand for -/

theorem mem_switches_of_mem_spellings (h : (text, switch) ∈ spellings level) :
    switch ∈ level.switches := by
  obtain ⟨s, hs, h⟩ := List.mem_flatMap.mp h
  obtain ⟨_, -, heq⟩ := List.mem_map.mp h
  obtain ⟨-, rfl⟩ := Prod.mk.inj heq
  exact hs

theorem mem_switches_of_lookup (h : (spellings level).lookup text = some switch) :
    switch ∈ level.switches := by
  obtain ⟨before, behind, heq, -⟩ := List.lookup_eq_some_iff.mp h
  refine @mem_switches_of_mem_spellings level switch text ?_
  rw [heq]
  exact List.mem_append_right _ List.mem_cons_self

theorem mem_switches_of_mem_candidates {s : List Char}
    (h : (text, switch, attached) ∈ candidates level s) : switch ∈ level.switches := by
  obtain ⟨⟨spelling, found⟩, hmem, h⟩ := List.mem_filterMap.mp h
  have hfound := mem_switches_of_mem_spellings hmem
  suffices switch = found from this ▸ hfound
  dsimp only at h
  split at h <;> (repeat' split at h) <;> grind

theorem isOf_of_classify {word : Word} (h : classify level text = .ok word) :
    word.IsOf level := by
  unfold classify at h
  dsimp only at h
  split at h
  · cases h
    trivial
  · split at h
    · rename_i hlookup
      cases h
      exact mem_switches_of_lookup hlookup
    · split at h
      · cases h
        trivial
      · split at h
        · rename_i hlookup
          cases h
          exact mem_switches_of_lookup hlookup
        · split at h
          · rename_i hcandidates
            cases h
            exact mem_switches_of_mem_candidates (hcandidates ▸ List.mem_singleton_self _)
          · split at h <;> cases h <;> trivial
          · cases h

theorem isOf_of_classifyAll {texts : List String} (h : classifyAll level texts = .ok words) :
    ∀ word ∈ words, word.IsOf level := by
  induction texts generalizing words with
  | nil =>
    cases h
    exact List.forall_mem_nil _
  | cons text texts ih =>
    unfold classifyAll at h
    split at h
    · cases h
      simp [Word.IsOf]
    · obtain ⟨word, hword, h⟩ := except_bind_eq_ok_iff.mp h
      obtain ⟨rest, hrest, h⟩ := except_bind_eq_ok_iff.mp h
      cases h
      exact List.forall_mem_cons.mpr ⟨isOf_of_classify hword, ih hrest⟩

/-- The options that a word stands for are options that are read here. -/
def Expansion.IsOf (level : Level) (e : Expansion) : Prop :=
  (∀ option ∈ e.complete, option.1 ∈ level.switches) ∧
    ∀ switch ∈ e.waiting, switch ∈ level.switches

theorem isOf_of_expandOne {e : Expansion} (h : expandOne switch attached = .ok e)
    (hs : switch ∈ level.switches) : e.IsOf level := by
  unfold expandOne at h
  split at h <;> cases h <;> simp [Expansion.IsOf, hs]

theorem isOf_of_expandLetters {e : Expansion} {letters : List Char}
    (h : expandLetters level switch letters = .ok e) (hs : switch ∈ level.switches) :
    e.IsOf level := by
  induction letters generalizing switch e with
  | nil => exact isOf_of_expandOne h hs
  | cons c rest ih =>
    unfold expandLetters at h
    split at h
    · exact isOf_of_expandOne h hs
    · split at h
      · cases h
        simp [Expansion.IsOf, hs]
      · rename_i next hnext
        obtain ⟨inner, hinner, h⟩ := except_bind_eq_ok_iff.mp h
        cases h
        have hrest := ih hinner (mem_switches_of_lookup hnext)
        exact ⟨List.forall_mem_cons.mpr ⟨hs, hrest.1⟩, hrest.2⟩

theorem isOf_of_expand {e : Expansion} (h : expand level text switch attached = .ok e)
    (hs : switch ∈ level.switches) : e.IsOf level := by
  unfold expand at h
  split at h
  · split at h
    · exact isOf_of_expandOne h hs
    · exact isOf_of_expandLetters h hs
  · exact isOf_of_expandOne h hs

/-! ## What is read -/

theorem Reading.Fits.append (hr : r.Fits level) (hs : switch ∈ level.switches)
    {value : Option String} (hvalue : ∀ text, value = some text → switch.Offers text) :
    { r with settings := r.settings ++ [(switch.key, value)] }.Fits level := by
  intro key text hmem
  rcases List.mem_append.mp hmem with hmem | hmem
  · exact hr key text hmem
  · obtain ⟨rfl, rfl⟩ := Prod.mk.inj (List.mem_singleton.mp hmem)
    exact ⟨switch, hs, rfl, hvalue text rfl⟩

theorem fits_of_take {value : Option String} (h : take r switch value = .ok r')
    (hs : switch ∈ level.switches) (hr : r.Fits level) : r'.Fits level := by
  unfold take at h
  split at h
  · cases h
  · cases h
  · rename_i choices capitals text hpurpose
    dsimp only at h
    generalize (if capitals = true then Text.upper text else text) = text at h
    split at h
    · rename_i hchoice
      cases h
      refine hr.append hs fun text' htext choices' capitals' hpurpose' => ?_
      cases htext
      cases hpurpose.symm.trans hpurpose'
      simpa using hchoice
    · cases h
  · rename_i value _ _ hother
    cases h
    refine hr.append hs fun text htext choices capitals hpurpose => ?_
    exact absurd htext (hother choices capitals text hpurpose)

theorem fits_of_takeAll {options : List (Switch × Option String)} (h : takeAll r options = .ok r')
    (hs : ∀ option ∈ options, option.1 ∈ level.switches) (hr : r.Fits level) : r'.Fits level := by
  induction options generalizing r with
  | nil =>
    cases h
    exact hr
  | cons option options ih =>
    obtain ⟨next, hnext, h⟩ := except_bind_eq_ok_iff.mp h
    rw [List.forall_mem_cons] at hs
    exact ih h hs.2 (fits_of_take hnext hs.1 hr)

theorem fits_of_readWords (h : readWords level r place words = .ok r')
    (hw : ∀ word ∈ words, word.IsOf level) (hr : r.Fits level) : r'.Fits level := by
  -- An option may take the next word too, so the induction is on the number of words.
  induction hn : words.length using Nat.strongRecOn generalizing words r place with
  | ind n ih =>
    subst hn
    match words with
    | [] =>
      cases h
      exact hr
    | .option text none :: rest =>
      rw [readWords] at h
      exact ih _ (Nat.lt_succ_self _) h (List.forall_mem_cons.mp hw).2 hr rfl
    | .option text (some (switch, attached)) :: rest =>
      rw [readWords] at h
      obtain ⟨e, he, h⟩ := except_bind_eq_ok_iff.mp h
      have hof := isOf_of_expand he (hw _ List.mem_cons_self)
      dsimp only at h
      split at h
      · obtain ⟨next, hnext, h⟩ := except_bind_eq_ok_iff.mp h
        exact ih _ (Nat.lt_succ_self _) h (List.forall_mem_cons.mp hw).2
          (fits_of_takeAll hnext hof.1 hr) rfl
      · rename_i waiting hwaiting
        split at h
        · rename_i value rest
          obtain ⟨next, hnext, h⟩ := except_bind_eq_ok_iff.mp h
          refine ih _ (by simp only [List.length_cons]; omega) h (fun word hword => hw word (by simp [hword]))
            (fits_of_takeAll hnext ?_ hr) rfl
          intro option hoption
          rcases List.mem_append.mp hoption with hoption | hoption
          · exact hof.1 option hoption
          · rw [List.mem_singleton.mp hoption]
            exact hof.2 waiting hwaiting
        · cases h
    | .plain text :: rest =>
      have hrest := (List.forall_mem_cons.mp hw).2
      unfold readWords at h
      split at h
      · cases h
        exact hr
      all_goals exact ih _ (Nat.lt_succ_self _) h hrest hr rfl
    | .dashes :: rest =>
      have hrest := (List.forall_mem_cons.mp hw).2
      unfold readWords at h
      split at h
      · split at h <;> cases h <;> exact hr
      all_goals exact ih _ (Nat.lt_succ_self _) h hrest hr rfl

/-- Each value that is read is one that an option may have. -/
theorem fits_of_read {texts : List String} (h : read level texts = .ok r) : r.Fits level := by
  obtain ⟨words, hwords, h⟩ := except_bind_eq_ok_iff.mp h
  obtain ⟨inner, hinner, h⟩ := except_bind_eq_ok_iff.mp h
  have hfits : inner.Fits level :=
    fits_of_readWords hinner (isOf_of_classifyAll hwords) fun _ _ hmem => nomatch hmem
  split at h <;> cases h <;> exact hfits

theorem Reading.mem_of_value? (h : r.value? key = some text) : (key, some text) ∈ r.settings := by
  obtain ⟨before, behind, heq, -⟩ := List.lookup_eq_some_iff.mp (Option.join_eq_some_iff.mp h)
  rw [← List.mem_reverse, heq]
  exact List.mem_append_right _ List.mem_cons_self

end Args

deriving instance DecidableEq for LintRequest, Command, Invocation

/-- A result can be compared with a value even if errors cannot be compared. -/
instance decidableEqOk {ε α : Type} [DecidableEq α] (x : Except ε α) (a : α) :
    Decidable (x = .ok a) :=
  match x with
  | .error _ => isFalse nofun
  | .ok b => decidable_of_iff (b = a) ⟨congrArg Except.ok, Except.ok.inj⟩

namespace Invocation

/-- Words that ask for scripts to be linted: what they say to the program, and what those behind the
command say to the command. -/
structure Lints (words : List String) (outer inner : Args.Reading) : Prop where
  program : Args.read Usage.main words = .ok outer
  command : ∃ rest, outer.operands = "lint" :: rest ∧ Args.read Usage.lint rest = .ok inner
  extras : outer.extras ++ inner.extras = []

variable {words : List String} {outer inner : Args.Reading} {invocation : Invocation}
  {request : LintRequest} {level : String}

theorem readLevel_eq_ok_iff {level : Args.Level} {r : Args.Reading} :
    readLevel level words = .ok r ↔ Args.read level words = .ok r := by
  unfold readLevel
  cases Args.read level words with
  | error stop => exact ⟨nofun, nofun⟩
  | ok reading =>
    exact ⟨fun h => congrArg Except.ok (Except.ok.inj h), fun h => congrArg Except.ok (Except.ok.inj h)⟩

theorem refuse_eq_ok_iff {extras : List String} : refuse extras = .ok () ↔ extras = [] := by
  cases extras <;> simp [refuse]

/-- Of two levels of the log, the one behind the command counts. -/
theorem exists_lints_of_parse (h : parse words = .ok invocation)
    (hlint : invocation.command = some (.lint request)) :
    ∃ outer inner, Lints words outer inner ∧ request = lintRequest inner ∧
      invocation.logLevel = (inner.value? "log_level" <|> outer.value? "log_level") := by
  unfold parse at h
  obtain ⟨outer, houter, h⟩ := except_bind_eq_ok_iff.mp h
  rw [readLevel_eq_ok_iff] at houter
  split at h
  · obtain ⟨_, -, h⟩ := except_bind_eq_ok_iff.mp h
    cases h
    cases hlint
  · rename_i name rest hoperands
    obtain ⟨⟨inner, command⟩, hcommand, h⟩ := except_bind_eq_ok_iff.mp h
    obtain ⟨⟨⟩, hrefuse, h⟩ := except_bind_eq_ok_iff.mp h
    rw [refuse_eq_ok_iff] at hrefuse
    cases h
    obtain rfl : command = .lint request := Option.some.inj hlint
    unfold readCommand at hcommand
    split at hcommand
    · obtain ⟨r, hr, hcommand⟩ := except_bind_eq_ok_iff.mp hcommand
      rw [readLevel_eq_ok_iff] at hr
      cases hcommand
      exact ⟨outer, inner, ⟨houter, ⟨rest, hoperands, hr⟩, hrefuse⟩, rfl, rfl⟩
    · obtain ⟨r, -, hcommand⟩ := except_bind_eq_ok_iff.mp hcommand
      cases hcommand
    · obtain ⟨r, -, hcommand⟩ := except_bind_eq_ok_iff.mp hcommand
      cases hcommand
    · cases hcommand

/-- The levels that can be asked for. -/
def levels : List String := ["DEBUG", "INFO", "WARNING", "ERROR"]

theorem mem_levels_of_fits {level : Args.Level} {r : Args.Reading} {name : String}
    (hswitches : ∀ switch ∈ level.switches, switch.key = "log_level" →
      switch = Usage.logLevelSwitch)
    (hr : r.Fits level) (h : r.value? "log_level" = some name) : name ∈ levels := by
  obtain ⟨switch, hmem, hkey, hoffers⟩ := hr _ _ (Args.Reading.mem_of_value? h)
  obtain rfl := hswitches switch hmem hkey
  exact (hoffers levels true rfl).resolve_left (by decide)

/-- A level that is asked for, in either place, is one of those that can be. -/
theorem Lints.mem_levels (h : Lints words outer inner)
    (hlevel : (inner.value? "log_level" <|> outer.value? "log_level") = some level) :
    level ∈ levels := by
  obtain ⟨rest, -, hinner⟩ := h.command
  cases hvalue : inner.value? "log_level" with
  | some name =>
    obtain rfl : name = level := by simpa [hvalue] using hlevel
    exact mem_levels_of_fits (by decide) (Args.fits_of_read hinner) hvalue
  | none =>
    rw [hvalue] at hlevel
    exact mem_levels_of_fits (by decide) (Args.fits_of_read h.program) hlevel

end Invocation

end QbLint
