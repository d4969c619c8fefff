import QbLint.Policy.Basic

/-!
# Presets

The policies that come with the linter, by name. The balanced one is the built-in default.
-/

namespace QbLint

/-- The names of the policies that come with the linter. -/
inductive Preset
  | balanced | permissive | strict
  deriving DecidableEq

namespace Preset

/-- The presets in the order of their names. -/
def all : List Preset := [balanced, permissive, strict]

/-- The name of a preset. -/
def name : Preset → String
  | balanced => "balanced"
  | permissive => "permissive"
  | strict => "strict"

/-- The names of the presets, in ascending order. -/
def names : List String := all.map name

/-- The preset with a name, in whatever case. -/
def ofName? (s : String) : Option Preset := all.find? (·.name == Text.lower s)

/-- The policy of a preset. -/
def policy : Preset → Policy
  | balanced => {}
  | permissive =>
    { name := "permissive"
      presetBase := "permissive"
      options := { correctedRanges := true }
      overrides :=
        [{ ruleId := Rule.structMisaligned.id, severity := "WARNING"
           reason := .text "Misaligned structs still load" }]
      disabled := [Rule.structPaddingTooLong.id] }
  | strict =>
    { name := "strict"
      presetBase := "strict"
      options := { correctedRanges := true, checkBalance := true } }

/-- The place of a preset as the log names it, which does not depend on where the linter is
installed. -/
def place : Preset → String
  | balanced => "<PKG>/data/default_policy.yaml"
  | permissive => "<PKG>/data/permissive_policy.yaml"
  | strict => "<PKG>/data/strict_policy.yaml"

end Preset

end QbLint
