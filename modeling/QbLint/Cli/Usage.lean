import QbLint.Cli.Args
import QbLint.Config.Basic
import QbLint.Policy.Preset

/-!
# The program's options and help

What the program and each of its commands read from the command line, and the texts by which they
explain themselves.
-/

namespace QbLint.Usage

/-- The name of the program. -/
def program : String := "qbscript-lint"

/-- The version of the program. -/
def version : String := "1.0.0"

/-- The names of the commands. -/
def commands : List String := ["lint", "list-rules", "generate-policy"]

/-- The option that explains a command. -/
def helpSwitch : Args.Switch := ⟨["-h", "--help"], "help", .help⟩

/-- The option for the level of the log. -/
def logLevelSwitch : Args.Switch :=
  ⟨["--log-level"], "log_level", .value ["DEBUG", "INFO", "WARNING", "ERROR"] true⟩

/-- The usage of the program. -/
def mainUsage : String :=
  "usage: qbscript-lint [-h] [--version] [--log-level \x7bDEBUG,INFO,WARNING,ERROR\x7d]\n" ++
    "                     \x7blint,list-rules,generate-policy\x7d ...\n"

/-- What the program reads. -/
def main : Args.Level :=
  { program
    usage := mainUsage
    help := mainUsage ++ "\n" ++
      "QB Script Linter - structural validator for compiled QB scripts\n" ++
      "\n" ++
      "positional arguments:\n" ++
      "  \x7blint,list-rules,generate-policy\x7d\n" ++
      "                        Command to execute\n" ++
      "    lint                Lint one or more QB scripts\n" ++
      "    list-rules          List the diagnostics the linter can report\n" ++
      "    generate-policy     Generate a scan policy YAML\n" ++
      "\n" ++
      "options:\n" ++
      "  -h, --help            show this help message and exit\n" ++
      "  --version             show program's version number and exit\n" ++
      "  --log-level \x7bDEBUG,INFO,WARNING,ERROR\x7d\n" ++
      "                        Logging level (default: QBSCRIPT_LINTER_LOG_LEVEL or\n" ++
      "                        WARNING)\n" ++
      "\n" ++
      "Examples:\n" ++
      "  qbscript-lint lint script.qb\n" ++
      "  qbscript-lint lint scripts/ --recursive --format sarif -o results.sarif\n" ++
      "  qbscript-lint lint script.qb --policy strict\n" ++
      "  qbscript-lint generate-policy -o my_policy.yaml\n" ++
      "  qbscript-lint list-rules\n" ++
      "        \n"
    version := program ++ " " ++ version ++ "\n"
    switches := [helpSwitch, ⟨["--version"], "version", .version⟩, logLevelSwitch]
    operands := .command commands }

/-- The usage of the command that lints scripts. -/
def lintUsage : String :=
  "usage: qbscript-lint lint [-h] [--format \x7bsummary,json,markdown,sarif\x7d]\n" ++
    "                          [--output OUTPUT] [--compact]\n" ++
    "                          [--policy PRESET_OR_PATH] [--corrected-opcodes]\n" ++
    "                          [--recursive] [--fail-on-warnings] [--env-file PATH]\n" ++
    "                          [--log-level \x7bDEBUG,INFO,WARNING,ERROR\x7d]\n" ++
    "                          [paths ...]\n"

/-- What the command that lints scripts reads. -/
def lint : Args.Level :=
  { program := program ++ " lint"
    usage := lintUsage
    help := lintUsage ++ "\n" ++
      "positional arguments:\n" ++
      "  paths                 Script files (or directories with --recursive)\n" ++
      "\n" ++
      "options:\n" ++
      "  -h, --help            show this help message and exit\n" ++
      "  --format \x7bsummary,json,markdown,sarif\x7d\n" ++
      "                        Output format (default: summary). Use 'sarif' for code\n" ++
      "                        scanning upload.\n" ++
      "  --output OUTPUT, -o OUTPUT\n" ++
      "                        Output file path\n" ++
      "  --compact             Compact JSON output\n" ++
      "  --policy PRESET_OR_PATH\n" ++
      "                        Scan policy: preset name (strict, balanced,\n" ++
      "                        permissive) or path to custom YAML\n" ++
      "  --corrected-opcodes   Accept opcodes 0x37-0x39 instead of 0x37 alone\n" ++
      "  --recursive, -r       Search directories for scripts\n" ++
      "  --fail-on-warnings    Exit with error on warnings too\n" ++
      "  --env-file PATH       Load QBSCRIPT_LINTER_* settings from a .env file\n" ++
      "  --log-level \x7bDEBUG,INFO,WARNING,ERROR\x7d\n" ++
      "                        Logging level\n"
    switches :=
      [helpSwitch,
        ⟨["--format"], "format", .value (OutputFormat.all.map OutputFormat.name) false⟩,
        ⟨["--output", "-o"], "output", .value [] false⟩,
        ⟨["--compact"], "compact", .flag⟩,
        ⟨["--policy"], "policy", .value [] false⟩,
        ⟨["--corrected-opcodes"], "corrected_opcodes", .flag⟩,
        ⟨["--recursive", "-r"], "recursive", .flag⟩,
        ⟨["--fail-on-warnings"], "fail_on_warnings", .flag⟩,
        ⟨["--env-file"], "env_file", .value [] false⟩,
        logLevelSwitch]
    operands := .list }

/-- The usage of the command that lists the rules. -/
def listRulesUsage : String := "usage: qbscript-lint list-rules [-h]\n"

/-- What the command that lists the rules reads. -/
def listRules : Args.Level :=
  { program := program ++ " list-rules"
    usage := listRulesUsage
    help := listRulesUsage ++ "\n" ++
      "options:\n" ++
      "  -h, --help  show this help message and exit\n"
    switches := [helpSwitch]
    operands := .nothing }

/-- The usage of the command that writes a policy. -/
def generatePolicyUsage : String :=
  "usage: qbscript-lint generate-policy [-h] [--output OUTPUT]\n" ++
    "                                     [--preset \x7bbalanced,permissive,strict\x7d]\n"

/-- What the command that writes a policy reads. -/
def generatePolicy : Args.Level :=
  { program := program ++ " generate-policy"
    usage := generatePolicyUsage
    help := generatePolicyUsage ++ "\n" ++
      "options:\n" ++
      "  -h, --help            show this help message and exit\n" ++
      "  --output OUTPUT, -o OUTPUT\n" ++
      "                        Output file path\n" ++
      "  --preset \x7bbalanced,permissive,strict\x7d\n" ++
      "                        Base preset\n"
    switches :=
      [helpSwitch, ⟨["--output", "-o"], "output", .value [] false⟩,
        ⟨["--preset"], "preset", .value Preset.names false⟩]
    operands := .nothing }

end QbLint.Usage
