/-!
# Rules

The rules a script is checked against, each with the id by which policies and reports name it, the
severity its defects have unless a policy says otherwise, and whether a defect of it ends the scan.

* `Rule.all`: the catalogue, in the order in which it is listed;
* `Rule.ofId?`: the rule with an id;
* `Severity.ofName?`: the severity with a name, in capitals.
-/

namespace QbLint

/-- How much a defect matters. No defect has the severity `clean`: it is that of a file without
defects. -/
inductive Severity
  | fatal | error | warning | info | clean
  deriving DecidableEq, Inhabited

namespace Severity

/-- The name of a severity in reports. -/
def name : Severity → String
  | fatal => "FATAL"
  | error => "ERROR"
  | warning => "WARNING"
  | info => "INFO"
  | clean => "CLEAN"

/-- The severities that a defect can have, the worst first. -/
def ranking : List Severity := [fatal, error, warning, info]

/-- The severity with a name. -/
def ofName? (s : String) : Option Severity := (ranking ++ [clean]).find? (·.name == s)

end Severity

/-- What a script is checked for. -/
inductive Rule
  | unbalancedNesting | unclosedNesting | illegalOpcode | zeroLengthString
  | narrowStringUnterminated | wideStringOddLength | wideStringUnterminated
  | structHeaderInvalid | structMisaligned | structPaddingTooLong | endBeforeEof
  | nextBranchOffset | endifOffset | caseMissingShortJump | caseJumpTarget | switchJumpTarget
  | truncatedScript | fileNotFound
  deriving DecidableEq, Inhabited

namespace Rule

/-- The catalogue, in the order in which it is listed. -/
def all : List Rule :=
  [unbalancedNesting, unclosedNesting, illegalOpcode, zeroLengthString,
    narrowStringUnterminated, wideStringOddLength, wideStringUnterminated,
    structHeaderInvalid, structMisaligned, structPaddingTooLong, endBeforeEof,
    nextBranchOffset, endifOffset, caseMissingShortJump, caseJumpTarget, switchJumpTarget,
    truncatedScript, fileNotFound]

/-- The name of a rule in policies and reports. -/
def id : Rule → String
  | unbalancedNesting => "UNBALANCED_NESTING"
  | unclosedNesting => "UNCLOSED_NESTING"
  | illegalOpcode => "ILLEGAL_OPCODE"
  | zeroLengthString => "ZERO_LENGTH_STRING"
  | narrowStringUnterminated => "NARROW_STRING_UNTERMINATED"
  | wideStringOddLength => "WIDE_STRING_ODD_LENGTH"
  | wideStringUnterminated => "WIDE_STRING_UNTERMINATED"
  | structHeaderInvalid => "STRUCT_HEADER_INVALID"
  | structMisaligned => "STRUCT_MISALIGNED"
  | structPaddingTooLong => "STRUCT_PADDING_TOO_LONG"
  | endBeforeEof => "END_BEFORE_EOF"
  | nextBranchOffset => "NEXT_BRANCH_OFFSET"
  | endifOffset => "ENDIF_OFFSET"
  | caseMissingShortJump => "CASE_MISSING_SHORT_JUMP"
  | caseJumpTarget => "CASE_JUMP_TARGET"
  | switchJumpTarget => "SWITCH_JUMP_TARGET"
  | truncatedScript => "TRUNCATED_SCRIPT"
  | fileNotFound => "FILE_NOT_FOUND"

/-- A short name for readers. -/
def title : Rule → String
  | unbalancedNesting => "Unbalanced block end"
  | unclosedNesting => "Block left open"
  | illegalOpcode => "Illegal opcode"
  | zeroLengthString => "Zero-length string"
  | narrowStringUnterminated => "Narrow string not null-terminated"
  | wideStringOddLength => "Odd wide string length"
  | wideStringUnterminated => "Wide string missing null terminator"
  | structHeaderInvalid => "Invalid struct header"
  | structMisaligned => "Struct not 4-aligned"
  | structPaddingTooLong => "Struct padding too long"
  | endBeforeEof => "End of script before end of file"
  | nextBranchOffset => "Bad next-branch offset"
  | endifOffset => "Bad endif offset"
  | caseMissingShortJump => "Case missing short jump"
  | caseJumpTarget => "Bad case jump target"
  | switchJumpTarget => "Bad end-switch jump target"
  | truncatedScript => "Truncated script"
  | fileNotFound => "Script could not be loaded"

/-- What the rule checks. -/
def description : Rule → String
  | unbalancedNesting => "A dict, array or paren end opcode appears with no matching open block."
  | unclosedNesting =>
    "A dict, array or paren block is still open at the end of the script (opt-in)."
  | illegalOpcode => "A byte in opcode position is not a known opcode."
  | zeroLengthString =>
    "A narrow or wide string declares length 0 and so has no null terminator."
  | narrowStringUnterminated => "The last byte of a narrow string is not 0."
  | wideStringOddLength => "A wide string's byte length is not a multiple of 2."
  | wideStringUnterminated => "The last code unit of a wide string is not 0."
  | structHeaderInvalid => "The 4-byte header after a struct's padding is not 0x00010000."
  | structMisaligned => "The byte after a struct header is not on a 4-byte boundary."
  | structPaddingTooLong => "More zero padding precedes a struct header than alignment needs."
  | endBeforeEof => "Bytes follow the end-of-script opcode."
  | nextBranchOffset => "An if/elseif offset does not land on an else, endif or elseif."
  | endifOffset => "An else/elseif offset does not land on an endif."
  | caseMissingShortJump => "A case opcode is not followed by a short jump."
  | caseJumpTarget =>
    "A case's short jump does not land on the next case, default or endswitch."
  | switchJumpTarget => "A short jump does not land on an endswitch."
  | truncatedScript => "An operand, seek or jump target runs past the end of the buffer."
  | fileNotFound => "The path does not exist, is a directory, or could not be read."

/-- Whether a defect of the rule ends the scan of its script. -/
def fatal : Rule → Bool
  | structHeaderInvalid | truncatedScript | fileNotFound => true
  | _ => false

/-- The severity of the rule's defects before any policy. -/
def severity (r : Rule) : Severity := if r.fatal then .fatal else .error

/-- The rule with an id. -/
def ofId? (s : String) : Option Rule := all.find? (·.id == s)

end Rule

end QbLint
