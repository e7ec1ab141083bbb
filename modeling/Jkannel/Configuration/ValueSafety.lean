import Jkannel.Lib.Directives
import Jkannel.Text

/-!
# The strings an operator may have in a configuration

Most directives of the engine are written without quotes, so that nothing can be escaped in them,
and a string that would break its line is refused instead.

* `describeConfigValueProblem` finds the first thing wrong with a string, and
  `collectConfigValueProblems` looks at many fields.  A field that is no string is passed over.
* `Screened` is what a string is that was let through.
-/

namespace Jkannel.Configuration

open Directives

/-! ## The check -/

/-- Longest value accepted for any single directive. -/
def MAX_CONFIG_VALUE_LENGTH : Nat := 512

/-- A value that would escape its line. -/
structure ConfigValueProblem where
  field : String
  reason : String

/-- The value of a field of type `unknown`. -/
inductive Unknown
  | undefined
  | string (s : String)
  | array (entries : List String)

/-- A field that may be missing. -/
def Unknown.ofOption : Option String → Unknown
  | none => .undefined
  | some s => .string s

def Unknown.ofList : Option (List String) → Unknown
  | none => .undefined
  | some entries => .array entries

/-- C0 controls, DEL and the C1 range. -/
def isControl (c : Char) : Bool := c.toNat < 0x20 || c.toNat = 0x7f || (0x80 ≤ c.toNat && c.toNat ≤ 0x9f)

/-- Whether a value would end its line. -/
def hasControlCharacter (value : String) : Bool := value.toList.any isControl

/-- The word the engine looks for in the raw line. -/
def includeWord : List Char := ['i', 'n', 'c', 'l', 'u', 'd', 'e']

/-- What is wrong with a value, if anything is. -/
def describeConfigValueProblem (field value : String) : Option ConfigValueProblem :=
  if MAX_CONFIG_VALUE_LENGTH < Text.jsLength value then
    some ⟨field, s!"is {Text.jsLength value} characters; the maximum for a configuration value is " ++
      toString MAX_CONFIG_VALUE_LENGTH⟩
  else if hasControlCharacter value then
    some ⟨field, if value.toList.any fun c => c = '\r' || c = '\n' then
        "contains a line break. Most engine directives are written unquoted, so the text " ++
          "after the break would be parsed as a new configuration directive."
      else
        "contains a control character, which cannot be represented in an engine " ++
          "configuration file."⟩
  else if '"' ∈ value.toList then
    some ⟨field, "contains a double quote, which would terminate the quoted value early."⟩
  else if '\\' ∈ value.toList then
    some ⟨field,
      "contains a backslash. The engine unescapes \\\" when parsing, so a backslash before " ++
        "the closing quote escapes the quote itself and the parser reads into the next line."⟩
  else if (value.toList.dropWhile Text.isSpace).head? = some '#' then
    some ⟨field, "starts with \"#\", which the engine parses as a comment, silently discarding it."⟩
  else if Mentions includeWord value.toList then
    some ⟨field,
      "contains \"include\". The engine finds include directives by searching the raw line " ++
        "for that word, then aborts if the rest of the line is not a readable path — so this " ++
        "value would stop bearerbox from starting, and it would keep failing on every restart " ++
        "until the generated file was edited by hand."⟩
  else none

/-- One problem for each field that has one. -/
def collectConfigValueProblems (entries : List (String × Unknown)) : List ConfigValueProblem :=
  entries.filterMap fun
    | (field, .string value) => if value = "" then none else describeConfigValueProblem field value
    | _ => none

/-- A problem as a sentence. -/
def formatConfigValueProblem (problem : ConfigValueProblem) : String :=
  s!"{problem.field} {problem.reason}"

/-! ## What is let through -/

/-- A string that is written and read back as it is, between quotes or not. -/
structure Screened (value : String) : Prop where
  newline : '\n' ∉ value.toList
  quote : '"' ∉ value.toList
  backslash : '\\' ∉ value.toList
  word : ¬ Mentions includeWord value.toList

theorem screened_empty : Screened "" := ⟨by decide, by decide, by decide, by decide⟩

variable {field value : String}

theorem screened_of_no_problem
    (h : describeConfigValueProblem field value = none) : Screened value := by
  rw [describeConfigValueProblem] at h
  split at h
  · cases h
  · split at h
    · cases h
    · rename_i hcontrol
      split at h
      · cases h
      · rename_i hquote
        split at h
        · cases h
        · rename_i hbackslash
          split at h
          · cases h
          · split at h
            · cases h
            · rename_i hword
              exact ⟨fun hmem => hcontrol (List.any_eq_true.mpr ⟨_, hmem, by decide⟩), hquote,
                hbackslash, hword⟩

/-- **What the check lets through.** -/
theorem screened_of_collect {entries : List (String × Unknown)}
    (h : collectConfigValueProblems entries = [])
    (hmem : (field, .string value) ∈ entries) : Screened value := by
  rw [collectConfigValueProblems, List.filterMap_eq_nil_iff] at h
  by_cases hempty : value = ""
  · exact hempty ▸ screened_empty
  · have hnone : (if value = "" then none else describeConfigValueProblem field value) = none :=
      h _ hmem
    rw [if_neg hempty] at hnone
    exact screened_of_no_problem hnone

end Jkannel.Configuration
