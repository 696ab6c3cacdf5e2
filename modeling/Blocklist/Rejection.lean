import Blocklist.Declarative.Basic
import Blocklist.Filter.Line
import Blocklist.Resource
import Blocklist.Rule.Fault

/-!
Why a line or a rule does not make it into the output. A rejection concerns one rule only
and the conversion goes on.
-/

namespace Blocklist

/-- Why a line gives no rule: it is no filter, or its filter is no rule. -/
inductive EntryFault where
  | line (fault : LineFault)
  | rule (fault : RuleFault)
  deriving DecidableEq, Repr

/-- The wording of a fault. -/
def EntryFault.message : EntryFault → String
  | line fault => fault.message
  | rule fault => fault.message

/-- A failure outside the rule itself that keeps it from being converted. -/
inductive Cause where
  | resource (failure : UnknownResource)
  | encoding (defect : Text.Utf8Defect)
  deriving DecidableEq, Repr

/-- The wording of a cause. -/
def Cause.message : Cause → String
  | resource failure => failure.message
  | encoding defect => defect.message

/-- Why something was left out. Some rejections carry the record that was about to be
accepted.
-/
inductive Rejection where
  | emptyResources (rule : Rule) (record : Declarative.Record)
  | emptyDomains (rule : Rule) (record : Declarative.Record)
  | unsupportedRegex (rule : Rule) (record : Declarative.Record) (reason : String)
  | unsupportedModifier (rule : Rule) (modifier : String)
  | missingResourcesPath (rule : Rule)
  | invalidLine (unit line : Nat) (text : String) (fault : EntryFault)
  | scanLimit (unit line : Nat)
  | uncategorized (unit index : Nat) (text : String) (cause : Cause)
  deriving DecidableEq, Repr

namespace Rejection

/-- The rejection of a rule by an outer cause. -/
def ofCause (rule : Rule) (cause : Cause) : Rejection :=
  uncategorized rule.origin.unit rule.origin.index rule.text cause

/-- The wording of a rejection. -/
def message : Rejection → String
  | emptyResources rule _ => s!"rule `{rule.text}` matches no resource types"
  | emptyDomains rule _ => s!"rule `{rule.text}` has no usable initiator domains"
  | unsupportedRegex rule _ reason =>
    s!"regex of rule `{rule.text}` is not supported: {reason}"
  | unsupportedModifier rule modifier =>
    s!"rule `{rule.text}` uses unsupported modifier `{modifier}`"
  | missingResourcesPath rule =>
    s!"rule `{rule.text}` needs a resources path to build its redirect"
  | invalidLine unit line text fault =>
    s!"unit {unit}, line {line}: invalid rule `{text}`: {fault.message}"
  | scanLimit unit line => s!"unit {unit}: scanning stopped at line {line}, rule limit reached"
  | uncategorized unit index text cause =>
    s!"unit {unit}, index {index}: cannot convert rule `{text}`: {cause.message}"

/-- The rule a rejection is about, when it keeps it. -/
def rule? : Rejection → Option Rule
  | emptyResources rule _ => some rule
  | emptyDomains rule _ => some rule
  | unsupportedRegex rule _ _ => some rule
  | unsupportedModifier rule _ => some rule
  | missingResourcesPath rule => some rule
  | _ => none

/-- The record a rejection is bound to. -/
def record? : Rejection → Option Declarative.Record
  | emptyResources _ record => some record
  | emptyDomains _ record => some record
  | unsupportedRegex _ record _ => some record
  | _ => none

/-- The id of the record a rejection is bound to. -/
def recordId? (rejection : Rejection) : Option UInt32 :=
  rejection.record?.map Declarative.Record.id

/-- The outer cause of a rejection. -/
def cause? : Rejection → Option Cause
  | uncategorized _ _ _ cause => some cause
  | _ => none

end Rejection

end Blocklist
