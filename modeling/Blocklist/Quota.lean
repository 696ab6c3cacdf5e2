import Blocklist.Rejection
import Blocklist.Settings
import Blocklist.SourceMap

/-!
Quotas of the output. Records over a quota are dropped with their source entries and the
rejections bound to them, and each quota that was exceeded is reported. The quota of rules
counts positions, so an unsafe record that is dropped frees no place for a later one.
-/

namespace Blocklist

open Declarative

/-- What a quota counts. -/
inductive QuotaKind where
  | rules | unsafeRules | regexRules
  deriving DecidableEq, Repr

/-- A quota that was exceeded: how many there were, and the lines that were left out. -/
structure Limitation where
  kind : QuotaKind
  limit : Nat
  total : Nat
  excluded : List SourceEntry
  deriving DecidableEq, Repr

/-- The wording of a limitation. -/
def Limitation.message (limitation : Limitation) : String :=
  let counted :=
    match limitation.kind with
    | .rules => "rules"
    | .unsafeRules => "unsafe rules"
    | .regexRules => "regex rules"
  s!"{limitation.total} {counted} exceed the limit of {limitation.limit}; "
    ++ s!"{limitation.excluded.length} excluded"

/-- The output of a conversion: its records, where they come from, what was rejected, and the
quotas that were exceeded.
-/
structure Output where
  records : List Record
  sources : List SourceEntry
  rejections : List Rejection
  limitations : List Limitation
  deriving DecidableEq, Repr

namespace Quota

/-- Source entries and rejections that wait for their record to survive. -/
structure Ledger where
  sources : List SourceEntry
  rejections : List Rejection

namespace Ledger

/-- The source entries of a record. -/
def sourcesOf (ledger : Ledger) (id : UInt32) : List SourceEntry :=
  SourceEntry.ofRecord ledger.sources id

/-- The rejections bound to a record. -/
def rejectionsOf (ledger : Ledger) (id : UInt32) : List Rejection :=
  ledger.rejections.filter (·.recordId? == some id)

/-- The ledger without anything about a record. -/
def erase (ledger : Ledger) (id : UInt32) : Ledger where
  sources := SourceEntry.withoutRecord ledger.sources id
  rejections := ledger.rejections.filter (·.recordId? != some id)

end Ledger

/-- Why a record is dropped. -/
inductive Verdict where
  | kept | dropped (kind : QuotaKind)
  deriving DecidableEq, Repr

/-- The verdict on the record at `position` when `unsafeCount` unsafe records, itself
included, have come up to it.
-/
def positionVerdict (maxRules : Nat) (maxUnsafe : Option Nat) (position unsafeCount : Nat)
    (record : Record) : Verdict :=
  if record.isUnsafe && maxUnsafe.any (· < unsafeCount) then .dropped .unsafeRules
  else if position < maxRules then .kept
  else .dropped .rules

/-- The verdicts of the quotas of rules and of unsafe rules, from a position on. -/
def positionVerdicts (maxRules : Nat) (maxUnsafe : Option Nat) :
    Nat → Nat → List Record → List (Record × Verdict)
  | _, _, [] => []
  | position, unsafeCount, record :: rest =>
    let unsafeCount := if record.isUnsafe then unsafeCount + 1 else unsafeCount
    (record, positionVerdict maxRules maxUnsafe position unsafeCount record)
      :: positionVerdicts maxRules maxUnsafe (position + 1) unsafeCount rest

/-- The verdicts of the quota of regular expressions after `count` of them. -/
def regexVerdicts (maxRegex : Nat) : Nat → List Record → List (Record × Verdict)
  | _, [] => []
  | count, record :: rest =>
    if !record.isRegex then (record, .kept) :: regexVerdicts maxRegex count rest
    else
      (record, if count < maxRegex then .kept else .dropped .regexRules)
        :: regexVerdicts maxRegex (count + 1) rest

/-- The records that are kept. -/
def survivors (verdicts : List (Record × Verdict)) : List Record :=
  (verdicts.filter (·.2 == .kept)).map Prod.fst

/-- The source entries that dropped records give up, each with the quota that dropped its
record, and the ledger without them.
-/
def settle : Ledger → List (Record × Verdict) → List (QuotaKind × SourceEntry) × Ledger
  | ledger, [] => ([], ledger)
  | ledger, (_, .kept) :: rest => settle ledger rest
  | ledger, (record, .dropped kind) :: rest =>
    let (more, final) := settle (ledger.erase record.id) rest
    ((ledger.sourcesOf record.id).map (kind, ·) ++ more, final)

/-- The entries that a quota excludes. -/
def excludedBy (kind : QuotaKind) (entries : List (QuotaKind × SourceEntry)) :
    List SourceEntry :=
  (entries.filter (·.1 == kind)).map Prod.snd

/-- A limitation, when the total is over the limit. -/
def report (kind : QuotaKind) (limit total : Nat) (entries : List (QuotaKind × SourceEntry)) :
    List Limitation :=
  if limit < total then [{ kind, limit, total, excluded := excludedBy kind entries }] else []

/-- Records that passed some quotas, what the ledger still holds, and the limitations so
far.
-/
structure Passed where
  records : List Record
  ledger : Ledger
  limitations : List Limitation

/-- Applies the quotas of rules and of unsafe rules. The latter counts only together with
the former.
-/
def limitRules (settings : Settings) (records : List Record) (ledger : Ledger) : Passed :=
  match settings.maxRules with
  | none => ⟨records, ledger, []⟩
  | some maxRules =>
    let verdicts := positionVerdicts maxRules settings.maxUnsafeRules 0 0 records
    let (excluded, ledger) := settle ledger verdicts
    let unsafeReport :=
      match settings.maxUnsafeRules with
      | some maxUnsafe => report .unsafeRules maxUnsafe (records.countP (·.isUnsafe)) excluded
      | none => []
    ⟨survivors verdicts, ledger, unsafeReport ++ report .rules maxRules records.length excluded⟩

/-- Applies the quota of regular expressions to the records that passed the others. -/
def limitRegex (settings : Settings) (passed : Passed) : Passed :=
  match settings.maxRegexRules with
  | none => passed
  | some maxRegex =>
    let verdicts := regexVerdicts maxRegex 0 passed.records
    let (excluded, ledger) := settle passed.ledger verdicts
    { records := survivors verdicts
      ledger
      limitations := passed.limitations
        ++ report .regexRules maxRegex (passed.records.countP (·.isRegex)) excluded }

/-- What the records hold of a ledger, record by record; a repeated id finds nothing left. -/
def collect : Ledger → List Record → List SourceEntry × List Rejection
  | _, [] => ([], [])
  | ledger, record :: rest =>
    let (sources, rejections) := collect (ledger.erase record.id) rest
    (ledger.sourcesOf record.id ++ sources, ledger.rejectionsOf record.id ++ rejections)

/-- Whether a rejection is bound to one of the records. -/
def isBound (records : List Record) (rejection : Rejection) : Bool :=
  rejection.recordId?.any fun id => records.any (·.id == id)

/-- Applies all quotas. Rejections that are bound to no record come last. -/
def apply (settings : Settings) (records : List Record) (sources : List SourceEntry)
    (rejections : List Rejection) : Output :=
  let ledger := ⟨sources, rejections.filter (isBound records)⟩
  let passed := limitRegex settings (limitRules settings records ledger)
  let (sources, bound) := collect passed.ledger passed.records
  { records := passed.records
    sources
    rejections := bound ++ rejections.filter (!isBound records ·)
    limitations := passed.limitations }

end Quota

end Blocklist
