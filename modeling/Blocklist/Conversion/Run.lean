import Blocklist.Conversion.Record
import Blocklist.Merge
import Blocklist.Quota
import Blocklist.Rule.Group
import Blocklist.Scan

/-!
Conversion of scanned units to a ruleset. Units are converted in order and share one pool of
ids; badfilter rules cancel rules of every unit; the quotas apply to the whole output.
-/

namespace Blocklist

open Declarative

/-- How the records of a group are merged. -/
def Group.merge? : Group → Option Merge
  | removeParam => some .removeParam
  | removeHeader => some .removeHeader
  | csp => some .csp
  | regular => none
  | badfilter => none

namespace Conversion

/-- Why a conversion gives no output at all. -/
inductive RunFault where
  | settings (fault : SettingsFault)
  | duplicateId (id : UInt32)
  | idOutOfRange (id : UInt32)
  | missingSource (id : UInt32)
  | noFreeId (text : String)
  deriving DecidableEq, Repr

/-- The wording of a fault. -/
def RunFault.message : RunFault → String
  | settings fault => fault.message
  | duplicateId id => s!"declarative rule id {id} is used more than once"
  | idOutOfRange id => s!"declarative rule id {id} is outside the allowed range"
  | missingSource id => s!"declarative rule {id} has no source map entry"
  | noFreeId text => s!"rule `{text}` leads to no free id"

/-- What a number of rules convert to. -/
structure Batch where
  records : List Record := []
  sources : List SourceEntry := []
  rejections : List Rejection := []
  deriving DecidableEq, Repr

namespace Batch

/-- One batch after another. -/
def append (batch more : Batch) : Batch :=
  ⟨batch.records ++ more.records, batch.sources ++ more.sources,
    batch.rejections ++ more.rejections⟩

/-- The batch of a single rule. -/
def single (rule : Rule) : Except Rejection Record → Batch
  | .ok record =>
    { records := [record], sources := [SourceEntry.ofOrigin record.id rule.origin] }
  | .error rejection => { rejections := [rejection] }

end Batch

/-- Converts rules one after the other. The pool afterwards is given with a fault too, as are
those of the functions below.
-/
def convertRules (env : Environment) :
    IdPool → List Rule → Except RunFault Batch × IdPool
  | pool, [] => (.ok {}, pool)
  | pool, rule :: rest =>
    match convertRule? env pool rule with
    | none => (.error (.noFreeId rule.text), pool)
    | some (result, pool) =>
      let (more, pool) := convertRules env pool rest
      (more.map (Batch.single rule result).append, pool)

/-- Merges the records of a batch in the way of their group. -/
def mergeBatch (group : Group) (batch : Batch) : Except RunFault Batch :=
  match group.merge? with
  | none => .ok batch
  | some merge =>
    match merge.run batch.records batch.sources with
    | .ok (records, sources) => .ok { batch with records, sources }
    | .error missing => .error (.missingSource missing.id)

/-- Converts the rules of one group. -/
def convertGroup (env : Environment) (pool : IdPool) (group : Group) (rules : List Rule) :
    Except RunFault Batch × IdPool :=
  let (batch, pool) := convertRules env pool (Rule.inGroup group rules)
  (batch.bind (mergeBatch group), pool)

/-- Converts the rules of some groups, one group after the other. -/
def convertGroups (env : Environment) (rules : List Rule) :
    IdPool → List Group → Except RunFault Batch × IdPool
  | pool, [] => (.ok {}, pool)
  | pool, group :: rest =>
    match convertGroup env pool group rules with
    | (.error fault, pool) => (.error fault, pool)
    | (.ok batch, pool) =>
      let (more, pool) := convertGroups env rules pool rest
      (more.map batch.append, pool)

/-- Converts a unit. What was rejected while scanning comes first. -/
def convertUnit (env : Environment) (negations : List Rule) (pool : IdPool)
    (unit : ScannedUnit) : Except RunFault Batch × IdPool :=
  let (batch, pool) :=
    convertGroups env (Rule.uncancelled negations unit.rules) pool Group.all
  (batch.map (Batch.append { rejections := unit.rejections }), pool)

/-- Converts units one after the other. -/
def convertUnits (env : Environment) (negations : List Rule) :
    IdPool → List ScannedUnit → Except RunFault Batch × IdPool
  | pool, [] => (.ok {}, pool)
  | pool, unit :: rest =>
    match convertUnit env negations pool unit with
    | (.error fault, pool) => (.error fault, pool)
    | (.ok batch, pool) =>
      let (more, pool) := convertUnits env negations pool rest
      (more.map batch.append, pool)

/-- The first record whose id is out of range or was seen before. -/
def idFaultAfter? : List UInt32 → List Record → Option RunFault
  | _, [] => none
  | seen, record :: rest =>
    if !record.hasValidId then some (.idOutOfRange record.id)
    else if seen.contains record.id then some (.duplicateId record.id)
    else idFaultAfter? (record.id :: seen) rest

/-- What is wrong with the ids of a ruleset: each must be in range and occur once. -/
def idFault? (records : List Record) : Option RunFault :=
  idFaultAfter? [] records

/-- All badfilter rules of the units. -/
def pooledNegations (units : List ScannedUnit) : List Rule :=
  units.flatMap ScannedUnit.negations

/-- Applies the quotas to a batch and checks the ids that are left. -/
def finish (settings : Settings) (batch : Batch) : Except RunFault Output :=
  let output := Quota.apply settings batch.records batch.sources batch.rejections
  match idFault? output.records with
  | some fault => .error fault
  | none => .ok output

/-- Converts units with ids from a pool, and gives the pool afterwards. -/
def run (env : Environment) (pool : IdPool) (units : List ScannedUnit) :
    Except RunFault Output × IdPool :=
  match env.settings.fault? with
  | some fault => (.error (.settings fault), pool)
  | none =>
    let (batch, pool) := convertUnits env (pooledNegations units) pool units
    (batch.bind (finish env.settings), pool)

end Conversion

end Blocklist
