import Blocklist.Filter.Listing
import Blocklist.Rejection
import Blocklist.Rule.Build

/-!
Scanning a unit: the rules of its filters, in the order of its lines. Lines that give no rule
are reported and never stop the scan; a cap on the number of rules does.
-/

namespace Blocklist

/-- What one filter of a unit gives: a rule, or the reason why there is none. -/
inductive Scanned where
  | accepted (rule : Rule)
  | rejected (rejection : Rejection)
  deriving DecidableEq, Repr

/-- All that was scanned from one unit. `negations` are the badfilter rules among `rules`. -/
structure ScannedUnit where
  unit : Nat
  rules : List Rule := []
  negations : List Rule := []
  rejections : List Rejection := []
  deriving DecidableEq, Repr

namespace Scanned

/-- What an expanded filter of an entry gives. -/
def ofFilter (unit : Nat) (entry : Entry) (filter : Filter) : Scanned :=
  match Rule.ofFilter filter { unit, index := entry.start, line := entry.number } with
  | .ok rule => .accepted rule
  | .error fault => .rejected (.invalidLine unit entry.number entry.raw (.rule fault))

/-- What an entry gives: one result for each filter it expands to. -/
def ofEntry (unit : Nat) (entry : Entry) : List Scanned :=
  match entry.content with
  | .network filter => filter.expand.map (ofFilter unit entry)
  | .invalid fault => [.rejected (.invalidLine unit entry.number entry.raw (.line fault))]
  | _ => []

/-- What a unit gives. -/
def ofText (unit : Nat) (text : String) : List Scanned :=
  (Listing.entries text).flatMap (ofEntry unit)

/-- Whether a result passes a selection of rules; rejections always do. -/
def passes (keep : Rule → Bool) : Scanned → Bool
  | accepted rule => keep rule
  | rejected _ => true

/-- The rule of a result. -/
def rule? : Scanned → Option Rule
  | accepted rule => some rule
  | rejected _ => none

/-- The rejection of a result. -/
def rejection? : Scanned → Option Rejection
  | accepted _ => none
  | rejected rejection => some rejection

/-- The results up to the rule that exhausts a cap of `left + 1` rules, and a note that the
scan stopped there.
-/
def truncate (unit : Nat) : Nat → List Scanned → List Scanned
  | _, [] => []
  | left, rejected rejection :: rest => rejected rejection :: truncate unit left rest
  | 0, accepted rule :: _ => [accepted rule, rejected (.scanLimit unit rule.origin.line)]
  | left + 1, accepted rule :: rest => accepted rule :: truncate unit left rest

end Scanned

namespace ScannedUnit

/-- Collects results. -/
def ofScanned (unit : Nat) (results : List Scanned) : ScannedUnit where
  unit := unit
  rules := results.filterMap Scanned.rule?
  negations := (results.filterMap Scanned.rule?).filter (·.isBadfilter)
  rejections := results.filterMap Scanned.rejection?

/-- Scans a text. Rules that `keep` refuses are neither counted nor kept. A cap of no rules
still lets one through.
-/
def scan (unit : Nat) (text : String) (cap : Option Nat) (keep : Rule → Bool) : ScannedUnit :=
  let results := (Scanned.ofText unit text).filter (Scanned.passes keep)
  match cap with
  | some cap => ofScanned unit (Scanned.truncate unit (cap - 1) results)
  | none => ofScanned unit results

end ScannedUnit

end Blocklist
