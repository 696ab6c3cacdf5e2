import Blocklist.Proofs.Filter.Tiling
import Blocklist.Proofs.Scan

/-! Caps on the rules of a unit. A capped scan is the uncapped one up to the rule that exhausts
the cap, also in the middle of a line that expands to several filters: later rules are left out,
and so are rejections that come after that rule.
-/

namespace Blocklist

-----------------------------------------------------------------------------------------
-- Places of results
-----------------------------------------------------------------------------------------

/-- Where a result comes from: its line, and its position among the filters that the line
expands to.
-/
structure Place where
  line : Nat
  part : Nat
  deriving DecidableEq, Repr

/-- Whether a place comes before another: on an earlier line, or earlier on the same line. -/
def Place.precedes (place other : Place) : Bool :=
  place.line < other.line || (place.line == other.line && place.part < other.part)

theorem Place.precedes_iff {place other : Place}
    : place.precedes other = true
      ↔ place.line < other.line ∨ place.line = other.line ∧ place.part < other.part := by
  simp [precedes]

theorem Place.not_precedes_of_precedes {place other : Place}
    (earlier : place.precedes other = true)
    : ¬other.precedes place = true := by
  rw [precedes_iff] at earlier ⊢
  omega

/-- The filters that an entry expands to. -/
def Entry.expansions (entry : Entry) : List Filter :=
  match entry.content with
  | .network filter => filter.expand
  | _ => []

/-- Whether an entry is no filter, comment or blank. -/
def Entry.isInvalid (entry : Entry) : Bool :=
  match entry.content with
  | .invalid _ => true
  | _ => false

namespace Scanned

/-- What an entry gives, with places. -/
def placedEntry (unit : Nat) (entry : Entry) : List (Place × Scanned) :=
  (ofEntry unit entry).zipIdx.map fun (result, part) => (⟨entry.number, part⟩, result)

/-- What a unit gives and a selection lets pass, with places. -/
def placed (unit : Nat) (text : String) (keep : Rule → Bool) : List (Place × Scanned) :=
  ((Listing.entries text).flatMap (placedEntry unit)).filter (·.2.passes keep)

/-- The rules among results, with their places. -/
def placedRules (results : List (Place × Scanned)) : List (Place × Rule) :=
  results.filterMap fun (place, result) => result.rule?.map (place, ·)

/-- The rejections among results, with their places. -/
def placedRejections (results : List (Place × Scanned)) : List (Place × Rejection) :=
  results.filterMap fun (place, result) => result.rejection?.map (place, ·)

theorem map_snd_placedEntry (unit : Nat) (entry : Entry)
    : (placedEntry unit entry).map Prod.snd = ofEntry unit entry := by
  rw [placedEntry, List.map_map]
  exact List.zipIdx_map_fst 0 (ofEntry unit entry)

theorem map_snd_placed (unit : Nat) (text : String) (keep : Rule → Bool)
    : (placed unit text keep).map Prod.snd = (ofText unit text).filter (passes keep) := by
  have all : ((Listing.entries text).flatMap (placedEntry unit)).map Prod.snd
      = ofText unit text := by
    simp only [ofText, List.map_flatMap, map_snd_placedEntry]
  rw [placed, ← all, List.filter_map]
  rfl

theorem map_snd_placedRules (results : List (Place × Scanned))
    : (placedRules results).map Prod.snd = (results.map Prod.snd).filterMap rule? := by
  rw [placedRules, List.map_filterMap, List.filterMap_map]
  simp only [Option.map_map, Function.comp_def, Option.map_id']

theorem map_snd_placedRejections (results : List (Place × Scanned))
    : (placedRejections results).map Prod.snd
      = (results.map Prod.snd).filterMap rejection? := by
  rw [placedRejections, List.map_filterMap, List.filterMap_map]
  simp only [Option.map_map, Function.comp_def, Option.map_id']

/-- Results come in the order of their places: lines are numbered in order, and the filters of
one line follow one another.
-/
theorem placed_ordered (unit : Nat) (text : String) (keep : Rule → Bool)
    : (placed unit text keep).Pairwise fun first second => first.1.precedes second.1 = true := by
  refine List.Pairwise.filter _ (List.pairwise_flatMap.mpr ⟨?_, ?_⟩)
  · intro entry _
    have parts : ((ofEntry unit entry).zipIdx.map Prod.snd).Pairwise (· < ·) := by
      rw [List.zipIdx_map_snd]
      exact List.pairwise_lt_range'
    rw [placedEntry, List.pairwise_map]
    refine (List.pairwise_map.mp parts).imp ?_
    intro first second later
    exact Place.precedes_iff.mpr (Or.inr ⟨rfl, later⟩)
  · have numbers : ((Listing.entries text).map Entry.number).Pairwise (· < ·) := by
      rw [Listing.entries, Listing.map_number_entriesFrom]
      exact List.pairwise_lt_range'
    refine (List.pairwise_map.mp numbers).imp ?_
    intro entry next later first inside second inside'
    obtain ⟨own, -, rfl⟩ := List.mem_map.mp inside
    obtain ⟨other, -, rfl⟩ := List.mem_map.mp inside'
    exact Place.precedes_iff.mpr (Or.inl later)

-----------------------------------------------------------------------------------------
-- Truncated results
-----------------------------------------------------------------------------------------

/-- Results either hold no more rules than fit under a cap of `left + 1`, and stay as they are,
or are cut after the rule that has `left` rules before it. By induction on the results.
-/
theorem truncate_cases (unit left : Nat) (results : List Scanned)
    : (results.filterMap rule?).length ≤ left ∧ truncate unit left results = results
      ∨ ∃ before rule after, results = before ++ accepted rule :: after
        ∧ (before.filterMap rule?).length = left
        ∧ truncate unit left results
          = before ++ [accepted rule, rejected (.scanLimit unit rule.origin.line)] := by
  induction results generalizing left with
  | nil => exact Or.inl ⟨Nat.zero_le left, by rw [truncate]⟩
  | cons result results ih =>
      cases result with
      | rejected rejection =>
          rcases ih left with ⟨few, same⟩ | ⟨before, rule, after, rfl, count, cut⟩
          · exact Or.inl ⟨few, by rw [truncate, same]⟩
          · exact Or.inr ⟨rejected rejection :: before, rule, after, rfl, count,
              by rw [truncate, cut]; rfl⟩
      | accepted rule =>
          cases left with
          | zero => exact Or.inr ⟨[], rule, results, rfl, rfl, rfl⟩
          | succ left =>
              rcases ih left with ⟨few, same⟩ | ⟨before, last, after, rfl, count, cut⟩
              · exact Or.inl ⟨Nat.succ_le_succ few, by rw [truncate, same]⟩
              · exact Or.inr ⟨accepted rule :: before, last, after, rfl,
                  congrArg Nat.succ count, by rw [truncate, cut]; rfl⟩

theorem mem_of_mem_placedRejections {results : List (Place × Scanned)}
    {entry : Place × Rejection} (member : entry ∈ placedRejections results)
    : (entry.1, rejected entry.2) ∈ results := by
  obtain ⟨⟨place, result⟩, listed, same⟩ := List.mem_filterMap.mp member
  cases result with
  | accepted rule => cases same
  | rejected rejection =>
      obtain rfl := Option.some.inj same
      exact listed

/-- The rejections before the place of a rule are those that come before it in the results. -/
theorem placedRejections_before {before after : List (Place × Scanned)} {place : Place}
    {rule : Rule}
    (ordered : (before ++ (place, accepted rule) :: after).Pairwise
      fun first second => first.1.precedes second.1 = true)
    : (placedRejections (before ++ (place, accepted rule) :: after)).filter (·.1.precedes place)
      = placedRejections before := by
  obtain ⟨-, later, earlier⟩ := List.pairwise_append.mp ordered
  have parts : placedRejections (before ++ (place, accepted rule) :: after)
      = placedRejections before ++ placedRejections after :=
    List.filterMap_append
  have kept : (placedRejections before).filter (·.1.precedes place)
      = placedRejections before := by
    refine List.filter_eq_self.mpr ?_
    intro entry member
    exact earlier _ (mem_of_mem_placedRejections member) _ List.mem_cons_self
  have dropped : (placedRejections after).filter (·.1.precedes place) = [] := by
    refine List.filter_eq_nil_iff.mpr ?_
    intro entry member
    have behind := (List.pairwise_cons.mp later).1 _ (mem_of_mem_placedRejections member)
    exact Place.not_precedes_of_precedes behind
  rw [parts, List.filter_append, kept, dropped, List.append_nil]

/-- Results in the order of their places that hold more than `left` rules are cut at the rule with
`left` rules before it, and the rejections that are left are those before its place.
-/
theorem truncate_of_placed {results : List (Place × Scanned)} {left : Nat} (unit : Nat)
    (ordered : results.Pairwise fun first second => first.1.precedes second.1 = true)
    (enough : left < (placedRules results).length)
    : ∃ place rule before, (placedRules results)[left]? = some (place, rule)
        ∧ truncate unit left (results.map Prod.snd)
          = before.map Prod.snd ++ [accepted rule, rejected (.scanLimit unit rule.origin.line)]
        ∧ placedRules before = (placedRules results).take left
        ∧ placedRejections before = (placedRejections results).filter (·.1.precedes place) := by
  rcases truncate_cases unit left (results.map Prod.snd) with
    ⟨few, -⟩ | ⟨front, rule, back, whole, count, cut⟩
  · rw [← map_snd_placedRules, List.length_map] at few
    omega
  · obtain ⟨before, rest, rfl, rfl, tail⟩ := List.map_eq_append_iff.mp whole
    obtain ⟨⟨place, result⟩, after, rfl, rfl, -⟩ := List.map_eq_cons_iff.mp tail
    rw [← map_snd_placedRules, List.length_map] at count
    have split : placedRules (before ++ (place, accepted rule) :: after)
        = placedRules before ++ (place, rule) :: placedRules after :=
      List.filterMap_append
    refine ⟨place, rule, before, ?_, cut, ?_, (placedRejections_before ordered).symm⟩
    · rw [split, ← count, List.getElem?_append_right (Nat.le_refl _), Nat.sub_self]
      rfl
    · rw [split, List.take_left' count]

/-- Each result is a rule or a rejection. -/
theorem length_rules_add_rejections (results : List Scanned)
    : (results.filterMap rule?).length + (results.filterMap rejection?).length
      = results.length := by
  induction results with
  | nil => rfl
  | cons result results ih =>
      cases result with
      | accepted rule =>
          have counted : (((accepted rule :: results).filterMap rule?).length)
              = (results.filterMap rule?).length + 1 := rfl
          have same : (accepted rule :: results).filterMap rejection?
              = results.filterMap rejection? := rfl
          rw [counted, same, List.length_cons]
          omega
      | rejected rejection => exact congrArg Nat.succ ih

/-- An invalid entry gives one result, and a network filter one for each of its expansions. -/
theorem length_ofEntry (unit : Nat) (entry : Entry)
    : (ofEntry unit entry).length
      = (if entry.isInvalid then 1 else 0) + entry.expansions.length := by
  cases content : entry.content <;>
    simp [ofEntry, Entry.isInvalid, Entry.expansions, content]

theorem length_ofText (unit : Nat) (text : String)
    : (ofText unit text).length
      = (Listing.entries text).countP Entry.isInvalid
        + ((Listing.entries text).flatMap Entry.expansions).length := by
  rw [ofText]
  induction Listing.entries text with
  | nil => rfl
  | cons entry entries ih =>
      rw [List.flatMap_cons, List.length_append, ih, length_ofEntry, List.countP_cons,
        List.flatMap_cons, List.length_append]
      omega

/-- What a text gives is rejected for its lines only. -/
theorem eq_invalidLine_of_mem_ofText {unit : Nat} {text : String} {rejection : Rejection}
    (member : rejected rejection ∈ ofText unit text)
    : ∃ line raw fault, rejection = .invalidLine unit line raw fault := by
  obtain ⟨entry, -, given⟩ := List.mem_flatMap.mp member
  rw [ofEntry] at given
  split at given
  · obtain ⟨expanded, -, same⟩ := List.mem_map.mp given
    rw [ofFilter] at same
    split at same
    · cases same
    · cases same
      exact ⟨_, _, _, rfl⟩
  · cases List.mem_singleton.mp given
    exact ⟨_, _, _, rfl⟩
  · cases given

end Scanned

namespace ScannedUnit

open Scanned

variable {unit cap : Nat} {text : String} {keep : Rule → Bool}

theorem scan_uncapped (unit : Nat) (text : String) (keep : Rule → Bool)
    : scan unit text none keep
      = ofScanned unit ((placed unit text keep).map Prod.snd) := by
  rw [map_snd_placed]
  rfl

theorem scan_capped (unit : Nat) (text : String) (cap : Nat) (keep : Rule → Bool)
    : scan unit text (some cap) keep
      = ofScanned unit (truncate unit (cap - 1) ((placed unit text keep).map Prod.snd)) := by
  rw [map_snd_placed]
  rfl

theorem rules_uncapped
    : (scan unit text none keep).rules
      = (placedRules (placed unit text keep)).map Prod.snd := by
  rw [scan_uncapped, map_snd_placedRules]
  rfl

theorem rejections_uncapped
    : (scan unit text none keep).rejections
      = (placedRejections (placed unit text keep)).map Prod.snd := by
  rw [scan_uncapped, map_snd_placedRejections]
  rfl

/-- Without a cap no scan stops. -/
theorem scanLimit_not_mem_uncapped (other line : Nat)
    : .scanLimit other line ∉ (scan unit text none keep).rejections := by
  intro member
  obtain ⟨result, inside, same⟩ := List.mem_filterMap.mp member
  cases result with
  | accepted rule => cases same
  | rejected rejection =>
      obtain rfl := Option.some.inj same
      obtain ⟨_, _, _, impossible⟩ := eq_invalidLine_of_mem_ofText (List.mem_filter.mp inside).1
      cases impossible

/-- A cap that is not reached changes nothing. -/
theorem scan_capped_of_few (few : (scan unit text none keep).rules.length < max cap 1)
    : scan unit text (some cap) keep = scan unit text none keep := by
  rcases truncate_cases unit (cap - 1) ((placed unit text keep).map Prod.snd) with
    ⟨-, same⟩ | ⟨before, rule, after, whole, full, -⟩
  · rw [scan_capped, same, scan_uncapped]
  · have rest : (scan unit text none keep).rules
        = before.filterMap rule? ++ rule :: after.filterMap rule? := by
      rw [scan_uncapped, whole]
      exact List.filterMap_append
    rw [rest, List.length_append, List.length_cons] at few
    omega

/-- A cap that is reached ends the scan with the rule that exhausts it. -/
theorem scan_capped_of_enough (enough : max cap 1 ≤ (scan unit text none keep).rules.length)
    : ∃ place rule,
        (placedRules (placed unit text keep))[max cap 1 - 1]? = some (place, rule)
        ∧ (scan unit text (some cap) keep).rules
          = (scan unit text none keep).rules.take (max cap 1)
        ∧ (scan unit text (some cap) keep).rejections
          = ((placedRejections (placed unit text keep)).filter (·.1.precedes place)).map Prod.snd
            ++ [.scanLimit unit rule.origin.line] := by
  have size : max cap 1 = cap - 1 + 1 := by omega
  rw [rules_uncapped, List.length_map, size] at enough
  obtain ⟨place, rule, before, last, truncated, first, earlier⟩ :=
    truncate_of_placed unit (placed_ordered unit text keep) enough
  refine ⟨place, rule, ?_, ?_, ?_⟩
  · rw [size, Nat.add_sub_cancel]
    exact last
  · have next : (scan unit text none keep).rules[cap - 1]? = some rule := by
      rw [rules_uncapped, List.getElem?_map, last]
      rfl
    have taken : (before.map Prod.snd).filterMap rule?
        = (scan unit text none keep).rules.take (cap - 1) := by
      rw [← map_snd_placedRules, first, rules_uncapped, List.map_take]
    rw [size, List.take_add_one, next, ← taken, scan_capped, truncated]
    exact List.filterMap_append
  · rw [← earlier, map_snd_placedRejections, scan_capped, truncated]
    exact List.filterMap_append

/-- Without cap and selection, each invalid line and each filter of a line is a rule or a
rejection.
-/
theorem length_uncapped (unit : Nat) (text : String)
    : (scan unit text none fun _ => true).rules.length
        + (scan unit text none fun _ => true).rejections.length
      = (Listing.entries text).countP Entry.isInvalid
        + ((Listing.entries text).flatMap Entry.expansions).length := by
  have kept : ∀ result ∈ ofText unit text, passes (fun _ => true) result = true := by
    intro result _
    cases result <;> rfl
  have everything : scan unit text none (fun _ => true) = ofScanned unit (ofText unit text) := by
    simp only [scan, List.filter_eq_self.mpr kept]
  rw [everything, ← length_ofText unit]
  exact length_rules_add_rejections _

/-- A cap cuts the scan. With fewer rules than the cap, of which at least one is allowed, nothing
changes. Else the scan ends with the rule that exhausts the cap: the rules up to it are left, the
badfilter rules among them, the rejections that come before its place, and one note that the scan
stopped at its line. Without cap and selection each invalid line and each filter of a line is a
rule or a rejection.
-/
theorem scan_capped_cuts_uncapped (unit : Nat) (text : String) (keep : Rule → Bool) (cap : Nat)
    : let all := scan unit text none keep
      let capped := scan unit text (some cap) keep
      let count := max cap 1
      let rules := placedRules (placed unit text keep)
      let rejections := placedRejections (placed unit text keep)
      all.rules = rules.map Prod.snd
      ∧ all.rejections = rejections.map Prod.snd
      ∧ (∀ other line, .scanLimit other line ∉ all.rejections)
      ∧ (all.rules.length < count → capped = all)
      ∧ (count ≤ all.rules.length
        → ∃ place rule, rules[count - 1]? = some (place, rule)
          ∧ capped.unit = unit
          ∧ capped.rules = all.rules.take count
          ∧ capped.negations = (all.rules.take count).filter Rule.isBadfilter
          ∧ capped.rejections
            = (rejections.filter (·.1.precedes place)).map Prod.snd
              ++ [.scanLimit unit rule.origin.line])
      ∧ (scan unit text none fun _ => true).rules.length
          + (scan unit text none fun _ => true).rejections.length
        = (Listing.entries text).countP Entry.isInvalid
          + ((Listing.entries text).flatMap Entry.expansions).length := by
  intro all capped count rules rejections
  refine ⟨rules_uncapped, rejections_uncapped, scanLimit_not_mem_uncapped, scan_capped_of_few, ?_,
    length_uncapped unit text⟩
  intro enough
  obtain ⟨place, rule, last, left, rejected⟩ := scan_capped_of_enough enough
  have negations : capped.negations = capped.rules.filter Rule.isBadfilter := by rfl
  exact ⟨place, rule, last, rfl, left, left ▸ negations, rejected⟩

/-- An invalid line, a line that expands to three rules, and another invalid line. -/
def fannedOut : String :=
  "||a^$bogus\n||b^$all,badfilter\n||c^$bogus"

/-- A cap of two rules stops in the middle of the second line, after the rejection of the first
line; a cap of four changes nothing.
-/
theorem scan_capped_cuts_fannedOut
    : 2 ≤ (scan 7 fannedOut none fun _ => true).rules.length
      ∧ (scan 7 fannedOut none fun _ => true).rules.length < 4
      ∧ scan 7 fannedOut (some 4) (fun _ => true) = scan 7 fannedOut none (fun _ => true)
      ∧ (scan 7 fannedOut (some 2) fun _ => true).rules
        = (scan 7 fannedOut none fun _ => true).rules.take 2
      ∧ (scan 7 fannedOut (some 2) fun _ => true).rejections
        = [.invalidLine 7 0 "||a^$bogus" (.line (.unknownModifier "bogus")), .scanLimit 7 1] := by
  have enough : 2 ≤ (scan 7 fannedOut none fun _ => true).rules.length := by decide +kernel
  have few : (scan 7 fannedOut none fun _ => true).rules.length < 4 := by decide +kernel
  have place : (placedRules (placed 7 fannedOut fun _ => true))[1]?.map
      (fun (place, rule) => (place, rule.origin.line)) = some (⟨1, 1⟩, 1) := by
    decide +kernel
  have before : ((placedRejections (placed 7 fannedOut fun _ => true)).filter
      (·.1.precedes ⟨1, 1⟩)).map Prod.snd
        = [.invalidLine 7 0 "||a^$bogus" (.line (.unknownModifier "bogus"))] := by
    decide +kernel
  have unchanged := (scan_capped_cuts_uncapped 7 fannedOut (fun _ => true) 4).2.2.2.1 few
  obtain ⟨found, rule, last, -, left, -, rejected⟩ :=
    (scan_capped_cuts_uncapped 7 fannedOut (fun _ => true) 2).2.2.2.2.1 enough
  rw [show max 2 1 - 1 = 1 from rfl] at last
  rw [last] at place
  obtain ⟨rfl, line⟩ := Prod.mk.inj (Option.some.inj place)
  rw [before, line] at rejected
  exact ⟨enough, few, unchanged, left, rejected⟩

end ScannedUnit

end Blocklist
