import Blocklist.Proofs.Conversion.Ids
import Blocklist.Proofs.Scan

/-! Where records come from. Each entry of the source map of a run leads from one record to
a line of a unit, and what that line says is what the record does.
-/

namespace Blocklist

open Declarative

/-- Actions that agree up to what a group may merge. Regular rules merge nothing, the others
the values of headers, both lists of header changes, or the parameters to remove.
-/
inductive Group.Agrees : Group → Action → Action → Prop where
  | same (group : Group) (action : Action) : Agrees group action action
  | headerValues {request request' response response' : Option (List HeaderChange)}
      (requests : request.map (·.map fun change => (change.header, change.operation))
        = request'.map (·.map fun change => (change.header, change.operation)))
      (responses : response.map (·.map fun change => (change.header, change.operation))
        = response'.map (·.map fun change => (change.header, change.operation)))
      : Agrees .csp (.modifyHeaders request response) (.modifyHeaders request' response')
  | headerLists (request request' response response' : Option (List HeaderChange))
      : Agrees .removeHeader (.modifyHeaders request response) (.modifyHeaders request' response')
  | removedParams {transform transform' : Option UrlTransform}
      (path url substitution : Option String)
      (queries : transform.map (·.query) = transform'.map (·.query))
      (present : transform.map (·.queryTransform.isSome)
        = transform'.map (·.queryTransform.isSome))
      : Agrees .removeParam (.redirect ⟨path, transform, url, substitution⟩)
          (.redirect ⟨path, transform', url, substitution⟩)

/-- Header changes that are equal without their values are of the same headers. -/
private theorem headers_of_clear {left right : Option (List HeaderChange)}
    (same : left.map (·.map Merge.clearValue) = right.map (·.map Merge.clearValue))
    : left.map (·.map fun change => (change.header, change.operation))
      = right.map (·.map fun change => (change.header, change.operation)) := by
  have read := congrArg
    (Option.map (List.map fun change : HeaderChange => (change.header, change.operation))) same
  simpa [Option.map_map, Function.comp_def, Merge.clearValue] using read

/-- Redirects that are equal without the parameters they remove agree in all else. -/
private theorem agrees_of_clearParams {left right : Redirect}
    (same : Merge.clearParams left = Merge.clearParams right)
    : Group.Agrees .removeParam (.redirect left) (.redirect right) := by
  obtain ⟨path, transform, url, substitution⟩ := left
  obtain ⟨path', transform', url', substitution'⟩ := right
  obtain ⟨rfl, transforms, rfl, rfl⟩ := Redirect.mk.inj same
  have queries := congrArg (Option.map (·.query)) transforms
  have present := congrArg (Option.map (·.queryTransform.isSome)) transforms
  simp only [Option.map_map, Function.comp_def, Option.isSome_map] at queries present
  exact .removedParams path url substitution queries present

theorem Group.agrees_of_clear {group : Group} {left right : Action}
    (same : group.clearAction left = group.clearAction right)
    : group.Agrees left right := by
  cases group with
  | regular | badfilter =>
      obtain rfl : left = right := same
      exact .same _ _
  | csp =>
      cases left with
      | modifyHeaders request response =>
          cases right with
          | modifyHeaders request' response' =>
              obtain ⟨requests, responses⟩ := Action.modifyHeaders.inj same
              exact .headerValues (headers_of_clear requests) (headers_of_clear responses)
          | _ => cases same
      | _ =>
          cases right <;> cases same
          exact .same _ _
  | removeHeader =>
      cases left with
      | modifyHeaders request response =>
          cases right with
          | modifyHeaders request' response' => exact .headerLists _ _ _ _
          | _ => cases same
      | _ =>
          cases right <;> cases same
          exact .same _ _
  | removeParam =>
      cases left with
      | redirect target =>
          cases right with
          | redirect target' => exact agrees_of_clearParams (Action.redirect.inj same)
          | _ => cases same
      | _ =>
          cases right <;> cases same
          exact .same _ _

namespace Conversion

section

variable {env : Environment} {pool final : IdPool} {units : List ScannedUnit}
  {output : Output} {outcomes : List (List Outcome)} {batch : Batch}

theorem Produced.mem_rules (produced : Produced env pool units output final outcomes batch)
    {outcome : Outcome} (member : outcome ∈ outcomes.flatten)
    : ∃ unit ∈ units, outcome.rule ∈ unit.rules := by
  have queued : outcome.rule ∈ units.flatMap (queue (pooledNegations units)) := by
    rw [← produced.series.rules_eq]
    exact List.mem_map_of_mem member
  obtain ⟨unit, known, inside⟩ := List.mem_flatMap.mp queued
  obtain ⟨group, -, listed⟩ := List.mem_flatMap.mp inside
  exact ⟨unit, known, (List.mem_filter.mp listed).1⟩

/-- Each entry of an output leads from the one record with its id to a rule of the units that
stands at its place, and the record is that of the rule up to what its group may merge.
-/
theorem Produced.traced (produced : Produced env pool units output final outcomes batch)
    {entry : SourceEntry} (member : entry ∈ output.sources)
    : ∃ record, output.records.filter (·.id == entry.id) = [record]
        ∧ ∃ unit ∈ units, ∃ rule ∈ unit.rules, rule.place = entry.place
          ∧ record.condition = conditionOf env rule ∧ record.priority = rule.priority
          ∧ ∃ action, actionOf env rule = .ok action
              ∧ rule.group.Agrees record.action action := by
  have distinct := produced.faithful.distinct produced.series
  have unique := produced.distinct
  have kept := Quota.apply_records env.settings batch.sources batch.rejections distinct
  have sources := Quota.apply_sources env.settings batch.sources batch.rejections distinct
  rw [← produced.output] at kept sources
  rw [sources] at member
  obtain ⟨record, listed, own⟩ := List.mem_flatMap.mp member
  obtain ⟨sourced, link⟩ := SourceEntry.mem_ofRecord.mp own
  obtain ⟨origin, known, same, outcome, held, made, accepted, place, represents⟩ :=
    produced.faithful.traced entry sourced
  -- the batch may name another record for the entry, but ids tell its records apart
  obtain rfl : origin = record :=
    List.inj_on_of_nodup_map distinct known (kept.subset listed) (same.trans link)
  obtain ⟨acts, condition, priority⟩ := produced.series.record held accepted
  obtain ⟨unit, present, contained⟩ := produced.mem_rules held
  refine ⟨origin, ?_, unit, present, outcome.rule, contained, place, ?_, ?_, made.action, acts,
    Group.agrees_of_clear represents.action⟩
  · rw [link]
    exact filter_key_eq_singleton unique listed
  · exact represents.condition.trans condition
  · exact represents.priority.trans priority

end

/-- Source maps of runs over scanned units with distinct numbers. For each entry there is one
record with its id and one unit with its number. The line of that unit at the byte offset of
the entry is a network filter, one expansion of which builds a rule with the condition and
priority of the record, and with its action up to what the group of the rule may merge.
-/
theorem run_source_map_sound {env : Environment} {pool final : IdPool}
    {sources : List UnitText} {output : Output}
    (distinct : (sources.map UnitText.unit).Nodup)
    (done : run env pool (sources.map UnitText.scan) = (.ok output, final))
    : ∀ entry ∈ output.sources,
        ∃ record, output.records.filter (·.id == entry.id) = [record]
        ∧ ∃ source, sources.filter (·.unit == entry.unit) = [source]
        ∧ ∃ line, Listing.LineAt source.text.toList entry.index line
        ∧ ∃ filter, Line.ofChars (Text.dropEndWhile (· == '\r') line) = .network filter
        ∧ ∃ expanded ∈ filter.expand, ∃ number rule,
            Rule.ofFilter expanded ⟨entry.unit, entry.index, number⟩ = .ok rule
            ∧ record.condition = conditionOf env rule ∧ record.priority = rule.priority
            ∧ ∃ action, actionOf env rule = .ok action
                ∧ rule.group.Agrees record.action action := by
  intro entry member
  obtain ⟨outcomes, batch, produced⟩ := run_eq_ok done
  obtain ⟨record, one, unit, present, rule, contained, place, same⟩ := produced.traced member
  obtain ⟨source, listed, rfl⟩ := List.mem_map.mp present
  obtain ⟨read, inside, filter, content, expanded, part, built, origin⟩ :=
    ScannedUnit.scan_rules contained
  obtain ⟨line, found, parsed⟩ := Listing.mem_entries inside
  obtain ⟨unitEq, indexEq⟩ := Prod.mk.inj place
  rw [origin] at unitEq indexEq built
  simp only at unitEq indexEq
  refine ⟨record, one, source, ?_, line, indexEq ▸ found, filter, parsed ▸ content, expanded,
    part, read.number, rule, ?_, same⟩
  · rw [← unitEq]
    exact filter_key_eq_singleton distinct listed
  · rw [← unitEq, ← indexEq]
    exact built

/-- An engine that takes every regular expression but has no room for any. -/
def withoutRegexes : Environment :=
  ⟨{ maxRegexRules := some 0 }, fun _ _ => none, fun name => .ok name, fun _ => none⟩

/-- Lines that merge, after a character of two bytes and a long line end, and a line of
another unit that is over the quota.
-/
def mergedLines : List UnitText :=
  [⟨3, "! é\r\n||a^$removeparam=x\n||a^$removeparam=y", none, fun _ => true⟩,
    ⟨5, "/b/", none, fun _ => true⟩]

/-- The second of two merged lines is found by its byte offset. -/
theorem run_source_map_sound_merged_lines
    : (mergedLines.map UnitText.unit).Nodup
      ∧ ∃ output final,
          run withoutRegexes .empty (mergedLines.map UnitText.scan) = (.ok output, final)
          ∧ ⟨162349722, 3, 25⟩ ∈ output.sources
          ∧ ∃ record, output.records.filter (·.id == 162349722) = [record]
          ∧ ∃ source, mergedLines.filter (·.unit == 3) = [source]
          ∧ ∃ line, Listing.LineAt source.text.toList 25 line
          ∧ ∃ filter, Line.ofChars (Text.dropEndWhile (· == '\r') line) = .network filter
          ∧ ∃ expanded ∈ filter.expand, ∃ number rule,
              Rule.ofFilter expanded ⟨3, 25, number⟩ = .ok rule
              ∧ record.condition = conditionOf withoutRegexes rule ∧ record.priority = rule.priority
              ∧ ∃ action, actionOf withoutRegexes rule = .ok action
                  ∧ rule.group.Agrees record.action action := by
  have distinct : (mergedLines.map UnitText.unit).Nodup := by decide
  have listed : (run withoutRegexes .empty (mergedLines.map UnitText.scan)).1.toOption.map
      Output.sources = some [⟨162349722, 3, 6⟩, ⟨162349722, 3, 25⟩] := by
    decide +kernel
  cases reached : run withoutRegexes .empty (mergedLines.map UnitText.scan) with
  | mk result final =>
      rw [reached] at listed
      cases result with
      | error fault => cases listed
      | ok output =>
          have member : ⟨162349722, 3, 25⟩ ∈ output.sources := by
            simp [Option.some.inj listed]
          exact ⟨distinct, output, final, rfl, member,
            run_source_map_sound distinct reached _ member⟩

end Conversion

end Blocklist
