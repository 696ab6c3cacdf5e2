import Blocklist.Proofs.Conversion.Provenance

/-! What holds of every record of a run. A property that the record of each rule has and that
merging keeps is one of all records, whatever the quotas drop.
-/

namespace Blocklist.Conversion

open Declarative

/-- A property of records that the rules of units establish and merging keeps. -/
structure RecordInvariant (env : Environment) (units : List ScannedUnit)
    (holds : Record → Prop)
    : Prop where
  own : ∀ unit ∈ units, ∀ rule ∈ unit.rules, ∀ record,
    actionOf env rule = .ok record.action → record.condition = conditionOf env rule → holds record
  combined : ∀ (merge : Merge) record next, merge.template record = merge.template next
    → holds record → holds next → holds (merge.combine record next)

namespace RecordInvariant

variable {env : Environment} {units : List ScannedUnit} {holds : Record → Prop}

/-- The records of outcomes, each with the property. -/
def Held (holds : Record → Prop) (outcomes : List Outcome) : Prop :=
  ∀ outcome ∈ outcomes, ∀ record, outcome.record? = some record → holds record

theorem assemble (invariant : RecordInvariant env units holds) (group : Group)
    {outcomes : List Outcome} (held : Held holds outcomes)
    : ∀ record ∈ (Batch.assemble group outcomes).records, holds record := by
  have records : ∀ record ∈ outcomes.filterMap Outcome.record?, holds record := by
    intro record member
    obtain ⟨outcome, known, accepted⟩ := List.mem_filterMap.mp member
    exact held outcome known record accepted
  intro record member
  rw [Batch.assemble] at member
  split at member
  · exact records record member
  · rename_i merge _
    obtain ⟨family, known, rfl⟩ := List.mem_map.mp member
    refine (Merge.families_coherent known).record_holds ?_ (invariant.combined merge)
    intro part belongs
    rw [Merge.families_members known] at belongs
    exact records part (List.mem_filter.mp belongs).1

theorem ofGroups (invariant : RecordInvariant env units holds) (groups : List Group)
    {outcomes : List Outcome} (held : Held holds outcomes)
    : ∀ record ∈ (Batch.ofGroups outcomes groups).records, holds record := by
  induction groups with
  | nil =>
      intro record member
      cases member
  | cons group groups ih =>
      intro record member
      rcases List.mem_append.mp member with first | later
      · refine invariant.assemble group ?_ record first
        exact fun outcome known => held outcome (List.mem_filter.mp known).1
      · exact ih record later

/-- Units keep the property one by one, by induction on them. -/
theorem ofUnits (invariant : RecordInvariant env units holds) {others : List ScannedUnit}
    {shares : List (List Outcome)} (held : ∀ share ∈ shares, Held holds share)
    : ∀ record ∈ (Batch.ofUnits others shares).records, holds record := by
  induction others generalizing shares with
  | nil =>
      intro record member
      cases member
  | cons unit others ih =>
      cases shares with
      | nil =>
          intro record member
          cases member
      | cons share shares =>
          obtain ⟨first, later⟩ := List.forall_mem_cons.mp held
          intro record member
          rcases List.mem_append.mp member with own | below
          · exact invariant.ofGroups Group.all first record own
          · exact ih later record below

/-- All records of an output have the property; the quotas only drop some. -/
theorem records {pool final : IdPool} {output : Output} {outcomes : List (List Outcome)}
    {batch : Batch} (invariant : RecordInvariant env units holds)
    (produced : Produced env pool units output final outcomes batch)
    : ∀ record ∈ output.records, holds record := by
  have held : ∀ share ∈ outcomes, Held holds share := by
    intro share inside outcome known record accepted
    have member : outcome ∈ outcomes.flatten := List.mem_flatten.mpr ⟨share, inside, known⟩
    obtain ⟨acts, condition, -⟩ := produced.series.record member accepted
    obtain ⟨unit, present, contained⟩ := produced.mem_rules member
    exact invariant.own unit present outcome.rule contained record acts condition
  have kept := Quota.apply_records env.settings batch.sources batch.rejections
    (produced.faithful.distinct produced.series)
  rw [← produced.output] at kept
  intro record member
  have before := kept.subset member
  rw [produced.assembled] at before
  exact invariant.ofUnits held record before

end RecordInvariant

-----------------------------------------------------------------------------------------
-- Actions of rules
-----------------------------------------------------------------------------------------

/-- Headers that rules add to responses. -/
def policyHeaders : List String :=
  ["Content-Security-Policy", "Permissions-Policy"]

/-- All that the action of a rule can be. -/
inductive ActionForm (rule : Rule) : Action → Prop where
  | block : ActionForm rule .block
  | allow : ActionForm rule .allow
  | allowAllRequests : ActionForm rule .allowAllRequests
  | redirect (target : Redirect) : ActionForm rule (.redirect target)
  | requestRemoval {header : String} (named : rule.requestHeader? = some header)
      : ActionForm rule (.modifyHeaders (some [removal header]) none)
  | responseRemoval {header : String} (named : rule.responseHeader? = some header)
      : ActionForm rule (.modifyHeaders none (some [removal header]))
  | addition {header value : String} (known : header ∈ policyHeaders)
      (filled : filledValue? rule = some value)
      : ActionForm rule
          (.modifyHeaders none (some [{ header, operation := .append, value := some value }]))
  | cookies : ActionForm rule cookieAction

theorem redirectAction_form {env : Environment} {rule : Rule} {action : Action}
    (acts : redirectAction env rule = .ok (some action))
    : ActionForm rule action := by
  rw [redirectAction] at acts
  split at acts
  · cases acts
  · split at acts
    · cases acts
    · split at acts
      · cases acts
      · obtain rfl := Option.some.inj (Except.ok.inj acts)
        exact .redirect _

theorem removeParamAction_form {rule : Rule} {action : Action}
    (acts : removeParamAction rule = .ok (some action))
    : ActionForm rule action := by
  rw [removeParamAction] at acts
  split at acts
  · cases acts
  · obtain rfl := Option.some.inj (Except.ok.inj acts)
    exact .redirect _
  · split at acts
    · cases acts
    · obtain rfl := Option.some.inj (Except.ok.inj acts)
      exact .redirect _

theorem removeHeaderAction_form {rule : Rule} {action : Action}
    (acts : removeHeaderAction rule = some action)
    : ActionForm rule action := by
  rw [removeHeaderAction] at acts
  split at acts
  · rename_i header named
    obtain rfl := Option.some.inj acts
    exact .requestRemoval named
  · obtain ⟨header, named, rfl⟩ := Option.map_eq_some_iff.mp acts
    exact .responseRemoval named

theorem appendHeaderAction_form {rule : Rule} {header : String} {action : Action}
    (known : header ∈ policyHeaders) (acts : appendHeaderAction rule header = some action)
    : ActionForm rule action := by
  obtain ⟨value, filled, rfl⟩ := Option.map_eq_some_iff.mp acts
  exact .addition known filled

theorem featureAction_form {env : Environment} {rule : Rule} {feature : Feature}
    {action : Action} (acts : featureAction env rule feature = .ok (some action))
    : ActionForm rule action := by
  cases feature with
  | redirect => exact redirectAction_form acts
  | removeparam => exact removeParamAction_form acts
  | removeheader => exact removeHeaderAction_form (Except.ok.inj acts)
  | csp => exact appendHeaderAction_form (by decide) (Except.ok.inj acts)
  | permissions => exact appendHeaderAction_form (by decide) (Except.ok.inj acts)
  | cookie =>
      obtain rfl := Option.some.inj (Except.ok.inj acts)
      exact .cookies
  | _ => cases acts

theorem firstAction_form {env : Environment} {rule : Rule} {features : List Feature}
    {action : Action} (acts : firstAction env rule features = .ok action)
    : ActionForm rule action := by
  induction features with
  | nil =>
      obtain rfl := Except.ok.inj acts
      exact .block
  | cons feature features ih =>
      rw [firstAction] at acts
      split at acts
      · exact ih acts
      · split at acts
        · cases acts
        · rename_i own
          obtain rfl := Except.ok.inj acts
          exact featureAction_form own
        · exact ih acts

/-- No rule has an action of another form; none upgrades requests. -/
theorem actionOf_form {env : Environment} {rule : Rule} {action : Action}
    (acts : actionOf env rule = .ok action)
    : ActionForm rule action := by
  rw [actionOf] at acts
  split at acts
  · obtain rfl := Except.ok.inj acts
    rw [exceptionAction]
    split
    · exact .allowAllRequests
    · exact .allow
  · exact firstAction_form acts

end Blocklist.Conversion
