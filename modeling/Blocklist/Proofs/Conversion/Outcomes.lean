import Blocklist.Conversion.Run
import Blocklist.Proofs.IdPool
import Blocklist.Proofs.SourceMap

/-! Conversions of rules one by one, with the outcome of each. The pool is threaded through,
so the ids of a whole series are distinct and were free before it.
-/

namespace Blocklist.Conversion

open Declarative

-----------------------------------------------------------------------------------------
-- One rule
-----------------------------------------------------------------------------------------

/-- An accepted record is the one that was checked. -/
theorem accept_eq_ok {env : Environment} {rule : Rule} {record accepted : Record}
    (passed : accept env rule record = .ok accepted)
    : accepted = record := by
  simp only [accept] at passed
  split at passed
  · cases passed
  · split at passed
    · cases passed
    · split at passed
      · exact (Except.ok.inj passed).symm
      · split at passed
        · cases passed
        · exact (Except.ok.inj passed).symm

/-- A rejection after the check is bound to the record that was checked. -/
theorem accept_eq_error {env : Environment} {rule : Rule} {record : Record}
    {rejection : Rejection} (failed : accept env rule record = .error rejection)
    : rejection.recordId? = some record.id := by
  simp only [accept] at failed
  split at failed
  · rw [← Except.error.inj failed]
    rfl
  · split at failed
    · rw [← Except.error.inj failed]
      rfl
    · split at failed
      · cases failed
      · split at failed
        · rw [← Except.error.inj failed]
          rfl
        · cases failed

/-- What a feature refuses is bound to no record. -/
theorem featureAction_unbound {env : Environment} {rule : Rule} {feature : Feature}
    {rejection : Rejection} (failed : featureAction env rule feature = .error rejection)
    : rejection.recordId? = none := by
  cases feature with
  | redirect =>
      simp only [featureAction, redirectAction] at failed
      split at failed
      · cases failed
      · split at failed
        · rw [← Except.error.inj failed]
          rfl
        · split at failed
          · rw [← Except.error.inj failed]
            rfl
          · cases failed
  | removeparam =>
      simp only [featureAction, removeParamAction] at failed
      split at failed
      · cases failed
      · cases failed
      · split at failed
        · rw [← Except.error.inj failed]
          rfl
        · cases failed
  | _ => cases failed

theorem firstAction_unbound {env : Environment} {rule : Rule} {features : List Feature}
    {rejection : Rejection} (failed : firstAction env rule features = .error rejection)
    : rejection.recordId? = none := by
  induction features with
  | nil => cases failed
  | cons feature features ih =>
      rw [firstAction] at failed
      split at failed
      · exact ih failed
      · split at failed
        · rename_i refused
          rw [← Except.error.inj failed]
          exact featureAction_unbound refused
        · cases failed
        · exact ih failed

/-- A rule acts by a feature: it is on and has an action, and none that is asked before it has
one.
-/
structure ActsBy (env : Environment) (rule : Rule) (features : List Feature) (feature : Feature)
    (action : Action) : Prop where
  listed : feature ∈ features
  enabled : rule.enabled.contains feature = true
  acts : featureAction env rule feature = .ok (some action)
  first : ∀ earlier ∈ features.takeWhile (· ≠ feature), rule.enabled.contains earlier = true
    → featureAction env rule earlier = .ok none

/-- A feature that is off or does nothing is passed over. -/
theorem ActsBy.cons {env : Environment} {rule : Rule} {features : List Feature}
    {feature other : Feature} {action : Action} (acting : ActsBy env rule features other action)
    (idle : rule.enabled.contains feature = true → featureAction env rule feature = .ok none)
    : ActsBy env rule (feature :: features) other action where
  listed := List.mem_cons_of_mem feature acting.listed
  enabled := acting.enabled
  acts := acting.acts
  first := by
    intro earlier before
    have differs : feature ≠ other := by
      intro same
      subst same
      cases (idle acting.enabled).symm.trans acting.acts
    rw [List.takeWhile_cons_of_pos (by simpa using differs)] at before
    rcases List.mem_cons.mp before with here | later
    · exact here ▸ idle
    · exact acting.first earlier later

/-- A rule acts by a feature, or no feature does anything and it blocks; by induction on the
features.
-/
theorem firstAction_cases {env : Environment} {rule : Rule} {features : List Feature}
    {action : Action} (acts : firstAction env rule features = .ok action)
    : action = .block ∧ (∀ feature ∈ features, rule.enabled.contains feature = true
          → featureAction env rule feature = .ok none)
      ∨ ∃ feature, ActsBy env rule features feature action := by
  induction features with
  | nil => exact Or.inl ⟨(Except.ok.inj acts).symm, by simp⟩
  | cons feature features ih =>
      have passed (idle : rule.enabled.contains feature = true
            → featureAction env rule feature = .ok none)
          (rest : firstAction env rule features = .ok action)
          : action = .block ∧ (∀ other ∈ feature :: features, rule.enabled.contains other = true
                → featureAction env rule other = .ok none)
            ∨ ∃ other, ActsBy env rule (feature :: features) other action := by
        rcases ih rest with ⟨blocks, none⟩ | ⟨other, acting⟩
        · exact Or.inl ⟨blocks, List.forall_mem_cons.mpr ⟨idle, none⟩⟩
        · exact Or.inr ⟨other, acting.cons idle⟩
      rw [firstAction] at acts
      split at acts
      · rename_i off
        exact passed (fun on => by simp [on] at off) acts
      · rename_i on
        split at acts
        · cases acts
        · rename_i own
          obtain rfl := Except.ok.inj acts
          exact Or.inr ⟨feature, List.mem_cons_self, by simpa using on, own, by simp⟩
        · rename_i idle
          exact passed (fun _ => idle) acts

/-- An action is that of a feature, or the rule blocks. -/
theorem firstAction_eq_ok {env : Environment} {rule : Rule} {features : List Feature}
    {action : Action} (acts : firstAction env rule features = .ok action)
    : action = .block
      ∨ ∃ feature ∈ features, rule.enabled.contains feature = true
          ∧ featureAction env rule feature = .ok (some action) := by
  rcases firstAction_cases acts with ⟨blocks, -⟩ | ⟨feature, acting⟩
  · exact Or.inl blocks
  · exact Or.inr ⟨feature, acting.listed, acting.enabled, acting.acts⟩

theorem draft_unbound {env : Environment} {rule : Rule} {rejection : Rejection}
    (failed : draft env rule = .error rejection)
    : rejection.recordId? = none := by
  rw [draft] at failed
  split at failed
  · rw [← Except.error.inj failed]
    rfl
  · rw [actionOf] at failed
    split at failed
    · cases failed
    · cases refused : firstAction env rule Feature.blockingOnly with
      | ok action => rw [refused] at failed; cases failed
      | error other =>
          rw [refused] at failed
          rw [← Except.error.inj failed]
          exact firstAction_unbound refused

theorem draft_eq_ok {env : Environment} {rule : Rule} {action : Action}
    {condition : Condition} (drafted : draft env rule = .ok (action, condition))
    : unsupportedModifier? rule = none ∧ actionOf env rule = .ok action
      ∧ condition = conditionOf env rule := by
  rw [draft] at drafted
  split at drafted
  · cases drafted
  · rename_i supported
    cases acts : actionOf env rule with
    | error rejection => rw [acts] at drafted; cases drafted
    | ok other =>
        rw [acts] at drafted
        obtain ⟨rfl, rfl⟩ := Prod.mk.inj (Except.ok.inj drafted)
        exact ⟨supported, rfl, rfl⟩

/-- What becomes of a rule: a record or a rejection. -/
structure Outcome where
  rule : Rule
  result : Except Rejection Record

namespace Outcome

/-- The record of an accepted rule. -/
def record? (outcome : Outcome) : Option Record :=
  match outcome.result with
  | .ok record => some record
  | .error _ => none

/-- The rejection of a rejected rule. -/
def rejection? (outcome : Outcome) : Option Rejection :=
  match outcome.result with
  | .ok _ => none
  | .error rejection => some rejection

/-- The id that was taken for a rule, be it accepted or not. -/
def id? (outcome : Outcome) : Option UInt32 :=
  match outcome.result with
  | .ok record => some record.id
  | .error rejection => rejection.recordId?

def place (outcome : Outcome) : Nat × Nat :=
  outcome.rule.place

end Outcome

/-- All that a conversion of one rule can do: refuse it without an id, or take one id and
check the record under it.
-/
theorem convertRule?_eq_some {env : Environment} {pool next : IdPool} {rule : Rule}
    {result : Except Rejection Record}
    (converted : convertRule? env pool rule = some (result, next))
    : (∃ rejection, result = .error rejection ∧ rejection.recordId? = none ∧ next = pool)
      ∨ ∃ id action, pool.allocate? rule.text = some (id, next)
          ∧ unsupportedModifier? rule = none ∧ actionOf env rule = .ok action
          ∧ result = accept env rule
              { id, priority := rule.priority, action, condition := conditionOf env rule } := by
  rw [convertRule?] at converted
  split at converted
  · rename_i rejection refused
    obtain ⟨rfl, rfl⟩ := Prod.mk.inj (Option.some.inj converted)
    exact Or.inl ⟨rejection, rfl, draft_unbound refused, rfl⟩
  · rename_i action condition drafted
    obtain ⟨supported, acts, rfl⟩ := draft_eq_ok drafted
    obtain ⟨⟨id, pool⟩, allocated, same⟩ := Option.map_eq_some_iff.mp converted
    obtain ⟨rfl, rfl⟩ := Prod.mk.inj same
    exact Or.inr ⟨id, action, allocated, supported, acts, rfl⟩

/-- A rule without an outcome has a draft, but found no free id for it. -/
theorem convertRule?_eq_none {env : Environment} {pool : IdPool} {rule : Rule}
    (stuck : convertRule? env pool rule = none)
    : (∃ drafted, draft env rule = .ok drafted) ∧ pool.allocate? rule.text = none := by
  rw [convertRule?] at stuck
  split at stuck
  · cases stuck
  · rename_i drafted
    exact ⟨⟨_, drafted⟩, Option.map_eq_none_iff.mp stuck⟩

/-- The id that a conversion takes is in range and was free, and the pool grows by it. -/
theorem convertRule?_id {env : Environment} {pool next : IdPool} {rule : Rule}
    {result : Except Rejection Record}
    (converted : convertRule? env pool rule = some (result, next))
    : next.taken = (Outcome.id? ⟨rule, result⟩).toList ++ pool.taken
      ∧ ∀ id ∈ Outcome.id? ⟨rule, result⟩,
          minId ≤ id ∧ id ≤ maxId ∧ id ∉ pool.taken := by
  rcases convertRule?_eq_some converted with
    ⟨rejection, rfl, unbound, rfl⟩ | ⟨id, action, allocated, -, -, checked⟩
  · simp [Outcome.id?, unbound]
  · obtain ⟨least, greatest, fresh, grown⟩ := IdPool.allocate?_eq_some allocated
    have own : Outcome.id? ⟨rule, result⟩ = some id := by
      cases result with
      | ok record =>
          rw [Outcome.id?, accept_eq_ok checked.symm]
      | error rejection => exact accept_eq_error checked.symm
    simp [own, grown, least, greatest, fresh]

theorem convertRule?_record {env : Environment} {pool next : IdPool} {rule : Rule}
    {record : Record} (converted : convertRule? env pool rule = some (.ok record, next))
    : actionOf env rule = .ok record.action ∧ record.condition = conditionOf env rule
      ∧ record.priority = rule.priority := by
  rcases convertRule?_eq_some converted with
    ⟨rejection, refused, -⟩ | ⟨id, action, -, -, acts, checked⟩
  · cases refused
  · rw [accept_eq_ok checked.symm]
    exact ⟨acts, rfl, rfl⟩

-----------------------------------------------------------------------------------------
-- Series of rules
-----------------------------------------------------------------------------------------

/-- Rules converted one after the other, with their outcomes and the pools before and
after.
-/
inductive Conversions (env : Environment)
    : IdPool → List Rule → List Outcome → IdPool → Prop
  | nil {pool : IdPool} : Conversions env pool [] [] pool
  | cons {pool next final : IdPool} {rule : Rule} {rules : List Rule}
      {result : Except Rejection Record} {outcomes : List Outcome}
      (converted : convertRule? env pool rule = some (result, next))
      (later : Conversions env next rules outcomes final)
      : Conversions env pool (rule :: rules) (⟨rule, result⟩ :: outcomes) final

namespace Conversions

variable {env : Environment} {pool next final : IdPool} {rules more : List Rule}
  {outcomes others : List Outcome}

theorem append (first : Conversions env pool rules outcomes next)
    (second : Conversions env next more others final)
    : Conversions env pool (rules ++ more) (outcomes ++ others) final := by
  induction first with
  | nil => exact second
  | cons converted _ ih => exact .cons converted (ih second)

/-- There is one outcome for each rule, in order. -/
theorem rules_eq (series : Conversions env pool rules outcomes final)
    : outcomes.map Outcome.rule = rules := by
  induction series with
  | nil => rfl
  | cons _ _ ih => rw [List.map_cons, ih]

/-- The pool grows by exactly the ids of the outcomes. -/
theorem taken (series : Conversions env pool rules outcomes final)
    : final.taken = (outcomes.filterMap Outcome.id?).reverse ++ pool.taken := by
  induction series with
  | nil => rfl
  | @cons pool next final rule rules result outcomes converted _ ih =>
      rw [ih, (convertRule?_id converted).1, List.filterMap_cons]
      cases Outcome.id? ⟨rule, result⟩ <;> simp

/-- The ids of a series are in range, distinct, and none was taken before. Witness: later
ids avoid the pool that earlier ones have joined.
-/
theorem ids (series : Conversions env pool rules outcomes final)
    : (outcomes.filterMap Outcome.id?).Nodup
      ∧ ∀ id ∈ outcomes.filterMap Outcome.id?,
          minId ≤ id ∧ id ≤ maxId ∧ id ∉ pool.taken := by
  induction series with
  | nil => simp
  | @cons pool next final rule rules result outcomes converted _ ih =>
      obtain ⟨distinct, valid⟩ := ih
      obtain ⟨grown, own⟩ := convertRule?_id converted
      rw [List.filterMap_cons]
      cases taken : Outcome.id? ⟨rule, result⟩ with
      | none =>
          simp only [taken, Option.toList_none, List.nil_append] at grown
          exact ⟨distinct, grown ▸ valid⟩
      | some id =>
          simp only [taken, Option.toList_some, List.singleton_append] at grown
          simp only [grown, List.mem_cons, not_or] at valid
          refine ⟨List.nodup_cons.mpr ⟨fun again => (valid id again).2.2.1 rfl, distinct⟩, ?_⟩
          intro other member
          rcases List.mem_cons.mp member with rfl | later
          · exact own other taken
          · obtain ⟨least, greatest, -, fresh⟩ := valid other later
            exact ⟨least, greatest, fresh⟩

theorem record (series : Conversions env pool rules outcomes final) {outcome : Outcome}
    {record : Record} (member : outcome ∈ outcomes) (accepted : outcome.record? = some record)
    : actionOf env outcome.rule = .ok record.action
      ∧ record.condition = conditionOf env outcome.rule
      ∧ record.priority = outcome.rule.priority := by
  induction series with
  | nil => cases member
  | @cons pool next final rule rules result outcomes converted _ ih =>
      rcases List.mem_cons.mp member with rfl | later
      · cases result with
        | error rejection => cases accepted
        | ok other =>
            obtain rfl := Option.some.inj accepted
            exact convertRule?_record converted
      · exact ih later

end Conversions

/-- A series that ends early: the next rule has a draft, but every salt of its text leads to
an id that is reserved or taken by then.
-/
def Stuck (env : Environment) (pool : IdPool) (rules : List Rule) (text : String)
    (final : IdPool) : Prop :=
  ∃ before rule after outcomes, rules = before ++ rule :: after
    ∧ Conversions env pool before outcomes final
    ∧ rule.text = text ∧ (∃ drafted, draft env rule = .ok drafted)
    ∧ ∀ salt < 4294967296, IdPool.textId (IdPool.salted text salt) < minId
        ∨ IdPool.textId (IdPool.salted text salt) ∈ final.taken

namespace Stuck

variable {env : Environment} {pool next final : IdPool} {rules more : List Rule}
  {text : String}

theorem head {rule : Rule} (none : convertRule? env pool rule = none)
    : Stuck env pool (rule :: rules) rule.text pool := by
  obtain ⟨drafted, unallocated⟩ := convertRule?_eq_none none
  exact ⟨[], rule, rules, [], rfl, .nil, rfl, drafted, IdPool.allocate?_eq_none.mp unallocated⟩

theorem append_right (stuck : Stuck env pool rules text final) (more : List Rule)
    : Stuck env pool (rules ++ more) text final := by
  obtain ⟨before, rule, after, outcomes, rfl, rest⟩ := stuck
  exact ⟨before, rule, after ++ more, outcomes, by simp, rest⟩

theorem append_left {outcomes : List Outcome} (series : Conversions env pool rules outcomes next)
    (stuck : Stuck env next more text final)
    : Stuck env pool (rules ++ more) text final := by
  obtain ⟨before, rule, after, others, rfl, follow, rest⟩ := stuck
  exact ⟨rules ++ before, rule, after, outcomes ++ others, by simp, series.append follow, rest⟩

end Stuck

end Blocklist.Conversion
