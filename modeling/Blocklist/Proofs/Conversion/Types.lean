import Blocklist.Proofs.Conversion.WellFormed
import Blocklist.Proofs.Rule.Modifiers
import Blocklist.Scan
import Mathlib.Data.Option.Basic

/-! Resource types of accepted records. The types that a condition lists and those it excludes
are decided apart from one another and apart from the action, so a record may be about no type
at all, and an exception for whole pages may be about more than pages.
-/

namespace Blocklist

open Declarative

/-- A condition is about a type: the type is listed, if any are, and it is not excluded. -/
def Declarative.Condition.IsAbout (condition : Condition) (type : ResourceType) : Prop :=
  (∀ types ∈ condition.resourceTypes, type ∈ types)
    ∧ ∀ types ∈ condition.excludedResourceTypes, type ∉ types

namespace Conversion

variable {env : Environment} {pool next : IdPool} {filter : Filter} {origin : Origin}
  {rule : Rule} {record : Record}

-----------------------------------------------------------------------------------------
-- Records that are about a type
-----------------------------------------------------------------------------------------

theorem mem_withPages {types : List ResourceType} {type : ResourceType}
    : type ∈ (if types.contains .mainFrame then types else types ++ [.mainFrame])
      ↔ type ∈ types ∨ type = .mainFrame := by
  split
  · rename_i listed
    constructor
    · exact Or.inl
    · intro either
      rcases either with inside | page
      · exact inside
      · exact page ▸ List.contains_iff_mem.mp listed
  · simp

theorem isAbout_of_unrestricted (unrestricted : rule.types.restricted = [])
    : ∃ type, (conditionOf env rule).IsAbout type := by
  have unset : (conditionOf env rule).excludedResourceTypes = none := by
    simp [conditionOf, excludedTypes?, unrestricted]
  cases listed : types? rule with
  | none => exact ⟨.mainFrame, by simp [conditionOf, listed], by simp [unset]⟩
  | some types =>
      have filled : types ≠ [] := by
        intro none
        exact types?_filled rule (listed.trans (congrArg some none))
      obtain ⟨type, inside⟩ := List.exists_mem_of_ne_nil types filled
      exact ⟨type, by simpa [conditionOf, listed] using inside, by simp [unset]⟩

/-- A rule that excludes types lists none but whole pages, and these for popups only. -/
theorem types?_of_restricted (excludes : rule.types.restricted ≠ [])
    : types? rule
      = if rule.enabled.contains .popup then some [.mainFrame] else none := by
  have unnamed : namedTypes? rule = none := by simp [namedTypes?, excludes]
  cases popup : rule.enabled.contains .popup <;> simp [types?, unnamed, popup]

theorem isAbout_of_restricted (excludes : rule.types.restricted ≠ []) (type : ResourceType)
    : (conditionOf env rule).IsAbout type
      ↔ rule.enabled.contains .popup = false ∧ type ≠ .mainFrame
        ∧ type ∉ rule.types.restricted := by
  have excluded : (conditionOf env rule).excludedResourceTypes
      = some (if rule.types.restricted.contains .mainFrame then rule.types.restricted
          else rule.types.restricted ++ [.mainFrame]) := by
    simp [conditionOf, excludedTypes?, excludes]
  have listed : (conditionOf env rule).resourceTypes
      = if rule.enabled.contains .popup then some [.mainFrame] else none :=
    types?_of_restricted excludes
  simp only [Condition.IsAbout, excluded, listed, Option.mem_def, Option.some.injEq,
    forall_eq', mem_withPages]
  -- with popups the only type that is listed is the one that is always excluded
  cases rule.enabled.contains .popup with
  | true => simp +contextual
  | false => simp [and_comm]

/-- Which records are about some type: those of rules that exclude no type, and those of rules
without popups that leave one besides whole pages.
-/
theorem exists_isAbout_iff (env : Environment) (rule : Rule)
    : (∃ type, (conditionOf env rule).IsAbout type)
      ↔ rule.types.restricted = []
        ∨ rule.enabled.contains .popup = false
          ∧ ∃ type, type ≠ .mainFrame ∧ type ∉ rule.types.restricted := by
  by_cases unrestricted : rule.types.restricted = []
  · simp [unrestricted, isAbout_of_unrestricted unrestricted]
  · simp [unrestricted, isAbout_of_restricted unrestricted]

/-- An accepted record is about some type exactly when its filter excludes no type, or excludes
some, does not ask for popups and leaves a type besides whole pages. The check of records does
not see the other ones: with exclusions whole pages are always excluded, and popups list nothing
else.
-/
theorem accepted_about_some_type_iff (built : Rule.ofFilter filter origin = .ok rule)
    (converted : convertRule? env pool rule = some (.ok record, next))
    : (∃ type, record.condition.IsAbout type)
      ↔ (∀ type : ResourceType, ¬filter.Has type.modifier true)
        ∨ ¬filter.Has "popup" false
          ∧ ∃ type : ResourceType, type ≠ .mainFrame ∧ ¬filter.Has type.modifier true := by
  obtain ⟨-, condition, -⟩ := convertRule?_record converted
  have excluded (type : ResourceType)
      : type ∈ rule.types.restricted ↔ filter.Has type.modifier true :=
    Rule.ofFilter_mem_types built type true
  have popups : rule.enabled.contains .popup = true ↔ filter.Has "popup" false :=
    Rule.ofFilter_contains_enabled built (by decide)
  rw [condition, exists_isAbout_iff, List.eq_nil_iff_forall_not_mem, ← Bool.not_eq_true, popups]
  simp only [excluded]

/-- A filter that excludes whole pages and scripts by name. -/
def scriptless : Filter where
  exception := false
  pattern := "||a^"
  modifiers :=
    [{ name := "document", negated := true }, { name := "script", negated := true },
      { name := "popup", negated := true }]

/-- The rule of that filter. -/
def scriptlessRule : Rule where
  origin := {}
  text := "||a^$~document,~script,~popup"
  pattern := "||a^"
  exception := false
  disabled := FeatureSet.empty.insert .popup
  types := { restricted := [.mainFrame, .script] }

/-- The record of that rule. -/
def scriptlessRecord : Record where
  id := IdPool.textId scriptlessRule.text
  priority := 1
  action := .block
  condition :=
    { urlFilter := some "||a^"
      excludedResourceTypes := some [.mainFrame, .script] }

/-- Popups that are switched off leave the record with types to be about. -/
theorem accepted_about_some_type_of_scriptless
    : Line.ofString scriptlessRule.text = .network scriptless
      ∧ Rule.ofFilter scriptless {} = .ok scriptlessRule
      ∧ convertRule? casedOnly {} scriptlessRule
        = some (.ok scriptlessRecord, ⟨[scriptlessRecord.id]⟩)
      ∧ ∃ type, scriptlessRecord.condition.IsAbout type := by
  have built : Rule.ofFilter scriptless {} = .ok scriptlessRule := by decide +kernel
  have converted : convertRule? casedOnly {} scriptlessRule
      = some (.ok scriptlessRecord, ⟨[scriptlessRecord.id]⟩) := by decide +kernel
  have left : ¬scriptless.Has "popup" false
      ∧ ∃ type : ResourceType, type ≠ .mainFrame ∧ ¬scriptless.Has type.modifier true :=
    ⟨by decide, .image, by decide, by decide⟩
  exact ⟨by decide +kernel, built, converted,
    (accepted_about_some_type_iff built converted).mpr (Or.inr left)⟩

/-- A filter for popups that excludes scripts. -/
def scriptlessPopups : Filter where
  exception := false
  pattern := "||a^"
  modifiers := [{ name := "script", negated := true }, { name := "popup" }]

/-- The rule of that filter. -/
def scriptlessPopupsRule : Rule where
  origin := {}
  text := "||a^$~script,popup"
  pattern := "||a^"
  exception := false
  enabled := FeatureSet.empty.insert .popup
  types := { restricted := [.script] }

/-- The record of that rule, which lists whole pages and excludes them. -/
def scriptlessPopupsRecord : Record where
  id := IdPool.textId scriptlessPopupsRule.text
  priority := 1
  action := .block
  condition :=
    { urlFilter := some "||a^"
      resourceTypes := some [.mainFrame]
      excludedResourceTypes := some [.script, .mainFrame] }

/-- A line may be accepted with a record that is about no type. -/
theorem accepted_about_no_type
    : Line.ofString scriptlessPopupsRule.text = .network scriptlessPopups
      ∧ scriptlessPopups ∈ scriptlessPopups.expand
      ∧ Rule.ofFilter scriptlessPopups {} = .ok scriptlessPopupsRule
      ∧ convertRule? casedOnly {} scriptlessPopupsRule
        = some (.ok scriptlessPopupsRecord, ⟨[scriptlessPopupsRecord.id]⟩)
      ∧ (∀ type, ¬scriptlessPopupsRecord.condition.IsAbout type)
      ∧ ¬∀ (text : String) (written part : Filter) (origin : Origin) (rule : Rule)
            (env : Environment) (pool next : IdPool) (record : Record),
          Line.ofString text = .network written → part ∈ written.expand
          → Rule.ofFilter part origin = .ok rule
          → convertRule? env pool rule = some (.ok record, next)
          → ∃ type, record.condition.IsAbout type := by
  have read : Line.ofString scriptlessPopupsRule.text = .network scriptlessPopups := by
    decide +kernel
  have expanded : scriptlessPopups ∈ scriptlessPopups.expand := by decide +kernel
  have built : Rule.ofFilter scriptlessPopups {} = .ok scriptlessPopupsRule := by
    decide +kernel
  have converted : convertRule? casedOnly {} scriptlessPopupsRule
      = some (.ok scriptlessPopupsRecord, ⟨[scriptlessPopupsRecord.id]⟩) := by decide +kernel
  have none : ∀ type, ¬scriptlessPopupsRecord.condition.IsAbout type := by
    intro type ⟨listed, excluded⟩
    have page := List.mem_singleton.mp (listed [.mainFrame] rfl)
    exact excluded [.script, .mainFrame] rfl (by simp [page])
  refine ⟨read, expanded, built, converted, none, ?_⟩
  intro always
  obtain ⟨type, about⟩ := always _ _ _ _ _ _ _ _ _ read expanded built converted
  exact none type about

-----------------------------------------------------------------------------------------
-- Exceptions for whole pages
-----------------------------------------------------------------------------------------

/-- Only supported rules are accepted. -/
theorem convertRule?_supported
    (converted : convertRule? env pool rule = some (.ok record, next))
    : unsupportedModifier? rule = none := by
  rcases convertRule?_eq_some converted with ⟨rejection, refused, -⟩ | ⟨_, _, -, supported, -⟩
  · cases refused
  · exact supported

/-- A supported exception has no feature that changes a request or a response. -/
theorem contains_blockingOnly (supported : unsupportedModifier? rule = none)
    (exception : rule.exception = true) (feature : Feature)
    (listed : feature ∈ Feature.blockingOnly)
    : rule.enabled.contains feature = false := by
  simp only [unsupportedModifier?, exception, if_true, Option.orElse_eq_none,
    Option.map_eq_none_iff, List.head?_eq_none_iff] at supported
  obtain ⟨-, none, -⟩ := supported
  by_contra enabled
  have among : feature ∈ rule.enabled.among Feature.blockingOnly := by
    simp only [FeatureSet.among, FeatureSet.toList, List.mem_filter]
    exact ⟨⟨feature.mem_all, by simpa using enabled⟩, List.contains_iff_mem.mpr listed⟩
  rw [none] at among
  cases among

/-- Of the features that decide on types a supported exception can have two only. -/
theorem namedTypes?_of_exception (supported : unsupportedModifier? rule = none)
    (exception : rule.exception = true) (unrestricted : rule.types.restricted = [])
    : namedTypes? rule
      = if rule.types.permitted ≠ [] then some rule.types.permitted
        else if rule.enabled.meets [.targets, .method] then some ResourceType.all
        else none := by
  have off := contains_blockingOnly supported exception
  have all : rule.enabled.meets allTypesFeatures = rule.enabled.meets [.targets, .method] := by
    simp [FeatureSet.meets, allTypesFeatures, off .removeheader (by decide),
      off .csp (by decide), off .cookie (by decide)]
  have documents : rule.enabled.meets documentFeatures = false := by
    simp [FeatureSet.meets, documentFeatures, off .removeparam (by decide),
      off .permissions (by decide)]
  simp [namedTypes?, unrestricted, all, documents]

/-- Adding whole pages keeps types of documents. -/
theorem types?_documents
    (named : ∀ types ∈ namedTypes? rule, ∀ type ∈ types, type ∈ ResourceType.documents)
    : ∀ types ∈ types? rule, ∀ type ∈ types, type ∈ ResourceType.documents := by
  rw [types?]
  split
  · exact named
  · rintro _ ⟨⟩ type listed
    rcases mem_withPages.mp listed with inside | page
    · cases given : namedTypes? rule with
      | none => simp [given] at inside
      | some types => exact named types given type (by simpa [given] using inside)
    · rw [page]
      decide

/-- An exception that permits documents only lists documents only, if it names a type or asks
neither for targets nor for methods.
-/
theorem types?_documents_of_exception (supported : unsupportedModifier? rule = none)
    (exception : rule.exception = true)
    (permitted : ∀ type ∈ rule.types.permitted, type ∈ ResourceType.documents)
    (named : rule.types.permitted ≠ [] ∨ rule.types.restricted ≠ []
      ∨ rule.enabled.meets [.targets, .method] = false)
    : ∀ types ∈ types? rule, ∀ type ∈ types, type ∈ ResourceType.documents := by
  refine types?_documents ?_
  by_cases unrestricted : rule.types.restricted = []
  · rw [namedTypes?_of_exception supported exception unrestricted]
    split
    · rintro _ ⟨⟩
      exact permitted
    · rename_i unnamed
      have untargeted : rule.enabled.meets [.targets, .method] = false := by
        simpa [unnamed, unrestricted] using named
      simp [untargeted]
  · simp [namedTypes?, unrestricted]

theorem types?_all_of_exception (supported : unsupportedModifier? rule = none)
    (exception : rule.exception = true) (unnamed : rule.types.permitted = [])
    (unrestricted : rule.types.restricted = [])
    (targeted : rule.enabled.meets [.targets, .method] = true)
    : types? rule = some ResourceType.all := by
  have named : namedTypes? rule = some ResourceType.all := by
    simp [namedTypes?_of_exception supported exception unrestricted, unnamed, targeted]
  have pages : .mainFrame ∈ ResourceType.all := by decide
  rw [types?]
  split
  · exact named
  · simp [named, pages]

/-- An exception lets whole pages through only if it permits nothing but documents. -/
theorem exceptionAction_eq_allowAllRequests
    (acts : exceptionAction rule = .allowAllRequests)
    : ∀ type ∈ rule.types.permitted, type ∈ ResourceType.documents := by
  rw [exceptionAction] at acts
  split at acts
  · rename_i whole
    simpa [ResourceType.documents] using (Bool.and_eq_true_iff.mp whole).2
  · cases acts

/-- The modifiers that are about requests of every type, when no type is named in an exception. -/
theorem meets_targets_iff (built : Rule.ofFilter filter origin = .ok rule)
    : rule.enabled.meets [.targets, .method] = true
      ↔ filter.Has "to" false ∨ filter.Has "method" false := by
  have targets : rule.enabled.contains .targets = true ↔ filter.Has "to" false :=
    Rule.ofFilter_contains_enabled built (by decide)
  have method : rule.enabled.contains .method = true ↔ filter.Has "method" false :=
    Rule.ofFilter_contains_enabled built (by decide)
  simpa [FeatureSet.meets] using or_congr targets method

/-- The types of exceptions that let whole pages through. They are documents, if the filter
names a type, be it to exclude it, or has neither of the modifiers that are about requests of
every type by themselves. An exception that has one of these and names no type is about all.
-/
theorem allowAllRequests_about_documents (built : Rule.ofFilter filter origin = .ok rule)
    (exception : filter.exception = true)
    (converted : convertRule? env pool rule = some (.ok record, next))
    (acts : record.action = .allowAllRequests)
    : ((∃ (type : ResourceType) (negated : Bool), filter.Has type.modifier negated)
          ∨ ¬filter.Has "to" false ∧ ¬filter.Has "method" false
        → ∀ types ∈ record.condition.resourceTypes, ∀ type ∈ types,
            type = .mainFrame ∨ type = .subFrame)
      ∧ ((∀ (type : ResourceType) (negated : Bool), ¬filter.Has type.modifier negated)
        → filter.Has "to" false ∨ filter.Has "method" false
        → record.condition.resourceTypes = some ResourceType.all) := by
  have allowing : rule.exception = true :=
    (Rule.ofFilter_sameFilter built).exception.trans exception
  obtain ⟨action, condition, -⟩ := convertRule?_record converted
  have supported := convertRule?_supported converted
  have permitted : ∀ type ∈ rule.types.permitted, type ∈ ResourceType.documents := by
    rw [actionOf, if_pos allowing, acts] at action
    exact exceptionAction_eq_allowAllRequests (Except.ok.inj action)
  have named (type : ResourceType) (negated : Bool)
      : type ∈ rule.types.side negated ↔ filter.Has type.modifier negated :=
    Rule.ofFilter_mem_types built type negated
  have targeted := meets_targets_iff built
  have resourceTypes : record.condition.resourceTypes = types? rule := by rw [condition]; rfl
  rw [resourceTypes]
  refine ⟨?_, ?_⟩
  · intro narrow types listed type inside
    have documents := types?_documents_of_exception supported allowing permitted (by
      rcases narrow with ⟨type, negated, has⟩ | untargeted
      · have member := (named type negated).mpr has
        cases negated with
        | false => exact Or.inl (List.ne_nil_of_mem member)
        | true => exact Or.inr (Or.inl (List.ne_nil_of_mem member))
      · refine Or.inr (Or.inr ?_)
        rw [← Bool.not_eq_true, targeted, not_or]
        exact untargeted)
    simpa [ResourceType.documents] using documents types listed type inside
  · intro unnamed wide
    have side (negated : Bool) : rule.types.side negated = [] := by
      rw [List.eq_nil_iff_forall_not_mem]
      intro type member
      exact unnamed type negated ((named type negated).mp member)
    exact types?_all_of_exception supported allowing (side false) (side true)
      (targeted.mpr wide)

/-- An exception that switches off all filtering part by part, for requests of one method. -/
def unfiltered : Filter where
  exception := true
  pattern := "||a^"
  modifiers :=
    [{ name := "elemhide" }, { name := "content" }, { name := "urlblock" }, { name := "jsinject" },
      { name := "method", value := some "get" }]

/-- The rule of that exception. -/
def unfilteredRule : Rule where
  origin := {}
  text := "@@||a^$elemhide,content,urlblock,jsinject,method=get"
  pattern := "||a^"
  exception := true
  enabled := FeatureSet.empty.insertAll [.elemhide, .content, .urlblock, .jsinject, .method]
  methods := { permitted := [.get] }

/-- The record of that rule. -/
def unfilteredRecord : Record where
  id := IdPool.textId unfilteredRule.text
  priority := 1
  action := .allowAllRequests
  condition :=
    { urlFilter := some "||a^"
      resourceTypes := some ResourceType.all
      requestMethods := some [.get] }

/-- The same exception for frames and popups. -/
def unfilteredFrames : Filter :=
  { unfiltered with
    modifiers := unfiltered.modifiers ++ [{ name := "subdocument" }, { name := "popup" }] }

/-- The rule of the exception for frames and popups. -/
def unfilteredFramesRule : Rule :=
  { unfilteredRule with
    text := "@@||a^$elemhide,content,urlblock,jsinject,method=get,subdocument,popup"
    enabled := unfilteredRule.enabled.insert .popup
    types := { permitted := [.subFrame] } }

/-- The record of that rule. -/
def unfilteredFramesRecord : Record :=
  { unfilteredRecord with
    id := IdPool.textId unfilteredFramesRule.text
    condition := { unfilteredRecord.condition with resourceTypes := some [.subFrame, .mainFrame] } }

/-- A type that is named keeps the exception from being about all types. -/
theorem allowAllRequests_about_frames
    : Line.ofString unfilteredFramesRule.text = .network unfilteredFrames
      ∧ Rule.ofFilter unfilteredFrames {} = .ok unfilteredFramesRule
      ∧ convertRule? casedOnly {} unfilteredFramesRule
        = some (.ok unfilteredFramesRecord, ⟨[unfilteredFramesRecord.id]⟩)
      ∧ ∀ types ∈ unfilteredFramesRecord.condition.resourceTypes, ∀ type ∈ types,
          type = .mainFrame ∨ type = .subFrame := by
  have built : Rule.ofFilter unfilteredFrames {} = .ok unfilteredFramesRule := by
    decide +kernel
  have converted : convertRule? casedOnly {} unfilteredFramesRule
      = some (.ok unfilteredFramesRecord, ⟨[unfilteredFramesRecord.id]⟩) := by decide +kernel
  obtain ⟨documents, -⟩ := allowAllRequests_about_documents built rfl converted rfl
  exact ⟨by decide +kernel, built, converted,
    documents (Or.inl ⟨.subFrame, false, by decide⟩)⟩

/-- Without one, the method makes an exception for whole pages one for scripts as well. -/
theorem allowAllRequests_about_scripts
    : Line.ofString unfilteredRule.text = .network unfiltered
      ∧ unfiltered ∈ unfiltered.expand
      ∧ Rule.ofFilter unfiltered {} = .ok unfilteredRule
      ∧ convertRule? casedOnly {} unfilteredRule
        = some (.ok unfilteredRecord, ⟨[unfilteredRecord.id]⟩)
      ∧ ¬∀ (text : String) (written part : Filter) (origin : Origin) (rule : Rule)
            (env : Environment) (pool next : IdPool) (record : Record),
          Line.ofString text = .network written → part ∈ written.expand
          → Rule.ofFilter part origin = .ok rule → rule.exception = true
          → convertRule? env pool rule = some (.ok record, next)
          → record.action = .allowAllRequests
          → ∀ types ∈ record.condition.resourceTypes, ∀ type ∈ types,
              type = .mainFrame ∨ type = .subFrame := by
  have read : Line.ofString unfilteredRule.text = .network unfiltered := by decide +kernel
  have expanded : unfiltered ∈ unfiltered.expand := by decide +kernel
  have built : Rule.ofFilter unfiltered {} = .ok unfilteredRule := by decide +kernel
  have converted : convertRule? casedOnly {} unfilteredRule
      = some (.ok unfilteredRecord, ⟨[unfilteredRecord.id]⟩) := by decide +kernel
  refine ⟨read, expanded, built, converted, ?_⟩
  intro documents
  have pages := documents _ _ _ _ _ _ _ _ _ read expanded built rfl converted rfl
    ResourceType.all rfl .script (by decide)
  simp at pages

end Conversion

end Blocklist
