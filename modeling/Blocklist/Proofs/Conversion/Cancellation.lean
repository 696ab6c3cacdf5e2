import Blocklist.Proofs.Alike
import Blocklist.Proofs.Conversion.Increments
import Blocklist.Proofs.Rule.Spelling

/-! What cancelled rules would have done. A badfilter rule spells out what the rules it cancels
spell out, so it is supported when they are and it has their condition. Their action it has as
long as that does not hang on the header they remove, which is not compared.
-/

namespace Blocklist

open Declarative

-----------------------------------------------------------------------------------------
-- Features of rules that spell out the same
-----------------------------------------------------------------------------------------

namespace Rule.SameSpelling

variable {rule other : Rule} {features : List Feature}

theorem contains_of_mem (same : rule.SameSpelling other) (plain : .badfilter ∉ features)
    : ∀ feature ∈ features, rule.enabled.contains feature = other.enabled.contains feature := by
  intro feature listed
  exact same.enabled feature fun equal => plain (equal ▸ listed)

theorem among (same : rule.SameSpelling other) (plain : .badfilter ∉ features)
    : rule.enabled.among features = other.enabled.among features := by
  simp only [FeatureSet.among, FeatureSet.toList, List.filter_filter]
  apply List.filter_congr
  intro feature _
  by_cases listed : feature ∈ features
  · simp [same.contains_of_mem plain feature listed]
  · simp [listed]

theorem meets (same : rule.SameSpelling other) (plain : .badfilter ∉ features)
    : rule.enabled.meets features = other.enabled.meets features := by
  rw [Bool.eq_iff_iff]
  simp only [FeatureSet.meets, List.any_eq_true]
  refine exists_congr fun feature => and_congr_right fun listed => ?_
  simp [same.contains_of_mem plain feature listed]

theorem includes (same : rule.SameSpelling other) (plain : .badfilter ∉ features)
    : rule.enabled.includes features = other.enabled.includes features := by
  rw [Bool.eq_iff_iff]
  simp only [FeatureSet.includes, List.all_eq_true]
  refine forall₂_congr fun feature listed => ?_
  simp [same.contains_of_mem plain feature listed]

end Rule.SameSpelling

namespace Conversion

variable {negation rule : Rule}

/-- Rules that spell out the same are supported alike. -/
theorem unsupportedModifier?_eq (same : negation.SameSpelling rule)
    : unsupportedModifier? negation = unsupportedModifier? rule := by
  have unsupported := same.among (show .badfilter ∉ Feature.unsupported by decide)
  have blocking := same.among (show .badfilter ∉ Feature.blockingOnly by decide)
  have cookie := same.enabled .cookie (by decide)
  have removeparam := same.enabled .removeparam (by decide)
  simp only [unsupportedModifier?, unsupported, blocking, cookie, removeparam, same.exception,
    same.advancedValue]

-----------------------------------------------------------------------------------------
-- Conditions up to the order inside lists
-----------------------------------------------------------------------------------------

/-- Conditions with the same filters, whose lists are set alike and have the same entries, as
often and in any order.
-/
structure SameUpToOrder (condition other : Condition) : Prop where
  urlFilter : condition.urlFilter = other.urlFilter
  regexFilter : condition.regexFilter = other.regexFilter
  isUrlFilterCaseSensitive
    : condition.isUrlFilterCaseSensitive = other.isUrlFilterCaseSensitive
  domainType : condition.domainType = other.domainType
  initiatorDomains : Option.Rel List.Perm condition.initiatorDomains other.initiatorDomains
  excludedInitiatorDomains
    : Option.Rel List.Perm condition.excludedInitiatorDomains other.excludedInitiatorDomains
  requestDomains : Option.Rel List.Perm condition.requestDomains other.requestDomains
  excludedRequestDomains
    : Option.Rel List.Perm condition.excludedRequestDomains other.excludedRequestDomains
  resourceTypes : Option.Rel List.Perm condition.resourceTypes other.resourceTypes
  excludedResourceTypes
    : Option.Rel List.Perm condition.excludedResourceTypes other.excludedResourceTypes
  requestMethods : Option.Rel List.Perm condition.requestMethods other.requestMethods
  excludedRequestMethods
    : Option.Rel List.Perm condition.excludedRequestMethods other.excludedRequestMethods

theorem nonEmpty?_perm {α : Type} {values others : List α} (same : values.Perm others)
    : Option.Rel List.Perm (nonEmpty? values) (nonEmpty? others) := by
  simp only [nonEmpty?, same.isEmpty_eq]
  split
  · exact .none
  · exact .some same

theorem asciiDomains?_perm (env : Environment) {domains others : List String}
    (same : domains.Perm others)
    : Option.Rel List.Perm (asciiDomains? env domains) (asciiDomains? env others) :=
  nonEmpty?_perm (same.map (Host.toAscii env.encodeLabel?))

/-- Whole pages are added to types in any order. -/
theorem withPages_perm {types others : List ResourceType} (same : types.Perm others)
    : (if types.contains .mainFrame then types else types ++ [.mainFrame]).Perm
        (if others.contains .mainFrame then others else others ++ [.mainFrame]) := by
  simp only [List.contains_eq_mem, same.mem_iff]
  split
  · exact same
  · exact same.append_right _

theorem excludedTypes?_perm (same : negation.SameSpelling rule)
    : Option.Rel List.Perm (excludedTypes? negation) (excludedTypes? rule) := by
  simp only [excludedTypes?, same.types.restricted.isEmpty_eq]
  split
  · exact .none
  · exact .some (withPages_perm same.types.restricted)

theorem namedTypes?_perm (same : negation.SameSpelling rule)
    : Option.Rel List.Perm (namedTypes? negation) (namedTypes? rule) := by
  have all := same.meets (show .badfilter ∉ allTypesFeatures by decide)
  have documents := same.meets (show .badfilter ∉ documentFeatures by decide)
  simp only [namedTypes?, same.types.restricted.isEmpty_eq, same.types.permitted.isEmpty_eq, all,
    documents]
  split
  · exact .none
  · split
    · exact .some same.types.permitted
    · split
      · exact .some .rfl
      · split
        · exact .some .rfl
        · exact .none

theorem types?_perm (same : negation.SameSpelling rule)
    : Option.Rel List.Perm (types? negation) (types? rule) := by
  have named := namedTypes?_perm same
  simp only [types?, same.enabled .popup (by decide)]
  split
  · exact named
  · generalize namedTypes? negation = types, namedTypes? rule = others at named
    cases named with
    | none => exact .some .rfl
    | some related => exact .some (withPages_perm related)

theorem excludedTargets_perm (same : negation.SameSpelling rule)
    : (excludedTargets negation).Perm (excludedTargets rule) := by
  simp only [excludedTargets, same.denyallow.isEmpty_eq]
  split
  · exact same.targets.restricted
  · exact same.denyallow

/-- Rules that spell out the same have the same condition up to the order inside lists. -/
theorem conditionOf_sameUpToOrder (env : Environment) (same : negation.SameSpelling rule)
    : SameUpToOrder (conditionOf env negation) (conditionOf env rule) where
  urlFilter := by simp only [conditionOf, urlFilter?, same.pattern]
  regexFilter := by simp only [conditionOf, regexFilter?, same.pattern]
  isUrlFilterCaseSensitive := by
    simp only [conditionOf, same.enabled .matchCase (by decide)]
  domainType := by
    simp only [conditionOf, party?, same.enabled .thirdParty (by decide), same.disabled]
  initiatorDomains := asciiDomains?_perm env (same.domains.permitted.filter isPlainDomain)
  excludedInitiatorDomains := asciiDomains?_perm env same.domains.restricted
  requestDomains := asciiDomains?_perm env same.targets.permitted
  excludedRequestDomains := asciiDomains?_perm env (excludedTargets_perm same)
  resourceTypes := types?_perm same
  excludedResourceTypes := excludedTypes?_perm same
  requestMethods := nonEmpty?_perm same.methods.permitted
  excludedRequestMethods := nonEmpty?_perm same.methods.restricted

-----------------------------------------------------------------------------------------
-- Actions
-----------------------------------------------------------------------------------------

/-- Two rejections for one reason, of whichever rules. -/
inductive SameReason : Rejection → Rejection → Prop
  | missingResourcesPath (rule other : Rule)
    : SameReason (.missingResourcesPath rule) (.missingResourcesPath other)
  | ofCause (rule other : Rule) (cause : Cause)
    : SameReason (.ofCause rule cause) (.ofCause other cause)

theorem exceptionAction_eq (same : negation.SameSpelling rule)
    : exceptionAction negation = exceptionAction rule := by
  have parts := same.includes (show .badfilter ∉ Feature.documentParts by decide)
  rw [exceptionAction, exceptionAction, Rule.disablesFiltering, Rule.disablesFiltering, parts,
    same.types.permitted.all_eq]

variable {env : Environment} {features : List Feature}

/-- A feature does the same for rules with the same value; for the removal of a header the
headers have to be the same as well.
-/
theorem featureAction_alike (env : Environment)
    (value : negation.advancedValue = rule.advancedValue) (feature : Feature)
    (header : feature = .removeheader → negation.headerRemoval = rule.headerRemoval)
    : Alike SameReason Eq (featureAction env negation feature)
        (featureAction env rule feature) := by
  have filled : filledValue? negation = filledValue? rule := by
    simp only [filledValue?, value]
  cases feature with
  | redirect =>
      simp only [featureAction, redirectAction, filled]
      split
      · exact .ok rfl
      · split
        · exact .error (.missingResourcesPath negation rule)
        · split
          · exact .error (.ofCause negation rule _)
          · exact .ok rfl
  | removeparam =>
      simp only [featureAction, removeParamAction, value]
      split
      · exact .ok rfl
      · exact .ok rfl
      · split
        · exact .error (.ofCause negation rule _)
        · exact .ok rfl
  | removeheader =>
      refine .ok ?_
      simp only [removeHeaderAction, Rule.requestHeader?, Rule.responseHeader?, header rfl]
  | csp | permissions =>
      refine .ok ?_
      simp only [appendHeaderAction, filled]
  | _ => exact .ok rfl

theorem firstAction_alike (same : negation.SameSpelling rule) (plain : .badfilter ∉ features)
    (each : ∀ feature ∈ features, rule.enabled.contains feature = true
      → Alike SameReason Eq (featureAction env negation feature)
          (featureAction env rule feature))
    : Alike SameReason Eq (firstAction env negation features)
        (firstAction env rule features) := by
  induction features with
  | nil => exact .ok rfl
  | cons feature features ih =>
      have enabled := same.contains_of_mem plain feature List.mem_cons_self
      have later := ih (fun listed => plain (List.mem_cons_of_mem feature listed))
        (fun other listed => each other (List.mem_cons_of_mem feature listed))
      simp only [firstAction, enabled]
      split
      · exact later
      · rename_i own
        have first := each feature List.mem_cons_self (by simpa using own)
        generalize featureAction env negation feature = left,
          featureAction env rule feature = right at first
        cases first with
        | error related => exact .error related
        | @ok result other related =>
            subst related
            cases result with
            | none => exact later
            | some action => exact .ok rfl

/-- A feature that acts keeps those after it from being asked, by induction on the features
before them.
-/
theorem firstAction_append {feature : Feature} (listed : feature ∈ features)
    (enabled : rule.enabled.contains feature = true)
    (acts : featureAction env rule feature ≠ .ok none) (more : List Feature)
    : firstAction env rule (features ++ more) = firstAction env rule features := by
  induction features with
  | nil => cases listed
  | cons first features ih =>
      simp only [List.cons_append, firstAction]
      rcases List.mem_cons.mp listed with same | later
      · subst same
        simp only [enabled, Bool.not_true, Bool.false_eq_true, if_false]
        split
        · rfl
        · rfl
        · rename_i idle
          exact absurd idle acts
      · simp only [ih later]

/-- A feature that does nothing lets the next one be asked. -/
theorem firstAction_cons {feature : Feature}
    (idle : rule.enabled.contains feature = true → featureAction env rule feature = .ok none)
    (features : List Feature)
    : firstAction env rule (feature :: features) = firstAction env rule features := by
  simp only [firstAction]
  split
  · rfl
  · rename_i enabled
    simp only [idle (by simpa using enabled)]

theorem redirectAction_eq_none
    : redirectAction env rule = .ok none ↔ filledValue? rule = none := by
  simp only [redirectAction]
  split
  · rename_i unfilled
    simp [unfilled]
  · rename_i value filled
    simp only [filled, reduceCtorEq, iff_false]
    split
    · simp
    · split <;> simp

theorem removeParamAction_eq_none
    : removeParamAction rule = .ok none ↔ rule.advancedValue = none := by
  simp only [removeParamAction]
  split
  · rename_i unset
    simp [unset]
  · rename_i set
    simp [set]
  · rename_i value _ set
    simp only [set, reduceCtorEq, iff_false]
    split <;> simp

-----------------------------------------------------------------------------------------
-- The header that a rule removes
-----------------------------------------------------------------------------------------

/-- The action that removes a header. -/
def headerAction (header : HeaderRemoval) : Action :=
  if header.fromRequests then .modifyHeaders (some [removal header.name]) none
  else .modifyHeaders none (some [removal header.name])

theorem removeHeaderAction_eq (rule : Rule)
    : removeHeaderAction rule = rule.headerRemoval.map headerAction := by
  simp only [removeHeaderAction, Rule.requestHeader?, Rule.responseHeader?]
  cases rule.headerRemoval with
  | none => rfl
  | some header =>
      obtain ⟨name, fromRequests⟩ := header
      cases fromRequests <;> rfl

theorem headerAction_inj {header other : HeaderRemoval}
    (same : headerAction header = headerAction other)
    : header = other := by
  obtain ⟨name, fromRequests⟩ := header
  obtain ⟨name', fromRequests'⟩ := other
  cases fromRequests <;> cases fromRequests' <;> simp_all [headerAction, removal]

/-- Features that are asked after the removal of a header add headers or remove cookies. -/
theorem firstAction_ne_headerAction (env : Environment) (rule : Rule) (header : HeaderRemoval)
    : firstAction env rule [.csp, .permissions, .cookie] ≠ .ok (headerAction header) := by
  intro acts
  obtain ⟨name, fromRequests⟩ := header
  rcases firstAction_eq_ok acts with blocks | ⟨feature, listed, -, own⟩
  · cases fromRequests <;> cases blocks
  · simp only [List.mem_cons, List.not_mem_nil, or_false] at listed
    rcases listed with policy | permissions | cookies
    · subst policy
      obtain ⟨value, -, same⟩ := Option.map_eq_some_iff.mp (Except.ok.inj own)
      cases fromRequests <;> cases same
    · subst permissions
      obtain ⟨value, -, same⟩ := Option.map_eq_some_iff.mp (Except.ok.inj own)
      cases fromRequests <;> cases same
    · subst cookies
      have same := Option.some.inj (Except.ok.inj own)
      cases fromRequests <;> cases same

/-- A rule comes to remove its header: it is no exception, and its value makes it neither
redirect nor remove parameters.
-/
structure ComesToHeader (rule : Rule) : Prop where
  blocking : rule.exception = false
  removes : rule.enabled.contains .removeheader = true
  unredirected : rule.enabled.contains .redirect = true → filledValue? rule = none
  unpruned : rule.enabled.contains .removeparam = true → rule.advancedValue = none

theorem ComesToHeader.of_sameSpelling (same : negation.SameSpelling rule)
    (comes : ComesToHeader rule)
    : ComesToHeader negation where
  blocking := same.exception.trans comes.blocking
  removes := (same.enabled .removeheader (by decide)).trans comes.removes
  unredirected := by
    intro enabled
    simp only [filledValue?, same.advancedValue]
    exact comes.unredirected ((same.enabled .redirect (by decide)).symm.trans enabled)
  unpruned := by
    intro enabled
    exact same.advancedValue.trans
      (comes.unpruned ((same.enabled .removeparam (by decide)).symm.trans enabled))

/-- A rule that comes to its header removes it, if there is one. -/
theorem ComesToHeader.actionOf_eq (comes : ComesToHeader rule)
    : actionOf env rule
      = match rule.headerRemoval with
        | some header => .ok (headerAction header)
        | none => firstAction env rule [.csp, .permissions, .cookie] := by
  have redirect : rule.enabled.contains .redirect = true
      → featureAction env rule .redirect = .ok none :=
    fun enabled => redirectAction_eq_none.mpr (comes.unredirected enabled)
  have removeparam : rule.enabled.contains .removeparam = true
      → featureAction env rule .removeparam = .ok none :=
    fun enabled => removeParamAction_eq_none.mpr (comes.unpruned enabled)
  calc actionOf env rule
    _ = firstAction env rule Feature.blockingOnly := by
      simp [actionOf, comes.blocking]
    _ = firstAction env rule [.removeheader, .csp, .permissions, .cookie] := by
      rw [Feature.blockingOnly, firstAction_cons redirect, firstAction_cons removeparam]
    _ = _ := by
      simp only [firstAction.eq_2, featureAction, comes.removes, removeHeaderAction_eq]
      cases rule.headerRemoval <;> rfl

/-- A rule with a feature that acts before the removal of headers has a value for it. -/
theorem exists_acting_of_not_comesToHeader (env : Environment) (kept : ¬ComesToHeader rule)
    (blocking : rule.exception = false) (removes : rule.enabled.contains .removeheader = true)
    : ∃ feature ∈ [Feature.redirect, .removeparam], rule.enabled.contains feature = true
        ∧ featureAction env rule feature ≠ .ok none := by
  by_contra idle
  have acts : ∀ feature ∈ [Feature.redirect, .removeparam],
      rule.enabled.contains feature = true → featureAction env rule feature = .ok none := by
    intro feature listed enabled
    by_contra own
    exact idle ⟨feature, listed, enabled, own⟩
  refine kept ⟨blocking, removes, fun enabled => ?_, fun enabled => ?_⟩
  · exact redirectAction_eq_none.mp (acts .redirect (by simp) enabled)
  · exact removeParamAction_eq_none.mp (acts .removeparam (by simp) enabled)

/-- Rules that spell out the same act alike when they remove the same header, and when they do
not come to it: an earlier feature acts, or the removal is not asked for.
-/
theorem actionOf_alike (env : Environment) (same : negation.SameSpelling rule)
    (header : negation.headerRemoval = rule.headerRemoval ∨ ¬ComesToHeader rule)
    : Alike SameReason Eq (actionOf env negation) (actionOf env rule) := by
  simp only [actionOf, same.exception]
  split
  · exact .ok (exceptionAction_eq same)
  · rename_i blocking
    have plain : .badfilter ∉ Feature.blockingOnly := by decide
    rcases header with equal | kept
    · exact firstAction_alike same plain fun feature _ _ =>
        featureAction_alike env same.advancedValue feature fun _ => equal
    · by_cases removes : rule.enabled.contains .removeheader = true
      · obtain ⟨feature, listed, enabled, acts⟩ :=
          exists_acting_of_not_comesToHeader env kept (by simpa using blocking) removes
        -- what comes before the header is asked alike, and one of it acts for both rules
        have before : ∀ feature ∈ [Feature.redirect, .removeparam],
            Alike SameReason Eq (featureAction env negation feature)
              (featureAction env rule feature) := by
          intro feature listed
          refine featureAction_alike env same.advancedValue feature ?_
          intro removal
          subst removal
          simp at listed
        have enabled' := same.contains_of_mem (by decide) feature listed
        have acts' : featureAction env negation feature ≠ .ok none :=
          fun idle => acts ((before feature listed).eq_ok_iff.mp idle)
        have first := firstAction_append listed enabled acts
          [.removeheader, .csp, .permissions, .cookie]
        have second := firstAction_append listed (enabled'.trans enabled) acts'
          [.removeheader, .csp, .permissions, .cookie]
        simp only [Feature.blockingOnly]
        simp only [List.cons_append, List.nil_append] at first second
        simp only [first, second]
        exact firstAction_alike same (by decide) fun feature listed _ => before feature listed
      · refine firstAction_alike same plain ?_
        intro feature _ enabled
        refine featureAction_alike env same.advancedValue feature ?_
        intro removal
        exact absurd (removal ▸ enabled) removes

/-- Rules that spell out the same and come to different headers do not act alike: no other
feature has the action of a removal.
-/
theorem headerRemoval_eq_of_alike (env : Environment) (same : negation.SameSpelling rule)
    (comes : ComesToHeader rule)
    (alike : Alike SameReason Eq (actionOf env negation) (actionOf env rule))
    : negation.headerRemoval = rule.headerRemoval := by
  rw [comes.actionOf_eq, (comes.of_sameSpelling same).actionOf_eq] at alike
  cases left : negation.headerRemoval with
  | none =>
      cases right : rule.headerRemoval with
      | none => rfl
      | some header =>
          simp only [left, right] at alike
          exact absurd (alike.eq_ok_iff.mpr rfl)
            (firstAction_ne_headerAction env negation header)
  | some header =>
      cases right : rule.headerRemoval with
      | none =>
          simp only [left, right] at alike
          exact absurd (alike.eq_ok_iff.mp rfl) (firstAction_ne_headerAction env rule header)
      | some other =>
          simp only [left, right] at alike
          cases alike with
          | ok related => exact congrArg some (headerAction_inj related)

/-- What a badfilter rule has in common with a rule it cancels. Both are supported or neither
is, for the same modifier, and their conditions differ in the order inside lists only. They act
alike exactly when they remove the same header or do not come to remove one.
-/
theorem negates_acts_alike_iff (env : Environment) {negation rule : Rule}
    (cancels : negation.negates rule = true)
    : unsupportedModifier? negation = unsupportedModifier? rule
      ∧ SameUpToOrder (conditionOf env negation) (conditionOf env rule)
      ∧ (Alike SameReason Eq (actionOf env negation) (actionOf env rule)
          ↔ negation.headerRemoval = rule.headerRemoval ∨ ¬ComesToHeader rule) := by
  obtain ⟨-, -, same⟩ := Rule.negates_iff.mp cancels
  refine ⟨unsupportedModifier?_eq same, conditionOf_sameUpToOrder env same, ?_,
    actionOf_alike env same⟩
  intro alike
  by_cases comes : ComesToHeader rule
  · exact Or.inl (headerRemoval_eq_of_alike env same comes alike)
  · exact Or.inr comes

/-- A rule with a list of domains that removes a header. -/
def listedRemoval : Rule where
  origin := {}
  text := "||a^$removeheader=refresh,domain=b.com|~d.com|a.com,~image,popup"
  pattern := "||a^"
  exception := false
  enabled := FeatureSet.empty.insertAll [.removeheader, .popup]
  advancedValue := some "refresh"
  domains := { permitted := ["b.com", "a.com"], restricted := ["d.com"] }
  types := { restricted := [.image] }
  headerRemoval := some ⟨"refresh", false⟩

/-- The badfilter rule that lists the domains the other way round. -/
def relistedRemoval : Rule :=
  { listedRemoval with
    text := "||a^$badfilter,~image,domain=a.com|b.com|~d.com,popup,removeheader=refresh"
    enabled := listedRemoval.enabled.insert .badfilter
    domains := { permitted := ["a.com", "b.com"], restricted := ["d.com"] } }

/-- The two rules have conditions that differ, but only in the order of two domains. -/
theorem negates_acts_alike_with_lists
    : Scanned.ofText 0 "||a^$removeheader=refresh,from=b.com|~d.com|a.com,~image,popup"
        = [.accepted listedRemoval]
      ∧ Scanned.ofText 0 "||a^$badfilter,~image,from=a.com|b.com|~d.com,popup,removeheader=refresh"
        = [.accepted relistedRemoval]
      ∧ relistedRemoval.negates listedRemoval = true
      ∧ conditionOf unlimited relistedRemoval ≠ conditionOf unlimited listedRemoval
      ∧ SameUpToOrder (conditionOf unlimited relistedRemoval) (conditionOf unlimited listedRemoval)
      ∧ Alike SameReason Eq (actionOf unlimited relistedRemoval)
          (actionOf unlimited listedRemoval) := by
  have cancels : relistedRemoval.negates listedRemoval = true := by decide +kernel
  obtain ⟨-, conditions, actions⟩ := negates_acts_alike_iff unlimited cancels
  exact ⟨by decide +kernel, by decide +kernel, cancels, by decide +kernel, conditions,
    actions.mpr (Or.inl rfl)⟩

/-- A rule that removes one header and adds a policy. -/
def refreshRemoval : Rule where
  origin := {}
  text := "||a^$removeheader=refresh,csp=x"
  pattern := "||a^"
  exception := false
  enabled := FeatureSet.empty.insertAll [.removeheader, .csp]
  advancedValue := some "x"
  headerRemoval := some ⟨"refresh", false⟩

/-- A badfilter rule for the same pattern and policy that removes another header. -/
def serverRemoval : Rule :=
  { refreshRemoval with
    text := "||a^$removeheader=server,csp=x,badfilter"
    enabled := refreshRemoval.enabled.insert .badfilter
    headerRemoval := some ⟨"server", false⟩ }

/-- The value of a later modifier hides that of the removal, so a badfilter rule cancels a rule
whose effect is not the one it spells out.
-/
theorem negates_rule_with_other_header
    : Scanned.ofText 0 "||a^$removeheader=refresh,csp=x" = [.accepted refreshRemoval]
      ∧ Scanned.ofText 0 "||a^$removeheader=server,csp=x,badfilter" = [.accepted serverRemoval]
      ∧ serverRemoval.negates refreshRemoval = true
      ∧ actionOf unlimited refreshRemoval
        = .ok (.modifyHeaders none (some [removal "refresh"]))
      ∧ actionOf unlimited serverRemoval = .ok (.modifyHeaders none (some [removal "server"]))
      ∧ ¬∀ (env : Environment) (negation rule : Rule), negation.negates rule = true
          → Alike SameReason Eq (actionOf env negation) (actionOf env rule) := by
  have cancels : serverRemoval.negates refreshRemoval = true := by decide +kernel
  refine ⟨by decide +kernel, by decide +kernel, cancels, rfl, rfl, ?_⟩
  intro alike
  cases alike unlimited serverRemoval refreshRemoval cancels with
  | ok related => exact absurd related (by decide)

end Conversion

end Blocklist
