import Blocklist.Declarative.Decode
import Blocklist.Declarative.Encode
import Blocklist.Proofs.Json.Codec
import Blocklist.Proofs.Json.Layout

/-! Declarative rules read back from their JSON form. Each field is written under the name it
is read by, and an unset field is told from an empty one by being left out.
-/

namespace Blocklist

theorem ResourceType.find?_name (type : ResourceType)
    : all.find? (·.name == type.name) = some type := by
  cases type <;> rfl

theorem RequestMethod.find?_name (method : RequestMethod)
    : all.find? (·.name == method.name) = some method := by
  cases method <;> rfl

theorem Party.find?_name (party : Party) : all.find? (·.name == party.name) = some party := by
  cases party <;> rfl

namespace Declarative

open Json (Document Stage Decoded Reads Takes Fits toDocument toMembers read_object mem_optional
  reads_strings reads_named)

theorem HeaderOperation.find?_name (operation : HeaderOperation)
    : all.find? (·.name == operation.name) = some operation := by
  cases operation <;> rfl

theorem ActionKind.find?_name (kind : ActionKind)
    : all.find? (·.name == kind.name) = some kind := by
  cases kind <;> rfl

-----------------------------------------------------------------------------------------
-- Fields
-----------------------------------------------------------------------------------------

/-- Taking the value of a field into a record succeeds when reading the value does. -/
theorem bind_eq_ok {α β : Type} {read : Decoded α} {value : α} (update : α → β)
    (reads : read = .ok value)
    : (read >>= fun value => pure (update value)) = Except.ok (update value) := by
  rw [reads]
  rfl

theorem asString?_string (text : String)
    : asString? (toDocument (.string text)) = .ok (some text) :=
  (reads_strings "a string").asOption (fun _ written => by cases written) text

theorem asStrings?_encodeStrings (texts : List String)
    : asStrings? (toDocument (encodeStrings texts)) = .ok (some texts) :=
  (reads_strings "a string").list.asOption (fun _ written => by cases written) texts

theorem asNames?_encodeNames {α : Type} {nameOf : α → String} {all : List α}
    (named : ∀ value, all.find? (fun other => nameOf other == nameOf value) = some value)
    (stage : Stage) (values : List α)
    : asNames? stage nameOf all (toDocument (encodeNames nameOf values)) = .ok (some values) := by
  have reads := (reads_named named stage).list.asOption (fun _ written => by cases written) values
  rwa [encodeNames, encodeStrings, List.map_map]

-----------------------------------------------------------------------------------------
-- Parts of records
-----------------------------------------------------------------------------------------

theorem reads_headerChange (stage : Stage)
    : Reads (HeaderChange.schema.read stage ⟨"", .append, none⟩) HeaderChange.encode := by
  rintro ⟨header, operation, value⟩
  have named := reads_named HeaderOperation.find?_name stage operation
  refine read_object ?_ (by decide) (by simp [HeaderChange.schema])
  refine .set rfl (.set (bind_eq_ok _ named) ?_)
  exact .lastOptional (fun change value => { change with value }) rfl (fun text =>
    bind_eq_ok _ (asString?_string text)) rfl

theorem asChanges?_encodeChanges (stage : Stage) (changes : List HeaderChange)
    : asChanges? stage (toDocument (encodeChanges changes)) = .ok (some changes) :=
  (reads_headerChange stage).list.asOption (fun _ written => by cases written) changes

theorem reads_queryTransform (stage : Stage)
    : Reads (QueryTransform.schema.read stage {}) QueryTransform.encode := by
  rintro ⟨removeParams⟩
  refine read_object ?_ (by decide) (by simp [QueryTransform.schema])
  exact .lastOptional (fun _ removeParams => ⟨removeParams⟩) rfl (fun texts =>
    bind_eq_ok _ (asStrings?_encodeStrings texts)) rfl

theorem reads_urlTransform (stage : Stage)
    : Reads (UrlTransform.schema.read stage {}) UrlTransform.encode := by
  rintro ⟨query, queryTransform⟩
  have present (transform : QueryTransform) : transform.encode ≠ .null := by
    intro written
    cases written
  have inner := (reads_queryTransform stage).asOption present
  refine read_object ?_ (by decide) (by simp [UrlTransform.schema])
  refine .optional (fun target query => { target with query }) rfl (fun text =>
    bind_eq_ok _ (asString?_string text)) ?_
  exact .lastOptional (fun target queryTransform => { target with queryTransform }) rfl
    (fun transform => bind_eq_ok _ (inner transform)) rfl

theorem reads_redirect (stage : Stage)
    : Reads (Redirect.schema.read stage {}) Redirect.encode := by
  rintro ⟨extensionPath, transform, url, regexSubstitution⟩
  have present (transform : UrlTransform) : transform.encode ≠ .null := by
    intro written
    cases written
  have inner := (reads_urlTransform stage).asOption present
  refine read_object ?_ (by decide) (by simp [Redirect.schema])
  simp only [List.append_assoc]
  refine .optional (fun target extensionPath => { target with extensionPath }) rfl (fun text =>
    bind_eq_ok _ (asString?_string text)) ?_
  refine .optional (fun target transform => { target with transform }) rfl (fun transform =>
    bind_eq_ok _ (inner transform)) ?_
  refine .optional (fun target url => { target with url }) rfl (fun text =>
    bind_eq_ok _ (asString?_string text)) ?_
  exact .lastOptional (fun target regexSubstitution => { target with regexSubstitution }) rfl
    (fun text => bind_eq_ok _ (asString?_string text)) rfl

theorem reads_condition (stage : Stage)
    : Reads (Condition.schema.read stage {}) Condition.encode := by
  rintro ⟨urlFilter, regexFilter, isUrlFilterCaseSensitive, domainType, initiatorDomains,
    excludedInitiatorDomains, requestDomains, excludedRequestDomains, resourceTypes,
    excludedResourceTypes, requestMethods, excludedRequestMethods⟩
  have typeNames := asNames?_encodeNames ResourceType.find?_name stage
  have methodNames := asNames?_encodeNames RequestMethod.find?_name stage
  have party := (reads_named Party.find?_name stage).asOption (fun _ written => by cases written)
  refine read_object ?_ (by decide) (by simp [Condition.schema])
  simp only [List.append_assoc]
  refine .optional (fun filter urlFilter => { filter with urlFilter }) rfl (fun text =>
    bind_eq_ok _ (asString?_string text)) ?_
  refine .optional (fun filter regexFilter => { filter with regexFilter }) rfl (fun text =>
    bind_eq_ok _ (asString?_string text)) ?_
  refine .optional (fun filter isUrlFilterCaseSensitive =>
    { filter with isUrlFilterCaseSensitive }) rfl (fun value => bind_eq_ok _ rfl) ?_
  refine .optional (fun filter domainType => { filter with domainType }) rfl (fun value =>
    bind_eq_ok _ (party value)) ?_
  refine .optional (fun filter initiatorDomains => { filter with initiatorDomains }) rfl
    (fun domains => bind_eq_ok _ (asStrings?_encodeStrings domains)) ?_
  refine .optional (fun filter excludedInitiatorDomains =>
    { filter with excludedInitiatorDomains }) rfl
    (fun domains => bind_eq_ok _ (asStrings?_encodeStrings domains)) ?_
  refine .optional (fun filter requestDomains => { filter with requestDomains }) rfl
    (fun domains => bind_eq_ok _ (asStrings?_encodeStrings domains)) ?_
  refine .optional (fun filter excludedRequestDomains => { filter with excludedRequestDomains }) rfl
    (fun domains => bind_eq_ok _ (asStrings?_encodeStrings domains)) ?_
  refine .optional (fun filter resourceTypes => { filter with resourceTypes }) rfl
    (fun types => bind_eq_ok _ (typeNames types)) ?_
  refine .optional (fun filter excludedResourceTypes => { filter with excludedResourceTypes }) rfl
    (fun types => bind_eq_ok _ (typeNames types)) ?_
  refine .optional (fun filter requestMethods => { filter with requestMethods }) rfl
    (fun methods => bind_eq_ok _ (methodNames methods)) ?_
  exact .lastOptional (fun filter excludedRequestMethods =>
    { filter with excludedRequestMethods }) rfl
    (fun methods => bind_eq_ok _ (methodNames methods)) rfl

-----------------------------------------------------------------------------------------
-- Actions
-----------------------------------------------------------------------------------------

theorem fits_encodeStrings (levels : Nat) (texts : List String)
    : Fits (levels + 1) (encodeStrings texts) := by
  refine Fits.array fun item member => ?_
  obtain ⟨text, -, rfl⟩ := List.mem_map.mp member
  exact Fits.string levels text

theorem fits_headerChange (levels : Nat) (change : HeaderChange)
    : Fits (levels + 1) change.encode := by
  refine Fits.object fun member listed => ?_
  rcases List.mem_cons.mp listed with rfl | listed
  · exact Fits.string levels _
  · rcases List.mem_cons.mp listed with rfl | listed
    · exact Fits.string levels _
    · obtain ⟨text, -, rfl⟩ := mem_optional listed
      exact Fits.string levels text

theorem fits_encodeChanges (levels : Nat) (changes : List HeaderChange)
    : Fits (levels + 2) (encodeChanges changes) := by
  refine Fits.array fun item member => ?_
  obtain ⟨change, -, rfl⟩ := List.mem_map.mp member
  exact fits_headerChange levels change

theorem fits_queryTransform (levels : Nat) (transform : QueryTransform)
    : Fits (levels + 2) transform.encode := by
  refine Fits.object fun member listed => ?_
  obtain ⟨texts, -, rfl⟩ := mem_optional listed
  exact fits_encodeStrings levels texts

theorem fits_urlTransform (levels : Nat) (transform : UrlTransform)
    : Fits (levels + 3) transform.encode := by
  refine Fits.object fun member listed => ?_
  rcases List.mem_append.mp listed with listed | listed
  · obtain ⟨text, -, rfl⟩ := mem_optional listed
    exact Fits.string (levels + 2) text
  · obtain ⟨inner, -, rfl⟩ := mem_optional listed
    exact fits_queryTransform levels inner

theorem fits_redirect (levels : Nat) (target : Redirect)
    : Fits (levels + 4) target.encode := by
  refine Fits.object fun member listed => ?_
  simp only [List.mem_append] at listed
  rcases listed with ((listed | listed) | listed) | listed
  · obtain ⟨text, -, rfl⟩ := mem_optional listed
    exact Fits.string (levels + 3) text
  · obtain ⟨transform, -, rfl⟩ := mem_optional listed
    exact fits_urlTransform levels transform
  · obtain ⟨text, -, rfl⟩ := mem_optional listed
    exact Fits.string (levels + 3) text
  · obtain ⟨text, -, rfl⟩ := mem_optional listed
    exact Fits.string (levels + 3) text

/-- The fields of an action are none of them its kind, and all can be read ahead. -/
theorem Action.fields_fit (action : Action)
    : ∀ member ∈ action.fields, member.1 ≠ "type" ∧ Fits innerLevels member.2 := by
  intro member listed
  cases action with
  | redirect target =>
      obtain rfl := List.mem_singleton.mp listed
      exact ⟨by simp, fits_redirect 120 target⟩
  | modifyHeaders request response =>
      rcases List.mem_append.mp listed with listed | listed
      · obtain ⟨changes, -, rfl⟩ := mem_optional listed
        exact ⟨by simp, fits_encodeChanges 122 changes⟩
      · obtain ⟨changes, -, rfl⟩ := mem_optional listed
        exact ⟨by simp, fits_encodeChanges 122 changes⟩
  | _ => cases listed

/-- Members besides the kind are kept as they are, by induction on them. -/
theorem splitMembers_eq_ok {kind? : Option ActionKind} {members : List (String × Json)}
    (others : ∀ member ∈ members, member.1 ≠ "type" ∧ Fits Action.innerLevels member.2)
    : Action.splitMembers kind? (toMembers members) = .ok (kind?, toMembers members) := by
  induction members with
  | nil => rfl
  | cons member members ih =>
      obtain ⟨⟨other, fits⟩, later⟩ := List.forall_mem_cons.mp others
      obtain ⟨key, value⟩ := member
      rw [Fits] at fits
      simp only [toMembers, Action.splitMembers, if_neg other, fits, ih later]
      rfl

/-- The kind of an action. -/
def Action.kind : Action → ActionKind
  | block => .block
  | allow => .allow
  | allowAllRequests => .allowAllRequests
  | upgradeScheme => .upgradeScheme
  | redirect _ => .redirect
  | modifyHeaders _ _ => .modifyHeaders

theorem Action.kind_name (action : Action) : action.kind.name = action.typeName := by
  cases action <;> rfl

theorem readFields_fields (action : Action)
    : action.kind.readFields (toDocument (.object action.fields)) = .ok action := by
  cases action with
  | redirect target =>
      have inner : ActionKind.redirectSchema.read .buffered {}
          (toDocument (.object [("redirect", target.encode)])) = .ok target :=
        read_object (.set (reads_redirect .buffered target) (.done target)) (by decide)
          (by simp [ActionKind.redirectSchema])
      simp only [Action.kind, ActionKind.readFields, Action.fields, inner]
      rfl
  | modifyHeaders request response =>
      have inner : ActionKind.headersSchema.read .buffered (none, none)
          (toDocument (.object (Action.modifyHeaders request response).fields))
          = .ok (request, response) := by
        refine read_object ?_ (by decide) (by simp [ActionKind.headersSchema])
        refine .optional (fun sides request => (request, sides.2)) rfl (fun changes =>
          bind_eq_ok _ (asChanges?_encodeChanges .buffered changes)) ?_
        exact .lastOptional (fun sides response => (sides.1, response)) rfl (fun changes =>
          bind_eq_ok _ (asChanges?_encodeChanges .buffered changes)) rfl
      simp only [Action.kind, ActionKind.readFields, inner]
      rfl
  | _ => rfl

theorem reads_action : Reads Action.read Action.encode := by
  intro action
  have kind : ActionKind.read (toDocument (.string action.typeName)) = .ok action.kind := by
    rw [← action.kind_name]
    simp only [toDocument, ActionKind.read, Document.asString, bind, Except.bind,
      Document.namedValue, ActionKind.find?_name]
  have split : Action.splitMembers none
      (toMembers (("type", .string action.typeName) :: action.fields))
      = .ok (some action.kind, toMembers action.fields) := by
    rw [toMembers, Action.splitMembers, if_pos rfl]
    simp only [kind, bind, Except.bind, splitMembers_eq_ok action.fields_fit]
  have fields := readFields_fields action
  simp only [toDocument] at fields
  simp only [Action.encode, toDocument, Action.read, split, bind, Except.bind, Json.checkText,
    fields]

-----------------------------------------------------------------------------------------
-- Rulesets
-----------------------------------------------------------------------------------------

theorem reads_record (stage : Stage) : Reads (Record.read stage) Record.encode := by
  rintro ⟨id, priority, action, condition⟩
  refine read_object ?_ (by decide) (by simp [Record.schema])
  refine .set (bind_eq_ok _ (Json.asUInt32_number id)) ?_
  refine .set (bind_eq_ok _ (Json.asUInt32_number priority)) ?_
  refine .set (bind_eq_ok _ (reads_action action)) ?_
  exact .set (bind_eq_ok _ (reads_condition stage condition)) (.done _)

theorem reads_ruleset (stage : Stage) : Reads (readRuleset stage) encodeRuleset :=
  (reads_record stage).list

theorem rulesetOfText_of_scan {text : String} {records : List Record}
    (scanned : Json.scanText text.toList = (toDocument (encodeRuleset records), false))
    : rulesetOfText text = .ok records := by
  have read := reads_ruleset .streamed records
  rw [rulesetOfText, Json.readText, scanned]
  simp only [read, bind, Except.bind]
  rfl

/-- The indented text of a ruleset is read back as that ruleset. -/
theorem rulesetOfText_toPretty (records : List Record)
    : rulesetOfText (encodeRuleset records).toPretty = .ok records :=
  rulesetOfText_of_scan (Json.scanText_toPretty _)

/-- The compact text of a ruleset is read back as that ruleset. -/
theorem rulesetOfText_toCompact (records : List Record)
    : rulesetOfText (encodeRuleset records).toCompact = .ok records :=
  rulesetOfText_of_scan (Json.scanText_toCompact _)

/-- Rulesets in both layouts, whatever their actions and texts are and whichever fields are set.
Either text is read back as the ruleset it was written for, so rulesets that differ anywhere, be
it in a field that is unset in one and empty in the other, differ in both texts.
-/
theorem ruleset_texts_read_back (records : List Record)
    : rulesetOfText (encodeRuleset records).toCompact = .ok records
      ∧ rulesetOfText (encodeRuleset records).toPretty = .ok records
      ∧ (∀ others, (encodeRuleset others).toCompact = (encodeRuleset records).toCompact
          ↔ others = records)
      ∧ ∀ others, (encodeRuleset others).toPretty = (encodeRuleset records).toPretty
          ↔ others = records := by
  have compact := rulesetOfText_toCompact records
  have pretty := rulesetOfText_toPretty records
  refine ⟨compact, pretty, ?_, ?_⟩
  · intro others
    constructor
    · intro same
      rw [← same, rulesetOfText_toCompact others] at compact
      exact Except.ok.inj compact
    · intro same
      rw [same]
  · intro others
    constructor
    · intro same
      rw [← same, rulesetOfText_toPretty others] at pretty
      exact Except.ok.inj pretty
    · intro same
      rw [same]

end Declarative

end Blocklist
