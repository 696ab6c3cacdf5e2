import Blocklist.Proofs.Conversion.Records
import Blocklist.Proofs.Rule.HeaderRemoval

/-! Header changes of a run. The names of removed headers are checked when a rule is built;
no action and no merge brings in another name or another operation.
-/

namespace Blocklist.Conversion

open Declarative

-----------------------------------------------------------------------------------------
-- Permitted changes
-----------------------------------------------------------------------------------------

/-- The removal of a header that carries cookies, or of one that is not protected. -/
structure PermittedRemoval (cookies : String) (kept : List String) (change : HeaderChange)
    : Prop where
  operation : change.operation = .remove
  value : change.value = none
  header : change.header = cookies ∨ Rule.Removable kept change.header

/-- The addition of a policy. -/
structure PermittedAddition (change : HeaderChange) : Prop where
  operation : change.operation = .append
  value : ∃ value, change.value = some value ∧ value ≠ ""
  header : change.header ∈ policyHeaders

def PermittedInRequests (change : HeaderChange) : Prop :=
  PermittedRemoval "Cookie" HeaderRemoval.protectedInRequests change

def PermittedInResponses (change : HeaderChange) : Prop :=
  PermittedRemoval "Set-Cookie" HeaderRemoval.protectedInResponses change
    ∨ PermittedAddition change

/-- A side of an exchange is left alone, or has changes that are all permitted. -/
def SideHolds (permitted : HeaderChange → Prop) (side : Option (List HeaderChange)) : Prop :=
  ∀ changes, side = some changes → changes ≠ [] ∧ ∀ change ∈ changes, permitted change

/-- Something is changed, and nothing but what may be. -/
structure PermittedChanges (request response : Option (List HeaderChange)) : Prop where
  changed : request.isSome ∨ response.isSome
  requests : SideHolds PermittedInRequests request
  responses : SideHolds PermittedInResponses response

/-- The header changes of an action, if it has any, are permitted. -/
def PermittedAction (action : Action) : Prop :=
  ∀ request response, action = .modifyHeaders request response
    → PermittedChanges request response

section

variable {permitted : HeaderChange → Prop}

theorem SideHolds.unset : SideHolds permitted none := by
  intro changes set
  cases set

theorem SideHolds.single {change : HeaderChange} (own : permitted change)
    : SideHolds permitted (some [change]) := by
  rintro _ ⟨⟩
  exact ⟨List.cons_ne_nil _ _, List.forall_mem_singleton.mpr own⟩

end

-----------------------------------------------------------------------------------------
-- Changes of rules
-----------------------------------------------------------------------------------------

theorem removal_permitted {cookies header : String} {kept : List String}
    (checked : header = cookies ∨ Rule.Removable kept header)
    : PermittedRemoval cookies kept (removal header) :=
  ⟨rfl, rfl, checked⟩

theorem requestHeader?_removable {rule : Rule} {header : String}
    (checks : rule.ChecksHeader) (named : rule.requestHeader? = some header)
    : Rule.Removable HeaderRemoval.protectedInRequests header := by
  obtain ⟨own, found, rfl⟩ := Option.map_eq_some_iff.mp named
  obtain ⟨found, side⟩ := Option.filter_eq_some_iff.mp found
  simpa [Rule.protectedBeside, side] using checks own found

theorem responseHeader?_removable {rule : Rule} {header : String}
    (checks : rule.ChecksHeader) (named : rule.responseHeader? = some header)
    : Rule.Removable HeaderRemoval.protectedInResponses header := by
  obtain ⟨own, found, rfl⟩ := Option.map_eq_some_iff.mp named
  obtain ⟨found, side⟩ := Option.filter_eq_some_iff.mp found
  have responses : own.fromRequests = false := by simpa using side
  simpa [Rule.protectedBeside, responses] using checks own found

/-- The changes of a rule are permitted when the header it removes was checked, by cases on
the form of its action.
-/
theorem ActionForm.permitted {rule : Rule} {request response : Option (List HeaderChange)}
    (checks : rule.ChecksHeader) (form : ActionForm rule (.modifyHeaders request response))
    : PermittedChanges request response := by
  cases form with
  | requestRemoval named =>
      have checked := requestHeader?_removable checks named
      exact ⟨Or.inl rfl, .single (removal_permitted (Or.inr checked)), .unset⟩
  | responseRemoval named =>
      have checked := responseHeader?_removable checks named
      exact ⟨Or.inr rfl, .unset, .single (Or.inl (removal_permitted (Or.inr checked)))⟩
  | addition known filled =>
      obtain ⟨-, nonempty⟩ := Option.filter_eq_some_iff.mp filled
      refine ⟨Or.inr rfl, .unset, .single (Or.inr ⟨rfl, ⟨_, rfl, ?_⟩, known⟩)⟩
      simpa using nonempty
  | cookies =>
      exact ⟨Or.inl rfl, .single (removal_permitted (Or.inl rfl)),
        .single (Or.inl (removal_permitted (Or.inl rfl)))⟩

-----------------------------------------------------------------------------------------
-- Merged changes
-----------------------------------------------------------------------------------------

/-- A change with the value of another one taken in. -/
def joined (change other : HeaderChange) : HeaderChange :=
  { change with value := Merge.joinValues change.value other.value }

theorem PermittedRemoval.joined {cookies : String} {kept : List String}
    {change other : HeaderChange} (first : PermittedRemoval cookies kept change)
    (second : PermittedRemoval cookies kept other)
    : PermittedRemoval cookies kept (joined change other) := by
  refine ⟨first.operation, ?_, first.header⟩
  simp only [Conversion.joined, first.value, second.value]
  rfl

theorem PermittedAddition.joined {change other : HeaderChange}
    (first : PermittedAddition change) (second : PermittedAddition other)
    : PermittedAddition (joined change other) := by
  obtain ⟨left, leftValue, filled⟩ := first.value
  obtain ⟨right, rightValue, -⟩ := second.value
  refine ⟨first.operation, ⟨left ++ "; " ++ right, ?_, ?_⟩, first.header⟩
  · simp only [Conversion.joined, leftValue, rightValue, Merge.joinValues]
  · simp [String.append_assoc, filled]

/-- Changes of one header by one operation join to a permitted one. Removals have no values and
additions have both, so the operation tells which case it is.
-/
theorem PermittedInResponses.joined {change other : HeaderChange}
    (same : Merge.clearValue change = Merge.clearValue other)
    (first : PermittedInResponses change) (second : PermittedInResponses other)
    : PermittedInResponses (joined change other) := by
  obtain ⟨-, operations, -⟩ := HeaderChange.mk.inj same
  rcases first with removed | added
  · rcases second with again | mixed
    · exact Or.inl (removed.joined again)
    · rw [removed.operation, mixed.operation] at operations
      cases operations
  · rcases second with mixed | again
    · rw [added.operation, mixed.operation] at operations
      cases operations
    · exact Or.inr (added.joined again)

section

variable {permitted : HeaderChange → Prop}

/-- Joining changes at equal positions keeps what joining two of them keeps, by induction on
both lists.
-/
theorem zipWith_joined
    (joins : ∀ {change other}, Merge.clearValue change = Merge.clearValue other
      → permitted change → permitted other → permitted (joined change other))
    {left right : List HeaderChange}
    (same : left.map Merge.clearValue = right.map Merge.clearValue)
    (first : ∀ change ∈ left, permitted change) (second : ∀ change ∈ right, permitted change)
    : ∀ change ∈ left.zipWith joined right, permitted change := by
  induction left generalizing right with
  | nil => simp
  | cons change left ih =>
      cases right with
      | nil => cases same
      | cons other right =>
          obtain ⟨heads, tails⟩ := List.cons.inj same
          obtain ⟨own, first⟩ := List.forall_mem_cons.mp first
          obtain ⟨next, second⟩ := List.forall_mem_cons.mp second
          exact List.forall_mem_cons.mpr ⟨joins heads own next, ih tails first second⟩

theorem SideHolds.joinChanges
    (joins : ∀ {change other}, Merge.clearValue change = Merge.clearValue other
      → permitted change → permitted other → permitted (joined change other))
    {left right : Option (List HeaderChange)}
    (same : left.map (·.map Merge.clearValue) = right.map (·.map Merge.clearValue))
    (first : SideHolds permitted left) (second : SideHolds permitted right)
    : SideHolds permitted (Merge.joinChanges left right) := by
  cases left with
  | none => exact .unset
  | some changes =>
      cases right with
      | none => exact first
      | some others =>
          simp only [Option.map_some, Option.some.injEq] at same
          obtain ⟨nonempty, own⟩ := first changes rfl
          obtain ⟨-, next⟩ := second others rfl
          rintro _ ⟨⟩
          refine ⟨?_, zipWith_joined joins same own next⟩
          -- equal cleared lists are equally long, so no change is cut off
          have lengths : changes.length = others.length := by
            simpa using congrArg List.length same
          rw [← List.length_pos_iff] at nonempty ⊢
          simpa [← lengths] using nonempty

theorem SideHolds.concat? {left right : Option (List HeaderChange)}
    (first : SideHolds permitted left) (second : SideHolds permitted right)
    : SideHolds permitted (Merge.concat? left right) := by
  cases left with
  | none =>
      cases right with
      | none => exact .unset
      | some others => exact second
  | some changes =>
      obtain ⟨nonempty, own⟩ := first changes rfl
      rintro _ ⟨⟩
      refine ⟨by simp [nonempty], ?_⟩
      intro change member
      rcases List.mem_append.mp member with inside | later
      · exact own change inside
      · cases right with
        | none => cases later
        | some others => exact (second others rfl).2 change later

end

/-- Combining two actions that are equal without what is merged keeps their changes permitted,
by cases on what is merged.
-/
theorem PermittedAction.combined {merge : Merge} {left right result : Action}
    (combines : merge.Combines left right result)
    (same : merge.clearAction left = merge.clearAction right)
    (first : PermittedAction left) (second : PermittedAction right)
    : PermittedAction result := by
  cases combines with
  | headerValues request response request' response' =>
      obtain ⟨changed, requests, responses⟩ := first request response rfl
      obtain ⟨-, requests', responses'⟩ := second request' response' rfl
      obtain ⟨sameRequests, sameResponses⟩ := Action.modifyHeaders.inj same
      rintro _ _ ⟨⟩
      have kept (side more : Option (List HeaderChange))
          : (Merge.joinChanges side more).isSome = side.isSome := by
        cases side <;> cases more <;> rfl
      exact ⟨by rwa [kept, kept],
        requests.joinChanges (fun _ => .joined) sameRequests requests',
        responses.joinChanges .joined sameResponses responses'⟩
  | headerLists request response request' response' =>
      obtain ⟨changed, requests, responses⟩ := first request response rfl
      obtain ⟨-, requests', responses'⟩ := second request' response' rfl
      rintro _ _ ⟨⟩
      have grown {side : Option (List HeaderChange)} (more : Option (List HeaderChange))
          (set : side.isSome)
          : (Merge.concat? side more).isSome := by
        cases side with
        | none => cases set
        | some changes => rfl
      exact ⟨changed.imp (grown request') (grown response'), requests.concat? requests',
        responses.concat? responses'⟩
  | removedParams left right =>
      intro request response other
      cases other
  | first => exact first

-----------------------------------------------------------------------------------------
-- Changes of a run
-----------------------------------------------------------------------------------------

theorem scanned_checksHeader {sources : List UnitText} {unit : ScannedUnit}
    (member : unit ∈ sources.map UnitText.scan) {rule : Rule} (listed : rule ∈ unit.rules)
    : rule.ChecksHeader := by
  obtain ⟨source, -, rfl⟩ := List.mem_map.mp member
  obtain ⟨entry, -, filter, -, expanded, -, built, -⟩ := ScannedUnit.scan_rules listed
  exact Rule.ofFilter_checksHeader built

theorem permitted_invariant (env : Environment) (sources : List UnitText)
    : RecordInvariant env (sources.map UnitText.scan)
        (fun record => PermittedAction record.action) where
  own := by
    intro unit member rule listed record acts _ request response changes
    have form := actionOf_form acts
    rw [changes] at form
    exact form.permitted (scanned_checksHeader member listed)
  combined := by
    intro merge record next same first second
    obtain ⟨-, actions, -⟩ := (merge.template_eq_iff record next).mp same
    exact .combined (merge.combines_combineActions _ _) actions first second

/-- Header changes of runs over scanned units, whatever the settings and the rest of the
environment are. Every record that changes headers sets at least one side, and no side to an
empty list. Requests lose cookies or headers that are not protected there, and nothing else
happens to them. Responses lose cookies or headers that are not protected there, or get a policy
with a value.
-/
theorem run_changes_permitted_headers_only {env : Environment} {pool final : IdPool}
    {sources : List UnitText} {output : Output}
    (done : run env pool (sources.map UnitText.scan) = (.ok output, final))
    : ∀ record ∈ output.records, ∀ request response,
        record.action = .modifyHeaders request response → PermittedChanges request response := by
  intro record member
  obtain ⟨outcomes, batch, produced⟩ := run_eq_ok done
  exact (permitted_invariant env sources).records produced record member

/-- Lines that remove a header on either side, in mixed case and padded, a protected one that is
refused, two policies that merge, and the removal of cookies.
-/
def headerLines : UnitText :=
  ⟨0, "||a^$removeheader=request: X-Client-Data \n||a^$removeheader=Refresh\n"
    ++ "||a^$removeheader=Content-Type\n||b^$csp=worker-src\n||b^$csp=sandbox\n||c^$cookie",
    none, fun _ => true⟩

/-- The first two lines become one record that changes both sides. -/
theorem run_changes_permitted_headers_of_both_sides
    : ∃ output final, run withoutRegexes .empty [headerLines.scan] = (.ok output, final)
        ∧ output.records.map Record.action
          = [cookieAction,
              .modifyHeaders (some [removal "x-client-data"]) (some [removal "refresh"]),
              .modifyHeaders none
                (some [⟨"Content-Security-Policy", .append, some "worker-src; sandbox"⟩])]
        ∧ ∀ record ∈ output.records, ∀ request response,
            record.action = .modifyHeaders request response
            → PermittedChanges request response := by
  obtain ⟨output, final, done, actions⟩ := exists_output (show
      (run withoutRegexes .empty ([headerLines].map UnitText.scan)).1.toOption.map
        (fun output => output.records.map Record.action)
      = some [cookieAction,
          .modifyHeaders (some [removal "x-client-data"]) (some [removal "refresh"]),
          .modifyHeaders none
            (some [⟨"Content-Security-Policy", .append, some "worker-src; sandbox"⟩])]
      by decide +kernel)
  exact ⟨output, final, done, actions, run_changes_permitted_headers_only done⟩

end Blocklist.Conversion
