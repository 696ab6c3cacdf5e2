import Blocklist.Json.Decode
import Mathlib.Data.List.Nodup

/-! Decoders that give back what an encoder wrote, put together as the values are: named
values, lists, values that may be unset, and records whose unset fields are left out.
-/

namespace Blocklist.Json

/-- A decoder gives back what an encoder wrote. -/
def Reads {α : Type} (decode : Document → Decoded α) (encode : α → Json) : Prop :=
  ∀ value, decode (toDocument (encode value)) = .ok value

theorem toDocuments_eq_map (items : List Json)
    : toDocuments items = items.map toDocument := by
  induction items with
  | nil => rfl
  | cons item items ih => rw [toDocuments, ih, List.map_cons]

-----------------------------------------------------------------------------------------
-- Single values and lists
-----------------------------------------------------------------------------------------

section

variable {α : Type} {decode : Document → Decoded α} {encode : α → Json}

theorem reads_strings (wanted : String) : Reads (Document.asString wanted) Json.string :=
  fun _ => rfl

/-- A name that leads to its value is read as that value at every stage. -/
theorem reads_named {nameOf : α → String} {values : List α}
    (named : ∀ value, values.find? (fun other => nameOf other == nameOf value) = some value)
    (stage : Stage)
    : Reads (Document.asNamed stage nameOf values) (Json.string ∘ nameOf) := by
  intro value
  simp only [Function.comp_apply, toDocument, Document.asNamed, Document.namedValue, named]

theorem Reads.list (reads : Reads decode encode)
    : Reads (Document.asList decode) (fun values => .array (values.map encode)) := by
  intro values
  have items : (toDocuments (values.map encode)).mapM decode = .ok values := by
    rw [toDocuments_eq_map]
    induction values with
    | nil => rfl
    | cons value values ih =>
        simp only [List.map_cons, List.mapM_cons, reads value, ih]
        rfl
  simp only [toDocument, Document.asList, items]
  rfl

/-- A value that is not written as null is told from an unset one. -/
theorem Reads.asOption (reads : Reads decode encode) (present : ∀ value, encode value ≠ .null)
    (value : α)
    : Document.asOption decode (toDocument (encode value)) = .ok (some value) := by
  have own := reads value
  cases written : encode value with
  | null => exact absurd written (present value)
  | _ =>
      rw [written] at own
      simp only [toDocument] at own
      simp only [toDocument, Document.asOption, own]
      rfl

end

theorem asUInt32_number (value : UInt32)
    : Document.asUInt32 (toDocument (.number value.toNat)) = .ok value := by
  have small : value.toNat < UInt32.size := value.toNat_lt
  have found : Document.found (toDocument (.number value.toNat)) = .ok (.integer value.toNat) := by
    have fits : value.toNat < UInt64.size := Nat.lt_trans small (by decide)
    simp only [toDocument, Document.found, Numeral.found?, fits, if_true]
  have inRange : (decide ((0 : Int) ≤ value.toNat) && decide ((value.toNat : Int) < UInt32.size))
      = true := by
    simp only [Bool.and_eq_true, decide_eq_true_eq]
    omega
  simp only [Document.asUInt32, Document.asNat, found, bind, Except.bind, inRange, if_true,
    Int.toNat_natCast]
  exact congrArg Except.ok UInt32.ofNat_toNat

-----------------------------------------------------------------------------------------
-- Records
-----------------------------------------------------------------------------------------

section

variable {α β : Type} (schema : Schema α) (stage : Stage)

/-- Fields gone through in order: each is written and taken into the record, or left out. -/
inductive Takes : List String → α → List (String × Json) → α → Prop where
  | done (record : α) : Takes [] record [] record
  | set {record next last : α} {key : String} {value : Json} {fields : List String}
      {members : List (String × Json)}
      (assigned : schema.assign stage key (toDocument value) record = .ok next)
      (later : Takes fields next members last)
      : Takes (key :: fields) record ((key, value) :: members) last
  | unset {record last : α} {key : String} {fields : List String}
      {members : List (String × Json)} (later : Takes fields record members last)
      : Takes (key :: fields) record members last

variable {schema stage} {fields : List String} {members : List (String × Json)} {start last : α}

/-- An optional field that is unset at first, whether it is written or left out. -/
theorem Takes.optional {key : String} {encode : β → Json} {value? : Option β}
    (update : α → Option β → α) (unset : update start none = start)
    (assigned : ∀ value, schema.assign stage key (toDocument (encode value)) start
      = .ok (update start (some value)))
    (later : Takes schema stage fields (update start value?) members last)
    : Takes schema stage (key :: fields) start (Json.optional key encode value? ++ members)
        last := by
  cases value? with
  | none =>
      rw [unset] at later
      exact .unset later
  | some value => exact .set (assigned value) later

theorem Takes.lastOptional {key : String} {encode : β → Json} {value? : Option β}
    (update : α → Option β → α) (unset : update start none = start)
    (assigned : ∀ value, schema.assign stage key (toDocument (encode value)) start
      = .ok (update start (some value)))
    (made : update start value? = last)
    : Takes schema stage [key] start (Json.optional key encode value?) last := by
  rw [← List.append_nil (Json.optional key encode value?), ← made]
  exact .optional update unset assigned (.done _)

/-- Members are all taken in when no field comes twice, by induction on the fields. -/
theorem readMembers_eq_ok {seen : List String}
    (takes : Takes schema stage fields start members last)
    (known : ∀ key ∈ fields, key ∈ schema.fields) (distinct : fields.Nodup)
    (fresh : ∀ key ∈ fields, key ∉ seen)
    : schema.readMembers stage seen start (toMembers members)
      = .ok ((members.map Prod.fst).reverse ++ seen, last) := by
  induction takes generalizing seen with
  | done => rfl
  | @set record next last key value fields members assigned _ ih =>
      obtain ⟨field, known⟩ := List.forall_mem_cons.mp known
      obtain ⟨unseen, fresh⟩ := List.forall_mem_cons.mp fresh
      obtain ⟨apart, distinct⟩ := List.nodup_cons.mp distinct
      have later : ∀ other ∈ fields, other ∉ key :: seen := by
        intro other member again
        rcases List.mem_cons.mp again with rfl | before
        · exact apart member
        · exact fresh other member before
      have listed : schema.fields.contains key = true := List.contains_iff_mem.mpr field
      have once : seen.contains key = false := by simpa using unseen
      rw [toMembers, Schema.readMembers, listed, once, assigned, List.map_cons,
        List.reverse_cons, List.append_assoc, List.singleton_append]
      exact ih known distinct later
  | unset _ ih =>
      obtain ⟨-, known⟩ := List.forall_mem_cons.mp known
      obtain ⟨-, fresh⟩ := List.forall_mem_cons.mp fresh
      exact ih known (List.nodup_cons.mp distinct).2 fresh

/-- A record is read from an object that has fields in their order, those it cannot do without
among them.
-/
theorem read_object (takes : Takes schema stage schema.fields start members last)
    (distinct : schema.fields.Nodup)
    (complete : ∀ field ∈ schema.required, field ∈ members.map Prod.fst)
    : schema.read stage start (toDocument (.object members)) = .ok last := by
  have taken := readMembers_eq_ok takes (fun _ field => field) distinct
    (fun _ _ => List.not_mem_nil)
  have present : schema.required.find? (!((members.map Prod.fst).reverse ++ []).contains ·)
      = none := by
    rw [List.find?_eq_none]
    intro field required
    simpa using complete field required
  simp only [toDocument, Schema.read, taken, bind, Except.bind, checkText, present]
  rfl

end

-----------------------------------------------------------------------------------------
-- Values read ahead
-----------------------------------------------------------------------------------------

/-- A value can be read ahead with some levels of nesting left. -/
def Fits (levels : Nat) (value : Json) : Prop :=
  (toDocument value).bufferFault? levels = none

theorem Fits.string (levels : Nat) (text : String) : Fits levels (.string text) := by
  simp [Fits, toDocument, Document.bufferFault?]

theorem Fits.array {levels : Nat} {items : List Json} (fit : ∀ item ∈ items, Fits levels item)
    : Fits (levels + 1) (.array items) := by
  have none : (toDocuments items).findSome? (Document.bufferFault? levels) = none := by
    rw [toDocuments_eq_map, List.findSome?_eq_none_iff]
    intro document member
    obtain ⟨item, known, rfl⟩ := List.mem_map.mp member
    exact fit item known
  rw [Fits, toDocument, Document.bufferFault?, none]
  rfl

theorem toMembers_eq_map (members : List (String × Json))
    : toMembers members
      = members.map fun member => (.ok member.1, toDocument member.2) := by
  induction members with
  | nil => rfl
  | cons member members ih => rw [toMembers, ih, List.map_cons]

theorem Fits.object {levels : Nat} {members : List (String × Json)}
    (fit : ∀ member ∈ members, Fits levels member.2)
    : Fits (levels + 1) (.object members) := by
  rw [Fits, toDocument, Document.bufferFault?, toMembers_eq_map, List.findSome?_map]
  rw [List.findSome?_eq_none_iff.mpr]
  · rfl
  · intro member known
    exact fit member known

theorem mem_optional {α : Type} {key : String} {encode : α → Json} {value? : Option α}
    {member : String × Json} (listed : member ∈ Json.optional key encode value?)
    : ∃ value, value? = some value ∧ member = (key, encode value) := by
  cases value? with
  | none => cases listed
  | some value => exact ⟨value, rfl, List.mem_singleton.mp listed⟩

end Blocklist.Json
