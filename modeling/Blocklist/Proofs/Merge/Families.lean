import Blocklist.Proofs.Merge.Templates
import Mathlib.Data.List.Induction

/-! Merging by families. The records of one template form a family; merging gives one record
for each family, in the order in which the templates first occur.
-/

namespace Blocklist.Merge

open Declarative

-----------------------------------------------------------------------------------------
-- Families of records
-----------------------------------------------------------------------------------------

/-- Records of one template: the first of them and the later ones in order. -/
structure Family where
  first : Record
  rest : List Record

namespace Family

/-- All records of a family, in order. -/
def members (family : Family) : List Record :=
  family.first :: family.rest

/-- The record that a family becomes: the later records taken into the first. -/
def record (merge : Merge) (family : Family) : Record :=
  family.rest.foldl merge.combine family.first

/-- The source entries of all members, each linking the first of them. -/
def sources (entries : List SourceEntry) (family : Family) : List SourceEntry :=
  family.members.flatMap fun record =>
    (SourceEntry.ofRecord entries record.id).map fun entry =>
      { entry with id := family.first.id }

/-- A family as it stands in the course of a merge. -/
def merged (merge : Merge) (entries : List SourceEntry) (family : Family) : Merged :=
  ⟨family.record merge, family.sources entries⟩

/-- All members have the template of the first. -/
def Coherent (merge : Merge) (family : Family) : Prop :=
  ∀ record ∈ family.rest, merge.template record = merge.template family.first

theorem record_id (merge : Merge) (family : Family)
    : (family.record merge).id = family.first.id :=
  merge.foldl_combine_id family.first family.rest

theorem Coherent.template {merge : Merge} {family : Family}
    (coherent : family.Coherent merge)
    : merge.template (family.record merge) = merge.template family.first :=
  merge.template_foldl_combine family.first family.rest coherent

/-- What holds of all members of a family and is kept by combining holds of its record, by
induction on the later members; the first and what it has become share a template.
-/
theorem Coherent.record_holds {merge : Merge} {family : Family} {holds : Record → Prop}
    (coherent : family.Coherent merge) (members : ∀ record ∈ family.members, holds record)
    (combined : ∀ record next, merge.template record = merge.template next
      → holds record → holds next → holds (merge.combine record next))
    : holds (family.record merge) := by
  obtain ⟨first, rest⟩ := family
  simp only [record]
  induction rest generalizing first with
  | nil => exact members first List.mem_cons_self
  | cons next rest ih =>
      obtain ⟨same, later⟩ := List.forall_mem_cons.mp coherent
      obtain ⟨own, others⟩ := List.forall_mem_cons.mp members
      obtain ⟨second, others⟩ := List.forall_mem_cons.mp others
      refine ih (merge.combine first next) ?_ ?_
      · intro record member
        exact (later record member).trans (merge.template_combine same.symm).symm
      · exact List.forall_mem_cons.mpr ⟨combined first next same.symm own second, others⟩

end Family

/-- Puts a record into the first family of its template, or starts a family with it. -/
def place (merge : Merge) (record : Record) : List Family → List Family
  | [] => [⟨record, []⟩]
  | family :: families =>
    if merge.template family.first = merge.template record then
      ⟨family.first, family.rest ++ [record]⟩ :: families
    else family :: merge.place record families

/-- The families of records, in order of their first members. -/
def families (merge : Merge) (records : List Record) : List Family :=
  records.foldl (fun families record => merge.place record families) []

theorem families_snoc (merge : Merge) (records : List Record) (record : Record)
    : merge.families (records ++ [record]) = merge.place record (merge.families records) := by
  simp only [families, List.foldl_append, List.foldl_cons, List.foldl_nil]

/-- Placing a record adds its template at the end, unless a family has it. -/
theorem place_templates (merge : Merge) (record : Record) (families : List Family)
    : (merge.place record families).map (merge.template ·.first)
      = if merge.template record ∈ families.map (merge.template ·.first) then
          families.map (merge.template ·.first)
        else families.map (merge.template ·.first) ++ [merge.template record] := by
  induction families with
  | nil => rfl
  | cons family families ih =>
      by_cases same : merge.template family.first = merge.template record
      · simp [place, same]
      · have other : merge.template record ≠ merge.template family.first := Ne.symm same
        simp only [place, same, if_false, List.map_cons, ih, List.mem_cons, other, false_or]
        split <;> rfl

/-- Where the families after a placement come from, when no two had the same template: a
family of another template, the extended one, or a new one.
-/
theorem mem_place {merge : Merge} {record : Record} {families : List Family} {family : Family}
    (unique : (families.map (merge.template ·.first)).Nodup)
    (member : family ∈ merge.place record families)
    : (family ∈ families ∧ merge.template family.first ≠ merge.template record)
      ∨ (∃ old ∈ families, merge.template old.first = merge.template record
          ∧ family = ⟨old.first, old.rest ++ [record]⟩)
      ∨ merge.template record ∉ families.map (merge.template ·.first)
        ∧ family = ⟨record, []⟩ := by
  induction families with
  | nil =>
      simp only [place, List.mem_singleton] at member
      exact Or.inr (Or.inr ⟨by simp, member⟩)
  | cons head families ih =>
      obtain ⟨fresh, later⟩ := List.nodup_cons.mp unique
      by_cases same : merge.template head.first = merge.template record
      · rw [place, if_pos same] at member
        rcases List.mem_cons.mp member with extended | kept
        · exact Or.inr (Or.inl ⟨head, by simp, same, extended⟩)
        · refine Or.inl ⟨by simp [kept], fun equal => fresh ?_⟩
          exact List.mem_map.mpr ⟨family, kept, equal.trans same.symm⟩
      · rw [place, if_neg same] at member
        rcases List.mem_cons.mp member with rfl | below
        · exact Or.inl ⟨by simp, same⟩
        · rcases ih later below with kept | extended | started
          · exact Or.inl ⟨by simp [kept.1], kept.2⟩
          · obtain ⟨old, known, rest⟩ := extended
            exact Or.inr (Or.inl ⟨old, by simp [known], rest⟩)
          · refine Or.inr (Or.inr ⟨?_, started.2⟩)
            simp only [List.map_cons, List.mem_cons, not_or]
            exact ⟨Ne.symm same, started.1⟩

private theorem eraseDups_snoc {α : Type} [DecidableEq α] (values : List α) (value : α)
    : (values ++ [value]).eraseDups
      = if value ∈ values then values.eraseDups else values.eraseDups ++ [value] := by
  rw [List.eraseDups_append, List.removeAll]
  by_cases known : value ∈ values
  · simp [known]
  · simp [known, List.eraseDups_cons]

/-- There is one family for each template, in the order of first occurrence. Witness:
induction on the last record; erasing duplicates from one more template adds it only when it
is new.
-/
theorem families_templates (merge : Merge) (records : List Record)
    : (merge.families records).map (merge.template ·.first)
      = (records.map merge.template).eraseDups := by
  induction records using List.reverseRecOn with
  | nil => rfl
  | append_singleton records record ih =>
      rw [families_snoc, place_templates, ih, List.map_append, List.map_singleton,
        eraseDups_snoc]
      simp only [List.mem_eraseDups]

theorem families_unique (merge : Merge) (records : List Record)
    : ((merge.families records).map (merge.template ·.first)).Nodup := by
  induction records using List.reverseRecOn with
  | nil => exact List.nodup_nil
  | append_singleton records record ih =>
      rw [families_snoc, place_templates]
      split
      · exact ih
      · rename_i fresh
        exact List.nodup_append.mpr ⟨ih, by simp, by
          intro template known other member same
          rw [List.mem_singleton.mp member] at same
          exact fresh (same ▸ known)⟩

/-- The members of a family are all records of its template, in their order. -/
theorem families_members {merge : Merge} {records : List Record} {family : Family}
    (member : family ∈ merge.families records)
    : family.members
      = records.filter (fun record => merge.template record = merge.template family.first) := by
  induction records using List.reverseRecOn generalizing family with
  | nil => simp [families] at member
  | append_singleton records record ih =>
      rw [families_snoc] at member
      rcases mem_place (merge.families_unique records) member with kept | extended | started
      · have other := Ne.symm kept.2
        simpa [other] using ih kept.1
      · obtain ⟨old, known, same, rfl⟩ := extended
        have before : old.first :: old.rest = _ := ih known
        simp only [Family.members, ← List.cons_append, before, same, List.filter_append]
        simp
      · obtain ⟨fresh, rfl⟩ := started
        have none : ∀ other ∈ records, merge.template other ≠ merge.template record := by
          intro other known same
          rw [families_templates, List.mem_eraseDups] at fresh
          exact fresh (List.mem_map.mpr ⟨other, known, same⟩)
        simpa [Family.members] using none

theorem families_coherent {merge : Merge} {records : List Record} {family : Family}
    (member : family ∈ merge.families records)
    : family.Coherent merge := by
  intro record later
  have inside : record ∈ family.members := List.mem_cons_of_mem family.first later
  rw [families_members member] at inside
  simpa using (List.mem_filter.mp inside).2

/-- The first members of the families stand in the order of the records. -/
theorem families_firsts (merge : Merge) (records : List Record)
    : ((merge.families records).map Family.first).Sublist records := by
  have step (record : Record) (families : List Family)
      : (merge.place record families).map Family.first = families.map Family.first
        ∨ (merge.place record families).map Family.first
          = families.map Family.first ++ [record] := by
    induction families with
    | nil => exact Or.inr rfl
    | cons family families ih =>
        rw [place]
        split
        · exact Or.inl rfl
        · simpa using ih
  induction records using List.reverseRecOn with
  | nil => exact List.Sublist.refl []
  | append_singleton records record ih =>
      rw [families_snoc]
      rcases step record (merge.families records) with same | longer
      · rw [same]
        exact ih.trans (List.sublist_append_left records [record])
      · rw [longer]
        exact ih.append_right [record]

/-- The families share out the records: each is a member of one family, once. -/
theorem families_perm (merge : Merge) (records : List Record)
    : ((merge.families records).flatMap Family.members).Perm records := by
  have step (record : Record) (families : List Family)
      : ((merge.place record families).flatMap Family.members).Perm
          (families.flatMap Family.members ++ [record]) := by
    induction families with
    | nil => exact .rfl
    | cons family families ih =>
        rw [place]
        split
        · have moved := (List.perm_append_singleton record
            (families.flatMap Family.members)).symm.append_left family.members
          simpa only [List.flatMap_cons, Family.members, List.cons_append, List.append_assoc,
            List.nil_append]
            using moved
        · simpa only [List.flatMap_cons, List.append_assoc] using ih.append_left family.members
  induction records using List.reverseRecOn with
  | nil => exact .rfl
  | append_singleton records record ih =>
      rw [families_snoc]
      exact (step record _).trans (ih.append_right [record])

end Blocklist.Merge
