import Blocklist.Proofs.Keys
import Blocklist.Proofs.Merge.Run

/-! Merged rulesets. No two of their records share a template, and their source map follows
the records; a merge finds nothing to do in such a ruleset.
-/

namespace Blocklist.Merge

open Declarative

/-- A ruleset in which there is nothing to merge: each record has a template and source
entries of its own, and the source map lists the entries record by record.
-/
structure Settled (merge : Merge) (records : List Record) (entries : List SourceEntry)
    : Prop where
  templates : (records.map merge.template).Nodup
  sourced : Sourced entries records
  grouped : (records.flatMap fun record => SourceEntry.ofRecord entries record.id) = entries

-----------------------------------------------------------------------------------------
-- Settled rulesets stay as they are
-----------------------------------------------------------------------------------------

/-- A record with a new template starts a family after all others. -/
theorem place_of_fresh {merge : Merge} {record : Record} {families : List Family}
    (fresh : merge.template record ∉ families.map (merge.template ·.first))
    : merge.place record families = families ++ [⟨record, []⟩] := by
  induction families with
  | nil => rfl
  | cons family families ih =>
      simp only [List.map_cons, List.mem_cons, not_or] at fresh
      rw [place, if_neg (Ne.symm fresh.1), ih fresh.2, List.cons_append]

/-- Records with distinct templates are families of their own, by induction on the last
record.
-/
theorem families_of_distinct {merge : Merge} {records : List Record}
    (distinct : (records.map merge.template).Nodup)
    : merge.families records = records.map fun record => ⟨record, []⟩ := by
  induction records using List.reverseRecOn with
  | nil => rfl
  | append_singleton records record ih =>
      rw [List.map_append, List.nodup_append] at distinct
      obtain ⟨earlier, -, apart⟩ := distinct
      have fresh : merge.template record
          ∉ (merge.families records).map (merge.template ·.first) := by
        rw [families_templates, List.mem_eraseDups]
        exact fun known => apart _ known _ (by simp) rfl
      rw [families_snoc, place_of_fresh fresh, ih earlier, List.map_append, List.map_singleton]

/-- A merge gives a settled ruleset back. -/
theorem Settled.run_eq {merge : Merge} {records : List Record} {entries : List SourceEntry}
    (settled : Settled merge records entries)
    : merge.run records entries = .ok (records, entries) := by
  have alone (record : Record)
      : Family.sources entries ⟨record, []⟩ = SourceEntry.ofRecord entries record.id := by
    simp only [Family.sources, Family.members, List.flatMap_cons, List.flatMap_nil,
      List.append_nil, SourceEntry.ofRecord_relink]
  rw [run_of_sourced settled.sourced, families_of_distinct settled.templates]
  simp only [List.map_map, Function.comp_def, Family.record, List.foldl_nil, List.map_id',
    List.flatMap_map, alone, settled.grouped]

-----------------------------------------------------------------------------------------
-- Merges settle rulesets
-----------------------------------------------------------------------------------------

theorem Family.mem_sources {entries : List SourceEntry} {family : Family} {entry : SourceEntry}
    (member : entry ∈ family.sources entries)
    : entry.id = family.first.id := by
  obtain ⟨record, -, relinked⟩ := List.mem_flatMap.mp member
  obtain ⟨own, -, rfl⟩ := List.mem_map.mp relinked
  rfl

section

variable {merge : Merge} {records : List Record} {entries : List SourceEntry}

theorem families_ids_distinct (sourced : Sourced entries records)
    : ((merge.families records).map (·.first.id)).Nodup := by
  have firsts := sourced.distinct.sublist ((merge.families_firsts records).map Record.id)
  rwa [List.map_map] at firsts

/-- The first member of a family brings source entries of its own along. -/
theorem families_linked (sourced : Sourced entries records) {family : Family}
    (member : family ∈ merge.families records)
    : ∃ entry ∈ family.sources entries, entry.id = family.first.id := by
  have known : family.first ∈ records :=
    (merge.families_firsts records).subset (List.mem_map_of_mem member)
  obtain ⟨entry, listed, link⟩ := sourced.linked family.first known
  refine ⟨entry, List.mem_flatMap.mpr ⟨family.first, List.mem_cons_self, ?_⟩, link⟩
  rw [SourceEntry.ofRecord_relink]
  exact SourceEntry.mem_ofRecord.mpr ⟨listed, link⟩

/-- The source entries of a family are all that link its record. -/
theorem ofRecord_families (sourced : Sourced entries records) {family : Family}
    (member : family ∈ merge.families records)
    : SourceEntry.ofRecord ((merge.families records).flatMap (Family.sources entries))
        family.first.id
      = family.sources entries :=
  filter_flatMap_key (families_ids_distinct sourced)
    (fun _ _ _ => Family.mem_sources) member

/-- The families of sourced records make a settled ruleset. -/
theorem families_settled (merge : Merge) (sourced : Sourced entries records)
    : Settled merge ((merge.families records).map (Family.record merge))
        ((merge.families records).flatMap (Family.sources entries)) where
  templates := by
    have kept : (merge.families records).map (merge.template ∘ Family.record merge)
        = (merge.families records).map (merge.template ·.first) :=
      List.map_congr_left fun family member => (families_coherent member).template
    rw [List.map_map, kept]
    exact merge.families_unique records
  sourced := by
    refine ⟨?_, ?_⟩
    · intro record member
      obtain ⟨family, known, rfl⟩ := List.mem_map.mp member
      obtain ⟨entry, own, link⟩ := families_linked sourced known
      refine ⟨entry, List.mem_flatMap.mpr ⟨family, known, own⟩, ?_⟩
      rw [Family.record_id, link]
    · rw [List.map_map]
      simpa only [Function.comp_def, Family.record_id] using families_ids_distinct sourced
  grouped := by
    rw [List.flatMap_map]
    apply List.flatMap_congr
    intro family member
    rw [Family.record_id, ofRecord_families sourced member]

end

/-- Merging is idempotent: a merge that goes through leaves nothing to merge, so a second one
goes through as well and gives the same records and the same source map, each in the same
order.
-/
theorem run_idempotent {merge : Merge} {records merged : List Record}
    {entries sources : List SourceEntry}
    (done : merge.run records entries = .ok (merged, sources))
    : merge.run merged sources = .ok (merged, sources) := by
  have sourced := sourced_of_run done
  rw [run_of_sourced sourced, Except.ok.injEq, Prod.mk.injEq] at done
  obtain ⟨rfl, rfl⟩ := done
  exact (families_settled merge sourced).run_eq

/-- A record that removes headers of responses from a host. -/
def removalRecord (id : UInt32) (host : String) (headers : List String) : Record where
  id := id
  priority := 1
  action := .modifyHeaders none (some (headers.map fun header =>
    { header, operation := .remove }))
  condition := { requestDomains := some [host] }

/-- The removals for two hosts, taken in turn, with lines that stand in another order and
one that leads nowhere.
-/
theorem run_idempotent_of_two_hosts
    : let records := [removalRecord 7 "a.org" ["refresh"], removalRecord 4 "b.org" ["server"],
        removalRecord 2 "a.org" ["etag"]]
      let merged := [removalRecord 7 "a.org" ["refresh", "etag"],
        removalRecord 4 "b.org" ["server"]]
      let sources := [⟨7, 0, 40⟩, ⟨7, 1, 8⟩, ⟨7, 0, 0⟩, ⟨4, 0, 20⟩]
      run .removeHeader records [⟨2, 0, 0⟩, ⟨9, 0, 10⟩, ⟨4, 0, 20⟩, ⟨7, 0, 40⟩, ⟨7, 1, 8⟩]
          = .ok (merged, sources)
      ∧ run .removeHeader merged sources = .ok (merged, sources) := by
  intro records merged sources
  have done : run .removeHeader records
      [⟨2, 0, 0⟩, ⟨9, 0, 10⟩, ⟨4, 0, 20⟩, ⟨7, 0, 40⟩, ⟨7, 1, 8⟩] = .ok (merged, sources) := by
    decide +kernel
  exact ⟨done, run_idempotent done⟩

end Blocklist.Merge
