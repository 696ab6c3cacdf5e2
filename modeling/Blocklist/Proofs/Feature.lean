import Blocklist.Feature
import Blocklist.Request
import Mathlib.Data.List.Basic

/-! Features by their names, which are not those of resource types, and sets of features as
sets: what they hold after a feature was added or taken away, and that what they hold determines
them.
-/

namespace Blocklist

namespace ResourceType

theorem ofModifier?_eq_some {name : String} {type : ResourceType}
    : ofModifier? name = some type ↔ name = type.modifier := by
  constructor
  · intro found
    have own := List.find?_some found
    exact (beq_iff_eq.mp own).symm
  · intro named
    subst named
    cases type <;> rfl

theorem modifier_inj {type own : ResourceType}
    : type.modifier = own.modifier ↔ type = own := by
  rw [← ofModifier?_eq_some, ofModifier?_eq_some.mpr rfl, Option.some.injEq]

theorem modifier_ne_domain (type : ResourceType) : type.modifier ≠ "domain" := by
  cases type <;> decide

end ResourceType

namespace Feature

theorem mem_all (feature : Feature) : feature ∈ all := by
  cases feature <;> decide

theorem index_lt (feature : Feature) : feature.index < 32 :=
  List.idxOf_lt_length_iff.mpr feature.mem_all

/-- Different features have different bits. -/
theorem index_inj {feature other : Feature} : feature.index = other.index ↔ feature = other :=
  List.idxOf_inj feature.mem_all

theorem ofModifier?_eq_some {name : String} {feature : Feature}
    (found : ofModifier? name = some feature)
    : feature.name = name := by
  simpa using List.find?_some found

theorem ofModifier?_name (feature : Feature) : ofModifier? feature.name = some feature := by
  cases feature <;> rfl

theorem ofModifier?_eq_some_iff {name : String} {feature : Feature}
    : ofModifier? name = some feature ↔ name = feature.name := by
  constructor
  · intro found
    exact (ofModifier?_eq_some found).symm
  · intro named
    exact named ▸ feature.ofModifier?_name

theorem name_inj {feature other : Feature} : feature.name = other.name ↔ feature = other := by
  constructor
  · intro same
    have found := feature.ofModifier?_name
    rw [same, other.ofModifier?_name] at found
    exact (Option.some.inj found).symm
  · intro same
    rw [same]

/-- No type has the name of a feature. -/
theorem type_ofModifier?_name (feature : Feature)
    : ResourceType.ofModifier? feature.name = none := by
  cases feature <;> rfl

theorem name_ne_modifier (feature : Feature) (type : ResourceType)
    : feature.name ≠ type.modifier := by
  intro same
  have found := ResourceType.ofModifier?_eq_some.mpr same
  rw [feature.type_ofModifier?_name] at found
  cases found

theorem name_ne_domain (feature : Feature) : feature.name ≠ "domain" := by
  cases feature <;> decide

end Feature

namespace FeatureSet

@[simp]
theorem contains_empty (feature : Feature) : empty.contains feature = false := by
  simp [contains, empty]

@[simp]
theorem contains_insert (set : FeatureSet) (feature other : Feature)
    : (set.insert feature).contains other
      = (set.contains other || decide (feature = other)) := by
  simp only [contains, insert, BitVec.getLsbD_or, BitVec.getLsbD_twoPow, feature.index_lt,
    decide_true, Bool.true_and, Feature.index_inj]

@[simp]
theorem contains_erase (set : FeatureSet) (feature other : Feature)
    : (set.erase feature).contains other
      = (set.contains other && !decide (feature = other)) := by
  simp only [contains, erase, BitVec.getLsbD_and, BitVec.getLsbD_not, BitVec.getLsbD_twoPow,
    feature.index_lt, other.index_lt, decide_true, Bool.true_and, Feature.index_inj]

@[simp]
theorem insertAll_nil (set : FeatureSet) : set.insertAll [] = set := rfl

@[simp]
theorem insertAll_singleton (set : FeatureSet) (feature : Feature)
    : set.insertAll [feature] = set.insert feature := rfl

@[simp]
theorem contains_insertAll (set : FeatureSet) (features : List Feature) (other : Feature)
    : (set.insertAll features).contains other
      = (set.contains other || decide (other ∈ features)) := by
  induction features generalizing set with
  | nil => simp [insertAll]
  | cons feature features ih =>
      have later := ih (set.insert feature)
      simp only [insertAll, List.foldl_cons] at later ⊢
      simp [later, Bool.or_assoc, eq_comm (a := other)]

/-- Sets that hold the same features are equal. Witness: each of the 32 bits is the bit of the
feature at its position in the list of all features.
-/
theorem ext_contains {set other : FeatureSet}
    (same : ∀ feature, set.contains feature = other.contains feature)
    : set = other := by
  obtain ⟨bits⟩ := set
  obtain ⟨others⟩ := other
  refine congrArg mk (BitVec.eq_of_getLsbD_eq ?_)
  intro position inside
  have listed : position < Feature.all.length := inside
  have bit : Feature.all[position].index = position :=
    (show Feature.all.Nodup by decide).idxOf_getElem position listed
  have own := same Feature.all[position]
  simpa only [contains, bit] using own

/-- A set without a feature is a set that lacks it, when they hold the same other features. -/
theorem erase_eq_iff {set other : FeatureSet} {feature : Feature}
    (absent : other.contains feature = false)
    : set.erase feature = other
      ↔ ∀ kept, kept ≠ feature → set.contains kept = other.contains kept := by
  constructor
  · intro same kept differs
    simp [← same, Ne.symm differs]
  · intro same
    refine ext_contains fun kept => ?_
    by_cases erased : kept = feature
    · simp [erased, absent]
    · simp [same kept erased, Ne.symm erased]

end FeatureSet

end Blocklist
