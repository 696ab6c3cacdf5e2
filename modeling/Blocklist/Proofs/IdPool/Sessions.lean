import Blocklist.Proofs.IdPool
import Mathlib.Data.List.Nodup

/-! Sessions of an allocator and its clones. All of them refer to one pool, and whoever is
asked, an id is given away once, never after it was reserved, and stays in use.
-/

namespace Blocklist.IdPool

-----------------------------------------------------------------------------------------
-- Calls and allocators
-----------------------------------------------------------------------------------------

/-- What an allocator is asked for. -/
inductive Call where
  | allocate (text : String)
  | reserve (id : UInt32)
  | clone
  deriving DecidableEq, Repr

/-- A call with its answer. -/
inductive Event where
  | allocated (text : String) (id : UInt32)
  | reserved (id : UInt32) (wasFree : Bool)
  | cloned
  deriving DecidableEq, Repr

/-- Allocators, in the order in which they were made, each by the place of the pool it refers
to.
-/
structure Allocators where
  pools : List IdPool
  places : List Nat
  deriving DecidableEq, Repr

/-- The answer to a call and the pool after it. An allocation without a free id has none. -/
def Call.answer (pool : IdPool) : Call → Option (Event × IdPool)
  | allocate text => (pool.allocate? text).map fun (id, next) => (.allocated text id, next)
  | reserve id =>
    let (wasFree, next) := pool.reserve id
    some (.reserved id wasFree, next)
  | clone => some (.cloned, pool)

namespace Allocators

/-- One allocator, with an empty pool. -/
def single : Allocators := ⟨[.empty], [0]⟩

/-- The places that a call adds: a clone refers to the pool of the allocator it is made from. -/
def placesAdded (place : Nat) : Call → List Nat
  | .clone => [place]
  | _ => []

/-- Asks the allocator with a number. -/
def perform (state : Allocators) (asked : Nat) (call : Call) : Option (Event × Allocators) := do
  let place ← state.places[asked]?
  let pool ← state.pools[place]?
  let (event, next) ← call.answer pool
  return (event, ⟨state.pools.set place next, state.places ++ placesAdded place call⟩)

/-- Asks for one thing after the other, each of the allocator with the number beside it. -/
def session (state : Allocators) : List (Nat × Call) → Option (List Event × Allocators)
  | [] => some ([], state)
  | (asked, call) :: rest => do
    let (event, next) ← state.perform asked call
    let (events, final) ← next.session rest
    return (event :: events, final)

/-- All allocators refer to one pool. -/
structure Share (state : Allocators) (pool : IdPool) : Prop where
  pools : state.pools = [pool]
  places : ∀ place ∈ state.places, place = 0

theorem single_share : single.Share .empty :=
  ⟨rfl, fun _ member => List.mem_singleton.mp member⟩

/-- Asking an allocator that exists is asking the shared pool, and a clone shares it too. -/
theorem Share.perform {state : Allocators} {pool : IdPool} (share : state.Share pool)
    {asked : Nat} (known : asked < state.places.length) (call : Call)
    : state.perform asked call
      = (call.answer pool).map fun (event, next) =>
          (event, ⟨[next], state.places ++ placesAdded 0 call⟩) := by
  have place : state.places[asked]? = some 0 := by
    rw [List.getElem?_eq_getElem known, share.places _ (List.getElem_mem known)]
  cases answered : call.answer pool <;> simp [Allocators.perform, place, share.pools, answered]

theorem perform_known {state next : Allocators} {asked : Nat} {call : Call} {event : Event}
    (done : state.perform asked call = some (event, next))
    : asked < state.places.length := by
  by_contra unknown
  rw [perform, List.getElem?_eq_none (Nat.not_lt.mp unknown)] at done
  cases done

theorem Share.extend {state : Allocators} {pool : IdPool} (share : state.Share pool)
    (next : IdPool) (call : Call)
    : Share ⟨[next], state.places ++ placesAdded 0 call⟩ next := by
  refine ⟨rfl, ?_⟩
  intro place member
  rcases List.mem_append.mp member with old | added
  · exact share.places place old
  · cases call with
    | clone => exact List.mem_singleton.mp added
    | _ => cases added

theorem Share.answer {state next : Allocators} {pool : IdPool} {asked : Nat} {call : Call}
    {event : Event} (share : state.Share pool)
    (done : state.perform asked call = some (event, next))
    : ∃ after, next.Share after ∧ call.answer pool = some (event, after) := by
  rw [share.perform (perform_known done)] at done
  obtain ⟨⟨given, after⟩, answered, same⟩ := Option.map_eq_some_iff.mp done
  obtain ⟨rfl, rfl⟩ := Prod.mk.inj same
  exact ⟨after, share.extend after call, answered⟩

end Allocators

-----------------------------------------------------------------------------------------
-- Answers
-----------------------------------------------------------------------------------------

/-- The call that an event answers. -/
def Event.call : Event → Call
  | allocated text _ => .allocate text
  | reserved id _ => .reserve id
  | cloned => .clone

/-- The id that was given away. -/
def Event.allocated? : Event → Option UInt32
  | allocated _ id => some id
  | _ => none

/-- The id that was to be reserved. -/
def Event.reserved? : Event → Option UInt32
  | reserved id _ => some id
  | _ => none

/-- Whether an id was given away. -/
def Event.isAllocation (event : Event) : Bool :=
  event.allocated?.isSome

/-- Whether an id was reserved that had been free. -/
def Event.isNewReservation : Event → Bool
  | reserved _ wasFree => wasFree
  | _ => false

/-- An allocation gives the id of the text with the first salt, counted from none on, whose id
is neither below the least one nor in use.
-/
def FirstFree (pool : IdPool) (text : String) (id : UInt32) : Prop :=
  ∃ salt < saltCount, id = textId (salted text salt)
    ∧ Declarative.minId ≤ id ∧ pool.contains id = false
    ∧ ∀ earlier < salt, textId (salted text earlier) < Declarative.minId
        ∨ pool.contains (textId (salted text earlier)) = true

theorem not_isFree_iff {pool : IdPool} {id : UInt32}
    : ¬pool.isFree id = true ↔ id < Declarative.minId ∨ pool.contains id = true := by
  rw [isFree_iff, contains_iff, Decidable.not_and_iff_not_or_not, UInt32.not_le,
    Decidable.not_not]

theorem allocate?_firstFree {pool next : IdPool} {text : String} {id : UInt32}
    (found : pool.allocate? text = some (id, next))
    : FirstFree pool text id := by
  obtain ⟨given, searched, same⟩ := Option.map_eq_some_iff.mp found
  obtain ⟨rfl, rfl⟩ := Prod.mk.inj same
  obtain ⟨salt, bound, named, free, first⟩ := search?_eq_some searched
  obtain ⟨least, fresh⟩ := isFree_iff.mp free
  rw [Nat.zero_add] at named
  refine ⟨salt, bound, named, least, ?_, ?_⟩
  · rwa [← Bool.not_eq_true, contains_iff]
  · intro earlier below
    have taken := first earlier below
    rwa [Nat.zero_add, not_isFree_iff] at taken

/-- The answer to a call, by what was asked. -/
inductive Call.Answers (pool : IdPool) : Call → Event → IdPool → Prop where
  | allocated {text : String} {id : UInt32} {next : IdPool} (found : FirstFree pool text id)
      (taken : next.taken = id :: pool.taken)
      : Answers pool (.allocate text) (.allocated text id) next
  | reserved {id : UInt32} {next : IdPool} (free : id ∉ pool.taken)
      (taken : next.taken = id :: pool.taken)
      : Answers pool (.reserve id) (.reserved id true) next
  | refused {id : UInt32} (taken : id ∈ pool.taken)
      : Answers pool (.reserve id) (.reserved id false) pool
  | cloned : Answers pool .clone .cloned pool

theorem Call.answers {pool next : IdPool} {call : Call} {event : Event}
    (answered : call.answer pool = some (event, next))
    : call.Answers pool event next := by
  cases call with
  | allocate text =>
      obtain ⟨⟨id, after⟩, found, same⟩ := Option.map_eq_some_iff.mp answered
      obtain ⟨rfl, rfl⟩ := Prod.mk.inj same
      exact .allocated (allocate?_firstFree found) (allocate?_eq_some found).2.2.2
  | reserve id =>
      by_cases taken : pool.contains id = true
      · rw [Call.answer, IdPool.reserve, if_pos taken] at answered
        obtain ⟨rfl, rfl⟩ := Prod.mk.inj (Option.some.inj answered)
        exact .refused (contains_iff.mp taken)
      · rw [Call.answer, IdPool.reserve, if_neg taken] at answered
        obtain ⟨rfl, rfl⟩ := Prod.mk.inj (Option.some.inj answered)
        exact .reserved (fun member => taken (contains_iff.mpr member)) rfl
  | clone =>
      obtain ⟨rfl, rfl⟩ := Prod.mk.inj (Option.some.inj answered)
      exact .cloned

theorem Call.Answers.call {pool next : IdPool} {call : Call} {event : Event}
    (answers : call.Answers pool event next)
    : event.call = call := by
  cases answers <;> rfl

theorem Call.Answers.contains {pool next : IdPool} {call : Call} {event : Event}
    (answers : call.Answers pool event next) {other : UInt32}
    : next.contains other = true ↔ pool.contains other = true
      ∨ event.allocated? = some other ∨ event.reserved? = some other := by
  simp only [contains_iff]
  cases answers with
  | allocated found taken => simp [taken, Event.allocated?, Event.reserved?, or_comm, eq_comm]
  | reserved free taken => simp [taken, Event.allocated?, Event.reserved?, or_comm, eq_comm]
  | refused taken =>
      constructor
      · exact Or.inl
      · rintro (old | none | same)
        · exact old
        · cases none
        · obtain rfl := Option.some.inj same
          exact taken
  | cloned => simp [Event.allocated?, Event.reserved?]

-----------------------------------------------------------------------------------------
-- Histories
-----------------------------------------------------------------------------------------

/-- What the events of a session say about the ids in use. -/
structure Recorded (events : List Event) (pool : IdPool) : Prop where
  distinct : (events.filterMap Event.allocated?).Nodup
  unreserved : events.Pairwise fun earlier later =>
    ∀ id, earlier.reserved? = some id → later.allocated? ≠ some id
  ids : ∀ id, pool.contains id = true
    ↔ ∃ event ∈ events, event.allocated? = some id ∨ event.reserved? = some id
  size : pool.size = events.countP Event.isAllocation + events.countP Event.isNewReservation

theorem Recorded.start : Recorded [] .empty where
  distinct := List.nodup_nil
  unreserved := List.Pairwise.nil
  ids := by simp [empty, contains]
  size := rfl

/-- An id that is given away was not in use. -/
theorem Call.Answers.fresh {pool next : IdPool} {call : Call} {event : Event}
    (answers : call.Answers pool event next) {id : UInt32}
    (given : event.allocated? = some id)
    : pool.contains id = false := by
  cases answers with
  | allocated found taken =>
      obtain rfl := Option.some.inj given
      obtain ⟨salt, -, -, -, unused, -⟩ := found
      exact unused
  | _ => cases given

theorem Call.Answers.size {pool next : IdPool} {call : Call} {event : Event}
    (answers : call.Answers pool event next)
    : next.size
      = pool.size + event.isAllocation.toNat + event.isNewReservation.toNat := by
  cases answers with
  | allocated found taken =>
      rw [IdPool.size, taken]
      rfl
  | reserved free taken =>
      rw [IdPool.size, taken]
      rfl
  | _ => rfl

/-- Every answer keeps the record of the session. -/
theorem Recorded.snoc {events : List Event} {pool next : IdPool} {call : Call} {event : Event}
    (recorded : Recorded events pool) (answers : call.Answers pool event next)
    : Recorded (events ++ [event]) next where
  distinct := by
    rw [List.filterMap_append]
    refine recorded.distinct.append ?_ ?_
    · cases given : event.allocated? <;> simp [given]
    · intro id early late
      obtain ⟨other, member, given⟩ := List.mem_filterMap.mp early
      have own : event.allocated? = some id := by simpa using late
      have used := (recorded.ids id).mpr ⟨other, member, Or.inl given⟩
      rw [answers.fresh own] at used
      cases used
  unreserved := by
    refine List.pairwise_append.mpr ⟨recorded.unreserved, List.pairwise_singleton _ _, ?_⟩
    intro earlier member later last id reserved given
    obtain rfl := List.mem_singleton.mp last
    have used := (recorded.ids id).mpr ⟨earlier, member, Or.inr reserved⟩
    rw [answers.fresh given] at used
    cases used
  ids := by
    intro id
    simp only [answers.contains, recorded.ids, List.mem_append, List.mem_singleton, or_and_right,
      exists_or, exists_eq_left]
  size := by
    simp only [answers.size, recorded.size, List.countP_append, List.countP_singleton]
    cases event.isAllocation <;> cases event.isNewReservation <;> simp <;> omega

/-- A session keeps one shared pool and its record, by induction on the calls. -/
theorem Allocators.session_recorded {calls : List (Nat × Call)} {past events : List Event}
    {state final : Allocators} {pool : IdPool} (share : state.Share pool)
    (recorded : Recorded past pool) (done : state.session calls = some (events, final))
    : events.map Event.call = calls.map Prod.snd
      ∧ ∃ after, final.Share after ∧ Recorded (past ++ events) after := by
  induction calls generalizing past events state pool with
  | nil =>
      obtain ⟨rfl, rfl⟩ := Prod.mk.inj (Option.some.inj done)
      exact ⟨rfl, pool, share, by rwa [List.append_nil]⟩
  | cons call rest ih =>
      obtain ⟨asked, call⟩ := call
      obtain ⟨⟨event, next⟩, first, later⟩ := Option.bind_eq_some_iff.mp done
      obtain ⟨⟨others, last⟩, finished, same⟩ := Option.bind_eq_some_iff.mp later
      obtain ⟨rfl, rfl⟩ := Prod.mk.inj (Option.some.inj same)
      obtain ⟨after, share, answered⟩ := share.answer first
      have answers := Call.answers answered
      obtain ⟨asked, extended⟩ := ih share (recorded.snoc answers) finished
      rw [List.append_assoc, List.singleton_append] at extended
      exact ⟨by rw [List.map_cons, List.map_cons, answers.call, asked], extended⟩

/-- Sessions of an allocator with an empty pool and of its clones, whichever of them is asked.
They all see one pool. An allocation that ends gives the id of the first salted text that is in
range and not in use, and a reservation tells whether the id was free; either takes that id and
no other. So no id is given away twice or after it was reserved, no id gets free again, and the
ids in use are those of the session, of which each is counted once.
-/
theorem session_gives_fresh_ids {calls : List (Nat × Call)} {events : List Event}
    {state : Allocators} (done : Allocators.single.session calls = some (events, state))
    : events.map Event.call = calls.map Prod.snd
      ∧ ∃ pool, state.Share pool
        ∧ (∀ asked text event next,
            state.perform asked (.allocate text) = some (event, next)
            → ∃ id after, event = .allocated text id ∧ next.Share after
              ∧ Declarative.minId ≤ id ∧ id ≤ Declarative.maxId ∧ pool.contains id = false
              ∧ FirstFree pool text id
              ∧ ∀ other, after.contains other = true ↔ pool.contains other = true ∨ other = id)
        ∧ (∀ asked < state.places.length, ∀ id, ∃ next after,
            state.perform asked (.reserve id) = some (.reserved id (!pool.contains id), next)
            ∧ next.Share after
            ∧ ∀ other, after.contains other = true ↔ pool.contains other = true ∨ other = id)
        ∧ (∀ asked < state.places.length, ∃ next,
            state.perform asked .clone = some (.cloned, next) ∧ next.Share pool
            ∧ next.places.length = state.places.length + 1)
        ∧ (events.filterMap Event.allocated?).Nodup
        ∧ (events.Pairwise fun earlier later =>
            ∀ id, earlier.reserved? = some id → later.allocated? ≠ some id)
        ∧ (∀ id, pool.contains id = true
            ↔ ∃ event ∈ events, event.allocated? = some id ∨ event.reserved? = some id)
        ∧ (∀ more later final, state.session more = some (later, final)
            → ∃ last, final.Share last
              ∧ ∀ id, pool.contains id = true → last.contains id = true)
        ∧ pool.size
          = events.countP Event.isAllocation + events.countP Event.isNewReservation := by
  obtain ⟨asked, pool, share, recorded⟩ :=
    Allocators.session_recorded Allocators.single_share .start done
  rw [List.nil_append] at recorded
  refine ⟨asked, pool, share, ?_, ?_, ?_, recorded.distinct, recorded.unreserved, recorded.ids,
    ?_, recorded.size⟩
  · intro asked text event next performed
    obtain ⟨after, shared, answered⟩ := share.answer performed
    have answers := Call.answers answered
    cases answers with
    | @allocated _ id _ found taken =>
        obtain ⟨salt, bound, named, least, unused, first⟩ := found
        refine ⟨id, after, rfl, shared, least, named ▸ textId_le_maxId _, unused,
          ⟨salt, bound, named, least, unused, first⟩, ?_⟩
        intro other
        rw [(Call.answers answered).contains]
        simp [Event.allocated?, Event.reserved?, @eq_comm UInt32 id other]
  · intro asked known id
    have answered : (Call.reserve id).answer pool
        = some (.reserved id (!pool.contains id), (pool.reserve id).2) := by
      cases used : pool.contains id <;> simp [Call.answer, IdPool.reserve, used]
    refine ⟨_, (pool.reserve id).2, by rw [share.perform known, answered]; rfl,
      share.extend _ _, ?_⟩
    intro other
    rw [(Call.answers answered).contains]
    simp [Event.allocated?, Event.reserved?, @eq_comm UInt32 id other]
  · intro asked known
    exact ⟨_, by rw [share.perform known]; rfl, share.extend pool .clone, List.length_append⟩
  · intro more later final continued
    obtain ⟨-, last, shared, extended⟩ := Allocators.session_recorded share recorded continued
    refine ⟨last, shared, ?_⟩
    intro id used
    obtain ⟨event, member, named⟩ := (recorded.ids id).mp used
    exact (extended.ids id).mpr ⟨event, List.mem_append_left _ member, named⟩

/-- A text whose first salted form has been taken by another text, on two clones. -/
def sharedCalls : List (Nat × Call) :=
  [(0, .allocate "||ads.example^"), (0, .clone), (1, .allocate "||ads.example^1"),
    (0, .allocate "||ads.example^"), (1, .reserve 7), (0, .reserve 7)]

/-- The second allocation of a text passes over the salt whose id is in use. -/
theorem session_gives_fresh_ids_to_clones
    : ∃ state pool,
        Allocators.single.session sharedCalls
          = some
              ([.allocated "||ads.example^" 1052479588, .cloned,
                .allocated "||ads.example^1" 1159219705, .allocated "||ads.example^" 906375932,
                .reserved 7 true, .reserved 7 false], state)
        ∧ state.Share pool ∧ pool.contains 906375932 = true ∧ pool.size = 4 := by
  have done : Allocators.single.session sharedCalls
      = some
          ([.allocated "||ads.example^" 1052479588, .cloned,
            .allocated "||ads.example^1" 1159219705, .allocated "||ads.example^" 906375932,
            .reserved 7 true, .reserved 7 false],
            ⟨[⟨[7, 906375932, 1159219705, 1052479588]⟩], [0, 0]⟩) := by
    decide +kernel
  obtain ⟨-, pool, share, -, -, -, -, -, ids, -, size⟩ := session_gives_fresh_ids done
  refine ⟨_, pool, done, share, (ids _).mpr ?_, size⟩
  exact ⟨.allocated "||ads.example^" 906375932, by decide, Or.inl rfl⟩

end Blocklist.IdPool
