import InventorySync.Proofs.Registration
import InventorySync.Transaction.Commit

/-!
The promises of one commit in the table of waiting requests. A request of the
commit is open until the first answer to it arrives or its id is given up or
taken by another; what comes first is its fate. The table promises the commit
exactly its open requests, and the commit has learned the fates of all others.
-/

namespace InventorySync

set_option autoImplicit false

/-- A request id, and what ended the wait for its answer. -/
abbrev Closing := Int32 × Receipt

/-- What became of a request. Only the first closing of an id counts. -/
def fate (closed : List Closing) (requestId : Int32) : Receipt :=
  (closed.lookup requestId).getD .awaited

def Completion.promise? {τ : Type} : Completion τ → Option Promise
  | .promise made => some made
  | .callback _ => none

def RequestTable.promiseOf? {τ : Type} (table : RequestTable (Completion τ))
    (requestId : Int32) : Option Promise :=
  (table.find? requestId).bind fun registration => registration.completion.promise?

/-- What an event tells the commit behind a promise. -/
def Event.receipt? {τ : Type} : Event τ → Option (Promise × Receipt)
  | .answered promise response => some (promise, .answered response)
  | .abandoned promise => some (promise, .dropped)
  | _ => none

/-- All that commits learn from events. -/
def heard {τ : Type} (events : List (Event τ)) : List (Promise × Receipt) :=
  events.filterMap Event.receipt?

namespace Commit

/-- The commit of a number learns what is meant for it. -/
def learn (number : Nat) (commit : Commit) (news : Promise × Receipt) : Commit :=
  if number = news.1.commit then commit.record news.1.position news.2 else commit

def learnAll (number : Nat) (commit : Commit) (news : List (Promise × Receipt)) : Commit :=
  news.foldl (learn number) commit

/-- A commit that knows the fates of its requests. -/
def knowing (requests : List StackRequest) (closed : List Closing) : Commit :=
  ⟨requests, requests.map fun request => fate closed request.id⟩

theorem learnAll_append (number : Nat) (commit : Commit) (first second : List (Promise × Receipt)) :
    commit.learnAll number (first ++ second) =
      (commit.learnAll number first).learnAll number second := by
  unfold learnAll
  rw [List.foldl_append]

theorem learnAll_others {number : Nat} {news : List (Promise × Receipt)} (commit : Commit)
    (others : ∀ entry ∈ news, entry.1.commit ≠ number) : commit.learnAll number news = commit := by
  unfold learnAll
  induction news with
  | nil => rfl
  | cons entry later induction =>
      have other : number ≠ entry.1.commit := (others entry (List.mem_cons_self)).symm
      rw [List.foldl_cons, learn, if_neg other]
      exact induction fun entry member => others entry (List.mem_cons_of_mem _ member)

end Commit

section Fates

theorem heard_append {τ : Type} (first second : List (Event τ)) :
    heard (first ++ second) = heard first ++ heard second :=
  List.filterMap_append

theorem lookup_append_single (closed : List Closing) (closing : Closing) (requestId : Int32) :
    (closed ++ [closing]).lookup requestId = none ↔
      closed.lookup requestId = none ∧ requestId ≠ closing.1 := by
  rw [List.lookup_append, Option.or_eq_none_iff, Keyed.lookup_cons]
  by_cases same : requestId = closing.1
  · simp [same]
  · simp [same]

theorem fate_append_single (closed : List Closing) (closing : Closing) (requestId : Int32) :
    fate (closed ++ [closing]) requestId =
      if closed.lookup requestId = none ∧ requestId = closing.1 then closing.2
      else fate closed requestId := by
  unfold fate
  rw [List.lookup_append, Keyed.lookup_cons]
  cases found : closed.lookup requestId with
  | some receipt => simp
  | none =>
      by_cases same : requestId = closing.1
      · simp [same]
      · simp [same]

end Fates

/-- The table promises a commit its open requests, and the commit knows the others. -/
structure Tracks {τ : Type} (number : Nat) (requests : List StackRequest)
    (closed : List Closing) (table : RequestTable (Completion τ)) (commit : Commit) : Prop where
  knows : commit = Commit.knowing requests closed
  promised : ∀ requestId position,
    table.promiseOf? requestId = some ⟨number, position⟩ ↔
      requests[position]?.map StackRequest.id = some requestId ∧ closed.lookup requestId = none

namespace RequestTable

variable {τ : Type} (table : RequestTable (Completion τ)) (requestId other : Int32)

theorem promiseOf?_remove :
    (table.remove requestId).promiseOf? other =
      if other = requestId then none else table.promiseOf? other := by
  unfold promiseOf?
  rw [find?_remove]
  split <;> rfl

theorem promiseOf?_register (registration : Registration (Completion τ)) :
    (table.register requestId registration).promiseOf? other =
      if other = requestId then registration.completion.promise? else table.promiseOf? other := by
  unfold promiseOf?
  rw [find?_register]
  split <;> rfl

theorem heard_abandonedBy :
    heard (Engine.abandonedBy (table.find? requestId)) =
      (table.promiseOf? requestId).toList.map fun promise => (promise, .dropped) := by
  unfold promiseOf?
  cases table.find? requestId with
  | none => rfl
  | some registration =>
      obtain ⟨windows, predictions, completion⟩ := registration
      cases completion <;> rfl

end RequestTable

namespace Tracks

variable {τ : Type} {number : Nat} {requests : List StackRequest} {closed : List Closing}
  {table after : RequestTable (Completion τ)} {commit : Commit}

/-- The receipts of a commit when one more request is closed. -/
theorem record_knowing {position : Nat} {requestId : Int32} (receipt : Receipt)
    (distinct : (requests.map StackRequest.id).Nodup)
    (named : requests[position]?.map StackRequest.id = some requestId)
    (waiting : closed.lookup requestId = none) :
    (Commit.knowing requests closed).record position receipt =
      Commit.knowing requests (closed ++ [(requestId, receipt)]) := by
  unfold Commit.record Commit.knowing
  congr 1
  apply List.ext_getElem?
  intro index
  rw [List.getElem?_set, List.getElem?_map, List.getElem?_map]
  have place : (requests.map StackRequest.id)[position]? = some requestId := by
    rw [List.getElem?_map]
    exact named
  obtain ⟨inside, -⟩ := List.getElem?_eq_some_iff.1 place
  by_cases same : position = index
  · subst same
    rw [List.length_map] at inside
    rw [if_pos rfl, List.length_map, if_pos inside]
    obtain ⟨request, found, id⟩ := Option.map_eq_some_iff.1 named
    rw [found, Option.map_some, fate_append_single, if_pos ⟨id ▸ waiting, id⟩]
  · rw [if_neg same]
    cases found : requests[index]? with
    | none => rfl
    | some request =>
        have differs : request.id ≠ requestId := by
          intro equal
          have second : (requests.map StackRequest.id)[index]? = some requestId := by
            rw [List.getElem?_map, found, Option.map_some, equal]
          exact same ((List.getElem?_inj inside distinct).1 (place.trans second.symm))
        have kept : ¬ (closed.lookup request.id = none ∧ request.id = requestId) :=
          fun both => differs both.2
        rw [Option.map_some, Option.map_some, fate_append_single, if_neg kept]

theorem knowing_of_unpromised {requestId : Int32} (receipt : Receipt)
    (unpromised : requestId ∉ requests.map StackRequest.id ∨ closed.lookup requestId ≠ none) :
    Commit.knowing requests (closed ++ [(requestId, receipt)]) =
      Commit.knowing requests closed := by
  unfold Commit.knowing
  congr 1
  apply List.map_congr_left
  intro request member
  rw [fate_append_single, if_neg]
  intro both
  have same : request.id = requestId := both.2
  rcases unpromised with absent | shut
  · exact absent (same ▸ List.mem_map_of_mem member)
  · exact shut (same ▸ both.1)

/-- Closing an id: its promise goes out of the table, and whoever it belongs to hears of
it. -/
theorem close {requestId : Int32} {receipt : Receipt} {news : List (Promise × Receipt)}
    (distinct : (requests.map StackRequest.id).Nodup)
    (tracked : Tracks number requests closed table commit)
    (forgotten : ∀ other, after.promiseOf? other =
      if other = requestId then none else table.promiseOf? other)
    (told : news = (table.promiseOf? requestId).toList.map fun promise => (promise, receipt)) :
    Tracks number requests (closed ++ [(requestId, receipt)]) after
      (commit.learnAll number news) := by
  refine ⟨?_, ?_⟩
  · rw [tracked.knows, told]
    by_cases ours : ∃ position, table.promiseOf? requestId = some ⟨number, position⟩
    · obtain ⟨position, found⟩ := ours
      obtain ⟨named, waiting⟩ := (tracked.promised requestId position).1 found
      rw [found]
      change Commit.learn number _ _ = _
      unfold Commit.learn
      rw [if_pos rfl]
      exact record_knowing receipt distinct named waiting
    · have others : ∀ entry ∈ (table.promiseOf? requestId).toList.map
          (fun promise => (promise, receipt)), entry.1.commit ≠ number := by
        intro entry member same
        obtain ⟨promise, found, rfl⟩ := List.mem_map.1 member
        obtain ⟨owner, position⟩ := promise
        exact ours ⟨position, by rw [Option.mem_toList.1 found, ← same]⟩
      rw [Commit.learnAll_others _ others]
      symm
      apply knowing_of_unpromised
      by_cases member : requestId ∈ requests.map StackRequest.id
      · right
        intro waiting
        obtain ⟨position, inside, named⟩ := List.getElem_of_mem member
        have place : requests[position]?.map StackRequest.id = some requestId := by
          rw [← List.getElem?_map, List.getElem?_eq_getElem inside, named]
        exact ours ⟨position, (tracked.promised requestId position).2 ⟨place, waiting⟩⟩
      · exact Or.inl member
  · intro other position
    rw [forgotten, lookup_append_single]
    by_cases same : other = requestId
    · simp [same]
    · rw [if_neg same, tracked.promised other position]
      simp [same]

/-- Whatever happens to requests of others leaves the commit alone. -/
theorem keep {news : List (Promise × Receipt)}
    (tracked : Tracks number requests closed table commit)
    (kept : ∀ requestId position, after.promiseOf? requestId = some ⟨number, position⟩ ↔
      table.promiseOf? requestId = some ⟨number, position⟩)
    (others : ∀ entry ∈ news, entry.1.commit ≠ number) :
    Tracks number requests closed after (commit.learnAll number news) := by
  rw [Commit.learnAll_others commit others]
  exact ⟨tracked.knows, fun requestId position =>
    (kept requestId position).trans (tracked.promised requestId position)⟩

theorem unpromised {requestId : Int32} (tracked : Tracks number requests closed table commit)
    (absent : requestId ∉ requests.map StackRequest.id) (position : Nat) :
    table.promiseOf? requestId ≠ some ⟨number, position⟩ := by
  intro found
  obtain ⟨request, place, id⟩ :=
    Option.map_eq_some_iff.1 ((tracked.promised requestId position).1 found).1
  exact absent (id ▸ List.mem_map_of_mem (List.mem_of_getElem? place))

/-- An id of somebody else changes hands. -/
theorem keep_elsewhere {requestId : Int32} (tracked : Tracks number requests closed table commit)
    (absent : requestId ∉ requests.map StackRequest.id)
    (kept : ∀ other, other ≠ requestId → after.promiseOf? other = table.promiseOf? other)
    (foreign : ∀ promise, after.promiseOf? requestId = some promise → promise.commit ≠ number) :
    Tracks number requests closed after
      (commit.learnAll number (heard (Engine.abandonedBy (table.find? requestId)))) := by
  apply tracked.keep
  · intro other position
    by_cases same : other = requestId
    · subst same
      constructor
      · intro found
        exact absurd rfl (foreign _ found)
      · intro found
        exact absurd found (tracked.unpromised absent position)
    · rw [kept other same]
  · intro entry member same
    rw [table.heard_abandonedBy] at member
    obtain ⟨promise, found, rfl⟩ := List.mem_map.1 member
    obtain ⟨owner, position⟩ := promise
    exact tracked.unpromised absent position (by rw [Option.mem_toList.1 found, ← same])

end Tracks

/-- What a step of the engine does to a tracked commit, when it closes these ids. -/
def Follows {τ : Type} (number : Nat) (requests : List StackRequest)
    (table : RequestTable (Completion τ)) (closings : List Closing)
    (after : RequestTable (Completion τ)) (news : List (Promise × Receipt)) : Prop :=
  ∀ closed commit, Tracks number requests closed table commit →
    Tracks number requests (closed ++ closings) after (commit.learnAll number news)

namespace Follows

variable {τ : Type} {number : Nat} {requests : List StackRequest}
  {table between after : RequestTable (Completion τ)}

theorem quiet (same : after.pending = table.pending) :
    Follows number requests table [] after [] := by
  intro closed commit tracked
  rw [List.append_nil]
  have kept : after.promiseOf? = table.promiseOf? := by
    funext requestId
    unfold RequestTable.promiseOf? RequestTable.find?
    rw [same]
  exact ⟨tracked.knows, fun requestId position => by rw [kept, tracked.promised]⟩

theorem trans {first second : List Closing} {news others : List (Promise × Receipt)}
    (head : Follows number requests table first between news)
    (tail : Follows number requests between second after others) :
    Follows number requests table (first ++ second) after (news ++ others) := by
  intro closed commit tracked
  rw [Commit.learnAll_append, ← List.append_assoc]
  exact tail _ _ (head _ _ tracked)

variable (distinct : (requests.map StackRequest.id).Nodup)

include distinct in
theorem remove (table : RequestTable (Completion τ)) (requestId : Int32) :
    Follows number requests table [(requestId, .dropped)] (table.remove requestId)
      (heard (Engine.abandonedBy (table.find? requestId))) := by
  intro closed commit tracked
  exact tracked.close distinct (table.promiseOf?_remove requestId)
    (table.heard_abandonedBy requestId)

include distinct in
/-- Somebody registers a callback under an id of his own choice. -/
theorem register (table : RequestTable (Completion τ)) (requestId : Int32)
    {registration : Registration (Completion τ)}
    (callback : registration.completion.promise? = none) :
    Follows number requests table [(requestId, .dropped)] (table.register requestId registration)
      (heard (Engine.abandonedBy (table.find? requestId))) := by
  intro closed commit tracked
  apply tracked.close distinct
  · intro other
    rw [table.promiseOf?_register requestId other registration, callback]
  · exact table.heard_abandonedBy requestId

include distinct in
theorem settle (batch : List StackResponse) (table : RequestTable (Completion τ))
    (inventory : Inventory) :
    Follows number requests table
      (batch.map fun response => (response.requestId, .answered response))
      (RequestTable.settle batch table inventory).table
      (heard
        ((RequestTable.settle batch table inventory).completed.map Engine.completionEvent)) := by
  induction batch generalizing table inventory with
  | nil => exact quiet rfl
  | cons response later induction =>
      have forgotten := table.promiseOf?_remove response.requestId
      unfold RequestTable.settle
      cases found : table.find? response.requestId with
      | none =>
          have unpromised : table.promiseOf? response.requestId = none := by
            unfold RequestTable.promiseOf?
            rw [found, Option.bind_none]
          refine @trans _ _ _ _ _ _ [_] _ [] _ ?_ (induction table inventory)
          intro closed commit tracked
          apply tracked.close distinct
          · intro other
            split
            · next same => rw [same, unpromised]
            · rfl
          · rw [unpromised]
            rfl
      | some registration =>
          have head : Follows number requests table
              [(response.requestId, .answered response)] (table.remove response.requestId)
              (heard [Engine.completionEvent (registration.completion, response)]) := by
            intro closed commit tracked
            apply tracked.close distinct forgotten
            unfold RequestTable.promiseOf?
            rw [found, Option.bind_some]
            cases registration.completion <;> rfl
          have both := trans head (induction (table.remove response.requestId)
            (registration.apply inventory response))
          rw [← heard_append] at both
          exact both

/-- Another commit registers its requests. -/
theorem registerAll {engine : Engine τ} {other position : Nat} {compiled : List CompiledRequest}
    (different : other ≠ number)
    (elsewhere : ∀ entry ∈ compiled, entry.request.id ∉ requests.map StackRequest.id) :
    Follows number requests engine.requests []
      (engine.registerAll other position compiled).1.requests
      (heard (engine.registerAll other position compiled).2) := by
  induction compiled generalizing engine position with
  | nil => exact quiet rfl
  | cons entry later induction =>
      have absent := elsewhere entry List.mem_cons_self
      have head : Follows number requests engine.requests []
          (engine.register entry.request.id (entry.registration other position)).1.requests
          (heard (engine.register entry.request.id (entry.registration other position)).2) := by
        intro closed commit tracked
        rw [List.append_nil]
        apply tracked.keep_elsewhere absent
        · intro third differs
          exact (engine.requests.promiseOf?_register _ third _).trans (if_neg differs)
        · intro promise found
          rw [Engine.register, RequestTable.promiseOf?_register, if_pos rfl] at found
          cases found
          exact different
      have tail := @induction
        (engine.register entry.request.id (entry.registration other position)).1 (position + 1)
        fun entry member => elsewhere entry (List.mem_cons_of_mem _ member)
      have both := trans head tail
      rw [← heard_append] at both
      exact both

/-- Another commit gives up its requests. -/
theorem cancelAll {engine : Engine τ} {ids : List Int32}
    (elsewhere : ∀ requestId ∈ ids, requestId ∉ requests.map StackRequest.id) :
    Follows number requests engine.requests [] (engine.cancelAll ids).1.requests
      (heard (engine.cancelAll ids).2) := by
  induction ids generalizing engine with
  | nil => exact quiet rfl
  | cons requestId later induction =>
      have absent := elsewhere requestId List.mem_cons_self
      have head : Follows number requests engine.requests [] (engine.cancel requestId).1.requests
          (heard (engine.cancel requestId).2) := by
        intro closed commit tracked
        rw [List.append_nil]
        apply tracked.keep_elsewhere absent
        · intro third differs
          exact (engine.requests.promiseOf?_remove _ third).trans (if_neg differs)
        · intro promise found
          rw [Engine.cancel, RequestTable.promiseOf?_remove, if_pos rfl] at found
          cases found
      have tail := @induction (engine.cancel requestId).1
        fun requestId member => elsewhere requestId (List.mem_cons_of_mem _ member)
      have both := trans head tail
      rw [← heard_append] at both
      exact both

end Follows

namespace Engine

variable {τ : Type} {engine : Engine τ} {number : Nat} {compiled : List CompiledRequest}

/-- Who hears of a row of registrations had a promise before it. -/
theorem heard_registerAll {position : Nat} (distinct : (requestIds compiled).Nodup)
    {news : Promise × Receipt}
    (told : news ∈ heard (engine.registerAll number position compiled).2) :
    ∃ requestId ∈ requestIds compiled, engine.requests.promiseOf? requestId = some news.1 := by
  induction compiled generalizing engine position with
  | nil => cases told
  | cons entry later induction =>
      obtain ⟨alone, others⟩ := List.nodup_cons.1 distinct
      change news ∈ heard (abandonedBy _ ++ _) at told
      rw [heard_append, List.mem_append, RequestTable.heard_abandonedBy] at told
      rcases told with now | after
      · obtain ⟨promise, found, rfl⟩ := List.mem_map.1 now
        exact ⟨entry.request.id, List.mem_cons_self, Option.mem_toList.1 found⟩
      · obtain ⟨requestId, member, promised⟩ := @induction
          (engine.register entry.request.id (entry.registration number position)).1 (position + 1)
          others after
        have differs : requestId ≠ entry.request.id := by
          intro same
          rw [same] at member
          exact alone member
        rw [Engine.register, RequestTable.promiseOf?_register, if_neg differs] at promised
        exact ⟨requestId, List.mem_cons_of_mem _ member, promised⟩

/-- A commit with a number that no promise bears tracks its requests from their
registration on, and nothing that happens meanwhile is meant for it. -/
theorem tracks_registerAll (distinct : (requestIds compiled).Nodup)
    (fresh : ∀ requestId promise, engine.requests.promiseOf? requestId = some promise →
      promise.commit ≠ number) :
    Tracks number (compiled.map CompiledRequest.request) []
        (engine.registerAll number 0 compiled).1.requests
        (Commit.ofRequests (compiled.map CompiledRequest.request)) ∧
      ∀ news ∈ heard (engine.registerAll number 0 compiled).2, news.1.commit ≠ number := by
  refine ⟨⟨rfl, ?_⟩, ?_⟩
  · intro requestId position
    unfold RequestTable.promiseOf?
    by_cases member : requestId ∈ requestIds compiled
    · obtain ⟨index, place⟩ := List.mem_iff_getElem?.1 member
      have inside := (List.getElem?_eq_some_iff.1 place).1
      obtain ⟨entry, found, rfl⟩ := Option.map_eq_some_iff.1 (List.getElem?_map.symm.trans place)
      rw [find?_registerAll distinct found, Nat.zero_add]
      have same : (requestIds compiled)[index]? = (requestIds compiled)[position]? ↔
          index = position := List.getElem?_inj inside distinct
      rw [place] at same
      constructor
      · intro promised
        cases promised
        exact ⟨by rw [List.getElem?_map, found]; rfl, rfl⟩
      · intro named
        have there : (requestIds compiled)[position]? = some entry.request.id := by
          have listed := named.1
          rw [List.getElem?_map, Option.map_map] at listed
          unfold requestIds
          rw [List.getElem?_map]
          exact listed
        rw [same.1 there.symm]
        rfl
    · rw [find?_registerAll_absent member]
      constructor
      · intro promised
        exact absurd rfl (fresh requestId _ promised)
      · intro named
        obtain ⟨request, place, id⟩ := Option.map_eq_some_iff.1 named.1
        obtain ⟨entry, listed, rfl⟩ := List.mem_map.1 (List.mem_of_getElem? place)
        exact absurd (List.mem_map.2 ⟨entry, listed, id⟩) member
  · intro news told
    obtain ⟨requestId, -, promised⟩ := heard_registerAll distinct told
    exact fresh requestId news.1 promised

end Engine

end InventorySync
