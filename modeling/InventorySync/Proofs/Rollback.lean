import InventorySync.Proofs.Registration
import InventorySync.Proofs.Settlement

/-!
How a commit is taken back. Registered requests are given up again if they cannot be sent,
and nothing is left of them, provided that none of their ids was waiting before. That is so
as long as every id that waits was given out by the counter and none came round again.
-/

namespace InventorySync

set_option autoImplicit false

namespace RequestTable

variable {κ : Type} {table : RequestTable κ}

theorem without_without (table : RequestTable κ) (first second : List Int32) :
    (table.without first).without second = table.without (first ++ second) := by
  unfold without
  rw [List.filter_filter]
  congr 1
  apply List.filter_congr
  intro entry _
  rw [List.contains_eq_mem, List.contains_eq_mem, List.contains_eq_mem, ← Bool.not_or,
    Bool.or_comm]
  simp only [List.mem_append, Bool.decide_or]

theorem isPending_without (table : RequestTable κ) (requestIds : List Int32) (requestId : Int32) :
    (table.without requestIds).isPending requestId ↔
      table.isPending requestId ∧ requestId ∉ requestIds := by
  unfold isPending
  rw [find?_without]
  by_cases gone : requestId ∈ requestIds
  · simp [gone]
  · simp [gone]

theorem without_of_absent {requestIds : List Int32}
    (absent : ∀ requestId ∈ requestIds, table.isPending requestId = false) :
    table.without requestIds = table := by
  induction requestIds with
  | nil => exact without_nil table
  | cons requestId later induction =>
      have free : table.find? requestId = none :=
        Option.isNone_iff_eq_none.1 (Option.isSome_eq_false_iff.1 (absent _ List.mem_cons_self))
      have alone := remove_without table [] requestId
      rw [without_nil, remove_absent table requestId free, List.nil_append] at alone
      have rest := induction fun other member => absent other (List.mem_cons_of_mem _ member)
      rw [← List.singleton_append, ← without_without, ← alone, rest]

theorem register_without {requestIds : List Int32} {requestId : Int32}
    (registration : Registration κ) (given : requestId ∈ requestIds) :
    (table.register requestId registration).without requestIds = table.without requestIds := by
  have gone : (!requestIds.contains requestId) = false := by simpa using given
  unfold register without Keyed.put Keyed.erase
  rw [List.filter_cons, if_neg (Bool.eq_false_iff.1 gone), List.filter_filter]
  congr 1
  apply List.filter_congr
  intro entry _
  by_cases same : entry.1 = requestId
  · simp [same, given]
  · simp [same]

/-- Every id that waits is one of the first that the counter gave out. -/
structure Issued (table : RequestTable κ) (count : Nat) : Prop where
  next : table.nextId = Compile.idAt (-1) count
  waiting : ∀ requestId, table.isPending requestId →
    ∃ position < count, Compile.idAt (-1) position = requestId

theorem Issued.of_entries {count : Nat} (next : table.nextId = Compile.idAt (-1) count)
    (waiting : ∀ entry ∈ table.pending, ∃ position < count,
      Compile.idAt (-1) position = entry.1) : table.Issued count := by
  refine ⟨next, fun requestId waits => ?_⟩
  obtain ⟨registration, found⟩ := Option.isSome_iff_exists.1 waits
  exact waiting _ (Keyed.mem_of_lookup found)

theorem Issued.grow {other : RequestTable κ} {count taken : Nat} (issued : table.Issued count)
    (next : other.nextId = Compile.idAt table.nextId taken)
    (waiting : ∀ requestId, other.isPending requestId → table.isPending requestId ∨
      ∃ position < taken, Compile.idAt table.nextId position = requestId) :
    other.Issued (count + taken) := by
  constructor
  · rw [next, issued.next, Compile.idAt_idAt]
  · intro requestId waits
    rcases waiting requestId waits with before | ⟨position, inside, given⟩
    · obtain ⟨position, earlier, given⟩ := issued.waiting requestId before
      exact ⟨position, by omega, given⟩
    · rw [issued.next, Compile.idAt_idAt] at given
      exact ⟨count + position, by omega, given⟩

/-- The next ids wait for nothing, as long as no id comes round again. -/
theorem Issued.free {count taken position : Nat} (issued : table.Issued count)
    (room : count + taken ≤ 2 ^ 31) (inside : position < taken) :
    table.isPending (Compile.idAt table.nextId position) = false := by
  rw [Bool.eq_false_iff]
  intro waits
  obtain ⟨earlier, before, same⟩ := issued.waiting _ waits
  rw [issued.next, Compile.idAt_idAt] at same
  have equal := Compile.idAt_injective (by omega) (by omega) same
  omega

end RequestTable

namespace Engine

variable {τ : Type} {engine : Engine τ}

theorem isPending_compiled {middle : Engine τ} {queue : List Operation}
    {result : Except SyncError (List CompiledRequest)} {requestId : Int32}
    (compiles : engine.compile queue = (result, middle)) :
    middle.requests.isPending requestId = engine.requests.isPending requestId := by
  have kept := engine.compile_requests queue
  rw [compiles] at kept
  change middle.requests = _ at kept
  rw [kept]
  rfl

/-- A queue is compiled under ids that wait for nothing. -/
theorem compile_free {middle : Engine τ} {queue : List Operation}
    {compiled : List CompiledRequest} {count : Nat} (issued : engine.requests.Issued count)
    (room : count + engine.idsFor queue ≤ 2 ^ 31)
    (succeeds : engine.compile queue = (.ok compiled, middle)) :
    ∀ requestId ∈ requestIds compiled, middle.requests.isPending requestId = false := by
  intro requestId listed
  rw [requestIds_compiled succeeds] at listed
  rw [isPending_compiled succeeds]
  obtain ⟨position, inside, rfl⟩ := List.mem_map.1 listed
  exact issued.free room (List.mem_range.1 inside)

theorem cancelAll_eq (requestIds : List Int32) :
    (engine.cancelAll requestIds).1 =
      { engine with requests := engine.requests.without requestIds } := by
  induction requestIds generalizing engine with
  | nil =>
      rw [RequestTable.without_nil]
      rfl
  | cons requestId later induction =>
      have alone := RequestTable.remove_without engine.requests [] requestId
      rw [RequestTable.without_nil, List.nil_append] at alone
      change ((engine.cancel requestId).1.cancelAll later).1 = _
      rw [induction, ← List.singleton_append, ← RequestTable.without_without, ← alone]
      rfl

theorem registerAll_without {commit position : Nat} {compiled : List CompiledRequest}
    {ids : List Int32} (given : ∀ requestId ∈ requestIds compiled, requestId ∈ ids) :
    (engine.registerAll commit position compiled).1.requests.without ids =
      engine.requests.without ids := by
  induction compiled generalizing engine position with
  | nil => rfl
  | cons entry later induction =>
      have rest := @induction
        (engine.register entry.request.id (entry.registration commit position)).1 (position + 1)
        fun requestId member => given requestId (List.mem_cons_of_mem _ member)
      refine rest.trans ?_
      exact RequestTable.register_without _ (given _ List.mem_cons_self)

/-- Nothing is left of requests that were registered under free ids and given up again. -/
theorem cancelAll_registerAll {commit position : Nat} {compiled : List CompiledRequest}
    (free : ∀ requestId ∈ requestIds compiled, engine.requests.isPending requestId = false) :
    ((engine.registerAll commit position compiled).1.cancelAll (requestIds compiled)).1 =
      engine := by
  have same := @registerAll_without _ engine commit position compiled (requestIds compiled)
    fun _ member => member
  rw [cancelAll_eq, same, RequestTable.without_of_absent free, registerAll_engine]

end Engine

end InventorySync
