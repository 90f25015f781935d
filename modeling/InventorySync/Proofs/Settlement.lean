import InventorySync.Transaction.Requests
import Mathlib.Data.List.Nodup

/-!
The way of a batch of answers through the table of waiting requests. An answer is
due if its request was waiting before the batch and no earlier answer of the batch
took it. Due answers are applied and told of, all others are reported as unknown,
and neither kind holds up the other. Over a whole run a registration is told of at
most one answer, and of none once it was given up.
-/

namespace InventorySync.RequestTable

set_option autoImplicit false

variable {κ : Type}

def without (table : RequestTable κ) (requestIds : List Int32) : RequestTable κ :=
  { table with pending := table.pending.filter fun entry => !requestIds.contains entry.1 }

/-- Each answer with those before it. -/
def turns : List StackResponse → List StackResponse → List (List StackResponse × StackResponse)
  | _, [] => []
  | earlier, response :: later => (earlier, response) :: turns (earlier ++ [response]) later

def isDue (table : RequestTable κ) (turn : List StackResponse × StackResponse) : Bool :=
  table.isPending turn.2.requestId &&
    !(turn.1.map StackResponse.requestId).contains turn.2.requestId

/-- The answers of a batch that find their requests waiting. -/
def dueAnswers (table : RequestTable κ) (batch : List StackResponse) : List StackResponse :=
  ((turns [] batch).filter table.isDue).map Prod.snd

def strayAnswers (table : RequestTable κ) (batch : List StackResponse) : List StackResponse :=
  ((turns [] batch).filter fun turn => !table.isDue turn).map Prod.snd

/-- Who is told of an answer. -/
def told (table : RequestTable κ) (response : StackResponse) : Option (κ × StackResponse) :=
  (table.find? response.requestId).map fun registration => (registration.completion, response)

/-- Writes what an answer acknowledges, with the predictions of its request. -/
def applyAnswer (table : RequestTable κ) (inventory : Inventory) (response : StackResponse) :
    Inventory :=
  match table.find? response.requestId with
  | some registration => registration.apply inventory response
  | none => inventory

section Tables

variable (table : RequestTable κ)

theorem without_nil : table.without [] = table := by
  have kept : table.pending.filter (fun entry => !([] : List Int32).contains entry.1) =
      table.pending :=
    List.filter_eq_self.2 fun _ _ => rfl
  unfold without
  rw [kept]

theorem find?_without (requestIds : List Int32) (requestId : Int32) :
    (table.without requestIds).find? requestId =
      if requestId ∈ requestIds then none else table.find? requestId := by
  unfold without find?
  rw [Keyed.lookup_filter fun key => !requestIds.contains key]
  by_cases gone : requestId ∈ requestIds
  · simp [gone]
  · simp [gone]

theorem remove_without (requestIds : List Int32) (requestId : Int32) :
    (table.without requestIds).remove requestId = table.without (requestIds ++ [requestId]) := by
  unfold remove without Keyed.erase
  rw [List.filter_filter]
  congr 1
  apply List.filter_congr
  intro entry _
  by_cases same : entry.1 = requestId
  · simp [same]
  · simp [same]

theorem remove_absent (requestId : Int32) (absent : table.find? requestId = none) :
    table.remove requestId = table := by
  have kept : Keyed.erase table.pending requestId = table.pending := by
    unfold Keyed.erase
    rw [List.filter_eq_self]
    intro entry member
    have differs := List.lookup_eq_none_iff.1 absent entry member
    rw [bne_iff_ne] at differs
    exact decide_eq_true fun same => differs same.symm
  unfold remove
  rw [kept]

theorem isDue_eq (earlier : List StackResponse) (response : StackResponse) :
    table.isDue (earlier, response) =
      (table.without (earlier.map StackResponse.requestId)).isPending response.requestId := by
  unfold isDue isPending
  rw [find?_without]
  by_cases named : response.requestId ∈ earlier.map StackResponse.requestId
  · simp [named]
  · simp [named]

end Tables

section Batches

variable (table : RequestTable κ)

/-- What a batch leads to, seen from the table before it and the answers that were
gone through already. -/
def settlementAfter (inventory : Inventory) (earlier batch : List StackResponse) :
    Settlement κ :=
  let due := ((turns earlier batch).filter table.isDue).map Prod.snd
  { table := table.without ((earlier ++ batch).map StackResponse.requestId)
    inventory := due.foldl table.applyAnswer inventory
    completed := due.filterMap table.told
    unknown := (((turns earlier batch).filter fun turn => !table.isDue turn).map Prod.snd).map
      StackResponse.requestId }

theorem settle_without (inventory : Inventory) (earlier batch : List StackResponse) :
    settle batch (table.without (earlier.map StackResponse.requestId)) inventory =
      table.settlementAfter inventory earlier batch := by
  induction batch generalizing earlier inventory with
  | nil => simp [settle, settlementAfter, turns]
  | cons response later induction =>
      have next : (earlier.map StackResponse.requestId) ++ [response.requestId] =
          (earlier ++ [response]).map StackResponse.requestId := by simp
      have regrouped : earlier ++ response :: later = (earlier ++ [response]) ++ later := by simp
      rw [settle]
      unfold settlementAfter turns
      rw [List.filter_cons, List.filter_cons, isDue_eq, regrouped]
      unfold isPending
      cases found : (table.without (earlier.map StackResponse.requestId)).find?
          response.requestId with
      | none =>
          have same : table.without (earlier.map StackResponse.requestId) =
              table.without ((earlier ++ [response]).map StackResponse.requestId) := by
            rw [← next, ← remove_without, remove_absent _ _ found]
          have rest := induction inventory (earlier ++ [response])
          rw [← same] at rest
          simp [rest, settlementAfter]
      | some registration =>
          have waiting : table.find? response.requestId = some registration := by
            rw [find?_without] at found
            split at found
            · cases found
            · exact found
          have rest := induction (registration.apply inventory response) (earlier ++ [response])
          rw [← next, ← remove_without] at rest
          simp [rest, settlementAfter, applyAnswer, told, waiting]

theorem settle_eq (batch : List StackResponse) (inventory : Inventory) :
    settle batch table inventory = table.settlementAfter inventory [] batch := by
  have reached := settle_without table inventory [] batch
  rw [List.map_nil, without_nil] at reached
  exact reached

theorem mem_turns {earlier batch : List StackResponse}
    {turn : List StackResponse × StackResponse} :
    turn ∈ turns earlier batch ↔
      ∃ before later, turn.1 = earlier ++ before ∧ batch = before ++ turn.2 :: later := by
  induction batch generalizing earlier with
  | nil => simp [turns]
  | cons response later induction =>
      unfold turns
      rw [List.mem_cons, induction]
      constructor
      · intro found
        rcases found with same | ⟨before, rest, seen, split⟩
        · exact ⟨[], later, by rw [same, List.append_nil], by rw [same, List.nil_append]⟩
        · exact ⟨response :: before, rest, by rw [seen, List.append_assoc]; rfl, by rw [split]; rfl⟩
      · intro found
        obtain ⟨before, rest, seen, split⟩ := found
        cases before with
        | nil =>
            left
            rw [List.nil_append, List.cons.injEq] at split
            rw [List.append_nil] at seen
            exact Prod.ext seen split.1.symm
        | cons first before =>
            right
            rw [List.cons_append, List.cons.injEq] at split
            refine ⟨before, rest, ?_, split.2⟩
            rw [seen, split.1, List.append_assoc]
            rfl

/-- Among the answers to one request the first is due, if the request is waiting. -/
theorem due_for (earlier batch : List StackResponse) (requestId : Int32) :
    (((turns earlier batch).filter table.isDue).map Prod.snd).filter
        (fun response => response.requestId = requestId) =
      if table.isPending requestId &&
          !(earlier.map StackResponse.requestId).contains requestId then
        (batch.find? fun response => response.requestId = requestId).toList
      else [] := by
  induction batch generalizing earlier with
  | nil => simp [turns]
  | cons response later induction =>
      unfold turns
      rw [List.filter_cons, List.find?_cons]
      have rest := induction (earlier ++ [response])
      by_cases named : response.requestId = requestId
      · subst named
        have taken : ((earlier ++ [response]).map StackResponse.requestId).contains
            response.requestId = true := by simp
        rw [taken, Bool.not_true, Bool.and_false, if_neg Bool.false_ne_true] at rest
        change _ = if table.isDue (earlier, response) then _ else _
        by_cases due : table.isDue (earlier, response) = true
        · rw [if_pos due, if_pos due, List.map_cons, List.filter_cons, rest]
          simp
        · rw [if_neg due, if_neg due, rest]
      · have other : ((earlier ++ [response]).map StackResponse.requestId).contains requestId =
            (earlier.map StackResponse.requestId).contains requestId := by
          have differs : ¬requestId = response.requestId := fun same => named same.symm
          simp [differs]
        rw [other] at rest
        by_cases due : table.isDue (earlier, response) = true
        · rw [if_pos due, List.map_cons, List.filter_cons, rest]
          simp [named]
        · rw [if_neg due, rest]
          simp [named]

/-- What a batch leads to: each waiting request that it names is told of the first
answer to it, and every other answer is reported. -/
structure RoutesOnce (inventory : Inventory) (batch : List StackResponse) : Prop where
  /-- An answer is due exactly if its request is still waiting at its turn. -/
  turn : ∀ earlier response later, batch = earlier ++ response :: later →
    table.isDue (earlier, response) =
      (settle earlier table inventory).table.isPending response.requestId
  completed : (settle batch table inventory).completed =
    (table.dueAnswers batch).filterMap table.told
  once : ∀ requestId,
    (settle batch table inventory).completed.filter
        (fun entry => entry.2.requestId = requestId) =
      ((batch.find? fun response => response.requestId = requestId).bind table.told).toList
  applied : (settle batch table inventory).inventory =
    (table.dueAnswers batch).foldl table.applyAnswer inventory
  left : (settle batch table inventory).table =
    table.without (batch.map StackResponse.requestId)
  accepts : (settle batch table inventory).outcome = .ok () ↔
    ∀ earlier response later, batch = earlier ++ response :: later →
      table.isDue (earlier, response)
  reports : (settle batch table inventory).outcome ≠ .ok () →
    (settle batch table inventory).outcome =
      .error (.desynchronized ((table.strayAnswers batch).map StackResponse.requestId))

theorem filter_told (answers : List StackResponse) (requestId : Int32) :
    (answers.filterMap table.told).filter (fun entry => entry.2.requestId = requestId) =
      (answers.filter fun response => response.requestId = requestId).filterMap table.told := by
  rw [List.filter_filterMap, List.filterMap_filter]
  congr 1
  funext response
  unfold told
  cases table.find? response.requestId with
  | none => simp
  | some registration => simp [Option.filter]

theorem told_of_named {batch : List StackResponse} {requestId : Int32} :
    (if table.isPending requestId then
        (batch.find? fun response => response.requestId = requestId).toList
      else []).filterMap table.told =
      ((batch.find? fun response => response.requestId = requestId).bind table.told).toList := by
  cases found : batch.find? fun response => response.requestId = requestId with
  | none => simp
  | some response =>
      have named : response.requestId = requestId := by simpa using List.find?_some found
      unfold isPending told
      rw [← named]
      cases heard : table.find? response.requestId <;> simp [heard]

theorem strayAnswers_eq_nil {batch : List StackResponse} :
    table.strayAnswers batch = [] ↔
      ∀ earlier response later, batch = earlier ++ response :: later →
        table.isDue (earlier, response) := by
  unfold strayAnswers
  rw [List.map_eq_nil_iff, List.filter_eq_nil_iff]
  constructor
  · intro none earlier response later split
    have member : (earlier, response) ∈ turns [] batch :=
      mem_turns.2 ⟨earlier, later, rfl, split⟩
    simpa using none _ member
  · intro due turn member
    obtain ⟨before, later, seen, split⟩ := mem_turns.1 member
    rw [List.nil_append] at seen
    simpa [← seen] using due before turn.2 later split

theorem unknown_eq (inventory : Inventory) (batch : List StackResponse) :
    (settle batch table inventory).unknown =
      (table.strayAnswers batch).map StackResponse.requestId := by
  rw [settle_eq]
  rfl

theorem outcome_eq (inventory : Inventory) (batch : List StackResponse) :
    (settle batch table inventory).outcome =
      if table.strayAnswers batch = [] then .ok ()
      else .error (.desynchronized ((table.strayAnswers batch).map StackResponse.requestId)) := by
  unfold Settlement.outcome
  rw [unknown_eq]
  cases table.strayAnswers batch <;> rfl

theorem routes_once (inventory : Inventory) (batch : List StackResponse) :
    table.RoutesOnce inventory batch := by
  have reached := settle_eq table batch inventory
  refine ⟨?_, ?_, ?_, ?_, ?_, ?_, ?_⟩
  · intro earlier response later split
    rw [settle_eq, isDue_eq]
    rfl
  · rw [reached]
    rfl
  · intro requestId
    rw [reached]
    change ((table.dueAnswers batch).filterMap table.told).filter _ = _
    rw [filter_told]
    unfold dueAnswers
    rw [due_for, List.map_nil, List.contains_nil, Bool.not_false, Bool.and_true, told_of_named]
  · rw [reached]
    rfl
  · rw [reached]
    rfl
  · rw [outcome_eq, ← strayAnswers_eq_nil]
    split
    · next none => exact ⟨fun _ => none, fun _ => rfl⟩
    · next some =>
        constructor
        · intro same
          cases same
        · intro none
          exact absurd none some
  · intro refused
    rw [outcome_eq] at refused ⊢
    split
    · next none => exact absurd (if_pos none) refused
    · rfl

end Batches

section Runs

/-- What can happen to a table of waiting requests. -/
inductive TableStep (κ : Type) where
  | register (requestId : Int32) (registration : Registration κ)
  | cancel (requestId : Int32)
  | answers (batch : List StackResponse)

def registeredIds : List (TableStep κ) → List Int32
  | [] => []
  | .register requestId _ :: later => requestId :: registeredIds later
  | _ :: later => registeredIds later

def perform (step : TableStep κ) (table : RequestTable κ) (inventory : Inventory) :
    Settlement κ :=
  match step with
  | .register requestId registration => ⟨table.register requestId registration, inventory, [], []⟩
  | .cancel requestId => ⟨table.remove requestId, inventory, [], []⟩
  | .answers batch => settle batch table inventory

/-- Goes through a run, and collects who is told of which answer. -/
def performAll : List (TableStep κ) → RequestTable κ → Inventory → Settlement κ
  | [], table, inventory => ⟨table, inventory, [], []⟩
  | step :: later, table, inventory =>
      let done := perform step table inventory
      let rest := performAll later done.table done.inventory
      { rest with
        completed := done.completed ++ rest.completed
        unknown := done.unknown ++ rest.unknown }

/-- How often a request is told of an answer. -/
def toldCount (completed : List (κ × StackResponse)) (requestId : Int32) : Nat :=
  completed.countP fun entry => entry.2.requestId = requestId

def waitingCount (table : RequestTable κ) (requestId : Int32) : Nat :=
  if table.isPending requestId then 1 else 0

theorem toldCount_settle (table : RequestTable κ) (inventory : Inventory)
    (batch : List StackResponse) (requestId : Int32) :
    toldCount (settle batch table inventory).completed requestId +
        (settle batch table inventory).table.waitingCount requestId ≤
      table.waitingCount requestId := by
  have routed := routes_once table inventory batch
  unfold toldCount waitingCount isPending
  rw [List.countP_eq_length_filter, routed.once, routed.left, find?_without]
  cases found : batch.find? fun response => response.requestId = requestId with
  | none =>
      have unnamed : requestId ∉ batch.map StackResponse.requestId := by
        intro member
        obtain ⟨response, listed, named⟩ := List.mem_map.1 member
        have missed := List.find?_eq_none.1 found response listed
        exact missed (decide_eq_true named)
      rw [if_neg unnamed]
      simp
  | some response =>
      have named : response.requestId = requestId := by simpa using List.find?_some found
      have listed : requestId ∈ batch.map StackResponse.requestId :=
        List.mem_map.2 ⟨response, List.mem_of_find?_eq_some found, named⟩
      rw [if_pos listed]
      unfold told
      rw [Option.bind_some, named]
      cases table.find? requestId <;> simp

/-- A request is told of no more answers than it was registered. -/
theorem toldCount_perform (step : TableStep κ) (table : RequestTable κ) (inventory : Inventory)
    (requestId : Int32) :
    toldCount (perform step table inventory).completed requestId +
        (perform step table inventory).table.waitingCount requestId ≤
      table.waitingCount requestId + (registeredIds [step]).count requestId := by
  cases step with
  | register registered registration =>
      unfold perform toldCount waitingCount isPending registeredIds
      rw [find?_register]
      by_cases same : requestId = registered
      · simp [same]
        omega
      · simp [same]
  | cancel cancelled =>
      unfold perform toldCount waitingCount isPending
      rw [find?_remove]
      by_cases same : requestId = cancelled
      · simp [same]
      · simp [same]
  | answers batch => exact toldCount_settle table inventory batch requestId

theorem registeredIds_cons (step : TableStep κ) (later : List (TableStep κ)) :
    registeredIds (step :: later) = registeredIds [step] ++ registeredIds later := by
  cases step <;> rfl

theorem toldCount_performAll (steps : List (TableStep κ)) (table : RequestTable κ)
    (inventory : Inventory) (requestId : Int32) :
    toldCount (performAll steps table inventory).completed requestId ≤
      table.waitingCount requestId + (registeredIds steps).count requestId := by
  induction steps generalizing table inventory with
  | nil => exact Nat.zero_le _
  | cons step later induction =>
      have first := toldCount_perform step table inventory requestId
      have rest := induction (perform step table inventory).table
        (perform step table inventory).inventory
      rw [registeredIds_cons, List.count_append]
      change toldCount (_ ++ _) requestId ≤ _
      unfold toldCount at *
      rw [List.countP_append]
      omega

theorem performAll_append (first second : List (TableStep κ)) (table : RequestTable κ)
    (inventory : Inventory) :
    (performAll (first ++ second) table inventory).table =
      (performAll second (performAll first table inventory).table
        (performAll first table inventory).inventory).table := by
  induction first generalizing table inventory with
  | nil => rfl
  | cons step later induction =>
      exact induction (perform step table inventory).table (perform step table inventory).inventory

theorem registeredIds_append (first second : List (TableStep κ)) :
    registeredIds (first ++ second) = registeredIds first ++ registeredIds second := by
  induction first with
  | nil => rfl
  | cons step later induction =>
      rw [List.cons_append, registeredIds_cons, induction, registeredIds_cons step later,
        List.append_assoc]

theorem find?_perform {step : TableStep κ} {table : RequestTable κ} {inventory : Inventory}
    {requestId : Int32} {registration : Registration κ}
    (waiting : (perform step table inventory).table.find? requestId = some registration) :
    step = .register requestId registration ∨ table.find? requestId = some registration := by
  cases step with
  | register registered added =>
      unfold perform at waiting
      rw [find?_register] at waiting
      by_cases same : requestId = registered
      · rw [if_pos same] at waiting
        left
        rw [same, Option.some.inj waiting]
      · rw [if_neg same] at waiting
        exact Or.inr waiting
  | cancel cancelled =>
      unfold perform at waiting
      rw [find?_remove] at waiting
      split at waiting
      · cases waiting
      · exact Or.inr waiting
  | answers batch =>
      unfold perform at waiting
      rw [(routes_once table inventory batch).left, find?_without] at waiting
      split at waiting
      · cases waiting
      · exact Or.inr waiting

theorem completed_perform {step : TableStep κ} {table : RequestTable κ} {inventory : Inventory}
    {completion : κ} {response : StackResponse}
    (completed : (completion, response) ∈ (perform step table inventory).completed) :
    ∃ registration, table.find? response.requestId = some registration ∧
      registration.completion = completion := by
  cases step with
  | register registered added => cases completed
  | cancel cancelled => cases completed
  | answers batch =>
      unfold perform at completed
      rw [(routes_once table inventory batch).completed] at completed
      obtain ⟨answer, -, heard⟩ := List.mem_filterMap.1 completed
      obtain ⟨registration, found, same⟩ := Option.map_eq_some_iff.1 heard
      rw [Prod.mk.injEq] at same
      rw [← same.2]
      exact ⟨registration, found, same.1⟩

theorem completed_performAll {steps : List (TableStep κ)} {table : RequestTable κ}
    {inventory : Inventory} {completion : κ} {response : StackResponse}
    (completed : (completion, response) ∈ (performAll steps table inventory).completed) :
    ∃ registration, registration.completion = completion ∧
      (.register response.requestId registration ∈ steps ∨
        table.find? response.requestId = some registration) := by
  induction steps generalizing table inventory with
  | nil => cases completed
  | cons step later induction =>
      rcases List.mem_append.1 completed with now | after
      · obtain ⟨registration, found, same⟩ := completed_perform now
        exact ⟨registration, same, Or.inr found⟩
      · obtain ⟨registration, same, origin⟩ := induction after
        refine ⟨registration, same, ?_⟩
        rcases origin with listed | waiting
        · exact Or.inl (List.mem_cons_of_mem step listed)
        · rcases find?_perform waiting with registered | found
          · exact Or.inl (List.mem_cons.2 (Or.inl registered.symm))
          · exact Or.inr found

/-- What a run tells of answers, from a table on. -/
structure TellsOnce (steps : List (TableStep κ)) (table : RequestTable κ)
    (inventory : Inventory) : Prop where
  atMostOnce : ∀ requestId, toldCount (performAll steps table inventory).completed requestId ≤ 1
  /-- Only the completion that was registered for a request is told of the answer. -/
  own : ∀ completion response,
    (completion, response) ∈ (performAll steps table inventory).completed →
    ∃ registration, registration.completion = completion ∧
      (.register response.requestId registration ∈ steps ∨
        table.find? response.requestId = some registration)
  notOnceCancelled : ∀ before requestId later, steps = before ++ .cancel requestId :: later →
    (requestId ∈ registeredIds before ∨ table.isPending requestId) →
    toldCount (performAll later
      (performAll (before ++ [.cancel requestId]) table inventory).table
      (performAll (before ++ [.cancel requestId]) table inventory).inventory).completed
      requestId = 0

theorem tells_once {steps : List (TableStep κ)} {table : RequestTable κ}
    (inventory : Inventory) (distinct : (registeredIds steps).Nodup)
    (fresh : ∀ requestId ∈ registeredIds steps, table.isPending requestId = false) :
    TellsOnce steps table inventory := by
  refine ⟨?_, fun _ _ completed => completed_performAll completed, ?_⟩
  · intro requestId
    have bound := toldCount_performAll steps table inventory requestId
    have once := List.nodup_iff_count_le_one.1 distinct requestId
    unfold waitingCount at bound
    by_cases member : requestId ∈ registeredIds steps
    · rw [fresh requestId member, if_neg Bool.false_ne_true] at bound
      omega
    · rw [List.count_eq_zero_of_not_mem member] at bound
      split at bound <;> omega
  · intro before requestId later split known
    subst split
    rw [registeredIds_append] at distinct fresh
    change (registeredIds before ++ registeredIds later).Nodup at distinct
    change ∀ other ∈ registeredIds before ++ registeredIds later, _ at fresh
    have notLater : requestId ∉ registeredIds later := by
      intro member
      rcases known with registered | waiting
      · exact (List.nodup_append.1 distinct).2.2 requestId registered requestId member rfl
      · have absent := fresh requestId (List.mem_append_right _ member)
        rw [waiting] at absent
        cases absent
    have bound := toldCount_performAll later
      (performAll (before ++ [.cancel requestId]) table inventory).table
      (performAll (before ++ [.cancel requestId]) table inventory).inventory requestId
    have gone : (performAll (before ++ [.cancel requestId]) table inventory).table.waitingCount
        requestId = 0 := by
      rw [performAll_append]
      change (RequestTable.remove _ requestId).waitingCount requestId = 0
      unfold waitingCount isPending
      rw [find?_remove, if_pos rfl]
      rfl
    rw [gone, List.count_eq_zero_of_not_mem notLater] at bound
    exact Nat.le_zero.1 bound

/-- One batch tells each waiting request that it names of the first answer to it, and
a run tells each registered one at most once, and never after it was cancelled. -/
theorem answers_reach_registrations_once (table : RequestTable κ) (inventory : Inventory) :
    (∀ batch, table.RoutesOnce inventory batch) ∧
      ∀ steps : List (TableStep κ), (registeredIds steps).Nodup →
        (∀ requestId ∈ registeredIds steps, table.isPending requestId = false) →
        TellsOnce steps table inventory :=
  ⟨routes_once table inventory, fun _ distinct fresh => tells_once inventory distinct fresh⟩

/-- The request is answered twice in one batch, and once more after it was given up. -/
def repeatedAnswers : List (TableStep Unit) :=
  [.register (-1) ⟨.empty, [], ()⟩, .register (-3) ⟨.empty, [], ()⟩,
    .answers [⟨1, -1, []⟩, ⟨0, -9, []⟩, ⟨0, -1, []⟩], .cancel (-3), .answers [⟨1, -3, []⟩]]

theorem repeated_answers_are_told_once :
    (registeredIds repeatedAnswers).Nodup ∧
      (performAll repeatedAnswers {} .empty).completed = [((), ⟨1, -1, []⟩)] ∧
      (performAll repeatedAnswers {} .empty).unknown = [-9, -1, -3] ∧
      TellsOnce repeatedAnswers {} .empty := by
  have distinct : (registeredIds repeatedAnswers).Nodup := by decide
  exact ⟨distinct, by decide, by decide,
    (answers_reach_registrations_once {} .empty).2 repeatedAnswers distinct fun _ _ => rfl⟩

end Runs

end InventorySync.RequestTable
