import InventorySync.Proofs.SessionReports

/-!
How commits end. A commit waits for its requests in order: it ends well once all of
them are answered, and badly at the first one that is given up, as soon as all before
it are answered. Whatever else happens in the session, with other commits and in
between, has no part in it.
-/

namespace InventorySync

set_option autoImplicit false

namespace Commit

section Collecting

variable {requests : List StackRequest} {closed : List Closing}

def entries (requests : List StackRequest) (closed : List Closing) :
    List (StackRequest × Receipt) :=
  requests.map fun request => (request, fate closed request.id)

theorem outcome?_knowing :
    (knowing requests closed).outcome? =
      (collect? (entries requests closed)).map fun result =>
        result.map fun responses =>
          ⟨responses.all StackResponse.isAccepted, some requests, responses⟩ := by
  have zipped : requests.zip (requests.map fun request => fate closed request.id) =
      entries requests closed := by
    unfold entries
    induction requests with
    | nil => rfl
    | cons request later induction =>
        rw [List.map_cons, List.map_cons, List.zip_cons_cons, induction]
  unfold outcome? knowing
  simp only
  rw [zipped]

theorem collect?_answered {waited : List (StackRequest × Receipt)} {responses : List StackResponse}
    (answered : waited.map Prod.snd = responses.map .answered) :
    collect? waited = some (.ok responses) := by
  induction waited generalizing responses with
  | nil =>
      rw [List.map_eq_nil_iff.1 answered.symm]
      rfl
  | cons entry later induction =>
      obtain ⟨request, receipt⟩ := entry
      cases responses with
      | nil => cases answered
      | cons response others =>
          rw [List.map_cons, List.map_cons, List.cons.injEq] at answered
          obtain ⟨rfl, rest⟩ := answered
          rw [collect?, induction rest]
          rfl

/-- The answers to the first requests are passed over. -/
theorem collect?_append {earlier later : List (StackRequest × Receipt)}
    (answered : ∀ entry ∈ earlier, ∃ response, entry.2 = .answered response) :
    ∃ responses : List StackResponse, collect? (earlier ++ later) =
      (collect? later).map fun result => result.map fun others => responses ++ others := by
  induction earlier with
  | nil =>
      refine ⟨[], ?_⟩
      rw [List.nil_append]
      rcases collect? later with _ | ⟨failure | others⟩ <;> rfl
  | cons entry earlier induction =>
      obtain ⟨request, receipt⟩ := entry
      obtain ⟨response, first⟩ := answered (request, receipt) List.mem_cons_self
      obtain ⟨responses, rest⟩ := induction fun entry member =>
        answered entry (List.mem_cons_of_mem _ member)
      refine ⟨response :: responses, ?_⟩
      change receipt = _ at first
      rw [first, List.cons_append, collect?, rest]
      rcases collect? later with _ | ⟨failure | others⟩ <;> rfl

/-- What is known of a request is not unlearned. -/
theorem collect?_grows {before after : StackRequest → Receipt}
    {result : Except SyncError (List StackResponse)}
    (kept : ∀ request, before request ≠ .awaited → after request = before request)
    (collected : collect? (requests.map fun request => (request, before request)) = some result) :
    collect? (requests.map fun request => (request, after request)) = some result := by
  induction requests generalizing result with
  | nil => exact collected
  | cons request later induction =>
      rw [List.map_cons] at collected ⊢
      cases known : before request with
      | awaited =>
          rw [known, collect?] at collected
          cases collected
      | dropped =>
          rw [kept request (by rw [known]; exact Receipt.noConfusion), known, collect?]
          rw [known, collect?] at collected
          exact collected
      | answered response =>
          rw [kept request (by rw [known]; exact Receipt.noConfusion), known, collect?]
          rw [known, collect?] at collected
          obtain ⟨rest, found, same⟩ := Option.map_eq_some_iff.1 collected
          rw [induction found, Option.map_some, same]

theorem fate_grows {closed : List Closing} (later : List Closing) {requestId : Int32}
    (known : fate closed requestId ≠ .awaited) :
    fate (closed ++ later) requestId = fate closed requestId := by
  unfold fate at known ⊢
  rw [List.lookup_append]
  cases found : closed.lookup requestId with
  | none =>
      rw [found] at known
      exact absurd rfl known
  | some receipt => rfl

/-- What a commit came to stays what it came to. -/
theorem outcome?_grows {result : Except SyncError CommitOutcome} (later : List Closing)
    (ended : (knowing requests closed).outcome? = some result) :
    (knowing requests (closed ++ later)).outcome? = some result := by
  rw [outcome?_knowing] at ended ⊢
  obtain ⟨collected, found, same⟩ := Option.map_eq_some_iff.1 ended
  have grown := collect?_grows (fun request known => fate_grows later known) found
  unfold entries
  rw [grown, Option.map_some, same]

theorem outcome?_answered {responses : List StackResponse}
    (answered : requests.map (fun request => fate closed request.id) = responses.map .answered) :
    (knowing requests closed).outcome? =
      some (.ok ⟨responses.all StackResponse.isAccepted, some requests, responses⟩) := by
  have waited : (entries requests closed).map Prod.snd = responses.map .answered := by
    unfold entries
    rw [List.map_map]
    exact answered
  rw [outcome?_knowing, collect?_answered waited]
  rfl

variable {earlier later : List StackRequest} {request : StackRequest}

theorem collect?_entries
    (answered : ∀ before ∈ earlier, ∃ response, fate closed before.id = .answered response) :
    ∃ responses : List StackResponse, collect? (entries (earlier ++ request :: later) closed) =
      (collect? ((request, fate closed request.id) :: entries later closed)).map fun result =>
        result.map fun others => responses ++ others := by
  unfold entries
  rw [List.map_append, List.map_cons]
  apply collect?_append
  intro entry member
  obtain ⟨before, listed, rfl⟩ := List.mem_map.1 member
  exact answered before listed

theorem outcome?_dropped
    (answered : ∀ before ∈ earlier, ∃ response, fate closed before.id = .answered response)
    (dropped : fate closed request.id = .dropped) :
    (knowing (earlier ++ request :: later) closed).outcome? =
      some (.error (.completionDropped request.id)) := by
  obtain ⟨responses, collected⟩ := @collect?_entries closed earlier later request answered
  rw [outcome?_knowing, collected, dropped]
  rfl

theorem outcome?_awaited
    (answered : ∀ before ∈ earlier, ∃ response, fate closed before.id = .answered response)
    (awaited : fate closed request.id = .awaited) :
    (knowing (earlier ++ request :: later) closed).outcome? = none := by
  obtain ⟨responses, collected⟩ := @collect?_entries closed earlier later request answered
  rw [outcome?_knowing, collected, awaited]
  rfl

end Collecting

end Commit

namespace Session

variable {α : Type} {session : Session α} {name : String}

section Ids

def idsTaken (session : Session α) : List (SessionStep α) → Nat
  | [] => 0
  | action :: later => session.idsTakenBy action + (session.step action).1.idsTaken later

/-- The next free id, were so many ids taken without end. -/
def nextIdAfter (session : Session α) (taken : Nat) : Int :=
  session.engine.requests.nextId.toInt - 2 * taken

theorem nextId_step {action : SessionStep α}
    (room : -2 ^ 31 ≤ session.nextIdAfter (session.idsTakenBy action)) :
    (session.step action).1.engine.requests.nextId.toInt =
      session.nextIdAfter (session.idsTakenBy action) := by
  rw [step_nextId, Compile.toInt_idAt room]
  rfl

theorem nextIdAfter_cons {action : SessionStep α} {later : List (SessionStep α)}
    (room : -2 ^ 31 ≤ session.nextIdAfter (session.idsTaken (action :: later))) :
    -2 ^ 31 ≤ session.nextIdAfter (session.idsTakenBy action) ∧
      (session.step action).1.nextIdAfter ((session.step action).1.idsTaken later) =
        session.nextIdAfter (session.idsTaken (action :: later)) := by
  have first : -2 ^ 31 ≤ session.nextIdAfter (session.idsTakenBy action) := by
    unfold nextIdAfter idsTaken at *
    omega
  have reached := nextId_step first
  refine ⟨first, ?_⟩
  change (session.step action).1.engine.requests.nextId.toInt - 2 * _ = _
  rw [reached]
  unfold nextIdAfter
  rw [idsTaken]
  omega

/-- While the ids have room, each request goes out under an id of its own, below all ids
before it. -/
theorem step_sends {action : SessionStep α}
    (room : -2 ^ 31 ≤ session.nextIdAfter (session.idsTakenBy action)) :
    (sentBy (session.step action).2).Nodup ∧
      ∀ requestId ∈ sentBy (session.step action).2,
        session.nextIdAfter (session.idsTakenBy action) < requestId.toInt ∧
          requestId.toInt ≤ session.engine.requests.nextId.toInt := by
  have within : ∀ position < session.idsTakenBy action,
      (Compile.idAt session.engine.requests.nextId position).toInt =
        session.engine.requests.nextId.toInt - 2 * position := by
    intro position inside
    apply Compile.toInt_idAt
    unfold nextIdAfter at room
    omega
  rw [step_sentBy]
  rcases (session.perform_moves action).sends with none | all
  · change sentIds (session.perform action).events = [] at none
    rw [none]
    exact ⟨List.nodup_nil, fun _ member => absurd member List.not_mem_nil⟩
  · change sentIds (session.perform action).events = _ at all
    rw [all]
    constructor
    · apply List.pairwise_map.2
      apply List.nodup_range.imp_of_mem
      intro first second firstIn secondIn differs same
      have firstAt := within first (List.mem_range.1 firstIn)
      have secondAt := within second (List.mem_range.1 secondIn)
      rw [same, secondAt] at firstAt
      omega
    · intro requestId member
      obtain ⟨position, inside, rfl⟩ := List.mem_map.1 member
      have smaller := List.mem_range.1 inside
      rw [within position smaller]
      unfold nextIdAfter
      omega

theorem run_sends {steps : List (SessionStep α)}
    (room : -2 ^ 31 ≤ session.nextIdAfter (session.idsTaken steps)) :
    ((session.run steps).flatMap sentBy).Nodup ∧
      ∀ requestId ∈ (session.run steps).flatMap sentBy,
        requestId.toInt ≤ session.engine.requests.nextId.toInt := by
  induction steps generalizing session with
  | nil => exact ⟨List.nodup_nil, fun _ member => absurd member List.not_mem_nil⟩
  | cons action later induction =>
      obtain ⟨first, same⟩ := nextIdAfter_cons room
      obtain ⟨once, bounds⟩ := step_sends first
      obtain ⟨laterOnce, laterBounds⟩ := @induction (session.step action).1 (same ▸ room)
      have reached := nextId_step first
      have parted : (session.run (action :: later)).flatMap sentBy =
          sentBy (session.step action).2 ++
            ((session.step action).1.run later).flatMap sentBy := rfl
      rw [parted]
      constructor
      · apply List.nodup_append.2
        refine ⟨once, laterOnce, ?_⟩
        intro early sent late sentLater equal
        have above := (bounds early sent).1
        have below := laterBounds late sentLater
        rw [equal] at above
        omega
      · intro requestId member
        rcases List.mem_append.1 member with now | after
        · exact (bounds requestId now).2
        · have below := laterBounds requestId after
          unfold nextIdAfter at reached
          omega

end Ids

section Waiting

/-- A transaction waits for the commit of these requests, some of which are closed. -/
structure Running (session : Session α) (name : String) (number : Nat)
    (requests : List StackRequest) (closed : List Closing) : Prop where
  ordered : Ordered session.transactions
  waiting : session.transactions.lookup name =
    some ⟨[], some (.waiting number (.knowing requests closed))⟩
  tracked : Tracks number requests closed session.engine.requests (.knowing requests closed)
  numbered : number < session.nextCommit
  distinct : (requests.map StackRequest.id).Nodup
  above : ∀ request ∈ requests, session.engine.requests.nextId.toInt < request.id.toInt

variable {number : Nat} {requests : List StackRequest} {closed : List Closing}

theorem Running.step {action : SessionStep α}
    (running : session.Running name number requests closed) (kept : action ≠ .abandon name)
    (room : -2 ^ 31 ≤ session.nextIdAfter (session.idsTakenBy action)) :
    (session.step action).2.endOf? name =
        (Commit.knowing requests (closed ++ action.closings)).outcome?.map
          (fun result => (result, 0)) ∧
      ((Commit.knowing requests (closed ++ action.closings)).outcome? = none →
        (session.step action).1.Running name number requests (closed ++ action.closings)) := by
  have busy : session.isBusy name := by
    unfold isBusy transaction
    rw [running.waiting]
    rfl
  have found := perform_lookup busy kept
  rw [running.waiting] at found
  have elsewhere : ∀ position < session.idsTakenBy action,
      Compile.idAt session.engine.requests.nextId position ∉ requests.map StackRequest.id := by
    intro position inside member
    obtain ⟨request, listed, same⟩ := List.mem_map.1 member
    have higher := running.above request listed
    unfold nextIdAfter at room
    rw [same, Compile.toInt_idAt (by omega)] at higher
    omega
  have followed := (session.perform_moves action).follows number requests
    (Or.inl running.numbered) running.distinct elsewhere closed _ running.tracked
  have learned : (Commit.knowing requests closed).learnAll number (session.newsOf action) =
      Commit.knowing requests (closed ++ action.closings) := followed.knows
  constructor
  · rw [step_endOf? running.ordered, found, Option.bind_some, Transaction.hearAll_waiting, learned]
    rfl
  · intro unended
    refine ⟨step_ordered running.ordered, ?_, ?_, ?_, running.distinct, ?_⟩
    · rw [step_lookup, found, Option.map_some, Transaction.hearAll_waiting, learned]
      unfold Transaction.settled Transaction.result?
      simp only [unended]
      rfl
    · rw [step_engine, ← learned]
      exact followed
    · rw [step_nextCommit]
      exact Nat.lt_of_lt_of_le running.numbered (session.perform_nextCommit action)
    · intro request listed
      have higher := running.above request listed
      rw [nextId_step room]
      unfold nextIdAfter
      omega

/-- A running commit ends in a row of steps just as the closings in it decide. -/
theorem Running.run {steps : List (SessionStep α)}
    (running : session.Running name number requests closed) (kept : .abandon name ∉ steps)
    (room : -2 ^ 31 ≤ session.nextIdAfter (session.idsTaken steps))
    (waits : (Commit.knowing requests closed).outcome? = none) :
    endOf? name (session.run steps) =
        (Commit.knowing requests (closed ++ steps.flatMap SessionStep.closings)).outcome?.map
          (fun result => (result, 0)) ∧
      ((Commit.knowing requests (closed ++ steps.flatMap SessionStep.closings)).outcome? = none →
        ((session.after steps).transaction name).queue = []) := by
  induction steps generalizing session closed with
  | nil =>
      rw [List.flatMap_nil, List.append_nil, waits]
      refine ⟨rfl, fun _ => ?_⟩
      change (session.transaction name).queue = []
      unfold transaction
      rw [running.waiting]
      rfl
  | cons action later induction =>
      obtain ⟨first, same⟩ := nextIdAfter_cons room
      have notFirst : action ≠ .abandon name := by
        intro equal
        exact kept (List.mem_cons.2 (Or.inl equal.symm))
      have notLater : .abandon name ∉ later := fun member => kept (List.mem_cons_of_mem _ member)
      obtain ⟨ends, continues⟩ := running.step notFirst first
      rw [List.flatMap_cons, ← List.append_assoc]
      change List.findSome? (SessionAnswer.endOf? name)
        ((session.step action).2 :: (session.step action).1.run later) = _ ∧ _
      rw [List.findSome?_cons, ends]
      cases decided : (Commit.knowing requests (closed ++ action.closings)).outcome? with
      | some result =>
          have final := Commit.outcome?_grows (later.flatMap SessionStep.closings) decided
          rw [final]
          exact ⟨rfl, fun never => absurd never (by simp)⟩
      | none => exact induction (continues decided) notLater (same ▸ room) decided

end Waiting

section Beginning

/-- No promise bears the number of a commit to come. -/
structure Sound (session : Session α) : Prop where
  ordered : Ordered session.transactions
  unnumbered : ∀ requestId promise,
    session.engine.requests.promiseOf? requestId = some promise →
    promise.commit < session.nextCommit

/-- A commit of no requests: to track it is to have no promise of its number. -/
theorem tracks_nil {τ : Type} {table : RequestTable (Completion τ)} {number : Nat}
    {closed : List Closing} :
    Tracks number [] closed table (.knowing [] closed) ↔
      ∀ requestId promise, table.promiseOf? requestId = some promise → promise.commit ≠ number := by
  constructor
  · intro tracked requestId promise promised same
    obtain ⟨owner, position⟩ := promise
    change owner = number at same
    rw [same] at promised
    have listed := ((tracked.promised requestId position).1 promised).1
    cases listed
  · intro free
    refine ⟨rfl, fun requestId position => ⟨?_, ?_⟩⟩
    · intro promised
      exact absurd rfl (free requestId _ promised)
    · intro listed
      cases listed.1

theorem Sound.step {action : SessionStep α} (sound : session.Sound) :
    (session.step action).1.Sound := by
  refine ⟨step_ordered sound.ordered, ?_⟩
  intro requestId promise promised
  rw [step_engine] at promised
  rw [step_nextCommit]
  by_contra later
  have past := Nat.le_of_not_lt later
  have free : ∀ other otherPromise,
      session.engine.requests.promiseOf? other = some otherPromise →
      otherPromise.commit ≠ promise.commit := by
    intro other otherPromise found same
    have bound := sound.unnumbered other otherPromise found
    have grown := session.perform_nextCommit action
    omega
  have followed := (session.perform_moves action).follows promise.commit [] (Or.inr past)
    List.nodup_nil (fun _ _ => List.not_mem_nil) [] _ (tracks_nil.2 free)
  rw [followed.knows] at followed
  exact tracks_nil.1 followed requestId promise promised rfl

theorem sound_after {steps : List (SessionStep α)} (sound : session.Sound) :
    (session.after steps).Sound := by
  induction steps generalizing session with
  | nil => exact sound
  | cons action later induction => exact induction sound.step

theorem sound_ofSettings (settings : Settings) : (ofSettings settings : Session α).Sound :=
  ⟨List.Pairwise.nil, fun _ _ found => by cases found⟩

theorem compiled_ne_nil {τ : Type} {engine middle : Engine τ} {queue : List Operation}
    {compiled : List CompiledRequest} (filled : queue ≠ [])
    (succeeds : engine.compile queue = (.ok compiled, middle)) : compiled ≠ [] := by
  intro none
  obtain ⟨free, reached, -⟩ := Engine.compile_ok.1 succeeds
  have count := (Compile.groups_request_ids reached).1
  rw [none] at count
  have whole := engine.settings.policy.flatten_group queue
  rw [List.length_eq_zero_iff.1 count.symm] at whole
  exact filled whole.symm

/-- A transaction that waits for a commit it has just sent. -/
def justSent (number : Nat) (requests : List StackRequest) : Transaction :=
  ⟨[], some (.waiting number (.ofRequests requests))⟩

/-- All that a commit does when its packet goes out. -/
theorem perform_commit_sent {requests : List StackRequest}
    (sent : .stackRequests requests ∈ packetsIn (session.perform (.commit name)).events) :
    ∃ compiled middle, (session.transaction name).queue ≠ [] ∧
      session.engine.compile (session.transaction name).queue = (.ok compiled, middle) ∧
      compiled.map CompiledRequest.request = requests ∧
      session.isBusy name = false ∧
      session.perform (.commit name) =
        { session := ({ session with
            engine := (middle.registerAll session.nextCommit 0 compiled).1
            nextCommit := session.nextCommit + 1 } : Session α).setTransaction name
              (justSent session.nextCommit requests)
          reply := .done
          events := (middle.registerAll session.nextCommit 0 compiled).2 ++
            [.sent (.stackRequests requests)] } := by
  have shape : session.perform (.commit name) = session.onTransaction name
      fun transaction => session.startCommit name transaction := rfl
  unfold onTransaction at shape
  by_cases busy : session.isBusy name
  · rw [shape, if_pos busy] at sent
    cases sent
  · have begun : session.perform (.commit name) =
        session.startCommit name (session.transaction name) := shape.trans (if_neg busy)
    have starts := session.engine.startCommit_starts session.nextCommit
      (session.transaction name).queue
    unfold startCommit at begun
    simp only at begun
    generalize session.engine.startCommit session.nextCommit (session.transaction name).queue =
      result at begun starts
    rw [begun] at sent ⊢
    cases starts with
    | nothingQueued empty => cases sent
    | uncompiled fails => cases sent
    | @sent compiled middle filled succeeds connected =>
        change _ ∈ packetsIn (_ ++ _) at sent
        rw [packetsIn_append, Moves.packetsIn_registerAll, List.nil_append] at sent
        cases List.mem_singleton.1 sent
        exact ⟨compiled, middle, filled, succeeds, rfl, Bool.eq_false_iff.2 busy, rfl⟩
    | unsent succeeds disconnected =>
        change _ ∈ packetsIn (_ ++ _) at sent
        rw [packetsIn_append, Moves.packetsIn_registerAll, Moves.packetsIn_cancelAll] at sent
        cases sent

/-- Once its packet is sent, a commit runs, and it does not end in the same step. -/
theorem running_of_sent {requests : List StackRequest} (sound : session.Sound)
    (sent : .stackRequests requests ∈ (session.step (.commit name)).2.sent)
    (room : -2 ^ 31 ≤ session.nextIdAfter (session.idsTakenBy (.commit name))) :
    (session.step (.commit name)).1.Running name session.nextCommit requests [] ∧
      (session.step (.commit name)).2.endOf? name = none ∧
      (Commit.knowing requests []).outcome? = none := by
  rw [step_sent] at sent
  obtain ⟨compiled, middle, filled, succeeds, rfl, -, performed⟩ := perform_commit_sent sent
  obtain ⟨once, bounds⟩ := step_sends room
  have sentNow : sentBy (session.step (.commit name)).2 = requestIds compiled := by
    rw [step_sentBy, performed]
    exact Moves.sentIds_sent
  rw [sentNow] at once bounds
  have kept := session.engine.compile_engine (session.transaction name).queue
  rw [succeeds] at kept
  have pending : middle.requests.promiseOf? = session.engine.requests.promiseOf? := by
    funext requestId
    unfold RequestTable.promiseOf? RequestTable.find?
    rw [congrArg (fun engine => engine.requests.pending) kept]
  have fresh : ∀ requestId promise, middle.requests.promiseOf? requestId = some promise →
      promise.commit ≠ session.nextCommit := by
    intro requestId promise promised
    rw [pending] at promised
    exact Nat.ne_of_lt (sound.unnumbered requestId promise promised)
  obtain ⟨tracked, foreign⟩ := Engine.tracks_registerAll once fresh
  have news : session.newsOf (.commit name) =
      heard (middle.registerAll session.nextCommit 0 compiled).2 := by
    unfold newsOf
    rw [performed]
    change heard (_ ++ _) = _
    rw [heard_append]
    exact List.append_nil _
  have found : (session.perform (.commit name)).session.transactions.lookup name =
      some (justSent session.nextCommit (compiled.map CompiledRequest.request)) := by
    rw [performed]
    exact (lookup_insertTransaction _ _ _).trans (if_pos rfl)
  have heardNothing : (justSent session.nextCommit
      (compiled.map CompiledRequest.request)).hearAll (session.newsOf (.commit name)) =
      justSent session.nextCommit (compiled.map CompiledRequest.request) := by
    unfold justSent
    rw [Transaction.hearAll_waiting, news, Commit.learnAll_others _ foreign]
  have waits : (Commit.knowing (compiled.map CompiledRequest.request) []).outcome? = none := by
    have filledPacket := compiled_ne_nil filled succeeds
    cases compiled with
    | nil => exact absurd rfl filledPacket
    | cons entry others => rfl
  have noResult : (justSent session.nextCommit
      (compiled.map CompiledRequest.request)).result? = none := waits
  refine ⟨⟨step_ordered sound.ordered, ?_, ?_, ?_, ?_, ?_⟩, ?_, waits⟩
  · rw [step_lookup, found, Option.map_some, heardNothing]
    unfold Transaction.settled
    rw [noResult]
    rfl
  · rw [step_engine, performed]
    exact tracked
  · rw [step_nextCommit, performed]
    exact Nat.lt_succ_self _
  · rw [ids_of_requests]
    exact once
  · intro request listed
    obtain ⟨entry, member, rfl⟩ := List.mem_map.1 listed
    rw [nextId_step room]
    exact (bounds entry.request.id (List.mem_map_of_mem member)).1
  · rw [step_endOf? sound.ordered, found, Option.bind_some, heardNothing, noResult]
    rfl

end Beginning

section Runs

theorem idsTaken_append (first second : List (SessionStep α)) :
    session.idsTaken (first ++ second) =
      session.idsTaken first + (session.after first).idsTaken second := by
  induction first generalizing session with
  | nil => exact (Nat.zero_add _).symm
  | cons action later induction =>
      rw [List.cons_append, idsTaken, idsTaken, induction, Nat.add_assoc]
      rfl

theorem nextId_after {steps : List (SessionStep α)}
    (room : -2 ^ 31 ≤ session.nextIdAfter (session.idsTaken steps)) :
    (session.after steps).engine.requests.nextId.toInt =
      session.nextIdAfter (session.idsTaken steps) := by
  induction steps generalizing session with
  | nil =>
      unfold nextIdAfter idsTaken
      change session.engine.requests.nextId.toInt = _
      omega
  | cons action later induction =>
      obtain ⟨-, same⟩ := nextIdAfter_cons room
      rw [← same]
      exact @induction (session.step action).1 (same ▸ room)

theorem fate_answered {steps : List (SessionStep α)} {requestId : Int32} {response : StackResponse}
    (answered : fate (steps.flatMap SessionStep.closings) requestId = .answered response) :
    response.requestId = requestId ∧ ∃ action ∈ steps, response ∈ action.answers := by
  unfold fate at answered
  cases found : (steps.flatMap SessionStep.closings).lookup requestId with
  | none =>
      rw [found] at answered
      cases answered
  | some receipt =>
      rw [found] at answered
      change receipt = _ at answered
      rw [answered] at found
      obtain ⟨action, listed, closes⟩ := List.mem_flatMap.1 (Keyed.mem_of_lookup found)
      have direct : (requestId, Receipt.answered response) ∈
          action.answers.map (fun answer => (answer.requestId, .answered answer)) := by
        cases action with
        | addRequest other _ _ _ =>
            cases List.mem_singleton.1 closes
        | cancelRequest other =>
            cases List.mem_singleton.1 closes
        | _ => exact closes
      obtain ⟨answer, given, same⟩ := List.mem_map.1 direct
      rw [Prod.mk.injEq, Receipt.answered.injEq] at same
      obtain ⟨id, rfl⟩ := same
      exact ⟨id, action, listed, given⟩

end Runs

/-- How the commit of these requests fares in a row of steps, told from the session that has
just sent them. -/
structure EndsByFates (session : Session α) (name : String) (requests : List StackRequest)
    (steps : List (SessionStep α)) : Prop where
  /-- What counts as the answer to a request is an answer to it, and came in a step. -/
  own : ∀ request ∈ requests, ∀ response,
    fate (steps.flatMap SessionStep.closings) request.id = .answered response →
    response.requestId = request.id ∧ ∃ action ∈ steps, response ∈ action.answers
  answered : ∀ responses : List StackResponse,
    (requests.map fun request => fate (steps.flatMap SessionStep.closings) request.id) =
      responses.map .answered →
    endOf? name (session.run steps) =
      some (.ok ⟨responses.all StackResponse.isAccepted, some requests, responses⟩, 0)
  dropped : ∀ earlier request later, requests = earlier ++ request :: later →
    (∀ before ∈ earlier, ∃ response,
      fate (steps.flatMap SessionStep.closings) before.id = .answered response) →
    fate (steps.flatMap SessionStep.closings) request.id = .dropped →
    endOf? name (session.run steps) = some (.error (.completionDropped request.id), 0)
  awaits : ∀ earlier request later, requests = earlier ++ request :: later →
    (∀ before ∈ earlier, ∃ response,
      fate (steps.flatMap SessionStep.closings) before.id = .answered response) →
    fate (steps.flatMap SessionStep.closings) request.id = .awaited →
    endOf? name (session.run steps) = none ∧
      ((session.after steps).transaction name).queue = []

theorem Running.endsByFates {number : Nat} {requests : List StackRequest}
    {steps : List (SessionStep α)} (running : session.Running name number requests [])
    (kept : .abandon name ∉ steps) (room : -2 ^ 31 ≤ session.nextIdAfter (session.idsTaken steps))
    (waits : (Commit.knowing requests []).outcome? = none) :
    session.EndsByFates name requests steps := by
  obtain ⟨ends, idle⟩ := running.run kept room waits
  rw [List.nil_append] at ends idle
  refine ⟨fun _ _ _ answered => fate_answered answered, ?_, ?_, ?_⟩
  · intro responses answered
    rw [ends, Commit.outcome?_answered answered]
    rfl
  · intro earlier request later split answered dropped
    rw [ends, split, Commit.outcome?_dropped answered dropped]
    rfl
  · intro earlier request later split answered awaited
    have unended :
        (Commit.knowing requests (steps.flatMap SessionStep.closings)).outcome? = none := by
      rw [split]
      exact Commit.outcome?_awaited answered awaited
    rw [ends, unended]
    exact ⟨rfl, idle unended⟩

/-- Every request of a session goes out under an id of its own, and at any time after it was
sent a commit has come to what the fates of its own requests say, whatever else is going on. -/
theorem commits_end_by_their_own_answers (settings : Settings) (before steps : List (SessionStep α))
    (name : String) (requests : List StackRequest)
    (sent : .stackRequests requests ∈
      (((ofSettings settings).after before).step (.commit name)).2.sent)
    (room : (ofSettings settings).idsTaken (before ++ .commit name :: steps) < 2 ^ 30)
    (kept : .abandon name ∉ steps) :
    (((ofSettings settings).run (before ++ .commit name :: steps)).flatMap sentBy).Nodup ∧
      (((ofSettings settings).after before).step (.commit name)).2.endOf? name = none ∧
      ∀ done, done <+: steps →
        (((ofSettings settings).after before).step (.commit name)).1.EndsByFates name requests
          done := by
  have whole : -2 ^ 31 ≤ (ofSettings settings : Session α).nextIdAfter
      ((ofSettings settings).idsTaken (before ++ .commit name :: steps)) := by
    have first : (ofSettings settings : Session α).engine.requests.nextId.toInt = -1 := rfl
    unfold nextIdAfter
    omega
  refine ⟨(run_sends whole).1, ?_⟩
  rw [idsTaken_append, idsTaken] at whole
  have start := @nextId_after _ (ofSettings settings : Session α) before
    (by unfold nextIdAfter at *; omega)
  have now : -2 ^ 31 ≤ ((ofSettings settings).after before : Session α).nextIdAfter
      (((ofSettings settings).after before).idsTakenBy (.commit name)) := by
    unfold nextIdAfter at *
    omega
  obtain ⟨running, unended, waits⟩ :=
    running_of_sent (sound_after (sound_ofSettings settings)) sent now
  refine ⟨unended, ?_⟩
  intro done first
  obtain ⟨rest, rfl⟩ := first
  have reached := nextId_step now
  refine running.endsByFates (fun member => kept (List.mem_append_left _ member)) ?_ waits
  rw [idsTaken_append] at whole
  unfold nextIdAfter at *
  omega

def soloMoves : Settings := { policy := .ofKinds [.move] }

/-- Two commits are under way at once, one of two requests and one of a single request. -/
def twoCommits : List (SessionStep Unit) :=
  [.setSlot ⟨0, 9⟩ (some { typeId := 3, count := 2, stackId := 7 }),
    .enqueue "chest" (.move ⟨0, 9⟩ ⟨0, 10⟩ 1), .enqueue "chest" (.move ⟨0, 10⟩ ⟨0, 11⟩ 1),
    .enqueue "other" (.move ⟨0, 9⟩ ⟨0, 12⟩ 1), .commit "other"]

def chestRequests : List StackRequest :=
  [{ id := -3, actions := [.place 1 ⟨.inventory, 9, 7⟩ ⟨.inventory, 10, 0⟩] },
    { id := -5, actions := [.place 1 ⟨.inventory, 10, -3⟩ ⟨.inventory, 11, 0⟩] }]

/-- The answers come out of order, and mixed with that for the other commit. -/
def mixedAnswers : List (SessionStep Unit) :=
  [.respond [⟨0, -5, []⟩, ⟨0, -1, []⟩], .respond [⟨1, -3, []⟩]]

theorem mixed_answers_end_the_commit :
    endOf? "chest" ((((ofSettings soloMoves).after twoCommits).step (.commit "chest")).1.run
      mixedAnswers) =
        some (.ok ⟨false, some chestRequests, [⟨1, -3, []⟩, ⟨0, -5, []⟩]⟩, 0) := by
  have followed := commits_end_by_their_own_answers soloMoves twoCommits mixedAnswers "chest"
    chestRequests (by decide +kernel) (by decide +kernel) (by simp [mixedAnswers])
  exact (followed.2.2 mixedAnswers List.prefix_rfl).answered [⟨1, -3, []⟩, ⟨0, -5, []⟩]
    (by decide +kernel)

end Session

end InventorySync
