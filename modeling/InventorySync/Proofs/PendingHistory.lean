import InventorySync.Proofs.CommitOutcome
import InventorySync.Proofs.FailedCommit

/-!
The table of waiting requests against the history of a session. As long as requests are
registered by commits only, those waiting are at any time the ones that were sent and not
answered yet: a packet is handed over with all of its requests registered, under ids that
were never given out before, and a commit that fails leaves nothing behind.
-/

namespace InventorySync

set_option autoImplicit false

namespace Compile

variable {context : Context}

/-- The ids under which groups are begun, that of a group that fails included. -/
def idsBegun (context : Context) : Int32 → Overlay → List (List Operation) → List Int32
  | _, _, [] => []
  | requestId, overlay, operations :: later =>
      match group context requestId overlay operations with
      | .error _ => [requestId]
      | .ok (_, after) => requestId :: idsBegun context (idAfter requestId) after later

theorem idsBegun_eq (operations : List (List Operation)) (requestId : Int32) (overlay : Overlay) :
    idsBegun context requestId overlay operations =
      (List.range (begun context requestId overlay operations)).map (idAt requestId) := by
  induction operations generalizing requestId overlay with
  | nil => rfl
  | cons members later induction =>
      unfold idsBegun begun
      rcases group context requestId overlay members with failure | ⟨compiled, after⟩
      · simp [idAt_zero]
      · have shifted : (fun position => idAt requestId (position + 1)) =
            idAt (idAfter requestId) := funext (idAt_succ requestId)
        simp only
        rw [induction, List.range_succ_eq_map, List.map_cons, List.map_map, idAt_zero]
        exact congrArg (requestId :: ·) (congrArg (List.map · _) shifted.symm)

end Compile

namespace Engine

variable {τ : Type} {engine : Engine τ} {number : Nat} {queue : List Operation}

/-- What senders get of a commit that takes these ids. -/
inductive HandsOver (engine : Engine τ) (number : Nat) (queue : List Operation)
    (ids : List Int32) : Prop where
  /-- There is nothing to send, or it cannot be compiled. No sender is asked. -/
  | nothing {start : CommitStart} {after : Engine τ}
      (unready : queue = [] ∨ (engine.compile queue).1.isOk = false)
      (unasked : ∀ sender : Sender τ,
        engine.startCommitThrough sender number queue = (start, after, []))
  /-- A sender sees an engine in which all requests of the packet are registered, in place of no
  others. Its answer decides, and if it fails the engine is as before but for the ids. -/
  | packet {registered : Engine τ} {packet : List StackRequest}
      (named : packet.map StackRequest.id = ids)
      (fresh : ∀ requestId ∈ ids, engine.requests.isPending requestId = false)
      (waits : ∀ requestId, registered.requests.isPending requestId ↔
        engine.requests.isPending requestId ∨ requestId ∈ ids)
      (takenBack : (registered.cancelAll ids).1 = engine.idsUsed (engine.idsFor queue))
      (asked : ∀ sender : Sender τ, engine.startCommitThrough sender number queue =
        handedOver (registered, []) packet (sender registered (.stackRequests packet)))

/-- Under ids that were never given out, requests are handed over when they are registered. -/
theorem handsOver {count : Nat} (issued : engine.requests.Issued count)
    (room : count + engine.idsFor queue ≤ 2 ^ 31) :
    engine.HandsOver number queue
      ((List.range (engine.idsFor queue)).map (Compile.idAt engine.requests.nextId)) := by
  by_cases filled : queue = []
  · have unasked (sender : Sender τ) :
        engine.startCommitThrough sender number queue = (.nothingQueued, engine, []) := by
      rw [filled]
      rfl
    exact .nothing (Or.inl filled) unasked
  have kept := engine.compile_idsUsed queue
  rcases succeeds : engine.compile queue with ⟨failure | compiled, middle⟩
  · exact .nothing (Or.inr (by rw [succeeds]; rfl)) fun sender =>
      startCommitThrough_of_fails filled succeeds sender number
  · rw [succeeds] at kept
    have free := compile_free issued room succeeds
    have distinct : (requestIds compiled).Nodup := by
      apply requestIds_nodup succeeds
      rw [(compile_ids succeeds).1]
      omega
    have silent : (middle.registerAll number 0 compiled).2 = [] := registerAll_silent distinct free
    have takenBack :
        ((middle.registerAll number 0 compiled).1.cancelAll (requestIds compiled)).1 =
          engine.idsUsed (engine.idsFor queue) := (cancelAll_registerAll free).trans kept
    rw [← requestIds_compiled succeeds]
    refine .packet (ids_of_requests compiled) ?_ ?_ takenBack ?_
    · intro requestId listed
      rw [← isPending_compiled succeeds]
      exact free requestId listed
    · intro requestId
      rw [← isPending_compiled succeeds]
      exact isPending_registerAll
    · intro sender
      rw [startCommitThrough_eq filled succeeds, ← silent]

/-- A commit adds what it sends to the requests that wait, and takes nothing from them. -/
theorem startCommit_pending {count : Nat} {requestId : Int32}
    (issued : engine.requests.Issued count) (room : count + engine.idsFor queue ≤ 2 ^ 31) :
    (engine.startCommit number queue).2.1.requests.isPending requestId ↔
      engine.requests.isPending requestId ∨
        requestId ∈ sentIds (engine.startCommit number queue).2.2 := by
  have starts := engine.startCommit_starts number queue
  generalize engine.startCommit number queue = start at starts ⊢
  cases starts with
  | nothingQueued _ => simp [sentIds, packetsIn]
  | uncompiled fails =>
      rw [isPending_compiled fails]
      simp [sentIds, packetsIn]
  | sent _ succeeds _ =>
      rw [isPending_registerAll, isPending_compiled succeeds, Moves.sentIds_sent]
  | unsent succeeds _ =>
      have free := compile_free issued room succeeds
      rw [cancelAll_registerAll free, isPending_compiled succeeds, Moves.sentIds_unsent]
      simp

end Engine

namespace SessionStep

variable {α : Type}

/-- The step leaves it to commits to register requests, and to answers to take them out. -/
def sparesTable : SessionStep α → Bool
  | .addRequest .. | .cancelRequest _ => false
  | _ => true

def answeredIds (steps : List (SessionStep α)) : List Int32 :=
  (steps.flatMap answers).map StackResponse.requestId

end SessionStep

namespace Session

open SessionStep

variable {α : Type} {session : Session α} {action : SessionStep α} {count : Nat}

/-- The ids that a step gives out, whatever becomes of them. -/
def idsAllocatedBy (session : Session α) : SessionStep α → List Int32
  | .newRequestId => [session.engine.requests.newId.1]
  | .compile name | .commit name =>
      if session.isBusy name then []
      else
        Compile.idsBegun session.engine.context session.engine.requests.nextId .empty
          (session.engine.settings.policy.group (session.queueOf name))
  | _ => []

def idsAllocated (session : Session α) : List (SessionStep α) → List Int32
  | [] => []
  | action :: later =>
      session.idsAllocatedBy action ++ (session.step action).1.idsAllocated later

/-- The ids that were sent in a step and named by no answer of a later one. -/
def unanswered (session : Session α) : List (SessionStep α) → List Int32
  | [] => []
  | action :: later =>
      (sentBy (session.step action).2).filter (fun id => !(answeredIds later).contains id) ++
        (session.step action).1.unanswered later

/-- The ids in the answers of a step that belong to no request, or to one that is answered
already. -/
def strays (session : Session α) (before : List (SessionStep α)) (action : SessionStep α) :
    List Int32 :=
  ((RequestTable.turns [] action.answers).filter fun turn =>
    !(session.unanswered before).contains turn.2.requestId ||
      (turn.1.map StackResponse.requestId).contains turn.2.requestId).map
        fun turn => turn.2.requestId

theorem idsAllocatedBy_eq (session : Session α) (action : SessionStep α) :
    session.idsAllocatedBy action =
      (List.range (session.idsTakenBy action)).map
        (Compile.idAt session.engine.requests.nextId) := by
  cases action with
  | newRequestId => simp [idsAllocatedBy, idsTakenBy, Compile.idAt_zero, RequestTable.newId]
  | compile name | commit name =>
      unfold idsAllocatedBy idsTakenBy
      simp only
      split
      · rfl
      · exact Compile.idsBegun_eq _ _ _
  | _ => rfl

theorem idsAllocated_eq (session : Session α) (steps : List (SessionStep α)) :
    session.idsAllocated steps =
      (List.range (session.idsTaken steps)).map
        (Compile.idAt session.engine.requests.nextId) := by
  induction steps generalizing session with
  | nil => rfl
  | cons action later induction =>
      have shifted : Compile.idAt session.engine.requests.nextId ∘ (session.idsTakenBy action + ·) =
          Compile.idAt (session.step action).1.engine.requests.nextId := by
        funext position
        rw [step_nextId, Compile.idAt_idAt]
        rfl
      unfold idsAllocated idsTaken
      rw [induction, idsAllocatedBy_eq, List.range_add, List.map_append, List.map_map, shifted]

theorem unanswered_append (session : Session α) (steps : List (SessionStep α))
    (action : SessionStep α) :
    session.unanswered (steps ++ [action]) =
      (session.unanswered steps).filter (fun id => !(answeredIds [action]).contains id) ++
        sentBy ((session.after steps).step action).2 := by
  induction steps generalizing session with
  | nil => simp [unanswered, answeredIds, after]
  | cons first later induction =>
      have answered : answeredIds (later ++ [action]) =
          answeredIds later ++ answeredIds [action] := by
        simp [answeredIds]
      rw [List.cons_append, unanswered, induction, unanswered, List.filter_append,
        List.filter_filter, answered, ← List.append_assoc]
      simp [after, Bool.and_comm]

theorem mem_answeredIds_single {requestId : Int32} :
    requestId ∈ answeredIds [action] ↔ requestId ∈ action.answers.map StackResponse.requestId := by
  unfold answeredIds
  rw [List.flatMap_singleton]

/-- Answers take requests out of the table, and a commit puts in those that it sends. -/
theorem step_pending (spared : action.sparesTable) (issued : session.engine.requests.Issued count)
    (room : count + session.idsTakenBy action ≤ 2 ^ 31) (requestId : Int32) :
    (session.step action).1.engine.requests.isPending requestId ↔
      session.engine.requests.isPending requestId ∧ requestId ∉ answeredIds [action] ∨
        requestId ∈ sentBy (session.step action).2 := by
  rw [step_engine, step_sentBy, mem_answeredIds_single]
  cases session.perform_works action with
  | quiet unanswered _ _ quiet =>
      have kept : (session.perform action).session.engine.requests = session.engine.requests :=
        quiet.requests
      have silent : sentIds (session.perform action).events = [] := quiet.sendsNone
      rw [kept, silent, unanswered]
      simp
  | takes unanswered _ requests silent =>
      rw [requests, silent, unanswered]
      change session.engine.requests.isPending requestId ↔ _
      simp [sentIds, packetsIn]
  | answers _ _ performed =>
      have left : (session.perform action).session.engine.requests =
          session.engine.requests.without (action.answers.map StackResponse.requestId) := by
        rw [performed]
        exact (RequestTable.routes_once _ _ action.answers).left
      have silent : sentIds (session.perform action).events = [] := by
        rw [performed]
        exact Moves.sentIds_completions _
      rw [left, silent, RequestTable.isPending_without]
      simp
  | registers same =>
      subst same
      cases spared
  | cancels same =>
      subst same
      cases spared
  | @commits name same idle performed =>
      subst same
      have taken : session.idsTakenBy (.commit name) = session.engine.idsFor
          (session.transaction name).queue := if_neg (Bool.eq_false_iff.1 idle)
      rw [taken] at room
      rw [performed]
      refine (Engine.startCommit_pending issued room).trans ?_
      simp [SessionStep.answers]
      rfl

theorem step_issued (spared : action.sparesTable) (issued : session.engine.requests.Issued count)
    (room : count + session.idsTakenBy action ≤ 2 ^ 31) :
    (session.step action).1.engine.requests.Issued (count + session.idsTakenBy action) := by
  apply issued.grow (session.step_nextId action)
  intro requestId waits
  rcases (step_pending spared issued room requestId).1 waits with before | sent
  · exact Or.inl before.1
  · rw [step_sentBy] at sent
    rcases (session.perform_moves action).sends with none | all
    · change sentIds (session.perform action).events = [] at none
      rw [none] at sent
      cases sent
    · change sentIds (session.perform action).events = _ at all
      rw [all] at sent
      obtain ⟨position, inside, given⟩ := List.mem_map.1 sent
      exact Or.inr ⟨position, List.mem_range.1 inside, given⟩

/-- What a run leaves waiting. -/
structure Remembers (start : Session α) (steps : List (SessionStep α)) : Prop where
  issued : (start.after steps).engine.requests.Issued (start.idsTaken steps)
  pending : ∀ requestId, (start.after steps).engine.requests.isPending requestId ↔
    requestId ∈ start.unanswered steps

theorem after_append (start : Session α) (steps : List (SessionStep α)) (action : SessionStep α) :
    start.after (steps ++ [action]) = ((start.after steps).step action).1 := by
  unfold after
  rw [List.foldl_append]
  rfl

theorem Remembers.step {start : Session α} {steps : List (SessionStep α)}
    (remembers : start.Remembers steps) (spared : action.sparesTable)
    (room : start.idsTaken steps + (start.after steps).idsTakenBy action ≤ 2 ^ 31) :
    start.Remembers (steps ++ [action]) := by
  constructor
  · rw [after_append, idsTaken_append]
    exact step_issued spared remembers.issued room
  · intro requestId
    rw [after_append, step_pending spared remembers.issued room, unanswered_append,
      remembers.pending]
    simp

theorem remembers (settings : Settings) (steps : List (SessionStep α))
    (spared : ∀ action ∈ steps, action.sparesTable)
    (few : (ofSettings settings).idsTaken steps ≤ 2 ^ 31) :
    (ofSettings settings).Remembers steps := by
  induction steps using List.reverseRecOn with
  | nil =>
      constructor
      · exact .of_entries (Compile.idAt_zero _).symm fun _ member => absurd member List.not_mem_nil
      · intro requestId
        exact ⟨fun waits => Bool.noConfusion waits, fun sent => absurd sent List.not_mem_nil⟩
  | append_singleton before action induction =>
      rw [idsTaken_append, idsTaken] at few
      have earlier := induction (fun other member => spared other (List.mem_append_left _ member))
        (by omega)
      exact earlier.step (spared action (List.mem_append_right _ List.mem_cons_self))
        (by simpa [idsTaken] using few)

/-- How a step of a run treats the requests that wait. -/
structure Accounted (start : Session α) (before : List (SessionStep α)) (action : SessionStep α) :
    Prop where
  /-- After the step, the ids that wait are those that were sent and not answered yet. -/
  pending : ∀ requestId,
    ((start.after before).step action).1.engine.requests.isPending requestId ↔
      requestId ∈ start.unanswered (before ++ [action])
  /-- Whichever sender a commit has, it gets the packet with all requests registered. -/
  handsOver : ∀ name, action = .commit name → (start.after before).isBusy name = false →
    (start.after before).engine.HandsOver (start.after before).nextCommit
      ((start.after before).queueOf name) ((start.after before).idsAllocatedBy action)
  /-- The sender of a session is its connection. -/
  commits : ∀ name, action = .commit name → (start.after before).isBusy name = false →
    ((start.after before).step action).1.engine =
        ((start.after before).engine.startCommitThrough Engine.send
          (start.after before).nextCommit ((start.after before).queueOf name)).2.1 ∧
      ((start.after before).step action).2.sent =
        packetsIn ((start.after before).engine.startCommitThrough Engine.send
          (start.after before).nextCommit ((start.after before).queueOf name)).2.2
  /-- No request leaves in any other way. -/
  sends : ∀ packet ∈ ((start.after before).step action).2.sent, packet.requestIds ≠ [] →
    ∃ name, action = .commit name ∧ (start.after before).isBusy name = false
  /-- Answers are reported that belong to no request, or to one that is answered already. -/
  reports : action.answers ≠ [] →
    ((start.after before).step action).2.reply =
      if start.strays before action = [] then .done
      else .failed (.desynchronized (start.strays before action))

/-- A commit does to the engine and sends what it does through the connection. -/
theorem step_commit {name : String} (idle : session.isBusy name = false) :
    (session.step (.commit name)).1.engine =
        (session.engine.startCommit session.nextCommit (session.queueOf name)).2.1 ∧
      (session.step (.commit name)).2.sent =
        packetsIn (session.engine.startCommit session.nextCommit (session.queueOf name)).2.2 := by
  have performed : session.perform (.commit name) =
      session.startCommit name (session.transaction name) := if_neg (Bool.eq_false_iff.1 idle)
  rw [step_engine, step_sent, performed]
  exact ⟨rfl, rfl⟩

/-- Requests leave in no other way than by a commit. -/
theorem sends_by_commit {packet : ClientPacket} (spared : action.sparesTable)
    (sent : packet ∈ (session.step action).2.sent) (filled : packet.requestIds ≠ []) :
    ∃ name, action = .commit name ∧ session.isBusy name = false := by
  rw [step_sent] at sent
  have none (silent : sentIds (session.perform action).events = []) : False :=
    filled (List.flatMap_eq_nil_iff.1 silent packet sent)
  cases session.perform_works action with
  | quiet _ _ _ quiet => exact absurd quiet.sendsNone none
  | takes _ _ _ silent => exact absurd (congrArg sentIds silent) none
  | answers _ _ performed =>
      rw [performed] at none
      exact absurd (Moves.sentIds_completions _) none
  | registers same =>
      subst same
      cases spared
  | cancels same =>
      subst same
      cases spared
  | @commits name commits idle _ => exact ⟨name, commits, idle⟩

/-- The reply to a batch names the answers that find no request waiting. -/
theorem reply_to_answers (brings : action.answers ≠ []) :
    (session.step action).2.reply =
      if (session.engine.requests.strayAnswers action.answers).map StackResponse.requestId = []
      then .done
      else .failed (.desynchronized
        ((session.engine.requests.strayAnswers action.answers).map StackResponse.requestId)) := by
  cases session.perform_works action with
  | quiet unanswered _ _ _ => exact absurd unanswered brings
  | takes unanswered _ _ _ => exact absurd unanswered brings
  | registers same =>
      subst same
      exact absurd rfl brings
  | cancels same =>
      subst same
      exact absurd rfl brings
  | commits same _ _ =>
      subst same
      exact absurd rfl brings
  | answers _ _ performed =>
      change (session.perform action).reply = _
      have outcome : (session.engine.responsesReceived action.answers).1 = _ :=
        RequestTable.outcome_eq session.engine.requests session.engine.inventory action.answers
      rw [performed]
      unfold Progress.ofResult
      rw [outcome]
      by_cases none : session.engine.requests.strayAnswers action.answers = []
      · simp [none, Progress.ofEngine]
      · simp [none, Progress.ofEngine]

section Accounts

variable {start : Session α} {before : List (SessionStep α)}

theorem strayAnswers_eq (remembers : start.Remembers before) (action : SessionStep α) :
    ((start.after before).engine.requests.strayAnswers action.answers).map
      StackResponse.requestId = start.strays before action := by
  unfold RequestTable.strayAnswers strays
  rw [List.map_map]
  apply congrArg (List.map _)
  apply List.filter_congr
  intro turn _
  have waits := remembers.pending turn.2.requestId
  unfold RequestTable.isDue
  rw [Bool.not_and, Bool.not_not]
  congr 1
  rw [Bool.eq_iff_iff, Bool.not_eq_true', Bool.not_eq_true', ← Bool.not_eq_true,
    ← Bool.not_eq_true, waits, List.contains_iff_mem]

theorem Remembers.accounted (remembers : start.Remembers before) (spared : action.sparesTable)
    (room : start.idsTaken before + (start.after before).idsTakenBy action ≤ 2 ^ 31) :
    start.Accounted before action := by
  constructor
  case pending =>
    rw [← after_append]
    exact (remembers.step spared room).pending
  case handsOver =>
    rintro name rfl idle
    have taken : (start.after before).idsTakenBy (.commit name) =
        (start.after before).engine.idsFor ((start.after before).queueOf name) :=
      if_neg (Bool.eq_false_iff.1 idle)
    rw [taken] at room
    rw [idsAllocatedBy_eq, taken]
    exact Engine.handsOver remembers.issued room
  case commits =>
    rintro name rfl idle
    exact step_commit idle
  case sends => exact fun packet sent filled => sends_by_commit spared sent filled
  case reports =>
    intro brings
    rw [reply_to_answers brings, strayAnswers_eq remembers]

end Accounts

/-- The ids of a session never repeat, whatever commits come to, and the requests that wait are
at any time those that were sent and not answered yet. -/
theorem pending_requests_are_sent_and_unanswered (settings : Settings)
    (steps : List (SessionStep α)) (spared : ∀ action ∈ steps, action.sparesTable)
    (few : ((ofSettings settings).idsAllocated steps).length ≤ 2 ^ 30) :
    ((ofSettings settings).idsAllocated steps).Nodup ∧
      (∀ requestId ∈ (ofSettings settings).idsAllocated steps,
        requestId.toInt < 0 ∧ requestId.toInt % 2 = 1) ∧
      ∀ before action later, steps = before ++ action :: later →
        (ofSettings settings).Accounted before action := by
  have first : (ofSettings settings : Session α).engine.requests.nextId = -1 := rfl
  have given := idsAllocated_eq (ofSettings settings) steps
  rw [first] at given
  rw [given, List.length_map, List.length_range] at few
  rw [given]
  refine ⟨?_, ?_, ?_⟩
  · apply List.Nodup.map_on _ List.nodup_range
    intro position inside other otherInside same
    rw [List.mem_range] at inside otherInside
    exact Compile.idAt_injective (by omega) (by omega) same
  · intro requestId listed
    obtain ⟨position, inside, rfl⟩ := List.mem_map.1 listed
    rw [List.mem_range] at inside
    have start : (-1 : Int32).toInt = -1 := by decide
    rw [Compile.toInt_idAt (by omega), start]
    omega
  · rintro before action later rfl
    rw [idsTaken_append, idsTaken] at few
    have earlier := remembers settings before
      (fun other member => spared other (List.mem_append_left _ member)) (by omega)
    exact earlier.accounted (spared action (List.mem_append_right _ List.mem_cons_self))
      (by omega)

/-- One commit fails at its second request, one is sent and abandoned, and one has nowhere to be
sent at first. Of the answers only the first is to a request that waits. -/
def troubledHistory : List (SessionStep Unit) :=
  [.setSlot ⟨0, 9⟩ (some { typeId := 3, count := 2, stackId := 7 }),
    .enqueue "blocked" (.move ⟨0, 9⟩ ⟨0, 11⟩ 1), .enqueue "blocked" (.swap ⟨0, 9⟩ ⟨7, 1⟩),
    .commit "blocked",
    .enqueue "given up" (.move ⟨0, 9⟩ ⟨0, 10⟩ 1), .enqueue "given up" (.move ⟨0, 10⟩ ⟨0, 11⟩ 1),
    .compile "given up", .commit "given up",
    .respond [⟨0, -11, []⟩, ⟨0, -11, []⟩, ⟨0, -1, []⟩], .abandon "given up", .disconnect,
    .enqueue "stranded" (.move ⟨0, 9⟩ ⟨0, 12⟩ 1), .commit "stranded", .reconnect,
    .commit "stranded"]

theorem troubled_history_leaves_two_requests :
    (ofSettings { policy := .ofKinds [.move] }).idsAllocated troubledHistory =
        [-1, -3, -5, -7, -9, -11, -13, -15] ∧
      (∀ requestId,
        ((ofSettings { policy := .ofKinds [.move] }).after
          troubledHistory).engine.requests.isPending requestId ↔
            requestId = -9 ∨ requestId = -15) ∧
      (((ofSettings { policy := .ofKinds [.move] }).after (troubledHistory.take 8)).step
        (.respond [⟨0, -11, []⟩, ⟨0, -11, []⟩, ⟨0, -1, []⟩])).2.reply =
          .failed (.desynchronized [-11, -1]) := by
  have followed := pending_requests_are_sent_and_unanswered { policy := .ofKinds [.move] }
    troubledHistory (by decide) (by decide +kernel)
  refine ⟨by decide +kernel, ?_, ?_⟩
  · have ended := (followed.2.2 (troubledHistory.take 14) (.commit "stranded") [] rfl).pending
    have whole : troubledHistory.take 14 ++ [.commit "stranded"] = troubledHistory := rfl
    have left : (ofSettings { policy := .ofKinds [.move] }).unanswered troubledHistory =
        [-9, -15] := by
      decide +kernel
    intro requestId
    have waiting := ended requestId
    rw [← after_append, whole, left, List.mem_pair] at waiting
    exact waiting
  · have answered := (followed.2.2 (troubledHistory.take 8)
      (.respond [⟨0, -11, []⟩, ⟨0, -11, []⟩, ⟨0, -1, []⟩]) (troubledHistory.drop 9) rfl).reports
    have strays : (ofSettings { policy := .ofKinds [.move] }).strays (troubledHistory.take 8)
        (.respond [⟨0, -11, []⟩, ⟨0, -11, []⟩, ⟨0, -1, []⟩]) = [-11, -1] := by
      decide +kernel
    rw [strays] at answered
    exact answered (List.cons_ne_nil _ _)

end Session

end InventorySync
