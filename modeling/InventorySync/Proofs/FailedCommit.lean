import InventorySync.Proofs.Renaming
import InventorySync.Proofs.Rollback
import InventorySync.Proofs.SessionReports

/-!
A commit that fails before anything is sent: an operation cannot be compiled, or the packet
does not get through. Groups may have been compiled by then and requests registered, but all
that remains of it is that ids are used up, so the transaction can be committed anew.
-/

namespace InventorySync

set_option autoImplicit false

namespace Engine

variable {τ : Type} {engine : Engine τ} {queue : List Operation} {failure : SyncError}

/-- Why a commit ends without anything being sent. -/
inductive FailsLocally (engine : Engine τ) (queue : List Operation) : SyncError → Prop where
  /-- An operation of some group cannot be compiled. -/
  | uncompiled {failure : SyncError} (fails : (engine.compile queue).1 = .error failure) :
      FailsLocally engine queue failure
  /-- The packet was ready, and did not get through. -/
  | unsent (filled : queue ≠ []) (succeeds : (engine.compile queue).1.isOk)
      (disconnected : engine.connected = false) : FailsLocally engine queue .channelClosed

/-- The engine once so many more ids were given out. -/
def idsUsed (engine : Engine τ) (taken : Nat) : Engine τ :=
  { engine with requests := engine.requests.idsUsed taken }

theorem compile_idsUsed (engine : Engine τ) (queue : List Operation) :
    (engine.compile queue).2 = engine.idsUsed (engine.idsFor queue) :=
  engine.compile_engine queue

theorem FailsLocally.filled (fails : engine.FailsLocally queue failure) : queue ≠ [] := by
  cases fails with
  | uncompiled fails =>
      intro empty
      rw [empty] at fails
      cases fails
  | unsent filled _ _ => exact filled

/-- There is no other way to fail. -/
theorem FailsLocally.of_startCommit {number : Nat}
    (failed : (engine.startCommit number queue).1 = .failed failure) :
    engine.FailsLocally queue failure := by
  have filled : queue ≠ [] := by
    rintro rfl
    cases failed
  have starts := engine.startCommit_starts number queue
  generalize engine.startCommit number queue = start at failed starts
  cases starts with
  | nothingQueued _ => cases failed
  | sent _ _ _ => cases failed
  | uncompiled fails =>
      cases failed
      exact .uncompiled (congrArg Prod.fst fails)
  | unsent succeeds disconnected =>
      cases failed
      exact .unsent filled (by rw [succeeds]; rfl) disconnected

/-- All that a failed start does is to use up ids. Requests that were registered by then are
taken back. -/
theorem FailsLocally.startCommit {count number : Nat} (fails : engine.FailsLocally queue failure)
    (issued : engine.requests.Issued count) (room : count + engine.idsFor queue ≤ 2 ^ 31) :
    ∃ events, packetsIn events = [] ∧
      engine.startCommit number queue =
        (.failed failure, engine.idsUsed (engine.idsFor queue), events) := by
  have kept := engine.compile_idsUsed queue
  have starts := engine.startCommit_starts number queue
  generalize engine.startCommit number queue = start at starts ⊢
  cases starts with
  | nothingQueued empty => exact absurd empty fails.filled
  | @uncompiled other middle found =>
      rw [found] at kept
      change middle = _ at kept
      refine ⟨[], rfl, ?_⟩
      cases fails with
      | uncompiled fails =>
          rw [found] at fails
          cases fails
          rw [kept]
      | unsent _ succeeds _ =>
          rw [found] at succeeds
          cases succeeds
  | sent _ succeeds connected =>
      cases fails with
      | uncompiled fails =>
          rw [succeeds] at fails
          cases fails
      | unsent _ _ disconnected =>
          rw [connected] at disconnected
          cases disconnected
  | @unsent compiled middle succeeds _ =>
      rw [succeeds] at kept
      change middle = _ at kept
      cases fails with
      | uncompiled fails =>
          rw [succeeds] at fails
          cases fails
      | unsent _ _ _ =>
          have free := compile_free issued room succeeds
          refine ⟨(middle.registerAll number 0 compiled).2 ++
            ((middle.registerAll number 0 compiled).1.cancelAll (requestIds compiled)).2, ?_, ?_⟩
          · rw [packetsIn_append, Moves.packetsIn_registerAll, Moves.packetsIn_cancelAll]
            rfl
          · rw [cancelAll_registerAll free, kept]

end Engine

namespace Transaction

theorem queue_hearAll (transaction : Transaction) (news : List (Promise × Receipt)) :
    (transaction.hearAll news).queue = transaction.queue := by
  induction news generalizing transaction with
  | nil => rfl
  | cons entry later induction =>
      refine (induction (transaction.record entry.1 entry.2)).trans ?_
      unfold record
      rcases transaction.running with _ | ⟨number, commit⟩ | result
      · rfl
      · simp only
        split <;> rfl
      · rfl

theorem queue_settled (transaction : Transaction) :
    transaction.settled.queue = transaction.queue := by
  unfold settled
  split <;> rfl

theorem hearAll_ended {queue : List Operation} {result : Except SyncError CommitOutcome}
    (news : List (Promise × Receipt)) :
    hearAll ⟨queue, some (.ended result)⟩ news = ⟨queue, some (.ended result)⟩ := by
  induction news with
  | nil => rfl
  | cons entry later induction => exact induction

end Transaction

namespace Session

variable {α : Type} {session : Session α} {name : String} {failure : SyncError}

/-- The queue of a transaction. -/
def queueOf (session : Session α) (name : String) : List Operation :=
  (session.transaction name).queue

theorem queueOf_step (session : Session α) (action : SessionStep α) (name : String) :
    (session.step action).1.queueOf name =
      (((session.perform action).session.transactions.lookup name).getD {}).queue := by
  unfold queueOf transaction
  rw [step_lookup]
  cases (session.perform action).session.transactions.lookup name with
  | none => rfl
  | some transaction =>
      rw [Option.map_some, Option.getD_some, Option.getD_some, Transaction.queue_settled,
        Transaction.queue_hearAll]

/-- What a commit that failed leaves, with so many ids given out before. -/
structure FailsCleanly (session : Session α) (name : String) (failure : SyncError)
    (count : Nat) : Prop where
  reported : (session.step (.commit name)).2.endOf? name =
    some (.error failure, (session.queueOf name).length)
  unsent : (session.step (.commit name)).2.sent = []
  /-- The mirror, the observers, the creative list, the containers and the requests that wait
  are as before. Each group that was begun has used up an id. -/
  engine : (session.step (.commit name)).1.engine =
    session.engine.idsUsed (session.engine.idsFor (session.queueOf name))
  /-- No transaction loses an operation, this one neither. -/
  queues : ∀ other, (session.step (.commit name)).1.queueOf other = session.queueOf other
  idle : (session.step (.commit name)).1.isBusy name = false
  /-- Whatever ids are free then, the queue is compiled into the same requests again. -/
  again : ∀ table : RequestTable (Completion (Callback α)),
    Matches (List.Forall₂ (CompiledRequest.Renamed (SameStack session.engine.inventory
        (session.engine.settings.policy.group (session.queueOf name)).length
        session.engine.requests.nextId table.nextId)))
      (session.engine.compile (session.queueOf name)).1
      ({ (session.step (.commit name)).1.engine with requests := table }.compile
        (session.queueOf name)).1
  /-- The ids of a later commit are others than all that were ever given out, as long as none
  comes round again. -/
  fresh : ∀ compiled after,
    (session.step (.commit name)).1.engine.compile (session.queueOf name) = (.ok compiled, after) →
    count + session.engine.idsFor (session.queueOf name) + compiled.length ≤ 2 ^ 31 →
    ∀ entry ∈ compiled,
      ∀ earlier < count + session.engine.idsFor (session.queueOf name),
        entry.request.id ≠ Compile.idAt (-1) earlier

theorem perform_failed {count : Nat} (idle : session.isBusy name = false)
    (issued : session.engine.requests.Issued count)
    (room : count + session.engine.idsFor (session.queueOf name) ≤ 2 ^ 31)
    (fails : session.engine.FailsLocally (session.queueOf name) failure) :
    ∃ events, packetsIn events = [] ∧ session.perform (.commit name) =
      { session :=
          ({ session with
            engine := session.engine.idsUsed (session.engine.idsFor (session.queueOf name))
            nextCommit := session.nextCommit + 1 } : Session α).setTransaction name
              ⟨session.queueOf name, some (.ended (.error failure))⟩
        reply := .done
        events } := by
  obtain ⟨events, silent, start⟩ :=
    @Engine.FailsLocally.startCommit _ _ _ _ count session.nextCommit fails issued room
  refine ⟨events, silent, ?_⟩
  change session.onTransaction name _ = _
  rw [onTransaction_idle idle]
  change session.engine.startCommit session.nextCommit (session.transaction name).queue = _ at start
  unfold startCommit
  simp only
  rw [start]
  rfl

/-- Whether operations cannot be compiled or the packet does not get through: a commit that
fails at once uses up ids, and does nothing else. -/
theorem failed_commits_leave_nothing_behind (session : Session α) (name : String)
    (failure : SyncError) (count : Nat) (ordered : Ordered session.transactions)
    (idle : session.isBusy name = false) (issued : session.engine.requests.Issued count)
    (room : count + session.engine.idsFor (session.queueOf name) ≤ 2 ^ 31)
    (fails : session.engine.FailsLocally (session.queueOf name) failure) :
    session.FailsCleanly name failure count := by
  obtain ⟨events, silent, performed⟩ := perform_failed idle issued room fails
  have written (other : String) :
      (session.perform (.commit name)).session.transactions.lookup other =
        if other = name then some ⟨session.queueOf name, some (.ended (.error failure))⟩
        else session.transactions.lookup other := by
    rw [performed]
    exact lookup_insertTransaction _ name _
  have found := (written name).trans (if_pos rfl)
  have engine : (session.step (.commit name)).1.engine =
      session.engine.idsUsed (session.engine.idsFor (session.queueOf name)) := by
    rw [step_engine, performed]
    rfl
  refine ⟨?_, ?_, engine, ?_, ?_, ?_, ?_⟩
  · rw [step_endOf? ordered, found, Option.bind_some, Transaction.hearAll_ended]
    rfl
  · rw [step_sent, performed]
    exact silent
  · intro other
    rw [queueOf_step, written]
    split
    · next same =>
        rw [same]
        rfl
    · rfl
  · unfold isBusy transaction
    rw [step_lookup, found, Option.map_some, Transaction.hearAll_ended]
    rfl
  · intro table
    rw [engine]
    exact (session.engine.compile_renamed table (session.queueOf name)).1
  · intro compiled later succeeds few entry member earlier before same
    rw [engine] at succeeds
    obtain ⟨position, inside, rfl⟩ := List.mem_iff_getElem.1 member
    have named := (Engine.compile_ids succeeds).2 position _ (List.getElem?_eq_getElem inside)
    change _ = Compile.idAt (Compile.idAt session.engine.requests.nextId _) position at named
    rw [same, issued.next, Compile.idAt_idAt, Compile.idAt_idAt] at named
    have equal := Compile.idAt_injective (by omega) (by omega) named
    omega

/-- The first transaction fails at its second request, and the other one has nowhere to be sent.
An earlier commit still waits. -/
def failingCommits : Session Unit :=
  (ofSettings { policy := .ofKinds [.move] }).after
    [.setSlot ⟨0, 9⟩ (some { typeId := 3, count := 2, stackId := 7 }),
      .enqueue "waiting" (.move ⟨0, 9⟩ ⟨0, 10⟩ 1), .commit "waiting", .disconnect,
      .enqueue "blocked" (.move ⟨0, 9⟩ ⟨0, 11⟩ 1), .enqueue "blocked" (.swap ⟨0, 9⟩ ⟨7, 1⟩),
      .enqueue "stranded" (.move ⟨0, 9⟩ ⟨0, 12⟩ 1)]

theorem failing_commits_leave_the_waiting_one :
    failingCommits.engine.requests.isPending (-1) ∧
      failingCommits.FailsCleanly "blocked" .noOpenContainer 1 ∧
      failingCommits.FailsCleanly "stranded" .channelClosed 1 := by
  have ordered : Ordered failingCommits.transactions := by
    unfold Ordered
    decide +kernel
  have issued : failingCommits.engine.requests.Issued 1 :=
    .of_entries (by decide +kernel) (by decide +kernel)
  have blocked : (failingCommits.engine.startCommit 0 (failingCommits.queueOf "blocked")).1 =
      .failed .noOpenContainer := by
    decide +kernel
  have stranded : (failingCommits.engine.startCommit 0 (failingCommits.queueOf "stranded")).1 =
      .failed .channelClosed := by
    decide +kernel
  refine ⟨by decide +kernel, ?_, ?_⟩
  · exact failed_commits_leave_nothing_behind failingCommits "blocked" _ 1 ordered
      (by decide +kernel) issued (by decide +kernel) (.of_startCommit blocked)
  · exact failed_commits_leave_nothing_behind failingCommits "stranded" _ 1 ordered
      (by decide +kernel) issued (by decide +kernel) (.of_startCommit stranded)

end Session

end InventorySync
