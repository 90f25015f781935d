import InventorySync.Proofs.SessionSteps

/-!
The transactions of a session and the reports of their ends. A transaction whose
commit runs is left alone by every step but one that abandons it, until a step
tells it enough to end.
-/

namespace InventorySync

set_option autoImplicit false

namespace Transaction

/-- Hands all news to the commit that waits for them. -/
def hearAll (transaction : Transaction) (news : List (Promise × Receipt)) : Transaction :=
  news.foldl (fun transaction entry => transaction.record entry.1 entry.2) transaction

/-- The transaction once its end, if it came to one, is reported. -/
def settled (transaction : Transaction) : Transaction :=
  if transaction.result?.isSome then { transaction with running := none } else transaction

theorem hearAll_waiting {number : Nat} {commit : Commit} {queue : List Operation}
    (news : List (Promise × Receipt)) :
    hearAll ⟨queue, some (.waiting number commit)⟩ news =
      ⟨queue, some (.waiting number (commit.learnAll number news))⟩ := by
  induction news generalizing commit with
  | nil => rfl
  | cons entry later induction =>
      change hearAll (record _ entry.1 entry.2) later =
        ⟨queue, some (.waiting number ((commit.learn number entry).learnAll number later))⟩
      unfold record Commit.learn
      simp only
      split
      · exact induction
      · exact induction

end Transaction

/-- How a report says that a transaction ended, and how many operations it has queued. -/
def SessionReport.endOf? {α : Type} (name : String) :
    SessionReport α → Option (Except SyncError CommitOutcome × Nat)
  | .committed other result queued => if other = name then some (result, queued) else none
  | _ => none

def SessionAnswer.endOf? {α : Type} (name : String) (answer : SessionAnswer α) :
    Option (Except SyncError CommitOutcome × Nat) :=
  answer.reports.findSome? (SessionReport.endOf? name)

namespace Session

variable {α : Type} {session : Session α} {name : String}

def after (session : Session α) (steps : List (SessionStep α)) : Session α :=
  steps.foldl (fun session action => (session.step action).1) session

/-- How a transaction ends first in a row of answers. -/
def endOf? (name : String) (answers : List (SessionAnswer α)) :
    Option (Except SyncError CommitOutcome × Nat) :=
  answers.findSome? (SessionAnswer.endOf? name)

section Transactions

/-- Every transaction stands under its own name, and the names ascend. -/
def Ordered (transactions : List (String × Transaction)) : Prop :=
  transactions.Pairwise fun first second => first.1 < second.1

theorem lookup_insertTransaction (transactions : List (String × Transaction)) (other : String)
    (transaction : Transaction) :
    (insertTransaction other transaction transactions).lookup name =
      if name = other then some transaction else transactions.lookup name := by
  induction transactions with
  | nil => exact Keyed.lookup_cons [] other name transaction
  | cons entry later induction =>
      obtain ⟨present, value⟩ := entry
      unfold insertTransaction
      split
      · next taken =>
          rw [Keyed.lookup_cons, Keyed.lookup_cons, taken]
          split <;> rfl
      · next free =>
          split
          · exact Keyed.lookup_cons _ other name transaction
          · rw [Keyed.lookup_cons, Keyed.lookup_cons, induction]
            by_cases same : name = other
            · have apart : name ≠ present := fun equal => free (same.symm.trans equal)
              rw [if_neg apart, if_pos same, if_pos same]
            · rw [if_neg same, if_neg same]

theorem mem_insertTransaction {transactions : List (String × Transaction)} {other : String}
    {transaction : Transaction} {entry : String × Transaction}
    (member : entry ∈ insertTransaction other transaction transactions) :
    entry.1 = other ∨ entry ∈ transactions := by
  induction transactions with
  | nil =>
      left
      rw [List.mem_singleton.1 member]
  | cons first later induction =>
      unfold insertTransaction at member
      split at member
      · rcases List.mem_cons.1 member with same | rest
        · exact Or.inl (by rw [same])
        · exact Or.inr (List.mem_cons_of_mem _ rest)
      · split at member
        · rcases List.mem_cons.1 member with same | rest
          · exact Or.inl (by rw [same])
          · exact Or.inr rest
        · rcases List.mem_cons.1 member with same | rest
          · exact Or.inr (List.mem_cons.2 (Or.inl same))
          · rcases induction rest with new | old
            · exact Or.inl new
            · exact Or.inr (List.mem_cons_of_mem _ old)

theorem ordered_insertTransaction {transactions : List (String × Transaction)} (other : String)
    (transaction : Transaction) (ordered : Ordered transactions) :
    Ordered (insertTransaction other transaction transactions) := by
  induction transactions with
  | nil => exact List.pairwise_singleton _ _
  | cons first later induction =>
      obtain ⟨present, value⟩ := first
      obtain ⟨above, rest⟩ := List.pairwise_cons.1 ordered
      unfold insertTransaction
      split
      · next same =>
          subst same
          exact List.pairwise_cons.2 ⟨above, rest⟩
      · next differs =>
          split
          · next before =>
              refine List.pairwise_cons.2 ⟨?_, ordered⟩
              intro entry member
              rcases List.mem_cons.1 member with same | listed
              · rw [same]
                exact before
              · exact String.lt_trans before (above entry listed)
          · next notBefore =>
              refine List.pairwise_cons.2 ⟨?_, induction rest⟩
              intro entry member
              rcases mem_insertTransaction member with new | old
              · rw [new]
                have least : present ≤ other := String.not_lt.1 notBefore
                by_cases before : present < other
                · exact before
                · exact absurd (String.le_antisymm (String.not_lt.1 before) least) differs
              · exact above entry old

/-- What a step may do to the transactions: nothing, or replace one that is not busy. -/
inductive Rewrites (session : Session α) (progress : Progress α) : Prop where
  | same (kept : progress.session.transactions = session.transactions)
  | put {other : String} (transaction : Transaction) (free : session.isBusy other = false)
      (written : progress.session.transactions =
        insertTransaction other transaction session.transactions)

/-- Only to abandon a commit takes a transaction away. -/
theorem perform_transactions (session : Session α) (action : SessionStep α) :
    Rewrites session (session.perform action) ∨
      ∃ other, action = .abandon other ∧
        (session.perform action).session.transactions =
          Keyed.erase session.transactions other := by
  cases action with
  | abandon other =>
      unfold perform abandonCommit
      by_cases busy : session.isBusy other
      · right
        exact ⟨other, rfl, by simp only [busy, if_true]; rfl⟩
      · left
        simp only [busy]
        exact .same rfl
  | enqueue _ _ | discard _ | commit _ =>
      left
      unfold perform
      refine onTransaction_cases (P := Rewrites session) (.same rfl) ?_
      intro free
      exact .put _ free rfl
  | showQueue _ | compile _ =>
      left
      unfold perform
      refine onTransaction_cases (P := Rewrites session) (.same rfl) ?_
      intro _
      exact .same rfl
  | overlayLoad _ | overlayReserve _ _ | overlayItem _ | overlayTake _ _ | overlayPlace _ _
  | overlaySwap _ _ | overlayTransfer _ _ _ =>
      left
      exact onOverlay_cases (P := Rewrites session) fun _ _ => .same rfl
  | _ => exact Or.inl (.same rfl)

theorem perform_ordered {action : SessionStep α} (ordered : Ordered session.transactions) :
    Ordered (session.perform action).session.transactions := by
  rcases session.perform_transactions action with rewrites | ⟨other, -, erased⟩
  · cases rewrites with
    | same kept =>
        rw [kept]
        exact ordered
    | put transaction _ written =>
        rw [written]
        exact ordered_insertTransaction _ transaction ordered
  · rw [erased]
    exact ordered.filter _

/-- A transaction whose commit runs is out of reach. -/
theorem perform_lookup {action : SessionStep α} (busy : session.isBusy name)
    (kept : action ≠ .abandon name) :
    (session.perform action).session.transactions.lookup name =
      session.transactions.lookup name := by
  rcases session.perform_transactions action with rewrites | ⟨other, abandoned, erased⟩
  · cases rewrites with
    | same unchanged => rw [unchanged]
    | @put other transaction free written =>
        rw [written, lookup_insertTransaction, if_neg]
        intro same
        rw [same, free] at busy
        cases busy
  · rw [erased, Keyed.lookup_erase, if_neg]
    intro same
    exact kept (same ▸ abandoned)

theorem perform_nextCommit (session : Session α) (action : SessionStep α) :
    session.nextCommit ≤ (session.perform action).session.nextCommit := by
  have grown {name : String} {use : Transaction → Progress α}
      (used : session.nextCommit ≤ (use (session.transaction name)).session.nextCommit) :
      session.nextCommit ≤ (session.onTransaction name use).session.nextCommit :=
    onTransaction_cases (P := fun progress => session.nextCommit ≤ progress.session.nextCommit)
      (Nat.le_refl _) fun _ => used
  cases action with
  | enqueue _ _ | discard _ | showQueue _ | compile _ => exact grown (Nat.le_refl _)
  | commit _ => exact grown (Nat.le_succ _)
  | overlayLoad _ | overlayReserve _ _ | overlayItem _ | overlayTake _ _ | overlayPlace _ _
  | overlaySwap _ _ | overlayTransfer _ _ _ =>
      exact onOverlay_cases
        (P := fun progress => session.nextCommit ≤ progress.session.nextCommit)
        fun _ _ => Nat.le_refl _
  | _ => exact Nat.le_refl _

end Transactions

section Reports

/-- Handing out events changes nothing but the commits that wait for them. -/
theorem foldl_absorb (events : List (Event (Callback α))) (session : Session α) :
    events.foldl absorb session =
      { session with
        transactions := session.transactions.map fun entry =>
          (entry.1, entry.2.hearAll (heard events)) } := by
  induction events generalizing session with
  | nil =>
      change session = { session with transactions := session.transactions.map id }
      rw [List.map_id]
  | cons event later induction =>
      rw [List.foldl_cons, induction]
      have told (promise : Promise) (receipt : Receipt)
          (hears : event.receipt? = some (promise, receipt))
          (absorbed : session.absorb event = session.recordAll promise receipt) :
          ({ session.absorb event with
            transactions := (session.absorb event).transactions.map fun entry =>
              (entry.1, entry.2.hearAll (heard later)) } : Session α) =
          { session with
            transactions := session.transactions.map fun entry =>
              (entry.1, entry.2.hearAll (heard (event :: later))) } := by
        unfold heard
        rw [absorbed, List.filterMap_cons_some hears]
        unfold recordAll
        rw [List.map_map]
        rfl
      cases event with
      | answered promise response => exact told promise _ rfl rfl
      | abandoned promise => exact told promise _ rfl rfl
      | _ => rfl

theorem endCommits_transactions (transactions : List (String × Transaction)) :
    (endCommits (α := α) transactions).2 =
      transactions.map fun entry => (entry.1, entry.2.settled) := by
  induction transactions with
  | nil => rfl
  | cons entry later induction =>
      obtain ⟨name, transaction⟩ := entry
      rw [endCommits, List.map_cons, ← induction]
      unfold Transaction.settled
      cases transaction.result? <;> rfl

theorem endCommits_reports (transactions : List (String × Transaction)) :
    (endCommits (α := α) transactions).1 =
      transactions.filterMap fun entry =>
        entry.2.result?.map fun result => .committed entry.1 result entry.2.queue.length := by
  induction transactions with
  | nil => rfl
  | cons entry later induction =>
      obtain ⟨name, transaction⟩ := entry
      rw [endCommits]
      cases found : transaction.result? with
      | none =>
          rw [List.filterMap_cons_none (by rw [found]; rfl), ← induction]
      | some result =>
          rw [List.filterMap_cons_some (by rw [found]; rfl), ← induction]

/-- The end of a transaction as the reports of all ends have it. -/
theorem findSome?_ends {transactions : List (String × Transaction)}
    (ordered : Ordered transactions) :
    (transactions.filterMap fun entry => entry.2.result?.map fun result =>
        SessionReport.committed (α := α) entry.1 result entry.2.queue.length).findSome?
          (SessionReport.endOf? name) =
      (transactions.lookup name).bind fun transaction =>
        transaction.result?.map fun result => (result, transaction.queue.length) := by
  induction transactions with
  | nil => rfl
  | cons entry later induction =>
      obtain ⟨other, transaction⟩ := entry
      obtain ⟨above, rest⟩ := List.pairwise_cons.1 ordered
      rw [List.filterMap_cons, Keyed.lookup_cons]
      by_cases same : name = other
      · subst same
        have absent : later.lookup name = none := by
          rw [List.lookup_eq_none_iff]
          intro entry member
          have differs : name ≠ entry.1 := by
            intro equal
            have smaller := above entry member
            rw [← equal] at smaller
            exact String.lt_irrefl name smaller
          simpa using differs
        have none := induction rest
        rw [absent] at none
        cases found : transaction.result? with
        | none => simpa [found] using none
        | some result => simp [found, SessionReport.endOf?]
      · have apart : other ≠ name := Ne.symm same
        rw [if_neg same, ← induction rest]
        cases transaction.result? with
        | none => rfl
        | some result => simp [SessionReport.endOf?, apart]

theorem endOf?_reportOf (event : Event (Callback α)) :
    (reportOf event).bind (SessionReport.endOf? name) = none := by
  cases event <;> rfl

theorem endOf?_fateOf (events : List (Event (Callback α))) (receiver : CloseReceiver α) :
    (fateOf events receiver).bind (SessionReport.endOf? name) = none := by
  unfold fateOf
  induction events with
  | nil => rfl
  | cons event later induction =>
      rw [List.findSome?_cons]
      cases event with
      | closeConfirmed number container =>
          by_cases same : number = receiver.number
          · simp [same, SessionReport.endOf?]
          · simpa [same] using induction
      | closeLost number =>
          by_cases same : number = receiver.number
          · simp [same, SessionReport.endOf?]
          · simpa [same] using induction
      | _ => exact induction

end Reports

section Steps

def newsOf (session : Session α) (action : SessionStep α) : List (Promise × Receipt) :=
  heard (session.perform action).events

theorem lookup_map_snd {β : Type} (change : Transaction → β)
    (transactions : List (String × Transaction)) :
    (transactions.map fun entry => (entry.1, change entry.2)).lookup name =
      (transactions.lookup name).map change := by
  induction transactions with
  | nil => rfl
  | cons entry later induction =>
      obtain ⟨other, transaction⟩ := entry
      rw [List.map_cons, List.lookup_cons, List.lookup_cons, induction]
      cases name == other <;> rfl

theorem step_engine (session : Session α) (action : SessionStep α) :
    (session.step action).1.engine = (session.perform action).session.engine := by
  unfold step report
  rw [foldl_absorb]

theorem step_nextCommit (session : Session α) (action : SessionStep α) :
    (session.step action).1.nextCommit = (session.perform action).session.nextCommit := by
  unfold step report
  rw [foldl_absorb]

theorem step_transactions (session : Session α) (action : SessionStep α) :
    (session.step action).1.transactions =
      (session.perform action).session.transactions.map fun entry =>
        (entry.1, (entry.2.hearAll (session.newsOf action)).settled) := by
  unfold step report
  rw [foldl_absorb]
  simp only
  rw [endCommits_transactions, List.map_map]
  rfl

theorem step_lookup (session : Session α) (action : SessionStep α) :
    (session.step action).1.transactions.lookup name =
      ((session.perform action).session.transactions.lookup name).map fun transaction =>
        (transaction.hearAll (session.newsOf action)).settled := by
  rw [step_transactions, lookup_map_snd fun transaction =>
    (transaction.hearAll (session.newsOf action)).settled]

theorem ordered_map {transactions : List (String × Transaction)}
    (change : Transaction → Transaction) (ordered : Ordered transactions) :
    Ordered (transactions.map fun entry => (entry.1, change entry.2)) :=
  List.pairwise_map.2 ordered

theorem step_ordered {action : SessionStep α} (ordered : Ordered session.transactions) :
    Ordered (session.step action).1.transactions := by
  rw [step_transactions]
  exact ordered_map (fun transaction => (transaction.hearAll (session.newsOf action)).settled)
    (perform_ordered ordered)

/-- A transaction ends with a step if, after hearing the news, its commit has a result. -/
theorem step_endOf? {action : SessionStep α} (ordered : Ordered session.transactions) :
    (session.step action).2.endOf? name =
      ((session.perform action).session.transactions.lookup name).bind fun transaction =>
        (transaction.hearAll (session.newsOf action)).result?.map fun result =>
          (result, (transaction.hearAll (session.newsOf action)).queue.length) := by
  unfold step report SessionAnswer.endOf?
  rw [foldl_absorb]
  simp only
  have inOrder : Ordered (session.perform action).session.transactions := perform_ordered ordered
  have performed := ordered_map (fun transaction => transaction.hearAll (session.newsOf action))
    inOrder
  have plain : ((session.perform action).events.filterMap reportOf).findSome?
      (SessionReport.endOf? name) = none := by
    rw [List.findSome?_eq_none_iff]
    intro report member
    obtain ⟨event, -, shown⟩ := List.mem_filterMap.1 member
    have silent := @endOf?_reportOf _ name event
    rw [shown] at silent
    exact silent
  have closing (receivers : List (CloseReceiver α)) :
      (receivers.filterMap (fateOf (session.perform action).events)).findSome?
        (SessionReport.endOf? name) = none := by
    rw [List.findSome?_eq_none_iff]
    intro report member
    obtain ⟨receiver, -, shown⟩ := List.mem_filterMap.1 member
    have silent := @endOf?_fateOf _ name (session.perform action).events receiver
    rw [shown] at silent
    exact silent
  rw [List.findSome?_append, List.findSome?_append, plain, closing, Option.none_or, Option.or_none,
    endCommits_reports]
  refine (findSome?_ends performed).trans ?_
  rw [lookup_map_snd fun transaction => transaction.hearAll (session.newsOf action)]
  cases (session.perform action).session.transactions.lookup name <;> rfl

def sentBy (answer : SessionAnswer α) : List Int32 := answer.sent.flatMap ClientPacket.requestIds

theorem step_sent (session : Session α) (action : SessionStep α) :
    (session.step action).2.sent = packetsIn (session.perform action).events := by
  have same : @sentPacket? α = Event.packet? := by
    funext event
    cases event <;> rfl
  unfold packetsIn
  rw [← same]
  rfl

theorem step_sentBy (session : Session α) (action : SessionStep α) :
    sentBy (session.step action).2 = sentIds (session.perform action).events := by
  unfold sentBy sentIds
  rw [step_sent]

theorem step_nextId (session : Session α) (action : SessionStep α) :
    (session.step action).1.engine.requests.nextId =
      Compile.idAt session.engine.requests.nextId (session.idsTakenBy action) := by
  rw [step_engine]
  exact (session.perform_moves action).nextId

end Steps

end Session

end InventorySync
