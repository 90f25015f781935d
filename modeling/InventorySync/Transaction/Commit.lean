import InventorySync.Error
import InventorySync.Packet.Basic

/-!
A commit waits for the answers to its requests in the order in which it sent
them.
-/

namespace InventorySync

set_option autoImplicit false

/-- What is known of the answer to one request. -/
inductive Receipt where
  | awaited
  | answered (response : StackResponse)
  /-- The request was given up, or its id was taken by another. -/
  | dropped
  deriving DecidableEq, Repr, Inhabited

structure CommitOutcome where
  /-- Every request was accepted. -/
  success : Bool
  /-- The requests that were sent, unless nothing was queued. -/
  requests : Option (List StackRequest)
  /-- One answer for each request, in the order of the requests. -/
  responses : List StackResponse
  deriving DecidableEq, Repr, Inhabited

namespace CommitOutcome

def nothing : CommitOutcome := ⟨true, none, []⟩

end CommitOutcome

structure Commit where
  requests : List StackRequest
  receipts : List Receipt
  deriving DecidableEq, Repr, Inhabited

namespace Commit

def ofRequests (requests : List StackRequest) : Commit :=
  ⟨requests, requests.map fun _ => .awaited⟩

def record (commit : Commit) (position : Nat) (receipt : Receipt) : Commit :=
  { commit with receipts := commit.receipts.set position receipt }

/-- The answers, once all have arrived. A request that was given up ends the wait
as soon as everything before it is answered. -/
def collect? : List (StackRequest × Receipt) → Option (Except SyncError (List StackResponse))
  | [] => some (.ok [])
  | (_, .awaited) :: _ => none
  | (request, .dropped) :: _ => some (.error (.completionDropped request.id))
  | (_, .answered response) :: later =>
      (collect? later).map fun result => result.map fun responses => response :: responses

def outcome? (commit : Commit) : Option (Except SyncError CommitOutcome) :=
  (collect? (commit.requests.zip commit.receipts)).map fun result =>
    result.map fun responses =>
      ⟨responses.all StackResponse.isAccepted, some commit.requests, responses⟩

end Commit

end InventorySync
