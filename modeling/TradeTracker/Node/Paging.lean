import TradeTracker.Node.Basic

/-! Collecting an account's recent signatures page by page. Failed transactions are skipped but
still move the cursor, which is the last entry of a page whatever became of it. -/
namespace TradeTracker

structure PagingState where
  requests : List PageRequest
  collected : List Signature
  before : Option Signature
deriving DecidableEq, Repr

structure PagingRun where
  requests : List PageRequest
  outcome : Except FetchError (List Signature)
deriving Inhabited

namespace Paging

def maxPage : Nat := 1000

def start : PagingState := ⟨[], [], none⟩

def readSignature (text : String) : Except FetchError Signature :=
  (Signature.read text).mapError (.badSignature text)

/-- The state behind a page. The cursor is read before the entries are. -/
def absorb (state : PagingState) (page : List HistoryEntry) : Except FetchError PagingState := do
  let before ← page.getLast?.mapM fun entry => readSignature entry.signature
  let signatures ← (page.filter fun entry => ! entry.failed).mapM fun entry =>
    readSignature entry.signature
  .ok ⟨state.requests, state.collected ++ signatures, before⟩

/-- How many entries are asked for: those still missing, as far as they fit one page. -/
def pageSize (limit : Nat) (state : PagingState) : Nat :=
  min (limit - state.collected.length) maxPage

def request (account : Address) (limit : Nat) (state : PagingState) : PageRequest :=
  ⟨account, state.before, pageSize limit state⟩

/-- One turn of paging: a page is asked for and absorbed, unless there is enough already. A page
shorter than requested is the last one. -/
def turn (page : Nat → PageRequest → Except NodeError (List HistoryEntry)) (account : Address)
    (limit : Nat) (state : PagingState) : PagingState ⊕ PagingRun :=
  if limit ≤ state.collected.length then .inr ⟨state.requests, .ok (state.collected.take limit)⟩
  else
    let requests := state.requests ++ [request account limit state]
    match page state.requests.length (request account limit state) with
    | .error cause => .inr ⟨requests, .error (.node cause)⟩
    | .ok entries =>
      match absorb { state with requests } entries with
      | .error cause => .inr ⟨requests, .error cause⟩
      | .ok next =>
        if entries.length < pageSize limit state then
          .inr ⟨requests, .ok (next.collected.take limit)⟩
        else .inl next

/-- Paging from the start. It does not end where a node serves nothing but full pages of failed
transactions. -/
def run (page : Nat → PageRequest → Except NodeError (List HistoryEntry)) (account : Address)
    (limit : Nat) : PagingRun :=
  Id.run (repeatM (m := Id) (turn page account limit) start)

end Paging

/-- The limits there is room for: signatures have 64 bytes, and their addresses 63 bits. -/
def Node.roomForSignatures : Nat := 144115188075855872

/-- The most recent signatures of an account that did not fail, newest first, at most `limit`. -/
def Node.recentSignatures (node : Node) (account : Address) (limit : Nat) :
    Except FetchError (List Signature) :=
  if limit < Node.roomForSignatures then (Paging.run node.page account limit).outcome
  else .error .tooMany

end TradeTracker
