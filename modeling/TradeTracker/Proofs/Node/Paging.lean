import Mathlib
import TradeTracker.Node.Paging
import TradeTracker.Proofs.Base58
import TradeTracker.Proofs.Outcome

/-! Paging through a history that grows at its front meanwhile. Between two requests the cursor
splits the history into entries that were on a page and entries that are left; whatever comes in
front of it moves no entry from one part to the other. -/
namespace TradeTracker

namespace HistoryEntry

def Valid (entry : HistoryEntry) : Prop :=
  ∃ signature, Signature.read entry.signature = .ok signature

def successes (entries : List HistoryEntry) : List String :=
  (entries.filter fun entry => ! entry.failed).map (·.signature)

theorem successes_append (entries entries' : List HistoryEntry) :
    successes (entries ++ entries') = successes entries ++ successes entries' := by
  rw [successes, List.filter_append, List.map_append]
  rfl

theorem nodup_successes {entries : List HistoryEntry} (h : (entries.map (·.signature)).Nodup) :
    (successes entries).Nodup :=
  h.sublist (List.filter_sublist.map _)

end HistoryEntry

/-- The entries strictly older than a cursor, which are those behind its last occurrence; without a
cursor all of them. -/
def olderThan (history : List HistoryEntry) : Option Signature → List HistoryEntry
  | none => history
  | some cursor => history.rtakeWhile fun entry => entry.signature ≠ cursor.text

/-- A history that is split at its cursor goes on with its second part, whatever has come in front
of it. -/
private theorem olderThan_append {seen rest : List HistoryEntry} {cursor : Signature}
    (front : List HistoryEntry) (hdistinct : ((seen ++ rest).map (·.signature)).Nodup)
    (hcursor : seen.getLast?.map (·.signature) = some cursor.text) :
    olderThan (front ++ (seen ++ rest)) (some cursor) = rest := by
  obtain ⟨entry, hentry, hsignature⟩ := Option.map_eq_some_iff.1 hcursor
  obtain ⟨before, rfl⟩ := List.getLast?_eq_some_iff.1 hentry
  have hrest : ∀ other ∈ rest.reverse, other.signature ≠ cursor.text := by
    intro other hother heq
    rw [List.map_append, List.nodup_append] at hdistinct
    refine hdistinct.2.2 entry.signature ?_ other.signature ?_ (hsignature.trans heq.symm)
    · exact List.mem_map_of_mem (List.mem_append_right _ (List.mem_singleton_self entry))
    · exact List.mem_map_of_mem (List.mem_reverse.1 hother)
  have hreverse : (front ++ (before ++ [entry] ++ rest)).reverse =
      rest.reverse ++ entry :: (before.reverse ++ front.reverse) := by simp
  rw [olderThan, List.rtakeWhile, hreverse, List.takeWhile_append_of_pos (by simpa using hrest),
    List.takeWhile_cons_of_neg (by simpa using hsignature), List.append_nil, List.reverse_reverse]

namespace Paging
variable {page : Nat → PageRequest → Except NodeError (List HistoryEntry)} {account : Address}
  {limit : Nat} {state next : PagingState} {run : PagingRun} {entries : List HistoryEntry}

private theorem exists_readSignature {entry : HistoryEntry} (h : entry.Valid) :
    ∃ signature, readSignature entry.signature = .ok signature ∧
      signature.text = entry.signature := by
  obtain ⟨signature, hsignature⟩ := h
  refine ⟨signature, ?_, Signature.text_of_read hsignature⟩
  rw [readSignature, hsignature]
  rfl

private theorem exists_mapM_readSignature (entries : List HistoryEntry)
    (hvalid : ∀ entry ∈ entries, entry.Valid) :
    ∃ signatures, (entries.mapM fun entry => readSignature entry.signature) = .ok signatures ∧
      signatures.map Signature.text = entries.map (·.signature) := by
  induction entries with
  | nil => exact ⟨[], rfl, rfl⟩
  | cons entry entries ih =>
    obtain ⟨signature, hsignature, htext⟩ := exists_readSignature (hvalid entry List.mem_cons_self)
    obtain ⟨signatures, hsignatures, htexts⟩ :=
      ih fun other hother => hvalid other (List.mem_cons_of_mem entry hother)
    refine ⟨signature :: signatures, ?_, ?_⟩
    · rw [List.mapM_cons, hsignature, hsignatures]
      rfl
    · rw [List.map_cons, List.map_cons, htext, htexts]

/-- What has to be read of a page can be: the signatures of its last entry and of its successes. -/
structure Readable (entries : List HistoryEntry) : Prop where
  last : ∀ entry ∈ entries.getLast?, entry.Valid
  success : ∀ entry ∈ entries, entry.failed = false → entry.Valid

private theorem readable_of_valid (h : ∀ entry ∈ entries, entry.Valid) : Readable entries where
  last entry hentry := h entry (List.mem_of_getLast? hentry)
  success entry hentry _ := h entry hentry

/-- A readable page adds its successes and moves the cursor to its last entry. -/
theorem exists_absorb (state : PagingState) (entries : List HistoryEntry)
    (hreadable : Readable entries) :
    ∃ next, absorb state entries = .ok next ∧ next.requests = state.requests ∧
      next.collected.map Signature.text =
        state.collected.map Signature.text ++ HistoryEntry.successes entries ∧
      next.before.map Signature.text = entries.getLast?.map (·.signature) := by
  obtain ⟨before, hbefore, hcursor⟩ : ∃ before,
      (entries.getLast?.mapM fun entry => readSignature entry.signature) = .ok before ∧
        before.map Signature.text = entries.getLast?.map (·.signature) := by
    cases hlast : entries.getLast? with
    | none => exact ⟨none, rfl, rfl⟩
    | some entry =>
      obtain ⟨signature, hsignature, htext⟩ := exists_readSignature (hreadable.last entry hlast)
      refine ⟨some signature, ?_, congrArg some htext⟩
      rw [Option.mapM_some, hsignature]
      rfl
  obtain ⟨signatures, hsignatures, htexts⟩ :=
    exists_mapM_readSignature (entries.filter fun entry => ! entry.failed) fun entry hentry =>
      hreadable.success entry (List.mem_of_mem_filter hentry)
        (by simpa using List.of_mem_filter hentry)
  refine ⟨⟨state.requests, state.collected ++ signatures, before⟩, ?_, rfl, ?_, hcursor⟩
  · rw [absorb, hbefore, hsignatures]
    rfl
  · rw [List.map_append, htexts]
    rfl

theorem pageSize_pos (h : state.collected.length < limit) : 0 < pageSize limit state := by
  have hroom := Nat.sub_pos_of_lt h
  exact Nat.lt_min.2 ⟨hroom, by decide⟩

inductive Ends (page : Nat → PageRequest → Except NodeError (List HistoryEntry))
    (account : Address) (limit : Nat) : PagingState → PagingRun → Prop
  | last {state : PagingState} {run : PagingRun}
      (h : turn page account limit state = .inr run) : Ends page account limit state run
  | more {state next : PagingState} {run : PagingRun}
      (h : turn page account limit state = .inl next)
      (hrest : Ends page account limit next run) : Ends page account limit state run

private theorem Ends.repeatM_eq (h : Ends page account limit state run) :
    repeatM (m := Id) (turn page account limit) state = run := by
  induction h with
  | last h =>
    rw [repeatM_eq_of_monadTail, repeatM.body, h]
    rfl
  | more h _ ih =>
    rw [repeatM_eq_of_monadTail, repeatM.body, h]
    exact ih

private theorem Ends.run_eq (h : Ends page account limit start run) :
    Paging.run page account limit = run :=
  h.repeatM_eq

theorem turn_of_le (h : limit ≤ state.collected.length) :
    turn page account limit state = .inr ⟨state.requests, .ok (state.collected.take limit)⟩ := by
  rw [turn, if_pos h]

/-- One page is absorbed, and a short one is the last. -/
theorem turn_of_lt (h : state.collected.length < limit)
    (hpage : page state.requests.length (request account limit state) = .ok entries)
    (hnext : absorb { state with requests := state.requests ++ [request account limit state] }
      entries = .ok next) :
    turn page account limit state =
      if entries.length < pageSize limit state then
        .inr ⟨state.requests ++ [request account limit state], .ok (next.collected.take limit)⟩
      else .inl next := by
  rw [turn, if_neg (Nat.not_le.2 h)]
  dsimp only
  rw [hpage]
  dsimp only
  rw [hnext]

/-- The pages that a node makes of an account's history: it answers each request with the first
`limit` entries strictly older than the cursor. By the first request the history is `history`, and
by a later one any entries may have come in front of it. -/
def Serves (page : Nat → PageRequest → Except NodeError (List HistoryEntry)) (account : Address)
    (history : List HistoryEntry) : Prop :=
  ∃ newer : Nat → List HistoryEntry, newer 0 = [] ∧
    ∀ number before limit, page number ⟨account, before, limit⟩ =
      .ok ((olderThan (newer number ++ history) before).take limit)

/-- Where paging stands: the successes of `seen` are collected, and the next page starts with
`rest`. -/
structure Standing (page : Nat → PageRequest → Except NodeError (List HistoryEntry))
    (account : Address) (state : PagingState) (seen rest : List HistoryEntry) : Prop where
  collected_eq : state.collected.map Signature.text = HistoryEntry.successes seen
  page_eq : ∀ limit,
    page state.requests.length ⟨account, state.before, limit⟩ = .ok (rest.take limit)

variable {history seen rest : List HistoryEntry}

private theorem standing_start (h : Serves page account history) :
    Standing page account start [] history := by
  obtain ⟨newer, hnewer, hpage⟩ := h
  refine ⟨rfl, fun limit => ?_⟩
  rw [hpage, start, List.length_nil, hnewer]
  rfl

/-- What is absorbed has been seen, and the page after it starts where it ended. -/
private theorem Standing.of_page (hserves : Serves page account (seen ++ (entries ++ rest)))
    (hdistinct : ((seen ++ (entries ++ rest)).map (·.signature)).Nodup) (hne : entries ≠ [])
    (hcollected : state.collected.map Signature.text = HistoryEntry.successes seen)
    (hsuccesses : next.collected.map Signature.text =
      state.collected.map Signature.text ++ HistoryEntry.successes entries)
    (hcursor : next.before.map Signature.text = entries.getLast?.map (·.signature)) :
    Standing page account next (seen ++ entries) rest := by
  refine ⟨by rw [hsuccesses, hcollected, HistoryEntry.successes_append], fun limit => ?_⟩
  obtain ⟨newer, -, hpage⟩ := hserves
  have hlast := List.getLast?_append_of_ne_nil seen hne
  have hlast' := List.getLast?_eq_some_getLast hne
  rw [hlast'] at hcursor
  obtain ⟨cursor, hbefore, htext⟩ := Option.map_eq_some_iff.1 hcursor
  rw [← List.append_assoc] at hdistinct
  rw [hpage, hbefore, ← List.append_assoc seen, olderThan_append _ hdistinct]
  rw [hlast, hlast', Option.map_some, htext]

/-- From where paging stands it ends, after at most one request more than there are entries left,
with the first successes of the whole history. A page that is not the last takes at least one entry
off what is left. -/
private theorem Standing.exists_ends (h : Standing page account state seen rest)
    (hserves : Serves page account (seen ++ rest)) (hvalid : ∀ entry ∈ rest, entry.Valid)
    (hdistinct : ((seen ++ rest).map (·.signature)).Nodup) :
    ∃ run signatures, Ends page account limit state run ∧ run.outcome = .ok signatures ∧
      run.requests.length ≤ state.requests.length + (rest.length + 1) ∧
      signatures.map Signature.text = (HistoryEntry.successes (seen ++ rest)).take limit := by
  induction hlength : rest.length using Nat.strong_induction_on generalizing state seen rest with
  | _ length ih =>
    by_cases hlimit : limit ≤ state.collected.length
    · refine ⟨_, _, .last (turn_of_le hlimit), rfl, Nat.le_add_right _ _, ?_⟩
      rw [List.map_take, HistoryEntry.successes_append, ← h.collected_eq,
        List.take_append_of_le_length]
      rwa [List.length_map]
    have hlimit := Nat.not_le.1 hlimit
    have hsize := pageSize_pos hlimit
    obtain ⟨next, hnext, hrequests, hsuccesses, hcursor⟩ :=
      exists_absorb { state with requests := state.requests ++ [request account limit state] }
        (rest.take (pageSize limit state))
        (readable_of_valid fun entry hentry => hvalid entry (List.mem_of_mem_take hentry))
    have hturn := turn_of_lt hlimit (h.page_eq _) hnext
    have hcount := congrArg List.length hrequests
    rw [List.length_append, List.length_singleton] at hcount
    generalize pageSize limit state = n at hsize hsuccesses hcursor hturn
    by_cases hshort : (rest.take n).length < n
    · have hall : rest.take n = rest := by
        rw [List.length_take] at hshort
        exact List.take_of_length_le (by omega)
      rw [if_pos hshort] at hturn
      refine ⟨_, _, .last hturn, rfl, ?_, ?_⟩
      · rw [List.length_append, List.length_singleton]
        omega
      · rw [List.map_take, hsuccesses, h.collected_eq, hall, HistoryEntry.successes_append]
    · have hfull : (rest.take n).length = n :=
        Nat.le_antisymm (List.length_take_le n rest) (Nat.not_lt.1 hshort)
      have hne : rest.take n ≠ [] := List.ne_nil_of_length_pos (hsize.trans_eq hfull.symm)
      have hsplit : seen ++ (rest.take n ++ rest.drop n) = seen ++ rest := by
        rw [List.take_append_drop]
      have hsplit' : seen ++ rest.take n ++ rest.drop n = seen ++ rest := by
        rw [List.append_assoc, hsplit]
      rw [if_neg hshort] at hturn
      have hstanding : Standing page account next (seen ++ rest.take n) (rest.drop n) :=
        Standing.of_page (hsplit ▸ hserves) (hsplit ▸ hdistinct) hne h.collected_eq hsuccesses
          hcursor
      have hleft : (rest.drop n).length < length := by
        have := List.length_take_le' n rest
        rw [List.length_drop]
        omega
      obtain ⟨run, signatures, hends, houtcome, hrun, htexts⟩ :=
        ih _ hleft hstanding (hsplit' ▸ hserves)
          (fun entry hentry => hvalid entry (List.mem_of_mem_drop hentry)) (hsplit' ▸ hdistinct) rfl
      refine ⟨run, signatures, .more hturn hends, houtcome, ?_, ?_⟩
      · omega
      · rw [htexts, hsplit']

/-- Paging through a served history ends, after at most one request more than it has entries. -/
theorem Serves.exists_ends (h : Serves page account history) (limit : Nat)
    (hvalid : ∀ entry ∈ history, entry.Valid) (hdistinct : (history.map (·.signature)).Nodup) :
    ∃ run signatures, Ends page account limit start run ∧ run.outcome = .ok signatures ∧
      run.requests.length ≤ history.length + 1 ∧
      signatures.map Signature.text = (HistoryEntry.successes history).take limit := by
  obtain ⟨run, signatures, hends, houtcome, hrequests, htexts⟩ :=
    (standing_start h).exists_ends h hvalid hdistinct
  refine ⟨run, signatures, hends, houtcome, ?_, htexts⟩
  rwa [start, List.length_nil, Nat.zero_add] at hrequests

end Paging

section Room
variable {node : Node} {account : Address} {limit : Nat}

theorem Node.recentSignatures_of_lt {run : PagingRun} (h : limit < Node.roomForSignatures)
    (hends : Paging.Ends node.page account limit Paging.start run) :
    node.recentSignatures account limit = run.outcome := by
  rw [recentSignatures, if_pos h, hends.run_eq]

theorem Node.recentSignatures_of_le (h : Node.roomForSignatures ≤ limit) :
    node.recentSignatures account limit = .error .tooMany := by
  rw [recentSignatures, if_neg (Nat.not_lt.2 h)]

end Room

/-- Paging ends, after at most one request more than the history has entries, and finds the most
recent successes of the history as it was when the first page was served, each once and in order. A
limit that there is no room for is refused before anything is asked. -/
theorem Node.recentSignatures_of_serves {node : Node} {account : Address} {limit : Nat}
    {history : List HistoryEntry} (hvalid : ∀ entry ∈ history, entry.Valid)
    (hdistinct : (history.map (·.signature)).Nodup)
    (hserves : Paging.Serves node.page account history) :
    (limit < Node.roomForSignatures →
      ∃ run signatures, Paging.Ends node.page account limit Paging.start run ∧
        run.requests.length ≤ history.length + 1 ∧
        node.recentSignatures account limit = .ok signatures ∧
        signatures.map Signature.text = (HistoryEntry.successes history).take limit) ∧
    (Node.roomForSignatures ≤ limit → node.recentSignatures account limit = .error .tooMany) := by
  refine ⟨fun hroom => ?_, recentSignatures_of_le⟩
  obtain ⟨run, signatures, hends, houtcome, hrequests, htexts⟩ :=
    hserves.exists_ends limit hvalid hdistinct
  exact ⟨run, signatures, hends, hrequests, (recentSignatures_of_lt hroom hends).trans houtcome,
    htexts⟩

def Node.growing (newer : Nat → List HistoryEntry) (history : List HistoryEntry) : Node :=
  { Node.unreachable with
    page := fun number request =>
      .ok ((olderThan (newer number ++ history) request.before).take request.limit) }

theorem Paging.serves_growing {newer : Nat → List HistoryEntry} {history : List HistoryEntry}
    (account : Address) (h : newer 0 = []) :
    Serves (Node.growing newer history).page account history :=
  ⟨newer, h, fun _ _ _ => rfl⟩

namespace Node

def filledEntry (b : UInt8) (failed : Bool) : HistoryEntry := ⟨(Signature.filled b).text, failed⟩

theorem valid_filledEntry (b : UInt8) (failed : Bool) : (filledEntry b failed).Valid :=
  ⟨.filled b, Signature.read_text _⟩

/-- The first page ends with a failed entry, and two entries have come in by the next request. -/
theorem recentSignatures_of_serves_growing :
    let history :=
      [filledEntry 4 false, filledEntry 3 true, filledEntry 2 false, filledEntry 1 false]
    let newer := fun number => if number = 0 then [] else [filledEntry 6 false, filledEntry 5 true]
    ∃ run signatures, Paging.Ends (growing newer history).page default 2 Paging.start run ∧
      run.requests.length ≤ 5 ∧
      (growing newer history).recentSignatures default 2 = .ok signatures ∧
      signatures.map Signature.text = [(Signature.filled 4).text, (Signature.filled 2).text] := by
  intro history newer
  have hvalid : ∀ entry ∈ history, entry.Valid := by simp [history, valid_filledEntry]
  have hdistinct : (history.map (·.signature)).Nodup := by decide +kernel
  have hserves : Paging.Serves (growing newer history).page default history :=
    Paging.serves_growing default rfl
  exact (recentSignatures_of_serves hvalid hdistinct hserves).1 (by decide)

/-- A node with nothing to report is asked for more signatures than there is room for. -/
theorem recentSignatures_without_room :
    Paging.Serves (growing (fun _ => []) []).page default [] ∧
      (growing (fun _ => []) []).recentSignatures default 144115188075855872 = .error .tooMany :=
  ⟨Paging.serves_growing _ rfl, by decide⟩

end Node
end TradeTracker
