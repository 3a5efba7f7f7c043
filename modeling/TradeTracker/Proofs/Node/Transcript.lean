import TradeTracker.Proofs.Node.Paging

/-! Paging through whatever a node serves. A page may be longer than requested, repeat an earlier
one or have nothing to do with the cursor. Each request still follows from the pages before it, and
the answer from all pages together. -/
namespace TradeTracker
namespace Paging

structure Exchange where
  request : PageRequest
  entries : List HistoryEntry

def Exchange.ofPage (account : Address) (limit : Nat) (state : PagingState)
    (entries : List HistoryEntry) : Exchange :=
  ⟨Paging.request account limit state, entries⟩

def found (exchanges : List Exchange) : List String :=
  HistoryEntry.successes (exchanges.flatMap (·.entries))

/-- The signature of the last entry of the last page, whatever became of it. -/
def cursor (exchanges : List Exchange) : Option String :=
  exchanges.getLast?.bind fun exchange => exchange.entries.getLast?.map (·.signature)

structure Exchange.GoesOn (exchange : Exchange) : Prop where
  full : exchange.request.limit ≤ exchange.entries.length
  readable : Readable exchange.entries

section Transcript
variable (page : Nat → PageRequest → Except NodeError (List HistoryEntry)) (account : Address)
  (limit : Nat)

structure Follows (earlier : List Exchange) (exchange : Exchange) : Prop where
  served : page earlier.length exchange.request = .ok exchange.entries
  account_eq : exchange.request.account = account
  before_eq : exchange.request.before.map Signature.text = cursor earlier
  missing : (found earlier).length < limit
  limit_eq : exchange.request.limit = min (limit - (found earlier).length) maxPage
  limit_pos : 1 ≤ exchange.request.limit
  goesOn : ∀ last ∈ earlier.getLast?, last.GoesOn

def Transcript (exchanges : List Exchange) : Prop :=
  ∀ k exchange, exchanges[k]? = some exchange →
    Follows page account limit (exchanges.take k) exchange

/-- A run of paging made the requests of a transcript, stopped for a reason, and answered with what
the pages hold. -/
structure Explains (exchanges : List Exchange) (run : PagingRun) : Prop where
  transcript : Transcript page account limit exchanges
  requests_eq : run.requests = exchanges.map (·.request)
  stops : limit ≤ (found exchanges).length ∨ ∃ last ∈ exchanges.getLast?, ¬ last.GoesOn
  refused_iff : (∃ text cause, run.outcome = .error (.badSignature text cause)) ↔
    ∃ exchange ∈ exchanges, ¬ Readable exchange.entries
  answered : (∀ exchange ∈ exchanges, Readable exchange.entries) →
    ∃ signatures, run.outcome = .ok signatures ∧
      signatures.map Signature.text = (found exchanges).take limit

/-- Where paging stands behind pages that it goes on after. -/
structure Reached (state : PagingState) (exchanges : List Exchange) : Prop where
  transcript : Transcript page account limit exchanges
  requests_eq : state.requests = exchanges.map (·.request)
  collected_eq : state.collected.map Signature.text = found exchanges
  before_eq : state.before.map Signature.text = cursor exchanges
  goesOn : ∀ exchange ∈ exchanges, exchange.GoesOn

end Transcript

section Absorbing
variable {state next : PagingState} {entries : List HistoryEntry} {entry : HistoryEntry}

private theorem valid_of_readSignature {signature : Signature}
    (h : readSignature entry.signature = .ok signature) : entry.Valid :=
  ⟨signature, Outcome.mapError_eq_ok.1 h⟩

private theorem readable_of_absorb (h : absorb state entries = .ok next) : Readable entries := by
  obtain ⟨before, hbefore, h⟩ := Outcome.bind_eq_ok.1 h
  obtain ⟨signatures, hsignatures, -⟩ := Outcome.bind_eq_ok.1 h
  constructor
  · intro entry hentry
    rw [Option.mem_def.1 hentry, Option.mapM_some] at hbefore
    obtain ⟨signature, hsignature, -⟩ := Outcome.bind_eq_ok.1 hbefore
    exact valid_of_readSignature hsignature
  · intro entry hentry hfailed
    have hmem : entry ∈ entries.filter fun entry => ! entry.failed := by
      simp [hentry, hfailed]
    obtain ⟨signature, hsignature⟩ := Outcome.exists_result_of_mem hsignatures hmem
    exact valid_of_readSignature hsignature

private theorem badSignature_of_readSignature {text : String} {e : FetchError}
    (h : readSignature text = .error e) : ∃ cause, e = .badSignature text cause := by
  obtain ⟨cause, -, rfl⟩ := Outcome.mapError_eq_error.1 h
  exact ⟨cause, rfl⟩

private theorem exists_absorb_error (state : PagingState) (h : ¬ Readable entries) :
    ∃ text cause, absorb state entries = .error (.badSignature text cause) := by
  cases habsorb : absorb state entries with
  | ok next => exact absurd (readable_of_absorb habsorb) h
  | error e =>
    rcases Outcome.bind_eq_error.1 habsorb with hlast | ⟨before, -, hrest⟩
    · cases hentry : entries.getLast? with
      | none =>
        rw [hentry] at hlast
        cases hlast
      | some entry =>
        rw [hentry, Option.mapM_some] at hlast
        rcases Outcome.bind_eq_error.1 hlast with herror | ⟨signature, -, hnone⟩
        · obtain ⟨cause, rfl⟩ := badSignature_of_readSignature herror
          exact ⟨_, cause, rfl⟩
        · cases hnone
    · rcases Outcome.bind_eq_error.1 hrest with herrors | ⟨signatures, -, hnone⟩
      · obtain ⟨entry, -, herror⟩ := Outcome.exists_of_mapM_eq_error herrors
        obtain ⟨cause, rfl⟩ := badSignature_of_readSignature herror
        exact ⟨_, cause, rfl⟩
      · cases hnone

end Absorbing

section Run
variable {page : Nat → PageRequest → Except NodeError (List HistoryEntry)} {account : Address}
  {limit : Nat} {state : PagingState} {run : PagingRun} {exchanges : List Exchange}
  {exchange : Exchange}

private theorem found_append (exchanges : List Exchange) (exchange : Exchange) :
    found (exchanges ++ [exchange]) =
      found exchanges ++ HistoryEntry.successes exchange.entries := by
  rw [found, List.flatMap_append, HistoryEntry.successes_append]
  simp [found]

private theorem cursor_append (exchanges : List Exchange) (exchange : Exchange) :
    cursor (exchanges ++ [exchange]) = exchange.entries.getLast?.map (·.signature) := by
  simp [cursor]

private theorem turn_of_error {entries : List HistoryEntry} {cause : FetchError}
    (h : state.collected.length < limit)
    (hpage : page state.requests.length (request account limit state) = .ok entries)
    (hrefused : absorb { state with requests := state.requests ++ [request account limit state] }
      entries = .error cause) :
    turn page account limit state =
      .inr ⟨state.requests ++ [request account limit state], .error cause⟩ := by
  rw [turn, if_neg (Nat.not_le.2 h)]
  dsimp only
  rw [hpage]
  dsimp only
  rw [hrefused]

private theorem Transcript.append (h : Transcript page account limit exchanges)
    (hfollows : Follows page account limit exchanges exchange) :
    Transcript page account limit (exchanges ++ [exchange]) := by
  intro k other hother
  rcases lt_trichotomy k exchanges.length with hlt | heq | hgt
  · rw [List.getElem?_append_left hlt] at hother
    rw [List.take_append_of_le_length hlt.le]
    exact h k other hother
  · subst heq
    rw [List.getElem?_concat_length] at hother
    obtain rfl := Option.some.inj hother
    rw [List.take_left']
    · exact hfollows
    · rfl
  · have hnone : (exchanges ++ [exchange])[k]? = none := by
      rw [List.getElem?_eq_none_iff, List.length_append, List.length_singleton]
      omega
    rw [hnone] at hother
    cases hother

private theorem reached_start (page : Nat → PageRequest → Except NodeError (List HistoryEntry))
    (account : Address) (limit : Nat) : Reached page account limit start [] where
  transcript k exchange h := by cases h
  requests_eq := rfl
  collected_eq := rfl
  before_eq := rfl
  goesOn := List.forall_mem_nil _

namespace Reached
variable (h : Reached page account limit state exchanges)
include h

private theorem length_collected : state.collected.length = (found exchanges).length := by
  rw [← h.collected_eq, List.length_map]

private theorem length_requests : state.requests.length = exchanges.length := by
  rw [h.requests_eq, List.length_map]

private theorem follows {entries : List HistoryEntry} (hlimit : state.collected.length < limit)
    (hpage : page state.requests.length (request account limit state) = .ok entries) :
    Follows page account limit exchanges (.ofPage account limit state entries) where
  served := h.length_requests ▸ hpage
  account_eq := rfl
  before_eq := h.before_eq
  missing := h.length_collected ▸ hlimit
  limit_eq := h.length_collected ▸ rfl
  limit_pos := pageSize_pos hlimit
  goesOn last hlast := h.goesOn last (List.mem_of_getLast? hlast)

private theorem explains_of_le (hlimit : limit ≤ state.collected.length) :
    Explains page account limit exchanges ⟨state.requests, .ok (state.collected.take limit)⟩ where
  transcript := h.transcript
  requests_eq := h.requests_eq
  stops := .inl (h.length_collected ▸ hlimit)
  refused_iff := by
    constructor
    · rintro ⟨text, cause, hrefused⟩
      cases hrefused
    · rintro ⟨exchange, hexchange, hunreadable⟩
      exact absurd (h.goesOn exchange hexchange).readable hunreadable
  answered _ := ⟨_, rfl, by rw [List.map_take, h.collected_eq]⟩

section Page
variable {entries : List HistoryEntry} (hlimit : state.collected.length < limit)
  (hpage : page state.requests.length (request account limit state) = .ok entries)
include hlimit hpage

private theorem transcript_append :
    Transcript page account limit (exchanges ++ [.ofPage account limit state entries]) :=
  h.transcript.append (h.follows hlimit hpage)

omit hlimit hpage in
private theorem requests_append (entries : List HistoryEntry) :
    state.requests ++ [request account limit state] =
      (exchanges ++ [Exchange.ofPage account limit state entries]).map (·.request) := by
  rw [List.map_append, h.requests_eq]
  rfl

private theorem explains_of_not_readable (hunreadable : ¬ Readable entries) (text : String)
    (cause : SignatureError) :
    Explains page account limit (exchanges ++ [.ofPage account limit state entries])
      ⟨state.requests ++ [request account limit state], .error (.badSignature text cause)⟩ where
  transcript := h.transcript_append hlimit hpage
  requests_eq := h.requests_append entries
  stops := by
    refine .inr ⟨_, List.getLast?_concat, fun hgoesOn => ?_⟩
    exact hunreadable hgoesOn.readable
  refused_iff := by
    exact iff_of_true ⟨text, cause, rfl⟩
      ⟨.ofPage account limit state entries, List.mem_concat_self, hunreadable⟩
  answered hreadable := by
    exact absurd (hreadable (.ofPage account limit state entries) List.mem_concat_self) hunreadable

variable {next : PagingState} (hreadable : Readable entries)
  (hcollected : next.collected.map Signature.text =
    state.collected.map Signature.text ++ HistoryEntry.successes entries)
include hreadable hcollected

omit hlimit hpage hreadable in
private theorem found_eq_collected :
    next.collected.map Signature.text =
      found (exchanges ++ [.ofPage account limit state entries]) := by
  rw [hcollected, h.collected_eq, found_append]
  rfl

private theorem explains_of_short (hshort : entries.length < pageSize limit state) :
    Explains page account limit (exchanges ++ [.ofPage account limit state entries])
      ⟨state.requests ++ [request account limit state], .ok (next.collected.take limit)⟩ where
  transcript := h.transcript_append hlimit hpage
  requests_eq := h.requests_append entries
  stops := by
    refine .inr ⟨_, List.getLast?_concat, fun hgoesOn => ?_⟩
    exact absurd hshort (Nat.not_lt.2 hgoesOn.full)
  refused_iff := by
    constructor
    · rintro ⟨text, cause, hrefused⟩
      cases hrefused
    · rintro ⟨exchange, hexchange, hunreadable⟩
      rcases List.mem_append.1 hexchange with hbefore | hlast
      · exact absurd (h.goesOn exchange hbefore).readable hunreadable
      · obtain rfl := List.mem_singleton.1 hlast
        exact absurd hreadable hunreadable
  answered _ := ⟨_, rfl, by rw [List.map_take, h.found_eq_collected hcollected]⟩

private theorem append (hfull : ¬ entries.length < pageSize limit state)
    (hrequests : next.requests = state.requests ++ [request account limit state])
    (hbefore : next.before.map Signature.text = entries.getLast?.map (·.signature)) :
    Reached page account limit next (exchanges ++ [.ofPage account limit state entries]) where
  transcript := h.transcript_append hlimit hpage
  requests_eq := hrequests.trans (h.requests_append entries)
  collected_eq := h.found_eq_collected hcollected
  before_eq := by
    rw [hbefore, cursor_append]
    rfl
  goesOn := by
    intro exchange hexchange
    rcases List.mem_append.1 hexchange with hbefore | hlast
    · exact h.goesOn exchange hbefore
    · obtain rfl := List.mem_singleton.1 hlast
      exact ⟨Nat.not_lt.1 hfull, hreadable⟩

end Page

/-- One turn either ends the run as its pages call for, or has paging stand behind one page more. -/
private theorem turn_cases
    (hserves : ∀ number request, ∃ entries, page number request = .ok entries) :
    (∃ run exchanges, turn page account limit state = .inr run ∧
        Explains page account limit exchanges run) ∨
      ∃ next exchanges, turn page account limit state = .inl next ∧
        Reached page account limit next exchanges := by
  by_cases hlimit : limit ≤ state.collected.length
  · exact .inl ⟨_, exchanges, turn_of_le hlimit, h.explains_of_le hlimit⟩
  have hlimit := Nat.not_le.1 hlimit
  obtain ⟨entries, hpage⟩ := hserves state.requests.length (request account limit state)
  by_cases hreadable : Readable entries
  · obtain ⟨next, hnext, hrequests, hcollected, hbefore⟩ :=
      exists_absorb { state with requests := state.requests ++ [request account limit state] }
        entries hreadable
    have hturn := turn_of_lt hlimit hpage hnext
    by_cases hshort : entries.length < pageSize limit state
    · rw [if_pos hshort] at hturn
      exact .inl ⟨_, _, hturn, h.explains_of_short hlimit hpage hreadable hcollected hshort⟩
    · rw [if_neg hshort] at hturn
      exact .inr ⟨_, _, hturn,
        h.append hlimit hpage hreadable hcollected hshort hrequests hbefore⟩
  · obtain ⟨text, cause, hrefused⟩ := exists_absorb_error
      { state with requests := state.requests ++ [request account limit state] } hreadable
    exact .inl ⟨_, _, turn_of_error hlimit hpage hrefused,
      h.explains_of_not_readable hlimit hpage hreadable text cause⟩

end Reached

private theorem Ends.exists_explains (hends : Ends page account limit state run)
    (h : Reached page account limit state exchanges)
    (hserves : ∀ number request, ∃ entries, page number request = .ok entries) :
    ∃ exchanges, Explains page account limit exchanges run := by
  induction hends generalizing exchanges with
  | last hturn =>
    rcases h.turn_cases hserves with ⟨run, explaining, hrun, hexplains⟩ | ⟨next, _, hnext, -⟩
    · obtain rfl := Sum.inr.inj (hturn.symm.trans hrun)
      exact ⟨explaining, hexplains⟩
    · cases hturn.symm.trans hnext
  | more hturn _ ih =>
    rcases h.turn_cases hserves with ⟨run, _, hrun, -⟩ | ⟨next, reached, hnext, hreached⟩
    · cases hturn.symm.trans hrun
    · obtain rfl := Sum.inl.inj (hturn.symm.trans hnext)
      exact ih hreached

end Run
end Paging

/-- Wherever paging ends, whatever the node served: each request was made as the pages before it
call for, and the answer is what all pages call for. A limit that there is no room for is refused
before anything is asked. -/
theorem Node.recentSignatures_of_ends {node : Node} {account : Address} {limit : Nat}
    {run : PagingRun}
    (hserves : ∀ number request, ∃ entries, node.page number request = .ok entries)
    (hends : Paging.Ends node.page account limit Paging.start run) :
    (limit < Node.roomForSignatures → node.recentSignatures account limit = run.outcome ∧
      ∃ exchanges, Paging.Explains node.page account limit exchanges run) ∧
    (Node.roomForSignatures ≤ limit → node.recentSignatures account limit = .error .tooMany) := by
  refine ⟨fun hroom => ⟨recentSignatures_of_lt hroom hends, ?_⟩, recentSignatures_of_le⟩
  exact hends.exists_explains (Paging.reached_start _ _ _) hserves

namespace Node

/-- The first page of the hostile node, longer than requested: a failed entry that no signature
belongs to, a success and a failed entry. -/
def hostileStart : List HistoryEntry := [⟨"?", true⟩, filledEntry 3 false, filledEntry 2 true]

/-- All its later pages, which repeat a success. -/
def hostileRest : List HistoryEntry := [filledEntry 3 false, filledEntry 3 false]

def hostile : Node :=
  { Node.unreachable with
    page := fun number _ => .ok (if number = 0 then hostileStart else hostileRest) }

private theorem readSignature_filled (b : UInt8) :
    Paging.readSignature (Signature.filled b).text = .ok (.filled b) := by
  rw [Paging.readSignature, Signature.read_text]
  rfl

/-- The success is answered twice, and the entry without a signature is never looked at. -/
theorem recentSignatures_of_ends_hostile :
    let first : PageRequest := ⟨default, none, 2⟩
    let second : PageRequest := ⟨default, some (.filled 2), 1⟩
    let run : PagingRun := ⟨[first, second], .ok [.filled 3, .filled 3]⟩
    (∀ number request, ∃ entries, hostile.page number request = .ok entries) ∧
      Paging.Ends hostile.page default 2 Paging.start run ∧
      hostile.recentSignatures default 2 = .ok [.filled 3, .filled 3] ∧
      ∃ exchanges, Paging.Explains hostile.page default 2 exchanges run := by
  intro first second run
  have hserves (number : Nat) (request : PageRequest) :
      ∃ entries, hostile.page number request = .ok entries := ⟨_, rfl⟩
  have hstart : Paging.absorb ⟨[first], [], none⟩ hostileStart =
      .ok ⟨[first], [.filled 3], some (.filled 2)⟩ := by
    have hlast : hostileStart.getLast? = some (filledEntry 2 true) := rfl
    have hkept : hostileStart.filter (fun entry => ! entry.failed) = [filledEntry 3 false] := rfl
    rw [Paging.absorb, hlast, hkept, Option.mapM_some, List.mapM_cons, List.mapM_nil, filledEntry,
      filledEntry, readSignature_filled, readSignature_filled]
    rfl
  have hrest : Paging.absorb ⟨[first, second], [.filled 3], some (.filled 2)⟩ hostileRest =
      .ok ⟨[first, second], [.filled 3, .filled 3, .filled 3], some (.filled 3)⟩ := by
    have hlast : hostileRest.getLast? = some (filledEntry 3 false) := rfl
    have hkept : hostileRest.filter (fun entry => ! entry.failed) =
        [filledEntry 3 false, filledEntry 3 false] := rfl
    rw [Paging.absorb, hlast, hkept, Option.mapM_some, List.mapM_cons, List.mapM_cons,
      List.mapM_nil, filledEntry, readSignature_filled]
    rfl
  have hpage : hostile.page 0 first = .ok hostileStart := rfl
  have hpage' : hostile.page 1 second = .ok hostileRest := rfl
  have hfirst : Paging.turn hostile.page default 2 Paging.start =
      .inl ⟨[first], [.filled 3], some (.filled 2)⟩ :=
    Eq.trans (Paging.turn_of_lt (by decide) hpage hstart) (if_neg (by decide))
  have hsecond : Paging.turn hostile.page default 2 ⟨[first], [.filled 3], some (.filled 2)⟩ =
      .inl ⟨[first, second], [.filled 3, .filled 3, .filled 3], some (.filled 3)⟩ :=
    Eq.trans (Paging.turn_of_lt (by decide) hpage' hrest) (if_neg (by decide))
  have hends : Paging.Ends hostile.page default 2 Paging.start run :=
    .more hfirst (.more hsecond (.last (Paging.turn_of_le (by decide))))
  obtain ⟨hanswer, hexplains⟩ := (recentSignatures_of_ends hserves hends).1 (by decide)
  exact ⟨hserves, hends, hanswer, hexplains⟩

/-- With nothing reported paging comes to an end, but not with a limit that there is no room for. -/
theorem recentSignatures_refused_without_room :
    let node := growing (fun _ => []) []
    (∀ number request, ∃ entries, node.page number request = .ok entries) ∧
      Paging.Ends node.page default roomForSignatures Paging.start
        ⟨[⟨default, none, 1000⟩], .ok []⟩ ∧
      node.recentSignatures default roomForSignatures = .error .tooMany :=
  ⟨fun _ _ => ⟨_, rfl⟩, .last rfl, by decide⟩

end Node
end TradeTracker
