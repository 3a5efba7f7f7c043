import TradeTracker.Proofs.Node.Paging
import TradeTracker.Proofs.Scan.Accounting

/-! A whole scan, from the first page of an account's history to the finished report. Paging hands
over the most recent successes, each of them is fetched and classified, and the report has one place
for each. -/
namespace TradeTracker.Registry
open ScanReport
variable {registry : Registry} {node : Node} {maxRetries : Nat} {account : Address} {limit : Nat}
  {report : ScanReport} {texts : List String} {history : List HistoryEntry}

/-- A report on the transactions whose signatures have the given texts. -/
structure Covers (registry : Registry) (node : Node) (maxRetries : Nat) (account : Address)
    (report : ScanReport) (texts : List String) : Prop where
  scanned : report.scanned = texts.length
  newestFirst : report.trades.Pairwise fun a b =>
    b.slot < a.slot ∨ a.slot = b.slot ∧ a.signature ≤ b.signature
  bySignature : report.failures.Pairwise fun a b => a.signature ≤ b.signature
  groups : ∃ traded failed untraded : List Signature,
    ((traded ++ failed ++ untraded).map Signature.text).Perm texts ∧
      List.Forall₂ (fun signature trade =>
          registry.Classifies maxRetries account (signature, node) (.trade trade))
        traded report.trades ∧
      List.Forall₂ (fun signature failure => failure.signature = signature.text ∧
          registry.FailsWith maxRetries account (signature, node) failure.reason)
        failed report.failures ∧
      ∀ signature ∈ untraded, registry.Classifies maxRetries account (signature, node) .notATrade

theorem covers_scanCompleted (registry : Registry) (node : Node) (maxRetries : Nat)
    (account : Address) (completed : List Signature) :
    registry.Covers node maxRetries account
      (registry.scanCompleted node maxRetries account completed)
      (completed.map Signature.text) := by
  let outcome (signature : Signature) := registry.fetchOutcome maxRetries account (signature, node)
  have hreport : registry.scanCompleted node maxRetries account completed =
      ofOutcomes (completed.map outcome) := by
    rw [scanCompleted, scanFetches_eq_ofOutcomes, List.map_map]
    rfl
  have hbooks := accounts_ofOutcomes (completed.map outcome)
  obtain ⟨traded, failed, untraded, hgroups, htraded, hfailed, huntraded⟩ :=
    exists_groups outcome completed
  rw [← hreport] at hbooks htraded hfailed
  refine ⟨?_, hbooks.newestFirst, hbooks.bySignature, traded, failed, untraded, hgroups.map _,
    ?_, ?_, ?_⟩
  · rw [hbooks.scanned, List.length_map, List.length_map]
  · exact htraded.imp fun _ _ => tradeIn?_fetchOutcome.1
  · exact hfailed.imp fun _ _ => failureIn?_fetchOutcome.1
  · exact fun signature hsignature => isNeither_fetchOutcome.1 (huntraded signature hsignature)

private theorem Covers.nodup_signatures (h : registry.Covers node maxRetries account report texts)
    (hnode : node.ReportsUnderSignature) (hdistinct : texts.Nodup) :
    (report.trades.map (·.signature) ++ report.failures.map (·.signature)).Nodup := by
  obtain ⟨traded, failed, untraded, hgroups, htraded, hfailed, -⟩ := h.groups
  have htrades : report.trades.map (·.signature) = traded.map Signature.text :=
    Outcome.map_eq_map_of_forall₂ (htraded.imp fun _ _ htrade => htrade.signature_eq hnode)
  have hfailures : report.failures.map (·.signature) = failed.map Signature.text :=
    Outcome.map_eq_map_of_forall₂ (hfailed.imp fun _ _ hfailure => hfailure.1)
  have hnodup := hgroups.nodup_iff.2 hdistinct
  rw [List.map_append, List.map_append] at hnodup
  rw [htrades, hfailures]
  exact hnodup.of_append_left

/-- A scan of a served history reports on its most recent successes, on each once and on nothing
else. It is refused only for a limit that there is no room for. -/
theorem scan_of_serves (registry : Registry) (maxRetries : Nat)
    (hvalid : ∀ entry ∈ history, entry.Valid) (hdistinct : (history.map (·.signature)).Nodup)
    (hserves : Paging.Serves node.page account history) :
    (limit < Node.roomForSignatures →
      ∃ report, registry.scan node maxRetries account limit = .ok report ∧
        registry.Covers node maxRetries account report
          ((HistoryEntry.successes history).take limit) ∧
        (node.ReportsUnderSignature →
          (report.trades.map (·.signature) ++ report.failures.map (·.signature)).Nodup)) ∧
    (Node.roomForSignatures ≤ limit →
      registry.scan node maxRetries account limit = .error .tooMany) := by
  constructor
  · intro hroom
    obtain ⟨run, signatures, hends, houtcome, -, htexts⟩ :=
      hserves.exists_ends limit hvalid hdistinct
    have hcovers := covers_scanCompleted registry node maxRetries account signatures
    rw [htexts] at hcovers
    refine ⟨_, ?_, hcovers, fun hnode => hcovers.nodup_signatures hnode ?_⟩
    · rw [scan, Node.recentSignatures_of_lt hroom hends, houtcome]
      rfl
    · exact (HistoryEntry.nodup_successes hdistinct).sublist (List.take_sublist _ _)
  · intro hroom
    rw [scan, Node.recentSignatures_of_le hroom]
    rfl

/-- Where the node answers each signature in one way, the report is the same in whatever order the
fetches of the listed signatures complete. -/
theorem scan_eq_of_perm {answer : Signature → Except NodeError TransactionResponse}
    {signatures completed : List Signature} (hnode : node.Answers answer)
    (hanswer : AnswersUnderSignature answer)
    (hsignatures : node.recentSignatures account limit = .ok signatures)
    (hcompleted : completed.Perm signatures) :
    registry.scan node maxRetries account limit =
      .ok (registry.scanCompleted node maxRetries account completed) := by
  rw [scan, hsignatures, scanCompleted_eq_of_perm hnode hanswer hcompleted]
  rfl

/-- A failure, a transaction that is not found, and a purchase. -/
def marketHistory : List HistoryEntry :=
  [Node.filledEntry 9 true, Node.filledEntry 8 false, Node.filledEntry 7 false]

/-- The node of that history, which has grown when the second page is asked for. -/
def marketNode : Node :=
  { Node.growing (fun number => if number = 0 then [] else [Node.filledEntry 6 false])
      marketHistory with
    transaction := fun _ => purchases }

theorem scan_of_serves_market :
    ∃ report, smallest.scan marketNode 3 (.filled 5) 2 = .ok report ∧
      smallest.Covers marketNode 3 (.filled 5) report
        [(Signature.filled 8).text, (Signature.filled 7).text] := by
  have hvalid : ∀ entry ∈ marketHistory, entry.Valid := by
    simp [marketHistory, Node.valid_filledEntry]
  have hdistinct : (marketHistory.map (·.signature)).Nodup := by decide +kernel
  have hserves : Paging.Serves marketNode.page (.filled 5) marketHistory :=
    Paging.serves_growing (.filled 5) rfl
  have hroom : 2 < Node.roomForSignatures := by decide
  obtain ⟨report, hreport, hcovers, -⟩ :=
    (scan_of_serves smallest 3 hvalid hdistinct hserves).1 hroom
  exact ⟨report, hreport, hcovers⟩

end TradeTracker.Registry
