import TradeTracker.Proofs.Scan.Completion

/-! The books of a scan. An outcome belongs to one group only, trades, failures or neither, and a
report holds a group as it is, sorted. What one fetch comes to therefore adds to its own group, and
takes nothing from anybody. -/
namespace TradeTracker
namespace ScanReport

/-- What the books of a report say of the outcomes recorded in it. -/
structure Accounts (report : ScanReport) (outcomes : List (String × ScanOutcome)) : Prop where
  scanned : report.scanned = outcomes.length
  trades : report.trades.Perm (outcomes.filterMap tradeIn?)
  newestFirst : report.trades.Pairwise fun a b =>
    b.slot < a.slot ∨ a.slot = b.slot ∧ a.signature ≤ b.signature
  failures : report.failures.Perm (outcomes.filterMap failureIn?)
  bySignature : report.failures.Pairwise fun a b => a.signature ≤ b.signature
  total : report.trades.length + report.failures.length + outcomes.countP isNeither = report.scanned

section Groups
variable {γ : Type} (outcome : γ → String × ScanOutcome)

private theorem groups_perm (items : List γ) :
    (items.filter (fun a => (tradeIn? (outcome a)).isSome) ++
      items.filter (fun a => (failureIn? (outcome a)).isSome) ++
      items.filter (fun a => isNeither (outcome a))).Perm items := by
  induction items with
  | nil => exact .nil
  | cons a items ih =>
    simp only [List.filter_cons]
    obtain ⟨signature, reason | trade | _ | reason⟩ := outcome a
    case trade => exact ih.cons a
    case notATrade => exact List.perm_middle.trans (ih.cons a)
    all_goals
      rw [List.append_assoc] at ih ⊢
      exact List.perm_middle.trans (ih.cons a)

private theorem forall₂_filterMap {β : Type} (f : γ → Option β) (items : List γ) :
    List.Forall₂ (fun b a => f a = some b) (items.filterMap f)
      (items.filter fun a => (f a).isSome) := by
  induction items with
  | nil => exact .nil
  | cons a items ih =>
    rw [List.filterMap_cons, List.filter_cons]
    cases h : f a with
    | none => exact ih
    | some b => exact .cons h ih

private theorem exists_forall₂_of_perm {β : Type} {f : γ → Option β} {items : List γ}
    {entries : List β} (h : entries.Perm (items.filterMap f)) : ∃ makers : List γ,
      List.Forall₂ (fun a b => f a = some b) makers entries ∧
        makers.Perm (items.filter fun a => (f a).isSome) := by
  obtain ⟨makers, hmakers, hperm⟩ := List.perm_comp_forall₂ h (forall₂_filterMap f items)
  exact ⟨makers, hmakers.flip, hperm⟩

end Groups

theorem accounts_ofOutcomes (outcomes : List (String × ScanOutcome)) :
    (ofOutcomes outcomes).Accounts outcomes where
  scanned := by rw [ofOutcomes_eq]
  trades := by
    rw [ofOutcomes_eq]
    exact List.mergeSort_perm _ _
  newestFirst := by
    rw [ofOutcomes_eq]
    exact (List.pairwise_mergeSort tradeOrder_trans tradeOrder_total _).imp tradeOrder_iff.1
  failures := by
    rw [ofOutcomes_eq]
    exact List.mergeSort_perm _ _
  bySignature := by
    rw [ofOutcomes_eq]
    exact (List.pairwise_mergeSort failureOrder_trans failureOrder_total _).imp failureOrder_iff.1
  total := by
    have htrades := (forall₂_filterMap tradeIn? outcomes).length_eq
    have hfailures := (forall₂_filterMap failureIn? outcomes).length_eq
    have hgroups := (groups_perm id outcomes).length_eq
    rw [List.length_append, List.length_append] at hgroups
    rw [ofOutcomes_eq, List.length_mergeSort, List.length_mergeSort, htrades, hfailures,
      List.countP_eq_length_filter]
    exact hgroups

/-- The items behind a report in three groups, those of its trades and those of its failures in its
own order. -/
theorem exists_groups {γ : Type} (outcome : γ → String × ScanOutcome) (items : List γ) :
    ∃ traded failed untraded : List γ, (traded ++ failed ++ untraded).Perm items ∧
      List.Forall₂ (fun a trade => tradeIn? (outcome a) = some trade) traded
        (ofOutcomes (items.map outcome)).trades ∧
      List.Forall₂ (fun a failure => failureIn? (outcome a) = some failure) failed
        (ofOutcomes (items.map outcome)).failures ∧
      ∀ a ∈ untraded, isNeither (outcome a) = true := by
  have hbooks := accounts_ofOutcomes (items.map outcome)
  have htrades := hbooks.trades
  have hfailures := hbooks.failures
  rw [List.filterMap_map] at htrades hfailures
  obtain ⟨traded, htraded, htradedPerm⟩ := exists_forall₂_of_perm htrades
  obtain ⟨failed, hfailed, hfailedPerm⟩ := exists_forall₂_of_perm hfailures
  refine ⟨traded, failed, items.filter fun a => isNeither (outcome a), ?_, htraded, hfailed, ?_⟩
  · exact ((htradedPerm.append hfailedPerm).append_right _).trans (groups_perm _ items)
  · exact fun a ha => (List.mem_filter.1 ha).2

/-- A failure is one more entry among the failures, and everything else is as if it had not been
recorded. -/
private theorem ofOutcomes_insert_failure (before after : List (String × ScanOutcome))
    {outcome : String × ScanOutcome} {failure : ScanFailure}
    (h : failureIn? outcome = some failure) :
    (ofOutcomes (before ++ outcome :: after)).trades = (ofOutcomes (before ++ after)).trades ∧
      (ofOutcomes (before ++ outcome :: after)).failures.Perm
        (failure :: (ofOutcomes (before ++ after)).failures) := by
  have htrade : tradeIn? outcome = none := by
    obtain ⟨signature, reason | trade | _ | reason⟩ := outcome
    case trade => cases h
    all_goals rfl
  rw [ofOutcomes_eq, ofOutcomes_eq]
  constructor
  · rw [List.filterMap_append, List.filterMap_cons_none htrade, ← List.filterMap_append]
  · refine (List.mergeSort_perm _ _).trans (.trans ?_ ((List.mergeSort_perm _ _).symm.cons failure))
    rw [List.filterMap_append, List.filterMap_cons_some h, List.filterMap_append]
    exact List.perm_middle

end ScanReport

namespace Registry
open ScanReport
variable (registry : Registry) (maxRetries : Nat) (account : Address)

def Classifies (fetch : Signature × Node) (result : TradeResult) : Prop :=
  ∃ snapshot, fetch.2.fetchSnapshot maxRetries fetch.1 = .ok snapshot ∧
    registry.classifyAccount snapshot account = .ok result

/-- The transaction of a fetch was not found, could not be converted, could not be classified, or
came out as an error. -/
def FailsWith (fetch : Signature × Node) (reason : String) : Prop :=
  (∃ e, fetch.2.fetchSnapshot maxRetries fetch.1 = .error e ∧ e.message = reason) ∨
    (∃ snapshot e, fetch.2.fetchSnapshot maxRetries fetch.1 = .ok snapshot ∧
      registry.classifyAccount snapshot account = .error e ∧ e.message = reason) ∨
    registry.Classifies maxRetries account fetch (.error reason)

def fetchOutcome (fetch : Signature × Node) : String × ScanOutcome :=
  (fetch.1.text, registry.scanOne fetch.2 maxRetries account fetch.1)

variable {registry maxRetries account} {fetch : Signature × Node}

theorem scanFetches_eq_ofOutcomes (completed : List (Signature × Node)) :
    registry.scanFetches maxRetries account completed =
      ofOutcomes (completed.map (registry.fetchOutcome maxRetries account)) :=
  rfl

theorem tradeIn?_fetchOutcome {trade : Trade} :
    tradeIn? (registry.fetchOutcome maxRetries account fetch) = some trade ↔
      registry.Classifies maxRetries account fetch (.trade trade) :=
  tradeIn?_eq_some_iff.trans scanOne_eq_ok_iff

theorem failureIn?_fetchOutcome {failure : ScanFailure} :
    failureIn? (registry.fetchOutcome maxRetries account fetch) = some failure ↔
      failure.signature = fetch.1.text ∧
        registry.FailsWith maxRetries account fetch failure.reason := by
  rw [fetchOutcome, failureIn?_eq_some_iff, scanOne_eq_error_iff, scanOne_eq_ok_iff, FailsWith,
    Classifies, or_assoc]

theorem isNeither_fetchOutcome :
    isNeither (registry.fetchOutcome maxRetries account fetch) = true ↔
      registry.Classifies maxRetries account fetch .notATrade :=
  isNeither_iff.trans scanOne_eq_ok_iff

theorem Classifies.signature_eq {trade : Trade}
    (h : registry.Classifies maxRetries account fetch (.trade trade))
    (hnode : fetch.2.ReportsUnderSignature) : trade.signature = fetch.1.text :=
  signature_of_scanOne hnode (scanOne_eq_ok_iff.2 h)

/-- Scanning loses nothing and invents nothing. The books of every report balance; a scan of some
signatures puts each of them into one group, whatever the node answers; and a transaction that fails
leaves what the others come to as it is. -/
theorem scanFetches_accounting (registry : Registry) (maxRetries : Nat) (account : Address)
    {signatures : List Signature} {completed : List (Signature × Node)}
    (horder : (completed.map Prod.fst).Perm signatures) :
    (∀ outcomes : List (String × ScanOutcome), (ofOutcomes outcomes).Accounts outcomes) ∧
    (registry.scanFetches maxRetries account completed).scanned = signatures.length ∧
    (∃ traded failed untraded : List (Signature × Node),
      (traded ++ failed ++ untraded).Perm completed ∧
      ((traded ++ failed ++ untraded).map Prod.fst).Perm signatures ∧
      List.Forall₂ (fun fetch trade =>
          registry.Classifies maxRetries account fetch (.trade trade) ∧
            (fetch.2.ReportsUnderSignature → trade.signature = fetch.1.text))
        traded (registry.scanFetches maxRetries account completed).trades ∧
      List.Forall₂ (fun fetch failure => failure.signature = fetch.1.text ∧
          registry.FailsWith maxRetries account fetch failure.reason)
        failed (registry.scanFetches maxRetries account completed).failures ∧
      ∀ fetch ∈ untraded, registry.Classifies maxRetries account fetch .notATrade) ∧
    ∀ before fetch after reason, completed = before ++ fetch :: after →
      registry.FailsWith maxRetries account fetch reason →
      (registry.scanFetches maxRetries account completed).trades =
          (registry.scanFetches maxRetries account (before ++ after)).trades ∧
        (registry.scanFetches maxRetries account completed).failures.Perm
          (⟨fetch.1.text, reason⟩ ::
            (registry.scanFetches maxRetries account (before ++ after)).failures) := by
  refine ⟨accounts_ofOutcomes, ?_, ?_, ?_⟩
  · rw [scanFetches_eq_ofOutcomes, (accounts_ofOutcomes _).scanned, List.length_map,
      ← horder.length_eq, List.length_map]
  · obtain ⟨traded, failed, untraded, hgroups, htraded, hfailed, huntraded⟩ :=
      exists_groups (registry.fetchOutcome maxRetries account) completed
    refine ⟨traded, failed, untraded, hgroups, (hgroups.map _).trans horder, ?_, ?_, ?_⟩
    · refine htraded.imp fun fetch trade htrade => ?_
      have hclassified := tradeIn?_fetchOutcome.1 htrade
      exact ⟨hclassified, hclassified.signature_eq⟩
    · exact hfailed.imp fun _ _ => failureIn?_fetchOutcome.1
    · exact fun fetch hfetch => isNeither_fetchOutcome.1 (huntraded fetch hfetch)
  · rintro before fetch after reason rfl hfails
    have hfailure : failureIn? (registry.fetchOutcome maxRetries account fetch) =
      some ⟨fetch.1.text, reason⟩ := failureIn?_fetchOutcome.2 ⟨rfl, hfails⟩
    have hinsert := ofOutcomes_insert_failure
      (before.map (registry.fetchOutcome maxRetries account))
      (after.map (registry.fetchOutcome maxRetries account)) hfailure
    rw [← List.map_cons, ← List.map_append, ← List.map_append] at hinsert
    exact hinsert

def purchasesAndIdle (signature : Signature) : Except NodeError TransactionResponse :=
  if signature = .filled 9 then .ok {
    slot := 287654322
    blockTime := none
    transaction := .json [signature.text] (.raw [(Address.filled 5).text] [])
    metadata := some ⟨none, [], [], [], [], [], [], []⟩ }
  else purchases signature

/-- One transaction of each group, the one that is not found having come first. -/
theorem scanFetches_accounting_purchases :
    let found : Signature × Node := (.filled 7, Node.answering purchasesAndIdle)
    let missing : Signature × Node := (.filled 8, Node.answering purchasesAndIdle)
    let idle : Signature × Node := (.filled 9, Node.answering purchasesAndIdle)
    let report := smallest.scanFetches 3 (.filled 5) [missing, idle, found]
    let reason := (FetchError.notFound missing.1 3).message
    ([missing, idle, found].map Prod.fst).Perm [found.1, missing.1, idle.1] ∧
      smallest.FailsWith 3 (.filled 5) missing reason ∧
      smallest.Classifies 3 (.filled 5) idle .notATrade ∧
      (∃ trade, smallest.Classifies 3 (.filled 5) found (.trade trade)) ∧
      report.scanned = 3 ∧
      report.trades = (smallest.scanFetches 3 (.filled 5) [idle, found]).trades ∧
      report.failures.Perm (⟨missing.1.text, reason⟩ ::
        (smallest.scanFetches 3 (.filled 5) [idle, found]).failures) := by
  intro found missing idle report reason
  have horder : ([missing, idle, found].map Prod.fst).Perm [found.1, missing.1, idle.1] := by
    decide +kernel
  have hfails : smallest.FailsWith 3 (.filled 5) missing reason := .inl ⟨_, rfl, rfl⟩
  have hidle : smallest.Classifies 3 (.filled 5) idle .notATrade := ⟨_, rfl, rfl⟩
  have hfound : ∃ trade, smallest.Classifies 3 (.filled 5) found (.trade trade) := ⟨_, _, rfl, rfl⟩
  obtain ⟨-, hscanned, -, hisolated⟩ := scanFetches_accounting smallest 3 (.filled 5) horder
  obtain ⟨htrades, hfailures⟩ := hisolated [] missing [idle, found] reason rfl hfails
  exact ⟨horder, hfails, hidle, hfound, hscanned, htrades, hfailures⟩

end Registry
end TradeTracker
