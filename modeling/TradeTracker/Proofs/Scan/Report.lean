import TradeTracker.Scan.Report

/-! What a report holds. Recording adds at most one trade or one failure, so a report is a selection
from its outcomes, and where the keys of the order tell the selected apart it is the same selection
in every order of the outcomes. -/
namespace TradeTracker

private theorem mergeSort_eq_of_perm {α : Type} {le : α → α → Bool} {items items' : List α}
    (htrans : ∀ a b c, le a b = true → le b c = true → le a c = true)
    (htotal : ∀ a b, (le a b || le b a) = true)
    (hties : ∀ a ∈ items, ∀ b ∈ items, le a b = true → le b a = true → a = b)
    (h : items.Perm items') : items.mergeSort le = items'.mergeSort le := by
  have hsorted := List.pairwise_mergeSort htrans htotal items
  have hsorted' := List.pairwise_mergeSort htrans htotal items'
  refine List.Perm.eq_of_pairwise ?_ hsorted hsorted' ?_
  · intro a b ha hb
    have ha' : a ∈ items := List.mem_mergeSort.1 ha
    have hb' : b ∈ items := h.mem_iff.2 (List.mem_mergeSort.1 hb)
    exact hties a ha' b hb'
  · exact (List.mergeSort_perm _ _).trans (h.trans (List.mergeSort_perm _ _).symm)

namespace ScanReport

def tradeIn? : String × ScanOutcome → Option Trade
  | (_, .ok result) => result.trade?
  | (_, .error _) => none

def failureIn? : String × ScanOutcome → Option ScanFailure
  | (signature, .ok result) => result.error?.map (⟨signature, ·⟩)
  | (signature, .error reason) => some ⟨signature, reason⟩

def isNeither : String × ScanOutcome → Bool
  | (_, .ok result) => result.isNotATrade
  | (_, .error _) => false

section Outcomes
variable {signature : String} {outcome : ScanOutcome}

theorem tradeIn?_eq_some_iff {trade : Trade} :
    tradeIn? (signature, outcome) = some trade ↔ outcome = .ok (.trade trade) := by
  rcases outcome with reason | found | _ | reason <;>
    simp [tradeIn?, TradeResult.trade?]

theorem failureIn?_eq_some_iff {failure : ScanFailure} :
    failureIn? (signature, outcome) = some failure ↔ failure.signature = signature ∧
      (outcome = .error failure.reason ∨ outcome = .ok (.error failure.reason)) := by
  obtain ⟨signature', reason'⟩ := failure
  rcases outcome with reason | found | _ | reason <;>
    simp [failureIn?, TradeResult.error?, eq_comm]

theorem isNeither_iff : isNeither (signature, outcome) = true ↔ outcome = .ok .notATrade := by
  rcases outcome with reason | found | _ | reason <;>
    simp [isNeither, TradeResult.isNotATrade]

end Outcomes

private theorem record_eq (report : ScanReport) (signature : String) (outcome : ScanOutcome) :
    report.record signature outcome =
      ⟨report.trades ++ (tradeIn? (signature, outcome)).toList,
        report.failures ++ (failureIn? (signature, outcome)).toList, report.scanned + 1⟩ := by
  match outcome with
  | .ok (.trade trade) =>
    simp [record, tradeIn?, failureIn?, TradeResult.trade?, TradeResult.error?]
  | .ok .notATrade => simp [record, tradeIn?, failureIn?, TradeResult.trade?, TradeResult.error?]
  | .ok (.error reason) =>
    simp [record, tradeIn?, failureIn?, TradeResult.trade?, TradeResult.error?]
  | .error reason => simp [record, tradeIn?, failureIn?]

private theorem foldl_record (outcomes : List (String × ScanOutcome)) (report : ScanReport) :
    outcomes.foldl (fun report (signature, outcome) => report.record signature outcome) report =
      ⟨report.trades ++ outcomes.filterMap tradeIn?,
        report.failures ++ outcomes.filterMap failureIn?,
        report.scanned + outcomes.length⟩ := by
  induction outcomes generalizing report with
  | nil => simp
  | cons outcome outcomes ih =>
    obtain ⟨signature, outcome⟩ := outcome
    rw [List.foldl_cons, ih]
    dsimp only
    rw [record_eq, List.filterMap_cons, List.filterMap_cons]
    cases tradeIn? (signature, outcome) <;> cases failureIn? (signature, outcome) <;>
      simp [Nat.add_assoc, Nat.add_comm 1]

/-- A finished report holds the trades and the failures of its outcomes, sorted. -/
theorem ofOutcomes_eq (outcomes : List (String × ScanOutcome)) :
    ofOutcomes outcomes = ⟨(outcomes.filterMap tradeIn?).mergeSort tradeOrder,
      (outcomes.filterMap failureIn?).mergeSort failureOrder, outcomes.length⟩ := by
  rw [ofOutcomes, foldl_record]
  simp [finish, empty]

theorem tradeOrder_iff {a b : Trade} : tradeOrder a b = true ↔
    b.slot < a.slot ∨ a.slot = b.slot ∧ a.signature ≤ b.signature := by
  simp [tradeOrder]

theorem tradeOrder_trans (a b c : Trade) (hab : tradeOrder a b = true)
    (hbc : tradeOrder b c = true) : tradeOrder a c = true := by
  rw [tradeOrder_iff] at *
  obtain hab | ⟨hab, hsignature⟩ := hab <;> obtain hbc | ⟨hbc, hsignature'⟩ := hbc
  · exact .inl (UInt64.lt_trans hbc hab)
  · exact .inl (hbc ▸ hab)
  · exact .inl (hab ▸ hbc)
  · exact .inr ⟨hab.trans hbc, String.le_trans hsignature hsignature'⟩

theorem tradeOrder_total (a b : Trade) : (tradeOrder a b || tradeOrder b a) = true := by
  rw [Bool.or_eq_true, tradeOrder_iff, tradeOrder_iff]
  by_cases hup : a.slot < b.slot
  · exact .inr (.inl hup)
  by_cases hdown : b.slot < a.slot
  · exact .inl (.inl hdown)
  have heq := UInt64.le_antisymm (UInt64.not_lt.1 hdown) (UInt64.not_lt.1 hup)
  obtain hle | hle := String.le_total a.signature b.signature
  · exact .inl (.inr ⟨heq, hle⟩)
  · exact .inr (.inr ⟨heq.symm, hle⟩)

private theorem signature_eq_of_tradeOrder {a b : Trade} (hab : tradeOrder a b = true)
    (hba : tradeOrder b a = true) : a.signature = b.signature := by
  rw [tradeOrder_iff] at hab hba
  obtain hab | ⟨hab, hsignature⟩ := hab <;> obtain hba | ⟨hba, hsignature'⟩ := hba
  · exact absurd (UInt64.lt_trans hab hba) (UInt64.lt_irrefl _)
  · exact absurd (hba ▸ hab) (UInt64.lt_irrefl _)
  · exact absurd (hab ▸ hba) (UInt64.lt_irrefl _)
  · exact String.le_antisymm hsignature hsignature'

theorem failureOrder_iff {a b : ScanFailure} :
    failureOrder a b = true ↔ a.signature ≤ b.signature := by
  rw [failureOrder, decide_eq_true_eq]

theorem failureOrder_trans (a b c : ScanFailure) (hab : failureOrder a b = true)
    (hbc : failureOrder b c = true) : failureOrder a c = true := by
  rw [failureOrder_iff] at *
  exact String.le_trans hab hbc

theorem failureOrder_total (a b : ScanFailure) : (failureOrder a b || failureOrder b a) = true := by
  rw [Bool.or_eq_true, failureOrder_iff, failureOrder_iff]
  exact String.le_total _ _

/-- Outcomes whose trades and failures are known by their signatures make one report in every
order. -/
theorem ofOutcomes_eq_of_perm {outcomes outcomes' : List (String × ScanOutcome)}
    (htrades : ∀ a ∈ outcomes.filterMap tradeIn?, ∀ b ∈ outcomes.filterMap tradeIn?,
      a.signature = b.signature → a = b)
    (hfailures : ∀ a ∈ outcomes.filterMap failureIn?, ∀ b ∈ outcomes.filterMap failureIn?,
      a.signature = b.signature → a = b)
    (h : outcomes.Perm outcomes') : ofOutcomes outcomes = ofOutcomes outcomes' := by
  have hsortedTrades := mergeSort_eq_of_perm tradeOrder_trans tradeOrder_total
    (fun a ha b hb hab hba => htrades a ha b hb (signature_eq_of_tradeOrder hab hba))
    (h.filterMap tradeIn?)
  have hsortedFailures := mergeSort_eq_of_perm failureOrder_trans failureOrder_total
    (fun a ha b hb hab hba => hfailures a ha b hb
      (String.le_antisymm (failureOrder_iff.1 hab) (failureOrder_iff.1 hba)))
    (h.filterMap failureIn?)
  rw [ofOutcomes_eq, ofOutcomes_eq, hsortedTrades, hsortedFailures, h.length_eq]

end ScanReport
end TradeTracker
