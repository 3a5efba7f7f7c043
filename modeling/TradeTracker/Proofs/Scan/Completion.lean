import TradeTracker.Proofs.Base58
import TradeTracker.Proofs.Scan.Report
import TradeTracker.Proofs.Trade.Movement
import TradeTracker.Scan.Account

/-! A scan does not show in which order its fetches completed. The outcome of a fetch hangs on the
signature alone, a trade keeps that signature, and the report is sorted by it. -/
namespace TradeTracker

/-- Whenever it is asked, the node gives the one answer for the signature. -/
def Node.Answers (node : Node) (answer : Signature → Except NodeError TransactionResponse) : Prop :=
  ∀ number signature, node.transaction number signature = answer signature

def Node.answering (answer : Signature → Except NodeError TransactionResponse) : Node :=
  { Node.unreachable with transaction := fun _ => answer }

/-- A transaction is reported under its own signature, which stands first. -/
def AnswersUnderSignature (answer : Signature → Except NodeError TransactionResponse) : Prop :=
  ∀ signature response signatures message, answer signature = .ok response →
    response.transaction = .json signatures message → signatures.head? = some signature.text

/-- Whatever the node reports, it reports under the signature that was asked for. -/
def Node.ReportsUnderSignature (node : Node) : Prop :=
  ∀ number signature response signatures message, node.transaction number signature = .ok response →
    response.transaction = .json signatures message → signatures.head? = some signature.text

private theorem Node.Answers.reportsUnderSignature {node : Node}
    {answer : Signature → Except NodeError TransactionResponse} (hnode : node.Answers answer)
    (hanswer : AnswersUnderSignature answer) : node.ReportsUnderSignature := by
  intro number signature response signatures message hresponse htransaction
  rw [hnode number signature] at hresponse
  exact hanswer signature response signatures message hresponse htransaction

namespace Node
variable {node node' : Node} {answer : Signature → Except NodeError TransactionResponse}

private theorem fetchWithin_eq (hnode : node.Answers answer) (hnode' : node'.Answers answer)
    (signature : Signature) (attempts number number' : Nat) :
    node.fetchWithin signature attempts number = node'.fetchWithin signature attempts number' := by
  induction attempts generalizing number number' with
  | zero => rfl
  | succ attempts ih =>
    rw [fetchWithin, fetchWithin, hnode number signature, hnode' number' signature]
    cases answer signature with
    | ok response => rfl
    | error cause => exact ih (number + 1) (number' + 1)

private theorem exists_of_fetchWithin_eq_some {signature : Signature} {attempts number : Nat}
    {response : TransactionResponse}
    (h : node.fetchWithin signature attempts number = some response) :
    ∃ number, node.transaction number signature = .ok response := by
  induction attempts generalizing number with
  | zero => cases h
  | succ attempts ih =>
    rw [fetchWithin] at h
    cases hanswer : node.transaction number signature with
    | ok found =>
      rw [hanswer] at h
      cases h
      exact ⟨number, hanswer⟩
    | error cause =>
      rw [hanswer] at h
      exact ih h

private theorem fetchSnapshot_eq (hnode : node.Answers answer) (hnode' : node'.Answers answer)
    (maxRetries : Nat) (signature : Signature) :
    node.fetchSnapshot maxRetries signature = node'.fetchSnapshot maxRetries signature := by
  rw [fetchSnapshot, fetchSnapshot, fetchTransaction, fetchTransaction,
    fetchWithin_eq hnode hnode' signature _ 0 0]

private theorem fetchTransaction_eq_ok {maxRetries : Nat} {signature : Signature}
    {response : TransactionResponse}
    (h : node.fetchTransaction maxRetries signature = .ok response) :
    node.fetchWithin signature (max 1 maxRetries) 0 = some response := by
  unfold fetchTransaction at h
  dsimp only at h
  split at h
  case h_1 found hfound =>
    cases h
    exact hfound
  case h_2 => cases h

end Node

private theorem TransactionSnapshot.signature_of_ofResponse {response : TransactionResponse}
    {snapshot : TransactionSnapshot} (h : ofResponse response = .ok snapshot) :
    ∃ signatures message, response.transaction = .json signatures message ∧
      signatures.head? = some snapshot.signature := by
  unfold ofResponse at h
  split at h
  case h_1 => cases h
  case h_2 => cases h
  case h_3 signature signatures message htransaction =>
    obtain ⟨keys, -, h⟩ := Outcome.bind_eq_ok.1 h
    obtain ⟨metadata, -, h⟩ := Outcome.bind_eq_ok.1 h
    cases h
    exact ⟨_, _, htransaction, rfl⟩

private theorem Node.signature_of_fetchSnapshot {node : Node} (hnode : node.ReportsUnderSignature)
    {maxRetries : Nat} {signature : Signature} {snapshot : TransactionSnapshot}
    (h : node.fetchSnapshot maxRetries signature = .ok snapshot) :
    snapshot.signature = signature.text := by
  obtain ⟨response, hfetch, h⟩ := Outcome.bind_eq_ok.1 h
  obtain ⟨number, hresponse⟩ := exists_of_fetchWithin_eq_some (fetchTransaction_eq_ok hfetch)
  obtain ⟨signatures, message, htransaction, hhead⟩ :=
    TransactionSnapshot.signature_of_ofResponse (Outcome.mapError_eq_ok.1 h)
  rw [hnode number signature response signatures message hresponse htransaction] at hhead
  exact (Option.some.inj hhead).symm

namespace Registry
variable {registry : Registry} {maxRetries : Nat} {account : Address} {node node' : Node}
  {answer : Signature → Except NodeError TransactionResponse}

private theorem scanOne_eq (hnode : node.Answers answer) (hnode' : node'.Answers answer)
    (signature : Signature) :
    registry.scanOne node maxRetries account signature =
      registry.scanOne node' maxRetries account signature := by
  rw [scanOne, scanOne, Node.fetchSnapshot_eq hnode hnode']

private theorem signature_of_classifyAccount {snapshot : TransactionSnapshot} {trade : Trade}
    (h : registry.classifyAccount snapshot account = .ok (.trade trade)) :
    trade.signature = snapshot.signature := by
  obtain ⟨m, index, -, -, htrade⟩ := classifyAccount_eq_trade h
  obtain ⟨movement, counter, -, -, rfl⟩ := trade?_eq_some htrade
  rfl

theorem scanOne_eq_ok_iff {signature : Signature} {result : TradeResult} :
    registry.scanOne node maxRetries account signature = .ok result ↔
      ∃ snapshot, node.fetchSnapshot maxRetries signature = .ok snapshot ∧
        registry.classifyAccount snapshot account = .ok result := by
  unfold scanOne
  cases node.fetchSnapshot maxRetries signature with
  | error e => simp
  | ok snapshot => simp [Outcome.mapError_eq_ok]

theorem scanOne_eq_error_iff {signature : Signature} {reason : String} :
    registry.scanOne node maxRetries account signature = .error reason ↔
      (∃ e, node.fetchSnapshot maxRetries signature = .error e ∧ e.message = reason) ∨
        ∃ snapshot e, node.fetchSnapshot maxRetries signature = .ok snapshot ∧
          registry.classifyAccount snapshot account = .error e ∧ e.message = reason := by
  unfold scanOne
  cases node.fetchSnapshot maxRetries signature with
  | error e => simp
  | ok snapshot => simp [Outcome.mapError_eq_error]

theorem signature_of_scanOne (hnode : node.ReportsUnderSignature) {signature : Signature}
    {trade : Trade}
    (h : registry.scanOne node maxRetries account signature = .ok (.trade trade)) :
    trade.signature = signature.text := by
  obtain ⟨snapshot, hsnapshot, hclassify⟩ := scanOne_eq_ok_iff.1 h
  rw [signature_of_classifyAccount hclassify, Node.signature_of_fetchSnapshot hnode hsnapshot]

private def outcomesOf (registry : Registry) (node : Node) (maxRetries : Nat) (account : Address)
    (signatures : List Signature) : List (String × ScanOutcome) :=
  signatures.map fun signature =>
    (signature.text, registry.scanOne node maxRetries account signature)

private theorem eq_of_mem_outcomesOf {β : Type} {signatures : List Signature}
    {f : String × ScanOutcome → Option β} {key : β → String}
    (hkey : ∀ signature b,
      f (signature.text, registry.scanOne node maxRetries account signature) = some b →
        key b = signature.text) :
    ∀ a ∈ (outcomesOf registry node maxRetries account signatures).filterMap f,
      ∀ b ∈ (outcomesOf registry node maxRetries account signatures).filterMap f,
        key a = key b → a = b := by
  intro a ha b hb heq
  simp only [outcomesOf, List.mem_filterMap, List.mem_map, exists_exists_and_eq_and] at ha hb
  obtain ⟨signature, -, hsignature⟩ := ha
  obtain ⟨signature', -, hsignature'⟩ := hb
  have htext := (hkey _ _ hsignature).symm.trans (heq.trans (hkey _ _ hsignature'))
  obtain rfl := Signature.text_injective htext
  exact Option.some.inj (hsignature.symm.trans hsignature')

private theorem ofOutcomes_outcomesOf_eq (hnode : node.Answers answer)
    (hanswer : AnswersUnderSignature answer) {signatures signatures' : List Signature}
    (h : signatures.Perm signatures') :
    ScanReport.ofOutcomes (outcomesOf registry node maxRetries account signatures) =
      ScanReport.ofOutcomes (outcomesOf registry node maxRetries account signatures') := by
  refine ScanReport.ofOutcomes_eq_of_perm ?_ ?_ (h.map _)
  · refine eq_of_mem_outcomesOf fun signature trade htrade => ?_
    exact signature_of_scanOne (hnode.reportsUnderSignature hanswer)
      (ScanReport.tradeIn?_eq_some_iff.1 htrade)
  · exact eq_of_mem_outcomesOf fun signature failure hfailure =>
      (ScanReport.failureIn?_eq_some_iff.1 hfailure).1

private theorem scanFetches_eq (hnode : node.Answers answer) {completed : List (Signature × Node)}
    (hcompleted : ∀ fetch ∈ completed, fetch.2.Answers answer) :
    registry.scanFetches maxRetries account completed = ScanReport.ofOutcomes
      (outcomesOf registry node maxRetries account (completed.map Prod.fst)) := by
  rw [scanFetches, outcomesOf, List.map_map]
  congr 1
  refine List.map_congr_left fun fetch hfetch => ?_
  exact congrArg (Prod.mk fetch.1.text) (scanOne_eq (hcompleted fetch hfetch) hnode fetch.1)

/-- Where the node answers each signature in one way, a scan does not show in which order its
fetches complete. -/
theorem scanCompleted_eq_of_perm (hnode : node.Answers answer)
    (hanswer : AnswersUnderSignature answer) {completed completed' : List Signature}
    (h : completed.Perm completed') :
    registry.scanCompleted node maxRetries account completed =
      registry.scanCompleted node maxRetries account completed' := by
  simp only [scanCompleted, scanFetches, List.map_map]
  exact ofOutcomes_outcomesOf_eq hnode hanswer h

/-- Two scans of the same signatures make one report, in whatever orders their fetches complete and
however many of them are under way at once. -/
theorem scanFetches_eq_of_perm (hanswer : AnswersUnderSignature answer)
    {signatures : List Signature} {completed completed' : List (Signature × Node)}
    (horder : (completed.map Prod.fst).Perm signatures)
    (horder' : (completed'.map Prod.fst).Perm signatures)
    (hnodes : ∀ fetch ∈ completed, fetch.2.Answers answer)
    (hnodes' : ∀ fetch ∈ completed', fetch.2.Answers answer) :
    registry.scanFetches maxRetries account completed =
      registry.scanFetches maxRetries account completed' := by
  have hnode : (Node.answering answer).Answers answer := fun _ _ => rfl
  rw [scanFetches_eq hnode hnodes, scanFetches_eq hnode hnodes',
    ofOutcomes_outcomesOf_eq hnode hanswer (horder.trans horder'.symm)]

/-- Every transaction but one is a purchase of ten units by `Address.filled 5`; that one is not
found. -/
def purchases (signature : Signature) : Except NodeError TransactionResponse :=
  if signature = .filled 8 then .error .unreachable
  else .ok {
    slot := 287654321
    blockTime := some 1722470400
    transaction := .json [signature.text]
      (.raw [(Address.filled 5).text, (Address.filled 1).text] [⟨1, [0], "", none⟩])
    metadata := some {
      fault := none
      preBalances := []
      postBalances := []
      innerCalls := []
      preTokenBalances := []
      postTokenBalances := [⟨0, (Address.filled 4).text, "10", 6⟩]
      loadedWritable := []
      loadedReadonly := [] } }

private theorem answersUnderSignature_purchases : AnswersUnderSignature purchases := by
  intro signature response signatures message hanswer htransaction
  unfold purchases at hanswer
  split_ifs at hanswer
  cases hanswer
  cases htransaction
  rfl

def laterNode : Node := { Node.answering purchases with slot := .ok 287654400 }

/-- A signature is listed twice, and another one is not found. -/
theorem scanFetches_eq_of_perm_purchases :
    let found : Signature := .filled 7
    let missing : Signature := .filled 8
    let signatures := [found, missing, found]
    let completed :=
      [(found, Node.answering purchases), (found, laterNode), (missing, laterNode)]
    let completed' :=
      [(missing, Node.answering purchases), (found, Node.answering purchases), (found, laterNode)]
    (completed.map Prod.fst).Perm signatures ∧ (completed'.map Prod.fst).Perm signatures ∧
      (smallest.scanOne laterNode 3 (.filled 5) found).toOption.bind TradeResult.trade? ≠ none ∧
      smallest.scanOne laterNode 3 (.filled 5) missing =
        .error (FetchError.notFound missing 3).message ∧
      smallest.scanFetches 3 (.filled 5) completed =
        smallest.scanFetches 3 (.filled 5) completed' := by
  intro found missing signatures completed completed'
  have horder : (completed.map Prod.fst).Perm signatures := (List.Perm.swap _ _ _).cons found
  have horder' : (completed'.map Prod.fst).Perm signatures := List.Perm.swap _ _ _
  have hanswers : (Node.answering purchases).Answers purchases ∧ laterNode.Answers purchases :=
    ⟨fun _ _ => rfl, fun _ _ => rfl⟩
  refine ⟨horder, horder', by decide +kernel, by decide +kernel, ?_⟩
  refine scanFetches_eq_of_perm answersUnderSignature_purchases horder horder' ?_ ?_
  · simpa [completed] using hanswers
  · simpa [completed'] using hanswers

end Registry
end TradeTracker
