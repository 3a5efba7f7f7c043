import TradeTracker.Proofs.Transaction.Conversion
import TradeTracker.Trade.Classification

/-! One transaction in the two encodings of a node. A raw message names programs by position and a
parsed one by address; the snapshots may differ in which of several equal keys a call points to,
and in nothing that classification looks at. -/
namespace TradeTracker

structure Execution where
  fault : Option TransactionFault
  preBalances : List UInt64
  postBalances : List UInt64
  preTokenBalances : List ReportedBalance
  postTokenBalances : List ReportedBalance
  /-- The inner calls of one outer call after the other. -/
  innerCalls : List (List CompiledCall)
  loadedWritable : List Address
  loadedReadonly : List Address

/-- A confirmed transaction, however a node writes it. -/
structure ConfirmedTransaction where
  signature : String
  otherSignatures : List String
  slot : UInt64
  blockTime : Option Int64
  staticKeys : List Address
  outerCalls : List CompiledCall
  execution : Option Execution

def Execution.reported (e : Execution) (innerCalls : List (List ReportedCall))
    (loadedWritable loadedReadonly : List String) : ReportedMeta :=
  ⟨e.fault, e.preBalances, e.postBalances, innerCalls, e.preTokenBalances, e.postTokenBalances,
    loadedWritable, loadedReadonly⟩

namespace ConfirmedTransaction

def keys (tx : ConfirmedTransaction) : List Address :=
  tx.staticKeys ++ (tx.execution.map fun e => e.loadedWritable ++ e.loadedReadonly).getD []

def innerCalls (tx : ConfirmedTransaction) : List (List CompiledCall) :=
  (tx.execution.map (·.innerCalls)).getD []

def calls (tx : ConfirmedTransaction) : List CompiledCall := tx.outerCalls ++ tx.innerCalls.flatten

/-- Every call names a program that is there, and every balance a mint that can be read. -/
structure WellFormed (tx : ConfirmedTransaction) : Prop where
  programIndex_lt : ∀ call ∈ tx.calls, call.programIndex.toNat < tx.keys.length
  mint_valid : ∀ e ∈ tx.execution, ∀ balance ∈ e.preTokenBalances ++ e.postTokenBalances,
    ∃ mint, Address.read balance.mint = .ok mint

def rawResponse (tx : ConfirmedTransaction) : TransactionResponse where
  slot := tx.slot
  blockTime := tx.blockTime
  transaction := .json (tx.signature :: tx.otherSignatures)
    (.raw (tx.staticKeys.map Address.text) tx.outerCalls)
  metadata := tx.execution.map fun e =>
    e.reported (e.innerCalls.map (·.map .compiled)) (e.loadedWritable.map Address.text)
      (e.loadedReadonly.map Address.text)

/-- The three ways to write a call. Where the program is named by address, only that and the height
tie the written call to the one that was made. -/
inductive Rendering (keys : List Address) (call : CompiledCall) : ReportedCall → Prop
  | compiled : Rendering keys call (.compiled call)
  | parsed {program : Address} (h : keys[call.programIndex.toNat]? = some program) :
      Rendering keys call (.parsed program.text call.height)
  | addressed {program : Address} (h : keys[call.programIndex.toNat]? = some program)
      (accounts : List String) (data : String) :
      Rendering keys call (.addressed program.text accounts data call.height)

/-- The responses with a parsed message: all keys are listed, and what the loaded ones are given as
in the metadata does not matter. -/
structure IsParsedResponse (tx : ConfirmedTransaction) (response : TransactionResponse) : Prop where
  slot_eq : response.slot = tx.slot
  blockTime_eq : response.blockTime = tx.blockTime
  transaction_eq : ∃ outer, List.Forall₂ (Rendering tx.keys) tx.outerCalls outer ∧
    response.transaction = .json (tx.signature :: tx.otherSignatures)
      (.parsed (tx.keys.map Address.text) outer)
  metadata_eq : ∃ inner writable readonly,
    List.Forall₂ (List.Forall₂ (Rendering tx.keys)) tx.innerCalls inner ∧
      response.metadata = tx.execution.map (·.reported inner writable readonly)

end ConfirmedTransaction

/-- Two calls at one depth to one program, whatever positions they name it by. -/
def Invocation.SameProgram (keys : List Address) (a b : Invocation) : Prop :=
  a.stackDepth = b.stackDepth ∧ ∃ program,
    keys[a.programIndex.toNat]? = some program ∧ keys[b.programIndex.toNat]? = some program

namespace TransactionSnapshot

/-- Snapshots that differ at most in how their calls point at programs. -/
structure Agrees (a b : TransactionSnapshot) : Prop where
  signature_eq : a.signature = b.signature
  slot_eq : a.slot = b.slot
  blockTime_eq : a.blockTime = b.blockTime
  accountKeys_eq : a.accountKeys = b.accountKeys
  metadata_eq : a.metadata = b.metadata
  invocations : List.Forall₂ (fun x y => x.stackDepth = y.stackDepth ∧
    ∃ program, a.programOf? x = some program ∧ b.programOf? y = some program)
      a.invocations b.invocations

namespace Agrees
variable {a b : TransactionSnapshot} (h : Agrees a b)
include h

private theorem invokes_eq (program : Address) : a.invokes program = b.invokes program := by
  have hcalls := h.invocations
  unfold invokes
  generalize a.invocations = xs at hcalls
  generalize b.invocations = ys at hcalls
  induction hcalls with
  | nil => rfl
  | cons hxy _ ih =>
    obtain ⟨-, target, hx, hy⟩ := hxy
    rw [List.any_cons, List.any_cons, ih, hx, hy]

/-- Classification sees calls only through the programs they reach. -/
private theorem classifyAccount_eq (registry : Registry) (account : Address) :
    registry.classifyAccount a account = registry.classifyAccount b account := by
  have hmovement (m : TransactionMeta) (index : Nat) :
      registry.movement a m index = registry.movement b m index := by
    simp only [Registry.movement, intent, callsExchange, h.invokes_eq, h.metadata_eq]
  have hrecord (movement : Movement) (counter : Option CounterAsset) :
      registry.tradeOf a movement counter = registry.tradeOf b movement counter := by
    simp only [Registry.tradeOf, h.signature_eq, h.slot_eq, timestamp, h.blockTime_eq]
  have htrade (m : TransactionMeta) (index : Nat) :
      registry.trade? a m index = registry.trade? b m index := by
    simp only [Registry.trade?, hmovement, hrecord]
  have hfailed : a.isFailed = b.isFailed := by rw [isFailed, isFailed, h.metadata_eq]
  have hindex : a.accountIndex? account = b.accountIndex? account := by
    rw [accountIndex?, accountIndex?, h.accountKeys_eq]
  unfold Registry.classifyAccount
  rw [h.metadata_eq, h.signature_eq, hfailed, hindex]
  simp only [htrade]

end Agrees

end TransactionSnapshot

namespace ConfirmedTransaction
variable {tx : ConfirmedTransaction}

private theorem Rendering.invocation?_eq {keys : List Address} {call : CompiledCall}
    {r : ReportedCall}
    (h : Rendering keys call r) (hlt : call.programIndex.toNat < keys.length) (depth : UInt8) :
    Option.Rel (Invocation.SameProgram keys)
      (ReportedCall.invocation? keys depth (.compiled call)) (r.invocation? keys depth) := by
  have hprogram := List.getElem?_eq_getElem hlt
  cases h with
  | compiled => exact .some ⟨rfl, _, hprogram, hprogram⟩
  | parsed h =>
    obtain ⟨i, hi, hget⟩ := ReportedCall.position?_text h
    rw [ReportedCall.invocation?, ReportedCall.invocation?, hi]
    exact .some ⟨rfl, _, h, hget⟩
  | addressed h accounts data =>
    obtain ⟨i, hi, hget⟩ := ReportedCall.position?_text h
    rw [ReportedCall.invocation?, ReportedCall.invocation?, hi]
    exact .some ⟨rfl, _, h, hget⟩

private theorem renderings_filterMap {keys : List Address} {calls : List CompiledCall}
    {reported : List ReportedCall} (h : List.Forall₂ (Rendering keys) calls reported)
    (hlt : ∀ call ∈ calls, call.programIndex.toNat < keys.length) (depth : UInt8) :
    List.Forall₂ (Invocation.SameProgram keys)
      ((calls.map .compiled).filterMap (ReportedCall.invocation? keys depth))
      (reported.filterMap (ReportedCall.invocation? keys depth)) := by
  induction h with
  | nil => exact .nil
  | @cons call r calls reported hr _ ih =>
    have hrel := hr.invocation?_eq (hlt call List.mem_cons_self) depth
    have hrest := ih fun c hc => hlt c (List.mem_cons_of_mem call hc)
    rw [List.map_cons, List.filterMap_cons, List.filterMap_cons]
    generalize ReportedCall.invocation? keys depth (.compiled call) = x at hrel
    generalize r.invocation? keys depth = y at hrel
    cases hrel with
    | none => exact hrest
    | some hxy => exact .cons hxy hrest

private theorem length_filterMap_compiled (keys : List Address) (depth : UInt8)
    (calls : List CompiledCall) :
    ((calls.map .compiled).filterMap (ReportedCall.invocation? keys depth)).length =
      calls.length := by
  simp [ReportedCall.invocation?]

/-- How a node writes calls and loaded keys has no part in the balances. -/
private theorem exists_readMeta (hwf : tx.WellFormed) :
    ∃ metadata : Option TransactionMeta,
      ∀ (inner : Execution → List (List ReportedCall))
        (writable readonly : Execution → List String),
        (tx.execution.map fun e => e.reported (inner e) (writable e) (readonly e)).mapM
          TransactionSnapshot.readMeta = .ok metadata := by
  cases hexecution : tx.execution with
  | none => exact ⟨none, fun _ _ _ => rfl⟩
  | some e =>
    have hmint := hwf.mint_valid e hexecution
    obtain ⟨pre, hpre⟩ := Outcome.exists_mapM_eq_ok fun balance hb =>
      TransactionSnapshot.exists_readBalance (hmint balance (List.mem_append_left _ hb))
    obtain ⟨post, hpost⟩ := Outcome.exists_mapM_eq_ok fun balance hb =>
      TransactionSnapshot.exists_readBalance (hmint balance (List.mem_append_right _ hb))
    refine ⟨some ⟨e.fault.map TransactionFault.text, e.preBalances, e.postBalances, pre, post⟩,
      fun inner writable readonly => ?_⟩
    have hmeta : TransactionSnapshot.readMeta (e.reported (inner e) (writable e) (readonly e)) =
        .ok ⟨e.fault.map TransactionFault.text, e.preBalances, e.postBalances, pre, post⟩ := by
      simp only [TransactionSnapshot.readMeta, Execution.reported, hpre, hpost]
      rfl
    rw [Option.map_some, Option.mapM_some, hmeta]
    rfl

private theorem rawResponse_keys (tx : ConfirmedTransaction) :
    tx.staticKeys.map Address.text ++ ReportedMessage.loadedKeys
      (.raw (tx.staticKeys.map Address.text) tx.outerCalls) tx.rawResponse.metadata =
        tx.keys.map Address.text := by
  unfold keys rawResponse
  cases tx.execution with
  | none => simp [ReportedMessage.loadedKeys]
  | some e => simp [ReportedMessage.loadedKeys, Execution.reported]

private theorem rawResponse_innerCalls (tx : ConfirmedTransaction) :
    ((tx.rawResponse.metadata.map (·.innerCalls)).getD []).flatten =
      tx.innerCalls.flatten.map .compiled := by
  unfold rawResponse innerCalls
  cases tx.execution with
  | none => rfl
  | some e => exact List.map_flatten.symm

private theorem invocationsOf_sameProgram (hwf : tx.WellFormed) {outer : List ReportedCall}
    {inner : List (List ReportedCall)}
    (houter : List.Forall₂ (Rendering tx.keys) tx.outerCalls outer)
    (hinner : List.Forall₂ (List.Forall₂ (Rendering tx.keys)) tx.innerCalls inner) :
    List.Forall₂ (Invocation.SameProgram tx.keys)
      (TransactionSnapshot.invocationsOf tx.keys (tx.outerCalls.map .compiled)
        ((tx.rawResponse.metadata.map (·.innerCalls)).getD []))
      (TransactionSnapshot.invocationsOf tx.keys outer inner) := by
  have hlt := hwf.programIndex_lt
  unfold TransactionSnapshot.invocationsOf
  rw [rawResponse_innerCalls]
  refine List.rel_append (renderings_filterMap houter ?_ 0)
    (renderings_filterMap (List.rel_flatten hinner) ?_ 1)
  · exact fun call hcall => hlt call (List.mem_append_left _ hcall)
  · exact fun call hcall => hlt call (List.mem_append_right _ hcall)

private theorem length_invocationsOf_raw (tx : ConfirmedTransaction) :
    (TransactionSnapshot.invocationsOf tx.keys (tx.outerCalls.map .compiled)
      ((tx.rawResponse.metadata.map (·.innerCalls)).getD [])).length = tx.calls.length := by
  rw [TransactionSnapshot.invocationsOf, rawResponse_innerCalls, List.length_append,
    length_filterMap_compiled, length_filterMap_compiled, calls, List.length_append]

private theorem exists_agreeing_snapshots (hwf : tx.WellFormed) {response : TransactionResponse}
    (h : tx.IsParsedResponse response) :
    ∃ raw parsed, TransactionSnapshot.ofResponse tx.rawResponse = .ok raw ∧
      TransactionSnapshot.ofResponse response = .ok parsed ∧
      raw.accountKeys = tx.keys ∧ raw.invocations.length = tx.calls.length ∧
      raw.Agrees parsed := by
  obtain ⟨outer, houter, htransaction⟩ := h.transaction_eq
  obtain ⟨inner, writable, readonly, hinner, hmetadata⟩ := h.metadata_eq
  obtain ⟨metadata, hread⟩ := exists_readMeta hwf
  have hmeta : response.metadata.mapM TransactionSnapshot.readMeta = .ok metadata := by
    rw [hmetadata]
    exact hread _ _ _
  have hraw : TransactionSnapshot.ofResponse tx.rawResponse = _ :=
    TransactionSnapshot.ofResponse_json rfl (rawResponse_keys tx) (hread _ _ _)
  have hparsed := TransactionSnapshot.ofResponse_json htransaction
    (List.append_nil (tx.keys.map Address.text)) hmeta
  have hinner' : (response.metadata.map (·.innerCalls)).getD [] = inner := by
    rw [hmetadata]
    unfold innerCalls at hinner
    cases hexecution : tx.execution with
    | none =>
      rw [hexecution] at hinner
      exact (List.forall₂_nil_left_iff.1 hinner).symm
    | some e => rfl
  rw [ReportedMessage.calls, hinner'] at hparsed
  have hcalls := invocationsOf_sameProgram hwf houter hinner
  refine ⟨_, _, hraw, hparsed, rfl, length_invocationsOf_raw tx, rfl, h.slot_eq.symm,
    h.blockTime_eq.symm, rfl, rfl, hcalls.imp ?_⟩
  rintro x y ⟨hdepth, program, hx, hy⟩
  exact ⟨hdepth, program, hx, hy⟩

/-- A transaction has one reading, whether a node writes its message raw or parsed: both responses
have snapshots, no call is lost in either, the calls at one position reach one program, and no
account is classified differently. -/
theorem encodings_agree {tx : ConfirmedTransaction} (hwf : tx.WellFormed)
    {response : TransactionResponse} (h : tx.IsParsedResponse response) :
    ∃ raw parsed, TransactionSnapshot.ofResponse tx.rawResponse = .ok raw ∧
      TransactionSnapshot.ofResponse response = .ok parsed ∧
      raw.accountKeys = tx.keys ∧ raw.invocations.length = tx.calls.length ∧ raw.Agrees parsed ∧
      ∀ (registry : Registry) (account : Address),
        registry.classifyAccount raw account = registry.classifyAccount parsed account := by
  obtain ⟨raw, parsed, hraw, hparsed, hkeys, hlength, hagrees⟩ := exists_agreeing_snapshots hwf h
  exact ⟨raw, parsed, hraw, hparsed, hkeys, hlength, hagrees, hagrees.classifyAccount_eq⟩

def repeatedProgram : Address := ⟨List.replicate 32 7, rfl⟩

/-- The called program stands twice among the static keys and once among the loaded ones; none of
its calls names the first place. -/
def repeatedKey : ConfirmedTransaction where
  signature := "5VERv8"
  otherSignatures := []
  slot := 287654321
  blockTime := some 1722470400
  staticKeys := [default, repeatedProgram, repeatedProgram]
  outerCalls := [⟨2, [0], "3Bxs4h", none⟩, ⟨0, [], "", none⟩]
  execution := some {
    fault := none
    preBalances := [5000, 1, 1, 1]
    postBalances := [0, 1, 1, 1]
    preTokenBalances := []
    postTokenBalances := [⟨0, repeatedProgram.text, "1", 6⟩]
    innerCalls := [[⟨3, [1], "", some 2⟩]]
    loadedWritable := [repeatedProgram]
    loadedReadonly := [] }

def repeatedKeyParsed : TransactionResponse where
  slot := repeatedKey.slot
  blockTime := repeatedKey.blockTime
  transaction := .json [repeatedKey.signature] (.parsed (repeatedKey.keys.map Address.text)
    [.addressed repeatedProgram.text [] "3Bxs4h" none, .parsed (default : Address).text none])
  metadata := repeatedKey.execution.map
    (·.reported [[.parsed repeatedProgram.text (some 2)]] [] [])

private theorem wellFormed_repeatedKey : repeatedKey.WellFormed where
  programIndex_lt := by decide
  mint_valid := by
    intro e he balance hbalance
    cases he
    obtain rfl := List.mem_singleton.1 hbalance
    exact ⟨_, Address.read_text _⟩

private theorem isParsedResponse_repeatedKey : repeatedKey.IsParsedResponse repeatedKeyParsed where
  slot_eq := rfl
  blockTime_eq := rfl
  transaction_eq :=
    ⟨_, .cons (.addressed rfl [] "3Bxs4h") (.cons (.parsed rfl) .nil), rfl⟩
  metadata_eq := ⟨_, [], [], .cons (.cons (.parsed rfl) .nil) .nil, rfl⟩

theorem encodings_agree_repeatedKey :
    repeatedKey.WellFormed ∧ repeatedKey.IsParsedResponse repeatedKeyParsed ∧
      ∃ raw parsed, TransactionSnapshot.ofResponse repeatedKey.rawResponse = .ok raw ∧
        TransactionSnapshot.ofResponse repeatedKeyParsed = .ok parsed ∧
        raw.accountKeys = repeatedKey.keys ∧ raw.invocations.length = 3 ∧ raw.Agrees parsed := by
  have hwf := wellFormed_repeatedKey
  have h := isParsedResponse_repeatedKey
  obtain ⟨raw, parsed, hraw, hparsed, hkeys, hlength, hagrees, -⟩ := encodings_agree hwf h
  exact ⟨hwf, h, raw, parsed, hraw, hparsed, hkeys, hlength, hagrees⟩

end ConfirmedTransaction
end TradeTracker
