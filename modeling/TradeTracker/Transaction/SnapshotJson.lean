import TradeTracker.Transaction.Snapshot
import TradeTracker.Json.Printer
import TradeTracker.Json.Reader
import TradeTracker.Json.Record

/-! Stored snapshots. Reading gives back every snapshot that writing produced; fields of the
execution part may be left out of a record written by hand. -/
namespace TradeTracker
open Json

def Address.toJson (a : Address) : Json := .str a.text

def Address.ofJson? : Decoder Address := parsed? Address.read?

namespace Invocation

def toJson (invocation : Invocation) : Json :=
  .obj [
    ("programIdIndex", ofNat invocation.programIndex.toNat),
    ("accounts", ofList (fun index => ofNat index.toNat) invocation.accounts),
    ("data", .str invocation.data),
    ("stackDepth", ofNat invocation.stackDepth.toNat)]

def ofJson? (v : Json) : Option Invocation := do
  let r ← Record.read ["programIdIndex", "accounts", "data", "stackDepth"] v
  some {
    programIndex := ← r.required "programIdIndex" uint8?
    accounts := ← r.defaulted "accounts" [] (list? uint8?)
    data := ← r.defaulted "data" "" string?
    stackDepth := ← r.defaulted "stackDepth" 0 uint8? }

end Invocation

namespace TokenBalance

def toJson (balance : TokenBalance) : Json :=
  .obj [
    ("accountIndex", ofNat balance.accountIndex.toNat),
    ("mint", balance.mint.toJson),
    ("amount", .str balance.amount),
    ("decimals", ofNat balance.decimals.toNat)]

def ofJson? (v : Json) : Option TokenBalance := do
  let r ← Record.read ["accountIndex", "mint", "amount", "decimals"] v
  some {
    accountIndex := ← r.required "accountIndex" uint8?
    mint := ← r.required "mint" Address.ofJson?
    amount := ← r.required "amount" string?
    decimals := ← r.required "decimals" uint8? }

end TokenBalance

namespace TransactionMeta

def toJson (m : TransactionMeta) : Json :=
  .obj [
    ("err", ofOption .str m.error),
    ("preBalances", ofList (fun n => ofNat n.toNat) m.preBalances),
    ("postBalances", ofList (fun n => ofNat n.toNat) m.postBalances),
    ("preTokenBalances", ofList TokenBalance.toJson m.preTokenBalances),
    ("postTokenBalances", ofList TokenBalance.toJson m.postTokenBalances)]

def ofJson? (v : Json) : Option TransactionMeta := do
  let r ← Record.read
    ["err", "preBalances", "postBalances", "preTokenBalances", "postTokenBalances"] v
  some {
    error := ← r.optional "err" string?
    preBalances := ← r.defaulted "preBalances" [] (list? uint64?)
    postBalances := ← r.defaulted "postBalances" [] (list? uint64?)
    preTokenBalances := ← r.defaulted "preTokenBalances" [] (list? TokenBalance.ofJson?)
    postTokenBalances := ← r.defaulted "postTokenBalances" [] (list? TokenBalance.ofJson?) }

end TransactionMeta

namespace TransactionSnapshot

def toJson (snapshot : TransactionSnapshot) : Json :=
  .obj [
    ("signature", .str snapshot.signature),
    ("slot", ofNat snapshot.slot.toNat),
    ("blockTime", ofOption (fun t => ofInt t.toInt) snapshot.blockTime),
    ("accountKeys", ofList Address.toJson snapshot.accountKeys),
    ("invocations", ofList Invocation.toJson snapshot.invocations),
    ("meta", ofOption TransactionMeta.toJson snapshot.metadata)]

def ofJson? (v : Json) : Option TransactionSnapshot := do
  let r ← Record.read ["signature", "slot", "blockTime", "accountKeys", "invocations", "meta"] v
  some {
    signature := ← r.required "signature" string?
    slot := ← r.required "slot" uint64?
    blockTime := ← r.optional "blockTime" int64?
    accountKeys := ← r.required "accountKeys" (list? Address.ofJson?)
    invocations := ← r.defaulted "invocations" [] (list? Invocation.ofJson?)
    metadata := ← r.optional "meta" TransactionMeta.ofJson? }

def ofText? (text : String) : Option TransactionSnapshot := (Json.parse? text).bind ofJson?

def text (snapshot : TransactionSnapshot) : String := snapshot.toJson.compact

end TransactionSnapshot
end TradeTracker
