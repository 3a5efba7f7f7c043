import TradeTracker.Address
import TradeTracker.Amount

/-! One confirmed transaction as classification sees it: who was involved, which programs were
called, and the balances before and after. -/
namespace TradeTracker

structure Invocation where
  /-- Position of the program among the account keys. -/
  programIndex : UInt8
  /-- Positions of the accounts handed to the program. -/
  accounts : List UInt8
  /-- Base-58 text, empty where the node gave the parsed form only. -/
  data : String
  /-- 0 for an outer instruction. -/
  stackDepth : UInt8
deriving DecidableEq, Repr

structure TokenBalance where
  accountIndex : UInt8
  mint : Address
  amount : String
  decimals : UInt8
deriving DecidableEq, Repr

structure TransactionMeta where
  /-- Why the transaction failed on chain, if it did. -/
  error : Option String
  preBalances : List UInt64
  postBalances : List UInt64
  preTokenBalances : List TokenBalance
  postTokenBalances : List TokenBalance
deriving DecidableEq, Repr

def TransactionMeta.empty : TransactionMeta := ⟨none, [], [], [], []⟩

structure TransactionSnapshot where
  signature : String
  slot : UInt64
  /-- Unix seconds. -/
  blockTime : Option Int64
  /-- Keys of the message, then loaded ones. -/
  accountKeys : List Address
  /-- Outer calls, then inner ones. -/
  invocations : List Invocation
  metadata : Option TransactionMeta
deriving DecidableEq, Repr

/-- Why call data cannot be decoded: the first character outside the alphabet and its place. -/
inductive DataError
  | notAscii (position : Nat)
  | invalid (character : Char) (position : Nat)
deriving DecidableEq, Repr

def DataError.message : DataError → String
  | notAscii position =>
    "provided string contained non-ascii character starting at byte " ++ position.repr
  | invalid character position =>
    "provided string contained invalid character " ++ Text.quotedChar character ++ " at byte " ++
      position.repr

/-- The message under which the program reports data that cannot be decoded. -/
def DataError.report (e : DataError) : String :=
  "Failed to parse transaction: Failed to decode data: " ++ e.message

/-- The bytes of a call's data. Every character before the first bad one is ASCII, so its position
counts bytes as well. -/
def Invocation.dataBytes (invocation : Invocation) : Except DataError (List UInt8) :=
  let cs := invocation.data.toList
  match Base58.firstFault? cs with
  | some (c, position) =>
    .error (if c.toNat < 128 then .invalid c position else .notAscii position)
  | none => .ok ((Base58.decode? cs).getD [])

namespace TransactionSnapshot

/-- First position of an address among the account keys. -/
def accountIndex? (snapshot : TransactionSnapshot) (address : Address) : Option Nat :=
  snapshot.accountKeys.idxOf? address

def accountAt? (snapshot : TransactionSnapshot) (index : Nat) : Option Address :=
  snapshot.accountKeys[index]?

def isFailed (snapshot : TransactionSnapshot) : Bool :=
  snapshot.metadata.any fun m => m.error.isSome

def programOf? (snapshot : TransactionSnapshot) (invocation : Invocation) : Option Address :=
  snapshot.accountAt? invocation.programIndex.toNat

def invokes (snapshot : TransactionSnapshot) (program : Address) : Bool :=
  snapshot.invocations.any fun invocation => snapshot.programOf? invocation = some program

/-- Block time, 0 where the node reported none. -/
def timestamp (snapshot : TransactionSnapshot) : Int64 := snapshot.blockTime.getD 0

end TransactionSnapshot

namespace TransactionMeta

/-- The first of `balances` for an account. Entries come in no order. -/
def firstEntry? (balances : List TokenBalance) (index : Nat) : Option TokenBalance :=
  balances.find? fun balance => balance.accountIndex.toNat = index

def firstEntryOf? (balances : List TokenBalance) (index : Nat) (mint : Address) :
    Option TokenBalance :=
  balances.find? fun balance => balance.accountIndex.toNat = index ∧ balance.mint = mint

def firstSeen [DecidableEq α] (items : List α) : List α :=
  items.foldl (fun seen item => if item ∈ seen then seen else seen ++ [item]) []

/-- Accounts with a token balance on either side, those seen before the transaction first. -/
def tokenAccounts (m : TransactionMeta) : List Nat :=
  firstSeen ((m.preTokenBalances ++ m.postTokenBalances).map fun balance =>
    balance.accountIndex.toNat)

end TransactionMeta
end TradeTracker
