import TradeTracker.Json.Record

/-! Why a transaction failed on chain. Nodes report a fault by its name, with an argument for a
few of them; snapshots keep the sentence that describes it. -/
namespace TradeTracker
open Json

inductive InstructionFault
  | plain (description : String)
  /-- A number only the program itself can explain. -/
  | custom (code : UInt32)
  | serialization (detail : String)
deriving DecidableEq, Repr

inductive TransactionFault
  | plain (description : String)
  | instruction (index : UInt8) (fault : InstructionFault)
  | duplicateInstruction (index : UInt8)
  | insufficientFundsForRent (account : UInt8)
  | executionRestricted (account : UInt8)
deriving DecidableEq, Repr

namespace InstructionFault

def descriptions : List (String × String) := [
  ("GenericError", "generic instruction error"),
  ("InvalidArgument", "invalid program argument"),
  ("InvalidInstructionData", "invalid instruction data"),
  ("InvalidAccountData", "invalid account data for instruction"),
  ("AccountDataTooSmall", "account data too small for instruction"),
  ("InsufficientFunds", "insufficient funds for instruction"),
  ("IncorrectProgramId", "incorrect program id for instruction"),
  ("MissingRequiredSignature", "missing required signature for instruction"),
  ("AccountAlreadyInitialized", "instruction requires an uninitialized account"),
  ("UninitializedAccount", "instruction requires an initialized account"),
  ("UnbalancedInstruction",
    "sum of account balances before and after instruction do not match"),
  ("ModifiedProgramId", "instruction illegally modified the program id of an account"),
  ("ExternalAccountLamportSpend",
    "instruction spent from the balance of an account it does not own"),
  ("ExternalAccountDataModified", "instruction modified data of an account it does not own"),
  ("ReadonlyLamportChange", "instruction changed the balance of a read-only account"),
  ("ReadonlyDataModified", "instruction modified data of a read-only account"),
  ("DuplicateAccountIndex", "instruction contains duplicate accounts"),
  ("ExecutableModified", "instruction changed executable bit of an account"),
  ("RentEpochModified", "instruction modified rent epoch of an account"),
  ("NotEnoughAccountKeys", "insufficient account keys for instruction"),
  ("AccountDataSizeChanged",
    "program other than the account's owner changed the size of the account data"),
  ("AccountNotExecutable", "instruction expected an executable account"),
  ("AccountBorrowFailed",
    "instruction tries to borrow reference for an account which is already borrowed"),
  ("AccountBorrowOutstanding",
    "instruction left account with an outstanding borrowed reference"),
  ("DuplicateAccountOutOfSync",
    "instruction modifications of multiply-passed account differ"),
  ("InvalidError", "program returned invalid error code"),
  ("ExecutableDataModified", "instruction changed executable accounts data"),
  ("ExecutableLamportChange", "instruction changed the balance of an executable account"),
  ("ExecutableAccountNotRentExempt", "executable accounts must be rent exempt"),
  ("UnsupportedProgramId", "Unsupported program id"),
  ("CallDepth", "Cross-program invocation call depth too deep"),
  ("MissingAccount", "An account required by the instruction is missing"),
  ("ReentrancyNotAllowed",
    "Cross-program invocation reentrancy not allowed for this instruction"),
  ("MaxSeedLengthExceeded", "Length of the seed is too long for address generation"),
  ("InvalidSeeds", "Provided seeds do not result in a valid address"),
  ("InvalidRealloc", "Failed to reallocate account data"),
  ("ComputationalBudgetExceeded", "Computational budget exceeded"),
  ("PrivilegeEscalation",
    "Cross-program invocation with unauthorized signer or writable account"),
  ("ProgramEnvironmentSetupFailure", "Failed to create program execution environment"),
  ("ProgramFailedToComplete", "Program failed to complete"),
  ("ProgramFailedToCompile", "Program failed to compile"),
  ("Immutable", "Account is immutable"),
  ("IncorrectAuthority", "Incorrect authority provided"),
  ("AccountNotRentExempt",
    "An account does not have enough lamports to be rent-exempt"),
  ("InvalidAccountOwner", "Invalid account owner"),
  ("ArithmeticOverflow", "Program arithmetic overflowed"),
  ("UnsupportedSysvar", "Unsupported sysvar"),
  ("IllegalOwner", "Provided owner is not allowed"),
  ("MaxAccountsDataAllocationsExceeded",
    "Accounts data allocations exceeded the maximum allowed per transaction"),
  ("MaxAccountsExceeded", "Max accounts exceeded"),
  ("MaxInstructionTraceLengthExceeded", "Max instruction trace length exceeded"),
  ("BuiltinProgramsMustConsumeComputeUnits",
    "Builtin programs must consume compute units")]

def text : InstructionFault → String
  | plain description => description
  | custom code => "custom program error: 0x" ++ String.ofList (Nat.toDigits 16 code.toNat)
  | serialization detail => "Failed to serialize or deserialize account data: " ++ detail

/-- A fault is its name, or an object with its name and argument. -/
def ofJson? (v : Json) : Option InstructionFault :=
  match v with
  | .obj [("Custom", code)] => (uint32? code).map custom
  | .obj [("BorshIoError", detail)] => (string? detail).map serialization
  | v => (oneOfLoose? descriptions v).map plain

end InstructionFault

namespace TransactionFault

def descriptions : List (String × String) := [
  ("AccountInUse", "Account in use"),
  ("AccountLoadedTwice", "Account loaded twice"),
  ("AccountNotFound", "Attempt to debit an account but found no record of a prior credit."),
  ("ProgramAccountNotFound", "Attempt to load a program that does not exist"),
  ("InsufficientFundsForFee", "Insufficient funds for fee"),
  ("InvalidAccountForFee", "This account may not be used to pay transaction fees"),
  ("AlreadyProcessed", "This transaction has already been processed"),
  ("BlockhashNotFound", "Blockhash not found"),
  ("CallChainTooDeep", "Loader call chain is too deep"),
  ("MissingSignatureForFee", "Transaction requires a fee but has no signature present"),
  ("InvalidAccountIndex", "Transaction contains an invalid account reference"),
  ("SignatureFailure", "Transaction did not pass signature verification"),
  ("InvalidProgramForExecution", "This program may not be used for executing instructions"),
  ("SanitizeFailure", "Transaction failed to sanitize accounts offsets correctly"),
  ("ClusterMaintenance",
    "Transactions are currently disabled due to cluster maintenance"),
  ("AccountBorrowOutstanding",
    "Transaction processing left an account with an outstanding borrowed reference"),
  ("WouldExceedMaxBlockCostLimit", "Transaction would exceed max Block Cost Limit"),
  ("UnsupportedVersion", "Transaction version is unsupported"),
  ("InvalidWritableAccount", "Transaction loads a writable account that cannot be written"),
  ("WouldExceedMaxAccountCostLimit",
    "Transaction would exceed max account limit within the block"),
  ("WouldExceedAccountDataBlockLimit",
    "Transaction would exceed account data limit within the block"),
  ("TooManyAccountLocks", "Transaction locked too many accounts"),
  ("AddressLookupTableNotFound",
    "Transaction loads an address table account that doesn't exist"),
  ("InvalidAddressLookupTableOwner",
    "Transaction loads an address table account with an invalid owner"),
  ("InvalidAddressLookupTableData",
    "Transaction loads an address table account with invalid data"),
  ("InvalidAddressLookupTableIndex",
    "Transaction address table lookup uses an invalid index"),
  ("InvalidRentPayingAccount",
    "Transaction leaves an account with a lower balance than rent-exempt minimum"),
  ("WouldExceedMaxVoteCostLimit", "Transaction would exceed max Vote Cost Limit"),
  ("WouldExceedAccountDataTotalLimit",
    "Transaction would exceed total account data limit"),
  ("MaxLoadedAccountsDataSizeExceeded",
    "Transaction exceeded max loaded accounts data size cap"),
  ("InvalidLoadedAccountsDataSizeLimit",
    "LoadedAccountsDataSizeLimit set for transaction must be greater than 0."),
  ("ResanitizationNeeded", "ResanitizationNeeded"),
  ("UnbalancedTransaction",
    "Sum of account balances before and after transaction do not match")]

def text : TransactionFault → String
  | plain description => description
  | instruction index fault =>
    "Error processing Instruction " ++ index.toNat.repr ++ ": " ++ fault.text
  | duplicateInstruction index =>
    "Transaction contains a duplicate instruction (" ++ index.toNat.repr ++
      ") that is not allowed"
  | insufficientFundsForRent account =>
    "Transaction results in an account (" ++ account.toNat.repr ++
      ") with insufficient funds for rent"
  | executionRestricted account =>
    "Execution of the program referenced by account at index " ++ account.toNat.repr ++
      " is temporarily restricted."

private def accountIndex? (v : Json) : Option UInt8 := do
  let r ← Record.read ["account_index"] v
  r.required "account_index" uint8?

def ofJson? (v : Json) : Option TransactionFault :=
  match v with
  | .obj [("InstructionError", .arr [index, fault])] => do
    some (instruction (← uint8? index) (← InstructionFault.ofJson? fault))
  | .obj [("DuplicateInstruction", index)] => (uint8? index).map duplicateInstruction
  | .obj [("InsufficientFundsForRent", v)] => (accountIndex? v).map insufficientFundsForRent
  | .obj [("ProgramExecutionTemporarilyRestricted", v)] =>
    (accountIndex? v).map executionRestricted
  | v => (oneOfLoose? descriptions v).map plain

end TransactionFault
end TradeTracker
