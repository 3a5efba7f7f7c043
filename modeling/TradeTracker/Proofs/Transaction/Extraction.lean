import TradeTracker.Proofs.Json.Record
import TradeTracker.Proofs.Transaction.Conversion
import TradeTracker.Transaction.ResponseJson

/-! When a response has a snapshot, and what the snapshot keeps of it. Every text that stands for an
address has to be one, whether anything points at it or not; calls never stand in the way. -/
namespace TradeTracker
open Json

structure TokenBalance.Keeps (balance : TokenBalance) (reported : ReportedBalance) : Prop where
  accountIndex_eq : balance.accountIndex = reported.accountIndex
  mint_text : balance.mint.text = reported.mint
  amount_eq : balance.amount = reported.amount
  decimals_eq : balance.decimals = reported.decimals

/-- The same balances, entry by entry, and an error exactly if the node gives one. -/
structure TransactionMeta.Keeps (m : TransactionMeta) (reported : ReportedMeta) : Prop where
  error_isSome : m.error.isSome = reported.fault.isSome
  preBalances_eq : m.preBalances = reported.preBalances
  postBalances_eq : m.postBalances = reported.postBalances
  preTokenBalances : List.Forall₂ TokenBalance.Keeps m.preTokenBalances reported.preTokenBalances
  postTokenBalances : List.Forall₂ TokenBalance.Keeps m.postTokenBalances reported.postTokenBalances

/-- Keys, times and balances of the response. A raw message takes the loaded keys from the
metadata, where a parsed one has them in its list already. -/
structure TransactionSnapshot.Keeps (snapshot : TransactionSnapshot)
    (response : TransactionResponse) : Prop where
  signature : ∃ others message,
    response.transaction = .json (snapshot.signature :: others) message
  slot_eq : snapshot.slot = response.slot
  blockTime_eq : snapshot.blockTime = response.blockTime
  keys_of_raw : ∀ signatures keys calls, response.transaction = .json signatures (.raw keys calls) →
    snapshot.accountKeys.map Address.text = keys ++
      ((response.metadata.map (·.loadedWritable)).getD [] ++
        (response.metadata.map (·.loadedReadonly)).getD [])
  keys_of_parsed : ∀ signatures keys calls,
    response.transaction = .json signatures (.parsed keys calls) →
      snapshot.accountKeys.map Address.text = keys
  metadata : Option.Rel TransactionMeta.Keeps snapshot.metadata response.metadata

namespace TransactionResponse

/-- A response in the one readable encoding that still has no snapshot. -/
inductive Unparsable (response : TransactionResponse) : Prop
  | noSignature {message : ReportedMessage} (h : response.transaction = .json [] message)
  | listedKey {signatures : List String} {message : ReportedMessage} {text : String}
      (h : response.transaction = .json signatures message) (hmem : text ∈ message.accountKeys)
      (hbad : text ∉ Set.range Address.text)
  | loadedKey {signatures keys : List String} {calls : List CompiledCall} {m : ReportedMeta}
      {text : String} (h : response.transaction = .json signatures (.raw keys calls))
      (hm : response.metadata = some m) (hmem : text ∈ m.loadedWritable ++ m.loadedReadonly)
      (hbad : text ∉ Set.range Address.text)
  | mint {signatures : List String} {message : ReportedMessage} {m : ReportedMeta}
      {balance : ReportedBalance} (h : response.transaction = .json signatures message)
      (hm : response.metadata = some m)
      (hmem : balance ∈ m.preTokenBalances ++ m.postTokenBalances)
      (hbad : balance.mint ∉ Set.range Address.text)

end TransactionResponse

/-- The fields that an execution report is made of. Lists that are `null` or missing are empty. -/
structure ReportedMeta.GivenBy (r : Record) (m : ReportedMeta) : Prop where
  fault : r.Holds "err" (fun v fault => TransactionFault.ofJson? v = some fault) m.fault
  preBalances : r.required "preBalances" (list? uint64?) = some m.preBalances
  postBalances : r.required "postBalances" (list? uint64?) = some m.postBalances
  innerCalls : ∃ given, m.innerCalls = given.getD [] ∧ r.Holds "innerInstructions"
    (fun v groups => list? ReportedCall.groupOfJson? v = some groups) given
  preTokenBalances : ∃ given, m.preTokenBalances = given.getD [] ∧ r.Holds "preTokenBalances"
    (fun v balances => list? ReportedBalance.ofJson? v = some balances) given
  postTokenBalances : ∃ given, m.postTokenBalances = given.getD [] ∧ r.Holds "postTokenBalances"
    (fun v balances => list? ReportedBalance.ofJson? v = some balances) given
  loaded : ∃ given, m.loadedWritable = (given.map Prod.fst).getD [] ∧
    m.loadedReadonly = (given.map Prod.snd).getD [] ∧ r.Holds "loadedAddresses"
      (fun v keys => ReportedMeta.loadedOfJson? v = some keys) given

structure TransactionResponse.GivenBy (r : Record) (response : TransactionResponse) : Prop where
  slot : r.required "slot" uint64? = some response.slot
  transaction : r.required "transaction" ReportedTransaction.ofJson? = some response.transaction
  blockTime : r.Holds "blockTime" (fun v time => int64? v = some time) response.blockTime
  metadata : r.Holds "meta" (fun v m => ∃ r, Record.read ReportedMeta.fieldNames v = some r ∧
    m.GivenBy r) response.metadata

private theorem ReportedMeta.givenBy_of_ofJson? {v : Json} {m : ReportedMeta}
    (h : ReportedMeta.ofJson? v = some m) :
    ∃ r, Record.read fieldNames v = some r ∧ m.GivenBy r := by
  obtain ⟨r, hr, h⟩ := Option.bind_eq_some_iff.1 h
  obtain ⟨fault, hfault, h⟩ := Option.bind_eq_some_iff.1 h
  obtain ⟨status, -, h⟩ := Option.bind_eq_some_iff.1 h
  obtain ⟨fee, -, h⟩ := Option.bind_eq_some_iff.1 h
  obtain ⟨preBalances, hpreBalances, h⟩ := Option.bind_eq_some_iff.1 h
  obtain ⟨postBalances, hpostBalances, h⟩ := Option.bind_eq_some_iff.1 h
  obtain ⟨inner, hinner, h⟩ := Option.bind_eq_some_iff.1 h
  obtain ⟨log, -, h⟩ := Option.bind_eq_some_iff.1 h
  obtain ⟨pre, hpre, h⟩ := Option.bind_eq_some_iff.1 h
  obtain ⟨post, hpost, h⟩ := Option.bind_eq_some_iff.1 h
  obtain ⟨rewards, -, h⟩ := Option.bind_eq_some_iff.1 h
  obtain ⟨loaded, hloaded, h⟩ := Option.bind_eq_some_iff.1 h
  obtain ⟨returned, -, h⟩ := Option.bind_eq_some_iff.1 h
  obtain ⟨units, -, h⟩ := Option.bind_eq_some_iff.1 h
  cases h
  refine ⟨r, hr, ?_⟩
  constructor
  · exact Record.holds_of_nullable (fun _ _ ha => ha) hfault
  · exact hpreBalances
  · exact hpostBalances
  · exact ⟨inner, rfl, Record.holds_of_optional (fun _ _ ha => ha) hinner⟩
  · exact ⟨pre, rfl, Record.holds_of_optional (fun _ _ ha => ha) hpre⟩
  · exact ⟨post, rfl, Record.holds_of_optional (fun _ _ ha => ha) hpost⟩
  · exact ⟨loaded, rfl, rfl, Record.holds_of_optional (fun _ _ ha => ha) hloaded⟩

namespace TransactionResponse

/-- The fields of a response in their fixed order. -/
def fieldNames : List String := ["slot", "transaction", "meta", "version", "blockTime"]

private theorem givenBy_of_ofJson? {v : Json} {response : TransactionResponse}
    (h : ofJson? v = some response) :
    ∃ r, Record.read fieldNames v = some r ∧ response.GivenBy r := by
  unfold ofJson? at h
  split at h
  case h_2 => cases h
  case h_1 members =>
    obtain ⟨r, hr, h⟩ := Option.bind_eq_some_iff.1 h
    obtain ⟨slot, hslot, h⟩ := Option.bind_eq_some_iff.1 h
    obtain ⟨transaction, htransaction, h⟩ := Option.bind_eq_some_iff.1 h
    obtain ⟨metadata, hmetadata, h⟩ := Option.bind_eq_some_iff.1 h
    obtain ⟨version, -, h⟩ := Option.bind_eq_some_iff.1 h
    obtain ⟨blockTime, hblockTime, h⟩ := Option.bind_eq_some_iff.1 h
    cases h
    refine ⟨r, hr, ?_⟩
    constructor
    · exact hslot
    · exact htransaction
    · exact Record.holds_of_optional (fun _ _ ha => ha) hblockTime
    · exact Record.holds_of_optional (fun _ _ => ReportedMeta.givenBy_of_ofJson?) hmetadata

end TransactionResponse

namespace TransactionSnapshot
variable {response : TransactionResponse} {snapshot : TransactionSnapshot} {e : ConversionError}

private theorem readKeys_eq_ok_iff {texts : List String} {keys : List Address} :
    readKeys texts = .ok keys ↔ keys.map Address.text = texts := by
  constructor
  · intro h
    have hread := Outcome.mapM_eq_ok_iff.1 h
    simp only [Outcome.mapError_eq_ok, Address.read_eq_ok_iff] at hread
    have htexts : List.Forall₂ Eq (keys.map Address.text) texts :=
      List.forall₂_map_left_iff.2 hread.flip
    rwa [List.forall₂_eq_eq_eq] at htexts
  · rintro rfl
    exact readKeys_map_text keys

private theorem exists_of_readKeys_eq_error {texts : List String} (h : readKeys texts = .error e) :
    e.isForm = false ∧ ∃ text ∈ texts, text ∉ Set.range Address.text := by
  obtain ⟨text, hmem, htext⟩ := Outcome.exists_of_mapM_eq_error h
  obtain ⟨cause, hcause, rfl⟩ := Outcome.mapError_eq_error.1 htext
  exact ⟨rfl, text, hmem, Address.not_mem_range_of_read_eq_error hcause⟩

private theorem keeps_of_readBalance {reported : ReportedBalance} {balance : TokenBalance}
    (h : readBalance reported = .ok balance) : balance.Keeps reported := by
  unfold readBalance at h
  split at h
  case h_1 mint hmint =>
    cases h
    exact ⟨rfl, Address.read_eq_ok_iff.1 hmint, rfl, rfl⟩
  case h_2 => cases h

private theorem mint_of_readBalance_eq_error {reported : ReportedBalance}
    (h : readBalance reported = .error e) :
    e.isForm = false ∧ reported.mint ∉ Set.range Address.text := by
  unfold readBalance at h
  split at h
  case h_1 => cases h
  case h_2 cause hcause =>
    cases h
    exact ⟨rfl, Address.not_mem_range_of_read_eq_error hcause⟩

private theorem keeps_of_mapM_readBalance {reported : List ReportedBalance}
    {balances : List TokenBalance} (h : reported.mapM readBalance = .ok balances) :
    List.Forall₂ TokenBalance.Keeps balances reported :=
  (Outcome.mapM_eq_ok_iff.1 h).flip.imp fun _ _ => keeps_of_readBalance

private theorem exists_of_mapM_readBalance_eq_error {reported : List ReportedBalance}
    (h : reported.mapM readBalance = .error e) :
    e.isForm = false ∧ ∃ balance ∈ reported, balance.mint ∉ Set.range Address.text := by
  obtain ⟨balance, hmem, hbalance⟩ := Outcome.exists_of_mapM_eq_error h
  obtain ⟨hform, hmint⟩ := mint_of_readBalance_eq_error hbalance
  exact ⟨hform, balance, hmem, hmint⟩

private theorem keeps_of_readMeta {reported : ReportedMeta} {m : TransactionMeta}
    (h : readMeta reported = .ok m) : m.Keeps reported := by
  obtain ⟨pre, hpre, h⟩ := Outcome.bind_eq_ok.1 h
  obtain ⟨post, hpost, h⟩ := Outcome.bind_eq_ok.1 h
  cases h
  constructor
  · exact Option.isSome_map
  · rfl
  · rfl
  · exact keeps_of_mapM_readBalance hpre
  · exact keeps_of_mapM_readBalance hpost

private theorem exists_of_readMeta_eq_error {reported : ReportedMeta}
    (h : readMeta reported = .error e) :
    e.isForm = false ∧ ∃ balance ∈ reported.preTokenBalances ++ reported.postTokenBalances,
      balance.mint ∉ Set.range Address.text := by
  rcases Outcome.bind_eq_error.1 h with hpre | ⟨pre, -, h⟩
  · obtain ⟨hform, balance, hmem, hmint⟩ := exists_of_mapM_readBalance_eq_error hpre
    exact ⟨hform, balance, List.mem_append_left _ hmem, hmint⟩
  · rcases Outcome.bind_eq_error.1 h with hpost | ⟨post, -, h⟩
    · obtain ⟨hform, balance, hmem, hmint⟩ := exists_of_mapM_readBalance_eq_error hpost
      exact ⟨hform, balance, List.mem_append_right _ hmem, hmint⟩
    · cases h

private theorem keeps_of_mapM_readMeta {reported : Option ReportedMeta}
    {metadata : Option TransactionMeta} (h : reported.mapM readMeta = .ok metadata) :
    Option.Rel TransactionMeta.Keeps metadata reported := by
  cases reported with
  | none =>
    cases h
    exact .none
  | some reported =>
    obtain ⟨m, hm, h⟩ := Outcome.bind_eq_ok.1 h
    cases h
    exact .some (keeps_of_readMeta hm)

private theorem exists_of_mapM_readMeta_eq_error {reported : Option ReportedMeta}
    (h : reported.mapM readMeta = .error e) :
    e.isForm = false ∧ ∃ m, reported = some m ∧
      ∃ balance ∈ m.preTokenBalances ++ m.postTokenBalances,
        balance.mint ∉ Set.range Address.text := by
  cases reported with
  | none => cases h
  | some m =>
    rcases Outcome.bind_eq_error.1 h with hread | ⟨_, -, h⟩
    · obtain ⟨hform, hbad⟩ := exists_of_readMeta_eq_error hread
      exact ⟨hform, m, rfl, hbad⟩
    · cases h

private theorem keeps_of_ofResponse (h : ofResponse response = .ok snapshot) :
    snapshot.Keeps response := by
  unfold ofResponse at h
  split at h
  case h_1 => cases h
  case h_2 => cases h
  case h_3 signature others message htransaction =>
    obtain ⟨keys, hkeys, h⟩ := Outcome.bind_eq_ok.1 h
    obtain ⟨metadata, hmetadata, h⟩ := Outcome.bind_eq_ok.1 h
    cases h
    have htexts := readKeys_eq_ok_iff.1 hkeys
    constructor
    · exact ⟨others, message, htransaction⟩
    · rfl
    · rfl
    · intro signatures listed calls hraw
      cases htransaction.symm.trans hraw
      rw [htexts]
      cases response.metadata with
      | none => rfl
      | some m => rfl
    · intro signatures listed calls hparsed
      cases htransaction.symm.trans hparsed
      exact htexts.trans (List.append_nil listed)
    · exact keeps_of_mapM_readMeta hmetadata

private theorem fault_of_ofResponse_eq_error (h : ofResponse response = .error e) :
    (e.isForm = true ∧ response.transaction = .otherEncoding) ∨
      (e.isForm = false ∧ response.Unparsable) := by
  unfold ofResponse at h
  split at h
  case h_1 htransaction =>
    cases h
    exact .inl ⟨rfl, htransaction⟩
  case h_2 htransaction =>
    cases h
    exact .inr ⟨rfl, .noSignature htransaction⟩
  case h_3 signature others message htransaction =>
    rcases Outcome.bind_eq_error.1 h with hkeys | ⟨keys, -, h⟩
    · obtain ⟨hform, text, hmem, hbad⟩ := exists_of_readKeys_eq_error hkeys
      rcases List.mem_append.1 hmem with hlisted | hloaded
      · exact .inr ⟨hform, .listedKey htransaction hlisted hbad⟩
      · unfold ReportedMessage.loadedKeys at hloaded
        split at hloaded
        case h_1 m hm => exact .inr ⟨hform, .loadedKey htransaction hm hloaded hbad⟩
        case h_2 => cases hloaded
    · rcases Outcome.bind_eq_error.1 h with hmetadata | ⟨metadata, -, h⟩
      · obtain ⟨hform, m, hm, balance, hmem, hbad⟩ := exists_of_mapM_readMeta_eq_error hmetadata
        exact .inr ⟨hform, .mint htransaction hm hmem hbad⟩
      · cases h

private theorem transaction_ne_of_unparsable (h : response.Unparsable) :
    response.transaction ≠ .otherEncoding := by
  intro hother
  cases h with
  | noSignature h => cases h.symm.trans hother
  | listedKey h => cases h.symm.trans hother
  | loadedKey h => cases h.symm.trans hother
  | mint h => cases h.symm.trans hother

private theorem mint_mem_range {balances : List TokenBalance} {reported : List ReportedBalance}
    (h : List.Forall₂ TokenBalance.Keeps balances reported) {balance : ReportedBalance}
    (hmem : balance ∈ reported) : balance.mint ∈ Set.range Address.text := by
  obtain ⟨kept, -, hkept⟩ := Outcome.exists_of_mem_forall₂ h hmem
  exact ⟨kept.mint, hkept.mint_text⟩

private theorem mem_range_of_map_text {keys : List Address} {texts : List String}
    (h : keys.map Address.text = texts) {text : String} (hmem : text ∈ texts) :
    text ∈ Set.range Address.text := by
  obtain ⟨key, -, hkey⟩ := List.mem_map.1 (h ▸ hmem)
  exact ⟨key, hkey⟩

private theorem Keeps.not_unparsable (h : snapshot.Keeps response) : ¬ response.Unparsable := by
  intro hunparsable
  cases hunparsable with
  | noSignature htransaction =>
    obtain ⟨others, message, hsigned⟩ := h.signature
    cases htransaction.symm.trans hsigned
  | @listedKey signatures message text htransaction hmem hbad =>
    cases message with
    | raw keys calls =>
      have hkeys := h.keys_of_raw _ _ _ htransaction
      exact hbad (mem_range_of_map_text hkeys (List.mem_append_left _ hmem))
    | parsed keys calls =>
      exact hbad (mem_range_of_map_text (h.keys_of_parsed _ _ _ htransaction) hmem)
  | loadedKey htransaction hm hmem hbad =>
    have hkeys := h.keys_of_raw _ _ _ htransaction
    rw [hm] at hkeys
    exact hbad (mem_range_of_map_text hkeys (List.mem_append_right _ hmem))
  | mint htransaction hm hmem hbad =>
    rcases Outcome.rel_cases h.metadata with ⟨-, hnone⟩ | ⟨kept, reported, -, hreported, hkeeps⟩
    · cases hm.symm.trans hnone
    · cases hm.symm.trans hreported
      rcases List.mem_append.1 hmem with hpre | hpost
      · exact hbad (mint_mem_range hkeeps.preTokenBalances hpre)
      · exact hbad (mint_mem_range hkeeps.postTokenBalances hpost)

private theorem Keeps.transaction_ne (h : snapshot.Keeps response) :
    response.transaction ≠ .otherEncoding := by
  obtain ⟨others, message, hsigned⟩ := h.signature
  intro hother
  cases hsigned.symm.trans hother

/-- Another encoding is refused for its form and what cannot be parsed for that. All else has a
snapshot, and every snapshot keeps its response. -/
theorem ofResponse_decides (response : TransactionResponse) :
    ((∃ e, ofResponse response = .error e ∧ e.isForm = true) ↔
        response.transaction = .otherEncoding) ∧
      ((∃ e, ofResponse response = .error e ∧ e.isForm = false) ↔ response.Unparsable) ∧
      ((∃ snapshot, ofResponse response = .ok snapshot) ↔
        response.transaction ≠ .otherEncoding ∧ ¬ response.Unparsable) ∧
      (∀ snapshot, ofResponse response = .ok snapshot → snapshot.Keeps response) ∧
      ∀ v, TransactionResponse.ofJson? v = some response →
        ∃ r, Record.read TransactionResponse.fieldNames v = some r ∧ response.GivenBy r := by
  refine ⟨?_, ?_, ?_, fun _ => keeps_of_ofResponse, fun _ => TransactionResponse.givenBy_of_ofJson?⟩
  · constructor
    · rintro ⟨e, he, hform⟩
      rcases fault_of_ofResponse_eq_error he with ⟨-, hother⟩ | ⟨hparse, -⟩
      · exact hother
      · cases hform.symm.trans hparse
    · intro hother
      exact ⟨.otherEncoding, by rw [ofResponse, hother], rfl⟩
  · constructor
    · rintro ⟨e, he, hparse⟩
      rcases fault_of_ofResponse_eq_error he with ⟨hform, -⟩ | ⟨-, hunparsable⟩
      · cases hform.symm.trans hparse
      · exact hunparsable
    · intro hunparsable
      cases houtcome : ofResponse response with
      | ok snapshot => exact absurd hunparsable (keeps_of_ofResponse houtcome).not_unparsable
      | error e =>
        rcases fault_of_ofResponse_eq_error houtcome with ⟨-, hother⟩ | ⟨hparse, -⟩
        · exact absurd hother (transaction_ne_of_unparsable hunparsable)
        · exact ⟨e, rfl, hparse⟩
  · constructor
    · rintro ⟨snapshot, h⟩
      have hkeeps := keeps_of_ofResponse h
      exact ⟨hkeeps.transaction_ne, hkeeps.not_unparsable⟩
    · rintro ⟨hother, hparsable⟩
      cases houtcome : ofResponse response with
      | ok snapshot => exact ⟨snapshot, rfl⟩
      | error e =>
        rcases fault_of_ofResponse_eq_error houtcome with ⟨-, h⟩ | ⟨-, h⟩
        · exact absurd h hother
        · exact absurd h hparsable

/-- A report of one account, with a loaded key that is no address. Of the token balances one list is
`null` and the other is missing. -/
def strayReport : Json :=
  .obj [("slot", ofNat 287654321), ("transaction", .obj [("signatures", .arr [.str "5VERv8"]),
    ("message", .obj [("accountKeys", .arr [.obj [
      ("pubkey", .str "11111111111111111111111111111111"), ("writable", .bool true),
      ("signer", .bool true)]]), ("recentBlockhash", .str ""), ("instructions", .arr [])])]),
    ("meta", .obj [("err", .null), ("status", .obj [("Ok", .null)]), ("fee", ofNat 5000),
      ("preBalances", .arr [ofNat 10000]), ("postBalances", .arr [ofNat 5000]),
      ("preTokenBalances", .null),
      ("loadedAddresses", .obj [("writable", .arr [.str "?"]), ("readonly", .arr [])])])]

def stray (message : List String → ReportedMessage) : TransactionResponse where
  slot := 287654321
  blockTime := none
  transaction := .json ["5VERv8"] (message ["11111111111111111111111111111111"])
  metadata := some ⟨none, [10000], [5000], [], [], [], ["?"], []⟩

private theorem ofJson?_strayReport :
    TransactionResponse.ofJson? strayReport = some (stray (.parsed · [])) := by
  decide +kernel

/-- The stray key is in the way where the message takes it for one of its own, and only there. -/
theorem ofResponse_decides_stray :
    (∃ snapshot, ofResponse (stray (.parsed · [])) = .ok snapshot ∧
      snapshot.accountKeys.map Address.text = ["11111111111111111111111111111111"]) ∧
    (∃ e, ofResponse (stray (.raw · [])) = .error e ∧ e.isForm = false) ∧
    ∃ r, Record.read TransactionResponse.fieldNames strayReport = some r ∧
      (stray (.parsed · [])).GivenBy r := by
  obtain ⟨-, -, -, hkeeps, hgiven⟩ := ofResponse_decides (stray (.parsed · []))
  obtain ⟨-, hraw, -⟩ := ofResponse_decides (stray (.raw · []))
  refine ⟨?_, hraw.2 ?_, hgiven _ ofJson?_strayReport⟩
  · have htransaction : (stray (.parsed · [])).transaction =
        .json ["5VERv8"] (.parsed ["11111111111111111111111111111111"] []) := rfl
    have hkeys : ["11111111111111111111111111111111"] ++ [] =
        [(default : Address)].map Address.text := by decide
    have h := ofResponse_json htransaction hkeys rfl
    exact ⟨_, h, (hkeeps _ h).keys_of_parsed _ _ _ rfl⟩
  · have hstray : Address.read "?" = .error .notBase58 := by decide
    exact .loadedKey rfl rfl List.mem_cons_self (Address.not_mem_range_of_read_eq_error hstray)

end TransactionSnapshot
end TradeTracker
