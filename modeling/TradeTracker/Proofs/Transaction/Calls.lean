import TradeTracker.Proofs.Transaction.Conversion

/-! What becomes of the calls that a node reports. A call by position is kept as it is; one that
names its program by address is kept where the address can be pointed at, and then points at it. -/
namespace TradeTracker

section Picked
variable {α β : Type} {R : α → β → Prop} {f : α → Option β}

/-- The second list has, in order, what becomes of those items of the first of which anything
does. -/
inductive Picked (R : α → β → Prop) : List α → List β → Prop
  | nil : Picked R [] []
  | keep {a : α} {b : β} {items : List α} {images : List β} (h : R a b)
      (rest : Picked R items images) : Picked R (a :: items) (b :: images)
  | drop {a : α} {items : List α} {images : List β} (h : ∀ b, ¬ R a b)
      (rest : Picked R items images) : Picked R (a :: items) images

private theorem picked_iff (hf : ∀ a b, f a = some b ↔ R a b) {items : List α} {images : List β} :
    Picked R items images ↔ items.filterMap f = images := by
  constructor
  · intro h
    induction h with
    | nil => rfl
    | keep h _ ih => rw [List.filterMap_cons_some ((hf _ _).2 h), ih]
    | @drop a _ _ h _ ih =>
      have hnone : f a = none := Option.eq_none_iff_forall_ne_some.2 fun b => mt (hf a b).1 (h b)
      rw [List.filterMap_cons_none hnone, ih]
  · rintro rfl
    induction items with
    | nil => exact .nil
    | cons a items ih =>
      cases ha : f a with
      | none =>
        rw [List.filterMap_cons_none ha]
        refine .drop (fun b hb => ?_) ih
        rw [(hf a b).2 hb] at ha
        cases ha
      | some b =>
        rw [List.filterMap_cons_some ha]
        exact .keep ((hf a b).1 ha) ih

end Picked

namespace ReportedCall
variable {keys : List Address} {text : String} {key : Address} {i : UInt8} {default depth : UInt8}
  {height : Option UInt32} {call : ReportedCall} {invocation : Invocation}

/-- A text denotes a key that stands at `i` and nowhere before. Positions of calls end at 255. -/
structure FirstAt (keys : List Address) (text : String) (key : Address) (i : UInt8) : Prop where
  read : Address.read text = .ok key
  getElem? : keys[i.toNat]? = some key
  first : ∀ j < i.toNat, keys[j]? ≠ some key

/-- The depth of a call: one less than its height, at most 255, or the default without one. -/
inductive DepthOf (default : UInt8) : Option UInt32 → UInt8 → Prop
  | reported {height : UInt32} {depth : UInt8}
      (h : (depth.toNat : Int) = min 255 (max 0 (height.toNat - 1))) :
      DepthOf default (some height) depth
  | missing : DepthOf default none default

inductive Becomes (keys : List Address) (default : UInt8) : ReportedCall → Invocation → Prop
  | compiled {call : CompiledCall} {depth : UInt8} (hdepth : DepthOf default call.height depth) :
      Becomes keys default (.compiled call) ⟨call.programIndex, call.accounts, call.data, depth⟩
  | parsed {text : String} {key : Address} {height : Option UInt32} {i depth : UInt8}
      (h : FirstAt keys text key i) (hdepth : DepthOf default height depth) :
      Becomes keys default (.parsed text height) ⟨i, [], "", depth⟩
  | addressed {text : String} {key : Address} {accounts : List String} {data : String}
      {height : Option UInt32} {i depth : UInt8} {positions : List UInt8}
      (h : FirstAt keys text key i)
      (haccounts : Picked (fun account position => ∃ key, FirstAt keys account key position)
        accounts positions)
      (hdepth : DepthOf default height depth) :
      Becomes keys default (.addressed text accounts data height) ⟨i, positions, data, depth⟩

def program? : ReportedCall → Option String
  | compiled _ => none
  | parsed program _ => some program
  | addressed program _ _ _ => some program

/-- A call is to a program by position, or by an address that can be pointed at. -/
inductive Reaches (keys : List Address) (program : Address) : ReportedCall → Prop
  | compiled {call : CompiledCall} (h : keys[call.programIndex.toNat]? = some program) :
      Reaches keys program (.compiled call)
  | named {call : ReportedCall} {text : String} {i : UInt8} (hname : call.program? = some text)
      (h : FirstAt keys text program i) : Reaches keys program call

private theorem position?_eq_some_iff :
    position? keys text = some i ↔ ∃ key, FirstAt keys text key i := by
  constructor
  · intro h
    obtain ⟨key, hread, h⟩ := Option.bind_eq_some_iff.1 h
    obtain ⟨n, hn, h⟩ := Option.bind_eq_some_iff.1 h
    split_ifs at h with hlt
    cases h
    obtain ⟨hlen, hget, hfirst⟩ := List.idxOf?_eq_some_iff.1 hn
    have htoNat : (UInt8.ofNat n).toNat = n := UInt8.toNat_ofNat_of_lt hlt
    refine ⟨key, Outcome.toOption_eq_some_iff.1 hread, ?_, ?_⟩
    · rw [htoNat, List.getElem?_eq_getElem hlen, hget]
    · intro j hj hkey
      rw [htoNat] at hj
      obtain ⟨_, hkey⟩ := List.getElem?_eq_some_iff.1 hkey
      exact hfirst j hj hkey
  · rintro ⟨key, hread, hget, hfirst⟩
    obtain ⟨hlen, hkey⟩ := List.getElem?_eq_some_iff.1 hget
    have hindex : keys.idxOf? key = some i.toNat := by
      refine List.idxOf?_eq_some_iff.2 ⟨hlen, hkey, fun j hj hsame => hfirst j hj ?_⟩
      rw [List.getElem?_eq_getElem (hj.trans hlen), hsame]
    have hread? : Address.read? text = some key := Outcome.toOption_eq_some_iff.2 hread
    simp only [position?, hread?, hindex, Option.bind_eq_bind, Option.bind_some]
    rw [if_pos i.toNat_lt, UInt8.ofNat_toNat]

private theorem depthOr_eq_iff : depthOr default height = depth ↔ DepthOf default height depth := by
  cases height with
  | none =>
    constructor
    · rintro rfl
      exact .missing
    · rintro ⟨⟩
      rfl
  | some height =>
    have hclamped : (depthOr default (some height)).toNat = min 255 (height.toNat - 1) := by
      rw [depthOr, UInt8.toNat_ofNat']
      omega
    constructor
    · rintro rfl
      exact .reported (by omega)
    · rintro ⟨hdepth⟩
      rw [← UInt8.toNat_inj]
      omega

private theorem invocation?_eq_some_iff :
    invocation? keys default call = some invocation ↔ Becomes keys default call invocation := by
  cases call with
  | compiled call =>
    rw [invocation?, Option.some_inj]
    constructor
    · rintro rfl
      exact .compiled (depthOr_eq_iff.1 rfl)
    · rintro ⟨hdepth⟩
      rw [depthOr_eq_iff.2 hdepth]
  | parsed program height =>
    rw [invocation?, Option.map_eq_some_iff]
    constructor
    · rintro ⟨i, hi, rfl⟩
      obtain ⟨key, hfirst⟩ := position?_eq_some_iff.1 hi
      exact .parsed hfirst (depthOr_eq_iff.1 rfl)
    · rintro (_ | ⟨hfirst, hdepth⟩)
      exact ⟨_, position?_eq_some_iff.2 ⟨_, hfirst⟩, by rw [depthOr_eq_iff.2 hdepth]⟩
  | addressed program accounts data height =>
    have haccounts (positions : List UInt8) :
        Picked (fun account position => ∃ key, FirstAt keys account key position) accounts
          positions ↔ accounts.filterMap (position? keys) = positions :=
      picked_iff fun _ _ => position?_eq_some_iff
    rw [invocation?, Option.map_eq_some_iff]
    constructor
    · rintro ⟨i, hi, rfl⟩
      obtain ⟨key, hfirst⟩ := position?_eq_some_iff.1 hi
      exact .addressed hfirst ((haccounts _).2 rfl) (depthOr_eq_iff.1 rfl)
    · rintro (_ | _ | ⟨hfirst, hpicked, hdepth⟩)
      refine ⟨_, position?_eq_some_iff.2 ⟨_, hfirst⟩, ?_⟩
      rw [(haccounts _).1 hpicked, depthOr_eq_iff.2 hdepth]

/-- A call is kept unless it names its program by an address that cannot be pointed at. -/
private theorem exists_becomes_iff (keys : List Address) (default : UInt8) (call : ReportedCall) :
    (∃ invocation, Becomes keys default call invocation) ↔
      ∀ text ∈ call.program?, ∃ key i, FirstAt keys text key i := by
  have hfound (text : String) : (∃ key i, FirstAt keys text key i) ↔
      ∃ i, position? keys text = some i := by
    rw [exists_comm]
    exact exists_congr fun i => position?_eq_some_iff.symm
  simp only [← invocation?_eq_some_iff, hfound]
  cases call with
  | compiled call => exact iff_of_true ⟨_, rfl⟩ nofun
  | parsed program height | addressed program accounts data height =>
    simp [invocation?, program?]

private theorem Becomes.program_of_name (h : Becomes keys default call invocation)
    (hname : call.program? = some text) :
    ∃ key, Address.read text = .ok key ∧ keys[invocation.programIndex.toNat]? = some key := by
  cases h with
  | compiled => cases hname
  | parsed hfirst =>
    cases hname
    exact ⟨_, hfirst.read, hfirst.getElem?⟩
  | addressed hfirst =>
    cases hname
    exact ⟨_, hfirst.read, hfirst.getElem?⟩

/-- A call reaches the program that it points at once it is a call by position. -/
private theorem reaches_iff (default : UInt8) {program : Address} : Reaches keys program call ↔
    ∃ invocation, Becomes keys default call invocation ∧
      keys[invocation.programIndex.toNat]? = some program := by
  constructor
  · rintro (hkey | ⟨hname, hfirst⟩)
    · exact ⟨_, .compiled (depthOr_eq_iff.1 rfl), hkey⟩
    · have hkept : ∀ text ∈ call.program?, ∃ key i, FirstAt keys text key i := by
        intro text htext
        cases hname.symm.trans htext
        exact ⟨_, _, hfirst⟩
      obtain ⟨invocation, hbecomes⟩ := (exists_becomes_iff keys default call).2 hkept
      obtain ⟨key, hread, hkey⟩ := hbecomes.program_of_name hname
      cases hread.symm.trans hfirst.read
      exact ⟨invocation, hbecomes, hkey⟩
  · rintro ⟨invocation, hbecomes, hkey⟩
    cases hbecomes with
    | compiled => exact .compiled hkey
    | parsed hfirst =>
      cases hkey.symm.trans hfirst.getElem?
      exact .named rfl hfirst
    | addressed hfirst =>
      cases hkey.symm.trans hfirst.getElem?
      exact .named rfl hfirst

end ReportedCall

namespace TransactionResponse

def outerCalls (response : TransactionResponse) : List ReportedCall :=
  match response.transaction with
  | .json _ message => message.calls
  | .otherEncoding => []

def innerCalls (response : TransactionResponse) : List ReportedCall :=
  ((response.metadata.map (·.innerCalls)).getD []).flatten

end TransactionResponse

namespace TransactionSnapshot
open ReportedCall
variable {response : TransactionResponse} {snapshot : TransactionSnapshot}

/-- A snapshot has the calls of a response. -/
structure Attributes (snapshot : TransactionSnapshot) (response : TransactionResponse) : Prop where
  invocations : ∃ outer inner, snapshot.invocations = outer ++ inner ∧
    Picked (Becomes snapshot.accountKeys 0) response.outerCalls outer ∧
    Picked (Becomes snapshot.accountKeys 1) response.innerCalls inner
  kept_iff : ∀ default call, (∃ invocation, Becomes snapshot.accountKeys default call invocation) ↔
    ∀ text ∈ call.program?, ∃ key i, FirstAt snapshot.accountKeys text key i
  programOf?_eq : ∀ default call invocation, Becomes snapshot.accountKeys default call invocation →
    ∀ text ∈ call.program?, ∃ key, Address.read text = .ok key ∧
      snapshot.programOf? invocation = some key
  invokes_iff : ∀ program, snapshot.invokes program = true ↔
    ∃ call ∈ response.outerCalls ++ response.innerCalls, Reaches snapshot.accountKeys program call

private theorem invocations_of_ofResponse (h : ofResponse response = .ok snapshot) :
    snapshot.invocations =
      response.outerCalls.filterMap (invocation? snapshot.accountKeys 0) ++
        response.innerCalls.filterMap (invocation? snapshot.accountKeys 1) := by
  unfold ofResponse at h
  split at h
  case h_1 => cases h
  case h_2 => cases h
  case h_3 htransaction =>
    obtain ⟨keys, -, h⟩ := Outcome.bind_eq_ok.1 h
    obtain ⟨metadata, -, h⟩ := Outcome.bind_eq_ok.1 h
    cases h
    rw [TransactionResponse.outerCalls, htransaction]
    rfl

private theorem any_image_iff {calls : List ReportedCall} {default : UInt8} {program : Address} :
    (calls.filterMap (invocation? snapshot.accountKeys default)).any
        (fun invocation => snapshot.programOf? invocation = some program) = true ↔
      ∃ call ∈ calls, Reaches snapshot.accountKeys program call := by
  rw [List.any_eq_true]
  constructor
  · rintro ⟨invocation, hmem, hprogram⟩
    obtain ⟨call, hcall, himage⟩ := List.mem_filterMap.1 hmem
    have hbecomes := invocation?_eq_some_iff.1 himage
    exact ⟨call, hcall, (reaches_iff default).2 ⟨invocation, hbecomes, of_decide_eq_true hprogram⟩⟩
  · rintro ⟨call, hcall, hreaches⟩
    obtain ⟨invocation, hbecomes, hprogram⟩ := (reaches_iff default).1 hreaches
    have himage := invocation?_eq_some_iff.2 hbecomes
    exact ⟨invocation, List.mem_filterMap.2 ⟨call, hcall, himage⟩, decide_eq_true hprogram⟩

private theorem invokes_iff_of_ofResponse (h : ofResponse response = .ok snapshot)
    (program : Address) :
    snapshot.invokes program = true ↔ ∃ call ∈ response.outerCalls ++ response.innerCalls,
      Reaches snapshot.accountKeys program call := by
  rw [invokes, invocations_of_ofResponse h, List.any_append, Bool.or_eq_true, any_image_iff,
    any_image_iff]
  simp only [List.mem_append, or_and_right, exists_or]

/-- Conversion attributes every call. -/
theorem attributes_ofResponse (h : ofResponse response = .ok snapshot) :
    snapshot.Attributes response where
  invocations := ⟨_, _, invocations_of_ofResponse h,
    (picked_iff fun _ _ => invocation?_eq_some_iff).2 rfl,
    (picked_iff fun _ _ => invocation?_eq_some_iff).2 rfl⟩
  kept_iff := exists_becomes_iff _
  programOf?_eq _ _ _ hbecomes _ hname := hbecomes.program_of_name hname
  invokes_iff := invokes_iff_of_ofResponse h

def nestedKeys : List Address := [default, ⟨List.replicate 32 9, rfl⟩]

def nestedMessage : ReportedMessage :=
  .parsed (nestedKeys.map Address.text)
    [.addressed (default : Address).text [(default : Address).text, "?"] "3Bxs4h" none]

def nested : TransactionResponse where
  slot := 287654321
  blockTime := some 1722470400
  transaction := .json ["5VERv8"] nestedMessage
  metadata := some ⟨none, [], [], [[.compiled ⟨1, [0], "", some 2⟩]], [], [], [], []⟩

/-- Both programs are reached. -/
theorem attributes_ofResponse_nested :
    ∃ snapshot, ofResponse nested = .ok snapshot ∧ snapshot.Attributes nested ∧
      ∀ program ∈ nestedKeys, snapshot.invokes program = true := by
  have htransaction : nested.transaction = .json ["5VERv8"] nestedMessage := rfl
  have hkeys : nestedMessage.accountKeys ++ nestedMessage.loadedKeys nested.metadata =
      nestedKeys.map Address.text := List.append_nil _
  have hfirst : FirstAt nestedKeys (default : Address).text default 0 :=
    ⟨Address.read_text _, rfl, fun _ hj => absurd hj (Nat.not_lt_zero _)⟩
  have h := ofResponse_json htransaction hkeys rfl
  have hattributes := attributes_ofResponse h
  refine ⟨_, h, hattributes, List.forall_mem_cons.2 ⟨?_, List.forall_mem_singleton.2 ?_⟩⟩
  · rw [hattributes.invokes_iff]
    exact ⟨_, List.mem_cons_self, .named rfl hfirst⟩
  · rw [hattributes.invokes_iff]
    exact ⟨_, List.mem_cons_of_mem _ List.mem_cons_self, .compiled rfl⟩

end TransactionSnapshot
end TradeTracker
