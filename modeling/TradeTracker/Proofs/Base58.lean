import Mathlib
import TradeTracker.Address
import TradeTracker.Proofs.Text.Digits

/-! Base-58 text gives back the bytes it was written from. The text is a number between two bases,
so leading zero bytes, which the number forgets, are carried beside it. -/
namespace TradeTracker.Base58

private theorem digitsBefore_eq (base : Nat) (hbase : 1 < base) (fuel n : Nat) (tail : List Nat)
    (hfuel : n ≤ fuel) :
    digitsBefore base fuel n tail = (Nat.digits base n).reverse ++ tail := by
  induction fuel generalizing n tail with
  | zero =>
    obtain rfl := Nat.le_zero.1 hfuel
    simp [digitsBefore]
  | succ fuel ih =>
    rw [digitsBefore]
    split
    · rename_i hzero
      simp [hzero]
    · rename_i hne
      have hpos := Nat.pos_of_ne_zero hne
      have hlt := Nat.div_lt_self hpos hbase
      rw [ih _ _ (by omega), Nat.digits_def' hbase hpos, List.reverse_cons, List.append_assoc,
        List.singleton_append]

private theorem toDigits_eq {base : Nat} (hbase : 1 < base) (n : Nat) :
    toDigits base n = (Nat.digits base n).reverse := by
  rw [toDigits, digitsBefore_eq base hbase n n [] (le_refl n), List.append_nil]

private theorem ofDigits_eq (base : Nat) (digits : List Nat) :
    ofDigits base digits = Nat.ofDigits base digits.reverse := by
  rw [ofDigits, Nat.ofDigits_eq_foldr, List.foldr_reverse]
  congr 1
  funext n d
  simp [Nat.add_comm]

private theorem ofDigits_toDigits {base : Nat} (hbase : 1 < base) (n : Nat) :
    ofDigits base (toDigits base n) = n := by
  rw [toDigits_eq hbase, ofDigits_eq, List.reverse_reverse, Nat.ofDigits_digits]

private theorem toDigits_lt {base : Nat} (hbase : 1 < base) {n d : Nat} (hd : d ∈ toDigits base n) :
    d < base := by
  rw [toDigits_eq hbase, List.mem_reverse] at hd
  exact Nat.digits_lt_base hbase hd

private theorem head?_toDigits_ne {base : Nat} (hbase : 1 < base) (n : Nat) :
    (toDigits base n).head? ≠ some 0 := by
  rw [toDigits_eq hbase, List.head?_reverse]
  intro hlast
  rcases Nat.eq_zero_or_pos n with rfl | hpos
  · simp at hlast
  · exact Nat.getLast_digit_ne_zero base hpos.ne' ((List.getLast_eq_iff_getLast?_eq_some _).2 hlast)

private theorem toDigits_ofDigits {base : Nat} (hbase : 1 < base) {digits : List Nat}
    (hlt : ∀ d ∈ digits, d < base) (hhead : digits.head? ≠ some 0) :
    toDigits base (ofDigits base digits) = digits := by
  rw [toDigits_eq hbase, ofDigits_eq, Nat.digits_ofDigits base hbase, List.reverse_reverse]
  · exact fun d hd => hlt d (List.mem_reverse.1 hd)
  · intro hne hzero
    rw [List.getLast_eq_iff_getLast?_eq_some, List.getLast?_reverse] at hzero
    exact hhead hzero

private theorem digitValue?_digit {n : Nat} (hn : n < 58) : digitValue? (digit n) = some n := by
  have hall : ∀ n < 58, digitValue? (digit n) = some n := by decide +kernel
  exact hall n hn

private theorem digit_of_digitValue? {c : Char} {n : Nat} (h : digitValue? c = some n) :
    digit n = c ∧ n < 58 := by
  obtain ⟨hlt, hget, -⟩ := List.idxOf?_eq_some_iff.1 h
  refine ⟨?_, hlt⟩
  rw [digit, List.getD_eq_getElem _ _ hlt, hget]

private theorem utf8Size_digit {n : Nat} (hn : n < 58) : (digit n).utf8Size = 1 := by
  have hall : ∀ n < 58, (digit n).utf8Size = 1 := by decide +kernel
  exact hall n hn

private theorem mapM_digitValue? (digits : List Nat) (hlt : ∀ d ∈ digits, d < 58) :
    (digits.map digit).mapM digitValue? = some digits := by
  induction digits with
  | nil => rfl
  | cons d digits ih =>
    rw [List.map_cons, List.mapM_cons, digitValue?_digit (hlt d List.mem_cons_self),
      ih fun e he => hlt e (List.mem_cons_of_mem d he)]
    rfl

private theorem digits_of_mapM_digitValue? {cs : List Char} {digits : List Nat}
    (h : cs.mapM digitValue? = some digits) : digits.map digit = cs ∧ ∀ d ∈ digits, d < 58 := by
  induction cs generalizing digits with
  | nil =>
    cases h
    exact ⟨rfl, nofun⟩
  | cons c cs ih =>
    rw [List.mapM_cons] at h
    obtain ⟨d, hd, h⟩ := Option.bind_eq_some_iff.1 h
    obtain ⟨rest, hrest, h⟩ := Option.bind_eq_some_iff.1 h
    cases h
    obtain ⟨hdigit, hlt⟩ := digit_of_digitValue? hd
    obtain ⟨hdigits, hlts⟩ := ih hrest
    refine ⟨by rw [List.map_cons, hdigit, hdigits], fun e he => ?_⟩
    obtain rfl | he := List.mem_cons.1 he
    · exact hlt
    · exact hlts e he

section LeadingZeros
variable {α : Type} [BEq α] [LawfulBEq α] (zero : α)

private theorem takeWhile_eq_replicate (items : List α) :
    items.takeWhile (· == zero) = List.replicate (items.takeWhile (· == zero)).length zero :=
  List.eq_replicate_iff.2 ⟨rfl, fun _ h => eq_of_beq (List.mem_takeWhile_imp (p := (· == zero)) h)⟩

private theorem beq_of_mem_replicate (z : Nat) :
    ∀ a ∈ List.replicate z zero, (a == zero) = true :=
  fun _ ha => beq_iff_eq.2 (List.eq_of_mem_replicate ha)

private theorem not_beq_of_head? {items : List α} (hhead : items.head? ≠ some zero) :
    ∀ a, items.head? = some a → ¬ (a == zero) = true := by
  intro a ha hzero
  exact hhead (ha.trans (congrArg some (eq_of_beq hzero)))

private theorem head?_dropWhile_ne (items : List α) :
    (items.dropWhile (· == zero)).head? ≠ some zero := by
  intro hhead
  have hnot := List.head?_dropWhile_not (· == zero) items
  rw [hhead] at hnot
  simp at hnot

end LeadingZeros

private def payload (bytes : List UInt8) : Nat :=
  ofDigits 256 ((bytes.dropWhile (· == 0)).map UInt8.toNat)

private theorem encode_eq (bytes : List UInt8) :
    encode bytes = (List.replicate (bytes.takeWhile (· == 0)).length 0 ++
      toDigits 58 (payload bytes)).map digit := by
  rw [List.map_append, List.map_replicate]
  rfl

private theorem values_lt (bytes : List UInt8) :
    ∀ d ∈ List.replicate (bytes.takeWhile (· == 0)).length 0 ++ toDigits 58 (payload bytes),
      d < 58 := by
  intro d hd
  rcases List.mem_append.1 hd with hd | hd
  · rw [List.eq_of_mem_replicate hd]
    decide
  · exact toDigits_lt (by decide) hd

/-- Reading the text of bytes gives the bytes. -/
theorem decode?_encode (bytes : List UInt8) : decode? (encode bytes) = some bytes := by
  have hhead := head?_toDigits_ne (show 1 < 58 by decide) (payload bytes)
  have hpayload : toDigits 256 (payload bytes) = (bytes.dropWhile (· == 0)).map UInt8.toNat := by
    refine toDigits_ofDigits (by decide) (fun d hd => ?_) fun hzero => ?_
    · obtain ⟨byte, -, rfl⟩ := List.mem_map.1 hd
      exact byte.toNat_lt
    · rw [List.head?_map, Option.map_eq_some_iff] at hzero
      obtain ⟨byte, hbyte, hzero⟩ := hzero
      obtain rfl : byte = 0 := UInt8.toNat_inj.1 hzero
      exact head?_dropWhile_ne 0 bytes hbyte
  rw [decode?, encode_eq, mapM_digitValue? _ (values_lt bytes)]
  simp only [Option.bind_eq_bind, Option.bind_some]
  have hzeros := beq_of_mem_replicate 0 (bytes.takeWhile (· == 0)).length
  have hends := not_beq_of_head? 0 hhead
  rw [Text.takeWhile_append_of_ends hzeros hends, Text.dropWhile_append_of_ends hzeros hends,
    ofDigits_toDigits (by decide), hpayload, List.length_replicate, List.map_map]
  have hbytes : (UInt8.ofNat ∘ UInt8.toNat) = id := funext fun _ => UInt8.ofNat_toNat
  rw [hbytes, List.map_id, ← takeWhile_eq_replicate, List.takeWhile_append_dropWhile]

/-- Every text that can be read is the one text of its bytes. -/
theorem encode_of_decode? {cs : List Char} {bytes : List UInt8} (h : decode? cs = some bytes) :
    encode bytes = cs := by
  obtain ⟨digits, hdigits, h⟩ := Option.bind_eq_some_iff.1 h
  obtain ⟨hcs, hlt⟩ := digits_of_mapM_digitValue? hdigits
  cases h
  generalize hnumber : ofDigits 58 (digits.dropWhile (· == 0)) = number
  have hbyte : ∀ d ∈ toDigits 256 number, (UInt8.ofNat d).toNat = d := fun d hd =>
    UInt8.toNat_ofNat_of_lt (toDigits_lt (by decide) hd)
  have hhead : ((toDigits 256 number).map UInt8.ofNat).head? ≠ some 0 := by
    rw [List.head?_map]
    intro hzero
    obtain ⟨d, hd, hzero⟩ := Option.map_eq_some_iff.1 hzero
    have hd0 := hbyte d (List.mem_of_head? hd)
    rw [hzero] at hd0
    obtain rfl : 0 = d := hd0
    exact head?_toDigits_ne (show 1 < 256 by decide) number hd
  have hzeros := beq_of_mem_replicate (0 : UInt8) (digits.takeWhile (· == 0)).length
  have hends := not_beq_of_head? 0 hhead
  have hpayload : payload (List.replicate (digits.takeWhile (· == 0)).length 0 ++
      (toDigits 256 number).map UInt8.ofNat) = number := by
    have hbytes : (toDigits 256 number).map (UInt8.toNat ∘ UInt8.ofNat) = toDigits 256 number :=
      (List.map_congr_left hbyte).trans (List.map_id _)
    rw [payload, Text.dropWhile_append_of_ends hzeros hends, List.map_map, hbytes,
      ofDigits_toDigits (by decide)]
  have hrest : toDigits 58 number = digits.dropWhile (· == 0) := by
    rw [← hnumber]
    exact toDigits_ofDigits (by decide) (fun d hd => hlt d ((List.dropWhile_sublist _).subset hd))
      (head?_dropWhile_ne 0 digits)
  rw [encode_eq, hpayload, hrest, Text.takeWhile_append_of_ends hzeros hends, List.length_replicate,
    ← takeWhile_eq_replicate, List.takeWhile_append_dropWhile, hcs]

private theorem payload_lt (bytes : List UInt8) :
    payload bytes < 256 ^ (bytes.length - (bytes.takeWhile (· == 0)).length) := by
  have hlength :=
    congrArg List.length (List.takeWhile_append_dropWhile (p := (· == 0)) (l := bytes))
  rw [List.length_append] at hlength
  have hlt : ∀ d ∈ ((bytes.dropWhile (· == 0)).map UInt8.toNat).reverse, d < 256 := by
    intro d hd
    obtain ⟨byte, -, rfl⟩ := List.mem_map.1 (List.mem_reverse.1 hd)
    exact byte.toNat_lt
  have hbound := Nat.ofDigits_lt_base_pow_length (by decide) hlt
  rw [List.length_reverse, List.length_map] at hbound
  rw [payload, ofDigits_eq, ← hlength, Nat.add_sub_cancel_left]
  exact hbound

private theorem length_encode_le {bytes : List UInt8} {limit : Nat}
    (hroom : ∀ z ≤ bytes.length, z ≤ limit ∧ 256 ^ (bytes.length - z) ≤ 58 ^ (limit - z)) :
    (encode bytes).length ≤ limit := by
  obtain ⟨hle, hpow⟩ := hroom _ (List.takeWhile_prefix (p := (· == 0)) (l := bytes)).length_le
  have hdigits := (Nat.digits_length_le_iff (by decide) _).2 ((payload_lt bytes).trans_le hpow)
  rw [encode_eq, List.length_map, List.length_append, List.length_replicate,
    toDigits_eq (by decide), List.length_reverse]
  omega

private theorem utf8Len_encode (bytes : List UInt8) :
    String.utf8Len (encode bytes) = (encode bytes).length := by
  have hdigits (digits : List Nat) (hlt : ∀ d ∈ digits, d < 58) :
      String.utf8Len (digits.map digit) = digits.length := by
    induction digits with
    | nil => rfl
    | cons d digits ih =>
      rw [List.map_cons, String.utf8Len_cons, utf8Size_digit (hlt d List.mem_cons_self),
        ih fun e he => hlt e (List.mem_cons_of_mem d he), List.length_cons]
  rw [encode_eq, hdigits _ (values_lt bytes), List.length_map]

end TradeTracker.Base58

namespace TradeTracker

private theorem not_lt_utf8ByteSize {bytes : List UInt8} {limit : Nat}
    (hroom : ∀ z ≤ bytes.length, z ≤ limit ∧ 256 ^ (bytes.length - z) ≤ 58 ^ (limit - z)) :
    ¬ limit < (String.ofList (Base58.encode bytes)).utf8ByteSize := by
  rw [String.utf8ByteSize_ofList, Base58.utf8Len_encode]
  exact Nat.not_lt.2 (Base58.length_encode_le hroom)

/-- An address is read back from its text. -/
@[simp] theorem Address.read_text (a : Address) : Address.read a.text = .ok a := by
  have hroom : ∀ z ≤ 32, z ≤ 44 ∧ 256 ^ (32 - z) ≤ 58 ^ (44 - z) := by decide +kernel
  have hsize : ¬ Address.maxTextBytes < a.text.utf8ByteSize :=
    not_lt_utf8ByteSize (by rw [a.length_bytes]; exact hroom)
  rw [Address.read, if_neg hsize, Address.text, String.toList_ofList, Base58.decode?_encode]
  exact dif_pos a.length_bytes

@[simp] theorem Address.read?_text (a : Address) : Address.read? a.text = some a := by
  rw [Address.read?, Address.read_text]
  rfl

/-- A text is read as an address exactly if it is the text of that address. -/
theorem Address.read_eq_ok_iff {text : String} {a : Address} :
    Address.read text = .ok a ↔ a.text = text := by
  constructor
  · intro h
    unfold Address.read at h
    split_ifs at h
    split at h
    case h_1 => cases h
    case h_2 bytes hbytes =>
      split_ifs at h
      cases h
      rw [Address.text, Base58.encode_of_decode? hbytes, String.ofList_toList]
  · rintro rfl
    exact Address.read_text a

theorem Address.not_mem_range_of_read_eq_error {text : String} {cause : AddressError}
    (h : Address.read text = .error cause) : text ∉ Set.range Address.text := by
  rintro ⟨a, ha⟩
  cases (Address.read_eq_ok_iff.2 ha).symm.trans h

namespace Signature

def filled (b : UInt8) : Signature := ⟨List.replicate 64 b, List.length_replicate⟩

/-- A signature is read back from its text. -/
@[simp] theorem read_text (s : Signature) : Signature.read s.text = .ok s := by
  have hroom : ∀ z ≤ 64, z ≤ 88 ∧ 256 ^ (64 - z) ≤ 58 ^ (88 - z) := by decide +kernel
  have hsize : ¬ Signature.maxTextBytes < s.text.utf8ByteSize :=
    not_lt_utf8ByteSize (by rw [s.length_bytes]; exact hroom)
  rw [Signature.read, if_neg hsize, Signature.text, String.toList_ofList, Base58.decode?_encode]
  exact dif_pos s.length_bytes

theorem text_injective : Function.Injective Signature.text := by
  intro s s' h
  exact Except.ok.inj ((read_text s).symm.trans ((congrArg Signature.read h).trans (read_text s')))

/-- A text that is read as a signature is the text of that signature. -/
theorem text_of_read {text : String} {s : Signature} (h : Signature.read text = .ok s) :
    s.text = text := by
  unfold Signature.read at h
  split_ifs at h
  split at h
  case h_1 => cases h
  case h_2 bytes hbytes =>
    split_ifs at h
    cases h
    rw [Signature.text, Base58.encode_of_decode? hbytes, String.ofList_toList]

end Signature
end TradeTracker
