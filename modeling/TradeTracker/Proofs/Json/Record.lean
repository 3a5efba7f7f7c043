import Mathlib.Data.List.Nodup
import TradeTracker.Json.Record
import TradeTracker.Proofs.Json.Text

/-! Writers and readers that give back what was written, from single numbers and texts to the
fields of a record. -/
namespace TradeTracker.Json
variable {α : Type} {decode : Decoder α} {write : α → Json}

/-- Whatever is written can be printed, is not the `null` that stands for nothing, and is read
back. -/
structure Restores (decode : Decoder α) (write : α → Json) : Prop where
  plain : ∀ a, (write a).Plain
  ne_null : ∀ a, write a ≠ null
  decode_write : ∀ a, decode (write a) = some a

private theorem natBelow?_ofNat {n bound : Nat} (h : n < bound) :
    natBelow? bound (ofNat n) = some n := by
  rw [ofNat, natBelow?, if_pos ⟨Int.natCast_nonneg n, Int.ofNat_lt.2 h⟩, Int.toNat_natCast]

theorem restores_uint8 : Restores uint8? fun n => ofNat n.toNat where
  plain _ := trivial
  ne_null _ := nofun
  decode_write n := by
    rw [uint8?, natBelow?_ofNat n.toNat_lt, Option.map_some, UInt8.ofNat_toNat]

theorem restores_uint64 : Restores uint64? fun n => ofNat n.toNat where
  plain _ := trivial
  ne_null _ := nofun
  decode_write n := by
    rw [uint64?, natBelow?_ofNat n.toNat_lt, Option.map_some, UInt64.ofNat_toNat]

theorem restores_int64 : Restores int64? fun n => ofInt n.toInt where
  plain _ := trivial
  ne_null _ := nofun
  decode_write n := by
    have hfits : Word.Fits n.toInt := ⟨n.le_toInt, n.toInt_le⟩
    rw [ofInt, int64?, if_pos hfits, Int64.ofInt_toInt]

theorem restores_string : Restores string? str where
  plain _ := trivial
  ne_null _ := nofun
  decode_write _ := rfl

/-- What is written as a name is read back where the name is listed for it. -/
theorem restores_oneOf {choices : List (String × α)} {name : α → String}
    (h : ∀ a, choices.lookup (name a) = some a) :
    Restores (oneOf? choices) fun a => str (name a) where
  plain _ := trivial
  ne_null _ := nofun
  decode_write := h

theorem plain_ofList (h : ∀ a, (write a).Plain) (items : List α) : (ofList write items).Plain := by
  induction items with
  | nil => trivial
  | cons a items ih => exact ⟨h a, ih⟩

theorem Restores.list (h : Restores decode write) : Restores (list? decode) (ofList write) where
  plain := plain_ofList h.plain
  ne_null _ := nofun
  decode_write := mapM_map_eq_some write h.decode_write

theorem Restores.plain_ofOption (h : Restores decode write) (value : Option α) :
    (ofOption write value).Plain := by
  cases value with
  | none => trivial
  | some a => exact h.plain a

section OptionalMember

theorem plainMembers_append {members others : List (String × Json)} (h : PlainMembers members)
    (hothers : PlainMembers others) : PlainMembers (members ++ others) := by
  induction members with
  | nil => exact hothers
  | cons _ members ih => exact ⟨h.1, ih h.2⟩

theorem Restores.plain_optionalMember (h : Restores decode write) (name : String)
    (value : Option α) : PlainMembers (optionalMember name write value) := by
  cases value with
  | none => trivial
  | some a => exact ⟨h.plain a, trivial⟩

theorem names_optionalMember (name : String) (write : α → Json) (value : Option α) :
    ((optionalMember name write value).map Prod.fst).Sublist [name] := by
  cases value with
  | none => exact List.nil_sublist _
  | some a => exact List.Sublist.refl _

theorem lookup_optionalMember (name other : String) (write : α → Json) (value : Option α) :
    (optionalMember other write value).lookup name =
      if name = other then value.map write else none := by
  cases value with
  | none => simp [optionalMember]
  | some a =>
    by_cases h : name = other
    · simp [optionalMember, h]
    · simp [optionalMember, List.lookup_cons, h, beq_eq_false_iff_ne.2 h]

end OptionalMember

namespace Record

private theorem repeats_eq_false {members : List (String × Json)} (h : (members.map Prod.fst).Nodup)
    (name : String) : repeats name members = false := by
  have hcount : (members.map Prod.fst).count name ≤ 1 := List.nodup_iff_count_le_one.1 h name
  rw [repeats, decide_eq_false_iff_not]
  rw [List.count, List.countP_map, List.countP_eq_length_filter] at hcount
  exact Nat.not_le.2 (Nat.lt_succ_of_le hcount)

variable {β : Type}

/-- An object with each of its fields once, and perhaps not all of them, is the record of them. -/
theorem read_obj_bind {names : List String} {members : List (String × Json)} (hnames : names.Nodup)
    (h : (members.map Prod.fst).Sublist names) (next : Record → Option β) :
    (read names (obj members) >>= next) = next ⟨true, members⟩ := by
  have hrepeats : names.any (repeats · members) = false := by
    rw [List.any_eq_false]
    intro name _
    rw [repeats_eq_false (hnames.sublist h)]
    exact Bool.false_ne_true
  rw [read, hrepeats]
  rfl

variable {r : Record} {name : String}

theorem required_bind (h : Restores decode write) {a : α} (hfield : r.field? name = some (write a))
    (next : α → Option β) : (r.required name decode >>= next) = next a := by
  rw [required, hfield, Option.bind_some, h.decode_write]
  rfl

theorem defaulted_bind (h : Restores decode write) {a : α} (hfield : r.field? name = some (write a))
    (default : α) (next : α → Option β) : (r.defaulted name default decode >>= next) = next a := by
  have hread : r.defaulted name default decode = some a := by
    rw [defaulted, hfield]
    exact h.decode_write a
  rw [hread]
  rfl

theorem optional_bind (h : Restores decode write) {value : Option α}
    (hfield : r.field? name = some (ofOption write value)) (next : Option α → Option β) :
    (r.optional name decode >>= next) = next value := by
  have hread : r.optional name decode = some value := by
    cases value with
    | none =>
      rw [optional, hfield]
      rfl
    | some a =>
      have hne := h.ne_null a
      have hread := h.decode_write a
      rw [optional, hfield, ofOption]
      generalize write a = v at hne hread
      cases v with
      | null => exact absurd rfl hne
      | _ => exact congrArg (Option.map some) hread
  rw [hread]
  rfl

/-- A member that was left out is read as nothing. -/
theorem optional_bind_omitted (h : Restores decode write) (value : Option α)
    (hfield : r.field? name = value.map write) (next : Option α → Option β) :
    (r.optional name decode >>= next) = next value := by
  cases value with
  | none =>
    rw [optional, hfield]
    rfl
  | some a => exact optional_bind h hfield next

theorem nullable_bind_omitted (h : Restores decode write) (value : Option α)
    (hnamed : r.named = true) (hfield : r.field? name = value.map write)
    (next : Option α → Option β) : (r.nullable name decode >>= next) = next value := by
  have hsame : r.nullable name decode = r.optional name decode := by
    rw [nullable, optional, hnamed]
    rfl
  rw [hsame, optional_bind_omitted h value hfield]

/-- What a field that may be left out is worth: nothing where it is `null` or missing, and otherwise
whatever `R` makes of it. -/
inductive Holds (r : Record) (name : String) (R : Json → α → Prop) : Option α → Prop
  | missing (hfield : r.field? name = none) : Holds r name R none
  | null (hfield : r.field? name = some .null) : Holds r name R none
  | given {v : Json} {a : α} (hfield : r.field? name = some v) (hne : v ≠ .null) (h : R v a) :
    Holds r name R (some a)

variable {R : Json → α → Prop} {value : Option α}

theorem holds_of_optional (hR : ∀ v a, decode v = some a → R v a)
    (h : r.optional name decode = some value) : r.Holds name R value := by
  unfold optional at h
  split at h
  case h_1 hfield =>
    cases h
    exact .missing hfield
  case h_2 hfield =>
    cases h
    exact .null hfield
  case h_3 v hne hfield =>
    obtain ⟨a, ha, rfl⟩ := Option.map_eq_some_iff.1 h
    exact .given hfield hne (hR v a ha)

theorem holds_of_nullable (hR : ∀ v a, decode v = some a → R v a)
    (h : r.nullable name decode = some value) : r.Holds name R value := by
  refine holds_of_optional hR ?_
  unfold nullable at h
  unfold optional
  split at h
  case h_1 =>
    split_ifs at h
    exact h
  case h_2 => exact h
  case h_3 => exact h

end Record
end TradeTracker.Json
