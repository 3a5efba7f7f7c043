import TradeTracker.Json.Reader
import TradeTracker.Proofs.Json.Token

/-! A printed value is read back, in the compact and in the indented form. Both forms spell one
token sequence, and the reader makes the value of it again. -/
namespace TradeTracker.Json

mutual

/-- Nothing but texts, whole numbers, truth values, `null`, and lists and records of such. -/
def Plain : Json → Prop
  | num (.written _) | unpaired => False
  | arr items => PlainItems items
  | obj members => PlainMembers members
  | _ => True

def PlainItems : List Json → Prop
  | [] => True
  | item :: items => item.Plain ∧ PlainItems items

def PlainMembers : List (String × Json) → Prop
  | [] => True
  | (_, value) :: members => value.Plain ∧ PlainMembers members

end

mutual

def spelling : Json → List Token
  | arr items => .openArray :: commaSeparated (itemSpellings items) ++ [.closeArray]
  | obj members => .openObject :: commaSeparated (memberSpellings members) ++ [.closeObject]
  | v => [.scalar v]

def itemSpellings : List Json → List (List Token)
  | [] => []
  | item :: items => spelling item :: itemSpellings items

def memberSpellings : List (String × Json) → List (List Token)
  | [] => []
  | (name, value) :: members =>
    (.scalar (str name) :: .colon :: spelling value) :: memberSpellings members

end

section Printing
variable {opening closing : Char} {openToken closeToken : Token} {parts : List (List Char)}
  {tokens : List (List Token)}

private theorem spells_member (name : String) (gap : List Char) {value : List Char}
    {own : List Token} (hgap : ∀ c ∈ gap, isSpace c = true) (h : Spells value own) :
    Spells (stringLiteral name ++ ':' :: (gap ++ value)) (.scalar (str name) :: .colon :: own) := by
  intro rest more hrest hmore
  have hvalue := Reads.blanks hgap (h rest more hrest hmore)
  have hcolon : Reads (':' :: (gap ++ (value ++ rest))) (.colon :: (own ++ more)) :=
    Reads.mark rfl (by decide) hvalue
  have hname := spells_stringLiteral name _ _ (delimited_cons _ (by decide) (by decide)) hcolon
  simpa only [List.append_assoc, List.cons_append, List.nil_append] using hname

private theorem spells_compactParts (hopen : mark? opening = some openToken)
    (hclose : mark? closing = some closeToken) (h : List.Forall₂ Spells parts tokens) :
    Spells (opening :: separated [','] parts ++ [closing])
      (openToken :: commaSeparated tokens ++ [closeToken]) := by
  have hnone : ∀ c ∈ ([] : List Char), isSpace c = true := List.forall_mem_nil _
  have hcontainer := spells_container hopen hclose hnone hnone h
  rwa [List.append_nil] at hcontainer

private theorem isSpace_of_mem_lineAt (depth : Nat) : ∀ c ∈ lineAt depth, isSpace c = true := by
  intro c hc
  rcases List.mem_cons.1 hc with rfl | hc
  · decide
  · rw [List.eq_of_mem_replicate hc]
    decide

private theorem spells_indentedParts {depth : Nat} (hopen : mark? opening = some openToken)
    (hclose : mark? closing = some closeToken) (h : List.Forall₂ Spells parts tokens) :
    Spells (indentedParts opening closing depth parts)
      (openToken :: commaSeparated tokens ++ [closeToken]) := by
  unfold indentedParts
  split_ifs with hempty
  · subst hempty
    cases h
    exact spells_compactParts hopen hclose .nil
  · exact spells_container hopen hclose (isSpace_of_mem_lineAt (depth + 1))
      (isSpace_of_mem_lineAt depth) h

mutual

private theorem spells_compactChars : ∀ v : Json, v.Plain → Spells v.compactChars v.spelling
  | null, _ => spells_null
  | bool b, _ => spells_boolLiteral b
  | num (.whole n), _ => spells_number n
  | num (.written _), h => h.elim
  | str s, _ => spells_stringLiteral s
  | unpaired, h => h.elim
  | arr items, h => spells_compactParts rfl rfl (forall₂_compactItems items h)
  | obj members, h => spells_compactParts rfl rfl (forall₂_compactMembers members h)

private theorem forall₂_compactItems : ∀ items : List Json, PlainItems items →
    List.Forall₂ Spells (compactItems items) (itemSpellings items)
  | [], _ => .nil
  | item :: items, h => .cons (spells_compactChars item h.1) (forall₂_compactItems items h.2)

private theorem forall₂_compactMembers : ∀ members : List (String × Json), PlainMembers members →
    List.Forall₂ Spells (compactMembers members) (memberSpellings members)
  | [], _ => .nil
  | (name, value) :: members, h =>
    .cons (spells_member name [] (List.forall_mem_nil _) (spells_compactChars value h.1))
      (forall₂_compactMembers members h.2)

end

mutual

private theorem spells_indentedChars :
    ∀ (v : Json) (depth : Nat), v.Plain → Spells (v.indentedChars depth) v.spelling
  | null, _, _ => spells_null
  | bool b, _, _ => spells_boolLiteral b
  | num (.whole n), _, _ => spells_number n
  | num (.written _), _, h => h.elim
  | str s, _, _ => spells_stringLiteral s
  | unpaired, _, h => h.elim
  | arr items, depth, h =>
    spells_indentedParts rfl rfl (forall₂_indentedItems items (depth + 1) h)
  | obj members, depth, h =>
    spells_indentedParts rfl rfl (forall₂_indentedMembers members (depth + 1) h)

private theorem forall₂_indentedItems : ∀ (items : List Json) (depth : Nat), PlainItems items →
    List.Forall₂ Spells (indentedItems depth items) (itemSpellings items)
  | [], _, _ => .nil
  | item :: items, depth, h =>
    .cons (spells_indentedChars item depth h.1) (forall₂_indentedItems items depth h.2)

private theorem forall₂_indentedMembers :
    ∀ (members : List (String × Json)) (depth : Nat), PlainMembers members →
      List.Forall₂ Spells (indentedMembers depth members) (memberSpellings members)
  | [], _, _ => .nil
  | (name, value) :: members, depth, h =>
    have hgap : ∀ c ∈ [' '], isSpace c = true := List.forall_mem_singleton.2 rfl
    .cons (spells_member name [' '] hgap (spells_indentedChars value depth h.1))
      (forall₂_indentedMembers members depth h.2)

end
end Printing

section Reading

/-- Reading item by item gives back what was written item by item. -/
theorem mapM_map_eq_some {α β : Type} {read : β → Option α} (write : α → β)
    (h : ∀ a, read (write a) = some a) (items : List α) :
    (items.map write).mapM read = some items := by
  induction items with
  | nil => rfl
  | cons a items ih =>
    rw [List.map_cons, List.mapM_cons, h, ih]
    rfl

private theorem ofMembers_some (members : List (String × Json)) :
    ofMembers (members.map fun member => (some member.1, member.2)) = obj members := by
  rw [ofMembers, mapM_map_eq_some (fun member : String × Json => (some member.1, member.2))]
  · rfl
  · exact fun _ => rfl

variable {fuel : Nat} {token : Token} {tokens : List Token}

private theorem valueWithin_openArray (h : token ≠ .closeArray) :
    valueWithin (fuel + 1) (.openArray :: token :: tokens) =
      (itemsWithin fuel (token :: tokens)).map fun (items, rest) => (arr items, rest) := by
  cases token with
  | closeArray => exact absurd rfl h
  | _ => rfl

private theorem valueWithin_openObject (key : Json) :
    valueWithin (fuel + 1) (.openObject :: .scalar key :: tokens) =
      (membersWithin fuel (.scalar key :: tokens)).map fun (members, rest) =>
        (ofMembers members, rest) := rfl

private theorem exists_head_spelling (v : Json) :
    ∃ token tokens, v.spelling = token :: tokens ∧ token ≠ .closeArray := by
  cases v <;> exact ⟨_, _, rfl, nofun⟩

private theorem length_spelling_pos (v : Json) : 0 < v.spelling.length := by
  obtain ⟨token, tokens, htokens, -⟩ := exists_head_spelling v
  rw [htokens]
  exact Nat.succ_pos _

private theorem commaSeparated_cons_cons (part next : List Token) (parts : List (List Token)) :
    commaSeparated (part :: next :: parts) = part ++ .comma :: commaSeparated (next :: parts) := rfl

private theorem exists_head_commaSeparated {part : List Token} (hpart : part = token :: tokens)
    (parts : List (List Token)) : ∃ more, commaSeparated (part :: parts) = token :: more := by
  subst hpart
  cases parts with
  | nil => exact ⟨tokens, rfl⟩
  | cons next parts => exact ⟨_, rfl⟩

mutual

/-- Every bracket, comma and colon that is read takes one unit of fuel and leaves two, so there is
always enough for what stands between them. -/
private theorem valueWithin_spelling : ∀ (v : Json) (fuel : Nat) (rest : List Token),
    2 * v.spelling.length ≤ fuel → valueWithin fuel (v.spelling ++ rest) = some (v, rest)
  | v, 0, _, hfuel => by
    have hpos := length_spelling_pos v
    omega
  | null, _ + 1, _, _ => rfl
  | bool _, _ + 1, _, _ => rfl
  | num _, _ + 1, _, _ => rfl
  | str _, _ + 1, _, _ => rfl
  | unpaired, _ + 1, _, _ => rfl
  | arr [], _ + 1, _, _ => rfl
  | arr (item :: items), fuel + 1, rest, hfuel => by
    obtain ⟨token, tokens, htokens, hopens⟩ := exists_head_spelling item
    obtain ⟨more, hmore⟩ := exists_head_commaSeparated htokens (itemSpellings items)
    have hitems := itemsWithin_spelling item items fuel rest (by
      simp only [spelling, List.length_append, List.length_cons, List.length_nil] at hfuel
      omega)
    rw [itemSpellings] at hitems
    rw [spelling, itemSpellings, List.append_assoc, List.cons_append, List.singleton_append]
    rw [hmore] at hitems ⊢
    rw [List.cons_append, valueWithin_openArray hopens, ← List.cons_append, hitems]
    rfl
  | obj [], _ + 1, _, _ => rfl
  | obj ((name, value) :: members), fuel + 1, rest, hfuel => by
    obtain ⟨more, hmore⟩ := exists_head_commaSeparated rfl (memberSpellings members)
    have hmembers := membersWithin_spelling (name, value) members fuel rest (by
      simp only [spelling, List.length_append, List.length_cons, List.length_nil] at hfuel
      omega)
    rw [memberSpellings] at hmembers
    rw [spelling, memberSpellings, List.append_assoc, List.cons_append, List.singleton_append]
    rw [hmore] at hmembers ⊢
    rw [List.cons_append, valueWithin_openObject, ← List.cons_append, hmembers]
    exact congrArg (fun v => some (v, rest)) (ofMembers_some ((name, value) :: members))

private theorem itemsWithin_spelling :
    ∀ (item : Json) (items : List Json) (fuel : Nat) (rest : List Token),
      2 * (commaSeparated (itemSpellings (item :: items))).length < fuel →
      itemsWithin fuel (commaSeparated (itemSpellings (item :: items)) ++ .closeArray :: rest) =
        some (item :: items, rest)
  | item, [], fuel + 1, rest, hfuel => by
    have hitem := valueWithin_spelling item fuel (.closeArray :: rest) (by
      simp only [itemSpellings, commaSeparated] at hfuel
      omega)
    rw [itemSpellings, itemSpellings, commaSeparated, itemsWithin, hitem]
  | item, next :: items, fuel + 1, rest, hfuel => by
    rw [itemSpellings, itemSpellings, commaSeparated_cons_cons] at hfuel ⊢
    rw [List.length_append, List.length_cons] at hfuel
    have hitem := valueWithin_spelling item fuel
      (.comma :: (commaSeparated (itemSpellings (next :: items)) ++ .closeArray :: rest)) (by omega)
    have hitems := itemsWithin_spelling next items fuel rest (by
      rw [itemSpellings]
      omega)
    rw [List.append_assoc, List.cons_append, ← itemSpellings, itemsWithin, hitem]
    simp only [hitems, Option.map_some]

private theorem membersWithin_spelling :
    ∀ (member : String × Json) (members : List (String × Json)) (fuel : Nat) (rest : List Token),
      2 * (commaSeparated (memberSpellings (member :: members))).length < fuel →
      membersWithin fuel
          (commaSeparated (memberSpellings (member :: members)) ++ .closeObject :: rest) =
        some ((member :: members).map fun member => (some member.1, member.2), rest)
  | (name, value), [], fuel + 1, rest, hfuel => by
    have hvalue := valueWithin_spelling value fuel (.closeObject :: rest) (by
      simp only [memberSpellings, commaSeparated, List.length_cons] at hfuel
      omega)
    rw [memberSpellings, memberSpellings, commaSeparated, List.cons_append, List.cons_append,
      membersWithin, hvalue]
    rfl
  | (name, value), (name', value') :: members, fuel + 1, rest, hfuel => by
    rw [memberSpellings, memberSpellings, commaSeparated_cons_cons] at hfuel ⊢
    simp only [List.length_append, List.length_cons] at hfuel
    have hvalue := valueWithin_spelling value fuel
      (.comma :: (commaSeparated (memberSpellings ((name', value') :: members)) ++
        .closeObject :: rest)) (by omega)
    have hmembers := membersWithin_spelling (name', value') members fuel rest (by
      rw [memberSpellings]
      omega)
    rw [List.append_assoc, List.cons_append, List.cons_append, List.cons_append,
      ← memberSpellings, membersWithin, hvalue]
    simp only [memberName?, hmembers, Option.map_some]
    rfl

end

private theorem ofTokens?_spelling (v : Json) : ofTokens? v.spelling = some v := by
  have hvalue := valueWithin_spelling v (2 * v.spelling.length) [] (Nat.le_refl _)
  rw [List.append_nil] at hvalue
  rw [ofTokens?, hvalue]

end Reading

/-- Whatever text spells a value is read as that value. -/
theorem parse?_of_spells {cs : List Char} {v : Json} (h : Spells cs v.spelling) :
    parse? (String.ofList cs) = some v := by
  have hreads : Reads (cs ++ []) (v.spelling ++ []) := h [] [] delimited_nil Reads.nil
  rw [List.append_nil, List.append_nil] at hreads
  rw [parse?, String.toList_ofList, hreads.tokens?_eq, Option.bind_some, ofTokens?_spelling]

theorem parse?_compact {v : Json} (h : v.Plain) : parse? v.compact = some v :=
  parse?_of_spells (spells_compactChars v h)

theorem parse?_indented {v : Json} (h : v.Plain) : parse? v.indented = some v :=
  parse?_of_spells (spells_indentedChars v 0 h)

end TradeTracker.Json
