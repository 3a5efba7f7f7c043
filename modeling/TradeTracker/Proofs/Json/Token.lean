import TradeTracker.Json.Printer
import TradeTracker.Json.Token
import TradeTracker.Proofs.Text.Digits

/-! Printed JSON as the reader sees it: every literal is read back as the token it was printed from,
up to where something else begins. -/
namespace TradeTracker.Json
open Text

section StringLiteral
variable {c e : Char} (cs : List Char)

private theorem readPieces_closing : readPieces ('\x22' :: cs) = some ([], cs) := by
  rw [readPieces.eq_def]
  rfl

private theorem readPieces_plain (hquote : c ≠ '\x22') (hescape : c ≠ '\x5c')
    (hcontrol : ¬ c.toNat < 32) :
    readPieces (c :: cs) = (readPieces cs).map fun (pieces, rest) => (.char c :: pieces, rest) := by
  rw [readPieces.eq_def]
  simp only [if_neg hquote, if_neg hescape, if_neg hcontrol]
  cases readPieces cs <;> rfl

private theorem readPieces_short (h : shortEscape? e = some c) :
    readPieces ('\x5c' :: e :: cs) =
      (readPieces cs).map fun (pieces, rest) => (.char c :: pieces, rest) := by
  have hshort : e ≠ 'u' := by
    rintro rfl
    cases h
  rw [readPieces.eq_def]
  simp only [if_neg hshort, h]
  cases readPieces cs <;> rfl

private theorem ofDigits?_controlDigits {n : Nat} (h : n < 32) :
    ofDigits? 16 ['0', '0', Nat.digitChar (n / 16), Nat.digitChar (n % 16)] = some n := by
  revert n
  decide

private theorem pieceOfCode_toNat (c : Char) : pieceOfCode c.toNat = .char c := by
  have hrange : ¬ (0xD800 ≤ c.toNat ∧ c.toNat < 0xE000) := by
    have hvalid : c.toNat.isValidChar := c.valid
    simp only [Nat.isValidChar] at hvalid
    omega
  rw [pieceOfCode, if_neg hrange, Char.ofNat_toNat]

private theorem readPieces_control (h : c.toNat < 32) :
    readPieces ('\x5c' :: 'u' :: '0' :: '0' :: Nat.digitChar (c.toNat / 16) ::
        Nat.digitChar (c.toNat % 16) :: cs) =
      (readPieces cs).map fun (pieces, rest) => (.char c :: pieces, rest) := by
  rw [readPieces.eq_def]
  simp only [ofDigits?_controlDigits h]
  cases readPieces cs with
  | none => rfl
  | some found =>
    exact congrArg (fun piece => some (piece :: found.1, found.2)) (pieceOfCode_toNat c)

private theorem readPieces_escapedChar (c : Char) :
    readPieces (escapedChar c ++ cs) =
      (readPieces cs).map fun (pieces, rest) => (.char c :: pieces, rest) := by
  unfold escapedChar
  split_ifs with hmark hb hf hn hr ht hcontrol
  · exact readPieces_short cs (if_pos (hmark.imp_right .inl))
  · exact readPieces_short cs (congrArg some hb.symm)
  · exact readPieces_short cs (congrArg some hf.symm)
  · exact readPieces_short cs (congrArg some hn.symm)
  · exact readPieces_short cs (congrArg some hr.symm)
  · exact readPieces_short cs (congrArg some ht.symm)
  · exact readPieces_control cs hcontrol
  · exact readPieces_plain cs (fun h => hmark (.inl h)) (fun h => hmark (.inr h)) hcontrol

private theorem readPieces_flatMap (text : List Char) :
    readPieces (text.flatMap escapedChar ++ '\x22' :: cs) = some (text.map .char, cs) := by
  induction text with
  | nil => exact readPieces_closing cs
  | cons c text ih =>
    rw [List.flatMap_cons, List.append_assoc, readPieces_escapedChar, ih]
    rfl

private theorem stringOfPieces_map_char (s : String) :
    stringOfPieces (s.toList.map .char) = str s := by
  have htext (cs : List Char) : textOfPieces (cs.map .char) = some cs := by
    induction cs with
    | nil => rfl
    | cons c cs ih =>
      rw [List.map_cons, textOfPieces, ih]
      rfl
  rw [stringOfPieces, htext]
  exact congrArg str s.ofList_toList

end StringLiteral

section NumberLiteral

private theorem isNumberChar_of_isDigit {c : Char} (h : c.isDigit) : isNumberChar c = true := by
  simp [isNumberChar, h]

private theorem isWholePart_toDigits (n : Nat) : isWholePart (Nat.toDigits 10 n) = true := by
  have hne : Nat.toDigits 10 n ≠ [] := Nat.toDigits_ne_nil
  have hreduced : (Nat.toDigits 10 n).head? = some '0' → (Nat.toDigits 10 n).length = 1 := by
    intro hzero
    obtain ⟨ds, hds⟩ := List.head?_eq_some_iff.1 hzero
    rw [hds, reduced_toDigits n ds hds]
    rfl
  simp only [isWholePart, Bool.and_eq_true, Bool.or_eq_true, bne_iff_ne, beq_iff_eq]
  refine ⟨⟨hne, allDigits_toDigits n⟩, ?_⟩
  by_cases hzero : (Nat.toDigits 10 n).head? = some '0'
  · exact .inr (hreduced hzero)
  · exact .inl hzero

private theorem isDigit_of_mem_toDigits {n : Nat} {c : Char} (h : c ∈ Nat.toDigits 10 n) :
    c.isDigit = true :=
  Nat.isDigit_of_mem_toDigits (by decide) (by decide) h

private theorem takeWhile_isDigit_toDigits (n : Nat) :
    (Nat.toDigits 10 n).takeWhile Char.isDigit = Nat.toDigits 10 n :=
  List.takeWhile_eq_self_iff.2 fun _ hc => isDigit_of_mem_toDigits hc

private theorem dropWhile_isDigit_toDigits (n : Nat) :
    (Nat.toDigits 10 n).dropWhile Char.isDigit = [] :=
  List.dropWhile_eq_nil_iff.2 fun _ hc => isDigit_of_mem_toDigits hc

private theorem numberOfLiteral?_toDigits (n : Nat) :
    numberOfLiteral? (Nat.toDigits 10 n) = some (.whole n) := by
  have hsign : (Nat.toDigits 10 n).head? ≠ some '-' := by
    intro hminus
    exact absurd (isDigit_of_mem_toDigits (List.mem_of_head? hminus)) (by decide)
  simp [numberOfLiteral?, hsign, takeWhile_isDigit_toDigits, dropWhile_isDigit_toDigits,
    isWholePart_toDigits, isFraction, isExponent]

private theorem numberOfLiteral?_minus {n : Nat} (h : n ≠ 0) :
    numberOfLiteral? ('-' :: Nat.toDigits 10 n) = some (.whole (-n)) := by
  simp [numberOfLiteral?, takeWhile_isDigit_toDigits, dropWhile_isDigit_toDigits,
    isWholePart_toDigits, isFraction, isExponent, h]

end NumberLiteral

/-- No number and no word goes on at the front. -/
def Delimited (cs : List Char) : Prop :=
  ∀ c, cs.head? = some c → isNumberChar c = false ∧ c.isAlpha = false

theorem delimited_nil : Delimited [] := nofun

theorem delimited_cons {c : Char} (cs : List Char) (hnumber : isNumberChar c = false)
    (halpha : c.isAlpha = false) : Delimited (c :: cs) := by
  rintro _ ⟨⟩
  exact ⟨hnumber, halpha⟩

section NextToken
variable {c : Char} {cs rest : List Char}

private theorem mark?_eq_none (h : isNumberChar c = true ∨ c.isAlpha = true) : mark? c = none := by
  rw [mark?, if_neg, if_neg, if_neg, if_neg, if_neg, if_neg]
  all_goals
    rintro rfl
    exact absurd h (by decide)

private theorem of_mark? {token : Token} (h : mark? c = some token) :
    isSpace c = false ∧ isNumberChar c = false ∧ c.isAlpha = false := by
  unfold mark? at h
  split_ifs at h with h₁ h₂ h₃ h₄ h₅ h₆
  all_goals
    subst c
    decide

private theorem nextToken?_stringLiteral (s : String) (rest : List Char) :
    nextToken? '\x22' (s.toList.flatMap escapedChar ++ '\x22' :: rest) =
      some (.scalar (str s), rest) := by
  have hmark : mark? '\x22' = none := by decide
  rw [nextToken?, hmark]
  simp only [if_true, readPieces_flatMap, Option.map_some, stringOfPieces_map_char]

private theorem nextToken?_number {n : JsonNumber} (h : numberOfLiteral? (c :: cs) = some n)
    (hc : c.isDigit = true ∨ c = '-') (hcs : ∀ d ∈ cs, isNumberChar d = true)
    (hrest : Delimited rest) : nextToken? c (cs ++ rest) = some (.scalar (num n), rest) := by
  have hends : ∀ d, rest.head? = some d → ¬ isNumberChar d = true := by
    intro d hd
    simp [(hrest d hd).1]
  have hnumber : isNumberChar c = true := by
    rcases hc with hc | rfl
    · exact isNumberChar_of_isDigit hc
    · decide
  have hstart : (isNumberChar c && c != 'e' && c != 'E') = true := by
    simp only [Bool.and_eq_true, bne_iff_ne]
    refine ⟨⟨hnumber, ?_⟩, ?_⟩
    all_goals
      rintro rfl
      exact absurd hc (by decide)
  have hquote : c ≠ '\x22' := by
    rintro rfl
    exact absurd hnumber (by decide)
  rw [nextToken?, mark?_eq_none (.inl hnumber)]
  simp only [if_neg hquote, if_pos hstart, takeWhile_append_of_ends hcs hends,
    dropWhile_append_of_ends hcs hends, h, Option.map_some]

private theorem nextToken?_word {v : Json} (h : word? (c :: cs) = some v)
    (hc : c.isAlpha = true) (hstart : (isNumberChar c && c != 'e' && c != 'E') = false)
    (hcs : cs.all Char.isAlpha = true) (hrest : Delimited rest) :
    nextToken? c (cs ++ rest) = some (.scalar v, rest) := by
  have hword : ∀ d ∈ cs, d.isAlpha = true := List.all_eq_true.1 hcs
  have hends : ∀ d, rest.head? = some d → ¬ d.isAlpha = true := by
    intro d hd
    simp [(hrest d hd).2]
  have hquote : c ≠ '\x22' := by
    rintro rfl
    exact absurd hc (by decide)
  rw [nextToken?, mark?_eq_none (.inr hc)]
  simp only [if_neg hquote, hstart, takeWhile_append_of_ends hword hends,
    dropWhile_append_of_ends hword hends, h, Option.map_some]
  rfl

end NextToken

def Reads (cs : List Char) (tokens : List Token) : Prop :=
  ∀ fuel, cs.length ≤ fuel → tokensWithin fuel cs = some tokens

namespace Reads
variable {c : Char} {cs rest : List Char} {token : Token} {tokens : List Token}

theorem nil : Reads [] [] := by
  intro fuel _
  cases fuel <;> rfl

private theorem blank (hc : isSpace c = true) (h : Reads cs tokens) : Reads (c :: cs) tokens := by
  intro fuel hfuel
  obtain ⟨fuel, rfl⟩ := Nat.exists_eq_add_one_of_ne_zero (Nat.ne_zero_of_lt hfuel)
  rw [tokensWithin, if_pos hc]
  exact h fuel (Nat.le_of_succ_le_succ hfuel)

private theorem cons (cs : List Char) (hc : isSpace c = false)
    (hnext : nextToken? c (cs ++ rest) = some (token, rest)) (h : Reads rest tokens) :
    Reads (c :: cs ++ rest) (token :: tokens) := by
  intro fuel hfuel
  obtain ⟨fuel, rfl⟩ := Nat.exists_eq_add_one_of_ne_zero (Nat.ne_zero_of_lt hfuel)
  rw [List.cons_append, tokensWithin, hc, if_neg Bool.false_ne_true, hnext]
  have hlength : rest.length ≤ fuel := by
    simp only [List.cons_append, List.length_cons, List.length_append] at hfuel
    omega
  simp only [Option.bind_eq_bind, Option.bind_some, h fuel hlength]

theorem mark (hmark : mark? c = some token) (hc : isSpace c = false) (h : Reads rest tokens) :
    Reads (c :: rest) (token :: tokens) := by
  refine cons [] hc ?_ h
  rw [nextToken?, hmark]
  rfl

theorem blanks {line : List Char} (hline : ∀ c ∈ line, isSpace c = true)
    (h : Reads rest tokens) : Reads (line ++ rest) tokens := by
  induction line with
  | nil => exact h
  | cons c line ih =>
    obtain ⟨hc, hline⟩ := List.forall_mem_cons.1 hline
    exact blank hc (ih hline)

theorem tokens?_eq (h : Reads cs tokens) : tokens? cs = some tokens :=
  h cs.length (Nat.le_refl _)

end Reads

/-- A part of a text has these tokens, whatever tokens follow behind a delimiter. -/
def Spells (part : List Char) (tokens : List Token) : Prop :=
  ∀ rest more, Delimited rest → Reads rest more → Reads (part ++ rest) (tokens ++ more)

private theorem spells_nil : Spells [] [] := fun _ _ _ h => h

theorem spells_stringLiteral (s : String) : Spells (stringLiteral s) [.scalar (str s)] := by
  intro rest more _ h
  refine Reads.cons (s.toList.flatMap escapedChar ++ ['\x22']) (by decide) ?_ h
  rw [List.append_assoc]
  exact nextToken?_stringLiteral s rest

theorem spells_number (n : Int) : Spells (numberLiteral (.whole n)) [.scalar (num (.whole n))] := by
  have hspace {c : Char} (hc : c.isDigit = true) : isSpace c = false := by
    simp only [isSpace, Bool.or_eq_false_iff, beq_eq_false_iff_ne]
    refine ⟨⟨⟨?_, ?_⟩, ?_⟩, ?_⟩
    all_goals
      rintro rfl
      exact absurd hc (by decide)
  intro rest more hrest h
  cases n with
  | ofNat n =>
    have hliteral : numberLiteral (.whole (.ofNat n)) = Nat.toDigits 10 n := String.toList_ofList
    obtain ⟨c, cs, hcs⟩ := List.exists_cons_of_ne_nil (Nat.toDigits_ne_nil : Nat.toDigits 10 n ≠ [])
    have hdigits : ∀ d ∈ c :: cs, d.isDigit = true := hcs ▸ fun d hd => isDigit_of_mem_toDigits hd
    obtain ⟨hc, hrun⟩ := List.forall_mem_cons.1 hdigits
    rw [hliteral, hcs]
    refine Reads.cons cs (hspace hc) ?_ h
    exact nextToken?_number (hcs ▸ numberOfLiteral?_toDigits n) (.inl hc)
      (fun d hd => isNumberChar_of_isDigit (hrun d hd)) hrest
  | negSucc n =>
    have hliteral : numberLiteral (.whole (.negSucc n)) = '-' :: Nat.toDigits 10 (n + 1) := by
      show ("-" ++ String.ofList (Nat.toDigits 10 (n + 1))).toList = _
      rw [String.toList_append, String.toList_ofList, String.toList_ofList]
      rfl
    rw [hliteral]
    refine Reads.cons _ (by decide) ?_ h
    exact nextToken?_number (numberOfLiteral?_minus n.succ_ne_zero) (.inr rfl)
      (fun d hd => isNumberChar_of_isDigit (isDigit_of_mem_toDigits hd)) hrest

theorem spells_null : Spells "null".toList [.scalar null] := by
  intro rest more hrest h
  exact Reads.cons _ (by decide) (nextToken?_word rfl rfl rfl rfl hrest) h

theorem spells_boolLiteral (b : Bool) : Spells (boolLiteral b) [.scalar (bool b)] := by
  intro rest more hrest h
  cases b with
  | true => exact Reads.cons _ (by decide) (nextToken?_word rfl rfl rfl rfl hrest) h
  | false => exact Reads.cons _ (by decide) (nextToken?_word rfl rfl rfl rfl hrest) h

def commaSeparated : List (List Token) → List Token
  | [] => []
  | [part] => part
  | part :: parts => part ++ .comma :: commaSeparated parts

section Parts
variable {line : List Char} {parts : List (List Char)} {tokens : List (List Token)}

private theorem delimited_blanks (hline : ∀ c ∈ line, isSpace c = true) {cs : List Char}
    (h : Delimited cs) : Delimited (line ++ cs) := by
  cases line with
  | nil => exact h
  | cons c line =>
    have hc := hline c List.mem_cons_self
    simp only [isSpace, Bool.or_eq_true, beq_iff_eq] at hc
    rcases hc with ((rfl | rfl) | rfl) | rfl <;> exact delimited_cons _ (by decide) (by decide)

private theorem spells_separated (hline : ∀ c ∈ line, isSpace c = true)
    (h : List.Forall₂ Spells parts tokens) :
    Spells (separated (',' :: line) parts) (commaSeparated tokens) := by
  induction h with
  | nil => exact spells_nil
  | @cons part own parts tokens hpart hparts ih =>
    cases hparts with
    | nil => exact hpart
    | cons hnext hparts =>
      intro rest more hrest hmore
      rw [separated, commaSeparated, List.append_assoc, List.append_assoc, List.append_assoc]
      refine hpart _ _ (delimited_cons _ (by decide) (by decide)) ?_
      refine Reads.mark rfl (by decide) (Reads.blanks hline ?_)
      exact ih rest more hrest hmore
      · simp
      · simp

/-- A container spells its parts between its brackets, whatever blanks stand beside them. -/
theorem spells_container {opening closing : Char} {openToken closeToken : Token}
    {line' : List Char} (hopen : mark? opening = some openToken)
    (hclose : mark? closing = some closeToken) (hline : ∀ c ∈ line, isSpace c = true)
    (hline' : ∀ c ∈ line', isSpace c = true) (h : List.Forall₂ Spells parts tokens) :
    Spells (opening :: line ++ separated (',' :: line) parts ++ line' ++ [closing])
      (openToken :: commaSeparated tokens ++ [closeToken]) := by
  obtain ⟨hopening, -, -⟩ := of_mark? hopen
  obtain ⟨hclosing, hnumber, halpha⟩ := of_mark? hclose
  intro rest more _ hmore
  have hend : Reads (closing :: rest) (closeToken :: more) := Reads.mark hclose hclosing hmore
  have hparts := spells_separated hline h (line' ++ closing :: rest) (closeToken :: more)
    (delimited_blanks hline' (delimited_cons rest hnumber halpha)) (Reads.blanks hline' hend)
  have hwhole := Reads.mark hopen hopening (Reads.blanks hline hparts)
  simpa only [List.cons_append, List.append_assoc, List.nil_append] using hwhole

end Parts

end TradeTracker.Json
