import Mathlib.Data.List.Perm.Basic

/-! Computations that may fail, taken apart into the steps that led to their result. -/
namespace TradeTracker.Outcome
variable {ε α β : Type}

theorem bind_eq_ok {x : Except ε α} {f : α → Except ε β} {b : β} :
    x >>= f = .ok b ↔ ∃ a, x = .ok a ∧ f a = .ok b := by
  cases x with
  | error e => exact ⟨nofun, nofun⟩
  | ok a => exact ⟨fun h => ⟨a, rfl, h⟩, fun ⟨_, ha, h⟩ => Except.ok.inj ha ▸ h⟩

theorem ok_bind (a : α) (f : α → Except ε β) : Except.ok a >>= f = f a := rfl

/-- A computation fails in its first step, or in what follows the result of that step. -/
theorem bind_eq_error {x : Except ε α} {f : α → Except ε β} {e : ε} :
    x >>= f = .error e ↔ x = .error e ∨ ∃ a, x = .ok a ∧ f a = .error e := by
  cases x with
  | error e' =>
    refine ⟨fun h => .inl (Except.error.inj h ▸ rfl), ?_⟩
    rintro (h | ⟨_, h, -⟩)
    · exact Except.error.inj h ▸ rfl
    · cases h
  | ok a =>
    refine ⟨fun h => .inr ⟨a, rfl, h⟩, ?_⟩
    rintro (h | ⟨_, ha, h⟩)
    · cases h
    · exact Except.ok.inj ha ▸ h

theorem map_eq_ok {x : Except ε α} {f : α → β} {b : β} :
    x.map f = .ok b ↔ ∃ a, x = .ok a ∧ f a = b := by
  cases x with
  | error e => exact ⟨nofun, nofun⟩
  | ok a => exact ⟨fun h => ⟨a, rfl, Except.ok.inj h⟩, fun ⟨_, ha, h⟩ => Except.ok.inj ha ▸ h ▸ rfl⟩

/-- Two computations that begin alike and whose rests differ by `f` in the end differ by `f`. -/
theorem bind_eq_map_bind {γ : Type} {x y : Except ε α} {g : α → Except ε β} {k : α → Except ε γ}
    {f : γ → β} (hxy : x = y) (h : ∀ a, g a = (k a).map f) : x >>= g = (y >>= k).map f := by
  subst hxy
  cases x with
  | error e => rfl
  | ok a => exact h a

/-- What comes of a computation fails where the computation has no result. -/
theorem exists_map_eq_error {x : Except ε α} {f : α → β} :
    (∃ e, x.map f = .error e) ↔ ¬ ∃ a, x = .ok a := by
  cases x with
  | error e => exact iff_of_true ⟨e, rfl⟩ nofun
  | ok a => exact iff_of_false nofun fun h => h ⟨a, rfl⟩

theorem toOption_eq_some_iff {x : Except ε α} {a : α} : x.toOption = some a ↔ x = .ok a := by
  cases x with
  | error e => exact ⟨nofun, nofun⟩
  | ok b => exact ⟨fun h => Option.some.inj h ▸ rfl, fun h => Except.ok.inj h ▸ rfl⟩

theorem mapError_eq_ok {ε' : Type} {x : Except ε α} {f : ε → ε'} {a : α} :
    x.mapError f = .ok a ↔ x = .ok a := by
  cases x with
  | error e => exact ⟨nofun, nofun⟩
  | ok b => exact ⟨fun h => Except.ok.inj h ▸ rfl, fun h => Except.ok.inj h ▸ rfl⟩

theorem mapError_eq_error {ε' : Type} {x : Except ε α} {f : ε → ε'} {e' : ε'} :
    x.mapError f = .error e' ↔ ∃ e, x = .error e ∧ f e = e' := by
  cases x with
  | error e =>
    exact ⟨fun h => ⟨e, rfl, Except.error.inj h⟩, fun ⟨_, he, h⟩ => Except.error.inj he ▸ h ▸ rfl⟩
  | ok b => exact ⟨nofun, nofun⟩

/-- A list of steps succeeds with the results of its steps. -/
theorem mapM_map_eq_ok {γ : Type} {f : β → Except ε γ} {g : α → β} {h : α → γ} {items : List α}
    (hf : ∀ a ∈ items, f (g a) = .ok (h a)) : (items.map g).mapM f = .ok (items.map h) := by
  induction items with
  | nil => rfl
  | cons a items ih =>
    rw [List.map_cons, List.mapM_cons, hf a List.mem_cons_self,
      ih fun b hb => hf b (List.mem_cons_of_mem a hb)]
    rfl

theorem exists_mapM_eq_ok {f : α → Except ε β} {items : List α}
    (hf : ∀ a ∈ items, ∃ b, f a = .ok b) : ∃ results, items.mapM f = .ok results := by
  induction items with
  | nil => exact ⟨[], rfl⟩
  | cons a items ih =>
    obtain ⟨b, hb⟩ := hf a List.mem_cons_self
    obtain ⟨results, hresults⟩ := ih fun c hc => hf c (List.mem_cons_of_mem a hc)
    exact ⟨b :: results, by rw [List.mapM_cons, hb, hresults]; rfl⟩

theorem mapM_eq_ok_iff {f : α → Except ε β} {items : List α} {results : List β} :
    items.mapM f = .ok results ↔ List.Forall₂ (fun a b => f a = .ok b) items results := by
  induction items generalizing results with
  | nil =>
    rw [List.forall₂_nil_left_iff, List.mapM_nil]
    exact ⟨fun h => (Except.ok.inj h).symm, fun h => h ▸ rfl⟩
  | cons a items ih =>
    rw [List.forall₂_cons_left_iff, List.mapM_cons, bind_eq_ok]
    constructor
    · rintro ⟨b, hb, h⟩
      obtain ⟨rest, hrest, h⟩ := bind_eq_ok.1 h
      exact ⟨b, rest, hb, ih.1 hrest, (Except.ok.inj h).symm⟩
    · rintro ⟨b, rest, hb, hrest, rfl⟩
      exact ⟨b, hb, bind_eq_ok.2 ⟨rest, ih.2 hrest, rfl⟩⟩

/-- A list of steps fails with the error of one of its steps. -/
theorem exists_of_mapM_eq_error {f : α → Except ε β} {items : List α} {e : ε}
    (h : items.mapM f = .error e) : ∃ a ∈ items, f a = .error e := by
  induction items with
  | nil => cases h
  | cons a items ih =>
    rw [List.mapM_cons] at h
    rcases bind_eq_error.1 h with ha | ⟨b, -, h⟩
    · exact ⟨a, List.mem_cons_self, ha⟩
    · rcases bind_eq_error.1 h with hrest | ⟨results, -, h⟩
      · obtain ⟨found, hfound, herror⟩ := ih hrest
        exact ⟨found, List.mem_cons_of_mem a hfound, herror⟩
      · cases h

/-- Whatever stands in one of two related lists is related to something in the other. -/
theorem exists_of_mem_forall₂ {R : α → β → Prop} {items : List α} {others : List β}
    (h : List.Forall₂ R items others) {b : β} (hb : b ∈ others) : ∃ a ∈ items, R a b := by
  induction h with
  | nil => cases hb
  | @cons a c items others hac _ ih =>
    rcases List.mem_cons.1 hb with rfl | hb
    · exact ⟨a, List.mem_cons_self, hac⟩
    · obtain ⟨found, hfound, hrelated⟩ := ih hb
      exact ⟨found, List.mem_cons_of_mem a hfound, hrelated⟩

theorem exists_of_mem_mapM {f : α → Except ε β} {items : List α} {results : List β}
    (h : items.mapM f = .ok results) {b : β} (hb : b ∈ results) : ∃ a ∈ items, f a = .ok b :=
  exists_of_mem_forall₂ (mapM_eq_ok_iff.1 h) hb

/-- Where all steps succeed each of them does. -/
theorem exists_result_of_mem {f : α → Except ε β} {items : List α} {results : List β}
    (h : items.mapM f = .ok results) {a : α} (ha : a ∈ items) : ∃ b, f a = .ok b := by
  obtain ⟨b, -, hb⟩ := exists_of_mem_forall₂ (mapM_eq_ok_iff.1 h).flip ha
  exact ⟨b, hb⟩

/-- What related items have in common, in order. -/
theorem map_eq_map_of_forall₂ {γ : Type} {f : α → γ} {g : β → γ} {as : List α} {bs : List β}
    (h : List.Forall₂ (fun a b => g b = f a) as bs) : bs.map g = as.map f := by
  induction h with
  | nil => rfl
  | cons hab _ ih => rw [List.map_cons, List.map_cons, hab, ih]

/-- What the results have in common with the items they come of, in order. -/
theorem map_eq_map_of_mapM {γ : Type} {f : α → Except ε β} {g : β → γ} {k : α → γ} {items : List α}
    {results : List β} (h : items.mapM f = .ok results) (hf : ∀ a b, f a = .ok b → g b = k a) :
    results.map g = items.map k :=
  map_eq_map_of_forall₂ ((mapM_eq_ok_iff.1 h).imp hf)

private theorem mapM_perm {f : α → Except ε β} {items items' : List α} {results : List β}
    (hitems : items.Perm items') (h : items.mapM f = .ok results) :
    ∃ results', items'.mapM f = .ok results' ∧ results.Perm results' := by
  obtain ⟨results', hresults', hperm⟩ := List.perm_comp_forall₂ hitems.symm (mapM_eq_ok_iff.1 h)
  exact ⟨results', mapM_eq_ok_iff.2 hresults', hperm.symm⟩

theorem rel_cases {R : α → β → Prop} {x : Option α} {y : Option β} (h : Option.Rel R x y) :
    (x = none ∧ y = none) ∨ ∃ a b, x = some a ∧ y = some b ∧ R a b := by
  cases h with
  | none => exact .inl ⟨rfl, rfl⟩
  | some h => exact .inr ⟨_, _, rfl, rfl, h⟩

/-- Both succeed, with related results, or both fail. -/
inductive Alike (R : α → β → Prop) : Except ε α → Except ε β → Prop
  | ok {a : α} {b : β} (h : R a b) : Alike R (.ok a) (.ok b)
  | error (e e' : ε) : Alike R (.error e) (.error e')

section Alike
variable {γ δ : Type} {R : α → β → Prop} {S : γ → δ → Prop} {x : Except ε α} {y : Except ε β}

theorem Alike.cases (h : Alike R x y) :
    (∃ a b, x = .ok a ∧ y = .ok b ∧ R a b) ∨ ∃ e e', x = .error e ∧ y = .error e' := by
  cases h with
  | ok h => exact .inl ⟨_, _, rfl, rfl, h⟩
  | error e e' => exact .inr ⟨e, e', rfl, rfl⟩

theorem Alike.map {f : α → γ} {g : β → δ} (h : Alike R x y)
    (hresult : ∀ a b, R a b → S (f a) (g b)) : Alike S (x.map f) (y.map g) := by
  cases h with
  | ok h => exact .ok (hresult _ _ h)
  | error e e' => exact .error e e'

theorem Alike.of_ok (h : ∀ a, x = .ok a → ∃ b, y = .ok b ∧ R a b)
    (h' : ∀ b, y = .ok b → ∃ a, x = .ok a) : Alike R x y := by
  cases x with
  | ok a =>
    obtain ⟨b, rfl, hab⟩ := h a rfl
    exact .ok hab
  | error e =>
    cases y with
    | ok b =>
      obtain ⟨a, ha⟩ := h' b rfl
      cases ha
    | error e' => exact .error e e'

theorem Alike.trans {z : Except ε δ} {T : β → δ → Prop} (hxy : Alike R x y) (hyz : Alike T y z) :
    Alike (Relation.Comp R T) x z := by
  cases hxy with
  | ok h =>
    cases hyz with
    | ok h' => exact .ok ⟨_, h, h'⟩
  | error e e' =>
    cases hyz with
    | error _ e'' => exact .error e e''

theorem alike_mapM {f : γ → Except ε α} {g : γ → Except ε β} {items : List γ}
    (h : ∀ c ∈ items, Alike R (f c) (g c)) :
    Alike (List.Forall₂ R) (items.mapM f) (items.mapM g) := by
  induction items with
  | nil => exact .ok .nil
  | cons c items ih =>
    have hitems := ih fun d hd => h d (List.mem_cons_of_mem c hd)
    rw [List.mapM_cons, List.mapM_cons]
    obtain ⟨a, b, ha, hb, hab⟩ | ⟨e, e', he, he'⟩ := (h c List.mem_cons_self).cases
    · rw [ha, hb]
      exact hitems.map fun _ _ hrest => .cons hab hrest
    · rw [he, he']
      exact .error e e'

/-- In another order the same steps succeed or fail, with the results in another order. -/
theorem alike_mapM_of_perm {f : α → Except ε β} {items items' : List α}
    (h : items.Perm items') : Alike List.Perm (items.mapM f) (items'.mapM f) := by
  refine .of_ok (fun results hresults => mapM_perm h hresults) fun results' hresults' => ?_
  obtain ⟨results, hresults, -⟩ := mapM_perm h.symm hresults'
  exact ⟨results, hresults⟩

end Alike

end TradeTracker.Outcome
