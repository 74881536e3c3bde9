import Mathlib.Data.List.Forall2

/-!
# Results that may be errors

When a computation built from smaller ones gives a result, the smaller ones did.
-/

/-! ## Lists related item by item -/

namespace List

variable {α β : Type} {R : α → β → Prop} {items : List α} {results : List β}

theorem exists_of_forall₂_left (h : List.Forall₂ R items results) {a : α} (ha : a ∈ items) :
    ∃ b ∈ results, R a b := by
  induction h with
  | nil => simp at ha
  | cons hhead _ ih =>
      rcases List.mem_cons.mp ha with rfl | ha
      · exact ⟨_, by simp, hhead⟩
      · obtain ⟨b, hb, hrel⟩ := ih ha
        exact ⟨b, by simp [hb], hrel⟩

theorem exists_of_forall₂_right (h : List.Forall₂ R items results) {b : β} (hb : b ∈ results) :
    ∃ a ∈ items, R a b := by
  obtain ⟨a, ha, hrel⟩ := exists_of_forall₂_left h.flip hb
  exact ⟨a, ha, hrel⟩

/-- What exists for each pair of two lists makes a third list. -/
theorem exists_between {γ : Type} {S : α → γ → Prop} {T : β → γ → Prop}
    (h : List.Forall₂ R items results) (hpair : ∀ a b, R a b → ∃ c, S a c ∧ T b c) :
    ∃ between, List.Forall₂ S items between ∧ List.Forall₂ T results between := by
  induction h with
  | nil => exact ⟨[], .nil, .nil⟩
  | cons hhead _ ih =>
      obtain ⟨c, hS, hT⟩ := hpair _ _ hhead
      obtain ⟨more, hmoreS, hmoreT⟩ := ih
      exact ⟨c :: more, .cons hS hmoreS, .cons hT hmoreT⟩

/-- What exists for each item makes a list. -/
theorem exists_forall₂ (h : ∀ a ∈ items, ∃ b, R a b) :
    ∃ results, List.Forall₂ R items results := by
  induction items with
  | nil => exact ⟨[], .nil⟩
  | cons item rest ih =>
      obtain ⟨b, hb⟩ := h item (by simp)
      obtain ⟨more, hmore⟩ := ih fun a ha => h a (by simp [ha])
      exact ⟨b :: more, .cons hb hmore⟩

theorem Forall₂.map_self {S : α → β → Prop} {f : β → α} (h : List.Forall₂ R items results)
    (hpair : ∀ a b, R a b → S (f b) b) : List.Forall₂ S (results.map f) results := by
  induction h with
  | nil => exact .nil
  | cons hhead _ ih => exact .cons (hpair _ _ hhead) ih

theorem map_eq_self_iff {f : α → α} {items : List α} :
    items.map f = items ↔ ∀ item ∈ items, f item = item := by
  conv_lhs => rhs; rw [← List.map_id' items]
  exact List.map_inj_left

end List

theorem Option.isSome_of_rel {α β : Type} {R : α → β → Prop} {a : Option α} {b : Option β}
    (h : Option.Rel R a b) : b.isSome = a.isSome := by
  cases h <;> rfl

theorem Option.exists_of_rel {α β : Type} {R : α → β → Prop} {item : Option α} {result : Option β}
    (h : Option.Rel R item result) {b : β} (hb : result = some b) : ∃ a, item = some a ∧ R a b := by
  subst hb
  cases h with
  | some hrel => exact ⟨_, rfl, hrel⟩

theorem Option.rel_map_left {α β : Type} {R : α → β → Prop} {f : β → α} {item : Option β}
    (h : ∀ b, item = some b → R (f b) b) : Option.Rel R (item.map f) item := by
  cases item with
  | none => exact .none
  | some b => exact .some (h b rfl)

/-- The second of two related values, related to what it is mapped to. -/
theorem Option.Rel.map_self {α β : Type} {R S : α → β → Prop} {f : β → α} {item : Option α}
    {result : Option β} (h : Option.Rel R item result) (hpair : ∀ a b, R a b → S (f b) b) :
    Option.Rel S (result.map f) result := by
  cases h with
  | none => exact .none
  | some hrel => exact .some (hpair _ _ hrel)

theorem Option.exists_rel_map {α β γ : Type} {R : α → β → Prop} {f : γ → α} (item : Option γ)
    (h : ∀ c, ∃ b, R (f c) b) : ∃ result, Option.Rel R (item.map f) result := by
  cases item with
  | none => exact ⟨none, .none⟩
  | some c =>
      obtain ⟨b, hb⟩ := h c
      exact ⟨some b, .some hb⟩

theorem Option.eq_of_map_eq {α β : Type} {f : α → β} {a b : Option α} (hmap : a.map f = b.map f)
    (h : ∀ x y, a = some x → b = some y → f x = f y → x = y) : a = b := by
  cases a with
  | none => cases b with
      | none => rfl
      | some y => cases hmap
  | some x => cases b with
      | none => cases hmap
      | some y => exact congrArg some (h x y rfl rfl (Option.some.inj hmap))

/-! ## Results -/

namespace Except

variable {ε ε' α β : Type}

theorem map_eq_ok_iff {e : Except ε α} {f : α → β} {b : β} :
    e.map f = .ok b ↔ ∃ a, e = .ok a ∧ f a = b := by
  cases e <;> simp [Except.map]

/-- There is a result, and it is as asked. -/
def any (e : Except ε α) (ask : α → Bool) : Bool :=
  match e with
  | .ok a => ask a
  | .error _ => false

theorem any_iff {e : Except ε α} {ask : α → Bool} : e.any ask ↔ ∃ a, e = .ok a ∧ ask a := by
  cases e <;> simp [any]

theorem mapError_eq_ok_iff {e : Except ε α} {f : ε → ε'} {a : α} :
    e.mapError f = .ok a ↔ e = .ok a := by
  cases e <;> simp [Except.mapError]

theorem mapError_eq_error_iff {e : Except ε α} {f : ε → ε'} {cause : ε'} :
    e.mapError f = .error cause ↔ ∃ e', e = .error e' ∧ f e' = cause := by
  cases e <;> simp [Except.mapError]

theorem bind_eq_ok_iff {e : Except ε α} {f : α → Except ε β} {b : β} :
    (e >>= f) = .ok b ↔ ∃ a, e = .ok a ∧ f a = .ok b := by
  cases e <;> simp [bind, Except.bind]

theorem mapM_eq_ok_iff {f : α → Except ε β} {items : List α} {results : List β} :
    items.mapM f = .ok results ↔ List.Forall₂ (fun a b => f a = .ok b) items results := by
  induction items generalizing results with
  | nil => simp [pure, Except.pure, eq_comm]
  | cons item rest ih =>
      rw [List.mapM_cons, bind_eq_ok_iff, List.forall₂_cons_left_iff]
      constructor
      · rintro ⟨b, hb, hrest⟩
        obtain ⟨bs, hbs, heq⟩ := bind_eq_ok_iff.mp hrest
        exact ⟨b, bs, hb, ih.mp hbs, (Except.ok.inj heq).symm⟩
      · rintro ⟨b, bs, hb, hbs, rfl⟩
        exact ⟨b, hb, bind_eq_ok_iff.mpr ⟨bs, ih.mpr hbs, rfl⟩⟩

theorem mapM_map_result {γ : Type} {f : α → Except ε β} {g : β → γ} {items : List α} :
    items.mapM (fun a => (f a).map g) = (items.mapM f).map (List.map g) := by
  induction items with
  | nil => rfl
  | cons item rest ih =>
      rw [List.mapM_cons, List.mapM_cons, ih]
      cases f item <;> cases rest.mapM f <;> rfl

/-- Where the position only matters for errors, the results are those of the items. -/
theorem mapM_zipIdx_eq_ok_iff {f : α × Nat → Except ε β} {R : α → β → Prop} {items : List α}
    {results : List β} (h : ∀ {a position b}, f (a, position) = .ok b ↔ R a b) {start : Nat} :
    (items.zipIdx start).mapM f = .ok results ↔ List.Forall₂ R items results := by
  rw [mapM_eq_ok_iff]
  induction items generalizing results start with
  | nil => simp
  | cons item rest ih =>
      rw [List.zipIdx_cons, List.forall₂_cons_left_iff, List.forall₂_cons_left_iff]
      refine exists_congr fun b => exists_congr fun more => ?_
      rw [h, ih]

/-- Where the position only matters for errors, an error is that of the first item without a
result. -/
theorem exists_first_of_mapM_zipIdx {f : α × Nat → Except ε β} {R : α → β → Prop} {items : List α}
    {e : ε} (hresult : ∀ {a position b}, f (a, position) = .ok b ↔ R a b) {start : Nat}
    (h : (items.zipIdx start).mapM f = .error e) :
    ∃ earlier item later, items = earlier ++ item :: later ∧ (∀ a ∈ earlier, ∃ b, R a b) ∧
      f (item, start + earlier.length) = .error e := by
  induction items generalizing start with
  | nil => cases h
  | cons item rest ih =>
      rw [List.zipIdx_cons, List.mapM_cons] at h
      cases hitem : f (item, start) with
      | error e' =>
          rw [hitem] at h
          obtain rfl := Except.error.inj h
          exact ⟨[], item, rest, rfl, by simp, hitem⟩
      | ok b =>
          rw [hitem] at h
          cases hrest : (rest.zipIdx (start + 1)).mapM f with
          | ok more => rw [hrest] at h; cases h
          | error e' =>
              rw [hrest] at h
              obtain rfl := Except.error.inj h
              obtain ⟨earlier, fault, later, rfl, hearlier, hfault⟩ := ih hrest
              refine ⟨item :: earlier, fault, later, rfl, ?_, ?_⟩
              · exact List.forall_mem_cons.mpr ⟨⟨b, hresult.mp hitem⟩, hearlier⟩
              · rw [List.length_cons, Nat.add_comm earlier.length, ← Nat.add_assoc]
                exact hfault

theorem optionMapM_eq_ok_iff {f : α → Except ε β} {item : Option α} {result : Option β} :
    item.mapM f = .ok result ↔ Option.Rel (fun a b => f a = .ok b) item result := by
  cases item with
  | none => cases result <;> simp [pure, Except.pure]
  | some a => cases result <;> cases h : f a <;> simp [Functor.map, Except.map, h]

/-- Each result of a list comes from an item. -/
theorem exists_of_mem_mapM {f : α → Except ε β} {items : List α} {results : List β}
    (h : items.mapM f = .ok results) {b : β} (hb : b ∈ results) : ∃ a ∈ items, f a = .ok b :=
  List.exists_of_forall₂_right (mapM_eq_ok_iff.mp h) hb

theorem mapM_map_eq_ok {γ : Type} {f : β → Except ε γ} {g : α → β} {result : α → γ}
    {items : List α} (h : ∀ a ∈ items, f (g a) = .ok (result a)) :
    (items.map g).mapM f = .ok (items.map result) := by
  rw [mapM_eq_ok_iff, List.forall₂_map_left_iff, List.forall₂_map_right_iff, List.forall₂_same]
  exact h

end Except
