import Mathlib.Data.List.Basic

/-!
# Checked computations

A function that either returns a value or stops at its first failed check is
an `Except` program. The simp set below turns `program = .ok result` into the
conjunction of the checks it passed, in both directions: the same lemma
inverts a successful run and builds one.
-/

namespace Checked

variable {ε α β γ : Type}

/-- Continue when `c` holds, otherwise stop with `e`. -/
def require (c : Prop) [Decidable c] (e : ε) : Except ε Unit :=
  if c then .ok () else .error e

/-- The value of `o`, or stop with `e`. -/
def orStop (o : Option α) (e : ε) : Except ε α :=
  match o with
  | some a => .ok a
  | none => .error e

@[simp] theorem require_eq_ok {c : Prop} [Decidable c] {e : ε} {u : Unit} :
    require c e = .ok u ↔ c := by
  unfold require
  split <;> simp_all

theorem require_pos {c : Prop} [Decidable c] {e : ε} (h : c) : require c e = .ok () :=
  if_pos h

@[simp] theorem orStop_eq_ok {o : Option α} {e : ε} {a : α} :
    orStop o e = .ok a ↔ o = some a := by
  cases o <;> simp [orStop]

@[simp] theorem bind_eq_ok {x : Except ε α} {f : α → Except ε β} {b : β} :
    (x >>= f) = .ok b ↔ ∃ a, x = .ok a ∧ f a = .ok b := by
  cases x <;> simp [Bind.bind, Except.bind]

@[simp] theorem map_eq_ok {x : Except ε α} {f : α → β} {b : β} :
    (f <$> x) = .ok b ↔ ∃ a, x = .ok a ∧ f a = b := by
  cases x <;> simp [Functor.map, Except.map]

@[simp] theorem pure_eq_ok {a b : α} :
    (pure a : Except ε α) = .ok b ↔ a = b := by
  simp [Pure.pure, Except.pure]

@[simp] theorem except_map_eq_ok {x : Except ε α} {f : α → β} {b : β} :
    x.map f = .ok b ↔ ∃ a, x = .ok a ∧ f a = b := by
  cases x <;> simp [Except.map]

/-- A pass over a list succeeds exactly if every element passes its check. -/
theorem forM_eq_ok {l : List α} {f : α → Except ε Unit} {u : Unit} :
    l.forM f = .ok u ↔ ∀ a ∈ l, f a = .ok () := by
  induction l with
  | nil => exact ⟨fun _ a ha => absurd ha List.not_mem_nil, fun _ => rfl⟩
  | cons b rest ih =>
    rw [show (b :: rest).forM f = (f b >>= fun _ => rest.forM f) from rfl, bind_eq_ok,
      List.forall_mem_cons, ← ih]
    constructor
    · rintro ⟨⟨⟩, hb, hrest⟩
      exact ⟨hb, hrest⟩
    · rintro ⟨hb, hrest⟩
      exact ⟨(), hb, hrest⟩

@[simp] theorem toOption_eq_some {x : Except ε α} {a : α} : x.toOption = some a ↔ x = .ok a := by
  cases x <;> simp [Except.toOption]

/-- A successful computation, from one part of its result. -/
theorem exists_of_toOption_map {x : Except ε α} {f : α → β} {b : β}
    (h : x.toOption.map f = some b) : ∃ a, x = .ok a ∧ f a = b := by
  simpa using h

@[simp] theorem throw_ne_ok {e : ε} {b : α} :
    ((throw e : Except ε α) = .ok b) ↔ False := by
  simp [throw, throwThe, MonadExceptOf.throw]

/-- What holds of the value of an option, in the form that evaluation checks. -/
theorem get_of_any {o : Option α} {p : α → Prop} [DecidablePred p]
    (h : o.any (fun a => decide (p a)) = true) : p (o.get (Option.isSome_of_any h)) := by
  cases o with
  | none => cases h
  | some a => simpa using h

/-- A failing sequence fails in its first part, or passes it and fails later. -/
theorem bind_eq_error {x : Except ε α} {f : α → Except ε β} {e : ε} :
    (x >>= f) = .error e ↔ x = .error e ∨ ∃ a, x = .ok a ∧ f a = .error e := by
  cases x <;> simp [Bind.bind, Except.bind]

theorem map_eq_error {x : Except ε α} {f : α → β} {e : ε} :
    (f <$> x) = .error e ↔ x = .error e := by
  cases x <;> simp [Functor.map, Except.map]

theorem require_eq_error {c : Prop} [Decidable c] {e e' : ε} :
    require c e = .error e' ↔ ¬c ∧ e = e' := by
  unfold require
  split <;> simp_all

theorem orStop_eq_error {o : Option α} {e e' : ε} :
    orStop o e = .error e' ↔ o = none ∧ e = e' := by
  cases o <;> simp [orStop]

@[simp] theorem mapError_eq_ok {δ : Type} {x : Except ε α} {f : ε → δ} {a : α} :
    x.mapError f = .ok a ↔ x = .ok a := by
  cases x <;> simp [Except.mapError]

theorem mapError_eq_error {δ : Type} {x : Except ε α} {f : ε → δ} {e : δ} :
    x.mapError f = .error e ↔ ∃ e', x = .error e' ∧ f e' = e := by
  cases x <;> simp [Except.mapError]

theorem pure_ne_error {a : α} {e : ε} : ((pure a : Except ε α) = .error e) ↔ False := by
  simp [Pure.pure, Except.pure]

/-- What each step of a fold keeps, the fold keeps. -/
theorem foldlM_induction {P : β → Prop} {f : β → α → Except ε β} {l : List α} {b c : β}
    (hstep : ∀ b a c, P b → a ∈ l → f b a = .ok c → P c) (hb : P b)
    (h : l.foldlM f b = .ok c) : P c := by
  induction l generalizing b with
  | nil =>
    rw [List.foldlM_nil, pure_eq_ok] at h
    exact h ▸ hb
  | cons a rest ih =>
    rw [List.foldlM_cons, bind_eq_ok] at h
    obtain ⟨m, hm, hrest⟩ := h
    exact ih (fun b a c hb ha => hstep b a c hb (List.mem_cons_of_mem _ ha))
      (hstep b a m hb List.mem_cons_self hm) hrest

/-! ## How a computation stops -/

/-- Every error that a computation stops with satisfies `P`. -/
def StopsWith (P : ε → Prop) (x : Except ε α) : Prop := ∀ e, x = .error e → P e

section StopsWith

variable {P : ε → Prop}

theorem stopsWith_bind {x : Except ε α} {f : α → Except ε β} (hx : StopsWith P x)
    (hf : ∀ a, StopsWith P (f a)) : StopsWith P (x >>= f) := by
  intro e h
  rcases bind_eq_error.mp h with h | ⟨a, -, h⟩
  · exact hx e h
  · exact hf a e h

theorem stopsWith_pure {a : α} : StopsWith P (pure a : Except ε α) :=
  fun _ h => (pure_ne_error.mp h).elim

theorem stopsWith_require {c : Prop} [Decidable c] {e : ε} (h : P e) :
    StopsWith P (require c e) := by
  intro e' he
  obtain ⟨-, rfl⟩ := require_eq_error.mp he
  exact h

theorem stopsWith_orStop {o : Option α} {e : ε} (h : P e) : StopsWith P (orStop o e) := by
  intro e' he
  obtain ⟨-, rfl⟩ := orStop_eq_error.mp he
  exact h

theorem stopsWith_throw {e : ε} (h : P e) : StopsWith P (throw e : Except ε α) := by
  rintro e' ⟨⟩
  exact h

theorem stopsWith_mapError {δ : Type} {x : Except δ α} {f : δ → ε} (h : ∀ e, P (f e)) :
    StopsWith P (x.mapError f) := by
  intro e' he
  obtain ⟨e, -, rfl⟩ := mapError_eq_error.mp he
  exact h e

end StopsWith

/-! ## Exactly one match -/

/-- The only element of a list, if it has exactly one. -/
def only? : List α → Option α
  | [a] => some a
  | _ => none

/-- The only element of `l` that satisfies `p`. -/
def single? (l : List α) (p : α → Bool) : Option α :=
  only? (l.filter p)

@[simp] theorem only?_eq_some {l : List α} {a : α} :
    only? l = some a ↔ l = [a] := by
  match l with
  | [] => simp [only?]
  | [b] => simp [only?]
  | b :: c :: rest => simp [only?]

/-- The match among candidates, none if there is no candidate; several are an
error. -/
def atMostOne (l : List α) (e : ε) : Except ε (Option α) :=
  match l with
  | [] => .ok none
  | [a] => .ok (some a)
  | _ => .error e

@[simp] theorem atMostOne_eq_ok {l : List α} {e : ε} {o : Option α} :
    atMostOne l e = .ok o ↔ l = o.toList := by
  match l, o with
  | [], none => simp [atMostOne]
  | [], some _ => simp [atMostOne]
  | [_], none => simp [atMostOne]
  | [_], some _ => simp [atMostOne]
  | _ :: _ :: _, none => simp [atMostOne]
  | _ :: _ :: _, some _ => simp [atMostOne]

theorem eq_toList_head? {l : List α} (h : l.length ≤ 1) : l = l.head?.toList := by
  match l with
  | [] => rfl
  | [_] => rfl
  | _ :: _ :: _ => simp at h

theorem eq_singleton_of_mem {l : List α} {a : α} (h : l.length ≤ 1) (ha : a ∈ l) : l = [a] := by
  match l with
  | [] => simp at ha
  | [_] => simpa [eq_comm] using ha
  | _ :: _ :: _ => simp at h

theorem single?_eq_some {l : List α} {p : α → Bool} {a : α} :
    single? l p = some a ↔ l.filter p = [a] := by
  simp [single?]

theorem single?_mem {l : List α} {p : α → Bool} {a : α}
    (h : single? l p = some a) : a ∈ l ∧ p a = true := by
  have ha : a ∈ l.filter p := by simp [single?_eq_some.mp h]
  simpa using ha

/-- A match found by `single?` is the only one. -/
theorem single?_unique {l : List α} {p : α → Bool} {a b : α}
    (h : single? l p = some a) (hb : b ∈ l) (hp : p b = true) : b = a := by
  have hb' : b ∈ l.filter p := by simp [hb, hp]
  rw [single?_eq_some.mp h] at hb'
  simpa using hb'

/-- In a list without two elements of one key, the element with a given key is
found by `single?`. -/
theorem single?_of_nodup_key {κ : Type} [DecidableEq κ] {l : List α} {key : α → κ}
    (hnd : (l.map key).Nodup) {a : α} (ha : a ∈ l) :
    single? l (fun b => key b = key a) = some a := by
  rw [single?_eq_some]
  induction l with
  | nil => simp at ha
  | cons b rest ih =>
    obtain ⟨hb, hrest⟩ := List.nodup_cons.mp hnd
    rcases List.mem_cons.mp ha with rfl | ha'
    · have hnone : rest.filter (fun c => decide (key c = key a)) = [] := by
        simp only [List.filter_eq_nil_iff, decide_eq_true_eq]
        intro c hc heq
        exact hb (heq ▸ List.mem_map_of_mem hc)
      simp [hnone]
    · have hne : key b ≠ key a := fun heq => hb (heq ▸ List.mem_map_of_mem ha')
      simpa [List.filter_cons, hne] using ih hrest ha'

/-- Such a list has a given key exactly once or not at all. -/
theorem exists_iff_length_filter {κ : Type} [DecidableEq κ] {l : List α} {key : α → κ}
    (hnd : (l.map key).Nodup) {k : κ} :
    (∃ a ∈ l, key a = k) ↔ (l.filter fun a => key a = k).length = 1 := by
  constructor
  · rintro ⟨a, ha, rfl⟩
    rw [single?_eq_some.mp (single?_of_nodup_key hnd ha), List.length_singleton]
  · intro h
    obtain ⟨a, ha⟩ := List.length_eq_one_iff.mp h
    have hmem : a ∈ l.filter fun a => key a = k := ha ▸ List.mem_singleton_self a
    exact ⟨a, by simpa using hmem⟩

theorem length_filter_le_one {κ : Type} [DecidableEq κ] {l : List α} {key : α → κ}
    (hnd : (l.map key).Nodup) {k : κ} : (l.filter fun a => key a = k).length ≤ 1 := by
  by_cases hex : ∃ a ∈ l, key a = k
  · exact Nat.le_of_eq ((exists_iff_length_filter hnd).mp hex)
  · have hnone : (l.filter fun a => key a = k) = [] := by
      rw [List.filter_eq_nil_iff]
      intro a ha hkey
      exact hex ⟨a, ha, by simpa using hkey⟩
    simp [hnone]

/-- Changing elements in place keeps the match, when the change keeps the
tested property. -/
theorem single?_map {l : List α} {f : α → β} {p : β → Bool} :
    single? (l.map f) p = (single? l (p ∘ f)).map f := by
  simp only [single?, List.filter_map]
  match l.filter (p ∘ f) with
  | [] => rfl
  | [_] => rfl
  | _ :: _ :: _ => rfl

/-- Appending a list without matches keeps the match. -/
theorem single?_append_right {l r : List α} {p : α → Bool}
    (hr : ∀ b ∈ r, p b = false) : single? (l ++ r) p = single? l p := by
  have h : r.filter p = [] := by simpa [List.filter_eq_nil_iff] using hr
  simp [single?, h]

/-! ## Updating in place -/

/-- Change every element that satisfies `p`. -/
def modifyWhere (p : α → Bool) (f : α → α) (l : List α) : List α :=
  l.map fun a => if p a then f a else a

/-- Change the first element that satisfies `p`. -/
def modifyFirst (p : α → Bool) (f : α → α) : List α → List α
  | [] => []
  | a :: rest => if p a then f a :: rest else a :: modifyFirst p f rest

@[simp] theorem length_modifyWhere {p : α → Bool} {f : α → α} {l : List α} :
    (modifyWhere p f l).length = l.length := by
  simp [modifyWhere]

theorem mem_modifyWhere {p : α → Bool} {f : α → α} {l : List α} {b : α} :
    b ∈ modifyWhere p f l ↔ (∃ a ∈ l, p a = true ∧ f a = b) ∨ (b ∈ l ∧ p b = false) := by
  simp only [modifyWhere, List.mem_map]
  constructor
  · rintro ⟨a, ha, rfl⟩
    by_cases hp : p a = true
    · exact .inl ⟨a, ha, hp, by simp [hp]⟩
    · exact .inr (by simp [hp, ha])
  · rintro (⟨a, ha, hp, rfl⟩ | ⟨hb, hp⟩)
    · exact ⟨a, ha, by simp [hp]⟩
    · exact ⟨b, hb, by simp [hp]⟩

/-- Every element afterwards was there, or is the changed first match. -/
theorem mem_modifyFirst {p : α → Bool} {f : α → α} {l : List α} {b : α}
    (h : b ∈ modifyFirst p f l) : b ∈ l ∨ ∃ a, l.find? p = some a ∧ f a = b := by
  induction l with
  | nil => cases h
  | cons a rest ih =>
    by_cases hp : p a = true
    · simp only [modifyFirst, hp, if_true, List.mem_cons] at h
      rcases h with rfl | h
      · exact .inr ⟨a, by simp [hp], rfl⟩
      · exact .inl (List.mem_cons_of_mem _ h)
    · simp only [modifyFirst, hp, Bool.false_eq_true, if_false, List.mem_cons] at h
      rcases h with rfl | h
      · exact .inl List.mem_cons_self
      · rcases ih h with hold | ⟨c, hc, rfl⟩
        · exact .inl (List.mem_cons_of_mem _ hold)
        · exact .inr ⟨c, by simp [hp, hc], rfl⟩

/-- An element that the change keeps is kept. -/
theorem mem_modifyFirst_of_fixed {p : α → Bool} {f : α → α} {l : List α} {a : α}
    (ha : a ∈ l) (hf : f a = a) : a ∈ modifyFirst p f l := by
  induction l with
  | nil => cases ha
  | cons b rest ih =>
    by_cases hp : p b = true
    · rcases List.mem_cons.mp ha with rfl | ha
      · simp [modifyFirst, hp, hf]
      · simp [modifyFirst, hp, ha]
    · rcases List.mem_cons.mp ha with rfl | ha
      · simp [modifyFirst, hp]
      · simp [modifyFirst, hp, ih ha]

theorem map_modifyFirst {p : α → Bool} {f : α → α} {g : α → β} {l : List α}
    (h : ∀ a ∈ l, p a = true → g (f a) = g a) : (modifyFirst p f l).map g = l.map g := by
  induction l with
  | nil => rfl
  | cons a rest ih =>
    have hrest := ih fun b hb => h b (List.mem_cons_of_mem _ hb)
    by_cases hp : p a = true
    · simp [modifyFirst, hp, h a List.mem_cons_self hp]
    · simp [modifyFirst, hp, hrest]

/-- Of a single match the first is every one. -/
theorem modifyFirst_eq_modifyWhere {p : α → Bool} {f g : α → α} {l : List α} {a : α}
    (h : single? l p = some a) (hfg : f a = g a) : modifyFirst p f l = modifyWhere p g l := by
  rw [single?_eq_some] at h
  induction l with
  | nil => rfl
  | cons b rest ih =>
    by_cases hp : p b = true
    · obtain ⟨rfl, hrest⟩ : b = a ∧ rest.filter p = [] := by simpa [hp] using h
      have hsame : rest.map (fun c => if p c then g c else c) = rest := by
        rw [List.filter_eq_nil_iff] at hrest
        calc rest.map (fun c => if p c then g c else c)
            = rest.map id := List.map_congr_left fun c hc => by simp [hrest c hc]
          _ = rest := List.map_id rest
      simp [modifyFirst, modifyWhere, hp, hfg, hsame]
    · have hrest : rest.filter p = [a] := by simpa [hp] using h
      simpa [modifyFirst, modifyWhere, hp] using ih hrest

/-- A projection that the update keeps has the same image. -/
theorem map_modifyWhere {p : α → Bool} {f : α → α} {g : α → β} {l : List α}
    (h : ∀ a ∈ l, p a = true → g (f a) = g a) : (modifyWhere p f l).map g = l.map g := by
  simp only [modifyWhere, List.map_map]
  refine List.map_congr_left fun a ha => ?_
  by_cases hp : p a = true
  · simp [hp, h a ha hp]
  · simp [hp]

/-- The matches after an update that keeps them matches. -/
theorem filter_modifyWhere {p : α → Bool} {f : α → α} {l : List α}
    (h : ∀ a ∈ l, p a = true → p (f a) = true) :
    (modifyWhere p f l).filter p = (l.filter p).map f := by
  induction l with
  | nil => rfl
  | cons a rest ih =>
    have hrest := ih fun b hb => h b (List.mem_cons_of_mem _ hb)
    by_cases hp : p a = true
    · have hfa := h a List.mem_cons_self hp
      simpa [modifyWhere, hp, hfa] using hrest
    · simpa [modifyWhere, hp] using hrest

/-- An update of other elements, which stay others, keeps the matches. -/
theorem filter_modifyWhere_of_ne {p q : α → Bool} {f : α → α} {l : List α}
    (h : ∀ a ∈ l, p a = true → q a = false ∧ q (f a) = false) :
    (modifyWhere p f l).filter q = l.filter q := by
  induction l with
  | nil => rfl
  | cons a rest ih =>
    have hrest := ih fun b hb => h b (List.mem_cons_of_mem _ hb)
    by_cases hp : p a = true
    · obtain ⟨hqa, hqf⟩ := h a List.mem_cons_self hp
      simpa [modifyWhere, hp, hqa, hqf] using hrest
    · simp only [modifyWhere, List.map_cons, hp, Bool.false_eq_true, if_false,
        List.filter_cons] at hrest ⊢
      rw [hrest]

/-- The element that is written over the only one with its key. -/
theorem single?_written {κ : Type} [DecidableEq κ] {l : List α} {k : α → κ} {key : κ}
    {old new : α} (h : single? l (fun x => k x = key) = some old) (hnew : k new = k old) :
    single? (modifyWhere (fun x => k x = k new) (fun _ => new) l) (fun x => k x = key) =
      some new := by
  have hk : k old = key := by simpa using (single?_mem h).2
  rw [hnew, hk, single?_eq_some, filter_modifyWhere (by simp [hnew, hk]), single?_eq_some.mp h]
  rfl

/-- An element with another key is not written over. -/
theorem single?_unwritten {κ : Type} [DecidableEq κ] {l : List α} {k : α → κ} {key : κ} {new : α}
    (h : key ≠ k new) :
    single? (modifyWhere (fun x => k x = k new) (fun _ => new) l) (fun x => k x = key) =
      single? l (fun x => k x = key) := by
  unfold single?
  rw [filter_modifyWhere_of_ne]
  intro x _ hx
  have hkey : k x = k new := by simpa using hx
  exact ⟨decide_eq_false (hkey ▸ h.symm), decide_eq_false h.symm⟩

/-- An update that both sides of a projection describe commutes with it. -/
theorem map_modifyWhere_comm {p : α → Bool} {f : α → α} {q : β → Bool} {f' : β → β} {g : α → β}
    {l : List α} (hp : ∀ a ∈ l, p a = q (g a)) (hf : ∀ a ∈ l, p a = true → g (f a) = f' (g a)) :
    (modifyWhere p f l).map g = modifyWhere q f' (l.map g) := by
  simp only [modifyWhere, List.map_map]
  refine List.map_congr_left fun a ha => ?_
  by_cases h : p a = true
  · simp [h, hf a ha h, hp a ha ▸ h]
  · simp [h, hp a ha ▸ h]

/-! ## Lists rewritten in place -/

/-- Every element is kept or changed, by `R`, where it is. -/
def Rewrites (R : α → α → Prop) (l l' : List α) : Prop :=
  ∃ f : α → α, l' = l.map f ∧ ∀ a ∈ l, R a (f a)

section Rewrites

variable {R : α → α → Prop} {l l' l'' : List α}

theorem Rewrites.of_eq (hrefl : ∀ a, R a a) (h : l' = l) : Rewrites R l l' :=
  ⟨id, by simp [h], fun a _ => hrefl a⟩

theorem Rewrites.trans (htrans : ∀ a b c, R a b → R b c → R a c) (h : Rewrites R l l')
    (h' : Rewrites R l' l'') : Rewrites R l l'' := by
  obtain ⟨f, rfl, hf⟩ := h
  obtain ⟨g, rfl, hg⟩ := h'
  exact ⟨g ∘ f, List.map_map, fun a ha => htrans _ _ _ (hf a ha) (hg _ (List.mem_map_of_mem ha))⟩

theorem Rewrites.modifyWhere {p : α → Bool} {f : α → α} (hrefl : ∀ a, R a a)
    (h : ∀ a ∈ l, p a = true → R a (f a)) : Rewrites R l (modifyWhere p f l) := by
  refine ⟨_, rfl, fun a ha => ?_⟩
  by_cases hp : p a = true
  · simpa [hp] using h a ha hp
  · simpa [hp] using hrefl a

theorem Rewrites.mem (h : Rewrites R l l') {a : α} (ha : a ∈ l) : ∃ b ∈ l', R a b := by
  obtain ⟨f, rfl, hf⟩ := h
  exact ⟨f a, List.mem_map_of_mem ha, hf a ha⟩

theorem Rewrites.of_mem (h : Rewrites R l l') {b : α} (hb : b ∈ l') : ∃ a ∈ l, R a b := by
  obtain ⟨f, rfl, hf⟩ := h
  obtain ⟨a, ha, rfl⟩ := List.mem_map.mp hb
  exact ⟨a, ha, hf a ha⟩

theorem Rewrites.imp {S : α → α → Prop} (h : Rewrites R l l') (hS : ∀ a b, R a b → S a b) :
    Rewrites S l l' := by
  obtain ⟨f, hl, hf⟩ := h
  exact ⟨f, hl, fun a ha => hS _ _ (hf a ha)⟩

/-- The matches of a property that `R` keeps are the rewritten matches. -/
theorem Rewrites.filter {p : α → Bool} (h : Rewrites R l l') (hp : ∀ a b, R a b → p b = p a) :
    Rewrites R (l.filter p) (l'.filter p) := by
  obtain ⟨f, rfl, hf⟩ := h
  refine ⟨f, ?_, fun a ha => hf a (List.mem_of_mem_filter ha)⟩
  rw [List.filter_map]
  congr 1
  exact List.filter_congr fun a ha => hp _ _ (hf a ha)

end Rewrites

end Checked
