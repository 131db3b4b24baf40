/-!
# Outcomes that are results

What is known of a computation that may fail once it gives a result: so did every part of it. Two
computations that differ in their failures alone are the same once those are set aside or told in
one text.
-/

namespace QueryGateway

variable {ε ε' κ α β : Type}

/-- A computation in two parts gives a result if the first does, and the second with it. -/
theorem bind_eq_ok {x : Except ε α} {f : α → Except ε β} {b : β} (h : x >>= f = .ok b) :
    ∃ a, x = .ok a ∧ f a = .ok b := by
  cases x with
  | error e => cases h
  | ok a => exact ⟨a, rfl, h⟩

theorem map_eq_ok {x : Except ε α} {f : α → β} {b : β} (h : x.map f = .ok b) : ∃ a, x = .ok a ∧ f a = b := by
  cases x with
  | error e => cases h
  | ok a => exact ⟨a, rfl, Except.ok.inj h⟩

theorem mapError_eq_ok {x : Except ε α} {f : ε → ε'} {a : α} (h : x.mapError f = .ok a) : x = .ok a := by
  cases x with
  | error e => cases h
  | ok b => exact congrArg Except.ok (Except.ok.inj h)

theorem toOption_eq_some {x : Except ε α} {a : α} (h : x.toOption = some a) : x = .ok a := by
  cases x with
  | error e => cases h
  | ok b => exact congrArg Except.ok (Option.some.inj h)

/-- Past a check that refuses. -/
theorem unless_eq_ok {p : Bool} {e : ε} {x : Except ε α} {a : α}
    (h : (if (!p) = true then .error e else x) = .ok a) : p = true ∧ x = .ok a := by
  cases p with
  | true => exact ⟨rfl, h⟩
  | false => cases h

theorem mapM_some_eq_ok {f : α → Except ε β} {a : α} {b : β} (h : f a = .ok b) : (some a).mapM f = .ok (some b) := by
  show (f a).map some = _
  rw [h]
  rfl

/-- A computation for what may be absent gives a result if it is absent, or else with it. -/
theorem mapM_eq_ok {f : α → Except ε β} {x : Option α} {y : Option β} (h : x.mapM f = .ok y) :
    (x = none ∧ y = none) ∨ ∃ a b, x = some a ∧ f a = .ok b ∧ y = some b := by
  cases x with
  | none => exact .inl ⟨rfl, (Except.ok.inj h).symm⟩
  | some a =>
    obtain ⟨b, hb, rfl⟩ := map_eq_ok h
    exact .inr ⟨a, b, rfl, hb, rfl⟩

/-- The results of a computation for many are results of it for some of them. -/
theorem mem_of_mapM_eq_ok {f : α → Except ε β} {xs : List α} {ys : List β} (h : xs.mapM f = .ok ys) {y : β}
    (hy : y ∈ ys) : ∃ x ∈ xs, f x = .ok y := by
  induction xs generalizing ys with
  | nil =>
    cases h
    cases hy
  | cons x xs ih =>
    rw [List.mapM_cons] at h
    obtain ⟨z, hz, h⟩ := bind_eq_ok h
    obtain ⟨zs, hzs, h⟩ := bind_eq_ok h
    cases h
    rcases List.mem_cons.1 hy with rfl | hy
    · exact ⟨x, List.mem_cons_self, hz⟩
    · obtain ⟨w, hw, hwy⟩ := ih hzs hy
      exact ⟨w, List.mem_cons_of_mem x hw, hwy⟩

/-- If every part gives a result, what the results show is what the parts showed. -/
theorem map_of_mapM_eq_ok {γ : Type} {f : α → Except ε β} {before : α → γ} {behind : β → γ} {xs : List α}
    {ys : List β} (h : xs.mapM f = .ok ys) (same : ∀ x ∈ xs, ∀ y, f x = .ok y → before x = behind y) :
    xs.map before = ys.map behind := by
  induction xs generalizing ys with
  | nil =>
    cases h
    rfl
  | cons x xs ih =>
    rw [List.mapM_cons] at h
    obtain ⟨y, hy, h⟩ := bind_eq_ok h
    obtain ⟨zs, hzs, h⟩ := bind_eq_ok h
    cases h
    rw [List.map_cons, List.map_cons, same x List.mem_cons_self y hy,
      ih hzs fun x hx => same x (List.mem_cons_of_mem _ hx)]

/-! ## Up to failures -/

theorem mapError_const_congr {x y : Except ε α} (h : x.toOption = y.toOption) (k : κ) :
    x.mapError (fun _ => k) = y.mapError fun _ => k := by
  cases x <;> cases y <;> cases h <;> rfl

theorem mapError_bind_congr {x y : Except ε α} {f g : α → Except ε β} {k : ε → κ}
    (h : x.mapError k = y.mapError k) (h' : ∀ a, (f a).mapError k = (g a).mapError k) :
    (x >>= f).mapError k = (y >>= g).mapError k := by
  cases x with
  | error e =>
    cases y with
    | error e' => exact congrArg Except.error (Except.error.inj h)
    | ok b => cases h
  | ok a =>
    cases y with
    | error e => cases h
    | ok b =>
      cases h
      exact h' a

theorem toOption_bind_congr {x y : Except ε α} {f g : α → Except ε β} (h : x.toOption = y.toOption)
    (h' : ∀ a, (f a).toOption = (g a).toOption) : (x >>= f).toOption = (y >>= g).toOption := by
  cases x with
  | error e =>
    cases y with
    | error e' => rfl
    | ok b => cases h
  | ok a =>
    cases y with
    | error e => cases h
    | ok b =>
      cases h
      exact h' a

theorem toOption_map_congr {x y : Except ε α} (h : x.toOption = y.toOption) (f : α → β) :
    (x.map f).toOption = (y.map f).toOption := by
  cases x <;> cases y <;> cases h <;> rfl

theorem toOption_bind (x : Except ε α) (f : α → Except ε β) :
    (x >>= f).toOption = x.toOption.bind fun a => (f a).toOption := by
  cases x <;> rfl

theorem toOption_mapError (x : Except ε α) (f : ε → ε') : (x.mapError f).toOption = x.toOption := by
  cases x <;> rfl

theorem toOption_map (x : Except ε α) (f : α → β) : (x.map f).toOption = x.toOption.map f := by
  cases x <;> rfl

theorem toOption_mapM (f : α → Except ε β) (xs : List α) :
    (xs.mapM f).toOption = xs.mapM fun x => (f x).toOption := by
  induction xs with
  | nil => rfl
  | cons x xs ih =>
    rw [List.mapM_cons, List.mapM_cons, ← ih]
    cases f x with
    | error e => rfl
    | ok b => cases xs.mapM f <;> rfl

/-- One part that fails makes the whole fail. -/
theorem mapM_eq_none {f : α → Option β} {xs : List α} {x : α} (hx : x ∈ xs) (h : f x = none) : xs.mapM f = none := by
  induction xs with
  | nil => cases hx
  | cons y xs ih =>
    rw [List.mapM_cons]
    rcases List.mem_cons.1 hx with rfl | hx
    · rw [h]
      rfl
    · rw [ih hx]
      cases f y <;> rfl

theorem mapM_mapError (f : α → Except ε β) (g : ε → κ) (xs : List α) :
    (xs.mapM fun x => (f x).mapError g) = (xs.mapM f).mapError g := by
  induction xs with
  | nil => rfl
  | cons x xs ih =>
    rw [List.mapM_cons, List.mapM_cons, ih]
    cases f x with
    | error e => rfl
    | ok b => cases xs.mapM f <;> rfl

end QueryGateway
