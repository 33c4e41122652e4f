import BoxOffice.Memory.Inventory
import Mathlib.Algebra.GroupWithZero.Nat
import Mathlib.Data.List.Forall2
import Mathlib.Data.List.Nodup

/-!
# BoxOffice.Proofs.Memory.FirstMatch

What changing the first element that meets a condition does to sums and counts over
the list (`sum_map_updateFirst`, `countP_updateFirst`), to a later search
(`find?_updateFirst`), and to the list element by element (`forall₂_updateFirst`,
`updateFirst_eq_set`). Where keys are pairwise distinct, changing the first match is changing
the element of its key (`updateFirst_eq_map`).
-/

namespace BoxOffice

variable {α : Type} {p q : α → Bool} {f : α → α} {xs : List α} {x : α}

theorem sum_map_updateFirst (g : α → Nat) (h : xs.find? p = some x) :
    ((updateFirst p f xs).map g).sum + g x = (xs.map g).sum + g (f x) := by
  obtain ⟨before, after, rfl, -, -, hu⟩ := updateFirst_eq_append f h
  rw [hu]
  simp only [List.map_append, List.map_cons, List.sum_append, List.sum_cons]
  omega

theorem countP_updateFirst (h : xs.find? p = some x) :
    (updateFirst p f xs).countP q + (if q x then 1 else 0) =
      xs.countP q + (if q (f x) then 1 else 0) := by
  obtain ⟨before, after, rfl, -, -, hu⟩ := updateFirst_eq_append f h
  rw [hu]
  simp only [List.countP_append, List.countP_cons]
  omega

theorem map_filter_updateFirst {β : Type} (g : α → β) (hq : ∀ y, q (f y) = q y)
    (hg : ∀ y, g (f y) = g y) :
    ((updateFirst p f xs).filter q).map g = (xs.filter q).map g := by
  induction xs with
  | nil => rfl
  | cons y ys ih =>
    rw [updateFirst]
    split
    · rw [List.filter_cons, List.filter_cons, hq]
      split <;> simp [hg]
    · rw [List.filter_cons, List.filter_cons]
      split <;> simp [ih]

theorem map_updateFirst {β : Type} (g : α → β) (hg : ∀ y, g (f y) = g y) :
    (updateFirst p f xs).map g = xs.map g := by
  have hall : ((updateFirst p f xs).filter fun _ => true).map g =
      (xs.filter fun _ => true).map g := map_filter_updateFirst g (fun _ => rfl) hg
  simpa using hall

/-- The change is found in place of the element that was found before. -/
theorem find?_updateFirst (hp : xs.find? p = some x) (hq : xs.find? q = some x)
    (hf : q (f x) = true) : (updateFirst p f xs).find? q = some (f x) := by
  induction xs with
  | nil => simp at hp
  | cons y ys ih =>
    by_cases hpy : p y
    · rw [List.find?_cons_of_pos hpy] at hp
      cases hp
      rw [updateFirst, if_pos hpy, List.find?_cons_of_pos hf]
    · rw [List.find?_cons_of_neg hpy] at hp
      have hqy : ¬ q y := by
        intro hqy
        rw [List.find?_cons_of_pos hqy] at hq
        cases hq
        exact hpy (List.find?_some hp)
      rw [List.find?_cons_of_neg hqy] at hq
      rw [updateFirst, if_neg hpy, List.find?_cons_of_neg hqy]
      exact ih hp hq

/-- What was not found before is found only if the change meets the condition. -/
theorem find?_updateFirst_eq_none (hp : xs.find? p = some x) (hq : xs.find? q = none)
    (hf : q (f x) = false) : (updateFirst p f xs).find? q = none := by
  obtain ⟨before, after, rfl, -, -, hu⟩ := updateFirst_eq_append f hp
  rw [hu]
  simp only [List.find?_eq_none, List.mem_append, List.mem_cons] at hq ⊢
  rintro y (hy | rfl | hy)
  · exact hq y (.inl hy)
  · simp [hf]
  · exact hq y (.inr (.inr hy))

/-- What is in the list afterwards was there before, or is the element that changed. -/
theorem mem_updateFirst {y : α}
    (h : y ∈ updateFirst p f xs) : y ∈ xs ∨ ∃ x, xs.find? p = some x ∧ y = f x := by
  cases hfind : xs.find? p with
  | none =>
    rw [updateFirst_eq_self f hfind] at h
    exact .inl h
  | some x =>
    obtain ⟨before, after, rfl, -, -, hu⟩ := updateFirst_eq_append f hfind
    rw [hu] at h
    simp only [List.mem_append, List.mem_cons] at h ⊢
    rcases h with h | rfl | h
    · exact .inl (.inl h)
    · exact .inr ⟨x, rfl, rfl⟩
    · exact .inl (.inr (.inr h))

/-- Element by element only the one that is found changes. -/
theorem forall₂_updateFirst {R : α → α → Prop} (refl : ∀ y, R y y)
    (h : ∀ x, xs.find? p = some x → R x (f x)) : List.Forall₂ R xs (updateFirst p f xs) := by
  induction xs with
  | nil => exact .nil
  | cons y ys ih =>
    by_cases hpy : p y
    · rw [updateFirst, if_pos hpy]
      exact .cons (h y (List.find?_cons_of_pos hpy)) (List.forall₂_same.2 fun z _ => refl z)
    · rw [updateFirst, if_neg hpy]
      exact .cons (refl y) (ih fun x hx => h x (by rwa [List.find?_cons_of_neg hpy]))

theorem forall₂_trans {R : α → α → Prop} (trans : ∀ {a b c}, R a b → R b c → R a c)
    {xs ys zs : List α} (hxy : List.Forall₂ R xs ys) (hyz : List.Forall₂ R ys zs) :
    List.Forall₂ R xs zs := by
  induction hxy generalizing zs with
  | nil => exact hyz
  | cons hab _ ih =>
    cases hyz with
    | cons hbc hrest => exact .cons (trans hab hbc) (ih hrest)

/-- The element at the same place of the other list. -/
theorem getElem?_of_forall₂ {R : α → α → Prop} {xs ys : List α} (h : List.Forall₂ R xs ys) {i : Nat}
    {x : α} (hx : xs[i]? = some x) : ∃ y, ys[i]? = some y ∧ R x y := by
  induction h generalizing i with
  | nil => simp at hx
  | @cons a b as bs hab _ ih =>
    cases i with
    | zero =>
      cases hx
      exact ⟨b, rfl, hab⟩
    | succ i => simpa using ih (by simpa using hx)

theorem updateFirst_eq_set {i : Nat} (hi : xs.findIdx? p = some i) (hx : xs[i]? = some x) :
    updateFirst p f xs = xs.set i (f x) := by
  induction xs generalizing i with
  | nil => simp at hi
  | cons y ys ih =>
    by_cases hpy : p y
    · rw [List.findIdx?_cons, if_pos hpy] at hi
      cases hi
      cases hx
      rw [updateFirst, if_pos hpy, List.set_cons_zero]
    · rw [List.findIdx?_cons, if_neg hpy] at hi
      obtain ⟨j, hj, rfl⟩ := Option.map_eq_some_iff.1 hi
      rw [updateFirst, if_neg hpy, List.set_cons_succ, ih hj (by simpa using hx)]

/-- The element that is found, by its place. -/
theorem exists_findIdx?_of_find? (h : xs.find? p = some x) :
    ∃ i, xs.findIdx? p = some i ∧ xs[i]? = some x := by
  induction xs with
  | nil => simp at h
  | cons y ys ih =>
    by_cases hpy : p y
    · rw [List.find?_cons_of_pos hpy] at h
      exact ⟨0, by simp [List.findIdx?_cons, hpy], by simpa using h⟩
    · rw [List.find?_cons_of_neg hpy] at h
      obtain ⟨i, hi, hx⟩ := ih h
      exact ⟨i + 1, by simp [List.findIdx?_cons, hpy, hi], by simpa using hx⟩

/-! ## keys -/

section

variable {κ : Type} {key : α → κ}

theorem key_ne_of_nodup {before after : List α}
    (nodup : ((before ++ x :: after).map key).Nodup) : ∀ y ∈ before ++ after, key y ≠ key x := by
  rw [List.map_append, List.map_cons, List.nodup_middle, List.nodup_cons, ← List.map_append]
    at nodup
  intro y hy hkey
  exact nodup.1 (hkey ▸ List.mem_map_of_mem hy)

/-- Where a key names an element, changing the first one that is found is changing the one of
its key. -/
theorem updateFirst_eq_map [DecidableEq κ] (nodup : (xs.map key).Nodup)
    (h : xs.find? p = some x) :
    updateFirst p f xs = xs.map fun y => if key y = key x then f y else y := by
  obtain ⟨before, after, rfl, -, -, hu⟩ := updateFirst_eq_append f h
  have hsame : ∀ ys ⊆ before ++ after,
      ys.map (fun y => if key y = key x then f y else y) = ys := by
    intro ys hys
    refine (List.map_congr_left fun y hy => ?_).trans (List.map_id ys)
    exact if_neg (key_ne_of_nodup nodup y (hys hy))
  rw [hu, List.map_append, List.map_cons, hsame before (List.subset_append_left ..),
    hsame after (List.subset_append_right ..), if_pos rfl]

end

/-- Where no two elements are related, each is the only one that is related to itself. -/
theorem filter_eq_singleton {r : α → α → Bool}
    (apart : xs.Pairwise fun a b => r a b = false ∧ r b a = false) (hx : x ∈ xs)
    (self : r x x = true) : xs.filter (r x ·) = [x] := by
  induction xs with
  | nil => simp at hx
  | cons y ys ih =>
    have hy := (List.pairwise_cons.1 apart).1
    rcases List.mem_cons.1 hx with rfl | hx
    · have hrest : ys.filter (r x ·) = [] := by
        rw [List.filter_eq_nil_iff]
        intro z hz
        simp [(hy z hz).1]
      rw [List.filter_cons_of_pos self, hrest]
    · rw [List.filter_cons_of_neg (by simp [(hy x hx).2])]
      exact ih apart.of_cons hx

/-- Where a key names an element, that one alone has its key. -/
theorem filter_key_eq_singleton {κ : Type} [DecidableEq κ] {key : α → κ}
    (nodup : (xs.map key).Nodup) (h : x ∈ xs) : xs.filter (fun y => key y == key x) = [x] := by
  have apart : xs.Pairwise fun a b => (key b == key a) = false ∧ (key a == key b) = false :=
    (List.pairwise_map.1 nodup).imp fun hne => by simp [hne, hne.symm]
  exact filter_eq_singleton (r := fun a b => key b == key a) apart h (by simp)

end BoxOffice
