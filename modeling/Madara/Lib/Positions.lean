import Mathlib.Data.List.Basic

/-! Positions among the elements a `filterMap` keeps. Two lists built from one
by keeping different elements number the same element differently: the
element at `k` lands in each at the number of elements that list kept before
it (`getElem?_filterMap_take_length`), after those a prefix keeps
(`getElem?_filterMap_take`). Where one list keeps everything the
other keeps, the two numbers differ by the elements only the larger one kept
(`length_filterMap_eq_add_countP`), and a list whose dropped elements all come
first numbers the kept ones from its first kept position
(`length_filterMap_take_append`). -/
namespace Positions

variable {α β γ : Type}

/-- The element at `k`, when kept, sits at the number of elements kept before it. -/
theorem getElem?_filterMap_take_length {xs : List α} {f : α → Option β} {k : Nat} {b : β}
    (kept : xs[k]?.bind f = some b) : (xs.filterMap f)[((xs.take k).filterMap f).length]? = some b := by
  obtain ⟨x, found, fx⟩ := Option.bind_eq_some_iff.mp kept
  obtain ⟨lt, rfl⟩ := List.getElem?_eq_some_iff.mp found
  have split : xs.filterMap f = (xs.take k).filterMap f ++ b :: (xs.drop (k + 1)).filterMap f := by
    conv_lhs => rw [← List.take_append_drop k xs, List.drop_eq_getElem_cons lt]
    rw [List.filterMap_append, List.filterMap_cons_some fx]
  rw [split, List.getElem?_append_right (Nat.le_refl _), Nat.sub_self, List.getElem?_cons_zero]

/-- The elements a prefix keeps come first among those the whole list keeps. -/
theorem getElem?_filterMap_take {xs : List α} {f : α → Option β} {k i : Nat}
    (before : i < ((xs.take k).filterMap f).length) : (xs.filterMap f)[i]? = ((xs.take k).filterMap f)[i]? := by
  conv_lhs => rw [← List.take_append_drop k xs]
  rw [List.filterMap_append, List.getElem?_append_left before]

/-- What `g` keeps is what `f` keeps and the elements only `g` keeps, when `g`
keeps everything `f` keeps. -/
theorem length_filterMap_eq_add_countP {f : α → Option β} {g : α → Option γ}
    (sub : ∀ x, (f x).isSome → (g x).isSome) (xs : List α) :
    (xs.filterMap g).length = (xs.filterMap f).length + xs.countP (fun x => (g x).isSome && (f x).isNone) := by
  induction xs with
  | nil => rfl
  | cons x rest ih =>
    rw [List.filterMap_cons, List.filterMap_cons, List.countP_cons]
    cases fx : f x with
    | none =>
      cases gx : g x with
      | none => simp [ih]
      | some c => simp [ih]; omega
    | some b =>
      -- `g` keeps what `f` keeps
      obtain ⟨c, gx⟩ := Option.isSome_iff_exists.mp (sub x (by rw [fx]; rfl))
      simp [gx, ih]
      omega

/-- Everything a list keeps, when `f` keeps every element. -/
theorem length_filterMap_of_forall_isSome {f : α → Option β} {xs : List α} (kept : ∀ x ∈ xs, (f x).isSome) :
    (xs.filterMap f).length = xs.length := by
  rw [List.length_filterMap_eq_countP, List.countP_eq_length]
  exact kept

/-- Where `f` keeps every element, the kept list reads like the list. -/
theorem getElem?_filterMap_of_forall_isSome {f : α → Option β} {xs : List α} (kept : ∀ x ∈ xs, (f x).isSome)
    (i : Nat) : (xs.filterMap f)[i]? = xs[i]?.bind f := by
  induction xs generalizing i with
  | nil => rfl
  | cons x rest ih =>
    obtain ⟨b, fx⟩ := Option.isSome_iff_exists.mp (kept x List.mem_cons_self)
    have keptRest : ∀ y ∈ rest, (f y).isSome := fun y member => kept y (List.mem_cons_of_mem x member)
    rw [List.filterMap_cons_some fx]
    cases i with
    | zero => simp [fx]
    | succ i => simp [ih keptRest i]

/-- In a list whose dropped elements all come first, the first `k` elements
keep as many as `k` reaches past the dropped ones. -/
theorem length_filterMap_take_append {f : α → Option β} {ys zs : List α} (dropped : ∀ y ∈ ys, f y = none)
    (kept : ∀ z ∈ zs, (f z).isSome) {k : Nat} (within : k ≤ ys.length + zs.length) :
    (((ys ++ zs).take k).filterMap f).length = k - ys.length := by
  have none : (ys.take k).filterMap f = [] :=
    List.filterMap_eq_nil_iff.mpr fun y member => dropped y (List.mem_of_mem_take member)
  have some : ((zs.take (k - ys.length)).filterMap f).length = (zs.take (k - ys.length)).length :=
    length_filterMap_of_forall_isSome fun z member => kept z (List.mem_of_mem_take member)
  rw [List.take_append, List.filterMap_append, none, List.nil_append, some, List.length_take]
  omega

/-- Everything a list whose dropped elements all come first drops. -/
theorem length_sub_length_filterMap_append {f : α → Option β} {ys zs : List α}
    (dropped : ∀ y ∈ ys, f y = none) (kept : ∀ z ∈ zs, (f z).isSome) :
    (ys ++ zs).length - ((ys ++ zs).filterMap f).length = ys.length := by
  have whole := length_filterMap_take_append dropped kept (Nat.le_refl _)
  rw [← List.length_append, List.take_length] at whole
  rw [whole, List.length_append]
  omega

end Positions
