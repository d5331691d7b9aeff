/-
  Carousel — tables of a fixed size.

  A table is a `Vector`, and a position in it a `Fin`.

  * `get_setIfInBounds`, `get_map` and `get_replicate`: what is found at a position after
    each way of making a table.
-/
namespace Carousel.Table

variable {α γ : Type} {n : Nat}

/-- The entry at a position, by number. -/
theorem get_eq_getElem (v : Vector α n) (i : Fin n) : v.get i = v[i.val] := rfl

/-- Only the position that is set changes. -/
theorem get_setIfInBounds (v : Vector α n) (i j : Fin n) (a : α) :
    (v.setIfInBounds i a).get j = if i = j then a else v.get j := by
  simp only [get_eq_getElem, Vector.getElem_setIfInBounds, Fin.val_inj]

@[simp] theorem get_map (v : Vector α n) (f : α → γ) (i : Fin n) :
    (v.map f).get i = f (v.get i) :=
  Vector.getElem_map _ _

@[simp] theorem get_replicate (a : α) (i : Fin n) : (Vector.replicate n a).get i = a :=
  Vector.getElem_replicate _

end Carousel.Table
