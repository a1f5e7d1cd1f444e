/-
Vectors — triples of numbers, one for each axis of space.
-/

namespace MeshlessGas

/-- A vector in space. -/
structure Vec3 (α : Type) where
  x : α
  y : α
  z : α
deriving DecidableEq, Repr

namespace Vec3

variable {α β γ : Type}

/-- The vector with one number on all axes. -/
def replicate (a : α) : Vec3 α := ⟨a, a, a⟩

def map (f : α → β) (v : Vec3 α) : Vec3 β := ⟨f v.x, f v.y, f v.z⟩

def zipWith (f : α → β → γ) (v : Vec3 α) (w : Vec3 β) : Vec3 γ :=
  ⟨f v.x w.x, f v.y w.y, f v.z w.z⟩

def toList (v : Vec3 α) : List α := [v.x, v.y, v.z]

/-- The vector of a list of three. -/
def ofList? : List α → Option (Vec3 α)
  | [x, y, z] => some ⟨x, y, z⟩
  | _ => none

/-- The components added from the first axis to the last. -/
def sum [Add α] (v : Vec3 α) : α := v.x + v.y + v.z

@[simp] theorem ofList?_toList (v : Vec3 α) : ofList? v.toList = some v := rfl

@[simp] theorem length_toList (v : Vec3 α) : v.toList.length = 3 := rfl

end Vec3

end MeshlessGas
