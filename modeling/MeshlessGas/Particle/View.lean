/-
Views — what records hold, by the names of their fields.

A view of a selection has the shape of the selection; its entries are numbers, or fields by
their names.
-/
import MeshlessGas.Particle.Selection

namespace MeshlessGas

/-- What an entry holds. -/
inductive RecordView (D S : Type) where
  | numbers (a : NumericArray D S)
  | fields (xs : List (String × RecordView D S))

namespace Layout

variable {R D S L : Type} [Arithmetic D] [Arithmetic S] [Narrowing D S]

/-- The numbers of a leaf of one record. -/
def leafNumbers (l : Lens R D S) (r : R) : NumericArray D S :=
  ⟨l.type, ⟨l.shape.shape, l.get r, l.length_get r⟩⟩

mutual

/-- What a record holds in a part of its fields. -/
def viewOf (layout : Layout R D S L) (r : R) : FieldTree L → RecordView D S
  | .leaf l => .numbers (leafNumbers (layout.lens l) r)
  | .node fields => .fields (viewFields layout r fields)

def viewFields (layout : Layout R D S L) (r : R) :
    List (String × FieldTree L) → List (String × RecordView D S)
  | [] => []
  | (name, t) :: rest => (name, viewOf layout r t) :: viewFields layout r rest

end

/-- What some steps lead to in an array of records. -/
def view (layout : Layout R D S L) (axes : List Nat) (rs : List R) (steps : List Selector) :
    Except Failure (Tensor (RecordView D S)) := do
  let s ← layout.follow axes rs.length steps
  let records := rs.toArray
  match s.target with
  | .leaf l =>
    let found ← readAll (layout.lens l) records s.spots
    return found.cells.map fun c => .numbers ⟨found.type, .scalar c⟩
  | .node fields =>
    s.spots.mapM fun spot => do
      let r ← Failure.ofOption .indexOutOfRange records[spot.record]?
      return viewOf layout r (.node fields)

end Layout

end MeshlessGas
