/-
Given unit systems — unit systems as options state them.

A unit system is given by its name, or by a number and a unit for each of length, mass and
time.  All numbers are looked at before any is used, and what a unit measures is checked
last.
-/
import MeshlessGas.Parameters.Value
import MeshlessGas.Units.System

namespace MeshlessGas

/-- A number of a named unit, before it is known to be one. -/
structure GivenUnit (D : Type) where
  multiple : Value D
  unit : NamedUnit

namespace GivenUnit

variable {D : Type} [Arithmetic D] [Numeral D]

/-- The number and the unit that a value states.  What is no number is no quantity. -/
def ofValue : Value D → Except Failure (GivenUnit D)
  | .list [multiple, .text symbol] => do
    let _ ← multiple.operand.mapError fun _ => .noQuantity
    return ⟨multiple, ← Failure.ofOption .unknownUnit (NamedUnit.ofSymbol? symbol)⟩
  | .list [_, _] => .error .wrongType
  | .list _ | .text _ | .dict _ => .error .badValue
  | _ => .error .wrongType

/-- The base unit, which a truth value is no multiple for. -/
def toBase (u : GivenUnit D) : Except Failure (BaseUnit D) :=
  match u.multiple with
  | .bool _ => .error .wrongType
  | v => do return ⟨← v.toReal, u.unit⟩

end GivenUnit

namespace UnitSystem

variable {D : Type} [Arithmetic D] [Numeral D]

/-- The unit systems that have a name. -/
def known : List (String × UnitSystem D) :=
  [("cosmo", cosmological), ("cgs", cgs), ("mks", mks)]

/-- The unit that a dictionary gives for a dimension. -/
def givenFor (entries : List (Value D × Value D)) (d : BaseDimension) :
    Except Failure (GivenUnit D) := do
  let entry ← Failure.ofOption .noSuchKey (entries.find? fun e => e.1.text? = some d.name)
  GivenUnit.ofValue entry.2

/-- Whether a base unit measures a dimension. -/
def measures (b : BaseUnit D) (d : BaseDimension) : Bool := b.unit.dimension = d

/-- The unit system that a value states. -/
def ofValue : Value D → Except Failure (UnitSystem D)
  | .text name => Failure.ofOption .noSuchKey ((known.find? fun s => s.1 = name).map Prod.snd)
  | .dict entries => do
    let length ← givenFor entries .length
    let mass ← givenFor entries .mass
    let time ← givenFor entries .time
    let s ← checked (.ofMechanical (← length.toBase) (← mass.toBase) (← time.toBase))
    if measures s.length .length ∧ measures s.mass .mass ∧ measures s.time .time then return s
    else throw .wrongDimension
  | _ => .error .wrongType

end UnitSystem

end MeshlessGas
