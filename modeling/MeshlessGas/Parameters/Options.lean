/-
Options — values under the names that a maker of things knows.

A set of options is accepted when it holds all that are required and none that are
unknown; what else is left out has a default.
-/
import MeshlessGas.Parameters.Section

namespace MeshlessGas

/-- Named options. -/
abbrev Options (D : Type) := Entries (Value D)

namespace Options

variable {D : Type}

/-- Refuses options of which a required one is missing or one is not known. -/
def check (o : Options D) (required optional : List String) : Except Failure Unit :=
  if (o.all fun x => x.1 ∈ required ++ optional) ∧
      (required.all fun name => (o.get? name).isSome) then .ok ()
  else .error .wrongType

/-- The option under a name, or its default. -/
def getD (o : Options D) (name : String) (default : Value D) : Value D :=
  (o.get? name).getD default

/-- A required option. -/
def need (o : Options D) (name : String) : Value D := o.getD name .none

end Options

end MeshlessGas
