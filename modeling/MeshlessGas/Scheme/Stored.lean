/-
Stored schemes — the description of a scheme read back from its attributes.
-/
import MeshlessGas.Archive.Shown
import MeshlessGas.Archive.Table

namespace MeshlessGas

namespace StoredScheme

variable {D S : Type} [Arithmetic D] [Numeral D] [Arithmetic S] [Numeral S] [Narrowing D S]

/-- The attribute under a name, which must be there. -/
def need (attributes : Table (Attribute D S)) (name : String) :
    Except Failure (Attribute D S) :=
  Failure.ofOption .noSuchKey (attributes.find? name)

/-- The first entry of an attribute with two places, in a width of at least
four. -/
def placed (attributes : Table (Attribute D S)) (name : String) : Except Failure String := do
  match ← (← need attributes name).first with
  | .cell _ c => return String.ofList (Shown.padLeft 4 (Numeral.fixed 2 c.toDouble).toList)
  | .letter _ => .error .badValue
  | .row _ | .complex .. => .error .wrongType

/-- The scheme, its kernel, its resolution and its Courant number, in four
lines. -/
def info (attributes : Table (Attribute D S)) : Except Failure String := do
  let scheme ← need attributes "Scheme"
  let kernel ← need attributes "Kernel function"
  let eta ← placed attributes "Kernel eta"
  let target ← placed attributes "Kernel target N_ngb"
  let courant ← placed attributes "CFL parameter"
  return scheme.asText ++ "\n" ++ kernel.asText ++ "\n" ++
    "$\\eta$ = " ++ eta ++ " (" ++ target ++ " $N_\x7bngb\x7d$)\n" ++
    "$C_\x7b\\rm CFL\x7d$ = " ++ courant

end StoredScheme

end MeshlessGas
