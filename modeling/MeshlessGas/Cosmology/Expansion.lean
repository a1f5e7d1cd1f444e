/-
The expansion history — the Hubble rate of a universe with evolving dark energy.

The rate is given relative to today as a function of the scale factor.  The kick and
drift integrands are powers of the scale factor over the Hubble rate.
-/
import MeshlessGas.Parameters.Value
import MeshlessGas.Units.Factor

namespace MeshlessGas

/-- The parameters of an expansion history. -/
structure Expansion (D : Type) where
  aBegin : D
  /-- The last scale factor over the first. -/
  growth : D
  omegaM : D
  omegaLambda : D
  omegaR : D
  omegaK : D
  w0 : D
  wA : D
  /-- Adiabatic index of the gas. -/
  gamma : D
  /-- The Hubble constant in internal units. -/
  hubble : D
deriving Repr

/-- The kinds of kick and drift factors. -/
inductive KickKind where
  | drift
  | gravity
  | hydro
deriving DecidableEq, Repr

namespace KickKind

def all : List KickKind := [drift, gravity, hydro]

def name : KickKind → String
  | drift => "drift"
  | gravity => "gravity"
  | hydro => "hydro"

def ofName? (s : String) : Option KickKind := all.find? fun k => k.name = s

/-- The kind that a value names; what can be no key cannot be looked up. -/
def ofValue {D : Type} [Arithmetic D] [Numeral D] (v : Value D) : Except Failure KickKind :=
  let found := match v with
    | .text s => ofName? s
    | _ => none
  if v.isKey then Failure.ofOption (.unknownKick v.asText (all.map name)) found
  else .error .wrongType

end KickKind

namespace Expansion

variable {D : Type} [Transcendental D]

/-- The density of dark energy relative to today. -/
def darkEnergy (c : Expansion D) (a : D) : D :=
  Transcendental.exp
    (3.0 * ((a - 1.0) * c.wA - (1.0 + c.w0 + c.wA) * Transcendental.log a))

/-- The Hubble rate relative to today, given the powers of the inverse scale factor.
What is kept of a number may be less than all of it. -/
def rateOf (c : Expansion D) (kept : D → D) (a inv2 inv3 inv4 : D) : D :=
  let matter := kept (c.omegaR * inv4 + c.omegaM * inv3 + c.omegaK * inv2)
  let vacuum := kept (kept c.omegaLambda * kept (c.darkEnergy a))
  kept (Transcendental.sqrt (kept (matter + vacuum)))

/-- The Hubble rate relative to today. -/
def rate (c : Expansion D) (a : D) : D :=
  let inv := 1.0 / a
  c.rateOf id a (inv * inv) (Transcendental.pow inv 3.0) (Transcendental.pow inv 4.0)

/-- The integers whose logarithm is known: those of sixty-four bits, with or without a
sign. -/
def hasLogarithm (n : Int) : Bool := -pow2 63 ≤ n ∧ n < pow2 64

/-- The Hubble rate at a single scale factor, which must not be zero and whose powers must
be finite.  A truth value has a logarithm of half precision. -/
def rateAt {S : Type} [Narrowing D S] [Numeral D] (c : Expansion D) (v : Value D) :
    Except Failure D := do
  let a ← v.number
  let inv ← quotient 1.0 a
  match v with
  | .int n => unless hasLogarithm n do throw .wrongType
  | _ => pure ()
  let inv4 ← power inv 4.0
  let inv3 ← power inv 3.0
  let inv2 ← power inv 2.0
  let kept : D → D := match v with
    | .bool _ => Narrowing.half
    | _ => id
  return c.rateOf kept a inv2 inv3 inv4

/-- The integrand of a kick or drift factor over the scale factor. -/
def integrand (c : Expansion D) (kind : KickKind) (a : D) : D :=
  let rate := c.hubble * c.rate a
  let inv := 1.0 / a
  match kind with
  | .drift => Transcendental.pow inv 3.0 / rate
  | .gravity => inv * inv / rate
  | .hydro => Transcendental.pow a (-3.0 * (c.gamma - 1.0)) * inv / rate

end Expansion

end MeshlessGas
