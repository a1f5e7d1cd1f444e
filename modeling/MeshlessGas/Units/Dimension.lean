/-
Base dimensions — mass, length, time, current and temperature.

Each base dimension has a name, an attribute under which files store the size of
its unit, and a letter for the exponents stored with datasets.
-/
import MeshlessGas.Failure

namespace MeshlessGas

/-- A base dimension. -/
inductive BaseDimension where
  | mass
  | length
  | time
  | current
  | temperature
deriving DecidableEq, Repr

namespace BaseDimension

/-- All base dimensions, in the order of storage. -/
def all : List BaseDimension := [mass, length, time, current, temperature]

/-- The name. -/
def name : BaseDimension → String
  | mass => "mass"
  | length => "length"
  | time => "time"
  | current => "current"
  | temperature => "temperature"

/-- The attribute that stores the size of the unit. -/
def attributeName : BaseDimension → String
  | mass => "Unit mass in cgs (U_M)"
  | length => "Unit length in cgs (U_L)"
  | time => "Unit time in cgs (U_t)"
  | current => "Unit current in cgs (U_I)"
  | temperature => "Unit temperature in cgs (U_T)"

/-- The base dimension with a name. -/
def ofName? (s : String) : Option BaseDimension := all.find? fun d => d.name = s

/-- The base dimension whose unit an attribute stores. -/
def ofAttribute? (s : String) : Option BaseDimension := all.find? fun d => d.attributeName = s

/-- The base dimension whose unit an attribute stores; other attributes are
unknown. -/
def ofAttribute (s : String) : Except Failure BaseDimension :=
  Failure.ofOption (.unknownUnitAttribute s) (ofAttribute? s)

theorem ofAttribute?_attributeName (d : BaseDimension) :
    ofAttribute? d.attributeName = some d := by
  cases d <;> decide

theorem ofName?_name (d : BaseDimension) : ofName? d.name = some d := by
  cases d <;> decide

end BaseDimension

end MeshlessGas
