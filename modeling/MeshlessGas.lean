import MeshlessGas.Main
import MeshlessGas.Proofs.Coverage
import MeshlessGas.Proofs.EquationOfState
import MeshlessGas.Proofs.Identifiers
import MeshlessGas.Proofs.Pointwise
import MeshlessGas.Proofs.SelfDescription
import MeshlessGas.Proofs.UnitRecovery
import MeshlessGas.Report.Basic
import MeshlessGas.Report.Given
import MeshlessGas.Units.Given
import MeshlessGas.Workspace.Files
import MeshlessGas.Proofs.AdiabaticIndex
import MeshlessGas.Proofs.ConversionFactors
import MeshlessGas.Proofs.NumberTexts
import MeshlessGas.Proofs.DistinctNames
import MeshlessGas.Proofs.StoredParameters
import MeshlessGas.Proofs.RestoredParameters
import MeshlessGas.Proofs.Leaves
import MeshlessGas.Proofs.FieldReading
import MeshlessGas.Proofs.FieldPrefix
import MeshlessGas.Proofs.Readable
import MeshlessGas.Proofs.InexactBox
import MeshlessGas.Proofs.KickFactors
import MeshlessGas.Proofs.Extrapolation
import MeshlessGas.Proofs.FirstInit
import MeshlessGas.Proofs.Flattening
import MeshlessGas.Proofs.ReadIdentifiers
import MeshlessGas.Proofs.ReadingInUnits
import MeshlessGas.Proofs.CopiedUnits
import MeshlessGas.Proofs.Clocks
import MeshlessGas.Proofs.Coupling
import MeshlessGas.Proofs.FieldLens
