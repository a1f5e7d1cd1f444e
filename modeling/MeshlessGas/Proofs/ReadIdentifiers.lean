/-
Identifiers of initial conditions — integers that no unit touches.

Reading multiplies every field by the factor of its units, and identifiers have none: their factor
is one between any two unit systems, and an array whose factor is one is not multiplied.  So
integers of 64 bits go from the file into the particles as they are, and the first initialisation
leaves them there.
-/
import MeshlessGas.Proofs.RealUnits
import MeshlessGas.Proofs.Readable

namespace MeshlessGas

/-- Numbers among which one is found to be one. -/
class ComparesOne (D : Type) [Transcendental D] : Prop where
  isOne_one : (Factor.real (1.0 : D)).isOne = true

instance : ComparesOne Float := ⟨rfl⟩

instance : ComparesOne ℝ := ⟨Factor.isOne_real.mpr Exact.one_eq⟩

section

variable {D S : Type} [Transcendental D] [ComparesOne D] [Arithmetic S] [Narrowing D S]

namespace FieldDescriptor

omit [ComparesOne D] in
theorem conversionFactor_noUnits (source target : UnitSystem D) (gamma : D) :
    UnitTag.noUnits.conversionFactor source target gamma = .ok (.real 1.0) := rfl

theorem inUnits_noUnits (change : Option (UnitChange D)) (gamma : D) (values : NumericArray D S) :
    inUnits .noUnits change gamma values = .ok values := by
  cases change with
  | none => rfl
  | some c =>
    rw [inUnits, conversionFactor_noUnits, Result.ok_bind]
    dsimp only
    rw [if_pos ComparesOne.isOne_one]
    rfl

end FieldDescriptor

omit [ComparesOne D] [Arithmetic S] in
theorem Gas.map_id_firstInit (g : Gas D S) (gamma : D) (conservedIsTotal : Bool) :
    (g.firstInit gamma conservedIsTotal).parts.map (·.id) = g.parts.map (·.id) := by
  rw [Gas.firstInit, Particle.firstInitAll, List.map_map]
  rfl

omit [ComparesOne D] in
theorem GasLeaf.map_id_of_column {g : Gas D S} {ids : List UInt64}
    (h : ((GasLeaf.part .id).column g).cells.cells = ids.map fun n => .whole n.toNat) :
    g.parts.map (·.id) = ids := by
  have hcolumn : ((GasLeaf.part .id).column g).cells.cells
      = g.parts.map fun p => .whole p.id.toNat := List.map_eq_flatMap.symm
  have hinjective : Function.Injective fun n : UInt64 => (.whole n.toNat : Cell D S) := by
    intro m n hmn
    exact UInt64.toNat_inj.mp (Int.ofNat.inj (Cell.whole.inj hmn))
  refine List.map_injective_iff.mpr hinjective ?_
  rw [List.map_map, ← h, hcolumn]
  rfl

end

namespace Snapshot

open FieldDescriptor (readRegistry readLeaf offered IsFilled)

variable {D S : Type} [Transcendental D] [ComparesOne D] [Arithmetic S] [Narrowing D S]
  {s : Snapshot D S} {files : Directory D S} {f : Archive D S} {ids : List UInt64}

/-- An archive stores identifiers of its gas as integers of 64 bits without a sign. -/
def StoresIdentifiers (f : Archive D S) (ids : List UInt64) : Prop :=
  ∃ d : Dataset D S, f.member? [particleGroup] "ParticleIDs" = some (.dataset d) ∧
    d.values.type = .integer .uint64 ∧ d.values.cells.cells = ids.map fun n => .whole n.toNat

theorem map_id_of_isFilled {change : Option (UnitChange D)} {gamma : D} {g₀ g : Gas D S}
    (hids : StoresIdentifiers f ids)
    (h : IsFilled change gamma (offered f [particleGroup]) readLeaf readRegistry g₀ g) :
    g.parts.map (·.id) = ids := by
  obtain ⟨d, hmember, -, hcells⟩ := hids
  have hmem : readRegistry[5] ∈ readRegistry := List.getElem_mem _
  have hoffered : offered f [particleGroup] readRegistry[5] = some d := by
    have hname : f.member? [particleGroup] readRegistry[5].name = some (.dataset d) := hmember
    rw [offered, hname]
  obtain ⟨values, rows, hunits, hrows, hcolumn⟩ := h.read _ hmem d hoffered
  obtain rfl : d.values = values :=
    Except.ok.inj ((FieldDescriptor.inUnits_noUnits change gamma d.values).symm.trans hunits)
  have hcount : rows.cells.cells = d.values.cells.cells := by
    rw [NumericArray.reshape?, Tensor.reshape?] at hrows
    split at hrows
    · cases hrows
      rfl
    · cases hrows
  have hwrap : ∀ n : UInt64, Cell.cast (.integer .uint64) (.whole n.toNat : Cell D S)
      = .whole n.toNat := by
    intro n
    have hholds : IntegerType.uint64.wrap n.toNat = n.toNat := by
      simpa [IntegerType.holds] using IntegerType.holds_uint64 n
    show Cell.whole (IntegerType.uint64.wrap n.toNat) = _
    rw [hholds]
  refine GasLeaf.map_id_of_column ?_
  have hcast : (GasLeaf.part .id).column g = rows.cast (.integer .uint64) := hcolumn
  rw [hcast]
  show rows.cells.cells.map (Cell.cast (.integer .uint64)) = _
  rw [hcount, hcells, List.map_map]
  exact List.map_congr_left fun n _ => hwrap n

/-- Reading the gas never alters an identifier: whatever the units of the file, those that are
wanted and the adiabatic index, and whether the gas is made ready for a run or not, a file that can
be read gives its identifiers exactly and in order, and nothing is read of any other file. -/
theorem identifiers_of_readParticles (hfile : files.read s.file = .ok f)
    (hids : StoresIdentifiers f ids) (scheme : Scheme D) (wanted : Option (UnitSystem D))
    (firstInit : Bool) :
    (s.IsReadableFrom f (UnitChange.between s.units wanted) scheme.gamma →
      ∃ gas, s.readParticles files scheme wanted firstInit = .ok gas ∧
        gas.parts.map (·.id) = ids) ∧
    ∀ gas, s.readParticles files scheme wanted firstInit = .ok gas →
      s.IsReadableFrom f (UnitChange.between s.units wanted) scheme.gamma ∧
        gas.parts.map (·.id) = ids := by
  have hread : s.IsReadableFrom f (UnitChange.between s.units wanted) scheme.gamma →
      ∃ gas, s.readParticles files scheme wanted firstInit = .ok gas ∧
        gas.parts.map (·.id) = ids := by
    intro hreadable
    obtain ⟨g, hfilled, hgas⟩ := hreadable.exists_filled hfile
    refine ⟨_, hgas firstInit, ?_⟩
    have hg : g.parts.map (·.id) = ids := map_id_of_isFilled hids hfilled
    cases firstInit with
    | false => exact hg
    | true => exact (Gas.map_id_firstInit g scheme.gamma scheme.totalEnergy).trans hg
  refine ⟨hread, fun gas hgas => ?_⟩
  have hreadable := isReadableFrom_of_readParticles hfile hgas
  obtain ⟨gas', hgas', hg⟩ := hread hreadable
  obtain rfl : gas = gas' := Except.ok.inj (hgas.symm.trans hgas')
  exact ⟨hreadable, hg⟩

/-- The largest identifier there is, which no double holds, from the units of metres to those of
centimetres. -/
theorem identifiers_of_readParticles_lone :
    ∃ gas : Gas ℝ ℝ, (loneSnapshot (some .mks)).readParticles (loneDirectory []) .standard
        (some .cgs) true = .ok gas ∧ gas.parts.map (·.id) = [18446744073709551615] := by
  have hids : StoresIdentifiers (loneArchive [] : Archive ℝ ℝ) [18446744073709551615] :=
    ⟨_, rfl, rfl, rfl⟩
  have hplain := isReadableFrom_lone (D := ℝ) (S := ℝ) [] (some .mks) Scheme.standard.gamma
  have hreadable := hplain.of_factors (c := ⟨.mks, .cgs⟩) fun field _ =>
    ⟨_, UnitTag.conversionFactor_of_positive UnitSystem.mks_positive UnitSystem.cgs_positive
      field.units _⟩
  have hfile : (loneDirectory [] : Directory ℝ ℝ).read
      (loneSnapshot (some .mks) : Snapshot ℝ ℝ).file = .ok (loneArchive []) :=
    read_loneDirectory []
  exact (identifiers_of_readParticles hfile hids .standard (some .cgs) true).1 hreadable

end Snapshot

end MeshlessGas
