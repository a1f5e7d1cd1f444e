/-
Identifiers of particles — integers that are read through doubles.

Identifiers are stored as integers of 64 bits.  Their field has no unit and no power of the
scale factor, so that the factor beside its dataset is one in every number system.  Reading the
field multiplies by it all the same, and the product is a double: a number of 53 bits.  An
identifier of no more bits is read as it was stored.  Others are rounded, by 1024 at most, and
neighbours among them may be read as one number.
-/
import MeshlessGas.Proofs.Quantities
import MeshlessGas.Proofs.Rounded

namespace MeshlessGas

open Conversion (Row)

/-! ## The field of the identifiers -/

namespace FieldDescriptor

def identifiers : FieldDescriptor := writeRegistry[5]

theorem identifiers_mem : identifiers ∈ writeRegistry := List.getElem_mem _

section

variable {D S : Type} {context : Context D S}

theorem ready_identifiers (rows : List (Row D S)) : identifiers.Ready context rows :=
  fun _ hkind => (nomatch hkind)

variable [Transcendental D] [Arithmetic S] [Narrowing D S]

theorem shape_identifiers : identifiers.shape.shape = [] := rfl

theorem cellsOf_identifiers (r : Row D S) :
    identifiers.cellsOf context r = [.whole r.1.id.toNat] := rfl

theorem factor_identifiers [Numeral D] [FiniteNumbers D] {gas : Gas D S} {u : UnitSystem D}
    {d : Dataset D S} (hd : identifiers.datasetOf context gas u = .ok d) :
    d.format = .plain ∧ d.attributes.find? physicalFactorName = some (.reals [1.0]) := by
  have hcgs : identifiers.units.cgsFactor u context.scheme.gamma = .ok (.real 1.0) := rfl
  have hscale : Factor.power context.a (scaleExponent identifiers.name context.scheme.gamma)
      = .ok (.real 1.0) := FiniteNumbers.factorPower_zero context.a
  have hfactor := physicalFactor_datasetOf (isPlain_writeRegistry identifiers_mem) hcgs hscale hd
  rwa [FiniteNumbers.mul_one] at hfactor

end

end FieldDescriptor

/-! ## Reading them -/

namespace Snapshot

variable {D S : Type} [Transcendental D] [Numeral D] [FiniteNumbers D] [Arithmetic S]
  [Numeral S] [Narrowing D S] {c : Contents D S} {files : Directory D S} {s : Snapshot D S}

omit [FiniteNumbers D] [Numeral S] in
theorem IsOpenOn.stores_identifiers (h : s.IsOpenOn files c) (hgas : c.gas.IsRows) :
    ∃ f d, files.read s.file = .ok f ∧
      f.member? [particleGroup] "ParticleIDs" = some (.dataset d) ∧
      d.values = .integers .uint64 (.vector (c.gas.parts.map fun p => (p.id.toNat : Int))) := by
  obtain ⟨f, d, hcells, hread, -, hmember, -, hvalues⟩ := h.exists_dataset hgas
    FieldDescriptor.identifiers_mem (FieldDescriptor.ready_identifiers c.gas.rows)
  refine ⟨f, d, hread, hmember, hvalues.trans ?_⟩
  rw [Tensor.rows_eq_vector _ _ FieldDescriptor.shape_identifiers
    FieldDescriptor.cellsOf_identifiers, ← hgas.map_fst_rows, List.map_map,
    NumericArray.integers, Tensor.map_vector, List.map_map]
  rfl

theorem IsOpenOn.reads_identifiers (h : s.IsOpenOn files c) (hgas : c.gas.IsRows) :
    ∃ q, s.readField files "ParticleIDs" = .ok q ∧
      q.values = .doubles (.vector (c.gas.parts.map fun p => Arithmetic.ofInt p.id.toNat)) := by
  obtain ⟨q, hcells, hq, hvalues⟩ := h.readField_of_factor hgas FieldDescriptor.identifiers_mem
    (FieldDescriptor.ready_identifiers c.gas.rows) fun _ => FieldDescriptor.factor_identifiers
  have hvalue : ∀ r : Row D S, (FieldDescriptor.identifiers.cellsOf c.context r).map
      (fun x => x.toDouble * 1.0) = [Arithmetic.ofInt r.1.id.toNat] := by
    intro r
    rw [FieldDescriptor.cellsOf_identifiers, List.map_singleton, FiniteNumbers.mul_one]
    rfl
  refine ⟨q, hq, hvalues.trans ?_⟩
  rw [Tensor.rows_eq_vector _ _ FieldDescriptor.shape_identifiers hvalue, ← hgas.map_fst_rows,
    List.map_map]
  rfl

end Snapshot

/-! ## Identifiers as doubles -/

/-- What is read for an identifier: the nearest double, which is the identifier itself if this
has 53 bits before its last zeros, and is 1024 away from it at most. -/
structure Double.IsReadFor (id : UInt64) (x : Double) : Prop where
  rounded : x = .round binary64 id.toNat
  nearest : ∀ y : Double, |x.toReal - id.toNat| ≤ |y.toReal - id.toNat|
  exact_iff : x.toReal = id.toNat ↔
    ∃ digits zeros : ℕ, digits < 2 ^ 53 ∧ id.toNat = digits * 2 ^ zeros
  error_le : |x.toReal - id.toNat| ≤ 2 ^ 10

namespace Double

/-- The last of 53 bits of an integer of 64 bits is worth 2048 at most, and half of it is what
rounding may change. -/
theorem abs_round_sub_le {n : ℕ} (hn : n < 2 ^ 64) :
    |(Rounded.round binary64 n).toReal - n| ≤ 2 ^ 10 := by
  obtain rfl | hpos := Nat.eq_zero_or_pos n
  · rw [Nat.cast_zero, Rounded.toReal_round_zero, sub_zero, abs_zero]
    norm_num
  · have hlt : |(n : ℝ)| < ((2 : ℕ) : ℝ) ^ (64 : ℤ) := by
      rw [Nat.abs_cast]
      exact_mod_cast hn
    have hunit : Exact.lastUnit 2 binary64.bits (n : ℝ) ≤ 2 ^ 11 := by
      refine (Exact.lastUnit_le_of_lt Nat.one_lt_two (Nat.cast_ne_zero.mpr hpos.ne')
        hlt).trans_eq ?_
      norm_num [BinaryFormat.bits, binary64]
    have hround : |(Rounded.round binary64 n).toReal - n|
        ≤ Exact.lastUnit 2 binary64.bits (n : ℝ) / 2 :=
      Exact.abs_roundPlaces_sub_le Nat.one_lt_two _
    linarith

theorem isReadFor_ofInt (id : UInt64) : IsReadFor id (Arithmetic.ofInt id.toNat) := by
  have hrounded : (Arithmetic.ofInt id.toNat : Double) = .round binary64 id.toNat := by
    refine Rounded.ext ?_
    rw [Rounded.toReal_ofInt, Rounded.toReal_round, Int.cast_natCast]
  rw [hrounded]
  refine ⟨rfl, Rounded.abs_toReal_round_sub_le _, ?_, abs_round_sub_le id.toNat_lt⟩
  rw [Rounded.toReal_round_eq_iff, Exact.hasPlaces_natCast_iff Nat.one_lt_two]
  rfl

/-- Identifiers up to the first power of two that fills all bits are read as they are. -/
theorem IsReadFor.eq_of_le {id : UInt64} {x : Double} (h : IsReadFor id x)
    (hid : id.toNat ≤ 2 ^ 53) : x.toReal = id.toNat := by
  refine h.exact_iff.mpr ?_
  rcases hid.lt_or_eq with hlt | heq
  · exact ⟨id.toNat, 0, hlt, by rw [pow_zero, mul_one]⟩
  · exact ⟨1, 53, by norm_num, by rw [heq, one_mul]⟩

end Double

/-! ## Snapshots in double precision -/

namespace Snapshot

variable {c : Contents Double Single} {files files' : Directory Double Single} {file : String}

/-- A file holds the identifiers of all particles, and what is read of it are the doubles nearest
to them. -/
theorem identifiers_of_write (hgas : c.gas.IsRows) (hu : c.units.HasPositiveSizes)
    (hwrite : write files file c = (.ok (), files')) :
    ∃ s f d q values, (openFile files' file none).result = (.ok s, []) ∧
      files'.read s.file = .ok f ∧
      f.member? [particleGroup] "ParticleIDs" = some (.dataset d) ∧
      d.values = .integers .uint64 (.vector (c.gas.parts.map fun p => (p.id.toNat : Int))) ∧
      s.readField files' "ParticleIDs" = .ok q ∧ q.values = .doubles (.vector values) ∧
      List.Forall₂ (fun p x => Double.IsReadFor p.id x) c.gas.parts values := by
  obtain ⟨s, hopen, hs⟩ := exists_openFile_of_checked hu.checked_recovered hwrite
  obtain ⟨f, d, hread, hmember, hstored⟩ := hs.stores_identifiers hgas
  obtain ⟨q, hq, hvalues⟩ := hs.reads_identifiers hgas
  refine ⟨s, f, d, q, _, hopen, hread, hmember, hstored, hq, hvalues, ?_⟩
  rw [List.forall₂_map_right_iff, List.forall₂_same]
  exact fun p _ => Double.isReadFor_ofInt p.id

/-- Small identifiers are read as they were stored. -/
theorem identifiers_of_write_small :
    ∃ files' s q x y, write {} "a.hdf5" (restingContents [1, 2]) = (.ok (), files') ∧
      (openFile files' "a.hdf5" none).result = (.ok s, []) ∧
      s.readField files' "ParticleIDs" = .ok q ∧ q.values = .doubles (.vector [x, y]) ∧
      x.toReal = 1 ∧ y.toReal = 2 := by
  obtain ⟨files', hwrite⟩ := exists_write_restingContents [1, 2]
  obtain ⟨s, -, -, q, values, hopen, -, -, -, hq, hvalues, hids⟩ := identifiers_of_write
    (isRows_restingContents [1, 2]) (hasPositiveSizes_restingContents [1, 2]) hwrite
  obtain ⟨x, rest, hx, hrest, rfl⟩ := List.forall₂_cons_left_iff.mp hids
  obtain ⟨y, last, hy, hlast, rfl⟩ := List.forall₂_cons_left_iff.mp hrest
  obtain rfl := List.forall₂_nil_left_iff.mp hlast
  have hone : (restingParticle 1 : Particle Double Single).id.toNat = 1 := rfl
  have htwo : (restingParticle 2 : Particle Double Single).id.toNat = 2 := rfl
  refine ⟨files', s, q, x, y, hwrite, hopen, hq, hvalues, ?_, ?_⟩
  · rw [hx.eq_of_le (by rw [hone]; norm_num), hone, Nat.cast_one]
  · rw [hy.eq_of_le (by rw [htwo]; norm_num), htwo, Nat.cast_ofNat]

/-- The first integer that is no double is read as its predecessor, so that two particles have
one identifier. -/
theorem identifiers_collide :
    ∃ files' s q x y,
      write {} "a.hdf5" (restingContents [9007199254740992, 9007199254740993])
        = (.ok (), files') ∧
      (openFile files' "a.hdf5" none).result = (.ok s, []) ∧
      s.readField files' "ParticleIDs" = .ok q ∧ q.values = .doubles (.vector [x, y]) ∧
      x = y ∧ y.toReal = 9007199254740992 ∧ y.toReal ≠ 9007199254740993 := by
  obtain ⟨files', hwrite⟩ :=
    exists_write_restingContents [9007199254740992, 9007199254740993]
  obtain ⟨s, hopen, hs⟩ :=
    exists_openFile_of_checked (hasPositiveSizes_restingContents _).checked_recovered hwrite
  obtain ⟨q, hq, hvalues⟩ := hs.reads_identifiers (isRows_restingContents _)
  have hfirst : (9007199254740992 : UInt64).toNat = 2 ^ binary64.bits := by decide
  have hsecond : (9007199254740993 : UInt64).toNat = 2 ^ binary64.bits + 1 := by decide
  have hx := (Double.isReadFor_ofInt 9007199254740992).eq_of_le hfirst.le
  have hy := congrArg Rounded.toReal (Double.isReadFor_ofInt 9007199254740993).rounded
  rw [hsecond, Rounded.toReal_round_firstLost (by decide)] at hy
  rw [hfirst] at hx
  have hpower : ((2 ^ binary64.bits : ℕ) : ℝ) = 9007199254740992 := by
    norm_num [BinaryFormat.bits, binary64]
  refine ⟨files', s, q, _, _, hwrite, hopen, hq, hvalues, ?_, ?_, ?_⟩
  · exact Rounded.ext (hx.trans hy.symm)
  · exact hy.trans hpower
  · intro hkept
    have hequal := (hy.trans hpower).symm.trans hkept
    norm_num at hequal

end Snapshot

end MeshlessGas
