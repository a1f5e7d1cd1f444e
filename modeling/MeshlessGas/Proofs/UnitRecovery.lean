/-
The units of a written file — what reading them back does to numbers.

A reader converts from the units that it finds in a file, which are the written ones with five
digits each.  In the written units it wants, the factor of a tag is a product of powers of
ratios close to one; it is exactly one where the units that the tag depends on are written
with five digits, and then no number is changed.
-/
import MeshlessGas.Proofs.ClosestUnits
import MeshlessGas.Proofs.RoundTrip

namespace MeshlessGas

/-! ## Reading the units of a file -/

namespace Snapshot

section Read

variable {D S : Type} [Transcendental D] [Numeral D] [Arithmetic S] [Numeral S] [Narrowing D S]
  {c : Contents D S} {files files' : Directory D S} {file : String}

theorem readUnits_of_write {units : UnitSystem D} (hunits : c.units.recovered.checked = .ok units)
    (h : write files file c = (.ok (), files')) :
    ∃ f, files'.read file = .ok f ∧ (UnitSystem.ofArchive f).result = (.ok units, []) := by
  obtain ⟨header, properties, particles, -, -, hread, -⟩ := read_of_write h
  refine ⟨_, hread, ?_⟩
  have hstored := attributes?_archiveOf header properties particles
    (c.find?_archiveOf_units header properties particles)
  have hlift : ∀ {α : Type} (a : α),
      (liftM (Except.ok a : Except Failure α) : Reading α) = pure a := fun _ => rfl
  simp only [UnitSystem.ofArchive, hstored, Failure.ofOption_some, hlift, pure_bind,
    UnitSystem.ofAttributes_unitAttributes, hunits]
  rfl

end Read

end Snapshot

/-! ## Factors of recovered units -/

namespace UnitTag

variable {u : UnitSystem ℝ} {tag : UnitTag} {gamma : ℝ}

/-- Units of five digits are read back as they were, and convert nothing. -/
theorem conversionFactor_recovered_of_hasDigits (hu : u.Positive)
    (hdigits : ∀ x ∈ tag.exponents gamma, Exact.HasDigits BaseUnit.keptDigits
      (BaseUnit.closestMultiple (u.sizeInCgs x.1) x.1)) :
    tag.conversionFactor u.recovered u gamma = .ok (.real 1) := by
  have hone : ((tag.exponents gamma).map fun x =>
      (u.recovered.sizeInCgs x.1 / u.sizeInCgs x.1) ^ x.2.toReal).prod = 1 := by
    refine List.prod_eq_one fun y hy => ?_
    obtain ⟨x, hx, rfl⟩ := List.mem_map.mp hy
    rw [UnitSystem.sizeInCgs_recovered_of_hasDigits hu (hdigits x hx), div_self (hu x.1).ne',
      Real.one_rpow]
  rw [conversionFactor_of_positive hu.recovered hu, hone]

end UnitTag

namespace FieldDescriptor

theorem inUnits_of_one {tag : UnitTag} {source target : UnitSystem ℝ} {gamma : ℝ}
    (h : tag.conversionFactor source target gamma = .ok (.real 1)) (values : NumericArray ℝ ℝ) :
    inUnits tag (UnitChange.between (some source) (some target)) gamma values = .ok values := by
  have hone : (Factor.real (1 : ℝ)).isOne = true := Factor.isOne_real.mpr rfl
  simp only [inUnits, UnitChange.between, h, Result.ok_bind, hone, if_true]
  rfl

end FieldDescriptor

/-! ## Cosmological units -/

namespace UnitSystem

theorem cosmological_positive : (cosmological : UnitSystem ℝ).Positive := by
  intro d
  cases d <;> norm_num [sizeInCgs, unit?, cosmological, ofMechanical, BaseUnit.sizeIn,
    BaseUnit.named, BaseDimension.cgsUnit, NamedUnit.size]

theorem closestMultiple_length : BaseUnit.closestMultiple
    ((cosmological : UnitSystem ℝ).sizeInCgs .length) .length = 1 := by
  refine BaseUnit.closestMultiple_of_sizeIn_eq (u := .megaparsec) (by decide) ?_
  norm_num [sizeInCgs, unit?, cosmological, ofMechanical, BaseUnit.sizeIn, BaseUnit.named,
    BaseDimension.cgsUnit, NamedUnit.size]

theorem hasDigits_length : Exact.HasDigits BaseUnit.keptDigits (BaseUnit.closestMultiple
    ((cosmological : UnitSystem ℝ).sizeInCgs .length) .length) := by
  rw [closestMultiple_length]
  exact ⟨1, 0, by norm_num [BaseUnit.keptDigits], by norm_num⟩

theorem closestMultiple_time : BaseUnit.closestMultiple
    ((cosmological : UnitSystem ℝ).sizeInCgs .time) .time
      = 3.085677580962325e22 / 1000 / 3.15576e16 := by
  have hsize : (cosmological : UnitSystem ℝ).sizeInCgs .time = 3.085677580962325e19 := by
    norm_num [sizeInCgs, unit?, cosmological, ofMechanical, BaseUnit.sizeIn, BaseUnit.named,
      BaseDimension.cgsUnit, NamedUnit.size]
  have hclosest : BaseUnit.closestCommon storedBytes
      ((cosmological : UnitSystem ℝ).sizeInCgs .time) .time = .gigayear := by
    refine BaseUnit.closestCommon_eq_of_lt storedBytes (cosmological_positive .time) (by decide) ?_
    rw [hsize]
    intro v hv hne
    have hother : v = .second ∨ v = .megayear := by
      simpa [BaseDimension.commonUnits, hne] using hv
    rcases hother with rfl | rfl <;>
      norm_num [BaseUnit.sizeIn_named, Exact.timesApart, BaseDimension.cgsUnit, NamedUnit.size]
  rw [BaseUnit.closestMultiple_eq_div, hclosest, hsize, BaseUnit.sizeIn_named]
  norm_num [BaseDimension.cgsUnit, NamedUnit.size]

theorem roundDigits_time_ne : Exact.roundDigits BaseUnit.keptDigits
    (3.085677580962325e22 / 1000 / 3.15576e16) ≠ 3.085677580962325e22 / 1000 / 3.15576e16 := by
  have hlow : (97779 / 100 : ℝ) < 3.085677580962325e22 / 1000 / 3.15576e16 := by norm_num
  have hhigh : (3.085677580962325e22 / 1000 / 3.15576e16 : ℝ) < 97780 / 100 := by norm_num
  generalize (3.085677580962325e22 / 1000 / 3.15576e16 : ℝ) = x at hlow hhigh ⊢
  intro h
  have hpos : 0 < x := by linarith
  have hlog : Int.log 10 |x| = 2 := by
    rw [abs_of_pos hpos]
    apply le_antisymm
    · have hthousand : x < ((10 : ℕ) : ℝ) ^ (3 : ℤ) := by
        norm_num
        linarith
      have hbelow := (Int.lt_zpow_iff_log_lt (by norm_num) hpos).mp hthousand
      omega
    · refine (Int.zpow_le_iff_le_log (by norm_num) hpos).mp ?_
      norm_num
      linarith
  have hplace : Exact.lastPlace BaseUnit.keptDigits x = 1 / 100 := by
    rw [Exact.lastPlace, hlog]
    norm_num [BaseUnit.keptDigits]
  rw [Exact.roundDigits, hplace] at h
  -- A rounded size is a whole number of hundredths, and none lies between the bounds.
  generalize Exact.roundEven (x / (1 / 100)) = n at h
  have habove : (97779 : ℝ) < n := by linarith
  have hbelow : (n : ℝ) < 97780 := by linarith
  have habove' : 97779 < n := by exact_mod_cast habove
  have hbelow' : n < 97780 := by exact_mod_cast hbelow
  omega

theorem sizeInCgs_recovered_time_ne : (cosmological : UnitSystem ℝ).recovered.sizeInCgs .time
    ≠ (cosmological : UnitSystem ℝ).sizeInCgs .time := by
  have hpos := cosmological_positive .time
  have hmultiple := BaseUnit.closestMultiple_pos hpos .time
  rw [sizeInCgs_recovered cosmological_positive, Ne, mul_eq_left₀ hpos.ne',
    div_eq_one_iff_eq hmultiple.ne', closestMultiple_time]
  exact roundDigits_time_ne

end UnitSystem

namespace Snapshot

/-- The sample of two particles in cosmological units. -/
noncomputable def cosmologicalContents : Contents ℝ ℝ :=
  { sampleContents with units := .cosmological }

theorem cosmologicalContents_admissible : cosmologicalContents.Admissible where
  gas := sampleContents_admissible.gas
  fits := sampleContents_admissible.fits
  regular := sampleContents_admissible.regular
  couples := sampleContents_admissible.couples
  units := UnitSystem.cosmological_positive
  properties := sampleContents_admissible.properties
  parameters := sampleContents_admissible.parameters
  gamma := sampleContents_admissible.gamma
  scaleFactor := sampleContents_admissible.scaleFactor

end Snapshot

/-! ## Reading back the units of a file -/

namespace Snapshot

variable {c : Contents ℝ ℝ} {files files' : Directory ℝ ℝ} {file : String}

/-- The factor from the units that are read from a file to those it was written in is the
product of the powers of what rounding does to each size.  No size changes by more than five
parts in a hundred thousand, and numbers of a tag whose units have five digits are read as
they are stored. -/
theorem conversionFactor_of_write (hu : c.units.Positive)
    (hwrite : write files file c = (.ok (), files')) (tag : UnitTag) (gamma : ℝ) :
    ∃ f units, files'.read file = .ok f ∧ (UnitSystem.ofArchive f).result = (.ok units, []) ∧
      (∀ d, units.sizeInCgs d = c.units.sizeInCgs d
        * (Exact.roundDigits BaseUnit.keptDigits
              (BaseUnit.closestMultiple (c.units.sizeInCgs d) d)
            / BaseUnit.closestMultiple (c.units.sizeInCgs d) d)) ∧
      (∀ d, |units.sizeInCgs d / c.units.sizeInCgs d - 1| ≤ 5 / 100000) ∧
      tag.conversionFactor units c.units gamma = .ok (.real ((tag.exponents gamma).map fun x =>
        (units.sizeInCgs x.1 / c.units.sizeInCgs x.1) ^ x.2.toReal).prod) ∧
      ((∀ x ∈ tag.exponents gamma, Exact.HasDigits BaseUnit.keptDigits
          (BaseUnit.closestMultiple (c.units.sizeInCgs x.1) x.1)) →
        tag.conversionFactor units c.units gamma = .ok (.real 1) ∧
        ∀ values : NumericArray ℝ ℝ, FieldDescriptor.inUnits tag
          (UnitChange.between (some units) (some c.units)) gamma values = .ok values) := by
  obtain ⟨f, hread, hunits⟩ := readUnits_of_write hu.checked_recovered hwrite
  refine ⟨f, c.units.recovered, hread, hunits, UnitSystem.sizeInCgs_recovered hu,
    UnitSystem.abs_sizeInCgs_recovered_le hu,
    UnitTag.conversionFactor_of_positive hu.recovered hu tag gamma, fun hdigits => ?_⟩
  have hone := UnitTag.conversionFactor_recovered_of_hasDigits hu hdigits
  exact ⟨hone, FieldDescriptor.inUnits_of_one hone⟩

/-- In cosmological units times are read as others, five parts in a hundred thousand away at most,
and lengths as they are stored. -/
theorem conversionFactor_of_write_sample :
    ∃ files' f units factor,
      write {} "a.hdf5" cosmologicalContents = (.ok (), files') ∧
      files'.read "a.hdf5" = .ok f ∧ (UnitSystem.ofArchive f).result = (.ok units, []) ∧
      UnitTag.time.conversionFactor units .cosmological (5 / 3) = .ok (.real factor) ∧
      factor ≠ 1 ∧ |factor - 1| ≤ 5 / 100000 ∧
      UnitTag.length.conversionFactor units .cosmological (5 / 3) = .ok (.real 1) := by
  have hc := cosmologicalContents_admissible
  obtain ⟨files', hwrite⟩ := hc.exists_write writable_sampleFile
  obtain ⟨f, units, hread, hunits, hsizes, hnear, htime, -⟩ :=
    conversionFactor_of_write hc.units hwrite .time (5 / 3)
  obtain ⟨f', units', hread', hunits', -, -, -, hdigits⟩ :=
    conversionFactor_of_write hc.units hwrite .length (5 / 3)
  obtain rfl : f = f' := Except.ok.inj (hread.symm.trans hread')
  obtain rfl : units = units' :=
    Except.ok.inj (congrArg Prod.fst (hunits.symm.trans hunits'))
  have hone : (Exponent.whole 1 : Exponent ℝ).toReal = 1 := Int.cast_one
  have hexponents : UnitTag.time.exponents (5 / 3 : ℝ) = [(.time, .whole 1)] := rfl
  simp only [hexponents, List.map_cons, List.map_nil, List.prod_cons, List.prod_nil, mul_one,
    hone, Real.rpow_one] at htime
  refine ⟨files', f, units, _, hwrite, hread, hunits, htime, ?_, hnear .time,
    (hdigits fun x hx => ?_).1⟩
  · rw [Ne, div_eq_one_iff_eq (hc.units .time).ne', hsizes,
      ← UnitSystem.sizeInCgs_recovered hc.units]
    exact UnitSystem.sizeInCgs_recovered_time_ne
  · obtain rfl : x = (.length, .whole 1) := List.mem_singleton.mp hx
    exact UnitSystem.hasDigits_length

/-- Speeds in cosmological units are scaled when they are read from a file in just these
units. -/
theorem speeds_change_in_cosmological_units :
    ∃ files' f units factor,
      write {} "a.hdf5" cosmologicalContents = (.ok (), files') ∧
      files'.read "a.hdf5" = .ok f ∧ (UnitSystem.ofArchive f).result = (.ok units, []) ∧
      cosmologicalContents.units.Positive ∧
      UnitTag.speed.conversionFactor units cosmologicalContents.units (5 / 3)
        = .ok (.real factor) ∧ factor ≠ 1 := by
  obtain ⟨files', hwrite⟩ := cosmologicalContents_admissible.exists_write writable_sampleFile
  have hu := cosmologicalContents_admissible.units
  obtain ⟨f, hread, hunits⟩ := readUnits_of_write hu.checked_recovered hwrite
  refine ⟨files', f, _, _, hwrite, hread, hunits, hu,
    UnitTag.conversionFactor_of_positive hu.recovered hu .speed (5 / 3), ?_⟩
  -- Of the two units of a speed only that of time is rounded.
  have hlength : cosmologicalContents.units.recovered.sizeInCgs .length
      = cosmologicalContents.units.sizeInCgs .length :=
    UnitSystem.sizeInCgs_recovered_of_hasDigits hu UnitSystem.hasDigits_length
  have htime : cosmologicalContents.units.recovered.sizeInCgs .time
      ≠ cosmologicalContents.units.sizeInCgs .time := UnitSystem.sizeInCgs_recovered_time_ne
  have hexponents : (UnitTag.speed.exponents (5 / 3 : ℝ))
      = [(.length, .whole 1), (.time, .whole (-1))] := rfl
  have hminus : (Exponent.whole (-1) : Exponent ℝ).toReal = -1 := by
    show ((-1 : ℤ) : ℝ) = -1
    norm_num
  rw [hexponents]
  simp only [List.map_cons, List.map_nil, List.prod_cons, List.prod_nil, hlength, hminus,
    div_self (hu .length).ne', Real.one_rpow, one_mul, mul_one, Real.rpow_neg_one]
  rw [Ne, inv_eq_one, div_eq_one_iff_eq (hu .time).ne']
  exact htime

end Snapshot

end MeshlessGas
