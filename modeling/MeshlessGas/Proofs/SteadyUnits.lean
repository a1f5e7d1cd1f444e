/-
Steady units — when a size that was read is read as itself again.

Sizes are read with five digits, so reading one that was read changes nothing as long as it stays
closest to the same unit.  The units beyond that of the cgs system are powers of ten apart, and
among them all have the same digits.  A size can only change where rounding leads it across the
geometric mean of the cgs unit and the next one: those are a few sizes for each of mass, length
and time, and none for current and temperature.  What was read twice stays.
-/
import MeshlessGas.Proofs.ClosestUnits
import MeshlessGas.Proofs.NeighbouringNumbers

namespace MeshlessGas

namespace BaseUnit

variable {size : ℝ} {d : BaseDimension} {u : NamedUnit}

/-! ## Sizes that are read -/

/-- The size that a stored size is read as. -/
noncomputable def sizeRead (d : BaseDimension) (size : ℝ) : ℝ :=
  (ofStored UnitSystem.storedBytes size d).sizeIn d

theorem ofStored_bytes (bytes : Nat) (size : ℝ) (d : BaseDimension) :
    ofStored bytes size d = ofStored UnitSystem.storedBytes size d := by
  have hexpress : express bytes size d = express UnitSystem.storedBytes size d :=
    funext fun u => by rw [express_eq_div, express_eq_div]
  have hdistance : distance bytes size d = distance UnitSystem.storedBytes size d :=
    funext fun u => by rw [distance, distance, hexpress]
  have hclosest : ∀ (others : List NamedUnit) (first : NamedUnit),
      closest bytes size d first others = closest UnitSystem.storedBytes size d first others := by
    intro others
    induction others with
    | nil => exact fun _ => rfl
    | cons v others ih =>
      intro first
      simp only [closest, hdistance, ih]
  simp only [ofStored, closestCommon, hclosest, hexpress]

theorem sizeIn_ofStored (bytes : Nat) (size : ℝ) (d : BaseDimension) :
    (ofStored bytes size d).sizeIn d = sizeRead d size := by
  rw [ofStored_bytes, sizeRead]

theorem sizeRead_eq (size : ℝ) (d : BaseDimension) :
    sizeRead d size = Exact.roundPlaces 10 keptDigits
        (size / (named (closestCommon UnitSystem.storedBytes size d)).sizeIn d)
      * (named (closestCommon UnitSystem.storedBytes size d)).sizeIn d := by
  rw [sizeRead, sizeIn_eq, multiple_ofStored, unit_ofStored, Exact.roundDigits_eq_roundPlaces]

theorem sizeRead_pos (hsize : 0 < size) (d : BaseDimension) : 0 < sizeRead d size := by
  have hunit := sizeIn_named_pos (closestCommon UnitSystem.storedBytes size d) d
  rw [sizeRead_eq]
  exact mul_pos (Exact.roundPlaces_pos (by norm_num) (by decide) (div_pos hsize hunit)) hunit

theorem sizeRead_one (d : BaseDimension) : sizeRead d 1 = 1 := by
  rw [sizeRead, ofStored_of_sizeIn_eq _ (cgsUnit_mem d) (sizeIn_cgsUnit d).symm, sizeIn_cgsUnit]

/-- The cgs unit is the closest one up to the geometric mean with the next one. -/
theorem closestCommon_eq_cgsUnit_iff (hu : u ∈ d.commonUnits)
    (hlt : 1 < (named u : BaseUnit ℝ).sizeIn d)
    (hothers : ∀ v ∈ d.commonUnits, v ≠ d.cgsUnit →
      (named u : BaseUnit ℝ).sizeIn d ≤ (named v).sizeIn d) (hsize : 0 < size) :
    closestCommon UnitSystem.storedBytes size d = d.cgsUnit ↔
      size ≤ √((named u : BaseUnit ℝ).sizeIn d) := by
  have hmean : ∀ v : NamedUnit, 1 < (named v : BaseUnit ℝ).sizeIn d →
      (distance UnitSystem.storedBytes size d d.cgsUnit ≤ distance UnitSystem.storedBytes size d v
        ↔ size ≤ √((named v : BaseUnit ℝ).sizeIn d)) := by
    intro v hv
    rw [distance_le_iff hsize, sizeIn_cgsUnit, Real.le_sqrt' hsize,
      Exact.timesApart_div_le_iff hsize one_pos hv, one_mul]
  constructor
  · intro hclosest
    rw [← hmean u hlt, ← hclosest]
    exact distance_closest_le _ size d d.commonUnits d.cgsUnit u (List.mem_cons_of_mem _ hu)
  · intro hle
    refine closest_eq_first fun v hv => ?_
    by_cases hcgs : v = d.cgsUnit
    · rw [hcgs]
    · have huv := hothers v hv hcgs
      exact (hmean v (hlt.trans_le huv)).mpr (hle.trans (Real.sqrt_le_sqrt huv))

/-- A common unit of a dimension is the first one beyond that of the cgs system, and others are
larger by powers of ten. -/
structure IsNext (u : NamedUnit) (d : BaseDimension) : Prop where
  mem : u ∈ d.commonUnits
  one_lt : 1 < (named u : BaseUnit ℝ).sizeIn d
  others : ∀ v ∈ d.commonUnits, v ≠ d.cgsUnit →
    ∃ e : ℕ, (named v : BaseUnit ℝ).sizeIn d = (named u).sizeIn d * 10 ^ e

/-- Where there is a next unit, a size is rounded in the cgs unit or in that one. -/
theorem IsNext.sizeRead_eq (hu : IsNext u d) (hsize : 0 < size) :
    sizeRead d size
      = Exact.roundInEither 10 keptDigits ((named u : BaseUnit ℝ).sizeIn d) size := by
  have hpos := zero_lt_one.trans hu.one_lt
  have hlarger : ∀ v ∈ d.commonUnits, v ≠ d.cgsUnit →
      (named u : BaseUnit ℝ).sizeIn d ≤ (named v).sizeIn d := by
    intro v hv hcgs
    obtain ⟨e, he⟩ := hu.others v hv hcgs
    rw [he]
    exact le_mul_of_one_le_right hpos.le (one_le_pow₀ (by norm_num))
  have hcloser := closestCommon_eq_cgsUnit_iff hu.mem hu.one_lt hlarger hsize
  rw [BaseUnit.sizeRead_eq, Exact.roundInEither]
  by_cases hcgs : closestCommon UnitSystem.storedBytes size d = d.cgsUnit
  · rw [if_pos (hcloser.mp hcgs), hcgs, sizeIn_cgsUnit, div_one, mul_one]
  · set v := closestCommon UnitSystem.storedBytes size d
    obtain ⟨e, he⟩ := hu.others v (closestCommon_mem UnitSystem.storedBytes size d) hcgs
    have hquotient : size / (named u : BaseUnit ℝ).sizeIn d
        = size / (named v).sizeIn d * ((10 : ℕ) : ℝ) ^ (e : ℤ) := by
      rw [he, Nat.cast_ofNat, zpow_natCast]
      field_simp
    rw [if_neg (mt hcloser.mpr hcgs), hquotient, Exact.roundPlaces_mul_zpow (by norm_num)
      (div_pos hsize (sizeIn_named_pos v d)), he, Nat.cast_ofNat, zpow_natCast]
    ring

/-- Where the cgs unit and the next one lie apart, a size that was read is read as itself unless
rounding led it across their mean. -/
theorem IsNext.sizeRead_twice_iff (hu : IsNext u d) {n k m j : ℤ}
    (hapart : Exact.Apart 10 keptDigits n k m j ((named u : BaseUnit ℝ).sizeIn d))
    (hsize : 0 < size) :
    sizeRead d (sizeRead d size) = sizeRead d size ↔
      ¬ Exact.CrossesUp 10 n k ((named u : BaseUnit ℝ).sizeIn d) size ∧
        ¬ Exact.CrossesDown 10 m j ((named u : BaseUnit ℝ).sizeIn d) size := by
  rw [hu.sizeRead_eq (sizeRead_pos hsize d), hu.sizeRead_eq hsize]
  exact hapart.roundInEither_twice_iff (by norm_num) (by decide)

theorem sizeRead_twice_of_commonUnits (hunits : d.commonUnits = [d.cgsUnit]) (size : ℝ) :
    sizeRead d (sizeRead d size) = sizeRead d size := by
  have hclosest : ∀ size : ℝ, closestCommon UnitSystem.storedBytes size d = d.cgsUnit := fun size =>
    closestCommon_of_commonUnits UnitSystem.storedBytes size hunits
  simp only [sizeRead_eq, hclosest, sizeIn_cgsUnit, div_one, mul_one]
  exact (Exact.hasPlaces_roundPlaces (by norm_num) (by decide) size).roundPlaces_eq (by norm_num)

/-! ## The units of each dimension -/

theorem sizeIn_solarMass : (named .solarMass : BaseUnit ℝ).sizeIn .mass = 1.98841586e33 := by
  rw [sizeIn_named]
  norm_num [BaseDimension.cgsUnit, NamedUnit.size]

theorem sizeIn_kiloparsec :
    (named .kiloparsec : BaseUnit ℝ).sizeIn .length = 3.085677580962325e21 := by
  rw [sizeIn_named]
  norm_num [BaseDimension.cgsUnit, NamedUnit.size]

theorem sizeIn_megaparsec :
    (named .megaparsec : BaseUnit ℝ).sizeIn .length = 3.085677580962325e24 := by
  rw [sizeIn_named]
  norm_num [BaseDimension.cgsUnit, NamedUnit.size]

theorem sizeIn_megayear : (named .megayear : BaseUnit ℝ).sizeIn .time = 3.15576e13 := by
  rw [sizeIn_named]
  norm_num [BaseDimension.cgsUnit, NamedUnit.size]

theorem sizeIn_gigayear : (named .gigayear : BaseUnit ℝ).sizeIn .time = 3.15576e16 := by
  rw [sizeIn_named]
  norm_num [BaseDimension.cgsUnit, NamedUnit.size]

theorem isNext_solarMass : IsNext .solarMass .mass where
  mem := by decide
  one_lt := by
    rw [sizeIn_solarMass]
    norm_num
  others := by
    intro v hv hcgs
    have hv : v = .gram ∨ v = .solarMass := by simpa [BaseDimension.commonUnits] using hv
    obtain rfl : v = .solarMass := hv.resolve_left hcgs
    exact ⟨0, by rw [pow_zero, mul_one]⟩

theorem IsNext.of_thousand {v : NamedUnit} (hunits : d.commonUnits = [d.cgsUnit, u, v])
    (hlt : 1 < (named u : BaseUnit ℝ).sizeIn d)
    (hthousand : (named v : BaseUnit ℝ).sizeIn d = (named u).sizeIn d * 10 ^ 3) :
    IsNext u d where
  mem := by simp [hunits]
  one_lt := hlt
  others := by
    intro w hw hcgs
    have hw : w = d.cgsUnit ∨ w = u ∨ w = v := by simpa [hunits] using hw
    obtain rfl | rfl := hw.resolve_left hcgs
    · exact ⟨0, by rw [pow_zero, mul_one]⟩
    · exact ⟨3, hthousand⟩

theorem isNext_kiloparsec : IsNext .kiloparsec .length :=
  .of_thousand rfl (by rw [sizeIn_kiloparsec]; norm_num)
    (by rw [sizeIn_megaparsec, sizeIn_kiloparsec]; norm_num)

theorem isNext_megayear : IsNext .megayear .time :=
  .of_thousand rfl (by rw [sizeIn_megayear]; norm_num)
    (by rw [sizeIn_gigayear, sizeIn_megayear]; norm_num)

theorem apart_solarMass : Exact.Apart 10 keptDigits 44591 12 22425 (-21) 1.98841586e33 where
  large_pos := by norm_num
  inSmall := .sqrt (by decide) (by decide) (by norm_num) (by norm_num)
  inLarge := .sqrt (by decide) (by decide) (by norm_num) (by norm_num)
  above := Exact.Follows.not_hasPlaces (n := 22425) (k := -21) (by norm_num) (by decide)
    ⟨by decide, by decide, by norm_num, by norm_num⟩ (by norm_num)
  below := Exact.Follows.not_hasPlaces (n := 44590) (k := 12) (by norm_num) (by decide)
    ⟨by decide, by decide, by norm_num, by norm_num⟩ (by norm_num)

theorem apart_kiloparsec :
    Exact.Apart 10 keptDigits 55548 6 18002 (-15) 3.085677580962325e21 where
  large_pos := by norm_num
  inSmall := .sqrt (by decide) (by decide) (by norm_num) (by norm_num)
  inLarge := .sqrt (by decide) (by decide) (by norm_num) (by norm_num)
  above := Exact.Follows.not_hasPlaces (n := 18002) (k := -15) (by norm_num) (by decide)
    ⟨by decide, by decide, by norm_num, by norm_num⟩ (by norm_num)
  below := Exact.Follows.not_hasPlaces (n := 55548) (k := 6) (by norm_num) (by decide)
    ⟨by decide, by decide, by norm_num, by norm_num⟩ (by norm_num)

theorem apart_megayear : Exact.Apart 10 keptDigits 56176 2 17801 (-11) 3.15576e13 where
  large_pos := by norm_num
  inSmall := .sqrt (by decide) (by decide) (by norm_num) (by norm_num)
  inLarge := .sqrt (by decide) (by decide) (by norm_num) (by norm_num)
  above := Exact.Follows.not_hasPlaces (n := 17801) (k := -11) (by norm_num) (by decide)
    ⟨by decide, by decide, by norm_num, by norm_num⟩ (by norm_num)
  below := Exact.Follows.not_hasPlaces (n := 56175) (k := 2) (by norm_num) (by decide)
    ⟨by decide, by decide, by norm_num, by norm_num⟩ (by norm_num)

end BaseUnit

/-- The sizes that are read as a size which is read as another one.  They lie next to the geometric
means of a gram and a solar mass, a centimetre and a kiloparsec, a second and a megayear. -/
def BaseDimension.Drifts : BaseDimension → ℝ → Prop
  | mass, size => 4.45915e16 ≤ size ∧ size ≤ √1.98841586e33
  | length, size => 5.55485e10 < size ∧ size ≤ 1.80025e-11 * 3.085677580962325e21
  | time, size => √3.15576e13 < size ∧ size < 1.78015e-7 * 3.15576e13
  | current, _ => False
  | temperature, _ => False

namespace BaseUnit

variable {size : ℝ} {d : BaseDimension}

/-! ### Masses -/

theorem drifts_mass_iff :
    BaseDimension.Drifts .mass size ↔ Exact.CrossesUp 10 44591 12 1.98841586e33 size := by
  rw [Exact.CrossesUp, Exact.RoundsDown.iff_of_odd (by decide), not_lt, BaseDimension.Drifts,
    and_comm]
  norm_num
  intro _
  constructor <;> intro h <;> linarith

theorem not_crossesDown_mass : ¬ Exact.CrossesDown 10 22425 (-21) 1.98841586e33 size := by
  have hmean : (4.45915e16 : ℝ) < √1.98841586e33 := Real.lt_sqrt_of_sq_lt (by norm_num)
  rw [Exact.CrossesDown, Exact.RoundsDown.iff_of_odd (by decide)]
  rintro ⟨hlow, hhigh⟩
  norm_num at hlow hhigh hmean
  linarith

/-! ### Lengths -/

theorem mean_kiloparsec :
    5.55488e10 < √(3.085677580962325e21 : ℝ) ∧ √(3.085677580962325e21 : ℝ) < 5.55489e10 := by
  constructor
  · exact Real.lt_sqrt_of_sq_lt (by norm_num)
  · rw [Real.sqrt_lt' (by norm_num)]
    norm_num

theorem drifts_length_iff :
    BaseDimension.Drifts .length size ↔
      Exact.CrossesUp 10 55548 6 3.085677580962325e21 size ∨
        Exact.CrossesDown 10 18002 (-15) 3.085677580962325e21 size := by
  obtain ⟨hlow, hhigh⟩ := mean_kiloparsec
  rw [Exact.CrossesUp, Exact.CrossesDown, Exact.RoundsDown.iff_of_even (by decide),
    Exact.RoundsDown.iff_of_even (by decide), BaseDimension.Drifts]
  norm_num at hlow hhigh ⊢
  rcases le_or_gt size (√3085677580962325000000) with hle | hlt
  · constructor
    · rintro ⟨h, -⟩
      exact .inl ⟨hle, by linarith⟩
    · rintro (⟨-, h⟩ | ⟨h, -⟩)
      · exact ⟨by linarith, by linarith⟩
      · exact absurd hle (not_le.mpr h)
  · constructor
    · rintro ⟨-, h⟩
      exact .inr ⟨hlt, by linarith⟩
    · rintro (⟨h, -⟩ | ⟨-, h⟩)
      · exact absurd h (not_le.mpr hlt)
      · exact ⟨by linarith, by linarith⟩

/-! ### Times -/

theorem not_crossesUp_time : ¬ Exact.CrossesUp 10 56176 2 3.15576e13 size := by
  have hmean : √3.15576e13 < (5617650 : ℝ) := by
    rw [Real.sqrt_lt' (by norm_num)]
    norm_num
  rw [Exact.CrossesUp, Exact.RoundsDown.iff_of_even (by decide), not_le]
  rintro ⟨hlow, hhigh⟩
  norm_num at hlow hhigh hmean
  linarith

theorem drifts_time_iff :
    BaseDimension.Drifts .time size ↔ Exact.CrossesDown 10 17801 (-11) 3.15576e13 size := by
  rw [Exact.CrossesDown, Exact.RoundsDown.iff_of_odd (by decide), BaseDimension.Drifts]
  norm_num
  intro _
  constructor <;> intro h <;> linarith

/-! ## Reading once more -/

/-- A size that was read is read as itself exactly if it was not one of a few sizes. -/
theorem sizeRead_twice_iff (hsize : 0 < size) (d : BaseDimension) :
    sizeRead d (sizeRead d size) = sizeRead d size ↔ ¬ d.Drifts size := by
  cases d with
  | mass =>
    rw [isNext_solarMass.sizeRead_twice_iff (sizeIn_solarMass ▸ apart_solarMass) hsize,
      sizeIn_solarMass, drifts_mass_iff, and_iff_left not_crossesDown_mass]
  | length =>
    rw [isNext_kiloparsec.sizeRead_twice_iff (sizeIn_kiloparsec ▸ apart_kiloparsec) hsize,
      sizeIn_kiloparsec, drifts_length_iff, not_or]
  | time =>
    rw [isNext_megayear.sizeRead_twice_iff (sizeIn_megayear ▸ apart_megayear) hsize,
      sizeIn_megayear, drifts_time_iff, and_iff_right not_crossesUp_time]
  | current => exact iff_of_true (sizeRead_twice_of_commonUnits rfl size) not_false
  | temperature => exact iff_of_true (sizeRead_twice_of_commonUnits rfl size) not_false

theorem not_drifts_sizeRead (hsize : 0 < size) (h : ¬ d.Drifts size) :
    ¬ d.Drifts (sizeRead d size) := by
  have hsteady := (sizeRead_twice_iff hsize d).mpr h
  rw [← sizeRead_twice_iff (sizeRead_pos hsize d), hsteady, hsteady]

theorem not_drifts_sizeRead_twice (hsize : 0 < size) (d : BaseDimension) :
    ¬ d.Drifts (sizeRead d (sizeRead d size)) := by
  have hread := sizeRead_pos hsize d
  by_cases hdrifts : d.Drifts size
  · cases d with
    | mass =>
      refine not_drifts_sizeRead hread ?_
      rw [isNext_solarMass.sizeRead_eq hsize, sizeIn_solarMass,
        apart_solarMass.roundInEither_of_crossesUp (by norm_num) (by decide)
          (drifts_mass_iff.mp hdrifts)]
      have habove := apart_solarMass.inSmall.upper
      exact fun h => absurd h.2 (not_le.mpr habove)
    | length =>
      have hdown : ∀ {x : ℝ}, 0 < x → Exact.CrossesDown 10 18002 (-15) 3.085677580962325e21 x →
          ¬ BaseDimension.Drifts .length (sizeRead .length x) := by
        intro x hx hcrosses
        rw [isNext_kiloparsec.sizeRead_eq hx, sizeIn_kiloparsec,
          apart_kiloparsec.roundInEither_of_crossesDown (by norm_num) (by decide) hcrosses]
        norm_num [BaseDimension.Drifts]
      rcases drifts_length_iff.mp hdrifts with hup | hcrosses
      -- From below the mean a length comes to lie so little above it that it is led back.
      · refine hdown hread ?_
        obtain ⟨-, hhigh⟩ := mean_kiloparsec
        rw [isNext_kiloparsec.sizeRead_eq hsize, sizeIn_kiloparsec,
          apart_kiloparsec.roundInEither_of_crossesUp (by norm_num) (by decide) hup,
          Exact.CrossesDown, Exact.RoundsDown.iff_of_even (by decide)]
        norm_num at hhigh ⊢
        linarith
      · exact not_drifts_sizeRead hread (hdown hsize hcrosses)
    | time =>
      refine not_drifts_sizeRead hread ?_
      rw [isNext_megayear.sizeRead_eq hsize, sizeIn_megayear,
        apart_megayear.roundInEither_of_crossesDown (by norm_num) (by decide)
          (drifts_time_iff.mp hdrifts)]
      have hmean := (apart_megayear.le_sqrt_iff _).mpr apart_megayear.inLarge.lower
      exact fun h => absurd h.1 (not_lt.mpr hmean)
    | current => exact hdrifts.elim
    | temperature => exact hdrifts.elim
  · exact not_drifts_sizeRead hread (not_drifts_sizeRead hsize hdrifts)

end BaseUnit

end MeshlessGas
