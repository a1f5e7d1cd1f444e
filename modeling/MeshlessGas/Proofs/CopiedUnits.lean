/-
Copied units — the units of a file that is written in the units of another.

Each base unit of a file is read from the attribute of its name, and written by its size.  A reader
of the copy therefore reads what was read once more: the sizes are those of the first file, unless
one is stored as a size that drifts.
-/
import MeshlessGas.Proofs.StatedUnits
import MeshlessGas.Proofs.SteadyUnits
import MeshlessGas.Proofs.UnitRecovery
import MeshlessGas.Proofs.SelfDescription
import MeshlessGas.Proofs.ReadingInUnits

namespace MeshlessGas

theorem Failure.ofOption_eq_ok {α : Type} {e : Failure} {x : Option α} {a : α} :
    Failure.ofOption e x = .ok a ↔ x = some a := by
  cases x <;> simp

namespace UnitSystem

theorem storedUnit_eq_ok {D S : Type} [Transcendental D] [Narrowing D S] {d : BaseDimension}
    {a : Attribute D S} {b : BaseUnit D} (h : storedUnit d a = .ok b) :
    ∃ t c, a.first = .ok (.cell t c) ∧ b = .ofStored t.bytes c.toDouble d := by
  rw [storedUnit, Result.bind_eq_ok] at h
  obtain ⟨entry, hentry, h⟩ := h
  split at h
  · cases h
  · next t c _ =>
    exact ⟨t, c, hentry, (Except.ok.inj h).symm⟩
  · cases h
  · cases h
  · cases h

theorem sizeInCgs_of_ofAttributes {t : Table (Attribute ℝ ℝ)} {u : UnitSystem ℝ}
    {notices : List Notice} (h : (ofAttributes t).result = (.ok u, notices)) (d : BaseDimension) :
    u.sizeInCgs d = ((statedNumber? t d.attributeName).map (BaseUnit.sizeRead d)).getD 1 := by
  obtain ⟨_, hresult, -⟩ := result_ofAttributes t
  rw [hresult, Prod.mk.injEq, Result.bind_eq_ok] at h
  obtain ⟨⟨units, hunits, hsystem⟩, -⟩ := h
  obtain ⟨-, -, rfl⟩ := ofStoredUnits_eq_ok_iff.mp hsystem
  have hunit := unitOf?_of_knownUnits hunits d
  rw [sizeInCgs, unit?_completed, unitOrCgs]
  cases hfound : t.find? d.attributeName with
  | none =>
    rw [hfound, Option.map_none, Option.map_eq_none_iff] at hunit
    simp [statedNumber?, hfound, hunit, BaseUnit.sizeIn_cgsUnit]
  | some a =>
    rw [hfound, Option.map_some, Option.map_eq_some_iff] at hunit
    obtain ⟨b, hb, hstored⟩ := hunit
    obtain ⟨element, c, hfirst, rfl⟩ := storedUnit_eq_ok hstored.symm
    have hnumber : a.firstReal = .ok c.toDouble := by
      rw [Attribute.firstReal, hfirst]
      rfl
    rw [statedNumber?_of_find? hfound hnumber, hb]
    exact BaseUnit.sizeIn_ofStored _ _ _

theorem sizeInCgs_recovered_eq (u : UnitSystem ℝ) (d : BaseDimension) :
    u.recovered.sizeInCgs d = BaseUnit.sizeRead d (u.sizeInCgs d) := by
  rw [sizeInCgs, unit?_recovered]
  rfl

end UnitSystem

noncomputable def Archive.statedSize? (f : Archive ℝ ℝ) (d : BaseDimension) : Option ℝ :=
  (f.attributes? [UnitSystem.groupName]).bind fun t => statedNumber? t d.attributeName

namespace UnitSystem

theorem sizeInCgs_of_ofArchive {f : Archive ℝ ℝ} {u : UnitSystem ℝ} {notices : List Notice}
    (h : (ofArchive f).result = (.ok u, notices)) (d : BaseDimension) :
    u.sizeInCgs d = ((f.statedSize? d).map (BaseUnit.sizeRead d)).getD 1 := by
  rw [Reading.result, ofArchive, Run.bind_eq_ok] at h
  obtain ⟨t, _, hgroup, hunits⟩ := h
  obtain ⟨hfound, rfl⟩ := Run.liftM_eq_ok.mp hgroup
  rw [Archive.statedSize?, Failure.ofOption_eq_ok.mp hfound]
  exact sizeInCgs_of_ofAttributes hunits d

end UnitSystem

namespace Snapshot

theorem statedSize?_of_write {c : Contents ℝ ℝ} {files files' : Directory ℝ ℝ} {file : String}
    {f : Archive ℝ ℝ} (hwrite : write files file c = (.ok (), files'))
    (hread : files'.read file = .ok f) (d : BaseDimension) :
    f.statedSize? d = some (c.units.sizeInCgs d) := by
  obtain ⟨header, properties, particles, -, -, hread', -⟩ := read_of_write hwrite
  have hgroup : f.attributes? [UnitSystem.groupName]
      = some (Writing.storeAll [] (Contents.unitAttributes c.units)) := by
    rw [Except.ok.inj (hread.symm.trans hread'), attributes?_archiveOf header properties particles
      (c.find?_archiveOf_units header properties particles)]
  rw [Archive.statedSize?, hgroup, Option.bind_some, statedNumber?_units]

/-- A size that was read is read as itself again unless it was one of those that drift, and these
change by five parts in a hundred thousand at most; what was read three times stays.  So do the
units of a file that is written in the units of another: its reader finds the same sizes, except
for those that the other file states and that drift. -/
theorem sizes_read_again :
    (∀ (bytes : Nat) (d : BaseDimension) (size : ℝ), 0 < size →
      let first := (BaseUnit.ofStored bytes size d).sizeIn d
      let again := fun x : ℝ => (BaseUnit.ofStored UnitSystem.storedBytes x d).sizeIn d
      (again first = first ↔ ¬ d.Drifts size) ∧ |again first - first| ≤ 5 / 100000 * first ∧
        again (again (again first)) = again (again first)) ∧
    ∀ {c : Contents ℝ ℝ} {files files' : Directory ℝ ℝ} {file : String} {f : Archive ℝ ℝ}
      {notices : List Notice}, (UnitSystem.ofArchive f).result = (.ok c.units, notices) →
      (∀ d size, f.statedSize? d = some size → 0 < size) →
      write files file c = (.ok (), files') →
      ∃ copy units, files'.read file = .ok copy ∧
        (UnitSystem.ofArchive copy).result = (.ok units, []) ∧
        ∀ d, (units.sizeInCgs d = c.units.sizeInCgs d ↔
            ∀ size, f.statedSize? d = some size → ¬ d.Drifts size) ∧
          |units.sizeInCgs d - c.units.sizeInCgs d| ≤ 5 / 100000 * c.units.sizeInCgs d := by
  constructor
  · intro bytes d size hsize
    have hfirst := BaseUnit.sizeRead_pos hsize d
    have hagain := BaseUnit.sizeRead_pos hfirst d
    simp only [BaseUnit.sizeIn_ofStored]
    refine ⟨BaseUnit.sizeRead_twice_iff hsize d, ?_, ?_⟩
    · exact BaseUnit.abs_sizeIn_ofStored_sub_le UnitSystem.storedBytes hfirst d
    · exact (BaseUnit.sizeRead_twice_iff hagain d).mpr
        (BaseUnit.not_drifts_sizeRead_twice hsize d)
  · intro c files files' file f notices hread hpos hwrite
    have hsize := UnitSystem.sizeInCgs_of_ofArchive hread
    have hu : c.units.Positive := by
      intro d
      rw [hsize]
      cases hstated : f.statedSize? d with
      | none => exact one_pos
      | some size => exact BaseUnit.sizeRead_pos (hpos d size hstated) d
    obtain ⟨copy, hcopy, hunits⟩ := readUnits_of_write hu.checked_recovered hwrite
    refine ⟨copy, c.units.recovered, hcopy, hunits, fun d => ⟨?_, ?_⟩⟩
    · rw [UnitSystem.sizeInCgs_recovered_eq, hsize]
      cases hstated : f.statedSize? d with
      | none => simp [BaseUnit.sizeRead_one]
      | some size => simp [BaseUnit.sizeRead_twice_iff (hpos d size hstated)]
    · rw [UnitSystem.sizeInCgs_recovered_eq]
      exact BaseUnit.abs_sizeIn_ofStored_sub_le UnitSystem.storedBytes (hu d) d

/-- The sample of two particles in the units that are read from its own file. -/
noncomputable def copiedContents : Contents ℝ ℝ :=
  { sampleContents with units := sampleContents.units.recovered }

theorem copiedContents_admissible : copiedContents.Admissible where
  gas := sampleContents_admissible.gas
  fits := sampleContents_admissible.fits
  regular := sampleContents_admissible.regular
  couples := sampleContents_admissible.couples
  units := sampleContents_admissible.units.recovered
  properties := sampleContents_admissible.properties
  parameters := sampleContents_admissible.parameters
  gamma := sampleContents_admissible.gamma
  scaleFactor := sampleContents_admissible.scaleFactor

/-- A gram is read as a gram again, and so are the units of a file that is copied. -/
theorem sizes_read_again_sample :
    (0 : ℝ) < 1 ∧
      (BaseUnit.ofStored UnitSystem.storedBytes
        ((BaseUnit.ofStored 8 (1 : ℝ) .mass).sizeIn .mass) .mass).sizeIn .mass
          = (BaseUnit.ofStored 8 (1 : ℝ) .mass).sizeIn .mass ∧
      ∃ files₁ f files₂ copy units, write {} "a.hdf5" sampleContents = (.ok (), files₁) ∧
        files₁.read "a.hdf5" = .ok f ∧
        (UnitSystem.ofArchive f).result = (.ok copiedContents.units, []) ∧
        write {} "a.hdf5" copiedContents = (.ok (), files₂) ∧ files₂.read "a.hdf5" = .ok copy ∧
        (UnitSystem.ofArchive copy).result = (.ok units, []) ∧
        ∀ d, units.sizeInCgs d = copiedContents.units.sizeInCgs d := by
  have hsteady : ∀ d, ¬ BaseDimension.Drifts d 1 := by
    intro d
    rw [← BaseUnit.sizeRead_twice_iff one_pos, BaseUnit.sizeRead_one, BaseUnit.sizeRead_one]
  obtain ⟨hsizes, hfiles⟩ := sizes_read_again
  refine ⟨one_pos, (hsizes 8 .mass 1 one_pos).1.mpr (hsteady .mass), ?_⟩
  obtain ⟨files₁, hwrite₁⟩ := sampleContents_admissible.exists_write writable_sampleFile
  obtain ⟨files₂, hwrite₂⟩ := copiedContents_admissible.exists_write writable_sampleFile
  obtain ⟨f, hread, hunits⟩ :=
    readUnits_of_write sampleContents_admissible.units.checked_recovered hwrite₁
  have hone : ∀ d size, f.statedSize? d = some size → size = 1 := by
    intro d size hstated
    rw [statedSize?_of_write hwrite₁ hread] at hstated
    exact (Option.some.inj hstated).symm.trans (UnitSystem.sizeInCgs_cgs d)
  obtain ⟨copy, units, hcopy, hagain, hsame⟩ := hfiles hunits
    (fun d size hstated => hone d size hstated ▸ one_pos) hwrite₂
  refine ⟨files₁, f, files₂, copy, units, hwrite₁, hread, hunits, hwrite₂, hcopy, hagain, ?_⟩
  exact fun d => (hsame d).1.mpr fun size hstated => hone d size hstated ▸ hsteady d

/-- A mass next to the mean of a gram and a solar mass is read in grams, and what it is read as is
read in solar masses, as another size. -/
theorem mass_read_again_ne :
    (BaseUnit.ofStored 8 (4.45916e16 : ℝ) .mass).sizeIn .mass = 4.4592e16 ∧
      (BaseUnit.ofStored 8 (4.4592e16 : ℝ) .mass).sizeIn .mass ≠ 4.4592e16 := by
  have hpos : (0 : ℝ) < 4.45916e16 := by norm_num
  have hdrifts : BaseDimension.Drifts .mass 4.45916e16 :=
    ⟨by norm_num, Real.le_sqrt_of_sq_le (by norm_num)⟩
  have hread : BaseUnit.sizeRead .mass 4.45916e16 = 4.4592e16 := by
    rw [BaseUnit.isNext_solarMass.sizeRead_eq hpos, BaseUnit.sizeIn_solarMass,
      BaseUnit.apart_solarMass.roundInEither_of_crossesUp (by norm_num) (by decide)
        (BaseUnit.drifts_mass_iff.mp hdrifts)]
    norm_num
  have hagain := mt (BaseUnit.sizeRead_twice_iff hpos .mass).mp (not_not.mpr hdrifts)
  rw [hread] at hagain
  exact ⟨hread, hagain⟩

end Snapshot

end MeshlessGas
