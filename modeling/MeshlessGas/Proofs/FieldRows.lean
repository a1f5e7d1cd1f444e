/-
Rows of fields — the numbers of the written fields, particle by particle.

A field is either a leaf of the particle records or the result of a converter.  For every
field of the registry of snapshots the rows of all particles are the cells of each of them
one after the other, already in the element type of the field, so that extracting them
changes nothing.
-/
import MeshlessGas.Field.Registry
import MeshlessGas.Proofs.Conversions

namespace MeshlessGas

open Conversion (Row)

variable {D S : Type} [Transcendental D] [Arithmetic S] [Narrowing D S]

/-! ## Converters -/

namespace Conversion

def resultType : Converter → ElementType
  | .position => .float64
  | _ => .float32

def resultShape : Converter → FieldShape
  | .position | .velocity => .vector
  | _ => .scalar

/-- The cells that a converter gives for one particle; a function that takes no particle
gives none. -/
def cellsOf (c : Converter) (context : Context D S) (r : Row D S) : List (Cell D S) :=
  match c with
  | .internalEnergy => [.single (r.1.internalEnergy context.scheme.gamma)]
  | .entropy => [.single (r.1.entropy context.scheme.gamma)]
  | .totalEnergy => [.single (r.1.totalEnergy context.scheme.totalEnergy)]
  | .position => (positionOf context r.1).toList.map .double
  | .velocity => (velocityOf context r).toList.map .single
  | .potential => [.single (potentialOf context r.1)]
  | .other _ => []

theorem length_cellsOf {c : Converter} (hc : c ∈ Converter.all) (context : Context D S)
    (r : Row D S) : (cellsOf c context r).length = cellCount (resultShape c).shape := by
  cases c with
  | other name => simp [Converter.all] at hc
  | _ => rfl

/-- What a converter needs of the context and of the rows: a box for positions, a tick for
velocities, and gravity particles where it looks them up. -/
def Ready (context : Context D S) (rows : List (Row D S)) : Converter → Prop
  | .position => context.periodic = true → context.dim.shape = [3]
  | .velocity => context.HasTick ∧ ∀ r ∈ rows, context.Couples r.1
  | .potential => ∀ r ∈ rows, context.Couples r.1
  | .other _ => False
  | .internalEnergy | .entropy | .totalEnergy => True

def usesGravity : Converter → Bool
  | .velocity | .potential => true
  | _ => false

omit [Transcendental D] [Arithmetic S] [Narrowing D S] in
theorem ready_iff {context : Context D S} {rows : List (Row D S)} {c : Converter}
    (hw : context.WellFormed) (hc : c ∈ Converter.all) :
    Ready context rows c ↔ (usesGravity c = true → ∀ r ∈ rows, context.Couples r.1) := by
  cases c with
  | position => exact ⟨fun _ h => (nomatch h), fun _ => hw.dim_shape⟩
  | velocity => exact ⟨fun h _ => h.2, fun h => ⟨hw.hasTick, h rfl⟩⟩
  | potential => exact ⟨fun h _ => h, fun h => h rfl⟩
  | other name => simp [Converter.all] at hc
  | internalEnergy => exact ⟨fun _ h => (nomatch h), fun _ => trivial⟩
  | entropy => exact ⟨fun _ h => (nomatch h), fun _ => trivial⟩
  | totalEnergy => exact ⟨fun _ h => (nomatch h), fun _ => trivial⟩

omit [Transcendental D] [Arithmetic S] [Narrowing D S] in
theorem numbers_map {α : Type} (g : α → S) (t : Tensor α) :
    (numbers (t.map g) : NumericArray D S)
      = ⟨.float32, (t.spreadOut [] (fun a => [.single (g a)]) fun _ => rfl).atLeastRow⟩ := by
  rw [numbers, NumericArray.singles, Tensor.map_atLeastRow, Tensor.map_map,
    Tensor.map_eq_spreadOut]

variable {context : Context D S} {c : Converter}

/-- Every converter of particles gives the cells of each particle; a single cell becomes a row
of one. -/
theorem convertWith_map {t : Tensor (Row D S)} (hready : Ready context t.cells c)
    (hc : c ∈ Converter.all) :
    convertWith c (some context) (t.map Prod.fst) (t.map Prod.snd)
      = .ok ⟨resultType c, (t.spreadOut (resultShape c).shape (cellsOf c context)
          (length_cellsOf hc context)).atLeastRow⟩ := by
  cases c with
  | internalEnergy =>
    simp only [convertWith, convert, Tensor.map_map]
    exact congrArg Except.ok (numbers_map _ t)
  | entropy =>
    simp only [convertWith, convert, Tensor.map_map]
    exact congrArg Except.ok (numbers_map _ t)
  | totalEnergy =>
    simp only [convertWith, convert, Tensor.map_map]
    exact congrArg Except.ok (numbers_map _ t)
  | position =>
    simp only [convertWith, convert, positions_map hready, Result.ok_bind, NumericArray.doubles,
      Tensor.map_spreadOut]
    exact congrArg (fun u => Except.ok (NumericArray.mk _ u))
      (Tensor.atLeastRow_spreadOut_cons t _).symm
  | velocity =>
    simp only [convertWith, convert, velocities_map hready.1 hready.2, Result.ok_bind,
      NumericArray.singles, components_map, Tensor.map_spreadOut]
    exact congrArg (fun u => Except.ok (NumericArray.mk _ u))
      (Tensor.atLeastRow_spreadOut_cons t _).symm
  | potential =>
    simp only [convertWith, convert, gather_rows hready, Result.ok_bind]
    exact congrArg Except.ok (numbers_map _ t)
  | other name => exact hready.elim

/-- A converter that looks up gravity particles fails where a particle refers to one that is
not there. -/
theorem convertWith_uncoupled {t : Tensor (Row D S)} (hw : context.WellFormed)
    (huses : usesGravity c = true) (hlost : ∃ r ∈ t.cells, ¬ context.Couples r.1) :
    convertWith c (some context) (t.map Prod.fst) (t.map Prod.snd)
      = .error .indexOutOfRange := by
  cases c with
  | velocity =>
    simp only [convertWith, convert, velocities_uncoupled hw.hasTick hlost]
    rfl
  | potential =>
    simp only [convertWith, convert, gather_uncoupled hlost]
    rfl
  | internalEnergy => cases huses
  | entropy => cases huses
  | totalEnergy => cases huses
  | position => cases huses
  | other name => cases huses

/-- In a well-formed context this is the only way to fail. -/
theorem convertWith_unready {t : Tensor (Row D S)} (hw : context.WellFormed)
    (hc : c ∈ Converter.all) (hnot : ¬ Ready context t.cells c) :
    convertWith c (some context) (t.map Prod.fst) (t.map Prod.snd)
      = .error .indexOutOfRange := by
  rw [ready_iff hw hc] at hnot
  simp only [Classical.not_forall] at hnot
  obtain ⟨huses, r, hr, hlost⟩ := hnot
  exact convertWith_uncoupled hw huses ⟨r, hr, hlost⟩

theorem ready_of_convertWith {t : Tensor (Row D S)} {a : NumericArray D S}
    (huses : usesGravity c = true)
    (h : convertWith c (some context) (t.map Prod.fst) (t.map Prod.snd) = .ok a) :
    Ready context t.cells c := by
  cases c with
  | velocity =>
    obtain ⟨v, hv, -⟩ := Result.bind_eq_ok.mp h
    have htick := hasTick_of_velocities hv
    rw [velocities_eq htick] at hv
    obtain ⟨drifted, hdrifted, -⟩ := Result.bind_eq_ok.mp hv
    obtain ⟨aGrav, haGrav, -⟩ := Result.bind_eq_ok.mp hdrifted
    exact ⟨htick, couples_of_gather haGrav⟩
  | potential =>
    obtain ⟨found, hfound, -⟩ := Result.bind_eq_ok.mp h
    exact couples_of_gather hfound
  | internalEnergy => cases huses
  | entropy => cases huses
  | totalEnergy => cases huses
  | position => cases huses
  | other name => cases huses

theorem convertWith_rows {rows : List (Row D S)} (hready : Ready context rows c)
    (hc : c ∈ Converter.all) :
    convertWith c (some context) (.vector (rows.map Prod.fst)) (.vector (rows.map Prod.snd))
      = .ok ⟨resultType c, Tensor.rows rows (resultShape c).shape (cellsOf c context)
          (length_cellsOf hc context)⟩ := by
  rw [← Tensor.map_vector, ← Tensor.map_vector, convertWith_map hready hc,
    Tensor.spreadOut_vector, Tensor.atLeastRow_rows]

end Conversion

/-! ## Fields -/

namespace FieldDescriptor

def cellsOf (f : FieldDescriptor) (context : Context D S) (r : Row D S) : List (Cell D S) :=
  match f.kind with
  | .stored path .parts =>
    match ParticleLeaf.tree.follow path with
    | .ok (.leaf l) => l.lens.get r.1
    | _ => []
  | .converted c => Conversion.cellsOf c context r
  | _ => []

/-- The numbers of a field for all particles are the cells of each of them, in the element
type of the field. -/
def GivesRows (f : FieldDescriptor) (context : Context D S) (rows : List (Row D S)) : Prop :=
  (∀ r, NumericArray.Keeps f.type (f.cellsOf context r)) ∧
    ∃ h : ∀ r, (f.cellsOf context r).length = cellCount f.shape.shape,
      f.numbers (some context) (rows.map Prod.fst) (rows.map Prod.snd)
        = .ok ⟨f.type, Tensor.rows rows f.shape.shape (f.cellsOf context) h⟩

variable {f : FieldDescriptor} {context : Context D S} {rows : List (Row D S)}

theorem givesRows_stored {path : List String} {l : ParticleLeaf} (hlength : f.hasLength = true)
    (hkind : f.kind = .stored path .parts) (hfollow : ParticleLeaf.tree.follow path = .ok (.leaf l))
    (htype : (l.lens : Lens (Particle D S) D S).type = f.type)
    (hshape : (l.lens : Lens (Particle D S) D S).shape = f.shape)
    (hkeeps : ∀ p : Particle D S, NumericArray.Keeps f.type (l.lens.get p)) :
    f.GivesRows context rows := by
  have hcells : f.cellsOf context = fun r => l.lens.get r.1 := by
    funext r
    simp only [cellsOf, hkind, hfollow]
  unfold GivesRows
  rw [hcells]
  refine ⟨fun r => hkeeps r.1, fun r => hshape ▸ l.lens.length_get r.1, ?_⟩
  have hleaf : (Particle.layout : Layout (Particle D S) D S _).tree.follow path = .ok (.leaf l) :=
    hfollow
  simp only [numbers, hkind]
  rw [storedColumn_rows hlength hleaf hshape Prod.fst rows]
  exact congrArg (fun t => Except.ok (NumericArray.mk t _)) htype

theorem numbers_converted {c : Converter} (hready : Conversion.Ready context rows c)
    (hlength : f.hasLength = true) (hkind : f.kind = .converted c) (hc : c ∈ Converter.all)
    (hshape : Conversion.resultShape c = f.shape) :
    ∃ h, f.numbers (some context) (rows.map Prod.fst) (rows.map Prod.snd)
      = .ok ⟨Conversion.resultType c,
          Tensor.rows rows f.shape.shape (Conversion.cellsOf c context) h⟩ := by
  have hcount : ∀ r, (Conversion.cellsOf c context r).length = cellCount f.shape.shape := by
    rw [← hshape]
    exact Conversion.length_cellsOf hc context
  have hrows : Tensor.rows rows (Conversion.resultShape c).shape (Conversion.cellsOf c context)
        (Conversion.length_cellsOf hc context)
      = Tensor.rows rows f.shape.shape (Conversion.cellsOf c context) hcount := by
    refine Tensor.ext ?_ rfl
    rw [Tensor.shape_rows, Tensor.shape_rows, hshape]
  refine ⟨hcount, ?_⟩
  simp only [numbers, hkind, Conversion.convertWith_rows hready hc, Result.ok_bind, hrows]
  exact reshaped_rows hlength _ (List.length_map Prod.fst).symm hcount

theorem givesRows_converted {c : Converter} (hready : Conversion.Ready context rows c)
    (hlength : f.hasLength = true) (hkind : f.kind = .converted c)
    (hc : c ∈ Converter.all) (htype : Conversion.resultType c = f.type)
    (hshape : Conversion.resultShape c = f.shape)
    (hkeeps : ∀ r : Row D S, NumericArray.Keeps f.type (Conversion.cellsOf c context r)) :
    f.GivesRows context rows := by
  have hcells : f.cellsOf context = Conversion.cellsOf c context := by
    funext r
    simp only [cellsOf, hkind]
  obtain ⟨hcount, hnumbers⟩ := numbers_converted hready hlength hkind hc hshape
  rw [htype] at hnumbers
  unfold GivesRows
  rw [hcells]
  exact ⟨hkeeps, hcount, hnumbers⟩

/-- What the converter of a field needs; a field without one needs nothing. -/
def Ready (f : FieldDescriptor) (context : Context D S) (rows : List (Row D S)) : Prop :=
  ∀ c, f.kind = .converted c → Conversion.Ready context rows c

theorem givesRows_of_ready (hready : f.Ready context rows) (hf : f ∈ writeRegistry) :
    f.GivesRows context rows := by
  simp only [writeRegistry, List.mem_cons, List.not_mem_nil, or_false] at hf
  rcases hf with rfl | rfl | rfl | rfl | rfl | rfl | rfl | rfl | rfl | rfl | rfl
  · exact givesRows_converted (hready _ rfl) rfl rfl (by decide) rfl rfl
      fun r => NumericArray.keeps_doubles (Conversion.positionOf context r.1).toList
  · exact givesRows_converted (hready _ rfl) rfl rfl (by decide) rfl rfl
      fun r => NumericArray.keeps_singles (Conversion.velocityOf context r).toList
  · exact givesRows_stored (l := .mass) rfl rfl rfl rfl rfl
      fun p => NumericArray.keeps_singles [p.conserved.mass]
  · exact givesRows_stored (l := .h) rfl rfl rfl rfl rfl
      fun p => NumericArray.keeps_singles [p.h]
  · exact givesRows_converted (hready _ rfl) rfl rfl (by decide) rfl rfl
      fun r => NumericArray.keeps_singles [r.1.internalEnergy context.scheme.gamma]
  · exact givesRows_stored (l := .id) rfl rfl rfl rfl rfl
      fun p => NumericArray.keeps_whole (IntegerType.holds_uint64 p.id)
  · exact givesRows_stored (l := .rho) rfl rfl rfl rfl rfl
      fun p => NumericArray.keeps_singles [p.primitives.rho]
  · exact givesRows_converted (hready _ rfl) rfl rfl (by decide) rfl rfl
      fun r => NumericArray.keeps_singles [r.1.entropy context.scheme.gamma]
  · exact givesRows_stored (l := .pressure) rfl rfl rfl rfl rfl
      fun p => NumericArray.keeps_singles [p.primitives.pressure]
  · exact givesRows_converted (hready _ rfl) rfl rfl (by decide) rfl rfl
      fun r => NumericArray.keeps_singles [r.1.totalEnergy context.scheme.totalEnergy]
  · exact givesRows_converted (hready _ rfl) rfl rfl (by decide) rfl rfl
      fun r => NumericArray.keeps_singles [Conversion.potentialOf context r.1]

omit [Transcendental D] [Arithmetic S] [Narrowing D S] in
theorem mem_all_of_mem_writeRegistry {c : Converter} (hf : f ∈ writeRegistry)
    (hkind : f.kind = .converted c) : c ∈ Converter.all := by
  simp only [writeRegistry, List.mem_cons, List.not_mem_nil, or_false] at hf
  rcases hf with rfl | rfl | rfl | rfl | rfl | rfl | rfl | rfl | rfl | rfl | rfl <;> cases hkind
    <;> decide

theorem givesRows_writeRegistry (hr : context.Regular)
    (hcouple : ∀ r ∈ rows, context.Couples r.1) (hf : f ∈ writeRegistry) :
    f.GivesRows context rows := by
  refine givesRows_of_ready (fun c hkind => ?_) hf
  exact (Conversion.ready_iff hr.wellFormed (mem_all_of_mem_writeRegistry hf hkind)).mpr
    fun _ => hcouple

theorem GivesRows.extract (hrows : f.GivesRows context rows) :
    ∃ h : ∀ r, (f.cellsOf context r).length = cellCount f.shape.shape,
      f.extract (some context) (rows.map Prod.fst) (rows.map Prod.snd)
        = .ok ⟨f.type, Tensor.rows rows f.shape.shape (f.cellsOf context) h⟩ := by
  obtain ⟨hkeeps, h, hnumbers⟩ := hrows
  refine ⟨h, ?_⟩
  rw [FieldDescriptor.extract, hnumbers, Result.ok_bind, NumericArray.cast_rows h hkeeps]
  rfl

end FieldDescriptor

end MeshlessGas
