/-
Leaves — what storing into one leaf of a record does to all of them.

A leaf holds what was stored into it, cast to its element type, and every other leaf keeps what
it held.  From records the two laws go over to the columns of many records, and to the leaves of
a gas, which are those of its particles and those of their extended states.  There is nothing to a
gas but its leaves: where all of them agree, two gases are the same.
-/
import Mathlib.Data.List.Basic
import MeshlessGas.Proofs.Filling

namespace MeshlessGas

/-! ## Integers that are stored -/

namespace IntegerType

theorem wrap_wrap (k : IntegerType) (n : Int) : k.wrap (k.wrap n) = k.wrap n := by
  unfold wrap
  split
  next => exact Int.bmod_bmod
  next => exact Int.emod_emod_of_dvd n (Int.dvd_refl _)

theorem wrap_zero (k : IntegerType) : k.wrap 0 = 0 := by
  unfold wrap
  split
  next => exact Int.zero_bmod
  next => exact Int.zero_emod _

theorem wrap_ofReal {R : Type} [Arithmetic R] (k : IntegerType) (x : R) :
    k.wrap (k.ofReal x) = k.ofReal x := by
  unfold ofReal
  dsimp only
  generalize (if k = uint64 then _ else _ : Int) = high
  split
  next =>
    split
    next => exact k.wrap_wrap _
    next =>
      split
      next => exact k.wrap_zero
      next => exact k.wrap_wrap _
  next =>
    split
    next => exact k.wrap_zero
    next => exact k.wrap_wrap _

theorem toNat_ofInt_uint64 (n : Int) : ((UInt64.ofInt n).toNat : Int) = uint64.wrap n := by
  have hnonneg : 0 ≤ n % 2 ^ 64 := Int.emod_nonneg n (by decide)
  have hlt : n % 2 ^ 64 < 2 ^ 64 := Int.emod_lt_of_pos n (by decide)
  have hsize : (n % 2 ^ 64).toNat < UInt64.size := by
    have hsize : UInt64.size = 2 ^ 64 := rfl
    omega
  show ((UInt64.ofNat (n % 2 ^ 64).toNat).toNat : Int) = n % 2 ^ 64
  rw [UInt64.toNat_ofNat_of_lt' hsize, Int.toNat_of_nonneg hnonneg]

theorem toInt_ofInt_int64 (n : Int) : (Int64.ofInt n).toInt = int64.wrap n := Int64.toInt_ofInt

theorem toInt_ofInt_int8 (n : Int) : (Int8.ofInt n).toInt = int8.wrap n := Int8.toInt_ofInt

end IntegerType

variable {R D S L : Type} [Arithmetic D] [Arithmetic S] [Narrowing D S]

omit [Arithmetic S] in
theorem Cell.wrap_toWhole (k : IntegerType) (c : Cell D S) :
    k.wrap (c.toWhole k) = c.toWhole k := by
  cases c with
  | double x => exact k.wrap_ofReal x
  | single x => exact k.wrap_ofReal _
  | whole n => exact k.wrap_wrap n

/-! ## One leaf of a record -/

namespace Lens

/-- A leaf holds the cells that were stored into it, cast to its element type. -/
def Holds (l : Lens R D S) : Prop :=
  ∀ cells : List (Cell D S), cells.length = cellCount l.shape.shape → ∀ r,
    l.get (l.put cells r) = cells.map (Cell.cast l.type)

/-- Storing into a leaf leaves something else of a record as it is. -/
def Spares {α : Type} (l : Lens R D S) (look : R → α) : Prop :=
  ∀ (cells : List (Cell D S)) r, look (l.put cells r) = look r

theorem holds_single {get : R → S} {put : S → R → R} (h : ∀ x r, get (put x r) = x) :
    (single get put : Lens R D S).Holds := by
  intro cells hcells r
  obtain ⟨c, rfl⟩ := List.length_eq_one_iff.mp hcells
  exact congrArg (fun x => [Cell.single x]) (h c.toSingle r)

theorem holds_whole {k : IntegerType} {get : R → Int} {put : Int → R → R}
    (h : ∀ n r, get (put n r) = k.wrap n) : (whole k get put : Lens R D S).Holds := by
  intro cells hcells r
  obtain ⟨c, rfl⟩ := List.length_eq_one_iff.mp hcells
  have hstored : get (put (c.toWhole k) r) = c.toWhole k := (h _ r).trans (c.wrap_toWhole k)
  exact congrArg (fun n => [Cell.whole n]) hstored

theorem holds_singles {get : R → Vec3 S} {put : Vec3 S → R → R} (h : ∀ x r, get (put x r) = x) :
    (singles get put : Lens R D S).Holds := by
  intro cells hcells r
  obtain ⟨c₁, c₂, c₃, rfl⟩ := List.length_eq_three.mp hcells
  exact congrArg (fun x : Vec3 S => x.toList.map Cell.single) (h _ r)

theorem holds_doubles {get : R → Vec3 D} {put : Vec3 D → R → R} (h : ∀ x r, get (put x r) = x) :
    (doubles get put : Lens R D S).Holds := by
  intro cells hcells r
  obtain ⟨c₁, c₂, c₃, rfl⟩ := List.length_eq_three.mp hcells
  exact congrArg (fun x : Vec3 D => x.toList.map Cell.double) (h _ r)

section Spares

variable {α : Type} {look : R → α}

omit [Arithmetic D] in
theorem spares_single {get : R → S} {put : S → R → R} (h : ∀ x r, look (put x r) = look r) :
    (single get put : Lens R D S).Spares look := by
  intro cells r
  unfold single
  dsimp only
  split
  next c => exact h c.toSingle r
  next => rfl

omit [Arithmetic S] in
theorem spares_whole {k : IntegerType} {get : R → Int} {put : Int → R → R}
    (h : ∀ n r, look (put n r) = look r) : (whole k get put : Lens R D S).Spares look := by
  intro cells r
  unfold whole
  dsimp only
  split
  next c => exact h (c.toWhole k) r
  next => rfl

omit [Arithmetic D] in
theorem spares_singles {get : R → Vec3 S} {put : Vec3 S → R → R}
    (h : ∀ x r, look (put x r) = look r) : (singles get put : Lens R D S).Spares look := by
  intro cells r
  unfold singles
  dsimp only
  split
  next c₁ c₂ c₃ => exact h ⟨c₁.toSingle, c₂.toSingle, c₃.toSingle⟩ r
  next => rfl

omit [Arithmetic S] in
theorem spares_doubles {get : R → Vec3 D} {put : Vec3 D → R → R}
    (h : ∀ x r, look (put x r) = look r) : (doubles get put : Lens R D S).Spares look := by
  intro cells r
  unfold doubles
  dsimp only
  split
  next c₁ c₂ c₃ => exact h ⟨c₁.toDouble, c₂.toDouble, c₃.toDouble⟩ r
  next => rfl

end Spares

end Lens

/-! ## All leaves of a record -/

namespace Layout

/-- A layout whose leaves hold what is stored, each apart from the others. -/
structure IsLawful (layout : Layout R D S L) : Prop where
  holds : ∀ l, (layout.lens l).Holds
  spares : ∀ {l l' : L}, l ≠ l' → (layout.lens l).Spares (layout.lens l').get

end Layout

open Lens in
theorem Particle.isLawful : (Particle.layout : Layout (Particle D S) D S _).IsLawful where
  holds l := by
    simp only [layout, ParticleLeaf.lens]
    cases l with
    | id => exact holds_whole fun n _ => IntegerType.toNat_ofInt_uint64 n
    | gpart => exact holds_whole fun n _ => IntegerType.toInt_ofInt_int64 n
    | timeBin => exact holds_whole fun n _ => IntegerType.toInt_ofInt_int8 n
    | x => exact holds_doubles fun _ _ => rfl
    | v | aHydro | momentum | primitiveV => exact holds_singles fun _ _ => rfl
    | h | mass | energy | rho | pressure => exact holds_single fun _ _ => rfl
  spares {l l'} hne := by
    simp only [layout, ParticleLeaf.lens]
    cases l with
    | id | gpart | timeBin =>
      refine spares_whole fun n r => ?_
      cases l' <;> first | rfl | exact absurd rfl hne
    | x =>
      refine spares_doubles fun x r => ?_
      cases l' <;> first | rfl | exact absurd rfl hne
    | v | aHydro | momentum | primitiveV =>
      refine spares_singles fun v r => ?_
      cases l' <;> first | rfl | exact absurd rfl hne
    | h | mass | energy | rho | pressure =>
      refine spares_single fun x r => ?_
      cases l' <;> first | rfl | exact absurd rfl hne

open Lens in
theorem ExtendedState.isLawful :
    (ExtendedState.layout : Layout (ExtendedState S) D S _).IsLawful where
  holds l := by
    simp only [layout]
    cases l with
    | xDiff | vFull => exact holds_singles fun _ _ => rfl
  spares {l l'} hne := by
    simp only [layout]
    cases l with
    | xDiff | vFull =>
      refine spares_singles fun v r => ?_
      cases l' <;> first | rfl | exact absurd rfl hne

/-! ## Columns of records -/

namespace Layout

theorem length_pieces {α : Type} (n k : Nat) (xs : List α) : (pieces n k xs).length = n := by
  induction n generalizing xs with
  | zero => rfl
  | succ n ih => exact congrArg (· + 1) (ih _)

section Pieces

variable {l : Lens R D S}

omit [Arithmetic D] [Arithmetic S] [Narrowing D S] in
theorem length_putPieces (l : Lens R D S) (ps : List (List (Cell D S))) (rs : List R) :
    (putPieces l ps rs).length = rs.length := by
  induction ps generalizing rs with
  | nil => rfl
  | cons p ps ih =>
    cases rs with
    | nil => rfl
    | cons r rs => exact congrArg (· + 1) (ih rs)

theorem flatMap_get_putPieces (hl : l.Holds) {ps : List (List (Cell D S))} {rs : List R}
    (hcount : ps.length = rs.length) (hps : ∀ p ∈ ps, p.length = cellCount l.shape.shape) :
    (putPieces l ps rs).flatMap l.get = ps.flatten.map (Cell.cast l.type) := by
  induction ps generalizing rs with
  | nil =>
    rw [List.eq_nil_of_length_eq_zero hcount.symm]
    rfl
  | cons p ps ih =>
    cases rs with
    | nil => cases hcount
    | cons r rs =>
      obtain ⟨hp, hrest⟩ := List.forall_mem_cons.mp hps
      rw [putPieces, List.flatMap_cons, hl p hp r, ih (Nat.succ.inj hcount) hrest,
        List.flatten_cons, List.map_append]

omit [Arithmetic D] [Arithmetic S] [Narrowing D S] in
theorem flatMap_putPieces {α : Type} {look : R → List α} (hl : l.Spares look)
    (ps : List (List (Cell D S))) (rs : List R) :
    (putPieces l ps rs).flatMap look = rs.flatMap look := by
  induction ps generalizing rs with
  | nil => rfl
  | cons p ps ih =>
    cases rs with
    | nil => rfl
    | cons r rs => rw [putPieces, List.flatMap_cons, List.flatMap_cons, hl p r, ih rs]

end Pieces

/-- Records with the cells of an array stored in one leaf, row by row. -/
def stored (l : Lens R D S) (cells : List (Cell D S)) (rs : List R) : List R :=
  putPieces l (pieces rs.length (cellCount l.shape.shape) cells) rs

omit [Arithmetic D] [Arithmetic S] [Narrowing D S] in
@[simp] theorem length_stored (l : Lens R D S) (cells : List (Cell D S)) (rs : List R) :
    (stored l cells rs).length = rs.length :=
  length_putPieces l _ rs

variable {layout : Layout R D S L}

theorem column_stored (h : layout.IsLawful) (l : L) (rs : List R)
    {a : NumericArray D S} (hshape : a.shape = rs.length :: (layout.lens l).shape.shape) :
    column (layout.lens l) (stored (layout.lens l) a.cells.cells rs)
      = a.cast (layout.lens l).type := by
  have hlength : a.cells.cells.length = rs.length * cellCount (layout.lens l).shape.shape := by
    have hcells : a.cells.cells.length = cellCount a.shape := a.cells.length_cells
    rw [hcells, hshape, Tensor.cellCount_cons]
  have hpieces := length_of_mem_pieces hlength
  have hcount := length_pieces rs.length (cellCount (layout.lens l).shape.shape) a.cells.cells
  refine congrArg (NumericArray.mk _) (Tensor.ext ?_ ?_)
  · show (stored (layout.lens l) a.cells.cells rs).length :: _ = a.shape
    rw [length_stored, hshape]
  · show (stored (layout.lens l) a.cells.cells rs).flatMap _ = _
    rw [stored, flatMap_get_putPieces (h.holds l) hcount hpieces, flatten_pieces _ _ _ hlength]
    rfl

theorem column_stored_of_ne (h : layout.IsLawful) {l l' : L} (hne : l ≠ l')
    (cells : List (Cell D S)) (rs : List R) :
    column (layout.lens l') (stored (layout.lens l) cells rs) = column (layout.lens l') rs := by
  refine congrArg (NumericArray.mk _) (Tensor.ext ?_ ?_)
  · show (stored (layout.lens l) cells rs).length :: _ = rs.length :: _
    rw [length_stored]
  · exact flatMap_putPieces (h.spares hne) _ rs

end Layout

/-! ## Records that agree in all leaves -/

theorem Vec3.eq_of_map_toList {α β : Type} {c : α → β} (hc : Function.Injective c) {v w : Vec3 α}
    (h : v.toList.map c = w.toList.map c) : v = w := by
  obtain ⟨x, y, z⟩ := v
  obtain ⟨x', y', z'⟩ := w
  simp only [toList, List.map_cons, List.cons.injEq] at h
  obtain ⟨hx, hy, hz, -⟩ := h
  rw [hc hx, hc hy, hc hz]

omit [Arithmetic D] [Arithmetic S] [Narrowing D S] in
theorem Cell.single_injective : Function.Injective (single : S → Cell D S) :=
  fun _ _ h => single.inj h

omit [Arithmetic D] [Arithmetic S] [Narrowing D S] in
theorem Cell.double_injective : Function.Injective (double : D → Cell D S) :=
  fun _ _ h => double.inj h

theorem Particle.eq_of_leaves {p p' : Particle D S}
    (h : ∀ l, (layout.lens l : Lens (Particle D S) D S).get p = (layout.lens l).get p') :
    p = p' := by
  have hwhole : ∀ {n n' : Int}, [(Cell.whole n : Cell D S)] = [.whole n'] → n = n' :=
    fun h => Cell.whole.inj (List.cons.inj h).1
  have hsingle : ∀ {x x' : S}, [(Cell.single x : Cell D S)] = [.single x'] → x = x' :=
    fun h => Cell.single.inj (List.cons.inj h).1
  have hvector : ∀ {v v' : Vec3 S}, (v.toList.map Cell.single : List (Cell D S))
      = v'.toList.map .single → v = v' := Vec3.eq_of_map_toList Cell.single_injective
  have hid : p.id = p'.id := UInt64.toNat_inj.mp (Int.ofNat.inj (hwhole (h .id)))
  have hgpart : p.gpart = p'.gpart := Int64.toInt_inj.mp (hwhole (h .gpart))
  have hx : p.x = p'.x := Vec3.eq_of_map_toList Cell.double_injective (h .x)
  have hv : p.v = p'.v := hvector (h .v)
  have haHydro : p.aHydro = p'.aHydro := hvector (h .aHydro)
  have hh : p.h = p'.h := hsingle (h .h)
  have htimeBin : p.timeBin = p'.timeBin := Int8.toInt_inj.mp (hwhole (h .timeBin))
  have hmass : p.conserved.mass = p'.conserved.mass := hsingle (h .mass)
  have hmomentum : p.conserved.momentum = p'.conserved.momentum := hvector (h .momentum)
  have henergy : p.conserved.energy = p'.conserved.energy := hsingle (h .energy)
  have hrho : p.primitives.rho = p'.primitives.rho := hsingle (h .rho)
  have hprimitiveV : p.primitives.v = p'.primitives.v := hvector (h .primitiveV)
  have hpressure : p.primitives.pressure = p'.primitives.pressure := hsingle (h .pressure)
  obtain ⟨id, gpart, x, v, a, h, bin, ⟨mass, momentum, energy⟩, ⟨rho, w, pressure⟩⟩ := p
  obtain ⟨id', gpart', x', v', a', h', bin', ⟨mass', momentum', energy'⟩,
    ⟨rho', w', pressure'⟩⟩ := p'
  cases hid
  cases hgpart
  cases htimeBin
  cases hx
  cases hv
  cases haHydro
  cases hh
  cases hmass
  cases hmomentum
  cases henergy
  cases hrho
  cases hprimitiveV
  cases hpressure
  rfl

omit [Arithmetic D] in
theorem ExtendedState.eq_of_leaves {s s' : ExtendedState S}
    (h : ∀ l, (layout.lens l : Lens (ExtendedState S) D S).get s = (layout.lens l).get s') :
    s = s' := by
  have hvector : ∀ {v v' : Vec3 S}, (v.toList.map Cell.single : List (Cell D S))
      = v'.toList.map .single → v = v' := Vec3.eq_of_map_toList Cell.single_injective
  have hxDiff : s.xDiff = s'.xDiff := hvector (h .xDiff)
  have hvFull : s.vFull = s'.vFull := hvector (h .vFull)
  obtain ⟨xDiff, vFull⟩ := s
  obtain ⟨xDiff', vFull'⟩ := s'
  cases hxDiff
  cases hvFull
  rfl

omit [Arithmetic D] [Arithmetic S] [Narrowing D S] in
theorem Layout.eq_of_columns {layout : Layout R D S L}
    (heq : ∀ {r r' : R}, (∀ l, (layout.lens l).get r = (layout.lens l).get r') → r = r')
    {rs rs' : List R} (hlength : rs.length = rs'.length)
    (h : ∀ l, column (layout.lens l) rs = column (layout.lens l) rs') : rs = rs' := by
  have hget : ∀ l, rs.map (layout.lens l).get = rs'.map (layout.lens l).get := by
    intro l
    have hcells : rs.flatMap (layout.lens l).get = rs'.flatMap (layout.lens l).get :=
      congrArg (fun a => a.cells.cells) (h l)
    rw [← pieces_flatMap _ (layout.lens l).length_get, hcells, hlength,
      pieces_flatMap _ (layout.lens l).length_get]
  refine List.ext_getElem hlength fun i hi hi' => heq fun l => ?_
  have hi₁ : i < (rs.map (layout.lens l).get).length := by rwa [List.length_map]
  have hrow := List.getElem_of_eq (hget l) hi₁
  rwa [List.getElem_map, List.getElem_map] at hrow

/-! ## Leaves of a gas -/

/-- A leaf of the particles or of their extended states. -/
inductive GasLeaf where
  | part (l : ParticleLeaf)
  | state (l : ExtendedLeaf)
deriving DecidableEq, Repr

namespace GasLeaf

variable (D S) in
def shape : GasLeaf → FieldShape
  | part l => (Particle.layout.lens l : Lens (Particle D S) D S).shape
  | state l => (ExtendedState.layout.lens l : Lens (ExtendedState S) D S).shape

def column (g : Gas D S) : GasLeaf → NumericArray D S
  | part l => Layout.column (Particle.layout.lens l) g.parts
  | state l => Layout.column (ExtendedState.layout.lens l) g.xparts

/-- A gas with cells stored in one leaf of all particles. -/
def store (g : Gas D S) (cells : List (Cell D S)) : GasLeaf → Gas D S
  | part l => { g with parts := Layout.stored (Particle.layout.lens l) cells g.parts }
  | state l =>
    { g with xparts := Layout.stored (ExtendedState.layout.lens l : Lens _ D S) cells g.xparts }

variable {g : Gas D S}

@[simp] theorem length_parts_store (l : GasLeaf) (cells : List (Cell D S)) :
    (l.store g cells).parts.length = g.parts.length := by
  cases l with
  | part l => exact Layout.length_stored _ _ _
  | state l => rfl

theorem isRows_store (hg : g.IsRows) (l : GasLeaf) (cells : List (Cell D S)) :
    (l.store g cells).IsRows := by
  refine ⟨?_, ?_⟩
  · rw [length_parts_store, ← hg.axes]
    cases l <;> rfl
  · rw [length_parts_store, ← hg.states]
    cases l with
    | part l => rfl
    | state l => exact Layout.length_stored _ _ _

theorem column_store (hg : g.IsRows) (l : GasLeaf) {a : NumericArray D S}
    (hshape : a.shape = g.parts.length :: (l.shape D S).shape) :
    l.column (l.store g a.cells.cells) = a.cast (l.column g).type := by
  cases l with
  | part l => exact Layout.column_stored Particle.isLawful l g.parts hshape
  | state l =>
    rw [← hg.states] at hshape
    exact Layout.column_stored ExtendedState.isLawful l g.xparts hshape

theorem column_store_of_ne {l l' : GasLeaf} (hne : l ≠ l') (cells : List (Cell D S)) :
    l'.column (l.store g cells) = l'.column g := by
  cases l with
  | part l =>
    cases l' with
    | part l' =>
      have hleaves : l ≠ l' := fun h => hne (congrArg part h)
      exact Layout.column_stored_of_ne Particle.isLawful hleaves cells g.parts
    | state l' => rfl
  | state l =>
    cases l' with
    | part l' => rfl
    | state l' =>
      have hleaves : l ≠ l' := fun h => hne (congrArg state h)
      exact Layout.column_stored_of_ne ExtendedState.isLawful hleaves cells g.xparts

theorem type_column (l : GasLeaf) (g g' : Gas D S) : (l.column g).type = (l.column g').type := by
  cases l <;> rfl

/-- A gas is made of its leaves: where all leaves of two gases agree, they are the same. -/
theorem eq_of_columns {g' : Gas D S} (hg : g.IsRows) (hg' : g'.IsRows)
    (hlength : g.parts.length = g'.parts.length) (h : ∀ l : GasLeaf, l.column g = l.column g') :
    g = g' := by
  have hparts : g.parts = g'.parts :=
    Layout.eq_of_columns Particle.eq_of_leaves hlength fun l => h (.part l)
  have hstates : g.xparts.length = g'.xparts.length := by
    rw [hg.states, hg'.states, hlength]
  have hxparts : g.xparts = g'.xparts :=
    Layout.eq_of_columns ExtendedState.eq_of_leaves hstates fun l => h (.state l)
  have haxes : g.axes = g'.axes := by
    rw [hg.axes, hg'.axes, hlength]
  obtain ⟨parts, xparts, axes⟩ := g
  obtain ⟨parts', xparts', axes'⟩ := g'
  cases hparts
  cases hxparts
  cases haxes
  rfl

end GasLeaf

end MeshlessGas
