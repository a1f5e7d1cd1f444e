/-
Conversion particle by particle — splitting particles between workers.

For a well-formed context a converter gives all particles at once what it gives each of them,
so that the particles may be cut into pieces in any way, and a single particle may be converted
by itself.  Two facts carry this:

  * the outcome for an array depends on the rows one by one: it fails exactly if some row
    refers to a gravity particle that is not there, and then in one way only;
  * where it does not fail, the numbers of the array are those of the rows one after the other.

The first also says when converters fail at all.  A context without gravity particles, or
with none in its array, never makes them fail; an index beyond the gravity particles does.
-/
import Mathlib.Algebra.GroupWithZero.Nat
import Mathlib.Data.List.Forall2
import MeshlessGas.Proofs.Filling

namespace MeshlessGas

open Conversion (Row)

variable {D S : Type}

/-! ## Rows of arrays -/

namespace Tensor

variable {α β : Type}

def rowCells (t : Tensor α) : List (List α) :=
  match t.shape with
  | [] => []
  | n :: shape => pieces n (cellCount shape) t.cells

theorem rowCells_rows {shape : List Nat} {f : α → List β}
    (h : ∀ a, (f a).length = cellCount shape) (xs : List α) :
    (rows xs shape f h).rowCells = xs.map f :=
  pieces_flatMap f h xs

end Tensor

namespace FieldRows

/-- Arrays of one kind of elements, laid one after the other along their first axis. -/
structure IsConcatenation (whole : FieldRows D S) (shape : List Nat)
    (chunks : List (FieldRows D S)) : Prop where
  kinds : ∀ chunk ∈ chunks, chunk.type = whole.type ∧ chunk.format = whole.format
  shapes : ∃ counts : List Nat, chunks.map FieldRows.shape = counts.map (· :: shape) ∧
    whole.shape = counts.sum :: shape
  items : whole.items.cells = chunks.flatMap fun chunk => chunk.items.cells

/-- What one particle gets is a row of what an array gets. -/
structure IsRow (one whole : FieldRows D S) (i : Nat) : Prop where
  type : one.type = whole.type
  format : one.format = whole.format
  items : whole.items.rowCells[i]? = some one.items.cells

theorem isConcatenation_rows {α : Type} {shape : List Nat} {f : α → List (Cell D S)}
    (h : ∀ a, (f a).length = cellCount shape) (t : ElementType) (pieces : List (List α)) :
    IsConcatenation (plain ⟨t, Tensor.rows pieces.flatten shape f h⟩) shape
      (pieces.map fun piece => plain ⟨t, Tensor.rows piece shape f h⟩) := by
  constructor
  · intro chunk hchunk
    obtain ⟨piece, -, rfl⟩ := List.mem_map.mp hchunk
    exact ⟨rfl, rfl⟩
  · refine ⟨pieces.map List.length, ?_, ?_⟩
    · rw [List.map_map, List.map_map]
      rfl
    · rw [← List.length_flatten]
      rfl
  · simp only [plain, Tensor.cells_map, Tensor.cells_rows, List.flatMap_map]
    induction pieces with
    | nil => rfl
    | cons piece pieces ih =>
      rw [List.flatten_cons, List.flatMap_append, List.map_append, ih, List.flatMap_cons]

end FieldRows

namespace Gas

/-- A gas cut into consecutive chunks; a chunk may be empty. -/
structure SplitsInto (g : Gas D S) (chunks : List (Gas D S)) : Prop where
  whole : g.IsRows
  each : ∀ chunk ∈ chunks, chunk.IsRows
  parts : g.parts = chunks.flatMap Gas.parts
  xparts : g.xparts = chunks.flatMap Gas.xparts

theorem SplitsInto.rows_eq {g : Gas D S} {chunks : List (Gas D S)} (h : g.SplitsInto chunks) :
    g.rows = (chunks.map Gas.rows).flatten := by
  have hzip : ∀ chunks : List (Gas D S), (∀ chunk ∈ chunks, chunk.IsRows) →
      (chunks.flatMap Gas.parts).zip (chunks.flatMap Gas.xparts)
        = (chunks.map Gas.rows).flatten := by
    intro chunks hrows
    induction chunks with
    | nil => rfl
    | cons chunk chunks ih =>
      have hlength := (hrows chunk List.mem_cons_self).states
      have hrest := ih fun c hc => hrows c (List.mem_cons_of_mem chunk hc)
      rw [List.flatMap_cons, List.flatMap_cons, List.zip_append hlength.symm, hrest]
      rfl
  rw [rows, h.parts, h.xparts]
  exact hzip chunks h.each

end Gas

/-! ## Formats -/

namespace FieldFormat

variable [Arithmetic D] [Numeral D] [Arithmetic S] [Numeral S] [Narrowing D S]
  {format : FieldFormat} {t source : ElementType}

theorem exists_give (h : format.isGiven = true) :
    ∃ g : Cell D S → Given D S, ∀ c, format.give t source c = .ok (g c) := by
  induction format with
  | reversed f ih => exact ih h
  | moments isPoint unit => cases h
  | raw length => cases h
  | nothing => cases h
  | plain => exact ⟨_, fun _ => rfl⟩
  | complex => exact ⟨_, fun _ => rfl⟩
  | extended => exact ⟨_, fun _ => rfl⟩
  | extendedComplex => exact ⟨_, fun _ => rfl⟩
  | texts length => exact ⟨_, fun _ => rfl⟩
  | bytes length => exact ⟨_, fun _ => rfl⟩
  | values => exact ⟨_, fun _ => rfl⟩
  | records members => exact ⟨_, fun _ => rfl⟩

omit [Arithmetic D] [Numeral D] [Arithmetic S] [Numeral S] [Narrowing D S] in
theorem isGiven_withLength : (format.withLength source).isGiven = format.isGiven := by
  fun_induction withLength source format with
  | case1 => rfl
  | case2 => rfl
  | case3 f ih => exact ih
  | case4 => rfl

/-- The rows of arrays of one element type: every cell is given out in the same way, whatever
their shape. -/
theorem exists_rows (h : format.isGiven = true) :
    ∃ g : Cell D S → Given D S, ∀ cells : Tensor (Cell D S),
      format.rows t ⟨source, cells⟩ = .ok ⟨t, format.withLength source, cells.map g⟩ := by
  have hgiven : (format.withLength source).isGiven = true := isGiven_withLength.trans h
  obtain ⟨g, hg⟩ : ∃ g : Cell D S → Given D S,
      ∀ c, (format.withLength source).give t source c = .ok (g c) := exists_give hgiven
  refine ⟨g, fun cells => ?_⟩
  have hcells : cells.mapM ((format.withLength source).give t source) = .ok (cells.map g) :=
    Tensor.mapM_of_forall_ok fun c _ => hg c
  simp only [rows, h, not_true_eq_false, if_false, hcells, Result.ok_bind]
  rfl

theorem rows_of_not_isGiven (h : format.isGiven = false) (a : NumericArray D S) :
    format.rows t a = .error .wrongType := by
  simp only [rows, h, Bool.false_eq_true, not_false_eq_true, if_true]
  rfl

end FieldFormat

/-! ## Converters -/

variable [Transcendental D] [Arithmetic S] [Narrowing D S] {context : Context D S}

namespace Conversion

/-- When converters fail: an array of particles is converted unless a converter that looks up
gravity particles meets an index beyond them. -/
theorem convertWith_succeeds_iff {c : Converter} {parts : List (Particle D S)}
    {xparts : List (ExtendedState S)} (hw : context.WellFormed) (hc : c ∈ Converter.all)
    (hlength : parts.length = xparts.length) :
    ((∃ a, convertWith c (some context) (.vector parts) (.vector xparts) = .ok a) ↔
        (usesGravity c = true → ∀ p ∈ parts, context.Couples p)) ∧
      ((∃ e, convertWith c (some context) (.vector parts) (.vector xparts) = .error e) →
        convertWith c (some context) (.vector parts) (.vector xparts)
          = .error .indexOutOfRange) := by
  have hparts : (parts.zip xparts).map Prod.fst = parts :=
    List.map_fst_zip (Nat.le_of_eq hlength)
  have hxparts : (parts.zip xparts).map Prod.snd = xparts :=
    List.map_snd_zip (Nat.le_of_eq hlength.symm)
  have hcouples : (usesGravity c = true → ∀ p ∈ parts, context.Couples p) ↔
      Ready context (parts.zip xparts) c := by
    rw [ready_iff hw hc]
    refine forall_congr' fun _ => ⟨fun h r hr => h r.1 (List.of_mem_zip hr).1, fun h p hp => ?_⟩
    rw [← hparts] at hp
    obtain ⟨r, hr, rfl⟩ := List.mem_map.mp hp
    exact h r hr
  rw [hcouples]
  by_cases hready : Ready context (parts.zip xparts) c
  · have hok := convertWith_rows hready hc
    rw [hparts, hxparts] at hok
    rw [hok]
    refine ⟨⟨fun _ => hready, fun _ => ⟨_, rfl⟩⟩, ?_⟩
    rintro ⟨e, h⟩
    cases h
  · have herror := convertWith_unready (t := .vector (parts.zip xparts)) hw hc hready
    rw [Tensor.map_vector, Tensor.map_vector, hparts, hxparts] at herror
    rw [herror]
    refine ⟨⟨?_, fun h => absurd h hready⟩, fun _ => rfl⟩
    rintro ⟨a, h⟩
    cases h

/-! ### One gravity particle -/

def attractedContext : Context Float Float32 where
  tick := 0
  timeBase := 1.0
  scheme := .standard
  periodic := false
  dim := Context.noExtent
  cosmology := none
  gparts := some [.zero]
  timeBegin := 0.0

theorem wellFormed_attractedContext : attractedContext.WellFormed :=
  ⟨by decide, by decide, nofun⟩

def particleAt (gpart : Int64) : Particle Float Float32 :=
  { (Particle.zero : Particle Float Float32) with gpart }

theorem couples_first : attractedContext.Couples (particleAt 0) := by
  intro gs hgs _
  cases hgs
  decide

theorem not_couples_sixth : ¬ attractedContext.Couples (particleAt 5) := by
  intro h
  have hlt := h [.zero] rfl (List.cons_ne_nil _ _)
  revert hlt
  decide

/-- The velocity of a particle that refers to the only gravity particle there is. -/
theorem convertWith_succeeds_coupled :
    attractedContext.WellFormed ∧ Converter.velocity ∈ Converter.all ∧
      [particleAt 0].length = [(ExtendedState.zero : ExtendedState Float32)].length ∧
      ∃ a, convertWith .velocity (some attractedContext) (.vector [particleAt 0])
        (.vector [ExtendedState.zero]) = .ok a := by
  refine ⟨wellFormed_attractedContext, by decide, rfl, ?_⟩
  refine (convertWith_succeeds_iff wellFormed_attractedContext (by decide) rfl).1.mpr ?_
  intro _ p hp
  rw [List.mem_singleton.mp hp]
  exact couples_first

/-- Converters can fail: a context that is accepted, and the potential at a particle that
refers to a sixth gravity particle of one. -/
theorem convertWith_fails_dangling :
    Context.ofSettings ⟨.int 0, .real 1.0, false, .none, .real 0.0⟩ .standard none
        (some [.zero]) = .ok attractedContext ∧
      0 ≤ attractedContext.tick ∧ attractedContext.tick ≤ Timeline.length ∧
      attractedContext.dim.shape = [3] ∧
      ¬ ∃ a, convertWith .potential (some attractedContext) (.vector [particleAt 5])
        (.vector [ExtendedState.zero]) = .ok a := by
  refine ⟨rfl, by decide, by decide, rfl, ?_⟩
  have herror : convertWith .potential (some attractedContext) (.vector [particleAt 5])
      (.vector [ExtendedState.zero]) = .error .indexOutOfRange :=
    convertWith_uncoupled (t := .vector [(particleAt 5, ExtendedState.zero)])
      wellFormed_attractedContext rfl ⟨_, List.mem_singleton_self _, not_couples_sixth⟩
  rw [herror]
  rintro ⟨a, h⟩
  cases h

end Conversion

/-! ## Fields -/

namespace FieldDescriptor

variable [Numeral D] [Numeral S] {f : FieldDescriptor} {rows : List (Row D S)}

/-! ### Fields of a snapshot -/

omit [Transcendental D] [Arithmetic S] [Narrowing D S] [Numeral D] [Numeral S] in
theorem ready_flatten (hw : context.WellFormed) (hf : f ∈ writeRegistry)
    {pieces : List (List (Row D S))} :
    f.Ready context pieces.flatten ↔ ∀ piece ∈ pieces, f.Ready context piece := by
  constructor
  · intro h piece hpiece c hkind
    have hc := mem_all_of_mem_writeRegistry hf hkind
    have hwhole := (Conversion.ready_iff hw hc).mp (h c hkind)
    refine (Conversion.ready_iff hw hc).mpr fun huses r hr => ?_
    exact hwhole huses r (List.mem_flatten.mpr ⟨piece, hpiece, hr⟩)
  · intro h c hkind
    have hc := mem_all_of_mem_writeRegistry hf hkind
    refine (Conversion.ready_iff hw hc).mpr fun huses r hr => ?_
    obtain ⟨piece, hpiece, hr⟩ := List.mem_flatten.mp hr
    exact (Conversion.ready_iff hw hc).mp (h piece hpiece c hkind) huses r hr

theorem rowsOf_ready (hready : f.Ready context rows) (hf : f ∈ writeRegistry) :
    ∃ h, f.rowsOf (some context) (Gas.ofRows Prod.fst Prod.snd rows)
      = .ok (.plain ⟨f.type, Tensor.rows rows f.shape.shape (f.cellsOf context) h⟩) := by
  obtain ⟨hkeeps, h, hnumbers⟩ := givesRows_of_ready hready hf
  refine ⟨h, ?_⟩
  have hcast : ∀ c ∈ (Tensor.rows rows f.shape.shape (f.cellsOf context) h).cells,
      c.cast f.type = c := by
    intro c hc
    obtain ⟨r, -, hc⟩ := List.mem_flatMap.mp hc
    exact hkeeps r c hc
  rw [rowsOf, Gas.numbersOf_ofRows, hnumbers, Result.ok_bind, (isPlain_writeRegistry hf).format,
    rows_plain]
  refine congrArg (fun t => Except.ok (FieldRows.mk f.type .plain t)) (Tensor.ext rfl ?_)
  exact List.map_congr_left fun c hc => by rw [hcast c hc]

theorem rowsOf_unready {c : Converter} (hw : context.WellFormed) (hkind : f.kind = .converted c)
    (hc : c ∈ Converter.all) (hnot : ¬ Conversion.Ready context rows c) :
    f.rowsOf (some context) (Gas.ofRows Prod.fst Prod.snd rows) = .error .indexOutOfRange := by
  have herror := Conversion.convertWith_unready (t := .vector rows) hw hc hnot
  rw [Tensor.map_vector, Tensor.map_vector] at herror
  simp only [rowsOf, Gas.numbersOf_ofRows, numbers, hkind, herror]
  rfl

theorem rowsOf_eq_error_iff (hw : context.WellFormed) (hf : f ∈ writeRegistry) :
    f.rowsOf (some context) (Gas.ofRows Prod.fst Prod.snd rows) = .error .indexOutOfRange ↔
      ¬ f.Ready context rows := by
  constructor
  · intro h hready
    obtain ⟨_, hok⟩ := rowsOf_ready hready hf
    rw [hok] at h
    cases h
  · intro hnot
    simp only [Ready, Classical.not_forall] at hnot
    obtain ⟨c, hkind, hnot⟩ := hnot
    exact rowsOf_unready hw hkind (mem_all_of_mem_writeRegistry hf hkind) hnot

/-- Splitting a gas: a field fails on the whole exactly if it fails on some chunk, and
otherwise gives what it gives the chunks, one after the other. -/
theorem rowsOf_splitsInto (hw : context.WellFormed) (hf : f ∈ writeRegistry) {g : Gas D S}
    {chunks : List (Gas D S)} (hsplit : g.SplitsInto chunks) :
    (f.rowsOf (some context) g = .error .indexOutOfRange ↔
        ∃ chunk ∈ chunks, f.rowsOf (some context) chunk = .error .indexOutOfRange) ∧
      ((¬ ∃ chunk ∈ chunks, f.rowsOf (some context) chunk = .error .indexOutOfRange) →
        ∃ whole pieces, f.rowsOf (some context) g = .ok whole ∧
          List.Forall₂ (fun chunk piece => f.rowsOf (some context) chunk = .ok piece)
            chunks pieces ∧
          whole.IsConcatenation f.shape.shape pieces) := by
  have hready : f.Ready context g.rows ↔
      ∀ piece ∈ chunks.map Gas.rows, f.Ready context piece := by
    rw [hsplit.rows_eq]
    exact ready_flatten hw hf
  have hwhole : f.rowsOf (some context) g = .error .indexOutOfRange ↔
      ¬ f.Ready context g.rows := by
    rw [← rowsOf_eq_error_iff hw hf, hsplit.whole.ofRows_rows]
  have hchunk : ∀ chunk ∈ chunks, (f.rowsOf (some context) chunk = .error .indexOutOfRange ↔
      ¬ f.Ready context chunk.rows) := by
    intro chunk hchunk
    rw [← rowsOf_eq_error_iff hw hf, (hsplit.each chunk hchunk).ofRows_rows]
  have hsome : (∃ chunk ∈ chunks, f.rowsOf (some context) chunk = .error .indexOutOfRange) ↔
      ¬ f.Ready context g.rows := by
    rw [hready]
    simp only [List.mem_map, forall_exists_index, and_imp, forall_apply_eq_imp_iff₂,
      Classical.not_forall]
    constructor
    · rintro ⟨chunk, hmem, herror⟩
      exact ⟨chunk, hmem, (hchunk chunk hmem).mp herror⟩
    · rintro ⟨chunk, hmem, hnot⟩
      exact ⟨chunk, hmem, (hchunk chunk hmem).mpr hnot⟩
  refine ⟨hwhole.trans hsome.symm, fun hnone => ?_⟩
  rw [hsome, Classical.not_not] at hnone
  obtain ⟨h, hok⟩ := rowsOf_ready hnone hf
  rw [hsplit.whole.ofRows_rows] at hok
  refine ⟨_, chunks.map fun chunk =>
    .plain ⟨f.type, Tensor.rows chunk.rows f.shape.shape (f.cellsOf context) h⟩, hok, ?_, ?_⟩
  · refine List.forall₂_map_right_iff.mpr (List.forall₂_same.mpr fun chunk hmem => ?_)
    have hpiece := hready.mp hnone chunk.rows (List.mem_map_of_mem hmem)
    obtain ⟨_, hok⟩ := rowsOf_ready hpiece hf
    rwa [(hsplit.each chunk hmem).ofRows_rows] at hok
  · have hconcat := FieldRows.isConcatenation_rows h f.type (chunks.map Gas.rows)
    rw [← hsplit.rows_eq, List.map_map] at hconcat
    exact hconcat

/-! ### Single particles -/

section Single

variable {c : Converter} {r : Row D S}

omit [Transcendental D] [Arithmetic S] [Narrowing D S] [Numeral D] [Numeral S] in
theorem hasLength_of_whole (hinteger : f.spelling = .whole) : f.hasLength = true := by
  simp [hasLength, hinteger]

omit [Transcendental D] [Arithmetic S] [Narrowing D S] [Numeral D] [Numeral S] in
theorem cellCount_ne (hshape : Conversion.resultShape c ≠ f.shape) :
    cellCount (Conversion.resultShape c).shape ≠ cellCount f.shape.shape := by
  intro h
  apply hshape
  revert h
  cases Conversion.resultShape c <;> cases f.shape <;> decide

omit [Transcendental D] [Arithmetic S] [Narrowing D S] [Numeral D] [Numeral S] in
theorem cellCount_dimension (s : FieldShape) : cellCount [s.dimension] = cellCount s.shape := by
  cases s <;> rfl

omit [Numeral D] [Numeral S] in
theorem numbers_misfit (hready : Conversion.Ready context rows c) (hlength : f.hasLength = true)
    (hkind : f.kind = .converted c) (hc : c ∈ Converter.all)
    (hshape : Conversion.resultShape c ≠ f.shape) (hne : rows ≠ []) :
    f.numbers (some context) (rows.map Prod.fst) (rows.map Prod.snd) = .error .badValue := by
  have hpos : 0 < rows.length := List.length_pos_iff.mpr hne
  have hcount : (Tensor.rows rows (Conversion.resultShape c).shape (Conversion.cellsOf c context)
      (Conversion.length_cellsOf hc context)).cells.length
        ≠ cellCount (f.rowShape (rows.map Prod.fst).length) := by
    rw [Tensor.length_cells, Tensor.shape_rows, rowShape, Tensor.cellCount_cons,
      Tensor.cellCount_cons, List.length_map]
    intro h
    exact cellCount_ne hshape (Nat.eq_of_mul_eq_mul_left hpos h)
  simp only [numbers, hkind, Conversion.convertWith_rows hready hc, Result.ok_bind]
  exact reshaped_of_length_ne hlength hcount

omit [Numeral D] [Numeral S] in
theorem numbersOne_eq (hready : Conversion.Ready context [r] c) (hinteger : f.spelling = .whole)
    (hkind : f.kind = .converted c) (hc : c ∈ Converter.all) :
    ∃ a : NumericArray D S, a.type = Conversion.resultType c ∧
      a.cells.cells = Conversion.cellsOf c context r ∧
      f.numbersOne (some context) (.scalar r.1) (.scalar r.2)
        = f.reshaped [f.shape.dimension] a := by
  have hconvert : Conversion.convertWith c (some context) (.scalar r.1) (.scalar r.2) = _ :=
    Conversion.convertWith_map (t := .scalar r) hready hc
  refine ⟨⟨Conversion.resultType c, ((Tensor.scalar r).spreadOut
    (Conversion.resultShape c).shape (Conversion.cellsOf c context)
    (Conversion.length_cellsOf hc context)).atLeastRow⟩, rfl, ?_, ?_⟩
  · rw [Tensor.cells_atLeastRow]
    exact List.append_nil _
  · simp only [numbersOne, hkind, hconvert, Result.ok_bind, hinteger, ne_eq, not_true_eq_false,
      if_false]

/-- A particle that is refused: by itself, in an array of its own for the same reason, and in
every other array. -/
def Refuses (f : FieldDescriptor) (context : Context D S) (r : Row D S) : Prop :=
  ∃ e, f.rowsOne (some context) (.scalar r.1) (.scalar r.2) = .error e ∧
    f.rowsOf (some context) (Gas.ofRows Prod.fst Prod.snd [r]) = .error e ∧
    ∀ rows : List (Row D S), r ∈ rows → ∀ whole,
      f.rowsOf (some context) (Gas.ofRows Prod.fst Prod.snd rows) ≠ .ok whole

/-- A particle that is converted: by itself, in an array of its own, and to the same numbers
in every array that can be converted. -/
def Accepts (f : FieldDescriptor) (context : Context D S) (r : Row D S) : Prop :=
  ∃ one, f.rowsOne (some context) (.scalar r.1) (.scalar r.2) = .ok one ∧
    (∃ alone, f.rowsOf (some context) (Gas.ofRows Prod.fst Prod.snd [r]) = .ok alone) ∧
    one.shape = [f.shape.dimension] ∧
    ∀ (rows : List (Row D S)) (i : Nat), rows[i]? = some r → ∀ whole,
      f.rowsOf (some context) (Gas.ofRows Prod.fst Prod.snd rows) = .ok whole → one.IsRow whole i

theorem refuses_of_other {name : String} (hkind : f.kind = .converted (.other name)) :
    f.Refuses context r := by
  have hrows : ∀ rows : List (Row D S),
      f.rowsOf (some context) (Gas.ofRows Prod.fst Prod.snd rows) = .error .wrongType := by
    intro rows
    simp only [rowsOf, Gas.numbersOf_ofRows, numbers, hkind, Conversion.convertWith]
    rfl
  refine ⟨.wrongType, ?_, hrows [r], fun rows _ whole => ?_⟩
  · simp only [rowsOne, numbersOne, hkind, Conversion.convertWith]
    rfl
  · rw [hrows rows]
    exact Result.error_ne_ok

theorem refuses_of_unready (hw : context.WellFormed) (hkind : f.kind = .converted c)
    (hc : c ∈ Converter.all) (hnot : ¬ Conversion.Ready context [r] c) :
    f.Refuses context r := by
  refine ⟨.indexOutOfRange, ?_, rowsOf_unready hw hkind hc hnot, fun rows hr whole => ?_⟩
  · have herror : Conversion.convertWith c (some context) (.scalar r.1) (.scalar r.2)
        = .error .indexOutOfRange :=
      Conversion.convertWith_unready (t := .scalar r) hw hc hnot
    simp only [rowsOne, numbersOne, hkind, herror]
    rfl
  · have hrows : ¬ Conversion.Ready context rows c := by
      rw [Conversion.ready_iff hw hc] at hnot ⊢
      exact fun h => hnot fun huses r' hr' => h huses r' (List.mem_singleton.mp hr' ▸ hr)
    rw [rowsOf_unready hw hkind hc hrows]
    exact Result.error_ne_ok

/-- A number of elements that is no integer is no shape of a particle by itself. -/
theorem rowsOne_of_ne_whole (hkind : f.kind = .converted c) (hc : c ∈ Converter.all)
    (hready : Conversion.Ready context [r] c) (hspelling : f.spelling ≠ .whole) :
    f.rowsOne (some context) (.scalar r.1) (.scalar r.2) = .error .wrongType := by
  have hconvert : Conversion.convertWith c (some context) (.scalar r.1) (.scalar r.2) = _ :=
    Conversion.convertWith_map (t := .scalar r) hready hc
  simp only [rowsOne, numbersOne, hkind, hconvert, Result.ok_bind, hspelling, ne_eq,
    not_false_eq_true, if_true]
  rfl

theorem refuses_of_not_hasLength (hw : context.WellFormed) (hkind : f.kind = .converted c)
    (hc : c ∈ Converter.all) (hready : Conversion.Ready context [r] c)
    (hlength : f.hasLength = false) : f.Refuses context r := by
  have hspelling : f.spelling ≠ .whole := by
    intro hwhole
    rw [hasLength_of_whole hwhole] at hlength
    cases hlength
  have hrows : ∀ rows : List (Row D S), Conversion.Ready context rows c →
      f.rowsOf (some context) (Gas.ofRows Prod.fst Prod.snd rows) = .error .wrongType := by
    intro rows hrows
    simp only [rowsOf, Gas.numbersOf_ofRows, numbers, hkind, Conversion.convertWith_rows hrows hc,
      Result.ok_bind, reshaped, hlength, Bool.false_eq_true, if_false]
    rfl
  refine ⟨.wrongType, rowsOne_of_ne_whole hkind hc hready hspelling, hrows [r] hready,
    fun rows _ whole => ?_⟩
  by_cases hready : Conversion.Ready context rows c
  · rw [hrows rows hready]
    exact Result.error_ne_ok
  · rw [rowsOf_unready hw hkind hc hready]
    exact Result.error_ne_ok

theorem refuses_of_misfit (hw : context.WellFormed) (hkind : f.kind = .converted c)
    (hc : c ∈ Converter.all) (hinteger : f.spelling = .whole)
    (hready : Conversion.Ready context [r] c) (hshape : Conversion.resultShape c ≠ f.shape) :
    f.Refuses context r := by
  have hlength := hasLength_of_whole hinteger
  have hmisfit : ∀ rows : List (Row D S), rows ≠ [] → Conversion.Ready context rows c →
      f.rowsOf (some context) (Gas.ofRows Prod.fst Prod.snd rows) = .error .badValue := by
    intro rows hne hrows
    rw [rowsOf, Gas.numbersOf_ofRows, numbers_misfit hrows hlength hkind hc hshape hne]
    rfl
  refine ⟨.badValue, ?_, hmisfit [r] (List.cons_ne_nil r []) hready, fun rows hr whole => ?_⟩
  · obtain ⟨a, -, hacells, hone⟩ := numbersOne_eq hready hinteger hkind hc
    have hcount : a.cells.cells.length ≠ cellCount [f.shape.dimension] := by
      rw [hacells, Conversion.length_cellsOf hc, cellCount_dimension]
      exact cellCount_ne hshape
    rw [rowsOne, hone, reshaped_of_length_ne hlength hcount]
    rfl
  · by_cases hrows : Conversion.Ready context rows c
    · rw [hmisfit rows (List.ne_nil_of_mem hr) hrows]
      exact Result.error_ne_ok
    · rw [rowsOf_unready hw hkind hc hrows]
      exact Result.error_ne_ok

omit [Numeral D] [Numeral S] in
theorem numbersOne_converted (hready : Conversion.Ready context [r] c)
    (hinteger : f.spelling = .whole) (hkind : f.kind = .converted c) (hc : c ∈ Converter.all)
    (hshape : Conversion.resultShape c = f.shape) :
    ∃ h, f.numbersOne (some context) (.scalar r.1) (.scalar r.2)
      = .ok ⟨Conversion.resultType c,
          ⟨[f.shape.dimension], Conversion.cellsOf c context r, h⟩⟩ := by
  obtain ⟨⟨type, cells⟩, hatype, hacells, hone⟩ := numbersOne_eq hready hinteger hkind hc
  have hcount : cells.cells.length = cellCount [f.shape.dimension] := by
    rw [hacells, Conversion.length_cellsOf hc, cellCount_dimension, hshape]
  refine ⟨hacells ▸ hcount, ?_⟩
  rw [hone, reshaped_of_length (hasLength_of_whole hinteger) hcount]
  cases hatype
  exact congrArg (fun t => Except.ok (NumericArray.mk _ t)) (Tensor.ext rfl hacells)

theorem refuses_of_not_isGiven (hkind : f.kind = .converted c) (hc : c ∈ Converter.all)
    (hinteger : f.spelling = .whole) (hready : Conversion.Ready context [r] c)
    (hshape : Conversion.resultShape c = f.shape) (hgiven : f.format.isGiven = false) :
    f.Refuses context r := by
  have hnone : ∀ a : NumericArray D S, f.format.rows f.type a = .error .wrongType :=
    FieldFormat.rows_of_not_isGiven hgiven
  obtain ⟨_, hone⟩ := numbersOne_converted hready hinteger hkind hc hshape
  obtain ⟨_, halone⟩ :=
    numbers_converted hready (hasLength_of_whole hinteger) hkind hc hshape
  refine ⟨.wrongType, ?_, ?_, fun rows _ whole hok => ?_⟩
  · rw [rowsOne, hone]
    exact hnone _
  · rw [rowsOf, Gas.numbersOf_ofRows, halone]
    exact hnone _
  · obtain ⟨a, -, hrows⟩ := Result.bind_eq_ok.mp hok
    rw [hnone] at hrows
    cases hrows

theorem accepts_of_isGiven (hw : context.WellFormed) (hkind : f.kind = .converted c)
    (hc : c ∈ Converter.all) (hinteger : f.spelling = .whole)
    (hready : Conversion.Ready context [r] c) (hshape : Conversion.resultShape c = f.shape)
    (hgiven : f.format.isGiven = true) : f.Accepts context r := by
  obtain ⟨g, hg⟩ : ∃ g : Cell D S → Given D S, ∀ cells : Tensor (Cell D S),
      f.format.rows f.type ⟨Conversion.resultType c, cells⟩
        = .ok ⟨f.type, f.format.withLength (Conversion.resultType c), cells.map g⟩ :=
    FieldFormat.exists_rows hgiven
  obtain ⟨hcount, hone⟩ := numbersOne_converted hready hinteger hkind hc hshape
  have hfirst : f.rowsOne (some context) (.scalar r.1) (.scalar r.2)
      = .ok ⟨f.type, f.format.withLength (Conversion.resultType c),
          (Tensor.mk [f.shape.dimension] (Conversion.cellsOf c context r) hcount).map g⟩ := by
    rw [rowsOne, hone]
    exact hg _
  have hrows : ∀ rows : List (Row D S), Conversion.Ready context rows c →
      ∃ h, f.rowsOf (some context) (Gas.ofRows Prod.fst Prod.snd rows)
        = .ok ⟨f.type, f.format.withLength (Conversion.resultType c),
            (Tensor.rows rows f.shape.shape (Conversion.cellsOf c context) h).map g⟩ := by
    intro rows hready
    obtain ⟨h, hnumbers⟩ :=
      numbers_converted hready (hasLength_of_whole hinteger) hkind hc hshape
    refine ⟨h, ?_⟩
    rw [rowsOf, Gas.numbersOf_ofRows, hnumbers]
    exact hg _
  obtain ⟨_, halone⟩ := hrows [r] hready
  refine ⟨_, hfirst, ⟨_, halone⟩, rfl, fun rows i hi whole hok => ?_⟩
  -- An array that is converted lacks nothing, so that it is made of the cells of its rows.
  have hready : Conversion.Ready context rows c := by
    by_contra hnot
    rw [rowsOf_unready hw hkind hc hnot] at hok
    cases hok
  obtain ⟨h, hwhole⟩ := hrows rows hready
  rw [hwhole] at hok
  cases hok
  refine ⟨rfl, rfl, ?_⟩
  rw [Tensor.map_rows, Tensor.rowCells_rows, List.getElem?_map, hi]
  rfl

/-- A particle is refused or accepted, if the number of elements is an integer or no length. -/
theorem refuses_or_accepts (hw : context.WellFormed) (hkind : f.kind = .converted c)
    (hspelling : f.spelling = .whole ∨ f.hasLength = false) (r : Row D S) :
    f.Refuses context r ∨ f.Accepts context r := by
  by_cases hc : c ∈ Converter.all
  case neg =>
    cases c with
    | other name => exact .inl (refuses_of_other hkind)
    | _ => exact absurd (by decide) hc
  case pos =>
    by_cases hready : Conversion.Ready context [r] c
    case neg => exact .inl (refuses_of_unready hw hkind hc hready)
    case pos =>
      rcases hspelling with hinteger | hlength
      · by_cases hshape : Conversion.resultShape c = f.shape
        case neg => exact .inl (refuses_of_misfit hw hkind hc hinteger hready hshape)
        case pos =>
          cases hgiven : f.format.isGiven with
          | false => exact .inl (refuses_of_not_isGiven hkind hc hinteger hready hshape hgiven)
          | true => exact .inr (accepts_of_isGiven hw hkind hc hinteger hready hshape hgiven)
      · exact .inl (refuses_of_not_hasLength hw hkind hc hready hlength)

theorem exists_rowsOne_eq_error (hkind : f.kind = .converted c) (hspelling : f.spelling ≠ .whole)
    (p : Particle D S) (xp : ExtendedState S) :
    ∃ e, f.rowsOne (some context) (.scalar p) (.scalar xp) = .error e := by
  cases hconvert : Conversion.convertWith c (some context) (.scalar p) (.scalar xp) with
  | error e =>
    refine ⟨e, ?_⟩
    simp only [rowsOne, numbersOne, hkind, hconvert]
    rfl
  | ok values =>
    refine ⟨.wrongType, ?_⟩
    simp only [rowsOne, numbersOne, hkind, hconvert, Result.ok_bind, hspelling, ne_eq,
      not_false_eq_true, if_true]
    rfl

/-- A field whose number of elements is spelled as an integer. -/
def spelledWhole (f : FieldDescriptor) : FieldDescriptor := { f with spelling := .whole }

theorem rowsOf_spelledWhole (hkind : f.kind = .converted c) (hlength : f.hasLength = true)
    (g : Gas D S) : f.spelledWhole.rowsOf (some context) g = f.rowsOf (some context) g := by
  have hsame : f.spelledWhole.kind = .converted c := hkind
  have hreshaped : ∀ (shape : List Nat) (a : NumericArray D S),
      f.spelledWhole.reshaped shape a = f.reshaped shape a := by
    intro shape a
    rw [reshaped, reshaped, hasLength_of_whole rfl, hlength]
  simp only [rowsOf, numbersOf, numbers, numbersWithin, hkind, hsame, hreshaped]
  rfl

end Single

/-! ### The whole and its pieces -/

theorem rowsOf_single (p : Particle D S) (xp : ExtendedState S) (f : FieldDescriptor) :
    f.rowsOf (some context) { parts := [p], xparts := [xp] }
      = f.rowsOf (some context) (Gas.ofRows Prod.fst Prod.snd [(p, xp)]) := rfl

/-- Conversion is pointwise.  The particles of a gas may be cut into chunks: a field of a
snapshot fails on the whole exactly if it fails on some chunk, and otherwise gives what it
gives the chunks, one after the other.  And for a field with a converter a particle may be
converted by itself: that fails exactly as an array of this particle does, and otherwise gives
the row of the particle in every array that can be converted.  Only a length that is not spelled
as an integer is accepted for arrays, as if it were, and never for a particle by itself. -/
theorem rowsOf_pointwise (hw : context.WellFormed) :
    (∀ f ∈ writeRegistry, ∀ (g : Gas D S) (chunks : List (Gas D S)), g.SplitsInto chunks →
      (f.rowsOf (some context) g = .error .indexOutOfRange ↔
          ∃ chunk ∈ chunks, f.rowsOf (some context) chunk = .error .indexOutOfRange) ∧
        ((¬ ∃ chunk ∈ chunks, f.rowsOf (some context) chunk = .error .indexOutOfRange) →
          ∃ whole pieces, f.rowsOf (some context) g = .ok whole ∧
            List.Forall₂ (fun chunk piece => f.rowsOf (some context) chunk = .ok piece)
              chunks pieces ∧
            whole.IsConcatenation f.shape.shape pieces)) ∧
    ∀ (f : FieldDescriptor) (c : Converter), f.kind = .converted c →
      (f.spelling = .whole ∨ f.hasLength = false → ∀ (p : Particle D S) (xp : ExtendedState S),
        (∀ e, f.rowsOne (some context) (.scalar p) (.scalar xp) = .error e ↔
            f.rowsOf (some context) { parts := [p], xparts := [xp] } = .error e) ∧
          ∀ g : Gas D S, g.IsRows → ∀ i : Nat, g.parts[i]? = some p → g.xparts[i]? = some xp →
            ∀ whole, f.rowsOf (some context) g = .ok whole →
              ∃ one, f.rowsOne (some context) (.scalar p) (.scalar xp) = .ok one ∧
                one.shape = [f.shape.dimension] ∧ one.IsRow whole i) ∧
      (f.spelling ≠ .whole → f.hasLength = true →
        (∀ (p : Particle D S) (xp : ExtendedState S),
          ∃ e, f.rowsOne (some context) (.scalar p) (.scalar xp) = .error e) ∧
        ∀ g : Gas D S, f.spelledWhole.rowsOf (some context) g = f.rowsOf (some context) g) := by
  refine ⟨fun f hf g chunks hsplit => rowsOf_splitsInto hw hf hsplit, ?_⟩
  intro f c hkind
  refine ⟨fun hwhole p xp => ?_, fun hspelling hlength =>
    ⟨exists_rowsOne_eq_error hkind hspelling, rowsOf_spelledWhole hkind hlength⟩⟩
  simp only [rowsOf_single]
  have hrow : ∀ (g : Gas D S) (i : Nat), g.parts[i]? = some p → g.xparts[i]? = some xp →
      g.rows[i]? = some (p, xp) := by
    intro g i hp hxp
    rw [Gas.rows, List.getElem?_zip_eq_some]
    exact ⟨hp, hxp⟩
  rcases refuses_or_accepts hw hkind hwhole (p, xp) with
    ⟨e, hone, halone, hnever⟩ | ⟨one, hone, ⟨alone, halone⟩, hshape, hin⟩
  · have hone : f.rowsOne (some context) (.scalar p) (.scalar xp) = .error e := hone
    constructor
    · intro e'
      rw [hone, halone]
    · intro g hg i hp hxp whole hok
      rw [← hg.ofRows_rows] at hok
      exact absurd hok (hnever g.rows (List.mem_of_getElem? (hrow g i hp hxp)) whole)
  · have hone : f.rowsOne (some context) (.scalar p) (.scalar xp) = .ok one := hone
    constructor
    · intro e'
      rw [hone, halone]
      exact iff_of_false Result.error_ne_ok.symm Result.error_ne_ok.symm
    · intro g hg i hp hxp whole hok
      rw [← hg.ofRows_rows] at hok
      exact ⟨one, hone, hshape, hin g.rows i (hrow g i hp hxp) whole hok⟩

/-- The potentials of two particles, of which the second refers to a sixth gravity particle of
one, cut before the second. -/
theorem rowsOf_pointwise_dangling :
    let context := Conversion.attractedContext
    let potential := writeRegistry.getLast (by decide)
    let first : Gas Float Float32 := ⟨[Conversion.particleAt 0], [.zero], [1]⟩
    let second : Gas Float Float32 := ⟨[Conversion.particleAt 5], [.zero], [1]⟩
    let whole : Gas Float Float32 :=
      ⟨first.parts ++ second.parts, first.xparts ++ second.xparts, [2]⟩
    context.WellFormed ∧ potential ∈ writeRegistry ∧ whole.SplitsInto [first, second] ∧
      potential.rowsOf (some context) whole = .error .indexOutOfRange ∧
      potential.rowsOne (some context) (.scalar (Conversion.particleAt 5)) (.scalar .zero)
        = .error .indexOutOfRange := by
  intro context potential first second whole
  have hw : context.WellFormed := Conversion.wellFormed_attractedContext
  have hmem : potential ∈ writeRegistry := List.getLast_mem _
  have hsplit : whole.SplitsInto [first, second] := by
    refine ⟨⟨rfl, rfl⟩, fun chunk hchunk => ?_, rfl, rfl⟩
    simp only [List.mem_cons, List.not_mem_nil, or_false] at hchunk
    rcases hchunk with rfl | rfl <;> exact ⟨rfl, rfl⟩
  have hlost : ¬ Conversion.Ready context [(Conversion.particleAt 5, ExtendedState.zero)]
      .potential := by
    intro hready
    have hcouples : ∀ r ∈ [(Conversion.particleAt 5, ExtendedState.zero)],
        context.Couples r.1 := hready
    exact Conversion.not_couples_sixth (hcouples (Conversion.particleAt 5, .zero)
      (List.mem_singleton_self _))
  have hsecond : potential.rowsOf (some context) second = .error .indexOutOfRange :=
    rowsOf_unready hw rfl (by decide) hlost
  refine ⟨hw, hmem, hsplit, ?_, ?_⟩
  · exact ((rowsOf_pointwise hw).1 potential hmem whole _ hsplit).1.mpr
      ⟨second, List.mem_cons_of_mem _ (List.mem_singleton_self _), hsecond⟩
  · exact ((((rowsOf_pointwise hw).2 potential .potential rfl).1 (.inl rfl)
      (Conversion.particleAt 5) .zero).1 _).mpr hsecond

def truthOptions : Options Float :=
  [("name", .text "Energies"), ("dtype", .text "f4"), ("dimension", .bool true),
    ("units", .text "energy_per_unit_mass"), ("converter", .text "convert_u")]

def truthField : FieldDescriptor where
  name := "Energies"
  type := .float32
  shape := .scalar
  spelling := .truth
  units := .energyPerUnitMass
  kind := .converted .internalEnergy

/-- The field can be made and its array of one particle is converted, but not the particle by
itself. -/
theorem truth_refused_alone :
    let context := Conversion.attractedContext
    let particle := Conversion.particleAt 0
    ofOptions .converted truthOptions = .ok truthField ∧ context.WellFormed ∧
      (∃ rows, truthField.rowsOf (some context) { parts := [particle], xparts := [.zero] }
        = .ok rows) ∧
      truthField.rowsOne (some context) (.scalar particle) (.scalar .zero) = .error .wrongType := by
  intro context particle
  have hready : Conversion.Ready context [(particle, .zero)] .internalEnergy := trivial
  have hrows : ∃ rows, truthField.rowsOf (some context) { parts := [particle], xparts := [.zero] }
      = .ok rows := by
    obtain ⟨_, hnumbers⟩ := numbers_converted (f := truthField) hready rfl rfl (by decide) rfl
    obtain ⟨g, hg⟩ : ∃ g : Cell Float Float32 → Given Float Float32, ∀ cells,
        truthField.format.rows truthField.type ⟨Conversion.resultType .internalEnergy, cells⟩
          = .ok ⟨_, _, cells.map g⟩ := FieldFormat.exists_rows rfl
    rw [rowsOf_single, rowsOf, Gas.numbersOf_ofRows, hnumbers, Result.ok_bind]
    exact ⟨_, hg _⟩
  exact ⟨rfl, Conversion.wellFormed_attractedContext, hrows,
    rowsOne_of_ne_whole rfl (by decide) hready (by decide)⟩

end FieldDescriptor

end MeshlessGas
