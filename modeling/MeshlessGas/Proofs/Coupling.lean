/-
Coupling — gas particles and gravity particles that refer to each other.

A gas particle refers to its gravity particle by an index, and the gravity particle back to it
by the negated index.  Coupling sets both in the order of the arrays, or refuses and leaves both
as they were.  It is described by what is found at each index afterwards, and what it sets does
not depend on what it replaces, so that coupling again changes nothing.  Looking through the
gravity particles follows an index of the first kind: piece by piece it gives the leaf of the
particle there, and zeros where the index is negative or there are no gravity particles.
-/
import MeshlessGas.Particle.GravityArray
import MeshlessGas.Proofs.Conversions
import MeshlessGas.Proofs.Leaves

namespace MeshlessGas

/-! ## Arrays of rows -/

namespace RecordArray

variable {R : Type} {a : RecordArray R}

theorem rowCount_of_isRow (h : a.isRow = true) : a.rowCount = .ok a.records.length := by
  have haxes : a.axes = [a.records.length] := of_decide_eq_true h
  rw [rowCount, haxes]
  rfl

end RecordArray

theorem Gas.rowCount_of_isRow {D S : Type} {g : Gas D S} (h : g.isRow = true) :
    g.rowCount = .ok g.parts.length := by
  have haxes : g.axes = [g.parts.length] := of_decide_eq_true h
  rw [rowCount, haxes]
  rfl

/-! ## Zeros -/

theorem Vec3.eq_of_mem_replicate {α : Type} {x y : α} (h : y ∈ (replicate x).toList) : y = x :=
  List.eq_of_mem_replicate (n := 3) h

def Cell.IsZero {D S : Type} [Arithmetic D] [Arithmetic S] [Narrowing D S] (t : ElementType)
    (c : Cell D S) : Prop :=
  c = cast t (.whole 0) ∨ c = cast t (.double 0.0) ∨ c = cast t (.single 0.0)

/-! ## Couples -/

def GravityParticle.coupledTo {D S : Type} (r : GravityParticle D S) (i : ℕ) (p : Particle D S) :
    GravityParticle D S :=
  { r with idOrNegOffset := -Int64.ofNat i, x := p.x, mass := p.conserved.mass }

def Particle.coupledTo {D S : Type} (p : Particle D S) (i : ℕ) : Particle D S :=
  { p with gpart := Int64.ofNat i }

namespace Gravity

variable {D S : Type}

/-! ## Indices -/

theorem toInt_index {i : ℕ} (h : i < Layout.maxBytes) : (Int64.ofNat i).toInt = i :=
  Int64.toInt_ofNat_of_lt (Nat.lt_trans h (by decide))

theorem toInt_neg_index {i : ℕ} (h : i < Layout.maxBytes) : (-Int64.ofNat i).toInt = -i :=
  Int64.toInt_neg_ofNat_of_le (Nat.le_trans (Nat.le_of_lt h) (by decide))

/-! ## Lists of couples -/

section Lists

variable (ps : List (Particle D S)) (gs : List (GravityParticle D S)) (start : ℕ)

theorem length_coupleParticles : (coupleParticles start ps).length = ps.length := by
  induction ps generalizing start with
  | nil => rfl
  | cons p ps ih => exact congrArg (· + 1) (ih (start + 1))

theorem length_coupleGravity : (coupleGravity start ps gs).length = gs.length := by
  induction gs generalizing start ps with
  | nil => cases ps <;> rfl
  | cons r gs ih =>
    cases ps with
    | nil => rfl
    | cons p ps => exact congrArg (· + 1) (ih ps (start + 1))

theorem getElem?_coupleParticles (i : ℕ) :
    (coupleParticles start ps)[i]? = ps[i]?.map (·.coupledTo (start + i)) := by
  induction ps generalizing start i with
  | nil => rfl
  | cons p ps ih =>
    cases i with
    | zero => rfl
    | succ i =>
      rw [coupleParticles, List.getElem?_cons_succ, List.getElem?_cons_succ, ih, Nat.add_assoc,
        Nat.add_comm 1 i]

theorem getElem?_coupleGravity (i : ℕ) :
    (coupleGravity start ps gs)[i]?
      = gs[i]?.map fun r => (ps[i]?.map (r.coupledTo (start + i))).getD r := by
  induction gs generalizing start ps i with
  | nil => cases ps <;> rfl
  | cons r gs ih =>
    cases ps with
    | nil => simp [coupleGravity]
    | cons p ps =>
      cases i with
      | zero => rfl
      | succ i =>
        simp only [coupleGravity, List.getElem?_cons_succ, ih, Nat.add_assoc, Nat.add_comm 1 i]

theorem coupleParticles_twice :
    coupleParticles start (coupleParticles start ps) = coupleParticles start ps := by
  induction ps generalizing start with
  | nil => rfl
  | cons p ps ih => exact congrArg (List.cons _) (ih (start + 1))

theorem coupleGravity_twice :
    coupleGravity start (coupleParticles start ps) (coupleGravity start ps gs)
      = coupleGravity start ps gs := by
  induction gs generalizing start ps with
  | nil => cases ps <;> rfl
  | cons r gs ih =>
    cases ps with
    | nil => rfl
    | cons p ps => exact congrArg (List.cons _) (ih ps (start + 1))

end Lists

/-! ## Coupling arrays -/

/-- The gas particles and the first gravity particles refer to each other, in order.  Beyond that
nothing has changed. -/
structure AreCoupled (g g' : Gas D S) (a a' : RecordArray (GravityParticle D S)) : Prop where
  axes : g'.axes = g.axes ∧ a'.axes = a.axes
  states : g'.xparts = g.xparts
  length : g'.parts.length = g.parts.length ∧ a'.records.length = a.records.length
  parts : ∀ (i : ℕ) (p : Particle D S), g.parts[i]? = some p → g'.parts[i]? = some (p.coupledTo i)
  couples : ∀ (i : ℕ) (p : Particle D S) (r : GravityParticle D S),
    g.parts[i]? = some p → a.records[i]? = some r →
    a'.records[i]? = some (r.coupledTo i p)
  beyond : ∀ i : ℕ, g.parts.length ≤ i → a'.records[i]? = a.records[i]?

variable {g : Gas D S} {a : RecordArray (GravityParticle D S)}

theorem liftM_ok_bind {α β : Type} (x : α) (f : α → Coupling D S β) :
    (liftM (Except.ok x : Except Failure α) >>= f) = f x := rfl

theorem run_linkRows_of_fewer {axes gravityAxes : List ℕ} {n m : ℕ}
    (hn : Failure.ofOption .indexOutOfRange axes.head? = .ok n)
    (hm : Failure.ofOption .indexOutOfRange gravityAxes.head? = .ok m) (h : m < n)
    (s : List (Particle D S) × List (GravityParticle D S)) :
    (linkRows axes gravityAxes).run.run s = (.error (.tooFewGravityParticles n m), s) := by
  unfold linkRows
  simp only [hn, hm, liftM_ok_bind, h, if_true]
  rfl

/-- Too few gravity particles are refused in arrays with any axes, and nothing is stored. -/
theorem couple_of_fewer {n m : ℕ} (hg : g.rowCount = .ok n) (ha : a.rowCount = .ok m)
    (h : m < n) : couple g a = (.error (.tooFewGravityParticles n m), g, a) := by
  by_cases hrows : g.isRow = true ∧ a.isRow = true
  · obtain rfl : g.parts.length = n := by
      simpa [Gas.rowCount_of_isRow hrows.1] using hg
    obtain rfl : a.records.length = m := by
      simpa [RecordArray.rowCount_of_isRow hrows.2] using ha
    simp only [couple, hrows, and_self, link, h, if_true]
  · simp only [couple, if_neg hrows, run_linkRows_of_fewer hg ha h]

theorem couple_of_rows (hg : g.isRow = true) (ha : a.isRow = true)
    (h : g.parts.length ≤ a.records.length) :
    couple g a = (.ok (), { g with parts := coupleParticles 0 g.parts },
      { a with records := coupleGravity 0 g.parts a.records }) := by
  simp only [couple, hg, ha, link, Nat.not_lt.mpr h, and_self, if_true, if_false]

theorem areCoupled_of_rows (g : Gas D S) (a : RecordArray (GravityParticle D S)) :
    AreCoupled g { g with parts := coupleParticles 0 g.parts }
      a { a with records := coupleGravity 0 g.parts a.records } where
  axes := ⟨rfl, rfl⟩
  states := rfl
  length := ⟨length_coupleParticles _ _, length_coupleGravity _ _ _⟩
  parts i p hp := by
    simp [getElem?_coupleParticles, hp]
  couples i p r hp hr := by
    simp [getElem?_coupleGravity, hp, hr]
  beyond i hi := by
    simp [getElem?_coupleGravity, List.getElem?_eq_none hi]

/-! ## What is behind an index -/

variable [Arithmetic D] [Arithmetic S] [Narrowing D S]

/-- How a leaf of gravity particles with numbers of some precisions is read. -/
abbrev lens (D S : Type) [Arithmetic D] [Arithmetic S] [Narrowing D S] (l : GravityLeaf) :
    Lens (GravityParticle D S) D S :=
  lensOf l

/-- The cells that are found behind an index: those of the gravity particle there, and zeros where
the index is negative or there is nothing to look through. -/
inductive IsBehind (gs : List (GravityParticle D S)) (l : GravityLeaf) (i : Tick) :
    List (Cell D S) → Prop
  | particle {r : GravityParticle D S} :
      0 ≤ i.toInt → gs[i.toInt.toNat]? = some r → IsBehind gs l i ((lens D S l).get r)
  | zeros {cells : List (Cell D S)} :
      i.toInt < 0 ∨ gs = [] → (∀ c ∈ cells, c.IsZero (lens D S l).type) → IsBehind gs l i cells

theorem isZero_get_zero (l : GravityLeaf) :
    ∀ c ∈ (lens D S l).get .zero, c.IsZero (lens D S l).type := by
  have hwhole : ∀ k : IntegerType, (Cell.whole 0 : Cell D S).IsZero (.integer k) := by
    intro k
    refine .inl (congrArg Cell.whole ?_)
    exact k.wrap_zero.symm
  have hdouble : (Cell.double 0.0 : Cell D S).IsZero .float64 := .inr (.inl rfl)
  have hsingle : (Cell.single 0.0 : Cell D S).IsZero .float32 := .inr (.inr rfl)
  intro c hc
  cases l with
  | idOrNegOffset | timeBin =>
    obtain rfl := List.mem_singleton.mp hc
    exact hwhole _
  | mass | potential =>
    obtain rfl := List.mem_singleton.mp hc
    exact hsingle
  | x =>
    obtain ⟨y, hy, rfl⟩ := List.mem_map.mp hc
    obtain rfl := Vec3.eq_of_mem_replicate hy
    exact hdouble
  | vFull | aGrav =>
    obtain ⟨y, hy, rfl⟩ := List.mem_map.mp hc
    obtain rfl := Vec3.eq_of_mem_replicate hy
    exact hsingle

/-- The gravity particles to look through, of which there may be none. -/
def rowsOf (gravity : Option (RecordArray (GravityParticle D S))) : List (GravityParticle D S) :=
  (gravity.map RecordArray.records).getD []

section Lookup

variable {gravity : Option (RecordArray (GravityParticle D S))} {index : Tensor Tick}

theorem lookupSought_of_nil (hrows : ∀ a ∈ gravity, a.isRow = true) (hnil : rowsOf gravity = [])
    (l : GravityLeaf) :
    lookupSought gravity index (.leaf l)
      = .ok (.numbers ⟨(lens D S l).type,
          (Tensor.filled (index.shape ++ (lens D S l).shape.shape) (.whole 0)).map
            (Cell.cast (lens D S l).type)⟩) := by
  cases gravity with
  | none => rfl
  | some a =>
    have hcount : a.rowCount = .ok 0 := by
      have hrecords : a.records = [] := hnil
      rw [RecordArray.rowCount_of_isRow (hrows a rfl), hrecords]
      rfl
    simp only [lookupSought, hcount]
    rfl

theorem lookupSought_of_ne_nil {a : RecordArray (GravityParticle D S)} (ha : a.isRow = true)
    (hne : a.records ≠ []) (l : GravityLeaf) :
    lookupSought (some a) index (.leaf l) = (lookup a.records index l).map .numbers := by
  have hcount : a.records.length ≠ 0 := fun h => hne (List.length_eq_zero_iff.mp h)
  simp only [lookupSought, RecordArray.rowCount_of_isRow ha, Result.ok_bind, Result.pure_eq,
    hcount, decide_false, Bool.false_eq_true, if_false, ha, if_true]
  rfl

theorem lookup_of_leads {gs : List (GravityParticle D S)}
    (h : ∀ i ∈ index.cells, Leads (some gs) i) (l : GravityLeaf) :
    lookup gs index l
      = .ok ⟨(lens D S l).type,
          index.spreadOut (lens D S l).shape.shape
            (fun i => (lens D S l).get (valueAt id .zero (some gs) i))
            fun _ => (lens D S l).length_get _⟩ := by
  rw [lookup, gather_of_leads h]
  exact congrArg (fun t => Except.ok (NumericArray.mk _ t)) (Tensor.ext rfl (List.flatMap_map ..))

theorem isBehind_valueAt {gs : List (GravityParticle D S)} {i : Tick} (hi : i.toInt < gs.length)
    (l : GravityLeaf) : IsBehind gs l i ((lens D S l).get (valueAt id .zero (some gs) i)) := by
  unfold valueAt
  split
  next hneg =>
    have hneg : i.toInt < 0 := by simpa [Int64.lt_iff_toInt_lt] using hneg
    exact .zeros (.inl hneg) (isZero_get_zero l)
  next hnonneg =>
    have hnonneg : 0 ≤ i.toInt := by
      simpa [Int64.le_iff_toInt_le] using Int64.not_lt.mp hnonneg
    have hr : gs[i.toInt.toNat]? = some gs[i.toInt.toNat] := List.getElem?_eq_getElem (by omega)
    simp only [Option.getD_some, hr, Option.map_id_fun, id]
    exact .particle hnonneg hr

/-- Where every index leads to a gravity particle, or there are none, each index gives what is
behind it. -/
theorem exists_lookupSought (hrows : ∀ a ∈ gravity, a.isRow = true)
    (h : rowsOf gravity ≠ [] → ∀ i ∈ index.cells, i.toInt < (rowsOf gravity).length)
    (l : GravityLeaf) :
    ∃ (f : Tick → List (Cell D S)) (hf : ∀ i, (f i).length = cellCount (lens D S l).shape.shape),
      lookupSought gravity index (.leaf l)
        = .ok (.numbers ⟨(lens D S l).type, index.spreadOut (lens D S l).shape.shape f hf⟩) ∧
      ∀ i ∈ index.cells, IsBehind (rowsOf gravity) l i (f i) := by
  by_cases hnil : rowsOf gravity = []
  · refine ⟨fun _ => List.replicate _ (Cell.cast _ (.whole 0)), fun _ => List.length_replicate, ?_,
      fun i _ => .zeros (.inr hnil) fun c hc => .inl (List.eq_of_mem_replicate hc)⟩
    rw [lookupSought_of_nil hrows hnil, Tensor.filled_eq_spreadOut, Tensor.map_spreadOut]
    simp only [List.map_replicate]
  · obtain ⟨a, rfl⟩ : ∃ a, gravity = some a := by
      cases gravity with
      | none => exact absurd rfl hnil
      | some a => exact ⟨a, rfl⟩
    have hleads : ∀ i ∈ index.cells, Leads (some a.records) i := by
      rintro i hi gs ⟨⟩ -
      exact h hnil i hi
    refine ⟨fun i => (lens D S l).get (valueAt id .zero (some a.records) i),
      fun _ => (lens D S l).length_get _, ?_, fun i hi => isBehind_valueAt (h hnil i hi) l⟩
    rw [lookupSought_of_ne_nil (hrows a rfl) hnil, lookup_of_leads hleads]
    rfl

theorem lookupSought_of_beyond (hrows : ∀ a ∈ gravity, a.isRow = true)
    (hne : rowsOf gravity ≠ []) (h : ∃ i ∈ index.cells, (rowsOf gravity).length ≤ i.toInt)
    (l : GravityLeaf) : lookupSought gravity index (.leaf l) = .error .indexOutOfRange := by
  cases gravity with
  | none => exact absurd rfl hne
  | some a =>
    obtain ⟨i, hi, hbeyond⟩ := h
    have hlost : ∃ i ∈ index.cells, ¬ Leads (some a.records) i :=
      ⟨i, hi, fun hleads => Int.not_lt.mpr hbeyond (hleads a.records rfl hne)⟩
    rw [lookupSought_of_ne_nil (hrows a rfl) hne, lookup, gather_of_not_leads hlost]
    rfl

theorem IsBehind.eq_get {gs : List (GravityParticle D S)} {l : GravityLeaf} {i : Tick}
    {cells : List (Cell D S)} (h : IsBehind gs l i cells) {r : GravityParticle D S}
    (hi : 0 ≤ i.toInt) (hr : gs[i.toInt.toNat]? = some r) : cells = (lens D S l).get r := by
  cases h with
  | particle _ hr' => rw [Option.some.inj (hr'.symm.trans hr)]
  | zeros hnone =>
    rcases hnone with hneg | rfl
    · omega
    · cases hr

theorem lookupSought_scalar {a : RecordArray (GravityParticle D S)} (ha : a.isRow = true)
    {i : Tick} {r : GravityParticle D S} (hi : 0 ≤ i.toInt)
    (hr : a.records[i.toInt.toNat]? = some r) (l : GravityLeaf) :
    lookupSought (some a) (.scalar i) (.leaf l)
      = .ok (.numbers ⟨(lens D S l).type,
          ⟨(lens D S l).shape.shape, (lens D S l).get r, (lens D S l).length_get r⟩⟩) := by
  have hrows : ∀ a' ∈ some a, a'.isRow = true := by
    rintro _ ⟨⟩
    exact ha
  have hleads : rowsOf (some a) ≠ [] →
      ∀ j ∈ (Tensor.scalar i).cells, j.toInt < (rowsOf (some a)).length := by
    intro _ j hj
    obtain rfl := List.mem_singleton.mp hj
    have hlt : j.toInt.toNat < a.records.length := (List.getElem?_eq_some_iff.mp hr).1
    show j.toInt < a.records.length
    omega
  obtain ⟨f, hf, hlookup, hbehind⟩ := exists_lookupSought hrows hleads l
  have hcells : f i = (lens D S l).get r := (hbehind i (List.mem_singleton_self i)).eq_get hi hr
  rw [hlookup]
  refine congrArg (fun t => Except.ok (Found.numbers (NumericArray.mk _ t))) (Tensor.ext rfl ?_)
  exact (List.append_nil _).trans hcells

end Lookup

/-! ## Coupling and looking through -/

/-- Through its index a gas particle finds its own position and mass, and its own negated index. -/
structure RefersBack (a : RecordArray (GravityParticle D S)) (i : ℕ) (p : Particle D S) :
    Prop where
  index : p.gpart.toInt = i
  position : lookupSought (some a) (.scalar p.gpart) (.leaf .x)
    = .ok (.numbers (.doubles ⟨[3], p.x.toList, p.x.length_toList⟩))
  mass : lookupSought (some a) (.scalar p.gpart) (.leaf .mass)
    = .ok (.numbers (.singles (.scalar p.conserved.mass)))
  offset : lookupSought (some a) (.scalar p.gpart) (.leaf .idOrNegOffset)
    = .ok (.numbers (.integers .int64 (.scalar (-i))))

theorem AreCoupled.refersBack {g g' : Gas D S} {a a' : RecordArray (GravityParticle D S)}
    (h : AreCoupled g g' a a') (ha' : a'.isRow = true) (hfits : g.parts.length ≤ Layout.maxBytes)
    (hle : g.parts.length ≤ a.records.length) {i : ℕ} {p : Particle D S}
    (hp : g'.parts[i]? = some p) : RefersBack a' i p := by
  have hi : i < g.parts.length := by
    rw [← h.length.1]
    exact (List.getElem?_eq_some_iff.mp hp).1
  have hpart : g.parts[i]? = some g.parts[i] := List.getElem?_eq_getElem hi
  have hr : a.records[i]? = some a.records[i] := List.getElem?_eq_getElem (by omega)
  obtain rfl : g.parts[i].coupledTo i = p := Option.some.inj ((h.parts i _ hpart).symm.trans hp)
  have hindex : (g.parts[i].coupledTo i).gpart.toInt = i := toInt_index (by omega)
  have hbehind : a'.records[(g.parts[i].coupledTo i).gpart.toInt.toNat]?
      = some (a.records[i].coupledTo i g.parts[i]) := by
    rw [hindex, Int.toNat_natCast]
    exact h.couples i _ _ hpart hr
  have hlookup := lookupSought_scalar ha' (by omega) hbehind
  refine ⟨hindex, hlookup .x, hlookup .mass, (hlookup .idOrNegOffset).trans ?_⟩
  have hoffset : (-Int64.ofNat i).toInt = -i := toInt_neg_index (by omega)
  exact congrArg (fun n : Int => Except.ok (Found.numbers (.integers .int64 (.scalar n)))) hoffset

/-- Some index leads beyond the gravity particles, of which there are some. -/
def LeadsBeyond (gravity : Option (RecordArray (GravityParticle D S))) (index : Tensor Tick) :
    Prop :=
  rowsOf gravity ≠ [] ∧ ∃ i ∈ index.cells, (rowsOf gravity).length ≤ i.toInt

/-- Coupling and looking through are inverse to each other.  Too few gravity particles are refused,
and nothing is stored.  Otherwise each gas particle refers to the gravity particle with its index,
and that one back to it, nothing else has changed, and coupling again changes nothing.  Looking
through gives what is behind each index, and fails exactly where some index leads beyond the
gravity particles. -/
theorem couple_lookup :
    (∀ (g : Gas D S) (a : RecordArray (GravityParticle D S)) (n m : ℕ),
      g.rowCount = .ok n → a.rowCount = .ok m → m < n →
      couple g a = (.error (.tooFewGravityParticles n m), g, a)) ∧
    (∀ (g : Gas D S) (a : RecordArray (GravityParticle D S)), g.isRow = true → a.isRow = true →
      g.parts.length ≤ Layout.maxBytes → g.parts.length ≤ a.records.length →
      ∃ g' a', couple g a = (.ok (), g', a') ∧ AreCoupled g g' a a' ∧
        (∀ (i : ℕ) (p : Particle D S), g'.parts[i]? = some p → RefersBack a' i p) ∧
        couple g' a' = (.ok (), g', a')) ∧
    ∀ (gravity : Option (RecordArray (GravityParticle D S))) (index : Tensor Tick)
      (l : GravityLeaf), (∀ a ∈ gravity, a.isRow = true) →
      (lookupSought gravity index (.leaf l) = .error .indexOutOfRange
        ↔ LeadsBeyond gravity index) ∧
      (¬ LeadsBeyond gravity index →
        ∃ (f : Tick → List (Cell D S))
          (hf : ∀ i, (f i).length = cellCount (lens D S l).shape.shape),
          lookupSought gravity index (.leaf l)
            = .ok (.numbers ⟨(lens D S l).type, index.spreadOut (lens D S l).shape.shape f hf⟩) ∧
          ∀ i ∈ index.cells, IsBehind (rowsOf gravity) l i (f i)) := by
  refine ⟨fun g a n m hg ha => couple_of_fewer hg ha, fun g a hg ha hfits hle => ?coupled,
    fun gravity index l hrows => ?found⟩
  case coupled =>
    have hcoupled := areCoupled_of_rows g a
    have hg' : ({ g with parts := coupleParticles 0 g.parts } : Gas D S).isRow = true := by
      simpa [Gas.isRow, length_coupleParticles] using hg
    have ha' : ({ a with records := coupleGravity 0 g.parts a.records } :
        RecordArray (GravityParticle D S)).isRow = true := by
      simpa [RecordArray.isRow, length_coupleGravity] using ha
    refine ⟨_, _, couple_of_rows hg ha hle, hcoupled,
      fun i p => hcoupled.refersBack ha' hfits hle, ?_⟩
    rw [couple_of_rows hg' ha' (by simpa [length_coupleParticles, length_coupleGravity] using hle)]
    simp only [coupleParticles_twice, coupleGravity_twice]
  case found =>
    have hfound (hin : ¬ LeadsBeyond gravity index) :=
      exists_lookupSought hrows (fun hne i hi => Int.not_le.mp fun hle => hin ⟨hne, i, hi, hle⟩) l
    refine ⟨⟨fun herror => ?_, fun h => lookupSought_of_beyond hrows h.1 h.2 l⟩, hfound⟩
    by_contra hin
    obtain ⟨f, hf, hok, -⟩ := hfound hin
    exact Result.error_ne_ok (herror.symm.trans hok)

/-- Of two gas particles the second finds itself through three gravity particles, and through one
there is no coupling; a fourth gravity particle is not found. -/
theorem couple_lookup_pair :
    let pair : Gas Float Float32 := { parts := [.zero, .zero], xparts := [.zero, .zero] }
    let array (n : ℕ) : RecordArray (GravityParticle Float Float32) :=
      { records := List.replicate n .zero }
    let index : Tensor Tick := .vector [0, -1]
    couple pair (array 1) = (.error (.tooFewGravityParticles 2 1), pair, array 1) ∧
      (∃ g' a', couple pair (array 3) = (.ok (), g', a') ∧ couple g' a' = (.ok (), g', a') ∧
        ∃ p, g'.parts[1]? = some p ∧ RefersBack a' 1 p) ∧
      lookupSought (some (array 3)) (.vector [0, 3]) (.leaf .mass) = .error .indexOutOfRange ∧
      ∃ f hf, lookupSought (some (array 3)) index (.leaf .x)
          = .ok (.numbers ⟨.float64, index.spreadOut [3] f hf⟩) ∧
        IsBehind (array 3).records .x (-1) (f (-1)) := by
  intro pair array index
  have hpair : pair.isRow = true := rfl
  have harray : ∀ n, (array n).isRow = true := by
    intro n
    exact decide_eq_true rfl
  obtain ⟨hrefused, hcoupled, hfound⟩ := couple_lookup (D := Float) (S := Float32)
  have hrows : ∀ b ∈ some (array 3), b.isRow = true := by
    rintro _ ⟨⟩
    exact harray 3
  refine ⟨hrefused pair (array 1) 2 1 rfl rfl (by decide), ?_, ?_, ?_⟩
  · obtain ⟨g', a', hcouple, hare, hback, htwice⟩ :=
      hcoupled pair (array 3) hpair (harray 3) (by decide) (by decide)
    have hp := hare.parts 1 .zero rfl
    exact ⟨g', a', hcouple, htwice, _, hp, hback 1 _ hp⟩
  · exact (hfound _ _ .mass hrows).1.mpr ⟨List.cons_ne_nil _ _, 3, by decide, by decide⟩
  · obtain ⟨f, hf, hlookup, hbehind⟩ :=
      (hfound (some (array 3)) index .x hrows).2 fun h => absurd h.2 (by decide)
    exact ⟨f, hf, hlookup, hbehind (-1) (by decide)⟩

end Gravity

end MeshlessGas
