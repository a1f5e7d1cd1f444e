/-
Conversions row by row — what every converter gives for one particle.

A converter takes all particles at once: ticks, kick factors and accelerations are arrays.
For a context whose tick and box can be used at all each of them works entry by entry, so
that the numbers of a particle follow from its own record and state alone.  The laws are
stated for tensors of rows, of which an array and a single particle are the two kinds in use.
The only step that can fail looks up gravity particles, and it fails in one way: some particle
refers to one that is not there.
-/
import MeshlessGas.Conversion
import MeshlessGas.Proofs.Columns

namespace MeshlessGas

theorem Vec3.exists_toList {α : Type} :
    ∀ {xs : List α}, xs.length = 3 → ∃ v : Vec3 α, v.toList = xs
  | [x, y, z], _ => ⟨⟨x, y, z⟩, rfl⟩

theorem Vec3.length_cells {α : Type} (v : Vec3 α) : v.toList.length = cellCount [3] := rfl

/-! ## Contexts -/

namespace Context

variable {D S : Type}

def currentTick (c : Context D S) : Tick := Int64.ofInt c.tick

def previousTick (c : Context D S) : Tick := Int64.ofInt (max (c.tick - 1) 0)

/-- The tick fits the word that ticks are kept in. -/
def HasTick (c : Context D S) : Prop :=
  -((pow2 63 : Nat) : Int) ≤ c.tick ∧ c.tick < (pow2 63 : Nat)

/-- A context that converters can work with: its tick lies on the timeline, and a periodic
box has three lengths. -/
structure WellFormed (c : Context D S) : Prop where
  tick_nonneg : 0 ≤ c.tick
  tick_le : c.tick ≤ Timeline.length
  dim_shape : c.periodic = true → c.dim.shape = [3]

/-- The gravity particle that a gas particle refers to is there, unless there are none. -/
def Couples (c : Context D S) (p : Particle D S) : Prop :=
  ∀ gparts, c.gparts = some gparts → gparts ≠ [] → p.gpart.toInt < gparts.length

section Ticks

variable {c : Context D S}

theorem tick_eq_ok {n : Int} (h : -((pow2 63 : Nat) : Int) ≤ n ∧ n < (pow2 63 : Nat)) :
    Timeline.tick n = .ok (Int64.ofInt n) := by
  simp only [Timeline.tick, Timeline.tick?, h, and_self, if_true, Failure.ofOption_some]

theorem HasTick.current (h : c.HasTick) : Timeline.tick c.tick = .ok c.currentTick :=
  tick_eq_ok h

theorem HasTick.previous (h : c.HasTick) :
    Timeline.tick (max (c.tick - 1) 0) = .ok c.previousTick := by
  have hword : ((pow2 63 : Nat) : Int) = 2 ^ 63 := rfl
  obtain ⟨h₀, h₁⟩ := h
  rw [hword] at h₀ h₁
  exact tick_eq_ok (by rw [hword]; omega)

theorem WellFormed.hasTick (h : c.WellFormed) : c.HasTick := by
  have hword : ((pow2 63 : Nat) : Int) = 2 ^ 63 := rfl
  have hlength : Timeline.length = 2 ^ 56 := rfl
  have h₀ := h.tick_nonneg
  have h₁ := h.tick_le
  rw [HasTick, hword]
  omega

end Ticks

variable [Arithmetic D]

/-- A context of a run: its tick lies on the timeline, and a periodic box has three positive
lengths. -/
structure Regular (c : Context D S) : Prop where
  tick_nonneg : 0 ≤ c.tick
  tick_le : c.tick ≤ Timeline.length
  dim_shape : c.periodic = true → c.dim.shape = [3]
  dim_pos : c.periodic = true → ∀ l ∈ c.dim.cells, (0.0 : D) < l

theorem Regular.wellFormed {c : Context D S} (h : c.Regular) : c.WellFormed :=
  ⟨h.tick_nonneg, h.tick_le, h.dim_shape⟩

def lengths (c : Context D S) : Vec3 D := (Vec3.ofList? c.dim.cells).getD (.replicate 0.0)

theorem toList_lengths {c : Context D S} (h : c.dim.shape = [3]) :
    c.lengths.toList = c.dim.cells := by
  have hlength : c.dim.cells.length = 3 := by
    rw [c.dim.length_cells, h]
    rfl
  obtain ⟨v, hv⟩ := Vec3.exists_toList hlength
  rw [lengths, ← hv, Vec3.ofList?_toList]
  rfl

end Context

/-! ## Gravity particles -/

namespace Gravity

variable {D S α : Type}

/-- What the gravity particles hold for an index: zero where it leads to none. -/
def valueAt (value : GravityParticle D S → α) (zero : α)
    (gparts : Option (List (GravityParticle D S))) (index : Tick) : α :=
  if index < 0 then zero
  else (((gparts.getD [])[index.toInt.toNat]?).map value).getD zero

/-- An index that leads to a gravity particle, or to none because there are none. -/
def Leads (gparts : Option (List (GravityParticle D S))) (index : Tick) : Prop :=
  ∀ gs, gparts = some gs → gs ≠ [] → index.toInt < gs.length

variable {value : GravityParticle D S → α} {zero : α}

theorem gatherOne_of_leads {gs : List (GravityParticle D S)} {index : Tick}
    (h : index.toInt < gs.length) :
    gatherOne value zero gs index = .ok (valueAt value zero (some gs) index) := by
  unfold gatherOne valueAt
  split
  · rfl
  next hnonneg =>
    have hzero : 0 ≤ index.toInt := by
      have hle := Int64.not_lt.mp hnonneg
      simpa [Int64.le_iff_toInt_le] using hle
    have hindex : index.toInt.toNat < gs.length := by omega
    simp only [Option.getD_some, List.getElem?_eq_getElem hindex, Option.map_some,
      Failure.ofOption_some]

theorem gatherOne_of_not_leads {gs : List (GravityParticle D S)} {index : Tick}
    (h : ¬ index.toInt < gs.length) :
    gatherOne value zero gs index = .error .indexOutOfRange := by
  have hnonneg : ¬ index < 0 := by
    intro hlt
    have hneg : index.toInt < 0 := by simpa [Int64.lt_iff_toInt_lt] using hlt
    omega
  have hnone : gs[index.toInt.toNat]? = none := List.getElem?_eq_none (by omega)
  rw [gatherOne, if_neg hnonneg, hnone]
  rfl

theorem gather_of_leads {gparts : Option (List (GravityParticle D S))} {indices : Tensor Tick}
    (h : ∀ i ∈ indices.cells, Leads gparts i) :
    gather value zero gparts indices = .ok (indices.map (valueAt value zero gparts)) := by
  have hnone : valueAt value zero (none : Option (List (GravityParticle D S)))
      = fun _ => zero := by
    funext i
    simp [valueAt]
  have hempty : valueAt value zero (some ([] : List (GravityParticle D S)))
      = fun _ => zero := by
    funext i
    simp [valueAt]
  match gparts with
  | none => rw [hnone, gather]
  | some [] => rw [hempty, gather]
  | some (g :: gs) =>
    have hone : ∀ i ∈ indices.cells,
        gatherOne value zero (g :: gs) i = .ok (valueAt value zero (some (g :: gs)) i) := by
      intro i hi
      exact gatherOne_of_leads (h i hi (g :: gs) rfl (List.cons_ne_nil g gs))
    simp only [gather, Tensor.mapM_of_forall_ok hone]

/-- Gathering fails in one way: some index leads beyond the gravity particles. -/
theorem gather_of_not_leads {gparts : Option (List (GravityParticle D S))}
    {indices : Tensor Tick} (h : ∃ i ∈ indices.cells, ¬ Leads gparts i) :
    gather value zero gparts indices = .error .indexOutOfRange := by
  obtain ⟨i, hi, hlost⟩ := h
  simp only [Leads, Classical.not_forall] at hlost
  obtain ⟨gs, rfl, hne, hlost⟩ := hlost
  have honly : ∀ j ∈ indices.cells, ∀ e, gatherOne value zero gs j = .error e →
      e = .indexOutOfRange := by
    intro j _ e he
    by_cases hj : j.toInt < gs.length
    · rw [gatherOne_of_leads hj] at he
      cases he
    · rw [gatherOne_of_not_leads hj] at he
      cases he
      rfl
  obtain ⟨g, gs, rfl⟩ := List.exists_cons_of_ne_nil hne
  exact Tensor.mapM_eq_error honly hi (gatherOne_of_not_leads hlost)

end Gravity

namespace Conversion

variable {D S : Type} [Transcendental D]

/-- A row of a gas: a particle and its extended state. -/
abbrev Row (D S : Type) := Particle D S × ExtendedState S

section Velocity

variable [Narrowing D S]

/-- The kick factor of a kind from the middle of the step of a time bin to the current
tick. -/
def kickFactor (context : Context D S) (kind : KickKind) (bin : Int8) : D :=
  let bin := Int64.ofInt bin.toInt
  let first := Timeline.stepBegin context.previousTick bin
  let mid := Timeline.midpoint first (Timeline.stepEnd context.currentTick bin)
  match context.cosmology with
  | some c =>
    c.factor kind (realOfTick first) (realOfTick context.currentTick)
      - c.factor kind (realOfTick first) (realOfTick mid)
  | none => elapsed context.timeBase context.currentTick mid

/-- The velocity of a particle brought from its last kick to the current tick. -/
def driftedOf (context : Context D S) (r : Row D S) : Vec3 D :=
  let aGrav := Gravity.valueAt (fun g => Particle.widenVec (D := D) g.aGrav) (.replicate 0.0)
    context.gparts r.1.gpart
  let hydro := (Particle.widenVec r.1.aHydro).map (· * kickFactor context .hydro r.1.timeBin)
  let gravity := aGrav.map (· * kickFactor context .gravity r.1.timeBin)
  ((Particle.widenVec r.2.vFull).zipWith (· + ·) hydro).zipWith (· + ·) gravity

def velocityOf [Arithmetic S] (context : Context D S) (r : Row D S) : Vec3 S :=
  let v : Vec3 S := Particle.narrowVec (driftedOf context r)
  match context.cosmology with
  | some _ => v.map (· * Narrowing.narrow context.a2Inv)
  | none => v

end Velocity

/-- The position of a particle, wrapped into the box when it is periodic. -/
def positionOf (context : Context D S) (p : Particle D S) : Vec3 D :=
  if context.periodic then p.x.zipWith Box.wrap context.lengths else p.x

def potentialOf [Arithmetic S] (context : Context D S) (p : Particle D S) : S :=
  Gravity.valueAt GravityParticle.potential 0.0 context.gparts p.gpart

/-! ## Velocities -/

section Rows

variable {context : Context D S} {t : Tensor (Row D S)}

omit [Transcendental D] in
theorem gather_rows {α : Type} (hc : ∀ r ∈ t.cells, context.Couples r.1)
    (value : GravityParticle D S → α) (zero : α) :
    Gravity.gather value zero context.gparts ((t.map Prod.fst).map Particle.gpart)
      = .ok (t.map fun r => Gravity.valueAt value zero context.gparts r.1.gpart) := by
  have hindices : ∀ i ∈ ((t.map Prod.fst).map Particle.gpart).cells,
      Gravity.Leads context.gparts i := by
    intro i hi
    rw [Tensor.map_map, Tensor.cells_map] at hi
    obtain ⟨r, hr, rfl⟩ := List.mem_map.mp hi
    exact hc r hr
  rw [Gravity.gather_of_leads hindices, Tensor.map_map, Tensor.map_map]

omit [Transcendental D] in
theorem gather_uncoupled {α : Type} (hc : ∃ r ∈ t.cells, ¬ context.Couples r.1)
    (value : GravityParticle D S → α) (zero : α) :
    Gravity.gather value zero context.gparts ((t.map Prod.fst).map Particle.gpart)
      = .error .indexOutOfRange := by
  obtain ⟨r, hr, hlost⟩ := hc
  refine Gravity.gather_of_not_leads ⟨r.1.gpart, ?_, hlost⟩
  rw [Tensor.map_map, Tensor.cells_map]
  exact List.mem_map_of_mem hr

omit [Transcendental D] in
theorem couples_of_gather {α : Type} {value : GravityParticle D S → α} {zero : α}
    {found : Tensor α} (h : Gravity.gather value zero context.gparts
      ((t.map Prod.fst).map Particle.gpart) = .ok found) :
    ∀ r ∈ t.cells, context.Couples r.1 := by
  intro r hr
  refine Classical.byContradiction fun hlost => ?_
  rw [gather_uncoupled ⟨r, hr, hlost⟩] at h
  cases h

theorem kickFactors_map [Narrowing D S] (ht : context.HasTick) (bins : Tensor Int8) :
    ∃ first last,
        Timeline.stepBegins context.tick (bins.map fun b => Int64.ofInt b.toInt) = .ok first ∧
        Timeline.stepEnds context.tick (bins.map fun b => Int64.ofInt b.toInt) = .ok last ∧
        kickFactors context first last
          = .ok (bins.map (kickFactor context .gravity),
              bins.map (kickFactor context .hydro)) := by
  let beginOf (b : Int8) : Tick := Timeline.stepBegin context.previousTick (Int64.ofInt b.toInt)
  let endOf (b : Int8) : Tick := Timeline.stepEnd context.currentTick (Int64.ofInt b.toInt)
  -- With cosmology the kinds differ in their factors; without, both last for the same time.
  refine ⟨bins.map beginOf, bins.map endOf, ?_, ?_, ?_⟩
  · simp only [Timeline.stepBegins, ht.previous, Result.ok_bind, Tensor.map_map]
    rfl
  · simp only [Timeline.stepEnds, ht.current, Result.ok_bind, Tensor.map_map]
    rfl
  · cases hcosmology : context.cosmology with
    | some c =>
      have hfactor : ∀ kind, kickFactor context kind = fun b =>
          c.factor kind (realOfTick (beginOf b)) (realOfTick context.currentTick)
            - c.factor kind (realOfTick (beginOf b))
                (realOfTick (Timeline.midpoint (beginOf b) (endOf b))) := by
        intro kind
        funext b
        simp only [kickFactor, hcosmology, beginOf, endOf]
      simp only [kickFactors, ht.current, hcosmology, kickBetween, Result.ok_bind,
        Tensor.map₂?_map, Failure.ofOption_some, Tensor.map_map, hfactor]
      rfl
    | none =>
      have hfactor : ∀ kind, kickFactor context kind = fun b =>
          elapsed context.timeBase context.currentTick
            (Timeline.midpoint (beginOf b) (endOf b)) := by
        intro kind
        funext b
        simp only [kickFactor, hcosmology, beginOf, endOf]
      simp only [kickFactors, ht.current, hcosmology, Result.ok_bind, Tensor.map₂?_map,
        Failure.ofOption_some, Tensor.map_map, hfactor]
      rfl

theorem drifted_map [Arithmetic S] [Narrowing D S]
    (hc : ∀ r ∈ t.cells, context.Couples r.1) :
    driftedVelocities (t.map Prod.fst) (t.map Prod.snd)
        (t.map fun r => kickFactor context .hydro r.1.timeBin)
        (t.map fun r => kickFactor context .gravity r.1.timeBin) context.gparts
      = .ok (t.map fun r => Particle.narrowVec (driftedOf context r)) := by
  rw [driftedVelocities, gather_rows hc, Result.ok_bind]
  simp only [kick, Tensor.map_map, Result.ok_bind, Tensor.map₂?_map, Failure.ofOption_some]
  rfl

/-- The velocities are those that particles with some kick factors have drifted to, scaled
where space expands.  What fails is the drifting alone. -/
theorem velocities_eq [Arithmetic S] [Narrowing D S] (ht : context.HasTick) :
    velocities context (t.map Prod.fst) (t.map Prod.snd)
      = do
        let v ← driftedVelocities (t.map Prod.fst) (t.map Prod.snd)
          (t.map fun r => kickFactor context .hydro r.1.timeBin)
          (t.map fun r => kickFactor context .gravity r.1.timeBin) context.gparts
        match context.cosmology with
        | some _ => return v.map fun v => v.map (· * Narrowing.narrow context.a2Inv)
        | none => return v := by
  obtain ⟨first, last, hfirst, hlast, hfactors⟩ :=
    kickFactors_map ht (t.map fun r => r.1.timeBin)
  rw [Tensor.map_map] at hfirst hlast
  rw [Tensor.map_map, Tensor.map_map] at hfactors
  cases hcosmology : context.cosmology <;>
    simp only [velocities, Tensor.map_map, hfirst, hlast, hfactors, hcosmology, Result.ok_bind]

theorem velocities_map [Arithmetic S] [Narrowing D S] (ht : context.HasTick)
    (hc : ∀ r ∈ t.cells, context.Couples r.1) :
    velocities context (t.map Prod.fst) (t.map Prod.snd)
      = .ok (t.map (velocityOf context)) := by
  rw [velocities_eq ht, drifted_map hc, Result.ok_bind]
  cases hcosmology : context.cosmology with
  | some c =>
    have hvelocity : velocityOf context = fun r =>
        (Particle.narrowVec (driftedOf context r) : Vec3 S).map
          (· * Narrowing.narrow context.a2Inv) := by
      funext r
      simp only [velocityOf, hcosmology]
    simp only [hvelocity, Tensor.map_map, Result.pure_eq]
  | none =>
    have hvelocity : velocityOf context = fun r => Particle.narrowVec (driftedOf context r) := by
      funext r
      simp only [velocityOf, hcosmology]
    simp only [hvelocity, Result.pure_eq]

theorem velocities_uncoupled [Arithmetic S] [Narrowing D S] (ht : context.HasTick)
    (hc : ∃ r ∈ t.cells, ¬ context.Couples r.1) :
    velocities context (t.map Prod.fst) (t.map Prod.snd) = .error .indexOutOfRange := by
  rw [velocities_eq ht, driftedVelocities, gather_uncoupled hc]
  rfl

theorem hasTick_of_velocities [Arithmetic S] [Narrowing D S] {p : Tensor (Particle D S)}
    {xp : Tensor (ExtendedState S)} {v : Tensor (Vec3 S)}
    (h : velocities context p xp = .ok v) : context.HasTick := by
  -- The end of a step is that of the current tick, which must fit its word.
  rw [velocities, Result.bind_eq_ok] at h
  obtain ⟨first, -, h⟩ := h
  obtain ⟨last, hlast, -⟩ := Result.bind_eq_ok.mp h
  obtain ⟨current, hcurrent, -⟩ := Result.bind_eq_ok.mp hlast
  unfold Timeline.tick Timeline.tick? at hcurrent
  split at hcurrent
  next hfits => exact hfits
  next => cases hcurrent

/-! ## Positions -/

theorem components_map {α β : Type} (g : α → Vec3 β) (t : Tensor α) :
    components (t.map g)
      = t.spreadOut [3] (fun a => (g a).toList) fun a => (g a).length_cells :=
  Tensor.ext rfl (by simp [components, Tensor.spreadOut, List.flatMap_map])

theorem positions_map (hdim : context.periodic = true → context.dim.shape = [3]) :
    positions context (t.map Prod.fst)
      = .ok (t.spreadOut [3] (fun r => (positionOf context r.1).toList)
          fun r => (positionOf context r.1).length_cells) := by
  have hcomponents : components ((t.map Prod.fst).map Particle.x)
      = t.spreadOut [3] (fun r => r.1.x.toList) fun r => r.1.x.length_cells := by
    rw [Tensor.map_map]
    exact components_map (fun r => r.1.x) t
  cases hp : context.periodic with
  | false =>
    simp only [positions, hp, hcomponents, positionOf]
    rfl
  | true =>
    have hlengths := Context.toList_lengths (hdim hp)
    have hwrap := Tensor.map₂?_spreadOut Box.wrap t (fun r => r.1.x.length_cells)
      (hdim hp)
    simp only [positions, hp, hcomponents, Box.wrapAll, hwrap, Failure.ofOption_some, if_true,
      positionOf]
    refine congrArg Except.ok (Tensor.ext rfl ?_)
    simp only [Tensor.spreadOut, ← hlengths]
    rfl

end Rows

end Conversion

end MeshlessGas
