/-
Workspaces — what the steps of a session work on.

A workspace holds the particles, a context, an opened snapshot, and the files of a
directory.  Gravity particles stay in an array of their own for every allocation, since a
context keeps the array that it was made with.  A step that fails leaves the workspace as
far as it came.
-/
import MeshlessGas.Particle.GravityArray
import MeshlessGas.Particle.Storing
import MeshlessGas.Particle.View
import MeshlessGas.Snapshot.Basic

namespace MeshlessGas

/-- The state of a session. -/
structure Workspace (D S : Type) where
  gas : Option (Gas D S) := none
  arrays : List (RecordArray (GravityParticle D S)) := []
  /-- Which of the arrays holds the gravity particles. -/
  gravity : Option Nat := none
  /-- The context, and which of the arrays it was made with. -/
  context : Option (Context D S × Option Nat) := none
  snapshot : Option (Snapshot D S) := none
  /-- The handle that the snapshot was opened with from outside. -/
  external : Option Handle := none
  files : Directory D S := {}
  notices : List Notice := []

/-- An action on a workspace: what it changed before a failure stays. -/
abbrev Work (D S α : Type) := ExceptT Failure (StateM (Workspace D S)) α

namespace Workspace

variable {D S : Type}

/-- Keeps notices beside a result. -/
def hear {α : Type} (heard : Except Failure α × List Notice) : Work D S α := do
  modify fun w => { w with notices := w.notices ++ heard.2 }
  heard.1

/-- The gas particles, without which an action fails. -/
def gasOr (e : Failure) : Work D S (Gas D S) := do Failure.ofOption e (← get).gas

/-- The gas particles, as an array that is looked into. -/
def theGas : Work D S (Gas D S) := gasOr .wrongType

def setGas (g : Gas D S) : Work D S Unit := modify fun w => { w with gas := some g }

/-- One of the arrays of gravity particles. -/
def array? (i : Option Nat) : Work D S (Option (RecordArray (GravityParticle D S))) := do
  let w ← get
  return i.bind fun i => w.arrays[i]?

/-- The gravity particles, if there are any. -/
def gravity? : Work D S (Option (RecordArray (GravityParticle D S))) := do
  array? (← get).gravity

/-- The gravity particles, without which an action fails. -/
def gravityOr (e : Failure) : Work D S (RecordArray (GravityParticle D S)) := do
  Failure.ofOption e (← gravity?)

def setGravity (array : RecordArray (GravityParticle D S)) : Work D S Unit :=
  modify fun w => { w with arrays := w.arrays.set (w.gravity.getD 0) array }

/-- The context with the gravity particles as they are now, if there is one. -/
def context? : Work D S (Option (Context D S)) := do
  match (← get).context with
  | none => return none
  | some (c, i) => return some { c with gparts := (← array? i).map RecordArray.records }

/-- The context. -/
def theContext : Work D S (Context D S) := do Failure.ofOption .noSuchAttribute (← context?)

/-- The snapshot opened last. -/
def theSnapshot : Work D S (Snapshot D S) := do
  Failure.ofOption .noSuchAttribute (← get).snapshot

/-- Runs an action with no notices yet.  Afterwards only the handles are open that the
workspace still holds. -/
def perform {α : Type} (w : Workspace D S) (action : Work D S α) :
    Except Failure α × Workspace D S :=
  let (result, w) := action.run.run { w with notices := [] }
  let held := w.external.toList ++ (w.snapshot.bind Snapshot.handle).toList
  (result, { w with files := w.files.keepHandles held })

end Workspace

end MeshlessGas
