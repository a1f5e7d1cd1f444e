/-
Given commands — commands whose arguments are values.

A text is an argument as on the command line.  Another value can only name a file, by its
text: behind the separator any value does, and before it the empty ones do and lists that
start with a text that is no beginning of an option.
-/
import MeshlessGas.Parameters.Value
import MeshlessGas.Report.Command

namespace MeshlessGas

namespace Argument

variable {D : Type} [Arithmetic D] [Numeral D]

/-- The meaning of a value as an argument. -/
def ofValue : Value D → Except Failure Argument
  | .text s => .ok (ofString s)
  | .list (.text s :: rest) =>
    if s = "" ∨ s = "-" then .error .wrongType
    else .ok (file (Value.list (.text s :: rest) : Value D).asText)
  | .dict (_ :: _) => .error .noSuchKey
  | v => if v.truthy then .error .wrongType else .ok (file v.asText)

/-- The meanings of some values; nothing behind an ambiguous one is looked at. -/
def ofValues : List (Value D) → Except Failure (List Argument)
  | [] => .ok []
  | v :: rest => do
    match ← ofValue v with
    | separator => return separator :: rest.map fun w => file w.asText
    | ambiguous => return [ambiguous]
    | a => return a :: (← ofValues rest)

/-- Texts have the meanings that they have on the command line, unless one of them is
ambiguous. -/
theorem ofValues_texts (args : List String) :
    ∃ ms, ofValues (args.map fun s => (Value.text s : Value D)) = .ok ms ∧
      (ms = ofStrings args ∨
        (ms.any Command.isAmbiguous = true ∧ (ofStrings args).any Command.isAmbiguous = true)) := by
  induction args with
  | nil => exact ⟨[], rfl, Or.inl rfl⟩
  | cons s rest ih =>
    obtain ⟨ms, hms, h⟩ := ih
    simp only [List.map_cons, ofValues, ofValue, bind, Except.bind, pure, Except.pure, hms,
      ofStrings]
    cases hs : ofString s with
    | separator => exact ⟨_, rfl, Or.inl (by simp [Function.comp_def, Value.asText])⟩
    | ambiguous => exact ⟨_, rfl, Or.inr ⟨rfl, rfl⟩⟩
    | file name =>
      refine ⟨_, rfl, h.imp (fun e => by rw [e]) fun e => ?_⟩
      simp [e.1, e.2]
    | flags fs =>
      refine ⟨_, rfl, h.imp (fun e => by rw [e]) fun e => ?_⟩
      simp [e.1, e.2]
    | unknown =>
      refine ⟨_, rfl, h.imp (fun e => by rw [e]) fun e => ?_⟩
      simp [e.1, e.2]
    | misused =>
      refine ⟨_, rfl, h.imp (fun e => by rw [e]) fun e => ?_⟩
      simp [e.1, e.2]

end Argument

namespace Command

variable {D : Type} [Arithmetic D] [Numeral D]

/-- What the arguments that a value gives ask for; nothing gives none. -/
def ofValue : Value D → Except Failure Command
  | .none => .ok (ofArguments [])
  | v => do return ofMeanings (← Argument.ofValues (← v.steps))

/-- A list of texts asks for what the same arguments ask for on the command line. -/
theorem ofValue_texts (args : List String) :
    ofValue (.list (args.map fun s => (Value.text s : Value D))) = .ok (ofArguments args) := by
  obtain ⟨ms, hms, h⟩ := Argument.ofValues_texts (D := D) args
  simp only [ofValue, Value.steps, bind, Except.bind, pure, Except.pure, hms, ofArguments]
  rcases h with rfl | ⟨h, h'⟩
  · rfl
  · simp [ofMeanings, h, h']

end Command

end MeshlessGas
