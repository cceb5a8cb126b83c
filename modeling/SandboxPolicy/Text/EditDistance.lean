/-!
Edit distance between texts by rows of a table, and the suggestion of a name close to a mistyped
one.
-/

namespace SandboxPolicy

variable {α : Type} [DecidableEq α]

/-- The rest of the row of `c`: `corner` and the list hold the row above, `left` the cell before. -/
def nextCells (c : α) : List α → (corner : Nat) → (above : List Nat) → (left : Nat) → List Nat
  | other :: others, corner, up :: above, left =>
      let cell := min (min (corner + if c = other then 0 else 1) (up + 1)) (left + 1)
      cell :: nextCells c others up above cell
  | _, _, _, _ => []

def nextRow (c : α) (target : List α) (row : List Nat) : List Nat :=
  match row with
  | [] => []
  | corner :: above => (corner + 1) :: nextCells c target corner above (corner + 1)

def finalRow (source target : List α) : List Nat :=
  source.foldl (fun row c => nextRow c target row) (List.range (target.length + 1))

/-- The least number of insertions, deletions and substitutions that turn one list into the
other. -/
def editDistance (source target : List α) : Nat := (finalRow source target).getLastD 0

def nearer (best : Option (String × Nat)) (candidate : String × Nat) : Option (String × Nat) :=
  match best with
  | some (name, distance) =>
      if distance ≤ candidate.2 then some (name, distance) else some candidate
  | none => some candidate

/-- The first of the nearest candidates that differ from the name by one to three edits. -/
def closest (name : String) (candidates : List String) : Option String :=
  let measured := candidates.map fun candidate =>
    (candidate, editDistance name.toList candidate.toList)
  let close := measured.filter fun entry => 0 < entry.2 && entry.2 ≤ 3
  (close.foldl nearer none).map Prod.fst

end SandboxPolicy
