import SandboxPolicy.Text.Split

/-!
Names bound to texts, in the order of the names: the parameters of a policy, and the variables of
an evaluation.
-/

namespace SandboxPolicy

/-- Each name is bound once, and the names ascend. -/
structure Bindings where
  entries : List (String × String)
  ascending : entries.Pairwise fun first second => first.1 < second.1
deriving Repr, DecidableEq

namespace Bindings

def empty : Bindings := ⟨[], .nil⟩

instance : Inhabited Bindings := ⟨empty⟩

def insertEntry (name value : String) : List (String × String) → List (String × String)
  | [] => [(name, value)]
  | (other, bound) :: rest =>
      if name = other then (name, value) :: rest
      else if name < other then (name, value) :: (other, bound) :: rest
      else (other, bound) :: insertEntry name value rest

theorem eq_or_mem_of_mem_insertEntry {name value : String} {entries : List (String × String)}
    {entry : String × String} (member : entry ∈ insertEntry name value entries) :
    entry.1 = name ∨ entry ∈ entries := by
  induction entries with
  | nil =>
      rw [insertEntry, List.mem_singleton] at member
      exact .inl (congrArg Prod.fst member)
  | cons first rest ih =>
      rw [insertEntry] at member
      split at member
      next same =>
        rcases List.mem_cons.mp member with rfl | old
        · exact .inl rfl
        · exact .inr (List.mem_cons_of_mem _ old)
      next =>
        split at member
        next =>
          rcases List.mem_cons.mp member with rfl | old
          · exact .inl rfl
          · exact .inr old
        next =>
          rcases List.mem_cons.mp member with rfl | old
          · exact .inr List.mem_cons_self
          · exact (ih old).imp_right (List.mem_cons_of_mem _)

theorem insertEntry_ascending (name value : String) {entries : List (String × String)}
    (ascending : entries.Pairwise fun first second => first.1 < second.1) :
    (insertEntry name value entries).Pairwise fun first second => first.1 < second.1 := by
  induction ascending with
  | nil => exact List.pairwise_singleton _ _
  | @cons first rest below ascending ih =>
      obtain ⟨other, bound⟩ := first
      rw [insertEntry]
      split
      next same =>
        subst same
        exact .cons below ascending
      next differs =>
        split
        next before =>
          refine .cons (fun entry member => ?_) (.cons below ascending)
          rcases List.mem_cons.mp member with rfl | later
          · exact before
          · exact String.lt_trans before (below entry later)
        next notBefore =>
          have behind : other < name :=
            Std.lt_of_le_of_ne (String.not_lt.mp notBefore) (Ne.symm differs)
          refine .cons (fun entry member => ?_) ih
          rcases eq_or_mem_of_mem_insertEntry member with same | old
          · exact same ▸ behind
          · exact below entry old

def insert (bindings : Bindings) (name value : String) : Bindings :=
  ⟨insertEntry name value bindings.entries, insertEntry_ascending name value bindings.ascending⟩

def get? (bindings : Bindings) (name : String) : Option String :=
  (bindings.entries.find? fun entry => entry.1 = name).map Prod.snd

def ofList (pairs : List (String × String)) : Bindings :=
  pairs.foldl (fun bindings pair => bindings.insert pair.1 pair.2) empty

/-- Lays the second bindings over the first. -/
def merge (bindings overlay : Bindings) : Bindings :=
  overlay.entries.foldl (fun merged pair => merged.insert pair.1 pair.2) bindings

def isEmpty (bindings : Bindings) : Bool := bindings.entries.isEmpty

def render (bindings : Bindings) : String :=
  " ".intercalate (bindings.entries.map fun entry => entry.1 ++ "=" ++ entry.2)

end Bindings

/-- Reads an assignment: a name, which blanks may surround, an equals sign and any text. -/
def readAssignment (text : String) : Option (String × String) :=
  match splitFirst? '=' text.toList with
  | none => none
  | some (name, value) =>
      let name := trimBoth isBlank name
      if name.isEmpty then none else some (String.ofList name, String.ofList value)

def assignmentFault (text : String) : String := "expected NAME=VALUE, got '" ++ text ++ "'"

end SandboxPolicy
