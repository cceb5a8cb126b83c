import Mathlib.Data.List.Chain
import Mathlib.Data.List.Nodup
import Mathlib.Logic.Relator

/-!
Walks by moves that leave no choice. Such a walk either gets stuck, and then there is only one, or
comes to a place twice and never ends.
-/

namespace SandboxPolicy.Walk

variable {α : Type} {move : α → α → Prop} {start place : α} {path left right : List α}
  {route other : Nat → α}

structure From (move : α → α → Prop) (start : α) (path : List α) : Prop where
  head : path.head? = some start
  chain : path.IsChain move

structure Endless (move : α → α → Prop) (start : α) (route : Nat → α) : Prop where
  first : route 0 = start
  moves : ∀ n, move (route n) (route (n + 1))

def FirstRepeat (route : Nat → α) (place : α) : Prop :=
  ∃ n, route n = place ∧ (∃ m < n, route m = place) ∧ ∀ k < n, ∀ m < k, route m ≠ route k

theorem From.single (move : α → α → Prop) (start : α) : From move start [start] :=
  ⟨rfl, .singleton start⟩

theorem From.cons {next : α} (moved : move start next) (onward : From move next path) :
    From move start (start :: path) := by
  refine ⟨rfl, onward.chain.cons ?_⟩
  intro second found
  rw [onward.head] at found
  exact Option.some.inj found ▸ moved

theorem From.cons_inv {first second : α} {rest : List α}
    (walked : From move start (first :: second :: rest)) :
    first = start ∧ move first second ∧ From move second (second :: rest) := by
  have chain := List.isChain_cons_cons.mp walked.chain
  exact ⟨Option.some.inj walked.head, chain.1, rfl, chain.2⟩

theorem From.unique (functional : Relator.RightUnique move) (one : From move start left)
    (two : From move start right) (stuck : ∀ last ∈ left.getLast?, ∀ next, ¬ move last next)
    (stuck' : ∀ last ∈ right.getLast?, ∀ next, ¬ move last next) : left = right := by
  induction left generalizing start right with
  | nil => exact absurd one.head (by simp)
  | cons first rest ih =>
      cases right with
      | nil => exact absurd two.head (by simp)
      | cons first' rest' =>
          obtain rfl : first = start := Option.some.inj one.head
          obtain rfl : first' = first := Option.some.inj two.head
          cases rest with
          | nil =>
              cases rest' with
              | nil => rfl
              | cons next _ => exact absurd two.cons_inv.2.1 (stuck _ (by simp) next)
          | cons second _ =>
              cases rest' with
              | nil => exact absurd one.cons_inv.2.1 (stuck' _ (by simp) second)
              | cons next _ =>
                  obtain rfl := functional one.cons_inv.2.1 two.cons_inv.2.1
                  rw [ih one.cons_inv.2.2 two.cons_inv.2.2 (by simpa using stuck)
                    (by simpa using stuck')]

theorem Endless.tail (endless : Endless move start route) :
    Endless move (route 1) fun n => route (n + 1) :=
  ⟨rfl, fun n => endless.moves (n + 1)⟩

theorem Endless.covers (functional : Relator.RightUnique move)
    (endless : Endless move start route) (walked : From move start path) {n : Nat}
    (within : n < path.length) : path[n] = route n := by
  induction n generalizing start path route with
  | zero =>
      have head := walked.head
      rw [List.head?_eq_getElem?, List.getElem?_eq_getElem within] at head
      rw [endless.first, Option.some.inj head]
  | succ n ih =>
      match path, walked, within with
      | first :: second :: rest, walked, within =>
          obtain ⟨rfl, moved, onward⟩ := walked.cons_inv
          have same : second = route 1 := functional moved (endless.first ▸ endless.moves 0)
          exact ih endless.tail (same ▸ onward) (Nat.lt_of_succ_lt_succ within)

theorem Endless.not_stuck (functional : Relator.RightUnique move)
    (endless : Endless move start route) (walked : From move start path) :
    ¬ ∀ last ∈ path.getLast?, ∀ next, ¬ move last next := by
  intro stuck
  cases ends : path.getLast? with
  | none =>
      have head := walked.head
      rw [List.getLast?_eq_none_iff.mp ends] at head
      simp at head
  | some last =>
      obtain ⟨bound, found⟩ := List.getElem?_eq_some_iff.mp (List.getLast?_eq_getElem? ▸ ends)
      rw [endless.covers functional walked bound] at found
      exact stuck last ends _ (found ▸ endless.moves _)

theorem Endless.unique (functional : Relator.RightUnique move)
    (one : Endless move start route) (two : Endless move start other) : route = other := by
  funext n
  induction n with
  | zero => rw [one.first, two.first]
  | succ n ih => exact functional (one.moves n) (ih ▸ two.moves n)

theorem FirstRepeat.unique {place' : α} (one : FirstRepeat route place)
    (two : FirstRepeat route place') : place = place' := by
  obtain ⟨n, rfl, ⟨m, before, same⟩, fresh⟩ := one
  obtain ⟨n', rfl, ⟨m', before', same'⟩, fresh'⟩ := two
  rcases Nat.lt_trichotomy n n' with less | equal | greater
  · exact absurd same (fresh' n less m before)
  · rw [equal]
  · exact absurd same' (fresh n' greater m' before')

theorem Endless.firstRepeat (functional : Relator.RightUnique move)
    (endless : Endless move start route) (walked : From move start (path ++ [place]))
    (back : place ∈ path) (distinct : path.Nodup) : FirstRepeat route place := by
  have along : ∀ n (bound : n < path.length), path[n] = route n := by
    intro n bound
    rw [← endless.covers functional walked (by simp; omega), List.getElem_append_left bound]
  refine ⟨path.length, ?_, ?_, ?_⟩
  · rw [← endless.covers functional walked (by simp), List.getElem_append_right (le_refl _)]
    simp
  · obtain ⟨m, bound, same⟩ := List.getElem_of_mem back
    exact ⟨m, bound, by rw [← along m bound, same]⟩
  · intro k bound m less same
    rw [← along k bound, ← along m (by omega)] at same
    have equal := distinct.getElem_inj_iff.mp same
    omega

/-- From each place of a path that comes back to one of them a move leads to one of them. -/
theorem From.onward (walked : From move start (path ++ [place])) (back : place ∈ path) :
    ∀ now ∈ path, ∃ next ∈ path, move now next := by
  intro now member
  obtain ⟨n, bound, rfl⟩ := List.getElem_of_mem member
  have moved := List.isChain_iff_getElem.mp walked.chain n (by simp; omega)
  rw [List.getElem_append_left bound] at moved
  refine ⟨_, ?_, moved⟩
  by_cases inner : n + 1 < path.length
  · rw [List.getElem_append_left inner]
    exact List.getElem_mem inner
  · rw [List.getElem_append_right (by omega)]
    simpa using back

theorem From.endless (walked : From move start (path ++ [place])) (back : place ∈ path) :
    ∃ route, Endless move start route := by
  -- The route repeats one chosen move from each place of the path, all of which stay on it.
  choose! next stays moves using walked.onward back
  have started : start ∈ path := by
    cases path with
    | nil => simp at back
    | cons first rest =>
        obtain rfl : first = start := Option.some.inj walked.head
        exact List.mem_cons_self
  have within : ∀ n, next^[n] start ∈ path := by
    intro n
    induction n with
    | zero => exact started
    | succ n ih =>
        rw [Function.iterate_succ_apply']
        exact stays _ ih
  refine ⟨fun n => next^[n] start, rfl, fun n => ?_⟩
  rw [Function.iterate_succ_apply']
  exact moves _ (within n)

end SandboxPolicy.Walk
