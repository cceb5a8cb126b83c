import SandboxPolicy.Compiler

/-!
What chains are lowered with: a step for each verdict and for each leaf of a filter. All the rest is
to take these one after the other, so what is kept by that holds of a whole chain.
-/

namespace SandboxPolicy.Lower

/-- An argument is entered into a table or stored as a text, and a path that begins with a variable
is stored behind its entry. -/
theorem argument_cases (value : Argument) :
    (∃ kind text, argument value = Builder.entry kind text) ∨
      (∃ text, argument value = Builder.text text) ∨
      ∃ name path, argument value =
        Builder.entry .variable name >>= fun _ => Builder.text path := by
  cases value with
  | path path =>
      cases leading : patternVariable? path.toList with
      | some name =>
          refine .inr (.inr ⟨String.ofList name, path, ?_⟩)
          simp only [argument, leading]
          exact bind_map_left _ _ _
      | none =>
          exact .inr (.inl ⟨path, by simp only [argument, leading]⟩)
  | regex pattern => exact .inl ⟨.regex, pattern, rfl⟩
  | entitlement key => exact .inl ⟨.entitlement, key, rfl⟩
  | name value | keyword value | address value => exact .inr (.inl ⟨value, rfl⟩)

/-- What holds of two steps holds of the one followed by the other. A step comes with the number of
leaves that it is for. -/
structure Closed (holds : Nat → Lower UInt16 → Prop) : Prop where
  pure : ∀ value, holds 0 (pure value)
  bind : ∀ {count more : Nat} {first : Lower UInt16} {next : UInt16 → Lower UInt16},
    holds count first → (∀ value, holds more (next value)) → holds (count + more) (first >>= next)

def HoldsAt (holds : Nat → Lower UInt16 → Prop) (leaf : String × Argument) : Prop :=
  ∀ onMatch onUnmatch, holds 1 (filter onMatch onUnmatch (.leaf leaf.1 leaf.2))

variable {holds : Nat → Lower UInt16 → Prop}

mutual

theorem filter_closed (closed : Closed holds) (guard : Filter)
    (each : ∀ leaf ∈ guard.leaves, HoldsAt holds leaf) (onMatch onUnmatch : UInt16) :
    holds guard.leaves.length (filter onMatch onUnmatch guard) := by
  match guard with
  | .leaf name value => exact each (name, value) (by simp [Filter.leaves]) onMatch onUnmatch
  | .all items =>
      rw [Filter.leaves] at each ⊢
      rw [filter]
      exact allOf_closed closed items each onMatch onUnmatch
  | .any items =>
      rw [Filter.leaves] at each ⊢
      rw [filter]
      exact anyOf_closed closed items each onMatch onUnmatch
  | .not item =>
      rw [Filter.leaves] at each ⊢
      rw [filter]
      exact filter_closed closed item each onUnmatch onMatch

theorem allOf_closed (closed : Closed holds) (items : List Filter)
    (each : ∀ leaf ∈ Filter.leavesOf items, HoldsAt holds leaf) (onMatch onUnmatch : UInt16) :
    holds (Filter.leavesOf items).length (allOf onMatch onUnmatch items) := by
  match items with
  | [] =>
      rw [allOf, Filter.leavesOf]
      exact closed.pure onMatch
  | first :: rest =>
      rw [Filter.leavesOf] at each
      rw [allOf, Filter.leavesOf, List.length_append, Nat.add_comm]
      refine closed.bind (allOf_closed closed rest (fun leaf member => ?_) onMatch onUnmatch)
        fun next => filter_closed closed first (fun leaf member => ?_) next onUnmatch
      · exact each leaf (List.mem_append_right _ member)
      · exact each leaf (List.mem_append_left _ member)

theorem anyOf_closed (closed : Closed holds) (items : List Filter)
    (each : ∀ leaf ∈ Filter.leavesOf items, HoldsAt holds leaf) (onMatch onUnmatch : UInt16) :
    holds (Filter.leavesOf items).length (anyOf onMatch onUnmatch items) := by
  match items with
  | [] =>
      rw [anyOf, Filter.leavesOf]
      exact closed.pure onUnmatch
  | first :: rest =>
      rw [Filter.leavesOf] at each
      rw [anyOf, Filter.leavesOf, List.length_append, Nat.add_comm]
      refine closed.bind (anyOf_closed closed rest (fun leaf member => ?_) onMatch onUnmatch)
        fun next => filter_closed closed first (fun leaf member => ?_) onMatch next
      · exact each leaf (List.mem_append_right _ member)
      · exact each leaf (List.mem_append_left _ member)

end

theorem tests_closed (closed : Closed holds) {guarded : List (Filter × Verdict)}
    (verdicts : ∀ item ∈ guarded, holds 0 (terminal item.2))
    (leaves : ∀ item ∈ guarded, ∀ leaf ∈ item.1.leaves, HoldsAt holds leaf) (entry : UInt16) :
    holds (guarded.flatMap fun item => item.1.leaves).length (tests entry guarded) := by
  induction guarded generalizing entry with
  | nil => exact closed.pure entry
  | cons first rest ih =>
      rw [tests, List.flatMap_cons, List.length_append, ← Nat.zero_add (_ + _)]
      refine closed.bind (verdicts first List.mem_cons_self) fun decided => ?_
      refine closed.bind
        (filter_closed closed first.1 (leaves first List.mem_cons_self) decided entry) ?_
      apply ih
      · exact fun item member => verdicts item (List.mem_cons_of_mem _ member)
      · exact fun item member => leaves item (List.mem_cons_of_mem _ member)

theorem chain_closed (closed : Closed holds) {chain : Chain} (base : holds 0 (terminal chain.base))
    (verdicts : ∀ item ∈ chain.tests, holds 0 (terminal item.2))
    (leaves : ∀ item ∈ chain.tests, ∀ leaf ∈ item.1.leaves, HoldsAt holds leaf) :
    holds (chain.tests.flatMap fun item => item.1.leaves).length (Lower.chain chain) := by
  rw [← Nat.zero_add (List.length _)]
  exact closed.bind base fun entry => tests_closed closed verdicts leaves entry

end SandboxPolicy.Lower
