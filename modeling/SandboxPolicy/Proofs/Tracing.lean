import SandboxPolicy.Evaluator
import SandboxPolicy.Proofs.Outcome
import SandboxPolicy.Proofs.Walk

/-!
The walk of an evaluation, told without the evaluator's own bookkeeping: the moves from node to
node, the verdicts that end them, and the obstacles that stop them.
-/

namespace SandboxPolicy

open Walk

namespace Evaluator

variable (evaluator : Evaluator) (request : Request)

def Moves (index next : Nat) : Prop :=
  ∃ node holds, evaluator.image.nodes[index]? = some node ∧ node.opcode = Node.filterOpcode ∧
    evaluator.nodeMatches request index node = .ok holds ∧
    next = (if holds then node.onMatch else node.onUnmatch).toNat

def Settles (index : Nat) (verdict : Verdict) : Prop :=
  ∃ node, evaluator.image.nodes[index]? = some node ∧ node.opcode = Node.terminalOpcode ∧
    Action.ofCode? node.argument = some verdict.action ∧
    verdict.modifiers = Modifiers.ofBits node.onMatch

inductive Unresolved (kind : ArgumentKind) (argument : UInt16) : BytecodeError → Prop where
  | regex : kind = .regex → evaluator.regexes[argument.toNat]? = none →
      Unresolved kind argument (.offsetTooLarge argument.toNat evaluator.regexes.length)
  | text {fault : BytecodeError} : kind ≠ .regex → kind ≠ .entitlement →
      evaluator.image.data.text argument = .error fault → Unresolved kind argument fault

/-- What stops a walk at a place to which the source, or else the operation, has led it. -/
inductive Obstructs (operation : Nat) : Option Nat → Nat → EvalError → Prop where
  | entry {index : Nat} : evaluator.image.nodes[index]? = none →
      Obstructs operation none index
        (.danglingEntry operation index evaluator.image.nodes.length)
  | target {source index : Nat} : evaluator.image.nodes[index]? = none →
      Obstructs operation (some source) index
        (.danglingNode source index evaluator.image.nodes.length)
  | action {source : Option Nat} {index : Nat} {node : Node} :
      evaluator.image.nodes[index]? = some node → node.opcode = Node.terminalOpcode →
      Action.ofCode? node.argument = none → Obstructs operation source index (.invalidNode index)
  | opcode {source : Option Nat} {index : Nat} {node : Node} :
      evaluator.image.nodes[index]? = some node → node.opcode ≠ Node.terminalOpcode →
      node.opcode ≠ Node.filterOpcode → Obstructs operation source index (.invalidNode index)
  | filter {source : Option Nat} {index : Nat} {node : Node} :
      evaluator.image.nodes[index]? = some node → node.opcode = Node.filterOpcode →
      Catalogue.byId? node.filter = none →
      Obstructs operation source index (.unknownFilter index node.filter)
  | argument {source : Option Nat} {index : Nat} {node : Node} {filter : FilterDef}
      {asked : String} {fault : BytecodeError} :
      evaluator.image.nodes[index]? = some node → node.opcode = Node.filterOpcode →
      Catalogue.byId? node.filter = some filter → request.argument = some asked →
      evaluator.Unresolved filter.kind node.argument fault →
      Obstructs operation source index (.bytecode fault)

variable {evaluator request} {index next operation : Nat} {source : Option Nat} {node : Node}

theorem argumentMatches_eq_error {filter : FilterDef} {asked : String} {fault : BytecodeError} :
    evaluator.argumentMatches filter node asked = .error fault ↔
      evaluator.Unresolved filter.kind node.argument fault := by
  have text {test : String → Bool} :
      (do return test (← evaluator.image.data.text node.argument)) = Except.error fault ↔
        evaluator.image.data.text node.argument = .error fault := by
    simp [Outcome.bind_eq_error, pure, Except.pure]
  constructor
  · intro failed
    rw [argumentMatches] at failed
    split at failed
    next isRegex =>
      split at failed
      next missing =>
        cases failed
        exact .regex isRegex missing
      next => simp at failed
    next isPath => exact .text (by simp [isPath]) (by simp [isPath]) (text.mp failed)
    next isAddress => exact .text (by simp [isAddress]) (by simp [isAddress]) (text.mp failed)
    next isName => exact .text (by simp [isName]) (by simp [isName]) (text.mp failed)
    next isKeyword => exact .text (by simp [isKeyword]) (by simp [isKeyword]) (text.mp failed)
    next => simp at failed
  · rintro (⟨isRegex, missing⟩ | ⟨notRegex, notEntitlement, failed⟩)
    · rw [argumentMatches, isRegex]
      simp [missing]
    · rw [argumentMatches]
      split
      next isRegex => exact absurd isRegex notRegex
      next => exact text.mpr failed
      next => exact text.mpr failed
      next => exact text.mpr failed
      next => exact text.mpr failed
      next isEntitlement => exact absurd isEntitlement notEntitlement

theorem nodeMatches_eq_error {error : EvalError} :
    evaluator.nodeMatches request index node = .error error ↔
      (Catalogue.byId? node.filter = none ∧ error = .unknownFilter index node.filter) ∨
      ∃ filter asked fault, Catalogue.byId? node.filter = some filter ∧
        request.argument = some asked ∧
        evaluator.Unresolved filter.kind node.argument fault ∧ error = .bytecode fault := by
  rw [nodeMatches]
  cases known : Catalogue.byId? node.filter with
  | none => simp [eq_comm]
  | some filter =>
      by_cases entitled : filter.kind = .entitlement
      · have resolved : ∀ fault, ¬ evaluator.Unresolved .entitlement node.argument fault := by
          rintro fault (⟨isRegex, _⟩ | ⟨_, notEntitlement, _⟩)
          · simp at isRegex
          · exact notEntitlement rfl
        cases evaluator.image.entitlement? node.argument <;> simp [entitled, resolved]
      · cases asked : request.argument with
        | none => simp [entitled]
        | some value =>
            simp only [entitled, ↓reduceIte, Outcome.mapError_eq_error, argumentMatches_eq_error]
            constructor
            · rintro ⟨fault, unresolved, rfl⟩
              exact .inr ⟨filter, value, fault, rfl, rfl, unresolved, rfl⟩
            · rintro (⟨impossible, _⟩ | ⟨_, _, fault, same, _, unresolved, rfl⟩)
              · simp at impossible
              · cases same
                exact ⟨fault, unresolved, rfl⟩

theorem moves_unique : Relator.RightUnique (evaluator.Moves request) := by
  rintro index _ _ ⟨node, holds, found, _, tested, rfl⟩ ⟨node', holds', found', _, tested', rfl⟩
  obtain rfl : node = node' := by simpa [found] using found'
  obtain rfl : holds = holds' := by simpa [tested] using tested'
  rfl

theorem Moves.bound (moved : evaluator.Moves request index next) :
    index < evaluator.image.nodes.length := by
  obtain ⟨node, _, found, _⟩ := moved
  exact (List.getElem?_eq_some_iff.mp found).1

theorem Settles.bound {verdict : Verdict} (settled : evaluator.Settles index verdict) :
    index < evaluator.image.nodes.length := by
  obtain ⟨node, found, _⟩ := settled
  exact (List.getElem?_eq_some_iff.mp found).1

theorem Settles.stuck {verdict : Verdict} (settled : evaluator.Settles index verdict) :
    ¬ evaluator.Moves request index next := by
  rintro ⟨node, _, found, isFilter, _⟩
  obtain ⟨node', found', isTerminal, _⟩ := settled
  obtain rfl : node = node' := by simpa [found] using found'
  rw [isFilter] at isTerminal
  exact absurd isTerminal (by decide)

theorem Settles.unique {verdict verdict' : Verdict} (one : evaluator.Settles index verdict)
    (two : evaluator.Settles index verdict') : verdict = verdict' := by
  obtain ⟨node, found, _, action, modifiers⟩ := one
  obtain ⟨node', found', _, action', modifiers'⟩ := two
  obtain rfl : node = node' := by simpa [found] using found'
  have sameAction : verdict.action = verdict'.action := by simpa [action] using action'
  cases verdict
  cases verdict'
  simp_all

theorem Obstructs.stuck {error : EvalError}
    (obstructed : evaluator.Obstructs request operation source index error) :
    ¬ evaluator.Moves request index next := by
  rintro ⟨node, holds, found, isFilter, tested, _⟩
  have matches_error (error : EvalError) :
      ¬ evaluator.nodeMatches request index node = .error error := by simp [tested]
  simp only [nodeMatches_eq_error, not_or] at matches_error
  cases obstructed with
  | entry missing => simp [missing] at found
  | target missing => simp [missing] at found
  | action found' isTerminal _ =>
      obtain rfl := Option.some.inj (found.symm.trans found')
      rw [isFilter] at isTerminal
      exact absurd isTerminal (by decide)
  | opcode found' _ notFilter =>
      obtain rfl := Option.some.inj (found.symm.trans found')
      exact notFilter isFilter
  | filter found' _ unknown =>
      obtain rfl := Option.some.inj (found.symm.trans found')
      exact (matches_error _).1 ⟨unknown, rfl⟩
  | argument found' _ known asked unresolved =>
      obtain rfl := Option.some.inj (found.symm.trans found')
      exact (matches_error _).2 ⟨_, _, _, known, asked, unresolved, rfl⟩

theorem progress (evaluator : Evaluator) (request : Request) (operation : Nat)
    (source : Option Nat) (index : Nat) :
    (∃ verdict, evaluator.Settles index verdict) ∨ (∃ next, evaluator.Moves request index next) ∨
      ∃ error, evaluator.Obstructs request operation source index error := by
  cases found : evaluator.image.nodes[index]? with
  | none =>
      cases source with
      | none => exact .inr (.inr ⟨_, .entry found⟩)
      | some source => exact .inr (.inr ⟨_, .target found⟩)
  | some node =>
      by_cases isTerminal : node.opcode = Node.terminalOpcode
      · cases known : Action.ofCode? node.argument with
        | none => exact .inr (.inr ⟨_, .action found isTerminal known⟩)
        | some action =>
            exact .inl ⟨⟨action, Modifiers.ofBits node.onMatch⟩, node, found, isTerminal, known,
              rfl⟩
      · by_cases isFilter : node.opcode = Node.filterOpcode
        · cases tested : evaluator.nodeMatches request index node with
          | ok holds => exact .inr (.inl ⟨_, node, holds, found, isFilter, tested, rfl⟩)
          | error error =>
              rcases nodeMatches_eq_error.mp tested with
                ⟨unknown, _⟩ | ⟨_, _, _, known, asked, unresolved, _⟩
              · exact .inr (.inr ⟨_, .filter found isFilter unknown⟩)
              · exact .inr (.inr ⟨_, .argument found isFilter known asked unresolved⟩)
        · exact .inr (.inr ⟨_, .opcode found isTerminal isFilter⟩)

section

variable {unvisited : List Nat}

theorem walk_settled {verdict : Verdict} (member : index ∈ unvisited)
    (settled : evaluator.Settles index verdict) :
    evaluator.walk request operation source unvisited index = .ok (verdict, [index]) := by
  obtain ⟨node, found, isTerminal, action, modifiers⟩ := settled
  rw [walk]
  simp [found, member, Node.isTerminal, Node.verdict?, isTerminal, action, ← modifiers]

theorem walk_moved (member : index ∈ unvisited) (moved : evaluator.Moves request index next) :
    evaluator.walk request operation source unvisited index =
      (evaluator.walk request operation (some index) (unvisited.erase index) next).map
        fun rest => (rest.1, index :: rest.2) := by
  obtain ⟨node, holds, found, isFilter, tested, rfl⟩ := moved
  have notTerminal : Node.filterOpcode ≠ Node.terminalOpcode := by decide
  rw [walk]
  simp [found, member, Node.isTerminal, notTerminal, isFilter, tested]

theorem walk_obstructed {error : EvalError}
    (reached : index < evaluator.image.nodes.length → index ∈ unvisited)
    (obstructed : evaluator.Obstructs request operation source index error) :
    evaluator.walk request operation source unvisited index = .error error := by
  have member {node : Node} (found : evaluator.image.nodes[index]? = some node) :
      index ∈ unvisited := reached (List.getElem?_eq_some_iff.mp found).1
  have apart : Node.filterOpcode ≠ Node.terminalOpcode := by decide
  rw [walk]
  cases obstructed with
  | entry missing => simp [missing, dangling]
  | target missing => simp [missing, dangling]
  | action found isTerminal unknown =>
      simp [found, member found, Node.isTerminal, Node.verdict?, isTerminal, unknown]
  | opcode found notTerminal notFilter =>
      simp [found, member found, Node.isTerminal, notTerminal, notFilter]
  | @filter _ _ node found isFilter unknown =>
      have failed : evaluator.nodeMatches request index node = _ :=
        nodeMatches_eq_error.mpr (.inl ⟨unknown, rfl⟩)
      simp [found, member found, Node.isTerminal, isFilter, apart, failed]
  | @argument _ _ node _ _ _ found isFilter known asked unresolved =>
      have failed : evaluator.nodeMatches request index node = _ :=
        nodeMatches_eq_error.mpr (.inr ⟨_, _, _, known, asked, unresolved, rfl⟩)
      simp [found, member found, Node.isTerminal, isFilter, apart, failed]

theorem walk_returned (bound : index < evaluator.image.nodes.length) (visited : index ∉ unvisited) :
    evaluator.walk request operation source unvisited index = .error (.cycle index) := by
  rw [walk, List.getElem?_eq_getElem bound]
  simp [visited]

end

theorem Obstructs.unique {error error' : EvalError}
    (one : evaluator.Obstructs request operation source index error)
    (two : evaluator.Obstructs request operation source index error') : error = error' := by
  have first := walk_obstructed (fun _ => List.mem_singleton_self index) one
  have second := walk_obstructed (fun _ => List.mem_singleton_self index) two
  simpa [first] using second

theorem Obstructs.ne_cycle {error : EvalError}
    (obstructed : evaluator.Obstructs request operation source index error) (place : Nat) :
    error ≠ .cycle place := by
  cases obstructed <;> simp

/-- How a walk ends that has yet to come to the unvisited places. -/
inductive Ending (evaluator : Evaluator) (request : Request) (operation : Nat)
    (source : Option Nat) (unvisited : List Nat) (index : Nat) :
    Except EvalError (Verdict × List Nat) → Prop where
  | settled {verdict : Verdict} {trace : List Nat} {last : Nat} :
      From (evaluator.Moves request) index trace → trace.Nodup → trace ⊆ unvisited →
      last ∈ trace.getLast? → evaluator.Settles last verdict →
      Ending evaluator request operation source unvisited index (.ok (verdict, trace))
  | obstructed {before : List Nat} {last : Nat} {error : EvalError} :
      From (evaluator.Moves request) index (before ++ [last]) →
      evaluator.Obstructs request operation (before.getLast?.or source) last error →
      Ending evaluator request operation source unvisited index (.error error)
  | returned {before : List Nat} {last : Nat} :
      From (evaluator.Moves request) index (before ++ [last]) → before.Nodup →
      before ⊆ unvisited → last < evaluator.image.nodes.length →
      (last ∈ unvisited → last ∈ before) →
      Ending evaluator request operation source unvisited index (.error (.cycle last))

theorem Ending.step {unvisited : List Nat} {result : Except EvalError (Verdict × List Nat)}
    (distinct : unvisited.Nodup) (member : index ∈ unvisited)
    (moved : evaluator.Moves request index next)
    (ending : Ending evaluator request operation (some index) (unvisited.erase index) next
      result) :
    Ending evaluator request operation source unvisited index
      (result.map fun rest => (rest.1, index :: rest.2)) := by
  have fresh : index ∉ unvisited.erase index := distinct.not_mem_erase
  have fewer : unvisited.erase index ⊆ unvisited := List.erase_subset
  cases ending with
  | @settled verdict trace last walked nodup within ends settled =>
      refine .settled (walked.cons moved) ?_ ?_ ?_ settled
      · exact List.nodup_cons.mpr ⟨fun member => fresh (within member), nodup⟩
      · exact List.cons_subset.mpr ⟨member, fun _ present => fewer (within present)⟩
      · rw [List.getLast?_cons, Option.mem_def.mp ends]
        rfl
  | @obstructed before last error walked obstructed =>
      refine @Ending.obstructed _ _ _ _ _ _ (index :: before) last error (walked.cons moved) ?_
      cases onward : before.getLast? <;> simpa [List.getLast?_cons, onward] using obstructed
  | @returned before last walked nodup within bound back =>
      refine @Ending.returned _ _ _ _ _ _ (index :: before) last (walked.cons moved) ?_ ?_ bound ?_
      · exact List.nodup_cons.mpr ⟨fun member => fresh (within member), nodup⟩
      · exact List.cons_subset.mpr ⟨member, fun _ present => fewer (within present)⟩
      · intro present
        by_cases same : last = index
        · exact same ▸ List.mem_cons_self
        · exact List.mem_cons_of_mem _ (back ((List.mem_erase_of_ne same).mpr present))

theorem walk_ending {unvisited : List Nat} (distinct : unvisited.Nodup) :
    Ending evaluator request operation source unvisited index
      (evaluator.walk request operation source unvisited index) := by
  -- A move takes a place from the unvisited ones, so what is left of the walk has fewer of them.
  induction size : unvisited.length using Nat.strong_induction_on
    generalizing source unvisited index with
  | _ size ih =>
      by_cases reached : index < evaluator.image.nodes.length → index ∈ unvisited
      · rcases evaluator.progress request operation source index with
          ⟨verdict, settled⟩ | ⟨next, moved⟩ | ⟨error, obstructed⟩
        · have member := reached settled.bound
          rw [walk_settled member settled]
          exact .settled (.single _ index) (List.nodup_singleton index) (by simpa using member)
            (by simp) settled
        · have member := reached moved.bound
          rw [walk_moved member moved]
          refine Ending.step distinct member moved (ih _ ?_ (distinct.erase index) rfl)
          rw [List.length_erase_of_mem member, ← size]
          have nonempty := List.length_pos_of_mem member
          omega
        · rw [walk_obstructed reached obstructed]
          exact @Ending.obstructed _ _ _ _ _ _ [] index error (.single _ index) obstructed
      · obtain ⟨bound, visited⟩ := Classical.not_imp.mp reached
        rw [walk_returned bound visited]
        exact @Ending.returned _ _ _ _ _ _ [] index (.single _ index) .nil (by simp) bound
          fun member => absurd member visited

theorem Settles.not_obstructs {verdict : Verdict} {error : EvalError}
    (settled : evaluator.Settles index verdict) :
    ¬ evaluator.Obstructs request operation source index error := by
  intro obstructed
  have stopped := walk_obstructed (fun _ => List.mem_singleton_self index) obstructed
  rw [walk_settled (List.mem_singleton_self index) settled] at stopped
  simp at stopped

/-- What a walk from the entry comes to: a verdict, an obstacle, or no end. -/
inductive Concludes (evaluator : Evaluator) (request : Request) (operation entry : Nat) :
    Except EvalError Decision → Prop where
  | settled {decision : Decision} {last : Nat} :
      decision.operation = operation →
      From (evaluator.Moves request) entry decision.trace → last ∈ decision.trace.getLast? →
      evaluator.Settles last decision.verdict →
      Concludes evaluator request operation entry (.ok decision)
  | obstructed {before : List Nat} {last : Nat} {error : EvalError} :
      From (evaluator.Moves request) entry (before ++ [last]) →
      evaluator.Obstructs request operation before.getLast? last error →
      Concludes evaluator request operation entry (.error error)
  | endless {route : Nat → Nat} {index : Nat} :
      Endless (evaluator.Moves request) entry route → FirstRepeat route index →
      Concludes evaluator request operation entry (.error (.cycle index))

variable {entry : Nat}

theorem Settles.last_stuck {trace : List Nat} {last : Nat} {verdict : Verdict}
    (settled : evaluator.Settles last verdict) (ends : last ∈ trace.getLast?) :
    ∀ last ∈ trace.getLast?, ∀ next, ¬ evaluator.Moves request last next := by
  intro last' ends' next
  obtain rfl := Option.mem_unique ends ends'
  exact settled.stuck

theorem Obstructs.last_stuck {before : List Nat} {last : Nat} {error : EvalError}
    (obstructed : evaluator.Obstructs request operation source last error) :
    ∀ last' ∈ (before ++ [last]).getLast?, ∀ next, ¬ evaluator.Moves request last' next := by
  intro last' ends next
  obtain rfl : last = last' := by simpa using ends
  exact obstructed.stuck

theorem Settles.excludes {trace before : List Nat} {last last' : Nat} {verdict : Verdict}
    {error : EvalError} (settled : evaluator.Settles last verdict)
    (walked : From (evaluator.Moves request) entry trace) (ends : last ∈ trace.getLast?)
    (walked' : From (evaluator.Moves request) entry (before ++ [last'])) :
    ¬ evaluator.Obstructs request operation source last' error := by
  intro obstructed
  have same := walked.unique moves_unique walked' (settled.last_stuck ends) obstructed.last_stuck
  rw [same] at ends
  obtain rfl : last' = last := by simpa using ends
  exact settled.not_obstructs obstructed

theorem Concludes.unique {result result' : Except EvalError Decision}
    (one : evaluator.Concludes request operation entry result)
    (two : evaluator.Concludes request operation entry result') : result = result' := by
  cases one with
  | @settled decision last resolved walked ends settled =>
      cases two with
      | @settled decision' last' resolved' walked' ends' settled' =>
          have same := walked.unique moves_unique walked' (settled.last_stuck ends)
            (settled'.last_stuck ends')
          rw [same] at ends
          obtain rfl := Option.mem_unique ends ends'
          have verdict := settled.unique settled'
          cases decision
          cases decision'
          simp_all
      | obstructed walked' obstructed =>
          exact absurd obstructed (settled.excludes walked ends walked')
      | endless endless _ =>
          exact absurd (settled.last_stuck ends) (endless.not_stuck moves_unique walked)
  | @obstructed before last error walked obstructed =>
      cases two with
      | settled _ walked' ends' settled =>
          exact absurd obstructed (settled.excludes walked' ends' walked)
      | @obstructed before' last' error' walked' obstructed' =>
          have same := walked.unique moves_unique walked' obstructed.last_stuck
            obstructed'.last_stuck
          obtain ⟨rfl, rfl⟩ : before = before' ∧ last = last' := by simpa using same
          rw [obstructed.unique obstructed']
      | endless endless _ =>
          exact absurd obstructed.last_stuck (endless.not_stuck moves_unique walked)
  | endless endless repeats =>
      cases two with
      | settled _ walked' ends' settled =>
          exact absurd (settled.last_stuck ends') (endless.not_stuck moves_unique walked')
      | obstructed walked' obstructed =>
          exact absurd obstructed.last_stuck (endless.not_stuck moves_unique walked')
      | endless endless' repeats' =>
          obtain rfl := endless.unique moves_unique endless'
          rw [repeats.unique repeats']

end Evaluator

end SandboxPolicy
