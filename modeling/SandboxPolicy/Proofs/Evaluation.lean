import Mathlib
import SandboxPolicy.Proofs.Reading
import SandboxPolicy.Proofs.Tracing

/-!
What an evaluation answers, for any bytes that an evaluator accepts: the verdict at the end of the
walk, the first obstacle on it, or the first place that it comes back to.
-/

namespace SandboxPolicy

open Walk

theorem OperationTable.slot?_lt {table : OperationTable} {name : String} {slot : Nat}
    (found : table.slot? name = some slot) : slot < table.size := by
  rw [slot?, List.idxOf?_eq_some_iff] at found
  exact found.1

theorem OperationTable.resolve_lt {table : OperationTable} {name : String} {slot : Nat}
    (resolved : table.resolve name = some slot) : slot < table.size := by
  rw [resolve, Option.or_eq_some_iff] at resolved
  rcases resolved with found | ⟨_, found⟩
  · exact slot?_lt found
  · exact slot?_lt found

namespace Evaluator

variable {evaluator : Evaluator} {request : Request} {operation entry profile : Nat}

def under (evaluator : Evaluator) (bindings : Bindings) : Evaluator := { evaluator with bindings }

theorem ofImage_eq_ok {image : Image} {table : OperationTable} :
    ofImage image table = .ok evaluator ↔
      ∃ regexes, image.header.operationCount.toNat = table.size ∧
        image.regexes.zipIdx.mapM (fun entry => readRegex image entry.2 entry.1) = .ok regexes ∧
        evaluator = ⟨image, table, regexes, .empty⟩ := by
  rw [ofImage]
  by_cases sized : image.header.operationCount.toNat = table.size
  · simp only [sized, ne_eq, not_true_eq_false, ↓reduceIte, true_and]
    constructor
    · intro accepted
      obtain ⟨regexes, read, same⟩ := Outcome.bind_eq_ok.mp accepted
      exact ⟨regexes, read, (Except.ok.inj same).symm⟩
    · rintro ⟨regexes, read, rfl⟩
      exact Outcome.bind_eq_ok.mpr ⟨regexes, read, rfl⟩
  · simp [sized, Outcome.bind_eq_ok]

theorem ofBytes_eq_ok {bytes : List UInt8} {table : OperationTable} :
    ofBytes bytes table = .ok evaluator ↔
      ∃ image, Image.ofBytes bytes = .ok image ∧ ofImage image table = .ok evaluator := by
  rw [ofBytes, Outcome.bind_eq_ok]
  simp only [Outcome.mapError_eq_ok]

theorem Ending.concludes {result : Except EvalError (Verdict × List Nat)}
    (ending : Ending evaluator request operation none
      (List.range evaluator.image.nodes.length) entry result) :
    evaluator.Concludes request operation entry
        (result.map fun found => ⟨found.1, operation, found.2⟩) ∧
      ∀ found, result = .ok found →
        found.2.Nodup ∧ found.2.length ≤ evaluator.image.nodes.length := by
  cases ending with
  | @settled verdict trace last walked distinct within ends settled =>
      refine ⟨.settled rfl walked ends settled, ?_⟩
      intro found same
      cases same
      have bounded := (List.Nodup.subperm distinct within).length_le
      rw [List.length_range] at bounded
      exact ⟨distinct, bounded⟩
  | @obstructed before last error walked obstructed =>
      rw [Option.or_none] at obstructed
      exact ⟨.obstructed walked obstructed, by simp⟩
  | @returned before last walked distinct within bound back =>
      have member := back (List.mem_range.mpr bound)
      obtain ⟨route, endless⟩ := walked.endless member
      exact ⟨.endless endless (endless.firstRepeat moves_unique walked member distinct), by simp⟩

structure Exact (evaluator : Evaluator) (profile : Nat) (request : Request) : Prop where
  noProfile : evaluator.image.profiles[profile]? = none →
    evaluator.evaluate profile request = .error (.noSuchProfile profile evaluator.profileCount)
  unknown : ∀ record, evaluator.image.profiles[profile]? = some record →
    evaluator.table.resolve request.operation = none →
    evaluator.evaluate profile request = .error (.unknownOperation request.operation)
  resolved : ∀ record operation, evaluator.image.profiles[profile]? = some record →
    evaluator.table.resolve request.operation = some operation →
    ∃ entry, record.operations[operation]? = some entry ∧
      (∀ answer, evaluator.evaluate profile request = answer ↔
        evaluator.Concludes request operation entry.toNat answer) ∧
      ((∃ index, evaluator.evaluate profile request = .error (.cycle index)) ↔
        ∃ route, Endless (evaluator.Moves request) entry.toNat route)
  short : ∀ decision, evaluator.evaluate profile request = .ok decision →
    decision.trace.Nodup ∧ decision.trace.length ≤ evaluator.image.nodes.length

theorem Concludes.cycle_iff {answer : Except EvalError Decision}
    (concluded : evaluator.Concludes request operation entry answer) :
    (∃ index, answer = .error (.cycle index)) ↔
      ∃ route, Endless (evaluator.Moves request) entry route := by
  cases concluded with
  | settled _ walked ends settled =>
      simp only [reduceCtorEq, exists_false, false_iff, not_exists]
      exact fun route endless =>
        absurd (settled.last_stuck ends) (endless.not_stuck moves_unique walked)
  | obstructed walked obstructed =>
      constructor
      · rintro ⟨index, same⟩
        exact absurd (Except.error.inj same) (obstructed.ne_cycle index)
      · rintro ⟨route, endless⟩
        exact absurd obstructed.last_stuck (endless.not_stuck moves_unique walked)
  | @endless route index endless _ => exact ⟨fun _ => ⟨route, endless⟩, fun _ => ⟨index, rfl⟩⟩

def Complete (evaluator : Evaluator) : Prop :=
  ∀ record ∈ evaluator.image.profiles, record.operations.length = evaluator.table.size

theorem Complete.under (complete : evaluator.Complete) (bindings : Bindings) :
    (evaluator.under bindings).Complete := complete

theorem ofBytes_complete {bytes : List UInt8} {table : OperationTable}
    (accepted : ofBytes bytes table = .ok evaluator) : evaluator.Complete := by
  obtain ⟨image, read, accepted⟩ := ofBytes_eq_ok.mp accepted
  obtain ⟨regexes, sized, _, rfl⟩ := ofImage_eq_ok.mp accepted
  intro record member
  rw [Image.ofBytes_operations read record member]
  exact sized

theorem Complete.concludes (complete : evaluator.Complete) {record : ProfileRecord}
    (found : evaluator.image.profiles[profile]? = some record)
    (resolved : evaluator.table.resolve request.operation = some operation) :
    ∃ entry, record.operations[operation]? = some entry ∧
      evaluator.Concludes request operation entry.toNat (evaluator.evaluate profile request) ∧
      ∀ decision, evaluator.evaluate profile request = .ok decision →
        decision.trace.Nodup ∧ decision.trace.length ≤ evaluator.image.nodes.length := by
  have bound : operation < record.operations.length := by
    rw [complete record (List.mem_of_getElem? found)]
    exact OperationTable.resolve_lt resolved
  have enters := List.getElem?_eq_getElem bound
  have ending := @walk_ending evaluator request record.operations[operation].toNat operation none
    (List.range evaluator.image.nodes.length) List.nodup_range
  obtain ⟨concluded, within⟩ := ending.concludes
  refine ⟨_, enters, ?_, ?_⟩
  · simpa only [evaluate, found, resolved, enters, Option.getD_some] using concluded
  · intro decision decided
    simp only [evaluate, found, resolved, enters, Option.getD_some, Outcome.map_eq_ok] at decided
    obtain ⟨answer, walked, rfl⟩ := decided
    exact within answer walked

theorem Complete.exact (complete : evaluator.Complete) (profile : Nat) (request : Request) :
    evaluator.Exact profile request where
  noProfile := by
    intro missing
    rw [evaluate, missing]
  unknown := by
    intro record found unresolved
    simp only [evaluate, found, unresolved]
  resolved := by
    intro record operation found resolved
    obtain ⟨entry, enters, concluded, _⟩ := complete.concludes found resolved
    refine ⟨entry, enters, fun answer => ⟨?_, concluded.unique⟩, concluded.cycle_iff⟩
    rintro rfl
    exact concluded
  short := by
    intro decision decided
    cases found : evaluator.image.profiles[profile]? with
    | none => simp [evaluate, found] at decided
    | some record =>
        cases resolved : evaluator.table.resolve request.operation with
        | none => simp [evaluate, found, resolved] at decided
        | some operation =>
            obtain ⟨_, _, _, within⟩ := complete.concludes found resolved
            exact within decision decided

/-- Whatever the bytes are, a request to an evaluator that accepts them is answered by the walk. -/
theorem evaluate_exact {bytes : List UInt8} {table : OperationTable}
    (accepted : ofBytes bytes table = .ok evaluator) (bindings : Bindings) (profile : Nat)
    (request : Request) : (evaluator.under bindings).Exact profile request :=
  ((ofBytes_complete accepted).under bindings).exact profile request

theorem evaluate_exact_loop : ∃ evaluator : Evaluator,
    ofBytes [0, 0, 1, 0, 1, 0, 0, 0, 0, 0, 0, 0, 0, 0, 0, 0, 0, 0, 0, 0, 0, 0, 0, 0, 0,
      0x13, 0, 0, 0, 0, 0, 0] ⟨["default"], by decide, rfl, by decide⟩ = .ok evaluator ∧
    (evaluator.under (.ofList [("HOME", "/h")])).Exact 0 ⟨"default", none, []⟩ := by
  have accepted : (ofBytes [0, 0, 1, 0, 1, 0, 0, 0, 0, 0, 0, 0, 0, 0, 0, 0, 0, 0, 0, 0, 0, 0, 0, 0,
      0, 0x13, 0, 0, 0, 0, 0, 0] ⟨["default"], by decide, rfl, by decide⟩).isOk = true := by cbv
  obtain ⟨evaluator, read⟩ := Outcome.exists_of_isOk accepted
  exact ⟨evaluator, read, evaluate_exact read _ _ _⟩

end Evaluator

end SandboxPolicy
