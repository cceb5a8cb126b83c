import SandboxPolicy.Proofs.Compiling
import SandboxPolicy.Proofs.Evaluation
import SandboxPolicy.Proofs.Layout

/-!
Compiled policies under evaluation: the nodes of a builder are the nodes of the profile that it
writes, and their tests have the outcomes that the policy gives them.
-/

namespace SandboxPolicy

open Walk

theorem Action.ofCode?_code (action : Action) : ofCode? action.code = some action := by
  cases action <;> decide

theorem Modifiers.ofBits_bits (modifiers : Modifiers) : ofBits modifiers.bits = modifiers := by
  obtain ⟨report, noLog⟩ := modifiers
  cases report <;> cases noLog <;> decide

namespace Builder

variable {builder : Builder} {table : OperationTable} {evaluator : Evaluator}

structure ReadBy (builder : Builder) (evaluator : Evaluator) : Prop where
  image_eq : evaluator.image = builder.image
  regexes : List.Forall₂ (fun source pattern => Regex.compile source = .ok pattern)
    (builder.textList .regex) evaluator.regexes

theorem ReadBy.under (reads : builder.ReadBy evaluator) (bindings : Bindings) :
    builder.ReadBy (evaluator.under bindings) :=
  ⟨reads.image_eq, reads.regexes⟩

theorem Graph.regexes_read (graph : builder.Graph) {patterns : List Regex.Pattern}
    (compiled : List.Forall₂ (fun source pattern => Regex.compile source = .ok pattern)
      (builder.textList .regex) patterns) :
    builder.image.regexes.zipIdx.mapM
      (fun entry => Evaluator.readRegex builder.image entry.2 entry.1) = .ok patterns := by
  obtain ⟨places, stands⟩ := List.forall₂_iff_get.mp (graph.sound.tables .regex).stored
  obtain ⟨length, compile⟩ := List.forall₂_iff_get.mp compiled
  refine Outcome.mapM_eq_ok.mpr (List.forall₂_iff_get.mpr ⟨?_, ?_⟩)
  · rw [List.length_zipIdx, ← length]
    exact places.symm
  · intro index bound bound'
    rw [List.length_zipIdx] at bound
    have text := HasBlob.text graph.sound (stands index (length ▸ bound') bound)
    rw [List.get_eq_getElem, List.getElem_zipIdx, Evaluator.readRegex]
    refine Outcome.bind_eq_ok.mpr ⟨_, Outcome.mapError_eq_ok.mpr text, ?_⟩
    exact Outcome.mapError_eq_ok.mpr (compile index (length ▸ bound') bound')

theorem Graph.readBy (graph : builder.Graph) {bytes : List UInt8}
    (counted : builder.operationCount.toNat = table.size)
    (finished : builder.finish = .ok bytes) :
    ∃ evaluator, Evaluator.ofBytes bytes table = .ok evaluator ∧ evaluator.table = table ∧
      builder.ReadBy evaluator := by
  obtain ⟨patterns, found⟩ := Outcome.exists_mapM graph.regexes
  have compiled := Outcome.mapM_eq_ok.mp found
  refine ⟨⟨builder.image, table, patterns, .empty⟩, ?_, rfl, rfl, compiled⟩
  refine Evaluator.ofBytes_eq_ok.mpr ⟨_, ofBytes_finish graph.sound finished, ?_⟩
  exact Evaluator.ofImage_eq_ok.mpr ⟨patterns, counted, graph.regexes_read compiled, rfl⟩

theorem ReadBy.regex (reads : builder.ReadBy evaluator) {place : UInt16} {source : String}
    (held : builder.HasText .regex place source) :
    ∃ pattern, evaluator.regexes[place.toNat]? = some pattern ∧
      Regex.compile source = .ok pattern := by
  obtain ⟨bound, rfl⟩ := List.getElem?_eq_some_iff.mp held
  obtain ⟨length, each⟩ := List.forall₂_iff_get.mp reads.regexes
  exact ⟨_, List.getElem?_eq_getElem (length ▸ bound), each place.toNat bound (length ▸ bound)⟩

theorem ReadBy.text (reads : builder.ReadBy evaluator) (graph : builder.Graph) {place : UInt16}
    {value : String} (held : builder.HasBlob place (utf8Bytes value)) :
    evaluator.image.data.text place = .ok value := by
  rw [reads.image_eq]
  exact held.text graph.sound

theorem ReadBy.entitlement (reads : builder.ReadBy evaluator) {place : UInt16} {key : String}
    (held : builder.HasText .entitlement place key) :
    evaluator.image.entitlement? place = some key := by
  rw [reads.image_eq]
  exact held

theorem ReadBy.argumentMatches (reads : builder.ReadBy evaluator) (graph : builder.Graph)
    {known : FilterDef} {argument : Argument} (suits : argument.Suits known.kind) {node : Node}
    (held : builder.HasArgument node.argument argument) (asked : String) :
    evaluator.argumentMatches known node asked =
      .ok (argument.Admits evaluator.bindings known.name asked) := by
  rw [Evaluator.argumentMatches]
  generalize known.kind = kind at suits
  cases suits with
  | path path =>
      simp only [reads.text graph held, Argument.Admits, ← pathMatches_iff, Bool.decide_eq_true]
      rfl
  | @regex source pattern compiled =>
      obtain ⟨pattern', read, compiled'⟩ := reads.regex held
      obtain rfl : pattern = pattern' := Except.ok.inj (compiled.symm.trans compiled')
      simp [read, Argument.Admits, compiled]
  | name value =>
      simp only [reads.text graph held, Argument.Admits]
      rfl
  | keyword values value =>
      simp only [reads.text graph held, Argument.Admits]
      rfl
  | address value =>
      simp only [reads.text graph held, Argument.Admits, ← addressMatches_iff_admits,
        Bool.decide_eq_true]
      rfl
  | entitlement key => rfl

theorem ReadBy.nodeMatches (reads : builder.ReadBy evaluator) (graph : builder.Graph)
    {node : Node} {name : String} {argument : Argument} {onMatch onUnmatch : UInt16}
    (tests : builder.IsTest node name argument onMatch onUnmatch) (request : Request)
    (index : Nat) : evaluator.nodeMatches request index node =
      .ok (request.passes evaluator.bindings name argument) := by
  obtain ⟨known, place, found, suits, held, rfl⟩ := tests
  obtain rfl := Catalogue.byName?_name found
  have asks := suits.entitlement_iff
  simp only [Evaluator.nodeMatches, Node.test, Catalogue.byId?_of_byName? found]
  by_cases entitled : known.kind = .entitlement
  · obtain ⟨key, rfl⟩ := asks.mp entitled
    rw [if_pos entitled, reads.entitlement held]
    rfl
  · have tested : request.passes evaluator.bindings known.name argument =
        request.argument.any fun asked =>
          argument.Admits evaluator.bindings known.name asked := by
      rw [Request.passes]
      intro key same
      exact entitled (asks.mpr ⟨key, same⟩)
    rw [if_neg entitled, tested]
    cases request.argument with
    | none => rfl
    | some asked =>
        have matched : evaluator.argumentMatches known (.test known.id place onMatch onUnmatch)
            asked = _ := reads.argumentMatches graph suits held asked
        exact congrArg (Except.mapError EvalError.bytecode) matched

theorem ReadBy.found (reads : builder.ReadBy evaluator) {index : UInt16} {node : Node}
    (held : builder.HasNode index node) : evaluator.image.nodes[index.toNat]? = some node := by
  rw [reads.image_eq]
  exact held

theorem ReadBy.settles (reads : builder.ReadBy evaluator) {index : UInt16} {verdict : Verdict}
    (held : builder.HasNode index (.terminal verdict)) :
    evaluator.Settles index.toNat verdict := by
  exact ⟨_, reads.found held, rfl, Action.ofCode?_code _, (Modifiers.ofBits_bits _).symm⟩

theorem ReadBy.moves (reads : builder.ReadBy evaluator) (graph : builder.Graph)
    {node : Node} {name : String} {argument : Argument} {onMatch onUnmatch index : UInt16}
    (held : builder.HasNode index node)
    (tests : builder.IsTest node name argument onMatch onUnmatch) (request : Request) :
    evaluator.Moves request index.toNat
      (if request.passes evaluator.bindings name argument then onMatch else onUnmatch).toNat := by
  refine ⟨node, _, reads.found held, ?_, reads.nodeMatches graph tests request _, ?_⟩
  · obtain ⟨_, _, _, _, _, rfl⟩ := tests
    rfl
  · obtain ⟨_, _, _, _, _, rfl⟩ := tests
    rfl

/-- Where a builder decides, the walk of an evaluation comes to the verdict. -/
theorem ReadBy.concludes (reads : builder.ReadBy evaluator) (graph : builder.Graph)
    {request : Request} {index : UInt16} {verdict : Verdict}
    (decides : builder.Decides (request.passes evaluator.bindings) index verdict) :
    ∃ trace last, From (evaluator.Moves request) index.toNat trace ∧ last ∈ trace.getLast? ∧
      evaluator.Settles last verdict := by
  induction decides with
  | @verdict index verdict held =>
      exact ⟨[index.toNat], index.toNat, .single _ _, rfl, reads.settles held⟩
  | @test index node name argument onMatch onUnmatch verdict held tests _ ih =>
      obtain ⟨trace, last, walked, ends, settled⟩ := ih
      refine ⟨index.toNat :: trace, last, walked.cons (reads.moves graph held tests request), ?_,
        settled⟩
      rw [List.getLast?_cons, Option.mem_def.mp ends]
      rfl

end Builder

end SandboxPolicy
