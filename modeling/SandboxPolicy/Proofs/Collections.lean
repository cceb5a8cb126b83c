import SandboxPolicy.Proofs.LastRule
import SandboxPolicy.Proofs.Overflow

/-!
Policies in a collection. They share nodes, texts and blobs, and still each of them decides as it
does when it is compiled alone.
-/

namespace SandboxPolicy

/-- The answers differ in the way through the graph only. -/
inductive SameAnswer : Except EvalError Decision → Except EvalError Decision → Prop
  | decided (verdict : Verdict) (operation : Nat) (trace other : List Nat) :
      SameAnswer (.ok ⟨verdict, operation, trace⟩) (.ok ⟨verdict, operation, other⟩)
  | unknown (operation : String) :
      SameAnswer (.error (.unknownOperation operation)) (.error (.unknownOperation operation))

variable {table : OperationTable}

theorem Evaluator.Enforces.same {first second : Evaluator} {bindings : Bindings}
    {profile other : Nat} {policy : Policy}
    (enforces : first.Enforces table bindings profile policy)
    (enforces' : second.Enforces table bindings other policy) (request : Request) :
    SameAnswer (first.evaluate profile request) (second.evaluate other request) := by
  cases resolved : table.resolve request.operation with
  | none =>
      rw [enforces.unknown request resolved, enforces'.unknown request resolved]
      exact .unknown _
  | some slot =>
      obtain ⟨trace, decided⟩ := enforces.decided request slot resolved
      obtain ⟨trace', decided'⟩ := enforces'.decided request slot resolved
      rw [decided, decided']
      exact .decided _ _ _ _

theorem Image.profileIndex?_eq_some {image : Image} {names : List String} (distinct : names.Nodup)
    (named : image.profiles.map image.profileName = names.map Except.ok) {index : Nat}
    {name : String} (found : names[index]? = some name) :
    image.profileIndex? name = some index := by
  have length : image.profiles.length = names.length := by simpa using congrArg List.length named
  have nameAt {place : Nat} (within : place < image.profiles.length)
      (within' : place < names.length) :
      image.profileName image.profiles[place] = .ok names[place] := by
    simpa [within, within'] using congrArg (·[place]?) named
  obtain ⟨within, rfl⟩ := List.getElem?_eq_some_iff.mp found
  rw [profileIndex?, List.findIdx?_eq_some_iff_getElem]
  refine ⟨by omega, ?_, fun place before => ?_⟩
  · rw [nameAt _ within]
    simp
  · have apart : names[place] ≠ names[index] := fun same =>
      Nat.ne_of_lt before (distinct.getElem_inj_iff.mp same)
    rw [nameAt _ (by omega)]
    simpa using apart

theorem Compiles.named {added : List (Option String × Policy)} {bytes : List UInt8}
    (compiles : Compiles table .collection added bytes) :
    ∃ image, Image.ofBytes bytes = .ok image ∧
      image.profiles.map image.profileName =
        (added.map fun given => given.1.getD "").map Except.ok := by
  obtain ⟨builder, graph, kindEq, _, hosted, finished⟩ := compiles
  refine ⟨builder.image, Builder.ofBytes_finish graph.sound finished, ?_⟩
  rw [builder.image_map builder.image.profileName fun _ _ => rfl, List.map_map]
  refine map_eq_of_forall₂ (fun record given hosts => ?_) hosted
  rw [hosts.2.profileName graph.sound, if_neg (by rw [kindEq]; decide)]
  rfl

theorem Checks.names {parameters : Bindings} {sources : List (String × String)}
    {added : List (Option String × Policy)} (checks : Checks table parameters sources added) :
    added.map (fun given => given.1.getD "") = sources.map Prod.fst := by
  refine (map_eq_of_forall₂ (fun source given checked => ?_) checks).symm
  rw [checked.1]
  rfl

/-- A collection has a profile for each source, under its name, and the profile decides as the
source does alone. -/
theorem compileCollection_separate {sources : List (String × String)} {parameters : Bindings}
    {profile : CompiledProfile}
    (compiled : compileCollection table sources parameters = .ok profile) :
    ∃ evaluator, Evaluator.ofBytes profile.bytecode table = .ok evaluator ∧
      evaluator.profileCount = sources.length ∧
      ∀ index name source, sources[index]? = some (name, source) →
        evaluator.image.profileIndex? name = some index ∧
        ∀ alone, compile table source parameters = .ok alone →
          ∃ single, Evaluator.ofBytes alone.bytecode table = .ok single ∧
            ∀ bindings request, SameAnswer ((evaluator.under bindings).evaluate index request)
              ((single.under bindings).evaluate 0 request) := by
  obtain ⟨_, added, checks, compiles⟩ := compileCollection_compiles compiled
  obtain ⟨evaluator, accepted, enforces⟩ := compiles.enforces
  obtain ⟨image, read, named⟩ := compiles.named
  obtain ⟨image', read', built⟩ := Evaluator.ofBytes_eq_ok.mp accepted
  obtain rfl : image' = image := Except.ok.inj (read'.symm.trans read)
  have same : evaluator.image = image' := by
    obtain ⟨_, _, _, rfl⟩ := Evaluator.ofImage_eq_ok.mp built
    rfl
  rw [checks.names] at named
  refine ⟨evaluator, accepted, ?_, fun index name source found => ⟨?_, ?_⟩⟩
  · have length := congrArg List.length named
    rw [List.length_map, List.length_map, List.length_map] at length
    rw [Evaluator.profileCount, same, length]
  · rw [same]
    have distinct := (Collectable.distinct (.inr (.inl ⟨profile, compiled⟩))).1
    refine Image.profileIndex?_eq_some distinct named ?_
    rw [List.getElem?_map, found, Option.map_some]
  · -- Alone and in the collection the source is the same policy, which both profiles enforce.
    intro alone compiledAlone
    obtain ⟨_, policy, checked, compilesAlone⟩ := compile_compiles compiledAlone
    obtain ⟨single, acceptedAlone, enforcesAlone⟩ := compilesAlone.enforces
    obtain ⟨given, isGiven, checkedGiven⟩ := checks.at found
    obtain rfl : given.2 = policy := Except.ok.inj (checkedGiven.symm.trans checked)
    refine ⟨single, acceptedAlone, fun bindings request => ?_⟩
    exact (enforces bindings index given isGiven).same
      (enforcesAlone bindings 0 (none, given.2) rfl) request

set_option maxRecDepth 100000 in
theorem compileCollection_separate_pair : ∃ profile alone evaluator single,
    compileCollection ⟨["default"], by decide, rfl, by decide⟩
      [("locked", "(version 1) (deny default)"), ("open", "(version 1) (allow default)")] .empty =
        .ok profile ∧
    compile ⟨["default"], by decide, rfl, by decide⟩ "(version 1) (allow default)" .empty =
      .ok alone ∧
    Evaluator.ofBytes profile.bytecode ⟨["default"], by decide, rfl, by decide⟩ =
      .ok evaluator ∧
    Evaluator.ofBytes alone.bytecode ⟨["default"], by decide, rfl, by decide⟩ = .ok single ∧
    evaluator.profileCount = 2 ∧ evaluator.image.profileIndex? "open" = some 1 ∧
    ∀ bindings request, SameAnswer ((evaluator.under bindings).evaluate 1 request)
      ((single.under bindings).evaluate 0 request) := by
  have accepted : (compileCollection ⟨["default"], by decide, rfl, by decide⟩
      [("locked", "(version 1) (deny default)"), ("open", "(version 1) (allow default)")]
      .empty).isOk = true := by cbv
  have acceptedAlone : (compile ⟨["default"], by decide, rfl, by decide⟩
      "(version 1) (allow default)" .empty).isOk = true := by cbv
  obtain ⟨profile, compiled⟩ := Outcome.exists_of_isOk accepted
  obtain ⟨alone, compiledAlone⟩ := Outcome.exists_of_isOk acceptedAlone
  obtain ⟨evaluator, read, count, each⟩ := compileCollection_separate compiled
  obtain ⟨named, decides⟩ := each 1 "open" "(version 1) (allow default)" rfl
  obtain ⟨single, readAlone, same⟩ := decides alone compiledAlone
  exact ⟨profile, alone, evaluator, single, compiled, compiledAlone, read, readAlone, count, named,
    same⟩

end SandboxPolicy
