import Mathlib
import SandboxPolicy.Proofs.Compiling
import SandboxPolicy.Proofs.Composing
import SandboxPolicy.Proofs.Layout

/-!
What can go wrong when checked policies are compiled: a table gets more entries than it can hold,
and nothing else.
-/

namespace SandboxPolicy

open Steps

inductive BuildFault : BytecodeError → Prop
  | nodes {count : Nat} (many : Builder.nodeLimit < count) :
      BuildFault (.overflow "operation entries" count Builder.nodeLimit)
  | length {length : Nat} (long : 65535 < length) :
      BuildFault (.overflow "data entry" length 65535)
  | place {place : Nat} (far : 65535 < place) : BuildFault (.overflow "data area" place 65535)
  | entries {count : Nat} (kind : TableKind) (many : kind.limit < count) :
      BuildFault (.overflow kind.name count kind.limit)

inductive LowerFault : CompileError → Prop
  | build {error : BytecodeError} (fault : BuildFault error) : LowerFault (.bytecode error)

theorem BuildFault.overflows {error : BytecodeError} (fault : BuildFault error) :
    ∃ name count limit, error = .overflow name count limit ∧ limit < count ∧
      name ≠ "profiles" := by
  cases fault with
  | nodes many => exact ⟨_, _, _, rfl, many, by decide⟩
  | length long => exact ⟨_, _, _, rfl, long, by decide⟩
  | place far => exact ⟨_, _, _, rfl, far, by decide⟩
  | entries kind many => exact ⟨_, _, _, rfl, many, by cases kind <;> decide⟩

namespace Builder

theorem node_fails (entry : Node) : FailsOnly BuildFault (node entry) := by
  intro builder error after failed
  obtain ⟨_, full, rfl, _⟩ := node_eq_error.mp failed
  exact .nodes (Nat.lt_succ_of_le full)

theorem blob_fails (bytes : List UInt8) : FailsOnly BuildFault (blob bytes) := by
  intro builder error after failed
  rcases (blob_eq_error.mp failed).2.2 with ⟨long, rfl⟩ | ⟨_, far, rfl⟩
  · exact .length long
  · exact .place far

theorem text_fails (value : String) : FailsOnly BuildFault (text value) := blob_fails _

theorem entry_fails (kind : TableKind) (value : String) :
    FailsOnly BuildFault (entry kind value) := by
  intro builder error after failed
  rcases (entry_eq_error.mp failed).2 with ⟨full, _, rfl⟩ | ⟨_, failed⟩
  · exact .entries kind (Nat.lt_succ_of_le full)
  · exact text_fails value builder error after failed

end Builder

namespace Lower

open Builder

variable {table : OperationTable}

theorem build_fails {α : Type} {step : Build α} (fails : FailsOnly BuildFault step) :
    FailsOnly LowerFault (build step) := by
  intro builder error after failed
  obtain ⟨fault, broken, rfl⟩ := adaptExcept_eq_error.mp failed
  exact .build (fails builder fault after broken)

theorem terminal_fails (verdict : Verdict) : FailsOnly LowerFault (terminal verdict) :=
  build_fails (node_fails _)

theorem argument_fails (value : Argument) : FailsOnly BuildFault (argument value) := by
  rcases argument_cases value with ⟨kind, text, same⟩ | ⟨text, same⟩ | ⟨name, path, same⟩
  · rw [same]
    exact entry_fails kind text
  · rw [same]
    exact text_fails text
  · rw [same]
    exact (entry_fails .variable name).bind fun _ => text_fails path

theorem leaf_fails {name : String} {value : Argument} (checked : checkArgument name value = .ok ())
    (onMatch onUnmatch : UInt16) :
    FailsOnly LowerFault (filter onMatch onUnmatch (.leaf name value)) := by
  obtain ⟨known, found, _⟩ := checkArgument_suits checked
  simp only [filter, found]
  exact build_fails ((argument_fails value).bind fun place => node_fails _)

theorem chain_fails {chain : Chain} (valid : ∀ item ∈ chain.tests, item.1.Valid) :
    FailsOnly LowerFault (Lower.chain chain) := by
  have closed : Closed fun _ (step : Lower UInt16) => FailsOnly LowerFault step :=
    ⟨.pure, .bind⟩
  apply chain_closed closed (terminal_fails chain.base)
  · exact fun item _ => terminal_fails item.2
  · exact fun item member leaf inside => leaf_fails (valid item member leaf inside)

theorem slot_fails {rules : List (List Nat × Rule)} {number : Nat}
    (valid : ∀ rule ∈ rulesAt rules (coveringRules table number rules), rule.Valid table)
    (memory : ChainMemory) : FailsOnly LowerFault (slot table rules memory number) := by
  simp only [slot]
  cases memory[coveringRules table number rules]? with
  | some entry => exact .pure _
  | none => exact (chain_fails (Chain.ofRules_valid valid)).bind fun _ => .pure _

theorem slots_fails {rules : List (List Nat × Rule)} {numbers : List Nat}
    (valid : ∀ number, ∀ rule ∈ rulesAt rules (coveringRules table number rules),
      rule.Valid table)
    (memory : ChainMemory) : FailsOnly LowerFault (slots table rules memory numbers) := by
  induction numbers generalizing memory with
  | nil => exact .pure _
  | cons number rest ih =>
      exact (slot_fails (valid number) memory).bind fun found =>
        (ih found.2).bind fun _ => .pure _

end Lower

variable {table : OperationTable} {parameters : Bindings}

theorem Rule.Valid.slots {rule : Rule} (valid : rule.Valid table) :
    ∃ slots, rule.slots table = .ok slots := by
  refine Outcome.exists_mapM fun name member => ?_
  obtain ⟨slot, resolved⟩ := Option.isSome_iff_exists.mp (valid.operations name member)
  exact ⟨slot, by rw [resolved]⟩

theorem Policy.lower_eq_slots {policy : Policy} (valid : ∀ rule ∈ policy.rules, rule.Valid table) :
    ∃ resolved, Resolves table policy.rules resolved ∧
      policy.lower table = Lower.slots table resolved ∅ (List.range table.size) := by
  obtain ⟨resolved, found⟩ : ∃ resolved,
      (policy.rules.mapM fun rule => return (← rule.slots table, rule)) =
        (.ok resolved : Except CompileError _) := by
    refine Outcome.exists_mapM fun rule member => ?_
    obtain ⟨slots, known⟩ := (valid rule member).slots
    exact ⟨(slots, rule), Outcome.bind_eq_ok.mpr ⟨slots, known, rfl⟩⟩
  refine ⟨resolved, Policy.resolves found, ?_⟩
  rw [Policy.lower, found]
  rfl

theorem Policy.lower_fails {policy : Policy} (valid : ∀ rule ∈ policy.rules, rule.Valid table) :
    FailsOnly LowerFault (policy.lower table) := by
  obtain ⟨resolved, resolves, lowered⟩ := Policy.lower_eq_slots valid
  rw [lowered]
  exact Lower.slots_fails (resolves.valid valid) ∅

theorem Builder.addProfile_fails {builder after : Builder} {name : Option String}
    {operations : List UInt16} {error : BytecodeError}
    (counted : operations.length = builder.operationCount.toNat)
    (room : builder.kind = .single → builder.profiles.isEmpty)
    (failed : addProfile name operations builder = .error error after) : BuildFault error := by
  rw [addProfile_apply, if_neg (not_not.mpr counted)] at failed
  cases kindEq : builder.kind with
  | single => simp [kindEq, room kindEq] at failed
  | collection =>
      simp only [kindEq] at failed
      cases stored : text (name.getD "") builder with
      | ok place middle => simp [stored] at failed
      | error found middle =>
          simp only [stored, EStateM.Result.error.injEq] at failed
          exact failed.1 ▸ text_fails _ _ _ _ stored

theorem addPolicy_fails {name : Option String} {policy : Policy}
    (valid : ∀ rule ∈ policy.rules, rule.Valid table) {builder after : Builder}
    {error : CompileError} (graph : builder.Graph)
    (counted : builder.operationCount.toNat = table.size)
    (room : builder.kind = .single → builder.profiles.isEmpty)
    (failed : addPolicy table name policy builder = .error error after) : LowerFault error := by
  rcases bind_eq_error.mp failed with failed | ⟨entries, middle, lowered, failed⟩
  · exact Policy.lower_fails valid builder error after failed
  · obtain ⟨extended, serves⟩ := Policy.lower_serves valid graph lowered
    obtain ⟨fault, broken, rfl⟩ := adaptExcept_eq_error.mp failed
    refine .build (Builder.addProfile_fails ?_ ?_ broken)
    · rw [serves.length_eq, extended.grows.count_eq, counted]
    · rw [extended.grows.kind_eq, extended.profiles_eq]
      exact room

theorem exists_start (table : OperationTable) (kind : ProfileKind) :
    ∃ builder, Builder.start kind table.size = .ok builder :=
  ⟨_, if_pos table.small⟩

/-! One policy. -/

def CompilesOrOverflows (outcome : Except CompileError CompiledProfile) : Prop :=
  (∃ profile, outcome = .ok profile) ∨
    ∃ name count limit, outcome = .error (.bytecode (.overflow name count limit)) ∧ limit < count

theorem CompilesOrOverflows.of_error {error : CompileError}
    (done : CompilesOrOverflows (.error error)) :
    ∃ name count limit, error = .bytecode (.overflow name count limit) := by
  rcases done with ⟨profile, same⟩ | ⟨name, count, limit, same, _⟩
  · cases same
  · exact ⟨name, count, limit, Except.error.inj same⟩

theorem LowerFault.overflows {error : CompileError} (fault : LowerFault error) :
    ∃ name count limit, error = .bytecode (.overflow name count limit) ∧ limit < count ∧
      name ≠ "profiles" := by
  obtain ⟨fault⟩ := fault
  obtain ⟨name, count, limit, rfl, larger, other⟩ := fault.overflows
  exact ⟨name, count, limit, rfl, larger, other⟩

theorem compile_eq_finished {source : String} {policy : Policy} {builder : Builder}
    (checked : Policy.check table source parameters = .ok policy)
    (started : Builder.start .single table.size = .ok builder) :
    compile table source parameters = finished (addPolicy table none policy) builder := by
  rw [compile, checked, started]
  rfl

theorem finished_addPolicy {kind : ProfileKind} {builder : Builder} {policy : Policy}
    (valid : ∀ rule ∈ policy.rules, rule.Valid table)
    (started : Builder.start kind table.size = .ok builder) (name : Option String) :
    CompilesOrOverflows (finished (addPolicy table name policy) builder) := by
  obtain ⟨_, countEq, fresh⟩ := Builder.start_kind started
  have graph := Builder.start_graph started
  rw [finished, EStateM.run]
  cases done : addPolicy table name policy builder with
  | error error after =>
      have fault := addPolicy_fails valid graph countEq
        (fun _ => by rw [← Array.isEmpty_toList, fresh]; rfl) done
      obtain ⟨name, count, limit, rfl, larger, _⟩ := fault.overflows
      exact .inr ⟨name, count, limit, rfl, larger⟩
  | ok _ after =>
      have gained := addPolicy_gains valid graph done
      obtain ⟨records, profiles, hosts⟩ := gained.profiles
      have one : after.profiles.size = 1 := by
        rw [← Array.length_toList, profiles, fresh, List.nil_append]
        exact hosts.length_eq
      have some : after.profiles.isEmpty = false := by
        rw [Array.isEmpty, one]
        rfl
      have few : ¬(after.kind = .collection ∧ 65535 < after.profiles.size) := by
        rintro ⟨_, many⟩
        omega
      simp only [gained.graph.sound.finish_eq, some, if_neg few]
      exact .inl ⟨_, rfl⟩

theorem compile_of_check {source : String} {policy : Policy}
    (checked : Policy.check table source parameters = .ok policy) :
    CompilesOrOverflows (compile table source parameters) := by
  obtain ⟨builder, started⟩ := exists_start table .single
  have valid := Policy.diagnostics_nil (Policy.check_eq_ok.mp checked).2
  rw [compile_eq_finished checked started]
  exact finished_addPolicy valid started none

theorem compile_policy_error {source : String} {error : PolicyError} :
    compile table source parameters = .error (.policy error) ↔
      Policy.check table source parameters = .error error := by
  cases checked : Policy.check table source parameters with
  | error found => simp [compile, checked, Except.mapError, bind, Except.bind]
  | ok policy =>
      refine iff_of_false (fun failed => ?_) (by simp)
      have done := compile_of_check checked
      rw [failed] at done
      obtain ⟨_, _, _, same⟩ := done.of_error
      cases same

/-! Collections. -/

/-- None of the sources stands in the way of collecting them: there are none, or they compile, or
there are just too many of them. -/
def Collectable (table : OperationTable) (parameters : Bindings)
    (sources : List (String × String)) : Prop :=
  sources = [] ∨ (∃ profile, compileCollection table sources parameters = .ok profile) ∨
    65535 < sources.length ∧ compileCollection table sources parameters =
      .error (.bytecode (.overflow "profiles" sources.length 65535))

def MeetsRepeat (table : OperationTable) (parameters : Bindings)
    (sources : List (String × String)) (name : String) : Prop :=
  ∃ before source after, sources = before ++ (name, source) :: after ∧
    Collectable table parameters before ∧ name ∈ before.map Prod.fst

def MeetsFault (table : OperationTable) (parameters : Bindings)
    (sources : List (String × String)) (error : PolicyError) : Prop :=
  ∃ before name source after, sources = before ++ (name, source) :: after ∧
    Collectable table parameters before ∧ name ∉ before.map Prod.fst ∧
    Policy.check table source parameters = .error error

theorem addSources_append {first second : List (String × String)} {seen : List String}
    {builder middle : Builder}
    (added : addSources table parameters seen first builder = .ok () middle) :
    addSources table parameters seen (first ++ second) builder =
      addSources table parameters ((first.map Prod.fst).reverse ++ seen) second middle := by
  induction first generalizing seen builder with
  | nil =>
      cases added
      rfl
  | cons source rest ih =>
      obtain ⟨fresh, policy, next, checked, done, later⟩ := addSources_cons_eq_ok.mp added
      rw [List.cons_append, addSources_cons, if_neg fresh, checked]
      simp only [done, ih later, List.map_cons, List.reverse_cons, List.append_assoc,
        List.cons_append, List.nil_append]

inductive Refusal (table : OperationTable) (parameters : Bindings) (seen : List String)
    (name source : String) : CompileError → Prop
  | duplicate (repeated : name ∈ seen) : Refusal table parameters seen name source
      (.duplicateProfile name)
  | policy {error : PolicyError} (fresh : name ∉ seen)
      (checked : Policy.check table source parameters = .error error) :
      Refusal table parameters seen name source (.policy error)
  | lower {error : CompileError} (fault : LowerFault error) :
      Refusal table parameters seen name source error

theorem addSources_refuses {sources : List (String × String)} {seen : List String}
    {builder after : Builder} {error : CompileError} (graph : builder.Graph)
    (counted : builder.operationCount.toNat = table.size) (kindEq : builder.kind = .collection)
    (failed : addSources table parameters seen sources builder = .error error after) :
    ∃ before name source rest, sources = before ++ (name, source) :: rest ∧
      (∃ middle, addSources table parameters seen before builder = .ok () middle) ∧
      Refusal table parameters ((before.map Prod.fst).reverse ++ seen) name source error := by
  -- Either the first source is refused, or it is added and one of the rest is.
  induction sources generalizing seen builder with
  | nil => cases failed
  | cons source rest ih =>
      obtain ⟨name, text⟩ := source
      rw [addSources_cons] at failed
      split at failed
      next repeated =>
        cases failed
        exact ⟨[], name, text, rest, rfl, ⟨_, rfl⟩, .duplicate repeated⟩
      next fresh =>
        cases checked : Policy.check table text parameters with
        | error fault =>
            simp only [checked] at failed
            cases failed
            exact ⟨[], name, text, rest, rfl, ⟨_, rfl⟩, .policy fresh checked⟩
        | ok policy =>
            simp only [checked] at failed
            have valid := Policy.diagnostics_nil (Policy.check_eq_ok.mp checked).2
            have room : builder.kind = .single → builder.profiles.isEmpty := by
              rw [kindEq]
              exact fun same => by cases same
            cases done : addPolicy table (some name) policy builder with
            | error fault middle =>
                simp only [done] at failed
                cases failed
                exact ⟨[], name, text, rest, rfl, ⟨_, rfl⟩,
                  .lower (addPolicy_fails valid graph counted room done)⟩
            | ok _ middle =>
                simp only [done] at failed
                have gained := addPolicy_gains valid graph done
                obtain ⟨before, name', source, rest', rfl, ⟨last, added⟩, refusal⟩ :=
                  ih gained.graph (gained.grows.count_eq ▸ counted)
                    (gained.grows.kind_eq ▸ kindEq) failed
                refine ⟨(name, text) :: before, name', source, rest', rfl, ⟨last, ?_⟩, ?_⟩
                · exact addSources_cons_eq_ok.mpr ⟨fresh, policy, middle, checked, done, added⟩
                · simpa using refusal

section Collection

variable {sources : List (String × String)} {builder after : Builder}
  (started : Builder.start .collection table.size = .ok builder)

include started

theorem compileCollection_eq : compileCollection table sources parameters =
    finished (addSources table parameters [] sources) builder := by
  rw [compileCollection, started]
  rfl

theorem compileCollection_of_error {error : CompileError}
    (failed : addSources table parameters [] sources builder = .error error after) :
    compileCollection table sources parameters = .error error := by
  rw [compileCollection_eq started, finished, EStateM.run, failed]

theorem compileCollection_of_ok
    (added : addSources table parameters [] sources builder = .ok () after) :
    compileCollection table sources parameters =
      if sources = [] then .error (.bytecode .noProfile)
      else if 65535 < sources.length then
        .error (.bytecode (.overflow "profiles" sources.length 65535))
      else .ok ⟨.collection, after.layout⟩ := by
  obtain ⟨kindEq, _, fresh⟩ := Builder.start_kind started
  obtain ⟨policies, checks, gained⟩ := addSources_gains (Builder.start_graph started) added
  obtain ⟨records, profiles, hosts⟩ := gained.profiles
  have size : after.profiles.size = sources.length := by
    rw [← Array.length_toList, profiles, fresh, List.nil_append, hosts.length_eq,
      checks.length_eq]
  have kindEq' : after.kind = .collection := gained.grows.kind_eq.trans kindEq
  have empty : after.profiles.isEmpty = decide (sources = []) := by
    rw [Array.isEmpty, size, decide_eq_decide, List.length_eq_zero_iff]
  rw [compileCollection_eq started, finished, EStateM.run, added]
  simp only [gained.graph.sound.finish_eq, empty, decide_eq_true_eq, kindEq', true_and, size,
    kindEq]
  by_cases none : sources = []
  · simp only [if_pos none]
  · simp only [if_neg none]
    by_cases many : 65535 < sources.length
    · simp only [if_pos many]
    · simp only [if_neg many]

theorem refusal_of_error {error : CompileError}
    (failed : addSources table parameters [] sources builder = .error error after) :
    ∃ before name source rest, sources = before ++ (name, source) :: rest ∧
      (∃ middle, addSources table parameters [] before builder = .ok () middle) ∧
      Refusal table parameters (before.map Prod.fst).reverse name source error := by
  obtain ⟨kindEq, countEq, _⟩ := Builder.start_kind started
  simpa using addSources_refuses (Builder.start_graph started) countEq kindEq failed

theorem collectable_iff : Collectable table parameters sources ↔
    ∃ after, addSources table parameters [] sources builder = .ok () after := by
  constructor
  · intro collectable
    cases done : addSources table parameters [] sources builder with
    | ok _ after => exact ⟨after, rfl⟩
    | error error after =>
        have outcome := compileCollection_of_error started done
        rcases collectable with rfl | ⟨profile, compiled⟩ | ⟨_, overflowed⟩
        · cases done
        · rw [outcome] at compiled
          cases compiled
        · obtain ⟨_, _, _, _, _, _, refusal⟩ := refusal_of_error started done
          rw [outcome] at overflowed
          obtain rfl := Except.error.inj overflowed
          cases refusal with
          | lower fault =>
              obtain ⟨name, count, limit, same, _, other⟩ := fault.overflows
              cases same
              exact absurd rfl other
  · rintro ⟨after, added⟩
    have outcome := compileCollection_of_ok started added
    by_cases none : sources = []
    · exact .inl none
    rw [if_neg none] at outcome
    by_cases many : 65535 < sources.length
    · exact .inr (.inr ⟨many, outcome.trans (if_pos many)⟩)
    · exact .inr (.inl ⟨_, outcome.trans (if_neg many)⟩)

end Collection

theorem Collectable.distinct {sources : List (String × String)}
    (collectable : Collectable table parameters sources) :
    (sources.map Prod.fst).Nodup ∧
      ∀ source ∈ sources, ∃ policy, Policy.check table source.2 parameters = .ok policy := by
  obtain ⟨builder, started⟩ := exists_start table .collection
  obtain ⟨after, added⟩ := (collectable_iff started).mp collectable
  obtain ⟨policies, checks, _⟩ := addSources_gains (Builder.start_graph started) added
  refine ⟨(addSources_distinct added).1, fun source member => ?_⟩
  obtain ⟨index, found⟩ := List.mem_iff_getElem?.mp member
  obtain ⟨given, _, checked⟩ := checks.at found
  exact ⟨given.2, checked⟩

theorem compileCollection_append {before rest : List (String × String)} {error : CompileError}
    (collectable : Collectable table parameters before)
    (refused : ∀ builder : Builder,
      addSources table parameters (before.map Prod.fst).reverse rest builder =
        .error error builder) :
    compileCollection table (before ++ rest) parameters = .error error := by
  obtain ⟨builder, started⟩ := exists_start table .collection
  obtain ⟨middle, added⟩ := (collectable_iff started).mp collectable
  have failed : addSources table parameters [] (before ++ rest) builder = .error error middle := by
    rw [addSources_append added, List.append_nil, refused]
  exact compileCollection_of_error started failed

theorem compileCollection_of_repeat {sources : List (String × String)} {name : String}
    (repeated : MeetsRepeat table parameters sources name) :
    compileCollection table sources parameters = .error (.duplicateProfile name) := by
  obtain ⟨before, source, after, rfl, collectable, member⟩ := repeated
  refine compileCollection_append collectable fun builder => ?_
  rw [addSources_cons, if_pos (by simpa using member)]

theorem compileCollection_of_fault {sources : List (String × String)} {error : PolicyError}
    (faulty : MeetsFault table parameters sources error) :
    compileCollection table sources parameters = .error (.policy error) := by
  obtain ⟨before, name, source, after, rfl, collectable, fresh, checked⟩ := faulty
  refine compileCollection_append collectable fun builder => ?_
  rw [addSources_cons, if_neg (by simpa using fresh), checked]

inductive Collected (table : OperationTable) (parameters : Bindings)
    (sources : List (String × String)) : Except CompileError CompiledProfile → Prop
  | empty (none : sources = []) :
      Collected table parameters sources (.error (.bytecode .noProfile))
  | duplicate {name : String} (repeated : MeetsRepeat table parameters sources name) :
      Collected table parameters sources (.error (.duplicateProfile name))
  | policy {error : PolicyError} (faulty : MeetsFault table parameters sources error) :
      Collected table parameters sources (.error (.policy error))
  | compiled {outcome : Except CompileError CompiledProfile} (some : sources ≠ [])
      (done : CompilesOrOverflows outcome) : Collected table parameters sources outcome

theorem compileCollection_collected (table : OperationTable) (parameters : Bindings)
    (sources : List (String × String)) :
    Collected table parameters sources (compileCollection table sources parameters) := by
  obtain ⟨builder, started⟩ := exists_start table .collection
  cases done : addSources table parameters [] sources builder with
  | ok _ after =>
      rw [compileCollection_of_ok started done]
      split
      next none => exact .empty none
      next some =>
        split
        next many => exact .compiled some (.inr ⟨_, _, _, rfl, many⟩)
        next => exact .compiled some (.inl ⟨_, rfl⟩)
  | error error after =>
      rw [compileCollection_of_error started done]
      obtain ⟨before, name, source, rest, split, added, refusal⟩ := refusal_of_error started done
      have collectable := (collectable_iff started).mpr added
      cases refusal with
      | duplicate repeated =>
          exact .duplicate ⟨before, source, rest, split, collectable, by simpa using repeated⟩
      | policy fresh checked =>
          exact .policy
            ⟨before, name, source, rest, split, collectable, by simpa using fresh, checked⟩
      | lower fault =>
          obtain ⟨name, count, limit, rfl, larger, _⟩ := fault.overflows
          exact .compiled (by simp [split]) (.inr ⟨name, count, limit, rfl, larger⟩)

/-- A policy compiles or overflows a table if it can be checked, and fails as its check does if it
cannot. A collection of policies does too, unless it is empty or repeats a name before one of its
sources fails. -/
theorem compiles_or_overflows (table : OperationTable) (parameters : Bindings) (source : String)
    (sources : List (String × String)) :
    (∀ error, compile table source parameters = .error (.policy error) ↔
      Policy.check table source parameters = .error error) ∧
    (∀ policy, Policy.check table source parameters = .ok policy →
      CompilesOrOverflows (compile table source parameters)) ∧
    (compileCollection table sources parameters = .error (.bytecode .noProfile) ↔
      sources = []) ∧
    (∀ name, compileCollection table sources parameters = .error (.duplicateProfile name) ↔
      MeetsRepeat table parameters sources name) ∧
    (∀ error, compileCollection table sources parameters = .error (.policy error) ↔
      MeetsFault table parameters sources error) ∧
    (Collectable table parameters sources → (sources.map Prod.fst).Nodup ∧
      ∀ source ∈ sources, ∃ policy, Policy.check table source.2 parameters = .ok policy) ∧
    (sources ≠ [] → (∀ name, ¬MeetsRepeat table parameters sources name) →
      (∀ error, ¬MeetsFault table parameters sources error) →
      CompilesOrOverflows (compileCollection table sources parameters)) := by
  have collected := compileCollection_collected table parameters sources
  refine ⟨fun _ => compile_policy_error, fun _ => compile_of_check, ⟨fun failed => ?_, ?_⟩,
    fun name => ⟨fun failed => ?_, compileCollection_of_repeat⟩,
    fun error => ⟨fun failed => ?_, compileCollection_of_fault⟩, Collectable.distinct, ?_⟩
  · rw [failed] at collected
    cases collected with
    | empty none => exact none
    | compiled _ done =>
        obtain ⟨_, _, _, same⟩ := done.of_error
        cases same
  · rintro rfl
    obtain ⟨builder, started⟩ := exists_start table .collection
    have added : addSources table parameters [] [] builder = .ok () builder := rfl
    exact compileCollection_of_ok started added
  · rw [failed] at collected
    cases collected with
    | duplicate repeated => exact repeated
    | compiled _ done =>
        obtain ⟨_, _, _, same⟩ := done.of_error
        cases same
  · rw [failed] at collected
    cases collected with
    | policy faulty => exact faulty
    | compiled _ done =>
        obtain ⟨_, _, _, same⟩ := done.of_error
        cases same
  · intro some distinct faultless
    generalize compileCollection table sources parameters = outcome at collected
    cases collected with
    | empty none => exact absurd none some
    | duplicate repeated => exact absurd repeated (distinct _)
    | policy faulty => exact absurd faulty (faultless _)
    | compiled _ done => exact done

set_option maxRecDepth 100000 in
/-- A policy compiles, a collection of it alone does, and one of it twice has a name twice. -/
theorem compiles_or_overflows_repeated :
    CompilesOrOverflows
      (compile ⟨["default"], by decide, rfl, by decide⟩
        "(version 1) (allow default (require-any (literal \"/a\") (subpath \"/b\")))" .empty) ∧
    CompilesOrOverflows
      (compileCollection ⟨["default"], by decide, rfl, by decide⟩
        [("p", "(version 1) (allow default (require-any (literal \"/a\") (subpath \"/b\")))")]
        .empty) ∧
    compileCollection ⟨["default"], by decide, rfl, by decide⟩
      [("p", "(version 1) (allow default (require-any (literal \"/a\") (subpath \"/b\")))"),
        ("p", "(version 1)")] .empty = .error (.duplicateProfile "p") := by
  let table : OperationTable := ⟨["default"], by decide, rfl, by decide⟩
  let source := "(version 1) (allow default (require-any (literal \"/a\") (subpath \"/b\")))"
  have once := compiles_or_overflows table .empty source [("p", source)]
  have twice := compiles_or_overflows table .empty source [("p", source), ("p", "(version 1)")]
  have collectable : Collectable table .empty [("p", source)] := by
    refine .inr (.inl (Outcome.exists_of_isOk ?_))
    cbv
  obtain ⟨policy, checked⟩ :=
    (once.2.2.2.2.2.1 collectable).2 ("p", source) (List.mem_singleton_self _)
  refine ⟨once.2.1 policy checked, once.2.2.2.2.2.2 (List.cons_ne_nil _ _) ?_ ?_, ?_⟩
  · rintro name ⟨_ | ⟨_, before⟩, _, _, split, _, member⟩
    · cases member
    · simp at split
  · rintro error ⟨_ | ⟨_, before⟩, _, _, _, split, _, _, failed⟩
    · cases split
      rw [checked] at failed
      cases failed
    · simp at split
  · exact (twice.2.2.2.1 "p").mpr
      ⟨[("p", source)], "(version 1)", [], rfl, collectable, by simp⟩

end SandboxPolicy
