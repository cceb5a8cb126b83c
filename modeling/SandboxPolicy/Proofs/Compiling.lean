import SandboxPolicy.Proofs.Lowering

/-!
What compiling a policy adds to a builder: a profile whose operations enter at nodes that decide as
the policy does.
-/

namespace SandboxPolicy

open Steps

variable {table : OperationTable}

/-! Which rules apply to a slot. -/

theorem Rule.slots_any {rule : Rule} {slots : List Nat} (known : rule.slots table = .ok slots)
    (slot : Nat) : (slots.any fun ruleSlot => table.covers ruleSlot slot) =
      rule.appliesTo table slot := by
  rw [Rule.slots, Outcome.mapM_eq_ok] at known
  rw [Rule.appliesTo]
  generalize rule.operations = names at known
  induction known with
  | nil => rfl
  | @cons name found names _ first _ ih =>
      have resolved : table.resolve name = some found := by
        cases resolves : table.resolve name with
        | none => simp [resolves] at first
        | some other => simpa [resolves] using first
      rw [List.any_cons, List.any_cons, ih, resolved]
      rfl

theorem rulesAt_coveringRules (slot : Nat) (rules : List (List Nat × Rule)) :
    rulesAt rules (coveringRules table slot rules) =
      (rules.filter fun entry => entry.1.any fun ruleSlot => table.covers ruleSlot slot).map
        Prod.snd := by
  let covers : List Nat × Rule → Bool := fun entry =>
    entry.1.any fun ruleSlot => table.covers ruleSlot slot
  have numbered : ∀ entry ∈ rules.zipIdx.filter (covers ∘ Prod.fst),
      rules[entry.2]?.map Prod.snd = some entry.1.2 := by
    intro entry member
    rw [List.mem_zipIdx_iff_getElem?.mp (List.mem_of_mem_filter member)]
    rfl
  calc rulesAt rules (coveringRules table slot rules)
    _ = (rules.zipIdx.filter (covers ∘ Prod.fst)).filterMap fun entry =>
          rules[entry.2]?.map Prod.snd := List.filterMap_map
    _ = (rules.zipIdx.filter (covers ∘ Prod.fst)).filterMap (some ∘ fun entry => entry.1.2) :=
          List.filterMap_congr numbered
    _ = ((rules.zipIdx.filter (covers ∘ Prod.fst)).map Prod.fst).map Prod.snd := by
          rw [List.filterMap_eq_map, List.map_map]
          rfl
    _ = (rules.filter covers).map Prod.snd := by rw [← List.filter_map, List.zipIdx_map_fst]

def Resolves (table : OperationTable) (rules : List Rule) (resolved : List (List Nat × Rule)) :
    Prop :=
  List.Forall₂ (fun rule entry => rule.slots table = .ok entry.1 ∧ entry.2 = rule) rules resolved

theorem Resolves.covering {rules : List Rule} {resolved : List (List Nat × Rule)}
    (resolves : Resolves table rules resolved) (slot : Nat) :
    rulesAt resolved (coveringRules table slot resolved) =
      rules.filter (Rule.appliesTo table slot) := by
  rw [rulesAt_coveringRules]
  induction resolves with
  | nil => rfl
  | @cons rule entry _ _ first _ ih =>
      obtain ⟨known, rfl⟩ := first
      rw [List.filter_cons, List.filter_cons, Rule.slots_any known]
      split
      next => rw [List.map_cons, ih]
      next => exact ih

theorem Resolves.valid {rules : List Rule} {resolved : List (List Nat × Rule)}
    (resolves : Resolves table rules resolved) (valid : ∀ rule ∈ rules, rule.Valid table)
    (slot : Nat) : ∀ rule ∈ rulesAt resolved (coveringRules table slot resolved),
      rule.Valid table := by
  rw [resolves.covering]
  exact fun rule member => valid rule (List.mem_of_mem_filter member)

theorem Chain.mem_ofRules_tests {rules : List Rule} {item : Filter × Verdict}
    (member : item ∈ (ofRules rules).tests) : ∃ rule ∈ rules, rule.filter = some item.1 := by
  obtain ⟨rule, taken, guarded⟩ := List.mem_filterMap.mp member
  obtain ⟨guard, filter, rfl⟩ := Option.map_eq_some_iff.mp guarded
  have inside := List.takeWhile_subset _ (List.mem_reverse.mp taken)
  exact ⟨rule, List.mem_reverse.mp inside, filter⟩

theorem Chain.ofRules_valid {rules : List Rule} (valid : ∀ rule ∈ rules, rule.Valid table) :
    ∀ item ∈ (ofRules rules).tests, item.1.Valid := by
  intro item member
  obtain ⟨rule, inside, filter⟩ := mem_ofRules_tests member
  exact (valid rule inside).filter item.1 filter

theorem Policy.decide_eq (policy : Policy) (test : String → Argument → Bool) (slot : Nat) :
    (Chain.ofRules (policy.rules.filter (Rule.appliesTo table slot))).decide test =
      policy.decide table test slot := by
  rw [Chain.decide_ofRules, List.filter_filter, Policy.decide]
  simp only [Bool.and_comm]

namespace Lower

open Builder

variable {builder before after : Builder} {rules : List (List Nat × Rule)} {memory : ChainMemory}

def Remembers (builder : Builder) (rules : List (List Nat × Rule)) (memory : ChainMemory) : Prop :=
  ∀ numbers entry, memory[numbers]? = some entry →
    builder.Enters entry (.ofRules (rulesAt rules numbers))

theorem Remembers.grow (remembers : Remembers before rules memory) (grown : before.Grows after) :
    Remembers after rules memory :=
  fun numbers entry known => (remembers numbers entry known).grow grown

theorem Remembers.insert (remembers : Remembers builder rules memory) {numbers : List Nat}
    {entry : UInt16} (enters : builder.Enters entry (.ofRules (rulesAt rules numbers))) :
    Remembers builder rules (memory.insert numbers entry) := by
  intro other found known
  rw [Std.HashMap.getElem?_insert] at known
  split at known
  next same =>
    obtain rfl := Option.some.inj known
    exact eq_of_beq same ▸ enters
  next => exact remembers other found known

theorem slot_extends {number : Nat} {entry : UInt16} {memory' : ChainMemory}
    (valid : ∀ rule ∈ rulesAt rules (coveringRules table number rules), rule.Valid table)
    (graph : builder.Graph) (remembers : Remembers builder rules memory)
    (lowered : slot table rules memory number builder = .ok (entry, memory') after) :
    builder.Extends after ∧ Remembers after rules memory' ∧
      after.Enters entry (.ofRules (rulesAt rules (coveringRules table number rules))) := by
  simp only [slot] at lowered
  cases known : memory[coveringRules table number rules]? with
  | some found =>
      simp only [known, pure_apply, EStateM.Result.ok.injEq, Prod.mk.injEq] at lowered
      obtain ⟨⟨rfl, rfl⟩, rfl⟩ := lowered
      exact ⟨graph.extends, remembers, remembers _ _ known⟩
  | none =>
      simp only [known] at lowered
      obtain ⟨found, middle, chained, done⟩ := bind_eq_ok.mp lowered
      simp only [pure_apply, EStateM.Result.ok.injEq, Prod.mk.injEq] at done
      obtain ⟨⟨rfl, rfl⟩, rfl⟩ := done
      obtain ⟨extended, enters⟩ := chain_extends (Chain.ofRules_valid valid) graph chained
      exact ⟨extended, (remembers.grow extended.grows).insert enters, enters⟩

theorem slots_extends {numbers : List Nat} {entries : List UInt16}
    (valid : ∀ number, ∀ rule ∈ rulesAt rules (coveringRules table number rules),
      rule.Valid table)
    (graph : builder.Graph) (remembers : Remembers builder rules memory)
    (lowered : slots table rules memory numbers builder = .ok entries after) :
    builder.Extends after ∧ List.Forall₂ (fun entry number =>
      after.Enters entry (.ofRules (rulesAt rules (coveringRules table number rules))))
      entries numbers := by
  -- What is remembered stays true while the builder grows, so that later slots may share it.
  induction numbers generalizing builder memory entries with
  | nil =>
      cases lowered
      exact ⟨graph.extends, .nil⟩
  | cons number rest ih =>
      simp only [slots] at lowered
      obtain ⟨⟨entry, memory'⟩, middle, first, lowered⟩ := bind_eq_ok.mp lowered
      obtain ⟨others, last, later, done⟩ := bind_eq_ok.mp lowered
      cases done
      obtain ⟨extended, remembers', enters⟩ := slot_extends (valid number) graph remembers first
      obtain ⟨extended', entered⟩ := ih extended.graph remembers' later
      exact ⟨extended.trans extended', .cons (enters.grow extended'.grows) entered⟩

end Lower

structure Builder.Serves (builder : Builder) (table : OperationTable) (policy : Policy)
    (entries : List UInt16) : Prop where
  length_eq : entries.length = table.size
  bound : ∀ entry ∈ entries, entry.toNat < builder.nodeList.length
  decides : ∀ slot entry, entries[slot]? = some entry →
    ∀ test, builder.Decides test entry (policy.decide table test slot)

theorem Builder.Serves.grow {before after : Builder} {policy : Policy} {entries : List UInt16}
    (serves : before.Serves table policy entries) (grown : before.Grows after) :
    after.Serves table policy entries where
  length_eq := serves.length_eq
  bound := fun entry member => grown.index_lt (serves.bound entry member)
  decides := fun slot entry found test => (serves.decides slot entry found test).grow grown

theorem Policy.resolves {rules : List Rule} {resolved : List (List Nat × Rule)}
    (found : (rules.mapM fun rule => return (← rule.slots table, rule)) =
      (.ok resolved : Except CompileError _)) : Resolves table rules resolved := by
  rw [Outcome.mapM_eq_ok] at found
  refine found.imp fun rule entry step => ?_
  obtain ⟨slots, known, same⟩ := Outcome.bind_eq_ok.mp step
  cases same
  exact ⟨known, rfl⟩

/-- Lowering a policy gives an entry for each operation, where the policy decides. -/
theorem Policy.lower_serves {policy : Policy} (valid : ∀ rule ∈ policy.rules, rule.Valid table)
    {builder after : Builder} {entries : List UInt16} (graph : builder.Graph)
    (lowered : policy.lower table builder = .ok entries after) :
    builder.Extends after ∧ after.Serves table policy entries := by
  obtain ⟨resolved, middle, lifted, slots⟩ := bind_eq_ok.mp lowered
  obtain ⟨found, rfl⟩ := liftExcept_eq_ok.mp lifted
  have covering := (Policy.resolves found).covering
  obtain ⟨extended, entered⟩ := Lower.slots_extends ((Policy.resolves found).valid valid) graph
    (by simp [Lower.Remembers]) slots
  obtain ⟨length, each⟩ := List.forall₂_iff_get.mp entered
  rw [List.length_range] at length
  have enters {slot : Nat} {entry : UInt16} (found : entries[slot]? = some entry) :
      after.Enters entry (.ofRules (policy.rules.filter (Rule.appliesTo table slot))) := by
    obtain ⟨bound, rfl⟩ := List.getElem?_eq_some_iff.mp found
    have one := each slot bound (by rw [List.length_range]; omega)
    rw [List.get_eq_getElem, List.get_eq_getElem, List.getElem_range, covering] at one
    exact one
  refine ⟨extended, length, ?_, ?_⟩
  · intro entry member
    obtain ⟨slot, found⟩ := List.getElem?_of_mem member
    exact (enters found).bound
  · intro slot entry found test
    rw [← policy.decide_eq]
    exact (enters found).decides test

/-! Profiles of policies. -/

namespace Builder

variable {before middle after : Builder}

def Hosts (builder : Builder) (table : OperationTable) (record : ProfileRecord)
    (given : Option String × Policy) : Prop :=
  builder.Serves table given.2 record.operations ∧ builder.Names record (given.1.getD "")

theorem Hosts.grow {record : ProfileRecord} {given : Option String × Policy}
    (hosts : before.Hosts table record given) (grown : before.Grows after) :
    after.Hosts table record given :=
  ⟨hosts.1.grow grown, hosts.2.grow grown⟩

/-- The second builder is a graph with a further profile for each of the policies. -/
structure Gains (table : OperationTable) (before after : Builder)
    (added : List (Option String × Policy)) : Prop where
  graph : after.Graph
  grows : before.Grows after
  profiles : ∃ records, after.profiles.toList = before.profiles.toList ++ records ∧
    List.Forall₂ (after.Hosts table) records added

theorem Gains.nil {builder : Builder} (graph : builder.Graph) : Gains table builder builder [] :=
  ⟨graph, .refl builder, [], by simp⟩

theorem Gains.append {first second : List (Option String × Policy)}
    (left : Gains table before middle first) (right : Gains table middle after second) :
    Gains table before after (first ++ second) := by
  obtain ⟨early, earlyList, earlyHosts⟩ := left.profiles
  obtain ⟨late, lateList, lateHosts⟩ := right.profiles
  refine ⟨right.graph, left.grows.trans right.grows, early ++ late, ?_, ?_⟩
  · rw [lateList, earlyList, List.append_assoc]
  · exact List.rel_append (earlyHosts.imp fun _ _ hosts => hosts.grow right.grows) lateHosts

end Builder

open Builder

theorem addPolicy_gains {name : Option String} {policy : Policy}
    (valid : ∀ rule ∈ policy.rules, rule.Valid table) {builder after : Builder}
    (graph : builder.Graph) (lowered : addPolicy table name policy builder = .ok () after) :
    Gains table builder after [(name, policy)] := by
  obtain ⟨entries, middle, first, second⟩ := bind_eq_ok.mp lowered
  obtain ⟨extended, serves⟩ := Policy.lower_serves valid graph first
  obtain ⟨graph', grown, record, profiles, given, named⟩ :=
    extended.graph.addProfile serves.bound (Lower.build_eq_ok.mp second)
  refine ⟨graph', extended.grows.trans grown, [record], ?_, .cons ⟨?_, named⟩ .nil⟩
  · rw [profiles, extended.profiles_eq]
  · exact given ▸ serves.grow grown

def Checks (table : OperationTable) (parameters : Bindings) (sources : List (String × String))
    (added : List (Option String × Policy)) : Prop :=
  List.Forall₂ (fun source given => given.1 = some source.1 ∧
    Policy.check table source.2 parameters = .ok given.2) sources added

theorem Checks.at {parameters : Bindings} {sources : List (String × String)}
    {added : List (Option String × Policy)} (checks : Checks table parameters sources added)
    {index : Nat} {name source : String} (found : sources[index]? = some (name, source)) :
    ∃ given, added[index]? = some given ∧
      Policy.check table source parameters = .ok given.2 := by
  obtain ⟨length, each⟩ := List.forall₂_iff_get.mp checks
  obtain ⟨within, isSource⟩ := List.getElem?_eq_some_iff.mp found
  have checked := (each index within (length ▸ within)).2
  rw [List.get_eq_getElem, isSource] at checked
  exact ⟨_, List.getElem?_eq_getElem (length ▸ within), checked⟩

theorem addSources_cons {parameters : Bindings} (seen : List String) (name source : String)
    (rest : List (String × String)) (builder : Builder) :
    addSources table parameters seen ((name, source) :: rest) builder =
      if name ∈ seen then .error (.duplicateProfile name) builder
      else
        match Policy.check table source parameters with
        | .error error => .error (.policy error) builder
        | .ok policy =>
            match addPolicy table (some name) policy builder with
            | .error error after => .error error after
            | .ok () after => addSources table parameters (name :: seen) rest after := by
  by_cases repeated : name ∈ seen
  · simp [addSources, repeated, bind_apply]
  · simp only [addSources, List.contains_eq_mem, repeated, decide_false, Bool.false_eq_true,
      if_false]
    cases Policy.check table source parameters with
    | error error => rfl
    | ok policy =>
        change (addPolicy table (some name) policy >>= fun _ => _) builder = _
        rw [bind_apply]
        dsimp only
        cases addPolicy table (some name) policy builder <;> rfl

theorem addSources_cons_eq_ok {parameters : Bindings} {seen : List String}
    {name source : String} {rest : List (String × String)} {builder after : Builder} :
    addSources table parameters seen ((name, source) :: rest) builder = .ok () after ↔
      name ∉ seen ∧ ∃ policy middle, Policy.check table source parameters = .ok policy ∧
        addPolicy table (some name) policy builder = .ok () middle ∧
        addSources table parameters (name :: seen) rest middle = .ok () after := by
  rw [addSources_cons]
  by_cases repeated : name ∈ seen
  · simp [repeated]
  · rw [if_neg repeated]
    cases Policy.check table source parameters with
    | error error => simp
    | ok policy =>
        cases done : addPolicy table (some name) policy builder <;> simp [repeated, done]

theorem addSources_gains {parameters : Bindings} {seen : List String}
    {sources : List (String × String)} {builder after : Builder} (graph : builder.Graph)
    (lowered : addSources table parameters seen sources builder = .ok () after) :
    ∃ added, Checks table parameters sources added ∧ Gains table builder after added := by
  induction sources generalizing seen builder with
  | nil =>
      cases lowered
      exact ⟨[], .nil, .nil graph⟩
  | cons source rest ih =>
      obtain ⟨_, policy, middle, checked, first, later⟩ := addSources_cons_eq_ok.mp lowered
      have valid := Policy.diagnostics_nil (Policy.check_eq_ok.mp checked).2
      have gained := addPolicy_gains valid graph first
      obtain ⟨added, checks, gained'⟩ := ih gained.graph later
      exact ⟨(some source.1, policy) :: added, .cons ⟨rfl, checked⟩ checks, gained.append gained'⟩

theorem addSources_distinct {parameters : Bindings} {seen : List String}
    {sources : List (String × String)} {builder after : Builder}
    (lowered : addSources table parameters seen sources builder = .ok () after) :
    (sources.map Prod.fst).Nodup ∧ ∀ name ∈ sources.map Prod.fst, name ∉ seen := by
  induction sources generalizing seen builder with
  | nil => simp
  | cons source rest ih =>
      obtain ⟨fresh, _, _, _, _, later⟩ := addSources_cons_eq_ok.mp lowered
      obtain ⟨distinct, apart⟩ := ih later
      refine ⟨List.nodup_cons.mpr ⟨fun member => ?_, distinct⟩, ?_⟩
      · exact apart source.1 member List.mem_cons_self
      · intro other member
        rcases List.mem_cons.mp member with rfl | later
        · exact fresh
        · exact fun seenBefore => apart other later (List.mem_cons_of_mem _ seenBefore)

/-- The bytes are those of a graph whose profiles decide as the policies. -/
def Compiles (table : OperationTable) (kind : ProfileKind)
    (added : List (Option String × Policy)) (bytes : List UInt8) : Prop :=
  ∃ builder : Builder, builder.Graph ∧ builder.kind = kind ∧
    builder.operationCount.toNat = table.size ∧
    List.Forall₂ (builder.Hosts table) builder.profiles.toList added ∧
    builder.finish = .ok bytes

theorem finished_eq_ok {steps : Lower Unit} {builder : Builder} {profile : CompiledProfile} :
    finished steps builder = .ok profile ↔ profile.kind = builder.kind ∧
      ∃ after, steps builder = .ok () after ∧ after.finish = .ok profile.bytecode := by
  obtain ⟨kind, bytes⟩ := profile
  rw [finished, EStateM.run]
  cases steps builder with
  | error error after => simp
  | ok value after => cases finish : after.finish <;> simp [finish, eq_comm (b := kind)]

theorem finished_compiles {kind : ProfileKind} {builder : Builder}
    (started : Builder.start kind table.size = .ok builder) {steps : Lower Unit}
    {profile : CompiledProfile} (compiled : finished steps builder = .ok profile)
    {given : List (Option String × Policy) → Prop}
    (gains : ∀ after, steps builder = .ok () after →
      ∃ added, given added ∧ Gains table builder after added) :
    profile.kind = kind ∧ ∃ added, given added ∧ Compiles table kind added profile.bytecode := by
  obtain ⟨kindEq, countEq, fresh⟩ := Builder.start_kind started
  obtain ⟨kindEq', after, done, finish⟩ := finished_eq_ok.mp compiled
  obtain ⟨added, holds, gained⟩ := gains after done
  obtain ⟨records, profiles, hosts⟩ := gained.profiles
  rw [fresh, List.nil_append] at profiles
  refine ⟨kindEq'.trans kindEq, added, holds, after, gained.graph, ?_, ?_, profiles ▸ hosts, finish⟩
  · rw [gained.grows.kind_eq, kindEq]
  · rw [gained.grows.count_eq, countEq]

theorem compile_compiles {source : String} {parameters : Bindings} {profile : CompiledProfile}
    (compiled : compile table source parameters = .ok profile) :
    profile.kind = .single ∧ ∃ policy, Policy.check table source parameters = .ok policy ∧
      Compiles table .single [(none, policy)] profile.bytecode := by
  obtain ⟨policy, checked, compiled⟩ := Outcome.bind_eq_ok.mp compiled
  obtain ⟨builder, started, compiled⟩ := Outcome.bind_eq_ok.mp compiled
  have started := Outcome.mapError_eq_ok.mp started
  have accepted := Outcome.mapError_eq_ok.mp checked
  have valid := Policy.diagnostics_nil (Policy.check_eq_ok.mp accepted).2
  obtain ⟨kind, added, rfl, compiles⟩ := finished_compiles started compiled fun after done =>
    ⟨[(none, policy)], rfl, addPolicy_gains valid (start_graph started) done⟩
  exact ⟨kind, policy, accepted, compiles⟩

theorem compileCollection_compiles {sources : List (String × String)} {parameters : Bindings}
    {profile : CompiledProfile}
    (compiled : compileCollection table sources parameters = .ok profile) :
    profile.kind = .collection ∧ ∃ added, Checks table parameters sources added ∧
      Compiles table .collection added profile.bytecode := by
  obtain ⟨builder, started, compiled⟩ := Outcome.bind_eq_ok.mp compiled
  have started := Outcome.mapError_eq_ok.mp started
  exact finished_compiles started compiled fun after done =>
    addSources_gains (start_graph started) done

end SandboxPolicy
