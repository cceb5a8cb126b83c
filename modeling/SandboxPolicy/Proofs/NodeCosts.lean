import Mathlib
import SandboxPolicy.Proofs.BuilderRuns
import SandboxPolicy.Proofs.Repeating

/-!
How many nodes the steps of lowering need. A filter is lowered with a call for each of its leaves,
whatever its shape, since what comes behind it is passed on as the index of a node.
-/

namespace SandboxPolicy

open Steps

def Steps.ended {ε σ α : Type} : EStateM.Result ε σ α → σ
  | .ok _ after => after
  | .error _ after => after

def CompileError.NodesFull (error : CompileError) : Prop :=
  ∃ count limit, error = .bytecode (.overflow "operation entries" count limit)

structure Within (verdicts : Finset Verdict) (tests : Nat) (nodes : List Node) : Prop where
  terminal : ∀ node ∈ nodes, node.isTerminal = true → ∃ verdict ∈ verdicts, node = .terminal verdict
  tests_le : nodes.countP (fun node => ¬node.isTerminal) ≤ tests

namespace Within

variable {verdicts : Finset Verdict} {tests more : Nat} {nodes : List Node}

theorem nil (verdicts : Finset Verdict) (tests : Nat) : Within verdicts tests [] :=
  ⟨by simp, by simp⟩

theorem mono (within : Within verdicts tests nodes) (fewer : tests ≤ more) :
    Within verdicts more nodes :=
  ⟨within.terminal, within.tests_le.trans fewer⟩

theorem length_le (within : Within verdicts tests nodes) (distinct : nodes.Nodup) :
    nodes.length ≤ verdicts.card + tests := by
  have terminals : nodes.countP Node.isTerminal ≤ verdicts.card := by
    rw [List.countP_eq_length_filter, ← List.toFinset_card_of_nodup (distinct.filter _)]
    refine le_trans (Finset.card_le_card ?_) (Finset.card_image_le (f := Node.terminal))
    intro node member
    obtain ⟨listed, ends⟩ := List.mem_filter.mp (List.mem_toFinset.mp member)
    obtain ⟨verdict, inside, rfl⟩ := within.terminal node listed ends
    exact Finset.mem_image_of_mem _ inside
  have parts := List.length_eq_countP_add_countP Node.isTerminal (l := nodes)
  have others := within.tests_le
  omega

theorem concat_terminal {verdict : Verdict} (within : Within verdicts tests nodes)
    (inside : verdict ∈ verdicts) : Within verdicts tests (nodes ++ [.terminal verdict]) := by
  constructor
  · intro node member ends
    rcases List.mem_append.mp member with old | new
    · exact within.terminal node old ends
    · exact ⟨verdict, inside, List.mem_singleton.mp new⟩
  · have others := within.tests_le
    simpa [List.countP_append, Node.isTerminal, Node.terminal] using others

theorem concat_test (within : Within verdicts tests nodes) (filter : UInt8)
    (argument onMatch onUnmatch : UInt16) :
    Within verdicts (tests + 1) (nodes ++ [.test filter argument onMatch onUnmatch]) := by
  constructor
  · intro node member ends
    rcases List.mem_append.mp member with old | new
    · exact within.terminal node old ends
    · rw [List.mem_singleton.mp new] at ends
      cases ends
  · have others := within.tests_le
    rw [List.countP_append, List.countP_singleton]
    split <;> omega

end Within

/-! How a step ends. -/

variable {α β : Type} {verdicts : Finset Verdict} {spent more count : Nat} {builder middle : Builder}

/-- The step ends after some calls of the builder, with nodes within what is allowed. If the builder
was full, it is because more is allowed than it can hold. -/
structure Ends (verdicts : Finset Verdict) (spent : Nat) (builder : Builder)
    (result : EStateM.Result CompileError Builder α) : Prop where
  calls : ∃ calls, ended result = (builder.run calls).2
  within : Within verdicts spent (ended result).nodeList
  full : ∀ error after, result = .error error after → error.NodesFull →
    Builder.nodeLimit < verdicts.card + spent

namespace Ends

variable {result : EStateM.Result CompileError Builder α}

theorem mono (ends : Ends verdicts spent builder result) (fewer : spent ≤ more) :
    Ends verdicts more builder result where
  calls := ends.calls
  within := ends.within.mono fewer
  full := fun error after failed full => by
    have enough := ends.full error after failed full
    omega

theorem failed {error : CompileError} {after : Builder}
    (ends : Ends verdicts spent builder (.error error after : EStateM.Result _ _ α)) :
    Ends verdicts spent builder (.error error after : EStateM.Result _ _ β) where
  calls := ends.calls
  within := ends.within
  full := fun error' after' failed => by
    cases failed
    exact ends.full error after rfl

theorem after {calls : List BuilderCall} (reached : middle = (builder.run calls).2)
    (ends : Ends verdicts spent middle result) : Ends verdicts spent builder result where
  calls := by
    obtain ⟨later, same⟩ := ends.calls
    refine ⟨calls ++ later, ?_⟩
    rw [Builder.run_append, ← reached, same]
  within := ends.within
  full := ends.full

theorem sound (ends : Ends verdicts spent builder result) (sound : builder.Sound) :
    (ended result).Sound := by
  obtain ⟨calls, same⟩ := ends.calls
  exact same ▸ (Builder.run_follows sound calls).sound

end Ends

/-- Wherever the step starts, it needs at most so many tests more, and of verdicts only those. -/
def Spends (verdicts : Finset Verdict) (count : Nat) (step : Lower α) : Prop :=
  ∀ builder spent, builder.Sound → Within verdicts spent builder.nodeList →
    Ends verdicts (spent + count) builder (step builder)

namespace Spends

theorem pure (value : α) : Spends verdicts 0 (pure value : Lower α) := by
  intro builder spent sound within
  exact ⟨⟨[], rfl⟩, within, fun error after failed => by cases failed⟩

theorem bind {first : Lower α} {next : α → Lower β} (begins : Spends verdicts count first)
    (continues : ∀ value, Spends verdicts more (next value)) :
    Spends verdicts (count + more) (first >>= next) := by
  intro builder spent sound within
  have started := begins builder spent sound within
  rw [bind_apply]
  cases done : first builder with
  | error error after =>
      rw [done] at started
      exact started.failed.mono (by omega)
  | ok value middle =>
      rw [done] at started
      obtain ⟨calls, reached⟩ := started.calls
      have ended := continues value middle _ (started.sound sound) started.within
      rw [Nat.add_assoc] at ended
      exact ended.after reached

end Spends

namespace Lower

/-! Calls of the builder. -/

theorem build_bind (first : Build α) (next : α → Build β) :
    build (first >>= next) = build first >>= fun value => build (next value) := by
  funext builder
  simp only [build, EStateM.adaptExcept, bind_apply]
  cases first builder <;> rfl

theorem ended_build {step : Build UInt16} {call : BuilderCall} (asks : call.step = some <$> step)
    (builder : Builder) : ended (build step builder) = (builder.run [call]).2 := by
  simp only [Builder.run, BuilderCall.outcome, asks, map_apply, build, EStateM.adaptExcept]
  cases step builder <;> rfl

theorem node_spends {entry : Node} (fits : ∀ spent nodes, Within verdicts spent nodes →
    Within verdicts (spent + count) (nodes ++ [entry])) :
    Spends verdicts count (build (Builder.node entry)) := by
  intro builder spent sound within
  have added := fits spent builder.nodeList within
  refine ⟨⟨[.node entry], ended_build rfl builder⟩, ?_, ?_⟩
  · cases done : build (Builder.node entry) builder with
    | ok index after =>
        rcases Builder.node_eq_ok.mp (build_eq_ok.mp done) with ⟨_, _, _, rfl⟩ | ⟨_, _, _, rfl⟩
        · exact within.mono (by omega)
        · rw [ended, Builder.withNode_nodeList]
          exact added
    | error error after =>
        obtain ⟨fault, failed, _⟩ := adaptExcept_eq_error.mp done
        obtain ⟨_, _, _, rfl⟩ := Builder.node_eq_error.mp failed
        exact within.mono (by omega)
  · intro error after failed _
    -- The node that there was no room for would have been allowed too.
    obtain ⟨fault, failed, _⟩ := adaptExcept_eq_error.mp failed
    obtain ⟨fresh, room, _, rfl⟩ := Builder.node_eq_error.mp failed
    have absent := (sound.nodes.find?_eq_none_iff entry).mp fresh
    have distinct : (after.nodeList ++ [entry]).Nodup :=
      sound.nodes.distinct.append (List.nodup_singleton entry) (by simpa using absent)
    have length := added.length_le distinct
    have next := sound.nodes_next
    rw [List.length_append, List.length_singleton] at length
    omega

theorem terminal_spends {verdict : Verdict} (inside : verdict ∈ verdicts) :
    Spends verdicts 0 (terminal verdict) :=
  node_spends fun _ _ within => within.concat_terminal inside

theorem test_spends (filter : UInt8) (argument onMatch onUnmatch : UInt16) :
    Spends verdicts 1 (build (Builder.node (.test filter argument onMatch onUnmatch))) :=
  node_spends fun _ _ within => within.concat_test filter argument onMatch onUnmatch

theorem stored_spends {step : Build UInt16} (call : BuilderCall) (asks : call.step = some <$> step)
    (keeps : ∀ builder, (ended (step builder)).nodeList = builder.nodeList)
    (fails : FailsOnly (fun error => ¬(CompileError.bytecode error).NodesFull) step) :
    Spends verdicts 0 (build step) := by
  intro builder spent sound within
  refine ⟨⟨[call], ended_build asks builder⟩, ?_, ?_⟩
  · have kept := keeps builder
    simp only [build, EStateM.adaptExcept]
    cases done : step builder with
    | ok value after =>
        rw [done] at kept
        exact kept ▸ within
    | error error after =>
        rw [done] at kept
        exact kept ▸ within
  · intro error after failed full
    obtain ⟨fault, broken, rfl⟩ := adaptExcept_eq_error.mp failed
    exact absurd full (fails builder fault after broken)

theorem text_not_full (value : String) :
    FailsOnly (fun error => ¬(CompileError.bytecode error).NodesFull) (Builder.text value) := by
  rintro builder error after failed ⟨count, limit, full⟩
  rcases (Builder.blob_eq_error.mp failed).2.2 with ⟨_, rfl⟩ | ⟨_, _, rfl⟩
  · simp at full
  · simp at full

theorem text_spends (value : String) : Spends verdicts 0 (build (Builder.text value)) := by
  refine stored_spends (.text value) rfl (fun builder => ?_) (text_not_full value)
  cases done : Builder.text value builder with
  | ok place after => exact (Builder.blob_keeps_lists done).1
  | error error after => rw [ended, (Builder.blob_eq_error.mp done).2.1]

theorem entry_spends (kind : TableKind) (value : String) :
    Spends verdicts 0 (build (Builder.entry kind value)) := by
  refine stored_spends (.entry kind value) rfl (fun builder => ?_) ?_
  · cases done : Builder.entry kind value builder with
    | ok place after => exact (Builder.entry_keeps_lists done).1
    | error error after => rw [ended, Builder.entry_keeps done]
  · intro builder error after failed
    rcases (Builder.entry_eq_error.mp failed).2 with ⟨_, _, rfl⟩ | ⟨_, failed⟩
    · rintro ⟨count, limit, full⟩
      cases kind <;> simp [TableKind.name] at full
    · exact text_not_full value builder error after failed

theorem argument_spends (value : Argument) : Spends verdicts 0 (build (argument value)) := by
  rcases argument_cases value with ⟨kind, text, same⟩ | ⟨text, same⟩ | ⟨name, path, same⟩
  · rw [same]
    exact entry_spends kind text
  · rw [same]
    exact text_spends text
  · rw [same, build_bind]
    exact (entry_spends .variable name).bind fun _ => text_spends path

theorem leaf_spends (name : String) (value : Argument) (onMatch onUnmatch : UInt16) :
    Spends verdicts 1 (filter onMatch onUnmatch (.leaf name value)) := by
  rw [filter]
  cases Catalogue.byName? name with
  | none =>
      intro builder spent sound within
      refine ⟨⟨[], rfl⟩, within.mono (by omega), ?_⟩
      rintro error after failed ⟨count, limit, rfl⟩
      cases failed
  | some known =>
      have stored : Spends verdicts 0 (build (argument value)) := argument_spends value
      have leaf := stored.bind fun place => test_spends known.id place onMatch onUnmatch
      rw [← build_bind, Nat.zero_add] at leaf
      exact leaf

theorem chain_spends {chain : Chain} (base : chain.base ∈ verdicts)
    (inside : ∀ item ∈ chain.tests, item.2 ∈ verdicts) :
    Spends verdicts (chain.tests.flatMap fun item => item.1.leaves).length (Lower.chain chain) := by
  have closed : Closed (Spends verdicts) := ⟨.pure, .bind⟩
  apply chain_closed closed (terminal_spends base)
  · exact fun item member => terminal_spends (inside item member)
  · exact fun item _ leaf _ => leaf_spends leaf.1 leaf.2

end Lower

end SandboxPolicy
