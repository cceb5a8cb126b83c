import SandboxPolicy.Proofs.Graph
import SandboxPolicy.Proofs.Meaning

/-!
What lowering adds to the graph of a builder: nodes from which the tests of a filter lead where the
filter says, and the last rule that applies decides.
-/

namespace SandboxPolicy

open Steps

namespace Builder

variable {builder before after : Builder} {test : String → Argument → Bool}

inductive Decides (builder : Builder) (test : String → Argument → Bool) :
    UInt16 → Verdict → Prop where
  | verdict {index : UInt16} {verdict : Verdict} :
      builder.HasNode index (.terminal verdict) → Decides builder test index verdict
  | test {index : UInt16} {node : Node} {name : String} {argument : Argument}
      {onMatch onUnmatch : UInt16} {verdict : Verdict} : builder.HasNode index node →
      builder.IsTest node name argument onMatch onUnmatch →
      Decides builder test (if test name argument then onMatch else onUnmatch) verdict →
      Decides builder test index verdict

theorem Decides.grow {index : UInt16} {verdict : Verdict}
    (decides : before.Decides test index verdict) (grown : before.Grows after) :
    after.Decides test index verdict := by
  induction decides with
  | verdict held => exact .verdict (held.grow grown)
  | test held tests _ ih => exact .test (held.grow grown) (tests.grow grown) ih

/-- The node exists, and however the builder grows, it leads to the same verdicts as the target,
which depends on the outcomes of tests. -/
structure Routes (builder : Builder) (index : UInt16)
    (target : (String → Argument → Bool) → UInt16) : Prop where
  bound : index.toNat < builder.nodeList.length
  decides : ∀ later, builder.Grows later → ∀ test verdict,
    later.Decides test (target test) verdict → later.Decides test index verdict

theorem HasNode.bound {index : UInt16} {node : Node} (held : builder.HasNode index node) :
    index.toNat < builder.nodeList.length :=
  (List.getElem?_eq_some_iff.mp held).1

theorem Routes.refl {index : UInt16} (bound : index.toNat < builder.nodeList.length) :
    builder.Routes index fun _ => index :=
  ⟨bound, fun _ _ _ _ decides => decides⟩

theorem Routes.congr {index : UInt16} {target other : (String → Argument → Bool) → UInt16}
    (routes : builder.Routes index target) (same : ∀ test, target test = other test) :
    builder.Routes index other :=
  funext same ▸ routes

theorem Routes.through {index : UInt16} {target onward : (String → Argument → Bool) → UInt16}
    (routes : after.Routes index target) (grown : before.Grows after)
    (continues : ∀ later, before.Grows later → ∀ test verdict,
      later.Decides test (onward test) verdict → later.Decides test (target test) verdict) :
    after.Routes index onward :=
  ⟨routes.bound, fun later more test verdict decides =>
    routes.decides later more test verdict
      (continues later (grown.trans more) test verdict decides)⟩

end Builder

namespace Lower

open Builder

variable {builder after : Builder}

theorem build_eq_ok {α : Type} {step : Build α} {value : α} :
    build step builder = .ok value after ↔ step builder = .ok value after :=
  adaptExcept_eq_ok

theorem terminal_extends (graph : builder.Graph) {verdict : Verdict} {index : UInt16}
    (lowered : terminal verdict builder = .ok index after) :
    builder.Extends after ∧ after.HasNode index (.terminal verdict) :=
  graph.node (.verdict verdict rfl) (build_eq_ok.mp lowered)

theorem argument_extends (graph : builder.Graph) {kind : ArgumentKind} {value : Argument}
    (suits : value.Suits kind) {place : UInt16}
    (lowered : argument value builder = .ok place after) :
    builder.Extends after ∧ after.HasArgument place value := by
  cases suits with
  | path path =>
      cases leading : patternVariable? path.toList with
      | some name =>
          simp only [argument, leading] at lowered
          obtain ⟨_, middle, named, stored⟩ := bind_eq_ok.mp lowered
          obtain ⟨index, added, _⟩ := map_eq_ok.mp named
          have first := (graph.entry (fun same => by cases same) added).1
          obtain ⟨second, held⟩ := first.graph.text stored
          exact ⟨first.trans second, held⟩
      | none =>
          simp only [argument, leading] at lowered
          exact graph.text lowered
  | regex compiled => exact graph.entry (fun _ => ⟨_, compiled⟩) lowered
  | name value => exact graph.text lowered
  | keyword values value => exact graph.text lowered
  | address value => exact graph.text lowered
  | entitlement value => exact graph.entry (fun same => by cases same) lowered

theorem leaf_extends {name : String} {value : Argument} (graph : builder.Graph)
    (checked : checkArgument name value = .ok ()) {onMatch onUnmatch index : UInt16}
    (matchBound : onMatch.toNat < builder.nodeList.length)
    (unmatchBound : onUnmatch.toNat < builder.nodeList.length)
    (lowered : filter onMatch onUnmatch (.leaf name value) builder = .ok index after) :
    builder.Extends after ∧
      after.Routes index fun test => if test name value then onMatch else onUnmatch := by
  obtain ⟨known, found, suits⟩ := checkArgument_suits checked
  simp only [filter, found, build_eq_ok] at lowered
  obtain ⟨place, middle, stored, added⟩ := bind_eq_ok.mp lowered
  obtain ⟨first, held⟩ := argument_extends graph suits stored
  have tests :
      middle.IsTest (.test known.id place onMatch onUnmatch) name value onMatch onUnmatch :=
    ⟨known, place, found, suits, held, rfl⟩
  obtain ⟨second, node⟩ := first.graph.node (.test tests (first.grows.index_lt matchBound)
    (first.grows.index_lt unmatchBound)) added
  refine ⟨first.trans second, node.bound, ?_⟩
  intro later more test verdict decides
  exact .test (node.grow more) (tests.grow (second.grows.trans more)) decides

mutual

theorem filter_extends (guard : Filter) (valid : guard.Valid) {builder after : Builder}
    {onMatch onUnmatch index : UInt16} (graph : builder.Graph)
    (matchBound : onMatch.toNat < builder.nodeList.length)
    (unmatchBound : onUnmatch.toNat < builder.nodeList.length)
    (lowered : filter onMatch onUnmatch guard builder = .ok index after) :
    builder.Extends after ∧
      after.Routes index fun test => if guard.holds test then onMatch else onUnmatch := by
  match guard with
  | .leaf name value =>
      have checked := valid (name, value) (by simp [Filter.leaves])
      obtain ⟨extended, routes⟩ := leaf_extends graph checked matchBound unmatchBound lowered
      exact ⟨extended, routes.congr fun test => by rw [Filter.holds]⟩
  | .all items =>
      simp only [filter] at lowered
      obtain ⟨extended, routes⟩ :=
        allOf_extends items valid.all graph matchBound unmatchBound lowered
      exact ⟨extended, routes.congr fun test => by rw [Filter.holds]⟩
  | .any items =>
      simp only [filter] at lowered
      obtain ⟨extended, routes⟩ :=
        anyOf_extends items valid.any graph matchBound unmatchBound lowered
      exact ⟨extended, routes.congr fun test => by rw [Filter.holds]⟩
  | .not item =>
      simp only [filter] at lowered
      obtain ⟨extended, routes⟩ :=
        filter_extends item valid.not graph unmatchBound matchBound lowered
      -- The targets have changed places, and with them what it means that the item holds.
      refine ⟨extended, routes.congr fun test => ?_⟩
      cases held : item.holds test <;> simp [Filter.holds, held]

theorem allOf_extends (items : List Filter) (valid : ∀ item ∈ items, item.Valid)
    {builder after : Builder} {onMatch onUnmatch index : UInt16} (graph : builder.Graph)
    (matchBound : onMatch.toNat < builder.nodeList.length)
    (unmatchBound : onUnmatch.toNat < builder.nodeList.length)
    (lowered : allOf onMatch onUnmatch items builder = .ok index after) :
    builder.Extends after ∧
      after.Routes index fun test =>
        if Filter.allHold test items then onMatch else onUnmatch := by
  match items with
  | [] =>
      cases lowered
      exact ⟨graph.extends, .refl matchBound⟩
  | first :: rest =>
      simp only [allOf] at lowered
      -- The later items are lowered first, since the first item has to lead to them.
      obtain ⟨next, middle, later, sooner⟩ := bind_eq_ok.mp lowered
      obtain ⟨extended, routes⟩ := allOf_extends rest
        (fun item member => valid item (List.mem_cons_of_mem _ member)) graph matchBound
        unmatchBound later
      obtain ⟨extended', routes'⟩ := filter_extends first (valid first List.mem_cons_self)
        extended.graph routes.bound (extended.grows.index_lt unmatchBound) sooner
      refine ⟨extended.trans extended', routes'.through extended'.grows ?_⟩
      intro later more test verdict decides
      rw [Filter.allHold] at decides
      cases held : first.holds test with
      | true =>
          rw [held, Bool.true_and] at decides
          exact routes.decides later more test verdict decides
      | false => simpa [held] using decides

theorem anyOf_extends (items : List Filter) (valid : ∀ item ∈ items, item.Valid)
    {builder after : Builder} {onMatch onUnmatch index : UInt16} (graph : builder.Graph)
    (matchBound : onMatch.toNat < builder.nodeList.length)
    (unmatchBound : onUnmatch.toNat < builder.nodeList.length)
    (lowered : anyOf onMatch onUnmatch items builder = .ok index after) :
    builder.Extends after ∧
      after.Routes index fun test =>
        if Filter.anyHolds test items then onMatch else onUnmatch := by
  match items with
  | [] =>
      cases lowered
      exact ⟨graph.extends, .refl unmatchBound⟩
  | first :: rest =>
      simp only [anyOf] at lowered
      obtain ⟨next, middle, later, sooner⟩ := bind_eq_ok.mp lowered
      obtain ⟨extended, routes⟩ := anyOf_extends rest
        (fun item member => valid item (List.mem_cons_of_mem _ member)) graph matchBound
        unmatchBound later
      obtain ⟨extended', routes'⟩ := filter_extends first (valid first List.mem_cons_self)
        extended.graph (extended.grows.index_lt matchBound) routes.bound sooner
      refine ⟨extended.trans extended', routes'.through extended'.grows ?_⟩
      intro later more test verdict decides
      rw [Filter.anyHolds] at decides
      cases held : first.holds test with
      | true => simpa [held] using decides
      | false =>
          rw [held, Bool.false_or] at decides
          exact routes.decides later more test verdict decides

end

end Lower

namespace Builder

variable {builder before after : Builder}

structure Enters (builder : Builder) (index : UInt16) (chain : Chain) : Prop where
  bound : index.toNat < builder.nodeList.length
  decides : ∀ test, builder.Decides test index (chain.decide test)

theorem Enters.grow {index : UInt16} {chain : Chain} (enters : before.Enters index chain)
    (grown : before.Grows after) : after.Enters index chain :=
  ⟨grown.index_lt enters.bound, fun test => (enters.decides test).grow grown⟩

end Builder

namespace Lower

open Builder

theorem tests_extends {guarded : List (Filter × Verdict)} {base : Verdict}
    {overridden : List (Filter × Verdict)} (valid : ∀ item ∈ guarded, item.1.Valid)
    {builder after : Builder} {entry index : UInt16} (graph : builder.Graph)
    (enters : builder.Enters entry ⟨base, overridden⟩)
    (lowered : tests entry guarded builder = .ok index after) :
    builder.Extends after ∧ after.Enters index ⟨base, overridden ++ guarded⟩ := by
  -- The entry decides as the tests so far, and a test in front of it makes the next such entry.
  induction guarded generalizing overridden builder entry with
  | nil =>
      cases lowered
      rw [List.append_nil]
      exact ⟨graph.extends, enters⟩
  | cons first rest ih =>
      obtain ⟨guard, verdict⟩ := first
      simp only [tests] at lowered
      obtain ⟨decided, second, added, lowered⟩ := bind_eq_ok.mp lowered
      obtain ⟨next, third, filtered, lowered⟩ := bind_eq_ok.mp lowered
      obtain ⟨grown, node⟩ := terminal_extends graph added
      obtain ⟨grown', routes⟩ := filter_extends guard (valid _ List.mem_cons_self) grown.graph
        node.bound (grown.grows.index_lt enters.bound) filtered
      have enters' : third.Enters next ⟨base, overridden ++ [(guard, verdict)]⟩ := by
        refine ⟨routes.bound, fun test => ?_⟩
        refine routes.decides third (.refl third) test _ ?_
        rw [Chain.decide, List.foldl_append]
        cases held : guard.holds test with
        | true => simpa [held] using .verdict (node.grow grown'.grows)
        | false =>
            have before := (enters.grow (grown.trans grown').grows).decides test
            simpa [held, Chain.decide] using before
      have last := ih (fun item member => valid item (List.mem_cons_of_mem _ member))
        grown'.graph enters' lowered
      rw [List.append_assoc] at last
      exact ⟨(grown.trans grown').trans last.1, last.2⟩

theorem chain_extends {chain : Chain} (valid : ∀ item ∈ chain.tests, item.1.Valid)
    {builder after : Builder} {index : UInt16} (graph : builder.Graph)
    (lowered : Lower.chain chain builder = .ok index after) :
    builder.Extends after ∧ after.Enters index chain := by
  obtain ⟨base, middle, added, lowered⟩ := bind_eq_ok.mp lowered
  obtain ⟨grown, node⟩ := terminal_extends graph added
  have enters : middle.Enters base ⟨chain.base, []⟩ := ⟨node.bound, fun test => .verdict node⟩
  obtain ⟨grown', entered⟩ := tests_extends valid grown.graph enters lowered
  exact ⟨grown.trans grown', entered⟩

end Lower

end SandboxPolicy
