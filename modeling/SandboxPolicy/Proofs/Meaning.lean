import Mathlib.Data.List.Induction
import SandboxPolicy.Compiler
import SandboxPolicy.Evaluator
import SandboxPolicy.Proofs.PathComponents

/-!
What policies mean, told without compiling them: the last rule that applies to an operation and
whose filter holds decides.
-/

namespace SandboxPolicy

namespace Filter

mutual

def holds (test : String → Argument → Bool) : Filter → Bool
  | .leaf name argument => test name argument
  | .all items => allHold test items
  | .any items => anyHolds test items
  | .not item => !item.holds test

def allHold (test : String → Argument → Bool) : List Filter → Bool
  | [] => true
  | first :: rest => first.holds test && allHold test rest

def anyHolds (test : String → Argument → Bool) : List Filter → Bool
  | [] => false
  | first :: rest => first.holds test || anyHolds test rest

end

variable (test : String → Argument → Bool)

theorem holds_all (items : List Filter) : (all items).holds test = items.all (holds test) := by
  rw [holds]
  induction items with
  | nil => rfl
  | cons first rest ih => rw [allHold, List.all_cons, ih]

theorem holds_any (items : List Filter) : (any items).holds test = items.any (holds test) := by
  rw [holds]
  induction items with
  | nil => rfl
  | cons first rest ih => rw [anyHolds, List.any_cons, ih]

end Filter

/-! What a filter asks of a request. -/

def BeginsWith (path name : List Char) : Prop :=
  ∃ rest, path = '$' :: '\x7b' :: (name ++ '\x7d' :: rest) ∧ '\x7d' ∉ name

/-- The path with a value in the place of its variable. Without a value it is no path. -/
inductive Bindings.Expands (bindings : Bindings) : List Char → List Char → Prop
  | plain {path : List Char} (fixed : ∀ name, ¬BeginsWith path name) : bindings.Expands path path
  | bound {name rest : List Char} {value : String} (first : '\x7d' ∉ name)
      (bound : bindings.get? (String.ofList name) = some value) :
      bindings.Expands ('$' :: '\x7b' :: (name ++ '\x7d' :: rest)) (value.toList ++ rest)

/-- The components of the path start with those of the base, of which empty ones at the end do not
count. A base that has no others is the root. -/
def LiesBelow (base path : List Char) : Prop :=
  if (base.splitOn '/').rdropWhile List.isEmpty = [] then path.head? = some '/'
  else (base.splitOn '/').rdropWhile List.isEmpty <+: path.splitOn '/'

def PathAdmits (filter : String) (path asked : List Char) : Prop :=
  if filter = "subpath" then LiesBelow path asked
  else if filter = "prefix" then path <+: asked
  else asked = path

/-- A host may have colons of its own. -/
structure IsAddress (address host port : List Char) : Prop where
  joined : address = host ++ ':' :: port
  last : ':' ∉ port

def AddressAdmits (pattern asked : List Char) : Prop :=
  ∃ patternHost patternPort host port, IsAddress pattern patternHost patternPort ∧
    IsAddress asked host port ∧ (patternHost = ['*'] ∨ patternHost = host) ∧
    (patternPort = ['*'] ∨ patternPort = port)

def Argument.Admits (bindings : Bindings) (filter : String) : Argument → String → Prop
  | .path written, asked =>
      ∃ meant, bindings.Expands written.toList meant ∧ PathAdmits filter meant asked.toList
  | .regex source, asked =>
      ∃ pattern, Regex.compile source = .ok pattern ∧ pattern.matchesText asked = true
  | .address pattern, asked => AddressAdmits pattern.toList asked.toList
  | .name value, asked | .keyword value, asked => asked = value
  | .entitlement _, _ => False

/-! How the evaluator tests it. -/

theorem patternVariable?_eq_some {path name : List Char} :
    patternVariable? path = some name ↔ BeginsWith path name := by
  simp only [patternVariable?, Option.bind_eq_some_iff, afterStart?_eq_some,
    Option.map_eq_some_iff, Prod.exists, splitFirst?_eq_some, BeginsWith]
  constructor
  · rintro ⟨_, rfl, _, rest, ⟨rfl, absent⟩, rfl⟩
    exact ⟨rest, rfl, absent⟩
  · rintro ⟨rest, rfl, absent⟩
    exact ⟨_, rfl, name, rest, ⟨rfl, absent⟩, rfl⟩

theorem drop_variable (name rest : List Char) :
    ('$' :: '\x7b' :: (name ++ '\x7d' :: rest)).drop (name.length + 3) = rest := by
  simp [List.drop_append]

theorem expand_eq_some {bindings : Bindings} {path meant : List Char} :
    Evaluator.expand bindings path = some meant ↔ bindings.Expands path meant := by
  rw [Evaluator.expand]
  constructor
  · intro found
    split at found
    next plain =>
      obtain rfl := Option.some.inj found
      refine .plain fun name begins => ?_
      rw [patternVariable?_eq_some.mpr begins] at plain
      cases plain
    next name leading =>
      obtain ⟨rest, rfl, first⟩ := patternVariable?_eq_some.mp leading
      obtain ⟨value, bound, rfl⟩ := Option.map_eq_some_iff.mp found
      rw [drop_variable]
      exact .bound first bound
  · rintro (fixed | @⟨name, rest, value, first, bound⟩)
    · have plain : patternVariable? path = none :=
        Option.eq_none_iff_forall_ne_some.mpr fun name leading =>
          fixed name (patternVariable?_eq_some.mp leading)
      rw [plain]
    · rw [patternVariable?_eq_some.mpr ⟨rest, rfl, first⟩]
      simp only [bound, Option.map_some, drop_variable]

theorem subpathMatches_iff_liesBelow {base path : List Char} :
    subpathMatches base path = true ↔ LiesBelow base path := by
  obtain ⟨cut, split, all, last⟩ := trimEnd_eq_iff.mp (rfl : trimEnd (· == '/') base = _)
  have parts := @rdropWhile_splitOn_append '/' _ _ (by simpa using all) (by simpa using last)
  rw [← split] at parts
  rw [subpathMatches_iff, LiesBelow, parts]
  by_cases root : trimEnd (· == '/') base = []
  · rw [root, if_pos rfl, if_pos rfl, List.head?_eq_some_iff]
    simp
  · have nonempty : (trimEnd (· == '/') base).splitOn '/' ≠ [] := List.splitOn_ne_nil _ _
    rw [if_neg root, if_neg nonempty, splitOn_prefix_iff]
    refine or_congr_left (and_iff_left_of_imp ?_)
    rintro rfl
    exact root

theorem pathMatches_iff {bindings : Bindings} {filter : String} {path asked : List Char} :
    Evaluator.pathMatches bindings filter path asked = true ↔
      ∃ meant, bindings.Expands path meant ∧ PathAdmits filter meant asked := by
  simp only [Evaluator.pathMatches, ← expand_eq_some]
  cases Evaluator.expand bindings path with
  | none => simp
  | some meant =>
      simp only [Option.some.injEq, exists_eq_left', PathAdmits]
      split_ifs
      · exact subpathMatches_iff_liesBelow
      · rw [Option.isSome_iff_exists]
        exact exists_congr fun rest => afterStart?_eq_some.trans eq_comm
      · exact beq_iff_eq

theorem splitLast?_eq_isAddress {address host port : List Char} :
    splitLast? ':' address = some (host, port) ↔ IsAddress address host port :=
  splitLast?_eq_some.trans ⟨fun found => ⟨found.1, found.2⟩, fun found => ⟨found.1, found.2⟩⟩

theorem addressMatches_iff_admits {pattern asked : List Char} :
    addressMatches pattern asked = true ↔ AddressAdmits pattern asked := by
  rw [addressMatches]
  constructor
  · intro matched
    split at matched
    next patternHost patternPort host port parts parts' =>
      refine ⟨_, _, _, _, splitLast?_eq_isAddress.mp parts, splitLast?_eq_isAddress.mp parts', ?_⟩
      simpa using matched
    next => cases matched
  · rintro ⟨patternHost, patternPort, host, port, parts, parts', admitted⟩
    rw [splitLast?_eq_isAddress.mpr parts, splitLast?_eq_isAddress.mpr parts']
    simpa using admitted

instance (bindings : Bindings) (filter : String) :
    (argument : Argument) → (asked : String) → Decidable (argument.Admits bindings filter asked)
  | .path _, _ => decidable_of_iff _ pathMatches_iff
  | .regex source, asked =>
      match compiled : Regex.compile source with
      | .ok pattern =>
          decidable_of_iff (pattern.matchesText asked = true) (by simp [Argument.Admits, compiled])
      | .error _ => isFalse (by simp [Argument.Admits, compiled])
  | .address _, _ => decidable_of_iff _ addressMatches_iff_admits
  | .name _, _ | .keyword _, _ => inferInstanceAs (Decidable (_ = _))
  | .entitlement _, _ => inferInstanceAs (Decidable False)

/-- Without an argument a request passes no tests but those that are about its entitlements. -/
def Request.passes (bindings : Bindings) (request : Request) (filter : String)
    (argument : Argument) : Bool :=
  match argument with
  | .entitlement key => request.entitlements.contains key
  | tested => request.argument.any fun asked => tested.Admits bindings filter asked

/-! What a policy decides. -/

def Rule.appliesTo (table : OperationTable) (slot : Nat) (rule : Rule) : Bool :=
  rule.operations.any fun name =>
    (table.resolve name).any fun ruleSlot => table.covers ruleSlot slot

def Rule.holds (test : String → Argument → Bool) (rule : Rule) : Bool :=
  rule.filter.all (Filter.holds test)

def lastVerdict (rules : List Rule) : Verdict :=
  (rules.getLast?.map Rule.verdict).getD .denial

def Policy.decide (table : OperationTable) (test : String → Argument → Bool) (slot : Nat)
    (policy : Policy) : Verdict :=
  lastVerdict (policy.rules.filter fun rule => rule.appliesTo table slot && rule.holds test)

namespace Chain

variable (test : String → Argument → Bool)

def decide (chain : Chain) : Verdict :=
  chain.tests.foldl (fun decided entry => if entry.1.holds test then entry.2 else decided)
    chain.base

theorem ofRules_concat_none {rule : Rule} (rules : List Rule) (free : rule.filter = none) :
    ofRules (rules ++ [rule]) = ⟨rule.verdict, []⟩ := by
  simp [ofRules, free]

theorem ofRules_concat_some {rule : Rule} {guard : Filter} (rules : List Rule)
    (guarded : rule.filter = some guard) :
    ofRules (rules ++ [rule]) =
      ⟨(ofRules rules).base, (ofRules rules).tests ++ [(guard, rule.verdict)]⟩ := by
  simp [ofRules, guarded]

/-- A chain decides as the last of its rules that has no filter or one that holds. -/
theorem decide_ofRules (rules : List Rule) :
    (ofRules rules).decide test = lastVerdict (rules.filter (Rule.holds test)) := by
  -- From the end, because a last rule without a filter makes all rules before it void.
  induction rules using List.reverseRecOn with
  | nil => rfl
  | append_singleton rules rule ih =>
      rw [List.filter_append]
      cases guarded : rule.filter with
      | none =>
          have free : rule.holds test = true := by simp [Rule.holds, guarded]
          rw [ofRules_concat_none rules guarded]
          simp [decide, lastVerdict, free]
      | some guard =>
          rw [ofRules_concat_some rules guarded]
          have same : rule.holds test = guard.holds test := by
            simp [Rule.holds, guarded]
          cases held : guard.holds test with
          | true => simp [decide, lastVerdict, same, held]
          | false =>
              rw [decide] at ih
              simp [decide, same, held, ih]

end Chain

end SandboxPolicy
