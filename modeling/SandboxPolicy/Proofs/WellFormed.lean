import SandboxPolicy.Bytecode.Dissection
import SandboxPolicy.Proofs.LastRule

/-!
Compiled profiles are graphs without cycles, whose nodes all mean something. So nothing stands in
the way of a decision.
-/

namespace SandboxPolicy

open Walk

namespace Image

def Holds (image : Image) (kind : ArgumentKind) (argument : UInt16) : Prop :=
  match kind with
  | .regex => ∃ source, image.regex argument = .ok source
  | .entitlement => ∃ key, image.entitlement? argument = some key
  | .path | .name | .keyword _ | .address => ∃ value, image.data.text argument = .ok value

structure WellFormed (image : Image) : Prop where
  entries : ∀ record ∈ image.profiles, ∀ entry ∈ record.operations,
    entry.toNat < image.nodes.length
  filters : ∀ (index : Nat) (node : Node),
    image.nodes[index]? = some node → node.opcode = Node.filterOpcode →
    ∃ known, Catalogue.byId? node.filter = some known ∧ node.onMatch.toNat < index ∧
      node.onUnmatch.toNat < index ∧ image.Holds known.kind node.argument
  others : ∀ (index : Nat) (node : Node),
    image.nodes[index]? = some node → node.opcode ≠ Node.filterOpcode →
    ∃ verdict, node.verdict? = some verdict

end Image

namespace Evaluator

variable {evaluator : Evaluator} {request : Request}

theorem Moves.descends (wellFormed : evaluator.image.WellFormed) {index next : Nat}
    (moved : evaluator.Moves request index next) : next < index := by
  obtain ⟨node, holds, found, isFilter, _, rfl⟩ := moved
  obtain ⟨_, _, matchBound, unmatchBound, _⟩ := wellFormed.filters index node found isFilter
  cases holds with
  | true => exact matchBound
  | false => exact unmatchBound

theorem walked_descends (wellFormed : evaluator.image.WellFormed) {entry : Nat} {path : List Nat}
    (walked : From (evaluator.Moves request) entry path) : path.Pairwise (· > ·) :=
  (walked.chain.imp fun _ _ moved => Moves.descends wellFormed moved).pairwise

theorem walked_le (wellFormed : evaluator.image.WellFormed) {entry : Nat} {path : List Nat}
    (walked : From (evaluator.Moves request) entry path) : ∀ index ∈ path, index ≤ entry := by
  have descends := walked_descends wellFormed walked
  cases path with
  | nil => simp
  | cons first rest =>
      obtain rfl : first = entry := Option.some.inj walked.head
      intro index member
      rcases List.mem_cons.mp member with same | later
      · exact Nat.le_of_eq same
      · exact Nat.le_of_lt ((List.pairwise_cons.mp descends).1 index later)

theorem Unresolved.not_holds {kind : ArgumentKind} {argument : UInt16} {fault : BytecodeError}
    (unresolved : evaluator.Unresolved kind argument fault)
    (regexes : evaluator.regexes.length = evaluator.image.regexes.length) :
    ¬ evaluator.image.Holds kind argument := by
  cases unresolved with
  | regex isRegex missing =>
      rw [isRegex]
      rintro ⟨source, found⟩
      rw [List.getElem?_eq_none_iff, regexes, ← List.getElem?_eq_none_iff] at missing
      simp [Image.regex, missing] at found
  | text notRegex notEntitlement failed =>
      intro holds
      cases kind with
      | regex => exact notRegex rfl
      | entitlement => exact notEntitlement rfl
      | path => simp [Image.Holds, failed] at holds
      | name => simp [Image.Holds, failed] at holds
      | keyword values => simp [Image.Holds, failed] at holds
      | address => simp [Image.Holds, failed] at holds

theorem Obstructs.not_wellFormed {operation : Nat} {source : Option Nat} {index : Nat}
    {error : EvalError}
    (obstructed : evaluator.Obstructs request operation source index error)
    (bound : index < evaluator.image.nodes.length)
    (regexes : evaluator.regexes.length = evaluator.image.regexes.length) :
    ¬ evaluator.image.WellFormed := by
  intro wellFormed
  cases obstructed with
  | entry missing => simp [Nat.not_le.mpr bound] at missing
  | target missing => simp [Nat.not_le.mpr bound] at missing
  | action found isTerminal unknown =>
      obtain ⟨verdict, decodes⟩ := wellFormed.others index _ found (by rw [isTerminal]; decide)
      simp [Node.verdict?, unknown] at decodes
  | opcode found notTerminal notFilter =>
      obtain ⟨verdict, decodes⟩ := wellFormed.others index _ found notFilter
      simp [Node.verdict?, Node.isTerminal, notTerminal] at decodes
  | filter found isFilter unknown =>
      obtain ⟨known, catalogued, _⟩ := wellFormed.filters index _ found isFilter
      simp [unknown] at catalogued
  | argument found isFilter catalogued _ unresolved =>
      obtain ⟨known, catalogued', _, _, holds⟩ := wellFormed.filters index _ found isFilter
      obtain rfl := Option.some.inj (catalogued.symm.trans catalogued')
      exact unresolved.not_holds regexes holds

theorem Complete.decides (complete : evaluator.Complete)
    (wellFormed : evaluator.image.WellFormed)
    (regexes : evaluator.regexes.length = evaluator.image.regexes.length) {profile : Nat}
    (inside : profile < evaluator.image.profiles.length) (request : Request) :
    evaluator.evaluate profile request = .error (.unknownOperation request.operation) ∨
      ∃ decision, evaluator.evaluate profile request = .ok decision ∧
        decision.trace.Pairwise (· > ·) := by
  have found := List.getElem?_eq_getElem inside
  cases resolved : evaluator.table.resolve request.operation with
  | none => exact .inl ((complete.exact profile request).unknown _ found resolved)
  | some operation =>
      obtain ⟨entry, enters, concluded, _⟩ := complete.concludes found resolved
      have bound := wellFormed.entries _ (List.mem_of_getElem? found) entry
        (List.mem_of_getElem? enters)
      generalize evaluator.evaluate profile request = answer at concluded
      cases concluded with
      | @settled decision last _ walked _ _ =>
          exact .inr ⟨decision, rfl, walked_descends wellFormed walked⟩
      | @obstructed before last _ walked obstructed =>
          have reached := walked_le wellFormed walked last (by simp)
          exact absurd wellFormed (obstructed.not_wellFormed (by omega) regexes)
      | @endless route index endless _ =>
          -- The indices on an endless walk would descend for ever.
          obtain ⟨n, stays⟩ := WellFounded.not_rel_apply_succ (r := (· < ·)) route
          exact absurd (Moves.descends wellFormed (endless.moves n)) stays

end Evaluator

namespace Builder

variable {builder : Builder}

theorem HasArgument.holds (sound : builder.Sound) {place : UInt16} {kind : ArgumentKind}
    {argument : Argument} (suits : argument.Suits kind)
    (held : builder.HasArgument place argument) : builder.image.Holds kind place := by
  cases suits with
  | path value => exact ⟨value, HasBlob.text sound held⟩
  | regex compiled => exact ⟨_, HasText.regex sound held⟩
  | name value => exact ⟨value, HasBlob.text sound held⟩
  | keyword values value => exact ⟨value, HasBlob.text sound held⟩
  | address value => exact ⟨value, HasBlob.text sound held⟩
  | entitlement value => exact ⟨value, held⟩

theorem mem_image_profiles {α : Type} {placed : ProfileRecord} (property : ProfileRecord → α)
    (free : ∀ record position, property { record with offset := position } = property record)
    (member : placed ∈ builder.image.profiles) :
    ∃ record ∈ builder.profiles.toList, property record = property placed := by
  have listed := List.mem_map_of_mem (f := property) member
  rw [image_map builder property free] at listed
  exact List.mem_map.mp listed

theorem Graph.wellFormed (graph : builder.Graph) : builder.image.WellFormed where
  entries := by
    intro placed member entry enters
    obtain ⟨record, inside, same⟩ :=
      mem_image_profiles ProfileRecord.operations (fun _ _ => rfl) member
    exact graph.entries record inside entry (same ▸ enters)
  filters := by
    intro index node found isFilter
    cases graph.leads index node found with
    | verdict verdict same =>
        rw [same] at isFilter
        exact absurd isFilter (by simp [Node.terminal, Node.terminalOpcode, Node.filterOpcode])
    | test tests matchBound unmatchBound =>
        obtain ⟨known, place, named, suits, held, rfl⟩ := tests
        exact ⟨known, Catalogue.byId?_of_byName? named, matchBound, unmatchBound,
          held.holds graph.sound suits⟩
  others := by
    intro index node found notFilter
    cases graph.leads index node found with
    | verdict verdict same =>
        refine ⟨verdict, ?_⟩
        rw [same]
        simp [Node.verdict?, Node.isTerminal, Node.terminal, Action.ofCode?_code,
          Modifiers.ofBits_bits]
    | test tests matchBound unmatchBound =>
        obtain ⟨_, _, _, _, _, rfl⟩ := tests
        exact absurd rfl notFilter

end Builder

namespace Dissection

theorem itemsOf_ok {α : Type} {item : Nat → α → Except BytecodeError Item} {entries : List α}
    (each : ∀ entry ∈ entries, ∀ index, ∃ result, item index entry = .ok result) :
    ∃ items, itemsOf item entries = .ok items := by
  refine Outcome.exists_mapM fun entry member => ?_
  have inside : entry.1 ∈ entries := by
    exact List.fst_mem_of_mem_zipIdx member
  exact each entry.1 inside entry.2

theorem ofImage_image {builder : Builder} (sound : builder.Sound) {table : OperationTable}
    (counted : builder.operationCount.toNat = table.size) :
    ∃ dissection, ofImage builder.image table = .ok dissection := by
  have texts (kind : TableKind) := Outcome.forall_of_mapM (sound.table_texts kind)
  obtain ⟨regexes, readRegexes⟩ : ∃ items,
      itemsOf (regexItem builder.image) builder.image.regexes = .ok items := by
    refine itemsOf_ok fun place member index => ?_
    obtain ⟨text, read⟩ := texts .regex place member
    obtain ⟨bytes, stored, _⟩ := Outcome.bind_eq_ok.mp read
    rw [regexItem, stored]
    cases decoded : utf8Text? bytes <;> exact ⟨_, by simp [bind, Except.bind, decoded]; rfl⟩
  have readTexts (kind : TableKind) : ∃ items,
      itemsOf (textItem builder.image) (builder.table kind).places.toList = .ok items := by
    refine itemsOf_ok fun place member index => ?_
    obtain ⟨text, read⟩ := texts kind place member
    exact ⟨_, by rw [textItem, read]; rfl⟩
  obtain ⟨variableNames, readVariables⟩ := readTexts .variable
  obtain ⟨entitlements, readEntitlements⟩ := readTexts .entitlement
  obtain ⟨profiles, readProfiles⟩ : ∃ items,
      builder.image.profiles.mapM (profileItem builder.image table) = .ok items := by
    refine Outcome.exists_mapM fun placed member => ?_
    obtain ⟨record, inside, same⟩ :=
      Builder.mem_image_profiles builder.image.profileName (fun _ _ => rfl) member
    obtain ⟨index, found⟩ := List.getElem?_of_mem inside
    obtain ⟨name, named⟩ := (sound.records index record found).named
    exact ⟨_, by rw [profileItem, ← same, named.profileName sound]; rfl⟩
  have sized : builder.image.header.operationCount.toNat = table.size := counted
  simp only [ofImage, sized, ne_eq, not_true_eq_false, ↓reduceIte]
  exact ⟨_, Outcome.bind_eq_ok.mpr ⟨regexes, readRegexes,
    Outcome.bind_eq_ok.mpr ⟨variableNames, readVariables,
    Outcome.bind_eq_ok.mpr ⟨[], rfl,
    Outcome.bind_eq_ok.mpr ⟨entitlements, readEntitlements,
    Outcome.bind_eq_ok.mpr ⟨[], rfl,
    Outcome.bind_eq_ok.mpr ⟨profiles, readProfiles, rfl⟩⟩⟩⟩⟩⟩⟩

end Dissection

variable {table : OperationTable}

theorem Builder.ReadBy.regexes_length {builder : Builder} {evaluator : Evaluator}
    (reads : builder.ReadBy evaluator) (sound : builder.Sound) :
    evaluator.regexes.length = evaluator.image.regexes.length := by
  rw [reads.image_eq, ← reads.regexes.length_eq, ← sound.places_size .regex]
  exact (Array.length_toList).symm

/-- The bytes are a well-formed profile that every reader accepts, and every request that names an
operation is decided on a strictly descending walk. -/
structure Usable (table : OperationTable) (bytes : List UInt8) : Prop where
  image : ∃ image, Image.ofBytes bytes = .ok image ∧ image.WellFormed
  dissection : ∃ dissection, Dissection.ofBytes bytes table = .ok dissection
  evaluator : ∃ evaluator, Evaluator.ofBytes bytes table = .ok evaluator ∧
    ∀ bindings index request, index < evaluator.profileCount →
      (evaluator.under bindings).evaluate index request =
          .error (.unknownOperation request.operation) ∨
        ∃ decision, (evaluator.under bindings).evaluate index request = .ok decision ∧
          decision.trace.Pairwise (· > ·)

theorem Compiles.usable {kind : ProfileKind} {added : List (Option String × Policy)}
    {bytes : List UInt8} (compiles : Compiles table kind added bytes) : Usable table bytes := by
  obtain ⟨builder, graph, _, counted, _, finished⟩ := compiles
  obtain ⟨evaluator, accepted, _, reads⟩ := graph.readBy counted finished
  have parsed := Builder.ofBytes_finish graph.sound finished
  obtain ⟨dissection, dissected⟩ := Dissection.ofImage_image graph.sound counted
  refine ⟨⟨builder.image, parsed, graph.wellFormed⟩, ⟨dissection, ?_⟩, evaluator, accepted, ?_⟩
  · rw [Dissection.ofBytes, parsed]
    exact dissected
  · intro bindings index request within
    have complete := (Evaluator.ofBytes_complete accepted).under bindings
    have wellFormed := (reads.under bindings).image_eq ▸ graph.wellFormed
    exact complete.decides wellFormed (reads.regexes_length graph.sound) within request

/-- Whatever compiles, be it one source or several, can be used. -/
theorem compiled_usable {source : String} {sources : List (String × String)}
    {parameters : Bindings} {profile : CompiledProfile}
    (compiled : compile table source parameters = .ok profile ∨
      compileCollection table sources parameters = .ok profile) :
    Usable table profile.bytecode := by
  rcases compiled with single | collection
  · obtain ⟨_, _, _, compiles⟩ := compile_compiles single
    exact compiles.usable
  · obtain ⟨_, _, _, compiles⟩ := compileCollection_compiles collection
    exact compiles.usable

set_option maxRecDepth 100000 in
theorem compiled_usable_collection : ∃ profile,
    compileCollection ⟨["default"], by decide, rfl, by decide⟩
      [("p", "(version 1) (allow default (literal \"/a\"))")] .empty = .ok profile ∧
    Usable ⟨["default"], by decide, rfl, by decide⟩ profile.bytecode := by
  have accepted : (compileCollection ⟨["default"], by decide, rfl, by decide⟩
      [("p", "(version 1) (allow default (literal \"/a\"))")] .empty).isOk = true := by cbv
  obtain ⟨profile, compiled⟩ := Outcome.exists_of_isOk accepted
  exact ⟨profile, compiled, @compiled_usable _ "" _ _ _ (.inr compiled)⟩

end SandboxPolicy
