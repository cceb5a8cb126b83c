import SandboxPolicy.Proofs.BuilderRuns
import SandboxPolicy.Proofs.Graph
import SandboxPolicy.Proofs.Layout

/-!
What a builder shares. It holds what the calls that it accepted were about, each once and in the
order of first use, and finds each where it stands. So equal contents are answered with equal
numbers, and different contents with different ones.
-/

namespace SandboxPolicy

open Steps

theorem eraseDups_concat_of_mem {α : Type} [BEq α] [LawfulBEq α] {values : List α} {value : α}
    (member : value ∈ values) : (values ++ [value]).eraseDups = values.eraseDups := by
  simp [List.eraseDups_append, List.removeAll, member]

theorem eraseDups_concat_of_not_mem {α : Type} [BEq α] [LawfulBEq α] {values : List α} {value : α}
    (absent : value ∉ values) : (values ++ [value]).eraseDups = values.eraseDups ++ [value] := by
  simp [List.eraseDups_append, List.removeAll, absent, List.eraseDups_cons]

namespace Interner

variable {α : Type} {width : α → Nat} [BEq α] [LawfulBEq α] [Hashable α] {interner : Interner α}
  {used : List α} {value : α}

theorem Sound.gathers_found {place : Nat} (sound : interner.Sound width)
    (held : interner.entries.toList = used.eraseDups)
    (found : interner.find? value = some place) :
    interner.entries.toList = (used ++ [value]).eraseDups := by
  have member := sound.mem_of_find? found
  rw [held, List.mem_eraseDups] at member
  rw [eraseDups_concat_of_mem member, held]

theorem Sound.gathers_fresh (sound : interner.Sound width)
    (held : interner.entries.toList = used.eraseDups) (fresh : interner.find? value = none) :
    interner.entries.toList ++ [value] = (used ++ [value]).eraseDups := by
  have absent := (sound.find?_eq_none_iff value).mp fresh
  rw [held, List.mem_eraseDups] at absent
  rw [eraseDups_concat_of_not_mem absent, held]

end Interner

theorem filterMap_singleton {α β : Type} (view : α → Option β) (value : α) :
    [value].filterMap view = (view value).toList := by
  cases seen : view value <;> simp [seen]

/-- What a call is about, if it is answered with a number. -/
inductive Content where
  | node (entry : Node)
  | blob (bytes : List UInt8)
  | text (kind : TableKind) (value : String)

def Content.Alike : Content → Content → Prop
  | .node _, .node _ | .blob _, .blob _ => True
  | .text kind _, .text other _ => kind = other
  | _, _ => False

namespace BuilderCall

def content? : BuilderCall → Option Content
  | .node item => some (.node item)
  | .blob bytes => some (.blob bytes)
  | .text value => some (.blob (utf8Bytes value))
  | .entry kind value => some (.text kind value)
  | .profile _ _ => none

def node? : BuilderCall → Option Node
  | .node item => some item
  | _ => none

def text? (kind : TableKind) : BuilderCall → Option String
  | .entry other value => if other = kind then some value else none
  | _ => none

/-- The blob that a call needs: the texts of the tables and the names in a collection are blobs,
too. -/
def blob? (kind : ProfileKind) : BuilderCall → Option (List UInt8)
  | .node _ => none
  | .blob bytes => some bytes
  | .text value | .entry _ value => some (utf8Bytes value)
  | .profile name _ =>
      match kind with
      | .single => none
      | .collection => some (utf8Bytes (name.getD ""))

end BuilderCall

def accepted (answered : List AnsweredCall) : List BuilderCall :=
  (answered.filter fun call => call.2.isOk).map Prod.fst

theorem DataArea.encodeBlob_shape {bytes : List UInt8} (short : bytes.length ≤ 65535) :
    ∃ low high zeros, encodeBlob bytes = low :: high :: bytes ++ List.replicate zeros 0 ∧
      (wordOf low high).toNat = bytes.length ∧ zeros < 8 ∧ 8 ∣ (encodeBlob bytes).length := by
  refine ⟨_, _, _, padded_eq _, ?_, ?_, ?_⟩
  · rw [wordOf_wordBytes, Builder.toNat_ofNat_of_le short]
  · rw [roundUp]
    omega
  · rw [encodeBlob, padded_length]
    exact dvd_roundUp _

namespace Builder

variable {builder after : Builder} {calls : List BuilderCall}

/-- The builder holds what the calls were about, each once and in the order of first use. -/
structure Holds (builder : Builder) (calls : List BuilderCall) : Prop where
  nodes : builder.nodeList = (calls.filterMap BuilderCall.node?).eraseDups
  blobs : builder.blobList = (calls.filterMap (BuilderCall.blob? builder.kind)).eraseDups
  texts : ∀ kind, builder.textList kind = (calls.filterMap (BuilderCall.text? kind)).eraseDups

theorem start_holds {kind : ProfileKind} {operationCount : Nat}
    (started : start kind operationCount = .ok builder) : builder.Holds [] := by
  rw [start] at started
  split at started
  next =>
    cases started
    exact ⟨rfl, rfl, fun kind => by cases kind <;> rfl⟩
  next => cases started

/-! What one step puts behind the others. -/

section Gathering

variable (sound : builder.Sound)
include sound

theorem Sound.node_gathers {entry : Node} {index : UInt16} {used : List Node}
    (held : builder.nodeList = used.eraseDups)
    (added : Builder.node entry builder = .ok index after) :
    after.nodeList = (used ++ [entry]).eraseDups := by
  rcases node_eq_ok.mp added with ⟨place, found, _, rfl⟩ | ⟨fresh, _, _, rfl⟩
  · exact sound.nodes.gathers_found held found
  · rw [withNode_nodeList]
    exact sound.nodes.gathers_fresh held fresh

theorem Sound.blob_gathers {bytes : List UInt8} {place : UInt16} {used : List (List UInt8)}
    (held : builder.blobList = used.eraseDups)
    (added : Builder.blob bytes builder = .ok place after) :
    after.blobList = (used ++ [bytes]).eraseDups := by
  rcases blob_eq_ok.mp added with ⟨found, isFound, _, rfl⟩ | ⟨fresh, _, _, _, rfl⟩
  · exact sound.blobs.gathers_found held isFound
  · rw [withBlob_blobList]
    exact sound.blobs.gathers_fresh held fresh

theorem Sound.mem_blobList {kind : TableKind} {value : String}
    (member : value ∈ builder.textList kind) : utf8Bytes value ∈ builder.blobList := by
  obtain ⟨index, bound, rfl⟩ := List.mem_iff_getElem.mp member
  have stored := (sound.tables kind).stored
  exact (stored.get bound (stored.length_eq ▸ bound)).mem

theorem Sound.entry_gathers {kind : TableKind} {value : String} {index : UInt16}
    {used : List String} {blobs : List (List UInt8)}
    (held : builder.textList kind = used.eraseDups)
    (heldBlobs : builder.blobList = blobs.eraseDups)
    (added : Builder.entry kind value builder = .ok index after) :
    after.textList kind = (used ++ [value]).eraseDups ∧
      after.blobList = (blobs ++ [utf8Bytes value]).eraseDups ∧
      ∀ other, other ≠ kind → after.textList other = builder.textList other := by
  have table := (sound.tables kind).texts
  rcases entry_eq_ok.mp added with
    ⟨found, isFound, _, rfl⟩ | ⟨fresh, _, _, place, middle, stored, rfl⟩
  · -- A text that is in a table is stored, so its blob is not new, either.
    have memberBlob := sound.mem_blobList (table.mem_of_find? isFound)
    rw [heldBlobs, List.mem_eraseDups] at memberBlob
    rw [eraseDups_concat_of_mem memberBlob]
    exact ⟨table.gathers_found held isFound, heldBlobs, fun _ _ => rfl⟩
  · rw [addText_blobList]
    refine ⟨?_, sound.blob_gathers heldBlobs stored, fun other apart => ?_⟩
    · rw [textList, addText_table, if_pos rfl, Interner.add_entries, text_keeps kind stored]
      exact table.gathers_fresh held fresh
    · rw [textList, addText_table, if_neg apart]
      exact (blob_keeps_lists stored).2 other

theorem Sound.profile_gathers {name : Option String} {operations : List UInt16}
    {used : List (List UInt8)} (held : builder.blobList = used.eraseDups)
    (added : Builder.addProfile name operations builder = .ok () after) :
    after.blobList =
      (used ++ ((BuilderCall.profile name operations).blob? builder.kind).toList).eraseDups := by
  obtain ⟨_, ⟨kindEq, _, rfl⟩ | ⟨kindEq, _, middle, stored, rfl⟩⟩ := addProfile_eq_ok.mp added
  · simpa [BuilderCall.blob?, kindEq] using held
  · simpa [BuilderCall.blob?, kindEq] using sound.blob_gathers held stored

end Gathering

theorem Holds.step (held : builder.Holds calls) (sound : builder.Sound) {call : BuilderCall}
    {answer : Option UInt16} (done : call.step builder = .ok answer after) :
    after.Holds (calls ++ [call]) := by
  obtain ⟨nodes, blobs, texts⟩ := held
  have kindEq : after.kind = builder.kind := (step_follows sound done).grows.kind_eq
  suffices all :
      after.nodeList = (calls.filterMap BuilderCall.node? ++ call.node?.toList).eraseDups ∧
      after.blobList = (calls.filterMap (BuilderCall.blob? builder.kind) ++
        (call.blob? builder.kind).toList).eraseDups ∧
      ∀ kind, after.textList kind =
        (calls.filterMap (BuilderCall.text? kind) ++ (call.text? kind).toList).eraseDups by
    obtain ⟨nodes, blobs, texts⟩ := all
    constructor <;> simp only [List.filterMap_append, filterMap_singleton, kindEq]
    · exact nodes
    · exact blobs
    · exact texts
  cases call with
  | node entry =>
      obtain ⟨index, added, rfl⟩ := map_eq_ok.mp done
      have gathered := sound.node_gathers nodes added
      obtain ⟨sameBlobs, sameTexts⟩ := node_keeps_lists added
      simpa [BuilderCall.node?, BuilderCall.blob?, BuilderCall.text?, sameBlobs, sameTexts] using
        ⟨gathered, blobs, texts⟩
  | blob bytes =>
      obtain ⟨place, added, rfl⟩ := map_eq_ok.mp done
      have gathered := sound.blob_gathers blobs added
      obtain ⟨sameNodes, sameTexts⟩ := blob_keeps_lists added
      simpa [BuilderCall.node?, BuilderCall.blob?, BuilderCall.text?, sameNodes, sameTexts] using
        ⟨nodes, gathered, texts⟩
  | text value =>
      obtain ⟨place, added, rfl⟩ := map_eq_ok.mp done
      have gathered := sound.blob_gathers blobs added
      obtain ⟨sameNodes, sameTexts⟩ := blob_keeps_lists added
      simpa [BuilderCall.node?, BuilderCall.blob?, BuilderCall.text?, sameNodes, sameTexts] using
        ⟨nodes, gathered, texts⟩
  | entry kind value =>
      obtain ⟨index, added, rfl⟩ := map_eq_ok.mp done
      obtain ⟨gathered, gatheredBlobs, others⟩ := sound.entry_gathers (texts kind) blobs added
      have sameNodes := (entry_keeps_lists added).1
      refine ⟨by simpa [BuilderCall.node?, sameNodes] using nodes, gatheredBlobs, fun other => ?_⟩
      by_cases same : kind = other
      · subst same
        simpa [BuilderCall.text?] using gathered
      · simpa [BuilderCall.text?, same, others other (Ne.symm same)] using texts other
  | profile name operations =>
      obtain ⟨_, added, rfl⟩ := map_eq_ok.mp done
      have gathered := sound.profile_gathers blobs added
      obtain ⟨sameNodes, sameTexts⟩ := addProfile_keeps_lists added
      refine ⟨?_, gathered, ?_⟩
      · simpa [BuilderCall.node?, sameNodes] using nodes
      · simpa [BuilderCall.text?, sameTexts] using texts

theorem Holds.run (held : builder.Holds calls) (sound : builder.Sound)
    (more : List BuilderCall) :
    (builder.run more).2.Holds (calls ++ accepted (builder.run more).1) := by
  induction more generalizing builder calls with
  | nil => simpa [Builder.run, accepted] using held
  | cons call rest ih =>
      have sound' := (outcome_follows sound call).sound
      rw [run_cons]
      cases done : call.step builder with
      | ok answer after =>
          simp only [BuilderCall.outcome, done] at sound' ⊢
          simpa [accepted, Except.isOk, Except.toBool] using ih (held.step sound done) sound'
      | error error after =>
          -- A call that fails is not accepted, and leaves what is held.
          have same := step_keeps done
          subst same
          simp only [BuilderCall.outcome, done]
          simpa [accepted, Except.isOk, Except.toBool] using ih held sound

/-! Where contents are found. -/

def number? (builder : Builder) : Content → Option Nat
  | .node entry => builder.nodes.find? entry
  | .blob bytes => builder.blobs.find? bytes
  | .text kind value => (builder.table kind).texts.find? value

section Numbers

variable (sound : builder.Sound)
include sound

theorem Sound.node_index (entry : Node) (index : Nat) :
    builder.nodes.find? entry = some index ↔ builder.nodeList[index]? = some entry := by
  rw [sound.nodes.find?_iff, Interner.standsAt_one, nodeList]

theorem Sound.text_index (kind : TableKind) (value : String) (index : Nat) :
    (builder.table kind).texts.find? value = some index ↔
      (builder.textList kind)[index]? = some value := by
  rw [(sound.tables kind).texts.find?_iff, Interner.standsAt_one, textList]

theorem Sound.blob_place (bytes : List UInt8) (place : Nat) :
    builder.blobs.find? bytes = some place ↔
      ∃ before after, builder.blobList = before ++ bytes :: after ∧
        (before.flatMap DataArea.encodeBlob).length = 8 * place := by
  rw [sound.blobs.find?_iff, Interner.StandsAt]
  refine exists₂_congr fun before after => and_congr_right' ?_
  rw [DataArea.encodeBlobs_length]
  omega

theorem Sound.text_place {kind : TableKind} {index : Nat} {value : String}
    (found : (builder.textList kind)[index]? = some value) :
    ∃ place, (builder.table kind).places[index]? = some place ∧
      builder.blobs.find? (utf8Bytes value) = some place.toNat := by
  obtain ⟨bound, rfl⟩ := List.getElem?_eq_some_iff.mp found
  have stored := (sound.tables kind).stored
  have bound' : index < (builder.table kind).places.toList.length := stored.length_eq ▸ bound
  refine ⟨(builder.table kind).places.toList[index], ?_, ?_⟩
  · rw [← Array.getElem?_toList, List.getElem?_eq_getElem bound']
  · exact (sound.blobs.find?_iff _ _).mpr (stored.get bound bound')

theorem Sound.answered_number {call : BuilderCall} {content : Content} {number : UInt16}
    (about : call.content? = some content) (honoured : builder.Honours call (some number)) :
    builder.number? content = some number.toNat := by
  cases call with
  | node entry =>
      cases about
      exact (sound.node_index _ _).mpr honoured
  | blob bytes | text value =>
      cases about
      exact (sound.blobs.find?_iff _ _).mpr honoured
  | entry kind value =>
      cases about
      exact (sound.text_index _ _ _).mpr honoured
  | profile => cases about

theorem Sound.find?_blob {bytes : List UInt8} {place : Nat}
    (found : builder.blobs.find? bytes = some place) :
    builder.image.data.blob (.ofNat place) = .ok bytes := by
  have stands := (sound.blobs.find?_iff bytes place).mp found
  refine HasBlob.blob sound ?_
  rw [HasBlob, toNat_ofNat_of_le (sound.place_le bytes place stands)]
  exact stands

theorem Sound.number?_injective {content other : Content} {number : Nat}
    (alike : content.Alike other) (first : builder.number? content = some number)
    (second : builder.number? other = some number) : content = other := by
  cases content with
  | node entry =>
      cases other with
      | node entry' =>
          rw [number?, sound.node_index] at first second
          rw [Option.some.inj (first.symm.trans second)]
      | blob | text => cases alike
  | blob bytes =>
      cases other with
      | blob bytes' =>
          have read := (sound.find?_blob first).symm.trans (sound.find?_blob second)
          rw [Except.ok.inj read]
      | node | text => cases alike
  | text kind value =>
      cases other with
      | text kind' value' =>
          cases alike
          rw [number?, sound.text_index] at first second
          rw [Option.some.inj (first.symm.trans second)]
      | node | blob => cases alike

end Numbers

structure Shares (builder : Builder) (answered : List AnsweredCall) : Prop where
  holds : builder.Holds (accepted answered)
  node_distinct : builder.nodeList.Nodup
  node_index : ∀ entry index,
    builder.nodes.find? entry = some index ↔ builder.nodeList[index]? = some entry
  blob_distinct : builder.blobList.Nodup
  blob_place : ∀ bytes place, builder.blobs.find? bytes = some place ↔
    ∃ before after, builder.blobList = before ++ bytes :: after ∧
      (before.flatMap DataArea.encodeBlob).length = 8 * place
  blob_stored : ∀ bytes ∈ builder.blobList, ∃ low high zeros,
    DataArea.encodeBlob bytes = low :: high :: bytes ++ List.replicate zeros 0 ∧
      (wordOf low high).toNat = bytes.length ∧ zeros < 8 ∧
      8 ∣ (DataArea.encodeBlob bytes).length
  written : ∀ output, builder.finish = .ok output → ∃ image, Image.ofBytes output = .ok image ∧
    image.nodes = builder.nodeList ∧
    image.data.bytes = builder.blobList.flatMap DataArea.encodeBlob
  text_distinct : ∀ kind, (builder.textList kind).Nodup
  text_index : ∀ kind value index, (builder.table kind).texts.find? value = some index ↔
    (builder.textList kind)[index]? = some value
  text_place : ∀ kind, (builder.table kind).places.size = (builder.textList kind).length ∧
    ∀ (index : Nat) value, (builder.textList kind)[index]? = some value →
      ∃ place : UInt16, (builder.table kind).places[index]? = some place ∧
        builder.blobs.find? (utf8Bytes value) = some place.toNat
  answer : ∀ call content number, call.content? = some content →
    (call, .ok (some number)) ∈ answered → builder.number? content = some number.toNat
  answer_eq_iff : ∀ first second content other number number',
    first.content? = some content → second.content? = some other → content.Alike other →
    (first, .ok (some number)) ∈ answered → (second, .ok (some number')) ∈ answered →
    (number = number' ↔ content = other)
  next_node : ∀ entry index after, Builder.node entry builder = .ok index after →
    entry ∉ builder.nodeList →
    index.toNat = builder.nodeList.length ∧ after.nodeList = builder.nodeList ++ [entry]
  next_text : ∀ kind value index after, Builder.entry kind value builder = .ok index after →
    value ∉ builder.textList kind →
    index.toNat = (builder.textList kind).length ∧
      after.textList kind = builder.textList kind ++ [value]

theorem Sound.next_node (sound : builder.Sound) {entry : Node} {index : UInt16}
    (added : Builder.node entry builder = .ok index after) (fresh : entry ∉ builder.nodeList) :
    index.toNat = builder.nodeList.length ∧ after.nodeList = builder.nodeList ++ [entry] := by
  rcases node_eq_ok.mp added with ⟨place, found, _, _⟩ | ⟨_, room, rfl, rfl⟩
  · exact absurd (sound.nodes.mem_of_find? found) fresh
  · rw [nodeLimit] at room
    rw [toNat_ofNat_of_le (by omega), sound.nodes_next]
    exact ⟨rfl, withNode_nodeList builder entry⟩

theorem Sound.next_text (sound : builder.Sound) {kind : TableKind} {value : String}
    {index : UInt16} (added : Builder.entry kind value builder = .ok index after)
    (fresh : value ∉ builder.textList kind) :
    index.toNat = (builder.textList kind).length ∧
      after.textList kind = builder.textList kind ++ [value] := by
  rcases entry_eq_ok.mp added with
    ⟨found, isFound, _, _⟩ | ⟨_, room, rfl, place, middle, stored, rfl⟩
  · exact absurd ((sound.tables kind).texts.mem_of_find? isFound) fresh
  · have limit := limit_le kind
    rw [toNat_ofNat_of_le (by omega), sound.texts_next]
    refine ⟨rfl, ?_⟩
    rw [textList, addText_table, if_pos rfl, Interner.add_entries, text_keeps kind stored, textList]

theorem Holds.shares {answered : List AnsweredCall} (held : builder.Holds (accepted answered))
    (sound : builder.Sound)
    (honours : ∀ call answer, (call, .ok answer) ∈ answered → builder.Honours call answer) :
    builder.Shares answered where
  holds := held
  node_distinct := sound.nodes.distinct
  node_index := sound.node_index
  blob_distinct := sound.blobs.distinct
  blob_place := sound.blob_place
  blob_stored := fun bytes member => DataArea.encodeBlob_shape (sound.blob_le bytes member)
  written := fun output finished => ⟨builder.image, ofBytes_finish sound finished, rfl, rfl⟩
  text_distinct := fun kind => (sound.tables kind).texts.distinct
  text_index := sound.text_index
  text_place := fun kind =>
    ⟨sound.places_size kind, fun index value found => sound.text_place found⟩
  answer := fun call content number about member =>
    sound.answered_number about (honours call _ member)
  answer_eq_iff := by
    intro first second content other number number' about about' alike member member'
    have found := sound.answered_number about (honours first _ member)
    have found' := sound.answered_number about' (honours second _ member')
    constructor
    · rintro rfl
      exact sound.number?_injective alike found found'
    · rintro rfl
      exact UInt16.toNat_inj.mp (Option.some.inj (found.symm.trans found'))
  next_node := fun entry index after added fresh => sound.next_node added fresh
  next_text := fun kind value index after added fresh => sound.next_text added fresh

/-- After any calls, of which some may have failed, everything is held once and found where it is,
and it is found there after any further calls. -/
theorem run_shares {kind : ProfileKind} {operationCount : Nat}
    (started : start kind operationCount = .ok builder) (calls more : List BuilderCall) :
    (builder.run calls).2.Shares (builder.run calls).1 ∧
      ∀ call content number, call.content? = some content →
        (call, .ok (some number)) ∈ (builder.run calls).1 →
        ((builder.run calls).2.run more).2.number? content = some number.toNat := by
  have followed := run_follows (start_sound started) calls
  have held := (start_holds started).run (start_sound started) calls
  refine ⟨held.shares followed.sound followed.honours, ?_⟩
  intro call content number about member
  have later := run_follows followed.sound more
  exact later.sound.answered_number about ((followed.honours call _ member).grow later.grows)

theorem run_shares_collection : ∃ builder, start .collection 1 = .ok builder ∧
    ∃ last, builder.run [.blob [97], .profile (some "p") [], .entry .variable "a"] =
      ([(.blob [97], .ok (some 0)), (.profile (some "p") [], .error (.operationCount 1 0)),
        (.entry .variable "a", .ok (some 0))], last) ∧
    last.Shares [(.blob [97], .ok (some 0)),
      (.profile (some "p") [], .error (.operationCount 1 0)),
      (.entry .variable "a", .ok (some 0))] ∧
    (last.run [.text "b"]).2.number? (.blob [97]) = some 0 := by
  let fresh : Builder := ⟨.collection, 1, #[], .empty, .empty, .empty, .empty, .empty⟩
  have started : start .collection 1 = .ok fresh := rfl
  have answered : (fresh.run [.blob [97], .profile (some "p") [], .entry .variable "a"]).1 =
      [(.blob [97], .ok (some 0)), (.profile (some "p") [], .error (.operationCount 1 0)),
        (.entry .variable "a", .ok (some 0))] := by cbv
  obtain ⟨shares, stays⟩ := run_shares started
    [.blob [97], .profile (some "p") [], .entry .variable "a"] [.text "b"]
  cases ran : fresh.run [.blob [97], .profile (some "p") [], .entry .variable "a"] with
  | mk answers last =>
      rw [ran] at answered shares stays
      subst answered
      exact ⟨fresh, started, last, ran, shares, stays _ (.blob [97]) 0 rfl List.mem_cons_self⟩

end Builder

end SandboxPolicy
