import Mathlib.Data.List.Forall2
import SandboxPolicy.Bytecode.Builder
import SandboxPolicy.Proofs.Interning
import SandboxPolicy.Proofs.Steps

/-!
What a builder holds, and what its steps do to it. A step that succeeds keeps the builder sound,
only puts things behind those that are there, and answers with the place of what was asked for.
A step that fails changes nothing.
-/

namespace SandboxPolicy

open Steps

def DataArea.width (bytes : List UInt8) : Nat := DataArea.units bytes.length

structure TextTable.Sound (table : TextTable) (blobs : List (List UInt8)) (limit : Nat) : Prop where
  texts : table.texts.Sound fun _ => 1
  size_le : table.texts.entries.toList.length ≤ limit
  stored : List.Forall₂
    (fun text place => Interner.StandsAt DataArea.width blobs (utf8Bytes text) place.toNat)
    table.texts.entries.toList table.places.toList

theorem TextTable.Sound.grow {table : TextTable} {blobs more : List (List UInt8)} {limit : Nat}
    (sound : table.Sound blobs limit) (grown : blobs <+: more) : table.Sound more limit :=
  ⟨sound.texts, sound.size_le, sound.stored.imp fun _ _ stands => stands.grow grown⟩

namespace Builder

variable {builder before middle after : Builder}

def nodeList (builder : Builder) : List Node := builder.nodes.entries.toList

def blobList (builder : Builder) : List (List UInt8) := builder.blobs.entries.toList

def textList (builder : Builder) (kind : TableKind) : List String :=
  (builder.table kind).texts.entries.toList

def HasNode (builder : Builder) (index : UInt16) (entry : Node) : Prop :=
  builder.nodeList[index.toNat]? = some entry

def HasBlob (builder : Builder) (place : UInt16) (bytes : List UInt8) : Prop :=
  Interner.StandsAt DataArea.width builder.blobList bytes place.toNat

def HasText (builder : Builder) (kind : TableKind) (index : UInt16) (text : String) : Prop :=
  (builder.textList kind)[index.toNat]? = some text

def Names (builder : Builder) (record : ProfileRecord) (name : String) : Prop :=
  match builder.kind with
  | .single => record.nameOffset = none
  | .collection => ∃ place, record.nameOffset = some place ∧ builder.HasBlob place (utf8Bytes name)

structure HoldsRecord (builder : Builder) (index : Nat) (record : ProfileRecord) : Prop where
  index_eq : record.index = index
  mask_eq : record.syscallMask = 0
  operations : record.operations.length = builder.operationCount.toNat
  named : ∃ name, builder.Names record name

/-- Everything in the builder is stored once, in order and within the limits of the format. -/
structure Sound (builder : Builder) : Prop where
  nodes : builder.nodes.Sound fun _ => 1
  nodes_le : builder.nodeList.length ≤ nodeLimit
  blobs : builder.blobs.Sound DataArea.width
  blob_le : ∀ bytes ∈ builder.blobList, bytes.length ≤ 65535
  place_le : ∀ bytes place, Interner.StandsAt DataArea.width builder.blobList bytes place →
    place ≤ 65535
  tables : ∀ kind, (builder.table kind).Sound builder.blobList kind.limit
  single : builder.kind = .single → builder.profiles.toList.length ≤ 1
  records : ∀ index record, builder.profiles.toList[index]? = some record →
    builder.HoldsRecord index record

/-- The second builder holds all that the first does, at the same places. -/
structure Grows (before after : Builder) : Prop where
  kind_eq : after.kind = before.kind
  count_eq : after.operationCount = before.operationCount
  profiles : before.profiles.toList <+: after.profiles.toList
  nodes : before.nodeList <+: after.nodeList
  blobs : before.blobList <+: after.blobList
  texts : ∀ kind, before.textList kind <+: after.textList kind

theorem Grows.refl (builder : Builder) : builder.Grows builder :=
  ⟨rfl, rfl, List.prefix_rfl, List.prefix_rfl, List.prefix_rfl, fun _ => List.prefix_rfl⟩

theorem Grows.trans (first : before.Grows middle) (second : middle.Grows after) :
    before.Grows after where
  kind_eq := second.kind_eq.trans first.kind_eq
  count_eq := second.count_eq.trans first.count_eq
  profiles := first.profiles.trans second.profiles
  nodes := first.nodes.trans second.nodes
  blobs := first.blobs.trans second.blobs
  texts := fun kind => (first.texts kind).trans (second.texts kind)

theorem HasNode.grow {index : UInt16} {entry : Node} (stored : before.HasNode index entry)
    (grown : before.Grows after) : after.HasNode index entry := by
  obtain ⟨rest, extended⟩ := grown.nodes
  rw [HasNode, ← extended]
  exact List.getElem?_append_left (List.getElem?_eq_some_iff.mp stored).1 ▸ stored

theorem HasText.grow {kind : TableKind} {index : UInt16} {text : String}
    (stored : before.HasText kind index text) (grown : before.Grows after) :
    after.HasText kind index text := by
  obtain ⟨rest, extended⟩ := grown.texts kind
  rw [HasText, ← extended]
  exact List.getElem?_append_left (List.getElem?_eq_some_iff.mp stored).1 ▸ stored

theorem HasBlob.grow {place : UInt16} {bytes : List UInt8} (stored : before.HasBlob place bytes)
    (grown : before.Grows after) : after.HasBlob place bytes :=
  Interner.StandsAt.grow stored grown.blobs

theorem Names.grow {record : ProfileRecord} {name : String} (named : before.Names record name)
    (grown : before.Grows after) : after.Names record name := by
  rw [Names, grown.kind_eq]
  rw [Names] at named
  cases kindEq : before.kind with
  | single => simpa [kindEq] using named
  | collection =>
      simp only [kindEq] at named
      obtain ⟨place, offset, stored⟩ := named
      exact ⟨place, offset, stored.grow grown⟩

theorem HoldsRecord.grow {index : Nat} {record : ProfileRecord}
    (held : before.HoldsRecord index record) (grown : before.Grows after) :
    after.HoldsRecord index record where
  index_eq := held.index_eq
  mask_eq := held.mask_eq
  operations := grown.count_eq ▸ held.operations
  named := held.named.imp fun _ named => named.grow grown

theorem start_sound {kind : ProfileKind} {operationCount : Nat} {builder : Builder}
    (started : start kind operationCount = .ok builder) : builder.Sound := by
  simp only [start] at started
  split at started
  · simp only [Except.ok.injEq] at started
    subst started
    constructor
    · exact Interner.empty_sound _
    · simp [nodeList, Interner.empty]
    · exact Interner.empty_sound _
    · simp [blobList, Interner.empty]
    · rintro bytes place stands
      exact absurd stands.mem (by simp [blobList, Interner.empty])
    · intro table
      cases table <;>
        exact ⟨Interner.empty_sound _, by simp [Builder.table, TextTable.empty, Interner.empty],
          by simp [Builder.table, TextTable.empty, Interner.empty]⟩
    · simp
    · simp
  · simp at started

theorem start_kind {kind : ProfileKind} {operationCount : Nat}
    (started : start kind operationCount = .ok builder) :
    builder.kind = kind ∧ builder.operationCount.toNat = operationCount ∧
      builder.profiles.toList = [] := by
  rw [start] at started
  split at started
  next small =>
    simp only [Except.ok.injEq] at started
    subst started
    refine ⟨rfl, ?_, rfl⟩
    rw [UInt8.toNat_ofNat']
    omega
  next => simp at started

/-! What happens when one thing is put behind the others. -/

def withNode (builder : Builder) (entry : Node) : Builder :=
  { builder with nodes := builder.nodes.add entry 1 }

def withBlob (builder : Builder) (bytes : List UInt8) : Builder :=
  { builder with blobs := builder.blobs.add bytes (DataArea.width bytes) }

def withRecord (builder : Builder) (nameOffset : Option UInt16) (operations : List UInt16) :
    Builder :=
  { builder with
    profiles := builder.profiles.push ⟨builder.profiles.size, nameOffset, 0, 0, operations⟩ }

@[simp] theorem withNode_nodeList (builder : Builder) (entry : Node) :
    (builder.withNode entry).nodeList = builder.nodeList ++ [entry] :=
  Interner.add_entries _ _ _

@[simp] theorem withBlob_blobList (builder : Builder) (bytes : List UInt8) :
    (builder.withBlob bytes).blobList = builder.blobList ++ [bytes] :=
  Interner.add_entries _ _ _

@[simp] theorem withRecord_blobList (builder : Builder) (nameOffset : Option UInt16)
    (operations : List UInt16) :
    (builder.withRecord nameOffset operations).blobList = builder.blobList := rfl

@[simp] theorem addText_nodeList (builder : Builder) (kind : TableKind) (text : String)
    (place : UInt16) : (builder.addText kind text place).nodeList = builder.nodeList := by
  cases kind <;> rfl

@[simp] theorem addText_blobList (builder : Builder) (kind : TableKind) (text : String)
    (place : UInt16) : (builder.addText kind text place).blobList = builder.blobList := by
  cases kind <;> rfl

theorem addText_table (builder : Builder) (kind other : TableKind) (text : String)
    (place : UInt16) :
    (builder.addText kind text place).table other =
      if other = kind then
        ⟨(builder.table kind).texts.add text 1, (builder.table kind).places.push place⟩
      else builder.table other := by
  cases kind <;> cases other <;> rfl

theorem withNode_grows (builder : Builder) (entry : Node) :
    builder.Grows (builder.withNode entry) where
  kind_eq := rfl
  count_eq := rfl
  profiles := List.prefix_rfl
  nodes := by simp
  blobs := List.prefix_rfl
  texts := fun _ => List.prefix_rfl

theorem withBlob_grows (builder : Builder) (bytes : List UInt8) :
    builder.Grows (builder.withBlob bytes) where
  kind_eq := rfl
  count_eq := rfl
  profiles := List.prefix_rfl
  nodes := List.prefix_rfl
  blobs := by simp
  texts := fun _ => List.prefix_rfl

theorem withRecord_grows (builder : Builder) (nameOffset : Option UInt16)
    (operations : List UInt16) : builder.Grows (builder.withRecord nameOffset operations) where
  kind_eq := rfl
  count_eq := rfl
  profiles := by simp [withRecord]
  nodes := List.prefix_rfl
  blobs := List.prefix_rfl
  texts := fun _ => List.prefix_rfl

theorem addText_grows (builder : Builder) (kind : TableKind) (text : String) (place : UInt16) :
    builder.Grows (builder.addText kind text place) where
  kind_eq := by cases kind <;> rfl
  count_eq := by cases kind <;> rfl
  profiles := by cases kind <;> exact List.prefix_rfl
  nodes := by simp
  blobs := by simp
  texts := by
    intro other
    simp only [textList, addText_table]
    split
    next same => simp [same]
    next => exact List.prefix_rfl

theorem Sound.withNode (sound : builder.Sound) {entry : Node}
    (fresh : builder.nodes.find? entry = none) (room : builder.nodes.next < nodeLimit) :
    (builder.withNode entry).Sound where
  nodes := sound.nodes.add fresh
  nodes_le := by
    have count := sound.nodes.next_eq
    rw [Interner.extent_one] at count
    rw [withNode_nodeList, List.length_append, List.length_singleton, nodeList, ← count]
    exact room
  blobs := sound.blobs
  blob_le := sound.blob_le
  place_le := sound.place_le
  tables := sound.tables
  single := sound.single
  records := fun index record found =>
    (sound.records index record found).grow (withNode_grows builder entry)

theorem Sound.withBlob (sound : builder.Sound) {bytes : List UInt8}
    (fresh : builder.blobs.find? bytes = none) (short : bytes.length ≤ 65535)
    (near : builder.blobs.next ≤ 65535) : (builder.withBlob bytes).Sound where
  nodes := sound.nodes
  nodes_le := sound.nodes_le
  blobs := sound.blobs.add fresh
  blob_le := by
    intro other member
    rw [withBlob_blobList, List.mem_append, List.mem_singleton] at member
    rcases member with old | rfl
    · exact sound.blob_le other old
    · exact short
  place_le := by
    intro other place stands
    rw [withBlob_blobList, Interner.standsAt_concat] at stands
    rcases stands with old | ⟨_, rfl⟩
    · exact sound.place_le other place old
    · exact sound.blobs.next_eq ▸ near
  tables := fun kind => (sound.tables kind).grow (withBlob_grows builder bytes).blobs
  single := sound.single
  records := fun index record found =>
    (sound.records index record found).grow (withBlob_grows builder bytes)

theorem Sound.addText (sound : builder.Sound) {kind : TableKind} {text : String} {place : UInt16}
    (fresh : (builder.table kind).texts.find? text = none)
    (room : (builder.table kind).texts.next < kind.limit)
    (stored : builder.HasBlob place (utf8Bytes text)) :
    (builder.addText kind text place).Sound where
  nodes := by cases kind <;> exact sound.nodes
  nodes_le := by simpa using sound.nodes_le
  blobs := by cases kind <;> exact sound.blobs
  blob_le := by simpa using sound.blob_le
  place_le := by simpa using sound.place_le
  tables := by
    intro other
    rw [addText_table, addText_blobList]
    split
    next same =>
      subst same
      have table := sound.tables other
      have count := table.texts.next_eq
      rw [Interner.extent_one] at count
      refine ⟨table.texts.add fresh, ?_, ?_⟩
      · simp only [Interner.add_entries, List.length_append, List.length_singleton]
        omega
      · simp only [Interner.add_entries, Array.toList_push]
        exact List.rel_append table.stored (.cons stored .nil)
    next => exact sound.tables other
  single := by cases kind <;> exact sound.single
  records := by
    intro index record found
    have held : builder.HoldsRecord index record :=
      sound.records index record (by cases kind <;> exact found)
    exact held.grow (addText_grows builder kind text place)

theorem Sound.withRecord (sound : builder.Sound) {nameOffset : Option UInt16}
    {operations : List UInt16} (alone : builder.kind = .single → builder.profiles.isEmpty = true)
    (held : builder.HoldsRecord builder.profiles.size
      ⟨builder.profiles.size, nameOffset, 0, 0, operations⟩) :
    (builder.withRecord nameOffset operations).Sound where
  nodes := sound.nodes
  nodes_le := sound.nodes_le
  blobs := sound.blobs
  blob_le := sound.blob_le
  place_le := sound.place_le
  tables := sound.tables
  single := by
    intro isSingle
    have empty : builder.profiles = #[] := Array.isEmpty_iff.mp (alone isSingle)
    simp [Builder.withRecord, empty]
  records := by
    intro index record found
    have grown := withRecord_grows builder nameOffset operations
    simp only [Builder.withRecord, Array.toList_push] at found
    by_cases old : index < builder.profiles.toList.length
    · rw [List.getElem?_append_left old] at found
      exact (sound.records index record found).grow grown
    · rw [List.getElem?_append_right (by omega)] at found
      obtain ⟨last, same⟩ := List.getElem?_eq_some_iff.mp found
      rw [List.getElem_singleton] at same
      rw [List.length_singleton] at last
      have isLast : index = builder.profiles.size := by
        rw [Array.length_toList] at old last
        omega
      subst isLast same
      exact held.grow grown

end Builder

end SandboxPolicy
