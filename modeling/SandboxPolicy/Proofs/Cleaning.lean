import SandboxPolicy.Proofs.Duplicates
import SandboxPolicy.Proofs.Trimming

/-!
Tables that are written down and read again. Cleaning a line takes away a comment, blanks, commas
and quotes, each kind once and in this order, so a name keeps what another order would have taken.
The names come back just when every line has its parts in the order in which they are taken.
-/

namespace SandboxPolicy

/-! Lines. -/

theorem upTo_eq_iff {mark : Char} {text front : List Char} : upTo mark text = front ↔
    mark ∉ front ∧ ∃ rest, text = front ++ rest ∧ ∀ c ∈ rest.head?, c = mark := by
  rw [upTo]
  constructor
  · rintro rfl
    refine ⟨fun member => by simpa using List.mem_takeWhile_imp member,
      text.dropWhile (· ≠ mark), List.takeWhile_append_dropWhile.symm, fun c first => ?_⟩
    have stops := List.head?_dropWhile_not (· ≠ mark) text
    rw [Option.mem_def.mp first] at stops
    simpa using stops
  · rintro ⟨absent, rest, rfl, stops⟩
    rw [List.takeWhile_append_of_pos fun c member => by
      simpa using fun same : c = mark => absent (same ▸ member)]
    cases rest with
    | nil => rw [List.takeWhile_nil, List.append_nil]
    | cons c rest => rw [List.takeWhile_cons_of_neg (by simp [stops c rfl]), List.append_nil]

theorem linesFrom_line {line seen rest : List Char} (whole : '\n' ∉ line) :
    linesFrom seen (line ++ '\n' :: rest) =
      withoutReturn (seen.reverse ++ line) :: linesOf rest := by
  induction line generalizing seen with
  | nil => simp [linesFrom, linesOf]
  | cons c line ih =>
      rw [List.mem_cons, not_or] at whole
      rw [List.cons_append, linesFrom, if_neg (Ne.symm whole.1), ih whole.2]
      simp

theorem linesOf_flatMap {lines : List (List Char)} (whole : ∀ line ∈ lines, '\n' ∉ line) :
    linesOf (lines.flatMap fun line => line ++ ['\n']) = lines.map withoutReturn := by
  induction lines with
  | nil => rfl
  | cons line lines ih =>
      obtain ⟨first, whole⟩ := List.forall_mem_cons.mp whole
      rw [List.flatMap_cons, List.append_assoc, List.singleton_append, linesOf,
        linesFrom_line first, ih whole]
      rfl

theorem withoutReturn_sublist (line : List Char) : (withoutReturn line).Sublist line := by
  rw [withoutReturn]
  split
  · exact List.dropLast_sublist line
  · exact List.Sublist.refl line

theorem linesFrom_whole {seen text : List Char} (begun : '\n' ∉ seen) :
    ∀ line ∈ linesFrom seen text, '\n' ∉ line := by
  induction text generalizing seen with
  | nil =>
      rw [linesFrom]
      split
      · simp
      · simpa using begun
  | cons c text ih =>
      rw [linesFrom]
      split
      next ends =>
        refine List.forall_mem_cons.mpr ⟨fun member => begun ?_, ih List.not_mem_nil⟩
        exact List.mem_reverse.mp ((withoutReturn_sublist _).subset member)
      next goesOn =>
        exact ih fun member => (List.mem_cons.mp member).elim (Ne.symm goesOn) begun

namespace OperationTable

/-- Nothing that cleaning is about stands at the ends of the name, and no comment in it. -/
structure Settled (name : List Char) : Prop where
  comment : ';' ∉ name
  first : ∀ c ∈ name.head?, isBlank c = false ∧ c ≠ '"'
  last : ∀ c ∈ name.getLast?, isBlank c = false ∧ c ≠ '"' ∧ c ≠ ','

theorem settled_iff {name : List Char} : Settled name ↔ ';' ∉ name ∧
    name.head?.all (fun c => !isBlank c && c != '"') = true ∧
    name.getLast?.all (fun c => !isBlank c && c != '"' && c != ',') = true := by
  simp only [Option.all_eq_true, Bool.and_eq_true, Bool.not_eq_true', bne_iff_ne, and_assoc]
  exact ⟨fun settled => ⟨settled.comment, settled.first, settled.last⟩,
    fun ⟨comment, first, last⟩ => ⟨comment, first, last⟩⟩

instance (name : List Char) : Decidable (Settled name) := decidable_of_iff _ settled_iff.symm

/-- The line has the name in quotes, commas behind these, blanks around it all and a comment at the
end. Each of these parts may be missing. -/
def LaysOut (name line : List Char) : Prop :=
  ∃ before opening closing commas behind comment,
    line = before ++ (opening ++ name ++ closing ++ commas) ++ behind ++ comment ∧
    (∀ c ∈ before ++ behind, isBlank c = true) ∧ (∀ c ∈ opening ++ closing, c = '"') ∧
    (∀ c ∈ commas, c = ',') ∧ ∀ c ∈ comment.head?, c = ';'

theorem cleanLine_laidOut (line : List Char) : LaysOut (cleanLine line) line := by
  obtain ⟨_, comment, whole, marked⟩ := upTo_eq_iff.mp (rfl : upTo ';' line = _)
  obtain ⟨before, behind, front, blank, blank', _⟩ :=
    trimBoth_eq_iff.mp (rfl : trimBoth isBlank (upTo ';' line) = _)
  obtain ⟨commas, core, listed, _⟩ := trimEnd_eq_iff.mp
    (rfl : trimEnd (· == ',') (trimBoth isBlank (upTo ';' line)) = _)
  obtain ⟨opening, closing, body, quoted, quoted', _⟩ :=
    trimBoth_eq_iff.mp (rfl : trimBoth (· == '"') _ = cleanLine line)
  refine ⟨before, opening, closing, commas, behind, comment, ?_, ?_, ?_, ?_, marked⟩
  · rw [cleanLine, ← body, ← core, ← front]
    exact whole
  · exact List.forall_mem_append.mpr ⟨blank, blank'⟩
  · exact List.forall_mem_append.mpr ⟨by simpa using quoted, by simpa using quoted'⟩
  · simpa using listed

/-! A settled name comes out of its line: each step takes one kind of part and stops in front of the
next. -/

section Steps

variable {before opening name closing commas behind comment : List Char}

theorem Settled.unquoted (settled : Settled name) (quotes : ∀ c ∈ opening ++ closing, c = '"') :
    trimBoth (· == '"') (opening ++ name ++ closing) = name := by
  obtain ⟨quoted, quoted'⟩ := List.forall_mem_append.mp quotes
  exact trimBoth_eq_iff.mpr ⟨opening, closing, rfl, by simpa using quoted, by simpa using quoted',
    fun c first => beq_false_of_ne (settled.first c first).2,
    fun c last => beq_false_of_ne (settled.last c last).2.1⟩

theorem Settled.unlisted (settled : Settled name) (quotes : ∀ c ∈ opening ++ closing, c = '"')
    (listed : ∀ c ∈ commas, c = ',') :
    trimEnd (· == ',') (opening ++ name ++ closing ++ commas) = opening ++ name ++ closing := by
  obtain ⟨quoted, quoted'⟩ := List.forall_mem_append.mp quotes
  refine trimEnd_eq_iff.mpr ⟨commas, rfl, by simpa using listed, ?_⟩
  refine forall_getLast?_append (forall_getLast?_append ?_ ?_) ?_
  · exact fun c last => quoted c (List.mem_of_getLast? last) ▸ rfl
  · exact fun c last => beq_false_of_ne (settled.last c last).2.2
  · exact fun c last => quoted' c (List.mem_of_getLast? last) ▸ rfl

theorem Settled.unblanked (settled : Settled name) (quotes : ∀ c ∈ opening ++ closing, c = '"')
    (listed : ∀ c ∈ commas, c = ',') (blanks : ∀ c ∈ before ++ behind, isBlank c = true) :
    trimBoth isBlank (before ++ (opening ++ name ++ closing ++ commas) ++ behind) =
      opening ++ name ++ closing ++ commas := by
  obtain ⟨quoted, quoted'⟩ := List.forall_mem_append.mp quotes
  obtain ⟨blank, blank'⟩ := List.forall_mem_append.mp blanks
  refine trimBoth_eq_iff.mpr ⟨before, behind, rfl, blank, blank', ?_, ?_⟩
  · refine forall_head?_append (forall_head?_append (forall_head?_append ?_ ?_) ?_) ?_
    · exact fun c first => quoted c (List.mem_of_head? first) ▸ rfl
    · exact fun c first => (settled.first c first).1
    · exact fun c first => quoted' c (List.mem_of_head? first) ▸ rfl
    · exact fun c first => listed c (List.mem_of_head? first) ▸ rfl
  · refine forall_getLast?_append (forall_getLast?_append (forall_getLast?_append ?_ ?_) ?_) ?_
    · exact fun c last => quoted c (List.mem_of_getLast? last) ▸ rfl
    · exact fun c last => (settled.last c last).1
    · exact fun c last => quoted' c (List.mem_of_getLast? last) ▸ rfl
    · exact fun c last => listed c (List.mem_of_getLast? last) ▸ rfl

theorem Settled.uncommented (settled : Settled name) (quotes : ∀ c ∈ opening ++ closing, c = '"')
    (listed : ∀ c ∈ commas, c = ',') (blanks : ∀ c ∈ before ++ behind, isBlank c = true)
    (marked : ∀ c ∈ comment.head?, c = ';') :
    upTo ';' (before ++ (opening ++ name ++ closing ++ commas) ++ behind ++ comment) =
      before ++ (opening ++ name ++ closing ++ commas) ++ behind := by
  have inQuotes : ';' ∉ opening ++ closing := fun member => absurd (quotes _ member) (by decide)
  have inCommas : ';' ∉ commas := fun member => absurd (listed _ member) (by decide)
  have inBlanks : ';' ∉ before ++ behind := fun member => absurd (blanks _ member) (by decide)
  refine upTo_eq_iff.mpr ⟨?_, comment, rfl, marked⟩
  simp only [List.mem_append, not_or] at inQuotes inBlanks ⊢
  exact ⟨⟨inBlanks.1, ⟨⟨inQuotes.1, settled.comment⟩, inQuotes.2⟩, inCommas⟩, inBlanks.2⟩

end Steps

theorem LaysOut.cleanLine_eq {name line : List Char} (laidOut : LaysOut name line)
    (settled : Settled name) : cleanLine line = name := by
  obtain ⟨before, opening, closing, commas, behind, comment, rfl, blanks, quotes, listed, marked⟩ :=
    laidOut
  rw [cleanLine, settled.uncommented quotes listed blanks marked,
    settled.unblanked quotes listed blanks, settled.unlisted quotes listed,
    settled.unquoted quotes]

theorem cleanLine_eq_self_iff {name : List Char} : cleanLine name = name ↔ Settled name := by
  constructor
  · intro same
    -- Each step takes something away or nothing, and in all they take nothing.
    have quotes :
        (cleanLine name).Sublist (trimEnd (· == ',') (trimBoth isBlank (upTo ';' name))) :=
      trimBoth_sublist _ _
    have commas := trimEnd_sublist (· == ',') (trimBoth isBlank (upTo ';' name))
    have blanks := trimBoth_sublist isBlank (upTo ';' name)
    have comment : (upTo ';' name).Sublist name := List.takeWhile_sublist _
    rw [same] at quotes
    have uncommented := comment.antisymm ((quotes.trans commas).trans blanks)
    rw [uncommented] at quotes commas blanks
    have unblanked := blanks.antisymm (quotes.trans commas)
    rw [unblanked] at quotes commas
    have unlisted := commas.antisymm quotes
    have unquoted : trimBoth (· == '"') name = name := by
      rwa [cleanLine, uncommented, unblanked, unlisted] at same
    obtain ⟨_, _, _, _, _, first, last⟩ := trimBoth_eq_iff.mp unblanked
    obtain ⟨_, _, _, noComma⟩ := trimEnd_eq_iff.mp unlisted
    obtain ⟨_, _, _, _, _, first', last'⟩ := trimBoth_eq_iff.mp unquoted
    exact ⟨(upTo_eq_iff.mp uncommented).1,
      fun c head => ⟨first c head, ne_of_beq_false (first' c head)⟩,
      fun c tail => ⟨last c tail, ne_of_beq_false (last' c tail), ne_of_beq_false (noComma c tail)⟩⟩
  · intro settled
    exact LaysOut.cleanLine_eq ⟨[], [], [], [], [], [], by simp⟩ settled

theorem settled_cleanLine_iff {line : List Char} :
    Settled (cleanLine line) ↔ ∃ name, Settled name ∧ LaysOut name line := by
  constructor
  · intro settled
    exact ⟨cleanLine line, settled, cleanLine_laidOut line⟩
  · rintro ⟨name, settled, laidOut⟩
    rw [laidOut.cleanLine_eq settled]
    exact settled

theorem cleanLine_sublist (line : List Char) : (cleanLine line).Sublist (upTo ';' line) :=
  (trimBoth_sublist _ _).trans ((trimEnd_sublist _ _).trans (trimBoth_sublist _ _))

theorem cleanLine_withoutReturn {line : List Char} (uncommented : ';' ∉ line) :
    cleanLine (withoutReturn line) = cleanLine line := by
  rw [withoutReturn]
  split
  next returned =>
    obtain ⟨front, rfl⟩ := List.getLast?_eq_some_iff.mp returned
    have whole : upTo ';' (front ++ ['\r']) = front ++ ['\r'] :=
      upTo_eq_iff.mpr ⟨uncommented, [], (List.append_nil _).symm, by simp⟩
    have whole' : upTo ';' front = front :=
      upTo_eq_iff.mpr ⟨fun member => uncommented (List.mem_append_left _ member), [],
        (List.append_nil _).symm, by simp⟩
    rw [List.dropLast_concat, cleanLine, cleanLine, whole, whole',
      trimBoth_append (by simp [isBlank])]
  next => rfl

/-! Tables. -/

structure Declared (name : String) : Prop where
  named : name ≠ ""
  uncommented : ';' ∉ name.toList
  oneLine : '\n' ∉ name.toList
  opened : name.toList.head? ≠ some '"'
  closed : name.toList.getLast? ≠ some '"'

theorem mem_declaredNames {text name : String} : name ∈ declaredNames text ↔
    name ≠ "" ∧ ∃ line ∈ linesOf text.toList, cleanLine line = name.toList := by
  simp only [declaredNames, List.mem_map, List.mem_filter]
  constructor
  · rintro ⟨_, ⟨⟨line, member, rfl⟩, named⟩, rfl⟩
    exact ⟨by simpa using named, line, member, by rw [String.toList_ofList]⟩
  · rintro ⟨named, line, member, same⟩
    exact ⟨name.toList, ⟨⟨line, member, same⟩, by simpa using named⟩, String.ofList_toList⟩

theorem declared_of_mem {text name : String} (member : name ∈ declaredNames text) :
    Declared name := by
  obtain ⟨named, line, listed, same⟩ := mem_declaredNames.mp member
  obtain ⟨_, _, _, _, _, first, last⟩ :=
    trimBoth_eq_iff.mp (same : trimBoth (· == '"') _ = name.toList)
  have kept := (cleanLine_sublist line).subset
  rw [same] at kept
  refine ⟨named, fun comment => ?_, fun ends => ?_, fun quote => ?_, fun quote => ?_⟩
  · exact (upTo_eq_iff.mp (rfl : upTo ';' line = _)).1 (kept comment)
  · exact linesFrom_whole List.not_mem_nil line listed
      ((List.takeWhile_sublist _).subset (kept ends))
  · exact absurd (first '"' quote) (by decide)
  · exact absurd (last '"' quote) (by decide)

def written (names : List String) : String :=
  String.ofList (names.flatMap fun name => name.toList ++ ['\n'])

theorem declarations_written {names : List String} (declared : ∀ name ∈ names, Declared name) :
    declarations (written names) = names.map fun name => cleanLine name.toList := by
  have whole : ∀ line ∈ names.map String.toList, '\n' ∉ line := by
    simpa using fun name member => (declared name member).oneLine
  have lines := linesOf_flatMap whole
  rw [List.flatMap_map] at lines
  rw [declarations, written, String.toList_ofList, lines, List.map_map, List.map_map]
  refine List.map_congr_left fun name member => ?_
  simp only [Function.comp_apply]
  rw [cleanLine_withoutReturn (declared name member).uncommented]

theorem declaredNames_written_iff {names : List String}
    (declared : ∀ name ∈ names, Declared name) :
    declaredNames (written names) = names ↔ ∀ name ∈ names, Settled name.toList := by
  have read : declaredNames (written names) =
      ((names.map fun name => cleanLine name.toList).filter fun name => !name.isEmpty).map
        String.ofList := by
    rw [← declarations_written declared]
    rfl
  rw [read]
  constructor
  · intro same
    -- As many names are left as there were, so none of them has become empty.
    have count : (names.map fun name => cleanLine name.toList).length = names.length :=
      List.length_map _
    have all := congrArg List.length same
    rw [List.length_map, ← count, List.length_filter_eq_length_iff, ← List.filter_eq_self] at all
    rw [all, List.map_map] at same
    have each := List.map_inj_left.mp (same.trans (List.map_id names).symm)
    intro name member
    rw [← cleanLine_eq_self_iff]
    exact String.ofList_inj.mp ((each name member).trans String.ofList_toList.symm)
  · intro settled
    have kept : (names.map fun name => cleanLine name.toList) = names.map String.toList :=
      List.map_congr_left fun name member => cleanLine_eq_self_iff.mpr (settled name member)
    have all : (names.map String.toList).filter (fun name => !name.isEmpty) =
        names.map String.toList :=
      List.filter_eq_self.mpr (by simpa using fun name member => (declared name member).named)
    rw [kept, all, List.map_map]
    simp [Function.comp_def]

theorem ofNames_eq_ok {names : List String} {table : OperationTable} :
    ofNames names = .ok table ↔ table.names = names := by
  constructor
  · intro accepted
    rw [ofNames] at accepted
    split at accepted
    next => cases accepted
    next =>
      split at accepted
      next => cases accepted
      next =>
        split at accepted
        next =>
          split at accepted
          next => rw [← Except.ok.inj accepted]
          next => cases accepted
        next => cases accepted
  · rintro rfl
    have distinct := firstRepeat_of_nodup table.distinct 1
    rw [ofNames]
    split
    next found => cases distinct.symm.trans found
    next =>
      split
      next none => cases none.symm.trans table.first
      next found some =>
        rw [dif_pos (Option.some.inj (some.symm.trans table.first)), dif_pos table.small]

theorem settled_names_iff {text : String} :
    (∀ name ∈ declaredNames text, Settled name.toList) ↔
      ∀ line ∈ linesOf text.toList, ∃ name, Settled name ∧ LaysOut name line := by
  simp only [← settled_cleanLine_iff, mem_declaredNames]
  constructor
  · intro settled line member
    by_cases empty : cleanLine line = []
    · rw [empty]
      exact ⟨List.not_mem_nil, by simp, by simp⟩
    · have name := settled (String.ofList (cleanLine line))
        ⟨by simpa using empty, line, member, String.toList_ofList.symm⟩
      rwa [String.toList_ofList] at name
  · rintro settled name ⟨_, line, member, same⟩
    exact same ▸ settled line member

/-- A table that is written down, each name on its line, and read again is the same just when no
name keeps a blank or a comma at its end, which is so just when every line of the text has its
quotes, commas and blanks in this order. Comments and outer quotes are never kept. -/
theorem parse_written_iff {text : String} {table : OperationTable}
    (accepted : parse text = .ok table) :
    (∀ name ∈ table.names, Declared name) ∧
    (parse (written table.names) = .ok table ↔ ∀ name ∈ table.names, Settled name.toList) ∧
    (parse (written table.names) = .ok table ↔
      ∀ line ∈ linesOf text.toList, ∃ name, Settled name ∧ LaysOut name line) := by
  have names : table.names = declaredNames text := ofNames_eq_ok.mp accepted
  have declared : ∀ name ∈ table.names, Declared name := fun name member =>
    declared_of_mem (names ▸ member)
  have again : parse (written table.names) = .ok table ↔
      ∀ name ∈ table.names, Settled name.toList := by
    rw [parse, ofNames_eq_ok, eq_comm, declaredNames_written_iff declared]
  refine ⟨declared, again, ?_⟩
  rw [again, names, settled_names_iff]

theorem parse_written_iff_quoted :
    parse "\"default\",\r\n\n\tsignal ; once" =
      .ok ⟨["default", "signal"], by decide, rfl, by decide⟩ ∧
    parse (written ["default", "signal"]) =
      .ok ⟨["default", "signal"], by decide, rfl, by decide⟩ := by
  have accepted : parse "\"default\",\r\n\n\tsignal ; once" =
      .ok ⟨["default", "signal"], by decide, rfl, by decide⟩ := by cbv
  obtain ⟨_, restored, _⟩ := parse_written_iff accepted
  exact ⟨accepted, restored.mpr (by decide)⟩

/-- A blank between the quotes and a comma stays, and the quote in front of it too. -/
theorem parse_written_blank :
    ¬∀ (text : String) (table : OperationTable), parse text = .ok table →
      parse (written table.names) = .ok table := by
  intro again
  have accepted : parse "default\n\"signal\" ," =
      .ok ⟨["default", "signal\" "], by decide, rfl, by decide⟩ := by cbv
  have other : parse (written ["default", "signal\" "]) =
      .ok ⟨["default", "signal"], by decide, rfl, by decide⟩ := by cbv
  have restored := again _ _ accepted
  rw [other] at restored
  exact absurd (congrArg names (Except.ok.inj restored)) (by decide)

end OperationTable

end SandboxPolicy
