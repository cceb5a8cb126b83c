import Mathlib.Data.List.Forall2
import SandboxPolicy.HexDump

/-!
The layout of hex dumps. The cell of a column stands in the same place on every line, the last one
included, and the cells of all lines are the bytes, so that a dump tells them whatever its width.
-/

namespace SandboxPolicy.HexDump

/-! Hexadecimal numerals. -/

def alphabet : List Char := "0123456789abcdef".toList

def numeralValue (digits : List Char) : Nat :=
  digits.foldl (fun value c => 16 * value + alphabet.idxOf c) 0

/-- Lower-case digits of the number, no fewer than the width and no more than it takes. -/
structure IsNumeral (width number : Nat) (digits : List Char) : Prop where
  lower : ∀ c ∈ digits, c ∈ alphabet
  value : numeralValue digits = number
  wide : width ≤ digits.length
  short : width < digits.length → digits.head? = some '0' → digits = ['0']

variable {value width start column count : Nat} {bytes : List UInt8}

theorem hexDigit_mem : ∀ value < 16, hexDigit value ∈ alphabet := by decide

theorem idxOf_hexDigit : ∀ value < 16, alphabet.idxOf (hexDigit value) = value := by decide

theorem numeralValue_concat (front : List Char) (c : Char) :
    numeralValue (front ++ [c]) = 16 * numeralValue front + alphabet.idxOf c := by
  rw [numeralValue, List.foldl_append]
  rfl

theorem numeralValue_zeros (count : Nat) (digits : List Char) :
    numeralValue (List.replicate count '0' ++ digits) = numeralValue digits := by
  induction count with
  | zero => rfl
  | succ count ih => exact ih

theorem lower_hexDigits (value : Nat) : ∀ c ∈ hexDigits value, c ∈ alphabet :=
  forall_mem_hexDigits hexDigit_mem value

theorem numeralValue_hexDigits (value : Nat) : numeralValue (hexDigits value) = value := by
  induction value using hexDigits.induct with
  | case1 value small =>
      simpa [hexDigits_of_lt small, numeralValue] using idxOf_hexDigit value small
  | case2 value large ih =>
      rw [hexDigits_of_le (Nat.le_of_not_lt large), numeralValue_concat, ih,
        idxOf_hexDigit _ (Nat.mod_lt value (by decide)), Nat.div_add_mod]

theorem zero_of_head_hexDigits (zero : (hexDigits value).head? = some '0') : value = 0 := by
  have digit : ∀ value < 16, hexDigit value = '0' → value = 0 := by decide
  induction value using hexDigits.induct with
  | case1 value small =>
      rw [hexDigits_of_lt small] at zero
      exact digit value small (Option.some.inj zero)
  | case2 value large ih =>
      rw [hexDigits_of_le (Nat.le_of_not_lt large), List.head?_append] at zero
      cases front : (hexDigits (value / 16)).head? with
      | none =>
          have nonempty := numeralValue_hexDigits (value / 16)
          rw [List.head?_eq_none_iff.mp front] at nonempty
          have positive : 0 = value / 16 := nonempty
          omega
      | some c =>
          rw [front] at zero
          have nothing := ih (front.trans zero)
          omega

theorem isNumeral_hexPadded (width value : Nat) :
    IsNumeral width value (hexPadded width value).toList := by
  rw [hexPadded, String.toList_ofList]
  refine ⟨?_, ?_, ?_, fun long zero => ?_⟩
  · refine List.forall_mem_append.mpr ⟨fun c member => ?_, lower_hexDigits value⟩
    exact List.eq_of_mem_replicate member ▸ hexDigit_mem 0 (by decide)
  · exact (numeralValue_zeros _ _).trans (numeralValue_hexDigits value)
  · rw [List.length_leftpad]
    exact Nat.le_max_left _ _
  · rw [List.length_leftpad] at long
    have full : List.leftpad width '0' (hexDigits value) = hexDigits value := by
      rw [List.leftpad, Nat.sub_eq_zero_of_le (by omega)]
      rfl
    rw [full] at zero ⊢
    rw [zero_of_head_hexDigits zero, hexDigits_of_lt (by decide)]
    rfl

def byteDigits (byte : UInt8) : List Char :=
  [hexDigit (byte.toNat / 16), hexDigit (byte.toNat % 16)]

theorem hexPadded_byte (byte : UInt8) : (hexPadded 2 byte.toNat).toList = byteDigits byte := by
  have bound := byte.toNat_lt
  rw [hexPadded, String.toList_ofList, byteDigits]
  by_cases small : byte.toNat < 16
  · rw [hexDigits_of_lt small, Nat.div_eq_of_lt small, Nat.mod_eq_of_lt small]
    rfl
  · rw [hexDigits_of_le (Nat.le_of_not_lt small), hexDigits_of_lt (by omega)]
    rfl

/-! Reading cells. -/

def pairs : List Char → List UInt8
  | high :: low :: rest => UInt8.ofNat (numeralValue [high, low]) :: pairs rest
  | _ => []

def readCells (columns : List Char) : List UInt8 := pairs (columns.filter (· ≠ ' '))

/-- The bytes of a dump: on each line the cells stand between the first blank and the first bar. -/
def readText (text : List Char) : List UInt8 :=
  (text.splitOn '\n').flatMap fun line =>
    readCells ((line.takeWhile (· ≠ '|')).dropWhile (· ≠ ' '))

theorem isNumeral_byteDigits (byte : UInt8) : IsNumeral 2 byte.toNat (byteDigits byte) :=
  hexPadded_byte byte ▸ isNumeral_hexPadded 2 byte.toNat

theorem pairs_byteDigits (bytes : List UInt8) : pairs (bytes.flatMap byteDigits) = bytes := by
  induction bytes with
  | nil => rfl
  | cons byte bytes ih =>
      have value : numeralValue [hexDigit (byte.toNat / 16), hexDigit (byte.toNat % 16)] =
          byte.toNat := (isNumeral_byteDigits byte).value
      rw [List.flatMap_cons, byteDigits, List.cons_append, List.cons_append, List.nil_append, pairs,
        value, UInt8.ofNat_toNat, ih]

/-! Columns. -/

def columns (width : Nat) (bytes : List UInt8) : List Char :=
  (List.range width).flatMap fun column => (cell column bytes[column]?).toList

def gap (column : Nat) : List Char := if column % 8 = 0 then [' '] else []

def cellDigits (byte : Option UInt8) : List Char := (byte.map byteDigits).getD [' ', ' ']

/-- Where the digits of a column begin: the cells take three places each, and the gaps one. -/
def cellPlace (column : Nat) : Nat := 3 * column + column / 8 + 1

theorem columns_succ (width : Nat) (bytes : List UInt8) : columns (width + 1) bytes =
    columns width bytes ++ gap width ++ (cellDigits bytes[width]? ++ [' ']) := by
  have split : (cell width bytes[width]?).toList =
      gap width ++ (cellDigits bytes[width]? ++ [' ']) := by
    unfold cell
    rw [String.toList_append]
    congr 1
    · rw [gap]
      split <;> rfl
    · cases bytes[width]? with
      | none => rfl
      | some byte =>
          rw [String.toList_append, hexPadded_byte]
          rfl
  rw [List.append_assoc, ← split]
  simp [columns, List.range_succ]

theorem columns_length (width : Nat) (bytes : List UInt8) :
    (columns width bytes).length = 3 * width + (width + 7) / 8 := by
  induction width with
  | zero => rfl
  | succ width ih =>
      have digits : (cellDigits bytes[width]?).length = 2 := by
        cases bytes[width]? <;> rfl
      rw [columns_succ, List.length_append, List.length_append, List.length_append, ih, digits, gap,
        List.length_singleton]
      split
      · rw [List.length_singleton]
        omega
      · rw [List.length_nil]
        omega

theorem columns_gap_length (width : Nat) (bytes : List UInt8) :
    (columns width bytes ++ gap width).length = cellPlace width := by
  rw [List.length_append, columns_length, gap, cellPlace]
  split
  · rw [List.length_singleton]
    omega
  · rw [List.length_nil]
    omega

theorem columns_cell {byte : UInt8} (inside : column < width)
    (holds : bytes[column]? = some byte) :
    (columns width bytes)[cellPlace column]? = some (hexDigit (byte.toNat / 16)) ∧
      (columns width bytes)[cellPlace column + 1]? = some (hexDigit (byte.toNat % 16)) := by
  induction width with
  | zero => exact absurd inside (Nat.not_lt_zero column)
  | succ width ih =>
      rw [columns_succ]
      by_cases last : column = width
      · subst last
        rw [holds, ← columns_gap_length column bytes,
          List.getElem?_append_right (Nat.le_refl _),
          List.getElem?_append_right (Nat.le_add_right _ _), Nat.sub_self,
          Nat.add_sub_cancel_left]
        exact ⟨rfl, rfl⟩
      · have length := columns_length width bytes
        have within : cellPlace column + 1 < (columns width bytes).length := by
          rw [cellPlace, length]
          omega
        rw [List.append_assoc, List.getElem?_append_left (Nat.lt_of_succ_lt within),
          List.getElem?_append_left within]
        exact ih (by omega)

theorem columns_blank {place : Nat} {c : Char} (found : (columns width bytes)[place]? = some c)
    (other : c ≠ ' ') : ∃ column < bytes.length,
      place = cellPlace column ∨ place = cellPlace column + 1 := by
  induction width with
  | zero => cases found
  | succ width ih =>
      rw [columns_succ, List.getElem?_append] at found
      split at found
      next =>
        rw [List.getElem?_append] at found
        split at found
        next => exact ih found
        next =>
          have blank : c ∈ gap width := List.mem_of_getElem? found
          rw [gap] at blank
          split at blank
          · exact absurd (List.mem_singleton.mp blank) other
          · cases blank
      next behind =>
        rw [columns_gap_length] at behind found
        cases holds : bytes[width]? with
        | none =>
            rw [holds] at found
            have blank : c ∈ [' ', ' ', ' '] := List.mem_of_getElem? found
            exact absurd (by simpa using blank) other
        | some byte =>
            obtain ⟨inside, _⟩ := List.getElem?_eq_some_iff.mp holds
            obtain ⟨offset, rfl⟩ := Nat.exists_eq_add_of_le (Nat.le_of_not_lt behind)
            rw [holds, Nat.add_sub_cancel_left] at found
            refine ⟨width, inside, ?_⟩
            match offset, found with
            | 0, _ => exact .inl rfl
            | 1, _ => exact .inr rfl
            | 2, found => exact absurd (Option.some.inj found).symm other

theorem readCells_columns (enough : bytes.length ≤ width) :
    readCells (columns width bytes) = bytes := by
  have solid (byte : UInt8) : (byteDigits byte).filter (· ≠ ' ') = byteDigits byte := by
    rw [List.filter_eq_self]
    intro c member
    have lower := (isNumeral_byteDigits byte).lower c member
    have blank : ' ' ∉ alphabet := by decide
    simpa using ne_of_mem_of_not_mem lower blank
  have kept (count : Nat) :
      (columns count bytes).filter (· ≠ ' ') = (bytes.take count).flatMap byteDigits := by
    induction count with
    | zero => rfl
    | succ count ih =>
        have blank : (gap count).filter (· ≠ ' ') = [] := by
          rw [gap]
          split <;> rfl
        rw [columns_succ, List.filter_append, List.filter_append, List.filter_append, ih, blank,
          List.take_add_one, List.flatMap_append, List.append_nil]
        cases bytes[count]? with
        | none => rfl
        | some byte =>
            rw [cellDigits, Option.map_some, Option.getD_some, solid]
            simp
  rw [readCells, kept, List.take_of_length_le enough, pairs_byteDigits]

theorem mem_columns {c : Char} (member : c ∈ columns width bytes) : c = ' ' ∨ c ∈ alphabet := by
  induction width with
  | zero => cases member
  | succ width ih =>
      rw [columns_succ, List.mem_append, List.mem_append, List.mem_append] at member
      rcases member with (front | blank) | digit | blank
      · exact ih front
      · rw [gap] at blank
        split at blank
        · exact .inl (List.mem_singleton.mp blank)
        · cases blank
      · cases holds : bytes[width]? with
        | none =>
            rw [holds] at digit
            have blank : c ∈ List.replicate 2 ' ' := digit
            exact .inl (List.eq_of_mem_replicate blank)
        | some byte =>
            rw [holds] at digit
            exact .inr ((isNumeral_byteDigits byte).lower c digit)
      · exact .inl (List.mem_singleton.mp blank)

/-! Lines. -/

/-- The parts of a line, which stand in front of the columns, between them and the bars, and between
the bars. -/
structure Line where
  offset : List Char
  columns : List Char
  shown : List Char

namespace Line

def body (line : Line) : List Char :=
  line.offset ++ ' ' :: (line.columns ++ ' ' :: '|' :: (line.shown ++ ['|']))

def text (line : Line) : List Char := line.body ++ ['\n']

structure Shows (line : Line) (width start : Nat) (bytes : List UInt8) : Prop where
  offset : IsNumeral 8 start line.offset
  even : line.columns.length = 3 * width + (width + 7) / 8
  cells : ∀ column byte, bytes[column]? = some byte → ∃ high low,
    line.columns[cellPlace column]? = some high ∧
      line.columns[cellPlace column + 1]? = some low ∧ IsNumeral 2 byte.toNat [high, low]
  blanks : ∀ place c, line.columns[place]? = some c → c ≠ ' ' → ∃ column < bytes.length,
    place = cellPlace column ∨ place = cellPlace column + 1
  shown : List.Forall₂
    (fun byte c => if 0x20 ≤ byte.toNat ∧ byte.toNat ≤ 0x7e then c.toNat = byte.toNat else c = '.')
    bytes line.shown

end Line

def parts (width start : Nat) (bytes : List UInt8) : Line where
  offset := (hexPadded 8 start).toList
  columns := columns width bytes
  shown := bytes.map shown

theorem line_toList (width start : Nat) (bytes : List UInt8) :
    (line width start bytes).toList = (parts width start bytes).text := by
  simp [line, parts, Line.text, Line.body, columns, String.toList_join, List.flatMap_map]

theorem shown_toNat {byte : UInt8} (visible : 0x20 ≤ byte.toNat ∧ byte.toNat ≤ 0x7e) :
    (shown byte).toNat = byte.toNat := by
  have printed : shown byte = Char.ofNat byte.toNat := if_pos visible
  rw [printed, Char.ofNat, dif_pos (.inl (by omega))]
  rfl

theorem shown_invisible {byte : UInt8} (invisible : ¬(0x20 ≤ byte.toNat ∧ byte.toNat ≤ 0x7e)) :
    shown byte = '.' := if_neg invisible

theorem parts_shows (enough : bytes.length ≤ width) :
    (parts width start bytes).Shows width start bytes := by
  refine ⟨isNumeral_hexPadded 8 start, columns_length width bytes, fun column byte holds => ?_,
    fun place c => columns_blank, ?_⟩
  · obtain ⟨inside, _⟩ := List.getElem?_eq_some_iff.mp holds
    obtain ⟨high, low⟩ := columns_cell (Nat.lt_of_lt_of_le inside enough) holds
    exact ⟨_, _, high, low, isNumeral_byteDigits byte⟩
  · rw [parts, List.forall₂_map_right_iff, List.forall₂_same]
    intro byte _
    split
    next visible => exact shown_toNat visible
    next invisible => exact shown_invisible invisible

/-! The whole dump. -/

def rowOf (width row : Nat) (bytes : List UInt8) : List UInt8 :=
  (bytes.drop (row * width)).take width

def rowCount (width : Nat) (bytes : List UInt8) : Nat := (bytes.length + width - 1) / width

theorem rowCount_cons (width : Nat) (first : UInt8) (rest : List UInt8) :
    rowCount (width + 1) (first :: rest) = rowCount (width + 1) (rest.drop width) + 1 := by
  have below : (rest.length - width + width) / (width + 1) = rest.length / (width + 1) := by
    rcases Nat.le_total width rest.length with enough | few
    · rw [Nat.sub_add_cancel enough]
    · rw [Nat.sub_eq_zero_of_le few, Nat.zero_add, Nat.div_eq_of_lt (Nat.lt_succ_self width),
        Nat.div_eq_of_lt (Nat.lt_succ_of_le few)]
  have total : rest.length + 1 + (width + 1) - 1 = rest.length + (width + 1) := by omega
  rw [rowCount, rowCount, List.length_cons, List.length_drop, total,
    Nat.add_div_right _ (Nat.succ_pos width), ← Nat.add_assoc, Nat.add_sub_cancel, below]

theorem linesFrom_eq (positive : 0 < width) : linesFrom width start bytes =
    (List.range (rowCount width bytes)).map fun row =>
      line width (start + row * width) (rowOf width row bytes) := by
  induction start, bytes using linesFrom.induct width with
  | case1 start =>
      have none : rowCount width [] = 0 := by
        rw [rowCount, List.length_nil]
        exact Nat.div_eq_of_lt (by omega)
      rw [linesFrom, none]
      rfl
  | case2 start first rest ih =>
      obtain ⟨width, rfl⟩ := Nat.exists_eq_add_one.mpr positive
      rw [linesFrom, ih, rowCount_cons, List.range_succ_eq_map, List.map_cons, List.map_map]
      congr 1
      · simp [rowOf]
      · refine List.map_congr_left fun row _ => ?_
        have place : start + (width + 1) + row * (width + 1) = start + (row + 1) * (width + 1) := by
          rw [Nat.succ_mul]
          omega
        have shown : rowOf (width + 1) row (rest.drop width) =
            rowOf (width + 1) (row + 1) (first :: rest) := by
          have length : (row + 1) * (width + 1) = width + row * (width + 1) + 1 := by
            rw [Nat.succ_mul]
            omega
          rw [rowOf, rowOf, List.drop_drop, length, List.drop_succ_cons]
        simp only [Function.comp, Nat.succ_eq_add_one, Nat.add_sub_cancel, place, shown]

theorem flatMap_rowOf (positive : 0 < width) (bytes : List UInt8) :
    (List.range (rowCount width bytes)).flatMap (rowOf width · bytes) = bytes := by
  have taken (count : Nat) :
      (List.range count).flatMap (rowOf width · bytes) = bytes.take (count * width) := by
    induction count with
    | zero => simp
    | succ count ih =>
        rw [List.range_succ, List.flatMap_append, ih, Nat.succ_mul, List.take_add]
        simp [rowOf]
  have remainder := Nat.mod_lt (bytes.length + width - 1) positive
  have whole := Nat.div_add_mod (bytes.length + width - 1) width
  rw [taken, List.take_of_length_le]
  rw [rowCount, Nat.mul_comm]
  omega

/-! Reading a dump. -/

theorem alphabet_plain (c : Char) (member : c ∈ alphabet) : c ≠ ' ' ∧ c ≠ '|' ∧ c ≠ '\n' := by
  have apart : ' ' ∉ alphabet ∧ '|' ∉ alphabet ∧ '\n' ∉ alphabet := by decide
  exact ⟨ne_of_mem_of_not_mem member apart.1, ne_of_mem_of_not_mem member apart.2.1,
    ne_of_mem_of_not_mem member apart.2.2⟩

theorem shown_ne_newline (byte : UInt8) : shown byte ≠ '\n' := by
  by_cases visible : 0x20 ≤ byte.toNat ∧ byte.toNat ≤ 0x7e
  · intro same
    have code := shown_toNat visible
    rw [same] at code
    have newline : '\n'.toNat = 10 := rfl
    omega
  · rw [shown_invisible visible]
    decide

theorem offset_plain {c : Char} (member : c ∈ (parts width start bytes).offset) :
    c ≠ ' ' ∧ c ≠ '|' ∧ c ≠ '\n' :=
  alphabet_plain c ((isNumeral_hexPadded 8 start).lower c member)

theorem columns_plain {c : Char} (member : c ∈ columns width bytes) :
    c ≠ '|' ∧ c ≠ '\n' := by
  rcases mem_columns member with rfl | digit
  · decide
  · exact (alphabet_plain c digit).2

theorem newline_not_mem_body : '\n' ∉ (parts width start bytes).body := by
  intro member
  simp only [Line.body, List.mem_append, List.mem_cons, List.not_mem_nil, or_false] at member
  rcases member with offset | blank | columns | blank | bar | shown | bar
  · exact (offset_plain offset).2.2 rfl
  · exact absurd blank (by decide)
  · exact (columns_plain columns).2 rfl
  · exact absurd blank (by decide)
  · exact absurd bar (by decide)
  · obtain ⟨byte, _, same⟩ := List.mem_map.mp shown
    exact shown_ne_newline byte same
  · exact absurd bar (by decide)

theorem readCells_body (enough : bytes.length ≤ width) :
    readCells (((parts width start bytes).body.takeWhile (· ≠ '|')).dropWhile (· ≠ ' ')) =
      bytes := by
  let front := (parts width start bytes).offset ++ ' ' :: (columns width bytes ++ [' '])
  have split : (parts width start bytes).body =
      front ++ '|' :: (bytes.map shown ++ ['|']) := by
    simp [Line.body, parts, front]
  have plain : ∀ c ∈ front, c ≠ '|' := by
    intro c member
    simp only [front, List.mem_append, List.mem_cons, List.not_mem_nil, or_false] at member
    rcases member with offset | rfl | columns | rfl
    · exact (offset_plain offset).2.1
    · decide
    · exact (columns_plain columns).1
    · decide
  rw [split, List.takeWhile_append_of_pos (by simpa using plain),
    List.takeWhile_cons_of_neg (by simp), List.append_nil,
    List.dropWhile_append_of_pos fun c member => by simpa using (offset_plain member).1,
    List.dropWhile_cons_of_neg (by simp)]
  have cells : readCells (' ' :: (columns width bytes ++ [' '])) =
      readCells (columns width bytes) := by
    simp [readCells]
  rw [cells, readCells_columns enough]

theorem readText_parts (enough : bytes.length ≤ width) (rest : List Char) :
    readText ((parts width start bytes).text ++ rest) = bytes ++ readText rest := by
  rw [readText, Line.text, List.append_assoc, List.singleton_append,
    List.splitOn_append_cons_self_of_not_mem newline_not_mem_body, List.flatMap_cons,
    readCells_body enough]
  rfl

def layout (width : Nat) (bytes : List UInt8) : List Line :=
  (List.range (rowCount width bytes)).map fun row =>
    parts width (row * width) (rowOf width row bytes)

theorem render_toList (bytes : List UInt8) (width : Nat) :
    (render bytes width).toList = (layout (max width 1) bytes).flatMap Line.text := by
  rw [render, linesFrom_eq (Nat.le_max_right width 1), String.toList_join, List.flatMap_map, layout,
    List.flatMap_map]
  simp only [line_toList, Nat.zero_add]

theorem rowOf_length_le (width row : Nat) (bytes : List UInt8) :
    (rowOf width row bytes).length ≤ width := List.length_take_le _ _

theorem layout_shows {row : Nat} {line : Line} (found : (layout width bytes)[row]? = some line) :
    line.Shows width (row * width) (rowOf width row bytes) := by
  rw [layout, List.getElem?_map, Option.map_eq_some_iff] at found
  obtain ⟨index, found, rfl⟩ := found
  obtain ⟨inside, rfl⟩ := List.getElem?_eq_some_iff.mp found
  rw [List.getElem_range]
  exact parts_shows (rowOf_length_le width row bytes)

theorem layout_cells (positive : 0 < width) (bytes : List UInt8) :
    ((layout width bytes).flatMap fun line => readCells line.columns) = bytes := by
  have cells (row : Nat) : readCells (columns width (rowOf width row bytes)) =
      rowOf width row bytes := readCells_columns (rowOf_length_le width row bytes)
  rw [layout, List.flatMap_map]
  simp only [parts, cells]
  exact flatMap_rowOf positive bytes

theorem layout_readText (positive : 0 < width) (bytes : List UInt8) :
    readText ((layout width bytes).flatMap Line.text) = bytes := by
  have rows (rows : List Nat) :
      readText (rows.flatMap fun row => (parts width (row * width) (rowOf width row bytes)).text) =
        rows.flatMap (rowOf width · bytes) := by
    induction rows with
    | nil => rfl
    | cons row rows ih =>
        rw [List.flatMap_cons, readText_parts (rowOf_length_le width row bytes), ih,
          List.flatMap_cons]
  rw [layout, List.flatMap_map, rows, flatMap_rowOf positive]

/-- A dump has a line for each row of its bytes, with the offset, the cells in their places and the
characters. The cells of all lines are the bytes, and the text alone tells them. -/
theorem render_layout (bytes : List UInt8) (width : Nat) :
    ∃ lines : List Line, (render bytes width).toList = lines.flatMap Line.text ∧
      lines.length = (bytes.length + max width 1 - 1) / max width 1 ∧
      (∀ line ∈ lines, '\n' ∉ line.body) ∧
      (∀ (row : Nat) (line : Line), lines[row]? = some line → line.Shows (max width 1)
        (row * max width 1) ((bytes.drop (row * max width 1)).take (max width 1))) ∧
      (lines.flatMap fun line => readCells line.columns) = bytes ∧
      readText (render bytes width).toList = bytes := by
  have positive : 0 < max width 1 := Nat.le_max_right width 1
  refine ⟨layout (max width 1) bytes, render_toList bytes width, ?_, ?_,
    fun row line => layout_shows, layout_cells positive bytes, ?_⟩
  · rw [layout, List.length_map, List.length_range, rowCount]
  · intro line member
    obtain ⟨row, _, rfl⟩ := List.mem_map.mp member
    exact newline_not_mem_body
  · rw [render_toList, layout_readText positive]

example : render [0x00, 0x80, 0x61] 9 =
    "00000000  00 80 61                     |..a|\n" := by cbv

end SandboxPolicy.HexDump
