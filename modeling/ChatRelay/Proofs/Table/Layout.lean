/-
# Where cells stand in a table

Each column of a table begins at one place in all lines: behind the columns to its left, with two
blanks after each of them.  A cell is put there as it is, and blanks fill the line between cells.
The width of a column is the length of its longest cell, so that no cell reaches into the column to
its right.  Only blanks are cut off at the end of a line, be they those between columns or those at
the end of a cell, and so no line is longer than the one under the headers.
-/
import ChatRelay.Proofs.Text.Blank
import ChatRelay.Table
import Mathlib.Algebra.GroupWithZero.Nat
import Mathlib.Data.List.Forall2
import Mathlib.Order.Bounds.Basic

namespace ChatRelay.Table

open Text

/-! ## Widths of columns -/

/-- The cells of a column: those of all rows that have it. -/
def column (rows : List (List String)) (j : Nat) : List String := rows.filterMap (·[j]?)

/-- Columns fit rows if each is as wide as its longest cell. -/
def Fits (ws : List Nat) (rows : List (List String)) : Prop :=
  ∀ j w, ws[j]? = some w → IsGreatest {n | ∃ cell ∈ column rows j, cell.length = n} w

section Widths

variable {ws : List Nat} {rows : List (List String)} {cells headers : List String} {j w : Nat}

lemma getElem?_widen (ws : List Nat) (cells : List String) (j : Nat) :
    (widen ws cells)[j]? = ws[j]?.map fun w => cells[j]?.elim w fun cell => max w cell.length := by
  induction ws generalizing cells j with
  | nil => cases cells <;> rfl
  | cons w ws ih =>
    cases cells with
    | nil => simp [widen]
    | cons cell cells =>
      cases j with
      | zero => rfl
      | succ j => exact ih cells j

lemma length_widen (ws : List Nat) (cells : List String) : (widen ws cells).length = ws.length := by
  induction ws generalizing cells with
  | nil => cases cells <;> rfl
  | cons w ws ih =>
    cases cells with
    | nil => rfl
    | cons cell cells => exact congrArg (· + 1) (ih cells)

lemma fits_headers (headers : List String) : Fits (headers.map String.length) [headers] := by
  intro j w hw
  rw [List.getElem?_map] at hw
  obtain ⟨header, hheader, rfl⟩ := Option.map_eq_some_iff.1 hw
  have hcolumn : column [headers] j = [header] := by simp [column, hheader]
  rw [hcolumn]
  simp

/-- One more row is taken in by columns that are widened for it. -/
lemma Fits.widen (h : Fits ws rows) (cells : List String) :
    Fits (Table.widen ws cells) (rows ++ [cells]) := by
  intro j w hw
  rw [getElem?_widen] at hw
  obtain ⟨w', hw', rfl⟩ := Option.map_eq_some_iff.1 hw
  have hgreatest := h j w' hw'
  cases hcell : cells[j]? with
  | none =>
    have hcolumn : column (rows ++ [cells]) j = column rows j := by simp [column, hcell]
    rw [hcolumn]
    exact hgreatest
  | some cell =>
    have hset : {n | ∃ c ∈ column (rows ++ [cells]) j, c.length = n} =
        insert cell.length {n | ∃ c ∈ column rows j, c.length = n} := by
      ext n
      simp [column, hcell, or_and_right, exists_or, or_comm, eq_comm]
    rw [hset, Option.elim_some, max_comm]
    exact hgreatest.insert cell.length

/-- By induction on the rows that are still to be taken in. -/
lemma Fits.foldl_widen (h : Fits ws rows) (more : List (List String)) :
    Fits (more.foldl Table.widen ws) (rows ++ more) := by
  induction more generalizing ws rows with
  | nil => rwa [List.append_nil]
  | cons cells more ih =>
    have hmore := ih (h.widen cells)
    rwa [List.append_assoc] at hmore

lemma fits_widths (t : Table) : Fits t.widths (t.headers :: t.rows) :=
  (fits_headers t.headers).foldl_widen t.rows

lemma length_foldl_widen (rows : List (List String)) (ws : List Nat) :
    (rows.foldl widen ws).length = ws.length := by
  induction rows generalizing ws with
  | nil => rfl
  | cons cells rows ih => rw [List.foldl_cons, ih, length_widen]

lemma length_widths (t : Table) : t.widths.length = t.headers.length := by
  rw [widths, length_foldl_widen, List.length_map]

/-- No cell of a row is longer than its column is wide. -/
lemma Fits.length_le (h : Fits ws rows) (hcells : cells ∈ rows) {cell : String}
    (hw : ws[j]? = some w) (hcell : cells[j]? = some cell) : cell.length ≤ w :=
  (h j w hw).2 ⟨cell, List.mem_filterMap.2 ⟨cells, hcells, hcell⟩, rfl⟩

end Widths

/-! ## Places of columns -/

/-- The place at which a column begins. -/
def offset (ws : List Nat) (j : Nat) : Nat := ((ws.take j).map (· + 2)).sum

/-- A text holds pieces in columns: each of them as it is, from the place on at which its column
begins, and blanks everywhere else. -/
structure Holds (ws : List Nat) (pieces : List (List Char)) (text : List Char) : Prop where
  placed : ∀ j piece, pieces[j]? = some piece → piece <+: text.drop (offset ws j)
  blank : ∀ p c, text[p]? = some c →
    (∀ j piece, pieces[j]? = some piece →
      ¬ (offset ws j ≤ p ∧ p < offset ws j + piece.length)) → c = ' '

/-- A line shows the cells of a row: as many as there are columns, with nothing but the blanks at
the end of the line cut off. -/
def IsRow (ws : List Nat) (cells : List String) (line : String) : Prop :=
  ∃ full rest, Holds ws ((cells.take ws.length).map String.toList) full ∧
    full = line.toList ++ rest ∧ (∀ c ∈ rest, isBlank c = true) ∧
    ∀ c ∈ line.toList.getLast?, isBlank c = false

/-- A line shows how wide the columns are, up to the end of the last one. -/
def IsRule (ws : List Nat) (line : String) : Prop :=
  Holds ws (ws.map fun w => List.replicate w '-') line.toList ∧
    line.length = offset ws ws.length - 2

/-- Lines show a table in columns of some widths. -/
structure Shows (t : Table) (ws : List Nat) (lines : List String) : Prop where
  columns : ws.length = t.headers.length
  /-- Each is as wide as its longest cell, or its header. -/
  fits : Fits ws (t.headers :: t.rows)
  /-- There is a line for the headers, one under it, and one for each row, in order, and none is
  longer than the one under the headers. -/
  lines : ∃ header rule rows, lines = header :: rule :: rows ∧ IsRow ws t.headers header ∧
    IsRule ws rule ∧ List.Forall₂ (IsRow ws) t.rows rows ∧
    ∀ line ∈ lines, line.length ≤ rule.length

variable {ws : List Nat} {pieces : List (List Char)} {line rest : List Char} {w j k : Nat}
  {piece : List Char}

lemma offset_cons (w : Nat) (ws : List Nat) (j : Nat) :
    offset (w :: ws) (j + 1) = w + 2 + offset ws j := by
  simp [offset]

lemma offset_mono (h : j ≤ k) : offset ws j ≤ offset ws k := by
  obtain ⟨more, rfl⟩ := Nat.exists_eq_add_of_le h
  rw [offset, offset, List.take_add, List.map_append, List.sum_append]
  omega

/-- A column begins two places behind the end of the one to its left. -/
lemma offset_succ (hw : ws[j]? = some w) : offset ws (j + 1) = offset ws j + w + 2 := by
  rw [offset, List.take_add_one, hw, List.map_append, List.sum_append, ← offset]
  simp [Nat.add_assoc]

/-! ## Lines with blanks behind every column -/

/-- Pieces filled up to the widths of their columns, each with two blanks behind it. -/
def spaced (ws : List Nat) (pieces : List (List Char)) : List Char :=
  (List.zipWith (fun w piece => piece.rightpad w ' ' ++ gap) ws pieces).flatten

/-- No piece is wider than its column. -/
def AreWithin (ws : List Nat) (pieces : List (List Char)) : Prop :=
  ∀ (j w : Nat) (piece : List Char), ws[j]? = some w → pieces[j]? = some piece → piece.length ≤ w

lemma AreWithin.tail (h : AreWithin (w :: ws) (piece :: pieces)) : AreWithin ws pieces :=
  fun j => h (j + 1)

lemma length_rightpad (h : piece.length ≤ w) : (piece.rightpad w ' ').length = w := by
  rw [List.rightpad, List.length_append, List.length_replicate]
  omega

lemma length_spaced (h : AreWithin ws pieces) (hlength : pieces.length ≤ ws.length) :
    (spaced ws pieces).length = offset ws pieces.length := by
  induction ws generalizing pieces with
  | nil =>
    obtain rfl := List.eq_nil_of_length_eq_zero (Nat.le_zero.1 hlength)
    rfl
  | cons w ws ih =>
    cases pieces with
    | nil => rfl
    | cons piece pieces =>
      have hpiece : piece.length ≤ w := h 0 w piece rfl rfl
      have hrest := ih h.tail (Nat.le_of_succ_le_succ hlength)
      rw [spaced] at hrest
      rw [spaced, List.zipWith_cons_cons, List.flatten_cons, List.length_append, hrest,
        List.length_append, length_rightpad hpiece, List.length_cons, offset_cons]
      rfl

lemma Holds.cons (h : Holds ws pieces line) (hpiece : piece.length ≤ w) :
    Holds (w :: ws) (piece :: pieces) (piece.rightpad w ' ' ++ gap ++ line) := by
  have hlength : (piece.rightpad w ' ' ++ gap).length = w + 2 := by
    rw [List.length_append, length_rightpad hpiece]
    rfl
  constructor
  · intro j other hother
    cases j with
    | zero =>
      obtain rfl : piece = other := Option.some.inj hother
      rw [offset, List.take_zero, List.map_nil, List.sum_nil, List.drop_zero, List.append_assoc,
        List.rightpad, List.append_assoc]
      exact List.prefix_append _ _
    | succ j =>
      rw [offset_cons, ← hlength, List.drop_length_add_append]
      exact h.placed j other hother
  · intro p c hc houtside
    rcases Nat.lt_or_ge p (w + 2) with hp | hp
    · -- the column itself, of which the piece is the first part, and the two blanks behind it
      have hbehind : piece.length ≤ p := by
        have hfirst := houtside 0 piece rfl
        simp only [offset, List.take_zero, List.map_nil, List.sum_nil] at hfirst
        omega
      rw [List.getElem?_append_left (by omega), List.rightpad, List.append_assoc,
        List.getElem?_append_right hbehind] at hc
      have hmem := List.mem_of_getElem? hc
      rw [List.mem_append] at hmem
      rcases hmem with hmem | hmem
      · exact List.eq_of_mem_replicate hmem
      · simpa [gap] using hmem
    · obtain ⟨p, rfl⟩ := Nat.exists_eq_add_of_le hp
      rw [← hlength, List.getElem?_append_right (Nat.le_add_right _ _),
        Nat.add_sub_cancel_left] at hc
      refine h.blank p c hc fun j other hother hinside => ?_
      refine houtside (j + 1) other hother ?_
      rw [offset_cons]
      omega

/-- By induction on the columns. -/
lemma holds_spaced (h : AreWithin ws pieces) (hlength : pieces.length ≤ ws.length) :
    Holds ws pieces (spaced ws pieces) := by
  induction ws generalizing pieces with
  | nil =>
    obtain rfl := List.eq_nil_of_length_eq_zero (Nat.le_zero.1 hlength)
    exact ⟨by simp, by simp [spaced]⟩
  | cons w ws ih =>
    cases pieces with
    | nil => exact ⟨by simp, by simp [spaced]⟩
    | cons piece pieces =>
      exact (ih h.tail (Nat.le_of_succ_le_succ hlength)).cons (h 0 w piece rfl rfl)

/-- What stands behind all pieces of a line can be cut off. -/
lemma Holds.of_append (h : Holds ws pieces (line ++ rest))
    (hends : ∀ j piece, pieces[j]? = some piece → offset ws j + piece.length ≤ line.length) :
    Holds ws pieces line := by
  constructor
  · intro j piece hpiece
    have hend := hends j piece hpiece
    have hplaced := h.placed j piece hpiece
    rw [List.drop_append_of_le_length (by omega)] at hplaced
    refine List.prefix_of_prefix_length_le hplaced (List.prefix_append _ _) ?_
    rw [List.length_drop]
    omega
  · intro p c hc
    obtain ⟨hp, -⟩ := List.getElem?_eq_some_iff.1 hc
    exact h.blank p c ((List.getElem?_append_left hp).trans hc)

/-! ## Lines of a table -/

lemma intercalate_append_gap {parts : List (List Char)} (hne : parts ≠ []) :
    gap.intercalate parts ++ gap = (parts.map (· ++ gap)).flatten := by
  induction parts with
  | nil => exact absurd rfl hne
  | cons part parts ih =>
    cases parts with
    | nil => simp
    | cons next parts =>
      rw [List.intercalate_cons_cons, List.map_cons, List.flatten_cons, List.append_assoc,
        List.append_assoc, ih (List.cons_ne_nil _ _), List.append_assoc]

/-- Pieces filled up to the widths of their columns. -/
def filled (ws : List Nat) (pieces : List (List Char)) : List (List Char) :=
  List.zipWith (fun w piece => piece.rightpad w ' ') ws pieces

lemma map_filled (ws : List Nat) (pieces : List (List Char)) :
    ((filled ws pieces).map (· ++ gap)).flatten = spaced ws pieces := by
  rw [filled, List.map_zipWith]
  rfl

lemma isBlank_gap : ∀ c ∈ gap, isBlank c = true := by
  intro c hc
  obtain rfl : c = ' ' := by simpa [gap] using hc
  decide

/-- At the end of a line that is trimmed, two blanks more make no difference. -/
lemma trimEnd_filled (ws : List Nat) (pieces : List (List Char)) :
    trimEnd (gap.intercalate (filled ws pieces)) = trimEnd (spaced ws pieces) := by
  rw [← map_filled]
  by_cases hne : filled ws pieces = []
  · rw [hne]
    rfl
  · rw [← intercalate_append_gap hne, trimEnd_append isBlank_gap]

/-- Pieces beyond the last column are left out. -/
lemma filled_take (ws : List Nat) (pieces : List (List Char)) :
    filled ws (pieces.take ws.length) = filled ws pieces :=
  calc filled ws (pieces.take ws.length)
      = filled (ws.take ws.length) (pieces.take ws.length) := by rw [List.take_length]
    _ = (filled ws pieces).take ws.length := List.take_zipWith.symm
    _ = filled ws pieces := List.take_of_length_le (by simp [filled])

/-- Such a line ends with its last column. -/
lemma length_intercalate_filled (h : AreWithin ws pieces) (hlength : pieces.length ≤ ws.length) :
    (gap.intercalate (filled ws pieces)).length = offset ws pieces.length - 2 := by
  have hspaced := length_spaced h hlength
  rw [← map_filled] at hspaced
  by_cases hne : filled ws pieces = []
  · rw [hne] at hspaced ⊢
    rw [← hspaced]
    rfl
  · rw [← intercalate_append_gap hne, List.length_append] at hspaced
    exact Nat.eq_sub_of_add_eq hspaced

/-! ## The line under the headers -/

lemma rule_eq (ws : List Nat) :
    rule ws = gap.intercalate (filled ws (ws.map fun w => List.replicate w '-')) := by
  rw [filled, List.zipWith_map_right, List.zipWith_self, rule]
  simp [List.rightpad]

lemma areWithin_replicate (ws : List Nat) :
    AreWithin ws (ws.map fun w => List.replicate w '-') := by
  intro j w piece hw hpiece
  rw [List.getElem?_map, hw] at hpiece
  cases hpiece
  rw [List.length_replicate]

lemma length_rule (ws : List Nat) : (rule ws).length = offset ws ws.length - 2 := by
  rw [rule_eq, length_intercalate_filled (areWithin_replicate ws) (List.length_map _).le,
    List.length_map]

lemma isRule_rule (ws : List Nat) : IsRule ws (String.ofList (rule ws)) := by
  rw [IsRule, ← String.length_toList, String.toList_ofList]
  refine ⟨?_, length_rule ws⟩
  rcases eq_or_ne ws [] with rfl | hne
  · exact ⟨by simp, by simp [rule, gap]⟩
  · have hspaced := holds_spaced (areWithin_replicate ws) (List.length_map _).le
    rw [← map_filled, ← intercalate_append_gap (by simpa [filled] using hne), ← rule_eq] at hspaced
    refine hspaced.of_append fun j piece hpiece => ?_
    rw [List.getElem?_map] at hpiece
    obtain ⟨w, hw, rfl⟩ := Option.map_eq_some_iff.1 hpiece
    -- a column ends two places before the next one would begin
    obtain ⟨hj, -⟩ := List.getElem?_eq_some_iff.1 hw
    have hnext := offset_succ hw
    have hmono : offset ws (j + 1) ≤ offset ws ws.length := offset_mono hj
    rw [List.length_replicate, length_rule]
    omega

/-! ## The lines of rows -/

section Rows

variable {rows : List (List String)} {cells : List String}

lemma row_eq (ws : List Nat) (cells : List String) :
    row ws cells =
      trimEnd (gap.intercalate (filled ws ((cells.take ws.length).map String.toList))) := by
  rw [List.map_take, filled_take, row, filled, List.zipWith_map_right]
  rfl

lemma Fits.areWithin (h : Fits ws rows) (hcells : cells ∈ rows) :
    AreWithin ws ((cells.take ws.length).map String.toList) := by
  intro j w piece hw hpiece
  rw [List.getElem?_map] at hpiece
  obtain ⟨cell, hcell, rfl⟩ := Option.map_eq_some_iff.1 hpiece
  obtain ⟨hj, -⟩ := List.getElem?_eq_some_iff.1 hw
  rw [List.getElem?_take_of_lt hj] at hcell
  rw [String.length_toList]
  exact h.length_le hcells hw hcell

lemma Fits.isRow (h : Fits ws rows) (hcells : cells ∈ rows) :
    IsRow ws cells (String.ofList (row ws cells)) := by
  obtain ⟨rest, hfull, hrest⟩ :=
    exists_eq_trimEnd (spaced ws ((cells.take ws.length).map String.toList))
  refine ⟨_, rest, holds_spaced (h.areWithin hcells) (by simp), ?_, hrest, ?_⟩
  · rw [String.toList_ofList, row_eq, trimEnd_filled, ← hfull]
  · rw [String.toList_ofList, row_eq]
    exact getLast?_trimEnd

/-- A row ends with one of the columns, or before. -/
lemma Fits.length_row_le (h : Fits ws rows) (hcells : cells ∈ rows) :
    (row ws cells).length ≤ (rule ws).length := by
  have hpieces : ((cells.take ws.length).map String.toList).length ≤ ws.length := by simp
  obtain ⟨rest, hfull, -⟩ := exists_eq_trimEnd
    (gap.intercalate (filled ws ((cells.take ws.length).map String.toList)))
  have hlength := length_intercalate_filled (h.areWithin hcells) hpieces
  rw [hfull, ← row_eq, List.length_append] at hlength
  have hmono : offset ws _ ≤ offset ws _ := offset_mono hpieces
  rw [length_rule]
  omega

end Rows

lemma lines_eq (t : Table) :
    t.lines = String.ofList (row t.widths t.headers) :: String.ofList (rule t.widths) ::
      t.rows.map fun cells => String.ofList (row t.widths cells) := by
  rw [lines, List.map_cons, List.map_cons, List.map_map]
  rfl

lemma forall₂_isRow (t : Table) :
    List.Forall₂ (IsRow t.widths) t.rows
      (t.rows.map fun cells => String.ofList (row t.widths cells)) := by
  rw [List.forall₂_map_right_iff]
  exact List.forall₂_same.2 fun cells hcells =>
    (fits_widths t).isRow (List.mem_cons_of_mem _ hcells)

lemma shows_lines (t : Table) : t.Shows t.widths t.lines := by
  have hfits := fits_widths t
  refine ⟨length_widths t, hfits, _, _, _, lines_eq t, hfits.isRow (List.mem_cons_self ..),
    isRule_rule t.widths, forall₂_isRow t, ?_⟩
  intro line hline
  obtain ⟨chars, hchars, rfl⟩ := List.mem_map.1 hline
  rw [← String.length_toList, ← String.length_toList, String.toList_ofList,
    String.toList_ofList]
  rcases List.mem_cons.1 hchars with rfl | hchars
  · exact hfits.length_row_le (List.mem_cons_self ..)
  rcases List.mem_cons.1 hchars with rfl | hchars
  · exact Nat.le_refl _
  · obtain ⟨cells, hcells, rfl⟩ := List.mem_map.1 hchars
    exact hfits.length_row_le (List.mem_cons_of_mem _ hcells)

/-! ## Tables that are too wide -/

/-- A cell that has a column, or a header, is longer than a column can be wide. -/
def IsTooWide (t : Table) : Prop :=
  ∃ j < t.headers.length, ∃ cell ∈ column (t.headers :: t.rows) j, maxWidth < cell.length

lemma isTooWide_iff {t : Table} : t.IsTooWide ↔ ∃ w ∈ t.widths, maxWidth < w := by
  have hfits := fits_widths t
  constructor
  · rintro ⟨j, hj, cell, hcell, hwide⟩
    rw [← length_widths] at hj
    have hle : cell.length ≤ t.widths[j] :=
      (hfits j _ (List.getElem?_eq_getElem hj)).2 ⟨cell, hcell, rfl⟩
    exact ⟨t.widths[j], List.getElem_mem hj, Nat.lt_of_lt_of_le hwide hle⟩
  · rintro ⟨w, hw, hwide⟩
    obtain ⟨j, hj, rfl⟩ := List.getElem_of_mem hw
    obtain ⟨cell, hcell, hlength⟩ := (hfits j _ (List.getElem?_eq_getElem hj)).1
    rw [length_widths] at hj
    exact ⟨j, hj, cell, hcell, by rwa [hlength]⟩

lemma lines?_eq_none_iff {t : Table} : t.lines? = none ↔ t.IsTooWide := by
  simp [lines?, isTooWide_iff]

lemma eq_lines_of_lines? {t : Table} {lines : List String} (h : t.lines? = some lines) :
    lines = t.lines := by
  rw [lines?] at h
  split at h
  · exact (Option.some.inj h).symm
  · cases h

lemma lines?_of_not_isTooWide {t : Table} (h : ¬ t.IsTooWide) : t.lines? = some t.lines := by
  rw [lines?, if_pos]
  simpa [isTooWide_iff] using h

/-- The lines of every table that can be written show it in columns: one line for the headers, one
of dashes, and one for each row in order.  Each column is as wide as its longest cell and begins at
the same place in all lines, every cell that has a column stands there uncut, with blanks around it,
and only blanks at the end of a line are cut off.  A table can be written unless a cell that has a
column is too long. -/
theorem lines_in_columns (t : Table) :
    (¬ t.IsTooWide ∧ ∃ ws lines, t.lines? = some lines ∧ t.Shows ws lines) ∨
      t.IsTooWide ∧ t.lines? = none := by
  by_cases hwide : t.IsTooWide
  · exact .inr ⟨hwide, lines?_eq_none_iff.2 hwide⟩
  · exact .inl ⟨hwide, _, _, lines?_of_not_isTooWide hwide, shows_lines t⟩

/-- A character counts once, however many bytes it has, and a cell without a column is left out. -/
example : lines ⟨["SETTING", "VALUE"], [["token", "xoxb…abcd", "left out"], ["ref"]]⟩ =
    ["SETTING  VALUE", "-------  ---------", "token    xoxb…abcd", "ref"] := by
  decide +kernel

/-- A table with one cell of some length. -/
def tableOfLength (n : Nat) : Table := ⟨["VALUE"], [[String.ofList (List.replicate n 'a')]]⟩

lemma isTooWide_tableOfLength {n : Nat} (hn : maxWidth < n) : (tableOfLength n).IsTooWide := by
  refine ⟨0, Nat.zero_lt_one, String.ofList (List.replicate n 'a'), ?_, ?_⟩
  · exact List.mem_cons_of_mem _ (List.mem_cons_self ..)
  · rwa [String.length_ofList, List.length_replicate]

/-- A table with one column of a header and one cell has no lines if the cell is too long. -/
theorem wide_table_not_written : (tableOfLength 70000).lines? = none :=
  lines?_eq_none_iff.2 (isTooWide_tableOfLength (by decide))

end ChatRelay.Table
