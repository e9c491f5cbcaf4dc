import Almanac.Table
import Mathlib.Data.List.DropRight
import Mathlib.Data.List.Forall2
import Mathlib.Data.List.SplitBy

/-! Reading a drawn table.

The rule on top tells how wide the columns are, so a line is cut by columns of the screen, whatever
stands in it (`readLine_line`). No rule separates the rows; but where the first cell of every row is
one line that shows something, a line begins a row exactly when it shows something in its first
column (`splitBy_rows`). The cells are then read back up to what a table does not show: blanks at
the end of a line, and empty lines at the end of a cell (`read_lines`). -/
namespace Almanac.Table

/-! ### What a table shows -/

/-- A line without the blanks at its end. -/
def shownLine (line : List Char) : List Char :=
  line.rdropWhile (· == ' ')

/-- A cell without the blanks at the ends of its lines and without the empty lines at its own. -/
def Cell.shown (c : Cell) : Cell :=
  (c.map shownLine).rdropWhile List.isEmpty

/-- The lines of a text that show, in the same sense. -/
def shown (text : String) : List (List Char) :=
  ((text.toList.splitOn '\n').map shownLine).rdropWhile List.isEmpty

section Word
variable {text : String} (some_ : text.toList ≠ []) (blank : ' ' ∉ text.toList)

theorem shownLine_eq_self {line : List Char} (blank : ' ' ∉ line) : shownLine line = line :=
  List.rdropWhile_eq_self_iff.2 fun some_ last =>
    blank (beq_iff_eq.1 last ▸ List.getLast_mem some_)

include some_ blank

/-- A text without blanks and line ends is shown as it is. -/
theorem shown_word (newline : '\n' ∉ text.toList) : shown text = [text.toList] := by
  rw [shown, List.splitOn_eq_singleton newline, List.map_singleton, shownLine_eq_self blank]
  exact List.rdropWhile_eq_self_iff.2 fun _ empty => some_ (List.isEmpty_iff.1 empty)

end Word

/-! ### The reader -/

/-- A line before and after a column of the screen. -/
def cut (column : Nat) : List Char → List Char × List Char
  | [] => ([], [])
  | c :: cs =>
    if column = 0 then ([], c :: cs)
    else
      let (before, after) := cut (column - charWidth c) cs
      (c :: before, after)

/-- How many columns of the screen each column of the table takes, by the rule on top. -/
def readRule (rule : List Char) : List Nat :=
  ((rule.drop 1).dropLast.splitOn '┬').map List.length

/-- What a line shows in each column of the table. -/
def readLine : List Nat → List Char → List (List Char)
  | [], _ => []
  | columns :: rest, cs =>
    let (part, cs) := cut columns (cs.drop 1)
    shownLine (part.drop 1) :: readLine rest cs

/-- The cells of a row of so many columns, from its lines. -/
def readRow (columns : Nat) (lines : List (List (List Char))) : List Cell :=
  (List.range columns).map fun n =>
    (lines.map fun parts => (parts[n]?).getD []).rdropWhile List.isEmpty

/-- Whether a line goes on with the row before it. -/
def goesOn (line : List (List Char)) : Bool :=
  line.head? == some []

/-- The rows of a drawn table. -/
def read (text : String) : List (List Cell) :=
  match text.toList.splitOn '\n' with
  | [] => []
  | rule :: drawn =>
    let columns := readRule rule
    let body := ((drawn.dropWhile (·.head? != some '├')).drop 1).takeWhile (·.head? == some '│')
    ((body.map (readLine columns)).splitBy fun _ next => goesOn next).map
      (readRow columns.length)

/-! ### Lists -/

theorem rdropWhile_append_of_pos {α : Type} {p : α → Bool} {xs ys : List α}
    (h : ∀ y ∈ ys, p y = true) : (xs ++ ys).rdropWhile p = xs.rdropWhile p := by
  rw [List.rdropWhile, List.reverse_append,
    List.dropWhile_append_of_pos fun y hy => h y (List.mem_reverse.1 hy), List.rdropWhile]

theorem le_foldl_max {ns : List Nat} {n least : Nat} (h : n ∈ ns ∨ n ≤ least) :
    n ≤ ns.foldl max least := by
  induction ns generalizing least with
  | nil => simpa using h
  | cons m ns ih =>
    refine ih ?_
    obtain h | h := h
    · obtain rfl | h := List.mem_cons.1 h
      · exact .inr (Nat.le_max_right _ _)
      · exact .inl h
    · exact .inr (Nat.le_trans h (Nat.le_max_left _ _))

/-- A piece of a text holds no separator. -/
theorem notMem_of_mem_splitOn {α : Type} [DecidableEq α] {separator : α} {xs piece : List α}
    (h : piece ∈ xs.splitOn separator) : separator ∉ piece := by
  induction xs generalizing piece with
  | nil =>
    rw [List.splitOn_nil, List.mem_singleton] at h
    simp [h]
  | cons x xs ih =>
    rw [List.splitOn_cons_eq_if_modifyHead] at h
    split at h
    · obtain rfl | h := List.mem_cons.1 h
      · exact List.not_mem_nil
      · exact ih h
    · next other =>
      have differ : separator ≠ x := fun same => other (by simp [same])
      obtain ⟨first, rest, eq⟩ := List.exists_cons_of_ne_nil (List.splitOn_ne_nil separator xs)
      rw [eq, List.modifyHead_cons, List.mem_cons] at h
      rw [eq] at ih
      obtain rfl | h := h
      · exact List.not_mem_cons_of_ne_of_not_mem differ (ih List.mem_cons_self)
      · exact ih (List.mem_cons_of_mem _ h)

/-! ### Lines -/

theorem charWidth_pos (c : Char) : 0 < charWidth c := by
  unfold charWidth
  split <;> decide

@[simp] theorem width_nil : width [] = 0 := rfl

@[simp] theorem width_cons (c : Char) (cs : List Char) :
    width (c :: cs) = charWidth c + width cs := rfl

@[simp] theorem width_append (cs ds : List Char) : width (cs ++ ds) = width cs + width ds := by
  induction cs with
  | nil => simp
  | cons c cs ih => simp [ih, Nat.add_assoc]

theorem width_replicate (n : Nat) : width (List.replicate n ' ') = n := by
  induction n with
  | zero => rfl
  | succ n ih =>
    rw [List.replicate_succ, width_cons, ih]
    exact Nat.add_comm 1 n

theorem width_padded {columns : Nat} {line : List Char} (h : width line ≤ columns) :
    width (padded columns line) = columns + 2 := by
  have blank : charWidth ' ' = 1 := rfl
  rw [padded, List.cons_append, width_cons, width_append, width_replicate, blank]
  omega

theorem shownLine_padded (columns : Nat) (line : List Char) :
    shownLine ((padded columns line).drop 1) = shownLine line :=
  rdropWhile_append_of_pos fun c hc => by simp [List.eq_of_mem_replicate hc]

/-- A line is cut after a part that reaches the column. -/
theorem cut_append (part rest : List Char) : cut (width part) (part ++ rest) = (part, rest) := by
  induction part with
  | nil => cases rest <;> rfl
  | cons c part ih =>
    have wide : width (c :: part) ≠ 0 := by
      have := charWidth_pos c
      rw [width_cons]
      omega
    rw [List.cons_append, cut, if_neg wide, width_cons, Nat.add_sub_cancel_left, ih]

theorem line_cons (f : Frame) (part : List Char) (parts : List (List Char)) :
    f.line (part :: parts) =
      f.opening :: part ++ parts.flatMap (f.divider :: ·) ++ [f.closing] := by
  have joined : List.intercalate [f.divider] (part :: parts) =
      part ++ parts.flatMap (f.divider :: ·) := by
    induction parts generalizing part with
    | nil => simp
    | cons next parts ih => simp [List.intercalate_cons_cons, ih]
  rw [Frame.line, joined]
  rfl

/-- Lines that fit their columns. -/
def Fits : List Nat → List (List Char) → Prop :=
  List.Forall₂ fun columns line => width line ≤ columns

/-- A drawn line is read, whatever stands in it. -/
theorem readLine_line {widths : List Nat} {lines : List (List Char)} (h : Fits widths lines) :
    readLine (widths.map (· + 2)) (sides.line (List.zipWith padded widths lines)) =
      lines.map shownLine := by
  have parts (rest : List Char) : readLine (widths.map (· + 2))
      ((List.zipWith padded widths lines).flatMap ('│' :: ·) ++ rest) = lines.map shownLine := by
    induction h with
    | nil => rfl
    | @cons columns line widths lines fits _ ih =>
      rw [List.map_cons, List.zipWith_cons_cons, List.flatMap_cons, List.append_assoc,
        List.cons_append, readLine, List.drop_succ_cons, List.drop_zero, ← width_padded fits,
        cut_append]
      show shownLine ((padded columns line).drop 1) :: readLine _ _ = _
      rw [shownLine_padded, ih, List.map_cons]
  cases h with
  | nil => rfl
  | cons fits h =>
    rw [List.zipWith_cons_cons, line_cons]
    exact parts ['│']

/-! ### Rows -/

/-- A line of a cell; a cell that is too low for it shows nothing there. -/
def Cell.line (lines : Cell) (n : Nat) : List Char :=
  (lines[n]?).getD []

/-- Cells that fit their columns. -/
def RowFits : List Nat → List Cell → Prop :=
  List.Forall₂ fun columns c => c.width ≤ columns

theorem width_line_le (lines : Cell) (n : Nat) : Table.width (lines.line n) ≤ lines.width := by
  unfold Cell.line
  cases h : lines[n]? with
  | none => exact Nat.zero_le _
  | some line => exact le_foldl_max (.inl (List.mem_map_of_mem (List.mem_of_getElem? h)))

theorem RowFits.line {widths : List Nat} {row : List Cell} (h : RowFits widths row) (n : Nat) :
    Fits widths (row.map (Cell.line · n)) :=
  List.forall₂_map_right_iff.2 (h.imp fun _ c fits => Nat.le_trans (width_line_le c n) fits)

/-- The number of lines of a row. -/
def height (row : List Cell) : Nat :=
  (row.map List.length).foldl max 0

/-- What the lines of a row show. -/
def rowShows (row : List Cell) : List (List (List Char)) :=
  (List.range (height row)).map fun n => row.map fun c => shownLine (c.line n)

theorem map_readLine_rowLines {widths : List Nat} {row : List Cell} (h : RowFits widths row) :
    (rowLines widths row).map (readLine (widths.map (· + 2))) = rowShows row := by
  rw [rowLines, List.map_map, rowShows]
  refine List.map_congr_left fun n _ => ?_
  show readLine _ (sides.line (List.zipWith padded widths (row.map (Cell.line · n)))) = _
  rw [readLine_line (h.line n), List.map_map]
  rfl

/-- A cell with empty lines below it, up to a height. -/
theorem map_line_range {c : Cell} {height : Nat} (h : c.length ≤ height) :
    (List.range height).map c.line = c ++ List.replicate (height - c.length) [] := by
  refine List.ext_getElem (by simp [h]) fun n _ _ => ?_
  rw [List.getElem_map, List.getElem_range, Cell.line]
  by_cases inside : n < c.length
  · rw [List.getElem_append_left inside, List.getElem?_eq_getElem inside]
    rfl
  · have below := Nat.not_lt.1 inside
    rw [List.getElem_append_right below, List.getElem_replicate, List.getElem?_eq_none below]
    rfl

theorem shown_of_lines {c : Cell} {height : Nat} (h : c.length ≤ height) :
    ((List.range height).map fun n => shownLine (c.line n)).rdropWhile List.isEmpty = c.shown := by
  have lines : ((List.range height).map fun n => shownLine (c.line n)) =
      c.map shownLine ++ List.replicate (height - c.length) [] := by
    have filled := congrArg (List.map shownLine) (map_line_range h)
    rw [List.map_map, List.map_append, List.map_replicate] at filled
    exact filled
  rw [lines, rdropWhile_append_of_pos, Cell.shown]
  intro line hline
  rw [List.eq_of_mem_replicate hline]
  rfl

theorem readRow_rowShows (row : List Cell) :
    readRow row.length (rowShows row) = row.map Cell.shown := by
  refine List.ext_getElem (by simp [readRow]) fun n h h' => ?_
  have inside : n < row.length := by simpa using h'
  have low : row[n].length ≤ height row :=
    le_foldl_max (.inl (List.mem_map_of_mem (List.getElem_mem inside)))
  simp only [readRow, rowShows, List.getElem_map, List.getElem_range, List.map_map]
  rw [← shown_of_lines low]
  congr 1
  refine List.map_congr_left fun m _ => ?_
  simp [inside]

/-! ### Where a row begins -/

/-- A row whose first cell is one line that shows something. -/
def Begins (row : List Cell) : Prop :=
  ∃ line, row.head? = some [line] ∧ shownLine line ≠ []

theorem begins_word {text : String} {texts : List String} (some_ : text.toList ≠ [])
    (blank : ' ' ∉ text.toList) (newline : '\n' ∉ text.toList) :
    Begins ((text :: texts).map cell) := by
  refine ⟨text.toList, congrArg some (List.splitOn_eq_singleton newline), ?_⟩
  rwa [shownLine_eq_self blank]

theorem exists_rowShows {row : List Cell} (h : Begins row) :
    ∃ first rest, rowShows row = first :: rest ∧ goesOn first = false ∧
      ∀ line ∈ rest, goesOn line = true := by
  obtain ⟨line, begins, shows⟩ := h
  have low : 1 ≤ height row :=
    le_foldl_max (.inl (List.mem_map_of_mem (List.mem_of_head? begins)))
  have front (n : Nat) : (row.map fun c => shownLine (c.line n)).head? =
      some (shownLine (Cell.line [line] n)) := by
    rw [List.head?_map, begins]
    rfl
  obtain ⟨rest, eq⟩ := Nat.exists_eq_add_of_le' low
  refine ⟨row.map fun c => shownLine (c.line 0),
    (List.range rest).map fun n => row.map fun c => shownLine (c.line (n + 1)), ?_, ?_, ?_⟩
  · rw [rowShows, eq, List.range_succ_eq_map, List.map_cons, List.map_map]
    rfl
  · have visible : Cell.line [line] 0 = line := rfl
    rw [goesOn, front, visible]
    simpa using shows
  · intro cells hcells
    obtain ⟨n, -, rfl⟩ := List.mem_map.1 hcells
    rw [goesOn, front]
    rfl

theorem splitBy_rows {rows : List (List Cell)} (h : ∀ row ∈ rows, Begins row) :
    ((rows.map rowShows).flatten.splitBy fun _ next => goesOn next) = rows.map rowShows := by
  have begins : ∀ lines ∈ rows.map rowShows, ∃ first rest, lines = first :: rest ∧
      goesOn first = false ∧ ∀ line ∈ rest, goesOn line = true :=
    List.forall_mem_map.2 fun row hrow => exists_rowShows (h row hrow)
  refine List.splitBy_flatten ?_ ?_ ?_
  · intro empty
    obtain ⟨_, _, eq, -⟩ := begins _ empty
    cases eq
  · intro lines hlines
    obtain ⟨first, rest, rfl, -, goes⟩ := begins lines hlines
    refine List.Pairwise.isChain (List.pairwise_cons.2 ⟨fun line => goes line, ?_⟩)
    exact List.pairwise_of_forall_mem_list fun _ _ line hline => goes line hline
  · refine List.Pairwise.isChain ?_
    refine List.pairwise_of_forall_mem_list fun above hAbove below hBelow => ?_
    obtain ⟨_, _, rfl, -, -⟩ := begins above hAbove
    obtain ⟨_, _, rfl, first, -⟩ := begins below hBelow
    exact ⟨List.cons_ne_nil _ _, List.cons_ne_nil _ _, first⟩

/-! ### Tables -/

theorem rowFits_widths {columns : Nat} {rows : List (List Cell)} {row : List Cell}
    (mem : row ∈ rows) (length : row.length = columns) : RowFits (widths columns rows) row := by
  refine List.forall₂_iff_get.2 ⟨by simp [widths, length], fun n h h' => ?_⟩
  have widest : row[n].width ∈ rows.map fun row => (row[n]?).elim 0 Cell.width :=
    List.mem_map.2 ⟨row, mem, by simp [h']⟩
  simpa [widths] using le_foldl_max (.inl widest)

/-- The lines of a table with columns of given widths. -/
def drawn (widths : List Nat) (head : List Cell) (rows : List (List Cell)) : List (List Char) :=
  top.rule widths :: rowLines widths head ++ middle.rule widths ::
    rows.flatMap (rowLines widths) ++ [bottom.rule widths]

theorem mem_line {f : Frame} {parts : List (List Char)} {c : Char} (h : c ∈ f.line parts) :
    c ∈ [f.opening, f.divider, f.closing] ∨ ∃ part ∈ parts, c ∈ part := by
  cases parts with
  | nil =>
    obtain rfl | h := List.mem_cons.1 h
    · simp
    · obtain rfl := List.mem_singleton.1 h
      simp
  | cons part parts =>
    simp only [line_cons, List.cons_append, List.mem_cons, List.mem_append, List.mem_flatMap,
      List.not_mem_nil, or_false] at h
    obtain h | (h | ⟨part', hpart, h | h⟩) | h := h
    · simp [h]
    · exact .inr ⟨part, List.mem_cons_self, h⟩
    · simp [h]
    · exact .inr ⟨part', List.mem_cons_of_mem _ hpart, h⟩
    · simp [h]

theorem readRule_rule {widths : List Nat} (columns : widths ≠ []) :
    readRule (top.rule widths) = widths.map (· + 2) := by
  have parts : ∀ part ∈ widths.map fun w => List.replicate (w + 2) '─', '┬' ∉ part :=
    List.forall_mem_map.2 fun w _ h => absurd (List.eq_of_mem_replicate h) (by decide)
  have inside : ((top.rule widths).drop 1).dropLast =
      ['┬'].intercalate (widths.map fun w => List.replicate (w + 2) '─') := List.dropLast_concat
  rw [readRule, inside, List.splitOn_intercalate _ parts (by simpa using columns), List.map_map]
  exact List.map_congr_left fun w _ => List.length_replicate

/-- Cells are cut at the line ends, so that none is left in a line. -/
theorem notMem_rowLines {widths : List Nat} {row : List Cell}
    (h : ∀ c ∈ row, ∀ line ∈ c, '\n' ∉ line) : ∀ line ∈ rowLines widths row, '\n' ∉ line := by
  have inCell (n : Nat) : ∀ line ∈ row.map (Cell.line · n), '\n' ∉ line := by
    refine List.forall_mem_map.2 fun lines hlines => ?_
    unfold Cell.line
    cases found : lines[n]? with
    | none => exact List.not_mem_nil
    | some line => exact h lines hlines line (List.mem_of_getElem? found)
  refine List.forall_mem_map.2 fun n _ newline => ?_
  obtain h | ⟨part, hpart, h⟩ := mem_line newline
  · exact absurd h (by decide)
  · obtain ⟨m, hm, rfl⟩ := List.getElem_of_mem hpart
    rw [List.getElem_zipWith, padded] at h
    obtain h | h := List.mem_append.1 h
    · obtain h | h := List.mem_cons.1 h
      · exact absurd h (by decide)
      · exact inCell n _ (List.getElem_mem _) h
    · exact absurd (List.eq_of_mem_replicate h) (by decide)

theorem notMem_rule {f : Frame} (frame : '\n' ∉ [f.opening, f.divider, f.closing])
    (widths : List Nat) : '\n' ∉ f.rule widths := by
  intro newline
  obtain h | ⟨part, hpart, h⟩ := mem_line newline
  · exact frame h
  · obtain ⟨w, -, rfl⟩ := List.mem_map.1 hpart
    exact absurd (List.eq_of_mem_replicate h) (by decide)

theorem notMem_drawn {widths : List Nat} {head : List Cell} {rows : List (List Cell)}
    (h : ∀ row ∈ head :: rows, ∀ c ∈ row, ∀ line ∈ c, '\n' ∉ line) :
    ∀ line ∈ drawn widths head rows, '\n' ∉ line := by
  obtain ⟨hHead, hRows⟩ := List.forall_mem_cons.1 h
  have rowsLines : ∀ line ∈ rows.flatMap (rowLines widths), '\n' ∉ line := by
    intro line hline
    obtain ⟨row, hrow, hline⟩ := List.mem_flatMap.1 hline
    exact notMem_rowLines (hRows row hrow) line hline
  simp only [drawn, List.cons_append, List.append_assoc, List.forall_mem_cons,
    List.forall_mem_append]
  exact ⟨notMem_rule (by decide) _, notMem_rowLines hHead, notMem_rule (by decide) _, rowsLines,
    notMem_rule (by decide) _, List.forall_mem_nil _⟩

theorem head?_of_mem_rowLines {widths : List Nat} {row : List Cell} {line : List Char}
    (h : line ∈ rowLines widths row) : line.head? = some '│' := by
  obtain ⟨n, -, rfl⟩ := List.mem_map.1 h
  rfl

/-- The lines of the rows stand between the rule below the head and that at the bottom. -/
theorem body_drawn (widths : List Nat) (head : List Cell) (rows : List (List Cell)) :
    (((drawn widths head rows).tail.dropWhile (·.head? != some '├')).drop 1).takeWhile
      (·.head? == some '│') = rows.flatMap (rowLines widths) := by
  have inHead : ∀ line ∈ rowLines widths head, (line.head? != some '├') = true :=
    fun line hline => by rw [head?_of_mem_rowLines hline]; decide
  have inRows : ∀ line ∈ rows.flatMap (rowLines widths), (line.head? == some '│') = true := by
    intro line hline
    obtain ⟨row, -, hline⟩ := List.mem_flatMap.1 hline
    rw [head?_of_mem_rowLines hline]
    rfl
  have rule : ((middle.rule widths).head? != some '├') = false := rfl
  have end_ : ((bottom.rule widths).head? == some '│') = false := rfl
  have below : (drawn widths head rows).tail = rowLines widths head ++
      middle.rule widths :: (rows.flatMap (rowLines widths) ++ [bottom.rule widths]) :=
    List.append_assoc _ _ _
  rw [below, List.dropWhile_append_of_pos inHead, List.dropWhile_cons, rule]
  show List.takeWhile _ (_ ++ _) = _
  rw [List.takeWhile_append_of_pos inRows, List.takeWhile_cons, end_]
  exact List.append_nil _

/-- What is drawn in columns that are wide enough is read back. -/
theorem read_drawn {widths : List Nat} {head : List Cell} {rows : List (List Cell)}
    (columns : widths ≠ []) (fits : ∀ row ∈ rows, RowFits widths row)
    (begins : ∀ row ∈ rows, Begins row)
    (clean : ∀ row ∈ head :: rows, ∀ c ∈ row, ∀ line ∈ c, '\n' ∉ line) :
    read (String.ofList (['\n'].intercalate (drawn widths head rows))) =
      rows.map (·.map Cell.shown) := by
  have written : (['\n'].intercalate (drawn widths head rows)).splitOn '\n' =
      top.rule widths :: (drawn widths head rows).tail :=
    List.splitOn_intercalate _ (notMem_drawn clean) (List.cons_ne_nil _ _)
  have shows : (rows.flatMap (rowLines widths)).map (readLine (widths.map (· + 2))) =
      (rows.map rowShows).flatten := by
    rw [List.map_flatMap, List.flatMap_def]
    exact congrArg List.flatten
      (List.map_congr_left fun row hrow => map_readLine_rowLines (fits row hrow))
  rw [read, String.toList_ofList, written]
  dsimp only
  rw [body_drawn, readRule_rule columns, shows, splitBy_rows begins, List.map_map, List.length_map]
  refine List.map_congr_left fun row hrow => ?_
  rw [(fits row hrow).length_eq]
  exact readRow_rowShows row

/-- **Reading a table.** The cells of a table are read from its drawing, up to what it does not
show, if every row has a cell for each column and begins with one line that shows something. -/
theorem read_lines {head : List String} {rows : List (List String)} (columns : head ≠ [])
    (h : ∀ row ∈ rows, row.length = head.length ∧ Begins (row.map cell)) :
    read (String.intercalate "\n" (lines head rows)) =
      rows.map fun row => row.map shown := by
  let ws := widths (head.map cell).length (head.map cell :: rows.map (·.map cell))
  have wide : ws ≠ [] := by simpa [ws, widths] using columns
  have fits : ∀ row ∈ rows.map (·.map cell), RowFits ws row :=
    List.forall_mem_map.2 fun row hrow => rowFits_widths
      (List.mem_cons_of_mem _ (List.mem_map_of_mem hrow)) (by simp [(h row hrow).1])
  have clean : ∀ row ∈ head.map cell :: rows.map (·.map cell), ∀ c ∈ row, ∀ line ∈ c,
      '\n' ∉ line := by
    rw [← List.map_cons]
    refine List.forall_mem_map.2 fun row _ => List.forall_mem_map.2 fun text _ => ?_
    exact fun line => notMem_of_mem_splitOn
  have drawing : (lines head rows).map String.toList =
      drawn ws (head.map cell) (rows.map (·.map cell)) := by
    show ((drawn ws _ _).map String.ofList).map String.toList = _
    rw [List.map_map]
    exact List.map_id'' (fun _ => String.toList_ofList) _
  have text : String.intercalate "\n" (lines head rows) =
      String.ofList (['\n'].intercalate (drawn ws (head.map cell) (rows.map (·.map cell)))) := by
    rw [← String.toList_inj, String.toList_intercalate, drawing]
    exact String.toList_ofList.symm
  rw [text, read_drawn wide fits (List.forall_mem_map.2 fun row hrow => (h row hrow).2) clean,
    List.map_map]
  exact List.map_congr_left fun row _ => List.map_map

/-- A side of the frame may stand in a cell. -/
example : read (String.intercalate "\n" (lines ["A", "B"] [["1", "│\n c "]])) =
    [[[['1']], [['│'], [' ', 'c']]]] := by
  decide +kernel

end Almanac.Table
