/-
# FreshBuild.Proofs.Toml.Sheet — documents that are written and read back.

A sheet is a document of the plainest kind: fields, one to a line, and after them sections with fields
of their own. `Sheet.tree` is the table that it means, and `Sheet.text` its text. The reader works in
two passes, and so does the proof that it finds the tree in the text (`Sheet.read?_text`):

* the text is a list of lines, and each is read as the statement it was written for
  (`Style.statements_lines`);
* the statements enter the fields at the end of the table that is open. Nothing is refused, since no
  key is met twice (`enter_fields`, `enter_sections`).
-/
import FreshBuild.Proofs.Toml.Distinct
import FreshBuild.Proofs.Toml.Written

namespace FreshBuild.Toml

/-! ## Keys -/

/-- A key that needs no quotes. -/
structure IsBareKey (name : String) : Prop where
  ne_nil : name.toList ≠ []
  bare : ∀ c ∈ name.toList, isBare c = true

instance (name : String) : Decidable (IsBareKey name) :=
  decidable_of_iff (name.toList ≠ [] ∧ name.toList.all isBare = true)
    ⟨fun ⟨hne, hbare⟩ => ⟨hne, List.all_eq_true.mp hbare⟩,
      fun h => ⟨h.ne_nil, List.all_eq_true.mpr h.bare⟩⟩

theorem IsBareKey.exists_cons {name : String} (h : IsBareKey name) :
    ∃ c cs, name.toList = c :: cs ∧ isBare c = true := by
  obtain ⟨c, cs, hcs⟩ := List.exists_cons_of_ne_nil h.ne_nil
  exact ⟨c, cs, hcs, h.bare c (hcs ▸ List.mem_cons_self)⟩

/-- A character of a bare key has no other meaning at the start of a line. -/
theorem start_of_isBare {c : Char} (h : isBare c = true) :
    isFiller c = false ∧ c ≠ '[' ∧ c ≠ '\uFEFF' := by
  refine ⟨?_, ne_of_class h rfl, ne_of_class h rfl⟩
  simp only [isFiller, isBlank, Bool.or_eq_false_iff, beq_eq_false_iff_ne]
  refine ⟨⟨⟨⟨?_, ?_⟩, ?_⟩, ?_⟩, ?_⟩ <;> exact ne_of_class h rfl

/-- A bare key ends where something else begins, and is all of its path unless a dot follows. -/
theorem key_bare {name : String} (hname : IsBareKey name) {c d : Char} {rest after : List Char}
    (hc : isBare c = false) (hafter : skipBlanks (c :: rest) = d :: after) (hdot : d ≠ '.') :
    key (name.toList ++ c :: rest) = some (⟨[], name⟩, c :: rest) := by
  have htake : (name.toList ++ c :: rest).takeWhile isBare = name.toList := by
    rw [List.takeWhile_append_of_pos hname.bare, List.takeWhile_cons, hc]
    exact List.append_nil _
  have hdrop : (name.toList ++ c :: rest).dropWhile isBare = c :: rest := by
    rw [List.dropWhile_append_of_pos hname.bare, List.dropWhile_cons, hc]
    rfl
  have hsimple : simpleKey (name.toList ++ c :: rest) = some (name, c :: rest) := by
    rw [simpleKey, htake, hdrop]
    split
    · rename_i hnil
      exact absurd hnil hname.ne_nil
    · rw [String.ofList_toList]
  rw [key, keyPath, hsimple]
  simp only [hafter]
  split
  · rename_i heq
    exact absurd (List.cons.inj heq).1 hdot
  · rfl

/-! ## Lines -/

/-- A line of a sheet. -/
inductive Line where
  | field (name : String) (v : Plain)
  | header (name : String)

def Line.name : Line → String
  | .field name _ => name
  | .header name => name

/-- What the reader makes of a line. -/
def Line.statement : Line → Statement
  | .field name v => .assign ⟨[], name⟩ v.value
  | .header name => .table ⟨[], name⟩

/-- A line without its end. -/
def Style.line (style : Style) : Line → List Char
  | .field name v => name.toList ++ ' ' :: '=' :: ' ' :: style.plain v
  | .header name => '[' :: (name.toList ++ [']'])

/-- A written value does not start with a blank. -/
theorem Style.skipBlanks_plain (style : Style) (v : Plain) (rest : List Char) :
    skipBlanks (' ' :: (style.plain v ++ rest)) = style.plain v ++ rest := by
  have hstart : ∀ {c : Char} {cs : List Char}, isBlank c = false →
      skipBlanks (' ' :: c :: cs) = c :: cs := by
    intro c cs hc
    rw [skipBlanks, List.dropWhile_cons_of_pos (by decide), List.dropWhile_cons_of_neg (by simp [hc])]
  cases v with
  | text s => exact hstart rfl
  | number n =>
      obtain ⟨c, cs, hcs⟩ := List.exists_cons_of_ne_nil (Digits.decimal_ne_nil n)
      have hdigit : c.isDigit = true :=
        Digits.isDigit_of_mem_decimal (hcs ▸ List.mem_cons_self)
      have hblank : isBlank c = false := by
        refine (inside_of_isAlphanum ?_).2.1
        rw [Char.isAlphanum, hdigit, Bool.or_true]
      rw [plain, hcs]
      exact hstart hblank
  | flag b => cases b <;> exact hstart rfl
  | texts ss => exact hstart rfl

/-- **A written field is read back** up to the end of its line. -/
theorem Style.assignment_field (style : Style) {name : String} (hname : IsBareKey name) (v : Plain)
    (rest : List Char) :
    assignment skipBlanks (value maxDepth) (style.line (.field name v) ++ '\n' :: rest) =
      some ((⟨[], name⟩, v.value), '\n' :: rest) := by
  have hkey : key (name.toList ++ ' ' :: '=' :: ' ' :: (style.plain v ++ '\n' :: rest)) =
      some (⟨[], name⟩, ' ' :: '=' :: ' ' :: (style.plain v ++ '\n' :: rest)) :=
    key_bare hname rfl rfl (by decide)
  have hsign : skipBlanks (' ' :: '=' :: ' ' :: (style.plain v ++ '\n' :: rest)) =
      '=' :: ' ' :: (style.plain v ++ '\n' :: rest) := rfl
  have hvalue : value maxDepth (skipBlanks (' ' :: (style.plain v ++ '\n' :: rest))) =
      some (v.value, '\n' :: rest) := by
    rw [style.skipBlanks_plain]
    exact style.value_plain 79 v rest
  rw [assignment, line, List.append_assoc, List.cons_append, List.cons_append, List.cons_append, hkey]
  simp only [hsign, hvalue]
  rfl

/-- **A written header is read back**, behind its opening bracket and up to the end of its line. -/
theorem headerKey_bare {name : String} (hname : IsBareKey name) (rest : List Char) :
    headerKey [']'] (name.toList ++ ']' :: rest) = some (⟨[], name⟩, rest) := by
  obtain ⟨c, cs, hcs, hbare⟩ := hname.exists_cons
  have hblank : isBlank c = false := by
    have hfiller := (start_of_isBare hbare).1
    simp only [isFiller, Bool.or_eq_false_iff] at hfiller
    exact hfiller.1.1.1
  have hskip : skipBlanks (name.toList ++ ']' :: rest) = name.toList ++ ']' :: rest := by
    rw [hcs, skipBlanks, List.cons_append, List.dropWhile_cons_of_neg (by simp [hblank])]
  have hbracket : skipBlanks (']' :: rest) = ']' :: rest := rfl
  rw [headerKey, hskip, key_bare hname rfl hbracket (by decide)]
  simp only [hbracket]
  rfl

/-- What does not start with a bracket is an assignment. -/
theorem statement_of_ne_bracket {c : Char} (h : c ≠ '[') (s : List Char) :
    statement (c :: s) = (assignment skipBlanks (value maxDepth) (c :: s)).map
      fun ((path, v), after) => (.assign path v, after) := by
  unfold statement
  split
  · rename_i heq
    exact absurd (List.cons.inj heq).1 h
  · rename_i heq
    exact absurd (List.cons.inj heq).1 h
  · rfl

/-- One bracket, and no second one, opens a header. -/
theorem statement_bracket {c : Char} (h : c ≠ '[') (s : List Char) :
    statement ('[' :: c :: s) =
      (headerKey [']'] (c :: s)).map fun (path, after) => (.table path, after) := by
  unfold statement
  split
  · rename_i heq
    exact absurd (List.cons.inj (List.cons.inj heq).2).1 h
  · rename_i heq
    rw [(List.cons.inj heq).2]
  · rename_i hne
    exact absurd rfl (hne _)

/-- **A written line is read back** as its statement. -/
theorem Style.statement_line (style : Style) {l : Line} (hname : IsBareKey l.name)
    (rest : List Char) :
    statement (style.line l ++ '\n' :: rest) = some (l.statement, '\n' :: rest) := by
  obtain ⟨c, cs, hcs, hbare⟩ := hname.exists_cons
  have hbracket : c ≠ '[' := (start_of_isBare hbare).2.1
  cases l with
  | field name v =>
      have hfield : assignment skipBlanks (value maxDepth)
          (style.line (.field name v) ++ '\n' :: rest) = some ((⟨[], name⟩, v.value), '\n' :: rest) :=
        style.assignment_field hname v rest
      have hshape : ∃ tail, style.line (.field name v) ++ '\n' :: rest = c :: tail :=
        ⟨_, congrArg (· ++ _ ++ _) hcs⟩
      obtain ⟨tail, htail⟩ := hshape
      rw [htail] at hfield ⊢
      rw [statement_of_ne_bracket hbracket, hfield]
      rfl
  | header name =>
      have hheader := headerKey_bare hname ('\n' :: rest)
      have hshape : style.line (.header name) ++ '\n' :: rest =
          '[' :: (name.toList ++ ']' :: '\n' :: rest) := by
        rw [line, List.cons_append, List.append_assoc, List.singleton_append]
      rw [hcs, List.cons_append] at hheader
      rw [hshape, show name.toList = c :: cs from hcs, List.cons_append,
        statement_bracket hbracket, hheader]
      rfl

/-- What a written line starts with begins a statement. -/
theorem Style.exists_line_start (style : Style) {l : Line} (hname : IsBareKey l.name) :
    ∃ c cs, style.line l = c :: cs ∧ isFiller c = false ∧ c ≠ '\uFEFF' := by
  obtain ⟨c, cs, hcs, hbare⟩ := hname.exists_cons
  cases l with
  | field name v =>
      obtain ⟨hfiller, -, hmark⟩ := start_of_isBare hbare
      exact ⟨c, _, congrArg (· ++ _) hcs, hfiller, hmark⟩
  | header name => exact ⟨'[', _, rfl, rfl, by decide⟩

/-- The lines of a text. -/
def Style.lines (style : Style) (ls : List Line) : List Char :=
  ls.flatMap fun l => style.line l ++ ['\n']

theorem Style.lines_cons (style : Style) (l : Line) (ls : List Line) :
    style.lines (l :: ls) = style.line l ++ '\n' :: style.lines ls := by
  rw [lines, List.flatMap_cons, List.append_assoc, List.singleton_append, lines]

theorem Style.length_le_lines (style : Style) (ls : List Line) :
    ls.length ≤ (style.lines ls).length := by
  induction ls with
  | nil => exact Nat.zero_le _
  | cons l ls ih =>
      rw [lines_cons, List.length_append, List.length_cons, List.length_cons]
      omega

/-- **Written lines are read back** as their statements. -/
theorem Style.statements_lines (style : Style) {ls : List Line}
    (hnames : ∀ l ∈ ls, IsBareKey l.name) {fuel : Nat} (hfuel : ls.length < fuel) :
    statements fuel (style.lines ls) = some (ls.map Line.statement) := by
  -- every line costs one unit of fuel, and the end of the text one more
  induction ls generalizing fuel with
  | nil =>
      obtain ⟨fuel, rfl⟩ : ∃ k, fuel = k + 1 := ⟨fuel - 1, by omega⟩
      rfl
  | cons l ls ih =>
      rw [List.length_cons] at hfuel
      obtain ⟨fuel, rfl⟩ : ∃ k, fuel = k + 1 := ⟨fuel - 1, by omega⟩
      have hname := hnames l List.mem_cons_self
      have hrest := ih (fun m hm => hnames m (List.mem_cons_of_mem l hm)) (show ls.length < fuel by omega)
      have hline := style.statement_line hname (style.lines ls)
      have hend : lineEnd? ('\n' :: style.lines ls) = some (style.lines ls) := rfl
      obtain ⟨c, cs, hcs, hfiller, -⟩ := style.exists_line_start hname
      have hskip : skipFiller false (style.line l ++ '\n' :: style.lines ls) =
          style.line l ++ '\n' :: style.lines ls := by
        rw [hcs, List.cons_append, skipFiller_of_not_isFiller hfiller]
      rw [lines_cons, statements, hskip]
      split
      · rename_i hnil
        rw [hcs] at hnil
        cases hnil
      · rw [hline]
        simp only [hend, hrest, Option.map_some, List.map_cons]

/-! ## Entering fields -/

/-- A value on its own line becomes an entry. -/
def entriesOf (fields : List (String × Plain)) : Entries :=
  fields.map fun (name, v) => (name, .value v.value)

/-- The table of the fields. -/
def tableOf (fields : List (String × Plain)) : Fields :=
  fields.map fun (name, v) => (name, v.value)

theorem finishEntries_entriesOf (fields : List (String × Plain)) :
    finishEntries (entriesOf fields) = tableOf fields := by
  rw [finishEntries_eq_map, entriesOf, tableOf, List.map_map]
  refine List.map_congr_left fun field _ => ?_
  simp only [Function.comp_apply, Node.finish]

namespace Entries

variable {entries front : Entries} {key name : String} {node old : Node}

theorem find?_eq_none_iff : entries.find? key = none ↔ key ∉ entries.map Prod.fst := by
  rw [find?, List.lookup_eq_none_iff]
  constructor
  · rintro h hmem
    obtain ⟨entry, hentry, rfl⟩ := List.mem_map.mp hmem
    simpa using h entry hentry
  · intro h entry hentry
    rw [bne_iff_ne]
    rintro rfl
    exact h (List.mem_map_of_mem hentry)

/-- The last entry is found behind others. -/
theorem find?_concat (h : key ∉ front.map Prod.fst) :
    Entries.find? (front ++ [(key, node)]) key = some node := by
  have hfront : front.lookup key = none := find?_eq_none_iff.mpr h
  rw [find?, List.lookup_append, hfront, Option.none_or, List.lookup_cons_self]

/-- The last entry is changed behind others. -/
theorem set_concat (h : key ∉ front.map Prod.fst) :
    Entries.set (front ++ [(key, old)]) key node = front ++ [(key, node)] := by
  have hfront : Entries.set front key node = front := by
    refine (List.map_congr_left fun entry hentry => ?_).trans (List.map_id front)
    have hne : entry.1 ≠ key := fun heq => h (heq ▸ List.mem_map_of_mem hentry)
    simp only [if_neg hne, id_eq]
  have hlast : Entries.set [(key, old)] key node = [(key, node)] := by
    simp only [set, List.map_cons, List.map_nil, if_true]
  rw [set, List.map_append]
  exact congrArg₂ (· ++ ·) hfront hlast

/-- A field with a new key goes to the end of the table. -/
theorem assign_fresh {v : Value} (h : key ∉ entries.map Prod.fst) :
    Entries.assign ⟨[], key⟩ v entries = some (entries ++ [(key, .value v)]) := by
  rw [assign, descend]
  simp only [find?_eq_none_iff.mpr h]
  rfl

/-- Of keys that are all different, the next one is new, and the others stay different from it. -/
theorem step_of_nodup {names : List String} (h : (entries.map Prod.fst ++ key :: names).Nodup)
    (node : Node) : key ∉ entries.map Prod.fst ∧
      ((entries ++ [(key, node)]).map Prod.fst ++ names).Nodup := by
  constructor
  · intro hmem
    exact (List.nodup_append.mp h).2.2 key hmem key List.mem_cons_self rfl
  · rw [List.map_append, List.append_assoc]
    exact h

end Entries

namespace Draft

variable {entries front inner : Entries} {key name : String} {v : Value}

/-- Before the first header a field goes to the end of the document. -/
theorem enter_top (h : key ∉ entries.map Prod.fst) :
    Draft.enter ⟨entries, []⟩ (.assign ⟨[], key⟩ v) =
      some ⟨entries ++ [(key, .value v)], []⟩ := by
  rw [enter, Entries.descend, Entries.assign_fresh h, Option.map_some]

/-- A header with a new name opens an empty section. -/
theorem enter_header (h : name ∉ entries.map Prod.fst) (opened : List String) :
    Draft.enter ⟨entries, opened⟩ (.table ⟨[], name⟩) =
      some ⟨entries ++ [(name, .table .named [])], [name]⟩ := by
  rw [enter, Entries.openTable, Entries.descend]
  simp only [Entries.find?_eq_none_iff.mpr h]
  rfl

/-- Behind a header a field goes to the end of its section. -/
theorem enter_section (hname : name ∉ front.map Prod.fst) (h : key ∉ inner.map Prod.fst) :
    Draft.enter ⟨front ++ [(name, .table .named inner)], [name]⟩ (.assign ⟨[], key⟩ v) =
      some ⟨front ++ [(name, .table .named (inner ++ [(key, .value v)]))], [name]⟩ := by
  rw [enter, Entries.descend, Entries.find?_concat hname]
  simp only [Bool.false_and, Bool.false_eq_true, if_false, Entries.descend, Entries.assign_fresh h,
    Option.map_some, Entries.set_concat hname]

/-- The statements of fields. -/
def assigns (fields : List (String × Plain)) : List Statement :=
  fields.map fun (name, v) => .assign ⟨[], name⟩ v.value

/-- **Fields with new keys go to the end of the table that is open**, one after the other. `draft` is
the document around that table. -/
theorem enter_fields (draft : Entries → Draft) {fields : List (String × Plain)}
    (hstep : ∀ {inner key v}, key ∉ inner.map Prod.fst →
      (draft inner).enter (.assign ⟨[], key⟩ v) = some (draft (inner ++ [(key, .value v)])))
    (hdistinct : (inner.map Prod.fst ++ fields.map Prod.fst).Nodup) :
    (assigns fields).foldlM Draft.enter (draft inner) = some (draft (inner ++ entriesOf fields)) := by
  induction fields generalizing inner with
  | nil => rw [entriesOf, List.map_nil, List.append_nil]; rfl
  | cons field fields ih =>
      obtain ⟨key, v⟩ := field
      obtain ⟨hnew, hrest⟩ := Entries.step_of_nodup hdistinct (.value v.value)
      rw [assigns, List.map_cons, List.foldlM_cons, hstep hnew]
      refine (ih hrest).trans ?_
      rw [List.append_assoc]
      rfl

end Draft

/-! ## Sheets -/

/-- A document of fields and, behind them, sections of fields. -/
structure Sheet where
  fields : List (String × Plain)
  sections : List (String × List (String × Plain))

namespace Sheet

/-- The names of the top level. -/
def names (d : Sheet) : List String := d.fields.map Prod.fst ++ d.sections.map Prod.fst

/-- The table that the document means. -/
def tree (d : Sheet) : Fields :=
  tableOf d.fields ++ d.sections.map fun (name, fields) => (name, .table (tableOf fields))

def fieldLines (fields : List (String × Plain)) : List Line :=
  fields.map fun (name, v) => .field name v

def sectionLines (section_ : String × List (String × Plain)) : List Line :=
  .header section_.1 :: fieldLines section_.2

def lines (d : Sheet) : List Line := fieldLines d.fields ++ d.sections.flatMap sectionLines

/-- No name needs quotes, and none is used twice in one place. -/
structure WellFormed (d : Sheet) : Prop where
  bare : ∀ l ∈ d.lines, IsBareKey l.name
  distinct : d.names.Nodup
  distinct_section : ∀ section_ ∈ d.sections, (section_.2.map Prod.fst).Nodup

theorem map_statement_fieldLines (fields : List (String × Plain)) :
    (fieldLines fields).map Line.statement = Draft.assigns fields := by
  rw [fieldLines, List.map_map]
  rfl

/-- **Sections with new names go to the end of the document**, one after the other. -/
theorem enter_sections {entries : Entries} {sections : List (String × List (String × Plain))}
    (hdistinct : (entries.map Prod.fst ++ sections.map Prod.fst).Nodup)
    (hsections : ∀ section_ ∈ sections, (section_.2.map Prod.fst).Nodup) (opened : List String) :
    ∃ opened', ((sections.flatMap sectionLines).map Line.statement).foldlM Draft.enter
        ⟨entries, opened⟩ =
      some ⟨entries ++ sections.map fun (name, fields) => (name, .table .named (entriesOf fields)),
        opened'⟩ := by
  induction sections generalizing entries opened with
  | nil => exact ⟨opened, by rw [List.map_nil, List.append_nil]; rfl⟩
  | cons section_ sections ih =>
      obtain ⟨name, fields⟩ := section_
      obtain ⟨hnew, hrest⟩ :=
        Entries.step_of_nodup hdistinct (.table .named (entriesOf fields))
      have hheader := Draft.enter_header hnew opened
      have hfields := Draft.enter_fields
        (fun inner => ⟨entries ++ [(name, .table .named inner)], [name]⟩)
        (fun hkey => Draft.enter_section hnew hkey)
        (show (([] : Entries).map Prod.fst ++ fields.map Prod.fst).Nodup from
          hsections (name, fields) List.mem_cons_self)
      obtain ⟨opened', hsections⟩ :=
        ih hrest (fun s hs => hsections s (List.mem_cons_of_mem _ hs)) [name]
      refine ⟨opened', ?_⟩
      rw [List.flatMap_cons, List.map_append, List.foldlM_append, sectionLines, List.map_cons,
        map_statement_fieldLines, List.foldlM_cons, Line.statement, hheader, Option.bind_eq_bind,
        Option.bind_some, hfields, List.nil_append, Option.bind_some, hsections, List.append_assoc]
      rfl

/-- **The statements of a document make its tree.** -/
theorem fieldsOfStatements?_lines {d : Sheet} (h : d.WellFormed) :
    fieldsOfStatements? (d.lines.map Line.statement) = some d.tree := by
  have hfields := Draft.enter_fields (fun inner => ⟨inner, []⟩) Draft.enter_top
    (show (([] : Entries).map Prod.fst ++ d.fields.map Prod.fst).Nodup from
      (List.nodup_append.mp h.distinct).1)
  have hnames : (([] ++ entriesOf d.fields).map Prod.fst ++ d.sections.map Prod.fst).Nodup := by
    rw [List.nil_append, entriesOf, List.map_map]
    exact h.distinct
  obtain ⟨opened, hsections⟩ := enter_sections hnames h.distinct_section []
  have htree : finishEntries ([] ++ entriesOf d.fields ++ d.sections.map fun (name, fields) =>
      (name, .table .named (entriesOf fields))) = d.tree := by
    rw [List.nil_append, finishEntries_eq_map, List.map_append, ← finishEntries_eq_map,
      finishEntries_entriesOf, List.map_map, tree]
    refine congrArg _ (List.map_congr_left fun section_ _ => ?_)
    simp only [Function.comp_apply, Node.finish, finishEntries_entriesOf]
  rw [fieldsOfStatements?, lines, List.map_append, List.foldlM_append, map_statement_fieldLines,
    hfields, Option.bind_eq_bind, Option.bind_some, hsections, Option.map_some, htree]

/-- The text of a document. -/
def text (style : Style) (d : Sheet) : List Char := style.lines d.lines

/-- A document does not start with a byte order mark. -/
theorem dropByteOrderMark_text (style : Style) {d : Sheet} (h : d.WellFormed) :
    dropByteOrderMark (d.text style) = d.text style := by
  unfold dropByteOrderMark
  split
  · rename_i rest hstart
    cases hlines : d.lines with
    | nil =>
        rw [text, hlines] at hstart
        cases hstart
    | cons l ls =>
        obtain ⟨c, cs, hcs, -, hne⟩ :=
          style.exists_line_start (h.bare l (hlines ▸ List.mem_cons_self))
        rw [text, hlines, style.lines_cons, hcs, List.cons_append] at hstart
        exact absurd (List.cons.inj hstart).1 hne
  · rfl

/-- **A written document is read back** as the table that it means. -/
theorem read?_text (style : Style) {d : Sheet} (h : d.WellFormed) :
    read? (d.text style) = some d.tree := by
  have hfuel : d.lines.length < (d.text style).length + 1 :=
    Nat.lt_succ_of_le (style.length_le_lines d.lines)
  have hstatements : statements ((d.text style).length + 1) (d.text style) =
      some (d.lines.map Line.statement) := style.statements_lines h.bare hfuel
  rw [read?, dropByteOrderMark_text style h]
  simp only [hstatements, Option.bind_some, fieldsOfStatements?_lines h]

end Sheet

end FreshBuild.Toml
