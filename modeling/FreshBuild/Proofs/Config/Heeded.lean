/-
# FreshBuild.Proofs.Config.Heeded — what is written in a configuration and never looked at.

A key that nobody knows is a fault, so that nothing in a file is passed over in silence. Whether that
succeeds is a question about places and not about keys: a place is ignored if the file would be loaded
as it is, whatever stood there (`Ignores`). In a file that is loaded there is one kind of such places.
A tool may be an array in the place of a table, and then all behind the first item is ignored
(`ignores_iff`). The table form knows no such thing, and everywhere else a change is noticed.

The two directions have different reasons. A spare place is ignored because what a tool reads as does
not depend on it (`isTool_put_spare`). Any other place is noticed because there is a value that no
setting takes anywhere, and written over a part that counts it spoils the whole (`not_takes_put`).
-/
import FreshBuild.Proofs.Config.Source
import FreshBuild.Proofs.Toml.Place
import Mathlib

namespace FreshBuild.Config

open Toml (Fields Place Value)

variable {fields : Fields} {key : String} {c : Config} {v w u : Value} {tool : Tool} {rest : Place}

/-! ## Places -/

/-- The table with `w` written over the place `rest` in the value of a key. -/
def overwrite (key : String) (rest : Place) (w : Value) (fields : Fields) : Fields :=
  Fields.onKey key (Value.put w rest) fields

/-- The table would be loaded as it is, whatever stood at the place. -/
def Ignores (fields : Fields) (key : String) (rest : Place) : Prop :=
  ∀ w : Value, w.WellFormed → ofTable (overwrite key rest w fields) = ofTable fields

/-- The keys of the tools. -/
def IsToolKey (key : String) : Prop := key = "configure" ∨ key = "build"

instance (key : String) : Decidable (IsToolKey key) := inferInstanceAs (Decidable (_ ∨ _))

/-- Places behind the first item of an array. -/
inductive IsSpare : Place → Prop where
  | item (i : Nat) (rest : Place) : IsSpare (.item (i + 1) :: rest)

/-! ## Spare places are ignored -/

/-- What is behind the first item of a tool's array does not matter for the tool. -/
theorem isTool_put_spare (h : IsTool v tool) (hspare : IsSpare rest) (w : Value) :
    IsTool (Value.put w rest v) tool := by
  obtain ⟨i, rest⟩ := hspare
  cases h with
  | table _ => exact .table tool
  | array _ ignored => exact .array tool (ignored.modify i (Value.put w rest))

/-- A setting has what it had if the values at its key read as before. -/
theorem Says.onKey {α : Type} {key' : String} {reads : Value → α → Prop} {fallback x : α}
    {f : Value → Value} (h : Says fields key' reads fallback x)
    (hkeep : key' = key → ∀ v, reads v x → reads (f v) x) :
    Says (Fields.onKey key f fields) key' reads fallback x where
  present v hv := by
    obtain ⟨v', hmem, rfl⟩ := Toml.Fields.mem_onKey.mp hv
    have hreads := h.present v' hmem
    split
    · rename_i heq
      exact hkeep heq v' hreads
    · exact hreads
  absent hkey := h.absent (by rwa [Toml.Fields.keys_onKey] at hkey)

/-- A table whose tools are changed at spare places only describes what it described. -/
theorem Describes.overwrite_spare (h : Describes fields c) (hkey : IsToolKey key)
    (hspare : IsSpare rest) (w : Value) : Describes (overwrite key rest w fields) c where
  known := by
    rintro ⟨key', v⟩ hmem
    obtain ⟨v', hmem', -⟩ := Toml.Fields.mem_onKey.mp hmem
    exact h.known (key', v') hmem'
  buildDir := h.buildDir.onKey (by rcases hkey with rfl | rfl <;> simp)
  jobs := h.jobs.onKey (by rcases hkey with rfl | rfl <;> simp)
  keepGoing := h.keepGoing.onKey (by rcases hkey with rfl | rfl <;> simp)
  checkStatus := h.checkStatus.onKey (by rcases hkey with rfl | rfl <;> simp)
  timeoutSecs := h.timeoutSecs.onKey (by rcases hkey with rfl | rfl <;> simp)
  configure := h.configure.onKey fun _ _ htool => isTool_put_spare htool hspare w
  build := h.build.onKey fun _ _ htool => isTool_put_spare htool hspare w

/-! ## Every other place is noticed -/

/-- A value that no setting takes, nor any part of one. -/
def foreign : Value := .float .nan

/-- What the setting at a key takes: a tool, or a single value. -/
inductive Takes (key : String) : Value → Prop where
  | string (s : String) (hkey : ¬ IsToolKey key) : Takes key (.string s)
  | integer (n : Int) (hkey : ¬ IsToolKey key) : Takes key (.integer n)
  | boolean (b : Bool) (hkey : ¬ IsToolKey key) : Takes key (.boolean b)
  | tool {v : Value} {tool : Tool} (hkey : IsToolKey key) (h : IsTool v tool) : Takes key v

theorem Describes.takes (h : Describes fields c) (hmem : (key, v) ∈ fields) : Takes key v := by
  have hknown := h.known _ hmem
  simp only [keys, List.mem_cons, List.not_mem_nil, or_false] at hknown
  rcases hknown with rfl | rfl | rfl | rfl | rfl | rfl | rfl
  · rw [h.buildDir.present v hmem]
    exact .string _ (by decide)
  · have hjobs := h.jobs.present v hmem
    generalize c.jobs = jobs at hjobs
    cases hjobs with
    | count n _ => exact .integer _ (by decide)
    | text _ => exact .string _ (by decide)
  · rw [h.keepGoing.present v hmem]
    exact .boolean _ (by decide)
  · rw [h.checkStatus.present v hmem]
    exact .boolean _ (by decide)
  · have hseconds := h.timeoutSecs.present v hmem
    generalize c.timeoutSecs = limit at hseconds
    cases hseconds
    exact .integer _ (by decide)
  · exact .tool (Or.inl rfl) (h.configure.present v hmem)
  · exact .tool (Or.inr rfl) (h.build.present v hmem)

/-- A place in a single value is the value itself. -/
theorem eq_nil_of_at? (hchild : ∀ b, v.child? b = none) (hat : v.at? rest = some u) :
    rest = [] := by
  cases rest with
  | nil => rfl
  | cons b rest =>
      rw [Value.at?, hchild] at hat
      cases hat

theorem not_takes_foreign : ¬ Takes key foreign := by
  intro h
  cases h with
  | tool _ h => cases h

/-- A command with something foreign in it is no command. -/
theorem put_command_ne (hat : (commandValue tool).at? rest = some u) (tool' : Tool) :
    Value.put foreign rest (commandValue tool) ≠ commandValue tool' := by
  cases rest with
  | nil => exact Value.noConfusion
  | cons b rest =>
      cases b with
      | field key => cases hat
      | item i =>
          obtain ⟨element, helement, hat⟩ := Option.bind_eq_some_iff.mp hat
          -- an element of a command is a text, so the place ends there
          have hget : (tool.command.map Value.string)[i]? = some element := helement
          obtain ⟨text, -, rfl⟩ := Option.map_eq_some_iff.mp (List.getElem?_map .. ▸ hget)
          obtain rfl := eq_nil_of_at? (by intro b; cases b <;> rfl) hat
          intro heq
          have hitems := Value.array.inj heq
          have hforeign : (tool'.command.map Value.string)[i]? = some foreign := by
            rw [← hitems, List.getElem?_modify_eq, hget]
            rfl
          rw [List.getElem?_map] at hforeign
          obtain ⟨_, -, hstring⟩ := Option.map_eq_some_iff.mp hforeign
          cases hstring

theorem eq_command_of_isTool_table (h : IsTool (.table [("command", v)]) tool) :
    v = commandValue tool := by
  generalize hw : Value.table [("command", v)] = w at h
  cases h with
  | table _ => simpa using hw
  | array _ _ => cases hw

theorem eq_command_of_isTool_array {spare : List Value} (h : IsTool (.array (v :: spare)) tool) :
    v = commandValue tool := by
  generalize hw : Value.array (v :: spare) = w at h
  cases h with
  | table _ => cases hw
  | array _ _ =>
      obtain ⟨hv, -⟩ := List.cons.inj (Value.array.inj hw)
      exact hv

/-- Written over a place that counts, a foreign value spoils a tool. -/
theorem not_isTool_put (h : IsTool v tool) (hat : v.at? rest = some u) (hcounts : ¬ IsSpare rest)
    (tool' : Tool) : ¬ IsTool (Value.put foreign rest v) tool' := by
  intro hput
  -- in either form the place leads into the command, which the foreign value spoils
  cases rest with
  | nil => cases hput
  | cons b rest =>
      cases h with
      | table _ =>
          cases b with
          | item i => cases hat
          | field key =>
              obtain ⟨inner, hinner, hat⟩ := Option.bind_eq_some_iff.mp hat
              by_cases hkey : key = "command"
              · subst hkey
                obtain rfl := Option.some.inj hinner
                exact put_command_ne hat tool' (eq_command_of_isTool_table hput)
              · rw [Value.child?, List.lookup_cons, beq_false_of_ne hkey] at hinner
                cases hinner
      | array _ ignored =>
          cases b with
          | field key => cases hat
          | item i =>
              cases i with
              | succ i => exact hcounts (.item i rest)
              | zero =>
                  obtain ⟨first, hfirst, hat⟩ := Option.bind_eq_some_iff.mp hat
                  obtain rfl := Option.some.inj hfirst
                  exact put_command_ne hat tool' (eq_command_of_isTool_array hput)

/-- Written over a place that counts, a foreign value is not what the setting takes. -/
theorem not_takes_put (h : Takes key v) (hat : v.at? rest = some u)
    (hcounts : ¬ (IsToolKey key ∧ IsSpare rest)) : ¬ Takes key (Value.put foreign rest v) := by
  cases h with
  | string _ _ | integer _ _ | boolean _ _ =>
      obtain rfl := eq_nil_of_at? (by intro b; cases b <;> rfl) hat
      exact not_takes_foreign
  | tool hkey h =>
      have hnot := not_isTool_put h hat fun hspare => hcounts ⟨hkey, hspare⟩
      generalize Value.put foreign rest v = spoilt at hnot
      intro hput
      cases hput with
      | string _ hother | integer _ hother | boolean _ hother => exact hother hkey
      | tool _ hput => exact hnot _ hput

/-! ## Accepted tables -/

/-- **What is ignored** in a table that is loaded: all behind the first item of a tool's array, and
nothing else. -/
theorem ignores_iff (hwf : (Value.table fields).WellFormed) (hok : ofTable fields = .ok c)
    (hmem : (key, v) ∈ fields) (hat : v.at? rest = some u) :
    Ignores fields key rest ↔ IsToolKey key ∧ IsSpare rest := by
  have hwf' : ∀ w : Value, w.WellFormed →
      (Value.table (overwrite key rest w fields)).WellFormed := fun w hw =>
    Toml.wellFormed_onKey (fun _ hv => Value.wellFormed_put hw hv rest) hwf
  obtain ⟨hdescribes, hvalid⟩ := (ofTable_eq_ok_iff_describes hwf).mp hok
  constructor
  · -- a foreign value over the place leaves no configuration, unless the place is spare
    intro hignored
    have hforeign : foreign.WellFormed := .float .nan
    have hok' := (hignored foreign hforeign).trans hok
    obtain ⟨hdescribes', -⟩ := (ofTable_eq_ok_iff_describes (hwf' foreign hforeign)).mp hok'
    have hmem' : (key, Value.put foreign rest v) ∈ overwrite key rest foreign fields :=
      Toml.Fields.mem_onKey.mpr ⟨v, hmem, (if_pos rfl).symm⟩
    by_contra hcounts
    exact not_takes_put (hdescribes.takes hmem) hat hcounts (hdescribes'.takes hmem')
  · rintro ⟨hkey, hspare⟩ w hw
    rw [hok, ofTable_eq_ok_iff_describes (hwf' w hw)]
    exact ⟨hdescribes.overwrite_spare hkey hspare w, hvalid⟩

/-- What becomes of the parts of a table that is loaded as `c`. -/
structure Heeds (fields : Fields) (c : Config) : Prop where
  /-- There are no keys but the known ones, and what they say is in the configuration. -/
  describes : Describes fields c
  /-- A tool is a table without other keys than its command, or an array with its command in front. -/
  tools : ∀ key v, (key, v) ∈ fields → IsToolKey key → ∃ tool, IsTool v tool
  ignores_iff : ∀ key v rest u, (key, v) ∈ fields → v.at? rest = some u →
    (Ignores fields key rest ↔ IsToolKey key ∧ IsSpare rest)
  /-- Nothing is ignored exactly if no array form of a tool has a second item. -/
  nothing_iff : (∀ key v rest u, (key, v) ∈ fields → v.at? rest = some u →
    ¬ Ignores fields key rest) ↔ ∀ key items, (key, .array items) ∈ fields → items.length ≤ 1

theorem heeds_of_ok (hwf : (Value.table fields).WellFormed) (hok : ofTable fields = .ok c) :
    Heeds fields c := by
  obtain ⟨hdescribes, -⟩ := (ofTable_eq_ok_iff_describes hwf).mp hok
  exact
    { describes := hdescribes
      tools := by
        intro key v hmem hkey
        cases hdescribes.takes hmem with
        | string _ hother | integer _ hother | boolean _ hother => exact absurd hkey hother
        | tool _ htool => exact ⟨_, htool⟩
      ignores_iff := fun _ _ _ _ hmem hat => ignores_iff hwf hok hmem hat
      nothing_iff := by
        constructor
        · intro hnothing key items hmem
          by_contra hlong
          have hsecond : (Value.array items).at? [.item 1] = some items[1] := by
            simp [Value.at?, Value.child?, List.getElem?_eq_getElem (Nat.not_le.mp hlong)]
          -- only a tool can be an array, so its second item is spare
          have hkey : IsToolKey key := by
            cases hdescribes.takes hmem with
            | tool hkey _ => exact hkey
          exact hnothing key _ _ _ hmem hsecond
            ((ignores_iff hwf hok hmem hsecond).mpr ⟨hkey, .item 0 []⟩)
        · intro hshort key v rest u hmem hat hignored
          obtain ⟨-, i, rest⟩ := (ignores_iff hwf hok hmem hat).mp hignored
          cases v with
          | array items =>
              obtain ⟨element, helement, -⟩ := Option.bind_eq_some_iff.mp hat
              have hitem : items[i + 1]? = some element := helement
              obtain ⟨hlt, -⟩ := List.getElem?_eq_some_iff.mp hitem
              have hlength := hshort key items hmem
              omega
          | string | integer | garbled | float | boolean | moment | table => cases hat }

/-- **What a text that is loaded says is heeded**, but for what stands behind a tool's command in the
array form. -/
theorem parse_heeds {text : List Char} (h : parse text = .ok c) :
    ∃ fields, Toml.read? text = some fields ∧ Heeds fields c := by
  obtain ⟨fields, hread, hok⟩ := parse_eq_ok_iff.mp h
  exact ⟨fields, hread, heeds_of_ok (Toml.read?_wellFormed hread) hok⟩

/-- The tree of an array form with a second item. -/
theorem read?_spare : Toml.read? "configure = [[\"cmake\"], \"extra\"]\n".toList =
    some [("configure", .array [.array [.string "cmake"], .string "extra"])] := by
  cbv

/-- The command of such a form is noticed and its second item is not. -/
theorem parse_heeds_spare :
    let text := "configure = [[\"cmake\"], \"extra\"]\n".toList
    let fields : Fields := [("configure", .array [.array [.string "cmake"], .string "extra"])]
    parse text = .ok standard ∧ Toml.read? text = some fields ∧
      ¬ Ignores fields "configure" [.item 0, .item 0] ∧ Ignores fields "configure" [.item 1] := by
  intro text fields
  have hparse : parse text = .ok standard := by decide +kernel
  obtain ⟨fields', hread, hheeds⟩ := parse_heeds hparse
  obtain rfl := Option.some.inj (hread.symm.trans read?_spare)
  refine ⟨hparse, hread, ?_, ?_⟩
  · rw [hheeds.ignores_iff _ _ _ _ List.mem_cons_self rfl]
    rintro ⟨-, hspare⟩
    cases hspare
  · rw [hheeds.ignores_iff _ _ _ _ List.mem_cons_self rfl]
    exact ⟨by decide, .item 0 []⟩

/-- A second key next to a command is an error. -/
theorem parse_extra_key :
    parse "[configure]\ncommand = [\"cmake\"]\nextra = \"extra\"\n".toList =
      .error (.data (.unknownToolKey "extra")) := by
  cbv

/-- A second item next to a command is dropped in silence, and the text is loaded. -/
theorem parse_drops_item :
    let text := "configure = [[\"cmake\"], \"extra\"]\n".toList
    (∃ fields, Toml.read? text = some fields ∧
      (Value.table fields).at? [.field "configure", .item 1] = some (.string "extra")) ∧
      parse text = .ok standard ∧
      parse "[configure]\ncommand = [\"cmake\"]\nextra = \"extra\"\n".toList =
        .error (.data (.unknownToolKey "extra")) := by
  intro text
  have hparse : parse text = .ok standard := by decide +kernel
  exact ⟨⟨_, read?_spare, rfl⟩, hparse, parse_extra_key⟩

end FreshBuild.Config
