import Mathlib.Data.List.Forall2
import Mathlib.Data.List.Nodup
import Transclude.Proofs.ReplaceRun
import Transclude.Proofs.TextLines
import Transclude.Proofs.WrittenDocument

/-!
Written settings are read as the settings that were written. Their text is a document of two tables,
and the fields of a table are read in the order of their names, whatever order they were written in.
-/

namespace Transclude

open Toml (Writer.string Writer.boolean)
open Toml.Reader (Entry Table)

namespace Toml.Reader.Entry

def ofText (key text : String) (bare : isBare key = true) : Entry :=
  ⟨key, Writer.string text, .text text, bare, reads_string text⟩

def ofFlag (key : String) (flag : Bool) (bare : isBare key = true) : Entry :=
  ⟨key, Writer.boolean flag, .boolean flag, bare, reads_flag flag⟩

def ofCount (key : String) (count : Nat) (bare : isBare key = true) : Entry :=
  ⟨key, toString count, .integer count, bare, reads_count count⟩

end Toml.Reader.Entry

theorem Toml.Value.asCount_of_lt {n : Nat} (bound : n < Nat.pow 2 64) :
    asCount (.integer n) = .ok n := by
  have fits : 0 ≤ (n : Int) ∧ (n : Int) < Int.pow 2 64 := by
    have := (Int.ofNat_lt (n := n) (m := Nat.pow 2 64)).mpr bound
    exact ⟨Int.natCast_nonneg n, this⟩
  rw [asCount, if_pos fits]
  rfl

/-- The text of a table, entry by entry. -/
theorem Toml.Reader.Table.write_eq_foldl (table : Table) :
    table.write = table.entries.foldl (fun text entry => text ++ entry.write)
      ("[" ++ table.name ++ "]\n") := by
  rw [write]
  generalize "[" ++ table.name ++ "]\n" = lead
  induction table.entries generalizing lead with
  | nil => exact String.append_empty
  | cons entry rest ih =>
    rw [List.map_cons, String.join_cons, ← String.append_assoc, ih, List.foldl_cons]

namespace Schema

variable {α : Type} {schema : Schema α}

theorem mergeSort_eq_of_perm {fields sorted : List (String × Toml.Value)}
    (perm : fields.Perm sorted) (strict : (sorted.map Prod.fst).Pairwise (· < ·)) :
    fields.mergeSort (fun a b => decide (a.1 ≤ b.1)) = sorted := by
  have distinct : (sorted.map Prod.fst).Nodup := strict.imp fun less => String.ne_of_lt less
  have same := (List.mergeSort_perm fields fun a b => decide (a.1 ≤ b.1)).trans perm
  refine same.eq_of_pairwise ?_ (List.pairwise_mergeSort ?_ ?_ fields) ?_
  · -- the order is none on all fields, but it is one on fields with different names
    intro a b member other le ge
    exact List.inj_on_of_nodup_map distinct (same.mem_iff.mp member) other
      (String.le_antisymm (of_decide_eq_true le) (of_decide_eq_true ge))
  · intro a b c ab bc
    exact decide_eq_true (String.le_trans (of_decide_eq_true ab) (of_decide_eq_true bc))
  · intro a b
    rw [Bool.or_eq_true, decide_eq_true_iff, decide_eq_true_iff]
    exact String.le_total a.1 b.1
  · exact (List.pairwise_map.mp strict).imp fun less =>
      decide_eq_true (String.not_lt.mp (String.lt_asymm less))

/-- The fields of a table are read in the order of their names. -/
theorem ofTable_of_perm {fields sorted : List (String × Toml.Value)} (perm : fields.Perm sorted)
    (strict : (sorted.map Prod.fst).Pairwise (· < ·)) (held : α) :
    schema.ofTable held fields = schema.fieldsFrom held sorted := by
  rw [ofTable, mergeSort_eq_of_perm perm strict]

/-- A field that holds a count takes every number in range. -/
theorem field_count (schema : Schema α) (key : String) {put : α → Nat → α}
    (counts : ∀ held value, schema.field held key value =
      do return put held (← Toml.Value.asCount value))
    {count : Nat} (bound : count < Nat.pow 2 64) (held : α) :
    schema.field held key (.integer count) = .ok (put held count) := by
  rw [counts, Toml.Value.asCount_of_lt bound]
  rfl

/-- What reading an entry does to what is held. -/
def Puts (schema : Schema α) (entry : Toml.Reader.Entry) (put : α → α) : Prop :=
  ∀ held, schema.field held entry.key entry.value = .ok (put held)

theorem fieldsFrom_of_puts {entries : List Toml.Reader.Entry} {puts : List (α → α)}
    (reads : List.Forall₂ schema.Puts entries puts) (held : α) :
    schema.fieldsFrom held (entries.map Entry.field) =
      .ok (puts.foldl (fun held put => put held) held) := by
  induction reads generalizing held with
  | nil => rfl
  | cons first _ ih =>
    rw [List.map_cons, Entry.field, fieldsFrom, first held]
    exact ih _

/-- Where every field of a written table can be read, they are read in the order of their names. -/
theorem ofValue_of_puts {table : Table} {sorted : List Toml.Reader.Entry}
    {puts : List (α → α)} (perm : table.entries.Perm sorted)
    (strict : (sorted.map Entry.key).Pairwise (· < ·))
    (reads : List.Forall₂ schema.Puts sorted puts) (held : α) :
    schema.ofValue held table.field.2 = .ok (puts.foldl (fun held put => put held) held) := by
  have keys : (sorted.map Entry.field).map Prod.fst = sorted.map Entry.key := List.map_map
  exact (ofTable_of_perm (perm.map Entry.field) (keys ▸ strict) held).trans
    (fieldsFrom_of_puts reads held)

end Schema

namespace FileSection

/-- Numbers that are read are smaller than two to the power of 64. -/
def IsSized (held : FileSection) : Prop :=
  held.indentWidth < Nat.pow 2 64 ∧ held.defaultSkip < Nat.pow 2 64

def table (held : FileSection) : Table where
  name := "mapfile"
  entries := [
    .ofText "start_pattern" held.startPattern rfl,
    .ofText "end_pattern" held.endPattern rfl,
    .ofFlag "disable_reindent" held.disableReindent rfl,
    .ofCount "indent_width" held.indentWidth rfl,
    .ofCount "default_skip" held.defaultSkip rfl]
  bare := rfl
  distinct := show ["start_pattern", "end_pattern", "disable_reindent", "indent_width",
    "default_skip"].Nodup by decide

theorem write_eq_table (held : FileSection) : held.write = held.table.write := by
  have heading : "[" ++ held.table.name ++ "]\n" = "[mapfile]\n" :=
    show "[" ++ "mapfile" ++ "]\n" = _ by decide
  rw [held.table.write_eq_foldl, heading]
  rfl

theorem ofValue_table {held : FileSection} (sized : held.IsSized) :
    schema.ofValue {} held.table.field.2 = .ok held := by
  let order : List (Fin 5) := [4, 2, 1, 3, 0]
  have perm : held.table.entries.Perm (order.map held.table.entries.get) :=
    (show (List.finRange 5).Perm order by decide).map held.table.entries.get
  have strict : ["default_skip", "disable_reindent", "end_pattern", "indent_width",
    "start_pattern"].Pairwise (· < ·) := by decide
  have skip := schema.field_count "default_skip" (fun _ _ => rfl) sized.2
  have width := schema.field_count "indent_width" (fun _ _ => rfl) sized.1
  exact Schema.ofValue_of_puts perm strict (.cons skip (.cons (fun _ => rfl)
    (.cons (fun _ => rfl) (.cons width (.cons (fun _ => rfl) .nil))))) {}

end FileSection

namespace RegionSection

def IsSized (held : RegionSection) : Prop :=
  held.indentWidth < Nat.pow 2 64 ∧ held.defaultSkip < Nat.pow 2 64

def table (held : RegionSection) : Table where
  name := "maprange"
  entries := [
    .ofText "start_pattern" held.startPattern rfl,
    .ofText "end_pattern" held.endPattern rfl,
    .ofFlag "disable_dedent" held.disableDedent rfl,
    .ofFlag "disable_reindent" held.disableReindent rfl,
    .ofCount "indent_width" held.indentWidth rfl,
    .ofCount "default_skip" held.defaultSkip rfl]
  bare := rfl
  distinct := show ["start_pattern", "end_pattern", "disable_dedent", "disable_reindent",
    "indent_width", "default_skip"].Nodup by decide

theorem write_eq_table (held : RegionSection) : held.write = held.table.write := by
  have heading : "[" ++ held.table.name ++ "]\n" = "[maprange]\n" :=
    show "[" ++ "maprange" ++ "]\n" = _ by decide
  rw [held.table.write_eq_foldl, heading]
  rfl

theorem ofValue_table {held : RegionSection} (sized : held.IsSized) :
    schema.ofValue {} held.table.field.2 = .ok held := by
  let order : List (Fin 6) := [5, 2, 3, 1, 4, 0]
  have perm : held.table.entries.Perm (order.map held.table.entries.get) :=
    (show (List.finRange 6).Perm order by decide).map held.table.entries.get
  have strict : ["default_skip", "disable_dedent", "disable_reindent", "end_pattern",
    "indent_width", "start_pattern"].Pairwise (· < ·) := by decide
  have skip := schema.field_count "default_skip" (fun _ _ => rfl) sized.2
  have width := schema.field_count "indent_width" (fun _ _ => rfl) sized.1
  exact Schema.ofValue_of_puts perm strict (.cons skip (.cons (fun _ => rfl) (.cons (fun _ => rfl)
    (.cons (fun _ => rfl) (.cons width (.cons (fun _ => rfl) .nil)))))) {}

end RegionSection

namespace Settings

def IsSized (settings : Settings) : Prop := settings.mapfile.IsSized ∧ settings.maprange.IsSized

def tables (settings : Settings) : List Table := [settings.mapfile.table, settings.maprange.table]

theorem write_eq_tables (settings : Settings) :
    settings.write = Toml.Reader.writeTables settings.tables := by
  rw [write, settings.mapfile.write_eq_table, settings.maprange.write_eq_table]
  rfl

theorem ofTable_tables {settings : Settings} (sized : settings.IsSized) :
    schema.ofTable {} (settings.tables.map Table.field) = .ok settings := by
  have file : FileSection.schema.ofValue {} settings.mapfile.table.field.2 = .ok settings.mapfile :=
    FileSection.ofValue_table sized.1
  have region : RegionSection.schema.ofValue {} settings.maprange.table.field.2 =
      .ok settings.maprange := RegionSection.ofValue_table sized.2
  have perm : (settings.tables.map Table.field).Perm [
      ("mapfile", settings.mapfile.table.field.2), ("maprange", settings.maprange.table.field.2)] :=
    List.Perm.refl _
  rw [Schema.ofTable_of_perm perm (show ["mapfile", "maprange"].Pairwise (· < ·) by decide)]
  simp only [Schema.fieldsFrom, Schema.field, schema, file, region]
  rfl

/-- Written settings are read back, after which their patterns are checked. -/
theorem read_write_eq_validate {settings : Settings} (sized : settings.IsSized) :
    read settings.write = settings.validate := by
  have distinct : (settings.tables.map Table.name).Nodup :=
    show ["mapfile", "maprange"].Nodup by decide
  rw [read, write_eq_tables, Toml.Reader.document?_writeTables distinct]
  dsimp only
  rw [ofTable_tables sized]

/-- Printed settings with patterns that pass are loaded as they were, and are printed as before. -/
theorem load_printed (settings : Settings) (patterns : settings.validate = .ok settings)
    (sized : settings.IsSized) :
    read settings.write = .ok settings ∧
    (read settings.write).map write = .ok settings.write ∧
    ∀ (workspace : Workspace) (options : Command.Options) (path : Path) (color : Bool),
      options.config = some path →
      (readWhole workspace.opener path).outcome =
        .ok ((Command.Outcome.settings settings).output color) →
      Command.loadSettings workspace options = .ok (some settings) := by
  have back : read settings.write = .ok settings := (read_write_eq_validate sized).trans patterns
  refine ⟨back, ?_, fun workspace options path color named saved => ?_⟩
  · rw [back]
    rfl
  · have text : (readWhole workspace.opener path).outcome = .ok settings.write := saved
    have loaded : (ofFile workspace.opener path).outcome = .ok settings := by
      rw [ofFile, Run.outcome_note_bind, Run.outcome_bind, text]
      dsimp only [Except.bind, Run.outcome_ofExcept]
      exact back
    rw [Command.loadSettings, named]
    dsimp only
    rw [loaded]
    rfl

/-- Patterns for which all forms of strings are needed, and the largest width. -/
def quoted : Settings where
  mapfile := {
    startPattern := "\"(')\\."
    endPattern := "x\x01'\"y"
    indentWidth := 18446744073709551615 }
  maprange := {
    startPattern := "(a)\n\"b'"
    endPattern := "a\"b"
    disableDedent := true }

/-- A directory with a file in which these settings were saved. -/
def savedQuoted : Workspace where
  tree := { nodes := [(["c"], .file (Stream.ofText quoted.write).bytes 420)], proper := by decide }
  directory := []

theorem validate_quoted : quoted.validate = .ok quoted := rfl

theorem readWhole_savedQuoted :
    (readWhole savedQuoted.opener ⟨"c"⟩).outcome = .ok quoted.write := by
  have located : savedQuoted.locate ⟨"c"⟩ = .ok ["c"] := by decide
  exact readWhole_eq_ok.mpr ⟨_, _, 420, located, rfl, Stream.decode_ofText quoted.write⟩

theorem quoted_load_printed :
    quoted.validate = .ok quoted ∧ quoted.IsSized ∧ read quoted.write = .ok quoted ∧
    Command.loadSettings savedQuoted { config := some ⟨"c"⟩ } = .ok (some quoted) := by
  have sized : quoted.IsSized := ⟨⟨by decide, by decide⟩, ⟨by decide, by decide⟩⟩
  have loaded := load_printed quoted validate_quoted sized
  exact ⟨validate_quoted, sized, loaded.1,
    loaded.2.2 savedQuoted { config := some ⟨"c"⟩ } ⟨"c"⟩ false rfl readWhole_savedQuoted⟩

end Settings

end Transclude
