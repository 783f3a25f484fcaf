import Mathlib.Logic.Relation
import Transclude.Proofs.EmbeddingRule
import Transclude.Proofs.ParameterLanguage

/-!
Records as parameters. What a directive makes of a record depends on the values of the fields that
it knows: these are checked in order, first for values of the wrong kind and then for fields that
are not there, and the first fault is the one that is reported. In which order the fields were
written, what was written to a field before its last value, and which other fields there are, does
not matter.
-/

namespace Transclude

namespace Parameter

/-- What the value of a known field has to be. -/
inductive FieldKind where
  | text
  | count
  deriving DecidableEq, Repr

/-- What is wrong with a value of a field. -/
def FieldKind.fault? : FieldKind → Value → Option Fault
  | .text, .text _ => none
  | .text, .integer number => some (.notText number)
  | .count, .text written => some (.notCount written)
  | .count, .integer number => if number < 0 then some (.negative number) else none

/-- A field that a directive knows. -/
structure KnownField where
  key : String
  kind : FieldKind
  needed : Bool
  deriving DecidableEq, Repr

namespace KnownField

/-- A text that has to be there. -/
def text (key : String) : KnownField := ⟨key, .text, true⟩

/-- The number of nodes to keep, which may be left out. -/
def skip : KnownField := ⟨"skip", .count, false⟩

variable (field : KnownField) (record : Record)

/-- What is wrong with the value of a field, if the field is there. -/
def wrong? : Option Fault := (record.get? field.key).bind field.kind.fault?

/-- What is wrong if the field is not there. -/
def missing? : Option Fault :=
  if field.needed = true ∧ record.get? field.key = none then some (.missing field.key) else none

end KnownField

/-- The first fault of a record: that of the first field whose value is of the wrong kind or, where
there is none, of the first field that is missing. -/
def firstFault? (fields : List KnownField) (record : Record) : Option Fault :=
  (fields.findSome? (·.wrong? record)).or (fields.findSome? (·.missing? record))

end Parameter

namespace Directive

open Parameter

/-- The fields that a directive knows, in the order in which they are checked. -/
def fields : Directive → List KnownField
  | mapfile => [.text "file", .skip]
  | maprange => [.text "file", .text "name", .skip]
  | range => [.text "name"]

/-- What a directive makes of its parameter. -/
abbrev Request : Directive → Type
  | mapfile => FileTarget
  | maprange => RegionTarget
  | range => String

def decode : (directive : Directive) → String → Except Fault directive.Request
  | mapfile => FileTarget.decode
  | maprange => RegionTarget.decode
  | range => decodeRegionName

def ofRecord : (directive : Directive) → Record → Except Fault directive.Request
  | mapfile => Record.fileTarget
  | maprange => Record.regionTarget
  | range => Record.regionName

end Directive

namespace Parameter

/-! The checks of the fields of a record. -/

/-- A check fails with the fault that there is, or yields a value of which a property holds. -/
def Checks {α : Type} (check : Except Fault α) (fault? : Option Fault) (holds : α → Prop) : Prop :=
  match fault? with
  | some fault => check = .error fault
  | none => ∃ value, check = .ok value ∧ holds value

section Checks

variable {α β : Type} {check : Except Fault α} {next : α → Except Fault β}
  {first second : Option Fault} {holds : α → Prop} {holds' : β → Prop}

/-- Of two checks in a row the first fault counts. -/
theorem Checks.bind (here : Checks check first holds)
    (later : ∀ value, holds value → Checks (next value) second holds') :
    Checks (check >>= next) (first.or second) holds' := by
  cases first with
  | some fault =>
    have failed : check = .error fault := here
    rw [failed]
    rfl
  | none =>
    obtain ⟨value, passed, held⟩ := here
    rw [passed]
    exact later value held

theorem Checks.map {make : α → β} (here : Checks check first holds)
    (later : ∀ value, holds value → holds' (make value)) :
    Checks (check >>= fun value => pure (make value)) first holds' := by
  rw [← Option.or_none (o := first)]
  exact here.bind fun value held => ⟨make value, rfl, later value held⟩

theorem Checks.eq_error_iff (checks : Checks check first holds) {fault : Fault} :
    check = .error fault ↔ first = some fault := by
  cases first with
  | some other =>
    have failed : check = .error other := checks
    rw [failed, Except.error.injEq, Option.some.injEq]
  | none =>
    obtain ⟨value, passed, _⟩ := checks
    rw [passed]
    exact iff_of_false nofun nofun

theorem Checks.holds_of_ok (checks : Checks check first holds) {value : α}
    (passed : check = .ok value) : holds value := by
  cases first with
  | some fault => cases passed.symm.trans (show check = .error fault from checks)
  | none =>
    obtain ⟨other, found, held⟩ := checks
    cases passed.symm.trans found
    exact held

end Checks

namespace Record

variable {record : Record} {key : String}

/-- The text of a field, if the field is there. -/
def BindsText (record : Record) (key : String) : Option String → Prop
  | none => record.get? key = none
  | some text => record.get? key = some (.text text)

/-- The number of nodes to keep, if the field is there. -/
def BindsSkip (record : Record) : Option Nat → Prop
  | none => record.get? "skip" = none
  | some skip => record.get? "skip" = some (.integer skip)

theorem text?_of_bound {text : String} (bound : record.get? key = some (.text text)) :
    record.text? key = .ok (some text) := by
  rw [text?, bound]

theorem count?_of_binds {skip : Option Nat} (bound : record.BindsSkip skip) :
    record.count? "skip" = .ok skip := by
  cases skip with
  | none => rw [count?, (bound : record.get? "skip" = none)]
  | some number =>
    rw [count?, (bound : record.get? "skip" = some (.integer number))]
    exact (if_neg (by omega)).trans (by rw [Int.toNat_natCast])

theorem checks_text (record : Record) (key : String) :
    Checks (record.text? key) ((KnownField.text key).wrong? record) (record.BindsText key) := by
  have wrong : (KnownField.text key).wrong? record =
      (record.get? key).bind FieldKind.text.fault? := rfl
  rw [wrong]
  cases found : record.get? key with
  | none => exact ⟨none, by rw [text?, found], found⟩
  | some value =>
    cases value with
    | text text => exact ⟨some text, text?_of_bound found, found⟩
    | integer number =>
      show record.text? key = .error (.notText number)
      rw [text?, found]

theorem checks_skip (record : Record) :
    Checks (record.count? "skip") (KnownField.skip.wrong? record) record.BindsSkip := by
  have wrong : KnownField.skip.wrong? record =
      (record.get? "skip").bind FieldKind.count.fault? := rfl
  rw [wrong]
  cases found : record.get? "skip" with
  | none => exact ⟨none, count?_of_binds found, found⟩
  | some value =>
    cases value with
    | text text =>
      show record.count? "skip" = .error (.notCount text)
      rw [count?, found]
    | integer number =>
      rw [Option.bind_some, FieldKind.fault?]
      by_cases negative : number < 0
      · rw [if_pos negative]
        show record.count? "skip" = .error (.negative number)
        rw [count?, found]
        exact if_pos negative
      · rw [if_neg negative]
        have bound : record.BindsSkip (some number.toNat) := by
          rw [BindsSkip, found, Int.toNat_of_nonneg (by omega)]
        exact ⟨_, count?_of_binds bound, bound⟩

/-- A text of the right kind can still be missing. -/
theorem checks_required {found : Option String} (bound : record.BindsText key found) :
    Checks (required key found) ((KnownField.text key).missing? record)
      fun text => record.get? key = some (.text text) := by
  cases found with
  | none =>
    have missing : (KnownField.text key).missing? record = some (.missing key) :=
      if_pos ⟨rfl, bound⟩
    rw [missing]
    rfl
  | some text =>
    have bound : record.get? key = some (.text text) := bound
    have there : (KnownField.text key).missing? record = none :=
      if_neg fun missing => Option.some_ne_none _ (bound.symm.trans missing.2)
    rw [there]
    exact ⟨text, rfl, bound⟩

theorem missing?_skip : KnownField.skip.missing? record = none :=
  if_neg fun missing => Bool.false_ne_true missing.1

/-! Changes to a record. -/

/-- A change that leaves the last values of the known fields as they are: fields with different keys
in another order, a field more that is not known, and a field more that is overwritten later. -/
inductive Edit (known : List String) : Record → Record → Prop
  | reorder {record other : Record} :
    record.Perm other → (record.map Prod.fst).Nodup → Edit known record other
  | unknown (before after : Record) {field : String × Value} :
    field.1 ∉ known → Edit known (before ++ after) (before ++ field :: after)
  | overwritten (before after : Record) {field : String × Value} :
    field.1 ∈ after.map Prod.fst → Edit known (before ++ after) (before ++ field :: after)

theorem get?_append (front back : Record) (key : String) :
    Record.get? (front ++ back) key = (Record.get? back key).or (Record.get? front key) := by
  simp only [Record.get?, List.reverse_append, List.find?_append, Option.map_or]

theorem get?_eq_none_iff : record.get? key = none ↔ key ∉ record.map Prod.fst := by
  rw [get?, Option.map_eq_none_iff, List.find?_eq_none, List.mem_map]
  constructor
  · rintro others ⟨field, member, same⟩
    exact others field (List.mem_reverse.mpr member) (beq_iff_eq.mpr same)
  · intro absent field member same
    exact absent ⟨field, List.mem_reverse.mp member, beq_iff_eq.mp same⟩

/-- Where no key occurs twice, each field holds. -/
theorem get?_eq_some_iff_mem (distinct : (record.map Prod.fst).Nodup) {value : Value} :
    record.get? key = some value ↔ (key, value) ∈ record := by
  rw [get?_eq_some_iff]
  constructor
  · rintro ⟨before, after, rfl, _⟩
    exact List.mem_append_right _ List.mem_cons_self
  · intro member
    obtain ⟨before, after, rfl⟩ := List.append_of_mem member
    refine ⟨before, after, rfl, fun field later same => ?_⟩
    rw [List.map_append, List.map_cons, List.nodup_append, List.nodup_cons] at distinct
    exact distinct.2.1.1 (List.mem_map.mpr ⟨field, later, same⟩)

theorem Edit.get?_eq {known : List String} {other : Record} (edit : Edit known record other)
    (knows : key ∈ known) : record.get? key = other.get? key := by
  cases edit with
  | reorder same distinct =>
    have distinct' := (same.map Prod.fst).nodup_iff.mp distinct
    refine Option.ext fun value => ?_
    rw [get?_eq_some_iff_mem distinct, get?_eq_some_iff_mem distinct', same.mem_iff]
  | @unknown before after field foreign =>
    have apart : Record.get? [field] key = none :=
      get?_eq_none_iff.mpr fun among => foreign (List.mem_singleton.mp among ▸ knows)
    rw [get?_append, get?_append, ← List.singleton_append, get?_append, apart, Option.or_none]
  | @overwritten before after field later =>
    rw [get?_append, get?_append, ← List.singleton_append, get?_append]
    by_cases here : field.1 = key
    · -- the later value counts with and without the field
      have there : Record.get? after key ≠ none :=
        fun none => get?_eq_none_iff.mp none (here ▸ later)
      obtain ⟨value, found⟩ := Option.ne_none_iff_exists'.mp there
      rw [found]
      rfl
    · have apart : Record.get? [field] key = none :=
        get?_eq_none_iff.mpr fun among => here (List.mem_singleton.mp among).symm
      rw [apart, Option.or_none]

theorem get?_of_edits {known : List String} {other : Record}
    (edits : Relation.EqvGen (Edit known) record other) (knows : key ∈ known) :
    record.get? key = other.get? key := by
  induction edits with
  | rel _ _ edit => exact edit.get?_eq knows
  | refl _ => rfl
  | symm _ _ _ ih => exact ih.symm
  | trans _ _ _ _ _ ih ih' => exact ih.trans ih'

end Record

end Parameter

namespace Directive

open Parameter

variable {record : Record}

/-- The fields of a record are bound to what is asked for. -/
def Binds : (directive : Directive) → Record → directive.Request → Prop
  | mapfile, record, target =>
    record.get? "file" = some (.text target.file) ∧ record.BindsSkip target.skip
  | maprange, record, target =>
    record.get? "file" = some (.text target.file) ∧
      record.get? "name" = some (.text target.name) ∧ record.BindsSkip target.skip
  | range, record, name => record.get? "name" = some (.text name)

theorem findSome?_cons_or {α β : Type} (f : α → Option β) (first : α) (rest : List α) :
    (first :: rest).findSome? f = (f first).or (rest.findSome? f) := by
  rw [List.findSome?_cons]
  cases f first <;> rfl

/-- A record is refused for its first fault, and else its fields are bound to what is asked for. -/
theorem checks_ofRecord (directive : Directive) (record : Record) :
    Checks (directive.ofRecord record) (firstFault? directive.fields record)
      (directive.Binds record) := by
  -- the first fault, with the checks in the order in which they are made
  cases directive <;> simp only [firstFault?, fields, findSome?_cons_or, List.findSome?_nil,
    Record.missing?_skip, Option.or_assoc, Option.or_none]
  case mapfile =>
    refine (record.checks_text "file").bind fun file boundFile => ?_
    refine record.checks_skip.bind fun skip boundSkip => ?_
    exact (Record.checks_required boundFile).map fun text there => ⟨there, boundSkip⟩
  case maprange =>
    refine (record.checks_text "file").bind fun file boundFile => ?_
    refine (record.checks_text "name").bind fun name boundName => ?_
    refine record.checks_skip.bind fun skip boundSkip => ?_
    refine (Record.checks_required boundFile).bind fun text thereFile => ?_
    exact (Record.checks_required boundName).map fun region thereName =>
      ⟨thereFile, thereName, boundSkip⟩
  case range =>
    exact (record.checks_text "name").bind fun name boundName => Record.checks_required boundName

theorem ofRecord_of_binds {directive : Directive} {request : directive.Request}
    (bound : directive.Binds record request) : directive.ofRecord record = .ok request := by
  cases directive with
  | mapfile =>
    obtain ⟨file, skip⟩ := bound
    rw [ofRecord, Record.fileTarget, Record.text?_of_bound file, Record.count?_of_binds skip]
    rfl
  | maprange =>
    obtain ⟨file, name, skip⟩ := bound
    rw [ofRecord, Record.regionTarget, Record.text?_of_bound file, Record.text?_of_bound name,
      Record.count?_of_binds skip]
    rfl
  | range =>
    rw [ofRecord, Record.regionName, Record.text?_of_bound bound]
    rfl

theorem ofRecord_eq_ok_iff {directive : Directive} {request : directive.Request} :
    directive.ofRecord record = .ok request ↔ directive.Binds record request :=
  ⟨(directive.checks_ofRecord record).holds_of_ok, ofRecord_of_binds⟩

theorem ofRecord_eq_error_iff {directive : Directive} {fault : Fault} :
    directive.ofRecord record = .error fault ↔
      firstFault? directive.fields record = some fault :=
  (directive.checks_ofRecord record).eq_error_iff

/-- Only the fields count that a directive knows. -/
theorem ofRecord_congr {directive : Directive} {other : Record}
    (same : ∀ field ∈ directive.fields, record.get? field.key = other.get? field.key) :
    directive.ofRecord record = directive.ofRecord other := by
  cases directive with
  | mapfile =>
    have ⟨file, skip, _⟩ := List.forall_mem_cons.mp same |>.imp_right List.forall_mem_cons.mp
    have file : record.get? "file" = other.get? "file" := file
    have skip : record.get? "skip" = other.get? "skip" := skip
    simp only [ofRecord, Record.fileTarget, Record.text?, Record.count?, file, skip]
  | maprange =>
    have ⟨file, others⟩ := List.forall_mem_cons.mp same
    have ⟨name, skip, _⟩ := List.forall_mem_cons.mp others |>.imp_right List.forall_mem_cons.mp
    have file : record.get? "file" = other.get? "file" := file
    have name : record.get? "name" = other.get? "name" := name
    have skip : record.get? "skip" = other.get? "skip" := skip
    simp only [ofRecord, Record.regionTarget, Record.text?, Record.count?, file, name, skip]
  | range =>
    have name : record.get? "name" = other.get? "name" := same _ (List.mem_singleton_self _)
    simp only [ofRecord, Record.regionName, Record.text?, name]

theorem decode_of_record {raw : String}
    (evaluated : Expression.evaluate? raw = some (.record record)) (directive : Directive) :
    directive.decode raw = directive.ofRecord record := by
  have read : reading raw = .record record := by rw [reading, evaluated]; rfl
  cases directive <;> simp only [decode, ofRecord, FileTarget.decode, RegionTarget.decode,
    decodeRegionName, read]

/-- A record is decoded by what its last fields bind: to the values of the fields that a directive
knows, where those that are needed are texts and the number of nodes to keep is a number, if it is
there; and else the first fault is reported with the whole text. Other fields, overwritten ones and
the order of the fields do not matter. -/
theorem decode_record_iff_bound {raw : String}
    (evaluated : Expression.evaluate? raw = some (.record record)) (directive : Directive) :
    (∀ request, (decodeParameter directive directive.decode raw).outcome = .ok request ↔
      directive.Binds record request) ∧
    (∀ failure, (decodeParameter directive directive.decode raw).outcome = .error failure ↔
      ∃ fault, firstFault? directive.fields record = some fault ∧
        failure = .malformed directive raw fault) ∧
    (∀ other changed, Expression.evaluate? other = some (.record changed) →
      (∀ field ∈ directive.fields, record.get? field.key = changed.get? field.key) →
        directive.decode other = directive.decode raw) ∧
    ∀ other changed, Expression.evaluate? other = some (.record changed) →
      Relation.EqvGen (Record.Edit (directive.fields.map KnownField.key)) record changed →
        directive.decode other = directive.decode raw := by
  have decoded := decode_of_record evaluated directive
  refine ⟨fun request => ?_, fun failure => ?_, ?_, ?_⟩
  · rw [outcome_decodeParameter, decoded, ← ofRecord_eq_ok_iff]
    cases directive.ofRecord record <;> simp [Except.mapError]
  · simp only [outcome_decodeParameter, decoded, ← ofRecord_eq_error_iff]
    cases directive.ofRecord record <;> simp [Except.mapError, eq_comm]
  · intro other changed evaluated' same
    rw [decoded, decode_of_record evaluated' directive, ofRecord_congr same]
  · intro other changed evaluated' edits
    have same : ∀ field ∈ directive.fields, record.get? field.key = changed.get? field.key :=
      fun field known => Record.get?_of_edits edits (List.mem_map_of_mem known)
    rw [decoded, decode_of_record evaluated' directive, ofRecord_congr same]

/-- Three faults at once, of which the first known field has the one that is reported; the same record
in another order, without the unknown field and with an overwritten one, has the same fault. -/
theorem faultyRecord_refused :
    Expression.evaluate? "\x7bskip:\"x\",z:2,file:1\x7d" =
        some (.record [("skip", .text "x"), ("z", .integer 2), ("file", .integer 1)]) ∧
      Expression.evaluate? "\x7bfile:a,file:1,skip:\"x\"\x7d" =
        some (.record [("file", .text "a"), ("file", .integer 1), ("skip", .text "x")]) ∧
      (decodeParameter .maprange RegionTarget.decode "\x7bskip:\"x\",z:2,file:1\x7d").outcome =
        .error (.malformed .maprange "\x7bskip:\"x\",z:2,file:1\x7d" (.notText 1)) ∧
      RegionTarget.decode "\x7bfile:a,file:1,skip:\"x\"\x7d" =
        RegionTarget.decode "\x7bskip:\"x\",z:2,file:1\x7d" := by
  have evaluated : Expression.evaluate? "\x7bskip:\"x\",z:2,file:1\x7d" =
      some (.record [("skip", .text "x"), ("z", .integer 2), ("file", .integer 1)]) := by
    decide +kernel
  have evaluated' : Expression.evaluate? "\x7bfile:a,file:1,skip:\"x\"\x7d" =
      some (.record [("file", .text "a"), ("file", .integer 1), ("skip", .text "x")]) := by
    decide +kernel
  have ⟨_, refused, _, edited⟩ := decode_record_iff_bound evaluated .maprange
  refine ⟨evaluated, evaluated', ?_, edited _ _ evaluated' ?_⟩
  · exact (refused _).mpr ⟨.notText 1, by decide, rfl⟩
  · have shorter : Record.Edit ["file", "name", "skip"]
        [("skip", .text "x"), ("file", .integer 1)]
        [("skip", .text "x"), ("z", .integer 2), ("file", .integer 1)] :=
      .unknown [("skip", .text "x")] [("file", .integer 1)] (by decide)
    have turned : Record.Edit ["file", "name", "skip"]
        [("skip", .text "x"), ("file", .integer 1)]
        [("file", .integer 1), ("skip", .text "x")] := .reorder (List.Perm.swap _ _ _) (by decide)
    have longer : Record.Edit ["file", "name", "skip"]
        [("file", .integer 1), ("skip", .text "x")]
        [("file", .text "a"), ("file", .integer 1), ("skip", .text "x")] :=
      .overwritten [] _ (by decide)
    exact ((Relation.EqvGen.rel _ _ shorter).symm _ _).trans _ _ _
      ((Relation.EqvGen.rel _ _ turned).trans _ _ _ (.rel _ _ longer))

end Directive

end Transclude
