import Transclude.Proofs.ReplaceRun

/-!
The three things that a command can do with its documents: print, check or replace them. All three
fail alike, since everything that can fail comes before. Otherwise they speak of the same outputs:
what is printed is all of them, and what a check lists and what is replaced are those that differ
from what the documents hold.
-/

namespace Transclude

namespace Command

/-- What a command does with its documents. -/
inductive Mode where
  | print
  | check
  | replace
  deriving DecidableEq, Repr, Inhabited

/-- The options of a command that prints its documents. -/
def Options.printing (options : Options) : Options :=
  { options with replace := false, check := false, printConfig := false }

/-- The same command in another mode. -/
def Options.inMode (options : Options) : Mode → Options
  | .print => options.printing
  | .check => options.checking
  | .replace => options.replacing

/-- What is delivered in a mode. -/
def Mode.outcome (mode : Mode) (documents : List Document) (diff : Bool) : Outcome :=
  match mode with
  | .print => .printed documents
  | .check => .checked documents diff
  | .replace => .replaced documents

/-- The documents whose output is not what they hold. -/
def outdated (documents : List Document) : List Document :=
  documents.filter fun document => document.output ≠ document.current

theorem filter_isStale (documents : List Document) :
    documents.filter Document.isStale = outdated documents := by
  refine List.filter_congr fun document _ => ?_
  rw [Bool.eq_iff_iff, Document.isStale_iff, decide_eq_true_iff]

theorem any_isStale (documents : List Document) :
    documents.any Document.isStale = true ↔ outdated documents ≠ [] := by
  rw [← filter_isStale, Ne, List.filter_eq_nil_iff, List.any_eq_true]
  simp

variable {workspace : Workspace} {options : Options} {rules : List Rule}

theorem Options.sameRequest_inMode (options : Options) (mode : Mode) :
    options.SameRequest (options.inMode mode) := by
  cases mode with
  | print | check | replace => exact ⟨rfl, rfl, rfl⟩

theorem printConfig_inMode (options : Options) (mode : Mode) :
    (options.inMode mode).printConfig = false := by
  cases mode with
  | print | check | replace => rfl

theorem deliver_inMode (options : Options) (mode : Mode) (documents : List Document) :
    deliver (options.inMode mode) documents = mode.outcome documents options.diff := by
  cases mode with
  | print | check | replace => rfl

/-- What goes wrong first ends the command in every mode. -/
theorem Stops.run_inMode {cause : Abort} (stops : Stops workspace options cause) (mode : Mode) :
    run workspace (options.inMode mode) = .aborted cause :=
  run_of_stops (printConfig_inMode options mode) (stops.congr (options.sameRequest_inMode mode))

/-- Documents that were rendered are delivered in every mode. -/
theorem Renders.run_inMode {documents : List Document}
    (renders : Renders workspace options rules documents) (mode : Mode) :
    run workspace (options.inMode mode) = mode.outcome documents options.diff := by
  have same := renders.congr (options.sameRequest_inMode mode)
  rw [same.run_eq (printConfig_inMode options mode), deliver_inMode]

theorem code_outcome_ne_two (mode : Mode) (documents : List Document) (diff : Bool) :
    (mode.outcome documents diff).code ≠ 2 := by
  cases mode with
  | print | replace => exact Nat.zero_ne_add_one 1
  | check =>
    show (if documents.any Document.isStale then 1 else 0) ≠ 2
    split <;> decide

theorem code_checked (documents : List Document) (diff : Bool) :
    (Outcome.checked documents diff).code = if outdated documents = [] then 0 else 1 := by
  show (if documents.any Document.isStale = true then 1 else 0) = _
  by_cases fresh : outdated documents = []
  · rw [if_pos fresh, if_neg (mt (any_isStale documents).mp (not_not.mpr fresh))]
  · rw [if_neg fresh, if_pos ((any_isStale documents).mpr fresh)]

/-- What the three modes do with the same documents. -/
structure Agreement (workspace : Workspace) (options : Options) (documents : List Document) :
    Prop where
  print_code : (run workspace options.printing).code = 0
  print_output : ∀ color, (run workspace options.printing).output color =
    String.join (documents.map Document.output)
  print_files : (run workspace options.printing).applyTo workspace = workspace
  check_code : (run workspace options.checking).code = if outdated documents = [] then 0 else 1
  check_fresh : outdated documents = [] → ∀ color, (run workspace options.checking).output color =
    paint color .green ("All " ++ toString documents.length ++ " file(s) are up to date.") ++ "\n"
  check_lists : outdated documents ≠ [] → ∀ color, (run workspace options.checking).output color =
    String.join ((outdated documents).map fun document =>
      paint color .yellow "stale:" ++ " " ++ document.path.text ++ "\n") ++
    "\n" ++ toString (outdated documents).length ++
    " file(s) out of date. Run with `--replace` to update them.\n"
  check_files : (run workspace options.checking).applyTo workspace = workspace
  replace_code : (run workspace options.replacing).code = 0
  replace_output : ∀ color, (run workspace options.replacing).output color =
    if outdated documents = [] then "All files are already up to date.\n"
    else paint color .bold "Updated" ++ " " ++ toString (outdated documents).length ++ " file(s).\n"
  replace_writes : (run workspace options.replacing).applyTo workspace =
    (outdated documents).foldl
      (fun workspace document => workspace.write document.path document.output) workspace
  replace_files : Replaced workspace documents ((run workspace options.replacing).applyTo workspace)

theorem checkText_of_fresh {documents : List Document} (fresh : outdated documents = [])
    (color : Bool) :
    checkText color documents =
      paint color .green ("All " ++ toString documents.length ++ " file(s) are up to date.") ++
        "\n" := by
  unfold checkText
  rw [filter_isStale, fresh]

theorem checkText_of_stale {documents : List Document} (stale : outdated documents ≠ [])
    (color : Bool) :
    checkText color documents =
      String.join ((outdated documents).map fun document =>
        paint color .yellow "stale:" ++ " " ++ document.path.text ++ "\n") ++
      "\n" ++ toString (outdated documents).length ++
      " file(s) out of date. Run with `--replace` to update them.\n" := by
  unfold checkText
  rw [filter_isStale]
  obtain ⟨first, rest, some⟩ := List.exists_cons_of_ne_nil stale
  rw [some]

theorem replaceText_eq (documents : List Document) (color : Bool) :
    replaceText color documents =
      if outdated documents = [] then "All files are already up to date.\n"
      else
        paint color .bold "Updated" ++ " " ++ toString (outdated documents).length ++
          " file(s).\n" := by
  unfold replaceText
  rw [filter_isStale]
  cases outdated documents with
  | nil => rfl
  | cons first rest => rfl

theorem Renders.agreement {documents : List Document}
    (renders : Renders workspace options rules documents) :
    Agreement workspace options documents := by
  have printed : run workspace options.printing = .printed documents := renders.run_inMode .print
  have checked := renders.run_checking
  have replaced := renders.run_replacing
  constructor
  case print_code => rw [printed]; rfl
  case print_output => rw [printed]; exact fun _ => rfl
  case print_files => rw [printed]; rfl
  case check_code => rw [checked]; exact code_checked documents options.diff
  case check_fresh => rw [checked]; exact checkText_of_fresh
  case check_lists => rw [checked]; exact checkText_of_stale
  case check_files => rw [checked]; rfl
  case replace_code => rw [replaced]; rfl
  case replace_output => rw [replaced]; exact replaceText_eq documents
  case replace_writes =>
    rw [replaced, ← filter_isStale]
    rfl
  case replace_files => rw [replaced]; exact replaced_writeAll workspace documents

/-- A command fails in one mode exactly when it fails in all of them, and with the same error.
Otherwise there is one list of documents with their outputs, in the order of the targets: they are
printed one behind the other, a check lists those that are out of date, and those are replaced. -/
theorem fails_alike_or_agrees (workspace : Workspace) (options : Options) :
    ((∃ mode, (run workspace (options.inMode mode)).code = 2) ↔
      ∀ mode, (run workspace (options.inMode mode)).code = 2) ∧
    (∀ mode, (run workspace (options.inMode mode)).code = 2 →
      ∃ cause, ∀ other, run workspace (options.inMode other) = .aborted cause ∧
        (∀ color, (run workspace (options.inMode other)).diagnostics color = cause.text color) ∧
        (run workspace (options.inMode other)).applyTo workspace = workspace) ∧
    (∀ mode, (run workspace (options.inMode mode)).code ≠ 2 →
      ∃ rules documents, Configured workspace options rules ∧
        targets workspace options = .ok (documents.map Document.path) ∧
        (∀ document ∈ documents,
          (∃ place content mode, workspace.locate document.path = .ok place ∧
            workspace.tree.get? place = some (.file content mode) ∧
            Stream.decode content = .ok document.current) ∧
          (processText workspace.opener rules document.path document.current).outcome =
            .ok document.output) ∧
        Agreement workspace options documents) := by
  rcases stops_or_renders workspace options with ⟨cause, stops⟩ | ⟨rules, documents, renders⟩
  · have aborted := stops.run_inMode
    have failed : ∀ mode, (run workspace (options.inMode mode)).code = 2 := fun mode => by
      rw [aborted]
      rfl
    refine ⟨iff_of_true ⟨.print, failed .print⟩ failed, fun _ _ => ⟨cause, fun other => ?_⟩,
      fun mode went => absurd (failed mode) went⟩
    rw [aborted]
    exact ⟨rfl, fun _ => rfl, rfl⟩
  · have delivered := renders.run_inMode
    have went : ∀ mode, (run workspace (options.inMode mode)).code ≠ 2 := fun mode => by
      rw [delivered]
      exact code_outcome_ne_two mode documents options.diff
    refine ⟨iff_of_false (fun ⟨mode, failed⟩ => went mode failed) fun all => went .print (all .print),
      fun mode failed => absurd failed (went mode), fun _ _ => ⟨rules, documents,
        renders.configured, renders.collected, fun document member => ?_, renders.agreement⟩⟩
    exact ⟨renders.exists_file member, (render_eq_ok.mp (renders.rendered document member)).2.2⟩

end Command

end Transclude
