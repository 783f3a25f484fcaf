import Transclude.Proofs.EmbeddingRule

/-!
How deep runs on files nest. What a rule embeds from a file may hold blocks of its own, and the rules
for it are run on that file in turn. Which file that is, markers decide, and it may well be one of
those that are being read. But the rules of a nested run are fewer levels high, also behind the
filter that is put before them for a region, so files that embed one another are followed no deeper
than the rules are high.
-/

namespace Transclude

/-! Levels of rules. -/

mutual

/-- How many levels of runs on files a rule asks for. A file embedded as it is needs none. -/
def Rule.height : Rule → Nat
  | .mapfile _ _ inner => if inner.isEmpty then 0 else Rule.heightAll inner + 1
  | .maprange _ _ inner => Rule.heightAll inner + 1
  | .range _ | .dedent _ | .reindent _ => 0

/-- The height of the highest of some rules. -/
def Rule.heightAll : List Rule → Nat
  | [] => 0
  | rule :: rest => max rule.height (Rule.heightAll rest)

end

theorem Rule.heightAll_cons (rule : Rule) (rest : List Rule) :
    Rule.heightAll (rule :: rest) = max rule.height (Rule.heightAll rest) := by
  rw [heightAll]

/-- The filter before the rules for a region adds no level. -/
theorem Rule.heightAll_filtered (filter : RegionFilter) (inner : List Rule) :
    Rule.heightAll (.range filter :: inner) = Rule.heightAll inner := by
  rw [heightAll_cons, height, Nat.zero_max]

/-! The recursion. -/

/-- Runs rules on a file. -/
abbrev FileRun := List Rule → Path → Run String

/-- What a rule does when `nested` runs the rules for what it embeds. -/
def Rule.applyWith (opener : Opener) (nested : FileRun) : Rule → Transform
  | .mapfile markers defaultSkip inner => fun document nodes =>
    Run.within (.rule Directive.mapfile.name) <|
      Embedding.embed
        { directive := .mapfile, markers, defaultSkip
          request := requestFile document
          load := fun target =>
            if inner.isEmpty then readWhole opener target else nested inner target }
        document nodes
  | .maprange markers defaultSkip inner => fun document nodes =>
    Run.within (.rule Directive.maprange.name) <|
      Embedding.embed
        { directive := .maprange, markers, defaultSkip
          request := requestRegion document
          load := fun target => nested (.range (.named target.2) :: inner) target.1 }
        document nodes
  | rule => rule.apply opener

def Rule.applyAllWith (opener : Opener) (nested : FileRun) : List Rule → Transform
  | [] => fun _ nodes => return nodes
  | rule :: rest => fun document nodes => do
    let nodes ← rule.applyWith opener nested document nodes
    Rule.applyAllWith opener nested rest document nodes

/-- Runs on files of which at most `depth` are open at once. One more is left to `beyond`. -/
def processFileUpTo (opener : Opener) (beyond : FileRun) : Nat → FileRun
  | 0 => beyond
  | depth + 1 => fun rules path =>
    processWith opener (Rule.applyAllWith opener (processFileUpTo opener beyond depth) rules) path

/-- Runs rules on a text, inside of which at most `depth` runs on files are open at once. One more
is left to `beyond`. -/
def processTextUpTo (opener : Opener) (beyond : FileRun) (depth : Nat) (rules : List Rule)
    (path : Path) (text : String) : Run String :=
  Run.within .processText do
    let nodes ← parse path (.ofText text)
    return render (← Run.within .applyRules
      (Rule.applyAllWith opener (processFileUpTo opener beyond depth) rules path nodes))

section

variable {opener : Opener} {nested : FileRun}

/-- A rule uses nested runs of rules only that are lower than it is. -/
theorem Rule.applyWith_eq (rule : Rule)
    (agree : ∀ rules path, Rule.heightAll rules < rule.height →
      nested rules path = processFile opener rules path) :
    rule.applyWith opener nested = rule.apply opener := by
  cases rule with
  | range _ | dedent _ | reindent _ => rfl
  | mapfile markers defaultSkip inner =>
    have load : (fun target => if inner.isEmpty then readWhole opener target
        else nested inner target) = loadFile opener inner (Rule.applyAll opener inner) := by
      funext target
      rw [loadFile]
      split
      · rfl
      · next filled =>
        rw [agree inner target (by rw [height, if_neg filled]; exact Nat.lt_succ_self _)]
        rfl
    simp only [applyWith, apply, load]
  | maprange markers defaultSkip inner =>
    have load : (fun target : Path × String =>
        nested (.range (.named target.2) :: inner) target.1) =
          loadRegion opener (Rule.applyAll opener inner) := by
      funext target
      rw [agree _ _ (by rw [heightAll_filtered, height]; exact Nat.lt_succ_self _), processFile,
        loadRegion]
      simp only [applyAll, apply]
    simp only [applyWith, apply, load]

theorem Rule.applyAllWith_eq (rules : List Rule)
    (agree : ∀ others path, Rule.heightAll others < Rule.heightAll rules →
      nested others path = processFile opener others path) :
    Rule.applyAllWith opener nested rules = Rule.applyAll opener rules := by
  induction rules with
  | nil => simp only [applyAllWith, applyAll]
  | cons rule rest ih =>
    rw [heightAll_cons] at agree
    have first := applyWith_eq rule fun others path lower =>
      agree others path (lt_of_lt_of_le lower (Nat.le_max_left _ _))
    have later := ih fun others path lower =>
      agree others path (lt_of_lt_of_le lower (Nat.le_max_right _ _))
    simp only [applyAllWith, applyAll, first, later]

variable (opener) in
/-- A run on a file is the rules applied to its lines, with such runs for what they embed. -/
theorem processFile_eq (rules : List Rule) (path : Path) :
    processFile opener rules path =
      processWith opener (Rule.applyAllWith opener (processFile opener) rules) path := by
  rw [Rule.applyAllWith_eq rules fun _ _ _ => rfl, processFile]

/-- Runs on files that may nest deeper than their rules are high never get beyond that. -/
theorem processFileUpTo_eq (beyond : FileRun) {depth : Nat} {rules : List Rule}
    (deep : Rule.heightAll rules < depth) (path : Path) :
    processFileUpTo opener beyond depth rules path = processFile opener rules path := by
  induction depth generalizing rules path with
  | zero => exact absurd deep (Nat.not_lt_zero _)
  | succ depth ih =>
    have agree : ∀ others target, Rule.heightAll others < Rule.heightAll rules →
        processFileUpTo opener beyond depth others target = processFile opener others target :=
      fun others target lower => ih (lt_of_lt_of_le lower (Nat.le_of_lt_succ deep)) target
    rw [processFile, ← Rule.applyAllWith_eq rules agree]
    rfl

theorem processTextUpTo_eq (beyond : FileRun) {depth : Nat} {rules : List Rule}
    (deep : Rule.heightAll rules ≤ depth) (path : Path) (text : String) :
    processTextUpTo opener beyond depth rules path text = processText opener rules path text := by
  rw [processTextUpTo, processText, Rule.applyAllWith_eq rules fun others target lower => ?_]
  exact processFileUpTo_eq beyond (lt_of_lt_of_le lower deep) target

end

/-! Runs that are open. -/

/-- How many runs on files are open where a note is taken. -/
def LogEntry.depth (entry : LogEntry) : Nat := entry.spans.count .processFile

namespace Run

variable {α β : Type} {bound : Nat}

/-- At no time more runs on files are open than a bound says. -/
def NestsWithin (bound : Nat) (run : Run α) : Prop := ∀ entry ∈ run.log, entry.depth ≤ bound

theorem NestsWithin.of_silent {run : Run α} (silent : run.log = []) : NestsWithin bound run := by
  rw [NestsWithin, silent]
  exact List.forall_mem_nil _

theorem NestsWithin.note (note : Note) : NestsWithin bound (Run.note note) :=
  List.forall_mem_singleton.mpr (Nat.zero_le _)

theorem NestsWithin.bind {run : Run α} {next : α → Run β} (first : NestsWithin bound run)
    (later : ∀ value, NestsWithin bound (next value)) : NestsWithin bound (run >>= next) := by
  cases found : run.outcome with
  | error failure =>
    rw [bind_of_error found]
    exact first
  | ok value =>
    rw [bind_of_ok found]
    exact List.forall_mem_append.mpr ⟨first, later value⟩

/-- Stages other than runs on files do not count. -/
theorem NestsWithin.within {run : Run α} (inner : NestsWithin bound run) {span : Span}
    (other : span ≠ .processFile) : NestsWithin bound (Run.within span run) := by
  refine List.forall_mem_map.mpr fun entry member => ?_
  rw [LogEntry.depth, List.count_cons_of_ne other]
  exact inner entry member

theorem NestsWithin.file {run : Run α} (inner : NestsWithin bound run) :
    NestsWithin (bound + 1) (Run.within .processFile run) := by
  refine List.forall_mem_map.mpr fun entry member => ?_
  rw [LogEntry.depth, List.count_cons_self]
  exact Nat.succ_le_succ (inner entry member)

end Run

theorem nests_decodeParameter {α : Type} (bound : Nat) (directive : Directive)
    (decode : String → Except Parameter.Fault α) (raw : String) :
    Run.NestsWithin bound (decodeParameter directive decode raw) := by
  unfold decodeParameter
  by_cases plain : Parameter.isRaw raw = true
  · rw [if_pos plain]
    refine (Run.NestsWithin.note _).bind fun _ => ?_
    cases decode raw <;> exact .of_silent rfl
  · rw [if_neg plain]
    cases decode raw <;> exact .of_silent rfl

theorem nests_requestFile (bound : Nat) (document : Path) (parameter : String) :
    Run.NestsWithin bound (requestFile document parameter) :=
  (nests_decodeParameter bound _ _ _).bind fun _ =>
    (Run.NestsWithin.note _).bind fun _ => .of_silent rfl

theorem nests_requestRegion (bound : Nat) (document : Path) (parameter : String) :
    Run.NestsWithin bound (requestRegion document parameter) :=
  (nests_decodeParameter bound _ _ _).bind fun _ =>
    (Run.NestsWithin.note _).bind fun _ => .of_silent rfl

theorem RegionFilter.nests_scan (bound : Nat) (filter : RegionFilter) (document : Path) (line : Nat)
    (state : RegionScan) (nodes : List String) :
    Run.NestsWithin bound (filter.scan document line state nodes) := by
  induction nodes generalizing line state with
  | nil => cases state <;> exact .of_silent rfl
  | cons node rest ih =>
    have taken : Run.NestsWithin bound (filter.step line state node) := by
      cases state with
      | inside opened =>
        rw [step]
        split <;> exact .of_silent rfl
      | outside =>
        rw [step]
        split
        · exact .of_silent rfl
        · exact (nests_decodeParameter bound _ _ _).bind fun _ =>
            (Run.NestsWithin.note _).bind fun _ => .of_silent rfl
    rw [scan]
    exact taken.bind fun after => (ih _ _).bind fun _ => .of_silent rfl

/-- Bringing blocks up to date nests no deeper than what is done for each of them. -/
theorem Embedding.nests_embed {Target : Type} {bound : Nat} {embedding : Embedding Target}
    (asks : ∀ parameter, Run.NestsWithin bound (embedding.request parameter))
    (loads : ∀ target, Run.NestsWithin bound (embedding.load target)) (document : Path)
    (nodes : List String) : Run.NestsWithin bound (embedding.embed document nodes) := by
  have one : ∀ line piece, Run.NestsWithin bound (embedding.renew document line piece) := by
    intro line piece
    cases piece with
    | plain node => exact .of_silent rfl
    | block start parameter body stop =>
      exact (asks parameter).bind fun asked => (loads asked.1).bind fun _ => .of_silent rfl
    | unclosed start parameter body => exact (asks parameter).bind fun _ => .of_silent rfl
  rw [embed_eq_renewAll]
  generalize embedding.markers.pieces nodes = cut
  generalize 1 = line
  induction cut generalizing line with
  | nil => exact .of_silent rfl
  | cons piece rest ih =>
    rw [renewAll]
    exact (one line piece).bind fun _ => (ih _).bind fun _ => .of_silent rfl

section

variable {opener : Opener} {nested : FileRun} {bound : Nat}

theorem nests_access (path : Path) : Run.NestsWithin bound (access opener path) :=
  (Run.NestsWithin.note _).bind fun _ => .of_silent rfl

theorem nests_parse (path : Path) (stream : Stream) :
    Run.NestsWithin bound (parse path stream) := .of_silent rfl

/-- A rule nests runs as deep as the runs for what it embeds. -/
theorem Rule.nests_applyWith (inner : ∀ rules path, Run.NestsWithin bound (nested rules path))
    (rule : Rule) (document : Path) (nodes : List String) :
    Run.NestsWithin bound (rule.applyWith opener nested document nodes) := by
  cases rule with
  | mapfile markers defaultSkip rules =>
    rw [applyWith]
    refine (Embedding.nests_embed (nests_requestFile bound document) (fun target => ?_)
      document nodes).within (by decide)
    dsimp only
    split
    · exact (nests_access target).bind fun _ => .of_silent rfl
    · exact inner rules target
  | maprange markers defaultSkip rules =>
    rw [applyWith]
    exact (Embedding.nests_embed (nests_requestRegion bound document) (fun target => inner _ _)
      document nodes).within (by decide)
  | range filter =>
    show Run.NestsWithin bound (apply opener (.range filter) document nodes)
    rw [apply]
    exact (filter.nests_scan bound document 1 .outside nodes).within (by decide)
  | dedent lead =>
    show Run.NestsWithin bound (apply opener (.dedent lead) document nodes)
    rw [apply]
    exact .of_silent rfl
  | reindent width =>
    show Run.NestsWithin bound (apply opener (.reindent width) document nodes)
    rw [apply]
    refine Run.NestsWithin.within ?_ (by decide)
    dsimp only
    have room : ∀ other, Run.NestsWithin bound (do
        unless Indent.hasRoom (Indent.effectiveWidth width) nodes do Run.note .overflow
        return other : Run (List String)) := by
      intro other
      split
      · exact .of_silent rfl
      · exact (Run.NestsWithin.note _).bind fun _ => .of_silent rfl
    split
    · exact (Run.NestsWithin.note _).bind fun _ => room _
    · exact room _

theorem Rule.nests_applyAllWith (inner : ∀ rules path, Run.NestsWithin bound (nested rules path))
    (rules : List Rule) (document : Path) (nodes : List String) :
    Run.NestsWithin bound (Rule.applyAllWith opener nested rules document nodes) := by
  induction rules generalizing nodes with
  | nil =>
    rw [applyAllWith]
    exact .of_silent rfl
  | cons rule rest ih =>
    rw [applyAllWith]
    exact (nests_applyWith inner rule document nodes).bind ih

/-- A run on a file is one more that is open. -/
theorem nests_processWith {transform : Transform}
    (inner : ∀ path nodes, Run.NestsWithin bound (transform path nodes)) (path : Path) :
    Run.NestsWithin (bound + 1) (processWith opener transform path) := by
  refine Run.NestsWithin.file ?_
  refine (Run.NestsWithin.note _).bind fun _ => (nests_access path).bind fun stream => ?_
  refine (nests_parse path stream).bind fun nodes => ?_
  exact ((inner path nodes).within (by decide)).bind fun _ => .of_silent rfl

theorem nests_processFileUpTo {beyond : FileRun}
    (stops : ∀ rules path, Run.NestsWithin 0 (beyond rules path)) (depth : Nat) (rules : List Rule)
    (path : Path) : Run.NestsWithin depth (processFileUpTo opener beyond depth rules path) := by
  induction depth generalizing rules path with
  | zero => exact stops rules path
  | succ depth ih => exact nests_processWith (Rule.nests_applyAllWith ih rules) path

theorem nests_processTextUpTo {beyond : FileRun}
    (stops : ∀ rules path, Run.NestsWithin 0 (beyond rules path)) (depth : Nat) (rules : List Rule)
    (path : Path) (text : String) :
    Run.NestsWithin depth (processTextUpTo opener beyond depth rules path text) := by
  refine Run.NestsWithin.within ?_ (by decide)
  refine (nests_parse path _).bind fun nodes => ?_
  have files : ∀ rules path,
      Run.NestsWithin depth (processFileUpTo opener beyond depth rules path) :=
    nests_processFileUpTo stops depth
  exact ((Rule.nests_applyAllWith files rules path nodes).within (by decide)).bind fun _ =>
    .of_silent rfl

end

/-- Runs on files nest no deeper than rules are high, whatever the files hold. The recursion of such
runs has no other end than this: each applies its rules to the lines of its file, and has the rules
for what these embed run on other files. Given that only as many are open at once as the rules are
high, it comes to the same, and nothing is ever left to what would have to go on beyond. So every run
ends, and in none on a text more runs on files are open at any time; each of these takes its first
note when it has been opened. -/
theorem runs_nest_within_height (opener : Opener) (beyond : FileRun) (rules : List Rule)
    (path : Path) (text : String) :
    processFile opener rules path =
        processWith opener (Rule.applyAllWith opener (processFile opener) rules) path ∧
      processFile opener rules path =
        processFileUpTo opener beyond (Rule.heightAll rules + 1) rules path ∧
      processText opener rules path text =
        processTextUpTo opener beyond (Rule.heightAll rules) rules path text ∧
      (processFile opener rules path).log.head? = some ⟨[.processFile], .processing⟩ ∧
      (processFile opener rules path).NestsWithin (Rule.heightAll rules + 1) ∧
      (processText opener rules path text).NestsWithin (Rule.heightAll rules) := by
  have file : ∀ beyond, processFileUpTo opener beyond (Rule.heightAll rules + 1) rules path =
      processFile opener rules path := fun beyond =>
    processFileUpTo_eq beyond (Nat.lt_succ_self _) path
  have whole : ∀ beyond, processTextUpTo opener beyond (Rule.heightAll rules) rules path text =
      processText opener rules path text := fun beyond =>
    processTextUpTo_eq beyond (Nat.le_refl _) path text
  have stops : ∀ (rules : List Rule) (path : Path),
      Run.NestsWithin 0 (Run.fail (.notFound path) : Run String) := fun _ _ => .of_silent rfl
  refine ⟨processFile_eq opener rules path, (file beyond).symm, (whole beyond).symm, ?_, ?_, ?_⟩
  · rfl
  · rw [← file fun _ path => .fail (.notFound path)]
    exact nests_processFileUpTo stops _ rules path
  · rw [← whole fun _ path => .fail (.notFound path)]
    exact nests_processTextUpTo stops _ rules path text

/-- A file that embeds itself. -/
def selfEmbedding : Opener :=
  (FileSet.empty.insert ⟨"a"⟩ (.readable (.ofText "mapfile:a\nmapfile.end\n"))).opener

/-- Of two levels of rules for files, the inner one embeds the file as it is. -/
example :
    let rules : List Rule :=
      [.mapfile (.standard .mapfile) 0 [.mapfile (.standard .mapfile) 0 []]]
    let run := processText selfEmbedding rules ⟨"d"⟩ "mapfile:a\nmapfile.end\n"
    Rule.heightAll rules = 1 ∧ run.log.map LogEntry.depth = [0, 1, 1, 1, 1] ∧
      run.outcome = .ok ("mapfile:a\nmapfile:a\nmapfile:a\nmapfile.end\nmapfile.end\n" ++
        "mapfile.end\n") :=
  ⟨by cbv, by cbv, by cbv⟩

end Transclude
