import Transclude.Proofs.PathSpelling

/-!
The places to which paths lead. A path is followed name by name from a directory, and where nothing
on the way is a link, the names alone say where it ends. The normal form of a path ends at the same
place from every directory, and paths with other normal forms end elsewhere from some directory.
-/

namespace Transclude

/-- The place to which a name leads that stands between the slashes of a path. -/
def Place.move (place : Place) (name : String) : Place :=
  if name = "" ∨ name = "." then place
  else if name = ".." then place.dropLast
  else place ++ [name]

/-- In a tree, a way on which no link is met leads where its names say. -/
theorem Tree.advance_eq_move {tree : Tree} {place found : Place} {names : List String}
    (reached : tree.advance place names = .ok (.place found)) :
    found = names.foldl Place.move place := by
  fun_induction Tree.advance tree place names with
  | case1 place => cases reached; rfl
  | case2 => cases reached
  | case3 place name rest _ stays ih =>
    rw [List.foldl_cons, Place.move, if_pos stays]
    exact ih reached
  | case4 place rest _ _ ih => exact ih reached
  | case5 => cases reached
  | case6 => cases reached
  | case7 => cases reached
  | case8 place name rest _ moves down _ _ _ _ ih =>
    rw [List.foldl_cons, Place.move, if_neg moves, if_neg down]
    exact ih reached

namespace Path

/-- The place to which a path leads from a directory, if nothing on the way is a link. -/
def placeFrom (directory : Place) (path : Path) : Place :=
  (Tree.way path).foldl Place.move (Tree.start directory path)

/-- Paths that lead to one place from whatever directory they are followed. -/
def SamePlace (path other : Path) : Prop :=
  ∀ directory : Place, directory.all Place.isName = true →
    path.placeFrom directory = other.placeFrom directory

/-- The spelling of a normal form: names with single slashes between them, behind the root or behind
as many `..` as lead out of the directory in which a relative path starts. -/
inductive IsPlain : Path → Prop
  | absolute {names : List String} :
    (∀ name ∈ names, Place.isName name = true) → IsPlain ⟨"/" ++ "/".intercalate names⟩
  | relative (ups : Nat) {names : List String} :
    (∀ name ∈ names, Place.isName name = true) →
      IsPlain ⟨"/".intercalate (List.replicate ups ".." ++ names)⟩

end Path

/-! The steps of a path as moves. -/

/-- The place to which a step leads. -/
def Place.lead (place : Place) : Step → Place
  | .root => []
  | .current => place
  | .parent => place.dropLast
  | .name text => place ++ [text]

/-- The place to which steps lead. -/
def Place.after (directory : Place) (steps : List Step) : Place := steps.foldl Place.lead directory

namespace Place

theorem after_append (directory : Place) (front back : List Step) :
    directory.after (front ++ back) = (directory.after front).after back := List.foldl_append

theorem after_concat (directory : Place) (front : List Step) (step : Step) :
    directory.after (front ++ [step]) = (directory.after front).lead step :=
  directory.after_append front [step]

theorem after_names (directory : Place) (names : List String) :
    directory.after (names.map .name) = directory ++ names := by
  induction names generalizing directory with
  | nil => exact (List.append_nil _).symm
  | cons name rest ih => exact (ih (directory ++ [name])).trans (List.append_assoc _ _ _)

/-- Going up ends at the root. -/
theorem after_ups (directory : Place) (ups : Nat) :
    directory.after (List.replicate ups .parent) = directory.take (directory.length - ups) := by
  induction ups with
  | zero => exact (List.take_length ..).symm
  | succ ups ih =>
    rw [List.replicate_succ', after_concat, ih]
    show (directory.take (directory.length - ups)).dropLast = _
    rw [List.dropLast_eq_take, List.length_take, List.take_take]
    congr 1
    omega

end Place

namespace Path

/-- A name between slashes moves as the step does that it stands for. -/
theorem move_ofList (place : Place) (piece : List Char) :
    place.move (String.ofList piece) = place.after (innerStep? piece).toList := by
  unfold innerStep?
  split
  · rfl
  · rfl
  · rfl
  · next empty current parent =>
    have stays : ¬(String.ofList piece = "" ∨ String.ofList piece = ".") :=
      not_or.mpr ⟨ofList_ne empty, ofList_ne current⟩
    rw [Place.move, if_neg stays, if_neg (ofList_ne parent)]
    rfl

theorem foldl_move_pieces (place : Place) (written : List Char) :
    ((pieces '/' written).map String.ofList).foldl Place.move place =
      place.after (innerSteps written) := by
  rw [innerSteps]
  induction pieces '/' written generalizing place with
  | nil => rfl
  | cons piece rest ih =>
    rw [List.map_cons, List.foldl_cons, ih, move_ofList, ← Place.after_append]
    cases step : innerStep? piece with
    | none => rw [List.filterMap_cons_none step]; rfl
    | some step' => rw [List.filterMap_cons_some step]; rfl

/-! What is left of a walk. -/

/-- The steps that a walk leaves over, the last of them first: names, behind the root or behind
some `..`. -/
inductive Walked : List Step → Prop
  | root : Walked [.root]
  | ups (count : Nat) : Walked (List.replicate count .parent)
  | name {before : List Step} {text : String} :
    Walked before → Place.isName text = true → Walked (.name text :: before)

theorem Walked.nil : Walked [] := .ups 0

theorem walk_ups (count : Nat) :
    walk (List.replicate count .parent) .parent = List.replicate (count + 1) .parent := by
  cases count <;> rfl

theorem Walked.walk {before : List Step} {step : Step} (shape : Walked before)
    (inner : step.IsInner) : Walked (walk before step) := by
  cases inner with
  | name named => exact .name shape named
  | parent =>
    cases shape with
    | root => exact .root
    | ups count =>
      rw [walk_ups]
      exact .ups (count + 1)
    | name earlier _ => exact earlier

/-- A walk loses nothing: what it leaves over leads where all of its steps do. -/
theorem Walked.after_walk {before : List Step} {step : Step} (shape : Walked before)
    (inner : step.IsInner) (directory : Place) :
    directory.after (Path.walk before step).reverse =
      (directory.after before.reverse).lead step := by
  cases inner with
  | name named =>
    show directory.after (Step.name _ :: before).reverse = _
    rw [List.reverse_cons, Place.after_concat]
  | parent =>
    cases shape with
    | root => rfl
    | ups count =>
      rw [walk_ups, List.replicate_succ, List.reverse_cons, Place.after_concat]
    | @name earlier text _ _ =>
      show directory.after earlier.reverse = _
      rw [List.reverse_cons, Place.after_concat]
      exact (List.dropLast_concat ..).symm

theorem Walked.foldl_walk {before : List Step} (shape : Walked before) {steps : List Step}
    (inner : ∀ step ∈ steps, step.IsInner) :
    Walked (steps.foldl Path.walk before) ∧ ∀ directory : Place,
      directory.after (steps.foldl Path.walk before).reverse =
        (directory.after before.reverse).after steps := by
  induction steps generalizing before with
  | nil => exact ⟨shape, fun _ => rfl⟩
  | cons step rest ih =>
    rw [List.forall_mem_cons] at inner
    have ⟨later, same⟩ := ih (shape.walk inner.1) inner.2
    refine ⟨later, fun directory => (same directory).trans ?_⟩
    rw [shape.after_walk inner.1]
    rfl

/-- What a walk leaves over, in order. -/
theorem Walked.reverse_eq {before : List Step} (shape : Walked before) :
    ∃ names : List String, (∀ name ∈ names, Place.isName name = true) ∧
      (before.reverse = .root :: names.map .name ∨
        ∃ ups, before.reverse = List.replicate ups .parent ++ names.map .name) := by
  induction shape with
  | root => exact ⟨[], List.forall_mem_nil _, .inl rfl⟩
  | ups count =>
    refine ⟨[], List.forall_mem_nil _, .inr ⟨count, ?_⟩⟩
    rw [List.reverse_replicate, List.map_nil, List.append_nil]
  | @name before text _ named ih =>
    obtain ⟨names, proper, split⟩ := ih
    refine ⟨names ++ [text], ?_, ?_⟩
    · rw [List.forall_mem_append, List.forall_mem_singleton]
      exact ⟨proper, named⟩
    · rw [List.reverse_cons, List.map_append]
      refine split.imp (fun same => by rw [same]; rfl) ?_
      rintro ⟨ups, same⟩
      exact ⟨ups, by rw [same, List.append_assoc]; rfl⟩

/-! The place of a path and of its normal form. -/

theorem walked_shape (written : List Char) : Walked (walked written) := by
  refine (Walked.foldl_walk ?_ fun _ => isInner_of_mem_innerSteps).1
  split
  · exact .root
  · exact .ups 0

theorem placeFrom_eq (directory : Place) (path : Path) :
    path.placeFrom directory =
      (Tree.start directory path).after (innerSteps path.text.toList) :=
  foldl_move_pieces _ _

/-- The steps of the normal form lead where the path does. -/
theorem placeFrom_eq_after (directory : Place) (path : Path) :
    path.placeFrom directory = directory.after path.normalSteps := by
  rw [placeFrom_eq, normalSteps_eq, walked]
  by_cases slash : path.text.toList.head? = some '/'
  · rw [if_pos slash, (Walked.root.foldl_walk fun _ => isInner_of_mem_innerSteps).2,
      Tree.start, if_pos (by simpa [isAbsolute] using slash)]
    rfl
  · rw [if_neg slash, (Walked.nil.foldl_walk fun _ => isInner_of_mem_innerSteps).2,
      Tree.start, if_neg (by simpa [isAbsolute] using slash)]
    rfl

/-- A path leads where its steps do: those in front of the inner ones choose the directory. -/
theorem placeFrom_of_lead {path : Path} {lead : List Step} (opens : IsLead lead)
    (absolute : path.isAbsolute = true ↔ lead = [.root]) (directory : Place) :
    path.placeFrom directory = directory.after (lead ++ innerSteps path.text.toList) := by
  rw [placeFrom_eq, Tree.start, Place.after_append]
  cases opens with
  | root => rw [if_pos (absolute.mpr rfl)]; rfl
  | current => rw [if_neg (mt absolute.mp (by decide))]; rfl
  | none => rw [if_neg (mt absolute.mp (by decide))]; rfl

theorem placeFrom_ofSteps {lead inner : List Step} (opens : IsLead lead)
    (proper : ∀ step ∈ inner, step.IsInner) (directory : Place) :
    (ofSteps (lead ++ inner)).placeFrom directory = directory.after (lead ++ inner) := by
  rw [placeFrom_of_lead opens (isAbsolute_ofSteps opens proper), innerSteps_ofSteps opens proper]

theorem placeFrom_eq_steps (directory : Place) (path : Path) :
    path.placeFrom directory = directory.after path.steps := by
  obtain ⟨lead, opens, steps, absolute⟩ := path.exists_lead
  rw [placeFrom_of_lead opens absolute, steps]

/-! Normal forms. -/

theorem normalSteps_walked (path : Path) :
    ∃ before, Walked before ∧ path.normalSteps = before.reverse :=
  ⟨_, walked_shape path.text.toList, normalSteps_eq path⟩

theorem isInner_of_mem_relative {ups : Nat} {names : List String}
    (proper : ∀ name ∈ names, Place.isName name = true) :
    ∀ step ∈ List.replicate ups .parent ++ names.map Step.name, step.IsInner := by
  intro step member
  rcases List.mem_append.mp member with up | down
  · rw [List.eq_of_mem_replicate up]
    exact .parent
  · exact isInner_of_mem_names proper step down

theorem Walked.exists_lead {before : List Step} (shape : Walked before) :
    ∃ lead inner, IsLead lead ∧ (∀ step ∈ inner, step.IsInner) ∧
      before.reverse = lead ++ inner := by
  obtain ⟨names, proper, same | ⟨ups, same⟩⟩ := shape.reverse_eq
  · exact ⟨[.root], _, .root, isInner_of_mem_names proper, same⟩
  · exact ⟨[], _, .none, isInner_of_mem_relative proper, same⟩

theorem placeFrom_normalize (directory : Place) (path : Path) :
    path.normalize.placeFrom directory = path.placeFrom directory := by
  obtain ⟨before, shape, steps⟩ := path.normalSteps_walked
  obtain ⟨lead, inner, opens, proper, split⟩ := shape.exists_lead
  have normal : path.normalSteps = lead ++ inner := steps.trans split
  calc path.normalize.placeFrom directory
    _ = (ofSteps (lead ++ inner)).placeFrom directory := by rw [normalize, normal]
    _ = directory.after (lead ++ inner) := placeFrom_ofSteps opens proper directory
    _ = path.placeFrom directory := by rw [placeFrom_eq_after, normal]

theorem isPlain_normalize (path : Path) : path.normalize.IsPlain := by
  obtain ⟨before, shape, steps⟩ := path.normalSteps_walked
  obtain ⟨names, proper, same | ⟨ups, same⟩⟩ := shape.reverse_eq
  · have texts : (names.map Step.name).map Step.text = names := by
      rw [List.map_map]
      exact List.map_id names
    rw [normalize, steps, same, ofSteps, texts]
    exact .absolute proper
  · have texts : (List.replicate ups Step.parent ++ names.map Step.name).map Step.text =
        List.replicate ups ".." ++ names := by
      rw [List.map_append, List.map_replicate, List.map_map]
      exact congrArg _ (List.map_id names)
    rw [normalize, steps, same, ofSteps_of_isInner (isInner_of_mem_relative proper), texts]
    exact .relative ups proper

/-- A directory of the given depth. -/
def deep (depth : Nat) : Place := List.replicate depth "a"

theorem isName_deep (depth : Nat) : (deep depth).all Place.isName = true :=
  List.all_eq_true.mpr fun name member => by rw [List.eq_of_mem_replicate member]; rfl

theorem after_deep (depth ups : Nat) (names : List String) :
    (deep depth).after (List.replicate ups .parent ++ names.map .name) =
      deep (depth - ups) ++ names := by
  rw [Place.after_append, Place.after_ups, Place.after_names, deep, List.length_replicate,
    List.take_replicate, Nat.min_eq_left (Nat.sub_le ..)]
  rfl

theorem after_root (directory : Place) (names : List String) :
    directory.after (.root :: names.map .name) = names := Place.after_names [] names

/-- From a directory that is deep enough, names behind the root and names behind some `..` lead to
places of different depths. -/
theorem exists_after_ne (names others : List String) (ups : Nat) :
    ∃ directory : Place, directory.all Place.isName = true ∧
      directory.after (.root :: names.map .name) ≠
        directory.after (List.replicate ups .parent ++ others.map .name) := by
  by_contra none
  push Not at none
  have shallow := none (deep 0) (isName_deep 0)
  have below := congrArg List.length (none (deep (ups + 1)) (isName_deep (ups + 1)))
  rw [after_root, after_deep, Nat.zero_sub] at shallow
  rw [after_root, after_deep, shallow, List.length_append, List.length_append, deep,
    List.length_replicate, deep, List.length_replicate] at below
  omega

/-- What two walks leave over leads to one place from every directory only if it is the same. -/
theorem Walked.eq_of_after {before other : List Step} (shape : Walked before)
    (shape' : Walked other)
    (same : ∀ directory : Place, directory.all Place.isName = true →
      directory.after before.reverse = directory.after other.reverse) : before = other := by
  obtain ⟨names, -, first⟩ := shape.reverse_eq
  obtain ⟨others, -, second⟩ := shape'.reverse_eq
  apply List.reverse_injective
  rcases first with first | ⟨ups, first⟩ <;> rcases second with second | ⟨ups', second⟩ <;>
    rw [first, second] at same
  -- both begin at the root, then only one does, and at last neither
  · have equal := same [] rfl
    rw [after_root, after_root] at equal
    rw [first, second, equal]
  · obtain ⟨directory, proper, apart⟩ := exists_after_ne names others ups'
    exact absurd (same directory proper) apart
  · obtain ⟨directory, proper, apart⟩ := exists_after_ne others names ups
    exact absurd (same directory proper).symm apart
  · have shallow := same (deep 0) (isName_deep 0)
    have below := congrArg List.length (same (deep (ups + ups')) (isName_deep _))
    rw [after_deep, after_deep, Nat.zero_sub, Nat.zero_sub] at shallow
    have equal : names = others := List.append_cancel_left shallow
    rw [after_deep, after_deep, equal, List.length_append, List.length_append, deep,
      List.length_replicate, deep, List.length_replicate] at below
    have level : ups = ups' := by omega
    rw [first, second, equal, level]

theorem normalSteps_eq_of_samePlace {path other : Path} (same : path.SamePlace other) :
    path.normalSteps = other.normalSteps := by
  obtain ⟨before, shape, steps⟩ := path.normalSteps_walked
  obtain ⟨before', shape', steps'⟩ := other.normalSteps_walked
  rw [steps, steps']
  refine congrArg List.reverse (shape.eq_of_after shape' fun directory proper => ?_)
  rw [← steps, ← steps', ← placeFrom_eq_after, ← placeFrom_eq_after]
  exact same directory proper

/-- A path leads to the same place as another exactly if both have one normal form. -/
theorem normalize_eq_iff {path other : Path} :
    path.normalize = other.normalize ↔ path.SamePlace other := by
  constructor
  · intro same directory _
    rw [← placeFrom_normalize directory path, same, placeFrom_normalize]
  · intro same
    rw [normalize, normalize, normalSteps_eq_of_samePlace same]

theorem normalize_normalize (path : Path) : path.normalize.normalize = path.normalize :=
  normalize_eq_iff.mpr fun directory _ => placeFrom_normalize directory path

theorem same_normalize_iff {path other : Path} :
    path.normalize.same other.normalize = true ↔ path.SamePlace other := by
  rw [← normalize_eq_iff, same, beq_iff_eq]
  constructor
  · intro steps
    rw [← normalize_normalize path, ← normalize_normalize other]
    rw [normalize, normalSteps, steps, ← normalSteps, ← normalize]
  · intro equal
    rw [equal]

/-- The normal form of a path leads where the path does, from every directory; it has no `.`, and no
`..` but those that lead out of the directory in which a relative path starts; and two paths have
one normal form exactly if they lead to one place from every directory. -/
theorem normalize_isNormalForm (path : Path) :
    (∀ directory, path.normalize.placeFrom directory = path.placeFrom directory) ∧
      path.normalize.IsPlain ∧
      (∀ other, path.normalize = other.normalize ↔ path.SamePlace other) ∧
      (∀ other, path.normalize.same other.normalize = true ↔ path.SamePlace other) ∧
      path.normalize.normalize = path.normalize :=
  ⟨fun directory => placeFrom_normalize directory path, isPlain_normalize path,
    fun _ => normalize_eq_iff, fun _ => same_normalize_iff, normalize_normalize path⟩

example : (Path.mk "/../a/./b//../c/").normalize = ⟨"/a/c"⟩ := by decide

end Path

end Transclude
