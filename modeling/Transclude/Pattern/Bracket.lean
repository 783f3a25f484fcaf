import Transclude.Pattern.Atom

/-!
Sets written in brackets: members, ranges, nested sets, and the operators on sets, which all bind
alike and to the left.
-/

namespace Transclude.Pattern.Bracket

/-- The members read so far: their union, their number, and how deep they nest. -/
structure Members where
  set : CharSet := .empty
  count : Nat := 0
  depth : Nat := 0
  deriving DecidableEq, Repr, Inhabited

def Members.add (members : Members) (set : CharSet) (depth : Nat) : Members where
  set := if members.count = 0 then set else .union members.set set
  count := members.count + 1
  depth := max members.depth depth

def Members.operandDepth (members : Members) : Nat :=
  if members.count ≤ 1 then members.depth else members.depth + 1

inductive Operator where
  | intersection
  | difference
  | symmetricDifference
  deriving DecidableEq, Repr, Inhabited

def Operator.apply : Operator → CharSet → CharSet → CharSet
  | intersection => .intersection
  | difference => .difference
  | symmetricDifference => .symmetricDifference

/-- A bracket that is still open: what came before it, whether its complement is meant, and the
operand that waits for the members now being read. -/
structure Open where
  outer : Members
  negated : Bool
  waiting : Option (CharSet × Nat × Operator)
  deriving DecidableEq, Repr, Inhabited

/-- The members now being read, and the open brackets around them, the innermost first. -/
structure Reading where
  members : Members
  opened : List Open
  deriving DecidableEq, Repr, Inhabited

def operand (flags : Flags) (waiting : Option (CharSet × Nat × Operator)) (members : Members) :
    CharSet × Nat :=
  match waiting with
  | none => (members.set, members.operandDepth)
  | some (left, depth, operator) =>
    (operator.apply (flags.fold left) (flags.fold members.set),
      max depth members.operandDepth + 1)

/-- The hyphens and the closing bracket that are literal at the start of a set. -/
def literalStart (verbose : Bool) (members : Members) : List Char → Members × List Char
  | [] => (members, [])
  | c :: rest =>
    if c = '-' then
      literalStart verbose (members.add (.single '-') 0) (skip verbose rest)
    else if c = ']' && members.count == 0 then
      (members.add (.single ']') 0, skip verbose rest)
    else (members, c :: rest)
termination_by input => input.length
decreasing_by exact Nat.lt_succ_of_le (skip_length verbose rest)

/-- Reads the start of a set behind its bracket. -/
def enter (verbose : Bool) (reading : Reading) (input : List Char) : Reading × List Char :=
  let input := skip verbose input
  let (negated, input) :=
    match input with
    | '^' :: rest => (true, skip verbose rest)
    | _ => (false, input)
  let (members, rest) := literalStart verbose {} input
  (⟨members, ⟨reading.members, negated, none⟩ :: reading.opened⟩, rest)

/-- The set of a name between colons. -/
def classSet? (name : String) : Option CharSet :=
  match name with
  | "alnum" => some (.ofRanges [('0', '9'), ('A', 'Z'), ('a', 'z')])
  | "alpha" => some (.ofRanges [('A', 'Z'), ('a', 'z')])
  | "ascii" => some .ascii
  | "blank" => some (.ofRanges [('\t', '\t'), (' ', ' ')])
  | "cntrl" => some (.ofRanges [('\x00', '\x1f'), ('\x7f', '\x7f')])
  | "digit" => some .asciiDigit
  | "graph" => some (.range '!' '~')
  | "lower" => some (.range 'a' 'z')
  | "print" => some (.range ' ' '~')
  | "punct" => some (.ofRanges [('!', '/'), (':', '@'), ('[', '\x60'), ('\x7b', '~')])
  | "space" => some .asciiBlank
  | "upper" => some (.range 'A' 'Z')
  | "word" => some .asciiWord
  | "xdigit" => some (.ofRanges [('0', '9'), ('A', 'F'), ('a', 'f')])
  | _ => none

/-- A named class behind its bracket: the set, whether it is negated, and what follows. What only
looks like a named class is none. -/
def namedClass? (input : List Char) : Option (CharSet × Bool × List Char) :=
  match input with
  | ':' :: rest =>
    let (negated, rest) :=
      match rest with
      | '^' :: more => (true, more)
      | _ => (false, rest)
    match rest.dropWhile (· != ':') with
    | ':' :: ']' :: after =>
      (classSet? (String.ofList (rest.takeWhile (· != ':')))).map (·, negated, after)
    | _ => none
  | _ => none

/-- One end of a range, or a member of its own. -/
def item? (verbose : Bool) : List Char → Option (Atom × List Char)
  | [] => none
  | '\\' :: rest => escape? verbose rest
  | c :: rest => some (.literal c false, rest)

/-- An atom as a member of a set; case is folded for the set as a whole. -/
def memberSet? (flags : Flags) : Atom → Option CharSet
  | .literal c _ => if !flags.unicode && c.toNat > 127 then none else some (.single c)
  | .shorthand kind negated => Atom.set? flags (.shorthand kind negated)
  | .named set negated => Atom.set? flags (.named set negated)
  | _ => none

/-- A member or a range. A hyphen before a closing bracket or a second hyphen starts no range. -/
def member? (flags : Flags) (input : List Char) : Option (CharSet × List Char) := do
  let (first, rest) ← item? flags.verbose input
  match skip flags.verbose rest with
  | [] => none
  | '-' :: behind =>
    match skip flags.verbose behind with
    | [] => none
    | c :: more =>
      if c = ']' || c = '-' then return (← memberSet? flags first, '-' :: behind)
      else
        let (last, after) ← item? flags.verbose (c :: more)
        match first, last with
        | .literal low _, .literal high _ =>
          if low ≤ high then
            let _ ← memberSet? flags first
            let _ ← memberSet? flags last
            return (.range low high, after)
          else none
        | _, _ => none
  | other => return (← memberSet? flags first, other)

/-- What follows a step: more of the set, or the finished set with its depth. -/
inductive Progress where
  | more (reading : Reading)
  | done (set : CharSet) (depth : Nat)

/-- The members so far become the left operand of an operator. -/
def operate (flags : Flags) (operator : Operator) (reading : Reading) : Reading :=
  match reading.opened with
  | [] => reading
  | bracket :: outer =>
    let (left, depth) := operand flags bracket.waiting reading.members
    ⟨{}, { bracket with waiting := some (left, depth, operator) } :: outer⟩

def close? (flags : Flags) (reading : Reading) : Option Progress :=
  match reading.opened with
  | [] => none
  | bracket :: outer => do
    let (set, depth) := operand flags bracket.waiting reading.members
    let set ← flags.negate? bracket.negated (flags.fold set)
    if outer.isEmpty then return .done set (depth + 1)
    else return .more ⟨bracket.outer.add set (depth + 1), outer⟩

def step? (flags : Flags) (reading : Reading) : List Char → Option (Progress × List Char)
  | [] => none
  | '[' :: rest =>
    match namedClass? rest with
    | some (set, negated, after) => do
      let set ← flags.negate? negated (flags.fold set)
      return (.more { reading with members := reading.members.add set 0 }, after)
    | none =>
      let (inner, after) := enter flags.verbose reading rest
      some (.more inner, after)
  | ']' :: rest => (close? flags reading).map (·, rest)
  | '&' :: '&' :: rest => some (.more (operate flags .intersection reading), rest)
  | '-' :: '-' :: rest => some (.more (operate flags .difference reading), rest)
  | '~' :: '~' :: rest => some (.more (operate flags .symmetricDifference reading), rest)
  | input => do
    let (set, rest) ← member? flags input
    return (.more { reading with members := reading.members.add set 0 }, rest)

/-- Reads a set to its end; every step takes at least one character. -/
def readOn? (flags : Flags) : Nat → Reading → List Char → Option (CharSet × Nat × List Char)
  | 0, _, _ => none
  | fuel + 1, reading, input =>
    match step? flags reading (skip flags.verbose input) with
    | none => none
    | some (.done set depth, rest) => some (set, depth, rest)
    | some (.more reading, rest) => readOn? flags fuel reading rest

/-- The set behind an opening bracket, how deep it nests, and what follows it. -/
def read? (flags : Flags) (input : List Char) : Option (CharSet × Nat × List Char) :=
  let (reading, rest) := enter flags.verbose ⟨{}, []⟩ input
  readOn? flags (input.length + 1) reading rest

end Transclude.Pattern.Bracket
