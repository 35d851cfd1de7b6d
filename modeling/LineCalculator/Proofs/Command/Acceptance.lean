import LineCalculator.Run
import Mathlib.Tactic

/-!
# Accepted command lines

A command line is accepted if it asks for trees at most once, has at most one
positional argument, and holds nothing else in front of `--`.  Order and
spelling do not matter then: the run is that of the canonical command line.
Any other command line is refused at some argument, and whatever follows that
argument is not looked at.

`Arguments.add_eq_ok_iff` says what one argument can do to what has been
gathered, and `Arguments.gather_eq_ok_iff` what all of them do together.
-/

namespace LineCalculator

/-! ## What a command line consists of -/

namespace CommandLine

/-- The arguments in front of the first `--`. -/
def front (args : List String) : List String :=
  args.takeWhile (· ≠ "--")

/-- The arguments behind the first `--`. -/
def behind (args : List String) : List String :=
  (args.dropWhile (· ≠ "--")).tail

def isTreeFlag (argument : String) : Bool :=
  argument = "-t" || argument = "--tree"

/-- Whether an argument is positional in front of `--`; behind it all are. -/
def isPositional (argument : String) : Bool :=
  argument.toList.head? ≠ some '-' || argument = "-"

def positionals (args : List String) : List String :=
  (front args).filter isPositional ++ behind args

/-- The plainest way to ask for trees and for an expression. -/
def canonical (showTree : Bool) (expression : Option String) : List String :=
  (if showTree then ["--tree"] else []) ++
    match expression with
    | some text => ["--", text]
    | none => []

@[simp] theorem front_nil : front [] = [] := rfl

@[simp] theorem positionals_nil : positionals [] = [] := rfl

@[simp] theorem front_separator (args : List String) :
    front ("--" :: args) = [] := by
  simp [front]

@[simp] theorem positionals_separator (args : List String) :
    positionals ("--" :: args) = args := by
  simp [positionals, behind]

theorem front_cons {argument : String} (hargument : argument ≠ "--")
    (args : List String) : front (argument :: args) = argument :: front args := by
  simp [front, hargument]

theorem positionals_cons {argument : String} (hargument : argument ≠ "--")
    (args : List String) :
    positionals (argument :: args) =
      (if isPositional argument then [argument] else []) ++ positionals args := by
  cases hpositional : isPositional argument with
  | true => simp [positionals, front_cons hargument, behind, hargument, hpositional]
  | false => simp [positionals, front_cons hargument, behind, hargument, hpositional]

theorem isTreeFlag_iff {argument : String} :
    isTreeFlag argument = true ↔
      argument.toList = ['-', 't'] ∨
        argument.toList = '-' :: '-' :: "tree".toList := by
  simp [isTreeFlag, ← String.toList_inj]

theorem isPositional_iff {argument : String} :
    isPositional argument = true ↔
      argument.toList.head? ≠ some '-' ∨ argument.toList = ['-'] := by
  simp [isPositional, ← String.toList_inj]

theorem isPositional_eq_false_of_isTreeFlag {argument : String}
    (hflag : isTreeFlag argument = true) : isPositional argument = false := by
  simp only [isTreeFlag, Bool.or_eq_true, decide_eq_true_eq] at hflag
  rcases hflag with rfl | rfl
  · decide
  · decide

theorem isTreeFlag_eq_false_of_isPositional {argument : String}
    (hpositional : isPositional argument = true) : isTreeFlag argument = false := by
  by_contra hflag
  rw [Bool.not_eq_false] at hflag
  simp [isPositional_eq_false_of_isTreeFlag hflag] at hpositional

end CommandLine

/-- A request that ends the run before any expression is looked at.  The other
two lead to the answer to an expression and to a session. -/
def Request.isFinal : Request → Bool
  | .help | .version | .misuse _ => true
  | .once _ _ | .session _ => false

theorem Except.bind_eq_ok_iff {ε α β : Type} {first : Except ε α}
    {next : α → Except ε β} {result : β} :
    (first >>= next) = .ok result ↔
      ∃ found, first = .ok found ∧ next found = .ok result := by
  cases first <;> simp [bind, Except.bind]

theorem Except.bind_eq_error_iff {ε α β : Type} {first : Except ε α}
    {next : α → Except ε β} {fault : ε} :
    (first >>= next) = .error fault ↔
      first = .error fault ∨ ∃ found, first = .ok found ∧ next found = .error fault := by
  cases first <;> simp [bind, Except.bind]

theorem Flag.ofLetter?_eq_tree_iff {letter : Char} :
    Flag.ofLetter? letter = some .tree ↔ letter = 't' := by
  unfold Flag.ofLetter?
  split <;> simp_all

theorem Flag.ofName?_eq_tree_iff {name : String} :
    Flag.ofName? name = some .tree ↔ name = "tree" := by
  unfold Flag.ofName?
  split <;> simp_all

namespace Arguments

open CommandLine

variable {arguments gathered : Arguments}

/-! ## One argument -/

/-- Reads one argument in front of `--`. -/
def add (arguments : Arguments) (argument : String) : Except Request Arguments :=
  match argument.toList with
  | '-' :: '-' :: text => arguments.addNamed text
  | '-' :: letter :: letters => arguments.addLetters (letter :: letters)
  | _ => arguments.addPositional argument

theorem gather_separator (arguments : Arguments) (args : List String) :
    arguments.gather ("--" :: args) = arguments.addPositionals args := by
  simp [gather]

theorem gather_cons {argument : String} (hargument : argument ≠ "--")
    (arguments : Arguments) (args : List String) :
    arguments.gather (argument :: args) =
      arguments.add argument >>= fun gathered => gathered.gather args := by
  rw [gather, add]
  split
  next hchars => exact absurd (String.toList_inj.mp hchars) hargument
  next hchars => simp [hchars]
  next hchars => simp [hchars]
  next hnamed hletters =>
    split
    next hchars => exact absurd hchars (hnamed _)
    next hchars => exact absurd hchars (hletters _ _)
    next => rfl

theorem addFlag_eq_ok_iff {flag : Flag} :
    arguments.addFlag flag = .ok gathered ↔
      flag = .tree ∧ arguments.showTree = false ∧
        gathered = { arguments with showTree := true } := by
  cases flag with
  | help => simp [addFlag]
  | version => simp [addFlag]
  | tree =>
      cases hshow : arguments.showTree with
      | true => simp [addFlag, hshow]
      | false => simp [addFlag, hshow, eq_comm]

theorem addPositional_eq_ok_iff {argument : String} :
    arguments.addPositional argument = .ok gathered ↔
      arguments.expression = none ∧
        gathered = { arguments with expression := some argument } := by
  cases hexpression : arguments.expression with
  | none => simp [addPositional, hexpression, eq_comm]
  | some text => simp [addPositional, hexpression]

theorem addLetters_cons_eq_ok_iff {letter : Char} {letters : List Char} :
    arguments.addLetters (letter :: letters) = .ok gathered ↔
      letter = 't' ∧ arguments.showTree = false ∧
        addLetters { arguments with showTree := true } letters = .ok gathered := by
  rw [addLetters, ← Flag.ofLetter?_eq_tree_iff]
  cases Flag.ofLetter? letter with
  | none => simp
  | some flag =>
      simp [Except.bind_eq_ok_iff, addFlag_eq_ok_iff, and_assoc]

/-- Behind the letter of the tree flag no other letter is possible. -/
theorem addLetters_eq_ok_iff {letter : Char} {letters : List Char} :
    arguments.addLetters (letter :: letters) = .ok gathered ↔
      letter :: letters = ['t'] ∧ arguments.showTree = false ∧
        gathered = { arguments with showTree := true } := by
  rw [addLetters_cons_eq_ok_iff]
  cases letters with
  | nil => simp [addLetters, @eq_comm _ gathered]
  | cons next rest => simp [addLetters_cons_eq_ok_iff]

theorem addNamed_eq_ok_iff {text : List Char} :
    arguments.addNamed text = .ok gathered ↔
      text = "tree".toList ∧ arguments.showTree = false ∧
        gathered = { arguments with showTree := true } := by
  constructor
  · intro hadd
    simp only [addNamed] at hadd
    split at hadd
    next => simp at hadd
    next flag hflag hvalue =>
      obtain ⟨rfl, hshow, hgathered⟩ := addFlag_eq_ok_iff.mp hadd
      -- No equals sign follows the name, so the name is all of the text.
      have htext := List.takeWhile_append_dropWhile (p := (· ≠ '=')) (l := text)
      rw [hvalue, List.append_nil] at htext
      rw [htext, Flag.ofName?_eq_tree_iff] at hflag
      exact ⟨by simpa using congrArg String.toList hflag, hshow, hgathered⟩
    next => simp at hadd
  · rintro ⟨rfl, hshow, rfl⟩
    exact addFlag_eq_ok_iff.mpr ⟨rfl, hshow, rfl⟩

theorem add_eq_ok_iff {argument : String} :
    arguments.add argument = .ok gathered ↔
      (isTreeFlag argument = true ∧ arguments.showTree = false ∧
        gathered = { arguments with showTree := true }) ∨
      isPositional argument = true ∧ arguments.expression = none ∧
        gathered = { arguments with expression := some argument } := by
  rw [isTreeFlag_iff, isPositional_iff, add]
  split
  next text hchars => simp [hchars, addNamed_eq_ok_iff]
  next letter letters hdash hchars =>
    rw [hchars, addLetters_eq_ok_iff]
    simp [show letter ≠ '-' from hdash]
  next hnamed hletters =>
    rw [addPositional_eq_ok_iff]
    have hplain : argument.toList.head? ≠ some '-' ∨ argument.toList = ['-'] := by
      cases hchars : argument.toList with
      | nil => simp
      | cons c rest =>
          cases rest with
          | nil => simp [em']
          | cons letter letters =>
              refine .inl ?_
              rintro ⟨⟩
              exact hletters letter letters hchars
    have hflag : ¬(argument.toList = ['-', 't'] ∨
        argument.toList = '-' :: '-' :: "tree".toList) := by
      rintro (hchars | hchars)
      · exact hletters _ _ hchars
      · exact hletters _ _ hchars
    simp only [hplain, hflag, false_and, false_or, true_and]

/-! ## All arguments -/

/-- What may still follow once `arguments` have been gathered. -/
@[mk_iff] structure Admits (arguments : Arguments) (args : List String) : Prop where
  known : ∀ argument ∈ front args,
    isTreeFlag argument = true ∨ isPositional argument = true
  flags : arguments.showTree.toNat + (front args).countP isTreeFlag ≤ 1
  positionals :
    arguments.expression.toList.length + (positionals args).length ≤ 1

/-- What has been gathered once `args` have been read as well. -/
def extend (arguments : Arguments) (args : List String) : Arguments :=
  ⟨arguments.showTree || (front args).any isTreeFlag,
    arguments.expression.or (positionals args).head?⟩

theorem admits_cons_treeFlag {argument : String} {args : List String}
    (hargument : argument ≠ "--") (hflag : isTreeFlag argument = true) :
    arguments.Admits (argument :: args) ↔
      arguments.showTree = false ∧
        Admits { arguments with showTree := true } args := by
  have hpositional := isPositional_eq_false_of_isTreeFlag hflag
  simp only [admits_iff, front_cons hargument, positionals_cons hargument,
    hpositional, List.forall_mem_cons, hflag, List.countP_cons_of_pos]
  cases arguments.showTree with
  | true => simp
  | false => simp [Nat.add_comm]

theorem admits_cons_positional {argument : String} {args : List String}
    (hargument : argument ≠ "--") (hpositional : isPositional argument = true) :
    arguments.Admits (argument :: args) ↔
      arguments.expression = none ∧
        Admits { arguments with expression := some argument } args := by
  have hflag := isTreeFlag_eq_false_of_isPositional hpositional
  simp only [admits_iff, front_cons hargument, positionals_cons hargument,
    hpositional, List.forall_mem_cons, hflag]
  cases arguments.expression with
  | some text => simp
  | none => simp [Nat.add_comm, hflag]

theorem extend_cons_treeFlag {argument : String} {args : List String}
    (hargument : argument ≠ "--") (hflag : isTreeFlag argument = true) :
    arguments.extend (argument :: args) =
      extend { arguments with showTree := true } args := by
  have hpositional := isPositional_eq_false_of_isTreeFlag hflag
  simp [extend, front_cons hargument, positionals_cons hargument, hpositional,
    hflag]

theorem extend_cons_positional {argument : String} {args : List String}
    (hargument : argument ≠ "--") (hpositional : isPositional argument = true)
    (hnone : arguments.expression = none) :
    arguments.extend (argument :: args) =
      extend { arguments with expression := some argument } args := by
  have hflag := isTreeFlag_eq_false_of_isPositional hpositional
  simp [extend, front_cons hargument, positionals_cons hargument, hpositional,
    hflag, hnone]

theorem addPositionals_eq_ok_iff {args : List String} :
    arguments.addPositionals args = .ok gathered ↔
      arguments.expression.toList.length + args.length ≤ 1 ∧
        gathered = { arguments with
          expression := arguments.expression.or args.head? } := by
  induction args generalizing arguments with
  | nil =>
      rcases arguments with ⟨showTree, expression⟩
      cases expression with
      | none => simp [addPositionals, pure, Except.pure, eq_comm]
      | some text => simp [addPositionals, pure, Except.pure, eq_comm]
  | cons argument args ih =>
      have hcons : arguments.addPositionals (argument :: args) =
          arguments.addPositional argument >>= fun next =>
            next.addPositionals args := List.foldlM_cons
      rw [hcons, Except.bind_eq_ok_iff]
      simp only [addPositional_eq_ok_iff, ih]
      cases arguments.expression with
      | none => simp
      | some text => simp

theorem gather_eq_ok_iff {args : List String} :
    arguments.gather args = .ok gathered ↔
      arguments.Admits args ∧ gathered = arguments.extend args := by
  induction args generalizing arguments with
  | nil =>
      have hnil : arguments.Admits [] ∧ arguments.extend [] = arguments := by
        rcases arguments with ⟨showTree, expression⟩
        cases expression with
        | none => simp [admits_iff, extend, Bool.toNat_le]
        | some text => simp [admits_iff, extend, Bool.toNat_le]
      simp [gather, hnil, eq_comm]
  | cons argument args ih =>
      by_cases hargument : argument = "--"
      · subst hargument
        rw [gather_separator, addPositionals_eq_ok_iff]
        simp [admits_iff, extend, Bool.toNat_le]
      · rw [gather_cons hargument, Except.bind_eq_ok_iff]
        simp only [add_eq_ok_iff, ih]
        -- The argument is the flag, is positional, or has no place at all.
        by_cases hflag : isTreeFlag argument = true
        · have hpositional := isPositional_eq_false_of_isTreeFlag hflag
          rw [admits_cons_treeFlag hargument hflag,
            extend_cons_treeFlag hargument hflag]
          simp [hflag, hpositional, and_assoc]
        · by_cases hpositional : isPositional argument = true
          · rw [admits_cons_positional hargument hpositional]
            by_cases hnone : arguments.expression = none
            · rw [extend_cons_positional hargument hpositional hnone]
              simp [hflag, hpositional, hnone]
            · simp [hflag, hpositional, hnone]
          · simp [hflag, hpositional, admits_iff, front_cons hargument]

/-! ## Faults are final -/

/-- A failure is a request that ends the run. -/
def FailsFinally (outcome : Except Request Arguments) : Prop :=
  ∀ request, outcome = .error request → request.isFinal = true

theorem FailsFinally.bind {first : Except Request Arguments}
    {next : Arguments → Except Request Arguments} (hfirst : FailsFinally first)
    (hnext : ∀ gathered, FailsFinally (next gathered)) :
    FailsFinally (first >>= next) := by
  intro request hrequest
  rcases Except.bind_eq_error_iff.mp hrequest with herror | ⟨gathered, _, herror⟩
  · exact hfirst request herror
  · exact hnext gathered request herror

theorem failsFinally_ok (arguments : Arguments) : FailsFinally (.ok arguments) := by
  intro request hrequest
  cases hrequest

theorem failsFinally_error {request : Request} (hfinal : request.isFinal = true) :
    FailsFinally (.error request) := by
  rintro _ ⟨⟩
  exact hfinal

theorem addFlag_failsFinally (arguments : Arguments) (flag : Flag) :
    FailsFinally (arguments.addFlag flag) := by
  unfold addFlag
  split
  · exact failsFinally_error rfl
  · exact failsFinally_error rfl
  · split
    · exact failsFinally_error rfl
    · exact failsFinally_ok _

theorem addPositional_failsFinally (arguments : Arguments) (argument : String) :
    FailsFinally (arguments.addPositional argument) := by
  unfold addPositional
  split
  · exact failsFinally_ok _
  · exact failsFinally_error rfl

theorem addPositionals_failsFinally (arguments : Arguments) (args : List String) :
    FailsFinally (arguments.addPositionals args) := by
  induction args generalizing arguments with
  | nil => exact failsFinally_ok arguments
  | cons argument args ih =>
      exact (addPositional_failsFinally arguments argument).bind ih

theorem addLetters_failsFinally (arguments : Arguments) (letters : List Char) :
    FailsFinally (arguments.addLetters letters) := by
  induction letters generalizing arguments with
  | nil => exact failsFinally_ok arguments
  | cons letter letters ih =>
      rw [addLetters]
      split
      · exact failsFinally_error rfl
      · exact (addFlag_failsFinally arguments _).bind ih

theorem addNamed_failsFinally (arguments : Arguments) (text : List Char) :
    FailsFinally (arguments.addNamed text) := by
  simp only [addNamed]
  split
  · exact failsFinally_error rfl
  · exact addFlag_failsFinally arguments _
  · exact failsFinally_error rfl

theorem gather_failsFinally (arguments : Arguments) (args : List String) :
    FailsFinally (arguments.gather args) := by
  induction args generalizing arguments with
  | nil => exact failsFinally_ok arguments
  | cons argument args ih =>
      rw [gather]
      split
      · exact addPositionals_failsFinally arguments args
      · exact (addNamed_failsFinally arguments _).bind ih
      · exact (addLetters_failsFinally arguments _).bind ih
      · exact (addPositional_failsFinally arguments argument).bind ih

/-- The argument that is refused is found from the left, so whatever follows it
does not count. -/
theorem gather_append_of_error {args : List String} {request : Request}
    (hgather : arguments.gather args = .error request) (more : List String) :
    arguments.gather (args ++ more) = .error request := by
  induction args generalizing arguments with
  | nil => simp [gather] at hgather
  | cons argument args ih =>
      rw [List.cons_append]
      by_cases hargument : argument = "--"
      · subst hargument
        rw [gather_separator] at hgather ⊢
        rw [addPositionals, List.foldlM_append, Except.bind_eq_error_iff]
        exact .inl hgather
      · rw [gather_cons hargument, Except.bind_eq_error_iff] at hgather ⊢
        rcases hgather with hadd | ⟨gathered, hadd, hrest⟩
        · exact .inl hadd
        · exact .inr ⟨gathered, hadd, ih hrest⟩

theorem gather_canonical (showTree : Bool) (expression : Option String) :
    gather ⟨false, none⟩ (canonical showTree expression) =
      .ok ⟨showTree, expression⟩ := by
  cases showTree <;> cases expression <;> rfl

end Arguments

/-! ## Requests -/

namespace Request

open CommandLine

variable {args : List String} {gathered : Arguments}

theorem ofArguments_of_gather
    (hgather : Arguments.gather ⟨false, none⟩ args = .ok gathered) :
    ofArguments args =
      match gathered.expression with
      | some text => .once gathered.showTree text
      | none => .session gathered.showTree := by
  rcases gathered with ⟨showTree, expression⟩
  cases expression with
  | none => simp [ofArguments, hgather]
  | some text => simp [ofArguments, hgather]

theorem ofArguments_of_error {request : Request}
    (hgather : Arguments.gather ⟨false, none⟩ args = .error request) :
    ofArguments args = request := by
  simp [ofArguments, hgather]

theorem isFinal_ofArguments_eq_false_iff :
    (ofArguments args).isFinal = false ↔
      ∃ gathered, Arguments.gather ⟨false, none⟩ args = .ok gathered := by
  cases hgather : Arguments.gather ⟨false, none⟩ args with
  | error request =>
      have hfinal := Arguments.gather_failsFinally _ _ request hgather
      simp [ofArguments_of_error hgather, hfinal]
  | ok gathered =>
      rw [ofArguments_of_gather hgather]
      cases gathered.expression with
      | none => simp [isFinal]
      | some text => simp [isFinal]

theorem ofArguments_eq_canonical (hwork : (ofArguments args).isFinal = false) :
    ofArguments args =
      ofArguments (canonical ((front args).any isTreeFlag)
        (positionals args).head?) := by
  obtain ⟨gathered, hgather⟩ := isFinal_ofArguments_eq_false_iff.mp hwork
  have hextend := (Arguments.gather_eq_ok_iff.mp hgather).2
  rw [ofArguments_of_gather hgather,
    ofArguments_of_gather (Arguments.gather_canonical _ _), hextend]
  simp [Arguments.extend]

/-- What an accepted command line makes of a run. -/
theorem run_of_accepted (hwork : (ofArguments args).isFinal = false)
    (setting : Setting) (input : List UInt8) :
    LineCalculator.run setting args input =
      match (positionals args).head? with
      | some expression =>
          answer setting.threshold ((front args).any isTreeFlag) expression
      | none =>
          Session.run ⟨(front args).any isTreeFlag, setting.threshold,
            setting.prompts⟩ input := by
  rw [LineCalculator.run, ofArguments_eq_canonical hwork,
    ofArguments_of_gather (Arguments.gather_canonical _ _)]
  cases (positionals args).head? with
  | none => rfl
  | some expression => rfl

theorem ofArguments_append (hfinal : (ofArguments args).isFinal = true)
    (more : List String) : ofArguments (args ++ more) = ofArguments args := by
  cases hgather : Arguments.gather ⟨false, none⟩ args with
  | ok gathered =>
      simp [isFinal_ofArguments_eq_false_iff.mpr ⟨gathered, hgather⟩] at hfinal
  | error request =>
      rw [ofArguments_of_error hgather,
        ofArguments_of_error (Arguments.gather_append_of_error hgather more)]

theorem run_of_isFinal {request : Request} (hfinal : request.isFinal = true)
    (setting : Setting) (input : List UInt8) :
    ((request.run setting input).exit = 0 ∧
        ((request.run setting input).stdout = helpText ∨
          (request.run setting input).stdout = versionText) ∨
      (request.run setting input).exit = 2 ∧
        (request.run setting input).stdout = "") ∧
      ∀ other, request.run setting other = request.run setting input := by
  cases request with
  | help => exact ⟨.inl ⟨rfl, .inl rfl⟩, fun _ => rfl⟩
  | version => exact ⟨.inl ⟨rfl, .inr rfl⟩, fun _ => rfl⟩
  | misuse fault => exact ⟨.inr ⟨rfl, rfl⟩, fun _ => rfl⟩
  | once showTree expression => simp [isFinal] at hfinal
  | session showTree => simp [isFinal] at hfinal

end Request

namespace CommandLine

/-- A command line without help, version and faults is worth its flag and its
positional argument, in whatever order they stand: the run answers that
argument, or holds a session if there is none.  Any other command line ends the
run at once, and so does every longer one that begins with it. -/
theorem acceptance_and_finality (args : List String) :
    ((Request.ofArguments args).isFinal = false ↔
        (∀ argument ∈ front args,
          isTreeFlag argument = true ∨ isPositional argument = true) ∧
          (front args).countP isTreeFlag ≤ 1 ∧ (positionals args).length ≤ 1) ∧
      ((Request.ofArguments args).isFinal = false → ∀ setting input,
        (run setting args input =
          match (positionals args).head? with
          | some expression =>
              answer setting.threshold ((front args).any isTreeFlag) expression
          | none =>
              Session.run ⟨(front args).any isTreeFlag, setting.threshold,
                setting.prompts⟩ input) ∧
          run setting args input =
            run setting (canonical ((front args).any isTreeFlag)
              (positionals args).head?) input) ∧
      ((Request.ofArguments args).isFinal = true → ∀ setting input,
        ((run setting args input).exit = 0 ∧
            ((run setting args input).stdout = helpText ∨
              (run setting args input).stdout = versionText) ∨
          (run setting args input).exit = 2 ∧
            (run setting args input).stdout = "") ∧
          (∀ other, run setting args other = run setting args input) ∧
          ∀ more, run setting (args ++ more) input = run setting args input) := by
  refine ⟨?_, ?_, ?_⟩
  · rw [Request.isFinal_ofArguments_eq_false_iff]
    simp [Arguments.gather_eq_ok_iff, Arguments.admits_iff]
  · intro hwork setting input
    refine ⟨Request.run_of_accepted hwork setting input, ?_⟩
    rw [run, run, Request.ofArguments_eq_canonical hwork]
  · intro hfinal setting input
    obtain ⟨hreport, hinput⟩ := Request.run_of_isFinal hfinal setting input
    refine ⟨hreport, hinput, ?_⟩
    intro more
    rw [run, run, Request.ofArguments_append hfinal more]

/-- The first two command lines are accepted, the last is refused at `-x`. -/
theorem acceptance_and_finality_swapped :
    (∀ setting input,
      run setting ["7", "-t"] input = answer setting.threshold true "7" ∧
        run setting ["7", "-t"] input =
          run setting ["--tree", "--", "7"] input) ∧
      (∀ setting input, run setting ["-t", "--"] input =
        Session.run ⟨true, setting.threshold, setting.prompts⟩ input) ∧
      ∀ setting more input, run setting (["-t", "-", "-x"] ++ more) input =
        run setting ["-t", "-", "-x"] input := by
  refine ⟨?_, ?_, ?_⟩
  · intro setting input
    exact (acceptance_and_finality ["7", "-t"]).2.1 rfl setting input
  · intro setting input
    exact ((acceptance_and_finality ["-t", "--"]).2.1 rfl setting input).1
  · intro setting more input
    exact ((acceptance_and_finality ["-t", "-", "-x"]).2.2 rfl setting input).2.2 more

end CommandLine

end LineCalculator
