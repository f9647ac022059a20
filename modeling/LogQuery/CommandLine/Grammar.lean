/-
Grammars of command lines.

A grammar says which options a program has and what else its arguments may
be: nothing, one operand, or the name of a command with the arguments of that
command. Options may stand anywhere. A long option may be cut short as long
as no other one starts in the same way, a value may be attached to its
option, and short options may share one dash. After `--` nothing is an
option. Arguments that mean nothing are handed back.
-/
import LogQuery.Text.Numeral
import LogQuery.Text.Quoted

namespace LogQuery.CommandLine

open Text

-- ================================================================== faults

/-- Why a value does not suit its argument. -/
inductive BadValue where
  | noNumber (text : String)
  | noChoice (text : String) (choices : List String)
deriving DecidableEq, Repr

/-- What is wrong with the arguments. An argument is called by the names that
it goes under. -/
inductive Fault where
  /-- An option is cut so short that it could be several. -/
  | ambiguous (arg : String) (names : List String)
  /-- An option lacks its value. -/
  | missingValue (argument : List String)
  /-- An option that takes no value has one attached. -/
  | needlessValue (argument : List String) (value : String)
  | badValue (argument : List String) (value : BadValue)
  /-- No command is named. -/
  | missingCommand (label : String)
  /-- Some arguments mean nothing. -/
  | unknown (args : List String)
deriving DecidableEq, Repr

/-- The report of a value that does not suit. -/
def BadValue.message : BadValue → String
  | noNumber text => "invalid float value: " ++ quoted text
  | noChoice text choices =>
    "invalid choice: " ++ quoted text ++ " (choose from "
      ++ String.intercalate ", " (choices.map quoted) ++ ")"

/-- The report of a fault. -/
def Fault.message : Fault → String
  | ambiguous arg names =>
    "ambiguous option: " ++ arg ++ " could match "
      ++ String.intercalate ", " names
  | missingValue argument => about argument "expected one argument"
  | needlessValue argument value =>
    about argument ("ignored explicit argument " ++ quoted value)
  | badValue argument value => about argument value.message
  | missingCommand label =>
    "the following arguments are required: " ++ label
  | unknown args =>
    "unrecognized arguments: " ++ String.intercalate " " args
where
  /-- A report about one argument. -/
  about (argument : List String) (message : String) : String :=
    "argument " ++ String.intercalate "/" argument ++ ": " ++ message

/-- Why reading ends early: because of a fault, or because the arguments ask
for a text and nothing else. -/
inductive Stop where
  | fault (program usage : String) (f : Fault)
  | answer (text : String)
deriving DecidableEq, Repr

-- ================================================================ grammars

/-- What an option does to what has been read so far. An option that takes a
value gets none if `--` is attached to it, the end of the options. -/
inductive Effect (σ : Type) where
  | set (f : σ → σ)
  | take (valueName : String) (f : Option String → Except BadValue (σ → σ))
  | answer (text : String)
  | help

/-- An option: its names, what it does, and what it is for. -/
structure OptionRule (σ : Type) where
  names : List String
  effect : Effect σ
  purpose : String

/-- Reads arguments and hands back those that mean nothing. -/
abbrev Reader (α : Type) := List String → Except Stop (α × List String)

/-- What may stand among the options. -/
inductive Operand (χ : Type) where
  | none (c : χ)
  | one (label : String) (default : χ) (read : String → χ)
  | command (label : String) (choices : List (String × Reader χ))

/-- The arguments of a program. Options are gathered in a `σ`, the operand
gives a `χ`. -/
structure Grammar (σ χ : Type) where
  program : String
  purpose : String
  options : List (OptionRule σ)
  operand : Operand χ

-- =================================================================== usage

/-- How an option is written in a summary. -/
def OptionRule.usage (rule : OptionRule σ) : String :=
  let name := rule.names.headD ""
  match rule.effect with
  | .take valueName _ => name ++ " " ++ valueName
  | _ => name

/-- How the operand is written in a summary. -/
def Operand.usage : Operand χ → List String
  | .none _ => []
  | .one label .. => ["[" ++ label ++ "]"]
  | .command _ choices =>
    ["\x7b" ++ String.intercalate "," (choices.map (·.1)) ++ "\x7d ..."]

namespace Grammar

variable {σ χ : Type}

/-- A summary of the arguments. -/
def usage (g : Grammar σ χ) : String :=
  String.intercalate " " (["usage:", g.program]
    ++ g.options.map (fun rule => "[" ++ rule.usage ++ "]")
    ++ g.operand.usage)

/-- The summary, and what the program and its options are for. -/
def help (g : Grammar σ χ) : String :=
  let line (rule : OptionRule σ) : String :=
    "  " ++ String.intercalate ", " rule.names ++ "\n      "
      ++ rule.purpose ++ "\n"
  g.usage ++ "\n\n" ++ g.purpose ++ "\n\noptions:\n"
    ++ String.join (g.options.map line)

/-- Reading ends because of a fault. -/
def stop (g : Grammar σ χ) (f : Fault) : Stop := .fault g.program g.usage f

-- ==================================================================== marks

/-- The names of the options, each with its option. -/
def names (g : Grammar σ χ) : List (String × OptionRule σ) :=
  g.options.flatMap fun rule => rule.names.map (·, rule)

/-- Characters that are written together with the name of an option, after
an equals sign or right after a short name. -/
inductive Attached where
  | nothing
  | value (toShortName : Bool) (cs : List Char)

/-- An option that an argument may name. -/
structure Candidate (σ : Type) where
  name : String
  rule : OptionRule σ
  attached : Attached

/-- What an argument is: a word, the mark after which all are words, or an
option, known or not. -/
inductive Mark (σ : Type) where
  | word
  | dashes
  | option (rule : OptionRule σ) (attached : Attached)
  | unknownOption

/-- An argument and what it is. -/
structure Marked (σ : Type) where
  text : String
  mark : Mark σ

/-- Whether a name is short: after one dash. -/
def isShort (name : List Char) : Bool := name[1]? ≠ some '-'

/-- What stands before the first equals sign, and what is attached by it. -/
def splitEquals (cs : List Char) : List Char × Attached :=
  let name := cs.takeWhile (· ≠ '=')
  match cs.drop name.length with
  | _ :: value => (name, .value (isShort name) value)
  | [] => (name, .nothing)

/-- The options that an argument with two dashes may name: those that start
with it. -/
def longCandidates (g : Grammar σ χ) (cs : List Char) :
    List (Candidate σ) :=
  let (start, attached) := splitEquals cs
  (g.names.filter fun x => start.isPrefixOf x.1.toList).map fun x =>
    ⟨x.1, x.2, attached⟩

/-- The options that an argument with one dash may name: one of a single
letter with something attached, or those that start with it. -/
def shortCandidates (g : Grammar σ χ) (cs : List Char) :
    List (Candidate σ) :=
  g.names.filterMap fun x =>
    if x.1.toList = cs.take 2 then some ⟨x.1, x.2, .value true (cs.drop 2)⟩
    else if cs.isPrefixOf x.1.toList then some ⟨x.1, x.2, .nothing⟩
    else none

/-- The spelling of a negative number. A line feed may follow it. -/
def isNegativeNumber (cs : List Char) : Bool :=
  match (if cs.getLast? = some '\n' then cs.dropLast else cs) with
  | '-' :: body =>
    match body.dropWhile decimals.contains with
    | [] => !body.isEmpty
    | '.' :: fraction =>
      !fraction.isEmpty && fraction.all decimals.contains
    | _ => false
  | _ => false

/-- What an argument is that is not the end of the options. -/
def mark (g : Grammar σ χ) (arg : String) : Except Fault (Mark σ) :=
  match arg.toList, g.names.lookup arg with
  | '-' :: _, some rule => .ok (.option rule .nothing)
  | '-' :: second :: more, none =>
    let cs := '-' :: second :: more
    let (start, attached) := splitEquals cs
    match attached, g.names.lookup (String.ofList start) with
    | .value .., some rule => .ok (.option rule attached)
    | _, _ =>
      match
        if second = '-' then g.longCandidates cs else g.shortCandidates cs
      with
      | [c] => .ok (.option c.rule c.attached)
      | [] =>
        .ok (if isNegativeNumber cs || cs.contains ' ' then .word
          else .unknownOption)
      | cs => .error (.ambiguous arg (cs.map (·.name)))
  | _, _ => .ok .word

/-- What the arguments are. -/
def marks (g : Grammar σ χ) : List String → Except Fault (List (Marked σ))
  | [] => .ok []
  | "--" :: args => .ok (⟨"--", .dashes⟩ :: args.map (⟨·, .word⟩))
  | arg :: args => do
    let mark ← g.mark arg
    return ⟨arg, mark⟩ :: (← g.marks args)

-- ================================================================= options

/-- What options do, one after the other, and how many of the arguments
behind are their values. -/
structure Use (σ : Type) where
  steps : List (σ → Except Stop σ)
  words : Nat

/-- What an option does that takes no value. -/
def step (g : Grammar σ χ) (rule : OptionRule σ) (s : σ) : Except Stop σ :=
  match rule.effect with
  | .set f => .ok (f s)
  | .take .. => .ok s
  | .answer text => .error (.answer text)
  | .help => .error (.answer g.help)

/-- What an option does with its value. -/
def stepWith (g : Grammar σ χ) (rule : OptionRule σ)
    (f : Option String → Except BadValue (σ → σ)) (value? : Option String)
    (s : σ) : Except Stop σ :=
  match f value? with
  | .ok change => .ok (change s)
  | .error e => .error (g.stop (.badValue rule.names e))

/-- An option with nothing attached. Its value is the next word. -/
def useBare (g : Grammar σ χ) (rule : OptionRule σ)
    (args : List (Marked σ)) : Except Fault (Use σ) :=
  match rule.effect, args with
  | .take _ f, ⟨value, .word⟩ :: _ =>
    .ok ⟨[g.stepWith rule f (some value)], 1⟩
  | .take .., _ => .error (.missingValue rule.names)
  | _, _ => .ok ⟨[g.step rule], 0⟩

/-- An option with characters attached: they are its value, or, after a short
name of an option that takes none, the letters of more options. -/
def useWith (g : Grammar σ χ) (args : List (Marked σ)) (toShortName : Bool) :
    OptionRule σ → List Char → Except Fault (Use σ)
  | rule, cs =>
    let attached := String.ofList cs
    match rule.effect with
    | .take _ f =>
      let value? := if attached = "--" then none else some attached
      .ok ⟨[g.stepWith rule f value?], 0⟩
    | _ =>
      match cs with
      | [] => .error (.needlessValue rule.names attached)
      | c :: rest =>
        match toShortName, g.names.lookup (String.ofList ['-', c]) with
        | true, some next => do
          let use ← match rest with
            | [] => g.useBare next args
            | _ :: _ => useWith g args true next rest
          return { use with steps := g.step rule :: use.steps }
        | _, _ => .error (.needlessValue rule.names attached)

/-- An option as it is written. -/
def use (g : Grammar σ χ) (rule : OptionRule σ) (attached : Attached)
    (args : List (Marked σ)) : Except Fault (Use σ) :=
  match attached with
  | .nothing => g.useBare rule args
  | .value toShortName cs => g.useWith args toShortName rule cs

-- ================================================================= reading

/-- What has been read so far: what the options gave, the operand, and the
arguments that mean nothing, here and to the command. -/
structure Progress (σ χ : Type) where
  gathered : σ
  operand? : Option χ
  unknown : List String
  below : List String

/-- The operand that starts with an argument, if any word is left for it, and
how many arguments behind belong to it. The end of the options does, on
either side. -/
def wordAt (arg : Marked σ) (args : List (Marked σ)) :
    Option String × Nat :=
  match arg.mark, args with
  | .dashes, next :: _ => (some next.text, 1)
  | .dashes, [] => (none, 0)
  | _, ⟨_, .dashes⟩ :: _ => (some arg.text, 1)
  | _, _ => (some arg.text, 0)

/-- Whether a command is named: the end of the options alone is no name. -/
def namesCommand (arg : Marked σ) (args : List (Marked σ)) : Bool :=
  match arg.mark with
  | .dashes => !args.isEmpty
  | _ => true

/-- Reads arguments from left to right, after `skipped` of them. -/
def readMarked (g : Grammar σ χ) :
    Nat → List (Marked σ) → Progress σ χ → Except Stop (Progress σ χ)
  | _, [], p => .ok p
  | skipped + 1, _ :: args, p => g.readMarked skipped args p
  | 0, arg :: args, p =>
    let ignored := { p with unknown := p.unknown ++ [arg.text] }
    match arg.mark with
    | .unknownOption => g.readMarked 0 args ignored
    | .option rule attached => do
      let use ← (g.use rule attached args).mapError g.stop
      let gathered ← use.steps.foldlM (fun s step => step s) p.gathered
      g.readMarked use.words args { p with gathered }
    | _ =>
      match g.operand, p.operand? with
      | .one _ default read, none =>
        let (text?, n) := wordAt arg args
        g.readMarked n args
          { p with operand? := some ((text?.map read).getD default) }
      | .command label choices, none =>
        if namesCommand arg args then
          match choices.lookup arg.text with
          | none =>
            let value := .noChoice arg.text (choices.map (·.1))
            .error (g.stop (.badValue [label] value))
          | some read => do
            let (c, below) ← read (args.map (·.text))
            return { p with operand? := some c, below }
        else g.readMarked 0 args ignored
      | _, _ => g.readMarked 0 args ignored

/-- The operand that has been read, or what stands for it. -/
def operandOf (g : Grammar σ χ) : Option χ → Except Stop χ
  | some c => .ok c
  | none =>
    match g.operand with
    | .none c => .ok c
    | .one _ default _ => .ok default
    | .command label _ => .error (g.stop (.missingCommand label))

/-- Reads arguments, starting with what holds if no option is given. -/
def reader (g : Grammar σ χ) (start : σ) : Reader (σ × χ) := fun args => do
  let marked ← (g.marks args).mapError g.stop
  let p ← g.readMarked 0 marked ⟨start, none, [], []⟩
  let c ← g.operandOf p.operand?
  return ((p.gathered, c), p.unknown ++ p.below)

/-- Reads arguments that all have to mean something. -/
def read (g : Grammar σ χ) (start : σ) (args : List String) :
    Except Stop (σ × χ) := do
  let (found, unknown) ← g.reader start args
  if unknown.isEmpty then return found
  else .error (g.stop (.unknown unknown))

end Grammar

end LogQuery.CommandLine
