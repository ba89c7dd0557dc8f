import FilterQuery.Shell.Arguments

/-!
The program: one filter is compiled, or a shell compiles filters line by line. Commands of the shell begin
with a period and change the merge fields.
-/

namespace FilterQuery

structure Shell where
  options : Filter.Options
  fields : Bindings

namespace Shell

structure Reply where
  shell : Shell
  out : Text := []
  err : Text := []
  isOver : Bool := false

def lines (ls : List String) : Text := ls.flatMap fun l => l.toList ++ ['\n']

def banner : Text :=
  lines ["whereql interactive shell", "Type an expression, '.help' for help or '.exit' to quit", ""]

def prompt : Text := "whereql> ".toList

def farewell : Text := lines ["Goodbye!"]

def help : Text := lines [
  "Special Commands:",
  "  .help              Show this help message",
  "  .set name=value    Set a merge field",
  "  .unset name        Remove a merge field",
  "  .vars              List merge fields",
  "  .exit, .quit       Exit the shell",
  "",
  "Expression syntax:",
  "  Comparators:  <  <=  >  >=  ==  !=  %% (LIKE)  -> or IN (list)",
  "  Logical:      && (AND)  || (OR), no precedence, group with ( )",
  "  Values:       'text'  \"text\"  42  1.5  true  false  $name",
  "",
  "Examples:",
  "  a == 'x' && (b < 2 || c >= 3)",
  "  price %% 'screw'",
  "  id IN (1, 2, 3)",
  "  age > $minAge"]

def listing (fields : Bindings) : Text :=
  fields.entries.flatMap fun (name, value) =>
    "  $".toList ++ name ++ " = ".toList ++ value.inspect ++ ['\n']

def command (s : Shell) (line name rest : Text) : Reply :=
  if name = "exit".toList ∨ name = "quit".toList then { shell := s, isOver := true }
  else if name = "help".toList then { shell := s, out := help }
  else if name = "vars".toList then { shell := s, out := listing s.fields }
  else if name = "set".toList then
    match assignment? rest with
    | some (field, value) =>
      { shell := { s with fields := s.fields.insert field value } }
    | none => { shell := s, err := lines ["Usage: .set name=value"] }
  else if name = "unset".toList then
    { shell := { s with fields := s.fields.erase (fieldName rest) } }
  else
    { shell := s
      out := "Unknown command: ".toList ++ line ++ lines ["", "Type '.help' for help"] }

def reply (s : Shell) (typed : Text) : Reply :=
  match Text.trim typed with
  | [] => { shell := s }
  | '.' :: rest =>
    let (name, argument) := (Text.cutOnce ' ' rest).getD (rest, [])
    s.command ('.' :: rest) name argument
  | line =>
    match Filter.compile s.options s.fields line with
    | .ok sql => { shell := s, out := sql ++ ['\n'] }
    | .error e => { shell := s, err := ("Error: " ++ e.message ++ "\n").toList }

end Shell

/-! A whole run of the program, from its arguments and its input to its exit code and its outputs. -/

def usage : Text := Shell.lines [
  "whereql - compile C-style filter expressions into SQL WHERE clauses",
  "",
  "Usage: whereql [OPTIONS] [EXPRESSION]",
  "",
  "Arguments:",
  "  [EXPRESSION]  Expression to compile; starts the interactive shell when omitted",
  "",
  "Options:",
  "  -v, --var <NAME=VALUE>  Merge field value as name=value (repeatable)",
  "      --vars-json <JSON>  Merge field values as a JSON object",
  "  -c, --config <FILE>     Compile options as a JSON file",
  "      --strict            Keep whitespace inside string literals and only rewrite standalone IN",
  "      --no-in-lists       Reject IN lists",
  "  -h, --help              Print help",
  "  -V, --version           Print version"]

structure Outcome where
  code : Nat
  out : Text := []
  err : Text := []
deriving DecidableEq, Repr

/-- What is printed before the next line is read by a shell, or before the program ends with a code. -/
structure Turn where
  out : Text := []
  err : Text := []
  next : Shell ⊕ Nat

namespace Program

/-- A line that ends the input without an end of its own is a line too. -/
def inputLines (input : Text) : List Text :=
  let pieces := Text.cut '\n' input
  if pieces.getLast? = some [] then pieces.dropLast else pieces

def failed (f : Failure) : Turn :=
  { err := ("Error: " ++ f.message ++ "\n").toList, next := .inr 1 }

def begin (a : Arguments) (readFile : Text → Option Text) : Except Failure Turn := do
  let options ← a.options readFile
  let fields ← a.fields
  match a.expression with
  | none => return { out := Shell.banner ++ Shell.prompt, next := .inl { options, fields } }
  | some expression =>
    match Filter.compile options fields expression with
    | .ok sql => return { out := sql ++ ['\n'], next := .inr 0 }
    | .error e => .error (.filter e)

def start (readFile : Text → Option Text) (arguments : List Text) : Turn :=
  match Arguments.parse arguments with
  | .error .misuse => { next := .inr 2 }
  | .error .help => { out := usage, next := .inr 0 }
  | .error .version => { out := Shell.lines ["whereql 0.1.0"], next := .inr 0 }
  | .ok a =>
    match begin a readFile with
    | .ok turn => turn
    | .error f => failed f

def answer (shell : Shell) : Option Text → Turn
  | none => { out := Shell.farewell, next := .inr 0 }
  | some line =>
    let reply := shell.reply line
    if reply.isOver then { out := reply.out ++ Shell.farewell, err := reply.err, next := .inr 0 }
    else { out := reply.out ++ Shell.prompt, err := reply.err, next := .inl reply.shell }

def play : Turn → List (Option Text) → Outcome
  | ⟨out, err, .inl shell⟩, input :: rest =>
    let later := play (answer shell input) rest
    { later with out := out ++ later.out, err := err ++ later.err }
  | ⟨out, err, .inl _⟩, [] => { code := 0, out, err }
  | ⟨out, err, .inr code⟩, _ => { code, out, err }

def run (readFile : Text → Option Text) (arguments : List Text) (input : Text) : Outcome :=
  play (start readFile arguments) ((inputLines input).map some ++ [none])

end Program

end FilterQuery
