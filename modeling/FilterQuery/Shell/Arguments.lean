import FilterQuery.Json.Decode
import FilterQuery.Value.Bindings

/-!
The command line: one optional filter, and options in their long and short spellings. Whatever is
misspelled, repeated or incomplete makes the whole line unusable.
-/

namespace FilterQuery

structure Arguments where
  expression : Option Text := none
  assignments : List Text := []
  variablesJson : Option Text := none
  config : Option Text := none
  strict : Bool := false
  noInLists : Bool := false
deriving DecidableEq, Repr

namespace Arguments

inductive Setting where
  | assignment | variablesJson | config
deriving DecidableEq, Repr

def longSetting? (name : Text) : Option Setting :=
  if name = "var".toList then some .assignment
  else if name = "vars-json".toList then some .variablesJson
  else if name = "config".toList then some .config
  else none

def shortSetting? (c : Char) : Option Setting :=
  if c = 'v' then some .assignment else if c = 'c' then some .config else none

inductive Halt where
  | misuse | help | version
deriving DecidableEq, Repr

/-- Only assignments can be given more than once, and the path of a file cannot be empty. -/
def set (a : Arguments) (setting : Setting) (value : Text) : Except Halt Arguments :=
  match setting with
  | .assignment => .ok { a with assignments := a.assignments ++ [value] }
  | .variablesJson =>
    if a.variablesJson.isSome then .error .misuse else .ok { a with variablesJson := some value }
  | .config =>
    if a.config.isSome || value.isEmpty then .error .misuse else .ok { a with config := some value }

def setFlag (a : Arguments) (name : Text) : Except Halt Arguments :=
  if name = "strict".toList && !a.strict then .ok { a with strict := true }
  else if name = "no-in-lists".toList && !a.noInLists then .ok { a with noInLists := true }
  else if name = "help".toList then .error .help
  else if name = "version".toList then .error .version
  else .error .misuse

def setExpression (a : Arguments) (expression : Text) : Except Halt Arguments :=
  if a.expression.isSome then .error .misuse else .ok { a with expression := some expression }

def isOption : Text → Bool
  | '-' :: _ :: _ => true
  | _ => false

def splitLong (t : Text) : Text × Option Text :=
  match Text.cutOnce '=' t with
  | some (name, value) => (name, some value)
  | none => (t, none)

/-- The value attached to a short option, if any. An equals sign in front does not belong to it. -/
def shortValue? : Text → Option Text
  | [] => none
  | '=' :: value => some value
  | value => some value

/-- Reads the arguments in turn; the first that halts the reading decides. Behind a double dash all of
them are filters. -/
def parseFrom (a : Arguments) (onlyFilters : Bool) : List Text → Except Halt Arguments
  | [] => .ok a
  | argument :: rest =>
    let withValue (setting : Setting) (attached : Option Text) : Except Halt Arguments :=
      match attached, rest with
      | some value, rest => do parseFrom (← a.set setting value) false rest
      | none, value :: rest =>
        if isOption value then .error .misuse else do parseFrom (← a.set setting value) false rest
      | none, [] => .error .misuse
    if onlyFilters || !isOption argument then do
      parseFrom (← a.setExpression argument) onlyFilters rest
    else match argument with
      | ['-', '-'] => parseFrom a true rest
      | '-' :: '-' :: long =>
        let (name, attached) := splitLong long
        match longSetting? name with
        | some setting => withValue setting attached
        | none =>
          if attached.isSome then .error .misuse else do parseFrom (← a.setFlag name) false rest
      | '-' :: 'h' :: _ => .error .help
      | '-' :: 'V' :: _ => .error .version
      | '-' :: short :: attached =>
        match shortSetting? short with
        | some setting => withValue setting (shortValue? attached)
        | none => .error .misuse
      | _ => .error .misuse

def parse (arguments : List Text) : Except Halt Arguments := parseFrom {} false arguments

end Arguments

inductive Failure where
  | unreadableConfig (path : Text)
  | invalidConfig (path : Text)
  | invalidVariables
  | invalidAssignment (assignment : Text)
  | filter (e : Filter.CompileError)
deriving DecidableEq, Repr

def Failure.message : Failure → String
  | unreadableConfig path => "reading " ++ String.ofList path
  | invalidConfig path => "parsing " ++ String.ofList path
  | invalidVariables => "parsing --vars-json"
  | invalidAssignment assignment =>
    "expected NAME=VALUE, got '" ++ String.ofList assignment ++ "'"
  | filter e => e.message

namespace Arguments

def options (a : Arguments) (readFile : Text → Option Text) : Except Failure Filter.Options := do
  let base ← match a.config with
    | none => .ok {}
    | some path =>
      match readFile path with
      | none => .error (.unreadableConfig path)
      | some content =>
        match Filter.Options.ofJson? content with
        | none => .error (.invalidConfig path)
        | some options => .ok options
  return {
    normalization := if a.strict then .strict else base.normalization
    inLists := !a.noInLists && base.inLists }

def assignAll : Bindings → List Text → Except Failure Bindings
  | fields, [] => .ok fields
  | fields, item :: rest =>
    match assignment? item with
    | none => .error (.invalidAssignment item)
    | some (name, value) => assignAll (fields.insert name value) rest

/-- The variables of the JSON text, and over them those of the assignments in their order. -/
def fields (a : Arguments) : Except Failure Bindings :=
  match a.variablesJson with
  | none => assignAll .empty a.assignments
  | some json =>
    match Bindings.ofJson? json with
    | none => .error .invalidVariables
    | some fields => assignAll fields a.assignments

end Arguments

end FilterQuery
