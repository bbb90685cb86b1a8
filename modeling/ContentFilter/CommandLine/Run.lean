import ContentFilter.CommandLine.Options
import ContentFilter.Filter.Selection
import ContentFilter.Json.Reader
import ContentFilter.Json.Text
import ContentFilter.Resource.OfJson

/-!
# Running the command line

A run goes through its stages in order: the content is read, it is a JSON text, the start is found,
the filter and then the filter for the branches are read. The first stage that fails decides the
outcome; after the last one the paths of the selected resources are printed.
-/

namespace ContentFilter.CommandLine

/-- Why a run fails. -/
inductive Failure where
  /-- The content cannot be read. -/
  | unreadable (reason : String)
  /-- The content is no JSON text. -/
  | invalidContent (error : Json.Error)
  /-- There is no resource to start at. -/
  | noResource (path : String)
  /-- One of the filters is no filter text. -/
  | invalidFilter (error : ParseError)
deriving Repr, DecidableEq

/-- The message of a failure. -/
def Failure.message : Failure → String
  | unreadable reason => "failed to read content: " ++ reason
  | invalidContent error => "invalid content: " ++ error.message
  | noResource path => "no resource at " ++ path
  | invalidFilter error => "invalid filter: " ++ error.message

/-- The value of an argument: a number if it can be read as one, else the text. -/
def argumentValue (text : String) : Value :=
  (Value.readNumber? text).getD (.text text)

namespace Options

/-- The path that the run starts at: as it is given, or that of the root as it is given. -/
def startPath (o : Options) : String :=
  o.start.getD o.root

/-- What the filters are compiled with. -/
def context (o : Options) : Context :=
  Context.standard.withArguments (o.arguments.map fun a => (a.1, argumentValue a.2))

/-- The content tree. -/
def tree? (o : Options) (content : Except String String) : Except Failure Resource :=
  match content with
  | .error reason => .error (.unreadable reason)
  | .ok text =>
    match Json.read text with
    | .ok j => .ok (Resource.ofJson o.root j)
    | .error error => .error (.invalidContent error)

/-- The resource that the run starts at. -/
def start? (o : Options) (tree : Resource) : Except Failure Resource :=
  match tree.find? o.startPath with
  | some r => .ok r
  | none => .error (.noResource o.startPath)

/-- The selection of a run that starts at a resource. -/
def selection? (o : Options) (start : Resource) : Except Failure Selection :=
  match (Selection.new start o.context).withResult o.filter with
  | .error e => .error (.invalidFilter e)
  | .ok s =>
    match o.branch with
    | none => .ok s
    | some filter =>
      match s.withBranch filter with
      | .error e => .error (.invalidFilter e)
      | .ok s => .ok s

/-- The paths of the selected resources. -/
def paths? (o : Options) (content : Except String String) (now : Instant) :
    Except Failure (List String) := do
  let tree ← o.tree? content
  let start ← o.start? tree
  let selection ← o.selection? start
  return (selection.resources now).map (·.path)

/-- What is printed for paths: one a line, or an array. -/
def print (o : Options) (paths : List String) : String :=
  if o.json then Json.arrayText paths ++ "\n"
  else String.join (paths.map (· ++ "\n"))

end Options

/-- What a run ends with. -/
structure Outcome where
  /-- The exit code. -/
  code : UInt8
  /-- What is printed. -/
  output : String
  /-- Why it failed, if it did. -/
  failure : Option Failure
deriving Repr, DecidableEq

/-- What goes to the error stream: the message of the failure, in a line. -/
def Outcome.errors (outcome : Outcome) : String :=
  match outcome.failure with
  | none => ""
  | some failure => failure.message ++ "\n"

/-- The outcome of a run. -/
def run (o : Options) (content : Except String String) (now : Instant) : Outcome :=
  match o.paths? content now with
  | .ok paths => ⟨0, o.print paths, none⟩
  | .error failure => ⟨1, "", some failure⟩

/-- How the command line is used. -/
def usage : String :=
  "Usage: content-filter [OPTIONS] <FILTER>\n\n"
    ++ "Options:\n"
    ++ "  --content <FILE>     JSON content file, - for standard input\n"
    ++ "  --root <PATH>        path of the root of the content tree\n"
    ++ "  --start <PATH>       path to start at, the root if left out\n"
    ++ "  --branch <FILTER>    filter for the branches to descend into\n"
    ++ "  --arg <NAME=VALUE>   value of an argument of the filters\n"
    ++ "  --json               print an array instead of one path a line\n"

end ContentFilter.CommandLine
