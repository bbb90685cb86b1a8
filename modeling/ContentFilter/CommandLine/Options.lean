import ContentFilter.Text.Blank
import ContentFilter.Text.Word

/-!
# Options of the command line

```text
[--content FILE] [--root PATH] [--start PATH] [--branch FILTER]
  [--arg NAME=VALUE]... [--json] FILTER
```

An option has its value in the next word or, after an equals sign, in its own. Words that begin with
a hyphen are options, but for a single hyphen and for all that follows two hyphens standing alone.
A word that begins with `-h` asks for the options, as `--help` does. Only `--arg` may be given more
than once. What the line leaves out is taken from the environment.
-/

namespace ContentFilter.CommandLine

open Text

/-- What a run of the command line is asked to do. -/
structure Options where
  /-- The filter for the resources. -/
  filter : String
  /-- The file with the content; none for standard input. -/
  content : Option String
  /-- The path of the root of the content tree. -/
  root : String
  /-- Where to start, if not at the root. -/
  start : Option String
  /-- The filter for the branches. -/
  branch : Option String
  /-- The arguments of the filters, in order. -/
  arguments : List (String × String)
  /-- Whether to print an array. -/
  json : Bool
deriving Repr, DecidableEq

/-- Why there is nothing to run. -/
inductive Usage where
  /-- The options were asked for. -/
  | help
  /-- The words are no use of the command line. -/
  | invalid
deriving Repr, DecidableEq

/-- The options that take one value and may be given once. -/
inductive Setting where
  /-- `--content` -/
  | content
  /-- `--root` -/
  | root
  /-- `--start` -/
  | start
  /-- `--branch` -/
  | branch
deriving Repr, DecidableEq

/-- The option with the given name. -/
def Setting.ofName? : String → Option Setting
  | "content" => some .content
  | "root" => some .root
  | "start" => some .start
  | "branch" => some .branch
  | _ => none

/-- The variable of the environment that stands in for an option. -/
def Setting.variable : Setting → String
  | content => "RESOURCE_FILTER_CONTENT"
  | root => "RESOURCE_FILTER_ROOT"
  | start => "RESOURCE_FILTER_START"
  | branch => "RESOURCE_FILTER_BRANCH"

/-- The variable of the environment that stands in for `--json`. -/
def jsonVariable : String := "RESOURCE_FILTER_JSON"

/-- What the words of the line say, the filter and the settings as far as they are given. -/
structure Line where
  /-- The filter. -/
  filter : Option String := none
  /-- The settings. -/
  settings : List (Setting × String) := []
  /-- The arguments, in order. -/
  arguments : List (String × String) := []
  /-- Whether `--json` is given. -/
  json : Bool := false
deriving Repr, DecidableEq

/-- What stands before and after the first equals sign. -/
def splitEquals? (s : List Char) : Option (List Char × List Char) :=
  match s.dropWhile (· ≠ '=') with
  | [] => none
  | _ :: value => some (s.takeWhile (· ≠ '='), value)

/-- An argument of the filters: its name, without blanks around it, and its value. -/
def readArgument? (word : String) : Option (String × String) :=
  match splitEquals? word.toList with
  | none => none
  | some (name, value) =>
    match trimBlanks name with
    | [] => none
    | name => some (String.ofList name, String.ofList value)

/-- Whether a word is read as an option and not as a value. -/
def isOption (word : String) : Bool :=
  match word.toList with
  | '-' :: _ :: _ => true
  | _ => false

namespace Line

/-- Enters the filter, which is the only word that is no option. -/
def withFilter (l : Line) (word : String) : Except Usage Line :=
  if l.filter.isSome then .error .invalid else .ok { l with filter := some word }

/-- Enters the value of a setting. -/
def withSetting (l : Line) (s : Setting) (value : String) : Except Usage Line :=
  if (l.settings.lookup s).isSome then .error .invalid
  else .ok { l with settings := (s, value) :: l.settings }

/-- Enters an argument of the filters. -/
def withArgument (l : Line) (word : String) : Except Usage Line :=
  match readArgument? word with
  | some a => .ok { l with arguments := l.arguments ++ [a] }
  | none => .error .invalid

/-- Enters the value of the option with the given name. -/
def withValue (l : Line) (name : String) (value : String) : Except Usage Line :=
  if name = "arg" then l.withArgument value
  else
    match Setting.ofName? name with
    | some s => l.withSetting s value
    | none => .error .invalid

/-- Reads the words that follow two hyphens. -/
def readPlain (l : Line) : List String → Except Usage Line
  | [] => .ok l
  | word :: words => (l.withFilter word).bind fun l => l.readPlain words

/-- Reads words. -/
def read (l : Line) : List String → Except Usage Line
  | [] => .ok l
  | word :: words =>
    if !isOption word then (l.withFilter word).bind fun l => l.read words
    else if word = "--" then l.readPlain words
    else if word = "--help" ∨ (afterPrefix? ['-', 'h'] word.toList).isSome then .error .help
    else
      match afterPrefix? ['-', '-'] word.toList with
      | none => .error .invalid
      | some option =>
        match splitEquals? option with
        | some (name, value) =>
          (l.withValue (String.ofList name) (String.ofList value)).bind fun l => l.read words
        | none =>
          if option = "json".toList then
            if l.json then .error .invalid else read { l with json := true } words
          else
            match words with
            | [] => .error .invalid
            | value :: words =>
              if isOption value then .error .invalid
              else (l.withValue (String.ofList option) value).bind fun l => l.read words

/-- The value of a setting: that of the line, else that of the environment. -/
def setting? (l : Line) (environment : String → Option String) (s : Setting) : Option String :=
  l.settings.lookup s <|> environment s.variable

/-- Whether an array is to be printed. The environment has to say so in one of two words. -/
def json? (l : Line) (environment : String → Option String) : Option Bool :=
  if l.json then some true
  else
    match environment jsonVariable with
    | none => some false
    | some "true" => some true
    | some "false" => some false
    | some _ => none

end Line

/-- The options that the words of the line and the environment give. A name of a file is not empty.
-/
def Options.read (words : List String) (environment : String → Option String) :
    Except Usage Options :=
  match Line.read {} words with
  | .error e => .error e
  | .ok l =>
    match l.filter, l.json? environment with
    | some filter, some json =>
      let content := l.setting? environment .content
      if content = some "" then .error .invalid
      else
        .ok {
          filter := filter
          content := if content = some "-" then none else content
          root := (l.setting? environment .root).getD "/"
          start := l.setting? environment .start
          branch := l.setting? environment .branch
          arguments := l.arguments
          json := json }
    | _, _ => .error .invalid

end ContentFilter.CommandLine
