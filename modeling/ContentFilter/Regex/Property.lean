import ContentFilter.Regex.CharSet
import ContentFilter.Text.Age
import ContentFilter.Text.Boundary
import ContentFilter.Text.Script

/-!
# Properties of characters by name

A pattern names a property in any case, with blanks, hyphens and low lines put in freely and with
an optional `is` in front. A single name is a property that characters have or lack, a general
category or a script; a name with a value is a general category, a script, one of the scripts that a
character is used in, the age of a character or a class of one of the boundaries in texts.
-/

namespace ContentFilter.Regex

open Text

/-- How a pattern asks for a property. -/
inductive PropertyQuery where
  /-- By one name. -/
  | name (n : List Char)
  /-- By the name of a property and a value of it. -/
  | value (property value : List Char)
deriving Repr, DecidableEq

namespace PropertyQuery

/-- Leaves out what does not count in a name and puts the rest in lower case. -/
def simplified (name : List Char) : List Char :=
  (name.filter fun c => c.toNat < 128 && c != ' ' && c != '_' && c != '-').map Char.toLower

/-- The form in which names are looked up. `isc` keeps its front letters, for they are no `is`. -/
def lookupName : List Char → String
  | 'i' :: 's' :: rest | 'i' :: 'S' :: rest | 'I' :: 's' :: rest | 'I' :: 'S' :: rest =>
    match simplified rest with
    | ['c'] => "isc"
    | cs => String.ofList cs
  | letters => String.ofList (simplified letters)

/-- The entry of a table with several names for each entry. -/
def findNamed? {α : Type} (entries : List (List String × α)) (name : String) : Option α :=
  (entries.find? (·.1.contains name)).map (·.2)

/-- The general category, or group of categories, with the given name. -/
def category? (name : String) : Option CharSet :=
  match name with
  | "any" => some .everything
  | "assigned" => some (CharSet.ofTables [categoryCn]).compl
  | "ascii" => some (.between '\x00' '\x7f')
  | _ =>
    (findNamed? categories name).map (.ofTables [·]) <|>
      (findNamed? categoryGroups name).map .ofTables

/-- The characters that the named version of Unicode has: those that are as old or older. -/
def age? (name : String) : Option CharSet :=
  (ages.findIdx? (·.1.contains name)).map fun i => .ofTables ((ages.take (i + 1)).map (·.2))

/-- The set of the entry with the given name. -/
def ofNamed? (entries : List (List String × RunTable)) (name : String) : Option CharSet :=
  (findNamed? entries name).map (.ofTables [·])

/-- The set that a query asks for, if it names one. The short names `cf`, `sc` and `lc` are
categories, although properties without a set are called so too. -/
def toCharSet? : PropertyQuery → Option CharSet
  | name n =>
    let key := lookupName n
    ofNamed? binaryProperties key <|> category? key <|> ofNamed? scripts key
  | value p v =>
    let key := lookupName v
    match lookupName p with
    | "generalcategory" | "gc" => category? key
    | "script" | "sc" => ofNamed? scripts key
    | "scriptextensions" | "scx" => ofNamed? scriptExtensions key
    | "age" => age? key
    | "graphemeclusterbreak" | "gcb" => ofNamed? graphemeClusterBreaks key
    | "wordbreak" | "wb" => ofNamed? wordBreaks key
    | "sentencebreak" | "sb" => ofNamed? sentenceBreaks key
    | _ => none

end PropertyQuery

end ContentFilter.Regex
