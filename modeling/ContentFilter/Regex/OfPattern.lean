import ContentFilter.Regex.Program
import ContentFilter.Regex.Reader

/-!
# The meaning of a pattern

Flags, classes and assertions are given their meaning. A flag that is set within a group holds to
the end of the group, in later alternatives too. Without the Unicode flag, sets are sets of bytes
and must be of ASCII bytes only, so that no match can end within a character.
-/

namespace ContentFilter.Regex

/-- The flags that matter for what a pattern means. -/
structure Options where
  /-- Letters match without regard to case. -/
  ignoreCase : Bool := false
  /-- `^` and `$` hold at lines. -/
  multiLine : Bool := false
  /-- `.` matches the end of a line too. -/
  dotAll : Bool := false
  /-- Classes are those of Unicode. -/
  unicode : Bool := true
  /-- A line may end with a carriage return. -/
  crlf : Bool := false
  /-- Repetitions prefer fewer turns. -/
  swapGreed : Bool := false
deriving Repr, DecidableEq

namespace Options

/-- The options after flags are set. -/
def applying (o : Options) (settings : FlagSettings) : Options :=
  { ignoreCase := (settings.find? .ignoreCase).getD o.ignoreCase
    multiLine := (settings.find? .multiLine).getD o.multiLine
    dotAll := (settings.find? .dotAll).getD o.dotAll
    unicode := (settings.find? .unicode).getD o.unicode
    crlf := (settings.find? .crlf).getD o.crlf
    swapGreed := (settings.find? .swapGreed).getD o.swapGreed }

/-- Which characters belong to words. -/
def wordKind (o : Options) : WordKind :=
  if o.unicode then .unicode else .ascii

/-- The set closed under case, if case does not matter. -/
def fold (o : Options) (s : CharSet) : CharSet :=
  if o.ignoreCase then if o.unicode then s.folded else s.foldedAscii else s

/-- A set of the kind that the options ask for. -/
def tree (o : Options) (s : CharSet) : Tree :=
  .set (!o.unicode) s

/-- The set or all other characters. A set of bytes has to stay within ASCII. -/
def negate? (o : Options) (negated : Bool) (s : CharSet) : Option CharSet :=
  let t := s.negateIf negated
  if o.unicode || t.isAscii then some t else none

/-- The condition that an assertion states. -/
def look (o : Options) : Assertion → Look
  | .lineStart =>
    if o.multiLine then if o.crlf then .lineStartCrlf else .lineStart else .textStart
  | .lineEnd => if o.multiLine then if o.crlf then .lineEndCrlf else .lineEnd else .textEnd
  | .textStart => .textStart
  | .textEnd => .textEnd
  | .wordBoundary => .wordBoundary o.wordKind
  | .notWordBoundary => .notWordBoundary o.wordKind
  | .wordStart => .wordStart o.wordKind
  | .wordEnd => .wordEnd o.wordKind
  | .wordStartHalf => .wordStartHalf o.wordKind
  | .wordEndHalf => .wordEndHalf o.wordKind

/-- The set of a class with an escape; case does not change it. -/
def shorthand? (o : Options) (kind : Shorthand) (negated : Bool) : Option CharSet :=
  o.negate? negated <|
    match kind with
    | .digit => if o.unicode then .digits else .asciiDigits
    | .blank => if o.unicode then .blanks else .asciiBlanks
    | .word => o.wordKind.chars

/-- The set of a property, which only Unicode classes have. -/
def property? (o : Options) (query : PropertyQuery) (negated : Bool) : Option CharSet :=
  if o.unicode then query.toCharSet?.map fun s => (o.fold s).negateIf negated else none

/-- Whether a character, as it is written, would be a byte that is no character. -/
def isStrayByte (o : Options) (l : Literal) : Bool :=
  !o.unicode && l.isByte && decide (128 ≤ l.char.toNat)

/-- A character outside brackets, or the set of those that differ from it in case only. -/
def literal? (o : Options) (l : Literal) : Option Tree :=
  if o.isStrayByte l then none
  else
    let s := o.fold (.only l.char)
    some (if s.only? = some l.char then .literal [l.char] else o.tree s)

/-- A character within brackets; among bytes it has to be ASCII. -/
def setLiteral? (o : Options) (l : Literal) : Option Char :=
  if o.unicode || decide (l.char.toNat < 128) then some l.char else none

/-- Any character, but for the end of a line. -/
def dot? (o : Options) : Option CharSet :=
  if o.unicode then
    some <| CharSet.compl <|
      if o.dotAll then .nothing
      else if o.crlf then .ofRanges [('\n', '\n'), ('\r', '\r')]
      else .only '\n'
  else none

/-- The set that an operation makes of two. -/
def combine (o : Options) (op : SetOperator) (left right : CharSet) : CharSet :=
  match op with
  | .inter => (o.fold left).inter (o.fold right)
  | .diff => (o.fold left).diff (o.fold right)
  | .symmDiff => (o.fold left).symmDiff (o.fold right)

end Options

namespace SetExpr

mutual

/-- The set that stands between brackets, before case and negation of these brackets. -/
def toCharSet? (o : Options) : SetExpr → Option CharSet
  | literal l => (o.setLiteral? l).map .only
  | range a b => (o.setLiteral? a).bind fun a => (o.setLiteral? b).map fun b => .between a b
  | shorthand kind negated => o.shorthand? kind negated
  | property query negated => o.property? query negated
  | posix s negated => o.negate? negated (o.fold s)
  | bracket negated inner => (toCharSet? o inner).bind fun s => o.negate? negated (o.fold s)
  | union items => unionOf? o items
  | combine op left right =>
    (toCharSet? o left).bind fun l => (toCharSet? o right).map fun r => o.combine op l r

/-- The union of the sets of all items. -/
def unionOf? (o : Options) : List SetExpr → Option CharSet
  | [] => some .nothing
  | item :: items =>
    (toCharSet? o item).bind fun s => (unionOf? o items).map s.union

end

end SetExpr

namespace Pattern

mutual

/-- The expression that a pattern means under the options, and the options after it. -/
def toTree? (o : Options) : Pattern → Option (Tree × Options)
  | empty => some (.empty, o)
  | flags settings => some (.empty, o.applying settings)
  | literal l => (o.literal? l).map fun t => (t, o)
  | dot => o.dot?.map fun s => (o.tree s, o)
  | assertion a => some (.look (o.look a), o)
  | shorthand kind negated => (o.shorthand? kind negated).map fun s => (o.tree s, o)
  | property query negated => (o.property? query negated).map fun s => (o.tree s, o)
  | bracket negated inner =>
    (inner.toCharSet? o).bind fun s => (o.negate? negated (o.fold s)).map fun t => (o.tree t, o)
  | repetition body count =>
    (toTree? o body).map fun p =>
      (.times p.1 count.least count.most (count.isMarked == o.swapGreed), p.2)
  | group settings captures body =>
    (toTree? (o.applying settings) body).map fun p =>
      (if captures then .capture p.1 else p.1, o)
  | concat parts => (toTrees? o parts).map fun p => (.seq p.1, p.2)
  | alternation branches => (toTrees? o branches).map fun p => (.alt p.1, p.2)

/-- The meanings of patterns that follow each other in the text of a pattern. -/
def toTrees? (o : Options) : List Pattern → Option (List Tree × Options)
  | [] => some ([], o)
  | part :: parts =>
    (toTree? o part).bind fun p => (toTrees? p.2 parts).map fun q => (p.1 :: q.1, q.2)

end

end Pattern

/-- Reads a regular expression; an invalid or an overly large one is none. -/
def ofChars? (s : List Char) : Option Regex :=
  (Pattern.ofChars? s).bind fun p =>
    (((p.toTree? {}).map (·.1)).filter Tree.fits).map Tree.toRegex

end ContentFilter.Regex
