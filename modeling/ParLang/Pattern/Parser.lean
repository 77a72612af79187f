import ParLang.Pattern.Footprint
import ParLang.Text.Letter
import ParLang.Text.Numeral

/-!
# Reading patterns

The notation of patterns: literals, escapes, classes in brackets with set operations, groups with
flags, alternatives and quantifiers. `Pattern.parse?` gives `none` for a text that is no pattern, which
includes look-around and back-references, and for a pattern that is nested too deeply or is too large.

Without the Unicode flag, classes and the edges of words are those of ASCII, and nothing may match a part
of an encoded character.
-/

namespace ParLang

/-- The flags in force at a place of a pattern. -/
structure PatternFlags where
  ignoreCase : Bool := false
  multiLine : Bool := false
  dotAll : Bool := false
  swapGreed : Bool := false
  unicode : Bool := true
  anyLineEnd : Bool := false
  verbose : Bool := false
deriving DecidableEq, Inhabited

/-- What reading a pattern keeps track of. -/
structure PatternState where
  rest : List Char
  flags : PatternFlags
  /-- The names of groups so far. -/
  names : List String
  /-- How many numbered groups there were so far. -/
  groups : Nat
deriving Inhabited

/-- Reads a part of a pattern, or finds that the text is no pattern. -/
abbrev PatternReader (α : Type) := StateT PatternState Option α

namespace PatternReader

/-- The text is no pattern. -/
def invalid {α : Type} : PatternReader α := fun _ => none

/-- The character to be read next. -/
def peek? : PatternReader (Option Char) := fun s => some (s.rest.head?, s)

/-- The flags in force. -/
def flags : PatternReader PatternFlags := fun s => some (s.flags, s)

/-- Puts flags in force. -/
def setFlags (f : PatternFlags) : PatternReader Unit := fun s => some ((), { s with flags := f })

/-- Passes over the next character. -/
def bump : PatternReader Unit := fun s => some ((), { s with rest := s.rest.drop 1 })

/-- In a verbose pattern, the text behind blanks and comments; otherwise the text itself. -/
def skipVerbose (inComment : Bool) : List Char → List Char
  | [] => []
  | c :: rest =>
    if inComment then skipVerbose (c != '\n') rest
    else if c = '#' then skipVerbose true rest
    else if Text.isBlank c then skipVerbose false rest
    else c :: rest

/-- Passes over blanks and comments if they do not count. -/
def skipSpace : PatternReader Unit := fun s =>
  some ((), if s.flags.verbose then { s with rest := skipVerbose false s.rest } else s)

/-- Passes over the next character and what does not count behind it. -/
def bumpSpace : PatternReader Unit := do
  bump
  skipSpace

/-- The next character, which must be there. -/
def current : PatternReader Char := do
  match ← peek? with
  | some c => return c
  | none => invalid

/-- Passes over the text if it is next, and tells whether it was. -/
def acceptText (text : String) : PatternReader Bool := fun s =>
  if text.toList.isPrefixOf s.rest then
    some (true, { s with rest := s.rest.drop text.length })
  else some (false, s)

/-! ## Numbers and escapes -/

/-- Passes over blanks, which never count next to a repetition count. -/
def skipBlanks : PatternReader Unit := fun s =>
  some ((), { s with rest := s.rest.dropWhile Text.isBlank })

/-- Digits up to a character that is none. -/
def digits : Nat → PatternReader (List Char)
  | 0 => return []
  | n + 1 => do
    match ← peek? with
    | some c =>
      if c.isDigit then
        bumpSpace
        return c :: (← digits n)
      else return []
    | none => return []

/-- A repetition count. -/
def count (n : Nat) : PatternReader Nat := do
  skipBlanks
  let ds ← digits n
  skipBlanks
  skipSpace
  let value := ds.foldl (fun v d => 10 * v + (d.toNat - '0'.toNat)) 0
  if ds.isEmpty || 4294967296 ≤ value then invalid
  return value

/-- The value of a hexadecimal digit. -/
def hexValue? (c : Char) : Option Nat :=
  if c.isDigit then some (c.toNat - '0'.toNat)
  else if 'a' ≤ c ∧ c ≤ 'f' then some (c.toNat - 'a'.toNat + 10)
  else if 'A' ≤ c ∧ c ≤ 'F' then some (c.toNat - 'A'.toNat + 10)
  else none

/-- The character with the given code point. -/
def charOfValue (value : Nat) : PatternReader Char :=
  if h : value.isValidChar then return Char.ofNatAux value h else invalid

/-- As many hexadecimal digits as asked for. -/
def hexDigits : Nat → Nat → PatternReader Nat
  | 0, value => return value
  | n + 1, value => do
    match hexValue? (← current) with
    | some d =>
      bumpSpace
      hexDigits n (16 * value + d)
    | none => invalid

/-- Hexadecimal digits up to a closing brace, which is passed over; `some` holds their value so far. -/
def hexInBraces : Nat → Option Nat → PatternReader Nat
  | 0, _ => invalid
  | n + 1, value? => do
    let c ← current
    bumpSpace
    if c = '}' then
      match value? with
      | some value => return value
      | none => invalid
    else
      match hexValue? c with
      | some d => hexInBraces n (some (16 * value?.getD 0 + d))
      | none => invalid

/-- What an escape or a plain character stands for. -/
inductive Primitive where
  /-- A character; `byte` tells that it was written as the value of one byte. -/
  | char (c : Char) (byte : Bool)
  | set (s : CharSet)
  | assert (a : Assertion)

/-- The character of an escape by code point, behind its letter. Two digits without braces are the value
of one byte. -/
def hexChar (n width : Nat) : PatternReader Primitive := do
  if (← current) = '{' then
    bumpSpace
    return .char (← charOfValue (← hexInBraces n none)) false
  else return .char (← charOfValue (← hexDigits width 0)) (width = 2)

/-- The characters that have a meaning of their own in patterns. -/
def metaChars : List Char :=
  ['\\', '.', '+', '*', '?', '(', ')', '|', '[', ']', '{', '}', '^', '$', '#', '&', '-', '~']

/-- The character stands for itself behind a backslash. -/
def isEscapable (c : Char) : Bool :=
  metaChars.contains c || (c.toNat < 128 && !c.isAlphanum && c != '<' && c != '>')

/-- The ASCII range between two characters. -/
def ascii (first last : Char) : CharSet :=
  .range first.toNat last.toNat

/-- The ASCII digits. -/
def asciiDigits : CharSet :=
  ascii '0' '9'

/-- The ASCII blanks. -/
def asciiBlanks : CharSet :=
  .union (ascii '\t' '\r') (ascii ' ' ' ')

/-- The ASCII characters of words. -/
def asciiWord : CharSet :=
  .unions [ascii '0' '9', ascii 'A' 'Z', ascii 'a' 'z', ascii '_' '_']

/-- The complement of a set, which without the Unicode flag is no set of characters. -/
def complement (s : CharSet) : PatternReader CharSet := do
  if (← flags).unicode then return s.negate else invalid

/-- The set of a class letter. Without the Unicode flag only the ASCII members count. -/
def letterClass (c : Char) : PatternReader CharSet := do
  let base :=
    match c.toLower, (← flags).unicode with
    | 'd', true => Text.decimalSet
    | 's', true => Text.blankSet
    | _, true => Text.wordSet
    | 'd', false => asciiDigits
    | 's', false => asciiBlanks
    | _, false => asciiWord
  if c.isUpper then complement base else return base

/-- The set without regard to case if the flag says so. -/
def foldSet (s : CharSet) : PatternReader CharSet := do
  let f ← flags
  if f.ignoreCase then return if f.unicode then s.anyCase else s.anyAsciiCase
  else return s

/-- The set without regard to case if the flag says so, then its complement if it is negated. -/
def foldAndNegate (negated : Bool) (s : CharSet) : PatternReader CharSet := do
  let folded ← foldSet s
  if negated then complement folded else return folded

/-- The characters up to a closing brace, which is passed over. -/
def untilBrace : Nat → PatternReader (List Char)
  | 0 => invalid
  | n + 1 => do
    let c ← current
    if c = '}' then
      bump
      return []
    else
      bumpSpace
      return c :: (← untilBrace n)

/-- What stands before the first place of a mark, and what stands behind it. -/
def cutAt? (mark : List Char) : List Char → Option (List Char × List Char)
  | [] => none
  | c :: rest =>
    if mark.isPrefixOf (c :: rest) then some ([], (c :: rest).drop mark.length)
    else (cutAt? mark rest).map fun (before, behind) => (c :: before, behind)

/-- The set that a name stands for, or a name and a value with a mark between them. -/
def propertySet? (written : List Char) : Option CharSet :=
  match [['!', '='], [':'], ['=']].findSome? (cutAt? · written) with
  | some (property, value) => Text.withValue? (Text.plainName property) (Text.plainName value)
  | none => Text.named? (Text.plainName written)

/-- The set of a property, behind the letter that introduces it. -/
def propertyClass (n : Nat) (negated : Bool) : PatternReader CharSet := do
  let c ← current
  if c = '\\' then invalid
  bumpSpace
  let name ← if c = '{' then untilBrace n else pure [c]
  unless (← flags).unicode do invalid
  match propertySet? name with
  | some s => foldAndNegate negated s
  | none => invalid

/-- The special boundary in braces behind a word boundary. A brace that starts no such name is left
for a repetition count. -/
def namedBoundary (n : Nat) : PatternReader WordEdge := do
  let isNameChar (c : Char) : Bool := c.isAlpha || c == '-'
  let saved ← get
  bumpSpace
  if isNameChar (← current) then
    let rec letters : Nat → PatternReader (List Char)
      | 0 => return []
      | k + 1 => do
        match ← peek? with
        | some c =>
          if isNameChar c then
            bumpSpace
            return c :: (← letters k)
          else return []
        | none => return []
    let name ← letters n
    unless (← current) = '}' do invalid
    bump
    match String.ofList name with
    | "start" => return .start
    | "end" => return .stop
    | "start-half" => return .startHalf
    | "end-half" => return .stopHalf
    | _ => invalid
  else
    set saved
    return .boundary

/-- An edge of words, which without the Unicode flag are made of ASCII characters. -/
def wordEdge (e : WordEdge) : PatternReader Primitive := do
  return .assert (.word e (!(← flags).unicode))

/-- An escape, whose backslash is next. -/
def escape (n : Nat) : PatternReader Primitive := do
  bump
  let c ← current
  if c = 'x' ∨ c = 'u' ∨ c = 'U' then
    bumpSpace
    return ← hexChar n (if c = 'x' then 2 else if c = 'u' then 4 else 8)
  if c = 'p' ∨ c = 'P' then
    bumpSpace
    return .set (← propertyClass n (c = 'P'))
  bump
  if ['d', 's', 'w', 'D', 'S', 'W'].contains c then
    return .set (← letterClass c)
  if isEscapable c then return .char c false
  match c with
  | 'a' => return .char '\x07' false
  | 'f' => return .char '\x0c' false
  | 't' => return .char '\t' false
  | 'n' => return .char '\n' false
  | 'r' => return .char '\r' false
  | 'v' => return .char '\x0b' false
  | 'A' => return .assert .textStart
  | 'z' => return .assert .textEnd
  | 'B' => wordEdge .noBoundary
  | '<' => wordEdge .start
  | '>' => wordEdge .stop
  | 'b' => if (← peek?) = some '{' then wordEdge (← namedBoundary n) else wordEdge .boundary
  | _ => invalid

/-! ## Classes in brackets -/

/-- The ASCII class with the given name. -/
def asciiClass? : String → Option CharSet
  | "alnum" => some (.unions [ascii '0' '9', ascii 'A' 'Z', ascii 'a' 'z'])
  | "alpha" => some (.union (ascii 'A' 'Z') (ascii 'a' 'z'))
  | "ascii" => some (.range 0 127)
  | "blank" => some (.union (ascii '\t' '\t') (ascii ' ' ' '))
  | "cntrl" => some (.union (.range 0 31) (.range 127 127))
  | "digit" => some asciiDigits
  | "graph" => some (ascii '!' '~')
  | "lower" => some (ascii 'a' 'z')
  | "print" => some (ascii ' ' '~')
  | "punct" => some (.unions [ascii '!' '/', ascii ':' '@', ascii '[' '`', ascii '{' '~'])
  | "space" => some asciiBlanks
  | "upper" => some (ascii 'A' 'Z')
  | "word" => some asciiWord
  | "xdigit" => some (.unions [ascii '0' '9', ascii 'A' 'F', ascii 'a' 'f'])
  | _ => none

/-- The ASCII class at an opening bracket, with its negation and what follows it. -/
def asciiClassAt? (cs : List Char) : Option (Bool × CharSet × List Char) :=
  match cs with
  | '[' :: ':' :: rest =>
    let (negated, rest) :=
      match rest with
      | '^' :: rest => (true, rest)
      | _ => (false, rest)
    match rest.dropWhile (· != ':') with
    | ':' :: ']' :: behind =>
      (asciiClass? (String.ofList (rest.takeWhile (· != ':')))).map (negated, ·, behind)
    | _ => none
  | _ => none

/-- An item of a class: an escape, or a character for itself. Without the Unicode flag the characters of
a class are ASCII characters. -/
def classItem (n : Nat) : PatternReader Primitive := do
  let c ← current
  let item ← if c = '\\' then escape n else do
    bump
    pure (.char c false)
  match item with
  | .char c _ => if (← flags).unicode || c.toNat < 128 then return item else invalid
  | _ => return item

/-- The second character to be read, when what does not count is passed over. -/
def peekBehind? : PatternReader (Option Char) := fun s =>
  let behind := s.rest.drop 1
  some ((if s.flags.verbose then skipVerbose false behind else behind).head?, s)

/-- An item of a class, or the range that two of them make. -/
def classRange (n : Nat) : PatternReader CharSet := do
  let first ← classItem n
  skipSpace
  let c ← current
  let behind ← peekBehind?
  if c = '-' ∧ behind ≠ some ']' ∧ behind ≠ some '-' then
    bumpSpace
    let _ ← current
    match first, ← classItem n with
    | .char a _, .char b _ => if a ≤ b then return ascii a b else invalid
    | _, _ => invalid
  else
    match first with
    | .char a _ => return .single a
    | .set s => return s
    | .assert _ => invalid

/-- A set that was read, with the height of its nesting. -/
structure NestedSet where
  set : CharSet
  height : Nat

/-- Items of a class one after another: their union, how many there are, and the height of the nesting
in them. -/
structure ClassItems where
  set : CharSet
  count : Nat
  height : Nat

namespace ClassItems

/-- No items. -/
def none : ClassItems :=
  ⟨.none, 0, 0⟩

/-- One more item. -/
def push (items : ClassItems) (item : NestedSet) : ClassItems :=
  ⟨items.set.union item.set, items.count + 1, max items.height item.height⟩

/-- The union of the items, which is nested one deeper if there are several. -/
def whole (items : ClassItems) : NestedSet :=
  ⟨items.set, if items.count < 2 then items.height else items.height + 1⟩

end ClassItems

/-- A set operation. -/
inductive SetOp where
  | inter | diff | symmDiff

namespace SetOp

/-- The spelling of a set operation. -/
def spelling : SetOp → String
  | .inter => "&&"
  | .diff => "--"
  | .symmDiff => "~~"

/-- The result of a set operation. -/
def apply : SetOp → CharSet → CharSet → CharSet
  | .inter => .inter
  | .diff => .diff
  | .symmDiff => .symmDiff

end SetOp

/-- Applies a set operation, each side without regard to case if the flag says so. -/
def applySetOp (op? : Option (SetOp × NestedSet)) (right : NestedSet) : PatternReader NestedSet := do
  match op? with
  | none => return right
  | some (op, left) =>
    return ⟨op.apply (← foldSet left.set) (← foldSet right.set), max left.height right.height + 1⟩

/-- The set operation that is next, which is passed over. -/
def acceptSetOp? : PatternReader (Option SetOp) := do
  for op in [SetOp.inter, SetOp.diff, SetOp.symmDiff] do
    if ← acceptText op.spelling then return some op
  return none

/-- The dashes at the start of a class, which stand for themselves. -/
def leadingDashes : Nat → ClassItems → PatternReader ClassItems
  | 0, items => return items
  | n + 1, items => do
    if (← current) = '-' then
      bumpSpace
      leadingDashes n (items.push ⟨.single '-', 0⟩)
    else return items

mutual

/-- A class, whose opening bracket is next. -/
def charClass : Nat → PatternReader NestedSet
  | 0 => invalid
  | n + 1 => do
    bumpSpace
    let negated := (← current) = '^'
    if negated then bumpSpace
    let items ← leadingDashes n .none
    let bracketed := items.count = 0 && (← current) = ']'
    if bracketed then bumpSpace
    let items := if bracketed then items.push ⟨.single ']', 0⟩ else items
    let _ ← current
    let inner ← classItems n none items
    return ⟨← foldAndNegate negated inner.set, inner.height + 1⟩

/-- The rest of a class up to its closing bracket: `items` are those since the last set operation, and
`op?` is that operation with its left side. -/
def classItems : Nat → Option (SetOp × NestedSet) → ClassItems → PatternReader NestedSet
  | 0, _, _ => invalid
  | n + 1, op?, items => do
    skipSpace
    let c ← current
    if c = '[' then
      match asciiClassAt? (← get).rest with
      | some (negated, s, behind) =>
        modify ({ · with rest := behind })
        classItems n op? (items.push ⟨← foldAndNegate negated s, 0⟩)
      | none => classItems n op? (items.push (← charClass n))
    else if c = ']' then
      bump
      applySetOp op? items.whole
    else
      match ← acceptSetOp? with
      | some op => classItems n (some (op, ← applySetOp op? items.whole)) .none
      | none => classItems n op? (items.push ⟨← classRange n, 0⟩)

end

/-! ## Groups -/

/-- A flag with its value put in force. -/
def PatternFlags.put? (f : PatternFlags) (c : Char) (value : Bool) : Option PatternFlags :=
  match c with
  | 'i' => some { f with ignoreCase := value }
  | 'm' => some { f with multiLine := value }
  | 's' => some { f with dotAll := value }
  | 'U' => some { f with swapGreed := value }
  | 'u' => some { f with unicode := value }
  | 'R' => some { f with anyLineEnd := value }
  | 'x' => some { f with verbose := value }
  | _ => none

/-- Flags up to a closing mark, which is passed over: the flags in force behind it, the mark, and
whether there was a flag. No flag may stand twice, and behind the dash that turns flags off one must
follow. -/
def groupFlags : Nat → PatternFlags → List Char → PatternReader (PatternFlags × Char × Bool)
  | 0, _, _ => invalid
  | n + 1, f, seen => do
    let c ← current
    if c = ':' ∨ c = ')' then
      bump
      if seen.head? = some '-' then invalid
      return (f, c, !seen.isEmpty)
    if seen.contains c then invalid
    bump
    if c = '-' then groupFlags n f (c :: seen)
    else
      match PatternFlags.put? f c (!seen.contains '-') with
      | some f' => groupFlags n f' (c :: seen)
      | none => invalid

/-- The name of a group up to its closing mark, which is passed over. No two groups share a name. -/
def groupName : PatternReader Unit := fun s =>
  let name := s.rest.takeWhile (· != '>')
  let isFirst (c : Char) : Bool := c == '_' || Text.isLetter c
  let isNext (c : Char) : Bool :=
    c == '_' || c == '.' || c == '[' || c == ']' || Text.isLetter c || Text.isNumeral c
  match name, s.rest.dropWhile (· != '>') with
  | first :: others, _ :: rest =>
    if isFirst first && others.all isNext && !s.names.contains (String.ofList name) then
      some ((), { s with rest := rest, names := String.ofList name :: s.names })
    else none
  | _, _ => none

/-- How a parenthesis goes on: with flags for what follows, or with a group under the given flags, which
may have a number. -/
inductive GroupHead where
  | flags (f : PatternFlags)
  | group (f : PatternFlags) (number? : Option Nat)

/-- The number of a new group. -/
def newGroup : PatternReader Nat := fun s =>
  some (s.groups + 1, { s with groups := s.groups + 1 })

/-- The head of a parenthesis, which is next. -/
def groupHead (n : Nat) : PatternReader GroupHead := do
  bumpSpace
  let f ← flags
  let cs := (← get).rest
  if ["?=", "?!", "?<=", "?<!"].any (·.toList.isPrefixOf cs) then invalid
  if (← acceptText "?P<") || (← acceptText "?<") then
    groupName
    return .group f (some (← newGroup))
  if ← acceptText "?" then
    let (f', mark, any) ← groupFlags n f []
    if mark = ':' then return .group f' none
    if any then return .flags f' else invalid
  return .group f (some (← newGroup))

/-! ## Patterns -/

/-- A part of a pattern with the height of its nesting. Flags for what follows are a part, too, but no
quantifier may follow them. -/
structure Part where
  pattern : Pattern
  height : Nat
  repeatable : Bool

/-- The parts one after another. -/
def joinParts (parts : List Part) : Pattern × Nat :=
  let height := (parts.map Part.height).foldl max 0
  (.join (parts.map Part.pattern), if parts.length < 2 then height else height + 1)

/-- The branches as alternatives. -/
def joinBranches (branches : List (Pattern × Nat)) : Pattern × Nat :=
  let height := (branches.map Prod.snd).foldl max 0
  (.either (branches.map Prod.fst), if branches.length < 2 then height else height + 1)

/-- The set of any character that a point stands for. -/
def dotSet : PatternReader CharSet := do
  let f ← flags
  unless f.unicode do invalid
  if f.dotAll then return .all
  if f.anyLineEnd then return .negate (.union (.single '\n') (.single '\r'))
  return .negate (.single '\n')

/-- A character for itself. Without the Unicode flag, the value of a byte must be a character. -/
def literal (c : Char) (byte : Bool) : PatternReader Pattern := do
  if byte && 128 ≤ c.toNat && !(← flags).unicode then invalid
  return .ofSet (← foldSet (.single c))

/-- A part that no other part is in. -/
def primitive (n : Nat) (c : Char) : PatternReader Pattern := do
  let f ← flags
  match c with
  | '\\' =>
    match ← escape n with
    | .char c byte => literal c byte
    | .set s => return .ofSet s
    | .assert a => return .assert a
  | '.' =>
    bump
    return .ofSet (← dotSet)
  | '^' =>
    bump
    return .assert
      (if f.multiLine then (if f.anyLineEnd then .anyLineStart else .lineStart) else .textStart)
  | '$' =>
    bump
    return .assert
      (if f.multiLine then (if f.anyLineEnd then .anyLineEnd else .lineEnd) else .textEnd)
  | _ =>
    bump
    literal c false

/-- The bounds of the quantifier that the character starts, which is passed over. -/
def quantifier (n : Nat) (c : Char) : PatternReader (Nat × Option Nat) := do
  match c with
  | '?' =>
    bump
    return (0, some 1)
  | '*' =>
    bump
    return (0, none)
  | '+' =>
    bump
    return (1, none)
  | _ =>
    bumpSpace
    let _ ← current
    let least ← count n
    let most? ←
      if (← current) = ',' then do
        bumpSpace
        if (← current) = '}' then pure none else some <$> count n
      else pure (some least)
    unless (← current) = '}' do invalid
    bumpSpace
    match most? with
    | some most => if most < least then invalid else return (least, most?)
    | none => return (least, most?)

/-- Puts a quantifier on the last of the parts, which are in reverse. -/
def quantify (n : Nat) (c : Char) (parts : List Part) : PatternReader (List Part) := do
  match parts with
  | [] => invalid
  | last :: before =>
    unless last.repeatable do invalid
    let (least, most?) ← quantifier n c
    let lazy := (← peek?) = some '?'
    if lazy then bump
    let f ← flags
    return ⟨last.pattern.times least most? (lazy == f.swapGreed), last.height + 1, true⟩ :: before

/-- The rest of a pattern up to its end or the closing parenthesis around it: `parts` is the current
branch and `branches` the ones before it, both in reverse. -/
def branches : Nat → List (Pattern × Nat) → List Part → PatternReader (Pattern × Nat)
  | 0, _, _ => invalid
  | n + 1, done, parts => do
    skipSpace
    match ← peek? with
    | none | some ')' => return joinBranches (joinParts parts.reverse :: done).reverse
    | some '|' =>
      bump
      branches n (joinParts parts.reverse :: done) []
    | some '(' =>
      let outer ← flags
      match ← groupHead n with
      | .flags f =>
        setFlags f
        branches n done (⟨.empty, 0, false⟩ :: parts)
      | .group f number? =>
        setFlags f
        let (p, height) ← branches n [] []
        unless (← current) = ')' do invalid
        bump
        setFlags outer
        let p := match number? with
          | some number => .group number p
          | none => p
        branches n done (⟨p, height + 1, true⟩ :: parts)
    | some '[' =>
      let bracketed ← charClass n
      branches n done (⟨.ofSet bracketed.set, bracketed.height, true⟩ :: parts)
    | some c =>
      if c = '?' ∨ c = '*' ∨ c = '+' ∨ c = '{' then
        branches n done (← quantify n c parts)
      else
        let p ← primitive n c
        branches n done (⟨p, 0, true⟩ :: parts)

/-- A pattern that takes up the whole text. -/
def whole (n : Nat) : PatternReader (Pattern × Nat) := do
  let result ← branches n [] []
  if (← peek?).isSome then invalid
  return result

end PatternReader

/-- How deeply a pattern may be nested. -/
def Pattern.heightLimit : Nat := 250

/-- The pattern that a text stands for, if it is one. -/
def Pattern.parse? (text : String) : Option Pattern :=
  let cs := text.toList
  match PatternReader.whole (4 * (cs.length + 2)) ⟨cs, default, [], 0⟩ with
  | some ((p, height), _) => if height ≤ heightLimit ∧ p.isWithinLimit then some p else none
  | none => none

end ParLang
