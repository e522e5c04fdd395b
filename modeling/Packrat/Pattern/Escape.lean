import Packrat.Pattern.Expr
import Packrat.Text.Alphabet
import Packrat.Text.Letter
import Packrat.Unicode.Query

/-! What a backslash introduces in a written pattern, and the switches that decide how
the text around it is read. In spaced text, blanks and comments between the characters
of an escape, a class or a count mean nothing. -/
namespace Packrat.Pattern

inductive Fault where
  | groupUnclosed
  | groupUnopened
  | groupName
  | classUnclosed
  | classRange
  | classItem
  | nothingToRepeat
  | count
  | escape
  | codePoint
  | property
  | asciiOnly
  | flag
  | lookAround
  | tooDeep
  | tooLarge
  deriving DecidableEq, Repr

def Fault.message : Fault → String
  | .groupUnclosed => "unclosed group"
  | .groupUnopened => "unopened group"
  | .groupName => "invalid group name"
  | .classUnclosed => "unclosed character class"
  | .classRange => "invalid character class range"
  | .classItem => "invalid item in character class"
  | .nothingToRepeat => "repetition operator missing expression"
  | .count => "invalid repetition count"
  | .escape => "unrecognized escape sequence"
  | .codePoint => "invalid code point"
  | .property => "unknown Unicode property"
  | .asciiOnly => "only ASCII is possible here"
  | .flag => "unrecognized flag"
  | .lookAround => "look-around is not supported"
  | .tooDeep => "nesting is too deep"
  | .tooLarge => "pattern is too large"

structure Flags where
  caseless : Bool := false
  multiLine : Bool := false
  dotAll : Bool := false
  lazyFirst : Bool := false
  spaced : Bool := false
  returns : Bool := false
  ascii : Bool := false
  deriving DecidableEq, Repr

def Flags.takeFrom (f : Flags) (ok : Char → Bool) (inComment : Bool) :
    Nat → List Char → List Char × List Char
  | _, [] => ([], [])
  | n, c :: rest =>
    if inComment then f.takeFrom ok (c != '\n') n rest
    else if f.spaced && Alphabet.blank.contains c then f.takeFrom ok false n rest
    else if f.spaced && c == '#' then f.takeFrom ok true n rest
    else match n with
      | 0 => ([], c :: rest)
      | n + 1 =>
        if ok c then
          let (taken, rest) := f.takeFrom ok false n rest
          (c :: taken, rest)
        else ([], c :: rest)

def Flags.take (f : Flags) (n : Nat) (text : List Char) : List Char × List Char :=
  f.takeFrom (fun _ => true) false n text

def Flags.takeWhile (f : Flags) (ok : Char → Bool) (text : List Char) : List Char × List Char :=
  f.takeFrom ok false text.length text

def Flags.skip (f : Flags) (text : List Char) : List Char := (f.take 0 text).2

def Flags.peek (f : Flags) (text : List Char) : Option Char :=
  if f.spaced then
    match text.dropWhile Alphabet.blank.contains with
    | '#' :: rest => (rest.dropWhile Alphabet.blank.contains).head?
    | text => text.head?
  else text.head?

def caseVariants (s : CharSet) : CharSet :=
  Letter.foldRuns.foldl (fun acc run =>
    (List.range ((run.last - run.first) / run.step + 1)).foldl (fun acc i =>
      let orbit := Letter.variants (run.first + i * run.step)
      let (known, missing) := orbit.partition s.hasCode
      if known.isEmpty then acc else missing.foldl (fun acc n => acc.addRange n n) acc) acc) s

def asciiVariants (s : CharSet) : CharSet :=
  (List.range 26).foldl (fun acc i =>
    if s.hasCode (65 + i) || s.hasCode (97 + i) then
      (acc.addRange (65 + i) (65 + i)).addRange (97 + i) (97 + i)
    else acc) s

def Flags.apply (f : Flags) (s : CharSet) : CharSet :=
  if !f.caseless then s else if f.ascii then asciiVariants s else caseVariants s

def Flags.negate (f : Flags) (negated : Bool) (s : CharSet) : Except Fault CharSet :=
  if !negated then .ok s else if f.ascii then .error .asciiOnly else .ok s.compl

def Flags.char (f : Flags) (c : Char) : Expr :=
  if !f.caseless then .literal [c]
  else if f.ascii then .ofSet (asciiVariants (.single c))
  else .ofSet ((Letter.variants c.toNat).foldl (fun acc n => acc.addRange n n) (.single c))

def isDigit (c : Char) : Bool := '0' ≤ c && c ≤ '9'

def charOfCode? (n : Nat) : Option Char :=
  if h : n.isValidChar then some (Char.ofNatAux n h) else none

def readCode (f : Flags) (width : Nat) (text : List Char) : Except Fault (Char × List Char) :=
  match f.skip text with
  | '\x7b' :: rest =>
    let (digits, rest) := f.takeWhile (· != '\x7d') rest
    match rest with
    | [] => .error .codePoint
    | _ :: rest =>
      if digits.isEmpty then .error .codePoint
      else match (Hex.number? digits).bind charOfCode? with
        | some c => .ok (c, rest)
        | none => .error .codePoint
  | text =>
    let (digits, rest) := f.take width text
    if digits.length < width then .error .codePoint
    else match (Hex.number? digits).bind charOfCode? with
      | some c => .ok (c, rest)
      | none => .error .codePoint

inductive Escaped where
  | char (c : Char)
  | set (s : CharSet)
  | look (what : Look)
  deriving Repr

def isEscapable (c : Char) : Bool :=
  c.toNat < 128 && !c.isAlphanum && c != '<' && c != '>'

def readBoundary (f : Flags) (text : List Char) : Except Fault (WordEdge × List Char) :=
  match text with
  | '\x7b' :: rest =>
    let (name, rest) := f.takeWhile (fun c => c.isAlpha || c == '-') rest
    if name.isEmpty then .ok (.boundary, text)
    else match rest with
      | '\x7d' :: tail =>
        let name := String.ofList name
        if name = "start" then .ok (.start, tail)
        else if name = "end" then .ok (.stop, tail)
        else if name = "start-half" then .ok (.startHalf, tail)
        else if name = "end-half" then .ok (.stopHalf, tail)
        else .error .escape
      | _ => .error .escape
  | _ => .ok (.boundary, text)

def cutAt? (mark : List Char) : List Char → Option (List Char × List Char)
  | [] => none
  | c :: rest =>
    if mark.isPrefixOf (c :: rest) then some ([], (c :: rest).drop mark.length)
    else (cutAt? mark rest).map fun r => (c :: r.1, r.2)

def findProperty? (text : List Char) : Option CharSet :=
  match ((cutAt? ['!', '='] text).or (cutAt? [':'] text)).or (cutAt? ['='] text) with
  | some (property, value) => Unicode.valued? (.ofList property) (.ofList value)
  | none => Unicode.named? (.ofList text)

def readProperty (f : Flags) (negated : Bool) (text : List Char) :
    Except Fault (CharSet × List Char) := do
  let (name, rest) ←
    match f.skip text with
    | '\x7b' :: rest =>
      match f.takeWhile (· != '\x7d') rest with
      | (name, _ :: rest) => pure (name, rest)
      | _ => throw Fault.property
    | c :: rest => if c == '\x5c' then throw Fault.property else pure ([c], rest)
    | [] => throw Fault.escape
  if f.ascii then throw Fault.asciiOnly
  match findProperty? name with
  | some s => pure (← f.negate negated (f.apply s), rest)
  | none => throw Fault.property

def readShorthand (f : Flags) (c : Char) : Except Fault CharSet :=
  let kind := c.toLower
  let chars :=
    if kind == 'd' then
      if f.ascii then .ofBounds [48, 58] else Unicode.Category.chars .decimalNumber
    else if kind == 's' then if f.ascii then .ofBounds [9, 14, 32, 33] else Alphabet.blank
    else if f.ascii then .ofBounds [48, 58, 65, 91, 95, 96, 97, 123]
    else Unicode.Property.word
  f.negate c.isUpper chars

def readByte (f : Flags) (text : List Char) : Except Fault (Char × List Char) := do
  let (c, rest) ← readCode f 2 text
  if f.ascii && 127 < c.toNat && (f.skip text).head? != some '\x7b' then throw Fault.asciiOnly
  else pure (c, rest)

def readEscape (f : Flags) : List Char → Except Fault (Escaped × List Char)
  | [] => .error .escape
  | c :: rest =>
    let look := fun edge => (Escaped.look (.word edge f.ascii))
    if "dDsSwW".toList.contains c then (readShorthand f c).map fun s => (.set s, rest)
    else if c == 'p' || c == 'P' then (readProperty f (c == 'P') rest).map fun r => (.set r.1, r.2)
    else if c == 'x' then (readByte f rest).map fun r => (.char r.1, r.2)
    else if c == 'u' then (readCode f 4 rest).map fun r => (.char r.1, r.2)
    else if c == 'U' then (readCode f 8 rest).map fun r => (.char r.1, r.2)
    else if c == 'a' then .ok (.char (Char.ofNat 7), rest)
    else if c == 'f' then .ok (.char (Char.ofNat 12), rest)
    else if c == 'v' then .ok (.char (Char.ofNat 11), rest)
    else if c == 't' then .ok (.char '\t', rest)
    else if c == 'n' then .ok (.char '\n', rest)
    else if c == 'r' then .ok (.char '\r', rest)
    else if c == 'A' then .ok (.look .textStart, rest)
    else if c == 'z' then .ok (.look .textEnd, rest)
    else if c == 'B' then .ok (look .notBoundary, rest)
    else if c == '<' then .ok (look .start, rest)
    else if c == '>' then .ok (look .stop, rest)
    else if c == 'b' then (readBoundary f rest).map fun r => (look r.1, r.2)
    else if isEscapable c then .ok (.char c, rest)
    else .error .escape

end Packrat.Pattern
