import Packrat.Lexer

/-! Reading one token at a time. Of the definitions available in a context the one with
the longest match wins; of equal lengths a keyword wins over others, and the earlier
definition over the later. -/
namespace Packrat

structure Context where
  goal : Goal
  prev : Option Kind
  atLineStart : Bool
  depth : Nat
  deriving DecidableEq, Repr

namespace Lexeme

def isAvailable (e : Lexeme) (ctx : Context) : Bool :=
  e.definition.availableIn ctx.goal
    && (!e.definition.lineStart || ctx.atLineStart)
    && (!(e.definition.nesting == .continues || e.definition.nesting == .closes) || ctx.depth != 0)
    && (match e.onlyAfter with
      | some allowed => ctx.prev.any allowed.contains
      | none => true)
    && !(ctx.prev.any e.notAfter.contains)

def rawLength? (e : Lexeme) (rest : List Char) : Option Nat :=
  match e.matcher with
  | .literal text => if text.isPrefixOf rest then some text.length else none
  | .pattern p => p.matchLength? rest

def matchLength? (e : Lexeme) (rest : List Char) : Option Nat :=
  match e.rawLength? rest with
  | none => none
  | some n =>
    let after := rest.drop n
    if n = 0 then none
    else if e.definition.keyword && after.head?.any Alphabet.isIdentifierPart then none
    else if e.notFollowedBy.any (·.matches? after) then none
    else some n

end Lexeme

namespace Lexer

def better (ctx : Context) (rest : List Char) (best : Option (Lexeme × Nat)) (e : Lexeme) :
    Option (Lexeme × Nat) :=
  if e.isAvailable ctx then
    match e.matchLength? rest, best with
    | none, _ => best
    | some n, none => some (e, n)
    | some n, some (b, m) =>
      if m < n || (n == m && e.definition.keyword && !b.definition.keyword) then some (e, n)
      else best
  else best

def longestMatch (lx : Lexer) (rest : List Char) (ctx : Context) : Option (Lexeme × Nat) :=
  lx.lexemes.foldl (better ctx rest) none

end Lexer

def Nesting.apply : Nesting → Cursor → Cursor
  | .opens, c => { c with depth := c.depth + 1 }
  | .closes, c => { c with depth := c.depth - 1 }
  | .none, c => c
  | .continues, c => c

def Lexeme.token (e : Lexeme) (text : List Char) (start next : Cursor) (broken : Bool) : Token :=
  { name := e.definition.name, kind := e.kind, text := String.ofList text,
    range := .ofOffsets start.offset next.offset, start := start.position,
    stop := next.position, breakBefore := broken, index := 0 }

namespace Lexer

/-- Skips trivia and reads a token. Every piece of trivia is at least one character, so the
number of characters left bounds the search; `broken` tells that a line has ended. -/
def readFrom (lx : Lexer) (goal : Goal) (prev : Option Kind) :
    Nat → List Char → Cursor → Bool → Scan
  | 0, _, cursor, _ => .ended cursor
  | _ + 1, [], cursor, _ => .ended cursor
  | fuel + 1, c :: rest, cursor, broken =>
    match lx.longestMatch (c :: rest) ⟨goal, prev, broken || cursor.offset == 0, cursor.depth⟩ with
    | none => .unrecognized cursor c
    | some (e, n) =>
      let text := (c :: rest).take n
      let next := cursor.advance text
      if e.definition.skip then
        readFrom lx goal prev fuel ((c :: rest).drop n) next (broken || containsTerminator text)
      else .token (e.token text cursor next broken) (e.definition.nesting.apply next)

def readToken (lx : Lexer) (source : List Char) (cursor : Cursor) (goal : Goal)
    (prev : Option Kind) : Scan :=
  match dropBytes? source cursor.offset with
  | none => .ended cursor
  | some rest => lx.readFrom goal prev rest.length rest cursor false

def tokenizeFrom (lx : Lexer) (source : List Char) :
    Nat → Cursor → Option Kind → Nat → List Token × Nat
  | 0, _, _, _ => ([], byteLength source)
  | fuel + 1, cursor, prev, index =>
    match lx.readToken source cursor defaultGoal prev with
    | .token t next =>
      let (rest, stopped) := tokenizeFrom lx source fuel next (some t.kind) (index + 1)
      ({ t with index := index } :: rest, stopped)
    | .ended _ => ([], byteLength source)
    | .unrecognized stop _ => ([], stop.offset)

def tokenize (lx : Lexer) (source : List Char) : List Token × Nat :=
  lx.tokenizeFrom source source.length .first none 0

def readGoals (lx : Lexer) (source : List Char) : List Goal → Cursor → Option Kind → List Scan
  | [], _, _ => []
  | goal :: goals, cursor, prev =>
    match lx.readToken source cursor goal prev with
    | .token t next => .token t next :: lx.readGoals source goals next (some t.kind)
    | scan => [scan]

end Lexer
end Packrat
