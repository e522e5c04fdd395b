import Std.Data.TreeMap
import Packrat.Pattern
import Packrat.Token
import Packrat.Token.Definition

/-! Token definitions made ready for reading. Names get numbers in the order in which
they are first declared; references between definitions are resolved to them. -/
namespace Packrat

inductive DefinitionFault where
  | invalidName
  | emptyPattern
  | invalidPattern (fault : Pattern.Fault)
  | invalidLookahead (fault : Pattern.Fault)
  | unknownReference (name : String)
  | tooManyKinds
  deriving DecidableEq, Repr

structure DefinitionError where
  definition : String
  fault : DefinitionFault
  deriving DecidableEq, Repr

def DefinitionFault.message : DefinitionFault → String
  | .invalidName => "token names must be non-empty and must not contain ','"
  | .emptyPattern => "pattern matches nothing"
  | .invalidPattern fault => "invalid regular expression: " ++ fault.message
  | .invalidLookahead fault => "invalid lookahead expression: " ++ fault.message
  | .unknownReference name => "references unknown token `" ++ name ++ "`"
  | .tooManyKinds => "too many distinct token names"

def DefinitionError.message (e : DefinitionError) : String :=
  "token definition `" ++ e.definition ++ "`: " ++ e.fault.message

def DefinitionError.code : String := "lexer::definition"

structure Kinds where
  names : Array String := #[]
  ids : Std.TreeMap String Kind := ∅

namespace Kinds

def limit : Nat := 65536

def add (k : Kinds) (name : String) : Kinds :=
  let next := k.names.size
  ⟨k.names.push name, k.ids.insert name next⟩

def assign : List Definition → Kinds → Except DefinitionError Kinds
  | [], k => .ok k
  | d :: rest, k =>
    if d.name.isEmpty || d.name.toList.contains ',' then .error ⟨d.name, .invalidName⟩
    else if k.ids.contains d.name then assign rest k
    else if k.names.size < limit then assign rest (k.add d.name)
    else .error ⟨d.name, .tooManyKinds⟩

end Kinds

inductive Matcher where
  | literal (text : List Char)
  | pattern (p : Pattern)

structure Lexeme where
  kind : Kind
  definition : Definition
  matcher : Matcher
  notFollowedBy : Option Pattern
  onlyAfter : Option (List Kind)
  notAfter : List Kind

namespace Lexeme

def resolve (k : Kinds) (d : Definition) (name : String) : Except DefinitionError Kind :=
  match k.ids[name]? with
  | some kind => .ok kind
  | none => .error ⟨d.name, .unknownReference name⟩

def matcherOf (d : Definition) : Except DefinitionError Matcher :=
  match d.shape with
  | .literal text =>
    if text.isEmpty then .error ⟨d.name, .emptyPattern⟩ else .ok (.literal text.toList)
  | .pattern written =>
    match Pattern.compile written with
    | .ok p => .ok (.pattern p)
    | .error fault => .error ⟨d.name, .invalidPattern fault⟩

def lookaheadOf (d : Definition) : Except DefinitionError (Option Pattern) :=
  match d.notFollowedBy with
  | none => .ok none
  | some written =>
    match Pattern.compile written with
    | .ok p => .ok (some p)
    | .error fault => .error ⟨d.name, .invalidLookahead fault⟩

def ofDefinition (k : Kinds) (d : Definition) : Except DefinitionError Lexeme := do
  let matcher ← matcherOf d
  let notFollowedBy ← lookaheadOf d
  let onlyAfter ← match d.onlyAfter with
    | none => pure none
    | some names => (names.mapM (resolve k d)).map some
  let notAfter ← d.notAfter.mapM (resolve k d)
  let kind ← resolve k d d.name
  pure ⟨kind, d, matcher, notFollowedBy, onlyAfter, notAfter⟩

end Lexeme

structure Lexer where
  lexemes : List Lexeme
  kinds : Kinds

namespace Lexer

def ofDefinitions (definitions : List Definition) : Except DefinitionError Lexer := do
  let kinds ← Kinds.assign definitions {}
  let lexemes ← definitions.mapM (Lexeme.ofDefinition kinds)
  pure ⟨lexemes, kinds⟩

def kindOf (lx : Lexer) (name : String) : Option Kind := lx.kinds.ids[name]?

def kindName (lx : Lexer) (kind : Kind) : Option String := lx.kinds.names[kind]?

def definitions (lx : Lexer) : List Definition := lx.lexemes.map (·.definition)

def displayName (lx : Lexer) (name : String) : String :=
  match lx.definitions.find? (·.name == name) with
  | some d => d.displayName
  | none => name

def literalText (lx : Lexer) (name : String) : Option String :=
  match lx.definitions.filter (·.name == name) with
  | [] => none
  | d :: rest =>
    d.shape.literal?.bind fun text =>
      if rest.all (·.shape.literal? == some text) then some text else none

end Lexer
end Packrat
