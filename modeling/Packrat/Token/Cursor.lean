import Packrat.Text.Slice

/-! The place at which the next token is read. Advancing over a text counts its bytes,
its lines and the characters of its last line; a carriage return and the line feed
after it end one line. -/
namespace Packrat

def isTerminator (c : Char) : Bool :=
  c == '\n' || c == '\r' || c == Char.ofNat 0x2028 || c == Char.ofNat 0x2029

def utf8 (text : List Char) : List UInt8 := text.flatMap String.utf8EncodeChar

/-- Some byte is one with which a line terminator begins. Texts without such a byte have
no terminator, so one look at the bytes spares counting characters. -/
def mayBreakLine (text : List Char) : Bool :=
  (utf8 text).any fun b => b == 0x0A || b == 0x0D || b == 0xE2

def containsTerminator (text : List Char) : Bool :=
  mayBreakLine text && text.any isTerminator

def LineCol.after : List Char → LineCol → LineCol
  | [], p => p
  | '\r' :: '\n' :: rest, p => after rest ⟨p.line + 1, 0⟩
  | c :: rest, p =>
    if isTerminator c then after rest ⟨p.line + 1, 0⟩ else after rest ⟨p.line, p.column + 1⟩

structure Cursor where
  offset : Nat
  line : Nat
  column : Nat
  depth : Nat
  deriving DecidableEq, Repr

namespace Cursor

def first : Cursor := ⟨0, 1, 0, 0⟩

instance : Inhabited Cursor := ⟨first⟩

def position (c : Cursor) : LineCol := ⟨c.line, c.column⟩

def advance (c : Cursor) (text : List Char) : Cursor :=
  if mayBreakLine text then
    let p := LineCol.after text c.position
    { c with offset := c.offset + byteLength text, line := p.line, column := p.column }
  else
    { c with offset := c.offset + byteLength text, column := c.column + text.length }

end Cursor
end Packrat
