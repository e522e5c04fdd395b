/-! Names of properties and of their values. They are compared loosely: case, blanks, low
lines, hyphens, a leading `is` and whatever is not ASCII do not count. -/
namespace Packrat.Unicode.Name

def core (name : List Char) : List Char :=
  (name.filter fun c => c.toNat < 128 && c != ' ' && c != '_' && c != '-').map Char.toLower

def loose (name : String) : List Char :=
  match name.toList with
  | a :: b :: rest =>
    if a.toLower == 'i' && b.toLower == 's' then
      if core rest == ['c'] then ['i', 's', 'c'] else core rest
    else core (a :: b :: rest)
  | short => core short

def hasName (names : List String) (name : String) : Bool :=
  let key := loose name
  names.any (loose · == key)

end Packrat.Unicode.Name
