import Packrat.Unicode.Age
import Packrat.Unicode.Break

/-! Sets of characters by name, as patterns ask for them. -/
namespace Packrat.Unicode

def named? (name : String) : Option CharSet :=
  ((Property.named? name).or (Category.named? name)).or ((Script.named? name).map Script.chars)

def valued? (property value : String) : Option CharSet :=
  let isCalled := fun names => Name.hasName names property
  if isCalled ["General_Category", "gc"] then Category.named? value
  else if isCalled ["Script", "sc"] then (Script.named? value).map Script.chars
  else if isCalled ["Script_Extensions", "scx"] then (Script.named? value).map Script.extended
  else if isCalled ["Age"] then Age.upTo? value
  else if isCalled ["Grapheme_Cluster_Break", "GCB"] then Break.named? Break.grapheme value
  else if isCalled ["Word_Break", "WB"] then Break.named? Break.word value
  else if isCalled ["Sentence_Break", "SB"] then Break.named? Break.sentence value
  else none

end Packrat.Unicode
