import PubList.Unicode.Age

/-!
# Values of properties

A property that divides the characters has a value for each of its parts. Properties and values are
found by name.
-/

namespace PubList.Unicode

/-- The characters that have a value of a property: a general category, a script in the narrow or in
the wide sense, a version that knows them, or a class by which the ends of graphemes, words or
sentences are found. -/
def charsValued? (property value : Text) : Option CharSet :=
  let key := nameKey property
  let value := nameKey value
  if isKeyOf key ["gc", "General_Category"] then categoryOfKey? value
  else if isKeyOf key ["sc", "Script"] then (Script.ofKey? value).map Script.chars
  else if isKeyOf key ["scx", "Script_Extensions"] then
    (Script.ofKey? value).map Script.extendedChars
  else if isKeyOf key ["age"] then charsOfVersion? value
  else if isKeyOf key ["GCB", "Grapheme_Cluster_Break"] then CharClass.ofKey? graphemeClasses value
  else if isKeyOf key ["WB", "Word_Break"] then CharClass.ofKey? wordClasses value
  else if isKeyOf key ["SB", "Sentence_Break"] then CharClass.ofKey? sentenceClasses value
  else none

end PubList.Unicode
