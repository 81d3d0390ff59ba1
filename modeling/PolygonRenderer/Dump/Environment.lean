/-!
# Environments

An environment is a sequence of entries, each a text of a name, an equality sign
and a value. A name that is looked up may have an equality sign itself; it then
reaches into the value of an entry. No text of an environment has a null
character.
-/

namespace PolygonRenderer.Dump

/-- The entries of an environment as names and values. -/
abbrev Environment := List (String × String)

namespace Environment

/-- Whether a text may be part of an environment. -/
def admits (text : String) : Bool :=
  !text.toList.contains '\x00'

/-- What follows a name and an equality sign in the text of an entry. -/
def entryValue? (name : String) (entry : String × String) : Option String :=
  ((name ++ "=").toList.isPrefixOf? (entry.1 ++ "=" ++ entry.2).toList).map String.ofList

/-- The value of a variable, from the first entry that has one. There is no
variable without a name. -/
def value? (environment : Environment) (name : String) : Option String :=
  if name.isEmpty then none else environment.findSome? (entryValue? name)

/-- Give a variable a value, unless it has one. There is no environment with a
value that no environment admits. -/
def define? (environment : Environment) (name value : String) : Option Environment :=
  match environment.value? name with
  | some _ => some environment
  | none => if admits value then some (environment ++ [(name, value)]) else none

end Environment

end PolygonRenderer.Dump
