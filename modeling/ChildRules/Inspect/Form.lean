/-!
# Forms of detailed text

Detailed text shows how a thing is made up: a name with its parts in parentheses, a name with named
parts in braces, a list in brackets. It is for those who look into a program, as messages are for
those who use it.
-/

namespace ChildRules.Form

def parts (texts : List String) : String :=
  ", ".intercalate texts

/-- A name with parts in order. The name alone stands for no parts, and a comma marks a single part
that has no name before it, which else would read as a parenthesis. -/
def tuple (name : String) : List String → String
  | [] => name
  | [part] => name ++ "(" ++ part ++ (if name.isEmpty then ",)" else ")")
  | texts => name ++ "(" ++ parts texts ++ ")"

def record (name : String) (fields : List (String × String)) : String :=
  name ++ " \x7b " ++ parts (fields.map fun (field, text) => field ++ ": " ++ text) ++ " \x7d"

def list (texts : List String) : String :=
  "[" ++ parts texts ++ "]"

def optional : Option String → String
  | none => "None"
  | some text => tuple "Some" [text]

def truth (b : Bool) : String :=
  if b then "true" else "false"

end ChildRules.Form
