import Kro.Parser.Strings

namespace Kro

-- parser.go: a field name that is empty or holds a dot is appended as `["name"]`, so that the
-- path can be read back; any other name is appended after a dot.
def joinPathAndFieldName (path fieldName : String) : String :=
  if fieldName = "" || fieldName.toList.contains '.' then path ++ "[" ++ Go.quote fieldName ++ "]"
  else if path = "" then fieldName
  else path ++ "." ++ fieldName

-- parseArray: `fmt.Sprintf("%s[%d]", path, i)`
def itemPath (path : String) (i : Nat) : String :=
  path ++ "[" ++ toString i ++ "]"

-- One step from a node of a document to a child: a field of a map or an index of an array.
inductive PathStep where
  | field (name : String)
  | index (i : Nat)
  deriving Repr, DecidableEq

-- A field step is joined as parseObject joins it; an index step appends `[i]`, `i` in decimal.
def PathStep.append (path : String) : PathStep → String
  | field name => joinPathAndFieldName path name
  | index i    => path ++ "[" ++ toString i ++ "]"

-- The path the parser builds for a location, starting from the path `path` of its origin.
def encodePath (path : String) (l : List PathStep) : String :=
  l.foldl PathStep.append path

@[simp] theorem encodePath_nil (path : String) : encodePath path [] = path := rfl

@[simp] theorem encodePath_cons (path : String) (s : PathStep) (l : List PathStep) :
    encodePath path (s :: l) = encodePath (s.append path) l := rfl

theorem encodePath_append (path : String) (l : List PathStep) (s : PathStep) :
    encodePath path (l ++ [s]) = s.append (encodePath path l) := by
  simp [encodePath]

end Kro
