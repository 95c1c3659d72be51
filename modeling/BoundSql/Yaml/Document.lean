import BoundSql.Config
import BoundSql.Yaml.Meaning

/-!
# Documents

Reading the text of a file as a value (`Yaml.load`), and the two kinds of file: query definitions
and configurations.  A text holds one document or none, which is null.  Whatever is wrong with the
form of a document is one fault; a scalar that its tag does not fit may be another.
-/

namespace BoundSql

/-- The value of a text. -/
def Yaml.load (text : String) : Outcome Value := do
  let cs := normalBreaks text.toList
  if !(cs.all isAllowed) then throw .document
  match ← Node.ofTokens (← tokens cs) with
  | none => return .null
  | some node => (node.meaning 0).mapError (·.2)

/-- The text of a file that has to be there. -/
def fileText (what path : String) : Option String → Outcome String
  | some text => .ok text
  | none => .error (.missingFile what path)

/-- The query definition in a file. -/
def Definition.load (path : String) (text : Option String) : Outcome Definition := do
  Definition.read (← Yaml.load (← fileText "Query definition" path text))

/-- The configuration in a file; an empty one stands for no settings. -/
def Config.load (path : String) (text : Option String) : Outcome Config := do
  let v ← Yaml.load (← fileText "Config file" path text)
  Config.read (if v.truthy then v else .map [])

end BoundSql
