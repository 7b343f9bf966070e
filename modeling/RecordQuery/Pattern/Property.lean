import RecordQuery.Pattern.Property.Break
import RecordQuery.Pattern.Tables.Age

/-!
# Classes named by a character property

A pattern names a class by a yes-or-no property, a general category or a script, or by a property
and one of its values. The values of `age` are versions of the Unicode standard.
-/

namespace RecordQuery.Pattern

/-- The characters of the version with the given name, such as `3.1` or `v31`, and of all before. -/
def findAge (name : String) : Option CharClass :=
  let plain (version : String) : String :=
    String.ofList ('v' :: version.toList.filter (· != '.'))
  (ageTables.findIdx? fun (version, _) => name = version || name = plain version).map fun i =>
    .unions ((ageTables.take (i + 1)).map fun (_, ranges) => .table ranges)

/-- The class that a name alone stands for. -/
def findProperty (name : String) : Option CharClass :=
  let name := normalizeName name
  (binaryProperties.find name).orElse fun _ =>
    (findCategory name).orElse fun _ => (findScriptCode name).map scriptClass

/-- The class of the characters for which a property has a value. -/
def findPropertyValue (property value : String) : Option CharClass :=
  let value := normalizeName value
  match normalizeName property with
  | "gc" | "generalcategory" => findCategory value
  | "sc" | "script" => (findScriptCode value).map scriptClass
  | "scx" | "scriptextensions" => (findScriptCode value).map scriptExtensionClass
  | "age" => findAge value
  | "gcb" | "graphemeclusterbreak" => clusterBreaks.find value
  | "wb" | "wordbreak" => wordBreaks.find value
  | "sb" | "sentencebreak" => sentenceBreaks.find value
  | _ => none

end RecordQuery.Pattern
