import Testbed.Config.Decode
import Testbed.Json.Document
import Testbed.Yaml.Document

/-!
# Configuration files

A file is JSON if its name ends so, and YAML otherwise. What it says is normalised and has to
be valid.
-/

namespace Testbed.Config

def Format.document : Format → String → Document
  | yaml => Yaml.document
  | json => Json.document

def ofText (format : Format) (text : String) : Except Fault Config := do
  match ofDocument (format.document text) with
  | .error problem => throw (.malformed format problem)
  | .ok c => c.checked

def Format.ofPath (path : String) : Format :=
  if Path.extension? path = some "json" then .json else .yaml

def ofFile (path : String) (content : Except SystemFault (List UInt8)) : Except Fault Config := do
  match content with
  | .error reason => throw (.unreadable path reason)
  | .ok octets =>
    match Text.decode? octets with
    | none => throw (.unreadable path .notUtf8)
    | some text => ofText (.ofPath path) (String.ofList text)

end Testbed.Config
