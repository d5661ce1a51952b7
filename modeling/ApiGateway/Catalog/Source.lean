import ApiGateway.Catalog.Decoding
import ApiGateway.Files
import ApiGateway.Json.Reader
import ApiGateway.Text.Blank
import ApiGateway.Yaml.Value

/-! # Where catalogs come from

A catalog is a text, a file or a folder of files, in JSON or YAML. A text alone is JSON if it begins
with a bracket; of a file the extension decides. A folder stands for the providers of its catalog
files, in the order of their names; other files and folders in it do not count.
-/

set_option autoImplicit false

namespace ApiGateway

/-- A format of structured text. -/
inductive Format where
  | json
  | yaml
  deriving DecidableEq

namespace Format

/-- The name of a format. -/
def name : Format → String
  | .json => "JSON"
  | .yaml => "YAML"

/-- The format of a file. -/
def ofPath (path : String) : Format :=
  if FilePath.hasExtension ["json"] path then .json else .yaml

/-- The value that a text in a format stands for. -/
def read? : Format → String → Option Json
  | .json => Json.read?
  | .yaml => Yaml.read?

end Format

namespace Catalog

/-- What is wrong with a source of a catalog; the path is that of a file. -/
inductive SourceError where
  | notFound (path : String)
  | malformed (format : Format) (path : Option String)
  /-- The text holds something that is no catalog. -/
  | undecodable (path : Option String)
  /-- The text holds something that does not even look like a catalog. -/
  | shapeless (path : Option String)
  deriving DecidableEq

/-- The wording of what is wrong. -/
def SourceError.message : SourceError → String
  | .notFound path => "catalog not found at " ++ path
  | .malformed format none => "parse " ++ format.name ++ " catalog"
  | .malformed format (some path) => "parse " ++ format.name ++ " catalog " ++ path
  | .undecodable (some path) => "decode catalog " ++ path
  | .undecodable none => "decode catalog"
  | .shapeless (some path) => "decode catalog " ++ path
  | .shapeless none => CatalogDocument.shapeMessage

end Catalog

namespace CatalogDocument

open Catalog (SourceError)

/-- Reads a text in a format; the path is that of its file. -/
def ofTextIn (format : Format) (path : Option String) (text : String) :
    Except SourceError CatalogDocument :=
  match format.read? text with
  | none => .error (.malformed format path)
  | some tree =>
    match ofTree tree with
    | .catalog document => .ok document
    | .unreadable => .error (.undecodable path)
    | .unknown => .error (.shapeless path)

/-- Reads a text whose beginning tells its format. -/
def ofText (text : String) : Except SourceError CatalogDocument :=
  let format : Format := match Text.trimStart text.toList with
    | '\x7b' :: _ => .json
    | '[' :: _ => .json
    | _ => .yaml
  ofTextIn format none text

/-- Reads a file. -/
def ofFile (path text : String) : Except SourceError CatalogDocument :=
  ofTextIn (.ofPath path) (some path) text

/-- Reads what stands at a path. -/
def ofEntry (path : String) : Option Entry → Except SourceError CatalogDocument
  | none => .error (.notFound path)
  | some (.file text) => ofFile path text
  | some (.folder entries) => do
    let parts ← entries.filterMapM fun named : String × Entry =>
      match named.2 with
      | .file text =>
        if FilePath.hasExtension ["yaml", "yml", "json"] named.1 then
          some <$> ofFile (FilePath.join path named.1) text
        else .ok none
      | .folder _ => .ok none
    return { providers := parts.flatMap (·.providers) }

end CatalogDocument

end ApiGateway
