import SymbolPath.Doclet
import SymbolPath.Report.Json
import SymbolPath.Report.Table

/-!
Listings of doclets by file, as a table for each file or as one JSON list.
-/

namespace SymbolPath

def Doclet.row (d : Doclet) : Table.Row :=
  [("kind", .text d.kind), ("path", .text d.path), ("name", .text d.name),
   ("memberof", .text d.memberof), ("access", .text d.access), ("line", .int d.line)]

namespace Listing

def columns : List Text := ["kind", "path", "name", "memberof", "access"]

/-- The doclets of each file, the files in the order in which they were first listed. -/
abbrev ByFile := List (Text × List Doclet)

/-- Lists the doclets of a file, in place of those listed for it before. -/
def put (listing : ByFile) (file : Text) (doclets : List Doclet) : ByFile :=
  if listing.any fun entry => entry.1 == file then
    listing.map fun entry => if entry.1 == file then (file, doclets) else entry
  else listing ++ [(file, doclets)]

def fileSection (file : Text) (doclets : List Doclet) : Text :=
  if doclets.isEmpty then file ++ ": no documented symbols"
  else file ++ ":\n" ++ Table.render columns (doclets.map Doclet.row)

def asTables (listing : ByFile) : Text :=
  Text.joinWith "\n\n" (listing.map fun (file, doclets) => fileSection file doclets)

def jsonRow (file : Text) (d : Doclet) : Value :=
  let entry (field : Text × Value) : Value × Value := (.text field.1, field.2)
  .map (d.row.map entry ++ [(.text "file", .text file)])

def asJson (listing : ByFile) : Text :=
  Json.ofValue (.list (listing.flatMap fun (file, doclets) => doclets.map (jsonRow file)))

/-- JSON if the format is so called, else tables. -/
def render (format : Text) (listing : ByFile) : Text :=
  if format == ("json" : Text) then asJson listing else asTables listing

end Listing
end SymbolPath
