import ApexOutline.Json.Record
import ApexOutline.Report
import ApexOutline.Settings
/-!
# Encoding and decoding

Every type of a report has an encoding as JSON and a decoder that reads it back. Fields are written
in the order of declaration. Decoders take objects with the fields in any order, further members,
and the array form of a record.
-/

namespace ApexOutline

open Json

namespace ScopeList

/-- Scopes are written as the list of keywords. -/
def toJson (scopes : ScopeList) : Json :=
  .ofTexts scopes.keywords

/-- Keywords are taken as they are. -/
def ofJson? (value : Json) : Option ScopeList :=
  (toList? toText? value).map ScopeList.mk

end ScopeList

namespace Settings

/-- The fields of settings. -/
def fields : List String :=
  ["scopes", "extensions", "max_files", "parallel_threads", "verbose"]

/-- A count that may be missing. -/
def limitToJson : Option Nat → Json
  | some n => .ofNat n
  | none => .null

def toJson (s : Settings) : Json :=
  .object
    [("scopes", s.scopes.toJson), ("extensions", .ofTexts s.extensions),
     ("max_files", limitToJson s.maxFiles), ("parallel_threads", limitToJson s.threads),
     ("verbose", .bool s.verbose)]

/-- A field that is missing takes its default. -/
def ofJson? (value : Json) : Option Settings := do
  let standard : Settings := {}
  let members ← membersOrDefault? fields value
  let scopes ← defaulted standard.scopes ScopeList.ofJson? members "scopes"
  let extensions ← defaulted standard.extensions (toList? toText?) members "extensions"
  let maxFiles ← defaulted standard.maxFiles (orNull toCount?) members "max_files"
  let threads ← defaulted standard.threads (orNull toCount?) members "parallel_threads"
  let verbose ← defaulted standard.verbose toBool? members "verbose"
  return { scopes, extensions, maxFiles, threads, verbose }

end Settings

namespace Context

def fields : List String := ["name", "is_interface"]

def toJson (c : Context) : Json :=
  .object [("name", .text c.name), ("is_interface", .bool c.isInterface)]

def ofJson? (value : Json) : Option Context := do
  let members ← members? fields value
  let name ← required toText? members "name"
  let isInterface ← required toBool? members "is_interface"
  return { name, isInterface }

end Context

namespace Declaration

def Kind.toJson (kind : Kind) : Json :=
  .text kind.text

/-- The kind with the given spelling. -/
def Kind.ofText? (spelling : Text) : Option Kind :=
  Kind.all.find? (·.text == spelling)

/-- A kind is a text, or an object whose only member has that name and is null. -/
def Kind.ofJson? : Json → Option Kind
  | .text spelling => Kind.ofText? spelling
  | .object [(spelling, .null)] => Kind.ofText? spelling.toList
  | _ => none

def fields : List String :=
  ["kind", "name", "scope", "line_number", "signature", "parent", "doc_comment", "links"]

def toJson (d : Declaration) : Json :=
  .object
    [("kind", d.kind.toJson), ("name", .ofOption d.name), ("scope", .ofOption d.scope),
     ("line_number", .ofNat d.lineNumber), ("signature", .text d.signature),
     ("parent", .ofOption d.parent), ("doc_comment", .ofOption d.docComment),
     ("links", .ofTexts d.links)]

def ofJson? (value : Json) : Option Declaration := do
  let members ← members? fields value
  let kind ← required Kind.ofJson? members "kind"
  let name ← optional toText? members "name"
  let scope ← optional toText? members "scope"
  let lineNumber ← required toCount? members "line_number"
  let signature ← required toText? members "signature"
  let parent ← optional toText? members "parent"
  let docComment ← optional toText? members "doc_comment"
  let links ← required (toList? toText?) members "links"
  return { kind, name, scope, lineNumber, signature, parent, docComment, links }

end Declaration

namespace Outline

def fields : List String := ["declarations", "skipped_lines"]

def toJson (o : Outline) : Json :=
  .object
    [("declarations", .array (o.declarations.map Declaration.toJson)),
     ("skipped_lines", .ofNat o.skippedLines)]

def ofJson? (value : Json) : Option Outline := do
  let members ← members? fields value
  let declarations ← required (toList? Declaration.ofJson?) members "declarations"
  let skippedLines ← required toCount? members "skipped_lines"
  return { declarations, skippedLines }

end Outline

namespace FileOutline

def fields : List String := ["file_path", "content_hash", "declarations", "skipped_lines"]

def toJson (f : FileOutline) : Json :=
  .object
    [("file_path", .text f.path), ("content_hash", .text f.contentHash),
     ("declarations", .array (f.declarations.map Declaration.toJson)),
     ("skipped_lines", .ofNat f.skippedLines)]

def ofJson? (value : Json) : Option FileOutline := do
  let members ← members? fields value
  let path ← required toText? members "file_path"
  let contentHash ← required toText? members "content_hash"
  let declarations ← required (toList? Declaration.ofJson?) members "declarations"
  let skippedLines ← required toCount? members "skipped_lines"
  return { path, contentHash, declarations, skippedLines }

end FileOutline

namespace Tally

def fields : List String :=
  ["total_files", "empty_files", "files_with_declarations", "error_files", "error_file_paths",
   "total_declarations", "skipped_lines"]

def toJson (t : Tally) : Json :=
  .object
    [("total_files", .ofNat t.totalFiles), ("empty_files", .ofNat t.emptyFiles),
     ("files_with_declarations", .ofNat t.filesWithDeclarations),
     ("error_files", .ofNat t.errorFiles), ("error_file_paths", .ofTexts t.errorFilePaths),
     ("total_declarations", .ofNat t.totalDeclarations), ("skipped_lines", .ofNat t.skippedLines)]

def ofJson? (value : Json) : Option Tally := do
  let members ← members? fields value
  let totalFiles ← required toCount? members "total_files"
  let emptyFiles ← required toCount? members "empty_files"
  let filesWithDeclarations ← required toCount? members "files_with_declarations"
  let errorFiles ← required toCount? members "error_files"
  let errorFilePaths ← required (toList? toText?) members "error_file_paths"
  let totalDeclarations ← required toCount? members "total_declarations"
  let skippedLines ← required toCount? members "skipped_lines"
  return { totalFiles, emptyFiles, filesWithDeclarations, errorFiles, errorFilePaths,
           totalDeclarations, skippedLines }

end Tally

/-- A report, made at `time`. -/
def Report.toJson (report : Report) (time : Text) : Json :=
  .object
    [("files", .array (report.files.map FileOutline.toJson)), ("stats", report.tally.toJson),
     ("generated_at", .text time)]

end ApexOutline
