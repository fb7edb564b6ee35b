import LmntalServer.Rpc.Shape.Basic

/-!
# Shapes of documents

The shapes of what the protocol says about documents: places in them, edits of them, and remarks
on them.

Main definitions:

* `Shape.position`, `Shape.range`: places in a document.
* `Shape.documentId`, `Shape.versionedId`, `Shape.openedDocument`, `Shape.change`: documents.
* `Shape.textEdit`, `Shape.workspaceEdit`, `Shape.command`: what is to be done with documents.
* `Shape.documentation`, `Shape.diagnostic`: remarks.
* `Fields.place`, `Fields.progress`, `Fields.partialResult`: the members that many parameters share.
-/

namespace LmntalServer

/-! ## Places -/

/-- A position. -/
abbrev Shape.position : Shape :=
  .record "Position" <|
    .required "line" .word <|
    .required "character" .word <|
    .nil

/-- A range. -/
abbrev Shape.range : Shape :=
  .record "Range" <|
    .required "start" .position <|
    .required "end" .position <|
    .nil

/-- A range in a document. -/
def Shape.location : Shape :=
  .record "Location" <|
    .required "uri" .uri <|
    .required "range" .range <|
    .nil

/-! ## Documents -/

/-- The identifier of a document. -/
abbrev Shape.documentId : Shape :=
  .record "TextDocumentIdentifier" <|
    .required "uri" .uri <|
    .nil

/-- The identifier of a document with its version. -/
abbrev Shape.versionedId : Shape :=
  .record "VersionedTextDocumentIdentifier" <|
    .required "uri" .uri <|
    .required "version" .integer <|
    .nil

/-- The identifier of a document, perhaps with its version. -/
def Shape.optionallyVersionedId : Shape :=
  .record "OptionalVersionedTextDocumentIdentifier" <|
    .required "uri" .uri <|
    .nullable "version" .integer <|
    .nil

/-- A document that is opened. -/
abbrev Shape.openedDocument : Shape :=
  .record "TextDocumentItem" <|
    .required "uri" .uri <|
    .required "languageId" .string <|
    .required "version" .integer <|
    .required "text" .string <|
    .nil

/-- A change of a document. -/
abbrev Shape.change : Shape :=
  .record "TextDocumentContentChangeEvent" <|
    .nullable "range" .range <|
    .nullable "rangeLength" .word <|
    .required "text" .string <|
    .nil

/-! ## Shared members -/

/-- A number or a string. -/
def Shape.numberOrString : Shape :=
  .either "NumberOrString" .integer .string

/-- The members of a place in a document. -/
abbrev Fields.place : Fields :=
  .required "textDocument" .documentId <|
  .required "position" .position <|
  .nil

/-- The token for reports on the progress of a request. -/
abbrev Fields.progress : Fields :=
  .nullable "workDoneToken" .numberOrString .nil

/-- The token for results that come in pieces. -/
abbrev Fields.partialResult : Fields :=
  .nullable "partialResultToken" .numberOrString .nil

/-! ## Commands and edits -/

/-- A command. -/
def Shape.command : Shape :=
  .record "Command" <|
    .required "title" .string <|
    .required "command" .string <|
    .nullable "arguments" (.list .any) <|
    .nil

/-- An edit. -/
def Shape.textEdit : Shape :=
  .record "TextEdit" <|
    .required "range" .range <|
    .required "newText" .string <|
    .nil

/-- An edit that may insert or replace. -/
def Shape.insertReplaceEdit : Shape :=
  .record "InsertReplaceEdit" <|
    .required "newText" .string <|
    .required "insert" .range <|
    .required "replace" .range <|
    .nil

/-- An edit with the name of a note. -/
def Shape.annotatedTextEdit : Shape :=
  .joined "AnnotatedTextEdit"
    (.required "annotationId" .string .nil)
    (.cons (.required "range" .range <| .required "newText" .string .nil) .nil)

/-- The edits of a document. -/
def Shape.documentEdit : Shape :=
  .record "TextDocumentEdit" <|
    .required "textDocument" .optionallyVersionedId <|
    .required "edits" (.list (.either "OneOf" .textEdit .annotatedTextEdit)) <|
    .nil

/-- A file that is to be made. -/
def Shape.createFile : Shape :=
  .record "CreateFile" <|
    .required "kind" (.choice ["create"]) <|
    .required "uri" .uri <|
    .nullable "options"
      (.record "CreateFileOptions" <|
        .nullable "overwrite" .bool <|
        .nullable "ignoreIfExists" .bool <|
        .nil) <|
    .nullable "annotationId" .string <|
    .nil

/-- A file that is to be renamed. -/
def Shape.renameFile : Shape :=
  .record "RenameFile" <|
    .required "kind" (.choice ["rename"]) <|
    .required "oldUri" .uri <|
    .required "newUri" .uri <|
    .nullable "options"
      (.record "RenameFileOptions" <|
        .nullable "overwrite" .bool <|
        .nullable "ignoreIfExists" .bool <|
        .nil) <|
    .nullable "annotationId" .string <|
    .nil

/-- A file that is to be deleted. -/
def Shape.deleteFile : Shape :=
  .record "DeleteFile" <|
    .required "kind" (.choice ["delete"]) <|
    .required "uri" .uri <|
    .nullable "options"
      (.record "DeleteFileOptions" <|
        .nullable "recursive" .bool <|
        .nullable "ignoreIfNotExists" .bool <|
        .nullable "annotationId" .string <|
        .nil) <|
    .nil

/-- The edits of documents, with files that are to be made, renamed or deleted. -/
def Shape.documentChanges : Shape :=
  .either "DocumentChanges"
    (.list .documentEdit)
    (.list
      (.either "DocumentChangeOperation" .createFile <|
        .either "DocumentChangeOperation" .renameFile <|
        .either "DocumentChangeOperation" .deleteFile .documentEdit))

/-- The edits of a workspace. -/
def Shape.workspaceEdit : Shape :=
  .record "WorkspaceEdit" <|
    .trailing "changes" (.uriMap (.list .textEdit)) <|
    .nullable "documentChanges" .documentChanges <|
    .nullable "changeAnnotations"
      (.map
        (.record "ChangeAnnotation" <|
          .required "label" .string <|
          .nullable "needsConfirmation" .bool <|
          .nullable "description" .string <|
          .nil)) <|
    .nil

/-! ## Remarks -/

/-- A form of texts. -/
def Shape.markupKind : Shape :=
  .choice ["plaintext", "markdown"]

/-- A text with its form. -/
def Shape.markup : Shape :=
  .record "MarkupContent" <|
    .required "kind" .markupKind <|
    .required "value" .string <|
    .nil

/-- A remark on a symbol. -/
def Shape.documentation : Shape :=
  .either "Documentation" .string .markup

/-- A remark on a range of a document. -/
def Shape.diagnostic : Shape :=
  .record "Diagnostic" <|
    .required "range" .range <|
    .nullable "severity" .integer <|
    .nullable "code" .numberOrString <|
    .nullable "codeDescription"
      (.record "CodeDescription" <|
        .required "href" .uri <|
        .nil) <|
    .nullable "source" .string <|
    .required "message" .string <|
    .nullable "relatedInformation"
      (.list
        (.record "DiagnosticRelatedInformation" <|
          .required "location" .location <|
          .required "message" .string <|
          .nil)) <|
    .nullable "tags" (.list .integer) <|
    .nullable "data" .any <|
    .nil

end LmntalServer
