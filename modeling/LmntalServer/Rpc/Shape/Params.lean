import LmntalServer.Rpc.Shape.Document

/-!
# Shapes of parameters of requests

Main definitions:

* `Shape.hoverParams`, `Shape.completionParams`: the parameters of requests that are served.
* `Shape.openParams`, `Shape.changeParams`, `Shape.closeParams`, `Shape.readyParams`: those of
  notifications.
* `Shape.unserved`: those of requests that are known but not served, by their methods.
-/

namespace LmntalServer
namespace Shape

/-! ## Shared parts -/

/-- The groups of members of a place in a document and a token for reports. -/
abbrev atPlace : Parts :=
  .cons .place <| .cons .progress .nil

/-- The same with a token for partial results. -/
abbrev atPlaceInPieces : Parts :=
  .cons .place <| .cons .progress <| .cons .partialResult .nil

/-- The tokens for reports and for partial results. -/
abbrev inPieces : Parts :=
  .cons .progress <| .cons .partialResult .nil

/-- The parameters of a request about a place in a document. -/
abbrev placeParams (type : String) : Shape :=
  .joined type .nil atPlace

/-- The parameters of a request about a place in a document with a result in pieces. -/
abbrev placeParamsInPieces (type : String) : Shape :=
  .joined type .nil atPlaceInPieces

/-- The parameters of a request about a document with a result in pieces. -/
def documentParams (type : String) : Shape :=
  .joined type (.required "textDocument" documentId .nil) inPieces

/-! ## Requests that are served -/

/-- The parameters of a hover. -/
abbrev hoverParams : Shape :=
  placeParams "HoverParams"

/-- How a completion has come about. -/
def completionContext : Shape :=
  .record "CompletionContext" <|
    .required "triggerKind" .integer <|
    .nullable "triggerCharacter" .string <|
    .nil

/-- The parameters of a completion. -/
abbrev completionParams : Shape :=
  .joined "CompletionParams" (.nullable "context" completionContext .nil) atPlaceInPieces

/-! ## Notifications -/

/-- The parameters after an initialization. -/
def readyParams : Shape :=
  .record "InitializedParams" .nil

/-- The parameters of an opened document. -/
abbrev openParams : Shape :=
  .record "DidOpenTextDocumentParams" <|
    .required "textDocument" openedDocument <|
    .nil

/-- The parameters of a changed document. -/
abbrev changeParams : Shape :=
  .record "DidChangeTextDocumentParams" <|
    .required "textDocument" versionedId <|
    .required "contentChanges" (.list change) <|
    .nil

/-- The parameters of a closed document. -/
abbrev closeParams : Shape :=
  .record "DidCloseTextDocumentParams" <|
    .required "textDocument" documentId <|
    .nil

/-! ## Requests about places -/

/-- The parameters of a place in a document, on their own. -/
def placeOnly : Shape :=
  .record "TextDocumentPositionParams" .place

/-- The parameters of a request for references. -/
def referenceParams : Shape :=
  .joined "ReferenceParams"
    (.required "context"
      (.record "ReferenceContext" <| .required "includeDeclaration" .bool .nil)
      .nil)
    atPlaceInPieces

/-- A signature. -/
def signature : Shape :=
  .record "SignatureInformation" <|
    .required "label" .string <|
    .nullable "documentation" documentation <|
    .nullable "parameters"
      (.list
        (.record "ParameterInformation" <|
          .required "label" (.either "ParameterLabel" .string (.pair .word)) <|
          .nullable "documentation" documentation <|
          .nil)) <|
    .nullable "activeParameter" .word <|
    .nil

/-- How a request for signatures has come about. -/
def signatureContext : Shape :=
  .record "SignatureHelpContext" <|
    .required "triggerKind" .integer <|
    .nullable "triggerCharacter" .string <|
    .required "isRetrigger" .bool <|
    .nullable "activeSignatureHelp"
      (.record "SignatureHelp" <|
        .required "signatures" (.list signature) <|
        .nullable "activeSignature" .word <|
        .nullable "activeParameter" .word <|
        .nil) <|
    .nil

/-- The parameters of a request for signatures. -/
def signatureParams : Shape :=
  .joined "SignatureHelpParams" (.nullable "context" signatureContext .nil) atPlace

/-- The parameters of a new name. -/
def renameParams : Shape :=
  .joined "RenameParams" (.required "newName" .string .nil) atPlace

/-! ## Layout -/

/-- How a document is laid out.  Members that are not known have simple values. -/
def formattingOptions : Shape :=
  .joined "FormattingOptions"
    (.required "tabSize" .word <|
      .required "insertSpaces" .bool <|
      .nullable "trimTrailingWhitespace" .bool <|
      .nullable "insertFinalNewline" .bool <|
      .nullable "trimFinalNewlines" .bool <|
      .nil)
    (.others <|
      .either "FormattingProperty" .bool <| .either "FormattingProperty" .integer .string)

/-- The parameters of a new layout. -/
def formattingParams : Shape :=
  .joined "DocumentFormattingParams"
    (.required "textDocument" documentId <|
      .required "options" formattingOptions <|
      .nil)
    (.cons .progress .nil)

/-- The parameters of a new layout of a range. -/
def rangeFormattingParams : Shape :=
  .joined "DocumentRangeFormattingParams"
    (.required "textDocument" documentId <|
      .required "range" range <|
      .required "options" formattingOptions <|
      .nil)
    (.cons .progress .nil)

/-- The parameters of a new layout while a user types. -/
def onTypeFormattingParams : Shape :=
  .joined "DocumentOnTypeFormattingParams"
    (.required "ch" .string <|
      .required "options" formattingOptions <|
      .nil)
    (.cons .place .nil)

/-! ## Requests about documents -/

/-- The parameters of a request for the ranges around some positions. -/
def selectionParams : Shape :=
  .joined "SelectionRangeParams"
    (.required "textDocument" documentId <|
      .required "positions" (.list position) <|
      .nil)
    inPieces

/-- The parameters of a request for changed tokens. -/
def tokenDeltaParams : Shape :=
  .joined "SemanticTokensDeltaParams"
    (.required "textDocument" documentId <|
      .required "previousResultId" .string <|
      .nil)
    inPieces

/-- The parameters of a request for the tokens of a range. -/
def tokenRangeParams : Shape :=
  .joined "SemanticTokensRangeParams"
    (.required "textDocument" documentId <|
      .required "range" range <|
      .nil)
    inPieces

/-- The parameters of a request for values in a range. -/
def inlineValueParams : Shape :=
  .joined "InlineValueParams"
    (.required "textDocument" documentId <|
      .required "range" range <|
      .required "context"
        (.record "InlineValueContext" <|
          .required "frameId" .integer <|
          .required "stoppedLocation" range <|
          .nil) <|
      .nil)
    (.cons .progress .nil)

/-- The parameters of a request for hints in a range. -/
def inlayHintParams : Shape :=
  .joined "InlayHintParams"
    (.required "textDocument" documentId <|
      .required "range" range <|
      .nil)
    (.cons .progress .nil)

/-- The parameters of a request for remarks on a document. -/
def diagnosticParams : Shape :=
  .joined "DocumentDiagnosticParams"
    (.required "textDocument" documentId <|
      .nullable "identifier" .string <|
      .nullable "previousResultId" .string <|
      .nil)
    inPieces

/-- The parameters of a request for actions on a range. -/
def codeActionParams : Shape :=
  .joined "CodeActionParams"
    (.required "textDocument" documentId <|
      .required "range" range <|
      .required "context"
        (.record "CodeActionContext" <|
          .required "diagnostics" (.list diagnostic) <|
          .nullable "only" (.list .string) <|
          .nullable "triggerKind" .integer <|
          .nil) <|
      .nil)
    inPieces

/-- The parameters of a request for the forms of a colour. -/
def colorParams : Shape :=
  .joined "ColorPresentationParams"
    (.required "textDocument" documentId <|
      .required "color"
        (.record "Color" <|
          .required "red" .float <|
          .required "green" .float <|
          .required "blue" .float <|
          .required "alpha" .float <|
          .nil) <|
      .required "range" range <|
      .nil)
    inPieces

/-- The parameters before a document is saved. -/
def saveParams : Shape :=
  .record "WillSaveTextDocumentParams" <|
    .required "textDocument" documentId <|
    .required "reason" .integer <|
    .nil

/-! ## Requests about items -/

/-- An item of a hierarchy of calls. -/
def callItem : Shape :=
  .record "CallHierarchyItem" <|
    .required "name" .string <|
    .required "kind" .integer <|
    .nullable "tags" (.list .integer) <|
    .nullable "detail" .string <|
    .required "uri" .uri <|
    .required "range" range <|
    .required "selectionRange" range <|
    .nullable "data" .any <|
    .nil

/-- An item of a hierarchy of types, which has at most one tag. -/
def typeItem : Shape :=
  .record "TypeHierarchyItem" <|
    .required "name" .string <|
    .required "kind" .integer <|
    .nullable "tags" .integer <|
    .nullable "detail" .string <|
    .required "uri" .uri <|
    .required "range" range <|
    .required "selectionRange" range <|
    .nullable "data" .any <|
    .nil

/-- The parameters of a request about an item. -/
def itemParams (type : String) (item : Shape) : Shape :=
  .joined type (.required "item" item .nil) inPieces

/-- A link in a document. -/
def documentLink : Shape :=
  .record "DocumentLink" <|
    .required "range" range <|
    .nullable "target" .uri <|
    .nullable "tooltip" .string <|
    .nullable "data" .any <|
    .nil

/-- A command beside a range of a document. -/
def codeLens : Shape :=
  .record "CodeLens" <|
    .required "range" range <|
    .nullable "command" command <|
    .nullable "data" .any <|
    .nil

/-- A hint in a document. -/
def inlayHint : Shape :=
  .record "InlayHint" <|
    .required "position" position <|
    .required "label"
      (.either "InlayHintLabel" .string <|
        .list <|
          .record "InlayHintLabelPart" <|
            .required "value" .string <|
            .nullable "tooltip" (.either "InlayHintLabelPartTooltip" .string markup) <|
            .nullable "location" location <|
            .nullable "command" command <|
            .nil) <|
    .nullable "kind" .integer <|
    .nullable "textEdits" (.list textEdit) <|
    .nullable "tooltip" (.either "InlayHintTooltip" .string markup) <|
    .nullable "paddingLeft" .bool <|
    .nullable "paddingRight" .bool <|
    .nullable "data" .any <|
    .nil

/-- An item of a completion. -/
def completionItem : Shape :=
  .record "CompletionItem" <|
    .required "label" .string <|
    .nullable "labelDetails"
      (.record "CompletionItemLabelDetails" <|
        .nullable "detail" .string <|
        .nullable "description" .string <|
        .nil) <|
    .nullable "kind" .integer <|
    .nullable "detail" .string <|
    .nullable "documentation" documentation <|
    .nullable "deprecated" .bool <|
    .nullable "preselect" .bool <|
    .nullable "sortText" .string <|
    .nullable "filterText" .string <|
    .nullable "insertText" .string <|
    .nullable "insertTextFormat" .integer <|
    .nullable "insertTextMode" .integer <|
    .nullable "textEdit" (.either "CompletionTextEdit" textEdit insertReplaceEdit) <|
    .nullable "additionalTextEdits" (.list textEdit) <|
    .nullable "command" command <|
    .nullable "commitCharacters" (.list .string) <|
    .nullable "data" .any <|
    .nullable "tags" (.list .integer) <|
    .nil

/-- An action on code. -/
def codeAction : Shape :=
  .record "CodeAction" <|
    .required "title" .string <|
    .nullable "kind" .string <|
    .nullable "diagnostics" (.list diagnostic) <|
    .nullable "edit" workspaceEdit <|
    .nullable "command" command <|
    .nullable "isPreferred" .bool <|
    .nullable "disabled"
      (.record "CodeActionDisabled" <|
        .required "reason" .string <|
        .nil) <|
    .nullable "data" .any <|
    .nil

/-- A symbol of a workspace. -/
def workspaceSymbol : Shape :=
  .record "WorkspaceSymbol" <|
    .required "name" .string <|
    .required "kind" .integer <|
    .nullable "tags" (.list .integer) <|
    .nullable "containerName" .string <|
    .required "location"
      (.either "OneOf" location <|
        .record "WorkspaceLocation" <|
          .required "uri" .uri <|
          .nil) <|
    .nullable "data" .any <|
    .nil

/-! ## Requests about workspaces -/

/-- The parameters of a request for remarks on a workspace. -/
def workspaceDiagnosticParams : Shape :=
  .joined "WorkspaceDiagnosticParams"
    (.nullable "identifier" .string <|
      .required "previousResultIds"
        (.list
          (.record "PreviousResultId" <|
            .required "uri" .uri <|
            .required "value" .string <|
            .nil)) <|
      .nil)
    inPieces

/-- The parameters of a request for symbols. -/
def workspaceSymbolParams : Shape :=
  .joined "WorkspaceSymbolParams"
    (.required "query" .string .nil)
    (.cons .partialResult <| .cons .progress .nil)

/-- The parameters of some files. -/
def filesParams (type : String) (file : Shape) : Shape :=
  .record type <| .required "files" (.list file) .nil

/-- A file by its URI, which need not be one. -/
def file (type : String) : Shape :=
  .record type <| .required "uri" .string .nil

/-- A file with a new name. -/
def renamedFile : Shape :=
  .record "FileRename" <|
    .required "oldUri" .string <|
    .required "newUri" .string <|
    .nil

/-- The parameters of a command. -/
def executeParams : Shape :=
  .joined "ExecuteCommandParams"
    (.required "command" .string <|
      .optional "arguments" (.list .any) <|
      .nil)
    (.cons .progress .nil)

/-! ## Methods -/

/-- The parameters of requests that are known but not served, by their methods. -/
def unserved : List (String × Shape) :=
  [("textDocument/declaration", placeParamsInPieces "GotoDefinitionParams"),
    ("textDocument/definition", placeParamsInPieces "GotoDefinitionParams"),
    ("textDocument/typeDefinition", placeParamsInPieces "GotoDefinitionParams"),
    ("textDocument/implementation", placeParamsInPieces "GotoDefinitionParams"),
    ("textDocument/references", referenceParams),
    ("textDocument/prepareCallHierarchy", placeParams "CallHierarchyPrepareParams"),
    ("textDocument/prepareTypeHierarchy", placeParams "TypeHierarchyPrepareParams"),
    ("textDocument/documentHighlight", placeParamsInPieces "DocumentHighlightParams"),
    ("textDocument/moniker", placeParamsInPieces "MonikerParams"),
    ("textDocument/signatureHelp", signatureParams),
    ("textDocument/onTypeFormatting", onTypeFormattingParams),
    ("textDocument/rename", renameParams),
    ("textDocument/prepareRename", placeOnly),
    ("textDocument/linkedEditingRange", placeParams "LinkedEditingRangeParams"),
    ("textDocument/documentLink", documentParams "DocumentLinkParams"),
    ("textDocument/codeLens", documentParams "CodeLensParams"),
    ("textDocument/foldingRange", documentParams "FoldingRangeParams"),
    ("textDocument/selectionRange", selectionParams),
    ("textDocument/documentSymbol", documentParams "DocumentSymbolParams"),
    ("textDocument/semanticTokens/full", documentParams "SemanticTokensParams"),
    ("textDocument/semanticTokens/full/delta", tokenDeltaParams),
    ("textDocument/semanticTokens/range", tokenRangeParams),
    ("textDocument/inlineValue", inlineValueParams),
    ("textDocument/inlayHint", inlayHintParams),
    ("textDocument/diagnostic", diagnosticParams),
    ("textDocument/codeAction", codeActionParams),
    ("textDocument/documentColor", documentParams "DocumentColorParams"),
    ("textDocument/colorPresentation", colorParams),
    ("textDocument/formatting", formattingParams),
    ("textDocument/rangeFormatting", rangeFormattingParams),
    ("textDocument/willSaveWaitUntil", saveParams),
    ("callHierarchy/incomingCalls", itemParams "CallHierarchyIncomingCallsParams" callItem),
    ("callHierarchy/outgoingCalls", itemParams "CallHierarchyOutgoingCallsParams" callItem),
    ("typeHierarchy/supertypes", itemParams "TypeHierarchySupertypesParams" typeItem),
    ("typeHierarchy/subtypes", itemParams "TypeHierarchySubtypesParams" typeItem),
    ("documentLink/resolve", documentLink),
    ("codeLens/resolve", codeLens),
    ("inlayHint/resolve", inlayHint),
    ("completionItem/resolve", completionItem),
    ("codeAction/resolve", codeAction),
    ("workspaceSymbol/resolve", workspaceSymbol),
    ("workspace/diagnostic", workspaceDiagnosticParams),
    ("workspace/symbol", workspaceSymbolParams),
    ("workspace/willCreateFiles", filesParams "CreateFilesParams" (file "FileCreate")),
    ("workspace/willRenameFiles", filesParams "RenameFilesParams" renamedFile),
    ("workspace/willDeleteFiles", filesParams "DeleteFilesParams" (file "FileDelete")),
    ("workspace/executeCommand", executeParams)]

end Shape
end LmntalServer
