import LmntalServer.Rpc.Shape.Document

/-!
# Shapes of clients

The shapes of what a client says about itself when it initializes a session.

Main definitions:

* `Shape.workspaceAbilities`, `Shape.documentAbilities`, `Shape.windowAbilities`,
  `Shape.generalAbilities`: what a client can do.
* `Shape.connectParams`: the parameters of an initialization.
-/

namespace LmntalServer
namespace Shape

/-! ## Parts -/

/-- Whether a client can be told later. -/
def dynamicRegistration : Shape :=
  .record "DynamicRegistrationClientCapabilities" <|
    .nullable "dynamicRegistration" .bool <|
    .nil

/-- Whether a client can be asked to refresh what it shows. -/
def refresh (type : String) : Shape :=
  .record type <|
    .nullable "refreshSupport" .bool <|
    .nil

/-- The properties that a client can ask for later. -/
def properties (type : String) : Shape :=
  .record type <|
    .required "properties" (.list .string) <|
    .nil

/-- The codes that a client knows, perhaps none. -/
def knownCodes (type : String) : Shape :=
  .record type <|
    .nullable "valueSet" (.list .integer) <|
    .nil

/-- The tags that a client knows, or just whether it knows any. -/
def tags : Shape :=
  .flagOr <|
    .record "TagSupport" <|
      .required "valueSet" (.list .integer) <|
      .nil

/-! ## Workspaces -/

/-- What a client can do with edits of a workspace. -/
def workspaceEditAbilities : Shape :=
  .record "WorkspaceEditClientCapabilities" <|
    .nullable "documentChanges" .bool <|
    .nullable "resourceOperations" (.list (.choice ["create", "rename", "delete"])) <|
    .nullable "failureHandling"
      (.choice ["abort", "transactional", "textOnlyTransactional", "undo"]) <|
    .nullable "normalizesLineEndings" .bool <|
    .nullable "changeAnnotationSupport"
      (.record "ChangeAnnotationWorkspaceEditClientCapabilities" <|
        .nullable "groupsOnLabel" .bool <|
        .nil) <|
    .nil

/-- What a client can do with files. -/
def fileAbilities : Shape :=
  .record "WorkspaceFileOperationsClientCapabilities" <|
    .nullable "dynamicRegistration" .bool <|
    .nullable "didCreate" .bool <|
    .nullable "willCreate" .bool <|
    .nullable "didRename" .bool <|
    .nullable "willRename" .bool <|
    .nullable "didDelete" .bool <|
    .nullable "willDelete" .bool <|
    .nil

/-- What a client can do with a workspace. -/
def workspaceAbilities : Shape :=
  .record "WorkspaceClientCapabilities" <|
    .nullable "applyEdit" .bool <|
    .nullable "workspaceEdit" workspaceEditAbilities <|
    .nullable "didChangeConfiguration" dynamicRegistration <|
    .nullable "didChangeWatchedFiles"
      (.record "DidChangeWatchedFilesClientCapabilities" <|
        .nullable "dynamicRegistration" .bool <|
        .nullable "relativePatternSupport" .bool <|
        .nil) <|
    .nullable "symbol"
      (.record "WorkspaceSymbolClientCapabilities" <|
        .nullable "dynamicRegistration" .bool <|
        .nullable "symbolKind" (knownCodes "SymbolKindCapability") <|
        .trailing "tagSupport" tags <|
        .nullable "resolveSupport" (properties "WorkspaceSymbolResolveSupportCapability") <|
        .nil) <|
    .nullable "executeCommand" dynamicRegistration <|
    .nullable "workspaceFolders" .bool <|
    .nullable "configuration" .bool <|
    .nullable "semanticTokens" (refresh "SemanticTokensWorkspaceClientCapabilities") <|
    .nullable "codeLens" (refresh "CodeLensWorkspaceClientCapabilities") <|
    .nullable "fileOperations" fileAbilities <|
    .nullable "inlineValue" (refresh "InlineValueWorkspaceClientCapabilities") <|
    .nullable "inlayHint" (refresh "InlayHintWorkspaceClientCapabilities") <|
    .nullable "diagnostic" (refresh "DiagnosticWorkspaceClientCapabilities") <|
    .nil

/-! ## Documents -/

/-- What a client can do with completion items. -/
def completionItemAbilities : Shape :=
  .record "CompletionItemCapability" <|
    .nullable "snippetSupport" .bool <|
    .nullable "commitCharactersSupport" .bool <|
    .nullable "documentationFormat" (.list markupKind) <|
    .nullable "deprecatedSupport" .bool <|
    .nullable "preselectSupport" .bool <|
    .trailing "tagSupport" tags <|
    .nullable "insertReplaceSupport" .bool <|
    .nullable "resolveSupport" (properties "CompletionItemCapabilityResolveSupport") <|
    .nullable "insertTextModeSupport"
      (.record "InsertTextModeSupport" <|
        .required "valueSet" (.list .integer) <|
        .nil) <|
    .nullable "labelDetailsSupport" .bool <|
    .nil

/-- What a client can do with completions. -/
def completionAbilities : Shape :=
  .record "CompletionClientCapabilities" <|
    .nullable "dynamicRegistration" .bool <|
    .nullable "completionItem" completionItemAbilities <|
    .nullable "completionItemKind" (knownCodes "CompletionItemKindCapability") <|
    .nullable "contextSupport" .bool <|
    .nullable "insertTextMode" .integer <|
    .nullable "completionList"
      (.record "CompletionListCapability" <|
        .nullable "itemDefaults" (.list .string) <|
        .nil) <|
    .nil

/-- What a client can do with signatures. -/
def signatureAbilities : Shape :=
  .record "SignatureHelpClientCapabilities" <|
    .nullable "dynamicRegistration" .bool <|
    .nullable "signatureInformation"
      (.record "SignatureInformationSettings" <|
        .nullable "documentationFormat" (.list markupKind) <|
        .nullable "parameterInformation"
          (.record "ParameterInformationSettings" <|
            .nullable "labelOffsetSupport" .bool <|
            .nil) <|
        .nullable "activeParameterSupport" .bool <|
        .nil) <|
    .nullable "contextSupport" .bool <|
    .nil

/-- What a client can do with the places that a symbol leads to. -/
def gotoAbilities : Shape :=
  .record "GotoCapability" <|
    .nullable "dynamicRegistration" .bool <|
    .nullable "linkSupport" .bool <|
    .nil

/-- What a client can do with actions on code. -/
def codeActionAbilities : Shape :=
  .record "CodeActionClientCapabilities" <|
    .nullable "dynamicRegistration" .bool <|
    .nullable "codeActionLiteralSupport"
      (.record "CodeActionLiteralSupport" <|
        .required "codeActionKind"
          (.record "CodeActionKindLiteralSupport" <|
            .required "valueSet" (.list .string) <|
            .nil) <|
        .nil) <|
    .nullable "isPreferredSupport" .bool <|
    .nullable "disabledSupport" .bool <|
    .nullable "dataSupport" .bool <|
    .nullable "resolveSupport" (properties "CodeActionCapabilityResolveSupport") <|
    .nullable "honorsChangeAnnotations" .bool <|
    .nil

/-- What a client can do with new names. -/
def renameAbilities : Shape :=
  .record "RenameClientCapabilities" <|
    .nullable "dynamicRegistration" .bool <|
    .nullable "prepareSupport" .bool <|
    .nullable "prepareSupportDefaultBehavior" .integer <|
    .nullable "honorsChangeAnnotations" .bool <|
    .nil

/-- What a client can do with remarks on documents. -/
def diagnosticAbilities : Shape :=
  .record "PublishDiagnosticsClientCapabilities" <|
    .nullable "relatedInformation" .bool <|
    .trailing "tagSupport" tags <|
    .nullable "versionSupport" .bool <|
    .nullable "codeDescriptionSupport" .bool <|
    .nullable "dataSupport" .bool <|
    .nil

/-- What a client can do with ranges that may be folded. -/
def foldingAbilities : Shape :=
  .record "FoldingRangeClientCapabilities" <|
    .nullable "dynamicRegistration" .bool <|
    .nullable "rangeLimit" .word <|
    .nullable "lineFoldingOnly" .bool <|
    .nullable "foldingRangeKind"
      (.record "FoldingRangeKindCapability" <|
        .nullable "valueSet" (.list (.choice ["comment", "imports", "region"])) <|
        .nil) <|
    .nullable "foldingRange"
      (.record "FoldingRangeCapability" <|
        .nullable "collapsedText" .bool <|
        .nil) <|
    .nil

/-- What a client can do with tokens. -/
def tokenAbilities : Shape :=
  .record "SemanticTokensClientCapabilities" <|
    .nullable "dynamicRegistration" .bool <|
    .required "requests"
      (.record "SemanticTokensClientCapabilitiesRequests" <|
        .nullable "range" .bool <|
        .nullable "full"
          (.either "SemanticTokensFullOptions" .bool <|
            .joined "SemanticTokensFullOptions" (.nullable "delta" .bool .nil) .nil) <|
        .nil) <|
    .required "tokenTypes" (.list .string) <|
    .required "tokenModifiers" (.list .string) <|
    .required "formats" (.list .string) <|
    .nullable "overlappingTokenSupport" .bool <|
    .nullable "multilineTokenSupport" .bool <|
    .nullable "serverCancelSupport" .bool <|
    .nullable "augmentsSyntaxTokens" .bool <|
    .nil

/-- What a client can do with documents. -/
def documentAbilities : Shape :=
  .record "TextDocumentClientCapabilities" <|
    .nullable "synchronization"
      (.record "TextDocumentSyncClientCapabilities" <|
        .nullable "dynamicRegistration" .bool <|
        .nullable "willSave" .bool <|
        .nullable "willSaveWaitUntil" .bool <|
        .nullable "didSave" .bool <|
        .nil) <|
    .nullable "completion" completionAbilities <|
    .nullable "hover"
      (.record "HoverClientCapabilities" <|
        .nullable "dynamicRegistration" .bool <|
        .nullable "contentFormat" (.list markupKind) <|
        .nil) <|
    .nullable "signatureHelp" signatureAbilities <|
    .nullable "references" dynamicRegistration <|
    .nullable "documentHighlight" dynamicRegistration <|
    .nullable "documentSymbol"
      (.record "DocumentSymbolClientCapabilities" <|
        .nullable "dynamicRegistration" .bool <|
        .nullable "symbolKind" (knownCodes "SymbolKindCapability") <|
        .nullable "hierarchicalDocumentSymbolSupport" .bool <|
        .trailing "tagSupport" tags <|
        .nil) <|
    .nullable "formatting" dynamicRegistration <|
    .nullable "rangeFormatting" dynamicRegistration <|
    .nullable "onTypeFormatting" dynamicRegistration <|
    .nullable "declaration" gotoAbilities <|
    .nullable "definition" gotoAbilities <|
    .nullable "typeDefinition" gotoAbilities <|
    .nullable "implementation" gotoAbilities <|
    .nullable "codeAction" codeActionAbilities <|
    .nullable "codeLens" dynamicRegistration <|
    .nullable "documentLink"
      (.record "DocumentLinkClientCapabilities" <|
        .nullable "dynamicRegistration" .bool <|
        .nullable "tooltipSupport" .bool <|
        .nil) <|
    .nullable "colorProvider" dynamicRegistration <|
    .nullable "rename" renameAbilities <|
    .nullable "publishDiagnostics" diagnosticAbilities <|
    .nullable "foldingRange" foldingAbilities <|
    .nullable "selectionRange"
      (.record "SelectionRangeClientCapabilities" <|
        .nullable "dynamicRegistration" .bool <|
        .nil) <|
    .nullable "linkedEditingRange" dynamicRegistration <|
    .nullable "callHierarchy" dynamicRegistration <|
    .nullable "semanticTokens" tokenAbilities <|
    .nullable "moniker" dynamicRegistration <|
    .nullable "typeHierarchy" dynamicRegistration <|
    .nullable "inlineValue" dynamicRegistration <|
    .nullable "inlayHint"
      (.record "InlayHintClientCapabilities" <|
        .nullable "dynamicRegistration" .bool <|
        .nullable "resolveSupport" (properties "InlayHintResolveClientCapabilities") <|
        .nil) <|
    .nullable "diagnostic"
      (.record "DiagnosticClientCapabilities" <|
        .nullable "dynamicRegistration" .bool <|
        .nullable "relatedDocumentSupport" .bool <|
        .nil) <|
    .nil

/-! ## Windows and the rest -/

/-- What a client can do with windows. -/
def windowAbilities : Shape :=
  .record "WindowClientCapabilities" <|
    .nullable "workDoneProgress" .bool <|
    .nullable "showMessage"
      (.record "ShowMessageRequestClientCapabilities" <|
        .nullable "messageActionItem"
          (.record "MessageActionItemCapabilities" <|
            .nullable "additionalPropertiesSupport" .bool <|
            .nil) <|
        .nil) <|
    .nullable "showDocument"
      (.record "ShowDocumentClientCapabilities" <|
        .required "support" .bool <|
        .nil) <|
    .nil

/-- What a client can do in general. -/
def generalAbilities : Shape :=
  .record "GeneralClientCapabilities" <|
    .nullable "regularExpressions"
      (.record "RegularExpressionsClientCapabilities" <|
        .required "engine" .string <|
        .nullable "version" .string <|
        .nil) <|
    .nullable "markdown"
      (.record "MarkdownClientCapabilities" <|
        .required "parser" .string <|
        .nullable "version" .string <|
        .nullable "allowedTags" (.list .string) <|
        .nil) <|
    .nullable "staleRequestSupport"
      (.record "StaleRequestSupportClientCapabilities" <|
        .required "cancel" .bool <|
        .required "retryOnContentModified" (.list .string) <|
        .nil) <|
    .nullable "positionEncodings" (.list .string) <|
    .nil

/-- What a client can do. -/
def clientAbilities : Shape :=
  .record "ClientCapabilities" <|
    .nullable "workspace" workspaceAbilities <|
    .nullable "textDocument" documentAbilities <|
    .nullable "window" windowAbilities <|
    .nullable "general" generalAbilities <|
    .nullable "experimental" .any <|
    .nil

/-! ## Initialization -/

/-- The parameters of an initialization. -/
def connectParams : Shape :=
  .record "InitializeParams" <|
    .nullable "processId" .word <|
    .nullable "rootPath" .string <|
    .trailing "rootUri" .uri <|
    .nullable "initializationOptions" .any <|
    .required "capabilities" clientAbilities <|
    .trailing "trace" (.choice ["off", "messages", "verbose"]) <|
    .nullable "workspaceFolders"
      (.list
        (.record "WorkspaceFolder" <|
          .required "uri" .uri <|
          .required "name" .string <|
          .nil)) <|
    .nullable "clientInfo"
      (.record "ClientInfo" <|
        .required "name" .string <|
        .nullable "version" .string <|
        .nil) <|
    .nullable "locale" .string <|
    .nil

end Shape
end LmntalServer
