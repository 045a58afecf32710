import ApexOutline.Yaml.Node
/-!
# YAML streams

A text holds at most one document. Directives and the mark `---` may stand before it, and marks
`...` after it.
-/

namespace ApexOutline.Yaml

open Text

/-- The handles that need no directive. -/
def standardHandles : Handles :=
  [(['!'], ['!']), ("!!".toList, "tag:yaml.org,2002:".toList)]

/-- Reads the directives: whether a version has been given, and the handles so far. The version is
1.1 or 1.2, and neither it nor a handle is given twice. -/
def directives? (versioned : Bool) (handles : Handles) : Tokens → Option (Handles × Tokens)
  | .versionDirective major minor :: rest =>
    if versioned || major != 1 || (minor != 1 && minor != 2) then none
    else directives? true handles rest
  | .tagDirective handle start :: rest =>
    if (handles.lookup handle).isSome then none
    else directives? versioned (handles ++ [(handle, start)]) rest
  | tokens => some (handles ++ standardHandles, tokens)

/-- Whether directives or the mark of a document stand here. -/
def startsExplicitly : Tokens → Bool
  | .versionDirective _ _ :: _ => true
  | .tagDirective _ _ :: _ => true
  | .documentStart :: _ => true
  | _ => false

/-- Whether a document with a mark ends here, so that it is empty if nothing came before. -/
def endsDocument (tokens : Tokens) : Bool :=
  startsExplicitly tokens || tokens.head? == some .documentEnd || tokens.head? == some .streamEnd

/-- Reads a document from its start to the end of its last node. -/
def document? (tokens : Tokens) : Option (Node × Tokens) :=
  if startsExplicitly tokens then
    match directives? false [] tokens with
    | some (handles, .documentStart :: start) =>
      nodeUnless? handles (endsDocument start) true false start
    | _ => none
  else node? standardHandles true false tokens

/-- The node at the top of the only document, if there is one. -/
def Node.ofTokens? (tokens : Tokens) : Option (Option Node) :=
  if tokens == [.streamEnd] then some none
  else
    match document? tokens with
    | none => none
    | some (root, rest) =>
      if rest.dropWhile (· == .documentEnd) == [.streamEnd] then some (some root) else none

/-- The node at the top of a text, if it has a document. -/
def Node.parse? (source : Text) : Option (Option Node) := do
  let tokens ← Token.scan? source
  Node.ofTokens? (← Token.number? [] tokens)

end ApexOutline.Yaml
