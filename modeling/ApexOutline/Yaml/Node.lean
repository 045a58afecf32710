import ApexOutline.Yaml.Token
/-!
# YAML documents

Tokens make the tree of a document. Anchors are numbered before, in the order of the text: an anchor
takes the number of distinct names before it, and an alias the number its name has at that point.
-/

namespace ApexOutline.Yaml

open Text

/-- A node of a document. An empty node is an empty plain scalar. -/
inductive Node where
  | alias (ref : Nat)
  | scalar (anchor : Option Nat) (tag : Option Text) (style : Style) (text : Text)
  | sequence (anchor : Option Nat) (items : List Node)
  | mapping (anchor : Option Nat) (pairs : List (Node × Node))
  deriving Repr, Inhabited

/-- A node where nothing is written. -/
def Node.empty : Node :=
  .scalar none none .plain []

/-! ## Anchors -/

/-- Replaces the names of anchors by numbers, where `names` holds the names so far with their
numbers. An alias must have an anchor before it. -/
def Token.number? (names : List (Text × Nat)) : List (Token Text) → Option (List (Token Nat))
  | [] => some []
  | token :: rest =>
    let keep (t : Token Nat) := (number? names rest).map (t :: ·)
    match token with
    | .anchor name =>
      (number? ((name, names.length) :: names.filter (·.1 != name)) rest).map
        (.anchor names.length :: ·)
    | .alias name => (names.lookup name).bind fun ref => keep (.alias ref)
    | .streamEnd => keep .streamEnd
    | .versionDirective major minor => keep (.versionDirective major minor)
    | .tagDirective handle start => keep (.tagDirective handle start)
    | .documentStart => keep .documentStart
    | .documentEnd => keep .documentEnd
    | .blockSequenceStart => keep .blockSequenceStart
    | .blockMappingStart => keep .blockMappingStart
    | .blockEnd => keep .blockEnd
    | .flowSequenceStart => keep .flowSequenceStart
    | .flowSequenceEnd => keep .flowSequenceEnd
    | .flowMappingStart => keep .flowMappingStart
    | .flowMappingEnd => keep .flowMappingEnd
    | .blockEntry => keep .blockEntry
    | .flowEntry => keep .flowEntry
    | .key => keep .key
    | .value => keep .value
    | .tag handle suffix => keep (.tag handle suffix)
    | .scalar style text => keep (.scalar style text)

mutual

/-- The anchors of a node and below it, in the order of the text. -/
def Node.anchors : Node → List (Nat × Node)
  | .alias _ => []
  | .scalar anchor tag style text => anchor.toList.map (·, .scalar anchor tag style text)
  | .sequence anchor items => anchor.toList.map (·, .sequence anchor items) ++ anchorsOfItems items
  | .mapping anchor pairs => anchor.toList.map (·, .mapping anchor pairs) ++ anchorsOfPairs pairs

/-- The anchors of some nodes. -/
def anchorsOfItems : List Node → List (Nat × Node)
  | [] => []
  | item :: rest => item.anchors ++ anchorsOfItems rest

/-- The anchors of some pairs. -/
def anchorsOfPairs : List (Node × Node) → List (Nat × Node)
  | [] => []
  | (k, v) :: rest => k.anchors ++ v.anchors ++ anchorsOfPairs rest

end

/-! ## Nodes from tokens -/

/-- Tokens with numbered anchors. -/
abbrev Tokens := List (Token Nat)

/-- What tag handles stand for. -/
abbrev Handles := List (Text × Text)

/-- The tag that a handle and a suffix make. -/
def resolveTag? (handles : Handles) (handle suffix : Text) : Option Text :=
  if handle.isEmpty then some suffix else (handles.lookup handle).map (· ++ suffix)

/-- The anchor and the tag before a node, in either order. -/
def properties? (handles : Handles) : Tokens → Option (Option Nat × Option Text × Tokens)
  | .anchor a :: .tag handle suffix :: rest =>
    (resolveTag? handles handle suffix).map fun tag => (some a, some tag, rest)
  | .tag handle suffix :: .anchor a :: rest =>
    (resolveTag? handles handle suffix).map fun tag => (some a, some tag, rest)
  | .anchor a :: rest => some (some a, none, rest)
  | .tag handle suffix :: rest =>
    (resolveTag? handles handle suffix).map fun tag => (none, some tag, rest)
  | tokens => some (none, none, tokens)

/-- The alias that stands here, if one does. -/
def aliased? : Tokens → Option (Nat × Tokens)
  | .alias ref :: rest => some (ref, rest)
  | _ => none

/-- Whether the next token ends an entry of a block mapping. -/
def endsBlockEntry : Tokens → Bool
  | .key :: _ => true
  | .value :: _ => true
  | .blockEnd :: _ => true
  | _ => false

/-- Whether the next token ends an entry between brackets that `close` closes. -/
def endsFlowEntry (close : Token Nat) (tokens : Tokens) : Bool :=
  tokens.head? == some .flowEntry || tokens.head? == some close

/-- Where the next entry between brackets starts: behind a comma, unless it is the first one or the
closing bracket follows. -/
def flowEntryStart? (close : Token Nat) (first : Bool) (tokens : Tokens) : Option Tokens :=
  if first || tokens.head? == some close then some tokens
  else if tokens.head? == some .flowEntry then some (tokens.drop 1)
  else none

mutual

/-- Reads a node. Block collections only count where `block` says so, and a sequence that is not
indented only where `indentless` does. -/
def node? (handles : Handles) (block indentless : Bool) (tokens : Tokens) :
    Option (Node × Tokens) :=
  match aliased? tokens with
  | some (ref, rest) => some (.alias ref, rest)
  | none =>
    match properties? handles tokens with
    | none => none
    | some (anchor, tag, start) =>
      if h : start.length ≤ tokens.length then
        if indentless && start.head? == some .blockEntry then
          (indentlessItems? handles start).map fun x => (.sequence anchor x.1, x.2)
        else
          match start, h with
          | .scalar style text :: rest, _ =>
            some (.scalar anchor tag style text, rest)
          | .flowSequenceStart :: rest, _ =>
            (flowItems? handles true rest).map fun x => (.sequence anchor x.1, x.2)
          | .flowMappingStart :: rest, _ =>
            (flowPairs? handles true rest).map fun x => (.mapping anchor x.1, x.2)
          | .blockSequenceStart :: rest, _ =>
            if block then (blockItems? handles rest).map fun x => (.sequence anchor x.1, x.2)
            else none
          | .blockMappingStart :: rest, _ =>
            if block then (blockPairs? handles rest).map fun x => (.mapping anchor x.1, x.2)
            else none
          | start, _ =>
            if anchor.isSome || tag.isSome then some (.scalar anchor tag .plain [], start) else none
      else none
  termination_by 3 * tokens.length + 1
  decreasing_by all_goals grind

/-- Reads a node unless it is `absent`. -/
def nodeUnless? (handles : Handles) (absent block indentless : Bool) (tokens : Tokens) :
    Option (Node × Tokens) :=
  if absent then some (.empty, tokens) else node? handles block indentless tokens
  termination_by 3 * tokens.length + 2

/-- The items of a block sequence up to its end. -/
def blockItems? (handles : Handles) (tokens : Tokens) : Option (List Node × Tokens) :=
  match tokens with
  | .blockEnd :: rest => some ([], rest)
  | .blockEntry :: start =>
    let absent := start.head? == some .blockEntry || start.head? == some .blockEnd
    match nodeUnless? handles absent true false start with
    | none => none
    | some (item, rest) =>
      if rest.length ≤ start.length then
        (blockItems? handles rest).map fun x => (item :: x.1, x.2)
      else none
  | _ => none
  termination_by 3 * tokens.length
  decreasing_by all_goals grind

/-- The items of a sequence that is indented like the mapping it is in. -/
def indentlessItems? (handles : Handles) (tokens : Tokens) : Option (List Node × Tokens) :=
  match tokens with
  | .blockEntry :: start =>
    let absent := start.head? == some .blockEntry || endsBlockEntry start
    match nodeUnless? handles absent true false start with
    | none => none
    | some (item, rest) =>
      if rest.length ≤ start.length then
        (indentlessItems? handles rest).map fun x => (item :: x.1, x.2)
      else none
  | _ => some ([], tokens)
  termination_by 3 * tokens.length
  decreasing_by all_goals grind

/-- The value that follows a key of a block mapping; it is empty when there is no colon. -/
def blockValue? (handles : Handles) (tokens : Tokens) : Option (Node × Tokens) :=
  match tokens with
  | .value :: rest => nodeUnless? handles (endsBlockEntry rest) true true rest
  | _ => some (.empty, tokens)
  termination_by 3 * tokens.length
  decreasing_by all_goals grind

/-- The pairs of a block mapping up to its end. -/
def blockPairs? (handles : Handles) (tokens : Tokens) : Option (List (Node × Node) × Tokens) :=
  match tokens with
  | .blockEnd :: rest => some ([], rest)
  | .key :: start =>
    match nodeUnless? handles (endsBlockEntry start) true true start with
    | none => none
    | some (key, afterKey) =>
      if afterKey.length ≤ start.length then
        match blockValue? handles afterKey with
        | none => none
        | some (value, rest) =>
          if rest.length ≤ start.length then
            (blockPairs? handles rest).map fun x => ((key, value) :: x.1, x.2)
          else none
      else none
  | _ => none
  termination_by 3 * tokens.length
  decreasing_by all_goals grind

/-- The value that follows a key between brackets; it is empty when there is no colon. -/
def flowValue? (handles : Handles) (close : Token Nat) (tokens : Tokens) : Option (Node × Tokens) :=
  match tokens with
  | .value :: rest => nodeUnless? handles (endsFlowEntry close rest) false false rest
  | _ => some (.empty, tokens)
  termination_by 3 * tokens.length
  decreasing_by all_goals grind

/-- A single pair in a flow sequence, after the token of its key. An empty key takes the token that
follows with it. -/
def flowPair? (handles : Handles) (tokens : Tokens) : Option (Node × Tokens) :=
  let absent := endsFlowEntry .flowSequenceEnd tokens || tokens.head? == some .value
  match nodeUnless? handles absent false false tokens with
  | none => none
  | some (key, afterKey) =>
    let start := if absent then afterKey.drop 1 else afterKey
    if start.length ≤ tokens.length then
      (flowValue? handles .flowSequenceEnd start).map fun x => (.mapping none [(key, x.1)], x.2)
    else none
  termination_by 3 * tokens.length + 3
  decreasing_by all_goals grind

/-- The items of a flow sequence up to its bracket. -/
def flowItems? (handles : Handles) (first : Bool) (tokens : Tokens) : Option (List Node × Tokens) :=
  match flowEntryStart? .flowSequenceEnd first tokens with
  | none => none
  | some start =>
    if h : start.length ≤ tokens.length then
      match start, h with
      | .flowSequenceEnd :: rest, _ => some ([], rest)
      | .key :: afterKey, _ =>
        match flowPair? handles afterKey with
        | none => none
        | some (item, rest) =>
          if rest.length < tokens.length then
            (flowItems? handles false rest).map fun x => (item :: x.1, x.2)
          else none
      | start, _ =>
        match node? handles false false start with
        | none => none
        | some (item, rest) =>
          if rest.length < tokens.length then
            (flowItems? handles false rest).map fun x => (item :: x.1, x.2)
          else none
    else none
  termination_by 3 * tokens.length + 2
  decreasing_by all_goals grind

/-- The pairs of a flow mapping up to its bracket. A node without a mark is a key without a value. -/
def flowPairs? (handles : Handles) (first : Bool) (tokens : Tokens) :
    Option (List (Node × Node) × Tokens) :=
  match flowEntryStart? .flowMappingEnd first tokens with
  | none => none
  | some start =>
    if h : start.length ≤ tokens.length then
      match start, h with
      | .flowMappingEnd :: rest, _ => some ([], rest)
      | .key :: afterKey, _ =>
        let absent := endsFlowEntry .flowMappingEnd afterKey || afterKey.head? == some .value
        match nodeUnless? handles absent false false afterKey with
        | none => none
        | some (key, afterNode) =>
          if afterNode.length < tokens.length then
            match flowValue? handles .flowMappingEnd afterNode with
            | none => none
            | some (value, rest) =>
              if rest.length < tokens.length then
                (flowPairs? handles false rest).map fun x => ((key, value) :: x.1, x.2)
              else none
          else none
      | start, _ =>
        match node? handles false false start with
        | none => none
        | some (key, rest) =>
          if rest.length < tokens.length then
            (flowPairs? handles false rest).map fun x => ((key, .empty) :: x.1, x.2)
          else none
    else none
  termination_by 3 * tokens.length + 2
  decreasing_by all_goals grind

end

end ApexOutline.Yaml
