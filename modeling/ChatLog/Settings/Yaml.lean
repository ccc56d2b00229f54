import ChatLog.Settings.Yaml.Node
import ChatLog.Settings.Yaml.Token

/-!
Settings in YAML. The text is one document at most, and its node a mapping. The nodes are read off
the tokens, each with the names and tags before it; a node may be left out where a mark of structure
follows at once, and is nothing then.
-/
namespace ChatLog.Settings.Yaml

structure Source where
  tokens : List Token
  /-- A handle and what it abbreviates. -/
  abbreviation : Option (List Char × List Char)
  /-- The named nodes so far, the last one first. -/
  anchors : List (String × Node)

namespace Source

def withTokens (tokens : List Token) (source : Source) : Source :=
  { source with tokens := tokens }

def resolve? (tag : Tag) (source : Source) : Option Tag :=
  match source.abbreviation.filter fun (handle, _) => handle = tag.handle with
  | some (_, full) => some { tag with handle := full }
  | none =>
    if tag.handle = ['!', '!'] then some { tag with handle := Node.coreHandle }
    else if isWholeHandle tag.handle then none
    else some tag

def announce (name : Option String) (source : Source) : Source :=
  match name with
  | some name => { source with anchors := (name, .unknown) :: source.anchors }
  | none => source

/-- The source in which the name that was announced behind `earlier` others stands for a node. -/
def complete (earlier : Nat) (node : Node) (source : Source) : Source :=
  { source with
    anchors := source.anchors.modify (source.anchors.length - earlier - 1) fun (name, _) =>
      (name, node) }

def properties (source : Source) : Option String × Option Tag × Source :=
  match source.tokens with
  | .anchor name :: .tag tag :: rest => (name, tag, source.withTokens rest)
  | .tag tag :: .anchor name :: rest => (name, tag, source.withTokens rest)
  | .anchor name :: rest => (name, none, source.withTokens rest)
  | .tag tag :: rest => (none, tag, source.withTokens rest)
  | _ => (none, none, source)

def nodeUnless (isNext : Token → Bool) (node? : Source → Option (Node × Source)) (source : Source) :
    Option (Node × Source) :=
  if source.tokens.head?.any isNext then some (.null, source) else node? source

def valueUnless (isNext : Token → Bool) (node? : Source → Option (Node × Source))
    (source : Source) : Option (Node × Source) :=
  match source.tokens with
  | .value :: rest => nodeUnless isNext node? (source.withTokens rest)
  | _ => some (.null, source)

def isBlockEntryEnd (token : Token) : Bool :=
  token = .key || token = .value || token = .blockEnd

def isFlowEntryEnd (closing token : Token) : Bool :=
  token = .flowEntry || token = closing

def separate? (isFirst : Bool) (closing : Token) (source : Source) : Option Source :=
  match source.tokens with
  | token :: rest =>
    if isFirst || token = closing then some source
    else if token = .flowEntry then some (source.withTokens rest)
    else none
  | [] => none

mutual

/-- The next node. Each call has less `fuel`. A block may be opened where `isBlock` says so, and a
list of dashes without one where `isKeyed` does. -/
def node? (fuel : Nat) (isBlock isKeyed : Bool) (source : Source) : Option (Node × Source) :=
  match fuel with
  | 0 => none
  | fuel + 1 =>
    match source.tokens with
    | .alias name :: rest =>
      (source.anchors.lookup name).map fun node => (node, source.withTokens rest)
    | _ => do
      let (name, tag, behind) := source.properties
      let tag ← tag.mapM behind.resolve?
      let (node, source) ← content? fuel isBlock isKeyed (name.isSome || tag.isSome) tag
        (behind.announce name)
      return (node, if name.isSome then source.complete behind.anchors.length node else source)

def content? (fuel : Nat) (isBlock isKeyed hasProperty : Bool) (tag : Option Tag)
    (source : Source) : Option (Node × Source) :=
  match fuel with
  | 0 => none
  | fuel + 1 =>
    let nothing := if hasProperty then some (Node.ofScalar true tag [], source) else none
    match source.tokens with
    | .scalar isPlain text :: rest => some (.ofScalar isPlain tag text, source.withTokens rest)
    | .flowSequenceStart :: rest =>
      (flowItems? fuel true (source.withTokens rest)).map fun (items, source) =>
        (.ofItems items, source)
    | .flowMappingStart :: rest => do
      let (nodes, source) ← flowEntries? fuel true (source.withTokens rest)
      return (← Node.ofEntries? nodes, source)
    | .blockEntry :: _ =>
      if isKeyed then
        (keyedItems? fuel source).map fun (items, source) => (.ofItems items, source)
      else nothing
    | .blockSequenceStart :: rest =>
      if isBlock then
        (blockItems? fuel (source.withTokens rest)).map fun (items, source) =>
          (.ofItems items, source)
      else nothing
    | .blockMappingStart :: rest =>
      if isBlock then do
        let (nodes, source) ← blockEntries? fuel (source.withTokens rest)
        return (← Node.ofEntries? nodes, source)
      else nothing
    | _ => nothing

def blockItems? (fuel : Nat) (source : Source) : Option (List Node × Source) :=
  match fuel with
  | 0 => none
  | fuel + 1 =>
    match source.tokens with
    | .blockEnd :: rest => some ([], source.withTokens rest)
    | .blockEntry :: rest => do
      let (item, source) ← nodeUnless (fun token => token = .blockEntry || token = .blockEnd)
        (node? fuel true false) (source.withTokens rest)
      let (items, source) ← blockItems? fuel source
      return (item :: items, source)
    | _ => none

def keyedItems? (fuel : Nat) (source : Source) : Option (List Node × Source) :=
  match fuel with
  | 0 => none
  | fuel + 1 =>
    match source.tokens with
    | .blockEntry :: rest => do
      let (item, source) ← nodeUnless (fun token => token = .blockEntry || isBlockEntryEnd token)
        (node? fuel true false) (source.withTokens rest)
      let (items, source) ← keyedItems? fuel source
      return (item :: items, source)
    | _ => some ([], source)

def blockEntries? (fuel : Nat) (source : Source) : Option (List Node × Source) :=
  match fuel with
  | 0 => none
  | fuel + 1 => do
    let (key, source) ← match source.tokens with
      | .key :: rest => nodeUnless isBlockEntryEnd (node? fuel true true) (source.withTokens rest)
      | .value :: _ => some (.null, source)
      | .blockEnd :: rest => return ([], source.withTokens rest)
      | _ => none
    let (value, source) ← valueUnless isBlockEntryEnd (node? fuel true true) source
    let (nodes, source) ← blockEntries? fuel source
    return (key :: value :: nodes, source)

def flowItems? (fuel : Nat) (isFirst : Bool) (source : Source) : Option (List Node × Source) :=
  match fuel with
  | 0 => none
  | fuel + 1 => do
    let source ← source.separate? isFirst .flowSequenceEnd
    let (item, source) ← match source.tokens with
      | .flowSequenceEnd :: rest => return ([], source.withTokens rest)
      | .key :: rest => onlyEntry? fuel (source.withTokens rest)
      | _ => node? fuel false false source
    let (items, source) ← flowItems? fuel false source
    return (item :: items, source)

/-- The mapping of one entry behind the mark of its key; a mark of structure in place of the key is
passed. -/
def onlyEntry? (fuel : Nat) (source : Source) : Option (Node × Source) :=
  match fuel with
  | 0 => none
  | fuel + 1 => do
    let isEnd := isFlowEntryEnd .flowSequenceEnd
    let (key, source) ←
      if source.tokens.head?.any fun token => token = .value || isEnd token then
        some (.null, source.withTokens source.tokens.tail)
      else node? fuel false false source
    let (value, source) ← valueUnless isEnd (node? fuel false false) source
    return (← Node.ofEntries? [key, value], source)

def flowEntries? (fuel : Nat) (isFirst : Bool) (source : Source) : Option (List Node × Source) :=
  match fuel with
  | 0 => none
  | fuel + 1 => do
    let isEnd := isFlowEntryEnd .flowMappingEnd
    let source ← source.separate? isFirst .flowMappingEnd
    let (key, value, source) ← match source.tokens with
      | .flowMappingEnd :: rest => return ([], source.withTokens rest)
      | .key :: rest => do
        let (key, source) ← nodeUnless (fun token => token = .value || isEnd token)
          (node? fuel false false) (source.withTokens rest)
        let (value, source) ← valueUnless isEnd (node? fuel false false) source
        some (key, value, source)
      | .value :: _ =>
        (valueUnless isEnd (node? fuel false false) source).map fun (value, source) =>
          (.null, value, source)
      | _ => (node? fuel false false source).map fun (key, source) => (key, .null, source)
    let (nodes, source) ← flowEntries? fuel false source
    return (key :: value :: nodes, source)

end

end Source

/-- The abbreviation that directives leave in force, which is the last one's, and what follows
them. -/
def directives? (hasVersion : Bool) (abbreviation : Option (List Char × List Char)) :
    List Token → Option (Option (List Char × List Char) × List Token)
  | .directive .version :: tokens =>
    if hasVersion then none else directives? true none tokens
  | .directive (.abbreviation handle full) :: tokens =>
    directives? hasVersion (some (handle, full)) tokens
  | tokens => some (abbreviation, tokens)

def document? (tokens : List Token) : Option Node := do
  let (abbreviation, rest) ← directives? false none tokens
  let source : Source ← match rest with
    | .documentStart :: rest => some ⟨rest, abbreviation, []⟩
    | rest => if rest = tokens then some ⟨rest, none, []⟩ else none
  let (node, source) ← source.node? (2 * tokens.length + 2) true false
  if source.tokens.all (· = .documentEnd) then return node else none

def read? (text : List Char) : Option Table := do
  match (← Token.ofText? text).dropWhile (· = .documentEnd) with
  | [] => return []
  | tokens =>
    match ← document? tokens with
    | .table table => return table
    | _ => none

end ChatLog.Settings.Yaml
