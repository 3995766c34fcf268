import LinearProgram.Yaml.Token

/-!
Nodes of a YAML document. A text holds at most one document, and a document is one node; an absent
node is an empty plain scalar. A mapping may merge others into itself: their entries come before its
own. Values come from nodes in a second pass, level by level: what is wrong with a scalar counts before
what is wrong inside the collections beside it. The last of equal keys wins, and collections are no
keys.
-/

namespace LinearProgram.Yaml

/-- A node. A mapping is sound if all that it merges are mappings. -/
inductive Node where
  | scalar (text : String) (plain : Bool)
  | sequence (items : List Node)
  | mapping (entries : List (Node × Node)) (sound : Bool)

namespace Node

def absent : Node := .scalar "" true

/-- The entries that a mapping takes from what it merges, unless that is no mapping and no sequence of
mappings. Of a sequence the last mapping comes first, so that an earlier one overrides it. -/
def merged? : Node → Option (List (Node × Node))
  | .mapping entries true => some entries
  | .sequence items =>
      items.foldlM (fun taken item =>
        match item with
        | .mapping entries true => some (entries ++ taken)
        | _ => none) []
  | _ => none

/-- What an entry of a mapping gives: entries to merge, or an entry of its own, whose key may be the
sign of a default value and then is a text. -/
def ofEntry : Node × Node → Option (List (Node × Node)) × List (Node × Node)
  | (.scalar "<<" true, value) => (value.merged?, [])
  | (.scalar "=" true, value) => (some [], [(.scalar "=" false, value)])
  | entry => (some [], [entry])

def ofEntries (entries : List (Node × Node)) : Node :=
  let given := entries.map ofEntry
  let merged := given.map fun entry => entry.1
  .mapping (merged.flatMap (·.getD []) ++ given.flatMap fun entry => entry.2) (merged.all Option.isSome)

end Node

def expect (token : Token) : List Token → Except Obstacle (List Token)
  | next :: rest => if next = token then .ok rest else .error .malformed
  | [] => .error .ended

def isNext (wanted : List Token) : List Token → Bool
  | next :: _ => wanted.contains next
  | [] => false

mutual

/-- A node of a block, or of a flow collection, which holds no blocks. Under a key, a sequence need
not be indented. -/
def parseNode (fuel : Nat) (block underKey : Bool) (tokens : List Token) :
    Except Obstacle (Node × List Token) :=
  match fuel with
  | 0 => .error .malformed
  | fuel + 1 =>
      match tokens with
      | .scalar text plain :: rest => .ok (.scalar text plain, rest)
      | .flowSequenceStart :: rest => do
          let (items, rest) ← parseFlowSequence fuel true rest
          pure (.sequence items, rest)
      | .flowMappingStart :: rest => do
          let (entries, rest) ← parseFlowMapping fuel true rest
          pure (.ofEntries entries, rest)
      | .blockSequenceStart :: rest =>
          if block then do
            let (items, rest) ← parseBlockSequence fuel false rest
            pure (.sequence items, ← expect .blockEnd rest)
          else .error .malformed
      | .blockMappingStart :: rest =>
          if block then do
            let (entries, rest) ← parseBlockMapping fuel rest
            pure (.ofEntries entries, ← expect .blockEnd rest)
          else .error .malformed
      | .blockEntry :: _ =>
          if underKey then do
            let (items, rest) ← parseBlockSequence fuel true tokens
            pure (.sequence items, rest)
          else .error .malformed
      | _ :: _ => .error .malformed
      | [] => .error .ended

def parseUnless (fuel : Nat) (ends : List Token) (block underKey : Bool) (tokens : List Token) :
    Except Obstacle (Node × List Token) :=
  match fuel with
  | 0 => .error .malformed
  | fuel + 1 =>
      if isNext ends tokens then .ok (.absent, tokens) else parseNode fuel block underKey tokens

def parseBlockSequence (fuel : Nat) (underKey : Bool) (tokens : List Token) :
    Except Obstacle (List Node × List Token) :=
  match fuel with
  | 0 => .error .malformed
  | fuel + 1 =>
      match tokens with
      | .blockEntry :: rest => do
          let ends := if underKey then [.blockEntry, .key, .value, .blockEnd]
            else [.blockEntry, .blockEnd]
          let (item, rest) ← parseUnless fuel ends true false rest
          let (items, rest) ← parseBlockSequence fuel underKey rest
          pure (item :: items, rest)
      | _ => .ok ([], tokens)

def parseBlockMapping (fuel : Nat) (tokens : List Token) :
    Except Obstacle (List (Node × Node) × List Token) :=
  match fuel with
  | 0 => .error .malformed
  | fuel + 1 =>
      match tokens with
      | .key :: rest => do
          let ends : List Token := [.key, .value, .blockEnd]
          let (key, rest) ← parseUnless fuel ends true true rest
          let (value, rest) ← match rest with
            | .value :: rest => parseUnless fuel ends true true rest
            | _ => .ok (.absent, rest)
          let (entries, rest) ← parseBlockMapping fuel rest
          pure ((key, value) :: entries, rest)
      | _ => .ok ([], tokens)

def parseFlowSequence (fuel : Nat) (first : Bool) (tokens : List Token) :
    Except Obstacle (List Node × List Token) :=
  match fuel with
  | 0 => .error .malformed
  | fuel + 1 =>
      if isNext [.flowSequenceEnd] tokens then .ok ([], tokens.drop 1)
      else do
        let tokens ← if first then .ok tokens else expect .flowEntry tokens
        match tokens with
        | .flowSequenceEnd :: rest => pure ([], rest)
        | .key :: rest =>
            let (key, rest) ←
              parseUnless fuel [.value, .flowEntry, .flowSequenceEnd] false false rest
            let (value, rest) ← match rest with
              | .value :: rest => parseUnless fuel [.flowEntry, .flowSequenceEnd] false false rest
              | _ => .ok (.absent, rest)
            let (items, rest) ← parseFlowSequence fuel false rest
            pure (.ofEntries [(key, value)] :: items, rest)
        | _ =>
            let (item, rest) ← parseNode fuel false false tokens
            let (items, rest) ← parseFlowSequence fuel false rest
            pure (item :: items, rest)

/-- The entries of a flow mapping up to its end; an item that is no pair is a key without a value. -/
def parseFlowMapping (fuel : Nat) (first : Bool) (tokens : List Token) :
    Except Obstacle (List (Node × Node) × List Token) :=
  match fuel with
  | 0 => .error .malformed
  | fuel + 1 =>
      if isNext [.flowMappingEnd] tokens then .ok ([], tokens.drop 1)
      else do
        let tokens ← if first then .ok tokens else expect .flowEntry tokens
        match tokens with
        | .flowMappingEnd :: rest => pure ([], rest)
        | .key :: rest =>
            let (key, rest) ←
              parseUnless fuel [.value, .flowEntry, .flowMappingEnd] false false rest
            let (value, rest) ← match rest with
              | .value :: rest => parseUnless fuel [.flowEntry, .flowMappingEnd] false false rest
              | _ => .ok (.absent, rest)
            let (entries, rest) ← parseFlowMapping fuel false rest
            pure ((key, value) :: entries, rest)
        | _ =>
            let (key, rest) ← parseNode fuel false false tokens
            let (entries, rest) ← parseFlowMapping fuel false rest
            pure ((key, .absent) :: entries, rest)

end

def document? (tokens : List Token) : Except Obstacle (Option Node) := do
  let fuel := 3 * tokens.length + 3
  if tokens = [.streamEnd] then pure none
  else
    let (node, rest) ← match tokens with
      | .documentStart :: rest =>
          parseUnless fuel [.documentStart, .documentEnd, .streamEnd] true false rest
      | _ => parseNode fuel true false tokens
    let _ ← expect .streamEnd (rest.dropWhile (· == .documentEnd))
    pure (some node)

def sameKey : Document → Document → Bool
  | .scalar key, .scalar other => key.value.equals other.value || key.value.isNaN && other.value.isNaN
  | _, _ => false

def putMapping (key value : Document) : List (Document × Document) → List (Document × Document)
  | [] => [(key, value)]
  | entry :: rest =>
      if sameKey entry.1 key then (entry.1, value) :: rest else entry :: putMapping key value rest

def scalarValue (text : String) (plain : Bool) : Except Fault Scalar :=
  if plain then plainValue text else .ok (.text text)

mutual

def Node.document : Node → Except Fault Document
  | .scalar text plain => do pure (.scalar (← scalarValue text plain))
  | .sequence items => do pure (.list (← itemDocuments items))
  | .mapping entries _ => do
      pure (.mapping ((← entryDocuments entries).foldl (fun built (key, value) =>
        putMapping key value built) []))

def itemDocuments : List Node → Except Fault (List Document)
  | [] => .ok []
  | item :: rest => do
      let document ← item.document
      pure (document :: (← itemDocuments rest))

def entryDocument : Node × Node → Except Fault (Document × Document)
  | (key, value) => do pure (← key.document, ← value.document)

def entryDocuments : List (Node × Node) → Except Fault (List (Document × Document))
  | [] => .ok []
  | entry :: rest => do
      let document ← entryDocument entry
      pure (document :: (← entryDocuments rest))

end

/-- The first faults at each level of two nodes, of which one comes before the other. -/
def joinLevels : List (Option Fault) → List (Option Fault) → List (Option Fault)
  | [], others => others
  | levels, [] => levels
  | level :: levels, other :: others => level.or other :: joinLevels levels others

namespace Node

def scalarFault? (text : String) (plain : Bool) : Option Fault :=
  match scalarValue text plain with
  | .ok _ => none
  | .error fault => some fault

def keyFault? : Node → Option Fault
  | .scalar text plain => scalarFault? text plain
  | _ => some .malformedConfig

end Node

mutual

/-- The first fault at each level of a node. What is wrong with a mapping as such comes before its
entries. -/
def Node.faults : Node → List (Option Fault)
  | .scalar text plain => [Node.scalarFault? text plain]
  | .sequence items => none :: itemFaults items
  | .mapping entries sound => none :: if sound then entryFaults entries else [some .malformedConfig]

def itemFaults : List Node → List (Option Fault)
  | [] => []
  | item :: rest => joinLevels item.faults (itemFaults rest)

def entryFault : Node × Node → List (Option Fault)
  | (key, value) => joinLevels [key.keyFault?] value.faults

def entryFaults : List (Node × Node) → List (Option Fault)
  | [] => []
  | entry :: rest => joinLevels (entryFault entry) (entryFaults rest)

end

def read (text : Text.Reading) : Except Fault Document :=
  let scan := tokens text
  match document? scan.tokens with
  | .error obstacle => .error (obstacle.settle scan.fault)
  | .ok none => .ok .null
  | .ok (some node) =>
      match node.faults.findSome? id with
      | some fault => .error fault
      | none => node.document

end LinearProgram.Yaml
