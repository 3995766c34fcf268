import LinearProgram.Text.Reading
import LinearProgram.Yaml.ScalarText

/-!
Tokens of a YAML text: block and flow mappings and sequences, plain and quoted scalars, comments and
document marks. The structure of blocks shows in the columns at which entries stand, so the tokens
include the starts and ends of blocks. A scalar or a flow collection is a key when a colon follows
it on its line; its key token is put in front of it then. Anchors, aliases, tags, directives and
block scalars are refused. A scan that cannot go on keeps the tokens that it was sure of.
-/

namespace LinearProgram.Yaml

inductive Token where
  | streamEnd
  | documentStart
  | documentEnd
  | blockSequenceStart
  | blockMappingStart
  | blockEnd
  | flowSequenceStart
  | flowSequenceEnd
  | flowMappingStart
  | flowMappingEnd
  | blockEntry
  | flowEntry
  | key
  | value
  | scalar (text : String) (plain : Bool)
  deriving DecidableEq, Repr

/-- A place at which a key may have begun: the count of tokens before it, and its position. A
required key stands at the column of its block. -/
structure PossibleKey where
  tokens : Nat
  required : Bool
  index : Nat
  line : Nat
  column : Nat

structure TokenBuilder where
  cursor : Cursor
  tokens : Array Token := #[]
  /-- The columns of the open blocks, the innermost first. -/
  blocks : List Nat := []
  /-- The possible keys of the open flow collections, the innermost first, and of the block. -/
  keys : List (Option PossibleKey) := [none]
  keyAllowed : Bool := true

namespace TokenBuilder

def inFlow (built : TokenBuilder) : Bool := 1 < built.keys.length

def indent (built : TokenBuilder) : Int :=
  match built.blocks with
  | [] => -1
  | column :: _ => column

def emit (built : TokenBuilder) (token : Token) : TokenBuilder :=
  { built with tokens := built.tokens.push token }

def move (built : TokenBuilder) (count : Nat) : TokenBuilder :=
  { built with cursor := Cursor.steps count built.cursor }

def allowKey (built : TokenBuilder) (allowed : Bool) : TokenBuilder :=
  { built with keyAllowed := allowed }

def dropKey (built : TokenBuilder) : Except Obstacle TokenBuilder :=
  match built.keys with
  | some key :: outer =>
      if key.required then .error .malformed else .ok { built with keys := none :: outer }
  | _ => .ok built

def dropStaleKeys (built : TokenBuilder) : Except Obstacle TokenBuilder := do
  let keys ← built.keys.mapM fun key? =>
    match key? with
    | some key =>
        if key.line != built.cursor.line || 1024 < built.cursor.index - key.index then
          if key.required then .error .malformed else .ok none
        else .ok (some key)
    | none => .ok none
  pure { built with keys }

def noteKey (built : TokenBuilder) : Except Obstacle TokenBuilder := do
  if built.keyAllowed then
    let dropped ← built.dropKey
    let key : PossibleKey :=
      { tokens := built.tokens.size
        required := !built.inFlow && built.indent == built.cursor.column
        index := built.cursor.index, line := built.cursor.line
        column := built.cursor.column }
    pure { dropped with keys := some key :: dropped.keys.drop 1 }
  else pure built

def closeBlocks (column : Int) (built : TokenBuilder) : TokenBuilder :=
  if built.inFlow then built
  else
    let ended := built.blocks.takeWhile fun (block : Nat) => column < (block : Int)
    { built with
      blocks := built.blocks.drop ended.length
      tokens := built.tokens ++ (ended.map fun _ => Token.blockEnd).toArray }

def openBlock (built : TokenBuilder) (column : Nat) (token : Token) (place : Nat) : TokenBuilder :=
  if built.indent < column then
    { built with
      blocks := column :: built.blocks
      tokens := built.tokens.insertIdxIfInBounds place token }
  else built

def documentMark (built : TokenBuilder) (token : Token) : Except Obstacle TokenBuilder := do
  let built ← (built.closeBlocks (-1)).dropKey
  pure (((built.allowKey false).move 3).emit token)

def openFlow (built : TokenBuilder) (token : Token) : Except Obstacle TokenBuilder := do
  let built ← built.noteKey
  pure ((({ built with keys := none :: built.keys }).allowKey true |>.move 1).emit token)

def closeFlow (built : TokenBuilder) (token : Token) : Except Obstacle TokenBuilder := do
  if !built.inFlow then .error .malformed
  else
    let built ← built.dropKey
    pure ((({ built with keys := built.keys.drop 1 }).allowKey false |>.move 1).emit token)

def flowEntry (built : TokenBuilder) : Except Obstacle TokenBuilder := do
  let built ← (built.allowKey true).dropKey
  pure ((built.move 1).emit .flowEntry)

def blockEntry (built : TokenBuilder) : Except Obstacle TokenBuilder := do
  if !built.inFlow && !built.keyAllowed then .error .malformed
  else
    let opened := if built.inFlow then built
      else built.openBlock built.cursor.column .blockSequenceStart built.tokens.size
    let built ← (opened.allowKey true).dropKey
    pure ((built.move 1).emit .blockEntry)

def explicitKey (built : TokenBuilder) : Except Obstacle TokenBuilder := do
  if !built.inFlow && !built.keyAllowed then .error .malformed
  else
    let opened := if built.inFlow then built
      else built.openBlock built.cursor.column .blockMappingStart built.tokens.size
    let built ← (opened.allowKey (!built.inFlow)).dropKey
    pure ((built.move 1).emit .key)

/-- A colon: what was noted as a possible key becomes one, with a block around it if none is open at
its column. -/
def colon (built : TokenBuilder) : Except Obstacle TokenBuilder := do
  match built.keys with
  | some key :: outer =>
      let keyed : TokenBuilder :=
        { built with
          keys := none :: outer
          tokens := built.tokens.insertIdxIfInBounds key.tokens .key }
      let opened := if built.inFlow then keyed
        else keyed.openBlock key.column .blockMappingStart key.tokens
      pure (((opened.allowKey false).move 1).emit .value)
  | _ =>
      if !built.inFlow && !built.keyAllowed then .error .malformed
      else
        let opened := if built.inFlow then built
          else built.openBlock built.cursor.column .blockMappingStart built.tokens.size
        let built ← (opened.allowKey (!built.inFlow)).dropKey
        pure ((built.move 1).emit .value)

def quotedScalar (built : TokenBuilder) (double : Bool) : Except Obstacle TokenBuilder := do
  let built ← built.noteKey
  let (text, cursor) ←
    scanQuoted double (built.cursor.rest.length + 1) [] built.cursor.step
  pure (({ built with cursor }.allowKey false).emit (.scalar (String.ofList text) false))

def plainScalar (built : TokenBuilder) : Except Obstacle TokenBuilder := do
  let built ← built.noteKey
  let scan := scanPlain built.inFlow (built.indent + 1) (built.cursor.rest.length + 1)
    ⟨[], false, built.cursor⟩ []
  pure (({ built with cursor := scan.cursor }.allowKey scan.ended).emit
    (.scalar (String.ofList scan.text) true))

/-- Characters that begin no plain scalar, unless a hyphen, or outside flow collections a question
mark or a colon, stands before text. -/
def beginsPlain (built : TokenBuilder) (c : Char) (rest : List Char) : Bool :=
  !"-?:,[]\x7b\x7d#&*!|>\x27\x22%@\x60 \t\n".toList.contains c && !isBreak c ||
    !gapNext rest && (c == '-' || (!built.inFlow && (c == '?' || c == ':')))

/-- The next token; none at the end of the text, unless the text is cut off there. -/
def next? (cut : Bool) (built : TokenBuilder) : Except Obstacle (Option TokenBuilder) := do
  let built ← built.dropStaleKeys
  let (ended, cursor) := skipGaps built.cursor.rest.length false false built.cursor
  if cut && cursor.rest.isEmpty then throw .ended
  let allowed := built.keyAllowed || (ended && !built.inFlow)
  let skipped ← ({ built with cursor, keyAllowed := allowed } : TokenBuilder).dropStaleKeys
  let built := skipped.closeBlocks cursor.column
  match cursor.rest with
  | [] => pure none
  | c :: rest =>
      if cursor.column = 0 && markNext cursor.rest then
        built.documentMark (if c = '-' then .documentStart else .documentEnd)
      else if c = '[' then built.openFlow .flowSequenceStart
      else if c = '\x7b' then built.openFlow .flowMappingStart
      else if c = ']' then built.closeFlow .flowSequenceEnd
      else if c = '\x7d' then built.closeFlow .flowMappingEnd
      else if c = ',' then built.flowEntry
      else if c = '-' && gapNext rest then built.blockEntry
      else if c = '?' && (built.inFlow || gapNext rest) then built.explicitKey
      else if c = ':' && (built.inFlow || gapNext rest) then built.colon
      else if c = '\x27' then built.quotedScalar false
      else if c = '\x22' then built.quotedScalar true
      else if built.beginsPlain c rest then built.plainScalar
      else .error .malformed

/-- The tokens before the first that may still turn out to be a key. -/
def sure (built : TokenBuilder) : List Token :=
  let keys := match built.dropStaleKeys with
    | .ok fresh => fresh.keys
    | .error _ => built.keys
  let places := keys.filterMap fun key? => key?.map PossibleKey.tokens
  built.tokens.toList.take (places.foldl min built.tokens.size)

def atEnd (built : TokenBuilder) : Except Obstacle (List Token) := do
  let (_, cursor) := skipGaps built.cursor.rest.length false false built.cursor
  let built ← ({ built with cursor } : TokenBuilder).dropStaleKeys
  let ended ← (built.closeBlocks (-1)).dropKey
  pure (ended.tokens.push .streamEnd).toList

end TokenBuilder

structure Scan where
  tokens : List Token
  fault : Option Fault := none

namespace TokenBuilder

def stop (built : TokenBuilder) (reason : Option Fault) (obstacle : Obstacle) : Scan :=
  ⟨built.sure, some (obstacle.settle reason)⟩

/-- All tokens up to the end. Each step takes at least one character. When there is a reason why the
text ends, a step that gets to the end does not count, since more might have followed. -/
def finish (built : TokenBuilder) (reason : Option Fault) (fuel : Nat) : Scan :=
  match fuel with
  | 0 => built.stop reason .malformed
  | fuel + 1 =>
      match built.next? reason.isSome with
      | .error obstacle => built.stop reason obstacle
      | .ok (some next) =>
          if reason.isSome && next.cursor.rest.isEmpty then built.stop reason .ended
          else next.finish reason fuel
      | .ok none =>
          match built.atEnd with
          | .ok tokens => ⟨tokens, none⟩
          | .error obstacle => built.stop reason obstacle

end TokenBuilder

def isAdmitted (c : Char) : Bool :=
  let point := c.toNat
  point == 0x09 || point == 0x0a || point == 0x0d || (0x20 ≤ point && point ≤ 0x7e) ||
    point == 0x85 || (0xa0 ≤ point && point ≤ 0xfffd) || 0x10000 ≤ point

/-- The place from which on a text is loaded together with a place: it is loaded block by block, but
the first two blocks at once. -/
def loadedFrom (place : Nat) : Nat :=
  let blocks := place / Text.blockSize
  if blocks < 2 then 0 else blocks * Text.blockSize

/-- The part of a text that is loaded before a fault in it or a character that is not admitted. -/
def loaded (text : Text.Reading) : Text.Reading :=
  let chars :=
    if text.fault.isSome then text.chars.take (loadedFrom text.chars.length) else text.chars
  match chars.findIdx? fun c => !isAdmitted c with
  | some place => ⟨chars.take (loadedFrom place), some .malformedConfig⟩
  | none => ⟨chars, text.fault⟩

def tokens (text : Text.Reading) : Scan :=
  let text := loaded text
  let cursor : Cursor := ⟨text.chars, 0, 0, 0⟩
  let cursor := if text.chars.head? = some '\ufeff' then cursor.step else cursor
  TokenBuilder.finish { cursor } text.fault (text.chars.length + 1)

end LinearProgram.Yaml
