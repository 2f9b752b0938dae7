import Stencil.Yaml.Scalar

/-!
# The tokens of a YAML document

Tokens are read ahead only as far as it takes to know the next one.  A token that may
turn out to be a key, once a colon follows it on its line, is a candidate; it is held
back until that is settled.
-/

namespace Stencil.Yaml

/-- A token that may turn out to start a key. -/
structure Candidate where
  /-- How many brackets are open around the key. -/
  depth : Nat
  /-- The number of the token among all tokens. -/
  number : Nat
  /-- Whether the token makes no sense unless it starts a key. -/
  isRequired : Bool
  index : Nat
  line : Nat
  column : Nat

/-- The tokens of a document up to its end or its first fault. -/
structure Tokens where
  items : List Token
  fault : Option Fault

/-- Tokens that wait to be taken, and where reading goes on. -/
structure TokenQueue where
  cursor : Cursor
  waiting : List Token := [.streamStart]
  taken : Nat := 0
  depth : Nat := 0
  /-- The columns of the blocks around the cursor, innermost first. -/
  blocks : List Nat := []
  candidates : List Candidate := []
  /-- Whether a key may start at the cursor. -/
  allowsKey : Bool := true
  isDone : Bool := false

namespace TokenQueue

def push (queue : TokenQueue) (token : Token) : TokenQueue :=
  { queue with waiting := queue.waiting ++ [token] }

/-- Put a token before the one with a number. -/
def insertAt (queue : TokenQueue) (number : Nat) (token : Token) : TokenQueue :=
  let place := number - queue.taken
  { queue with waiting := queue.waiting.take place ++ token :: queue.waiting.drop place }

/-- The least column of what belongs to the innermost block. -/
def leastColumn (queue : TokenQueue) : Nat :=
  match queue.blocks with
  | [] => 0
  | column :: _ => column + 1

/-- Go past blanks, comments and line ends. -/
def skipBlanks : (fuel : Nat) → TokenQueue → TokenQueue
  | 0, queue => queue
  | fuel + 1, queue =>
    let cursor := (queue.cursor.skipWhile isSpace).skipComment
    if cursor.head?.any isBreak then
      skipBlanks fuel { queue with
        cursor := cursor.lineBreak.2
        allowsKey := queue.allowsKey || queue.depth == 0 }
    else
      { queue with cursor }

/-- Go to where the next token starts; a byte order mark may stand before the first one. -/
def skipToToken (queue : TokenQueue) : TokenQueue :=
  let cursor := queue.cursor
  let cursor := if cursor.index == 0 && cursor.isAt '\uFEFF' then cursor.next else cursor
  skipBlanks (cursor.rest.length + 1) { queue with cursor }

/-- Whether a candidate is too far behind to start a key. -/
def isStale (queue : TokenQueue) (candidate : Candidate) : Bool :=
  candidate.line != queue.cursor.line || queue.cursor.index > candidate.index + 1024

/-- Give up candidates of a kind. -/
def dropCandidates (queue : TokenQueue) (kind : Candidate → Bool) : Except Fault TokenQueue :=
  if queue.candidates.any fun candidate => kind candidate && candidate.isRequired then
    badToken
  else
    .ok { queue with candidates := queue.candidates.filter fun candidate => !kind candidate }

/-- Give up the candidates that are too far behind. -/
def dropStale (queue : TokenQueue) : Except Fault TokenQueue :=
  queue.dropCandidates queue.isStale

/-- Give up the candidate within the innermost brackets. -/
def dropCandidate (queue : TokenQueue) : Except Fault TokenQueue :=
  queue.dropCandidates fun candidate => candidate.depth == queue.depth

/-- The next token may start a key if one is allowed here. -/
def addCandidate (queue : TokenQueue) : Except Fault TokenQueue := do
  if queue.allowsKey then
    let queue ← queue.dropCandidate
    let candidate := {
      depth := queue.depth
      number := queue.taken + queue.waiting.length
      isRequired := queue.depth == 0 && queue.blocks.head? == some queue.cursor.column
      index := queue.cursor.index
      line := queue.cursor.line
      column := queue.cursor.column }
    return { queue with candidates := queue.candidates ++ [candidate] }
  else
    return queue

/-- End the blocks that are indented more than a column; brackets hold their blocks open. -/
def endBlocks (column : Option Nat) (queue : TokenQueue) : TokenQueue :=
  if queue.depth == 0 then
    let isInner := fun block =>
      match column with
      | some column => block > column
      | none => true
    let ended := queue.blocks.takeWhile isInner
    { queue with
      blocks := queue.blocks.dropWhile isInner
      waiting := queue.waiting ++ ended.map fun _ => .blockEnd }
  else
    queue

/-- Whether a block that starts at a column is a new one. -/
def isInnerBlock (queue : TokenQueue) (column : Nat) : Bool :=
  queue.depth == 0 && queue.leastColumn ≤ column

/-- Start a block here, unless it goes on or stands in brackets. -/
def startBlock (queue : TokenQueue) (token : Token) : TokenQueue :=
  if queue.isInnerBlock queue.cursor.column then
    { queue with blocks := queue.cursor.column :: queue.blocks }.push token
  else
    queue

/-- Read a token of a number of characters. -/
def pushMark (queue : TokenQueue) (length : Nat) (token : Token) : TokenQueue :=
  { queue with cursor := queue.cursor.forward length }.push token

/-- Read the end of the document. -/
def readEnd (queue : TokenQueue) : Except Fault TokenQueue := do
  let queue ← (queue.endBlocks none).dropCandidate
  return { queue with allowsKey := false, candidates := [], isDone := true }.push .streamEnd

def readDirective (queue : TokenQueue) : Except Fault TokenQueue := do
  let queue ← (queue.endBlocks none).dropCandidate
  let (token, cursor) ← scanDirective queue.cursor
  return { queue with allowsKey := false, cursor }.push token

/-- Read a mark between documents. -/
def readSeparator (queue : TokenQueue) (token : Token) : Except Fault TokenQueue := do
  let queue ← (queue.endBlocks none).dropCandidate
  return { queue with allowsKey := false }.pushMark 3 token

def readOpening (queue : TokenQueue) (token : Token) : Except Fault TokenQueue := do
  let queue ← queue.addCandidate
  return { queue with depth := queue.depth + 1, allowsKey := true }.pushMark 1 token

/-- Read a closing bracket; nothing is read after one that has no partner. -/
def readClosing (queue : TokenQueue) (token : Token) : Except Fault TokenQueue := do
  let queue ← queue.dropCandidate
  return { queue with
    depth := queue.depth - 1
    allowsKey := false
    isDone := queue.depth == 0 }.pushMark 1 token

def readComma (queue : TokenQueue) : Except Fault TokenQueue := do
  let queue ← queue.dropCandidate
  return { queue with allowsKey := true }.pushMark 1 .flowEntry

/-- Outside brackets, list entries and keys start only where keys may. -/
def requireKeyPlace (queue : TokenQueue) : Except Fault Unit :=
  if queue.depth == 0 && !queue.allowsKey then badToken else .ok ()

/-- Read the mark of a list entry. -/
def readEntryMark (queue : TokenQueue) : Except Fault TokenQueue := do
  queue.requireKeyPlace
  let queue ← (queue.startBlock .blockSequenceStart).dropCandidate
  return { queue with allowsKey := true }.pushMark 1 .blockEntry

/-- Read the mark of a key. -/
def readKeyMark (queue : TokenQueue) : Except Fault TokenQueue := do
  queue.requireKeyPlace
  let queue ← (queue.startBlock .blockMappingStart).dropCandidate
  return { queue with allowsKey := queue.depth == 0 }.pushMark 1 .key

/-- The candidate within the innermost brackets has turned out to be a key. -/
def settleKey (queue : TokenQueue) (candidate : Candidate) : TokenQueue :=
  let startsBlock := queue.isInnerBlock candidate.column
  let queue := queue.insertAt candidate.number .key
  let queue :=
    if startsBlock then
      { queue with blocks := candidate.column :: queue.blocks }.insertAt candidate.number
        .blockMappingStart
    else
      queue
  { queue with
    candidates := queue.candidates.filter fun other => other.depth != queue.depth
    allowsKey := false }

/-- Read the colon between a key and its value. -/
def readColon (queue : TokenQueue) : Except Fault TokenQueue :=
  match queue.candidates.find? fun candidate => candidate.depth == queue.depth with
  | some candidate => .ok ((queue.settleKey candidate).pushMark 1 .value)
  | none => do
    queue.requireKeyPlace
    let queue ← (queue.startBlock .blockMappingStart).dropCandidate
    return { queue with allowsKey := queue.depth == 0 }.pushMark 1 .value

/-- Read a token that a key may start with. -/
def readKeyStart (queue : TokenQueue) (scan : Cursor → Except Fault (Token × Cursor)) :
    Except Fault TokenQueue := do
  let queue ← queue.addCandidate
  let (token, cursor) ← scan queue.cursor
  return { queue with allowsKey := false, cursor }.push token

def readQuoted (isDouble : Bool) : TokenQueue → Except Fault TokenQueue :=
  fun queue => queue.readKeyStart fun cursor => do
    let (content, cursor) ← scanQuotedScalar isDouble cursor
    return (.scalar content false, cursor)

def readAlias (queue : TokenQueue) : Except Fault TokenQueue :=
  queue.readKeyStart fun cursor => do
    let (name, cursor) ← scanAnchorName cursor
    return (.alias name, cursor)

def readAnchor (queue : TokenQueue) : Except Fault TokenQueue :=
  queue.readKeyStart fun cursor => do
    let (name, cursor) ← scanAnchorName cursor
    return (.anchor name, cursor)

/-- Read a block of lines. -/
def readBlock (isFolded : Bool) (queue : TokenQueue) : Except Fault TokenQueue := do
  let queue ← queue.dropCandidate
  let (content, cursor) ← scanBlock isFolded queue.leastColumn queue.cursor
  return { queue with allowsKey := true, cursor }.push (.scalar (Text.ofChars content) false)

/-- Read a plain scalar; if lines end after it, a key may follow. -/
def readPlain (queue : TokenQueue) : Except Fault TokenQueue := do
  let queue ← queue.addCandidate
  let plain := scanPlain (queue.depth != 0) queue.leastColumn queue.cursor
  return { queue with allowsKey := plain.allowsKey, cursor := plain.cursor }.push
    (.scalar (Text.ofChars plain.content) true)

/-- Characters that no plain scalar starts with. -/
def tokenMarks : List Char :=
  ['-', '?', ':', ',', '[', ']', '\x7b', '\x7d', '#', '&', '*', '!', '|', '>', '\'', '"', '%',
    '@', Char.ofNat 0x60]

/-- Whether a plain scalar starts with a character before another one. -/
def startsPlain (inFlow : Bool) (character : Char) (next : Option Char) : Bool :=
  !(endsToken (some character) || tokenMarks.contains character) ||
    (!endsToken next &&
      (character == '-' || (!inFlow && (character == '?' || character == ':'))))

/-- Read the token that starts with a character. -/
def readAt (queue : TokenQueue) (character : Char) : Except Fault TokenQueue :=
  let cursor := queue.cursor
  let inFlow := queue.depth != 0
  let isFirst := cursor.column == 0
  let standsAlone := endsToken (cursor.peek? 1)
  if character == '%' && isFirst then queue.readDirective
  else if isFirst && cursor.isAtMark '-' then queue.readSeparator .documentStart
  else if isFirst && cursor.isAtMark '.' then queue.readSeparator .documentEnd
  else if character == '[' then queue.readOpening .flowSequenceStart
  else if character == '\x7b' then queue.readOpening .flowMappingStart
  else if character == ']' then queue.readClosing .flowSequenceEnd
  else if character == '\x7d' then queue.readClosing .flowMappingEnd
  else if character == ',' then queue.readComma
  else if character == '-' && standsAlone then queue.readEntryMark
  else if character == '?' && (inFlow || standsAlone) then queue.readKeyMark
  else if character == ':' && (inFlow || standsAlone) then queue.readColon
  else if character == '*' then queue.readAlias
  else if character == '&' then queue.readAnchor
  else if character == '!' then queue.readKeyStart scanTag
  else if character == '|' && !inFlow then queue.readBlock false
  else if character == '>' && !inFlow then queue.readBlock true
  else if character == '\'' then queue.readQuoted false
  else if character == '"' then queue.readQuoted true
  else if startsPlain inFlow character (cursor.peek? 1) then queue.readPlain
  else badToken

/-- Read tokens from the cursor on. -/
def readMore (queue : TokenQueue) : Except Fault TokenQueue := do
  let queue ← queue.skipToToken.dropStale
  let queue := queue.endBlocks (some queue.cursor.column)
  match queue.cursor.head? with
  | none => queue.readEnd
  | some character => queue.readAt character

/-- Whether the first token may still turn out to start a key. -/
def isUnsettled (queue : TokenQueue) : Bool :=
  match (queue.candidates.map Candidate.number).min? with
  | some number => number == queue.taken
  | none => false

/-- Take all tokens one by one; what was taken is at hand, latest first. -/
def takeAll : (fuel : Nat) → List Token → TokenQueue → Tokens
  | 0, before, _ => ⟨before.reverse, none⟩
  | fuel + 1, before, queue =>
    match queue.waiting with
    | [] =>
      if queue.isDone then ⟨before.reverse, none⟩ else read fuel before queue
    | token :: waiting =>
      let settled := if queue.isDone then .ok queue else queue.dropStale
      match settled with
      | .error fault => ⟨before.reverse, some fault⟩
      | .ok queue =>
        if !queue.isDone && queue.isUnsettled then read fuel before queue
        else takeAll fuel (token :: before) { queue with waiting, taken := queue.taken + 1 }
where
  read (fuel : Nat) (before : List Token) (queue : TokenQueue) : Tokens :=
    match queue.readMore with
    | .error fault => ⟨before.reverse, some fault⟩
    | .ok queue => takeAll fuel before queue

end TokenQueue

/-- The tokens that characters hold. -/
def Tokens.ofChars (characters : List Char) : Tokens :=
  TokenQueue.takeAll (8 * characters.length + 64) [] { cursor := { rest := characters } }

end Stencil.Yaml
