import Stencil.Toml.Scalar

/-!
# TOML documents

A document is read statement by statement: a header opens a table, and a key with a
value adds to the open table.  Which tables may still be opened or added to is kept
beside the data: a table that was opened by its header is declared, and lists and
tables written as values are closed for good.
-/

namespace Stencil.Toml

open Data (Item Table)

/-- The names that lead to a table or an item. -/
abbrev Key := List String

def isBareKeyCharacter (character : Char) : Bool :=
  character.isAlphanum || character == '-' || character == '_'

/-- Read one name of a key. -/
def readKeyPart (characters : List Char) : Except Fault (String × List Char) :=
  match characters with
  | '"' :: rest => readQuoted (rest.length + 1) [] rest
  | '\'' :: rest => readLiteral rest
  | _ =>
    let name := characters.takeWhile isBareKeyCharacter
    if name.isEmpty then malformed
    else .ok (String.ofList name, characters.dropWhile isBareKeyCharacter)

/-- Read the names of a key, with the spaces after it. -/
def readKeyParts : (fuel : Nat) → List Char → Except Fault (Key × List Char)
  | 0, _ => malformed
  | fuel + 1, characters => do
    let (part, rest) ← readKeyPart characters
    match skipSpaces rest with
    | '.' :: rest =>
      let (parts, rest) ← readKeyParts fuel (skipSpaces rest)
      return (part :: parts, rest)
    | rest => return ([part], rest)

/-- Read a key. -/
def readKey (characters : List Char) : Except Fault (Key × List Char) :=
  readKeyParts (characters.length + 1) characters

/-- Skip a comment up to the end of its line. -/
def skipComment (characters : List Char) : Except Fault (List Char) :=
  match characters with
  | '#' :: rest =>
    if (rest.takeWhile (· != '\n')).any isControl then malformed
    else .ok (rest.dropWhile (· != '\n'))
  | _ => .ok characters

/-- Skip spaces, line ends and comments. -/
def skipFiller : (fuel : Nat) → List Char → Except Fault (List Char)
  | 0, _ => malformed
  | fuel + 1, characters => do
    let rest ← skipComment (characters.dropWhile isSpaceOrLineEnd)
    if rest.length = characters.length then return rest else skipFiller fuel rest

/-- Skip what may stand between the items of a list. -/
def skipBetween (characters : List Char) : Except Fault (List Char) :=
  skipFiller (characters.length + 1) characters

/-- Put an item under a known name. -/
def replace (name : String) (item : Item) : Table → Table
  | [] => []
  | (known, old) :: rest =>
    if known = name then (known, item) :: rest else (known, old) :: replace name item rest

/--
Change the table that a key leads to; missing tables are made on the way.  A list of
tables leads on to its last table, if lists may be entered.
-/
def within (entersLists : Bool) (change : Table → Except Fault Table) :
    Key → Table → Except Fault Table
  | [], table => change table
  | name :: names, table =>
    match table.lookup name with
    | none => do
      return table ++ [(name, .table (← within entersLists change names []))]
    | some (.table inner) => do
      return replace name (.table (← within entersLists change names inner)) table
    | some (.list items) =>
      if entersLists then
        match items.getLast? with
        | some (.table inner) => do
          let inner ← within entersLists change names inner
          return replace name (.list (items.dropLast ++ [.table inner])) table
        | _ => malformed
      else
        malformed
    | some _ => malformed

/-- Add an item under a new name. -/
def addNew (name : String) (item : Item) (table : Table) : Except Fault Table :=
  match table.lookup name with
  | some _ => malformed
  | none => .ok (table ++ [(name, item)])

/-- Add a table to the list of tables under a name. -/
def addToList (name : String) (table : Table) : Except Fault Table :=
  match table.lookup name with
  | some (.list items) => .ok (replace name (.list (items ++ [.table []])) table)
  | some _ => malformed
  | none => .ok (table ++ [(name, .list [.table []])])

/-- Whether an item is a list or a table. -/
def isContainer : Item → Bool
  | .list _ => true
  | .table _ => true
  | _ => false

/-- Whether a key or the start of one is among closed keys. -/
def isClosed (closed : List Key) (key : Key) : Bool :=
  closed.any fun known => known.isPrefixOf key

mutual

/-- Read an item. -/
def readItem : (fuel : Nat) → List Char → Except Fault (Item × List Char)
  | 0, _ => malformed
  | fuel + 1, characters =>
    match characters with
    | '[' :: rest => do
      match ← skipBetween rest with
      | ']' :: rest => return (.list [], rest)
      | rest =>
        let (items, rest) ← readItems fuel rest
        return (.list items, rest)
    | '\x7b' :: rest =>
      match skipSpaces rest with
      | '\x7d' :: rest => .ok (.table [], rest)
      | rest => (readEntries fuel [] [] rest).map fun (entries, rest) => (.table entries, rest)
    | _ => readScalar characters

/-- Read the items of a list up to its end. -/
def readItems : (fuel : Nat) → List Char → Except Fault (List Item × List Char)
  | 0, _ => malformed
  | fuel + 1, characters => do
    let (item, rest) ← readItem fuel characters
    match ← skipBetween rest with
    | ']' :: rest => return ([item], rest)
    | ',' :: rest =>
      match ← skipBetween rest with
      | ']' :: rest => return ([item], rest)
      | rest =>
        let (items, rest) ← readItems fuel rest
        return (item :: items, rest)
    | _ => malformed

/-- Read the entries of a table in braces up to its end. -/
def readEntries :
    (fuel : Nat) → (closed : List Key) → Table → List Char → Except Fault (Table × List Char)
  | 0, _, _, _ => malformed
  | fuel + 1, closed, table, characters => do
    let (key, rest) ← readKey characters
    match rest with
    | '=' :: rest =>
      let (item, rest) ← readItem fuel (skipSpaces rest)
      if isClosed closed key then
        malformed
      else
        let table ← within false (addNew (key.getLast?.getD "") item) key.dropLast table
        match skipSpaces rest with
        | '\x7d' :: rest => return (table, rest)
        | ',' :: rest =>
          let closed := if isContainer item then key :: closed else closed
          readEntries fuel closed table (skipSpaces rest)
        | _ => malformed
    | _ => malformed

end

/-- A document as far as it has been read. -/
structure Document where
  data : Table := []
  /-- Tables that a header cannot open again. -/
  declared : List Key := []
  /-- Tables that are declared once the open table ends. -/
  pending : List Key := []
  /-- Lists and tables written as values. -/
  closed : List Key := []
  /-- The open table. -/
  header : Key := []

namespace Document

/-- The parts of a key that lead to another one, the key itself left out. -/
def leading (key : Key) : List Key :=
  (List.range (key.length - 1)).map fun count => key.take (count + 1)

/-- Add an item under a key of the open table. -/
def addItem (document : Document) (key : Key) (item : Item) : Except Fault Document := do
  let around := (leading key).map (document.header ++ ·)
  if around.any document.declared.contains then malformed
  let table := document.header ++ key.dropLast
  if isClosed document.closed table then malformed
  let data ← within true (addNew (key.getLast?.getD "") item) table document.data
  let closed :=
    if isContainer item then (document.header ++ key) :: document.closed else document.closed
  return { document with data, closed, pending := document.pending ++ around }

/-- Settle which tables are declared when the open table ends. -/
def endTable (document : Document) : Document :=
  { document with declared := document.pending ++ document.declared, pending := [] }

/-- Open a table. -/
def openTable (document : Document) (key : Key) : Except Fault Document := do
  if document.declared.contains key || isClosed document.closed key then malformed
  let data ← within true .ok key document.data
  return { document with data, declared := key :: document.declared, header := key }

/-- Open a new table at the end of a list of tables. -/
def openListed (document : Document) (key : Key) : Except Fault Document := do
  if isClosed document.closed key then malformed
  let outside := fun (known : Key) => !key.isPrefixOf known
  let data ← within true (addToList (key.getLast?.getD "")) key.dropLast document.data
  return { document with
    data
    declared := key :: document.declared.filter outside
    closed := document.closed.filter outside
    header := key }

/-- Read one statement. -/
def readStatement
    (document : Document)
    (characters : List Char) : Except Fault (Document × List Char) :=
  match characters with
  | '[' :: '[' :: rest => do
    let document := document.endTable
    let (key, rest) ← readKey (skipSpaces rest)
    let document ← document.openListed key
    match rest with
    | ']' :: ']' :: rest => return (document, rest)
    | _ => malformed
  | '[' :: rest => do
    let document := document.endTable
    let (key, rest) ← readKey (skipSpaces rest)
    let document ← document.openTable key
    match rest with
    | ']' :: rest => return (document, rest)
    | _ => malformed
  | '#' :: _ => .ok (document, characters)
  | _ => do
    let (key, rest) ← readKey characters
    match rest with
    | '=' :: rest =>
      let (item, rest) ← readItem (2 * rest.length + 2) (skipSpaces rest)
      return (← document.addItem key item, rest)
    | _ => malformed

/-- Read statements up to the end. -/
def readStatements : (fuel : Nat) → Document → List Char → Except Fault Document
  | 0, _, _ => malformed
  | fuel + 1, document, characters => do
    match skipSpaces characters with
    | [] => return document
    | '\n' :: rest => readStatements fuel document rest
    | characters =>
      let (document, rest) ← document.readStatement characters
      match ← skipComment (skipSpaces rest) with
      | [] => return document
      | '\n' :: rest => readStatements fuel document rest
      | _ => malformed

end Document

/-- Line ends of two characters become one. -/
def joinLineEnds : List Char → List Char
  | [] => []
  | '\r' :: '\n' :: rest => '\n' :: joinLineEnds rest
  | character :: rest => character :: joinLineEnds rest

/-- Read a document. -/
def read (characters : List Char) : Except Fault Table := do
  let characters := joinLineEnds characters
  return (← Document.readStatements (characters.length + 1) {} characters).data

/-- Read a document from its stored form. -/
def readBytes (bytes : ByteArray) : Except Fault Table :=
  match Text.decode? bytes with
  | some characters => read characters
  | none => .error .undecodable

end Stencil.Toml
