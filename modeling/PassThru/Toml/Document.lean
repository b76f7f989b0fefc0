import PassThru.Toml.MomentTable
import PassThru.Toml.Quoted
import PassThru.Toml.Word

/-!
# Documents

A document is a sequence of lines: headers, which name the table that the following lines fill, and
keys with their values. `Document.read?` is the table of a whole document, or `none` if it is not
well formed.
-/

namespace PassThru.Toml

/-- Arrays and inline tables nest less deep than this, and a dotted key has fewer parts. -/
def nestingLimit : Nat := 80

/-! ## Keys -/

def isKeyChar (c : Char) : Bool := c.isAlphanum || c = '_' || c = '-'

def simpleKey (input : List Char) : Option (String × List Char) :=
  match input.span isKeyChar with
  | ([], rest) => lineText rest
  | (name, rest) => some (String.ofList name, rest)

/-- One part of a key with the blanks around it. -/
def spacedKey : Reader String := fun input => do
  let (key, rest) ← simpleKey (skipBlanks input)
  return (key, skipBlanks rest)

/-- A further part of a key. -/
def furtherKey : Reader String
  | '.' :: rest => spacedKey rest
  | _ => none

def dottedKey : Reader (List String) := fun input => do
  let (first, rest) ← spacedKey input
  let (more, rest) := many furtherKey rest
  if more.length + 1 < nestingLimit then some (first :: more, rest) else none

/-! ## Values -/

def furtherItem (value : Reader Value) : Reader Value := fun input =>
  match skipLines input with
  | ',' :: rest => value (skipLines rest)
  | _ => none

def arrayEnd (input : List Char) : Option (List Char) :=
  match skipLines input with
  | ']' :: rest => some rest
  | _ => none

/-- The rest of an array. A comma may follow its last item. -/
def arrayItems (value : Reader Value) : Reader Value := fun input =>
  match arrayEnd input with
  | some rest => some (.array [], rest)
  | none => do
    let (first, rest) ← value (skipLines input)
    let (more, rest) := many (furtherItem value) rest
    let rest ←
      match skipLines rest with
      | ',' :: rest => arrayEnd rest
      | rest => arrayEnd rest
    return (.array (first :: more), rest)

/-- A key with its value. -/
def keyValue (value : Reader Value) : Reader (List String × Value) := fun input => do
  let (key, rest) ← dottedKey input
  let rest ←
    match rest with
    | '=' :: rest => some rest
    | _ => none
  let (v, rest) ← value (skipBlanks rest)
  return ((key, v), rest)

/-- A further key of an inline table. -/
def furtherKeyValue (value : Reader Value) : Reader (List String × Value) := fun input =>
  match skipBlanks input with
  | ',' :: rest => keyValue value rest
  | _ => none

/-- The rest of an inline table: keys on one line, with commas between them only. -/
def inlineTable (value : Reader Value) : Reader Value := fun input =>
  match skipBlanks input with
  | '}' :: rest => some (.table .inline [], rest)
  | input => do
    let (first, rest) ← keyValue value input
    let (more, rest) := many (furtherKeyValue value) rest
    let fields ← (first :: more).foldlM (fun fields (key, v) => Fields.define fields key v) []
    match skipBlanks rest with
    | '}' :: rest => some (.table .inline fields, rest)
    | _ => none

/-- A value; arrays and inline tables nest at most `depth` deep. -/
def value : Nat → Reader Value
  | 0, _ => none
  | depth + 1, input =>
    match input with
    | '[' :: rest => if depth = 0 then none else arrayItems (value depth) rest
    | '{' :: rest => if depth = 0 then none else inlineTable (value depth) rest
    | '"' :: _ | '\'' :: _ => (anyText input).map fun (text, rest) => (.text text, rest)
    | _ =>
      let (word, rest) := takeWord input
      (wordValue? word).map fun v => (v, rest)

/-! ## Lines -/

/-- What a line of a document says. -/
inductive Statement where
  | blank
  | tableHeader (path : List String)
  | itemHeader (path : List String)
  | define (path : List String) (value : Value)

/-- A key between brackets, which have been opened. -/
def headerKey (closing : List Char) (input : List Char) : Option (List String × List Char) := do
  let (path, rest) ← dottedKey input
  if closing.isPrefixOf rest then some (path, rest.drop closing.length) else none

/-- One line with its end. -/
def statement : Reader Statement := fun input => do
  let (said, rest) ←
    match skipBlanks input with
    | '[' :: '[' :: rest =>
      (headerKey [']', ']'] rest).map fun (path, rest) => (Statement.itemHeader path, rest)
    | '[' :: rest =>
      (headerKey [']'] rest).map fun (path, rest) => (Statement.tableHeader path, rest)
    | rest =>
      match lineEnd rest with
      | some _ => some (.blank, rest)
      | none =>
        (keyValue (value nestingLimit) rest).map fun ((path, v), rest) => (.define path v, rest)
  return (said, ← lineEnd rest)

/-- A document as far as it was read: its table, and the header that its lines are under. -/
structure Document where
  root : Fields := []
  header : List String := []

namespace Document

/-- The document after one more line. -/
def next (doc : Document) : Statement → Option Document
  | .blank => some doc
  | .tableHeader path => do
    let root ← doc.root.openTable path
    return ⟨root, path⟩
  | .itemHeader path => do
    let root ← doc.root.openItem path
    return ⟨root, path⟩
  | .define path value => do
    let root ← doc.root.atHeader (fun fields => fields.define path value) doc.header
    return { doc with root }

/-- The input without a byte order mark. -/
def dropMark : List Char → List Char
  | '\uFEFF' :: rest => rest
  | input => input

/-- The table of a document, with moments in the place of the tables that stand for them. -/
def read? (text : String) : Option Fields := do
  let (statements, rest) := many statement (dropMark text.toList)
  if !rest.isEmpty then none
  let doc ← statements.foldlM next {}
  doc.root.resolve?

end Document

end PassThru.Toml
