import Playhouse.Json.Token

/-!
# Documents as trees

`Node.ofText` turns a text into a tree, also when the text is no JSON: the tree then holds what
stands before the first break and a leaf that says what breaks there. Whoever reads a tree from
left to right finds the same first fault as one who reads the text.

A tree is read in three ways. A value of unwanted type is refused (`reject`); a value that nobody
asked for is skipped, and only its form counts (`skip`); a value that is kept for later must be
sound, and arrays and objects must not be nested too deeply (`hold`).
-/

namespace Playhouse

inductive Node where
  | null
  | bool (b : Bool)
  | number (n : Numeral)
  | text (q : Quoted)
  /-- The items, and what breaks between them and the end. -/
  | array (items : List Node) (stop : Option Fault)
  /-- The members, and what breaks between them and the end. A member without a key stands for
  something else in the place of a key. -/
  | object (members : List (Option Quoted × Node)) (stop : Option Fault)
  | brokenWord (f : Fault)
  | brokenNumber (b : BrokenNumeral)
  /-- There is no value here. -/
  | absent (f : Fault)

/-- The tree of a document, and whether the document goes on after it. -/
structure Document where
  root : Node
  trailing : Bool

namespace Node

abbrev Member := Option Quoted × Node

/-! ## From tokens to trees -/

/-- An array or object that is still open, with what it holds in reverse. -/
inductive Frame where
  | array (items : List Node)
  | object (members : List Member)
  | member (members : List Member) (key : Quoted)

/-- What may come next. -/
inductive Expected where
  | value
  | firstItem
  | firstKey
  | key
  | colon
  | separator

/-- Closes all open arrays and objects around a value behind which nothing is known. -/
def abandon (n : Node) : List Frame → Document
  | [] => ⟨n, false⟩
  | .array items :: frames => abandon (.array (n :: items).reverse none) frames
  | .object members :: frames => abandon (.object ((none, n) :: members).reverse none) frames
  | .member members key :: frames =>
    abandon (.object ((some key, n) :: members).reverse none) frames

/-- The innermost array or object breaks after a complete value. -/
def breakOff (f : Fault) : List Frame → Document
  | [] => ⟨.absent f, false⟩
  | .array items :: frames => abandon (.array items.reverse (some f)) frames
  | .object members :: frames => abandon (.object members.reverse (some f)) frames
  | .member members key :: frames => abandon (.absent f) (.member members key :: frames)

/-- The leaf that a token stands for in the place of a value, broken ones included. -/
def ofToken : Token → Node
  | .null => .null
  | .bool b => .bool b
  | .number n => .number n
  | .text q => .text q
  | .brokenWord f => .brokenWord f
  | .brokenNumber b => .brokenNumber b
  | .openArray => .array [] none
  | .openObject => .object [] none
  | _ => .absent .malformed

/-- Puts a complete value in its place. At the outermost level it is the whole document. -/
def place (n : Node) : List Frame → Node ⊕ List Frame
  | [] => .inl n
  | .array items :: frames => .inr (.array (n :: items) :: frames)
  | .object members :: frames => .inr (.object ((none, n) :: members) :: frames)
  | .member members key :: frames => .inr (.object ((some key, n) :: members) :: frames)

/-- Reads tokens inside open arrays and objects. -/
def assemble : List Token → Expected → List Frame → Document
  | [], .value, frames => abandon (.absent .truncated) frames
  | [], .firstItem, frames => abandon (.absent .truncated) frames
  | [], .firstKey, frames => abandon (.absent .truncated) frames
  | [], .key, frames => abandon (.absent .truncated) frames
  | [], .colon, frames => abandon (.absent .truncated) frames
  | [], .separator, frames => breakOff .truncated frames
  | token :: rest, expected, frames =>
    let complete (n : Node) (frames : List Frame) : Document :=
      match place n frames with
      | .inl root => ⟨root, !rest.isEmpty⟩
      | .inr frames => assemble rest .separator frames
    match expected, token, frames with
    | .firstItem, .closeArray, .array items :: frames => complete (.array items.reverse none) frames
    | .firstKey, .closeObject, .object members :: frames =>
      complete (.object members.reverse none) frames
    | .separator, .closeArray, .array items :: frames => complete (.array items.reverse none) frames
    | .separator, .closeObject, .object members :: frames =>
      complete (.object members.reverse none) frames
    | .separator, .comma, .array items :: frames => assemble rest .value (.array items :: frames)
    | .separator, .comma, .object members :: frames =>
      assemble rest .key (.object members :: frames)
    | .separator, _, frames => breakOff .malformed frames
    | .firstKey, .text q, .object members :: frames =>
      assemble rest .colon (.member members q :: frames)
    | .key, .text q, .object members :: frames =>
      assemble rest .colon (.member members q :: frames)
    | .firstKey, token, frames => abandon (ofToken token) frames
    | .key, token, frames => abandon (ofToken token) frames
    | .colon, .colon, frames => assemble rest .value frames
    | .colon, _, frames => abandon (.absent .malformed) frames
    | _, .openArray, frames => assemble rest .firstItem (.array [] :: frames)
    | _, .openObject, frames => assemble rest .firstKey (.object [] :: frames)
    | _, .null, frames => complete .null frames
    | _, .bool b, frames => complete (.bool b) frames
    | _, .number n, frames => complete (.number n) frames
    | _, .text q, frames => complete (.text q) frames
    | _, token, frames => abandon (ofToken token) frames

end Node

def Document.ofText (s : String) : Document :=
  Node.assemble (tokens s.toList) .value []

namespace Node

/-! ## Faults of a tree -/

/-- Why a value is refused whose type is not the wanted one: a broken scalar for its own fault,
all else for its type. Arrays and objects are not looked into. -/
def reject : Node → Fault
  | .absent f => f
  | .brokenWord f => f
  | .brokenNumber b => if b.atEnd then .truncated else .malformed
  | .number n => if n.overflows then .malformed else .mismatch
  | .text q =>
    match q.text with
    | .ok _ => .mismatch
    | .error f => f
  | _ => .mismatch

/-- Why something else than a text is refused in the place of a key. -/
def rejectKey : Node → Fault
  | .absent f => f
  | _ => .malformed

def ending : Option Fault → Except Fault Unit
  | none => .ok ()
  | some f => .error f

mutual

/-- Passes over a value that nobody asked for. -/
def skip : Node → Except Fault Unit
  | .null => .ok ()
  | .bool _ => .ok ()
  | .number _ => .ok ()
  | .text q => q.check
  | .array items stop => do
    skipItems items
    ending stop
  | .object members stop => do
    skipMembers members
    ending stop
  | .brokenWord f => .error f
  | .brokenNumber _ => .error .malformed
  | .absent f => .error f

def skipItems : List Node → Except Fault Unit
  | [] => .ok ()
  | n :: rest => do
    skip n
    skipItems rest

def skipMembers : List Member → Except Fault Unit
  | [] => .ok ()
  | (none, n) :: _ => .error n.rejectKey
  | (some q, n) :: rest => do
    q.check
    skip n
    skipMembers rest

end

/-- The deepest nesting of arrays and objects in a value that is kept. -/
def deepest : Nat :=
  127

mutual

/-- Checks a value that is kept for later and stands inside `level` arrays and objects. -/
def hold (level : Nat) : Node → Except Fault Unit
  | .array items stop => do
    if deepest ≤ level then throw .malformed
    holdItems (level + 1) items
    ending stop
  | .object members stop => do
    if deepest ≤ level then throw .malformed
    holdMembers (level + 1) members
    ending stop
  | .null => .ok ()
  | .bool _ => .ok ()
  | .number n => if n.overflows then .error .malformed else .ok ()
  | .text q => q.text.map fun _ => ()
  | .brokenWord f => .error f
  | .brokenNumber b => .error (if b.atEnd then .truncated else .malformed)
  | .absent f => .error f

def holdItems (level : Nat) : List Node → Except Fault Unit
  | [] => .ok ()
  | n :: rest => do
    hold level n
    holdItems level rest

def holdMembers (level : Nat) : List Member → Except Fault Unit
  | [] => .ok ()
  | (none, n) :: _ => .error n.rejectKey
  | (some q, n) :: rest => do
    let _ ← q.text
    hold level n
    holdMembers level rest

end

end Node

end Playhouse
