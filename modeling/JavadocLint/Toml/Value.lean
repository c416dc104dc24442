import JavadocLint.Toml.Syntax

/- The tree of values that the statements of a TOML document build. -/
namespace JavadocLint.Toml

inductive Value where
  | text (t : Text)
  | integer (n : Int)
  | decimal (d : Decimal)
  | bool (b : Bool)
  | time (t : Text)
  /-- A list of values, which nothing asks for. -/
  | array
  | table (entries : List (Text × Value))
  /-- Tables that are given one by one, the last of them open. -/
  | tables (items : List (List (Text × Value)))
  deriving Repr

abbrev Entries := List (Text × Value)

abbrev Place := List Text

structure Origin where
  line : Nat
  isArray : Bool
  deriving DecidableEq, Repr

/-- A document under construction: the tree, the places that are tables only because something was
    put below them, and where places were set, the latest first. -/
structure Document where
  root : Entries := []
  implicit : List Place := []
  origins : List (Place × Origin) := []

namespace Document

def origin? (d : Document) (place : Place) : Option Origin :=
  (d.origins.find? fun o => o.1 = place).map Prod.snd

def isArray (d : Document) (place : Place) : Bool := (d.origin? place).any (·.isArray)

def setOrigin (d : Document) (place : Place) (origin : Origin) : Document :=
  { d with origins := (place, origin) :: d.origins }

def markImplicit (d : Document) (place : Place) : Document :=
  { d with implicit := place :: d.implicit }

def unmarkImplicit (d : Document) (place : Place) : Document :=
  { d with implicit := d.implicit.filter (· ≠ place) }

def get? (entries : Entries) (name : Text) : Option Value :=
  (entries.find? fun e => e.1 = name).map Prod.snd

def put (entries : Entries) (name : Text) (v : Value) : Entries :=
  if (get? entries name).isSome then entries.map fun e => if e.1 = name then (name, v) else e
  else entries ++ [(name, v)]

/-- Changes the table at a place; tables given one by one stand for the last of them. -/
def modifyAt (f : Entries → Option Entries) : Place → Entries → Option Entries
  | [], entries => f entries
  | name :: rest, entries =>
    match get? entries name with
    | some (.table inner) => do return put entries name (.table (← modifyAt f rest inner))
    | some (.tables items) => do
      let last ← items.getLast?
      return put entries name (.tables (items.dropLast ++ [← modifyAt f rest last]))
    | _ => none

/-- Sets a value. A name that is taken may only be set again if its table is implicit, which then
    stays as it is, or if it holds an array. -/
def setValue (d : Document) (context : Place) (name : Text) (v : Value) : Option Document := do
  let place := context ++ [name]
  let set (entries : Entries) : Option Entries :=
    if (get? entries name).isNone || d.isArray place then some (put entries name v)
    else if place ∈ d.implicit then some entries
    else none
  let isTaken (entries : Entries) : Option Entries :=
    if (get? entries name).isSome then some entries else none
  let taken := (modifyAt isTaken context d.root).isSome
  let root ← modifyAt set context d.root
  return if taken then { d with root }.unmarkImplicit place else { d with root }

def makeParents (d : Document) : Place → List Text → Option Document
  | _, [] => some d
  | above, name :: rest => do
    let add (entries : Entries) : Option Entries :=
      if (get? entries name).isSome then none else some (put entries name (.table []))
    let d := match modifyAt add above d.root with
      | some root => { d with root }.markImplicit (above ++ [name])
      | none => d
    let _ ← modifyAt some (above ++ [name]) d.root
    makeParents d (above ++ [name]) rest

def openTable (d : Document) (place : Place) : Option Document := do
  let d ← d.makeParents [] place.dropLast
  let name ← place.getLast?
  d.setValue place.dropLast name (.table [])

def addTable (d : Document) (place : Place) : Option Document := do
  let d ← d.makeParents [] place.dropLast
  let name ← place.getLast?
  let add (entries : Entries) : Option Entries :=
    match get? entries name with
    | none => some (put entries name (.tables [[]]))
    | some (.tables items) => some (put entries name (.tables (items ++ [[]])))
    | _ => none
  return { d with root := ← modifyAt add place.dropLast d.root }

/-- The place that is noted for a key; an empty key is noted under what it belongs to. -/
def notedPlace (context : Place) (name : Text) : Place :=
  if !name.isEmpty then context ++ [name]
  else if context.isEmpty then [[]]
  else context

def openParts (d : Document) (context : Place) : List Text → Option (Document × Place)
  | [] => some (d, context)
  | part :: rest => do
    let d ← (d.markImplicit (context ++ [part])).openTable (context ++ [part])
    openParts d (context ++ [part]) rest

def isArrayLiteral : Literal → Bool
  | .array _ => true
  | _ => false

def valueOf : Literal → Value
  | .text t => .text t
  | .integer n => .integer n
  | .decimal d => .decimal d
  | .bool b => .bool b
  | .time t => .time t
  | .array _ => .array
  | .inlineTable _ => .table []

mutual
/-- Sets what a literal holds inside, before the literal itself is set. -/
def place (d : Document) (context : Place) (name : Text) (line : Nat) (inArray : Bool) :
    Literal → Option Document
  | .array items =>
    placeItems (d.setOrigin (notedPlace context name) ⟨line, true⟩) context name line items
  | .inlineTable entries => do
    let here := context ++ [name]
    let d := d.markImplicit here
    let d ← if inArray then d.addTable here else d.openTable here
    placeEntries d here entries
  | _ => some d

def placeItems (d : Document) (context : Place) (name : Text) (line : Nat) :
    List Literal → Option Document
  | [] => some d
  | item :: rest => do
    let d ← place d context name line true item
    placeItems d context name line rest

def placeEntries (d : Document) (context : Place) :
    List (List Text × Nat × Literal) → Option Document
  | [] => some d
  | (key, line, v) :: rest => do
    let (d, inner) ← d.openParts context key.dropLast
    let name ← key.getLast?
    let d ← place d inner name line false v
    let d ← d.setLiteral inner name v
    placeEntries (d.setOrigin (notedPlace inner name) ⟨line, isArrayLiteral v⟩) context rest

def setLiteral (d : Document) (context : Place) (name : Text) : Literal → Option Document
  | .inlineTable _ =>
    if d.isArray (context ++ [name]) then some d else d.setValue context name (.table [])
  | v => d.setValue context name (valueOf v)
end

def assign (d : Document) (context : Place) (key : List Text) (line : Nat) (v : Literal) :
    Option Document := do
  let (d, inner) ← d.openParts context key.dropLast
  let name ← key.getLast?
  let d ← place d inner name line false v
  let d ← d.setLiteral inner name v
  return d.setOrigin (notedPlace inner name) ⟨line, isArrayLiteral v⟩

def step : Document × Place → Statement → Option (Document × Place)
  | (d, context), .assign key line v => do return (← d.assign context key line v, context)
  | (d, _), .table key line => do return ((← d.openTable key).setOrigin key ⟨line, false⟩, key)
  | (d, _), .tableItem key line => do return ((← d.addTable key).setOrigin key ⟨line, false⟩, key)

end Document

def parse (content : Text) : Option Document := do
  let statements ← statements? content
  let (d, _) ← statements.foldlM Document.step ({}, [])
  return d

end JavadocLint.Toml
