import ApiAdmission.Reference.Load
import ApiAdmission.Reference.Location
import ApiAdmission.Reference.Scan
import ApiAdmission.Resolver.Basic
import ApiAdmission.Tree.Pointer

/-!
# Replacing references

Every reference of a tree is replaced by what it names, and what it names is treated in the same
way, relative to the document that contains it.  A reference that is met again inside its own
replacement is kept as it is written, which ends every cycle.

A reference without a target is replaced by an empty mapping and leaves a message, each message
once; or, in strict mode, it ends the work.  A document is loaded once: what its first loading gave,
the tree or the reason of the failure, is used from then on.
-/

namespace ApiAdmission.Reference

set_option autoImplicit false

/-- What the work asks of its surroundings. -/
structure Surroundings where
  /-- The location that the document part of a reference names. -/
  locate : Option String → String → Except LocationFault String
  /-- The document at a location. -/
  load : String → Except LoadFault Tree

/-- What a reference without a target does. -/
inductive Mode where
  /-- It leaves a message and an empty mapping. -/
  | collecting
  /-- It ends the work. -/
  | strict
deriving DecidableEq, Repr

/-- What is known from earlier work. -/
structure Memory where
  /-- The loaded documents. -/
  documents : List (String × Tree)
  /-- The failed loadings with their reasons. -/
  failures : List (String × String)
  /-- The messages, each once. -/
  messages : List String
  /-- The locations that were asked for, in order. -/
  requests : List String

/-- The memory before any work. -/
def Memory.empty : Memory := ⟨[], [], [], []⟩

/-- Work on references, which remembers and may fail. -/
abbrev Work (α : Type) := ExceptT Failure (StateM Memory) α

/-! ## Parts of a reference -/

/-- The document part of a reference and its pointer. -/
def cut (reference : String) : String × String :=
  let (document, pointer) := Text.cutAt '#' reference.toList
  (String.ofList document, String.ofList (pointer.getD []))

/-- The key of a reference: where its document is and its pointer. -/
def cycleKey (location : Option String) (pointer : String) : String :=
  location.getD "" ++ "#" ++ pointer

/-! ## Faults -/

/-- The message about a document that cannot be loaded. -/
def loadMessage (reference reason : String) : String :=
  "Unable to load remote reference " ++ reference ++ ": " ++ reason

/-- The message about a pointer without a target. -/
def pointerMessage (reference reason : String) : String :=
  "reference " ++ reference ++ " could not be resolved: " ++ reason

/-- What stands for a reference that has no target, or the end of the work. -/
def fail (mode : Mode) (failure : String → Failure) (message : String) : Work Tree :=
  match mode with
  | .strict => throw (failure message)
  | .collecting => do
    modify fun memory => { memory with messages := addNew memory.messages message }
    return .mapping []

/-! ## Loading once -/

/-- The document at a location, or the reason why there is none. -/
def loadOnce (surroundings : Surroundings) (location : String) : Work (Except String Tree) := do
  let memory ← get
  match Tree.lookup? location memory.documents with
  | some tree => return .ok tree
  | none =>
    match (memory.failures.find? fun failure => failure.1 == location).map Prod.snd with
    | some reason => return .error reason
    | none =>
      let memory := { memory with requests := memory.requests ++ [location] }
      match surroundings.load location with
      | .ok tree =>
        set { memory with documents := memory.documents ++ [(location, tree)] }
        return .ok tree
      | .error (.breakdown breakdown) =>
        set memory
        throw (.breakdown breakdown)
      | .error fault =>
        set { memory with failures := memory.failures ++ [(location, fault.reason)] }
        return .error fault.reason

/-- A document with its location. -/
structure Place where
  /-- The document. -/
  root : Tree
  /-- Where it comes from. -/
  location : Option String

/-- The document that a reference in a place names, or the reason why there is none. -/
def target (surroundings : Surroundings) (place : Place) (document : String) :
    Work (Except String Place) := do
  if document == "" then return .ok place
  else
    match surroundings.locate place.location document with
    | .error (.breakdown breakdown) => throw (.breakdown breakdown)
    | .error (.noBase part) =>
      return .error
        ("relative reference " ++ part ++ " has no document location to resolve against")
    | .ok location =>
      match ← loadOnce surroundings location with
      | .ok root => return .ok ⟨root, some location⟩
      | .error reason => return .error reason

/-! ## The walk -/

/-- The reference that a mapping is, by its entries. -/
def referenceOf? (entries : List (String × Tree)) : Option String :=
  (Tree.lookup? key entries).bind Tree.text?

/-- Where a reference leads. -/
inductive Lead where
  /-- Back into a replacement of the same reference. -/
  | back
  /-- To no document, for a reason. -/
  | noDocument (reason : String)
  /-- To no node of its document. -/
  | noNode (fault : PointerFault)
  /-- To a value, with the place of its document and the key of the reference. -/
  | value (there : Place) (key : String) (value : Tree)

/-- Where a reference in a place leads, inside the replacement of references with the given
keys. -/
def lead (surroundings : Surroundings) (place : Place) (seen : List String)
    (reference : String) : Work Lead := do
  let (document, pointer) := cut reference
  match ← target surroundings place document with
  | .error reason => return .noDocument reason
  | .ok there =>
    let key := cycleKey there.location pointer
    if seen.contains key then return .back
    else
      match there.root.follow pointer with
      | .error fault => return .noNode fault
      | .ok value => return .value there key value

/-- What work gives, and what is known after it. -/
abbrev Outcome (α : Type) := Except Failure α × Memory

mutual
/-- Replaces the references of a tree that stands in a place, inside the replacement of references
with the given keys.  Work that never ends gives nothing. -/
def Surroundings.expand (surroundings : Surroundings) (mode : Mode) (place : Place)
    (seen : List String) (tree : Tree) (memory : Memory) : Option (Outcome Tree) :=
  match tree with
  | .mapping entries =>
    match referenceOf? entries with
    | some reference =>
      match (lead surroundings place seen reference).run.run memory with
      | (.error failure, memory) => some (.error failure, memory)
      | (.ok .back, memory) => some (.ok (.mapping entries), memory)
      | (.ok (.noDocument reason), memory) =>
        some ((fail mode .badRemoteReference (loadMessage reference reason)).run.run memory)
      | (.ok (.noNode fault), memory) =>
        some ((fail mode .badReference (pointerMessage reference fault.message)).run.run memory)
      | (.ok (.value there key value), memory) =>
        surroundings |>.expand mode there (key :: seen) value memory
    | none => do
      let (outcome, memory) ← surroundings |>.expandEntries mode place seen entries memory
      return (outcome.map .mapping, memory)
  | .list items => do
    let (outcome, memory) ← surroundings |>.expandItems mode place seen items memory
    return (outcome.map .list, memory)
  | scalar => some (.ok scalar, memory)
partial_fixpoint

/-- Replaces the references of the items of a list. -/
def Surroundings.expandItems (surroundings : Surroundings) (mode : Mode) (place : Place)
    (seen : List String) (items : List Tree) (memory : Memory) : Option (Outcome (List Tree)) :=
  match items with
  | [] => some (.ok [], memory)
  | item :: rest => do
    match ← surroundings |>.expand mode place seen item memory with
    | (.error failure, memory) => return (.error failure, memory)
    | (.ok item, memory) =>
      let (outcome, memory) ← surroundings |>.expandItems mode place seen rest memory
      return (outcome.map (item :: ·), memory)
partial_fixpoint

/-- Replaces the references of the values of the entries of a mapping. -/
def Surroundings.expandEntries (surroundings : Surroundings) (mode : Mode) (place : Place)
    (seen : List String) (entries : List (String × Tree)) (memory : Memory) :
    Option (Outcome (List (String × Tree))) :=
  match entries with
  | [] => some (.ok [], memory)
  | (name, value) :: rest => do
    match ← surroundings |>.expand mode place seen value memory with
    | (.error failure, memory) => return (.error failure, memory)
    | (.ok value, memory) =>
      let (outcome, memory) ← surroundings |>.expandEntries mode place seen rest memory
      return (outcome.map ((name, value) :: ·), memory)
partial_fixpoint
end

/-- Replaces the references of a tree; work that never ends breaks down. -/
def resolve (surroundings : Surroundings) (mode : Mode) (base : Option String) (tree : Tree) :
    Work Tree := fun memory =>
  (surroundings.expand mode ⟨tree, base⟩ [] tree memory).getD (.error (.breakdown .endless), memory)

/-- The tree that collecting mode gives, with its messages. -/
def resolveCollecting (surroundings : Surroundings) (base : Option String) (tree : Tree) :
    Except Failure Tree × List String :=
  let (outcome, memory) := (resolve surroundings .collecting base tree).run.run Memory.empty
  (outcome, memory.messages)

/-- The tree that strict mode gives. -/
def resolveStrictly (surroundings : Surroundings) (base : Option String) (tree : Tree) :
    Except Failure Tree :=
  ((resolve surroundings .strict base tree).run.run Memory.empty).1

end ApiAdmission.Reference
