import ImagePrompt.Document.Basic
import ImagePrompt.Picture.Basic
import ImagePrompt.Text.Blank
/-!
# Files for declarations

Which of the supplied files satisfies which declaration. A declaration that
names a file takes it; the others take the files that are left, in order; what
is then still left comes last. Declarations and files are of any kind here, and
naming is any relation between them.
-/

namespace ImagePrompt

namespace Assignment

variable {α β : Type}

/-- The position of the first file that is not taken and suits. -/
def firstFree? (suits : β → Bool) (files : List β) (taken : List Nat) : Option Nat :=
  (files.zipIdx.find? fun (file, i) => !taken.contains i && suits file).map Prod.snd

/-- The first pass: every declaration that names a file which is not taken takes the first. -/
def byName (named : α → β → Bool) (files : List β) (taken : List Nat) :
    List α → List (α × Option Nat)
  | [] => []
  | d :: rest =>
    match firstFree? (named d) files taken with
    | some i => (d, some i) :: byName named files (i :: taken) rest
    | none => (d, none) :: byName named files taken rest

/-- The second pass: every declaration without a file takes the first that is not taken. Fails
with the first declaration that finds none. -/
def byPosition (files : List β) (taken : List Nat) :
    List (α × Option Nat) → Except α (List (α × Nat))
  | [] => .ok []
  | (d, some i) :: rest => (byPosition files taken rest).map ((d, i) :: ·)
  | (d, none) :: rest =>
    match firstFree? (fun _ => true) files taken with
    | some i => (byPosition files (i :: taken) rest).map ((d, i) :: ·)
    | none => .error d

def positions (pairs : List (α × Option Nat)) : List Nat := pairs.filterMap Prod.snd

def assign (named : α → β → Bool) (files : List β) (declared : List α) :
    Except α (List (α × Nat)) :=
  let pairs := byName named files [] declared
  byPosition files (positions pairs) pairs

def leftovers (files : List β) (assigned : List (α × Nat)) : List Nat :=
  (List.range files.length).filter fun i => !(assigned.map Prod.snd).contains i

end Assignment

/-- A supplied file, by its position, and the label of the declaration that it satisfies. -/
structure Binding where
  position : Nat
  declaredAs : Option String
  deriving DecidableEq, Repr

namespace Binding

/-- The bindings of an assignment, those of the files left over at the end. -/
def ofAssignment (files : List String) (assigned : List (DeclaredImage × Nat)) : List Binding :=
  assigned.map (fun (d, i) => ⟨i, some d.origin.label⟩) ++
    (Assignment.leftovers files assigned).map (⟨·, none⟩)

def bindBy (named : DeclaredImage → String → Bool) (declared : List DeclaredImage)
    (supplied : List String) : Except Failure (List Binding) :=
  match Assignment.assign named supplied declared with
  | .ok assigned => .ok (ofAssignment supplied assigned)
  | .error d => .error (.missingFile d.image.path d.origin.label supplied.length)

/-- A declared image names a file: its path, without blanks around it, leads there. -/
def names (fs : FileSystem) (d : DeclaredImage) (file : String) : Bool :=
  fs.sameFile (Text.trim d.image.path) file

def bind (fs : FileSystem) (declared : List DeclaredImage) (supplied : List String) :
    Except Failure (List Binding) :=
  bindBy (names fs) declared supplied

end Binding

namespace LoadedImage

def ofBinding (fs : FileSystem) (supplied : List String) (b : Binding) :
    Except Failure LoadedImage :=
  (load fs (supplied.getD b.position "")).map fun image => { image with declaredAs := b.declaredAs }

/-- Reads the supplied files, in the order of the declarations that they satisfy. -/
def loadAll (fs : FileSystem) (declared : List DeclaredImage) (supplied : List String) :
    Except Failure (List LoadedImage) := do
  let bindings ← Binding.bind fs declared supplied
  bindings.mapM (ofBinding fs supplied)

end LoadedImage

end ImagePrompt
