import Agintor.Lib.Dict
import Agintor.Lib.RoseTree
import Agintor.Lib.Stateful

/-!
# Crossover of policy methods

`search/crossover.py`. A policy file is what `ast.parse` makes of its text, and `ast.unparse` writes
a text with the tree it was given. Expressions hold no class and no function definition, so a node
keeps all but the statements below it as text.
-/

namespace Agintor.Search.Crossover

open Lib

/-- A statement without the statements below it. -/
inductive Kind
  | classDef (name header : String)
  | functionDef (isAsync : Bool) (name header : String)
  /-- Any other statement, or a handler or case of one. -/
  | other (text : String)

abbrev Node := RoseTree Kind

inductive Source
  | module (body : List Node)
  /-- A text that does not parse. -/
  | text (content : String)

abbrev Files := Dict String Source

/-- A runtime directory. `policyClass` has the class that `policy_modules` of the manifest names
for an interface. -/
structure RuntimeDir where
  path : String
  policyClass : Dict String String
  files : Files

abbrev Workspace := Dict String RuntimeDir

inductive Error
  | keyError (key : String)
  | fileNotFound (path : String)
  | syntaxError
  | validation (message : String)

/-- `POLICY_FILE_BY_INTERFACE` -/
def policyFileByInterface : String → Option String
  | "top" => some "topology_policy.py"
  | "mem" => some "memory_policy.py"
  | "tool" => some "tool_policy.py"
  | "ctl" => some "control_policy.py"
  | _ => none

def isClassDef : Kind → Bool
  | .classDef _ _ => true
  | _ => false

def functionName? : Node → Option String
  | .node (.functionDef _ name _) _ => some name
  | _ => none

/-! ## Replacement and extraction -/

/-- The body of a class, with its methods replaced. -/
def replaceMethods (replacements : String → Option Node) (body : List Node) : List Node :=
  body.map fun item =>
    match functionName? item with
    | some name => (replacements name).getD item
    | none => item

/-- `MethodExtractor.visit` of a module: `visit_ClassDef` does not go into the body of a class. -/
def visit (replacements : String → Option Node) (body : List Node) : List Node :=
  RoseTree.editTops isClassDef (replaceMethods replacements) body

/-- The functions with a wanted name directly in a class. -/
def wantedMethods (wanted : List String) : Node → List (String × Node)
  | .node (.classDef _ _) body => body.filterMap fun item =>
      match functionName? item with
      | some name => if name ∈ wanted then some (name, item) else none
      | none => none
  | _ => []

/-- `_extract_methods`, of a parsed file: a later definition takes the place of an earlier one. -/
def extractMethods (body : List Node) (wanted : List String) : Dict String Node :=
  ((RoseTree.walk body).flatMap (wantedMethods wanted)).foldl
    (fun methods (name, item) => methods.set name item) Dict.empty

/-! ## The crossover -/

/-- `ast.parse(path.read_text())` -/
def parse : Source → Except Error (List Node)
  | .module body => .ok body
  | .text _ => .error .syntaxError

/-- The donors that have the file. -/
def donorsWith (fileName : String) (donors : List RuntimeDir) : List (RuntimeDir × Source) :=
  donors.filterMap fun donor => (donor.files.get? fileName).map fun source => (donor, source)

/-- `donors[idx % len(donors)]` -/
def turn {α : Type} (donors : List α) (h : donors ≠ []) (idx : ℕ) : α :=
  donors.get ⟨idx % donors.length, Nat.mod_lt _ (List.length_pos_iff.mpr h)⟩

/-- `method_to_donor`, with the methods from number `idx` on still to come. -/
def chooseMethods (fileName : String) (donors : List (RuntimeDir × Source)) (h : donors ≠ []) :
    ℕ → List String → Dict String Node → Except Error (Dict String Node)
  | _, [], methodToDonor => .ok methodToDonor
  | idx, methodName :: methods, methodToDonor => do
    let (donor, source) := turn donors h idx
    let body ← parse source
    match (extractMethods body [methodName]).get? methodName with
    | none => .error (.validation
        ("donor " ++ donor.path ++ "/" ++ fileName ++ " missing method " ++ methodName))
    | some definition =>
      if methodToDonor.contains methodName then
        .error (.validation ("overlapping method edit " ++ methodName))
      else
        chooseMethods fileName donors h (idx + 1) methods (methodToDonor.set methodName definition)

/-- One round of the loop over the interfaces, on the files of the child. -/
def graftInterface (childPath : String) (donors : List RuntimeDir) (files : Files) :
    String × List String → Except Error Files
  | (interface, methods) =>
    match policyFileByInterface interface with
    | none => .error (.keyError interface)
    | some fileName =>
      if h : donorsWith fileName donors = [] then .ok files
      else do
        let methodToDonor ← chooseMethods fileName (donorsWith fileName donors) h 0 methods .empty
        match files.get? fileName with
        | none => .error (.fileNotFound (childPath ++ "/" ++ fileName))
        | some source =>
          let tree ← parse source
          return files.set fileName (.module (visit methodToDonor.get? tree))

/-- The loop. The files written before an error stay written. -/
def graftInterfaces (childPath : String) (donors : List RuntimeDir)
    (interfaceMethods : List (String × List String)) : Stateful Files Error Unit :=
  interfaceMethods.forM fun entry => .atomically fun files =>
    (graftInterface childPath donors files entry).map fun files => ((), files)

section

variable (stableHash : String → List String → Dict String (List String) → String)

def childName (base : RuntimeDir) (donors : List RuntimeDir)
    (interfaceMethods : Dict String (List String)) : String :=
  "xover_" ++ ((stableHash base.path (donors.map (·.path)) interfaceMethods).take 10).toString

/-- `crossover_runtime`: what an earlier crossover left under the name of the child is removed, and
the base is copied there. -/
def crossoverRuntime (base : RuntimeDir) (donors : List RuntimeDir)
    (interfaceMethods : Dict String (List String)) : Stateful Workspace Error String :=
  fun workspace =>
    let name := childName stableHash base donors interfaceMethods
    let (outcome, files) := graftInterfaces name donors interfaceMethods.entries base.files
    (outcome.map fun _ => name,
      (workspace.erase name).set name { base with path := name, files })

end

end Agintor.Search.Crossover
