import Gatehouse.Config
import Gatehouse.Yaml.Grammar
import Gatehouse.Yaml.Scalar

/-! # Configurations as YAML documents

    A section is a mapping whose absent fields take their defaults and whose other entries
    are ignored.  A text field takes the text of any scalar; nothing at all stands for an
    empty section or list.

    The entries are read in the order of the text and the first mistake met is told, with the
    path to it.  A document that breaks off is read up to that place. -/

namespace Gatehouse

namespace Config.OfYaml

open Yaml

/-! ## Mistakes -/

/-- A step from a collection to one of its nodes. -/
inductive Step where
  | key (name : String)
  /-- A key that is not written where it is used. -/
  | unknown
  | index (n : Nat)
  deriving DecidableEq, Repr

/-- The way from the root to a node. -/
abbrev Path := List Step

/-- The steps of a path, joined; the root alone is a point. -/
def Path.words (p : Path) : String :=
  let under (parent : Option String) (s : String) : String :=
    match parent with
    | none   => s
    | some p => p ++ "." ++ s
  let joined := p.foldl (fun (parent : Option String) step =>
    some (match step with
      | .key name => under parent name
      | .unknown  => under parent "?"
      | .index n  => parent.getD "." ++ "[" ++ toString n ++ "]")) none
  joined.getD "."

/-- What is wrong with a document. -/
inductive Mistake where
  /-- It breaks off before its shape could be told. -/
  | broken
  | shape (path : Path) (error : ShapeError) (mark : Mark)

/-- The mistake in words, without its place. -/
def shapeMessage (path : Path) (error : ShapeError) : String :=
  (if path.isEmpty then "" else Path.words path ++ ": ") ++ error.message .yaml

/-! ## Nodes of a document -/

/-- Where a reader stands: the document, and the path and the place of the node. -/
structure Place where
  root : Node
  path : Path

def Place.under (p : Place) (step : Step) : Place := { p with path := p.path ++ [step] }

/-- A node read as something. -/
abbrev Read (α : Type) := Place → Node → Except Mistake α

/-- The node that is meant: that of its slot for an alias, else the node itself. -/
def Place.meant (p : Place) : Node → Node
  | .alias slot _ => (p.root.inSlot? slot).getD .missing
  | n             => n

def markOf : Node → Mark
  | .missing         => .start
  | .alias _ m       => m
  | .scalar p _ _    => p.mark
  | .sequence p _ _  => p.mark
  | .mapping p _ _   => p.mark

/-- The complaint about a node where something else was expected. -/
def mistaken {α : Type} (expected : String) : Read α := fun p n =>
  match n with
  | .scalar q text style => .error (.shape p.path (Scalar.mistaken q.tag text style expected) q.mark)
  | .sequence q _ _      => .error (.shape p.path (.invalidType .sequence expected) q.mark)
  | .mapping q _ _       => .error (.shape p.path (.invalidType .map expected) q.mark)
  | _                    => .error .broken

/-- Nothing was written for the node. -/
def isNothing : Node → Bool
  | .scalar _ text style => text.isEmpty && style = .plain
  | _                    => false

/-! ## Plain values -/

/-- The text of a scalar. -/
def textOr (expected : String) : Read String := fun p n =>
  match p.meant n with
  | .scalar _ text _ => .ok text
  | n                => mistaken expected p n

def text : Read String := textOr "a string"

/-- An integer from zero to `bound`, which may be written in no other way than plainly, or
    literally with its tag. -/
def natural (expected : String) (bound : Nat) : Read Nat := fun p n =>
  match p.meant n with
  | .scalar q text style =>
    let asInteger := style = .plain ∨ (style = .literal ∧ q.tag = some Scalar.intTag)
    match (if asInteger then Scalar.natural? text.toList else none) with
    | some k =>
      if k ≤ bound then .ok k
      else if k < UInt64.size then .error (.shape p.path (.invalidValue (.integer k) expected) q.mark)
      else mistaken expected p (.scalar q text style)
    | none   => mistaken expected p (.scalar q text style)
  | n                    => mistaken expected p n

def word32 : Read UInt32 := fun p n => (natural "u32" (UInt32.size - 1) p n).map UInt32.ofNat

def word64 : Read UInt64 := fun p n => (natural "u64" (UInt64.size - 1) p n).map UInt64.ofNat

/-- The items of a sequence from the given index on. -/
def items (read : Read String) (p : Place) (index : Nat) : List Node → Except Mistake (List String)
  | []      => .ok []
  | n :: ns => do
    let first ← read (p.under (.index index)) n
    return first :: (← items read p (index + 1) ns)

/-- A sequence of texts. -/
def texts : Read (List String) := fun p n =>
  match p.meant n with
  | .sequence _ ns whole => do
    let found ← items text p 0 ns
    if whole then return found else .error .broken
  | n                    => if isNothing n then .ok [] else mistaken "a sequence" p n

/-! ## Mappings -/

/-- The step to the value of a key. -/
def stepTo : Node → Step
  | .scalar _ text _ => .key text
  | _                => .unknown

/-- Reads the entries of a mapping one after another; `entry` takes the text of a key and its
    value and changes what was read before. -/
def entries {σ : Type} (expected : String) (entry : σ → String → Read σ) (p : Place) (found : σ) :
    List (Node × Node) → Except Mistake σ
  | []             => .ok found
  | (k, v) :: rest => do
    let key ← textOr expected p k
    let found ← entry found key (p.under (stepTo k)) v
    entries expected entry p found rest

/-- An entry that nobody asked for has to be there as a whole. -/
def ignored {σ : Type} (found : σ) : Read σ := fun _ n =>
  if n.isWhole then .ok found else .error .broken

/-- A mapping of texts; of two entries with one key the later one stays. -/
def directory : Read (Directory String) := fun p n =>
  match p.meant n with
  | .mapping _ es whole => do
    let found ← entries "a string"
      (fun d key p v => (text p v).map fun t => Directory.insert d key t) p Directory.empty es
    if whole then return found else .error .broken
  | n                   => if isNothing n then .ok Directory.empty else mistaken "a map" p n

/-! ## Sections -/

/-- A mistake in the section itself, not in one of its fields. -/
structure Section where
  path : Path
  mark : Mark

def Section.fails {α : Type} (s : Section) (e : ShapeError) : Except Mistake α :=
  .error (.shape s.path e s.mark)

/-- Reads a field that has not been read before. -/
def once {α σ : Type} (s : Section) (name : String) (before : Option α) (read : Except Mistake α)
    (set : α → σ) : Except Mistake σ :=
  if before.isSome then s.fails (.duplicateField name) else read.map set

/-- Reads a section: its entries, and then what they give. -/
def sectionOf {σ α : Type} (name : String) (start : σ) (entry : Section → σ → String → Read σ)
    (finish : Section → σ → Except Mistake α) : Read α := fun p n =>
  match p.meant n with
  | .mapping q es whole => do
    let s : Section := ⟨p.path, q.mark⟩
    let found ← entries "field identifier" (entry s) p start es
    if whole then finish s found else .error .broken
  | n                   =>
    if isNothing n then finish ⟨p.path, markOf n⟩ start else mistaken ("struct " ++ name) p n

def server : Read ServerSection :=
  sectionOf "ServerConfig" (none : Option String)
    (fun s found key p v =>
      match key with
      | "listen" => once s key found (text p v) some
      | _        => ignored found p v)
    (fun _ found => .ok ⟨found.getD ServerSection.defaults.listen⟩)

/-- The fields of the routing section that were read. -/
structure RoutingFields where
  trusted : Option (List String) := none
  files   : Option (List String) := none

def routing : Read RoutingSection :=
  sectionOf "RoutingConfig" ({} : RoutingFields)
    (fun s found key p v =>
      match key with
      | "trusted_fingerprints" =>
        once s key found.trusted (texts p v) fun t => { found with trusted := some t }
      | "host_key_files"       =>
        once s key found.files (texts p v) fun t => { found with files := some t }
      | _                      => ignored found p v)
    (fun _ found => .ok ⟨found.trusted.getD [], found.files.getD []⟩)

/-- The fields of the database section that were read. -/
structure DatabaseFields where
  url     : Option String := none
  max     : Option UInt32 := none
  timeout : Option UInt64 := none

def database : Read DatabaseSection :=
  sectionOf "PostgresConfig" ({} : DatabaseFields)
    (fun s found key p v =>
      match key with
      | "url_env"         => once s key found.url (text p v) fun t => { found with url := some t }
      | "max_connections" =>
        once s key found.max (word32 p v) fun n => { found with max := some n }
      | "acquire_timeout" =>
        once s key found.timeout (word64 p v) fun n => { found with timeout := some n }
      | _                 => ignored found p v)
    (fun _ found =>
      let d := DatabaseSection.defaults
      .ok ⟨found.url.getD d.urlVariable, found.max.getD d.maxConnections,
        found.timeout.getD d.acquireTimeout⟩)

/-- The name that a tag of the text's own gives, without its mark. -/
def ownTag (tag : Option String) : Option String :=
  match tag.map String.toList with
  | some ('!' :: name) => some (String.ofList name)
  | _                  => none

/-- A backend named by a tag holds nothing. -/
def unit : Read Unit := fun p n =>
  match n with
  | .scalar q text .plain =>
    if text.isEmpty || Scalar.isNull text then .ok ()
    else .error (.shape p.path (.invalidType (Scalar.resolve text) "unit") q.mark)
  | .scalar q text _      => .error (.shape p.path (.invalidType (.string text) "unit") q.mark)
  | n                     => mistaken "unit" p n

/-- A backend: a scalar that names it, or a node with a tag that does.  A tag that names none
    is a mistake of the section around it. -/
def backend (s : Section) : Read Backend := fun p n =>
  let outer : Section :=
    match n with
    | .alias _ m => ⟨p.path, m⟩
    | _          => s
  let tagged (name : String) (n : Node) : Except Mistake Backend :=
    match Backend.ofName name with
    | .error e => outer.fails e
    | .ok b    => (unit p n).map fun _ => b
  let expected := "a YAML tag starting with '!'"
  match p.meant n with
  | .missing            => .error .broken
  | .alias _ _          => .error .broken
  | .scalar q text style =>
    match ownTag q.tag with
    | some name => tagged name (.scalar q text style)
    | none      =>
      match Backend.ofName text with
      | .error e => .error (.shape p.path e q.mark)
      | .ok b    => .ok b
  | .sequence q ns w    =>
    match ownTag q.tag with
    | some name => tagged name (.sequence q ns w)
    | none      => .error (.shape p.path (.invalidType .sequence expected) q.mark)
  | .mapping q es w     =>
    match ownTag q.tag with
    | some name => tagged name (.mapping q es w)
    | none      => .error (.shape p.path (.invalidType .map expected) q.mark)

/-- The database section, which an explicit null or nothing at all leaves out. -/
def optionalDatabase (s : Section) : Read (Option DatabaseSection) := fun p n =>
  match p.meant n with
  | .scalar q text .plain =>
    if q.tag = some Scalar.nullTag then
      if Scalar.isNull text then .ok none else s.fails (.invalidValue (.string text) "null")
    else if q.tag.isNone && (text.isEmpty || Scalar.isNull text) then .ok none
    else (database p (.scalar q text .plain)).map some
  | n                     => (database p n).map some

/-- The fields of the store section that were read. -/
structure StoreFields where
  backend  : Option Backend := none
  database : Option (Option DatabaseSection) := none
  users    : Option (Directory String) := none

def store : Read StoreSection :=
  sectionOf "StoreConfig" ({} : StoreFields)
    (fun s found key p v =>
      match key with
      | "backend"  => once s key found.backend (backend s p v) fun b => { found with backend := some b }
      | "postgres" =>
        once s key found.database (optionalDatabase s p v) fun d => { found with database := some d }
      | "users"    => once s key found.users (directory p v) fun d => { found with users := some d }
      | _          => ignored found p v)
    (fun _ found =>
      .ok ⟨found.backend.getD StoreSection.defaults.backend, found.database.getD none,
        found.users.getD Directory.empty⟩)

/-- The sections that were read. -/
structure Sections where
  server  : Option ServerSection := none
  routing : Option RoutingSection := none
  store   : Option StoreSection := none

def config : Read Config :=
  sectionOf "Config" ({} : Sections)
    (fun s found key p v =>
      match key with
      | "server"  => once s key found.server (server p v) fun x => { found with server := some x }
      | "routing" => once s key found.routing (routing p v) fun x => { found with routing := some x }
      | "store"   => once s key found.store (store p v) fun x => { found with store := some x }
      | _         => ignored found p v)
    (fun s found =>
      match found.store with
      | none       => s.fails (.missingField "store")
      | some store =>
        .ok ⟨found.server.getD .defaults, found.routing.getD .defaults, store⟩)

end Config.OfYaml

/-- Why a text gives no configuration. -/
inductive Config.YamlError where
  /-- The text is no single YAML document. -/
  | malformed (fault : Yaml.Fault)
  | shape (path : Config.OfYaml.Path) (error : ShapeError) (mark : Yaml.Mark)

/-- The error with its place. -/
def Config.YamlError.message : Config.YamlError → String
  | .malformed fault       => fault.message
  | .shape path error mark =>
    Config.OfYaml.shapeMessage path error
      ++ (if mark.isTold then " at " ++ mark.words else "")

/-- The configuration that a YAML text describes. -/
def Config.ofYaml (text : String) : Except Config.YamlError Config :=
  let document := Yaml.Document.ofText text
  let unknown : Yaml.Fault := { problem := .endOfStream, mark := .start }
  match Config.OfYaml.config ⟨document.root, []⟩ document.root with
  | .error .broken                  => .error (.malformed (document.fault.getD unknown))
  | .error (.shape path error mark) => .error (.shape path error mark)
  | .ok config                      =>
    match document.fault with
    | some fault => .error (.malformed fault)
    | none       => .ok config

end Gatehouse
