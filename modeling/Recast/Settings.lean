import Recast.Dialect.Spec
import Recast.FileTree
import Recast.Journal
import Recast.Toml

set_option autoImplicit false

namespace Recast

structure Environment where
  bindings : List (String × String) := []
  -- Where the platform says that the user lives, if it knows.
  home : Option Path := none

def Environment.lookup (env : Environment) (name : String) : Option String :=
  env.bindings.lookup name

-- The home directory where the variable alone tells it.
def Environment.ofBindings (bindings : List (String × String)) : Environment where
  bindings
  home := ((bindings.lookup "HOME").filter fun home => !home.isEmpty).map Path.mk

instance : Coe (List (String × String)) Environment := ⟨.ofBindings⟩

abbrev Reading := Path → Except FileError ByteArray

structure Settings where
  space : Option String := none
  dialects : List Dialect.Spec := []
  deriving DecidableEq, Repr

namespace Settings

def defaultSpace : String :=
  "FftFlat"

def spaceOrDefault (s : Settings) : String :=
  s.space.getD defaultSpace

def merge (s other : Settings) : Settings where
  space := other.space.or s.space
  dialects := s.dialects ++ other.dialects

def outputOfData? (d : Data) : Option (Option String) := do
  match ← d.parts? false ["namespace"] with
  | [space] => Data.optional none (·.text?.map some) space
  | _ => none

def ofData? (d : Data) : Option Settings := do
  match ← d.parts? false ["output", "dialects"] with
  | [output, dialects] =>
    return {
      space := ← Data.optional none outputOfData? output
      dialects := ← Data.optional []
        (·.list?.bind (·.mapM (Dialect.Spec.ofData? false))) dialects }
  | _ => none

def ofText? (text : String) : Option Settings :=
  (Toml.read? text).bind ofData?

-- The file of the user. A variable that is set to nothing still counts as set.
def userPath? (env : Environment) : Option Path :=
  let below (directory : Path) : Path := (directory.join ⟨"numport"⟩).join ⟨"config.toml"⟩
  match env.lookup "XDG_CONFIG_HOME" with
  | some directory => some (below ⟨directory⟩)
  | none => env.home.map fun home => below (home.join ⟨".config"⟩)

def projectPath (root : Path) : Path :=
  (root.join ⟨".numport"⟩).join ⟨"config.toml"⟩

-- The settings of a file, and what is reported of it. A file that cannot be read is passed over in
-- silence.
def readFile (read : Reading) (path : Path) : Option Settings × List Event :=
  let event (level : Level) (message : String) : Event :=
    ⟨level, "numport::config", message, [("path", path.text)]⟩
  match (read path).bind decodeText with
  | .error _ => (none, [])
  | .ok text =>
    match ofText? text with
    | some s => (some s, [event .debug "loaded config"])
    | none => (none, [event .warn "ignoring invalid config"])

def load (read : Reading) (env : Environment) (root : Path) : Settings × List Event :=
  let (user, userEvents) := ((userPath? env).map (readFile read)).getD (none, [])
  let (project, projectEvents) := readFile read (projectPath root)
  (merge (merge {} (user.getD {})) (project.getD {}), userEvents ++ projectEvents)

def registerAll (c : Catalog) : List Dialect.Spec → Catalog × Traced Dialect.Spec.Error Unit
  | [] => (c, pure ())
  | s :: rest =>
    match s.compile with
    | .error e => (c, .of (.error e))
    | .ok d =>
      let (after, done) := registerAll (c.register d) rest
      (after, ⟨c.fillEvents ++ Catalog.registered d :: done.events, done.result⟩)

def register (s : Settings) (c : Catalog) : Catalog × Traced Dialect.Spec.Error Unit :=
  registerAll c s.dialects

def faultMessage (e : Dialect.Spec.Error) : String :=
  "invalid dialect `" ++ e.dialect ++ "` in config: " ++ e.message

end Settings

end Recast
