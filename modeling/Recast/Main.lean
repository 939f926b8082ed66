import Recast.Session

set_option autoImplicit false

namespace Recast.Main

def fileError : IO.Error → FileError
  | .noFileOrDirectory .. => .notFound
  | .alreadyExists .. => .alreadyExists
  | .inappropriateType _ code _ => if code = 21 || code = -21 then .isDirectory else .notDirectory
  | e => .other (toString e)

def attempt {α : Type} (action : IO α) : IO (Except FileError α) := do
  match ← action.toBaseIO with
  | .ok a => return .ok a
  | .error e => return .error (fileError e)

def environment : IO Environment := do
  let mut found := []
  for name in ["XDG_CONFIG_HOME", "HOME", "RUST_LOG"] do
    if let some value ← IO.getEnv name then found := (name, value) :: found
  return found

def reading (paths : List Path) : IO Reading := do
  let contents ← paths.mapM fun path => return (path, ← attempt (IO.FS.readBinFile path.text))
  return fun path => (contents.lookup path).getD (.error .notFound)

def writeDocument (path : Path) (doc : Document) : IO (Except Failure Unit) := do
  let written ← attempt (IO.FS.writeBinFile path.text (Text.unlines doc.lines).toUTF8)
  return written.mapError (.unwritable path)

def installFiles (directory : Path) : List SupportFile → IO (Except Failure Unit)
  | [] => return .ok ()
  | file :: rest => do
    let path := directory.join ⟨file.name⟩
    match ← writeDocument path file.document with
    | .error e => return .error e
    | .ok () =>
      IO.println path.text
      installFiles directory rest

def perform : Action → IO (Traced Failure Unit)
  | .print text => do
    IO.print text
    return pure ()
  | .save path doc report => do
    match ← writeDocument path doc with
    | .error e => return .of (.error e)
    | .ok () => return ⟨[report], .ok ()⟩
  | .install directory files => do
    match ← attempt (IO.FS.createDirAll directory.text) with
    | .error e => return .of (.error (.noDirectory directory e))
    | .ok () => return .of (← installFiles directory files)

def command (env : Environment) (i : Invocation) : IO (Traced Failure Unit) := do
  let planned := Session.plan (← reading (Session.sources env i)) env i
  match planned.result with
  | .error e => return ⟨planned.events, .error e⟩
  | .ok action =>
    let done ← perform action
    return ⟨planned.events ++ done.events, done.result⟩

def run (arguments : List String) : IO UInt32 := do
  match Invocation.ofArguments arguments with
  | .error stop =>
    let (stdout, stderr) := Session.stopText stop
    IO.print stdout
    IO.eprint stderr
    return (Session.stopCode stop).toUInt32
  | .ok i =>
    let env ← environment
    let outcome ← command env i
    for line in Session.messages (Session.logFilter env i) outcome do IO.eprintln line
    return (Session.exitCode outcome).toUInt32

end Recast.Main

def main (arguments : List String) : IO UInt32 :=
  Recast.Main.run arguments
