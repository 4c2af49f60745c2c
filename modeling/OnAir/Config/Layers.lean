import OnAir.Config.EnvFile

/-!
# Layered configuration

The configuration is a list of named values. A committed example file comes first, a local file
overrides it, and the process environment overrides both. A name keeps the place at which it first
came.
-/

namespace OnAir

/-- Named values; a name that a file gives without an equals sign has none. -/
abbrev Config := List (String × Option String)

namespace Config

def put : Config → String → Option String → Config
  | [], name, value => [(name, value)]
  | entry :: rest, name, value =>
    if entry.1 = name then (name, value) :: rest else entry :: put rest name value

def override (config layer : Config) : Config :=
  layer.foldl (fun config (name, value) => put config name value) config

def contains (config : Config) (name : String) : Bool :=
  (config.lookup name).isSome

def get? (config : Config) (name : String) : Option String :=
  (config.lookup name).join

def text (config : Config) (name : String) : String :=
  (config.get? name).getD ""

/-- The value of a name that must be given, or the message of its absence. -/
def require (config : Config) (name : String) : Except String (Option String) :=
  match config.lookup name with
  | some value => .ok value
  | none => .error ("Configuration key '" ++ name ++ "' not found")

/-- Sets the bindings of a file one by one. References see the process environment, overridden by
what the file has set before. -/
def ofBindings (environ : List (String × String)) (bindings : List EnvFile.Binding) : Config :=
  bindings.foldl (fun config (name, value) =>
    let lookup := fun other =>
      match config.lookup other with
      | some value => some (value.getD "")
      | none => environ.lookup other
    put config name (value.map fun v => String.ofList (EnvFile.expand lookup v.toList))) []

def ofFile (environ : List (String × String)) (contents : String) : Config :=
  let text := match contents.toList with
    | '\uFEFF' :: rest => rest
    | text => text
  ofBindings environ (EnvFile.scanAll (EnvFile.unifyLineEnds text))

/-- The configuration of two files, either of which may be absent, and the process environment. -/
def load (example? local? : Option String) (environ : List (String × String)) : Config :=
  let layer (file : Option String) : Config := file.elim [] (ofFile environ)
  ((override [] (layer example?)).override (layer local?)).override
    (environ.map fun (name, value) => (name, some value))

end Config
end OnAir
