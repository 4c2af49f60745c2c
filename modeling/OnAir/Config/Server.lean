import OnAir.Config.Settings

/-!
# The server

How the server in front of the application is started. All of it follows from the settings but for
the interface between the two.
-/

namespace OnAir

structure Server where
  interface : String
  address : String
  listensAt : Int
  workers : Int
  reloads : Bool
  deriving DecidableEq, Repr

/-- The server for some settings. Code is reloaded while debugging. -/
def Settings.server (settings : Settings) : Server where
  interface := "asgi"
  address := settings.apiHost
  listensAt := settings.apiPort
  workers := settings.apiWorkers
  reloads := settings.debug

end OnAir
