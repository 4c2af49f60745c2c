import OnAir.App.Basic

/-!
# From start to end

The application starts by reading its settings, opening its pool and creating the tables; it ends
by closing the pool.
-/

namespace OnAir.App

inductive StartError
  | settings (e : Settings.ReadError)
  | store (e : Store.StoreError)
  | registry (e : Channel.RegistryError)
  deriving DecidableEq, Repr

def warn {ε : Type} (settings : Settings) : Act ε Unit := do
  unless settings.loginConfigured do
    Act.note .warning "OAUTH_CLIENT_ID is not set, login endpoints will answer 400"
  unless settings.cookiesConfigured do
    Act.note .warning "COOKIE_SECRET is not set, login is disabled"

def start (config : Config) (environ : List (String × String)) : Act StartError App := do
  let settings ← Act.ofExcept ((Settings.ofConfig config).mapError .settings)
  let app := make settings config.storeUrl environ
  Act.note .info "Application startup..."
  warn settings
  app.pool.openPool.mapError .store
  Channel.Registry.initSchema.mapError .registry
  return app

def stop {ε : Type} (app : App) : Act ε Unit := do
  Act.note .info "Application shutdown..."
  app.pool.closePool

end OnAir.App
