import HttpClient.Auth.Realm
import HttpClient.Redirect

/-!
# Client settings

What a client is configured with, and the setters that lead there. A value that is refused is
remembered until the client is built, and limits of zero are refused then. Durations are in
milliseconds, and an absent one means that there is no limit.
-/

namespace HttpClient

/-- Limits and lifetimes of the connection pool. -/
structure PoolSettings where
  maxConnections : Option Nat := none
  maxPerHost : Option Nat := none
  idleTimeout : Option Nat := some 60000
  connectionTtl : Option Nat := none
  /-- All targets are looked through for expired connections at most this often. -/
  cleanerPeriod : Nat := 1000
  /-- How long to wait for capacity; absent means not at all. -/
  acquireTimeout : Option Nat := none
  allowPooling : Bool := true
  allowPoolingSecure : Bool := true
  deriving DecidableEq, Repr

/-- What a client is configured with. -/
structure Settings where
  pool : PoolSettings := {}
  connectTimeout : Option Nat := some 5000
  readTimeout : Option Nat := some 60000
  requestTimeout : Option Nat := some 60000
  followRedirect : Bool := false
  maxRedirects : Nat := 5
  redirect : Option RedirectPolicy := none
  strict302 : Bool := false
  maxRequestRetry : Nat := 5
  maxAuthRetries : Nat := 4
  userAgent : Option HeaderValue := some (.ofAscii "courier/0.1.0")
  realm : Option Realm := none
  noDelay : Bool := true

/-- The redirect policy of requests that name none. -/
def Settings.redirectPolicy (s : Settings) : RedirectPolicy :=
  match s.redirect with
  | some policy => policy
  | none => if s.followRedirect then .limited s.maxRedirects else .none

/-- One setting. -/
inductive Setting
  | userAgent (bytes : Bytes)
  | noUserAgent
  | realm (realm : Realm)
  | followRedirect (enable : Bool)
  | maxRedirects (max : Nat)
  | redirect (policy : RedirectPolicy)
  | strict302 (enable : Bool)
  | maxRequestRetry (max : Nat)
  | maxAuthRetries (max : Nat)
  | requestTimeout (millis : Option Nat)
  | readTimeout (millis : Option Nat)
  | connectTimeout (millis : Option Nat)
  | maxConnections (max : Nat)
  | maxPerHost (max : Nat)
  | idleTimeout (millis : Option Nat)
  | connectionTtl (millis : Option Nat)
  | cleanerPeriod (millis : Nat)
  | acquireTimeout (millis : Option Nat)
  | allowPooling (enable : Bool)
  | allowPoolingSecure (enable : Bool)
  | noDelay (enable : Bool)

/-- Settings being made, and what is wrong with them. -/
structure SettingsBuilder where
  settings : Settings := {}
  error : Option Error := none

namespace SettingsBuilder

/-- Changes the settings. -/
def update (b : SettingsBuilder) (f : Settings → Settings) : SettingsBuilder :=
  { b with settings := f b.settings }

/-- Changes the settings of the pool. -/
def updatePool (b : SettingsBuilder) (f : PoolSettings → PoolSettings) : SettingsBuilder :=
  b.update fun s => { s with pool := f s.pool }

/-- Makes one setting. -/
def set (b : SettingsBuilder) : Setting → SettingsBuilder
  | .userAgent bytes =>
    match HeaderValue.ofBytes bytes with
    | .ok value => b.update fun s => { s with userAgent := some value }
    | .error reason => { b with error := some (.of .builder (.badHead reason)) }
  | .noUserAgent => b.update fun s => { s with userAgent := none }
  | .realm realm => b.update fun s => { s with realm := some realm }
  | .followRedirect enable => b.update fun s => { s with followRedirect := enable }
  | .maxRedirects max => b.update fun s => { s with maxRedirects := max }
  | .redirect policy => b.update fun s => { s with redirect := some policy }
  | .strict302 enable => b.update fun s => { s with strict302 := enable }
  | .maxRequestRetry max => b.update fun s => { s with maxRequestRetry := max }
  | .maxAuthRetries max => b.update fun s => { s with maxAuthRetries := max }
  | .requestTimeout millis => b.update fun s => { s with requestTimeout := millis }
  | .readTimeout millis => b.update fun s => { s with readTimeout := millis }
  | .connectTimeout millis => b.update fun s => { s with connectTimeout := millis }
  | .maxConnections max => b.updatePool fun p => { p with maxConnections := some max }
  | .maxPerHost max => b.updatePool fun p => { p with maxPerHost := some max }
  | .idleTimeout millis => b.updatePool fun p => { p with idleTimeout := millis }
  | .connectionTtl millis => b.updatePool fun p => { p with connectionTtl := millis }
  | .cleanerPeriod millis => b.updatePool fun p => { p with cleanerPeriod := millis }
  | .acquireTimeout millis => b.updatePool fun p => { p with acquireTimeout := millis }
  | .allowPooling enable => b.updatePool fun p => { p with allowPooling := enable }
  | .allowPoolingSecure enable => b.updatePool fun p => { p with allowPoolingSecure := enable }
  | .noDelay enable => b.update fun s => { s with noDelay := enable }

/-- The settings, or the first reason why no client can have them. -/
def build (b : SettingsBuilder) : Except Error Settings :=
  match b.error with
  | some error => .error error
  | none =>
    let pool := b.settings.pool
    if pool.maxConnections = some 0 ∨ pool.maxPerHost = some 0 then
      .error (.of .builder (.text "connection limits must be at least 1"))
    else if pool.cleanerPeriod = 0 then
      .error (.of .builder (.text "pool cleaner period must not be zero"))
    else .ok b.settings

end SettingsBuilder

/-- The settings that a list of setters leads to. -/
def Settings.build (setters : List Setting) : Except Error Settings :=
  (setters.foldl SettingsBuilder.set {}).build

end HttpClient
