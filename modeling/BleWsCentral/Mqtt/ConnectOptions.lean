import BleWsCentral.Found.Run

/-!
# Connection options

`ConnectOptions::new`, from the url of a server. A url is what the crate `url` makes of it.

* `Scheme`, `Ssl`, `ConnectOptions` — the options and what they are made of.
* `ConnectOptions.new` — with `OptionsError` for what it refuses and for what it panics with.
-/

namespace BleWsCentral.Mqtt

open BleWsCentral.Found

/-- `url::Url`, as far as it is looked at. -/
structure Url where
  scheme : String
  host : Option String
  port : Option UInt16
  username : String
  password : Option String
deriving DecidableEq

/-- `Scheme`. -/
inductive Scheme
  | mqtt
  | mqttS (caPem : List UInt8) (domain : String)
deriving DecidableEq

/-- `Ssl`. -/
inductive Ssl
  | none
  | withCert (cert : List UInt8)
deriving DecidableEq

/-- `ConnectOptions`. -/
structure ConnectOptions where
  host : String
  port : UInt16
  username : Option String
  password : Option String
  scheme : Scheme
deriving DecidableEq

/-- What `ConnectOptions::new` ends with otherwise. -/
inductive OptionsError
  /-- `Error::InvalidUrl` -/
  | invalidUrl (url : Url)
  /-- `panic!()`, without a certificate -/
  | noCert
  /-- `unwrap()` on a name that `DNSNameRef::try_from_ascii_str` does not accept -/
  | dnsName (host : String)
deriving DecidableEq

namespace ConnectOptions

/-- The port and the scheme. -/
def portScheme (dnsName : String → Bool) (url : Url) (ssl : Ssl) (host : String) :
    Except OptionsError (UInt16 × Scheme) :=
  if url.scheme = "mqtt" then .ok (1883, .mqtt)
  else if url.scheme = "mqtts" then
    match ssl with
    | .none => .error .noCert
    | .withCert cert =>
        if dnsName host then .ok (8883, .mqttS cert host) else .error (.dnsName host)
  else .error (.invalidUrl url)

/-- `ConnectOptions::new`; `dnsName` says which names `DNSNameRef::try_from_ascii_str` accepts. -/
def new (dnsName : String → Bool) (url : Url) (ssl : Ssl) : Except OptionsError ConnectOptions := do
  let host ← url.host.elim (.error (.invalidUrl url)) .ok
  let (port, scheme) ← portScheme dnsName url ssl host
  .ok {
    port := url.port.getD port
    host
    username := if url.username = "" then none else some url.username
    password := url.password
    scheme }

/-- It does not panic for want of a certificate if there is one for the scheme `mqtts`. -/
theorem new_ne_noCert {dnsName : String → Bool} {url : Url} {ssl : Ssl}
    (h : url.scheme = "mqtts" → ssl ≠ .none) : new dnsName url ssl ≠ .error .noCert := by
  intro hfail
  rcases bind_eq_error.mp hfail with hhost | ⟨host, -, hfail⟩
  · cases hurl : url.host <;> simp [hurl] at hhost
  · rcases bind_eq_error.mp hfail with hscheme | ⟨r, -, hfail⟩
    · unfold portScheme at hscheme
      split at hscheme
      · cases hscheme
      · split at hscheme
        · rename_i hmqtts
          split at hscheme
          · exact h hmqtts rfl
          · split at hscheme <;> cases hscheme
        · cases hscheme
    · cases hfail

end ConnectOptions

end BleWsCentral.Mqtt
