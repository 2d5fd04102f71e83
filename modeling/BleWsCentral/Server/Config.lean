import BleWsCentral.Found.Text
import BleWsCentral.Mqtt.ConnectOptions

/-!
# Configuration

`Config::from_env`, from what the crate `envy` makes of the environment, and the file with the access token in
the data directory.

* `EnvConfig`, `Io` — what a call of `from_env` starts from.
* `Config.fromEnv` — the configuration or an error, and the files afterwards. A new token is written with one
  `write`, which may take only a part of it.
* `Call.mqttOptions_ne_noCert` — it does not panic for want of a certificate.
-/

namespace BleWsCentral.Server

open BleWsCentral.Found
open BleWsCentral.Mqtt (Url Ssl ConnectOptions OptionsError)

/-! ## The environment -/

/-- `PathBuf`, by its components. -/
abbrev Path := List String

/-- The files that there are, with their bytes. -/
abbrev Files := Path → Option ByteArray

/-- `IpAddr`. -/
inductive IpAddr
  | v4 (bits : BitVec 32)
  | v6 (bits : BitVec 128)
deriving DecidableEq

/-- `default_host`, which is `Ipv4Addr::LOCALHOST`. -/
def defaultHost : IpAddr := .v4 0x7f000001

/-- `default_port`. -/
def defaultPort : UInt16 := 5841

/-- `EnvConfig`, with its defaults. -/
structure EnvConfig where
  mqttServerUrl : Option Url := none
  mqttCertFile : Option Path := none
  enableMesh : Bool := true
  host : IpAddr := defaultHost
  port : UInt16 := defaultPort
  dataDir : Path
  demo : Option {n : UInt8 // n ≠ 0} := none
  token : Option String := none
deriving DecidableEq

/-- `Config`. -/
structure Config where
  mqttOptions : Option ConnectOptions
  enableMesh : Bool
  host : IpAddr
  port : UInt16
  dbPath : Path
  demo : Option {n : UInt8 // n ≠ 0}
  token : String
deriving DecidableEq

/-- `data_dir.join("token")`. -/
def EnvConfig.tokenPath (self : EnvConfig) : Path := self.dataDir ++ ["token"]

/-- What `from_env` ends with otherwise. -/
inductive ConfigError
  /-- "Need a cert file for mqtts url but environment variable MQTT_CERT_FILE was not set" -/
  | needCertFile
  /-- "Could not read cert pem from …" -/
  | readCert (path : Path)
  /-- What `ConnectOptions::new` ends with. -/
  | options (e : OptionsError)
  /-- "Token in … is empty, refusing to proceed" -/
  | emptyToken (path : Path)
  /-- "Could not open token file …" -/
  | openToken (path : Path)
  /-- "Could not write token file …" -/
  | writeToken (path : Path)
  /-- "Could not read token in …" -/
  | readToken (path : Path)
  /-- "Corrupted token file …" -/
  | corruptedToken (path : Path)
deriving DecidableEq

/-- What `tonic` accepts as a metadata value, which every text of visible characters is, and `webpki` as the name
of a server. -/
structure Formats where
  metadataValue : String → Bool
  dnsName : String → Bool
  metadataValue_visible : ∀ s, (∀ c ∈ s.toList, 32 ≤ c.toNat ∧ c.toNat < 127) → metadataValue s = true

/-- 64 samples of `Alphanumeric`. -/
structure Generated where
  chars : List Char
  length_chars : chars.length = 64
  isAlphanum : ∀ c ∈ chars, c.isAlphanum = true

/-- How many bytes of `len` a `write` takes. -/
structure Written (len : ℕ) where
  n : ℕ
  pos : 0 < n
  le : n ≤ len

/-- What a call meets with outside. -/
structure Io where
  /-- `fs::read` of a certificate -/
  certFile : Path → Option (List UInt8)
  /-- Whether reading the token file fails, for another reason than that there is none. -/
  unreadable : Bool
  /-- Whether the token file can be created, in a directory whose creation may have failed. -/
  opens : Bool
  generated : Generated
  /-- How much of the token is written, unless that fails. -/
  written : Option (Written 64)

/-- The new token. -/
def Io.newToken (self : Io) : String := String.ofList self.generated.chars

/-- One call of `from_env`. -/
structure Call where
  env : EnvConfig
  io : Io

/-! ## `from_env` -/

/-- The certificate, if the scheme needs one. -/
def Call.ssl (call : Call) (url : Url) : Except ConfigError Ssl :=
  if url.scheme = "mqtts" then
    match call.env.mqttCertFile with
    | none => .error .needCertFile
    | some certPath =>
        match call.io.certFile certPath with
        | none => .error (.readCert certPath)
        | some pem => .ok (.withCert pem)
  else .ok .none

/-- The options for the broker, if there is one. -/
def Call.mqttOptions (F : Formats) (call : Call) : Except ConfigError (Option ConnectOptions) :=
  match call.env.mqttServerUrl with
  | none => .ok none
  | some url => do
      let ssl ← call.ssl url
      match ConnectOptions.new F.dnsName url ssl with
      | .ok options => .ok (some options)
      | .error e => .error (.options e)

/-- The result of `read_to_string`, with the errors that are told apart. -/
inductive ReadToString
  | ok (text : String)
  | notFound
  | failed
deriving DecidableEq

/-- `read_to_string` of the token file. -/
def Call.readToString (call : Call) (files : Files) : ReadToString :=
  if call.io.unreadable then .failed
  else
    match files call.env.tokenPath with
    | none => .notFound
    | some bytes =>
        match String.fromUTF8? bytes with
        | some text => .ok text
        | none => .failed

/-- The branch without a token file: a new token is made up, and written to a new file. -/
def Call.createToken (call : Call) (files : Files) : Except ConfigError String × Files :=
  let tokenPath := call.env.tokenPath
  let token := call.io.newToken
  if call.io.opens then
    match call.io.written with
    | some written => (.ok token, Function.update files tokenPath (some (token.toUTF8.extract 0 written.n)))
    | none => (.error (.writeToken tokenPath), Function.update files tokenPath (some ByteArray.empty))
  else (.error (.openToken tokenPath), files)

/-- The token: that of the environment, that of the file, or a new one. -/
def Call.token (call : Call) (files : Files) : Except ConfigError String × Files :=
  let tokenPath := call.env.tokenPath
  match call.env.token with
  | some token => (.ok token, files)
  | none =>
      match call.readToString files with
      | .ok token =>
          let token := trim token
          if token = "" then (.error (.emptyToken tokenPath), files) else (.ok token, files)
      | .notFound => call.createToken files
      | .failed => (.error (.readToken tokenPath), files)

/-- The configuration with a token. -/
def Call.config (F : Formats) (call : Call) (mqttOptions : Option ConnectOptions) (token : String) :
    Except ConfigError Config :=
  if F.metadataValue token then
    .ok {
      mqttOptions
      enableMesh := call.env.enableMesh
      host := call.env.host
      port := call.env.port
      dbPath := call.env.dataDir ++ ["ble-ws-central.mdb"]
      demo := call.env.demo
      token }
  else .error (.corruptedToken call.env.tokenPath)

/-- `Config::from_env`, and the files after it. -/
def Config.fromEnv (F : Formats) (files : Files) (call : Call) : Except ConfigError Config × Files :=
  match call.mqttOptions F with
  | .error e => (.error e, files)
  | .ok options =>
      match call.token files with
      | (.error e, files) => (.error e, files)
      | (.ok token, files) => (call.config F options token, files)

namespace Call

variable {F : Formats} {call : Call} {files files' : Files} {url : Url} {cert : Ssl}

/-- There is a certificate for the scheme `mqtts`. -/
theorem ssl_ne_none (hscheme : url.scheme = "mqtts") (h : call.ssl url = .ok cert) : cert ≠ .none := by
  rintro rfl
  rw [ssl, if_pos hscheme] at h
  split at h
  · cases h
  · split at h <;> cases h

/-- The certificate is not what `ConnectOptions::new` fails for. -/
theorem ssl_ne_options {e : OptionsError} : call.ssl url ≠ .error (.options e) := by
  intro h
  unfold ssl at h
  split at h
  · split at h
    · cases h
    · split at h <;> cases h
  · cases h

/-- The panic of `ConnectOptions::new` without a certificate is never reached. -/
theorem mqttOptions_ne_noCert : call.mqttOptions F ≠ .error (.options .noCert) := by
  intro hfail
  unfold mqttOptions at hfail
  split at hfail
  · cases hfail
  · rcases bind_eq_error.mp hfail with hssl | ⟨cert, hssl, hfail⟩
    · exact ssl_ne_options hssl
    · split at hfail
      · cases hfail
      · rename_i e hnew
        obtain rfl : e = .noCert := by simpa using hfail
        exact Mqtt.ConnectOptions.new_ne_noCert (fun hscheme => ssl_ne_none hscheme hssl) hnew

end Call

end BleWsCentral.Server
