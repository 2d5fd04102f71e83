import BleWsCentral.Found.Turns
import BleWsCentral.Server.Config

/-!
# The access token over restarts

What `Config::from_env` makes of the token, over any sequence of calls.

* `Config.exists_ok_env_iff`, `Config.exists_ok_iff` — when a call returns, with `TOKEN` and without it, and
  with which token, in terms of what is there before it.
* `Config.fromEnv_keeps` — a file that is there stays as it is.
* `tokensKept_iff` — the token is never blank, and the same for every later call in a directory, if and only if
  no blank `TOKEN` is accepted and the later calls can read the file, with a token that was written as a whole.
-/

namespace BleWsCentral.Server

open BleWsCentral.Found
open BleWsCentral.Mqtt (ConnectOptions)

variable {F : Formats} {files : Files} {call : Call} {options : Option ConnectOptions} {text t : String}
  {bytes : ByteArray} {written : Written 64} {n : ℕ}

/-! ## New tokens -/

namespace Generated

variable (g : Generated)

/-- The first characters of the token, which is all that is there after a write of as many bytes. -/
def prefixed (n : ℕ) : String := String.ofList (g.chars.take n)

theorem toNat_prefixed {c : Char} (h : c ∈ (g.prefixed n).toList) : 48 ≤ c.toNat ∧ c.toNat ≤ 122 := by
  rw [prefixed, String.toList_ofList] at h
  exact toNat_of_isAlphanum (g.isAlphanum c (List.mem_of_mem_take h))

/-- There is nothing to trim. -/
theorem trim_prefixed : trim (g.prefixed n) = g.prefixed n := by
  refine trim_eq_self fun c hc => ?_
  have hbounds := g.toNat_prefixed hc
  simp only [whiteSpace, Bool.or_eq_false_iff, Bool.and_eq_false_iff, decide_eq_false_iff_not]
  omega

/-- It is a metadata value. -/
theorem metadataValue_prefixed : F.metadataValue (g.prefixed n) = true := by
  refine F.metadataValue_visible _ fun c hc => ?_
  have hbounds := g.toNat_prefixed hc
  omega

theorem prefixed_ne_empty (h : 0 < n) : g.prefixed n ≠ "" := by
  intro hempty
  have hnil := ofList_eq_empty_iff.mp hempty
  have hlength := congrArg List.length hnil
  rw [List.length_take, g.length_chars, List.length_nil] at hlength
  omega

/-- The whole token is there if all of its bytes were taken. -/
theorem prefixed_eq_iff (h : n ≤ 64) : g.prefixed n = String.ofList g.chars ↔ n = 64 := by
  rw [prefixed, String.ofList_inj, List.take_eq_self_iff, g.length_chars]
  omega

/-- The bytes that a write has taken. -/
theorem toUTF8_extract : (String.ofList g.chars).toUTF8.extract 0 n = (g.prefixed n).toUTF8 := by
  refine toUTF8_take (fun c hc => ?_) n
  have hbounds := toNat_of_isAlphanum (g.isAlphanum c hc)
  omega

/-- The token is all of its characters. -/
theorem prefixed_all : g.prefixed 64 = String.ofList g.chars := (g.prefixed_eq_iff le_rfl).mpr rfl

end Generated

/-! ## What a call does -/

namespace Call

/-- The call gets to the token. -/
def Reaches (F : Formats) (call : Call) : Prop := ∃ options, call.mqttOptions F = .ok options

/-- Without `TOKEN`: the call returns with a token, which it finds or which is new. -/
def Accepted (F : Formats) (call : Call) (files : Files) : Prop :=
  call.Reaches F ∧
    match call.readToString files with
    | .ok text => trim text ≠ "" ∧ F.metadataValue (trim text) = true
    | .notFound => call.io.opens = true ∧ ∃ written, call.io.written = some written
    | .failed => False

/-- Without `TOKEN`: the token of the file, or the new one. -/
def foundToken (call : Call) (files : Files) : String :=
  match call.readToString files with
  | .ok text => trim text
  | _ => call.io.newToken

/-- Without `TOKEN`: all of a new token was written. -/
def Whole (call : Call) (files : Files) : Prop :=
  call.readToString files = .notFound → ∀ written, call.io.written = some written → written.n = 64

/-- A text is read if the file can be read and has its bytes. -/
theorem readToString_eq_ok_iff : call.readToString files = .ok text ↔
    call.io.unreadable = false ∧
      ∃ bytes, files call.env.tokenPath = some bytes ∧ String.fromUTF8? bytes = some text := by
  unfold readToString
  split
  · simp_all
  · split
    · simp_all
    · split <;> simp_all

/-- There is no file to be read if none is there. -/
theorem of_readToString_eq_notFound (h : call.readToString files = .notFound) :
    files call.env.tokenPath = none := by
  unfold readToString at h
  split at h
  · cases h
  · split at h
    · assumption
    · split at h <;> cases h

/-- A token without `TOKEN` is not blank. -/
theorem Accepted.trim_foundToken_ne (h : call.Accepted F files) : trim (call.foundToken files) ≠ "" := by
  unfold foundToken
  have htoken := h.2
  split <;> rename_i hread
  · rw [hread] at htoken
    rw [trim_trim]
    exact htoken.1
  · rw [Io.newToken, ← Generated.prefixed_all, Generated.trim_prefixed]
    exact Generated.prefixed_ne_empty _ (by omega)

/-- The configuration is refused if the token is no metadata value, and has the token otherwise. -/
theorem exists_config_iff {P : String → Prop} :
    (∃ config, call.config F options t = .ok config ∧ P config.token) ↔ F.metadataValue t = true ∧ P t := by
  unfold config
  split <;> simp_all

end Call

namespace Config

/-- `TOKEN` is taken as it is. -/
theorem fromEnv_env (hmqtt : call.mqttOptions F = .ok options) (htoken : call.env.token = some t) :
    fromEnv F files call = (call.config F options t, files) := by
  simp [fromEnv, Call.token, hmqtt, htoken]

/-- The file is read, and white space around the token does not count. -/
theorem fromEnv_text (hmqtt : call.mqttOptions F = .ok options) (htoken : call.env.token = none)
    (hread : call.readToString files = .ok text) (hne : trim text ≠ "") :
    fromEnv F files call = (call.config F options (trim text), files) := by
  simp [fromEnv, Call.token, hmqtt, htoken, hread, hne]

/-- A new token is returned as a whole, and written as far as the write takes it. -/
theorem fromEnv_notFound (hmqtt : call.mqttOptions F = .ok options) (htoken : call.env.token = none)
    (hread : call.readToString files = .notFound) (hopens : call.io.opens = true)
    (hwritten : call.io.written = some written) :
    fromEnv F files call = (call.config F options call.io.newToken,
      Function.update files call.env.tokenPath (some (call.io.generated.prefixed written.n).toUTF8)) := by
  rw [← Generated.toUTF8_extract]
  simp [fromEnv, Call.token, Call.createToken, Io.newToken, hmqtt, htoken, hread, hopens, hwritten]

/-- A file that is there stays as it is. -/
theorem fromEnv_keeps {path : Path} (h : files path = some bytes) : (fromEnv F files call).2 path = some bytes := by
  have hcreate : call.readToString files = .notFound → (call.createToken files).2 path = some bytes := by
    intro hread
    have hne : path ≠ call.env.tokenPath := by
      rintro rfl
      rw [Call.of_readToString_eq_notFound hread] at h
      cases h
    unfold Call.createToken
    split
    · split <;> exact (Function.update_of_ne hne _ _).trans h
    · exact h
  have htoken : (call.token files).2 path = some bytes := by
    unfold Call.token
    split
    · exact h
    · split
      · dsimp only
        split <;> exact h
      · rename_i hread
        exact hcreate hread
      · exact h
  unfold fromEnv
  split
  · exact h
  · split
    · rename_i heq
      rwa [heq] at htoken
    · rename_i heq
      rwa [heq] at htoken

/-- With `TOKEN`: the call returns if the text is a metadata value. -/
theorem exists_ok_env_iff {P : String → Prop} (htoken : call.env.token = some t) :
    (∃ config, (fromEnv F files call).1 = .ok config ∧ P config.token) ↔
      call.Reaches F ∧ F.metadataValue t = true ∧ P t := by
  cases hmqtt : call.mqttOptions F with
  | error e => simp [fromEnv, Call.Reaches, hmqtt]
  | ok options => simp [fromEnv_env hmqtt htoken, Call.exists_config_iff, Call.Reaches, hmqtt]

/-- Without `TOKEN`: the call returns with the token that is found or new, if it gets one. -/
theorem exists_ok_iff {P : String → Prop} (htoken : call.env.token = none) :
    (∃ config, (fromEnv F files call).1 = .ok config ∧ P config.token) ↔
      call.Accepted F files ∧ P (call.foundToken files) := by
  cases hmqtt : call.mqttOptions F with
  | error e => simp [fromEnv, Call.Accepted, Call.Reaches, hmqtt]
  | ok options =>
      cases hread : call.readToString files with
      | ok text =>
          by_cases hne : trim text = ""
          · simp [fromEnv, Call.token, Call.Accepted, hmqtt, htoken, hread, hne]
          · simp [fromEnv_text hmqtt htoken hread hne, Call.exists_config_iff, Call.Accepted, Call.Reaches,
              Call.foundToken, hmqtt, hread, hne]
      | notFound =>
          cases hopens : call.io.opens with
          | false => simp [fromEnv, Call.token, Call.createToken, Call.Accepted, hmqtt, htoken, hread, hopens]
          | true =>
              cases hwritten : call.io.written with
              | none =>
                  simp [fromEnv, Call.token, Call.createToken, Call.Accepted, hmqtt, htoken, hread, hopens,
                    hwritten]
              | some written =>
                  have hvalue : F.metadataValue call.io.newToken = true := by
                    rw [Io.newToken, ← Generated.prefixed_all]
                    exact Generated.metadataValue_prefixed _
                  simp [fromEnv_notFound hmqtt htoken hread hopens hwritten, Call.exists_config_iff,
                    Call.Accepted, Call.Reaches, Call.foundToken, hmqtt, hread, hopens, hwritten, hvalue]
      | failed => simp [fromEnv, Call.token, Call.Accepted, hmqtt, htoken, hread]

end Config

/-! ## The next call -/

/-- What a call that returned without `TOKEN` leaves in the file: a token, which is the one it returned if that
was written as a whole. -/
theorem Call.Accepted.stored (h : call.Accepted F files) (htoken : call.env.token = none) :
    ∃ bytes text, (Config.fromEnv F files call).2 call.env.tokenPath = some bytes ∧
      String.fromUTF8? bytes = some text ∧ trim text ≠ "" ∧ F.metadataValue (trim text) = true ∧
      (trim text = call.foundToken files ↔ call.Whole files) := by
  obtain ⟨⟨options, hmqtt⟩, haccepted⟩ := h
  cases hread : call.readToString files with
  | ok text =>
      rw [hread] at haccepted
      obtain ⟨-, bytes, hbytes, htext⟩ := Call.readToString_eq_ok_iff.mp hread
      refine ⟨bytes, text, Config.fromEnv_keeps hbytes, htext, haccepted.1, haccepted.2, ?_⟩
      simp [Call.foundToken, Call.Whole, hread]
  | notFound =>
      rw [hread] at haccepted
      obtain ⟨hopens, written, hwritten⟩ := haccepted
      have hfrom := Config.fromEnv_notFound hmqtt htoken hread hopens hwritten
      refine ⟨_, call.io.generated.prefixed written.n, ?_, fromUTF8?_toUTF8 _, ?_⟩
      · rw [hfrom]
        exact Function.update_self ..
      · rw [Generated.trim_prefixed]
        refine ⟨Generated.prefixed_ne_empty _ written.pos, Generated.metadataValue_prefixed _, ?_⟩
        have hall := call.io.generated.prefixed_eq_iff written.le
        simpa [Call.foundToken, Call.Whole, Io.newToken, hread, hwritten] using hall
  | failed =>
      rw [hread] at haccepted
      exact haccepted.elim

/-- A call that finds a token in the file gets it if it reads the file. -/
theorem Call.accepted_iff_of_stored (hbytes : files call.env.tokenPath = some bytes)
    (htext : String.fromUTF8? bytes = some text) (hne : trim text ≠ "")
    (hvalue : F.metadataValue (trim text) = true) :
    call.Accepted F files ∧ call.foundToken files = t ↔
      call.Reaches F ∧ call.io.unreadable = false ∧ trim text = t := by
  cases hread : call.io.unreadable with
  | true => simp [Call.Accepted, Call.readToString, hread]
  | false =>
      have hok : call.readToString files = .ok text :=
        Call.readToString_eq_ok_iff.mpr ⟨hread, bytes, hbytes, htext⟩
      simp [Call.Accepted, Call.foundToken, hok, hne, hvalue]

/-! ## Sequences of calls -/

/-- A call of `from_env`, with the files before it and what it returned. -/
abbrev Start := Turn Files Call (Except ConfigError Config)

/-- Two calls without `TOKEN` in one data directory. -/
def Start.Again (first second : Start) : Prop :=
  first.label.env.token = none ∧ second.label.env.token = none ∧
    second.label.env.dataDir = first.label.env.dataDir

/-- The second call returns with the token that the first one has returned. -/
def Start.Stable (first second : Start) : Prop :=
  first.Again second → ∀ config, first.result = .ok config →
    ∃ config', second.result = .ok config' ∧ config'.token = config.token

/-- If the first call gets a token, the second one gets to the file and can read it, and there is not only a part
of a token in it. -/
def Start.Safe (F : Formats) (first second : Start) : Prop :=
  first.Again second → first.label.Accepted F first.before →
    second.label.Reaches F ∧ second.label.io.unreadable = false ∧ first.label.Whole first.before

/-- The token is never blank, and every later call returns with the one that an earlier call has returned. -/
structure TokensKept (starts : List Start) : Prop where
  notBlank : ∀ start ∈ starts, ∀ config, start.result = .ok config → trim config.token ≠ ""
  stable : starts.Pairwise Start.Stable

/-- No blank `TOKEN` is accepted, and any two calls in a directory are safe. -/
structure TokensSafe (F : Formats) (starts : List Start) : Prop where
  env : ∀ start ∈ starts, start.label.Reaches F → ∀ t, start.label.env.token = some t →
    F.metadataValue t = true → trim t ≠ ""
  file : starts.Pairwise (Start.Safe F)

/-- One call returns no blank token if and only if its `TOKEN` is not blank. -/
theorem notBlank_iff (files : Files) (call : Call) :
    (∀ config, (Config.fromEnv F files call).1 = .ok config → trim config.token ≠ "") ↔
      (call.Reaches F → ∀ t, call.env.token = some t → F.metadataValue t = true → trim t ≠ "") := by
  cases htoken : call.env.token with
  | none =>
      refine iff_of_true (fun config hok => ?_) (by simp)
      have hexists := (Config.exists_ok_iff (P := (config.token = ·)) htoken).mp ⟨config, hok, rfl⟩
      rw [hexists.2]
      exact hexists.1.trim_foundToken_ne
  | some t =>
      have hexists : (∃ config, (Config.fromEnv F files call).1 = .ok config ∧ trim config.token = "") ↔
          call.Reaches F ∧ F.metadataValue t = true ∧ trim t = "" :=
        Config.exists_ok_env_iff (P := (trim · = "")) htoken
      constructor
      · intro hkept hreaches t' ht' hvalue hblank
        obtain rfl := Option.some.inj ht'
        obtain ⟨config, hok, hempty⟩ := hexists.mpr ⟨hreaches, hvalue, hblank⟩
        exact hkept config hok hempty
      · intro hsafe config hok hempty
        obtain ⟨hreaches, hvalue, hblank⟩ := hexists.mp ⟨config, hok, hempty⟩
        exact hsafe hreaches t rfl hvalue hblank

/-- Of two calls the second one returns what the first one did if and only if it reads the whole of it. -/
theorem stable_iff {files files' : Files} {call call' : Call}
    (hkept : ∀ bytes, (Config.fromEnv F files call).2 call.env.tokenPath = some bytes →
      files' call.env.tokenPath = some bytes)
    (htoken : call.env.token = none) (htoken' : call'.env.token = none)
    (hdir : call'.env.dataDir = call.env.dataDir) :
    (∀ config, (Config.fromEnv F files call).1 = .ok config →
        ∃ config', (Config.fromEnv F files' call').1 = .ok config' ∧ config'.token = config.token) ↔
      (call.Accepted F files → call'.Reaches F ∧ call'.io.unreadable = false ∧ call.Whole files) := by
  have hpath : call'.env.tokenPath = call.env.tokenPath := by rw [EnvConfig.tokenPath, hdir, EnvConfig.tokenPath]
  have hsecond : call.Accepted F files →
      ((∃ config', (Config.fromEnv F files' call').1 = .ok config' ∧ config'.token = call.foundToken files) ↔
        call'.Reaches F ∧ call'.io.unreadable = false ∧ call.Whole files) := by
    intro haccepted
    obtain ⟨bytes, text, hbytes, htext, hne, hvalue, hwhole⟩ := haccepted.stored htoken
    have hbytes' : files' call'.env.tokenPath = some bytes := by
      rw [hpath]
      exact hkept bytes hbytes
    rw [Config.exists_ok_iff (P := (· = call.foundToken files)) htoken',
      Call.accepted_iff_of_stored hbytes' htext hne hvalue, hwhole]
  constructor
  · intro hstable haccepted
    obtain ⟨config, hok, hfound⟩ :=
      (Config.exists_ok_iff (P := (· = call.foundToken files)) htoken).mpr ⟨haccepted, rfl⟩
    have hreturned := hstable config hok
    rw [hfound] at hreturned
    exact (hsecond haccepted).mp hreturned
  · intro hsafe config hok
    obtain ⟨haccepted, hfound⟩ := (Config.exists_ok_iff (P := (config.token = ·)) htoken).mp ⟨config, hok, rfl⟩
    rw [hfound]
    exact (hsecond haccepted).mpr (hsafe haccepted)

/-- Over every sequence of calls the token is never blank and the same for each later call, if and only if
nothing blank comes from the environment and nothing but whole tokens is read. -/
theorem tokensKept_iff (F : Formats) (files : Files) (calls : List Call) :
    TokensKept (turns (Config.fromEnv F) files calls) ↔ TokensSafe F (turns (Config.fromEnv F) files calls) := by
  have hblank : ∀ start ∈ turns (Config.fromEnv F) files calls,
      ((∀ config, start.result = .ok config → trim config.token ≠ "") ↔
        (start.label.Reaches F → ∀ t, start.label.env.token = some t → F.metadataValue t = true →
          trim t ≠ "")) := by
    intro start hstart
    rw [(of_mem_turns hstart).1]
    exact notBlank_iff start.before start.label
  have hpairs : (turns (Config.fromEnv F) files calls).Pairwise Start.Stable ↔
      (turns (Config.fromEnv F) files calls).Pairwise (Start.Safe F) := by
    apply pairwise_turns_iff
    intro files call files' call' l' hrun
    refine forall_congr' fun hagain => ?_
    obtain ⟨htoken, htoken', hdir⟩ := hagain
    refine stable_iff (fun bytes hbytes => ?_) htoken htoken' hdir
    -- what is in the file stays there over the calls between the two
    refine hrun.invariant (I := fun files => files call.env.tokenPath = some bytes) ?_ hbytes
    rintro files call' files' hbefore rfl
    exact Config.fromEnv_keeps hbefore
  constructor
  · intro hkept
    exact ⟨fun start hstart => (hblank start hstart).mp (hkept.notBlank start hstart), hpairs.mp hkept.stable⟩
  · intro hsafe
    exact ⟨fun start hstart => (hblank start hstart).mpr (hsafe.env start hstart), hpairs.mpr hsafe.file⟩

/-! ## Two ways to lose a token -/

/-- Texts of visible characters and tabs, and all names. -/
def visibleFormats : Formats where
  metadataValue s := s.toList.all fun c => (32 ≤ c.toNat && c.toNat < 127) || c.toNat = 9
  dnsName _ := true
  metadataValue_visible s h := by
    rw [List.all_eq_true]
    intro c hc
    simp [h c hc]

/-- A call in the directory `data`, in which `write` takes ten bytes. -/
def shortWrite (token : Option String) : Call where
  env := { dataDir := ["data"], token }
  io := {
    certFile := fun _ => none
    unreadable := false
    opens := true
    generated := ⟨List.replicate 64 'a', rfl, by simp⟩
    written := some ⟨10, by decide, by decide⟩ }

/-- An empty `TOKEN` is accepted, and after a short write the next call returns with the ten characters. -/
theorem tokens_lost :
    ¬TokensKept (turns (Config.fromEnv visibleFormats) (fun _ => none) [shortWrite (some "")]) ∧
    ¬TokensKept (turns (Config.fromEnv visibleFormats) (fun _ => none) [shortWrite none, shortWrite none]) := by
  constructor
  · intro h
    have hblank := (notBlank_iff _ _).mp (h.notBlank _ (List.mem_singleton.mpr rfl))
    exact hblank ⟨none, rfl⟩ "" rfl rfl rfl
  · intro h
    have hpair := (List.pairwise_cons.mp h.stable).1 _ (List.mem_singleton.mpr rfl) ⟨rfl, rfl, rfl⟩
    have haccepted : (shortWrite none).Accepted visibleFormats fun _ => none :=
      ⟨⟨none, rfl⟩, rfl, _, rfl⟩
    obtain ⟨-, -, hwhole⟩ := (stable_iff (fun _ hbytes => hbytes) rfl rfl rfl).mp hpair haccepted
    have hlong : 10 = 64 := hwhole rfl _ rfl
    omega

end BleWsCentral.Server
