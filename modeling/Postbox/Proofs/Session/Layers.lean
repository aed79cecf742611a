import Postbox.Proofs.Config.Resolved
import Postbox.Proofs.Session.Entries

namespace Postbox

/-!
# The layers of a configuration

Over what holds when nothing is configured lie a file, the environment, and the options of a
submission.  Each value of a configuration is that of the topmost layer that sets it.  The layers
differ in what they can set, and in what counts as set: an option may set an empty text and a file
as well, the environment may not, and an option can turn the proxies of the system off but not on.

* `Layer` — what a layer sets, with `Layer.ofCommand`, `Layer.OfVariables` and `Layer.OfFile` for
  the three layers.
* `Config.MadeOf` — the configuration that layers make.
* `Config.MadeOf.under_environment`, `Config.MadeOf.under_options` — one more layer.
* `Layers.Rejects` — the ways in which a file leads to no configuration.
* `Layers.resolve_layers` — what a command line is resolved to, and when it is not.
-/

/-! ### Layers -/

/-- What a layer sets of a configuration. -/
structure Layer where
  endpoint : Option String := none
  proxy : Option String := none
  useSystemProxy : Option Bool := none
  timeoutMs : Option Nat := none
  userAgent : Option String := none

namespace Layer

/-- The layer of a command: the options of a submission, whatever texts they are. -/
def ofCommand : Command → Layer
  | .config => {}
  | .submit o =>
    { endpoint := o.endpoint
      proxy := o.proxy
      useSystemProxy := if o.noSystemProxy then some false else none
      timeoutMs := o.timeoutMs.map UInt64.toNat }

/-- What variables are set to, if they are: any bytes. -/
abbrev Variables := String → Option (List UInt8)

/-- The variable is set to the bytes of a text, and the text is not empty. -/
def Sets (vars : Variables) (name value : String) : Prop :=
  value ≠ "" ∧ vars name = some (Text.Utf8.encode value.toList)

/-- The layer of the environment. -/
structure OfVariables (vars : Variables) (layer : Layer) : Prop where
  endpoint : ∀ value, layer.endpoint = some value ↔ Sets vars "FEEDBACK_ENDPOINT" value
  proxy : ∀ value, layer.proxy = some value ↔ Sets vars "FEEDBACK_PROXY" value
  useSystemProxy : layer.useSystemProxy = none
  timeoutMs : layer.timeoutMs = none
  userAgent : layer.userAgent = none

/-- The layer of the keys of a document. -/
def ofKeys (keys : Toml.TopKeys) : Layer :=
  { endpoint := keys.text? "endpoint"
    proxy := keys.text? "proxy"
    useSystemProxy := keys.truth? "use_system_proxy"
    timeoutMs := keys.count? "timeout_ms"
    userAgent := keys.text? "user_agent" }

/-- The layer of the file that is named, if there is one: it holds the bytes of a document whose
    keys fit. -/
inductive OfFile (files : Config.Files) : Option String → Layer → Prop
  | unnamed : OfFile files none {}
  | named {path text : String} {es : Toml.Entries}
      (hcontent : files path = .ok (Text.Utf8.encode text.toList))
      (hread : Toml.read? text.toList = some es) (hfits : Config.Fits (Toml.topKeys text.toList)) :
      OfFile files (some path) (ofKeys (Toml.topKeys text.toList))

end Layer

/-- The configuration is made of these layers, the topmost first: each value is that of the first
    layer that sets it, and what holds when nothing is configured if none does. -/
structure Config.MadeOf (layers : List Layer) (c : Config) : Prop where
  endpoint : c.endpoint = (layers.findSome? Layer.endpoint).getD "http://localhost/feedback/report"
  proxy : c.proxy = layers.findSome? Layer.proxy
  useSystemProxy : c.useSystemProxy = (layers.findSome? Layer.useSystemProxy).getD true
  timeoutMs : c.timeoutMs.map UInt64.toNat = layers.findSome? Layer.timeoutMs
  userAgent : c.userAgent = (layers.findSome? Layer.userAgent).getD "anonymous-feedback/0.1.0"

/-! ### The environment -/

namespace Layers

/-- The texts among what variables are set to. -/
def texts (vars : Layer.Variables) : Config.Environment := fun name =>
  (vars name).bind fun bytes => (Text.Utf8.decode? bytes).map String.ofList

variable {vars : Layer.Variables}

/-- A variable with a text holds the bytes of this text. -/
theorem texts_eq_some_iff {name value : String} :
    texts vars name = some value
      ↔ vars name = some (Text.Utf8.encode value.toList) := by
  rw [texts, Option.bind_eq_some_iff]
  constructor
  · rintro ⟨bytes, hbytes, hvalue⟩
    obtain ⟨cs, hcs, rfl⟩ := Option.map_eq_some_iff.mp hvalue
    rw [hbytes, String.toList_ofList, Text.Utf8.decode?_eq_some_iff.mp hcs]
  · intro hbytes
    refine ⟨_, hbytes, ?_⟩
    rw [Text.Utf8.decode?_encode, Option.map_some, String.ofList_toList]

/-- What the environment sets are the texts that are not empty. -/
theorem setting?_texts_iff {name value : String} :
    Config.setting? (texts vars) name = some value ↔ Layer.Sets vars name value := by
  have hnonempty : (!value.isEmpty) = true ↔ value ≠ "" := by simp
  rw [Config.setting?, Option.filter_eq_some_iff, texts_eq_some_iff, hnonempty, and_comm,
    Layer.Sets]

/-- Any variables make a layer. -/
theorem exists_ofVariables (vars : Layer.Variables) :
    ∃ environment, Layer.OfVariables vars environment := by
  refine ⟨{ endpoint := Config.setting? (texts vars) Config.endpointVariable
            proxy := Config.setting? (texts vars) Config.proxyVariable }, ?_⟩
  exact ⟨fun _ => setting?_texts_iff, fun _ => setting?_texts_iff, rfl, rfl, rfl⟩

end Layers

/-! ### One layer over others -/

namespace Config

variable {layers : List Layer} {layer : Layer} {c : Config}

/-- A layer that sets a value hides what lies below, and otherwise lets it through. -/
theorem findSome?_layer {α : Type} (get : Layer → Option α) :
    (layer :: layers).findSome? get = (get layer).or (layers.findSome? get) := by
  rw [List.findSome?_cons]
  cases get layer <;> rfl

/-- Without layers there is the default. -/
theorem madeOf_default : MadeOf [] Config.default := ⟨rfl, rfl, rfl, rfl, rfl⟩

/-- A layer that sets nothing makes no difference. -/
theorem MadeOf.under_nothing (h : MadeOf layers c) : MadeOf ({} :: layers) c :=
  ⟨h.endpoint, h.proxy, h.useSystemProxy, h.timeoutMs, h.userAgent⟩

/-- What a file sets is one layer. -/
theorem Takes.madeOf {keys : Toml.TopKeys} (h : Takes keys c) : MadeOf [Layer.ofKeys keys] c := by
  have hset {α : Type} (get : Layer → Option α) :
      [Layer.ofKeys keys].findSome? get = get (Layer.ofKeys keys) := by
    rw [findSome?_layer, List.findSome?_nil, Option.or_none]
  exact ⟨by rw [hset]; exact h.endpoint, by rw [hset]; exact h.proxy,
    by rw [hset]; exact h.useSystemProxy, by rw [hset]; exact h.timeoutMs,
    by rw [hset]; exact h.userAgent⟩

/-- **The environment lies over the layers below** with its texts. -/
theorem MadeOf.under_environment {vars : Layer.Variables}
    (hlayer : Layer.OfVariables vars layer) (h : MadeOf layers c) :
    MadeOf (layer :: layers) (c.applyEnvironment (Layers.texts vars)) := by
  have hendpoint : setting? (Layers.texts vars) endpointVariable = layer.endpoint :=
    Option.ext fun value => Layers.setting?_texts_iff.trans (hlayer.endpoint value).symm
  have hproxy : setting? (Layers.texts vars) proxyVariable = layer.proxy :=
    Option.ext fun value => Layers.setting?_texts_iff.trans (hlayer.proxy value).symm
  refine ⟨?_, ?_, ?_, ?_, ?_⟩
  · rw [findSome?_layer, Option.getD_or, ← h.endpoint, ← hendpoint]
    rfl
  · rw [findSome?_layer, ← h.proxy, ← hproxy, Option.or_eq_orElse]
    rfl
  · rw [findSome?_layer, hlayer.useSystemProxy]
    exact h.useSystemProxy
  · rw [findSome?_layer, hlayer.timeoutMs]
    exact h.timeoutMs
  · rw [findSome?_layer, hlayer.userAgent]
    exact h.userAgent

/-- **The options of a submission lie over the layers below**, whatever texts they are. -/
theorem MadeOf.under_options (o : SubmitOptions) (h : MadeOf layers c) :
    MadeOf (.ofCommand (.submit o) :: layers) (Layers.override c o) := by
  refine ⟨?_, ?_, ?_, ?_, ?_⟩
  · rw [findSome?_layer, Option.getD_or, ← h.endpoint]
    rfl
  · rw [findSome?_layer, ← h.proxy, Option.or_eq_orElse]
    rfl
  · rw [findSome?_layer, Option.getD_or, ← h.useSystemProxy]
    show (!o.noSystemProxy && c.useSystemProxy)
      = (if o.noSystemProxy then some false else none).getD c.useSystemProxy
    cases o.noSystemProxy <;> rfl
  · rw [findSome?_layer, ← h.timeoutMs]
    show (o.timeoutMs <|> c.timeoutMs).map UInt64.toNat
      = (o.timeoutMs.map UInt64.toNat).or (c.timeoutMs.map UInt64.toNat)
    rw [← Option.map_or, Option.or_eq_orElse]
    rfl
  · exact h.userAgent

end Config

/-! ### The file -/

namespace Layers

/-- A file that is named leads to no configuration: it cannot be read, it holds no text, the text is
    no document, or the document sets a key to something of another type than expected. -/
inductive Rejects (files : Config.Files) : Option String → ConfigFault → Prop
  | unreadable {path : String} {fault : FileFault} (hcontent : files path = .error fault) :
      Rejects files (some path) (.unreadable path fault)
  | notText {path : String} {bytes : List UInt8} (hcontent : files path = .ok bytes)
      (hbytes : ∀ text : String, bytes ≠ Text.Utf8.encode text.toList) :
      Rejects files (some path) (.unreadable path .notUtf8)
  | notDocument {path text : String}
      (hcontent : files path = .ok (Text.Utf8.encode text.toList))
      (hread : Toml.read? text.toList = none) : Rejects files (some path) .notToml
  | mismatch {path text : String} {es : Toml.Entries}
      (hcontent : files path = .ok (Text.Utf8.encode text.toList))
      (hread : Toml.read? text.toList = some es)
      (hfits : ¬Config.Fits (Toml.topKeys text.toList))
      (place : Toml.Place) (found : String) (expected : Expected) :
      Rejects files (some path) (.mismatch place found expected)

section

variable {files : Config.Files} {path : Option String} {c : Config} {fault : ConfigFault}

/-- Bytes are those of a text, or of none. -/
theorem encoded_or_not (bytes : List UInt8) :
    (∃ text : String, bytes = Text.Utf8.encode text.toList)
      ∨ Text.Utf8.decode? bytes = none
        ∧ ∀ text : String, bytes ≠ Text.Utf8.encode text.toList := by
  cases hd : Text.Utf8.decode? bytes with
  | some cs =>
    refine .inl ⟨String.ofList cs, ?_⟩
    rw [String.toList_ofList, Text.Utf8.decode?_eq_some_iff.mp hd]
  | none =>
    refine .inr ⟨rfl, fun text htext => ?_⟩
    rw [htext, Text.Utf8.decode?_encode] at hd
    cases hd

/-- A text is no document, or its keys fit and make a configuration, or one of them does not fit and
    that is the fault. -/
theorem ofText_cases (text : String) :
    (Toml.read? text.toList = none ∧ Config.ofText text = .error .notToml)
      ∨ ∃ es, Toml.read? text.toList = some es
        ∧ ((∃ c, Config.Fits (Toml.topKeys text.toList) ∧ Config.ofText text = .ok c
            ∧ Config.Takes (Toml.topKeys text.toList) c)
          ∨ ∃ place found expected, ¬Config.Fits (Toml.topKeys text.toList)
            ∧ Config.ofText text = .error (.mismatch place found expected)) := by
  -- A text that can be read has fitting keys, or a place where another kind was found.
  cases hread : Toml.read? text.toList with
  | none => exact .inl ⟨rfl, Config.ofText_of_not_read hread⟩
  | some es =>
    refine .inr ⟨es, rfl, ?_⟩
    have hfits := Config.exists_ofText_iff hread
    cases hc : Config.ofText text with
    | ok c => exact .inl ⟨c, hfits.mp ⟨c, hc⟩, rfl, Config.takes_of_ofText hread hc⟩
    | error fault =>
      have hnot : ¬Config.Fits (Toml.topKeys text.toList) := by
        intro h
        obtain ⟨c, hok⟩ := hfits.mpr h
        rw [hc] at hok
        cases hok
      simp only [Config.ofText, hread] at hc
      split at hc
      · cases hc
      · next found expected _ =>
        cases hc
        exact .inr ⟨_, found, expected, hnot, rfl⟩

/-- **A file gives its layer or is rejected**, and so is what lies at the bottom. -/
theorem base_cases (files : Config.Files) (path : Option String) :
    (∃ file c, Layer.OfFile files path file ∧ base files path = .ok c ∧ c.MadeOf [file])
      ∨ ∃ fault, Rejects files path fault ∧ base files path = .error fault := by
  cases path with
  | none => exact .inl ⟨{}, Config.default, .unnamed, rfl, Config.madeOf_default.under_nothing⟩
  | some path =>
    rw [base]
    cases hcontent : files path with
    | error e => exact .inr ⟨_, .unreadable hcontent, by rw [Config.ofFile, hcontent]⟩
    | ok bytes =>
      rcases encoded_or_not bytes with ⟨text, rfl⟩ | ⟨hdecode, hbytes⟩
      · rw [Config.ofFile_of_encode hcontent]
        rcases ofText_cases text with
          ⟨hread, hc⟩ | ⟨es, hread, ⟨c, hfits, hc, htakes⟩ | ⟨place, found, expected, hfits, hc⟩⟩
        · exact .inr ⟨_, .notDocument hcontent hread, hc⟩
        · exact .inl ⟨_, c, .named hcontent hread hfits, hc, htakes.madeOf⟩
        · exact .inr ⟨_, .mismatch hcontent hread hfits place found expected, hc⟩
      · refine .inr ⟨_, .notText hcontent hbytes, ?_⟩
        simp only [Config.ofFile, hcontent, hdecode]

/-- No file does both. -/
theorem Rejects.not_ofFile (h : Rejects files path fault) (layer : Layer) :
    ¬Layer.OfFile files path layer := by
  intro hlayer
  cases hlayer with
  | unnamed => cases h
  | @named path text es hcontent hread hfits =>
    -- The text of the file is the same, whichever way one looks at it.
    have hsame {other : String} (h : files path = .ok (Text.Utf8.encode other.toList)) :
        other = text := by
      have hbytes := Except.ok.inj (h.symm.trans hcontent)
      have hdecode := congrArg Text.Utf8.decode? hbytes
      rw [Text.Utf8.decode?_encode, Text.Utf8.decode?_encode] at hdecode
      exact String.toList_inj.mp (Option.some.inj hdecode)
    cases h with
    | unreadable herror => cases herror.symm.trans hcontent
    | notText hother hbytes => exact hbytes text (Except.ok.inj (hother.symm.trans hcontent))
    | notDocument hother hnone =>
      rw [hsame hother, hread] at hnone
      cases hnone
    | mismatch hother _ hmis =>
      rw [hsame hother] at hmis
      exact hmis hfits

/-- A file that is rejected is so for the fault that is found in it. -/
theorem Rejects.base (h : Rejects files path fault) :
    ∃ found, Rejects files path found ∧ Layers.base files path = .error found := by
  rcases base_cases files path with ⟨layer, _, hlayer, -⟩ | hfound
  · exact absurd hlayer (h.not_ofFile layer)
  · exact hfound

end

/-! ### The command line -/

section

variable {files : Config.Files} {env : Config.Environment} {line : CommandLine} {c : Config}

/-- A command is resolved over its file unless it is a submission with an entry that is none. -/
theorem resolves_of_base (h : base files line.configPath = .ok c) :
    (∃ r, resolve files env line = .ok r)
      ↔ ¬∃ o, line.command = .submit o ∧ ∃ e ∈ o.fields, ¬IsEntry e := by
  obtain ⟨level, path, command⟩ := line
  cases command with
  | config =>
    rw [resolve_config rfl, h]
    exact ⟨fun _ ⟨_, hsubmit, _⟩ => (by cases hsubmit), fun _ => ⟨_, rfl⟩⟩
  | submit o =>
    rw [resolves_iff]
    constructor
    · rintro ⟨-, hall⟩ ⟨_, hsubmit, e, he, hnot⟩
      cases hsubmit
      exact hnot (hall e he)
    · intro hnone
      refine ⟨⟨c, h⟩, fun e he => ?_⟩
      by_contra hnot
      exact hnone ⟨o, rfl, e, he, hnot⟩

/-- **There is no configuration exactly if the file is rejected or an entry is none.** -/
theorem exists_error_iff :
    (∃ fault, resolve files env line = .error fault)
      ↔ (∃ fault, Rejects files line.configPath fault)
        ∨ ∃ o, line.command = .submit o ∧ ∃ e ∈ o.fields, ¬IsEntry e := by
  rcases base_cases files line.configPath with ⟨file, b, hfile, hb, -⟩ | ⟨fault, hreject, hbase⟩
  · -- The file is taken, so that it is up to the entries.
    have hresolves : (∃ r, resolve files env line = .ok r)
        ↔ ¬∃ o, line.command = .submit o ∧ ∃ e ∈ o.fields, ¬IsEntry e := resolves_of_base hb
    constructor
    · rintro ⟨fault, hfault⟩
      refine .inr (not_not.mp fun hentries => ?_)
      obtain ⟨r, hr⟩ := hresolves.mpr hentries
      rw [hfault] at hr
      cases hr
    · rintro (⟨fault, hreject⟩ | hentries)
      · exact absurd hfile (hreject.not_ofFile file)
      · cases hr : resolve files env line with
        | error fault => exact ⟨fault, rfl⟩
        | ok r => exact absurd hentries (hresolves.mp ⟨r, hr⟩)
  · exact ⟨fun _ => .inl ⟨fault, hreject⟩, fun _ => ⟨fault, resolve_of_base_error line hbase⟩⟩

/-- **What a command is resolved to** lies over its file: the environment, and then its options. -/
theorem madeOf_resolve {vars : Layer.Variables} {environment file : Layer} {b : Config}
    {mode : Mode} (henvironment : Layer.OfVariables vars environment)
    (hb : base files line.configPath = .ok b) (hfile : b.MadeOf [file])
    (h : resolve files (texts vars) line = .ok (c, mode)) :
    c.MadeOf [.ofCommand line.command, environment, file] := by
  have hunder := hfile.under_environment henvironment
  obtain ⟨level, path, command⟩ := line
  cases command with
  | config =>
    rw [resolve_config rfl, hb] at h
    cases h
    exact hunder.under_nothing
  | submit o =>
    simp only [resolve, hb] at h
    split at h
    · cases h
    · cases h
      exact hunder.under_options o

/-- **Each value of a configuration is that of the topmost layer that sets it**: the options of a
    submission, the environment, the file, and what holds when nothing is configured.  The command
    that prints the configuration has no options.

    There is no configuration exactly if a file is named and rejected, or if a submission has an
    entry that is none, and then it is always a failure of the configuration.  A file that is
    rejected is reported, and with the same fault whatever the environment, the command and its
    options and fields are. -/
theorem resolve_layers (files : Config.Files) (vars : Layer.Variables) (line : CommandLine) :
    (∀ c mode, resolve files (texts vars) line = .ok (c, mode) →
        ∃ environment file, Layer.OfVariables vars environment
          ∧ Layer.OfFile files line.configPath file
          ∧ c.MadeOf [.ofCommand line.command, environment, file])
      ∧ ((∃ fault, resolve files (texts vars) line = .error fault)
        ↔ (∃ fault, Rejects files line.configPath fault)
          ∨ ∃ o, line.command = .submit o ∧ ∃ e ∈ o.fields, ¬IsEntry e)
      ∧ (∀ fault, resolve files (texts vars) line = .error fault →
        ∃ message, fault.failure = .config message)
      ∧ ((∃ fault, Rejects files line.configPath fault) →
        ∃ fault, Rejects files line.configPath fault
          ∧ ∀ (level : String) (others : Layer.Variables) (command : Command),
            resolve files (texts others) ⟨level, line.configPath, command⟩ = .error fault) := by
  obtain ⟨environment, henvironment⟩ := exists_ofVariables vars
  refine ⟨fun c mode h => ?_, exists_error_iff, fun fault _ => ⟨fault.message, rfl⟩, ?_⟩
  · rcases base_cases files line.configPath with ⟨file, b, hfile, hb, hmade⟩ | ⟨fault, -, hbase⟩
    · exact ⟨environment, file, henvironment, hfile, madeOf_resolve henvironment hb hmade h⟩
    · rw [resolve_of_base_error line hbase] at h
      cases h
  · rintro ⟨fault, hreject⟩
    obtain ⟨found, hfound, hbase⟩ := hreject.base
    exact ⟨found, hfound, fun level others command =>
      resolve_of_base_error ⟨level, line.configPath, command⟩ hbase⟩

end

/-- An empty option counts, and an empty variable does not. -/
example :
    (resolve (fun _ => .error .missing)
        (texts fun name => if name = "FEEDBACK_ENDPOINT" then some [0x75] else some [])
        ⟨"info", none, .submit { endpoint := some "" }⟩).toOption.map Prod.fst
      = some { Config.default with endpoint := "" } := by
  decide

end Layers

end Postbox
