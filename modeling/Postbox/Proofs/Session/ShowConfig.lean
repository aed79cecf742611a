import Postbox.Proofs.Config.Resolved
import Postbox.Session

namespace Postbox.Session

/-!
# Printing the configuration

The command that prints the configuration never fails once the configuration is resolved, and it
says nothing but what it was told: what it prints, given back to it as its file, is printed again.

* `Prints` — a session that ends well with a printed text, without any request.
* `run_eq` — a run of arguments that can be read, up to its log.
* `showConfig_fixpoint` — a resolved configuration is printed, and what is printed resolves to the
  same configuration.
-/

/-- The session ends well, prints this text and no fault, and sends no request. -/
structure Prints (session : Session) (text : String) : Prop where
  exitCode : session.exitCode = 0
  output : session.output = text
  fault : session.fault = none
  requests : session.requests = []

/-- The filter of a run takes lines out of its log, and that is all. -/
theorem run_eq {s : Surroundings} {args : List String} {line : CommandLine}
    (h : CommandLine.parse args = .ok line) :
    run s args = (ofCommandLine s line).map
      (filtered (LogFilter.choose (s.environment LogFilter.variableName) line.logLevel)) := by
  rw [run, h]

/-- What is printed does not depend on what is left of the log. -/
theorem Prints.filtered {session : Session} {text : String} (h : session.Prints text)
    (filter : LogFilter) : (session.filtered filter).Prints text :=
  ⟨h.exitCode, h.output, h.fault, h.requests⟩

/-- A configuration that can be written is printed. -/
theorem prints_showConfig {c : Config} (hc : c.Writable) :
    (showConfig c).Prints (Config.toText.lines c) := by
  rw [showConfig, Config.toText_of_writable hc]
  exact ⟨rfl, rfl, rfl, rfl⟩

/-- A run that resolves to printing a configuration prints it, if it can be written. -/
theorem run_of_resolve {s : Surroundings} {args : List String} {line : CommandLine} {c : Config}
    (hargs : CommandLine.parse args = .ok line)
    (h : Layers.resolve s.files s.environment line = .ok (c, .showConfig)) (hc : c.Writable) :
    ∃ session, run s args = some session ∧ session.Prints (Config.toText.lines c) := by
  rw [run_eq hargs, ofCommandLine, h]
  exact ⟨_, rfl, (prints_showConfig hc).filtered _⟩

/-- **The printed configuration is a fixed point.**  Once the configuration is resolved it can be
    written, and the run prints it and ends well without any request.  Any run of the same command
    in the same environment whose file holds what was printed resolves to that configuration again
    and prints the same text, whatever else surrounds it. -/
theorem showConfig_fixpoint {s : Surroundings} {args : List String} {line : CommandLine}
    {c : Config} {mode : Mode} (hargs : CommandLine.parse args = .ok line)
    (hline : line.command = .config)
    (h : Layers.resolve s.files s.environment line = .ok (c, mode)) :
    ∃ text, c.toText = .ok text
      ∧ (∃ session, run s args = some session ∧ session.Prints text)
      ∧ ∀ (s' : Surroundings) (args' : List String) (line' : CommandLine) (path : String),
        s'.environment = s.environment → CommandLine.parse args' = .ok line' →
        line'.command = .config → line'.configPath = some path →
        s'.files path = .ok (Text.Utf8.encode text.toList) →
        Layers.resolve s'.files s'.environment line' = .ok (c, .showConfig)
          ∧ ∃ session, run s' args' = some session ∧ session.Prints text := by
  have hc : c.Writable := Layers.writable_of_resolve hline h
  have hmode : mode = .showConfig := by
    obtain ⟨b, -, -, hm⟩ := Layers.exists_base_of_resolve hline h
    exact hm
  refine ⟨Config.toText.lines c, Config.toText_of_writable hc, ?_, ?_⟩
  · exact run_of_resolve hargs (hmode ▸ h) hc
  · intro s' args' line' path henv hargs' hline' hpath hfile
    have hagain : Layers.resolve s'.files s'.environment line' = .ok (c, .showConfig) := by
      rw [henv]
      exact Layers.resolve_printed hline h hline' hpath hfile
    exact ⟨hagain, run_of_resolve hargs' hagain hc⟩

/-- An environment that sets the endpoint to a text with quotes and a line end. -/
def quotedEnvironment : Config.Environment := fun name =>
  if name = Config.endpointVariable then some "\"\"\"\r\n'''" else none

/-- Nothing is configured but such an endpoint. -/
theorem showConfig_fixpoint_quoted :
    ∃ (text : String) (session session' : Session),
      run ⟨quotedEnvironment, fun _ => .error .missing, .unreachable⟩ ["config"] = some session
        ∧ session.Prints text
        ∧ run ⟨quotedEnvironment, fun _ => .ok (Text.Utf8.encode text.toList), .unreachable⟩
            ["config", "--config", "printed.toml"] = some session'
        ∧ session'.Prints text := by
  have hargs : CommandLine.parse ["config"] = .ok ⟨"info", none, .config⟩ := by decide +kernel
  have hargs' : CommandLine.parse ["config", "--config", "printed.toml"]
      = .ok ⟨"info", some "printed.toml", .config⟩ := by decide +kernel
  obtain ⟨text, -, ⟨session, hrun, hprints⟩, hagain⟩ :=
    showConfig_fixpoint (s := ⟨quotedEnvironment, fun _ => .error .missing, .unreachable⟩) hargs rfl
      rfl
  obtain ⟨-, session', hrun', hprints'⟩ :=
    hagain ⟨quotedEnvironment, fun _ => .ok (Text.Utf8.encode text.toList), .unreachable⟩ _ _ _ rfl
      hargs' rfl rfl rfl
  exact ⟨text, session, session', hrun, hprints, hrun', hprints'⟩

end Postbox.Session
